import ShapeDomain.Proofs.Join.Alignment

/-!
# Aligning what is aligned

If two objects of one size have fields in the same ranges, no boundary is inside a field and nothing
is missing.  So aligning them changes nothing and draws nothing.
-/

namespace ShapeDomain

namespace Alignment

variable {graph left right : Graph} {object object1 object2 : ObjectId} {cuts : KeySet Nat}
variable {fields : List Field} {size : Nat}

/-- Fields that have bits and no boundary inside are left alone. -/
theorem cutFields_of_whole
    (whole : ∀ field ∈ fields, field.range.offset < field.range.stop ∧ inside cuts field.range = [])
    (here : Graph × Supply) : cutFields cuts fields here = .ok false here := by
  induction fields with
  | nil => rfl
  | cons field rest ih =>
      obtain ⟨bits, undivided⟩ := whole field List.mem_cons_self
      have done : cutField cuts field here = .ok false here := by
        unfold cutField
        rw [if_neg (Nat.not_le_of_lt bits), undivided]
        rfl
      unfold cutFields
      rw [Run.bind_apply_ok done, Run.bind_apply_ok (ih fun later member =>
        whole later (List.mem_cons_of_mem _ member))]
      rfl

/-- Where no range is missing, none is added. -/
theorem addMissing_of_present
    (present : ∀ field ∈ fields, (graph.valueAt? object field.range).isSome = true)
    (supply : Supply) :
    addMissing object fields (graph, supply) = .ok () (graph, supply) := by
  rw [addMissing_apply]
  induction fields with
  | nil => rfl
  | cons field rest ih =>
      have filled : fillMissing object (graph.isValid object) field.range (graph, supply) =
          .ok () (graph, supply) := by
        unfold fillMissing
        rw [Run.bind_apply_ok (Run.ask_apply _ _), present field List.mem_cons_self]
        rfl
      exact (Run.bind_apply_ok filled).trans
        (ih fun later member => present later (List.mem_cons_of_mem _ member))

/-- No field is divided by the bounds of fields in the same ranges. -/
theorem inside_boundaries_of_same (tiled : graph.TiledAt object size)
    (same : ∀ field ∈ fields, (graph.valueAt? object field.range).isSome = true) {range : BitRange}
    {value : ValueId} (held : graph.valueAt? object range = some value) :
    inside (boundaries fields) range = [] := by
  rw [List.eq_nil_iff_forall_not_mem]
  intro cut isInside
  obtain ⟨isCut, lower, upper⟩ :=
    (mem_inside_iff (BitRange.stop_of_fits (tiled.fits held))).1 isInside
  obtain ⟨other, among, bound⟩ := contains_boundaries_iff.1 isCut
  obtain ⟨held', there⟩ := Option.isSome_iff_exists.1 (same other among)
  rw [BitRange.stop_of_fits (tiled.fits there)] at bound
  have positive := tiled.positive there
  rcases tiled.apart held there with same | before | after
  · rw [same] at lower upper
    omega
  · omega
  · omega

variable {source2 : Object}

/-- Aligning two objects of one size with fields in the same ranges changes nothing. -/
theorem align_of_sameRanges (tiled : left.TiledAt object1 size)
    (found2 : right.object? object2 = some source2) (same_size : source2.size = size)
    (same : Join.SameRanges left right object1 object2) (supply : Supply) :
    align object1 object2 ((left, right), supply) = .ok .equal ((left, right), supply) := by
  obtain ⟨source1, found1, rfl⟩ := tiled.present
  let fields1 := left.fieldsOf object1
  let fields2 := right.fieldsOf object2
  have held1 (field : Field) (member : field ∈ fields1) :
      (left.valueAt? object1 field.range).isSome = true := by
    rw [(Graph.mem_fieldsOf_iff.1 member).2]
    rfl
  have held2 (field : Field) (member : field ∈ fields2) :
      (left.valueAt? object1 field.range).isSome = true := by
    rw [same, (Graph.mem_fieldsOf_iff.1 member).2]
    rfl
  have held (field : Field) (member : field ∈ fields1 ++ fields2) :
      (left.valueAt? object1 field.range).isSome = true :=
    (List.mem_append.1 member).elim (held1 field) (held2 field)
  have whole (field : Field) (member : field ∈ fields1 ++ fields2) :
      field.range.offset < field.range.stop ∧
        inside (boundaries (fields1 ++ fields2)) field.range = [] := by
    obtain ⟨value, there⟩ := Option.isSome_iff_exists.1 (held field member)
    have bits := tiled.positive there
    have exact := BitRange.stop_of_fits (tiled.fits there)
    exact ⟨by omega, inside_boundaries_of_same tiled held there⟩
  have cut1 : onLeft (cutFields (boundaries (fields1 ++ fields2)) fields1) ((left, right), supply) =
      .ok false ((left, right), supply) := by
    rw [onLeft, Run.within_apply, cutFields_of_whole fun field member =>
      whole field (List.mem_append_left _ member)]
  have cut2 : onRight (cutFields (boundaries (fields1 ++ fields2)) fields2)
    ((left, right), supply) =
      .ok false ((left, right), supply) := by
    rw [onRight, Run.within_apply, cutFields_of_whole fun field member =>
      whole field (List.mem_append_right _ member)]
  have missing1 : onLeft (addMissing object1 fields2) ((left, right), supply) =
      .ok () ((left, right), supply) := by
    rw [onLeft, Run.within_apply, addMissing_of_present held2]
  have missing2 : onRight (addMissing object2 fields1) ((left, right), supply) =
      .ok () ((left, right), supply) := by
    rw [onRight, Run.within_apply, addMissing_of_present fun field member =>
      (same field.range).symm.trans (held1 field member)]
  rw [align_apply found1 found2 same_size.symm, alignFields, Run.bind_apply_ok cut1,
    Run.bind_apply_ok cut2, Run.bind_apply_ok (Run.ask_apply _ _), Run.bind_apply_ok missing1,
    Run.bind_apply_ok (Run.ask_apply _ _), Run.bind_apply_ok missing2]
  rfl

/-- Aligning an object with itself changes nothing. -/
theorem align_self (tiled : graph.Tiled) (present : graph.hasObject object = true)
    (supply : Supply) :
    align object object ((graph, graph), supply) = .ok .equal ((graph, graph), supply) := by
  obtain ⟨found, isObject⟩ := (graph.hasObject_iff).1 present
  exact align_of_sameRanges (tiled.at isObject) isObject rfl (fun _ => rfl) supply

end Alignment

end ShapeDomain
