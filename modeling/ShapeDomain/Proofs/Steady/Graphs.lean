import ShapeDomain.Proofs.Fold.Perform
import ShapeDomain.Proofs.Graph.Tame
import ShapeDomain.Proofs.Join.Alignment

/-!
# Changes that keep a graph tame

While two tame graphs are joined, their layouts are aligned and nodes of the destination are folded.
Wherever that goes through, the graphs stay tame.
-/

namespace ShapeDomain

namespace Graph

/-- A graph is tame after a part of a run, which kept its objects. -/
structure Resettled (here there : Graph × Supply) : Prop where
  /-- The supply moves on. -/
  time : here.2.next ≤ there.2.next
  /-- The graph is tame. -/
  tame : there.1.Tame there.2.next
  /-- The objects stay. -/
  objects : there.1.objects = here.1.objects

namespace Resettled

variable {here middle there : Graph × Supply}

theorem refl (tame : here.1.Tame here.2.next) : Resettled here here :=
  ⟨Nat.le_refl _, tame, rfl⟩

theorem trans (first : Resettled here middle) (second : Resettled middle there) :
    Resettled here there :=
  ⟨Nat.le_trans first.time second.time, second.tame, second.objects.trans first.objects⟩

end Resettled

end Graph

namespace Alignment

open ShapeDomain.Graph

variable {here : Graph × Supply} {object : ObjectId} {fields : List Field} {cuts : KeySet Nat}

/-- Filling a range. -/
theorem fill_resettles (tame : here.1.Tame here.2.next) {range : BitRange} (bits : 0 < range.size)
    (zeroed : Bool) :
    Run.Passes (fill object zeroed range) here fun _ there => Resettled here there := by
  have added {middle : Graph × Supply} {value : ValueId} (settled : Resettled here middle)
      (early : value.index < middle.2.next) :
      Run.Passes (Run.attempt fun graph => graph.addField ⟨object, range, value⟩) middle
        fun _ there => Resettled here there :=
    Run.passes_attempt fun next done => settled.trans
      ⟨Nat.le_refl _, settled.tame.addField bits early done, objects_of_addField done⟩
  unfold fill fillValue
  cases zeroed with
  | true => exact Run.ends_bind_of_ok (Run.pure_apply _ _) (added (.refl tame) tame.positive)
  | false =>
      have drawn : Resettled here (here.1.addValue ⟨here.2.next⟩, ⟨here.2.next + 1⟩) :=
        ⟨Nat.le_succ _, (tame.later (Nat.le_succ _)).addValue (Nat.lt_succ_self _), rfl⟩
      exact Run.ends_bind_of_ok (newValue_apply _ _) (added drawn (Nat.lt_succ_self _))

/-- A loop of steps that keep the graph tame. -/
theorem forM_resettles {ε : Type} {step : ε → Run Graph Unit} {list : List ε}
    (tame : here.1.Tame here.2.next)
    (each : ∀ item ∈ list, ∀ here : Graph × Supply, here.1.Tame here.2.next →
      Run.Passes (step item) here fun _ there => Resettled here there) :
    Run.Passes (list.forM step) here fun _ there => Resettled here there :=
  Run.ends_forM (Resettled here) (.refl tame) fun item member middle settled =>
    (each item member middle settled.tame).mono fun _ _ => settled.trans

theorem cutField_resettles (tame : here.1.Tame here.2.next) {field : Field}
    (cuttable : Cuttable cuts object field) :
    Run.Passes (cutField cuts field) here fun _ there => Resettled here there := by
  by_cases whole : inside cuts field.range = []
  · rw [cutField_of_whole cuttable whole]
    exact Run.ends_pure (.refl tame)
  · rw [cutField_of_cut cuttable whole]
    have removed : Resettled here (here.1.removeField field, here.2) :=
      ⟨Nat.le_refl _, tame.removeField field, objects_removeField field⟩
    refine Run.ends_bind_of_ok (Run.modify_apply _ _) ?_
    refine (forM_resettles removed.tame fun piece member middle tame => fill_resettles tame
      (cuttable.mem_pieces_iff.1 member).1.positive _).bind ?_
    exact fun _ there filled => Run.ends_pure (removed.trans filled)

theorem cutFields_resettles (tame : here.1.Tame here.2.next)
    (cuttable : ∀ field ∈ fields, Cuttable cuts object field) :
    Run.Passes (cutFields cuts fields) here fun _ there => Resettled here there := by
  induction fields generalizing here with
  | nil => exact Run.ends_pure (.refl tame)
  | cons field rest ih =>
      unfold cutFields
      refine (cutField_resettles tame (cuttable field List.mem_cons_self)).bind ?_
      intro _ middle first
      refine (ih first.tame fun other member =>
        cuttable other (List.mem_cons_of_mem _ member)).bind ?_
      exact fun _ there second => Run.ends_pure (first.trans second)

/-- Adding missing ranges. -/
theorem addMissing_resettles (tame : here.1.Tame here.2.next)
    (bits : ∀ field ∈ fields, 0 < field.range.size) :
    Run.Passes (addMissing object fields) here fun _ there => Resettled here there := by
  have each (field : Field) (member : field ∈ fields) (middle : Graph × Supply)
      (tame : middle.1.Tame middle.2.next) :
      Run.Passes (fillMissing object (here.1.isValid object) field.range) middle
        fun _ there => Resettled middle there := by
    unfold fillMissing
    refine Run.ends_bind_of_ok (Run.ask_apply _ _) ?_
    split
    · exact Run.ends_pure (.refl tame)
    · exact fill_resettles tame (bits field member) _
  have all := forM_resettles tame each
  unfold Run.Passes Run.Ends at all ⊢
  rw [addMissing_apply]
  exact all

/-! ### Both graphs -/

section Sides

variable {α : Type} {computation : Run Graph α} {left right : Graph} {supply : Supply}

/-- What keeps the left graph tame keeps both tame. -/
theorem passes_onLeft (tame : right.Tame supply.next)
    (settles : Run.Passes computation (left, supply) fun _ there =>
      Resettled (left, supply) there) :
    Run.Passes (onLeft computation) ((left, right), supply) fun _ there =>
      Resettled (left, supply) (there.1.1, there.2) ∧
        Resettled (right, supply) (there.1.2, there.2) :=
  Run.Ends.within settles (fun _ _ settled =>
    ⟨settled, settled.time, tame.later settled.time, rfl⟩) fun _ _ bad => bad

/-- What keeps the right graph tame keeps both tame. -/
theorem passes_onRight (tame : left.Tame supply.next)
    (settles : Run.Passes computation (right, supply) fun _ there =>
      Resettled (right, supply) there) :
    Run.Passes (onRight computation) ((left, right), supply) fun _ there =>
      Resettled (left, supply) (there.1.1, there.2) ∧
        Resettled (right, supply) (there.1.2, there.2) :=
  Run.Ends.within settles (fun _ _ settled =>
    ⟨⟨settled.time, tame.later settled.time, rfl⟩, settled⟩) fun _ _ bad => bad

/-- Aligning two objects of tame graphs. -/
theorem align_resettles (tame1 : left.Tame supply.next) (tame2 : right.Tame supply.next)
    (object1 object2 : ObjectId) :
    Run.Passes (align object1 object2) ((left, right), supply) fun _ there =>
      Resettled (left, supply) (there.1.1, there.2) ∧
        Resettled (right, supply) (there.1.2, there.2) := by
  have bits {graph : Graph} {start : Nat} (tame : graph.Tame start) (object : ObjectId) :
      ∀ field ∈ graph.fieldsOf object, 0 < field.range.size :=
    fun _ member => tame.sound.tiled.positive (mem_fieldsOf_iff.1 member).2
  have cuttable1 : ∀ field ∈ left.fieldsOf object1,
      Cuttable (boundaries (left.fieldsOf object1 ++ right.fieldsOf object2)) object1 field :=
    fun field member => cuttable_of_tiled tame1.sound.tiled member
      (contains_boundaries_iff.2 ⟨field, List.mem_append_left _ member, .inl rfl⟩)
      (contains_boundaries_iff.2 ⟨field, List.mem_append_left _ member, .inr rfl⟩)
  have cuttable2 : ∀ field ∈ right.fieldsOf object2,
      Cuttable (boundaries (left.fieldsOf object1 ++ right.fieldsOf object2)) object2 field :=
    fun field member => cuttable_of_tiled tame2.sound.tiled member
      (contains_boundaries_iff.2 ⟨field, List.mem_append_right _ member, .inl rfl⟩)
      (contains_boundaries_iff.2 ⟨field, List.mem_append_right _ member, .inr rfl⟩)
  unfold align
  refine Run.passes_demand fun source1 _ => Run.passes_demand fun source2 _ => ?_
  split
  case isTrue => exact Run.ends_pure ⟨.refl tame1, .refl tame2⟩
  case isFalse =>
    refine Run.ends_bind_of_ok (Run.ask_apply _ _) (Run.ends_bind_of_ok (Run.ask_apply _ _) ?_)
    refine (passes_onLeft tame2 (cutFields_resettles tame1 cuttable1)).bind ?_
    rintro _ ⟨⟨left1, right1⟩, supply1⟩ ⟨first1, first2⟩
    refine (passes_onRight first1.tame (cutFields_resettles first2.tame cuttable2)).bind ?_
    rintro _ ⟨⟨left2, right2⟩, supply2⟩ ⟨second1, second2⟩
    refine Run.ends_bind_of_ok (Run.ask_apply _ _) ?_
    refine (passes_onLeft second2.tame
      (addMissing_resettles second1.tame (bits second2.tame object2))).bind ?_
    rintro _ ⟨⟨left3, right3⟩, supply3⟩ ⟨third1, third2⟩
    refine Run.ends_bind_of_ok (Run.ask_apply _ _) ?_
    refine (passes_onRight third1.tame
      (addMissing_resettles third2.tame (bits third1.tame object1))).bind ?_
    rintro _ ⟨⟨left4, right4⟩, supply4⟩ ⟨fourth1, fourth2⟩
    exact Run.ends_pure ⟨((first1.trans second1).trans third1).trans fourth1,
      ((first2.trans second2).trans third2).trans fourth2⟩

end Sides

end Alignment

/-! ### Folding -/

namespace Fold

variable {graph next : Graph} {fold : Fold} {parts : Parts} {id : ObjectId} {start : Nat}

/-- A segment is no part of another one, as its nodes are not. -/
theorem shapely_segment (possible : Possible graph fold parts) (tame : graph.Tame start) :
    (segment parts).Shapely :=
  ⟨(tame.shapely possible.head (possible.head_ne_null tame.sound)).ground, .inr rfl⟩

theorem leading_moveTarget {target : Target} (leading : target.specifier.Leading) :
    (moveTarget fold id target).specifier.Leading := by
  unfold moveTarget
  split
  · rcases leading with region | first
    · simp [redirect, region, Specifier.Leading]
    · simp [redirect, first, Specifier.Leading]
  · exact leading

/-- A tame graph is tame after a folding. -/
theorem tame_folded (possible : Possible graph fold parts) (tame : graph.Tame start)
    (absent : graph.hasObject id = false) (early : id.index < start) :
    (folded graph fold parts id).Tame start := by
  have spec := folded_spec possible tame.sound absent
  have roots : (folded graph fold parts id).roots = graph.roots := by
    simp only [Graph.roots, Graph.frames, spec.stack, spec.globals]
  have placed {other : ObjectId} {object : Object}
      (found : (folded graph fold parts id).object? other = some object) :
      (other = id ∧ object = segment parts) ∨ graph.object? other = some object := by
    rw [spec.objects] at found
    split at found
    case isTrue same => exact .inl ⟨same, (Option.some.inj found).symm⟩
    case isFalse =>
      split at found
      · simp at found
      · exact .inr found
  exact
    { positive := tame.positive
      sound := spec.sound
      shapely := fun found proper => by
        rcases placed found with ⟨-, rfl⟩ | old
        · exact shapely_segment possible tame
        · exact tame.shapely old proper
      leading := fun leads => by
        rw [spec.targets] at leads
        split at leads
        · simp at leads
        · obtain ⟨target, old, rfl⟩ := Option.map_eq_some_iff.1 leads
          exact leading_moveTarget (tame.leading old)
      concrete := fun named found => by
        rw [roots] at named
        rcases placed found with ⟨rfl, -⟩ | old
        · exact absurd named (tame.notNamed absent)
        · exact tame.concrete named old
      distinct := roots ▸ tame.distinct
      unrelated := (inequalities_folded graph fold parts id).trans tame.unrelated
      drawn := ⟨fun other member => by
          have present : (folded graph fold parts id).hasObject other = true :=
            Table.mem_keys_iff.1 member
          obtain ⟨object, found⟩ := (Graph.hasObject_iff _).1 present
          rcases placed found with ⟨rfl, -⟩ | old
          · exact early
          · exact tame.object_lt (Graph.hasObject_of_object? old),
        fun value member => by
          have present : (folded graph fold parts id).hasValue value = true :=
            Table.mem_keys_iff.1 member
          rw [spec.values] at present
          exact tame.value_lt present,
        fun pair member => by
          rw [inequalities_folded] at member
          exact tame.drawn.2.2 pair member⟩ }

/-- What performing a folding leads to in a tame graph. -/
theorem perform_passes {here : Graph × Supply} (fold : Fold) (tame : here.1.Tame here.2.next) :
    Run.Passes fold.perform here fun _ there => here.2.next ≤ there.2.next ∧
      there.1.Tame there.2.next ∧ ∀ {id}, there.1.hasObject id = true →
        here.1.hasObject id = true ∨ here.2.next ≤ id.index := by
  cases found : fold.parts? here.1 with
  | none =>
      unfold perform
      refine Run.ends_bind_of_ok (Run.ask_apply _ _) ?_
      simp only [found]
      exact Run.ends_pure ⟨Nat.le_refl _, tame, fun present => .inl present⟩
  | some parts =>
      have possible := possible_of_parts? found
      have absent : here.1.hasObject ⟨here.2.next⟩ = false := tame.absent_of_late (Nat.le_refl _)
      have spec := folded_spec possible tame.sound absent
      refine Run.ends_of_ok (perform_apply (possible.performable tame.sound) found absent)
        ⟨Nat.le_succ _, tame_folded possible (tame.later (Nat.le_succ _)) absent
          (Nat.lt_succ_self _), fun {id} present => ?_⟩
      obtain ⟨object, found⟩ := (Graph.hasObject_iff _).1 present
      rw [spec.objects] at found
      split at found
      case isTrue same => exact .inr (same ▸ Nat.le_refl _)
      case isFalse =>
        split at found
        · simp at found
        · exact .inl (Graph.hasObject_of_object? found)

end Fold

end ShapeDomain
