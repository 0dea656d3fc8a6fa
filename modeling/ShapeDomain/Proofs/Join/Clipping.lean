import ShapeDomain.Proofs.Graph.Sound
import ShapeDomain.Proofs.Join.Alignment

/-!
# Fields that do not matter

Cutting and adding fields of an object depends on few of the fields of a graph: on those of the
object itself, and among these on the ones that do not start too late.  A graph is clipped to such
fields, and what goes through on the clipped graph goes through on the whole one with the same
result.  So the layouts of other objects need not be tiled for an object to be laid out anew.
-/

namespace ShapeDomain

theorem lastBelow?_congr {layout other : Layout} {bound : Nat}
    (same : ∀ offset < bound, layout.get? offset = other.get? offset) :
    layout.lastBelow? bound = other.lastBelow? bound := by
  have below : layout.filter (fun offset _ => compare offset bound == .lt) =
      other.filter fun offset _ => compare offset bound == .lt := by
    refine Table.ext_get? fun offset => ?_
    rw [Table.get?_filter, Table.get?_filter]
    by_cases early : offset < bound
    · rw [same offset early]
    · have late : (compare offset bound == Ordering.lt) = false := by
        simpa [Nat.compare_eq_lt] using early
      simp [late]
  exact congrArg (fun table : Layout => table.toList.getLast?) below

namespace Graph

variable {graph : Graph} {object : ObjectId} {keep : Nat → Bool}

/-- The graph that has only those fields of an object that start where `keep` says. -/
def clip (graph : Graph) (object : ObjectId) (keep : Nat → Bool) : Graph :=
  { graph with
    layouts := (∅ : Table ObjectId Layout).insert object
      ((graph.layout object).filter fun offset _ => keep offset) }

theorem layout_clip (other : ObjectId) :
    (graph.clip object keep).layout other =
      if other = object then (graph.layout object).filter fun offset _ => keep offset else ∅ := by
  simp only [clip, layout, Table.get?_insert]
  split <;> rfl

theorem get?_layout_clip (offset : Nat) :
    ((graph.clip object keep).layout object).get? offset =
      if keep offset = true then (graph.layout object).get? offset else none := by
  rw [layout_clip, if_pos rfl, Table.get?_filter]
  cases keep offset <;> cases (graph.layout object).get? offset <;> rfl

theorem valueAt?_clip (range : BitRange) :
    (graph.clip object keep).valueAt? object range =
      if keep range.offset = true then graph.valueAt? object range else none := by
  rw [valueAt?, get?_layout_clip, valueAt?]
  split <;> rfl

theorem of_valueAt?_clip {other : ObjectId} {range : BitRange} {value : ValueId}
    (held : (graph.clip object keep).valueAt? other range = some value) :
    other = object ∧ keep range.offset = true ∧ graph.valueAt? object range = some value := by
  by_cases same : other = object
  case neg =>
    rw [valueAt?, layout_clip, if_neg same] at held
    cases held
  case pos =>
    subst same
    rw [valueAt?_clip] at held
    split at held
    case isTrue kept => exact ⟨rfl, kept, held⟩
    case isFalse => cases held

theorem fieldsOf_clip :
    (graph.clip object keep).fieldsOf object =
      (graph.fieldsOf object).filter fun field => keep field.range.offset := by
  rw [fieldsOf, layout_clip, if_pos rfl, fieldsOf, Layout.fields, Layout.fields, List.filter_map]
  rfl

/-- A clipped graph is tiled if the fields that are left have bits. -/
theorem Checked.tiled_clip (checked : graph.Checked) (reach : graph.InReach)
    (positive : ∀ {range value}, graph.valueAt? object range = some value →
      keep range.offset = true → 0 < range.size) : (graph.clip object keep).Tiled where
  positive held := by
    obtain ⟨-, kept, there⟩ := of_valueAt?_clip held
    exact positive there kept
  fits {other range value} held := by
    obtain ⟨rfl, -, there⟩ := of_valueAt?_clip held
    obtain ⟨⟨found, isObject, within⟩, -⟩ := checked.of_held reach there
    exact ⟨found, isObject, BitRange.fits_iff.2 ⟨reach.of_held there, within⟩⟩
  apart {other range later value held'} here there := by
    obtain ⟨rfl, -, here⟩ := of_valueAt?_clip here
    obtain ⟨-, -, there⟩ := of_valueAt?_clip there
    exact checked.eq_or_apart reach here there

/-- A graph and what is left of it after it was clipped, while both are worked on. -/
structure Clipped (origin : Graph) (object : ObjectId) (keep : Nat → Bool) (part graph : Graph) :
    Prop where
  /-- They differ in their layouts only. -/
  same : graph = { part with layouts := graph.layouts }
  /-- The object has the same fields, where these are kept. -/
  fields : ∀ offset, keep offset = true →
    (graph.layout object).get? offset = (part.layout object).get? offset
  /-- The other layouts stay as they were. -/
  others : ∀ other, other ≠ object → graph.layouts.get? other = origin.layouts.get? other

theorem clipped_clip (graph : Graph) (object : ObjectId) (keep : Nat → Bool) :
    Clipped graph object keep (graph.clip object keep) graph where
  same := rfl
  fields offset kept := by rw [get?_layout_clip, if_pos kept]
  others _ _ := rfl

namespace Clipped

variable {origin part : Graph} {field : Field}

theorem objects (clipped : Clipped origin object keep part graph) :
    graph.objects = part.objects := by
  rw [clipped.same]

theorem valueAt? (clipped : Clipped origin object keep part graph) {range : BitRange}
    (kept : keep range.offset = true) :
    graph.valueAt? object range = part.valueAt? object range := by
  rw [Graph.valueAt?, Graph.valueAt?, clipped.fields _ kept]

theorem addValue (clipped : Clipped origin object keep part graph) (value : ValueId) :
    Clipped origin object keep (part.addValue value) (graph.addValue value) where
  same := by
    conv_lhs => rw [clipped.same]
    rfl
  fields := clipped.fields
  others := clipped.others

/-- Putting a field into the object, in both graphs. -/
theorem putField (clipped : Clipped origin field.object keep part graph) :
    Clipped origin field.object keep (part.putField field) (graph.putField field) where
  same := by
    conv_lhs => rw [Graph.putField, clipped.same]
    rfl
  fields offset kept := by
    rw [layout_putField, layout_putField, if_pos rfl, if_pos rfl, Table.get?_insert,
      Table.get?_insert, clipped.fields offset kept]
  others other distinct := by
    rw [← clipped.others other distinct]
    exact Table.get?_insert_of_ne _ distinct _

theorem hasField (clipped : Clipped origin field.object keep part graph)
    (kept : keep field.range.offset = true) : graph.hasField field = part.hasField field := by
  rw [Graph.hasField, Graph.hasField, clipped.fields _ kept]

theorem removeField (clipped : Clipped origin field.object keep part graph)
    (kept : keep field.range.offset = true) :
    Clipped origin field.object keep (part.removeField field) (graph.removeField field) := by
  rw [Graph.removeField, Graph.removeField, clipped.hasField kept]
  split
  case isFalse => exact clipped
  case isTrue =>
    refine ⟨?_, fun offset kept => ?_, fun other distinct => ?_⟩
    · conv_lhs => rw [clipped.same]
      rfl
    · simp only [layout, Table.get?_insert_self, Option.getD_some]
      by_cases removed : offset = field.range.offset
      · rw [removed, Table.get?_erase_self, Table.get?_erase_self]
      · rw [Table.get?_erase_of_ne _ removed, Table.get?_erase_of_ne _ removed]
        exact clipped.fields offset kept
    · rw [← clipped.others other distinct]
      exact Table.get?_insert_of_ne _ distinct _

theorem collides (clipped : Clipped origin field.object keep part graph)
    (kept : ∀ offset < field.range.stop, keep offset = true) :
    graph.collides field = part.collides field := by
  rw [Graph.collides, Graph.collides,
    lastBelow?_congr fun offset early => clipped.fields offset (kept offset early)]

/-- A field that can be added to the part can be added to the whole graph, if all fields that start
before its end are kept. -/
theorem addField (clipped : Clipped origin field.object keep part graph) {next : Graph}
    (start : keep field.range.offset = true)
    (kept : ∀ offset < field.range.stop, keep offset = true)
    (added : part.addField field = .ok next) :
    ∃ next', graph.addField field = .ok next' ∧ Clipped origin field.object keep next next' := by
  have object : graph.object? field.object = part.object? field.object := by
    rw [object?, clipped.objects, ← object?]
  rcases addField_congr object (clipped.hasField start) (clipped.collides kept) added with
    ⟨done, rfl⟩ | ⟨done, rfl⟩
  · exact ⟨graph, done, clipped⟩
  · exact ⟨_, done, clipped.putField⟩

end Clipped

end Graph

namespace Alignment

variable {related : Graph → Graph → Prop} {origin : Graph} {object : ObjectId} {keep : Nat → Bool}
variable {cuts : KeySet Nat}

/-- A range where fields can be added by looking only at fields that start where `keep` says. -/
def Visible (keep : Nat → Bool) (range : BitRange) : Prop :=
  keep range.offset = true ∧ ∀ offset < range.stop, keep offset = true

/-- A relation between graphs that lasts while an object is laid out anew in both, as far as this
depends on fields that start where `keep` says. -/
structure Lasts (related : Graph → Graph → Prop) (object : ObjectId)
    (keep : Nat → Bool) : Prop where
  /-- The object may be accessed in both graphs, or in none. -/
  valid : ∀ {part graph}, related part graph → graph.isValid object = part.isValid object
  /-- It holds the same. -/
  held : ∀ {part graph}, related part graph → ∀ range, keep range.offset = true →
    graph.valueAt? object range = part.valueAt? object range
  /-- Values may be added, -/
  addValue : ∀ {part graph}, related part graph → ∀ value,
    related (part.addValue value) (graph.addValue value)
  /-- fields may be removed, -/
  removeField : ∀ {part graph}, related part graph → ∀ field, field.object = object →
    keep field.range.offset = true → related (part.removeField field) (graph.removeField field)
  /-- and fields may be added. -/
  addField : ∀ {part graph next}, related part graph → ∀ field, field.object = object →
    Visible keep field.range → part.addField field = .ok next →
    ∃ next', graph.addField field = .ok next' ∧ related next next'

/-- Clipping an object lasts. -/
theorem clipped_lasts (origin : Graph) (object : ObjectId) (keep : Nat → Bool) :
    Lasts (Graph.Clipped origin object keep) object keep where
  valid clipped := by rw [Graph.isValid, clipped.objects, ← Graph.isValid]
  held clipped _ kept := clipped.valueAt? kept
  addValue clipped := clipped.addValue
  removeField clipped field holder kept := by
    subst holder
    exact clipped.removeField kept
  addField clipped field holder visible added := by
    subst holder
    exact clipped.addField visible.1 visible.2 added

section Lifts

variable (lasts : Lasts related object keep)

include lasts

theorem lifts_fillValue (zeroed : Bool) : Run.Lifts related (fillValue zeroed) := by
  cases zeroed with
  | true => exact Run.lifts_pure _
  | false =>
      intro part graph part' supply now result known done
      cases done
      exact ⟨_, rfl, lasts.addValue known _⟩

theorem lifts_fill {range : BitRange} (zeroed : Bool) (visible : Visible keep range) :
    Run.Lifts related (fill object zeroed range) :=
  (lifts_fillValue lasts zeroed).bind fun value => Run.lifts_attempt fun known added =>
    lasts.addField known ⟨object, range, value⟩ rfl visible added

/-- Cutting a field depends only on what can be seen from it and from its pieces. -/
theorem lifts_cutField {field : Field} (holder : field.object = object)
    (start : keep field.range.offset = true)
    (visible : ∀ range ∈ pieces cuts field.range, Visible keep range) :
    Run.Lifts related (cutField cuts field) := by
  subst holder
  unfold cutField
  by_cases empty : field.range.stop ≤ field.range.offset
  case pos =>
    rw [if_pos empty]
    intro _ _ _ _ _ _ _ done
    cases done
  case neg =>
    rw [if_neg empty]
    by_cases whole : (inside cuts field.range).isEmpty = true
    case pos =>
      rw [if_pos whole]
      exact Run.lifts_pure false
    case neg =>
      rw [if_neg whole]
      refine Run.Lifts.bind (Run.lifts_modify fun known => lasts.removeField known field rfl start)
        fun _ => (Run.Lifts.forM fun range member => ?_).bind fun _ => Run.lifts_pure _
      exact lifts_fill lasts field.value.isZero (visible range member)

theorem lifts_cutFields {fields : List Field} (holder : ∀ field ∈ fields, field.object = object)
    (start : ∀ field ∈ fields, keep field.range.offset = true)
    (visible : ∀ field ∈ fields, ∀ range ∈ pieces cuts field.range, Visible keep range) :
    Run.Lifts related (cutFields cuts fields) := by
  induction fields with
  | nil => exact Run.lifts_pure false
  | cons field rest ih =>
      refine (lifts_cutField lasts (holder field List.mem_cons_self)
        (start field List.mem_cons_self) (visible field List.mem_cons_self)).bind fun lost => ?_
      refine (ih (fun later member => holder later (List.mem_cons_of_mem _ member))
        (fun later member => start later (List.mem_cons_of_mem _ member))
        fun later member => visible later (List.mem_cons_of_mem _ member)).bind fun lostLater => ?_
      exact Run.lifts_pure _

end Lifts

/-- The pieces of a field are visible if all that starts before its end is. -/
theorem Cuttable.visible {field : Field} (cuttable : Cuttable cuts object field)
    (kept : ∀ offset < field.range.stop, keep offset = true) :
    ∀ range ∈ pieces cuts field.range, Visible keep range := by
  intro range member
  have exact := cuttable.exact
  obtain ⟨elementary, within⟩ := cuttable.mem_pieces_iff.1 member
  have bits := elementary.positive
  have inner := within.2
  have bound : range.stop ≤ range.offset + range.size := Nat.min_le_left _ _
  exact ⟨kept _ (by omega), fun offset early => kept offset (by omega)⟩

/-- Adding what is missing looks at one object only. -/
theorem lifts_addMissing (lasts : Lasts related object fun _ => true) (fields : List Field) :
    Run.Lifts related (addMissing object fields) := by
  refine Run.Lifts.bind (Run.lifts_ask lasts.valid) fun valid => Run.Lifts.forM fun field _ => ?_
  refine Run.Lifts.bind (Run.lifts_ask fun known => ?_) fun present => ?_
  · rw [lasts.held known _ rfl]
  · cases present with
    | true => exact Run.lifts_pure ()
    | false =>
        have filled : Run.Lifts related (fill object valid field.range) :=
          lifts_fill lasts valid ⟨rfl, fun _ _ => rfl⟩
        cases valid <;> exact filled

/-! ### Both sides -/

section Sides

variable {α : Type} {related1 related2 : Graph → Graph → Prop} {object1 object2 : ObjectId}

/-- Two pairs of graphs are related side by side. -/
def Beside (related1 related2 : Graph → Graph → Prop) (parts sides : Graph × Graph) : Prop :=
  related1 parts.1 sides.1 ∧ related2 parts.2 sides.2

theorem lifts_onLeft {computation : Run Graph α} (lifts : Run.Lifts related1 computation) :
    Run.Lifts (Beside related1 related2) (onLeft computation) :=
  lifts.within (fun both => both.1) fun both known => ⟨known, both.2⟩

theorem lifts_onRight {computation : Run Graph α} (lifts : Run.Lifts related2 computation) :
    Run.Lifts (Beside related1 related2) (onRight computation) :=
  lifts.within (fun both => both.2) fun both known => ⟨both.1, known⟩

variable (lasts1 : Lasts related1 object1 fun _ => true)
variable (lasts2 : Lasts related2 object2 fun _ => true)

include lasts1 in
/-- The fields of the object are the same. -/
theorem Lasts.fieldsOf {part graph : Graph} (known : related1 part graph) :
    graph.fieldsOf object1 = part.fieldsOf object1 := by
  rw [Graph.fieldsOf, Graph.layout_ext fun range => lasts1.held known range rfl, ← Graph.fieldsOf]

include lasts1 lasts2

/-- Aligning two objects depends on these objects only. -/
theorem lifts_alignFields {fields1 fields2 : List Field}
    (holder1 : ∀ field ∈ fields1, field.object = object1)
    (holder2 : ∀ field ∈ fields2, field.object = object2) :
    Run.Lifts (Beside related1 related2) (alignFields object1 object2 fields1 fields2) := by
  unfold alignFields
  refine (lifts_onLeft (lifts_cutFields lasts1 holder1 (fun _ _ => rfl)
    fun _ _ _ _ => ⟨rfl, fun _ _ => rfl⟩)).bind fun lostLeft => ?_
  refine (lifts_onRight (lifts_cutFields lasts2 holder2 (fun _ _ => rfl)
    fun _ _ _ _ => ⟨rfl, fun _ _ => rfl⟩)).bind fun lostRight => ?_
  refine (Run.lifts_ask fun both => lasts2.fieldsOf both.2).bind fun split2 => ?_
  refine (lifts_onLeft (lifts_addMissing lasts1 split2)).bind fun _ => ?_
  refine (Run.lifts_ask fun both => lasts1.fieldsOf both.1).bind fun filled1 => ?_
  exact (lifts_onRight (lifts_addMissing lasts2 filled1)).bind fun _ => Run.lifts_pure _

end Sides

end Alignment

end ShapeDomain
