import ShapeDomain.Graph.Consistency
import ShapeDomain.Proofs.Graph.Alike

/-!
# Consistent graphs

What the check of a graph says of it: its fields are tiled and hold values of the graph, its
addresses lead to objects of the graph, and variables name objects of the graph.  Alike graphs pass
the check together.
-/

namespace ShapeDomain

namespace Graph

variable {graph other : Graph} {shift : Shift}

theorem forM_eq_ok_iff {α : Type} {check : α → Except Fault PUnit} {list : List α} :
    list.forM check = .ok () ↔ ∀ item ∈ list, check item = .ok () := by
  induction list with
  | nil => simp [List.forM, pure, Except.pure]
  | cons head rest ih =>
      rw [List.forM_eq_forM] at ih ⊢
      rw [List.forM_cons]
      cases verdict : check head with
      | ok => simp [bind, Except.bind, verdict, ih]
      | error fault => simp [bind, Except.bind, verdict]

/-- The check of the fields of an entry. -/
def checkLayout (graph : Graph) (entry : ObjectId × Layout) : Except Fault Unit := do
  let object ← graph.object entry.1
  graph.checkFields object.size 0 (entry.2.fields entry.1)

/-- What the check of a graph checks. -/
structure Checked (graph : Graph) : Prop where
  /-- The zero value is the address of NULL. -/
  zero : graph.target? .zero = some .null
  /-- The layouts are those of objects, and their fields pass. -/
  layouts : ∀ entry ∈ graph.layouts.toList, graph.checkLayout entry = .ok ()
  /-- Addresses lead to objects. -/
  pointers : ∀ pointer ∈ graph.pointers, graph.hasObject pointer.target.object = true
  /-- Variables name objects. -/
  roots : ∀ entry ∈ graph.roots, graph.hasObject entry.2 = true

theorem checkObject_eq_ok_iff {id : ObjectId} :
    graph.checkObject id = .ok () ↔ graph.hasObject id = true := by
  unfold checkObject
  split <;> simp_all

theorem check_eq_ok_iff : graph.check = .ok () ↔ graph.Checked := by
  unfold check
  by_cases zero : graph.target? .zero = some .null
  case neg =>
    rw [if_pos (by simpa using zero)]
    constructor
    · intro passed
      simp [bind, Except.bind, throw, throwThe, MonadExceptOf.throw] at passed
    · intro checked
      exact absurd checked.zero zero
  case pos =>
    rw [if_neg (by simpa using zero)]
    show (graph.layouts.toList.forM graph.checkLayout >>= fun _ =>
      (graph.pointers.forM fun pointer => graph.checkObject pointer.target.object) >>= fun _ =>
        graph.roots.forM fun entry => graph.checkObject entry.2) = .ok () ↔ _
    have layouts : graph.layouts.toList.forM graph.checkLayout = .ok () ↔
        ∀ entry ∈ graph.layouts.toList, graph.checkLayout entry = .ok () := forM_eq_ok_iff
    have pointers : (graph.pointers.forM fun pointer =>
          graph.checkObject pointer.target.object) = .ok () ↔
        ∀ pointer ∈ graph.pointers, graph.hasObject pointer.target.object = true :=
      forM_eq_ok_iff.trans (forall₂_congr fun _ _ => checkObject_eq_ok_iff)
    have roots : (graph.roots.forM fun entry => graph.checkObject entry.2) = .ok () ↔
        ∀ entry ∈ graph.roots, graph.hasObject entry.2 = true :=
      forM_eq_ok_iff.trans (forall₂_congr fun _ _ => checkObject_eq_ok_iff)
    constructor
    · intro passed
      cases first : graph.layouts.toList.forM graph.checkLayout with
      | error fault => simp [first, bind, Except.bind] at passed
      | ok =>
          cases second : graph.pointers.forM fun pointer =>
              graph.checkObject pointer.target.object with
          | error fault => simp [first, second, bind, Except.bind] at passed
          | ok =>
              simp only [first, second, bind, Except.bind] at passed
              exact ⟨zero, layouts.1 first, pointers.1 second, roots.1 passed⟩
    · intro checked
      rw [layouts.2 checked.layouts]
      simp only [bind, Except.bind]
      rw [pointers.2 checked.pointers]
      exact roots.2 checked.roots

theorem Consistent.checked (consistent : graph.Consistent) : graph.Checked :=
  check_eq_ok_iff.1 consistent

/-! ### What a checked graph looks like -/

/-- Every field ends at a position, which adding a field checks. -/
def InReach (graph : Graph) : Prop :=
  ∀ field ∈ graph.fields, field.range.offset + field.range.size ≤ BitRange.limit

instance (graph : Graph) : Decidable graph.InReach :=
  inferInstanceAs (Decidable (∀ field ∈ graph.fields,
    field.range.offset + field.range.size ≤ BitRange.limit))

theorem InReach.of_held (reach : graph.InReach) {object : ObjectId} {range : BitRange}
    {value : ValueId} (held : graph.valueAt? object range = some value) :
    range.offset + range.size ≤ BitRange.limit :=
  reach ⟨object, range, value⟩ (mem_fields_iff.2 held)

/-- Every field has bits and ends at a position, which adding a field checks. -/
def ExactFields (graph : Graph) : Prop :=
  ∀ field ∈ graph.fields, 0 < field.range.size ∧
    field.range.offset + field.range.size ≤ BitRange.limit

instance (graph : Graph) : Decidable graph.ExactFields :=
  inferInstanceAs (Decidable (∀ field ∈ graph.fields, 0 < field.range.size ∧
    field.range.offset + field.range.size ≤ BitRange.limit))

theorem ExactFields.of_held (exact : graph.ExactFields) {object : ObjectId} {range : BitRange}
    {value : ValueId} (held : graph.valueAt? object range = some value) :
    0 < range.size ∧ range.offset + range.size ≤ BitRange.limit :=
  exact ⟨object, range, value⟩ (mem_fields_iff.2 held)

theorem ExactFields.inReach (exact : graph.ExactFields) : graph.InReach :=
  fun field member => (exact field member).2

/-- No object is at the deepest level, so that there is a level below every object. -/
def Shallow (graph : Graph) : Prop :=
  ∀ binding ∈ graph.objects.toList, binding.2.object.level < .deepest

instance (graph : Graph) : Decidable graph.Shallow :=
  inferInstanceAs (Decidable (∀ binding ∈ graph.objects.toList,
    binding.2.object.level < .deepest))

theorem Shallow.of_object? (shallow : graph.Shallow) {id : ObjectId} {object : Object}
    (found : graph.object? id = some object) : object.level < .deepest := by
  obtain ⟨placement, placed, rfl⟩ := Option.map_eq_some_iff.1 found
  exact shallow ⟨id, placement⟩ (Table.mem_toList_iff.2 placed)

/-- Checked fields lie within their object, follow each other and hold values of the graph. -/
theorem of_checkFields {size least : Nat} {fields : List Field}
    (reach : ∀ field ∈ fields, field.range.offset + field.range.size ≤ BitRange.limit)
    (passed : graph.checkFields size least fields = .ok ()) :
    (∀ field ∈ fields, least ≤ field.range.offset ∧
      field.range.offset + field.range.size ≤ size ∧ graph.hasValue field.value = true) ∧
      fields.Pairwise fun a b => a.range.offset + a.range.size ≤ b.range.offset := by
  induction fields generalizing least with
  | nil => exact ⟨by simp, .nil⟩
  | cons field rest ih =>
      have bound := reach field List.mem_cons_self
      have stop : field.range.stop = field.range.offset + field.range.size := Nat.min_eq_left bound
      simp only [checkFields, stop] at passed
      split at passed
      · simp at passed
      · split at passed
        · simp at passed
        · split at passed
          · simp at passed
          · rename_i start within held
            obtain ⟨inRest, separate⟩ :=
              ih (fun later member => reach later (List.mem_cons_of_mem _ member)) passed
            refine ⟨?_, List.pairwise_cons.2 ⟨fun later member => (inRest later member).1,
              separate⟩⟩
            intro later member
            rcases List.mem_cons.1 member with rfl | member
            · exact ⟨by omega, by omega, by simpa using held⟩
            · obtain ⟨after, rest⟩ := inRest later member
              exact ⟨by omega, rest⟩

namespace Checked

/-- The fields of an object that has any were checked against the size of the object. -/
theorem checkFields_of_held (checked : graph.Checked) {object : ObjectId} {range : BitRange}
    {value : ValueId} (held : graph.valueAt? object range = some value) :
    ∃ found, graph.object? object = some found ∧
      graph.checkFields found.size 0 (graph.fieldsOf object) = .ok () := by
  have laid := valueAt?_eq_some_iff.1 held
  cases found : graph.layouts.get? object with
  | none => simp [layout, found] at laid
  | some layout =>
      have passed := checked.layouts (object, layout) (Table.mem_toList_iff.2 found)
      have fields : layout.fields object = graph.fieldsOf object := by
        rw [fieldsOf, Graph.layout, found]
        rfl
      unfold checkLayout at passed
      cases there : graph.object object with
      | error fault => simp [there, bind, Except.bind] at passed
      | ok source =>
          simp only [there, bind, Except.bind, fields] at passed
          exact ⟨source, (graph.object_eq_ok_iff).1 there, passed⟩

theorem of_held (checked : graph.Checked) (reach : graph.InReach) {object : ObjectId}
    {range : BitRange} {value : ValueId} (held : graph.valueAt? object range = some value) :
    (∃ found, graph.object? object = some found ∧ range.offset + range.size ≤ found.size) ∧
      graph.hasValue value = true ∧
      (graph.fieldsOf object).Pairwise fun a b =>
        a.range.offset + a.range.size ≤ b.range.offset := by
  obtain ⟨source, there, passed⟩ := checked.checkFields_of_held held
  obtain ⟨each, separate⟩ := of_checkFields (fun field member =>
    reach.of_held (mem_fieldsOf_iff.1 member).2) passed
  obtain ⟨-, within, isValue⟩ := each ⟨object, range, value⟩ (mem_fieldsOf.2 held)
  exact ⟨⟨source, there, within⟩, isValue, separate⟩

/-- Different fields of an object are apart, if empty ones are apart from what they touch. -/
theorem eq_or_apart (checked : graph.Checked) (reach : graph.InReach) {object : ObjectId}
    {range other : BitRange} {value held : ValueId}
    (here : graph.valueAt? object range = some value)
    (there : graph.valueAt? object other = some held) : range = other ∨ range.Apart other := by
  obtain ⟨-, -, separate⟩ := checked.of_held reach here
  have memberHere := mem_fieldsOf.2 here
  have memberThere := mem_fieldsOf.2 there
  have forward := separate.imp (S := fun a b => a.range = b.range ∨ a.range.Apart b.range)
    fun follows => .inr (.inl follows)
  have backward := separate.imp (S := flip fun a b => a.range = b.range ∨ a.range.Apart b.range)
    fun follows => .inr (.inr follows)
  exact forward.forall_of_forall_of_flip (fun _ _ => .inl rfl) backward memberHere memberThere

/-- A checked graph is tiled. -/
theorem tiled (checked : graph.Checked) (exact : graph.ExactFields) : graph.Tiled where
  positive held := (exact.of_held held).1
  fits {object range value} held := by
    obtain ⟨⟨found, there, within⟩, -⟩ := checked.of_held exact.inReach held
    exact ⟨found, there, BitRange.fits_iff.2 ⟨(exact.of_held held).2, within⟩⟩
  apart here there := checked.eq_or_apart exact.inReach here there

/-- Addresses lead to objects of the graph. -/
theorem object_of_target (checked : graph.Checked) {value : ValueId} {target : Target}
    (leads : graph.target? value = some target) :
    ∃ object, graph.object? target.object = some object := by
  cases found : graph.values.get? value with
  | none => simp [target?, knowledge, found, Knowledge.nothing] at leads
  | some known =>
      have isTarget : known.target = some target := by
        rw [target?, knowledge, found] at leads
        exact leads
      have member : (⟨value, target⟩ : Pointer) ∈ graph.pointers := by
        rw [Graph.pointers, List.mem_filterMap]
        exact ⟨(value, known), Table.mem_toList_iff.2 found, by simp [isTarget]⟩
      exact (graph.hasObject_iff).1 (checked.pointers ⟨value, target⟩ member)

end Checked

/-! ### Outlines -/

theorem checkFields_outline (size least : Nat) (fields : List Field) :
    (graph.outline shift).checkFields size least (fields.map shift.field) = .ok () ↔
      graph.checkFields size least fields = .ok () := by
  induction fields generalizing least with
  | nil => simp [checkFields]
  | cons field rest ih =>
      have value := hasValue_outline shift graph field.value
      simp only [List.map_cons, checkFields, Shift.field, value]
      split
      · simp
      · split
        · simp
        · split
          · simp
          · exact ih _

theorem checkLayout_outline (object : ObjectId) (layout : Layout) :
    (graph.outline shift).checkLayout (shift.object object, shift.layout layout) = .ok () ↔
      graph.checkLayout (object, layout) = .ok () := by
  have found := object?_outline shift graph object
  unfold checkLayout Graph.object
  rw [found, fields_layout]
  cases graph.object? object with
  | none => simp [bind, Except.bind]
  | some source => exact checkFields_outline source.size 0 (layout.fields object)

theorem roots_outline :
    (graph.outline shift).roots = graph.roots.map fun entry => (entry.1, shift.object entry.2) := by
  simp only [roots, frames, outline, Table.mapPayloads, List.map_append, List.map_flatMap,
    ← List.map_reverse, List.flatMap_map, Shift.frame]

theorem checked_outline_iff : (graph.outline shift).Checked ↔ graph.Checked := by
  have zero : (graph.outline shift).target? .zero = some .null ↔
      graph.target? .zero = some .null := by
    have moved := target?_outline shift graph .zero
    rw [Shift.value_zero] at moved
    have inj (target : Target) : shift.target target = .null ↔ target = .null := by
      have iff := shift.target_inj (a := target) (b := .null)
      rwa [Shift.target_null] at iff
    rw [moved]
    cases graph.target? .zero <;> simp [inj]
  have layouts : (∀ entry ∈ (graph.outline shift).layouts.toList,
        (graph.outline shift).checkLayout entry = .ok ()) ↔
      ∀ entry ∈ graph.layouts.toList, graph.checkLayout entry = .ok () := by
    simp only [outline, Table.translate, List.forall_mem_map]
    exact forall₂_congr fun entry _ => checkLayout_outline entry.1 entry.2
  have pointers : (∀ pointer ∈ (graph.outline shift).pointers,
        (graph.outline shift).hasObject pointer.target.object = true) ↔
      ∀ pointer ∈ graph.pointers, graph.hasObject pointer.target.object = true := by
    simp only [pointers_outline, List.forall_mem_map, Shift.pointer, Shift.target,
      hasObject_outline]
  have roots : (∀ entry ∈ (graph.outline shift).roots,
        (graph.outline shift).hasObject entry.2 = true) ↔
      ∀ entry ∈ graph.roots, graph.hasObject entry.2 = true := by
    simp only [roots_outline, List.forall_mem_map, hasObject_outline]
  constructor
  · rintro ⟨first, second, third, fourth⟩
    exact ⟨zero.1 first, layouts.1 second, pointers.1 third, roots.1 fourth⟩
  · rintro ⟨first, second, third, fourth⟩
    exact ⟨zero.2 first, layouts.2 second, pointers.2 third, roots.2 fourth⟩

/-- Alike graphs pass the check together. -/
theorem Alike.check_iff (alike : Alike shift graph other) :
    other.check = .ok () ↔ graph.check = .ok () := by
  have outline : (graph.outline shift).Checked ↔ (other.outline shift.still).Checked := by
    rw [show graph.outline shift = _ from alike]
  rw [checked_outline_iff, checked_outline_iff] at outline
  rw [check_eq_ok_iff, check_eq_ok_iff, outline]

end Graph

end ShapeDomain
