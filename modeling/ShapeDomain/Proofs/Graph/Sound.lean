import ShapeDomain.Proofs.Graph.AddPointer
import ShapeDomain.Proofs.Graph.Consistent
import ShapeDomain.Proofs.Graph.Removal

/-!
# Sound graphs

A graph is sound when it would pass its check and when moreover the NULL object is in place and the
variables are proper objects outside of the heap.  Every change of a graph keeps it sound, as long
as the change is made where it makes sense.
-/

namespace ShapeDomain

namespace Graph

/-- The names of a graph were drawn before a position of the supply. -/
def DrawnBefore (graph : Graph) (position : Nat) : Prop :=
  (∀ id ∈ graph.objects.keys, id.index < position) ∧
    (∀ value ∈ graph.values.keys, value.index < position) ∧
    ∀ pair ∈ graph.inequalities.keys, pair.1.index < position ∧ pair.2.index < position

instance (graph : Graph) (position : Nat) : Decidable (graph.DrawnBefore position) :=
  inferInstanceAs (Decidable (_ ∧ _ ∧ _))

theorem DrawnBefore.later {graph : Graph} {start now : Nat} (drawn : graph.DrawnBefore start)
    (after : start ≤ now) : graph.DrawnBefore now :=
  ⟨fun id member => Nat.lt_of_lt_of_le (drawn.1 id member) after,
    fun value member => Nat.lt_of_lt_of_le (drawn.2.1 value member) after,
    fun pair member => ⟨Nat.lt_of_lt_of_le (drawn.2.2 pair member).1 after,
      Nat.lt_of_lt_of_le (drawn.2.2 pair member).2 after⟩⟩

theorem DrawnBefore.held {graph : Graph} {position : Nat} (drawn : graph.DrawnBefore position)
    (checked : graph.Checked) (reach : graph.InReach) {object : ObjectId} {range : BitRange}
    {value : ValueId} (held : graph.valueAt? object range = some value) :
    value.index < position :=
  drawn.2.1 value (Table.mem_keys_iff.2 (checked.of_held reach held).2.1)

/-- An object that a variable may name: it is in the graph, and neither NULL nor part of the
heap. -/
structure Nameable (graph : Graph) (id : ObjectId) : Prop where
  /-- The object is in the graph. -/
  present : graph.hasObject id = true
  /-- It is not NULL. -/
  proper : id ≠ .null
  /-- It is not part of the heap. -/
  outside : graph.isHeap id = false

/-- The tables of a graph fit together. -/
structure Sound (graph : Graph) : Prop where
  /-- The zero value is the address of NULL. -/
  zero : graph.target? .zero = some .null
  /-- The NULL object is in the graph. -/
  null : graph.objects.get? .null = some ⟨.null, false, false⟩
  /-- The fields are tiled. -/
  tiled : graph.Tiled
  /-- Layouts are those of objects. -/
  layouts : ∀ id, (graph.layouts.get? id).isSome = true → graph.hasObject id = true
  /-- Fields hold values of the graph. -/
  values : ∀ {object range value}, graph.valueAt? object range = some value →
    graph.hasValue value = true
  /-- Addresses lead to objects. -/
  targets : ∀ {value target}, graph.target? value = some target →
    graph.hasObject target.object = true
  /-- Variables name proper objects outside of the heap. -/
  nameables : ∀ entry ∈ graph.roots, graph.Nameable entry.2

variable {graph : Graph}

/-! ### What is listed -/

theorem mem_pointers_iff {pointer : Pointer} :
    pointer ∈ graph.pointers ↔ graph.target? pointer.value = some pointer.target := by
  obtain ⟨value, target⟩ := pointer
  simp only [pointers, List.mem_filterMap, Option.map_eq_some_iff, Prod.exists,
    Table.mem_toList_iff, Pointer.mk.injEq]
  constructor
  · rintro ⟨other, known, found, place, isPlace, rfl, rfl⟩
    rw [target?, knowledge, found]
    exact isPlace
  · intro leads
    cases found : graph.values.get? value with
    | none => simp [target?, knowledge, found, Knowledge.nothing] at leads
    | some known =>
        rw [target?, knowledge, found] at leads
        exact ⟨value, known, found, target, leads, rfl, rfl⟩

/-- What is found as an address of a place leads there. -/
theorem target?_of_addressOf? {place : Target} {value : ValueId}
    (found : graph.addressOf? place = some value) : graph.target? value = some place := by
  obtain ⟨pointer, isPointer, rfl⟩ := Option.map_eq_some_iff.1 found
  have leads := mem_pointers_iff.1 (List.mem_of_find?_eq_some isPointer)
  have same := List.find?_some isPointer
  rw [beq_iff_eq] at same
  rw [leads, same]

theorem mem_roots_iff {name : String} {id : ObjectId} :
    (name, id) ∈ graph.roots ↔ graph.globals.get? name = some id ∨
      ∃ frame ∈ graph.stack, frame.locals.get? name = some id := by
  simp only [roots, frames, List.mem_append, List.mem_flatMap, List.mem_reverse,
    Table.mem_toList_iff]

theorem fields_of_layout {id : ObjectId} {layout : Layout}
    (found : graph.layouts.get? id = some layout) : layout.fields id = graph.fieldsOf id := by
  rw [fieldsOf, Graph.layout, found]
  rfl

theorem hasObject_of_object? {id : ObjectId} {object : Object}
    (found : graph.object? id = some object) : graph.hasObject id = true :=
  (graph.hasObject_iff).2 ⟨object, found⟩

theorem hasObject_iff_get? {id : ObjectId} :
    graph.hasObject id = true ↔ ∃ placement, graph.objects.get? id = some placement := by
  rw [hasObject, Table.contains, Option.isSome_iff_exists]

theorem object?_of_hasObject_eq_false {id : ObjectId} (absent : graph.hasObject id = false) :
    graph.object? id = none := by
  cases found : graph.object? id with
  | none => rfl
  | some object =>
      rw [hasObject_of_object? found] at absent
      simp at absent

/-- Nothing is known of a value that is not in the graph. -/
theorem knowledge_of_hasValue_eq_false {value : ValueId} (absent : graph.hasValue value = false) :
    graph.knowledge value = .nothing := by
  rw [hasValue, Table.contains, Option.isSome_eq_false_iff, Option.isNone_iff_eq_none] at absent
  rw [knowledge, absent]
  rfl

/-- An address is in the graph. -/
theorem hasValue_of_target? {value : ValueId} {place : Target}
    (leads : graph.target? value = some place) : graph.hasValue value = true := by
  cases present : graph.hasValue value with
  | true => rfl
  | false =>
      rw [target?, knowledge_of_hasValue_eq_false present] at leads
      simp [Knowledge.nothing] at leads

/-- At least the zero value was drawn. -/
theorem DrawnBefore.positive {graph : Graph} {position : Nat} (drawn : graph.DrawnBefore position)
    (checked : graph.Checked) : 0 < position :=
  drawn.2.1 .zero (Table.mem_keys_iff.2 (hasValue_of_target? checked.zero))

/-- Nothing is known of a value that was not drawn. -/
theorem DrawnBefore.number? {graph : Graph} {position : Nat} (drawn : graph.DrawnBefore position)
    {value : ValueId} (late : position ≤ value.index) : graph.number? value = none := by
  have absent : graph.hasValue value = false := by
    by_contra present
    have early := drawn.2.1 value (Table.mem_keys_iff.2 (Bool.of_not_eq_false present))
    exact absurd early (Nat.not_lt_of_le late)
  rw [Graph.number?, knowledge_of_hasValue_eq_false absent]
  rfl

/-! ### Graphs that pass the check -/

/-- Fields that follow each other and fit pass the check. -/
theorem checkFields_of_follow {size least : Nat} {fields : List Field}
    (follow : fields.Pairwise fun a b => a.range.offset + a.range.size ≤ b.range.offset)
    (start : ∀ field ∈ fields, least ≤ field.range.offset)
    (fits : ∀ field ∈ fields, field.range.fits size = true)
    (values : ∀ field ∈ fields, graph.hasValue field.value = true) :
    graph.checkFields size least fields = .ok () := by
  induction fields generalizing least with
  | nil => rfl
  | cons field rest ih =>
      obtain ⟨later, follow⟩ := List.pairwise_cons.1 follow
      have stop := BitRange.stop_of_fits (fits field List.mem_cons_self)
      have bound := (BitRange.fits_iff.1 (fits field List.mem_cons_self)).2
      have here := start field List.mem_cons_self
      have isValue := values field List.mem_cons_self
      rw [checkFields, if_neg (by omega), if_neg (by omega), isValue, Bool.not_true,
        if_neg (by simp)]
      refine ih follow (fun next member => ?_)
        (fun next member => fits next (List.mem_cons_of_mem _ member))
        (fun next member => values next (List.mem_cons_of_mem _ member))
      have after := later next member
      omega

/-- What the check of a graph with fields in reach comes to: its tables fit together. -/
structure Fitting (graph : Graph) : Prop where
  /-- The zero value is the address of NULL. -/
  zero : graph.target? .zero = some .null
  /-- Layouts are those of objects. -/
  layouts : ∀ id, (graph.layouts.get? id).isSome = true → graph.hasObject id = true
  /-- Every field fits its object. -/
  fits : ∀ {object range value}, graph.valueAt? object range = some value →
    ∃ found, graph.object? object = some found ∧ range.fits found.size = true
  /-- Of two fields of an object, the one that starts first ends before the other one starts. -/
  follow : ∀ {object range value later held}, graph.valueAt? object range = some value →
    graph.valueAt? object later = some held → range.offset < later.offset →
    range.offset + range.size ≤ later.offset
  /-- Fields hold values of the graph. -/
  values : ∀ {object range value}, graph.valueAt? object range = some value →
    graph.hasValue value = true
  /-- Addresses lead to objects. -/
  targets : ∀ {value target}, graph.target? value = some target →
    graph.hasObject target.object = true
  /-- Variables name objects. -/
  roots : ∀ entry ∈ graph.roots, graph.hasObject entry.2 = true

namespace Fitting

/-- An object that is not in the graph holds nothing. -/
theorem valueAt?_of_absent (fitting : graph.Fitting) {object : ObjectId}
    (absent : graph.hasObject object = false) (range : BitRange) :
    graph.valueAt? object range = none := by
  cases held : graph.valueAt? object range with
  | none => rfl
  | some value =>
      obtain ⟨found, there, -⟩ := fitting.fits held
      rw [hasObject_of_object? there] at absent
      simp at absent

/-- The fields of an object follow each other. -/
theorem pairwise_fieldsOf (fitting : graph.Fitting) (object : ObjectId) :
    (graph.fieldsOf object).Pairwise fun a b =>
      a.range.offset + a.range.size ≤ b.range.offset :=
  (Graph.pairwise_fieldsOf object).imp_of_mem fun memberA memberB less =>
    fitting.follow (mem_fieldsOf_iff.1 memberA).2 (mem_fieldsOf_iff.1 memberB).2 less

theorem checked (fitting : graph.Fitting) : graph.Checked where
  zero := fitting.zero
  layouts := by
    rintro ⟨id, layout⟩ member
    have found := Table.mem_toList_iff.1 member
    obtain ⟨object, isObject⟩ := (graph.hasObject_iff).1 (fitting.layouts id (by rw [found]; rfl))
    have given : graph.object id = .ok object := (graph.object_eq_ok_iff).2 isObject
    have passed : graph.checkFields object.size 0 (graph.fieldsOf id) = .ok () := by
      refine checkFields_of_follow (fitting.pairwise_fieldsOf id) (fun _ _ => Nat.zero_le _)
        (fun field inside => ?_) fun field inside => fitting.values (mem_fieldsOf_iff.1 inside).2
      obtain ⟨holder, there, fit⟩ := fitting.fits (mem_fieldsOf_iff.1 inside).2
      obtain rfl := Option.some.inj (isObject.symm.trans there)
      exact fit
    unfold checkLayout
    simp only [given, bind, Except.bind, fields_of_layout found]
    exact passed
  pointers pointer member := fitting.targets (mem_pointers_iff.1 member)
  roots := fitting.roots

theorem consistent (fitting : graph.Fitting) : graph.Consistent :=
  check_eq_ok_iff.2 fitting.checked

theorem inReach (fitting : graph.Fitting) : graph.InReach := fun _ member => by
  obtain ⟨_, -, fit⟩ := fitting.fits (mem_fields_iff.1 member)
  exact (BitRange.fits_iff.1 fit).1

end Fitting

/-- The tables of a graph that passes the check fit together. -/
theorem Checked.fitting (checked : graph.Checked) (reach : graph.InReach) : graph.Fitting where
  zero := checked.zero
  layouts id present := by
    obtain ⟨layout, found⟩ := Option.isSome_iff_exists.1 present
    have passed := checked.layouts (id, layout) (Table.mem_toList_iff.2 found)
    cases there : graph.object id with
    | ok object => exact hasObject_of_object? ((graph.object_eq_ok_iff).1 there)
    | error fault => simp [checkLayout, there, bind, Except.bind] at passed
  fits held := by
    obtain ⟨⟨found, there, within⟩, -⟩ := checked.of_held reach held
    exact ⟨found, there, BitRange.fits_iff.2 ⟨reach.of_held held, within⟩⟩
  follow {object range value later held} first second less := by
    obtain ⟨-, -, separate⟩ := checked.of_held reach first
    -- The list is ordered by where fields start, so only one order of the two is possible.
    have ordered : ∀ a ∈ graph.fieldsOf object, ∀ b ∈ graph.fieldsOf object,
        a.range.offset < b.range.offset → a.range.offset + a.range.size ≤ b.range.offset := by
      have both := separate.and (Graph.pairwise_fieldsOf object)
      have forward := both.imp (S := fun a b => a.range.offset < b.range.offset →
        a.range.offset + a.range.size ≤ b.range.offset) fun follows _ => follows.1
      have backward := both.imp (S := flip fun a b => a.range.offset < b.range.offset →
        a.range.offset + a.range.size ≤ b.range.offset) fun {a b} follows less =>
          absurd less (Nat.lt_asymm follows.2)
      exact fun a memberA b memberB => forward.forall_of_forall_of_flip
        (fun _ _ less => absurd less (Nat.lt_irrefl _)) backward memberA memberB
    exact ordered ⟨object, range, value⟩ (mem_fieldsOf.2 first) ⟨object, later, held⟩
      (mem_fieldsOf.2 second) less
  values held := (checked.of_held reach held).2.1
  targets leads := checked.pointers ⟨_, _⟩ (mem_pointers_iff.2 leads)
  roots := checked.roots

namespace Tiled

/-- A graph is tiled that holds no more than a tiled one, in objects of the same sizes. -/
theorem of_fewer {next : Graph} (tiled : graph.Tiled)
    (fewer : ∀ {object range value}, next.valueAt? object range = some value →
      graph.valueAt? object range = some value)
    (sizes : ∀ {object range value found}, next.valueAt? object range = some value →
      graph.object? object = some found →
      ∃ found', next.object? object = some found' ∧ found'.size = found.size) :
    next.Tiled where
  positive held := tiled.positive (fewer held)
  fits held := by
    obtain ⟨found, there, fit⟩ := tiled.fits (fewer held)
    obtain ⟨found', there', size⟩ := sizes held there
    exact ⟨found', there', size ▸ fit⟩
  apart here there := tiled.apart (fewer here) (fewer there)

end Tiled

namespace Sound

theorem fitting (sound : graph.Sound) : graph.Fitting where
  zero := sound.zero
  layouts := sound.layouts
  fits := sound.tiled.fits
  follow first second less := by
    have bits := sound.tiled.positive second
    rcases sound.tiled.apart first second with rfl | before | after
    · exact absurd less (Nat.lt_irrefl _)
    · exact before
    · omega
  values := sound.values
  targets := sound.targets
  roots entry member := (sound.nameables entry member).present

/-- A sound graph passes the check. -/
theorem checked (sound : graph.Sound) : graph.Checked :=
  sound.fitting.checked

theorem consistent (sound : graph.Sound) : graph.Consistent :=
  check_eq_ok_iff.2 sound.checked

/-- The NULL object of a sound graph. -/
theorem object?_null (sound : graph.Sound) : graph.object? .null = some .null := by
  rw [object?, sound.null]
  rfl

theorem hasObject_null (sound : graph.Sound) : graph.hasObject .null = true :=
  hasObject_of_object? sound.object?_null

/-- The zero value is in a sound graph. -/
theorem hasValue_zero (sound : graph.Sound) : graph.hasValue .zero = true :=
  hasValue_of_target? sound.zero

theorem isHeap_null (sound : graph.Sound) : graph.isHeap .null = false := by
  rw [isHeap, sound.null]
  rfl

/-- An object that holds something is in the graph. -/
theorem hasObject_of_held (sound : graph.Sound) {object : ObjectId} {range : BitRange}
    {value : ValueId} (held : graph.valueAt? object range = some value) :
    graph.hasObject object = true := by
  obtain ⟨found, there, -⟩ := sound.tiled.fits held
  exact hasObject_of_object? there

/-- An object that is not in the graph holds nothing. -/
theorem valueAt?_of_absent (sound : graph.Sound) {object : ObjectId}
    (absent : graph.hasObject object = false) (range : BitRange) :
    graph.valueAt? object range = none := by
  cases held : graph.valueAt? object range with
  | none => rfl
  | some value =>
      rw [sound.hasObject_of_held held] at absent
      simp at absent

end Sound

/-! ### The graph without memory -/

theorem valueAt?_initial (machine : Machine) (object : ObjectId) (range : BitRange) :
    (initial machine).valueAt? object range = none := rfl

theorem target?_initial (machine : Machine) (value : ValueId) :
    (initial machine).target? value = if value = .zero then some .null else none := by
  simp only [initial, target?, knowledge, Table.get?_insert]
  split <;> rfl

theorem sound_initial (machine : Machine) : (initial machine).Sound where
  zero := by rw [target?_initial, if_pos rfl]
  null := Table.get?_insert_self ..
  tiled := by
    refine ⟨fun held => ?_, fun held => ?_, fun held _ => ?_⟩ <;>
      simp [valueAt?_initial] at held
  layouts id found := by simp [initial] at found
  values held := by simp [valueAt?_initial] at held
  targets {value target} leads := by
    rw [target?_initial] at leads
    split at leads
    · obtain rfl := Option.some.inj leads
      rfl
    · simp at leads
  nameables entry member := by simp [roots, frames, initial] at member

end Graph

end ShapeDomain
