import ShapeDomain.Proofs.Graph.Changes
import ShapeDomain.Proofs.Run

/-!
# Putting several fields or pointers

Several fields are added one after the other where nothing is in their way, and several values
become addresses that were none before.  Both always go through.  The fields may be empty.
-/

namespace ShapeDomain

/-- Two ranges start at different bits and have none in common. -/
def BitRange.Separate (range other : BitRange) : Prop :=
  range.offset ≠ other.offset ∧ range.Apart other

namespace Graph

variable {graph : Graph}

/-! ### Fields -/

/-- Puts several fields. -/
def putFields (graph : Graph) (fields : List Field) : Graph :=
  fields.foldl putField graph

theorem target?_putFields (fields : List Field) (value : ValueId) :
    (graph.putFields fields).target? value = graph.target? value := by
  induction fields generalizing graph with
  | nil => rfl
  | cons field rest ih =>
      rw [putFields, List.foldl_cons]
      exact ih.trans (target?_putField field value)

theorem number?_putFields (fields : List Field) (value : ValueId) :
    (graph.putFields fields).number? value = graph.number? value := by
  induction fields generalizing graph with
  | nil => rfl
  | cons field rest ih =>
      rw [putFields, List.foldl_cons]
      exact ih.trans (number?_putField field value)

theorem frame_putFields (fields : List Field) :
    (graph.putFields fields).objects = graph.objects ∧
      (graph.putFields fields).stack = graph.stack ∧
      (graph.putFields fields).globals = graph.globals := by
  induction fields generalizing graph with
  | nil => exact ⟨rfl, rfl, rfl⟩
  | cons field rest ih => exact ih

theorem inequalities_putFields (fields : List Field) :
    (graph.putFields fields).inequalities = graph.inequalities := by
  induction fields generalizing graph with
  | nil => rfl
  | cons field rest ih => exact ih

/-- Only objects that get a field get a layout. -/
theorem of_isSome_layouts_putFields {fields : List Field} {id : ObjectId}
    (present : ((graph.putFields fields).layouts.get? id).isSome = true) :
    (∃ field ∈ fields, field.object = id) ∨ (graph.layouts.get? id).isSome = true := by
  induction fields generalizing graph with
  | nil => exact .inr present
  | cons field rest ih =>
      rcases @ih (graph.putField field) present with ⟨other, member, same⟩ | before
      · exact .inl ⟨other, List.mem_cons_of_mem _ member, same⟩
      · by_cases same : id = field.object
        · exact .inl ⟨field, List.mem_cons_self, same.symm⟩
        · rw [putField, Table.get?_insert_of_ne _ same] at before
          exact .inr before

theorem machine_putFields (fields : List Field) :
    (graph.putFields fields).machine = graph.machine := by
  induction fields generalizing graph with
  | nil => rfl
  | cons field rest ih => exact ih

theorem hasValue_putFields {fields : List Field}
    (present : ∀ field ∈ fields, graph.hasValue field.value = true) (value : ValueId) :
    (graph.putFields fields).hasValue value = graph.hasValue value := by
  induction fields generalizing graph with
  | nil => rfl
  | cons field rest ih =>
      have same (value : ValueId) :
        (graph.putField field).hasValue value = graph.hasValue value := by
        rw [hasValue_putField]
        by_cases equal : value = field.value
        · simp [equal, present field List.mem_cons_self]
        · simp [equal]
      refine (ih fun other member => ?_).trans (same value)
      rw [same]
      exact present other (List.mem_cons_of_mem _ member)

/-- Fields of a list that have nothing in their way, neither in the graph nor in the list. -/
structure AllClear (graph : Graph) (fields : List Field) : Prop where
  /-- Each field fits its object. -/
  fits : ∀ field ∈ fields, ∃ found, graph.object? field.object = some found ∧
    field.range.fits found.size = true
  /-- It is separate from what its object holds. -/
  clear : ∀ field ∈ fields, ∀ {other held}, graph.valueAt? field.object other = some held →
    other.Separate field.range
  /-- The fields are separate from each other. -/
  separate : fields.Pairwise fun a b => a.object = b.object → a.range.Separate b.range

theorem AllClear.step {field : Field} {rest : List Field} (all : graph.AllClear (field :: rest)) :
    (graph.putField field).AllClear rest := by
  obtain ⟨first, later⟩ := List.pairwise_cons.1 all.separate
  refine ⟨fun next member => all.fits next (List.mem_cons_of_mem _ member),
    fun next member other held found => ?_, later⟩
  rcases valueAt?_putField_iff.1 found with ⟨same, rfl, -⟩ | ⟨old, -⟩
  · exact first next member same.symm
  · exact all.clear next (List.mem_cons_of_mem _ member) old

/-- Fields can be added one after the other when nothing is in their way. -/
theorem forM_addField {fields : List Field} (change : Field → Field) {here : Graph × Supply}
    (all : here.1.AllClear (fields.map change)) :
    (fields.forM fun field => Run.attempt fun graph => graph.addField (change field)) here =
      .ok () (here.1.putFields (fields.map change), here.2) := by
  induction fields generalizing here with
  | nil => rfl
  | cons field rest ih =>
      obtain ⟨found, present, fit⟩ := all.fits (change field) List.mem_cons_self
      have clear {other : BitRange} {held : ValueId}
          (isHeld : here.1.valueAt? (change field).object other = some held) :
          other.Separate (change field).range := all.clear _ List.mem_cons_self isHeld
      have nothing : here.1.valueAt? (change field).object (change field).range = none :=
        Option.eq_none_iff_forall_ne_some.2 fun _ isHeld => (clear isHeld).1 rfl
      have added : here.1.addField (change field) = .ok (here.1.putField (change field)) :=
        addField_of_clear present fit nothing fun isHeld => (clear isHeld).2.overlaps_eq_false
      have step : Run.attempt (fun graph => graph.addField (change field)) here =
          .ok () (here.1.putField (change field), here.2) := Run.attempt_apply_ok added
      show ((Run.attempt fun graph => graph.addField (change field)) >>= fun _ =>
        rest.forM fun field => Run.attempt fun graph => graph.addField (change field)) here = _
      rw [Run.bind_apply_ok step]
      exact ih all.step

/-- What a graph holds after several fields were put that had nothing in their way. -/
theorem valueAt?_putFields {fields : List Field} (all : graph.AllClear fields) {object : ObjectId}
    {range : BitRange} {value : ValueId} :
    (graph.putFields fields).valueAt? object range = some value ↔
      ⟨object, range, value⟩ ∈ fields ∨ graph.valueAt? object range = some value := by
  induction fields generalizing graph with
  | nil => simp [putFields]
  | cons field rest ih =>
      have elsewhere (held : graph.valueAt? object range = some value)
          (same : object = field.object) :
          range.offset ≠ field.range.offset :=
        (all.clear field List.mem_cons_self (same ▸ held)).1
      have isField : (⟨object, range, value⟩ : Field) = field ↔
          object = field.object ∧ range = field.range ∧ value = field.value := by
        cases field
        simp
      rw [putFields, List.foldl_cons, ← putFields, ih all.step, valueAt?_putField_iff,
        List.mem_cons, isField, and_iff_left_of_imp elsewhere, or_left_comm, or_assoc]

/-! ### Pointers -/

/-- Makes several values addresses. -/
def putPointers (graph : Graph) (pointers : List Pointer) : Graph :=
  pointers.foldl putPointer graph

theorem number?_putPointers (pointers : List Pointer) (value : ValueId) :
    (graph.putPointers pointers).number? value = graph.number? value := by
  induction pointers generalizing graph with
  | nil => rfl
  | cons pointer rest ih =>
      rw [putPointers, List.foldl_cons]
      exact ih.trans (number?_putPointer value)

theorem frame_putPointers (pointers : List Pointer) :
    (graph.putPointers pointers).objects = graph.objects ∧
      (graph.putPointers pointers).layouts = graph.layouts ∧
      (graph.putPointers pointers).stack = graph.stack ∧
      (graph.putPointers pointers).globals = graph.globals := by
  induction pointers generalizing graph with
  | nil => exact ⟨rfl, rfl, rfl, rfl⟩
  | cons pointer rest ih => exact ih

theorem inequalities_putPointers (pointers : List Pointer) :
    (graph.putPointers pointers).inequalities = graph.inequalities := by
  induction pointers generalizing graph with
  | nil => rfl
  | cons pointer rest ih => exact ih

theorem machine_putPointers (pointers : List Pointer) :
    (graph.putPointers pointers).machine = graph.machine := by
  induction pointers generalizing graph with
  | nil => rfl
  | cons pointer rest ih => exact ih

theorem hasValue_putPointers {pointers : List Pointer}
    (present : ∀ pointer ∈ pointers, graph.hasValue pointer.value = true) (value : ValueId) :
    (graph.putPointers pointers).hasValue value = graph.hasValue value := by
  induction pointers generalizing graph with
  | nil => rfl
  | cons pointer rest ih =>
      have same (value : ValueId) :
          (graph.putPointer pointer).hasValue value = graph.hasValue value := by
        show (graph.putKnowledge _ _).hasValue value = _
        rw [hasValue_putKnowledge]
        by_cases equal : value = pointer.value
        · simp [equal, present pointer List.mem_cons_self]
        · simp [equal]
      refine (ih fun other member => ?_).trans (same value)
      rw [same]
      exact present other (List.mem_cons_of_mem _ member)

/-- Values of a list, all of them different and no addresses yet, that may become addresses. -/
structure AllFree (graph : Graph) (pointers : List Pointer) : Prop where
  /-- The objects are there. -/
  present : ∀ pointer ∈ pointers, graph.hasObject pointer.target.object = true
  /-- The values are no addresses. -/
  free : ∀ pointer ∈ pointers, graph.target? pointer.value = none
  /-- They are different. -/
  distinct : pointers.Pairwise fun a b => a.value ≠ b.value

theorem AllFree.step {pointer : Pointer} {rest : List Pointer}
    (all : graph.AllFree (pointer :: rest)) : (graph.putPointer pointer).AllFree rest := by
  obtain ⟨first, later⟩ := List.pairwise_cons.1 all.distinct
  refine ⟨fun next member => all.present next (List.mem_cons_of_mem _ member),
    fun next member => ?_, later⟩
  rw [target?_putPointer, if_neg (first next member).symm]
  exact all.free next (List.mem_cons_of_mem _ member)

/-- Pointers can be added one after the other when their values are no addresses. -/
theorem forM_addPointer {pointers : List Pointer} (change : Pointer → Pointer)
    {here : Graph × Supply} (all : here.1.AllFree (pointers.map change)) :
    (pointers.forM fun pointer => Run.attempt fun graph => graph.addPointer (change pointer)) here =
      .ok () (here.1.putPointers (pointers.map change), here.2) := by
  induction pointers generalizing here with
  | nil => rfl
  | cons pointer rest ih =>
      have added : here.1.addPointer (change pointer) =
          .ok (here.1.putPointer (change pointer)) :=
        addPointer_eq_ok_iff.2 ⟨all.present _ List.mem_cons_self,
          .inl (all.free _ List.mem_cons_self), rfl⟩
      have step : Run.attempt (fun graph => graph.addPointer (change pointer)) here =
          .ok () (here.1.putPointer (change pointer), here.2) := Run.attempt_apply_ok added
      show ((Run.attempt fun graph => graph.addPointer (change pointer)) >>= fun _ =>
        rest.forM fun pointer => Run.attempt fun graph =>
          graph.addPointer (change pointer)) here = _
      rw [Run.bind_apply_ok step]
      exact ih all.step

/-- Where values lead after several of them became addresses. -/
theorem target?_putPointers {pointers : List Pointer} (all : graph.AllFree pointers)
    {value : ValueId} {target : Target} :
    (graph.putPointers pointers).target? value = some target ↔
      ⟨value, target⟩ ∈ pointers ∨ graph.target? value = some target := by
  induction pointers generalizing graph with
  | nil => simp [putPointers]
  | cons pointer rest ih =>
      rw [putPointers, List.foldl_cons, ← putPointers, ih all.step, target?_putPointer,
        List.mem_cons]
      have isPointer : (⟨value, target⟩ : Pointer) = pointer ↔
          value = pointer.value ∧ target = pointer.target := by
        cases pointer
        simp
      rw [isPointer]
      split
      case isTrue same =>
        subst same
        rw [Option.some.injEq, all.free _ List.mem_cons_self]
        simp only [true_and, reduceCtorEq, or_false, eq_comm (a := pointer.target)]
        exact or_comm
      case isFalse different => simp only [different, false_and, false_or]

theorem pairwise_pointers (graph : Graph) :
    graph.pointers.Pairwise fun a b => a.value ≠ b.value := by
  have sorted := graph.values.sorted
  unfold pointers
  refine List.Pairwise.filterMap _ (fun {first second} less a isA b isB => ?_) sorted
  obtain ⟨target, -, rfl⟩ := Option.map_eq_some_iff.1 isA
  obtain ⟨target', -, rfl⟩ := Option.map_eq_some_iff.1 isB
  intro same
  simp only at same
  simp [KeyLt, same, Std.ReflCmp.compare_self] at less

end Graph

end ShapeDomain
