import ShapeDomain.Proofs.Graph.Plain
import ShapeDomain.Proofs.Run
import ShapeDomain.State.Operation

/-!
# States that exist side by side

Programs build their states from the empty one by operations, copy them and go on with the copies,
and all of them draw names from one supply.  Whatever the operations do, and whether or not they go
through, the graphs stay plain.
-/

namespace ShapeDomain

namespace State

/-- An operation that a program may perform: it accesses at least one bit, and it stores or
describes values that were drawn. -/
def Operation.Admissible (supply : Supply) : Operation → Prop
  | read _ range => 0 < range.size
  | write _ range value => 0 < range.size ∧ value.index < supply.next
  | assign value _ => value.index < supply.next
  | _ => True

instance (supply : Supply) (operation : Operation) : Decidable (operation.Admissible supply) := by
  cases operation <;> unfold Operation.Admissible <;> infer_instance

/-- The states that exist side by side, and the supply that all of them draw from. -/
inductive Family : List State → Supply → Prop where
  /-- There is no state yet. -/
  | none : Family [] .full
  /-- A state starts without memory. -/
  | create {states : List State} {supply : Supply} (machine : Machine) :
      Family states supply → Family (.initial machine :: states) supply
  /-- A state is copied. -/
  | copy {states : List State} {supply : Supply} {state : State} :
      Family states supply → state ∈ states → Family (state :: states) supply
  /-- A name is drawn for something else. -/
  | draw {states : List State} {supply : Supply} :
      Family states supply → Family states ⟨supply.next + 1⟩
  /-- An operation is performed on one of the states.  What it did before a fault stays done. -/
  | perform {before after : List State} {state : State} {supply : Supply}
      {operation : Operation} :
      Family (before ++ state :: after) supply → operation.Admissible supply →
      Family (before ++ (operation.perform.finish (state, supply)).1 :: after)
        (operation.perform.finish (state, supply)).2

/-! ### What operations maintain -/

/-- A property of graphs, where the supply has come to some position, that whatever a program does
to its memory maintains. -/
structure Maintained (fine : Nat → Graph → Prop) : Prop where
  /-- Such graphs are tame. -/
  tame : ∀ {start graph}, fine start graph → graph.Tame start
  /-- The supply may move on. -/
  later : ∀ {start graph}, fine start graph → ∀ {now}, start ≤ now → fine now graph
  /-- A program starts without memory. -/
  initial : ∀ machine, fine 1 (.initial machine)
  /-- A new region may be put into the heap. -/
  putRegion : ∀ {start graph}, fine start graph → ∀ size label,
    fine (start + 1) (graph.putPlacement ⟨start⟩ ⟨.region size label, true, true⟩)
  /-- A global variable may be declared. -/
  declareGlobal : ∀ {start graph}, fine start graph → ∀ name size,
    fine (start + 1) (graph.declareGlobal name ⟨start⟩ (.region size name))
  /-- A variable of the innermost function may be declared. -/
  declareLocal : ∀ {start graph next}, fine start graph → ∀ {name size},
    graph.declareLocal name ⟨start⟩ (.region size name) = .ok next → fine (start + 1) next
  /-- A function may be entered. -/
  enter : ∀ {start graph}, fine start graph → ∀ function, fine start (graph.enter function)
  /-- The innermost function may be left. -/
  leave : ∀ {start graph next frame}, fine start graph → graph.leave = some (frame, next) →
    fine start next
  /-- An object may be removed. -/
  removeObject : ∀ {start graph}, fine start graph → ∀ id, fine start (graph.removeObject id)
  /-- The validity of an object other than NULL may be set.  A freed object has no fields. -/
  setValid : ∀ {start graph next id valid}, fine start graph → id ≠ .null →
    (∀ {range value}, graph.valueAt? id range = some value → valid = true) →
    graph.setValid id valid = .ok next → fine start next
  /-- A value that was drawn may be added. -/
  addValue : ∀ {start graph value}, fine start graph → value.index < start →
    fine start (graph.addValue value)
  /-- It may be known to be a number. -/
  setNumber : ∀ {start graph value}, fine start graph → value.index < start → ∀ number,
    fine start (graph.setNumber value number)
  /-- It may become the address of a place that has none. -/
  addPointer : ∀ {start graph next value object offset}, fine start graph → value.index < start →
    graph.addressOf? ⟨object, offset, .region⟩ = none →
    graph.addPointer ⟨value, ⟨object, offset, .region⟩⟩ = .ok next → fine start next
  /-- A valid object may hold it. -/
  addField : ∀ {start graph next field}, fine start graph → 0 < field.range.size →
    field.value.index < start → graph.isValid field.object = true →
    graph.addField field = .ok next → fine start next
  /-- A field may be removed. -/
  removeField : ∀ {start graph}, fine start graph → ∀ field, fine start (graph.removeField field)

theorem plain_maintained : Maintained Graph.Plain where
  tame := Graph.Plain.tame
  later plain _ after := plain.later after
  initial := Graph.Plain.initial
  putRegion plain size label := plain.putRegion size label true
  declareGlobal plain := plain.declareGlobal
  declareLocal plain _ _ done := plain.declareLocal done
  enter plain := plain.enter
  leave plain left := plain.leave left
  removeObject plain := plain.removeObject
  setValid plain proper freed done := plain.setValid proper freed done
  addValue plain early := plain.addValue early
  setNumber plain early := plain.setNumber early
  addPointer plain early free done := plain.addPointer early free done
  addField plain bits early valid done := plain.addField bits early valid done
  removeField plain := plain.removeField

theorem tame_maintained : Maintained Graph.Tame where
  tame tame := tame
  later tame _ after := tame.later after
  initial := Graph.Tame.initial
  putRegion {start _} tame size label :=
    (tame.later (Nat.le_succ start)).putNew (tame.absent_of_late (Nat.le_refl start))
      (Nat.lt_succ_self start) (Object.shapely_region size label)
  declareGlobal {start _} tame _ _ :=
    (tame.later (Nat.le_succ start)).declareGlobal (tame.absent_of_late (Nat.le_refl start))
      (Nat.lt_succ_self start)
  declareLocal {start _ _} tame _ _ done :=
    (tame.later (Nat.le_succ start)).declareLocal (tame.absent_of_late (Nat.le_refl start))
      (Nat.lt_succ_self start) done
  enter tame := tame.enter
  leave tame left := tame.leave left
  removeObject tame := tame.removeObject
  setValid tame proper _ done := tame.setValid proper done
  addValue tame early := tame.addValue early
  setNumber tame early := tame.setNumber early
  addPointer tame early _ done := tame.addPointer early (.inl rfl) done
  addField tame bits early _ done := tame.addField bits early done
  removeField tame := tame.removeField

section Maintained

variable {fine : Nat → Graph → Prop}

/-- A computation on a state moves the supply on and keeps the graph fine, and `good` holds where it
goes through. -/
def Upholds (fine : Nat → Graph → Prop) {α : Type} (computation : Run State α)
    (here : State × Supply) (good : α → State × Supply → Prop) : Prop :=
  Run.Ends computation here
    (fun result there => here.2.next ≤ there.2.next ∧ fine there.2.next there.1.graph ∧
      good result there)
    (fun _ there => here.2.next ≤ there.2.next ∧ fine there.2.next there.1.graph)

section Upholds

variable {α β : Type} {here : State × Supply} {good : α → State × Supply → Prop}

theorem upholds_pure {result : α} (isFine : fine here.2.next here.1.graph)
    (holds : good result here) : Upholds fine (pure result) here good :=
  Run.ends_pure ⟨Nat.le_refl _, isFine, holds⟩

theorem Upholds.bind {first : Run State β} {next : β → Run State α}
    {middle : β → State × Supply → Prop} (start : Upholds fine first here middle)
    (rest : ∀ result there, here.2.next ≤ there.2.next → fine there.2.next there.1.graph →
      middle result there → Upholds fine (next result) there good) :
    Upholds fine (first >>= next) here good := by
  refine Run.Ends.bind start ?_
  rintro result there ⟨after, isFine, holds⟩
  refine (rest result there after isFine holds).mono ?_ ?_
  · rintro last final ⟨later, isFine', holds'⟩
    exact ⟨Nat.le_trans after later, isFine', holds'⟩
  · rintro fault final ⟨later, isFine'⟩
    exact ⟨Nat.le_trans after later, isFine'⟩

theorem upholds_bind_of_ok {first : Run State β} {next : β → Run State α} {result : β}
    {there : State × Supply} (done : first here = .ok result there)
    (after : here.2.next ≤ there.2.next) (rest : Upholds fine (next result) there good) :
    Upholds fine (first >>= next) here good := by
  refine Run.ends_bind_of_ok done (rest.mono ?_ ?_)
  · rintro last final ⟨later, isFine, holds⟩
    exact ⟨Nat.le_trans after later, isFine, holds⟩
  · rintro fault final ⟨later, isFine⟩
    exact ⟨Nat.le_trans after later, isFine⟩

theorem upholds_forM {ε : Type} (kept : State → Prop) {list : List ε}
    {step : ε → Run State PUnit} (isFine : fine here.2.next here.1.graph) (start : kept here.1)
    (keeps : ∀ item ∈ list, ∀ there : State × Supply, fine there.2.next there.1.graph →
      kept there.1 → Upholds fine (step item) there fun _ next => kept next.1) :
    Upholds fine (list.forM step) here fun _ there => kept there.1 := by
  induction list generalizing here with
  | nil => exact upholds_pure isFine start
  | cons item rest ih =>
      refine (keeps item List.mem_cons_self here isFine start).bind
        fun _ there _ isFine' start' => ?_
      exact ih isFine' start' fun later member => keeps later (List.mem_cons_of_mem _ member)

end Upholds

variable {here : State × Supply}

theorem upholds_modifyGraph {change : Graph → Graph}
    (isFine : fine here.2.next (change here.1.graph)) :
    Upholds fine (modifyGraph change) here fun _ there =>
      there = ({ here.1 with graph := change here.1.graph }, here.2) := by
  have done : modifyGraph change here =
      .ok () ({ here.1 with graph := change here.1.graph }, here.2) := rfl
  exact Run.ends_of_ok done ⟨Nat.le_refl _, isFine, rfl⟩

theorem attemptGraph_ok {change : Graph → Except Fault Graph} {next : Graph}
    (done : change here.1.graph = .ok next) :
    attemptGraph change here = .ok () ({ here.1 with graph := next }, here.2) := by
  rw [attemptGraph, onGraph, Run.within_apply, Run.attempt_apply_ok done]

theorem attemptGraph_error {change : Graph → Except Fault Graph} {fault : Fault}
    (refused : change here.1.graph = .error fault) :
    attemptGraph change here = .error fault here := by
  rw [attemptGraph, onGraph, Run.within_apply, Run.attempt_apply_error refused]

/-- A change that is refused changes nothing. -/
theorem upholds_attemptGraph {change : Graph → Except Fault Graph}
    (isFine : fine here.2.next here.1.graph)
    (keeps : ∀ next, change here.1.graph = .ok next → fine here.2.next next) :
    Upholds fine (attemptGraph change) here fun _ there =>
      change here.1.graph = .ok there.1.graph := by
  cases outcome : change here.1.graph with
  | ok next =>
      exact Run.ends_of_ok (attemptGraph_ok outcome)
        ⟨Nat.le_refl _, keeps next outcome, rfl⟩
  | error fault =>
      exact Run.ends_of_error (attemptGraph_error outcome) ⟨Nat.le_refl _, isFine⟩

theorem newValue_apply :
    onGraph Graph.newValue here =
      .ok ⟨here.2.next⟩ ({ here.1 with graph := here.1.graph.addValue ⟨here.2.next⟩ },
        ⟨here.2.next + 1⟩) := rfl

theorem Maintained.removeObjects (maintained : Maintained fine) {start : Nat} {graph : Graph}
    (isFine : fine start graph) (ids : List ObjectId) : fine start (graph.removeObjects ids) := by
  induction ids generalizing graph with
  | nil => exact isFine
  | cons id rest ih => exact ih (maintained.removeObject isFine id)

theorem Maintained.removeFields (maintained : Maintained fine) {start : Nat} {graph : Graph}
    (isFine : fine start graph) (fields : List Field) : fine start (graph.removeFields fields) := by
  induction fields generalizing graph with
  | nil => exact isFine
  | cons field rest ih => exact ih (maintained.removeField isFine field)

theorem Maintained.newValue (maintained : Maintained fine)
    (isFine : fine here.2.next here.1.graph) :
    fine (here.2.next + 1) (here.1.graph.addValue ⟨here.2.next⟩) :=
  maintained.addValue (maintained.later isFine (Nat.le_succ _)) (Nat.lt_succ_self _)

theorem Maintained.upholds_newValue (maintained : Maintained fine)
    (isFine : fine here.2.next here.1.graph) :
    Upholds fine (onGraph Graph.newValue) here fun _ _ => True :=
  Run.ends_of_ok newValue_apply ⟨Nat.le_succ _, maintained.newValue isFine, trivial⟩

theorem upholds_report (isFine : fine here.2.next here.1.graph)
    (change : Findings → Findings) : Upholds fine (report change) here fun _ _ => True :=
  Run.ends_of_ok (Run.modify_apply _ _) ⟨Nat.le_refl _, isFine, trivial⟩

theorem Maintained.upholds_takeAddress (maintained : Maintained fine)
    (isFine : fine here.2.next here.1.graph) (object : ObjectId)
    (offset : Nat) : Upholds fine (takeAddress object offset) here fun _ _ => True := by
  unfold takeAddress
  refine upholds_bind_of_ok (Run.ask_apply _ _) (Nat.le_refl _) ?_
  cases found : here.1.graph.addressOf? ⟨object, offset, .region⟩ with
  | some value => exact upholds_pure isFine trivial
  | none =>
      refine upholds_bind_of_ok newValue_apply (Nat.le_succ _) ?_
      have isFine' := maintained.newValue isFine
      have free : (here.1.graph.addValue ⟨here.2.next⟩).addressOf?
          ⟨object, offset, .region⟩ = none := by
        rw [Graph.addressOf?, Option.map_eq_none_iff, List.find?_eq_none] at found ⊢
        intro pointer member
        refine found pointer (Graph.mem_pointers_iff.2 ?_)
        rw [← Graph.mem_pointers_iff.1 member, Graph.target?_addValue]
      refine (upholds_attemptGraph isFine' fun next done => ?_).bind fun _ there _ isFine'' _ =>
        upholds_pure isFine'' trivial
      exact maintained.addPointer isFine' (Nat.lt_succ_self _) free done

theorem Maintained.upholds_allocate (maintained : Maintained fine)
    (isFine : fine here.2.next here.1.graph) (size : Nat) (label : String) :
    Upholds fine (allocate size label) here fun _ _ => True := by
  unfold allocate
  refine upholds_bind_of_ok (Run.draw_objectId_apply _) (Nat.le_succ _) ?_
  have added : fine (here.2.next + 1)
      (here.1.graph.addHeapObject ⟨here.2.next⟩ (.region size label)) := by
    rw [Graph.addHeapObject_of_absent ((maintained.tame isFine).absent_of_late (Nat.le_refl _))]
    exact maintained.putRegion isFine size label
  refine (upholds_modifyGraph (by exact added)).bind fun _ there _ isFine' _ => ?_
  exact maintained.upholds_takeAddress isFine' _ 0

theorem Maintained.upholds_declareGlobal (maintained : Maintained fine)
    (isFine : fine here.2.next here.1.graph) (name : String)
    (size : Nat) : Upholds fine (State.declareGlobal name size) here fun _ _ => True := by
  unfold State.declareGlobal
  refine upholds_bind_of_ok (Run.draw_objectId_apply _) (Nat.le_succ _) ?_
  refine (upholds_modifyGraph (by exact maintained.declareGlobal isFine name size)).bind
    fun _ there _ isFine' _ => upholds_pure isFine' trivial

theorem Maintained.upholds_declareLocal (maintained : Maintained fine)
    (isFine : fine here.2.next here.1.graph) (name : String)
    (size : Nat) : Upholds fine (State.declareLocal name size) here fun _ _ => True := by
  unfold State.declareLocal
  refine upholds_bind_of_ok (Run.draw_objectId_apply _) (Nat.le_succ _) ?_
  have later := maintained.later isFine (Nat.le_succ here.2.next)
  refine (upholds_attemptGraph (by exact later) fun next done => ?_).bind
    fun _ there _ isFine' _ => upholds_pure isFine' trivial
  exact maintained.declareLocal isFine done

theorem Maintained.upholds_free (maintained : Maintained fine)
    (isFine : fine here.2.next here.1.graph) (address : ValueId) :
    Upholds fine (free address) here fun _ _ => True := by
  unfold free
  split
  · exact upholds_pure isFine trivial
  · refine upholds_bind_of_ok (Run.ask_apply _ _) (Nat.le_refl _) ?_
    cases found : freeable? here.1.graph address with
    | none => exact upholds_report isFine _
    | some object =>
        have proper : object ≠ .null := by
          rintro rfl
          simp only [freeable?, Option.bind_eq_some_iff] at found
          obtain ⟨target, -, found⟩ := found
          split at found
          case isTrue conditions =>
            obtain ⟨-, heap, -⟩ := conditions
            rw [Option.some.inj found, (maintained.tame isFine).sound.isHeap_null] at heap
            simp at heap
          case isFalse => simp at found
        refine (upholds_modifyGraph (maintained.removeFields isFine _)).bind ?_
        intro _ there _ isFine' same
        refine (upholds_attemptGraph isFine' fun next done =>
          maintained.setValid isFine' proper (fun held => ?_) done).mono
          (fun _ _ holds => ⟨holds.1, holds.2.1, trivial⟩) fun _ _ holds => holds
        rw [same, Graph.valueAt?_removeFieldsOf] at held
        simp at held

/-- What may be accessed is a valid object that the range fits into. -/
theorem exists_of_mayAccess {graph : Graph} {object : ObjectId} {range : BitRange}
    (allowed : mayAccess graph object range = true) :
    ∃ found, graph.object? object = some found ∧ graph.isValid object = true ∧
      range.fits found.size = true := by
  rw [mayAccess, Option.any_eq_true] at allowed
  obtain ⟨found, present, conditions⟩ := allowed
  rw [Bool.and_eq_true, Bool.and_eq_true] at conditions
  exact ⟨found, present, conditions.1.2, conditions.2⟩

theorem Maintained.upholds_read (maintained : Maintained fine)
    (isFine : fine here.2.next here.1.graph) (object : ObjectId)
    {range : BitRange} (bits : 0 < range.size) :
    Upholds fine (read object range) here fun _ _ => True := by
  unfold read
  refine upholds_bind_of_ok (Run.ask_apply _ _) (Nat.le_refl _) ?_
  split
  case isTrue =>
    exact (upholds_report isFine _).bind fun _ there _ isFine' _ =>
      maintained.upholds_newValue isFine'
  case isFalse refused =>
    obtain ⟨-, -, valid, -⟩ := exists_of_mayAccess (by simpa using refused)
    cases held : here.1.graph.valueAt? object range with
    | some value => exact upholds_pure isFine trivial
    | none =>
        simp only
        split
        · refine upholds_bind_of_ok newValue_apply (Nat.le_succ _) ?_
          have isFine' := maintained.newValue isFine
          refine (upholds_attemptGraph isFine' fun next done => ?_).bind fun _ there _ isFine'' _ =>
            upholds_pure isFine'' trivial
          exact maintained.addField isFine' bits (Nat.lt_succ_self _) (by exact valid) done
        · split
          · exact upholds_pure isFine trivial
          · exact maintained.upholds_newValue isFine

/-- What is left of an overwritten field is in the same object, has bits and holds zero. -/
theorem of_mem_remainders {range : BitRange} {field part : Field}
    (member : part ∈ remainders range field) :
    part.object = field.object ∧ 0 < part.range.size ∧ part.value = .zero := by
  unfold remainders at member
  split at member
  case isFalse => simp at member
  case isTrue zero =>
    have isZero : field.value = .zero := by simpa [ValueId.isZero] using zero
    rcases List.mem_append.1 member with before | after
    · split at before
      · obtain rfl := List.mem_singleton.1 before
        refine ⟨rfl, ?_, isZero⟩
        show 0 < range.offset - field.range.offset
        omega
      · simp at before
    · split at after
      · obtain rfl := List.mem_singleton.1 after
        refine ⟨rfl, ?_, isZero⟩
        show 0 < field.range.stop - range.stop
        omega
      · simp at after

/-- To overwrite a field keeps all objects valid. -/
theorem Maintained.upholds_overwrite (maintained : Maintained fine)
    (isFine : fine here.2.next here.1.graph) (range : BitRange)
    {field : Field} (valid : here.1.graph.isValid field.object = true) :
    Upholds fine (overwrite range field) here fun _ there =>
      there.1.graph.isValid field.object = true := by
  have removes : Upholds fine (modifyGraph fun graph => graph.removeField field) here _ :=
    upholds_modifyGraph (maintained.removeField isFine field)
  refine removes.bind fun _ there _ isFine' same => ?_
  have valid' : there.1.graph.isValid field.object = true := by
    rw [same]
    show (here.1.graph.removeField field).isValid field.object = true
    rw [Graph.isValid, Graph.objects_removeField]
    exact valid
  refine upholds_forM (fun state => state.graph.isValid field.object = true) isFine' valid'
    fun part member last fineLast validLast => ?_
  obtain ⟨inObject, partBits, isZero⟩ := of_mem_remainders member
  refine (upholds_attemptGraph fineLast fun next done =>
    maintained.addField fineLast partBits ?_ (inObject ▸ validLast) done).mono
    (fun _ final holds => ⟨holds.1, holds.2.1, ?_⟩) fun _ _ holds => holds
  · rw [isZero]
    exact (maintained.tame fineLast).positive
  · show final.1.graph.isValid field.object = true
    rw [Graph.isValid, Graph.objects_of_addField holds.2.2]
    exact validLast

theorem Maintained.upholds_write (maintained : Maintained fine)
    (isFine : fine here.2.next here.1.graph) (object : ObjectId)
    {range : BitRange} {value : ValueId} (bits : 0 < range.size)
    (early : value.index < here.2.next) :
    Upholds fine (write object range value) here fun _ _ => True := by
  unfold write
  refine upholds_bind_of_ok (Run.ask_apply _ _) (Nat.le_refl _) ?_
  split
  case isTrue => exact upholds_report isFine _
  case isFalse refused =>
    obtain ⟨-, -, valid, -⟩ := exists_of_mayAccess (by simpa using refused)
    refine Upholds.bind (upholds_forM (fun state => state.graph.isValid object = true) isFine
      valid fun field member there isFine' valid => ?_) ?_
    · have inObject := (Graph.mem_fieldsOf_iff.1 (List.mem_filter.1 member).1).1
      rw [← inObject] at valid ⊢
      exact maintained.upholds_overwrite isFine' range valid
    · intro _ there after isFine' valid
      have early' := Nat.lt_of_lt_of_le early after
      refine (upholds_modifyGraph (maintained.addValue isFine' early')).bind
        fun _ there' after' isFine'' same => ?_
      refine (upholds_attemptGraph isFine'' fun next done =>
        maintained.addField isFine'' bits ?_ ?_ done).mono
        (fun _ _ holds => ⟨holds.1, holds.2.1, trivial⟩) fun _ _ holds => holds
      · exact Nat.lt_of_lt_of_le early' after'
      · rw [same]
        exact valid

theorem Maintained.collect (maintained : Maintained fine) {state : State} {start : Nat}
    (isFine : fine start state.graph) : fine start state.collect.graph :=
  maintained.removeObjects isFine _

theorem plain_collect {state : State} {start : Nat} (plain : state.graph.Plain start) :
    state.collect.graph.Plain start :=
  plain.removeObjects _

/-- Every admissible operation moves the supply on and keeps the graph fine, whether or not it goes
through. -/
theorem Maintained.upholds_perform (maintained : Maintained fine)
    (isFine : fine here.2.next here.1.graph) {operation : Operation}
    (admissible : operation.Admissible here.2) :
    Upholds fine operation.perform here fun _ _ => True := by
  cases operation with
  | enter function =>
      exact upholds_bind_of_ok (Run.modify_apply _ _) (Nat.le_refl _)
        (upholds_pure (maintained.enter isFine function) trivial)
  | leave =>
      refine upholds_bind_of_ok (Run.ask_apply _ _) (Nat.le_refl _) ?_
      cases left : here.1.leave with
      | none => exact upholds_pure isFine trivial
      | some outcome =>
          obtain ⟨frame, state⟩ := outcome
          obtain ⟨⟨frame', graph⟩, leaves, same⟩ := Option.map_eq_some_iff.1 left
          obtain ⟨rfl, rfl⟩ := Prod.mk.inj same
          have isFine' : fine here.2.next (State.collect { here.1 with graph := graph }).graph :=
            maintained.collect (maintained.leave isFine leaves)
          exact upholds_bind_of_ok (Run.modify_apply _ _) (Nat.le_refl _)
            (upholds_pure isFine' trivial)
  | declareGlobal name size =>
      exact (maintained.upholds_declareGlobal isFine name size).bind fun _ _ _ isFine' _ =>
        upholds_pure isFine' trivial
  | declareLocal name size =>
      exact (maintained.upholds_declareLocal isFine name size).bind fun _ _ _ isFine' _ =>
        upholds_pure isFine' trivial
  | allocate size label =>
      exact (maintained.upholds_allocate isFine size label).bind fun _ _ _ isFine' _ =>
        upholds_pure isFine' trivial
  | free address =>
      exact (maintained.upholds_free isFine address).bind fun _ _ _ isFine' _ =>
        upholds_pure isFine' trivial
  | takeAddress object offset =>
      exact (maintained.upholds_takeAddress isFine object offset).bind fun _ _ _ isFine' _ =>
        upholds_pure isFine' trivial
  | read object range =>
      exact (maintained.upholds_read isFine object admissible).bind fun _ _ _ isFine' _ =>
        upholds_pure isFine' trivial
  | write object range value =>
      exact (maintained.upholds_write isFine object admissible.1 admissible.2).bind
        fun _ _ _ isFine' _ => upholds_pure isFine' trivial
  | assign value number =>
      exact upholds_bind_of_ok (Run.modify_apply _ _) (Nat.le_refl _)
        (upholds_pure (maintained.setNumber isFine admissible number) trivial)
  | collect =>
      exact upholds_bind_of_ok (Run.modify_apply _ _) (Nat.le_refl _)
        (upholds_pure (maintained.collect isFine) trivial)

theorem Maintained.finish (maintained : Maintained fine) {state : State} {supply : Supply}
    (isFine : fine supply.next state.graph) {operation : Operation}
    (admissible : operation.Admissible supply) :
    supply.next ≤ (operation.perform.finish (state, supply)).2.next ∧
      fine (operation.perform.finish (state, supply)).2.next
        (operation.perform.finish (state, supply)).1.graph := by
  have ends : Upholds fine operation.perform (state, supply) fun _ _ => True :=
    maintained.upholds_perform isFine admissible
  unfold Run.finish
  cases outcome : operation.perform (state, supply) with
  | ok result there => exact ⟨(ends.of_eq_ok outcome).1, (ends.of_eq_ok outcome).2.1⟩
  | error fault there => exact ends.of_eq_error outcome

/-- Some names were drawn, and the graphs of several states are fine. -/
def AllFine (fine : Nat → Graph → Prop) (states : List State) (supply : Supply) : Prop :=
  0 < supply.next ∧ ∀ state ∈ states, fine supply.next state.graph

namespace AllFine

variable {states before after : List State} {supply : Supply} {state : State}

/-- One state more is fine. -/
theorem cons (all : AllFine fine states supply) (isFine : fine supply.next state.graph) :
    AllFine fine (state :: states) supply :=
  ⟨all.1, List.forall_mem_cons.2 ⟨isFine, all.2⟩⟩

theorem later (maintained : Maintained fine) (all : AllFine fine states supply) {now : Supply}
    (moved : supply.next ≤ now.next) : AllFine fine states now :=
  ⟨Nat.lt_of_lt_of_le all.1 moved, fun state member => maintained.later (all.2 state member) moved⟩

theorem create (maintained : Maintained fine) (all : AllFine fine states supply)
    (machine : Machine) :
    AllFine fine (.initial machine :: states) supply :=
  all.cons (maintained.later (maintained.initial machine) all.1)

theorem perform (maintained : Maintained fine)
    (all : AllFine fine (before ++ state :: after) supply)
    {operation : Operation} (admissible : operation.Admissible supply) :
    AllFine fine (before ++ (operation.perform.finish (state, supply)).1 :: after)
      (operation.perform.finish (state, supply)).2 := by
  obtain ⟨moved, isFine⟩ := maintained.finish (all.2 state (by simp)) admissible
  obtain ⟨positive, others⟩ := all.later maintained moved
  refine ⟨positive, fun other member => ?_⟩
  rcases List.mem_append.1 member with inBefore | inAfter
  · exact others other (List.mem_append_left _ inBefore)
  · rcases List.mem_cons.1 inAfter with rfl | inAfter
    · exact isFine
    · exact others other (List.mem_append_right _ (List.mem_cons_of_mem _ inAfter))

end AllFine

/-- What operations maintain holds of the graphs of states that exist side by side. -/
theorem Family.maintained (maintained : Maintained fine) {states : List State} {supply : Supply}
    (family : Family states supply) : AllFine fine states supply := by
  induction family with
  | none => exact ⟨Nat.one_pos, by simp⟩
  | create machine _ ih => exact ih.create maintained machine
  | copy _ inside ih => exact ih.cons (ih.2 _ inside)
  | draw _ ih => exact ih.later maintained (Nat.le_succ _)
  | perform _ admissible ih => exact ih.perform maintained admissible

end Maintained

/-- The graphs of states that exist side by side are plain. -/
theorem Family.plain {states : List State} {supply : Supply} (family : Family states supply) :
    0 < supply.next ∧ ∀ state ∈ states, state.graph.Plain supply.next :=
  family.maintained plain_maintained

/-! ### Building states one after the other -/

/-- What a program does to the states that exist side by side, if it goes on with the latest one. -/
inductive Event where
  /-- Starts a state without memory. -/
  | create (machine : Machine)
  /-- Draws a name for something else. -/
  | draw
  /-- Performs an operation on the latest state. -/
  | perform (operation : Operation)

namespace Event

/-- What the states and the supply are afterwards. -/
def happen : Event → List State × Supply → List State × Supply
  | create machine, (states, supply) => (.initial machine :: states, supply)
  | draw, (states, supply) => (states, ⟨supply.next + 1⟩)
  | perform _, ([], supply) => ([], supply)
  | perform operation, (state :: states, supply) =>
      ((operation.perform.finish (state, supply)).1 :: states,
        (operation.perform.finish (state, supply)).2)

/-- The operation may be performed. -/
def Admissible (supply : Supply) : Event → Prop
  | perform operation => operation.Admissible supply
  | _ => True

instance (supply : Supply) (event : Event) : Decidable (event.Admissible supply) := by
  cases event <;> unfold Admissible <;> infer_instance

end Event

/-- The states and the supply after several events. -/
def happened (events : List Event) (here : List State × Supply) : List State × Supply :=
  events.foldl (fun here event => event.happen here) here

/-- Each of several events may happen after those before it. -/
def AllAdmissible : List Event → List State × Supply → Prop
  | [], _ => True
  | event :: rest, here => event.Admissible here.2 ∧ AllAdmissible rest (event.happen here)

instance decidableAllAdmissible : (events : List Event) → (here : List State × Supply) →
    Decidable (AllAdmissible events here)
  | [], _ => isTrue trivial
  | event :: rest, here =>
      have := decidableAllAdmissible rest (event.happen here)
      inferInstanceAs (Decidable (event.Admissible here.2 ∧ AllAdmissible rest (event.happen here)))

theorem Family.happen {states : List State} {supply : Supply} (family : Family states supply)
    {event : Event} (admissible : event.Admissible supply) :
    Family (event.happen (states, supply)).1 (event.happen (states, supply)).2 := by
  cases event with
  | create machine => exact .create machine family
  | draw => exact .draw family
  | perform operation =>
      cases states with
      | nil => exact family
      | cons state states =>
          have latest : Family ([] ++ state :: states) supply := family
          exact latest.perform admissible

/-- Events build states that exist side by side. -/
theorem Family.happened {events : List Event} {states : List State} {supply : Supply}
    (family : Family states supply) (admissible : AllAdmissible events (states, supply)) :
    Family (State.happened events (states, supply)).1
      (State.happened events (states, supply)).2 := by
  induction events generalizing states supply with
  | nil => exact family
  | cons event rest ih => exact ih (family.happen admissible.1) admissible.2

/-- One of the states that events build from nothing, counted from the latest one. -/
def built (events : List Event) (index : Nat) : State :=
  (happened events ([], .full)).1[index]?.getD (.initial .linux64)

/-- The supply after events that start from nothing. -/
def builtSupply (events : List Event) : Supply :=
  (happened events ([], .full)).2

/-- The states that events build from nothing exist side by side. -/
theorem family_built {events : List Event} (admissible : AllAdmissible events ([], .full)) :
    Family (happened events ([], .full)).1 (builtSupply events) :=
  Family.none.happened admissible

theorem built_mem {events : List Event} {index : Nat}
    (inside : index < (happened events ([], .full)).1.length) :
    built events index ∈ (happened events ([], .full)).1 := by
  rw [built, List.getElem?_eq_getElem inside, Option.getD_some]
  exact List.getElem_mem inside

end State

end ShapeDomain
