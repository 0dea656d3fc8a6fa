import ShapeDomain.Proofs.Graph.AddField
import ShapeDomain.Proofs.Graph.Removal
import ShapeDomain.Proofs.State.Family

/-!
# The course of a state

A state takes steps: operations are performed on it, and in between names are drawn for something
else.  This module says once what a step can change.  No step takes a finding back or makes a drawn
name the address of another place, and an object stays as it is unless the step frees it, accesses
it or removes it for good.
-/

namespace ShapeDomain

/-! ### Findings -/

namespace Findings

/-- Everything that was found is still found later. -/
structure Within (found later : Findings) : Prop where
  /-- Invalid reads are. -/
  invalidRead : found.invalidRead = true → later.invalidRead = true
  /-- Invalid writes are. -/
  invalidWrite : found.invalidWrite = true → later.invalidWrite = true
  /-- Invalid frees are. -/
  invalidFree : found.invalidFree = true → later.invalidFree = true
  /-- Leaks are. -/
  memoryLeak : found.memoryLeak = true → later.memoryLeak = true

theorem Within.refl (found : Findings) : found.Within found :=
  ⟨id, id, id, id⟩

theorem Within.trans {first second third : Findings} (earlier : first.Within second)
    (later : second.Within third) : first.Within third where
  invalidRead found := later.invalidRead (earlier.invalidRead found)
  invalidWrite found := later.invalidWrite (earlier.invalidWrite found)
  invalidFree found := later.invalidFree (earlier.invalidFree found)
  memoryLeak found := later.memoryLeak (earlier.memoryLeak found)

theorem within_invalidRead (found : Findings) : found.Within { found with invalidRead := true } :=
  ⟨fun _ => rfl, id, id, id⟩

theorem within_invalidWrite (found : Findings) : found.Within { found with invalidWrite := true } :=
  ⟨id, fun _ => rfl, id, id⟩

theorem within_invalidFree (found : Findings) : found.Within { found with invalidFree := true } :=
  ⟨id, id, fun _ => rfl, id⟩

end Findings

namespace State

/-- The name with an index is not drawn between two moments. -/
def NotDrawn (here there : State × Supply) (index : Nat) : Prop :=
  index < here.2.next ∨ there.2.next ≤ index

section NotDrawn

variable {here between there : State × Supply} {index : Nat}

theorem NotDrawn.earlier (outside : NotDrawn here there index)
    (time : between.2.next ≤ there.2.next) : NotDrawn here between index :=
  outside.imp id fun late => Nat.le_trans time late

theorem NotDrawn.later (outside : NotDrawn here there index)
    (time : here.2.next ≤ between.2.next) : NotDrawn between there index :=
  outside.imp (fun early => Nat.lt_of_lt_of_le early time) id

/-- A name that is drawn in one go is another one. -/
theorem NotDrawn.ne_next (outside : NotDrawn here there index)
    (time : here.2.next < there.2.next) : index ≠ here.2.next := by
  rintro rfl
  rcases outside with early | late <;> omega

end NotDrawn

/-! ### Computations that leave the variables alone -/

/-- What a computation may do that leaves the variables alone and removes no object.  It may free
one object, and it may change what one object holds. -/
structure Calm (freed touched : Option ObjectId) (here there : State × Supply) : Prop where
  /-- The supply moves on. -/
  time : here.2.next ≤ there.2.next
  /-- No finding is taken back. -/
  findings : here.1.findings.Within there.1.findings
  /-- Only values that are drawn meanwhile become addresses. -/
  address : ∀ {value : ValueId}, NotDrawn here there value.index →
    there.1.graph.target? value = here.1.graph.target? value
  /-- The other objects stay where they are. -/
  placement : ∀ {id : ObjectId}, NotDrawn here there id.index → freed ≠ some id →
    there.1.graph.objects.get? id = here.1.graph.objects.get? id
  /-- The other objects hold what they held. -/
  layout : ∀ {id : ObjectId}, NotDrawn here there id.index → touched ≠ some id →
    there.1.graph.layout id = here.1.graph.layout id
  /-- The same functions run, with the same variables. -/
  stack : there.1.graph.stack = here.1.graph.stack
  /-- The global variables are the same. -/
  globals : there.1.graph.globals = here.1.graph.globals

namespace Calm

variable {freed touched : Option ObjectId} {here there : State × Supply}

theorem refl (here : State × Supply) : Calm freed touched here here where
  time := Nat.le_refl _
  findings := .refl _
  address _ := rfl
  placement _ _ := rfl
  layout _ _ := rfl
  stack := rfl
  globals := rfl

theorem trans {between : State × Supply} (first : Calm freed touched here between)
    (second : Calm freed touched between there) : Calm freed touched here there where
  time := Nat.le_trans first.time second.time
  findings := first.findings.trans second.findings
  address outside :=
    (second.address (outside.later first.time)).trans (first.address (outside.earlier second.time))
  placement outside others :=
    (second.placement (outside.later first.time) others).trans
      (first.placement (outside.earlier second.time) others)
  layout outside others :=
    (second.layout (outside.later first.time) others).trans
      (first.layout (outside.earlier second.time) others)
  stack := second.stack.trans first.stack
  globals := second.globals.trans first.globals

end Calm

/-- A computation is calm, whether or not it goes through. -/
def Calms (freed touched : Option ObjectId) {α : Type} (computation : Run State α)
    (here : State × Supply) : Prop :=
  Run.Ends computation here (fun _ there => Calm freed touched here there)
    fun _ there => Calm freed touched here there

section Calms

variable {α β : Type} {freed touched : Option ObjectId} {here : State × Supply}

theorem calms_pure (result : α) : Calms freed touched (pure result) here :=
  Run.ends_pure (Calm.refl here)

theorem calms_of_ok {computation : Run State α} {result : α} {there : State × Supply}
    (done : computation here = .ok result there) (calm : Calm freed touched here there) :
    Calms freed touched computation here :=
  Run.ends_of_ok done calm

theorem Calms.bind {first : Run State β} {next : β → Run State α}
    (start : Calms freed touched first here)
    (rest : ∀ result there, Calm freed touched here there →
      Calms freed touched (next result) there) :
    Calms freed touched (first >>= next) here := by
  refine Run.Ends.bind start fun result there calm => ?_
  exact (rest result there calm).mono (fun _ _ calm' => calm.trans calm') fun _ _ calm' =>
    calm.trans calm'

/-- A first step whose outcome is known, and is calm, is skipped. -/
theorem calms_bind_of_ok {first : Run State β} {next : β → Run State α} {result : β}
    {there : State × Supply} (done : first here = .ok result there)
    (calm : Calm freed touched here there) (rest : Calms freed touched (next result) there) :
    Calms freed touched (first >>= next) here :=
  Run.ends_bind_of_ok done (rest.mono (fun _ _ calm' => calm.trans calm') fun _ _ calm' =>
    calm.trans calm')

theorem calms_forM {ε : Type} {list : List ε} {step : ε → Run State PUnit}
    (each : ∀ item ∈ list, ∀ there, Calm freed touched here there →
      Calms freed touched (step item) there) : Calms freed touched (list.forM step) here :=
  Run.ends_forM (fun there => Calm freed touched here there) (Calm.refl here)
    fun item member there calm => (each item member there calm).mono
      (fun _ _ calm' => calm.trans calm') fun _ _ calm' => calm.trans calm'

theorem calms_attemptGraph {change : Graph → Except Fault Graph}
    (calm : ∀ next, change here.1.graph = .ok next →
      Calm freed touched here ({ here.1 with graph := next }, here.2)) :
    Calms freed touched (attemptGraph change) here := by
  cases outcome : change here.1.graph with
  | ok next => exact Run.ends_of_ok (attemptGraph_ok outcome) (calm next outcome)
  | error fault => exact Run.ends_of_error (attemptGraph_error outcome) (.refl here)

theorem Calms.finish {computation : Run State α} (calms : Calms freed touched computation here) :
    Calm freed touched here (computation.finish here) :=
  Run.Ends.finish (fun there => Calm freed touched here there) calms

theorem calms_report {change : Findings → Findings}
    (more : here.1.findings.Within (change here.1.findings)) :
    Calms freed touched (report change) here :=
  Run.ends_of_ok (Run.modify_apply _ _)
    ⟨Nat.le_refl _, more, fun _ => rfl, fun _ _ => rfl, fun _ _ => rfl, rfl, rfl⟩

theorem calm_newValue :
    Calm freed touched here
      ({ here.1 with graph := here.1.graph.addValue ⟨here.2.next⟩ }, ⟨here.2.next + 1⟩) where
  time := Nat.le_succ _
  findings := .refl _
  address {value} _ := Graph.target?_addValue _ _ value
  placement _ _ := rfl
  layout _ _ := rfl
  stack := rfl
  globals := rfl

theorem calm_addValue (value : ValueId) :
    Calm freed touched here ({ here.1 with graph := here.1.graph.addValue value }, here.2) where
  time := Nat.le_refl _
  findings := .refl _
  address {other} _ := Graph.target?_addValue _ _ other
  placement _ _ := rfl
  layout _ _ := rfl
  stack := rfl
  globals := rfl

theorem calm_addField {field : Field} {next : Graph} (touches : touched = some field.object)
    (done : here.1.graph.addField field = .ok next) :
    Calm freed touched here ({ here.1 with graph := next }, here.2) where
  time := Nat.le_refl _
  findings := .refl _
  address {value} _ := Graph.target?_of_addField done value
  placement {id} _ _ := congrArg (·.get? id) (Graph.objects_of_addField done)
  layout _ other := Graph.layout_of_addField done fun same => other (same ▸ touches)
  stack := (Graph.names_of_addField done).1
  globals := (Graph.names_of_addField done).2

theorem calm_removeField {field : Field} (touches : touched = some field.object) :
    Calm freed touched here ({ here.1 with graph := here.1.graph.removeField field }, here.2) where
  time := Nat.le_refl _
  findings := .refl _
  address {value} _ := Graph.target?_removeField field value
  placement {id} _ _ := congrArg (·.get? id) (Graph.objects_removeField field)
  layout _ other := Graph.layout_removeField_of_ne fun same => other (same ▸ touches)
  stack := (Graph.names_removeField field).1
  globals := (Graph.names_removeField field).2

theorem calms_takeAddress (object : ObjectId) (offset : Nat) :
    Calms freed touched (takeAddress object offset) here := by
  unfold takeAddress
  refine calms_bind_of_ok (Run.ask_apply _ _) (.refl here) ?_
  cases here.1.graph.addressOf? ⟨object, offset, .region⟩ with
  | some value => exact calms_pure value
  | none =>
      -- The value that becomes an address is drawn here, so nothing is said of it in between.
      refine Run.ends_bind_of_ok newValue_apply ?_
      cases outcome : (here.1.graph.addValue ⟨here.2.next⟩).addPointer
          ⟨⟨here.2.next⟩, ⟨object, offset, .region⟩⟩ with
      | error fault =>
          exact Run.ends_of_error (Run.bind_apply_error (attemptGraph_error outcome)) calm_newValue
      | ok next =>
          refine Run.ends_bind_of_ok (attemptGraph_ok outcome) (Run.ends_pure ?_)
          have leads := Graph.target?_of_addPointer _ outcome
          obtain ⟨-, -, rfl⟩ := Graph.addPointer_eq_ok_iff.1 outcome
          refine ⟨Nat.le_succ _, .refl _, fun {value} outside => ?_, fun _ _ => rfl,
            fun _ _ => rfl, rfl, rfl⟩
          have other : value ≠ ⟨here.2.next⟩ := fun same =>
            outside.ne_next (Nat.lt_succ_self _) (congrArg ValueId.index same)
          show Graph.target? _ value = _
          rw [leads, if_neg other, Graph.target?_addValue]

theorem calms_allocate (size : Nat) (label : String) :
    Calms freed touched (allocate size label) here := by
  unfold allocate
  refine Run.ends_bind_of_ok (Run.draw_objectId_apply _) (Run.ends_bind_of_ok rfl ?_)
  have put : Calm freed touched here ({ here.1 with
      graph := here.1.graph.addHeapObject ⟨here.2.next⟩ (.region size label) },
      ⟨here.2.next + 1⟩) := by
    refine ⟨Nat.le_succ _, .refl _, fun _ => rfl, fun {id} outside _ => ?_, fun _ _ => rfl, rfl,
      rfl⟩
    exact Table.get?_insert_of_ne _ (fun same =>
      outside.ne_next (Nat.lt_succ_self _) (congrArg ObjectId.index same)) _
  have rest : Calms freed touched (takeAddress ⟨here.2.next⟩ 0) ({ here.1 with
      graph := here.1.graph.addHeapObject ⟨here.2.next⟩ (.region size label) },
      ⟨here.2.next + 1⟩) := calms_takeAddress _ 0
  exact rest.mono (fun _ _ calm => put.trans calm) fun _ _ calm => put.trans calm

theorem calm_removeFields {fields : List Field}
    (touches : ∀ field ∈ fields, touched = some field.object) :
    Calm freed touched here
      ({ here.1 with graph := here.1.graph.removeFields fields }, here.2) := by
  induction fields generalizing here with
  | nil => exact .refl here
  | cons field rest ih =>
      exact (calm_removeField (touches field List.mem_cons_self)).trans
        (ih fun other member => touches other (List.mem_cons_of_mem _ member))

theorem calm_setValid {object : ObjectId} {valid : Bool} {next : Graph}
    (frees : freed = some object) (done : here.1.graph.setValid object valid = .ok next) :
    Calm freed touched here ({ here.1 with graph := next }, here.2) := by
  obtain ⟨old, -, rfl⟩ := (here.1.graph.setValid_eq_ok_iff).1 done
  refine ⟨Nat.le_refl _, .refl _, fun _ => rfl, fun {id} _ other => ?_, fun _ _ => rfl, rfl, rfl⟩
  exact Table.get?_insert_of_ne _ (fun same => other (frees.trans (congrArg some same.symm))) _

/-- To free an object changes nothing else. -/
theorem calms_free (address : ValueId) :
    Calms (freeable? here.1.graph address) (freeable? here.1.graph address)
      (free address) here := by
  unfold free
  split
  · exact calms_pure ()
  · refine calms_bind_of_ok (Run.ask_apply _ _) (.refl here) ?_
    cases freeable? here.1.graph address with
    | none => exact calms_report (Findings.within_invalidFree _)
    | some object =>
        have emptied : Calm (some object) (some object) here ({ here.1 with
            graph := here.1.graph.removeFields (here.1.graph.fieldsOf object) }, here.2) :=
          calm_removeFields fun field member =>
            congrArg some (Graph.mem_fieldsOf_iff.1 member).1.symm
        exact calms_bind_of_ok rfl emptied (calms_attemptGraph fun next done =>
          calm_setValid rfl done)

/-- The object that an access to a range reaches, if the access is allowed. -/
def accessed? (graph : Graph) (object : ObjectId) (range : BitRange) : Option ObjectId :=
  if mayAccess graph object range then some object else none

theorem calms_read (object : ObjectId) (range : BitRange) :
    Calms none (accessed? here.1.graph object range) (read object range) here := by
  unfold read accessed?
  refine calms_bind_of_ok (Run.ask_apply _ _) (.refl here) ?_
  cases mayAccess here.1.graph object range with
  | false =>
      exact (calms_report (Findings.within_invalidRead _)).bind fun _ there _ =>
        calms_of_ok newValue_apply calm_newValue
  | true =>
    simp only [Bool.not_true, Bool.false_eq_true, if_false, if_true]
    cases here.1.graph.valueAt? object range with
    | some value => exact calms_pure value
    | none =>
        simp only
        split
        · refine calms_bind_of_ok newValue_apply calm_newValue ?_
          refine Calms.bind (calms_attemptGraph fun next done => ?_) fun _ _ _ => calms_pure _
          exact calm_addField rfl done
        · split
          · exact calms_pure _
          · exact calms_of_ok newValue_apply calm_newValue

theorem calms_overwrite (range : BitRange) {field : Field}
    (touches : touched = some field.object) : Calms freed touched (overwrite range field) here := by
  refine calms_bind_of_ok rfl (calm_removeField touches) ?_
  refine calms_forM fun part member there _ => calms_attemptGraph fun next done => ?_
  exact calm_addField ((of_mem_remainders member).1 ▸ touches) done

theorem calms_write (object : ObjectId) (range : BitRange) (value : ValueId) :
    Calms none (accessed? here.1.graph object range) (write object range value) here := by
  unfold write accessed?
  refine calms_bind_of_ok (Run.ask_apply _ _) (.refl here) ?_
  cases mayAccess here.1.graph object range with
  | false =>
      simp only [Bool.not_false, if_true]
      exact calms_report (Findings.within_invalidWrite _)
  | true =>
    simp only [Bool.not_true, Bool.false_eq_true, if_false, if_true]
    refine (calms_forM fun field member there _ => calms_overwrite range ?_).bind
      fun _ there _ => ?_
    · have inObject := (Graph.mem_fieldsOf_iff.1 (List.mem_filter.1 member).1).1
      rw [inObject]
    · exact calms_bind_of_ok rfl (calm_addValue value) (calms_attemptGraph fun next done =>
        calm_addField rfl done)

end Calms

/-! ### Operations -/

namespace Operation

/-- The object that an operation frees. -/
def freed? (graph : Graph) : Operation → Option ObjectId
  | free address => freeable? graph address
  | _ => none

/-- The object whose contents an operation may change. -/
def touched? (graph : Graph) : Operation → Option ObjectId
  | free address => freeable? graph address
  | read object range => accessed? graph object range
  | write object range _ => accessed? graph object range
  | _ => none

/-- Whether an operation leaves the variables alone and removes no object. -/
def Settles : Operation → Prop
  | enter _ | leave | declareGlobal .. | declareLocal .. | collect => False
  | _ => True

theorem calms_perform {operation : Operation} (settles : operation.Settles)
    (here : State × Supply) :
    Calms (operation.freed? here.1.graph) (operation.touched? here.1.graph) operation.perform
      here := by
  cases operation with
  | enter | leave | declareGlobal | declareLocal | collect => exact settles.elim
  | allocate size label => exact (calms_allocate size label).bind fun _ _ _ => calms_pure _
  | free address => exact (calms_free address).bind fun _ _ _ => calms_pure _
  | takeAddress object offset =>
      exact (calms_takeAddress object offset).bind fun _ _ _ => calms_pure _
  | read object range => exact (calms_read object range).bind fun _ _ _ => calms_pure _
  | write object range value =>
      exact (calms_write object range value).bind fun _ _ _ => calms_pure _
  | assign value number =>
      refine calms_bind_of_ok (Run.modify_apply _ _) ?_ (calms_pure _)
      exact ⟨Nat.le_refl _, .refl _, fun _ => Graph.target?_setNumber .., fun _ _ => rfl,
        fun _ _ => rfl, rfl, rfl⟩

end Operation

/-! ### Steps -/

/-- What happens from one moment of a state to the next one. -/
inductive Step where
  /-- A name is drawn for something else, such as another state. -/
  | draw
  /-- An operation is performed on the state. -/
  | perform (operation : Operation)

namespace Step

/-- Takes a step. -/
def run : Step → Run State Answer
  | draw => do
      let _ ← Run.draw Draw.index
      return .done
  | perform operation => operation.perform

/-- The object that a step frees. -/
def freed? (graph : Graph) : Step → Option ObjectId
  | draw => none
  | perform operation => operation.freed? graph

/-- The object whose contents a step may change. -/
def touched? (graph : Graph) : Step → Option ObjectId
  | draw => none
  | perform operation => operation.touched? graph

end Step

/-- What any step may do. -/
structure Moved (freed touched : Option ObjectId) (here there : State × Supply) : Prop where
  /-- The supply moves on. -/
  time : here.2.next ≤ there.2.next
  /-- No finding is taken back. -/
  findings : here.1.findings.Within there.1.findings
  /-- Only values that are drawn meanwhile become addresses. -/
  address : ∀ {value : ValueId} {target : Target},
    NotDrawn here there value.index →
    there.1.graph.target? value = some target → here.1.graph.target? value = some target
  /-- An object is removed with its contents, or it stays as it is, unless it is drawn meanwhile,
  freed or touched. -/
  fate : ∀ {id : ObjectId}, NotDrawn here there id.index →
    there.1.graph.Gone id ∨
      (freed ≠ some id → there.1.graph.objects.get? id = here.1.graph.objects.get? id) ∧
        (touched ≠ some id → there.1.graph.layout id = here.1.graph.layout id)
  /-- Only objects that are drawn meanwhile get names. -/
  named : ∀ {id : ObjectId}, NotDrawn here there id.index →
    id ∈ there.1.graph.roots.map Prod.snd → id ∈ here.1.graph.roots.map Prod.snd

section Moved

variable {freed touched : Option ObjectId} {here there : State × Supply}

theorem Calm.moved (calm : Calm freed touched here there) : Moved freed touched here there where
  time := calm.time
  findings := calm.findings
  address outside leads := (calm.address outside).symm.trans leads
  fate outside := .inr ⟨calm.placement outside, calm.layout outside⟩
  named _ member := by
    rw [Graph.roots, Graph.frames, calm.stack, calm.globals] at member
    exact member

/-- Objects may be removed, and something may be found. -/
theorem Moved.remove {state : State} (moved : Moved none none here (state, here.2))
    (ids : List ObjectId) {found : Findings} (more : state.findings.Within found) :
    Moved none none here (⟨state.graph.removeObjects ids, found⟩, here.2) where
  time := Nat.le_refl _
  findings := moved.findings.trans more
  address outside leads := moved.address outside (Graph.target?_of_removeObjects leads)
  fate {id} outside := by
    rcases state.graph.removeObjects_cases ids id with gone | ⟨placement, layout⟩
    · exact .inl gone
    · rcases moved.fate outside with gone | ⟨placement', layout'⟩
      · exact .inl (gone.removeObjects ids)
      · exact .inr ⟨fun other => placement.trans (placement' other),
          fun other => layout.trans (layout' other)⟩
  named outside member := by
    obtain ⟨entry, inside, rfl⟩ := List.mem_map.1 member
    exact moved.named outside (List.mem_map_of_mem (Graph.mem_roots_of_removeObjects inside))

theorem Moved.collect {state : State} (moved : Moved none none here (state, here.2)) :
    Moved none none here (state.collect, here.2) :=
  moved.remove state.graph.garbage ⟨id, id, id, fun found => by
    show (state.findings.memoryLeak || _) = true
    rw [found, Bool.true_or]⟩

theorem moved_withNames {stack : List Frame} {globals : Table String ObjectId}
    (fewer : ∀ entry ∈ (here.1.graph.withNames stack globals).roots, entry ∈ here.1.graph.roots) :
    Moved none none here
      ({ here.1 with graph := here.1.graph.withNames stack globals }, here.2) where
  time := Nat.le_refl _
  findings := .refl _
  address _ leads := leads
  fate _ := .inr ⟨fun _ => rfl, fun _ => rfl⟩
  named _ member := by
    obtain ⟨entry, inside, rfl⟩ := List.mem_map.1 member
    exact List.mem_map_of_mem (fewer entry inside)

/-- A new object, for which a name was drawn, is put into the graph. -/
theorem moved_addObject (object : Object) {stack : List Frame} {globals : Table String ObjectId}
    (named : ∀ entry ∈ (here.1.graph.withNames stack globals).roots,
      entry.2 = ⟨here.2.next⟩ ∨ entry ∈ here.1.graph.roots) :
    Moved none none here ({ here.1 with graph :=
      (here.1.graph.addObject ⟨here.2.next⟩ object).withNames stack globals },
      ⟨here.2.next + 1⟩) where
  time := Nat.le_succ _
  findings := .refl _
  address _ leads := leads
  fate {id} outside := by
    have other : id ≠ ⟨here.2.next⟩ := fun same =>
      outside.ne_next (Nat.lt_succ_self _) (congrArg ObjectId.index same)
    exact .inr ⟨fun _ => Table.get?_insert_of_ne _ other _, fun _ => rfl⟩
  named outside member := by
    obtain ⟨entry, inside, rfl⟩ := List.mem_map.1 member
    rcases named entry inside with same | before
    · exact absurd (congrArg ObjectId.index same) (outside.ne_next (Nat.lt_succ_self _))
    · exact List.mem_map_of_mem before

/-- A name is drawn. -/
theorem moved_draw : Moved none none here (here.1, ⟨here.2.next + 1⟩) where
  time := Nat.le_succ _
  findings := .refl _
  address _ leads := leads
  fate _ := .inr ⟨fun _ => rfl, fun _ => rfl⟩
  named _ member := member

/-- A computation moves a state, whether or not it goes through. -/
def Moves (freed touched : Option ObjectId) {α : Type} (computation : Run State α)
    (here : State × Supply) : Prop :=
  Run.Ends computation here (fun _ there => Moved freed touched here there)
    fun _ there => Moved freed touched here there

theorem moves_of_ok {α : Type} {computation : Run State α} {result : α}
    (done : computation here = .ok result there) (moved : Moved freed touched here there) :
    Moves freed touched computation here :=
  Run.ends_of_ok done moved

theorem Calms.moves {α : Type} {computation : Run State α}
    (calms : Calms freed touched computation here) : Moves freed touched computation here :=
  calms.mono (fun _ _ calm => calm.moved) fun _ _ calm => calm.moved

theorem moves_leave : Moves none none Operation.leave.perform here := by
  refine Run.ends_bind_of_ok (Run.ask_apply _ _) ?_
  cases left : here.1.leave with
  | none => exact Run.ends_pure (Calm.refl here).moved
  | some outcome =>
      obtain ⟨frame, state⟩ := outcome
      obtain ⟨⟨frame', graph⟩, leaves, same⟩ := Option.map_eq_some_iff.1 left
      obtain ⟨rfl, rfl⟩ := Prod.mk.inj same
      refine Run.ends_bind_of_ok (Run.modify_apply _ _) (Run.ends_pure ?_)
      obtain ⟨outer, stack, rfl⟩ := Graph.leave_eq_some leaves
      have fewer : ∀ entry ∈ (here.1.graph.withNames outer here.1.graph.globals).roots,
          entry ∈ here.1.graph.roots :=
        fun entry member => (Graph.roots_outer_sublist stack).subset member
      exact ((moved_withNames fewer).remove _ (.refl _)).collect

theorem moves_declareLocal (name : String) (size : Nat) :
    Moves none none (Operation.declareLocal name size).perform here := by
  refine Run.ends_bind _ ?_ fun _ _ moved => Run.ends_pure moved
  refine Run.ends_bind_of_ok (Run.draw_objectId_apply _) ?_
  cases outcome : here.1.graph.declareLocal name ⟨here.2.next⟩ (.region size name) with
  | error fault =>
      exact Run.ends_of_error (Run.bind_apply_error (attemptGraph_error (by exact outcome)))
        moved_draw
  | ok next =>
      refine Run.ends_bind_of_ok (attemptGraph_ok (by exact outcome)) (Run.ends_pure ?_)
      obtain ⟨frame, outer, stack, rfl⟩ := Graph.declareLocal_eq_ok outcome
      exact moved_addObject _ fun entry member => Graph.mem_roots_local stack member

/-- What an operation may do, whether or not it goes through. -/
theorem Operation.moves_perform (operation : Operation) (here : State × Supply) :
    Moves (operation.freed? here.1.graph) (operation.touched? here.1.graph) operation.perform
      here := by
  cases operation with
  | enter function =>
      exact moves_of_ok rfl (moved_withNames fun entry member => Graph.mem_roots_enter member)
  | leave => exact moves_leave
  | declareGlobal name size =>
      exact moves_of_ok rfl (moved_addObject _ fun entry member => Graph.mem_roots_global member)
  | declareLocal name size => exact moves_declareLocal name size
  | collect => exact moves_of_ok rfl (Calm.refl here).moved.collect
  | _ => exact (calms_perform (by trivial) here).moves

/-- What a step may do. -/
theorem Step.moved (step : Step) (here : State × Supply) :
    Moved (step.freed? here.1.graph) (step.touched? here.1.graph) here (step.run.finish here) := by
  cases step with
  | draw => exact moved_draw
  | perform operation =>
      exact Run.Ends.finish (fun there => Moved (operation.freed? here.1.graph)
        (operation.touched? here.1.graph) here there) (operation.moves_perform here)

end Moved

/-! ### Moments -/

/-- What every step keeps holds after all of them. -/
theorem history_keeps (kept : State × Supply → Prop) {steps : List Step} {here : State × Supply}
    (start : kept here) (keeps : ∀ (step : Step) (here : State × Supply), kept here →
      kept (step.run.finish here)) : kept (Run.history Step.run steps here) := by
  induction steps generalizing here with
  | nil => exact start
  | cons step rest ih => exact ih (keeps step here start)

/-- The state of a program, and the supply, after steps from the start on. -/
def reached (machine : Machine) (steps : List Step) : State × Supply :=
  Run.history Step.run steps (.initial machine, .full)

theorem reached_append (machine : Machine) (first rest : List Step) :
    reached machine (first ++ rest) = Run.history Step.run rest (reached machine first) :=
  Run.history_append ..

/-- What was found before the last of several steps is still found after them. -/
theorem findings_history (steps : List Step) (here : State × Supply) :
    here.1.findings.Within (Run.history Step.run steps here).1.findings :=
  history_keeps (fun there => here.1.findings.Within there.1.findings) (.refl _)
    fun step there within => within.trans (step.moved there).findings

/-- At a moment, all names that are in use were drawn, and the zero value leads nowhere but to
NULL. -/
structure Moment (here : State × Supply) : Prop where
  /-- Zero is not drawn. -/
  positive : 0 < here.2.next
  /-- Zero is the address of NULL, if it is one. -/
  zero : ∀ {target : Target}, here.1.graph.target? .zero = some target → target = .null
  /-- NULL is not part of the heap. -/
  null : here.1.graph.isHeap .null = false
  /-- The names of objects were drawn. -/
  placed : ∀ {id : ObjectId}, here.2.next ≤ id.index → here.1.graph.objects.get? id = none
  /-- What was not drawn holds nothing. -/
  laid : ∀ {id : ObjectId}, here.2.next ≤ id.index → here.1.graph.layout id = ∅
  /-- Addresses were drawn. -/
  addressed : ∀ {value : ValueId}, here.2.next ≤ value.index → here.1.graph.target? value = none
  /-- Variables name what was drawn. -/
  named : ∀ {id : ObjectId}, here.2.next ≤ id.index → id ∉ here.1.graph.roots.map Prod.snd

theorem moment_initial (machine : Machine) : Moment (.initial machine, .full) where
  positive := Nat.one_pos
  zero leads := (Option.some.inj (leads.symm.trans (Graph.sound_initial machine).zero))
  null := (Graph.sound_initial machine).isHeap_null
  placed {id} late := by
    have proper : id ≠ .null := by
      rintro rfl
      exact absurd late (Nat.not_succ_le_zero 0)
    exact (Table.get?_insert_of_ne _ proper _).trans rfl
  laid _ := rfl
  addressed {value} late := by
    have proper : value ≠ .zero := by
      rintro rfl
      exact absurd late (Nat.not_succ_le_zero 0)
    exact (Graph.target?_initial machine value).trans (if_neg proper)
  named _ member := by simp [Graph.roots, Graph.frames, initial, ofGraph, Graph.initial] at member

/-- What can be freed is a valid object of the heap. -/
theorem of_freeable {graph : Graph} {address : ValueId} {object : ObjectId}
    (frees : freeable? graph address = some object) :
    (∃ target, graph.target? address = some target ∧ target.object = object ∧ target.offset = 0) ∧
      graph.isHeap object = true ∧ graph.isValid object = true := by
  obtain ⟨target, leads, frees⟩ := Option.bind_eq_some_iff.1 frees
  split at frees
  case isTrue conditions =>
    obtain ⟨start, heap, valid⟩ := conditions
    obtain rfl := Option.some.inj frees
    exact ⟨⟨target, leads, rfl, start⟩, heap, valid⟩
  case isFalse => simp at frees

/-- What can be accessed is valid. -/
theorem of_accessed {graph : Graph} {object id : ObjectId} {range : BitRange}
    (accessed : accessed? graph object range = some id) :
    object = id ∧ mayAccess graph object range = true := by
  unfold accessed? at accessed
  split at accessed
  case isTrue allowed => exact ⟨Option.some.inj accessed, allowed⟩
  case isFalse => simp at accessed

namespace Step

variable {step : Step} {graph : Graph} {id : ObjectId}

/-- What a step frees is a valid object of the heap. -/
theorem of_freed (frees : step.freed? graph = some id) :
    graph.isHeap id = true ∧ graph.isValid id = true := by
  cases step with
  | draw => simp [freed?] at frees
  | perform operation =>
      cases operation with
      | free address => exact (of_freeable frees).2
      | _ => simp [freed?, Operation.freed?] at frees

/-- What a step touches is valid. -/
theorem of_touched (touches : step.touched? graph = some id) : graph.isValid id = true := by
  have accesses {object : ObjectId} {range : BitRange}
      (accessed : accessed? graph object range = some id) : graph.isValid id = true := by
    obtain ⟨rfl, allowed⟩ := of_accessed accessed
    obtain ⟨-, -, valid, -⟩ := exists_of_mayAccess allowed
    exact valid
  cases step with
  | draw => simp [touched?] at touches
  | perform operation =>
      cases operation with
      | free address => exact (of_freeable touches).2.2
      | read object range => exact accesses touches
      | write object range value => exact accesses touches
      | _ => simp [touched?, Operation.touched?] at touches

/-- What is invalid stays so. -/
theorem isValid_before {here : State × Supply} (step : Step) {id : ObjectId}
    (early : id.index < here.2.next) (valid : (step.run.finish here).1.graph.isValid id = true) :
    here.1.graph.isValid id = true := by
  rcases (step.moved here).fate (.inl early) with gone | ⟨placement, -⟩
  · rw [gone.isValid] at valid
    simp at valid
  · by_cases frees : step.freed? here.1.graph = some id
    · exact (of_freed frees).2
    · rw [Graph.isValid, placement frees] at valid
      exact valid

end Step

namespace Moment

variable {here : State × Supply}

theorem isValid_of_late (moment : Moment here) {id : ObjectId} (late : here.2.next ≤ id.index) :
    here.1.graph.isValid id = false := by
  rw [Graph.isValid, moment.placed late]
  rfl

/-- What is in the graph was drawn. -/
theorem early_of_valid (moment : Moment here) {id : ObjectId}
    (valid : here.1.graph.isValid id = true) : id.index < here.2.next := by
  by_contra late
  rw [moment.isValid_of_late (Nat.le_of_not_lt late)] at valid
  simp at valid

/-- A step leads from one moment to the next one. -/
theorem step (moment : Moment here) (step : Step) : Moment (step.run.finish here) := by
  have moved := step.moved here
  have spared {id : ObjectId} (late : (step.run.finish here).2.next ≤ id.index) :
      step.freed? here.1.graph ≠ some id ∧ step.touched? here.1.graph ≠ some id := by
    have invalid := moment.isValid_of_late (Nat.le_trans moved.time late)
    constructor
    · intro frees
      simp [(Step.of_freed frees).2] at invalid
    · intro touches
      simp [Step.of_touched touches] at invalid
  refine ⟨Nat.lt_of_lt_of_le moment.positive moved.time, fun leads =>
    moment.zero (moved.address (.inl moment.positive) leads), ?_, fun {id} late => ?_,
    fun {id} late => ?_, fun {value} late => ?_, fun {id} late member =>
    moment.named (Nat.le_trans moved.time late) (moved.named (.inr late) member)⟩
  · have notFreed : step.freed? here.1.graph ≠ some .null := fun frees => by
      have heap := (Step.of_freed frees).1
      simp [moment.null] at heap
    have outside : NotDrawn here (step.run.finish here) ObjectId.null.index := .inl moment.positive
    rcases moved.fate outside with gone | ⟨placement, -⟩
    · rw [Graph.isHeap, gone.absent]
      rfl
    · rw [Graph.isHeap, placement notFreed]
      exact moment.null
  · have outside : NotDrawn here (step.run.finish here) id.index := .inr late
    rcases moved.fate outside with gone | ⟨placement, -⟩
    · exact gone.absent
    · rw [placement (spared late).1, moment.placed (Nat.le_trans moved.time late)]
  · have outside : NotDrawn here (step.run.finish here) id.index := .inr late
    rcases moved.fate outside with gone | ⟨-, layout⟩
    · exact gone.bare
    · rw [layout (spared late).2, moment.laid (Nat.le_trans moved.time late)]
  · cases leads : (step.run.finish here).1.graph.target? value with
    | none => rfl
    | some target =>
        have before := moved.address (.inr late) leads
        exact before.symm.trans (moment.addressed (Nat.le_trans moved.time late))

theorem history (moment : Moment here) (steps : List Step) :
    Moment (Run.history Step.run steps here) :=
  history_keeps Moment moment fun step _ moment => moment.step step

end Moment

theorem moment_reached (machine : Machine) (steps : List Step) : Moment (reached machine steps) :=
  (moment_initial machine).history steps

end State

end ShapeDomain
