import ShapeDomain.Proofs.Progress.Variables
import ShapeDomain.Proofs.Reflexive.States
import ShapeDomain.Proofs.State.Freed

/-!
# Variables of functions that were left

When a function is left, the objects are removed that its variables name at that time.  A variable
that was declared once is gone then.  One whose name was declared again is not: nothing names its
object any more, so nothing removes it, and it stays valid for good.
-/

namespace ShapeDomain

namespace Graph

variable {graph next : Graph} {id : ObjectId}

theorem named?_removeObject (proper : id ≠ .null) (other : ObjectId) (name : Variable) :
    (graph.removeObject other).named? name = some id ↔ graph.named? name = some id ∧
      id ≠ other := by
  cases isNull : other.isNull with
  | true =>
      obtain rfl : other = .null := by simpa [ObjectId.isNull] using isNull
      simp [removeObject_null, proper]
  | false =>
      cases name with
      | global name =>
          simp only [named?, removeObject, isNull, Bool.false_eq_true, if_false]
          exact get?_unname
      | inner depth name =>
          simp only [named?, frames, removeObject, isNull, Bool.false_eq_true, if_false,
            ← List.map_reverse, List.getElem?_map]
          cases graph.stack.reverse[depth]? with
          | none => simp
          | some frame => exact get?_unname

theorem named?_removeObjects (proper : id ≠ .null) (ids : List ObjectId) (name : Variable) :
    (graph.removeObjects ids).named? name = some id ↔ graph.named? name = some id ∧ id ∉ ids := by
  induction ids generalizing graph with
  | nil => simp [removeObjects]
  | cons head rest ih =>
      show ((graph.removeObject head).removeObjects rest).named? name = some id ↔ _
      rw [ih, named?_removeObject proper, List.mem_cons, not_or, and_assoc]

theorem length_removeObjects (ids : List ObjectId) :
    (graph.removeObjects ids).stack.length = graph.stack.length := by
  induction ids generalizing graph with
  | nil => rfl
  | cons head rest ih =>
      refine (@ih (graph.removeObject head)).trans ?_
      unfold removeObject
      split
      · rfl
      · exact List.length_map _

/-- The innermost function is the one at the depth that the others reach. -/
theorem named?_inner {inner : Frame} {outer : List Frame} (stack : graph.stack = inner :: outer)
    (depth : Nat) (name : String) :
    graph.named? (.inner depth name) =
      if depth = outer.length then inner.locals.get? name
      else { graph with stack := outer }.named? (.inner depth name) := by
  simp only [named?, frames, stack, List.reverse_cons]
  rcases Nat.lt_trichotomy depth outer.length with inside | rfl | beyond
  · rw [List.getElem?_append_left (by simpa using inside), if_neg (by omega)]
  · simp
  · rw [List.getElem?_eq_none (by simpa using Nat.succ_le_of_lt beyond),
      List.getElem?_eq_none (by simpa using Nat.le_of_lt beyond), if_neg (by omega)]

theorem mem_payloads_iff {names : Table String ObjectId} :
    id ∈ names.payloads ↔ ∃ name, names.get? name = some id := by
  simp [Table.payloads, Table.mem_toList_iff]

/-- Of the functions that still run, the variables stay, except for those that name objects of the
function that was left. -/
theorem named?_leave {frame : Frame} {depth : Nat} (left : graph.leave = some (frame, next))
    (running : graph.stack.length = depth + 1) (proper : id ≠ .null)
    (unnamed : ∀ name, graph.named? (.inner depth name) ≠ some id) (other : Nat) (name : String) :
    next.named? (.inner other name) = some id ↔ graph.named? (.inner other name) = some id := by
  obtain ⟨outer, stack, rfl⟩ := leave_eq_some left
  obtain rfl : outer.length = depth := by simpa [stack] using running
  have outside : id ∉ frame.locals.payloads := by
    rw [mem_payloads_iff]
    rintro ⟨name, named⟩
    exact unnamed name (by rw [named?_inner stack, if_pos rfl, named])
  rw [named?_removeObjects proper, named?_inner stack other name]
  split
  case isTrue same =>
    subst same
    have others := unnamed name
    rw [named?_inner stack, if_pos rfl] at others
    simp [named?, frames, others]
  case isFalse => simp [outside]

theorem length_leave {frame : Frame} (left : graph.leave = some (frame, next)) :
    graph.stack.length = next.stack.length + 1 := by
  obtain ⟨outer, stack, rfl⟩ := leave_eq_some left
  rw [length_removeObjects, stack]
  rfl

/-- Only objects of the heap are garbage. -/
theorem isHeap_of_mem_garbage (member : id ∈ graph.garbage) : graph.isHeap id = true := by
  have inHeap := (List.mem_filter.1 member).1
  rw [heapObjects, Table.mem_keys_iff, Table.contains, Table.get?_filter] at inHeap
  obtain ⟨placement, kept⟩ := Option.isSome_iff_exists.1 inHeap
  obtain ⟨found, heap⟩ := Option.filter_eq_some_iff.1 kept
  rw [isHeap, found]
  exact heap

end Graph

namespace State

/-- A declared object is where it was put, and the only variable of a running function that names
it, if any, is known. -/
structure Standing (object : ObjectId) (size : Nat) (label : String) (home : Option (Nat × String))
    (here : State × Supply) : Prop where
  /-- Its name was drawn. -/
  drawn : object.index < here.2.next
  /-- It is not NULL. -/
  proper : object ≠ .null
  /-- It is a valid region outside of the heap. -/
  placement : here.1.graph.objects.get? object = some ⟨.region size label, true, false⟩
  /-- This is where it is named. -/
  named : ∀ depth name, here.1.graph.named? (.inner depth name) = some object ↔
    home = some (depth, name)

/-- Where an object is still named after a variable was declared. -/
def remaining (home declared : Option (Nat × String)) : Option (Nat × String) :=
  if declared = home then none else home

theorem remaining_eq_some_iff {home declared : Option (Nat × String)} {place : Nat × String} :
    remaining home declared = some place ↔ home = some place ∧ declared ≠ some place := by
  unfold remaining
  split
  case isTrue same => simp [same]
  case isFalse different =>
    constructor
    · rintro rfl
      exact ⟨rfl, different⟩
    · exact And.left

theorem remaining_none (home : Option (Nat × String)) : remaining home none = home := by
  cases home <;> rfl

/-- The depth of the innermost function. -/
def depth? (graph : Graph) : Option Nat :=
  match graph.stack with
  | [] => none
  | _ :: outer => some outer.length

theorem depth?_eq_some_iff {graph : Graph} {depth : Nat} :
    depth? graph = some depth ↔ graph.stack.length = depth + 1 := by
  unfold depth?
  cases graph.stack <;> simp

namespace Step

/-- The depth of the function that a step leaves. -/
def leaves? (graph : Graph) : Step → Option Nat
  | perform .leave => depth? graph
  | _ => none

/-- The variable that a step declares, by the depth of its function and its name. -/
def declares? (graph : Graph) : Step → Option (Nat × String)
  | perform (.declareLocal name _) => (depth? graph).map fun depth => (depth, name)
  | _ => none

end Step

/-! ### Entering and leaving scopes -/

section Scopes

variable {here : State × Supply}

theorem finish_leave_of_some {frame : Frame} {next : Graph}
    (left : here.1.graph.leave = some (frame, next)) :
    Operation.leave.perform.finish here =
      (State.collect { here.1 with graph := next }, here.2) := by
  have leaves : here.1.leave = some (frame, State.collect { here.1 with graph := next }) := by
    rw [State.leave, left]
    rfl
  have done : Operation.leave.perform here =
      .ok (.left (some frame)) (State.collect { here.1 with graph := next }, here.2) := by
    refine (Run.bind_apply_ok (Run.ask_apply _ _)).trans ?_
    rw [leaves]
    rfl
  rw [Run.finish, done]

theorem finish_leave_of_none (left : here.1.graph.leave = none) :
    Operation.leave.perform.finish here = here := by
  have leaves : here.1.leave = none := by rw [State.leave, left]; rfl
  have done : Operation.leave.perform here = .ok (.left none) here := by
    refine (Run.bind_apply_ok (Run.ask_apply _ _)).trans ?_
    rw [leaves]
    rfl
  rw [Run.finish, done]

theorem declareLocal_of_ok {name : String} {size : Nat} {next : Graph}
    (done : here.1.graph.declareLocal name ⟨here.2.next⟩ (.region size name) = .ok next) :
    State.declareLocal name size here =
      .ok ⟨here.2.next⟩ ({ here.1 with graph := next }, ⟨here.2.next + 1⟩) := by
  refine (Run.bind_apply_ok (Run.draw_objectId_apply _)).trans ?_
  exact Run.bind_apply_ok (attemptGraph_ok (by exact done))

theorem declareLocal_of_error {name : String} {size : Nat} {fault : Fault}
    (refused : here.1.graph.declareLocal name ⟨here.2.next⟩ (.region size name) = .error fault) :
    State.declareLocal name size here = .error fault (here.1, ⟨here.2.next + 1⟩) := by
  refine (Run.bind_apply_ok (Run.draw_objectId_apply _)).trans ?_
  exact Run.bind_apply_error (attemptGraph_error (by exact refused))

end Scopes

namespace Standing

variable {object : ObjectId} {size : Nat} {label : String} {home : Option (Nat × String)}
variable {here there : State × Supply}

theorem isHeap (standing : Standing object size label home here) :
    here.1.graph.isHeap object = false := by
  rw [Graph.isHeap, standing.placement]
  rfl

theorem of_same (standing : Standing object size label home here)
    (time : here.2.next ≤ there.2.next)
    (placement : there.1.graph.objects.get? object = here.1.graph.objects.get? object)
    (named : ∀ depth name, there.1.graph.named? (.inner depth name) = some object ↔
      here.1.graph.named? (.inner depth name) = some object) :
    Standing object size label home there :=
  ⟨Nat.lt_of_lt_of_le standing.drawn time, standing.proper,
    placement.trans standing.placement, fun depth name => (named depth name).trans
      (standing.named depth name)⟩

theorem collect {state : State} {supply : Supply}
    (standing : Standing object size label home (state, supply)) :
    Standing object size label home (state.collect, supply) := by
  refine standing.of_same (Nat.le_refl _) (Graph.get?_removeObjects fun member => ?_)
    fun depth name => ?_
  · have heap := standing.isHeap
    rw [Graph.isHeap_of_mem_garbage member] at heap
    simp at heap
  · rw [← state.graph.pruned_garbage.named? (.inner depth name)]
    rfl

theorem enter (standing : Standing object size label home here) (function : String) :
    Standing object size label home (here.1.enter function, here.2) :=
  standing.of_same (Nat.le_refl _) rfl fun depth name => by
    show (here.1.graph.enter function).named? _ = _ ↔ _
    rw [Graph.named?_enter]

/-- The name of the object was drawn before. -/
theorem ne_next (standing : Standing object size label home here) : object ≠ ⟨here.2.next⟩ := by
  rintro rfl
  exact Nat.lt_irrefl _ standing.drawn

theorem declareGlobal (standing : Standing object size label home here) (name : String)
    (bits : Nat) :
    Standing object size label home ({ here.1 with
      graph := here.1.graph.declareGlobal name ⟨here.2.next⟩ (.region bits name) },
      ⟨here.2.next + 1⟩) := by
  refine standing.of_same (Nat.le_succ _) (Table.get?_insert_of_ne _ standing.ne_next _)
    fun depth other => ?_
  rw [Graph.named?_declareGlobal, if_neg (by simp)]

/-- The name of the object may be that of a new one from then on. -/
theorem declareLocal (standing : Standing object size label home here) {name : String} {bits : Nat}
    {next : Graph}
    (done : here.1.graph.declareLocal name ⟨here.2.next⟩ (.region bits name) = .ok next)
    {depth : Nat} (running : here.1.graph.stack.length = depth + 1) :
    Standing object size label (remaining home (some (depth, name)))
      ({ here.1 with graph := next }, ⟨here.2.next + 1⟩) := by
  have names := Graph.named?_declareLocal done running
  obtain ⟨frame, outer, -, rfl⟩ := Graph.declareLocal_eq_ok done
  refine ⟨Nat.lt_succ_of_lt standing.drawn, standing.proper,
    (Table.get?_insert_of_ne _ standing.ne_next _).trans standing.placement,
    fun other name' => ?_⟩
  show Graph.named? _ _ = _ ↔ _
  rw [names, remaining_eq_some_iff, ← standing.named]
  split
  case isTrue same =>
    obtain ⟨rfl, rfl⟩ := Variable.inner.inj same
    simp [standing.ne_next.symm]
  case isFalse different =>
    have other : (depth, name) ≠ (other, name') := by
      intro same
      obtain ⟨rfl, rfl⟩ := Prod.mk.inj same
      exact different rfl
    simp [other]

/-- The functions that go on running keep their variables. -/
theorem leave (standing : Standing object size label home here) {frame : Frame} {next : Graph}
    (left : here.1.graph.leave = some (frame, next))
    (outer : ∀ depth name, home = some (depth, name) →
      here.1.graph.stack.length ≠ depth + 1) :
    Standing object size label home ({ here.1 with graph := next }, here.2) := by
  have length := Graph.length_leave left
  have unnamed (name : String) :
      here.1.graph.named? (.inner next.stack.length name) ≠ some object := fun named =>
    outer _ name ((standing.named _ name).1 named) length
  refine standing.of_same (Nat.le_refl _) ?_
    (Graph.named?_leave left length standing.proper unnamed)
  obtain ⟨rest, stack, rfl⟩ := Graph.leave_eq_some left
  refine Graph.get?_removeObjects fun member => ?_
  obtain ⟨name, named⟩ := Graph.mem_payloads_iff.1 member
  refine unnamed name ?_
  rw [Graph.length_removeObjects, Graph.named?_inner stack, if_pos rfl, named]

/-- The objects of the function that is left are removed. -/
theorem gone_leave (standing : Standing object size label home here) {frame : Frame} {next : Graph}
    (left : here.1.graph.leave = some (frame, next)) {depth : Nat} {name : String}
    (isHome : home = some (depth, name)) (running : here.1.graph.stack.length = depth + 1) :
    next.Gone object := by
  have named := (standing.named depth name).2 isHome
  obtain ⟨outer, stack, rfl⟩ := Graph.leave_eq_some left
  obtain rfl : outer.length = depth := by simpa [stack] using running
  rw [Graph.named?_inner stack, if_pos rfl] at named
  exact Graph.gone_removeObjects standing.proper (Graph.mem_payloads_iff.2 ⟨name, named⟩)

/-- What leaves the variables alone and removes no object keeps it. -/
theorem settled (standing : Standing object size label home here) {operation : Operation}
    (settles : operation.Settles) :
    Standing object size label home ((Step.perform operation).run.finish here) := by
  have calm := (Operation.calms_perform settles here).finish
  have notFreed : operation.freed? here.1.graph ≠ some object := fun frees => by
    have heap := (@Step.of_freed (.perform operation) _ _ frees).1
    rw [standing.isHeap] at heap
    simp at heap
  exact standing.of_same calm.time (calm.placement (.inl standing.drawn) notFreed)
    fun depth name => by rw [← Graph.named?_congr calm.stack calm.globals]; rfl

/-- A step that does not leave the function of the variable keeps the object.  It keeps its name,
too, unless it declares that one anew. -/
theorem step (standing : Standing object size label home here) (step : Step)
    (stays : ∀ depth name, home = some (depth, name) → step.leaves? here.1.graph ≠ some depth) :
    Standing object size label (remaining home (step.declares? here.1.graph))
      (step.run.finish here) := by
  have keeps (silent : step.declares? here.1.graph = none)
      (kept : Standing object size label home (step.run.finish here)) :
      Standing object size label (remaining home (step.declares? here.1.graph))
        (step.run.finish here) := by
    rw [silent, remaining_none]
    exact kept
  cases step with
  | draw => exact keeps rfl (standing.of_same (Nat.le_succ _) rfl fun _ _ => Iff.rfl)
  | perform operation =>
    cases operation with
    | enter function => exact keeps rfl (standing.enter function)
    | leave =>
        refine keeps rfl ?_
        show Standing object size label home (Operation.leave.perform.finish here)
        cases left : here.1.graph.leave with
        | none =>
            rw [finish_leave_of_none left]
            exact standing
        | some outcome =>
            obtain ⟨frame, next⟩ := outcome
            rw [finish_leave_of_some left]
            exact (standing.leave left fun depth name isHome running =>
              stays depth name isHome (depth?_eq_some_iff.2 running)).collect
    | declareGlobal name size => exact keeps rfl (standing.declareGlobal name size)
    | declareLocal name bits =>
        have finish : (Step.perform (.declareLocal name bits)).run.finish here =
            (State.declareLocal name bits).finish here := Run.finish_bind_pure ..
        cases outcome : here.1.graph.declareLocal name ⟨here.2.next⟩ (.region bits name) with
        | error fault =>
            have silent : Step.declares? here.1.graph
              (.perform (.declareLocal name bits)) = none := by
              unfold Graph.declareLocal at outcome
              split at outcome
              case h_1 stack => simp [Step.declares?, depth?, stack]
              case h_2 => simp at outcome
            refine keeps silent ?_
            rw [finish, Run.finish, declareLocal_of_error outcome]
            exact standing.of_same (Nat.le_succ _) rfl fun _ _ => Iff.rfl
        | ok next =>
            obtain ⟨frame, outer, stack, -⟩ := Graph.declareLocal_eq_ok outcome
            have running : here.1.graph.stack.length = outer.length + 1 := by simp [stack]
            have declared : Step.declares? here.1.graph (.perform (.declareLocal name bits)) =
                some (outer.length, name) := by
              simp [Step.declares?, depth?, stack]
            rw [declared, finish, Run.finish, declareLocal_of_ok outcome]
            exact standing.declareLocal outcome running
    | collect => exact keeps rfl standing.collect
    | _ => exact keeps rfl (standing.settled (by trivial))

/-- To leave the function of the variable removes the object. -/
theorem left (standing : Standing object size label home here) {depth : Nat} {name : String}
    (isHome : home = some (depth, name)) (running : here.1.graph.stack.length = depth + 1) :
    ((Step.perform .leave).run.finish here).1.graph.Gone object := by
  show (Operation.leave.perform.finish here).1.graph.Gone object
  cases left : here.1.graph.leave with
  | none =>
      unfold Graph.leave at left
      split at left
      case h_1 stack => simp [stack] at running
      case h_2 => simp at left
  | some outcome =>
      obtain ⟨frame, next⟩ := outcome
      rw [finish_leave_of_some left]
      exact (standing.gone_leave left isHome running).removeObjects _

end Standing

/-! ### Accesses that are allowed -/

/-- A computation makes no finding. -/
def Silent {α : Type} (computation : Run State α) : Prop :=
  ∀ here, (computation.finish here).1.findings = here.1.findings

section Silent

variable {α β : Type}

theorem silent_pure (result : α) : Silent (pure result : Run State α) := fun _ => rfl

/-- Only reports make findings. -/
theorem silent_onGraph (computation : Run Graph α) : Silent (onGraph computation) := by
  intro here
  rw [Run.finish, onGraph, Run.within_apply]
  cases computation (here.1.graph, here.2) <;> rfl

theorem Silent.bind {first : Run State α} {next : α → Run State β} (start : Silent first)
    (rest : ∀ result, Silent (next result)) : Silent (first >>= next) := by
  intro here
  have before := start here
  unfold Run.finish at before ⊢
  rw [Run.bind_apply]
  cases outcome : first here with
  | ok result there =>
      rw [outcome] at before
      exact (rest result there).trans before
  | error fault there =>
      rw [outcome] at before
      exact before

theorem silent_forM {ε : Type} {step : ε → Run State PUnit} (each : ∀ item, Silent (step item))
    (list : List ε) : Silent (list.forM step) := by
  induction list with
  | nil => exact silent_pure _
  | cons item rest ih => exact (each item).bind fun _ => ih

theorem silent_overwrite (range : BitRange) (field : Field) : Silent (overwrite range field) :=
  (silent_onGraph _).bind fun _ => silent_forM (fun _ => silent_onGraph _) _

end Silent

section Allowed

variable {object : ObjectId} {range : BitRange} {here : State × Supply}

/-- A read that is allowed is no finding. -/
theorem findings_read (allowed : mayAccess here.1.graph object range = true) :
    ((read object range).finish here).1.findings = here.1.findings := by
  rw [read, Run.finish_bind_of_ok (Run.ask_apply _ _), allowed]
  simp only [Bool.not_true, Bool.false_eq_true, if_false]
  cases here.1.graph.valueAt? object range with
  | some value => rfl
  | none =>
      simp only
      split
      · exact (silent_onGraph _).bind (fun _ => (silent_onGraph _).bind fun _ => silent_pure _) here
      · split
        · rfl
        · exact silent_onGraph _ here

/-- A write that is allowed is no finding. -/
theorem findings_write (allowed : mayAccess here.1.graph object range = true) (value : ValueId) :
    ((write object range value).finish here).1.findings = here.1.findings := by
  rw [write, Run.finish_bind_of_ok (Run.ask_apply _ _), allowed]
  simp only [Bool.not_true, Bool.false_eq_true, if_false]
  exact (silent_forM (silent_overwrite range) _).bind (fun _ =>
    (silent_onGraph _).bind fun _ => silent_onGraph _) here

end Allowed

/-! ### Runs of a function -/

/-- The function at a depth, counted from the outermost one, runs all along several steps, and it is
the innermost one after them. -/
def Outlasts (depth : Nat) : List Step → State × Supply → Prop
  | [], here => depth? here.1.graph = some depth
  | step :: rest, here =>
      depth < here.1.graph.stack.length ∧ Outlasts depth rest (step.run.finish here)

/-- One of several steps declares a variable. -/
def Declares (place : Nat × String) : List Step → State × Supply → Prop
  | [], _ => False
  | step :: rest, here =>
      step.declares? here.1.graph = some place ∨ Declares place rest (step.run.finish here)

instance decidableOutlasts (depth : Nat) : (steps : List Step) → (here : State × Supply) →
    Decidable (Outlasts depth steps here)
  | [], here => inferInstanceAs (Decidable (depth? here.1.graph = some depth))
  | step :: rest, here =>
      have := decidableOutlasts depth rest (step.run.finish here)
      inferInstanceAs (Decidable (_ ∧ Outlasts depth rest (step.run.finish here)))

instance decidableDeclares (place : Nat × String) : (steps : List Step) → (here : State × Supply) →
    Decidable (Declares place steps here)
  | [], _ => isFalse id
  | step :: rest, here =>
      have := decidableDeclares place rest (step.run.finish here)
      inferInstanceAs (Decidable (_ ∨ Declares place rest (step.run.finish here)))

section Runs

variable {object : ObjectId} {size depth : Nat} {label name : String} {steps : List Step}
variable {here : State × Supply}

theorem Outlasts.running (outlasts : Outlasts depth steps here) :
    depth < here.1.graph.stack.length := by
  cases steps with
  | nil =>
      rw [depth?_eq_some_iff.1 outlasts]
      exact Nat.lt_succ_self depth
  | cons step rest => exact outlasts.1

theorem Outlasts.innermost (outlasts : Outlasts depth steps here) :
    depth? (Run.history Step.run steps here).1.graph = some depth := by
  induction steps generalizing here with
  | nil => exact outlasts
  | cons step rest ih => exact ih outlasts.2

/-- When a function is left, the others run. -/
theorem Step.length_of_leaves {step : Step} (leaves : step.leaves? here.1.graph = some depth) :
    (step.run.finish here).1.graph.stack.length = depth := by
  cases step with
  | draw => simp [leaves?] at leaves
  | perform operation =>
      cases operation with
      | leave =>
          have running : here.1.graph.stack.length = depth + 1 := depth?_eq_some_iff.1 leaves
          show (Operation.leave.perform.finish here).1.graph.stack.length = depth
          cases left : here.1.graph.leave with
          | none =>
              unfold Graph.leave at left
              split at left
              case h_1 stack => simp [stack] at running
              case h_2 => simp at left
          | some outcome =>
              obtain ⟨frame, next⟩ := outcome
              rw [finish_leave_of_some left]
              show (Graph.removeObjects _ _).stack.length = depth
              rw [Graph.length_removeObjects]
              have length := Graph.length_leave left
              simp only
              omega
      | _ => simp [leaves?] at leaves

/-- While the function runs, a step keeps the object. -/
theorem Standing.step_outlasts
    (standing : Standing object size label (some (depth, name)) here) {step : Step}
    (outlasts : Outlasts depth (step :: steps) here) :
    Standing object size label (remaining (some (depth, name)) (step.declares? here.1.graph))
      (step.run.finish here) := by
  refine standing.step step fun depth' name' isHome leaves => ?_
  obtain ⟨rfl, rfl⟩ := Prod.mk.inj (Option.some.inj isHome)
  have running := Outlasts.running outlasts.2
  rw [Step.length_of_leaves leaves] at running
  exact Nat.lt_irrefl _ running

/-- While the function runs, a variable that is not declared again names its object. -/
theorem Standing.outlasts (standing : Standing object size label (some (depth, name)) here)
    (outlasts : Outlasts depth steps here) (once : ¬ Declares (depth, name) steps here) :
    Standing object size label (some (depth, name)) (Run.history Step.run steps here) := by
  induction steps generalizing here with
  | nil => exact standing
  | cons step rest ih =>
      obtain ⟨silent, rest⟩ := not_or.1 once
      have kept := standing.step_outlasts outlasts
      rw [remaining, if_neg silent] at kept
      exact ih kept outlasts.2 rest

/-- An object that no running function names stays for good. -/
theorem Standing.unnamed (standing : Standing object size label none here) (steps : List Step) :
    Standing object size label none (Run.history Step.run steps here) :=
  history_keeps (Standing object size label none) standing fun step here standing => by
    have kept := standing.step step fun _ _ isHome => by simp at isHome
    have still : remaining none (step.declares? here.1.graph) = none := by
      unfold remaining
      split <;> rfl
    rwa [still] at kept

/-- When a variable was declared again, no running function names its first object. -/
theorem Standing.declares (standing : Standing object size label (some (depth, name)) here)
    (outlasts : Outlasts depth steps here) (again : Declares (depth, name) steps here) :
    Standing object size label none (Run.history Step.run steps here) := by
  induction steps generalizing here with
  | nil => exact again.elim
  | cons step rest ih =>
      have kept := standing.step_outlasts outlasts
      by_cases declared : step.declares? here.1.graph = some (depth, name)
      · rw [remaining, if_pos declared] at kept
        exact kept.unnamed rest
      · rw [remaining, if_neg declared] at kept
        exact ih kept outlasts.2 (again.resolve_left declared)

/-- A variable that is declared names a new object. -/
theorem Moment.standing {there : State × Supply} (moment : Moment here)
    (declared : State.declareLocal name size here = .ok object there)
    (running : depth? here.1.graph = some depth) :
    Standing object size name (some (depth, name)) there := by
  cases outcome : here.1.graph.declareLocal name ⟨here.2.next⟩ (.region size name) with
  | error fault => simp [declareLocal_of_error outcome] at declared
  | ok next =>
      rw [declareLocal_of_ok outcome] at declared
      cases declared
      have names := Graph.named?_declareLocal outcome (depth?_eq_some_iff.1 running)
      have absent : here.1.graph.objects.get? ⟨here.2.next⟩ = none := moment.placed (Nat.le_refl _)
      have unnamed : ∀ place, here.1.graph.named? place ≠ some ⟨here.2.next⟩ :=
        fun place named => moment.named (Nat.le_refl _)
          (Graph.exists_named?_iff.1 ⟨place, named⟩)
      obtain ⟨frame, outer, -, rfl⟩ := Graph.declareLocal_eq_ok outcome
      refine ⟨Nat.lt_succ_self _, ?_, ?_, fun depth' name' => ?_⟩
      · rw [Ne, ObjectId.null, ObjectId.mk.injEq]
        exact Nat.ne_of_gt moment.positive
      · show (here.1.graph.addObject _ _).objects.get? _ = _
        rw [Graph.addObject, absent]
        exact Table.get?_insert_self ..
      · show Graph.named? _ _ = _ ↔ _
        rw [names]
        split
        case isTrue same =>
          obtain ⟨rfl, rfl⟩ := Variable.inner.inj same
          simp
        case isFalse different =>
          simp only [unnamed, Option.some.injEq, Prod.mk.injEq, false_iff, not_and]
          rintro rfl rfl
          exact different rfl

end Runs

/-! ### Use after return -/

/-- Use after return is found unless the variable was declared again.  A variable is declared in the
innermost function, which then runs until it is left.  If the name was not declared again in that
function, every later read or write of the variable is a finding.  If it was, no later access within
the bounds of the first variable is one. -/
theorem use_after_return (machine : Machine) (before during later : List Step) {name : String}
    {size depth : Nat} {object : ObjectId} {there : State × Supply}
    (declared : State.declareLocal name size (reached machine before) = .ok object there)
    (running : depth? (reached machine before).1.graph = some depth)
    (outlasts : Outlasts depth during there) :
    let now := Run.history Step.run (during ++ .perform .leave :: later) there
    (¬ Declares (depth, name) during there →
      (∀ range, Finds Findings.invalidRead (read object range) now) ∧
      ∀ range value, Finds Findings.invalidWrite (write object range value) now) ∧
    (Declares (depth, name) during there → ∀ range, range.fits size = true →
      ((read object range).finish now).1.findings = now.1.findings ∧
      ∀ value, ((write object range value).finish now).1.findings = now.1.findings) := by
  intro now
  have standing := (moment_reached machine before).standing declared running
  have split : now = Run.history Step.run later
      ((Step.perform .leave).run.finish (Run.history Step.run during there)) :=
    Run.history_append ..
  constructor
  · intro once
    have kept := standing.outlasts outlasts once
    have gone := kept.left rfl (depth?_eq_some_iff.1 outlasts.innermost)
    have dangling : Dangling object now := by
      rw [split]
      refine Dangling.history ⟨?_, gone.isValid, gone.valueAt?⟩ later
      exact Nat.lt_of_lt_of_le kept.drawn (Step.moved _ _).time
    exact ⟨finds_read dangling.invalid, finds_write dangling.invalid⟩
  · intro again range fits
    have kept : Standing object size name none now := by
      rw [split]
      exact (standing.declares outlasts again).unnamed (.perform .leave :: later)
    have allowed : mayAccess now.1.graph object range = true := by
      rw [mayAccess, Graph.object?, Graph.isValid, kept.placement]
      exact fits
    exact ⟨findings_read allowed, findings_write allowed⟩

/-- A function that is called meanwhile has a variable of the same name; both functions are left,
and the variable of the outer one is used. -/
theorem use_after_return_nested :
    let there := reached .linux64 [.perform (.enter "f"), .perform (.declareLocal "x" 32)]
    let during : List Step :=
      [.perform (.enter "g"), .perform (.declareLocal "x" 8), .perform .leave]
    let now := Run.history Step.run (during ++ .perform .leave :: [.perform .collect]) there
    Finds Findings.invalidRead (read ⟨1⟩ ⟨0, 32⟩) now ∧
      Finds Findings.invalidWrite (write ⟨1⟩ ⟨0, 32⟩ .zero) now := by
  intro there during now
  have declared : State.declareLocal "x" 32 (reached .linux64 [.perform (.enter "f")]) =
      .ok ⟨1⟩ there := by rfl
  have running : depth? (reached .linux64 [.perform (.enter "f")]).1.graph = some 0 := by decide
  have found := use_after_return .linux64
    [.perform (.enter "f")] during [.perform .collect] declared
    running (by decide)
  obtain ⟨reads, writes⟩ := found.1 (by decide)
  exact ⟨reads ⟨0, 32⟩, writes ⟨0, 32⟩ .zero⟩

/-- A function declares one name twice.  After it was left, a read of the first variable goes
through without a finding. -/
theorem read_after_return_missed :
    let inside := reached .linux64 [.perform (.enter "f"), .perform (.declareLocal "x" 32)]
    let now := reached .linux64 [.perform (.enter "f"), .perform (.declareLocal "x" 32),
      .perform (.declareLocal "x" 32), .perform .leave]
    State.declareLocal "x" 32 (reached .linux64 [.perform (.enter "f")]) = .ok ⟨1⟩ inside ∧
      inside.1.graph.frames.length = 1 ∧ now.1.graph.frames.length = 0 ∧
      ¬ Finds Findings.invalidRead (read ⟨1⟩ ⟨0, 32⟩) now := by
  intro inside now
  refine ⟨rfl, by decide, by decide, ?_⟩
  rintro ⟨value, there, done, found⟩
  have missed : ((read ⟨1⟩ ⟨0, 32⟩).finish now).1.findings.invalidRead = false := by decide
  rw [Run.finish, done] at missed
  exact absurd (found.symm.trans missed) (by decide)

end State

end ShapeDomain
