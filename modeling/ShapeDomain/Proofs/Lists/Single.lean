import ShapeDomain.Proofs.Lists.Unwinding
import ShapeDomain.Proofs.Progress.Graphs

/-!
# Pairing single variables

Two graphs that have one variable each, in the same scope and of the same name, are joined by
joining the objects of the two variables.  The destination has a variable of this name in this
scope, too.
-/

namespace ShapeDomain

open State (headRange)

namespace Join

variable {left right : Graph} {here : Progress × Supply} {scope : Scope}
    {name label label2 : String}
variable {head1 head2 : ObjectId} {supply : Supply} {declare : Declare}
variable {stack : List Frame} {globals : Table String ObjectId}

/-! ### Functions without variables -/

/-- A join in which the destination has other variables. -/
def Progress.naming (progress : Progress) (stack : List Frame) (globals : Table String ObjectId) :
    Progress :=
  { progress with dest := progress.dest.withNames stack globals }

/-- The running functions when functions without variables have been entered. -/
def entered (functions : List String) (stack : List Frame) : List Frame :=
  (functions.map Scope.bare).reverse ++ stack

/-- Functions without variables are entered. -/
theorem matchFrames_bare (functions : List String) (rest : List (Frame × Frame)) :
    matchFrames ((functions.map Scope.bare).zip (functions.map Scope.bare) ++ rest) here =
      matchFrames rest
        (here.1.naming (entered functions here.1.dest.stack) here.1.dest.globals, here.2) := by
  induction functions generalizing here with
  | nil => rfl
  | cons function functions ih =>
      let next : Progress × Supply :=
        (here.1.naming (⟨function, ∅⟩ :: here.1.dest.stack) here.1.dest.globals, here.2)
      have first : matchFrames (((function :: functions).map Scope.bare).zip
          ((function :: functions).map Scope.bare) ++ rest) here =
          matchFrames ((functions.map Scope.bare).zip (functions.map Scope.bare) ++ rest) next := by
        conv => lhs; rw [List.map_cons, List.zip_cons_cons, List.cons_append]; unfold matchFrames
        rw [if_neg (by simp)]
        refine (Run.bind_apply_ok (modifyDest_apply _ _)).trans ?_
        refine (Run.bind_apply_ok (rfl : matchScopes _ ∅ ∅ next = .ok (some []) next)).trans ?_
        have same : (fun found : Option (List ObjectPair) =>
            (pure (found.map ([] ++ ·)) : Run Progress (Option (List ObjectPair)))) = pure :=
          funext fun found => by cases found <;> rfl
        exact congrFun ((congrArg (matchFrames _ >>= ·) same).trans (bind_pure _)) next
      rw [first, ih]
      simp [next, Progress.naming, entered, Graph.withNames, Scope.bare]

/-! ### The variable -/

/-- A graph with one more variable, where the names lead elsewhere. -/
def withVariable (graph : Graph) (id : ObjectId) (label : String) (stack : List Frame)
    (globals : Table String ObjectId) : Graph :=
  (graph.putPlacement id ⟨.region 64 label, true, false⟩).withNames stack globals

/-- A graph in which the variable is the only one. -/
def withSingle (graph : Graph) (scope : Scope) (name : String) (id : ObjectId)
    (label : String) : Graph :=
  withVariable graph id label (scope.frames name id).reverse (scope.globals name id)

/-- Pairing variables is to pair the global ones first, and then those of the functions. -/
theorem matchVariables_apply {globals locals : List ObjectPair} {middle there : Progress × Supply}
    (matchedGlobals : matchScopes
      (fun name id object graph => .ok (graph.declareGlobal name id object))
      here.1.left.globals here.1.right.globals here = .ok (some globals) middle)
    (lengths : here.1.left.frames.length = here.1.right.frames.length)
    (matchedFrames : matchFrames (here.1.left.frames.zip here.1.right.frames) middle =
      .ok (some locals) there) :
    matchVariables here = .ok (some (globals ++ locals)) there := by
  unfold matchVariables
  refine (Run.bind_apply_ok (Run.state_apply _)).trans ((Run.bind_apply_ok matchedGlobals).trans
    ((congrFun (if_neg (not_not.2 lengths)) _).trans ?_))
  exact Run.bind_apply_ok matchedFrames

section Single

variable (found1 : here.1.left.object? head1 = some (.region 64 label))
variable (found2 : here.1.right.object? head2 = some (.region 64 label2))
variable (valid1 : here.1.left.isValid head1 = true) (valid2 : here.1.right.isValid head2 = true)
variable (differ : head1 ≠ head2) (free1 : here.1.leftMap.object? head1 = none)
variable (free2 : here.1.rightMap.object? head2 = none)

include found1 found2 valid1 valid2 differ free1 free2

/-- Two variables in single scopes are paired. -/
theorem matchScopes_single
    (declared : declare name ⟨here.2.next⟩ (.region 64 label) here.1.dest =
      .ok (withVariable here.1.dest ⟨here.2.next⟩ label stack globals)) :
    matchScopes declare (Scope.single name head1) (Scope.single name head2) here =
      .ok (some [⟨head1, head2, ⟨here.2.next⟩⟩]) (here.1.making ⟨head1, head2, ⟨here.2.next⟩⟩
        (withVariable here.1.dest ⟨here.2.next⟩ label stack globals), ⟨here.2.next + 1⟩) := by
  have object1 : here.1.left.object head1 = .ok (.region 64 label) :=
    (Graph.object_eq_ok_iff _).2 found1
  have object2 : here.1.right.object head2 = .ok (.region 64 label2) :=
    (Graph.object_eq_ok_iff _).2 found2
  have named : objectName head1 head2 here = .ok ⟨here.2.next⟩ (here.1, ⟨here.2.next + 1⟩) := by
    rw [objectName, if_neg differ]
    exact Run.draw_objectId_apply here
  have validated := here.1.dest.setValid_withNames stack globals ⟨here.2.next⟩ (.region 64 label)
    true true false
  have matched : matchVariable declare name head1 head2 here =
      .ok (some ⟨head1, head2, ⟨here.2.next⟩⟩) (here.1.making ⟨head1, head2, ⟨here.2.next⟩⟩
        (withVariable here.1.dest ⟨here.2.next⟩ label stack globals), ⟨here.2.next + 1⟩) := by
    unfold matchVariable
    refine (Run.bind_apply_ok (Run.demand_apply_ok object1)).trans ?_
    refine (Run.bind_apply_ok (Run.demand_apply_ok object2)).trans ?_
    refine (Run.bind_apply_ok (Run.state_apply _)).trans ?_
    simp only [valid1, valid2]
    rw [if_neg (by simp [Object.region])]
    refine (Run.bind_apply_ok named).trans ?_
    refine (Run.bind_apply_ok
      (@attemptDest_apply _ (here.1, ⟨here.2.next + 1⟩) _ declared)).trans ?_
    refine (Run.bind_apply_ok (attemptDest_apply validated)).trans ?_
    exact Run.bind_apply_ok (pairObjects_ok (.inl free1) (.inl free2))
  unfold matchScopes
  rw [if_pos (by simp)]
  exact Run.bind_apply_ok matched

variable (absent : here.1.dest.hasObject ⟨here.2.next⟩ = false)

include absent

/-- Single global variables are paired. -/
theorem matchScopes_global (noGlobals : here.1.dest.globals = ∅) : matchScopes
    (fun name id object graph => .ok (graph.declareGlobal name id object)) (Scope.single name head1)
      (Scope.single name head2) here = .ok (some [⟨head1, head2, ⟨here.2.next⟩⟩])
        (here.1.making ⟨head1, head2, ⟨here.2.next⟩⟩ (withVariable here.1.dest ⟨here.2.next⟩ label
          here.1.dest.stack (Scope.single name ⟨here.2.next⟩)), ⟨here.2.next + 1⟩) := by
  refine matchScopes_single found1 found2 valid1 valid2 differ free1 free2 (congrArg Except.ok ?_)
  rw [Graph.declareGlobal, Graph.addObject_of_absent absent, noGlobals]
  rfl

/-- The single variables of functions are paired. -/
theorem matchFrames_single {function : String} {rest : List (Frame × Frame)}
    {there : Progress × Supply}
    (others : matchFrames rest (here.1.making ⟨head1, head2, ⟨here.2.next⟩⟩
      (withVariable here.1.dest ⟨here.2.next⟩ label
        (⟨function, Scope.single name ⟨here.2.next⟩⟩ :: here.1.dest.stack) here.1.dest.globals),
      ⟨here.2.next + 1⟩) = .ok (some []) there) :
    matchFrames ((⟨function, Scope.single name head1⟩, ⟨function, Scope.single name head2⟩) :: rest)
      here = .ok (some [⟨head1, head2, ⟨here.2.next⟩⟩]) there := by
  let next : Progress × Supply :=
    (here.1.naming (⟨function, ∅⟩ :: here.1.dest.stack) here.1.dest.globals, here.2)
  have absentNext : next.1.dest.hasObject ⟨next.2.next⟩ = false := absent
  have declared : next.1.dest.declareLocal name ⟨next.2.next⟩ (.region 64 label) =
      .ok (withVariable next.1.dest ⟨next.2.next⟩ label
        (⟨function, Scope.single name ⟨here.2.next⟩⟩ :: here.1.dest.stack)
          here.1.dest.globals) := by
    show Except.ok _ = _
    rw [Graph.addObject_of_absent absentNext]
    rfl
  have matched := @matchScopes_single next name label label2 head1 head2
    (fun name id object graph => graph.declareLocal name id object) _ _ found1 found2 valid1 valid2
    differ free1 free2 declared
  unfold matchFrames
  rw [if_neg (by simp)]
  refine (Run.bind_apply_ok (modifyDest_apply _ _)).trans ((Run.bind_apply_ok matched).trans ?_)
  exact Run.bind_apply_ok others

variable (noGlobals : here.1.dest.globals = ∅) (noFrames : here.1.dest.stack = [])

include noGlobals noFrames

/-- Single global variables are paired, and functions without variables are entered. -/
theorem matchVariables_global {functions : List String}
    (globals1 : here.1.left.globals = Scope.single name head1)
    (globals2 : here.1.right.globals = Scope.single name head2)
    (frames1 : here.1.left.frames = functions.map Scope.bare)
    (frames2 : here.1.right.frames = functions.map Scope.bare) :
    matchVariables here = .ok (some [⟨head1, head2, ⟨here.2.next⟩⟩])
      (here.1.making ⟨head1, head2, ⟨here.2.next⟩⟩
        (withSingle here.1.dest (.global functions) name ⟨here.2.next⟩ label),
        ⟨here.2.next + 1⟩) := by
  have matched := @matchScopes_global _ name _ _ _ _ found1 found2 valid1 valid2 differ free1 free2
    absent noGlobals
  rw [← globals1, ← globals2] at matched
  have lengths : here.1.left.frames.length = here.1.right.frames.length := by rw [frames1, frames2]
  refine @matchVariables_apply here _ [] _ _ matched lengths ?_
  rw [frames1, frames2, ← List.append_nil (List.zip _ _), matchFrames_bare]
  simp [matchFrames, Progress.naming, Progress.making, withSingle, withVariable, Graph.withNames,
    entered, Scope.frames, Scope.globals, noFrames]

/-- The single variables of a function are paired, and the functions around it are entered. -/
theorem matchVariables_inside {outer inner : List String} {function : String}
    (globals1 : here.1.left.globals = ∅) (globals2 : here.1.right.globals = ∅)
    (frames1 : here.1.left.frames = Scope.frames name head1 (.inside outer function inner))
    (frames2 : here.1.right.frames = Scope.frames name head2 (.inside outer function inner)) :
    matchVariables here = .ok (some [⟨head1, head2, ⟨here.2.next⟩⟩])
      (here.1.making ⟨head1, head2, ⟨here.2.next⟩⟩
        (withSingle here.1.dest (.inside outer function inner) name ⟨here.2.next⟩ label),
        ⟨here.2.next + 1⟩) := by
  have matched : matchScopes (fun name id object graph => .ok (graph.declareGlobal name id object))
      here.1.left.globals here.1.right.globals here = .ok (some []) here := by
    rw [globals1, globals2]
    rfl
  have lengths : here.1.left.frames.length = here.1.right.frames.length := by
    rw [frames1, frames2]
    simp [Scope.frames]
  refine @matchVariables_apply here [] _ _ _ matched lengths ?_
  rw [frames1, frames2, Scope.frames, Scope.frames, List.zip_append rfl, List.zip_cons_cons,
    matchFrames_bare]
  let next : Progress × Supply :=
    (here.1.naming (entered outer here.1.dest.stack) here.1.dest.globals, here.2)
  refine @matchFrames_single next name label label2 head1 head2 found1 found2 valid1 valid2 differ
    free1 free2 absent function _ _ ?_
  rw [← List.append_nil (List.zip _ _), matchFrames_bare]
  simp [matchFrames, Progress.naming, Progress.making, withSingle, withVariable, Graph.withNames,
    Graph.putPlacement, entered, Scope.frames, Scope.globals, noFrames, noGlobals, next]

end Single

end Join

end ShapeDomain
