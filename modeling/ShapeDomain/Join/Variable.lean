import ShapeDomain.Join.Object

/-!
# Pairing variables

A join starts from the variables.  The graphs must have global variables of the same names and be in
the same functions with local variables of the same names; variables are paired by scope and name.
-/

namespace ShapeDomain

namespace Join

/-- How the counterpart of a pair of variables is put into the destination. -/
abbrev Declare := String → ObjectId → Object → Graph → Except Fault Graph

/-- Pairs two variables of the same name, if their objects are alike. -/
def matchVariable (declare : Declare) (name : String) (object1 object2 : ObjectId) :
    Run Progress (Option ObjectPair) := do
  let source1 ← Run.demand fun progress => progress.left.object object1
  let source2 ← Run.demand fun progress => progress.right.object object2
  let progress ← Run.state
  let valid := progress.left.isValid object1
  if source1.size ≠ source2.size ∨ valid ≠ progress.right.isValid object2 then
    return none
  else
    let id ← objectName object1 object2
    attemptDest (declare name id (.region source1.size source1.label))
    attemptDest fun graph => graph.setValid id valid
    pairObjects object1 object2 id
    return some ⟨object1, object2, id⟩

/-- Pairs variables of the same names one after the other, until two are not alike. -/
def matchEach (declare : Declare) :
    List ((String × ObjectId) × (String × ObjectId)) → Run Progress (Option (List ObjectPair))
  | [] => return some []
  | (variable1, variable2) :: rest => do
      match ← matchVariable declare variable1.1 variable1.2 variable2.2 with
      | none => return none
      | some pair => return (← matchEach declare rest).map (pair :: ·)

/-- Pairs the variables of two scopes, if these have the same names. -/
def matchScopes (declare : Declare) (scope1 scope2 : Table String ObjectId) :
    Run Progress (Option (List ObjectPair)) :=
  if scope1.keys = scope2.keys then
    matchEach declare (scope1.toList.zip scope2.toList)
  else
    pure none

/-- Pairs the variables of functions one after the other, if these are the same functions. -/
def matchFrames : List (Frame × Frame) → Run Progress (Option (List ObjectPair))
  | [] => return some []
  | (frame1, frame2) :: rest => do
      if frame1.function ≠ frame2.function ∨ frame1.locals.keys ≠ frame2.locals.keys then
        return none
      else
        modifyDest fun graph => graph.enter frame1.function
        let declare : Declare := fun name id object graph => graph.declareLocal name id object
        match ← matchScopes declare frame1.locals frame2.locals with
        | none => return none
        | some pairs => return (← matchFrames rest).map (pairs ++ ·)

/-- Pairs the global variables and then those of the functions, from the outermost one on. -/
def matchVariables : Run Progress (Option (List ObjectPair)) := do
  let progress ← Run.state
  let declare : Declare := fun name id object graph => .ok (graph.declareGlobal name id object)
  match ← matchScopes declare progress.left.globals progress.right.globals with
  | none => return none
  | some globals =>
      let frames1 := progress.left.frames
      let frames2 := progress.right.frames
      if frames1.length ≠ frames2.length then
        return none
      else
        return (← matchFrames (frames1.zip frames2)).map (globals ++ ·)

end Join

end ShapeDomain
