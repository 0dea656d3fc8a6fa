import ShapeDomain.Join.Graph
import ShapeDomain.State.Basic

/-!
# Coverage and merging

A state covers another one with the same findings if the join of their memories says so.  Garbage is
collected before states are compared or joined.

An analysis explores states.  A stop operator decides whether a new state is covered by reached
ones, so that it need not be explored, and a merge operator combines it with a reached one.
-/

namespace ShapeDomain

namespace State

/-- Whether `state` is subsumed by `reached`. -/
def isSubsumedBy (options : Options) (state reached : State) : Draw Bool := do
  let state := state.collect
  let reached := reached.collect
  if state.findings ≠ reached.findings then
    return false
  else
    let outcome ← Graph.join options state.graph reached.graph
    return outcome.isDefined && outcome.status.leftIsCovered

/-- The join of two states with the same findings, and how they relate. -/
def join (options : Options) (state other : State) : Draw (Option (State × Status)) := do
  let state := state.collect
  let other := other.collect
  if state.findings ≠ other.findings then
    return none
  else
    match ← Graph.join options state.graph other.graph with
    | .undefined => return none
    | .defined dest status => return some (⟨dest, state.findings⟩, status)

end State

/-- States that an analysis explores. -/
class Explorable (S : Type) where
  /-- Whether a state is one that the analysis looks for. -/
  isTarget : S → Bool

/-- How an analysis finds that a state need not be explored. -/
structure StopOperator (S : Type) where
  /-- Whether a state is covered by the reached ones. -/
  stop : (state : S) → (reached : List S) → Draw Bool
  /-- Whether a state could be made one that is covered by a reached one. -/
  canForce : (state reached : S) → Draw Bool

/-- How an analysis combines a new state with a reached one.  If the result is the reached one, they
are not merged. -/
abbrev MergeOperator (S : Type) := (state reached : S) → Draw S

namespace StopOperator

/-- No state is ever covered. -/
def never {S : Type} : StopOperator S where
  stop _ _ := pure false
  canForce _ _ := pure false

/-- Whether a state is subsumed by some single state of a list. -/
def subsumedByAny (options : Options) (state : State) : List State → Draw Bool
  | [] => return false
  | reached :: rest => do
      if ← state.isSubsumedBy options reached then
        return true
      else
        subsumedByAny options state rest

/-- A state is covered if some single reached state subsumes it. -/
def separate (options : Options) : StopOperator State where
  stop := subsumedByAny options
  canForce _ _ := pure false

/-- The stop operator that the options ask for. -/
def ofOptions (options : Options) : StopOperator State :=
  match options.stop with
  | .separate => separate options
  | .never => never

end StopOperator

namespace MergeOperator

/-- States are never merged. -/
def separate {S : Type} : MergeOperator S := fun _ reached => pure reached

/-- States are merged by joining them, if they have a join. -/
def joining (options : Options) : MergeOperator State := fun state reached => do
  match ← state.join options reached with
  | some (joined, _) => return joined
  | none => return reached

/-- The merge operator that the options ask for. -/
def ofOptions (options : Options) : MergeOperator State :=
  match options.merge with
  | .separate => separate
  | .joining => joining options

end MergeOperator

namespace State

instance : Explorable State := ⟨isTarget⟩

/-- The state in which an analysis starts: that of a program without variables, in the function
`entry` if there is one. -/
def start (options : Options) (entry : Option String) : State :=
  match entry with
  | some function => (initial options.machine).enter function
  | none => initial options.machine

end State

end ShapeDomain
