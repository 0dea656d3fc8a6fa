import ShapeDomain.Coverage
import ShapeDomain.Exploration.Basic

/-!
# Stopping an exploration

Whether a new node need be explored is decided by the stop operator of its states, and recorded in
the exploration.  The node is first compared with the one it was merged into, which lets it leave
the exploration, and then with every older reached node that may cover others.  A covered node is
removed if its only parent is also a parent of the covering node.
-/

namespace ShapeDomain

namespace Exploration

variable {S : Type}

/-- Compares a node with the one it was merged into, if that is reached.  If it is covered there, it
leaves the exploration or is marked covered. -/
def stopAtMerged (operator : StopOperator S) (options : Options) (element : NodeId)
    (node : Node S) (reached : List NodeId) : Run (Exploration S) Bool := do
  match node.mergedInto.filter reached.contains with
  | none => return false
  | some merged =>
      match ← Run.ask fun exploration => exploration.node? merged with
      | none => return false
      | some other =>
          if ← Run.draw (operator.stop node.state [other.state]) then
            if options.markMerged then
              Run.attempt fun exploration => exploration.setCovered element merged
            else
              Run.modify fun exploration => exploration.remove element
            return true
          else
            return false

/-- Compares a node with a reached one.  It is not covered by itself, by a newer node, or by one
that may not cover others.  If it is covered, that is recorded, and the covering node is the
result. -/
def coverBy (operator : StopOperator S) (element : NodeId) (node : Node S) (other : NodeId) :
    Run (Exploration S) (Option (Node S)) := do
  match ← Run.ask fun exploration => exploration.node? other with
  | none => return none
  | some covering =>
      if !covering.canCover || decide (element ≤ other) then
        return none
      else if ← Run.draw (operator.stop node.state [covering.state]) then
        Run.attempt fun exploration => exploration.setCovered element other
        return some covering
      else
        return none

/-- Whether the only parent of a node is also a parent of another one. -/
def sharesOnlyParent (node other : Node S) : Bool :=
  match node.parents with
  | [parent] => other.parents.contains parent
  | _ => false

/-- Compares a node with reached ones until one covers it. -/
def stopAtReached (operator : StopOperator S) (options : Options) (element : NodeId)
    (node : Node S) : List NodeId → Run (Exploration S) Bool
  | [] => return false
  | other :: rest => do
      match ← coverBy operator element node other with
      | none => stopAtReached operator options element node rest
      | some covering =>
          if sharesOnlyParent node covering then
            Run.modify fun exploration => exploration.remove element
            return true
          else
            return !options.keepCovered

/-- Decides whether a node need not be explored and not be added to the reached ones. -/
def stop [Explorable S] (operator : StopOperator S) (options : Options) (element : NodeId)
    (reached : List NodeId) : Run (Exploration S) Bool := do
  match ← Run.ask fun exploration => exploration.node? element with
  | none => return false
  | some node =>
      if node.isCovered then
        throw (.invalidCoverage ("stop on already covered state " ++ element.text))
      else if ← stopAtMerged operator options element node reached then
        return true
      else if !options.coverTargets && Explorable.isTarget node.state then
        return false
      else
        stopAtReached operator options element node reached

/-- Whether a node could be made one that is covered by a reached one, which must not be newer. -/
def canForce (operator : StopOperator S) (exploration : Exploration S)
    (element reached : NodeId) : Draw Bool :=
  match exploration.node? element, exploration.node? reached with
  | some node, some other =>
      if !other.canCover || decide (element < reached) then
        pure false
      else
        operator.canForce node.state other.state
  | _, _ => pure false

end Exploration

end ShapeDomain
