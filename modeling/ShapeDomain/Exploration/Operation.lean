import ShapeDomain.Exploration.Stop

/-!
# Operations on explorations

Everything that changes an exploration, as data.
-/

namespace ShapeDomain

namespace Exploration

/-- A change of an exploration. -/
inductive Operation (S : Type) where
  /-- Adds a state that was derived from no other. -/
  | addRoot (state : S)
  /-- Adds a state that was derived from another one. -/
  | addChild (parent : NodeId) (state : S)
  /-- Records that a node was derived from another one. -/
  | addParent (child parent : NodeId)
  /-- Records that a node was merged into another one. -/
  | setMergedInto (id into : NodeId)
  /-- Says whether a node is allowed to cover others. -/
  | setEligible (id : NodeId) (eligible : Bool)
  /-- Records that a node is covered by another one. -/
  | setCovered (id covering : NodeId)
  /-- Removes a node. -/
  | remove (id : NodeId)
  /-- Decides whether a node need not be explored. -/
  | stop (operator : StopOperator S) (options : Options) (element : NodeId)
      (reached : List NodeId)

/-- What an operation answers. -/
inductive Answer where
  /-- Nothing. -/
  | done
  /-- The node that was added. -/
  | node (id : NodeId)
  /-- Whether the node need not be explored. -/
  | verdict (stop : Bool)

namespace Operation

variable {S : Type}

/-- Adds a node. -/
def add (change : Exploration S → NodeId × Exploration S) : Run (Exploration S) Answer := do
  let (id, exploration) ← Run.ask change
  Run.modify fun _ => exploration
  return .node id

/-- Changes an exploration in a way that is never refused. -/
def change (change : Exploration S → Exploration S) : Run (Exploration S) Answer := do
  Run.modify change
  return .done

/-- Performs an operation. -/
def perform [Explorable S] : Operation S → Run (Exploration S) Answer
  | addRoot state => add fun exploration => exploration.addRoot state
  | addChild parent state => add fun exploration => exploration.addChild parent state
  | addParent child parent => change fun exploration => exploration.addParent child parent
  | setMergedInto id into => change fun exploration => exploration.setMergedInto id into
  | setEligible id eligible => change fun exploration => exploration.setEligible id eligible
  | setCovered id covering => do
      Run.attempt fun exploration => exploration.setCovered id covering
      return .done
  | remove id => change fun exploration => exploration.remove id
  | stop operator options element reached =>
      return .verdict (← Exploration.stop operator options element reached)

end Operation

end Exploration

end ShapeDomain
