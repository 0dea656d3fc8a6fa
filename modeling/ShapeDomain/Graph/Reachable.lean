import ShapeDomain.Graph.Field

/-!
# Reachable memory

An object is reachable if a variable names it or a field of a reachable object holds an address in
it.  The reachable objects are found by going on, step by step, from the objects that were seen for
the first time.
-/

namespace ShapeDomain

namespace Graph

/-- The objects that the fields of an object hold addresses in. -/
def successors (graph : Graph) (object : ObjectId) : List ObjectId :=
  (graph.fieldsOf object).filterMap fun field =>
    (graph.target? field.value).map Target.object

/-- Variables and addresses lead to an object. -/
inductive Reaches (graph : Graph) : ObjectId → Prop where
  /-- A variable names the object. -/
  | root {object : ObjectId} :
      object ∈ graph.roots.map Prod.snd → Reaches graph object
  /-- A field of a reachable object holds an address in the object. -/
  | step {object next : ObjectId} :
      Reaches graph object → next ∈ graph.successors object → Reaches graph next

/-- The objects that a frontier leads to and that are new. -/
def beyond (graph : Graph) (seen : KeySet ObjectId) (frontier : List ObjectId) :
    KeySet ObjectId :=
  let seen := seen.addAll frontier
  KeySet.ofList ((frontier.flatMap graph.successors).filter fun object => !seen.contains object)

/-- Adds to the objects in `seen` those that `frontier` leads to in `rounds` steps.  Every step goes
on from objects that were not seen before. -/
def explore (graph : Graph) :
    (rounds : Nat) → (seen : KeySet ObjectId) → (frontier : List ObjectId) → KeySet ObjectId
  | 0, seen, frontier => seen.addAll frontier
  | rounds + 1, seen, frontier =>
      let next := (graph.beyond seen frontier).keys
      if next.isEmpty then seen.addAll frontier
      else graph.explore rounds (seen.addAll frontier) next

/-- The reachable objects.  A step that sees new objects goes on from an object with fields, so
there are no more steps than layouts. -/
def reachable (graph : Graph) : KeySet ObjectId :=
  graph.explore graph.layouts.size ∅ (graph.roots.map Prod.snd)

/-- The heap objects that are not reachable. -/
def garbage (graph : Graph) : List ObjectId :=
  let reachable := graph.reachable
  graph.heapObjects.filter fun object => !reachable.contains object

end Graph

end ShapeDomain
