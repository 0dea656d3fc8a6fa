import ShapeDomain.Graph.Field
import ShapeDomain.Graph.Pointer

/-!
# Consistency of a graph

The invariants that the tables of a graph do not carry in their types, as a check that names the
first violation: the zero value is the address of NULL, the fields of an object lie within it and
apart from each other and hold values of the graph, and pointers and variables lead to objects of
the graph.
-/

namespace ShapeDomain

namespace Graph

/-- Checks that fields, which are listed in the order in which they start, begin at or after `least`
and apart from each other, lie within `size` bits and hold values of the graph. -/
def checkFields (graph : Graph) (size : Nat) : (least : Nat) → List Field → Except Fault Unit
  | _, [] => .ok ()
  | least, field :: rest =>
      if field.range.offset < least then
        .error (.overlappingField field.object field.range)
      else if size < field.range.stop then
        .error (.fieldOutOfBounds field.object field.range size)
      else if !graph.hasValue field.value then
        .error (.unknownValue field.value)
      else
        graph.checkFields size field.range.stop rest

/-- Checks that an object is in the graph. -/
def checkObject (graph : Graph) (id : ObjectId) : Except Fault Unit :=
  if graph.hasObject id then .ok () else .error (.unknownObject id)

/-- Checks the invariants of a graph. -/
def check (graph : Graph) : Except Fault Unit := do
  if graph.target? .zero ≠ some .null then
    throw (.unknownValue .zero)
  graph.layouts.toList.forM fun entry => do
    let object ← graph.object entry.1
    graph.checkFields object.size 0 (entry.2.fields entry.1)
  graph.pointers.forM fun pointer => graph.checkObject pointer.target.object
  graph.roots.forM fun entry => graph.checkObject entry.2

/-- A graph that passes the check. -/
def Consistent (graph : Graph) : Prop :=
  graph.check = .ok ()

instance (graph : Graph) : Decidable graph.Consistent :=
  match verdict : graph.check with
  | .ok () => isTrue verdict
  | .error _ => isFalse fun passed => by simp [Consistent, verdict] at passed

end Graph

end ShapeDomain
