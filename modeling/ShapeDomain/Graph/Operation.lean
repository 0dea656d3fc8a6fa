import ShapeDomain.Graph.Field
import ShapeDomain.Graph.Pointer

/-!
# Operations on graphs

Everything that changes a graph, as data.  An operation either yields a graph or is refused.
-/

namespace ShapeDomain

namespace Graph

/-- A change of a graph. -/
inductive Operation where
  /-- Puts an object under a name. -/
  | addObject (id : ObjectId) (object : Object)
  /-- Puts an object under a name and makes it part of the heap. -/
  | addHeapObject (id : ObjectId) (object : Object)
  /-- Puts an object under a name and makes it a global variable. -/
  | declareGlobal (name : String) (id : ObjectId) (object : Object)
  /-- Puts an object under a name and makes it a variable of the innermost function. -/
  | declareLocal (name : String) (id : ObjectId) (object : Object)
  /-- Removes an object. -/
  | removeObject (id : ObjectId)
  /-- Enters a function. -/
  | enter (function : String)
  /-- Leaves the innermost function, if there is one. -/
  | leave
  /-- Says whether an object may be accessed. -/
  | setValid (id : ObjectId) (valid : Bool)
  /-- Puts a value into the graph. -/
  | addValue (value : ValueId)
  /-- Says which number a value is. -/
  | setNumber (value : ValueId) (number : Int)
  /-- Adds a field. -/
  | addField (field : Field)
  /-- Removes a field. -/
  | removeField (field : Field)
  /-- Makes a value the address of a place. -/
  | addPointer (pointer : Pointer)
  /-- A value ceases to be the address of a place. -/
  | removePointer (value : ValueId)
  /-- Records that two values are unequal. -/
  | addInequality (a b : ValueId)

namespace Operation

/-- The graph after an operation. -/
def apply (graph : Graph) : Operation → Except Fault Graph
  | addObject id object => .ok (graph.addObject id object)
  | addHeapObject id object => .ok (graph.addHeapObject id object)
  | declareGlobal name id object => .ok (graph.declareGlobal name id object)
  | declareLocal name id object => graph.declareLocal name id object
  | removeObject id => .ok (graph.removeObject id)
  | enter function => .ok (graph.enter function)
  | leave => .ok ((graph.leave.map Prod.snd).getD graph)
  | setValid id valid => graph.setValid id valid
  | addValue value => .ok (graph.addValue value)
  | setNumber value number => .ok (graph.setNumber value number)
  | addField field => graph.addField field
  | removeField field => .ok (graph.removeField field)
  | addPointer pointer => graph.addPointer pointer
  | removePointer value => .ok (graph.removePointer value)
  | addInequality a b => .ok (graph.addInequality a b)

/-- Performs an operation, or leaves the graph as it is and stops. -/
def perform (operation : Operation) : Run Graph Unit :=
  Run.attempt fun graph => operation.apply graph

end Operation

end Graph

end ShapeDomain
