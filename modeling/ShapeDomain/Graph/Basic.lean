import ShapeDomain.Edge
import ShapeDomain.Machine
import ShapeDomain.Object
import ShapeDomain.Run
import ShapeDomain.Table

/-!
# Memory graphs

A memory graph is one snapshot of memory.  Its objects are placed in the heap or named by the
variables of the program, its fields say which values the objects hold, its values may be addresses
and may be known numbers, and some values are known to be unequal.

The tables make several invariants part of the type: what is said of an object or a value is said of
one that is in the graph, a value is the address of at most one place, the fields of an object start
at different bits, and an inequality is recorded once, from the smaller to the larger value.
-/

namespace ShapeDomain

/-- The variables of one running function. -/
structure Frame where
  /-- The function. -/
  function : String
  /-- Its variables, by name. -/
  locals : Table String ObjectId
  deriving DecidableEq

/-- An object of a graph, and where it stands. -/
structure Placement where
  /-- The object. -/
  object : Object
  /-- Whether it may be accessed. -/
  valid : Bool
  /-- Whether it is part of the heap. -/
  heap : Bool
  deriving DecidableEq

/-- What is known of a value. -/
structure Knowledge where
  /-- The number that it is. -/
  number : Option Int
  /-- The place that it is the address of. -/
  target : Option Target
  deriving DecidableEq

/-- What a field holds, where it starts being known. -/
structure Content where
  /-- The number of bits. -/
  size : Nat
  /-- The value. -/
  value : ValueId
  deriving DecidableEq

/-- The fields of one object, by where they start. -/
abbrev Layout := Table Nat Content

/-- A snapshot of memory. -/
structure Graph where
  /-- The objects. -/
  objects : Table ObjectId Placement
  /-- The values. -/
  values : Table ValueId Knowledge
  /-- The layouts of the objects that ever had a field. -/
  layouts : Table ObjectId Layout
  /-- The pairs of values, the smaller one first, that are known to be unequal. -/
  inequalities : KeySet (ValueId × ValueId)
  /-- The running functions, the innermost one first. -/
  stack : List Frame
  /-- The global variables, by name. -/
  globals : Table String ObjectId
  /-- The machine whose memory this is. -/
  machine : Machine
  deriving DecidableEq

namespace Knowledge

/-- Nothing is known. -/
def nothing : Knowledge := ⟨none, none⟩

/-- The zero value is the number 0 and the address of NULL. -/
def zero : Knowledge := ⟨some 0, some .null⟩

/-- The value no longer is the address of any place in an object. -/
def forget (object : ObjectId) (known : Knowledge) : Knowledge :=
  { known with target := known.target.filter fun target => target.object != object }

end Knowledge

namespace Graph

/-- The memory of a program that has no variables: the NULL object and the zero value. -/
def initial (machine : Machine) : Graph where
  objects := Table.insert ∅ .null ⟨.null, false, false⟩
  values := Table.insert ∅ .zero .zero
  layouts := ∅
  inequalities := ∅
  stack := []
  globals := ∅
  machine := machine

/-! ### Objects -/

/-- The object of a name. -/
def object? (graph : Graph) (id : ObjectId) : Option Object :=
  (graph.objects.get? id).map Placement.object

/-- The object of a name, which has to be in the graph. -/
def object (graph : Graph) (id : ObjectId) : Except Fault Object :=
  match graph.object? id with
  | some object => .ok object
  | none => .error (.unknownObject id)

/-- Whether a name is that of an object of the graph. -/
def hasObject (graph : Graph) (id : ObjectId) : Bool :=
  graph.objects.contains id

/-- Whether an object is in the graph and may be accessed. -/
def isValid (graph : Graph) (id : ObjectId) : Bool :=
  (graph.objects.get? id).any Placement.valid

/-- Whether an object is part of the heap. -/
def isHeap (graph : Graph) (id : ObjectId) : Bool :=
  (graph.objects.get? id).any Placement.heap

/-- The objects of the heap. -/
def heapObjects (graph : Graph) : List ObjectId :=
  (graph.objects.filter fun _ placement => placement.heap).keys

/-- Puts an object under a name; a new name is valid and not part of the heap. -/
def addObject (graph : Graph) (id : ObjectId) (object : Object) : Graph :=
  let placement := match graph.objects.get? id with
    | some old => { old with object := object }
    | none => ⟨object, true, false⟩
  { graph with objects := graph.objects.insert id placement }

/-- Puts an object under a name and makes it part of the heap. -/
def addHeapObject (graph : Graph) (id : ObjectId) (object : Object) : Graph :=
  let valid := match graph.objects.get? id with
    | some old => old.valid
    | none => true
  { graph with objects := graph.objects.insert id ⟨object, valid, true⟩ }

/-- Says whether an object may be accessed. -/
def setValid (graph : Graph) (id : ObjectId) (valid : Bool) : Except Fault Graph :=
  match graph.objects.get? id with
  | some old => .ok { graph with objects := graph.objects.insert id { old with valid := valid } }
  | none => .error (.unknownObject id)

/-! ### Values -/

/-- What is known of a value; nothing, if the value is not in the graph. -/
def knowledge (graph : Graph) (value : ValueId) : Knowledge :=
  (graph.values.get? value).getD .nothing

/-- Whether a value is in the graph. -/
def hasValue (graph : Graph) (value : ValueId) : Bool :=
  graph.values.contains value

/-- The number that a value is known to be. -/
def number? (graph : Graph) (value : ValueId) : Option Int :=
  (graph.knowledge value).number

/-- The place that a value is the address of. -/
def target? (graph : Graph) (value : ValueId) : Option Target :=
  (graph.knowledge value).target

/-- Whether a value is the address of a place. -/
def isPointer (graph : Graph) (value : ValueId) : Bool :=
  (graph.target? value).isSome

/-- Puts a value into the graph; what is known of it stays known. -/
def addValue (graph : Graph) (value : ValueId) : Graph :=
  { graph with values := graph.values.insert value (graph.knowledge value) }

/-- Puts a value into the graph and says which number it is. -/
def setNumber (graph : Graph) (value : ValueId) (number : Int) : Graph :=
  let known := { graph.knowledge value with number := some number }
  { graph with values := graph.values.insert value known }

/-- Puts a value into the graph that was never in any graph before. -/
def newValue : Run Graph ValueId := do
  let value ← Run.draw Draw.valueId
  Run.modify fun graph => graph.addValue value
  return value

/-! ### Scopes -/

/-- Puts an object under a name and makes it a global variable. -/
def declareGlobal (graph : Graph) (name : String) (id : ObjectId) (object : Object) : Graph :=
  { graph.addObject id object with globals := graph.globals.insert name id }

/-- Puts an object under a name and makes it a variable of the innermost function. -/
def declareLocal (graph : Graph) (name : String) (id : ObjectId) (object : Object) :
    Except Fault Graph :=
  match graph.stack with
  | [] => .error (.unsupported "local variable without a stack frame")
  | frame :: outer =>
      let frame := { frame with locals := frame.locals.insert name id }
      .ok { graph.addObject id object with stack := frame :: outer }

/-- Enters a function, which has no variables yet. -/
def enter (graph : Graph) (function : String) : Graph :=
  { graph with stack := ⟨function, ∅⟩ :: graph.stack }

/-- The running functions, the outermost one first. -/
def frames (graph : Graph) : List Frame :=
  graph.stack.reverse

/-- The named objects: first the global variables, then those of the functions from the outermost
one on. -/
def roots (graph : Graph) : List (String × ObjectId) :=
  graph.globals.toList ++ graph.frames.flatMap fun frame => frame.locals.toList

/-- The object of a variable, looked for in the innermost function and then among the globals. -/
def lookup (graph : Graph) (name : String) : Option ObjectId :=
  match graph.stack.head?.bind fun frame => frame.locals.get? name with
  | some id => some id
  | none => graph.globals.get? name

/-! ### Removal -/

/-- Drops the names of an object. -/
def unname (object : ObjectId) (names : Table String ObjectId) : Table String ObjectId :=
  names.filter fun _ id => id != object

/-- Removes an object with its fields and names; addresses of it stay as plain values.  The NULL
object stays. -/
def removeObject (graph : Graph) (id : ObjectId) : Graph :=
  if id.isNull then
    graph
  else
    { graph with
      objects := graph.objects.erase id
      values := graph.values.mapPayloads (Knowledge.forget id)
      layouts := graph.layouts.erase id
      stack := graph.stack.map fun frame =>
        { frame with locals := unname id frame.locals }
      globals := unname id graph.globals }

/-- Removes several objects, one after the other. -/
def removeObjects (graph : Graph) (ids : List ObjectId) : Graph :=
  ids.foldl removeObject graph

/-- Leaves the innermost function, whose variables are removed. -/
def leave (graph : Graph) : Option (Frame × Graph) :=
  match graph.stack with
  | [] => none
  | frame :: outer =>
      some (frame, { graph with stack := outer }.removeObjects frame.locals.payloads)

end Graph

end ShapeDomain
