import ShapeDomain.Graph.Consistency
import ShapeDomain.Graph.Operation

/-!
# Stores

A store is a memory graph kept in many tables: the objects and whether they may be accessed, the
heap, the values, the numbers that they are and the places that they are addresses of, the fields by
object and start, and for each value the values that it is unequal to.  Nothing in the types keeps
these tables together, so that every operation has to change several of them.

A graph is seen as a store by taking its tables apart.
-/

namespace ShapeDomain

/-- A memory graph in many tables. -/
@[ext]
structure Store where
  /-- The objects. -/
  objects : Table ObjectId Object
  /-- Whether objects may be accessed. -/
  validity : Table ObjectId Bool
  /-- The values. -/
  values : KeySet ValueId
  /-- The fields of objects, by where they start. -/
  fields : Table ObjectId (Table Nat Field)
  /-- The pointers, by their values. -/
  pointers : Table ValueId Pointer
  /-- The values that a value is unequal to. -/
  unequal : Table ValueId (KeySet ValueId)
  /-- The numbers that values are known to be. -/
  numbers : Table ValueId Int
  /-- The running functions, the innermost one first. -/
  stack : List Frame
  /-- The global variables, by name. -/
  globals : Table String ObjectId
  /-- The objects of the heap. -/
  heap : KeySet ObjectId
  /-- The machine whose memory this is. -/
  machine : Machine
  deriving DecidableEq

namespace Store

/-- The memory of a program that has no variables: the NULL object and the zero value. -/
def initial (machine : Machine) : Store where
  objects := Table.insert ∅ .null .null
  validity := Table.insert ∅ .null false
  values := KeySet.add ∅ .zero
  fields := ∅
  pointers := Table.insert ∅ .zero ⟨.zero, .null⟩
  unequal := ∅
  numbers := Table.insert ∅ .zero 0
  stack := []
  globals := ∅
  heap := ∅
  machine := machine

/-! ### Objects -/

/-- The object of a name, which has to be in the store. -/
def object (store : Store) (id : ObjectId) : Except Fault Object :=
  match store.objects.get? id with
  | some object => .ok object
  | none => .error (.unknownObject id)

/-- Puts an object under a name; it may be accessed, unless something else is recorded. -/
def addObject (store : Store) (id : ObjectId) (object : Object) : Store :=
  { store with
    validity := if store.validity.contains id then store.validity else store.validity.insert id true
    objects := store.objects.insert id object }

/-- Puts an object under a name and makes it part of the heap. -/
def addHeapObject (store : Store) (id : ObjectId) (object : Object) : Store :=
  { store with heap := store.heap.add id }.addObject id object

/-- Says whether an object may be accessed. -/
def setValid (store : Store) (id : ObjectId) (valid : Bool) : Except Fault Store :=
  if store.objects.contains id then
    .ok { store with validity := store.validity.insert id valid }
  else
    .error (.unknownObject id)

/-! ### Values -/

/-- Puts a value into the store. -/
def addValue (store : Store) (value : ValueId) : Store :=
  { store with values := store.values.add value }

/-- Puts a value into the store and says which number it is. -/
def setNumber (store : Store) (value : ValueId) (number : Int) : Store :=
  { store.addValue value with numbers := store.numbers.insert value number }

/-! ### Scopes -/

/-- Puts an object under a name and makes it a global variable. -/
def declareGlobal (store : Store) (name : String) (id : ObjectId) (object : Object) : Store :=
  { store with globals := store.globals.insert name id }.addObject id object

/-- Puts an object under a name and makes it a variable of the innermost function. -/
def declareLocal (store : Store) (name : String) (id : ObjectId) (object : Object) :
    Except Fault Store :=
  match store.stack with
  | [] => .error (.unsupported "local variable without a stack frame")
  | frame :: outer =>
      let frame := { frame with locals := frame.locals.insert name id }
      .ok ({ store with stack := frame :: outer }.addObject id object)

/-- Enters a function, which has no variables yet. -/
def enter (store : Store) (function : String) : Store :=
  { store with stack := ⟨function, ∅⟩ :: store.stack }

/-- Removes an object, its names, its fields and the pointers into it.  The NULL object stays. -/
def removeObject (store : Store) (id : ObjectId) : Store :=
  if id.isNull then
    store
  else
    { store with
      objects := store.objects.erase id
      validity := store.validity.erase id
      fields := store.fields.erase id
      heap := store.heap.erase id
      globals := Graph.unname id store.globals
      stack := store.stack.map fun frame => { frame with locals := Graph.unname id frame.locals }
      pointers := store.pointers.filter fun _ pointer => pointer.target.object != id }

/-- Leaves the innermost function, whose variables are removed. -/
def leave (store : Store) : Option (Frame × Store) :=
  match store.stack with
  | [] => none
  | frame :: outer =>
      some (frame, frame.locals.payloads.foldl removeObject { store with stack := outer })

/-! ### Fields -/

/-- The fields of an object, by where they start; there are none if it never had one. -/
def row (store : Store) (object : ObjectId) : Table Nat Field :=
  (store.fields.get? object).getD ∅

/-- Adds a field.  A field that is already there is left alone; one that would not fit its object,
or that has a bit in common with the last field that starts before its end, is refused. -/
def addField (store : Store) (field : Field) : Except Fault Store := do
  let object ← store.object field.object
  if !field.range.fits object.size then
    throw (.fieldOutOfBounds field.object field.range object.size)
  else
    let row := store.row field.object
    if row.get? field.range.offset = some field then
      return store
    else if (row.lastBelow? field.range.stop).any fun entry =>
      entry.2.range.overlaps field.range then
      throw (.overlappingField field.object field.range)
    else
      return { store.addValue field.value with
        fields := store.fields.insert field.object (row.insert field.range.offset field) }

/-- Removes a field, if it is in the store. -/
def removeField (store : Store) (field : Field) : Store :=
  if (store.row field.object).get? field.range.offset = some field then
    { store with
      fields := store.fields.insert field.object
        ((store.row field.object).erase field.range.offset) }
  else
    store

/-! ### Pointers and inequalities -/

/-- Makes a value the address of a place in an object of the store.  A value that is the address of
another place is refused. -/
def addPointer (store : Store) (pointer : Pointer) : Except Fault Store :=
  if !store.objects.contains pointer.target.object then
    .error (.unknownObject pointer.target.object)
  else
    match store.pointers.get? pointer.value with
    | some existing =>
        if existing = pointer then
          .ok store
        else
          .error (.conflictingTarget pointer.value existing.target.object pointer.target.object)
    | none =>
        .ok { store.addValue pointer.value with
          pointers := store.pointers.insert pointer.value pointer }

/-- A value ceases to be the address of a place; the zero value keeps its place. -/
def removePointer (store : Store) (value : ValueId) : Store :=
  if value.isZero then store else { store with pointers := store.pointers.erase value }

/-- The values that a value is unequal to. -/
def unequalTo (unequal : Table ValueId (KeySet ValueId)) (value : ValueId) : KeySet ValueId :=
  (unequal.get? value).getD ∅

/-- Records for one value that it is unequal to another one. -/
def distinguish (unequal : Table ValueId (KeySet ValueId)) (value other : ValueId) :
    Table ValueId (KeySet ValueId) :=
  unequal.insert value ((unequalTo unequal value).add other)

/-- Records for each of two values that it is unequal to the other one. -/
def separate (unequal : Table ValueId (KeySet ValueId)) (pair : ValueId × ValueId) :
    Table ValueId (KeySet ValueId) :=
  distinguish (distinguish unequal pair.1 pair.2) pair.2 pair.1

/-- Records that two values are unequal; a value is never unequal to itself. -/
def addInequality (store : Store) (a b : ValueId) : Store :=
  if a = b then store else { store with unequal := separate store.unequal (a, b) }

/-- Whether two values are known to be unequal. -/
def isUnequal (store : Store) (a b : ValueId) : Bool :=
  (unequalTo store.unequal a).contains b

/-! ### Operations -/

/-- The store after an operation. -/
def apply (store : Store) : Graph.Operation → Except Fault Store
  | .addObject id object => .ok (store.addObject id object)
  | .addHeapObject id object => .ok (store.addHeapObject id object)
  | .declareGlobal name id object => .ok (store.declareGlobal name id object)
  | .declareLocal name id object => store.declareLocal name id object
  | .removeObject id => .ok (store.removeObject id)
  | .enter function => .ok (store.enter function)
  | .leave => .ok ((store.leave.map Prod.snd).getD store)
  | .setValid id valid => store.setValid id valid
  | .addValue value => .ok (store.addValue value)
  | .setNumber value number => .ok (store.setNumber value number)
  | .addField field => store.addField field
  | .removeField field => .ok (store.removeField field)
  | .addPointer pointer => store.addPointer pointer
  | .removePointer value => .ok (store.removePointer value)
  | .addInequality a b => .ok (store.addInequality a b)

/-- Performs an operation, or leaves the store as it is and stops. -/
def perform (operation : Graph.Operation) : Run Store Unit :=
  Run.attempt fun store => store.apply operation

/-! ### Consistency -/

/-- Checks that the fields of an object, which are listed in the order in which they start, begin at
or after `least` and apart from each other, lie within `size` bits and hold values of the store. -/
def checkRow (store : Store) (object : ObjectId) (size : Nat) :
    (least : Nat) → List Field → Except Fault Unit
  | _, [] => .ok ()
  | least, field :: rest =>
      if field.range.offset < least then
        .error (.overlappingField object field.range)
      else if size < field.range.stop then
        .error (.fieldOutOfBounds object field.range size)
      else if !store.values.contains field.value then
        .error (.unknownValue field.value)
      else
        store.checkRow object size field.range.stop rest

/-- Checks that an object is in the store. -/
def checkObject (store : Store) (id : ObjectId) : Except Fault Unit :=
  if store.objects.contains id then .ok () else .error (.unknownObject id)

/-- Checks that a pointer leads to an object, and is that of a value. -/
def checkPointer (store : Store) (pointer : Pointer) : Except Fault Unit := do
  store.checkObject pointer.target.object
  if !store.values.contains pointer.value then
    throw (.unknownValue pointer.value)

/-- The objects that are named by variables, the global ones first, or are part of the heap. -/
def placed (store : Store) : List ObjectId :=
  store.globals.payloads ++ (store.stack.reverse.flatMap fun frame => frame.locals.payloads) ++
    store.heap.keys

/-- Checks the invariants of a store. -/
def check (store : Store) : Except Fault Unit := do
  if store.pointers.get? .zero ≠ some ⟨.zero, .null⟩ then
    throw (.unknownValue .zero)
  store.fields.toList.forM fun entry => do
    let object ← store.object entry.1
    store.checkRow entry.1 object.size 0 entry.2.payloads
  store.pointers.payloads.forM store.checkPointer
  store.placed.forM store.checkObject

end Store

/-! ### Graphs as stores -/

namespace Layout

/-- The fields of a layout, as fields of an object, by where they start. -/
def row (object : ObjectId) (layout : Layout) : Table Nat Field :=
  layout.filterMap fun start content => some ⟨object, ⟨start, content.size⟩, content.value⟩

end Layout

/-- The tables of a graph, taken apart. -/
def Graph.store (graph : Graph) : Store where
  objects := graph.objects.mapPayloads Placement.object
  validity := graph.objects.mapPayloads Placement.valid
  values := graph.values.mapPayloads fun _ => ()
  fields := graph.layouts.filterMap fun object layout => some (layout.row object)
  pointers := graph.values.filterMap fun value known => known.target.map (⟨value, ·⟩)
  unequal := graph.inequalities.keys.foldl Store.separate ∅
  numbers := graph.values.filterMap fun _ known => known.number
  stack := graph.stack
  globals := graph.globals
  heap := (graph.objects.filter fun _ placement => placement.heap).mapPayloads fun _ => ()
  machine := graph.machine

end ShapeDomain
