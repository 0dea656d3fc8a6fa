import ShapeDomain.Graph.Field
import ShapeDomain.Graph.Pointer
import ShapeDomain.State.Basic

/-!
# Memory operations

What a program does to its memory: it declares variables, allocates, frees, reads and writes.  An
access that is not allowed is a finding and has no other effect.
-/

namespace ShapeDomain

namespace State

/-- Declares a global variable. -/
def declareGlobal (name : String) (size : Nat) : Run State ObjectId := do
  let id ← Run.draw Draw.objectId
  modifyGraph fun graph => graph.declareGlobal name id (.region size name)
  return id

/-- Declares a variable of the innermost function. -/
def declareLocal (name : String) (size : Nat) : Run State ObjectId := do
  let id ← Run.draw Draw.objectId
  attemptGraph fun graph => graph.declareLocal name id (.region size name)
  return id

/-- The address of a place in an object. -/
def takeAddress (object : ObjectId) (offset : Nat) : Run State ValueId := do
  let place : Target := ⟨object, offset, .region⟩
  match ← Run.ask fun state => state.graph.addressOf? place with
  | some value => return value
  | none =>
      let value ← onGraph Graph.newValue
      attemptGraph fun graph => graph.addPointer ⟨value, place⟩
      return value

/-- Allocates a heap region and returns its address. -/
def allocate (size : Nat) (label : String) : Run State ValueId := do
  let id ← Run.draw Draw.objectId
  modifyGraph fun graph => graph.addHeapObject id (.region size label)
  takeAddress id 0

/-- The heap object that can be freed at an address: the address is that of its start, and it has
not been freed. -/
def freeable? (graph : Graph) (address : ValueId) : Option ObjectId :=
  (graph.target? address).bind fun target =>
    if target.offset = 0 ∧ graph.isHeap target.object ∧ graph.isValid target.object then
      some target.object
    else
      none

/-- Frees the heap object at an address; freeing NULL does nothing. -/
def free (address : ValueId) : Run State Unit := do
  unless address.isZero do
    match ← Run.ask fun state => freeable? state.graph address with
    | some object =>
        modifyGraph fun graph => graph.removeFields (graph.fieldsOf object)
        attemptGraph fun graph => graph.setValid object false
    | none => report fun findings => { findings with invalidFree := true }

/-- The place that a value is the address of. -/
def placeOf (state : State) (address : ValueId) : Option (ObjectId × Nat) :=
  (state.graph.target? address).map fun target => (target.object, target.offset)

/-- Whether a range of an object may be accessed. -/
def mayAccess (graph : Graph) (object : ObjectId) (range : BitRange) : Bool :=
  (graph.object? object).any fun found =>
    !found.kind.isNull && graph.isValid object && range.fits found.size

/-- Whether fields, which are listed in the order in which they start, leave no hole between `start`
and `stop`. -/
def coversUpTo (stop : Nat) : (start : Nat) → List Field → Bool
  | start, [] => decide (stop ≤ start)
  | start, field :: rest =>
      if start < field.range.offset then false
      else coversUpTo stop (max start field.range.stop) rest

/-- Whether a range is covered by fields that hold zero. -/
def isZeroed (range : BitRange) (fields : List Field) : Bool :=
  fields.all (fun field => field.value.isZero) && coversUpTo range.stop range.offset fields

/-- Reads a range of an object.  Untouched memory gets a value that later reads find again; memory
that is zero throughout reads as zero; of any other mixture nothing is known. -/
def read (object : ObjectId) (range : BitRange) : Run State ValueId := do
  let graph ← Run.ask State.graph
  if !mayAccess graph object range then
    report fun findings => { findings with invalidRead := true }
    onGraph Graph.newValue
  else
    match graph.valueAt? object range with
    | some value => return value
    | none =>
        let overlapping := graph.overlapping object range
        if overlapping.isEmpty then
          let value ← onGraph Graph.newValue
          attemptGraph fun graph => graph.addField ⟨object, range, value⟩
          return value
        else if isZeroed range overlapping then
          return .zero
        else
          onGraph Graph.newValue

/-- What a write to `range` leaves of a field: of a zero field the parts before and after it. -/
def remainders (range : BitRange) (field : Field) : List Field :=
  if field.value.isZero then
    (if field.range.offset < range.offset then
      [{ field with range := .between field.range.offset range.offset }] else []) ++
    (if range.stop < field.range.stop then
      [{ field with range := .between range.stop field.range.stop }] else [])
  else
    []

/-- Drops a field for a write to `range`, except for what is left of it. -/
def overwrite (range : BitRange) (field : Field) : Run State Unit := do
  modifyGraph fun graph => graph.removeField field
  (remainders range field).forM fun part =>
    attemptGraph fun graph => graph.addField part

/-- Writes a value to a range of an object. -/
def write (object : ObjectId) (range : BitRange) (value : ValueId) : Run State Unit := do
  let graph ← Run.ask State.graph
  if !mayAccess graph object range then
    report fun findings => { findings with invalidWrite := true }
  else
    (graph.overlapping object range).forM (overwrite range)
    modifyGraph fun graph => graph.addValue value
    attemptGraph fun graph => graph.addField ⟨object, range, value⟩

/-- Says which number a value is. -/
def assign (state : State) (value : ValueId) (number : Int) : State :=
  { state with graph := state.graph.setNumber value number }

end State

end ShapeDomain
