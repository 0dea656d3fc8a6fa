import ShapeDomain.Graph.Field
import ShapeDomain.Join.Status
import ShapeDomain.Run

/-!
# Aligning layouts

Before two objects are joined field by field, their layouts are made the same: a field that crosses
a boundary of the other layout is split there, and a range that only one layout has becomes a field
of the other one too.
-/

namespace ShapeDomain

namespace Alignment

/-- The boundaries of some fields. -/
def boundaries (fields : List Field) : KeySet Nat :=
  KeySet.ofList (fields.flatMap fun field => [field.range.offset, field.range.stop])

/-- The boundaries strictly inside a range. -/
def inside (cuts : KeySet Nat) (range : BitRange) : List Nat :=
  cuts.keys.filter fun cut => range.offset < cut ∧ cut < range.stop

/-- The ranges between neighbouring bounds. -/
def between (bounds : List Nat) : List BitRange :=
  List.zipWith BitRange.between bounds bounds.tail

/-- The pieces into which the boundaries inside it cut a range. -/
def pieces (cuts : KeySet Nat) (range : BitRange) : List BitRange :=
  between (range.offset :: inside cuts range ++ [range.stop])

/-- The value of a piece of a field: a zero field has zero pieces, and of the pieces of another one
nothing is known. -/
def pieceValue (field : Field) : Run Graph ValueId :=
  if field.value.isZero then pure .zero else Graph.newValue

/-- Splits a field at the boundaries inside it.  Says whether the field lost its value by that.
These boundaries are looked for from the bit after its start on, so a field that does not end after
its start is a fault.  So is one that starts at the last position, after which there is no bit:
overflow is checked when the start is stepped over. -/
def cutField (cuts : KeySet Nat) (field : Field) : Run Graph Bool := do
  if field.range.stop ≤ field.range.offset then
    throw (.emptyField field.object field.range.offset)
  if (inside cuts field.range).isEmpty then
    return false
  else
    Run.modify fun graph => graph.removeField field
    (pieces cuts field.range).forM fun piece => do
      let value ← pieceValue field
      Run.attempt fun graph => graph.addField ⟨field.object, piece, value⟩
    return !field.value.isZero

/-- Splits several fields.  Says whether one of them lost its value by that. -/
def cutFields (cuts : KeySet Nat) : List Field → Run Graph Bool
  | [] => return false
  | field :: rest => do
      let lost ← cutField cuts field
      let lostLater ← cutFields cuts rest
      return lost || lostLater

/-- Adds the ranges of the fields in a list to an object that does not have them.  Where the object
may be accessed they hold zero, and otherwise nothing is known of them. -/
def addMissing (object : ObjectId) (fields : List Field) : Run Graph Unit := do
  let valid ← Run.ask fun graph => graph.isValid object
  fields.forM fun field => do
    let present ← Run.ask fun graph => (graph.valueAt? object field.range).isSome
    unless present do
      let value ← if valid then pure .zero else Graph.newValue
      Run.attempt fun graph => graph.addField ⟨object, field.range, value⟩

/-- Runs a computation on the left one of two graphs. -/
def onLeft {α : Type} (computation : Run Graph α) : Run (Graph × Graph) α :=
  Run.within Prod.fst (fun sides left => (left, sides.2)) computation

/-- Runs a computation on the right one of two graphs. -/
def onRight {α : Type} (computation : Run Graph α) : Run (Graph × Graph) α :=
  Run.within Prod.snd (fun sides right => (sides.1, right)) computation

/-- Gives `object1` of the left graph and `object2` of the right one the same layout.  A side whose
field lost its value knows less than the other side. -/
def align (object1 object2 : ObjectId) : Run (Graph × Graph) Status := do
  let left ← Run.demand fun sides => sides.1.object object1
  let right ← Run.demand fun sides => sides.2.object object2
  if left.size ≠ right.size then
    return .incomparable
  else
    let fields1 ← Run.ask fun sides => sides.1.fieldsOf object1
    let fields2 ← Run.ask fun sides => sides.2.fieldsOf object2
    let cuts := boundaries (fields1 ++ fields2)
    let lostLeft ← onLeft (cutFields cuts fields1)
    let lostRight ← onRight (cutFields cuts fields2)
    let split2 ← Run.ask fun sides => sides.2.fieldsOf object2
    onLeft (addMissing object1 split2)
    let filled1 ← Run.ask fun sides => sides.1.fieldsOf object1
    onRight (addMissing object2 filled1)
    return Status.meet
      (if lostLeft then .rightEntail else .equal) (if lostRight then .leftEntail else .equal)

/-- The ranges of the fields of an object. -/
def ranges (graph : Graph) (object : ObjectId) : List BitRange :=
  (graph.fieldsOf object).map Field.range

/-- Checks that two objects have the same layout. -/
def check (left right : Graph) (object1 object2 : ObjectId) : Except Fault Unit :=
  if ranges left object1 = ranges right object2 then
    .ok ()
  else
    .error (.layoutsDiffer object1 object2)

end Alignment

end ShapeDomain
