import ShapeDomain.Fold
import ShapeDomain.Join.Alignment
import ShapeDomain.Join.Correspondence
import ShapeDomain.Join.Kinds
import ShapeDomain.Join.Levels
import ShapeDomain.Options

/-!
# A join in progress

A join copies the memory that the variables of two graphs reach into a destination graph.  While it
runs, both graphs get their layouts aligned, and the correspondences and the level map record what
has been decided.
-/

namespace ShapeDomain

namespace Join

/-- What stays the same during a join. -/
structure Setting where
  /-- The options. -/
  options : Options
  /-- Whether the two graphs are equal. -/
  identical : Bool

/-- The state of a join. -/
structure Progress where
  /-- The left graph. -/
  left : Graph
  /-- The right graph. -/
  right : Graph
  /-- The destination. -/
  dest : Graph
  /-- The counterparts of the left graph. -/
  leftMap : Correspondence
  /-- The counterparts of the right graph. -/
  rightMap : Correspondence
  /-- The levels of the destination. -/
  levels : LevelMap
  /-- The joint values of the pairs of values that are joined. -/
  joined : Table (ValueId × ValueId) ValueId
  /-- How the two graphs relate, as far as they are joined. -/
  status : Status

namespace Progress

/-- Nothing is joined. -/
def start (left right : Graph) : Progress where
  left := left
  right := right
  dest := .initial left.machine
  leftMap := .empty
  rightMap := .empty
  levels := .initial
  joined := ∅
  status := .equal

end Progress

/-- Runs a computation on the two joined graphs. -/
def onSides {α : Type} (computation : Run (Graph × Graph) α) : Run Progress α :=
  Run.within (fun progress => (progress.left, progress.right))
    (fun progress sides => { progress with left := sides.1, right := sides.2 }) computation

/-- Runs a computation on the destination. -/
def onDest {α : Type} (computation : Run Graph α) : Run Progress α :=
  Run.within Progress.dest (fun progress dest => { progress with dest := dest }) computation

/-- Changes the destination. -/
def modifyDest (change : Graph → Graph) : Run Progress Unit :=
  onDest (Run.modify change)

/-- Changes the destination, or leaves it as it is and stops. -/
def attemptDest (change : Graph → Except Fault Graph) : Run Progress Unit :=
  onDest (Run.attempt change)

/-- Takes an outcome into the status. -/
def lower (status : Status) : Run Progress Unit :=
  Run.modify fun progress => { progress with status := progress.status.meet status }

/-- Gives a pair of objects its counterpart. -/
def pairObjects (object1 object2 dest : ObjectId) : Run Progress Unit := do
  Run.attempt fun progress => do
    return { progress with leftMap := ← progress.leftMap.pairObject object1 dest }
  Run.attempt fun progress => do
    return { progress with rightMap := ← progress.rightMap.pairObject object2 dest }

/-- Gives a pair of values its counterpart.  The zero value gets none, as it may be paired with many
values. -/
def pairValues (value1 value2 dest : ValueId) : Run Progress Unit := do
  unless value1.isZero do
    Run.attempt fun progress => do
      return { progress with leftMap := ← progress.leftMap.pairValue value1 dest }
  unless value2.isZero do
    Run.attempt fun progress => do
      return { progress with rightMap := ← progress.rightMap.pairValue value2 dest }
  Run.modify fun progress =>
    { progress with
      joined := progress.joined.insert (value1, value2) dest
      dest := progress.dest.addValue dest }

/-- The name of the counterpart of two objects: their own name if they share it. -/
def objectName (object1 object2 : ObjectId) : Run Progress ObjectId :=
  if object1 = object2 then pure object1 else Run.draw Draw.objectId

/-- The name of the counterpart of two values: their own name if they share it. -/
def valueName (value1 value2 : ValueId) : Run Progress ValueId :=
  if value1 = value2 then pure value1 else Run.draw Draw.valueId

end Join

end ShapeDomain
