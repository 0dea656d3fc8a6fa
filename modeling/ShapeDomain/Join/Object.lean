import ShapeDomain.Join.Value

/-!
# Joining objects

Two objects are joined by aligning their layouts and joining their fields one after the other.  The
objects that these lead to are joined on the way.  When all fields are joined, the list foldings
found below them are done.
-/

namespace ShapeDomain

namespace Join

/-- Two objects that are joined into one of the destination. -/
structure ObjectPair where
  /-- The left object. -/
  object1 : ObjectId
  /-- The right object. -/
  object2 : ObjectId
  /-- Their counterpart. -/
  dest : ObjectId
  deriving DecidableEq, Repr

/-- The level that a value held by an object leads to: that of the object it is an address in, one
below the holder if it is the address of every node of a segment, and else the ground. -/
def levelBelow (graph : Graph) (holder : Object) (value : ValueId) : Except Fault Level :=
  match graph.target? value with
  | none => .ok .ground
  | some target =>
      if target.specifier = .all then holder.level.next
      else (graph.object target.object).map Object.level

/-- The outcome of joining two fields. -/
inductive FieldJoin where
  /-- The destination has the joint value.  The list folding comes with the value. -/
  | stored (value : ValueId) (fold : Option Fold)
  /-- There is no joint value, but the other fields are joined all the same. -/
  | missing
  /-- There is no joint value, and the objects have no join. -/
  | refused

/-- Stores a joint value in the destination, unless it is there already. -/
def store (field : Field) : Run Progress Unit := do
  let present ← Run.ask fun progress => progress.dest.valueAt? field.object field.range
  unless present = some field.value do
    attemptDest fun graph => graph.addField field

/-- Maps the levels of two values that a pair of objects holds.  Says whether that is possible. -/
def mapLevels (values objects : Level × Level) : Run Progress Bool := do
  let (level, levels) ← Run.demand fun progress => progress.levels.update values objects
  Run.modify fun progress => { progress with levels := levels }
  return level.isSome

/-- Joins a field of the left object with the same range of the right one. -/
def joinField (setting : Setting) (descend : Descend) (pair : ObjectPair)
    (source1 source2 : Object) (levelDiff : Int) (holderLevel : Level) (field : Field) :
    Run Progress FieldJoin := do
  let value2 ← Run.demand fun progress =>
    match progress.right.valueAt? pair.object2 field.range with
    | some value => .ok value
    | none => .error (.missingCounterpart pair.object2 field.range.offset)
  let level1 ← Run.demand fun progress => levelBelow progress.left source1 field.value
  let level2 ← Run.demand fun progress => levelBelow progress.right source2 value2
  let diff := levelDiff + level1.diff source1.level - level2.diff source2.level
  if ← mapLevels (level1, level2) (source1.level, source2.level) then
    match ← joinValuePair setting descend field.value value2 field.range.size diff holderLevel with
    | .joined value fold =>
        store ⟨pair.dest, field.range, value⟩
        return .stored value fold
    | .undefined true => return .missing
    | .undefined false => return .refused
  else
    return .refused

/-- What joining the fields of two objects leaves to be done. -/
structure Harvest where
  /-- Whether all fields have joint values. -/
  complete : Bool
  /-- The list foldings, by the values they came with. -/
  folds : Table ValueId Fold

/-- Adds the folding that came with a value. -/
def Harvest.note (harvest : Harvest) (value : ValueId) : Option Fold → Harvest
  | some fold => { harvest with folds := harvest.folds.insert value fold }
  | none => harvest

/-- Joins fields one after the other, until one of them is refused. -/
def joinFields (join : Field → Run Progress FieldJoin) :
    List Field → Harvest → Run Progress (Option Harvest)
  | [], harvest => return some harvest
  | field :: rest, harvest => do
      match ← join field with
      | .stored value fold => joinFields join rest (harvest.note value fold)
      | .missing => joinFields join rest { harvest with complete := false }
      | .refused => return none

/-- What corresponded to the nodes of a folding now corresponds to the segment. -/
def retarget (fold : Fold) (segment : ObjectId) : Run Progress Unit :=
  Run.modify fun progress =>
    { progress with
      leftMap := (progress.leftMap.retarget fold.head segment).retarget fold.successor segment
      rightMap :=
        (progress.rightMap.retarget fold.head segment).retarget fold.successor segment }

/-- Does list foldings one after the other, until one is no longer possible.  Says whether all were
done. -/
def doFolds : List Fold → Run Progress Bool
  | [] => return true
  | fold :: rest => do
      match ← onDest fold.perform with
      | some segment =>
          retarget fold segment
          doFolds rest
      | none => return false

/-- Joins the fields of two objects into their counterpart, going down with `descend`. -/
def joinContents (setting : Setting) (descend : Descend) (pair : ObjectPair) (levelDiff : Int) :
    Run Progress Bool := do
  let source1 ← Run.demand fun progress => progress.left.object pair.object1
  let source2 ← Run.demand fun progress => progress.right.object pair.object2
  if source1.size ≠ source2.size then
    return false
  else
    lower (← onSides (Alignment.align pair.object1 pair.object2))
    if setting.options.verify then
      Run.demand fun progress =>
        Alignment.check progress.left progress.right pair.object1 pair.object2
    let holderLevel ← Run.demand fun progress =>
      progress.levels.require source1.level source2.level
    let fields ← Run.ask fun progress => progress.left.fieldsOf pair.object1
    let join := joinField setting descend pair source1 source2 levelDiff holderLevel
    match ← joinFields join fields ⟨true, ∅⟩ with
    | some harvest => if harvest.complete then doFolds harvest.folds.payloads else return false
    | none => return false

/-- Joins the fields of two objects; if that is not possible, the status is incomparable. -/
def joinObjectsWith (setting : Setting) (descend : Descend) (pair : ObjectPair)
    (levelDiff : Int) : Run Progress Bool := do
  let joined ← joinContents setting descend pair levelDiff
  unless joined do
    Run.modify fun progress => { progress with status := .incomparable }
  return joined

/-- Joins two objects and all that they lead to, at most `depth` pairs of objects deep.  Going down
from a pair gives counterparts to a left object that had none, so as many steps as there are left
objects are never used up. -/
def joinObjects (setting : Setting) : (depth : Nat) → ObjectPair → Int → Run Progress Bool
  | 0, _, _ => do
      Run.modify fun progress => { progress with status := .incomparable }
      return false
  | depth + 1, pair, levelDiff =>
      joinObjectsWith setting
        (fun object1 object2 dest => joinObjects setting depth ⟨object1, object2, dest⟩)
        pair levelDiff

end Join

end ShapeDomain
