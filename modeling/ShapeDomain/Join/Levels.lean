import ShapeDomain.Fault
import ShapeDomain.Table

/-!
# Level maps

A level map sends pairs of levels of the two joined graphs to levels of the destination.  It only
grows, and the two ground levels go to the ground level from the start.
-/

namespace ShapeDomain

/-- A map from pairs of levels of the joined graphs to levels of the destination. -/
structure LevelMap where
  /-- The pairs that are mapped. -/
  table : Table (Level × Level) Level
  deriving DecidableEq

namespace LevelMap

/-- Only the ground levels are mapped. -/
def initial : LevelMap where
  table := Table.insert ∅ (.ground, .ground) .ground

/-- The level that a pair of levels goes to. -/
def get? (map : LevelMap) (level1 level2 : Level) : Option Level :=
  map.table.get? (level1, level2)

/-- The level that a pair of levels goes to, which has to be mapped. -/
def require (map : LevelMap) (level1 level2 : Level) : Except Fault Level :=
  match map.get? level1 level2 with
  | some level => .ok level
  | none => .error (.missingLevel level1 level2)

/-- Maps a pair of levels.  Mapping it again to the same level changes nothing, and to another one
is refused. -/
def insert (map : LevelMap) (level1 level2 merged : Level) : Except Fault LevelMap :=
  match map.get? level1 level2 with
  | some existing =>
      if existing = merged then
        .ok map
      else
        .error (.levelContradiction level1 level2 existing merged)
  | none => .ok ⟨map.table.insert (level1, level2) merged⟩

/-- The level for values at `values` that are held by objects at `objects`, where the objects go to
`parent`: one level deeper if one of the values is, the same level if both values are at the levels
of the objects, and one level up if both values are.  The levels below the objects have to exist as
far as they are asked for: that of the right one is not if the left value is at that of the left
one. -/
def follow (parent : Level) (values objects : Level × Level) : Except Fault (Option Level) := do
  if values.1 = (← objects.1.next) then
    return some (← parent.next)
  else if values.2 = (← objects.2.next) then
    return some (← parent.next)
  else if values = objects then
    return some parent
  else if some values.1 = objects.1.prev? ∧ some values.2 = objects.2.prev? then
    return parent.prev?
  else
    return none

/-- Maps the levels of a pair of values that a pair of objects holds.  There is no level if the
levels of the values are not mapped and do not follow from those of the objects. -/
def update (map : LevelMap) (values objects : Level × Level) :
    Except Fault (Option Level × LevelMap) :=
  match map.get? values.1 values.2 with
  | some level => .ok (some level, map)
  | none => do
      let parent ← map.require objects.1 objects.2
      match ← follow parent values objects with
      | some level => return (some level, ← map.insert values.1 values.2 level)
      | none => return (none, map)

end LevelMap

end ShapeDomain
