import ShapeDomain.Fault
import ShapeDomain.Table

/-!
# Correspondences

A correspondence sends objects and values of one joined graph to their counterparts in the
destination.  Nothing has two counterparts.
-/

namespace ShapeDomain

/-- The counterparts in the destination of the objects and values of one joined graph. -/
structure Correspondence where
  /-- The counterparts of the objects. -/
  objects : Table ObjectId ObjectId
  /-- The counterparts of the values. -/
  values : Table ValueId ValueId
  deriving DecidableEq

namespace Correspondence

/-- Nothing has a counterpart. -/
def empty : Correspondence := ⟨∅, ∅⟩

/-- The counterpart of an object. -/
def object? (map : Correspondence) (source : ObjectId) : Option ObjectId :=
  map.objects.get? source

/-- The counterpart of a value. -/
def value? (map : Correspondence) (source : ValueId) : Option ValueId :=
  map.values.get? source

/-- Makes an object the counterpart of another one, unless that has a different one. -/
def pairObject (map : Correspondence) (source dest : ObjectId) : Except Fault Correspondence :=
  match map.object? source with
  | some existing =>
      if existing = dest then .ok map else .error (.conflictingObject source existing dest)
  | none => .ok { map with objects := map.objects.insert source dest }

/-- Makes a value the counterpart of another one, unless that has a different one. -/
def pairValue (map : Correspondence) (source dest : ValueId) : Except Fault Correspondence :=
  match map.value? source with
  | some existing =>
      if existing = dest then .ok map else .error (.conflictingValue source existing dest)
  | none => .ok { map with values := map.values.insert source dest }

/-- The objects whose counterpart is `dest`. -/
def sources (map : Correspondence) (dest : ObjectId) : List ObjectId :=
  (map.objects.filter fun _ counterpart => counterpart == dest).keys

/-- Everything that corresponded to `old` now corresponds to `new`. -/
def retarget (map : Correspondence) (old new : ObjectId) : Correspondence :=
  { map with
    objects := map.objects.mapPayloads fun dest => if dest = old then new else dest }

end Correspondence

end ShapeDomain
