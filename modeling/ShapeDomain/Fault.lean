import ShapeDomain.BitRange
import ShapeDomain.Ident
import ShapeDomain.Level

/-!
# Faults

A fault is the reason why an operation stops.  Every fault but one is a violation: a broken graph
invariant or a contradictory mapping.  An unsupported construct is the exception; there the caller
can go on with an unknown value.  An undefined join is not a fault, and neither is a memory error of
the analysed program.
-/

namespace ShapeDomain

/-- Why an operation stops. -/
inductive Fault where
  /-- A pair of levels would be mapped to two levels. -/
  | levelContradiction (level1 level2 existing requested : Level)
  /-- A pair of levels is not mapped. -/
  | missingLevel (level1 level2 : Level)
  /-- A field would share bits with a field of the same object. -/
  | overlappingField (object : ObjectId) (range : BitRange)
  /-- A field would reach past the end of its object. -/
  | fieldOutOfBounds (object : ObjectId) (range : BitRange) (objectSize : Nat)
  /-- A value would be the address of two places. -/
  | conflictingTarget (value : ValueId) (existing requested : ObjectId)
  /-- An object would have two counterparts. -/
  | conflictingObject (source existing requested : ObjectId)
  /-- A value would have two counterparts. -/
  | conflictingValue (source existing requested : ValueId)
  /-- Two objects have different layouts after these were aligned. -/
  | layoutsDiffer (object1 object2 : ObjectId)
  /-- A field has no counterpart in the other graph. -/
  | missingCounterpart (object : ObjectId) (offset : Nat)
  /-- An object is not in the graph. -/
  | unknownObject (object : ObjectId)
  /-- A value is not in the graph. -/
  | unknownValue (value : ValueId)
  /-- A join is undefined although its status says otherwise. -/
  | undefinedJoin (status : String)
  /-- A coverage between nodes of a reachability graph is refused. -/
  | invalidCoverage (reason : String)
  /-- A construct of the analysed program is not supported. -/
  | unsupported (construct : String)
  /-- A field without bits cannot be split. -/
  | emptyField (object : ObjectId) (offset : Nat)
  /-- There is no level below the deepest one. -/
  | levelOverflow (level : Level)
  deriving DecidableEq, Repr

namespace Fault

/-- Whether the fault shows a broken invariant, rather than an unsupported program. -/
def isViolation : Fault → Bool
  | unsupported _ => false
  | _ => true

/-- What a violation says after its common opening. -/
private def detail : Fault → String
  | levelContradiction level1 level2 existing requested =>
      "level mapping contradiction for levels (" ++ level1.text ++ "," ++ level2.text ++
        "): mapped to " ++ existing.text ++ ", requested " ++ requested.text
  | missingLevel level1 level2 =>
      "no level mapping for levels (" ++ level1.text ++ "," ++ level2.text ++ ")"
  | overlappingField object range =>
      "field of " ++ toString range.size ++ "b at " ++ toString range.offset ++ "b of " ++
        object.text ++ " overlaps an existing field"
  | fieldOutOfBounds object range objectSize =>
      "field of " ++ toString range.size ++ "b at " ++ toString range.offset ++
        "b does not fit " ++ object.text ++ " of " ++ toString objectSize ++ "b"
  | conflictingTarget value existing requested =>
      "value " ++ value.text ++ " already points to " ++ existing.text ++ ", cannot point to " ++
        requested.text
  | conflictingObject source existing requested =>
      source.text ++ " is already mapped to " ++ existing.text ++ ", cannot map to " ++
        requested.text
  | conflictingValue source existing requested =>
      source.text ++ " is already mapped to " ++ existing.text ++ ", cannot map to " ++
        requested.text
  | layoutsDiffer object1 object2 =>
      "field sets of " ++ object1.text ++ " and " ++ object2.text ++
        " differ after joining fields"
  | missingCounterpart object offset =>
      "no field at " ++ toString offset ++ "b of " ++ object.text ++ " matching the other input"
  | unknownObject object => "unknown object " ++ object.text
  | unknownValue value => "unknown value " ++ value.text
  | undefinedJoin status => "join not defined, but status is " ++ status
  | invalidCoverage reason => reason
  | unsupported construct => construct
  | emptyField object offset =>
      "field of 0b at " ++ toString offset ++ "b of " ++ object.text ++ " cannot be split"
  | levelOverflow level => "no level below " ++ level.text

/-- The text of a fault. -/
def message (fault : Fault) : String :=
  if fault.isViolation then
    "assertion failed: " ++ fault.detail
  else
    "unsupported construct: " ++ fault.detail

end Fault

/-- One level deeper, which has to exist. -/
def Level.next (level : Level) : Except Fault Level :=
  match level.next? with
  | some below => .ok below
  | none => .error (.levelOverflow level)

theorem Level.next_of_lt {level : Level} (shallow : level < .deepest) :
    level.next = .ok ⟨level.index + 1⟩ := by
  rw [next, next?_of_lt shallow]

end ShapeDomain
