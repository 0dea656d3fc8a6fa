/-!
# Join statuses

The status of a join says how the two joined memories relate.  Statuses form a lattice of four
points with `equal` at the top and `incomparable` at the bottom; combining outcomes moves down.
-/

namespace ShapeDomain

/-- How the two sides of a join relate. -/
inductive Status where
  /-- Both sides denote the same memory. -/
  | equal
  /-- The left side is more specific: the right one covers it. -/
  | leftEntail
  /-- The right side is more specific: the left one covers it. -/
  | rightEntail
  /-- Neither side covers the other. -/
  | incomparable
  deriving DecidableEq, Repr, Inhabited

namespace Status

/-- The status of two outcomes taken together: their meet. -/
def meet : Status → Status → Status
  | equal, status => status
  | status, equal => status
  | leftEntail, leftEntail => leftEntail
  | rightEntail, rightEntail => rightEntail
  | _, _ => incomparable

/-- The status with the sides exchanged. -/
def mirror : Status → Status
  | leftEntail => rightEntail
  | rightEntail => leftEntail
  | equal => equal
  | incomparable => incomparable

/-- Whether the right side covers the left one. -/
def leftIsCovered : Status → Bool
  | equal | leftEntail => true
  | rightEntail | incomparable => false

/-- Whether `status` is at or below `other`. -/
def isBelow (status other : Status) : Bool :=
  other.meet status == status

/-- The status of many outcomes taken together; of none it is `equal`. -/
def combine (statuses : List Status) : Status :=
  statuses.foldl meet equal

/-- The way a status is written in messages. -/
def text : Status → String
  | equal => "EQUAL"
  | leftEntail => "LEFT_ENTAIL"
  | rightEntail => "RIGHT_ENTAIL"
  | incomparable => "INCOMPARABLE"

@[simp] theorem meet_equal (status : Status) : status.meet equal = status := by
  cases status <;> rfl

@[simp] theorem equal_meet (status : Status) : equal.meet status = status := rfl

@[simp] theorem meet_incomparable (status : Status) :
    status.meet incomparable = incomparable := by
  cases status <;> rfl

theorem meet_comm (a b : Status) : a.meet b = b.meet a := by
  cases a <;> cases b <;> rfl

theorem meet_assoc (a b c : Status) : (a.meet b).meet c = a.meet (b.meet c) := by
  cases a <;> cases b <;> cases c <;> rfl

end Status

end ShapeDomain
