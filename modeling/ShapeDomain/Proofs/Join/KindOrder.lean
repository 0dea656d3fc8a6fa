import ShapeDomain.Join.Kinds

/-!
# The order of kinds

A kind covers another one if it stands for all memory that the other one stands for.  That is a
partial order, and joining two kinds looks for their maximum: kinds have a join if one of them
covers the other, the join is that one, and the status says which of them it is.
-/

namespace ShapeDomain

namespace Kind

variable {a b c joint ab bc left right : Kind} {status : Status}

/-- The second kind covers the first one. -/
inductive Below : Kind → Kind → Prop where
  /-- A region is covered by regions, -/
  | region : Below region region
  /-- by segments that may have a single node, -/
  | node {head next : Nat} {prev : Option Nat} {least : Nat} :
      least ≤ 1 → Below region (list head next prev least)
  /-- and by regions that may be absent. -/
  | present : Below region optional
  /-- A segment is covered by segments that are linked in the same way and promise no more nodes. -/
  | fewer {head next : Nat} {prev : Option Nat} {least1 least2 : Nat} :
      least2 ≤ least1 → Below (list head next prev least1) (list head next prev least2)
  /-- A region that may be absent is covered by such regions, -/
  | optional : Below optional optional
  /-- and an abstraction by itself. -/
  | abstraction (number : Nat) : Below (abstraction number) (abstraction number)

theorem below_refl (proper : a ≠ null) : a.Below a := by
  cases a with
  | region => exact .region
  | list head next prev least => exact .fewer (Nat.le_refl least)
  | optional => exact .optional
  | abstraction number => exact .abstraction number
  | null => exact absurd rfl proper

theorem Below.trans (first : a.Below b) (second : b.Below c) : a.Below c := by
  cases first with
  | region => exact second
  | node single =>
      cases second with
      | fewer le => exact .node (Nat.le_trans le single)
  | present =>
      cases second with
      | optional => exact .present
  | fewer le =>
      cases second with
      | fewer le' => exact .fewer (Nat.le_trans le' le)
  | optional => exact second
  | abstraction number => exact second

theorem Below.antisymm (first : a.Below b) (second : b.Below a) : a = b := by
  cases first with
  | region | optional | abstraction => rfl
  | node | present => cases second
  | fewer le =>
      cases second with
      | fewer le' => rw [Nat.le_antisymm le' le]

/-! ### Joins -/

/-- The status of the segment that promises at least as many nodes. -/
theorem lengthStatus_of_le {least1 least2 : Nat} (le : least2 ≤ least1) :
    lengthStatus least1 least2 = if least1 = least2 then .equal else .leftEntail := by
  unfold lengthStatus
  rcases Nat.eq_or_lt_of_le le with rfl | less
  · rw [if_neg (Nat.lt_irrefl _), if_neg (Nat.lt_irrefl _), if_pos rfl]
  · rw [if_neg (Nat.not_lt_of_le le), if_pos less, if_neg (Nat.ne_of_gt less)]

theorem lengthStatus_mirror (least1 least2 : Nat) :
    lengthStatus least2 least1 = (lengthStatus least1 least2).mirror := by
  unfold lengthStatus
  rcases Nat.lt_trichotomy least1 least2 with less | rfl | more
  · rw [if_neg (Nat.lt_asymm less), if_pos less, if_pos less]
    rfl
  · rw [if_neg (Nat.lt_irrefl _), if_neg (Nat.lt_irrefl _)]
    rfl
  · rw [if_pos more, if_neg (Nat.lt_asymm more), if_pos more]
    rfl

/-- A kind and one that covers it have the latter as their join. -/
theorem Below.join (below : a.Below b) :
    a.join b = some (b, if a = b then .equal else .leftEntail) := by
  cases below with
  | region | present | optional => rfl
  | node single => exact if_pos single
  | fewer le =>
      simp only [Kind.join, and_self, if_true, Nat.min_eq_right le,
        lengthStatus_of_le le, list.injEq, true_and]
  | abstraction number => simp [Kind.join]

/-- Exchanging the kinds mirrors the status. -/
theorem join_mirror (a b : Kind) :
    b.join a = (a.join b).map fun found => (found.1, found.2.mirror) := by
  cases a with
  | list head1 next1 prev1 least1 =>
      cases b with
      | list head2 next2 prev2 least2 =>
          by_cases linked : head1 = head2 ∧ next1 = next2 ∧ prev1 = prev2
          · obtain ⟨rfl, rfl, rfl⟩ := linked
            simp [join, Nat.min_comm least2 least1, lengthStatus_mirror least1 least2]
          · have linked' : ¬ (head2 = head1 ∧ next2 = next1 ∧ prev2 = prev1) := fun same =>
              linked ⟨same.1.symm, same.2.1.symm, same.2.2.symm⟩
            simp only [join, if_neg linked, if_neg linked', Option.map_none]
      | region =>
          simp only [join]
          split <;> rfl
      | optional | abstraction | null => rfl
  | region =>
      cases b with
      | list head2 next2 prev2 least2 =>
          simp only [join]
          split <;> rfl
      | region | optional | abstraction | null => rfl
  | abstraction number1 =>
      cases b with
      | abstraction number2 =>
          by_cases same : number1 = number2
          · simp [join, same, Status.mirror]
          · simp [join, same, Ne.symm same]
      | region | list | optional | null => rfl
  | optional => cases b <;> rfl
  | null => cases b <;> rfl

/-- Kinds have a join only if one of them covers the other. -/
theorem below_or_below_of_join (joined : a.join b = some (joint, status)) :
    a.Below b ∨ b.Below a := by
  unfold join at joined
  split at joined
  case h_1 => exact .inl .region
  case h_2 head1 next1 prev1 least1 head2 next2 prev2 least2 =>
    split at joined
    case isTrue linked =>
      obtain ⟨rfl, rfl, rfl⟩ := linked
      exact (Nat.le_total least2 least1).imp .fewer .fewer
    case isFalse => cases joined
  case h_3 =>
    split at joined
    case isTrue single => exact .inl (.node single)
    case isFalse => cases joined
  case h_4 =>
    split at joined
    case isTrue single => exact .inr (.node single)
    case isFalse => cases joined
  case h_5 => exact .inl .present
  case h_6 => exact .inr .present
  case h_7 => exact .inl .optional
  case h_8 number1 number2 =>
    split at joined
    case isTrue same => exact .inl (same ▸ .abstraction number1)
    case isFalse => cases joined
  case h_9 => cases joined

/-- What the join of two kinds is: the one that covers the other. -/
theorem join_eq_some_iff : a.join b = some (joint, status) ↔
    (a.Below b ∧ joint = b ∧ status = if a = b then .equal else .leftEntail) ∨
      (b.Below a ∧ joint = a ∧ status = if a = b then .equal else .rightEntail) := by
  have mirrored (below : b.Below a) :
      a.join b = some (a, if a = b then .equal else .rightEntail) := by
    rw [join_mirror b a, below.join, Option.map_some]
    by_cases same : a = b
    · rw [if_pos same, if_pos same.symm]
      rfl
    · rw [if_neg same, if_neg (Ne.symm same)]
      rfl
  constructor
  · intro joined
    rcases below_or_below_of_join joined with below | below
    · rw [below.join] at joined
      cases joined
      exact .inl ⟨below, rfl, rfl⟩
    · rw [mirrored below] at joined
      cases joined
      exact .inr ⟨below, rfl, rfl⟩
  · rintro (⟨below, rfl, rfl⟩ | ⟨below, rfl, rfl⟩)
    · exact below.join
    · exact mirrored below

/-- The join covers both kinds and is one of them. -/
theorem below_of_join (joined : a.join b = some (joint, status)) :
    a.Below joint ∧ b.Below joint ∧ (joint = a ∨ joint = b) := by
  rcases join_eq_some_iff.1 joined with ⟨below, rfl, -⟩ | ⟨below, rfl, -⟩
  · exact ⟨below, below_refl (by rintro rfl; cases below), .inr rfl⟩
  · exact ⟨below_refl (by rintro rfl; cases below), below, .inl rfl⟩

/-- The join of two kinds is covered by whatever covers both. -/
theorem below_of_join_of_below (joined : a.join b = some (joint, status)) (first : a.Below c)
    (second : b.Below c) : joint.Below c := by
  rcases (below_of_join joined).2.2 with rfl | rfl
  · exact first
  · exact second

/-- The status says which of the two kinds the join is. -/
theorem status_of_join (joined : a.join b = some (joint, status)) :
    (status = .equal ↔ a = b) ∧ (status = .equal ∨ status = .leftEntail ↔ joint = b) := by
  rcases join_eq_some_iff.1 joined with ⟨-, rfl, rfl⟩ | ⟨-, rfl, rfl⟩
  · by_cases same : a = joint <;> simp [same]
  · by_cases same : joint = b <;> simp [same]

/-- A kind is joined with one that covers it, and its side is covered. -/
theorem Below.leftIsCovered (below : a.Below b) :
    ∃ status, a.join b = some (b, status) ∧ status.leftIsCovered = true := by
  refine ⟨_, below.join, ?_⟩
  split <;> rfl

/-- However three kinds are bracketed, their join is the same. -/
theorem join_assoc {status1 status2 status3 status4 : Status}
    (isAb : a.join b = some (ab, status1)) (isLeft : ab.join c = some (left, status2))
    (isBc : b.join c = some (bc, status3)) (isRight : a.join bc = some (right, status4)) :
    left = right := by
  obtain ⟨inAb, inAb', -⟩ := below_of_join isAb
  obtain ⟨inLeft, inLeft', -⟩ := below_of_join isLeft
  obtain ⟨inBc, inBc', -⟩ := below_of_join isBc
  obtain ⟨inRight, inRight', -⟩ := below_of_join isRight
  have le : left.Below right := below_of_join_of_below isLeft
    (below_of_join_of_below isAb inRight (inBc.trans inRight')) (inBc'.trans inRight')
  have ge : right.Below left := below_of_join_of_below isRight (inAb.trans inLeft)
    (below_of_join_of_below isBc (inAb'.trans inLeft) inLeft')
  exact le.antisymm ge

/-- Joining kinds is a partial semilattice whose order is told by the status.  Exchanging the kinds
mirrors the status; a kind joined with itself stays as it is; the status is equal exactly for equal
kinds, and the left side is covered exactly if the join is the right kind; the join of two kinds
covers both, as joining either with it shows; and both ways of bracketing three kinds give the same
kind where they give one. -/
theorem join_semilattice (proper : a ≠ null) (b c : Kind) :
    (b.join a = (a.join b).map fun found => (found.1, found.2.mirror)) ∧
    a.join a = some (a, .equal) ∧
    (∀ joint status, a.join b = some (joint, status) →
      (status = .equal ↔ a = b) ∧ (status = .equal ∨ status = .leftEntail ↔ joint = b) ∧
      (∃ status, a.join joint = some (joint, status) ∧ status.leftIsCovered = true) ∧
      ∃ status, b.join joint = some (joint, status) ∧ status.leftIsCovered = true) ∧
    ∀ ab bc left right status1 status2 status3 status4,
      a.join b = some (ab, status1) → ab.join c = some (left, status2) →
      b.join c = some (bc, status3) → a.join bc = some (right, status4) → left = right := by
  refine ⟨join_mirror a b, ?_, fun joint status joined => ?_,
    fun _ _ _ _ _ _ _ _ isAb isLeft isBc isRight => join_assoc isAb isLeft isBc isRight⟩
  · exact (below_refl proper).join.trans (by rw [if_pos rfl])
  · obtain ⟨inJoint, inJoint', -⟩ := below_of_join joined
    obtain ⟨equal, covered⟩ := status_of_join joined
    exact ⟨equal, covered, inJoint.leftIsCovered, inJoint'.leftIsCovered⟩

/-- A region, a segment of at least one node and one of at least three: the join of the first two is
the second one, which covers both, and bracketed either way the join of all three is the second
one. -/
theorem join_semilattice_segments : region ≠ null ∧
    region.join (list 0 64 none 1) = some (list 0 64 none 1, .leftEntail) ∧
    (list 0 64 none 1).join region = some (list 0 64 none 1, .rightEntail) ∧
    region.join region = some (region, .equal) ∧
    (∃ status, (list 0 64 none 1).join (list 0 64 none 1) = some (list 0 64 none 1, status) ∧
      status.leftIsCovered = true) ∧
    ∃ left right status1 status2,
      (list 0 64 none 1).join (list 0 64 none 3) = some (left, status1) ∧
      region.join left = some (right, status2) ∧ left = right := by
  have joined : region.join (list 0 64 none 1) = some (list 0 64 none 1, .leftEntail) := rfl
  have joined' : (list 0 64 none 1).join (list 0 64 none 3) =
      some (list 0 64 none 1, .rightEntail) := rfl
  obtain ⟨mirror, self, upper, brackets⟩ :=
    join_semilattice (a := region) (by decide) (list 0 64 none 1) (list 0 64 none 3)
  exact ⟨by decide, joined, mirror, self, (upper _ _ joined).2.2.2, _, _, _, _, joined', joined,
    brackets _ _ _ _ _ _ _ _ joined joined' joined' joined⟩

end Kind

end ShapeDomain
