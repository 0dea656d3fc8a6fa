import ShapeDomain.Proofs.Progress.Numbers
import ShapeDomain.Proofs.Steady.Graphs

/-!
# Joining tame graphs

While two tame graphs are joined, whatever the options are, both graphs and the destination stay
tame wherever the join goes through.  This module says so of the joining of two values that are no
addresses.
-/

namespace ShapeDomain

namespace Join

/-- What holds while two tame graphs are joined, after the supply has come to `low`. -/
structure Steady (low : Nat) (here : Progress × Supply) : Prop where
  /-- The supply has moved on. -/
  started : low ≤ here.2.next
  /-- The left graph is tame. -/
  left : here.1.left.Tame here.2.next
  /-- So is the right graph, -/
  right : here.1.right.Tame here.2.next
  /-- and the destination. -/
  dest : here.1.dest.Tame here.2.next
  /-- Only the ground level is needed. -/
  levels : here.1.levels = .initial
  /-- Joint values were drawn. -/
  joined : ∀ {values value}, here.1.joined.get? values = some value → value.index < here.2.next
  /-- An object of the destination that shares its name with a left object is the counterpart of
  one: only left objects with counterparts give their names away. -/
  named : ∀ {id}, here.1.dest.hasObject id = true → here.1.left.hasObject id = true →
    id = .null ∨ (here.1.leftMap.object? id).isSome = true

/-- Two graphs are joined in this way, and then `good` holds of the result and the end. -/
abbrev Steadily {α : Type} (low : Nat) (computation : Run Progress α) (here : Progress × Supply)
    (good : α → Progress × Supply → Prop) : Prop :=
  Run.Passes computation here fun result there => Steady low there ∧ good result there

variable {low : Nat} {here : Progress × Supply} {value1 value2 : ValueId}

namespace Steady

theorem now (steady : Steady low here) : Steady here.2.next here :=
  { steady with started := Nat.le_refl _ }

/-- What was drawn before stays so. -/
theorem lt (steady : Steady low here) {index : Nat} (early : index < low) :
    index < here.2.next :=
  Nat.lt_of_lt_of_le early steady.started

/-- The status may change, and the supply may move on. -/
theorem later (steady : Steady low here) {now : Supply} (after : here.2.next ≤ now.next)
    (status : Status) : Steady low ({ here.1 with status := status }, now) where
  started := Nat.le_trans steady.started after
  left := steady.left.later after
  right := steady.right.later after
  dest := steady.dest.later after
  levels := steady.levels
  joined isJoint := Nat.lt_of_lt_of_le (steady.joined isJoint) after
  named := steady.named

/-- The destination may change without new objects. -/
theorem withDest (steady : Steady low here) {dest : Graph} (tame : dest.Tame here.2.next)
    (fewer : ∀ {id}, dest.hasObject id = true → here.1.dest.hasObject id = true) :
    Steady low ({ here.1 with dest := dest }, here.2) :=
  { steady with
    dest := tame
    named := fun present => steady.named (fewer present) }

theorem lower (steady : Steady low here) (status : Status) :
    Steadily low (Join.lower status) here fun _ there => there.2 = here.2 :=
  Run.ends_of_ok (lower_apply status here) ⟨steady.later (Nat.le_refl _) _, rfl⟩

/-- The name of a joint value. -/
theorem valueName (steady : Steady low here) (early : value1.index < low) :
    Steadily low (Join.valueName value1 value2) here fun value there =>
      there.1 = here.1 ∧ value.index < there.2.next := by
  unfold Join.valueName
  split
  case isTrue => exact Run.ends_pure ⟨steady, rfl, steady.lt early⟩
  case isFalse =>
    exact Run.ends_of_ok (Run.draw_valueId_apply here)
      ⟨steady.later (Nat.le_succ _) here.1.status, rfl, Nat.lt_succ_self _⟩

/-! ### Pairs -/

/-- Giving a pair of values its joint value. -/
theorem pairValues (steady : Steady low here) {dest : ValueId} (early : dest.index < here.2.next) :
    Steadily low (Join.pairValues value1 value2 dest) here fun _ there => there.2 = here.2 := by
  refine passes_pairValues ⟨?_, rfl⟩
  exact { steady with
    dest := steady.dest.addValue early
    joined := fun {values value} isJoint => by
      replace isJoint : (here.1.joined.insert (value1, value2) dest).get? values = some value :=
        isJoint
      rw [Table.get?_insert] at isJoint
      split at isJoint
      · obtain rfl := Option.some.inj isJoint
        exact early
      · exact steady.joined isJoint
    named := fun {id} present shared => (steady.named present shared).imp_right fun mapped => by
      show ((setUnlessZero here.1.leftMap value1 dest).object? id).isSome = true
      rw [object?_setUnlessZero]
      exact mapped }

end Steady

/-- A change of the destination that is not refused. -/
theorem passes_attemptDest {change : Graph → Except Fault Graph}
    {good : PUnit → Progress × Supply → Prop}
    (done : ∀ dest, change here.1.dest = .ok dest →
      good () ({ here.1 with dest := dest }, here.2)) :
    Run.Passes (attemptDest change) here good := by
  cases made : change here.1.dest with
  | ok dest => exact Run.ends_of_ok (attemptDest_apply made) (done dest made)
  | error fault =>
      have stopped : attemptDest change here = .error fault here := by
        rw [attemptDest, onDest, Run.within_apply, Run.attempt_apply_error made]
      exact Run.passes_of_error stopped

/-! ### Values that are no addresses -/

namespace Steady

/-- The outcome of joining two values: if they have a joint value, it was drawn. -/
def Drawn : ValueJoin → Progress × Supply → Prop
  | .joined value _, there => value.index < there.2.next
  | .undefined _, _ => True

theorem noJoin (steady : Steady low here) (setting : Setting) :
    Steadily low (Join.noJoin setting value1 value2) here Drawn :=
  Run.ends_bind_of_ok (Run.state_apply _) (Run.ends_pure ⟨steady, trivial⟩)

theorem numberName (steady : Steady low here) (early : value1.index < low) (number : Int)
    (size : Nat) :
    Steadily low (Join.numberName value1 value2 number size) here fun value there =>
      value.index < there.2.next := by
  unfold Join.numberName
  split
  case isTrue => exact Run.ends_pure ⟨steady, steady.lt early⟩
  case isFalse =>
    split
    case isTrue => exact Run.ends_pure ⟨steady, steady.left.positive⟩
    case isFalse =>
      exact Run.ends_of_ok (Run.draw_valueId_apply here)
        ⟨steady.later (Nat.le_succ _) here.1.status, Nat.lt_succ_self _⟩

theorem joinNumbers (steady : Steady low here) (early : value1.index < low) (size : Nat)
    (levelDiff : Int) :
    Steadily low (Join.joinNumbers value1 value2 size levelDiff) here Drawn := by
  have paired {low : Nat} {here : Progress × Supply} (steady : Steady low here) {dest : ValueId}
      (drawn : dest.index < here.2.next) : Steadily low (do
        Join.pairValues value1 value2 dest
        return .joined dest none) here Drawn := by
    refine (steady.pairValues drawn).bind ?_
    rintro _ there ⟨steady, same⟩
    exact Run.ends_pure ⟨steady, (same ▸ drawn : dest.index < there.2.next)⟩
  unfold Join.joinNumbers
  refine Run.ends_bind_of_ok (Run.state_apply _) ?_
  dsimp only
  split
  case h_1 a b _ _ =>
    split
    case isTrue =>
      refine (steady.numberName early a size).bind ?_
      rintro dest middle ⟨steady, drawn⟩
      split
      case isTrue => exact paired steady drawn
      case isFalse =>
        refine Run.ends_bind_of_ok (modifyDest_apply _ _) (paired ?_ drawn)
        exact steady.withDest (steady.dest.setNumber drawn a) fun present => present
    case isFalse => exact Run.ends_pure ⟨steady, trivial⟩
  case h_2 =>
    refine (steady.valueName early).bind ?_
    rintro dest middle ⟨steady, -, drawn⟩
    refine (steady.pairValues drawn).bind ?_
    rintro _ middle' ⟨steady, same⟩
    refine (steady.lower _).bind ?_
    rintro _ there ⟨steady, same'⟩
    exact Run.ends_pure ⟨steady, ((same'.trans same) ▸ drawn : dest.index < there.2.next)⟩

end Steady

end Join

end ShapeDomain
