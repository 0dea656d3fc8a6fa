import Mathlib.Data.Int.ModEq
import Mathlib.Algebra.Order.Group.Unbundled.Int
import ShapeDomain.Machine

/-!
# Two's complement

The numbers that a field of some bits holds are those of an interval as long as the modulus, so each
number is congruent to exactly one of them.  That one is the number held after the other was stored,
for the unsigned interval and for the signed one alike.
-/

namespace ShapeDomain

namespace Number

variable {bits fewer : Nat} {number other held : Int} {signed : Bool}

/-- The numbers that a field holds. -/
def InRange (bits : Nat) : (signed : Bool) → Int → Prop
  | false, number => 0 ≤ number ∧ number < 2 ^ bits
  | true, number => -2 ^ (bits - 1) ≤ number ∧ number < 2 ^ (bits - 1)

/-- Half of the modulus is a power of two as well. -/
theorem two_pow_eq_two_mul (positive : 0 < bits) : (2 : Int) ^ bits = 2 * 2 ^ (bits - 1) := by
  rw [← pow_succ', Nat.sub_add_cancel positive]

/-- The unsigned number that a field holds is the least residue. -/
theorem wrap_false (positive : 0 < bits) (number : Int) :
    wrap number bits false = number % 2 ^ bits :=
  wrap_unsigned positive number

/-- The signed number that a field holds is the least residue, unless this is too large. -/
theorem wrap_true (positive : 0 < bits) (number : Int) :
    wrap number bits true =
      if 2 ^ (bits - 1) ≤ number % 2 ^ bits then number % 2 ^ bits - 2 ^ bits
      else number % 2 ^ bits := by
  have modulus : 0 < (2 : Int) ^ bits := Int.pow_pos (by decide)
  have least : (if number.tmod (Int.pow 2 bits) < 0 then
        number.tmod (Int.pow 2 bits) + Int.pow 2 bits
      else number.tmod (Int.pow 2 bits)) = number % 2 ^ bits :=
    emod_eq_ite_tmod number modulus
  have half : Int.pow 2 bits / 2 = 2 ^ (bits - 1) :=
    Int.ediv_eq_of_eq_mul_right (by decide) (two_pow_eq_two_mul positive)
  simp only [wrap, Nat.pos_iff_ne_zero.1 positive, if_false, true_and, least, half]
  rfl

/-- What a field holds is in its range. -/
theorem inRange_wrap (positive : 0 < bits) (number : Int) (signed : Bool) :
    InRange bits signed (wrap number bits signed) := by
  have modulus : 0 < (2 : Int) ^ bits := Int.pow_pos (by decide)
  have nonneg := Int.emod_nonneg number modulus.ne'
  have small := Int.emod_lt_of_pos number modulus
  cases signed with
  | false =>
      rw [wrap_false positive]
      exact ⟨nonneg, small⟩
  | true =>
      have twice := two_pow_eq_two_mul positive
      rw [wrap_true positive]
      split
      · exact ⟨by omega, by omega⟩
      · exact ⟨by omega, by omega⟩

/-- What a field holds is congruent to the number that was stored. -/
theorem wrap_modEq (positive : 0 < bits) (number : Int) (signed : Bool) :
    wrap number bits signed ≡ number [ZMOD 2 ^ bits] := by
  cases signed with
  | false =>
      rw [wrap_false positive]
      exact Int.mod_modEq number _
  | true =>
      rw [wrap_true positive]
      split
      · exact (Int.modEq_sub_modulus_iff.2 rfl).symm.trans (Int.mod_modEq number _)
      · exact Int.mod_modEq number _

/-- A range has no two congruent numbers. -/
theorem eq_of_inRange (positive : 0 < bits) (here : InRange bits signed number)
    (there : InRange bits signed other) (congruent : number ≡ other [ZMOD 2 ^ bits]) :
    number = other := by
  have modulus := two_pow_eq_two_mul positive
  have near : |other - number| < 2 ^ bits := by
    rw [abs_lt]
    cases signed with
    | false | true =>
        obtain ⟨low, high⟩ := here
        obtain ⟨low', high'⟩ := there
        exact ⟨by omega, by omega⟩
  have same := Int.eq_zero_of_abs_lt_dvd congruent.dvd near
  omega

/-- A field holds the only number of its range that is congruent to the one that was stored. -/
theorem eq_wrap_iff (positive : 0 < bits) :
    held = wrap number bits signed ↔ InRange bits signed held ∧ held ≡ number [ZMOD 2 ^ bits] := by
  constructor
  · rintro rfl
    exact ⟨inRange_wrap positive number signed, wrap_modEq positive number signed⟩
  · rintro ⟨inRange, congruent⟩
    exact eq_of_inRange positive inRange (inRange_wrap positive number signed)
      (congruent.trans (wrap_modEq positive number signed).symm)

/-- Storing what a field holds gives what storing the number itself gives. -/
theorem wrap_wrap (positive : 0 < bits) (number : Int) (first second : Bool) :
    wrap (wrap number bits first) bits second = wrap number bits second :=
  (eq_wrap_iff positive).2 ⟨inRange_wrap positive _ second,
    (wrap_modEq positive _ second).trans (wrap_modEq positive number first)⟩

/-- Numbers leave the same bits in a field if their difference is a multiple of the modulus. -/
theorem agreeIn_iff_dvd (positive : 0 < bits) :
    agreeIn number other bits = true ↔ (2 : Int) ^ bits ∣ number - other := by
  rw [agreeIn, beq_iff_eq, wrap_false positive, wrap_false positive, eq_comm]
  exact Int.modEq_iff_dvd

theorem agreeIn_equivalence (bits : Nat) : Equivalence fun a b => agreeIn a b bits = true where
  refl a := by rw [agreeIn, beq_self_eq_true]
  symm {a b} agree := by
    rw [agreeIn, beq_iff_eq] at *
    exact agree.symm
  trans {a b c} first second := by
    rw [agreeIn, beq_iff_eq] at *
    exact first.trans second

/-- Numbers that leave the same bits in a field do so in a shorter one. -/
theorem agreeIn_of_le (positive : 0 < fewer) (shorter : fewer ≤ bits)
    (agree : agreeIn number other bits = true) : agreeIn number other fewer = true := by
  rw [agreeIn_iff_dvd (Nat.lt_of_lt_of_le positive shorter)] at agree
  exact (agreeIn_iff_dvd positive).2 ((pow_dvd_pow 2 shorter).trans agree)

/-- Storing a number is taking its residue in two's complement: the unsigned number held is the only
one from 0 up to the modulus, and the signed one the only one from minus half of the modulus up to
half of it, that is congruent to the number.  It does not matter how often the number was stored
before and how it was read back.  Two numbers leave the same bits if the modulus divides their
difference, which is an equivalence, and then they do so in every shorter field. -/
theorem wrap_exact (positive : 0 < bits) (number : Int) :
    (∀ held, held = wrap number bits false ↔
      (0 ≤ held ∧ held < 2 ^ bits) ∧ held ≡ number [ZMOD 2 ^ bits]) ∧
    (∀ held, held = wrap number bits true ↔
      (-2 ^ (bits - 1) ≤ held ∧ held < 2 ^ (bits - 1)) ∧ held ≡ number [ZMOD 2 ^ bits]) ∧
    (∀ first second, wrap (wrap number bits first) bits second = wrap number bits second) ∧
    (∀ other, agreeIn number other bits = true ↔ (2 : Int) ^ bits ∣ number - other) ∧
    (Equivalence fun a b => agreeIn a b bits = true) ∧
    ∀ other fewer, 0 < fewer → fewer ≤ bits → agreeIn number other bits = true →
      agreeIn number other fewer = true :=
  ⟨fun _ => eq_wrap_iff positive, fun _ => eq_wrap_iff positive, wrap_wrap positive number,
    fun _ => agreeIn_iff_dvd positive, agreeIn_equivalence bits,
    fun _ _ some shorter agree => agreeIn_of_le some shorter agree⟩

/-- A byte holds -384 as 128 or as -128, the least signed number, and 128 leaves the same bits in it
and in four bits. -/
theorem wrap_exact_byte : 0 < 8 ∧ 128 = wrap (-384) 8 false ∧ -128 = wrap (-384) 8 true ∧
    wrap (wrap (-384) 8 true) 8 false = wrap (-384) 8 false ∧ agreeIn (-384) 128 8 = true ∧
    agreeIn (-384) 128 4 = true := by
  obtain ⟨unsigned, signed, again, agree, -, shorter⟩ :=
    wrap_exact (show 0 < 8 by decide) (-384)
  have same : agreeIn (-384) 128 8 = true := (agree 128).2 (by decide)
  exact ⟨by decide, (unsigned 128).2 ⟨by decide, by decide⟩,
    (signed (-128)).2 ⟨by decide, by decide⟩,
    again true false, same, shorter 128 4 (by decide) (by decide) same⟩

end Number

end ShapeDomain
