/-!
# The target machine

A machine model fixes the widths of pointers and integers.  Numbers are integers; a field of a given
width stores them modulo a power of two, read back as an unsigned or a two's complement number.
-/

namespace ShapeDomain

/-- The pointer and integer widths of the analysed program's target. -/
structure Machine where
  /-- The width of a pointer. -/
  pointerWidth : Nat
  /-- The width of an `int`. -/
  intWidth : Nat
  /-- The width of a `long`. -/
  longWidth : Nat
  /-- Whether a `char` is signed. -/
  signedChar : Bool
  deriving DecidableEq, Repr

namespace Machine

/-- A 32-bit target. -/
def linux32 : Machine := ⟨32, 32, 32, true⟩

/-- A 64-bit target. -/
def linux64 : Machine := ⟨64, 32, 64, true⟩

instance : Inhabited Machine := ⟨linux64⟩

end Machine

namespace Number

/-- The number that a field of `bits` bits holds after `number` was stored there.  The remainder
modulo a power of two has the sign of the number; it is brought to the unsigned range, and from
there to the signed one if that is asked for.  A field without bits leaves the number as it is. -/
def wrap (number : Int) (bits : Nat) (signed : Bool) : Int :=
  if bits = 0 then
    number
  else
    let modulus := Int.pow 2 bits
    let remainder := number.tmod modulus
    let wrapped := if remainder < 0 then remainder + modulus else remainder
    if signed ∧ modulus / 2 ≤ wrapped then wrapped - modulus else wrapped

/-- Whether two numbers leave the same bits in a field of `bits` bits. -/
def agreeIn (a b : Int) (bits : Nat) : Bool :=
  wrap a bits false == wrap b bits false

@[simp] theorem wrap_zero_bits (number : Int) (signed : Bool) :
    wrap number 0 signed = number := rfl

/-- A truncated remainder that is brought up by the modulus if it is negative is the least
residue. -/
theorem emod_eq_ite_tmod (number : Int) {modulus : Int} (positive : 0 < modulus) :
    (if number.tmod modulus < 0 then number.tmod modulus + modulus else number.tmod modulus) =
      number % modulus := by
  have least := Int.emod_nonneg number (Int.ne_of_gt positive)
  have bounded := Int.emod_lt_of_pos number positive
  by_cases same : 0 ≤ number ∨ modulus ∣ number
  · rw [Int.tmod_eq_emod, if_pos same]
    omega
  · rw [Int.tmod_eq_emod, if_neg same]
    omega

theorem wrap_unsigned {bits : Nat} (positive : 0 < bits) (number : Int) :
    wrap number bits false = number % Int.pow 2 bits := by
  have modulus : 0 < Int.pow 2 bits := Int.pow_pos (by decide)
  simp only [wrap, Nat.pos_iff_ne_zero.1 positive, Bool.false_eq_true, false_and, if_false]
  exact emod_eq_ite_tmod number modulus

/-- Numbers that leave the same bits in a field are congruent. -/
theorem emod_eq_of_agreeIn {number1 number2 : Int} {size : Nat}
    (agree : agreeIn number1 number2 size = true) :
    number1 % Int.pow 2 size = number2 % Int.pow 2 size := by
  rw [agreeIn, beq_iff_eq] at agree
  rcases Nat.eq_zero_or_pos size with rfl | positive
  · rw [wrap_zero_bits, wrap_zero_bits] at agree
    rw [agree]
  · rw [wrap_unsigned positive, wrap_unsigned positive] at agree
    exact agree

end Number

end ShapeDomain
