/-!
# Bit ranges

A field occupies a range of bits of its object.  Positions are 64-bit words: the end of a range
stops at the largest position instead of running past it.
-/

namespace ShapeDomain

/-- A range of bits, given by where it starts and how many bits it has. -/
structure BitRange where
  /-- The first bit. -/
  offset : Nat
  /-- The number of bits. -/
  size : Nat
  deriving DecidableEq, Repr, Inhabited

namespace BitRange

/-- The largest position, of 64 bits. -/
def limit : Nat := 0xFFFFFFFFFFFFFFFF

/-- The end of a range, exclusive; at most the largest position. -/
def stop (range : BitRange) : Nat :=
  min (range.offset + range.size) limit

/-- Whether two ranges have a bit in common. -/
def overlaps (range other : BitRange) : Bool :=
  decide (range.offset < other.stop ∧ other.offset < range.stop)

/-- Whether `range` contains all of `other`. -/
def covers (range other : BitRange) : Bool :=
  decide (range.offset ≤ other.offset ∧ other.stop ≤ range.stop)

/-- Whether a range ends within `size` bits, and at a position at all. -/
def fits (range : BitRange) (size : Nat) : Bool :=
  decide (range.offset + range.size ≤ limit ∧ range.offset + range.size ≤ size)

/-- The range from `start` up to `stop`, exclusive. -/
def between (start stop : Nat) : BitRange where
  offset := start
  size := stop - start

theorem overlaps_iff {range other : BitRange} :
    range.overlaps other = true ↔ range.offset < other.stop ∧ other.offset < range.stop :=
  decide_eq_true_iff

theorem covers_iff {range other : BitRange} :
    range.covers other = true ↔ range.offset ≤ other.offset ∧ other.stop ≤ range.stop :=
  decide_eq_true_iff

theorem fits_iff {range : BitRange} {size : Nat} :
    range.fits size = true ↔
      range.offset + range.size ≤ limit ∧ range.offset + range.size ≤ size :=
  decide_eq_true_iff

theorem overlaps_comm (range other : BitRange) :
    range.overlaps other = other.overlaps range := by
  simp only [overlaps, And.comm]

/-- The end is exact for a range that fits somewhere. -/
theorem stop_of_fits {range : BitRange} {size : Nat} (fit : range.fits size = true) :
    range.stop = range.offset + range.size := by
  have := (fits_iff.1 fit).1
  simp only [stop]
  omega

end BitRange

end ShapeDomain
