import ShapeDomain.Coverage

/-!
# Intervals

The smallest domain with a coverage that is not equality: an interval covers those inside it.
-/

namespace ShapeDomain

/-- The integers from `low` to `high`. -/
structure Interval where
  /-- The least one. -/
  low : Int
  /-- The greatest one. -/
  high : Int
  /-- Whether an analysis looks for this interval. -/
  target : Bool
  deriving DecidableEq, Repr

namespace Interval

instance : Explorable Interval := ⟨target⟩

/-- Whether `inner` lies inside `outer`. -/
def encloses (outer inner : Interval) : Bool :=
  decide (outer.low ≤ inner.low ∧ inner.high ≤ outer.high)

/-- An interval is covered by one that it lies inside, and any interval can be made to. -/
def enclosure : StopOperator Interval where
  stop state reached := pure (reached.any fun outer => outer.encloses state)
  canForce _ _ := pure true

/-- The stop operator that the options ask for. -/
def stopOperator (options : Options) : StopOperator Interval :=
  match options.stop with
  | .separate => enclosure
  | .never => .never

end Interval

end ShapeDomain
