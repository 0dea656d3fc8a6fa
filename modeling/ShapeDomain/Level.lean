/-!
# Nesting levels

Level 0 holds the concrete objects.  What hangs off every node of a list segment at level `n` lives
at level `n + 1`.  Levels are counted in 32 bits, so there is a deepest one.
-/

namespace ShapeDomain

/-- How many list segments an object is nested in. -/
structure Level where
  /-- The number of enclosing segments. -/
  index : Nat
  deriving DecidableEq, Repr, Inhabited

namespace Level

/-- The level of concrete objects. -/
def ground : Level := ⟨0⟩

/-- The deepest level. -/
def deepest : Level := ⟨UInt32.size - 1⟩

/-- One level deeper, unless the level is already the deepest. -/
def next? (level : Level) : Option Level :=
  if level.index < deepest.index then some ⟨level.index + 1⟩ else none

/-- One level up, unless the level is already the outermost. -/
def prev? (level : Level) : Option Level :=
  match level.index with
  | 0 => none
  | index + 1 => some ⟨index⟩

/-- Whether this is the level of concrete objects. -/
def isConcrete (level : Level) : Bool :=
  level.index == 0

/-- How much deeper `level` is than `other`; negative when it is less deep. -/
def diff (level other : Level) : Int :=
  (level.index : Int) - other.index

/-- The way a level is written in messages. -/
def text (level : Level) : String :=
  "L" ++ toString level.index

instance : Ord Level := ⟨compareOn index⟩

instance : LT Level := ⟨fun a b => a.index < b.index⟩

instance (a b : Level) : Decidable (a < b) :=
  inferInstanceAs (Decidable (a.index < b.index))

instance : Std.TransOrd Level := inferInstanceAs (Std.TransCmp (compareOn index))

instance : Std.LawfulEqOrd Level where
  compare_self := Std.ReflCmp.compare_self
  eq_of_compare {a b} same := by
    cases a; cases b
    exact congrArg mk (Nat.compare_eq_eq.1 same)

theorem prev?_of_next? {level below : Level} (next : level.next? = some below) :
    below.prev? = some level := by
  unfold next? at next
  split at next
  · cases next
    rfl
  · cases next

theorem next?_of_lt {level : Level} (shallow : level < .deepest) :
    level.next? = some ⟨level.index + 1⟩ :=
  if_pos shallow

end Level

/-- Pairs of levels are compared by their first components and then by their second ones. -/
instance : Ord (Level × Level) := lexOrd

end ShapeDomain
