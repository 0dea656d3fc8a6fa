/-!
# Identifiers

Objects and values are named by identifiers drawn from one supply, so a fresh identifier differs
from every identifier drawn before it, whichever of the two it names.  The identifier `0` is never
drawn: it names the NULL object and the zero value.
-/

namespace ShapeDomain

/-- The name of an object. -/
structure ObjectId where
  /-- The position in the supply. -/
  index : Nat
  deriving DecidableEq, Repr, Inhabited

/-- The name of a symbolic value. -/
structure ValueId where
  /-- The position in the supply. -/
  index : Nat
  deriving DecidableEq, Repr, Inhabited

/-- What is left of the identifiers.  They are counted without end, as a counter of 32 bits counts
them while fewer than `2 ^ 32` are drawn; it is assumed throughout that no more are. -/
structure Supply where
  /-- The identifier that is drawn next. -/
  next : Nat
  deriving DecidableEq, Repr

namespace ObjectId

/-- The NULL object, which the zero value points to. -/
def null : ObjectId := ⟨0⟩

/-- Whether this is the NULL object. -/
def isNull (object : ObjectId) : Bool :=
  object == null

/-- The way an object is written in messages. -/
def text (object : ObjectId) : String :=
  if object.isNull then "NULL" else "o" ++ toString object.index

instance : Ord ObjectId := ⟨compareOn index⟩

instance : Std.TransOrd ObjectId := inferInstanceAs (Std.TransCmp (compareOn index))

instance : Std.LawfulEqOrd ObjectId where
  compare_self := Std.ReflCmp.compare_self
  eq_of_compare {a b} same := by
    cases a; cases b
    exact congrArg mk (Nat.compare_eq_eq.1 same)

theorem compare_eq (a b : ObjectId) : compare a b = compare a.index b.index := rfl

end ObjectId

namespace ValueId

/-- The zero value, which is the address NULL and the number 0. -/
def zero : ValueId := ⟨0⟩

/-- Whether this is the zero value. -/
def isZero (value : ValueId) : Bool :=
  value == zero

/-- The way a value is written in messages. -/
def text (value : ValueId) : String :=
  "#" ++ toString value.index

instance : Ord ValueId := ⟨compareOn index⟩

instance : Std.TransOrd ValueId := inferInstanceAs (Std.TransCmp (compareOn index))

instance : Std.LawfulEqOrd ValueId where
  compare_self := Std.ReflCmp.compare_self
  eq_of_compare {a b} same := by
    cases a; cases b
    exact congrArg mk (Nat.compare_eq_eq.1 same)

theorem compare_eq (a b : ValueId) : compare a b = compare a.index b.index := rfl

end ValueId

/-- Pairs of values are compared by their first components and then by their second ones. -/
instance : Ord (ValueId × ValueId) := lexOrd

namespace Supply

/-- The supply from which nothing has been drawn. -/
def full : Supply := ⟨1⟩

end Supply

end ShapeDomain
