import ShapeDomain.BitRange
import ShapeDomain.Ident
import ShapeDomain.Level

/-!
# Objects

An object is a piece of memory: a concrete region, the NULL object, or an abstraction that stands
for several shapes of concrete memory at once.  Its identity is the name under which a graph holds
it.
-/

namespace ShapeDomain

/-- What an object stands for. -/
inductive Kind where
  /-- A concrete region. -/
  | region
  /-- A list of at least `leastLength` nodes, linked through the pointer at `next`, and through the
  one at `prev` if it is linked both ways. -/
  | list (head next : Nat) (prev : Option Nat) (leastLength : Nat)
  /-- A region that may be absent. -/
  | optional
  /-- An abstraction that only its number describes. -/
  | abstraction (number : Nat)
  /-- The NULL object. -/
  | null
  deriving DecidableEq, Repr, Inhabited

namespace Kind

/-- Whether an object of this kind may stand for several shapes of memory. -/
def isAbstract : Kind → Bool
  | region | null => false
  | list .. | optional | abstraction _ => true

/-- Whether this is the kind of a list segment. -/
def isList : Kind → Bool
  | list .. => true
  | region | optional | abstraction _ | null => false

/-- Whether this is the kind of the NULL object. -/
def isNull : Kind → Bool
  | null => true
  | region | list .. | optional | abstraction _ => false

/-- The least number of regions that an object of this kind stands for. -/
def leastLength : Kind → Nat
  | list _ _ _ least => least
  | optional | null => 0
  | region | abstraction _ => 1

/-- The short name of a kind. -/
def name : Kind → String
  | region => "region"
  | list _ _ none _ => "sll"
  | list _ _ (some _) _ => "dll"
  | optional => "opt"
  | abstraction _ => "abstraction"
  | null => "null"

end Kind

/-- A piece of memory. -/
structure Object where
  /-- The number of bits. -/
  size : Nat
  /-- The nesting level. -/
  level : Level
  /-- What it stands for. -/
  kind : Kind
  /-- The name it is shown under. -/
  label : String
  deriving DecidableEq, Repr, Inhabited

namespace Object

/-- The NULL object. -/
def null : Object where
  size := 0
  level := .ground
  kind := .null
  label := "NULL"

/-- A concrete region. -/
def region (size : Nat) (label : String) : Object where
  size := size
  level := .ground
  kind := .region
  label := label

/-- The way the object named `id` is written in messages. -/
def text (id : ObjectId) (object : Object) : String :=
  let size := toString object.size ++ "b"
  match object.kind with
  | .null => "NULL"
  | .region => object.label ++ "(" ++ id.text ++ ", " ++ size ++ ")"
  | .list _ next prev least =>
      let links := match prev with
        | some prev => ", prev=" ++ toString prev
        | none => ""
      object.kind.name ++ "(" ++ id.text ++ ", " ++ size ++ ", next=" ++ toString next ++ links ++
        ", len>=" ++ toString least ++ ", " ++ object.level.text ++ ")"
  | .optional | .abstraction _ =>
      object.kind.name ++ "(" ++ id.text ++ ", " ++ size ++ ", " ++ object.level.text ++ ")"

end Object

end ShapeDomain
