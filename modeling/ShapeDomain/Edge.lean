import ShapeDomain.BitRange
import ShapeDomain.Ident

/-!
# Fields and pointers

A field says which value a range of bits of an object holds.  A pointer says which place a value is
the address of.
-/

namespace ShapeDomain

/-- A range of bits of an object holds a value. -/
structure Field where
  /-- The object. -/
  object : ObjectId
  /-- The bits. -/
  range : BitRange
  /-- The value. -/
  value : ValueId
  deriving DecidableEq, Repr, Inhabited

namespace Field

/-- The way a field is written in messages. -/
def text (field : Field) : String :=
  field.object.text ++ "[" ++ toString field.range.offset ++ "b-" ++ toString field.range.stop ++
    "b] -> " ++ field.value.text

end Field

/-- Which of the regions that an object stands for is meant. -/
inductive Specifier where
  /-- The one concrete region. -/
  | region
  /-- The first node of a list segment. -/
  | first
  /-- The last node of a list segment. -/
  | last
  /-- Every node of a list segment. -/
  | all
  deriving DecidableEq, Repr, Inhabited

namespace Specifier

/-- The way a specifier is written in messages. -/
def text : Specifier → String
  | region => "REGION"
  | first => "FIRST"
  | last => "LAST"
  | all => "ALL"

end Specifier

/-- A place in memory that a value can be the address of. -/
structure Target where
  /-- The object. -/
  object : ObjectId
  /-- The bit within the object. -/
  offset : Nat
  /-- Which of the regions of the object. -/
  specifier : Specifier
  deriving DecidableEq, Repr, Inhabited

namespace Target

/-- The place that the zero value is the address of. -/
def null : Target where
  object := .null
  offset := 0
  specifier := .region

end Target

/-- A value is the address of a place. -/
structure Pointer where
  /-- The value. -/
  value : ValueId
  /-- The place. -/
  target : Target
  deriving DecidableEq, Repr, Inhabited

namespace Pointer

/-- The way a pointer is written in messages. -/
def text (pointer : Pointer) : String :=
  pointer.value.text ++ " -> " ++ pointer.target.object.text ++ "+" ++
    toString pointer.target.offset ++ "b, " ++ pointer.target.specifier.text

end Pointer

/-- A selection of fields; what is absent is not asked for. -/
structure FieldFilter where
  /-- The object. -/
  object : Option ObjectId := none
  /-- Where the field starts. -/
  offset : Option Nat := none
  /-- How many bits it has. -/
  size : Option Nat := none
  /-- Which value it holds. -/
  value : Option ValueId := none
  deriving DecidableEq, Repr, Inhabited

namespace FieldFilter

/-- Whether a field is selected. -/
def accepts (filter : FieldFilter) (field : Field) : Bool :=
  filter.object.all (· == field.object) && filter.offset.all (· == field.range.offset) &&
    filter.size.all (· == field.range.size) && filter.value.all (· == field.value)

end FieldFilter

end ShapeDomain
