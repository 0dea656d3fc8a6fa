import ShapeDomain.Join.Graph
import ShapeDomain.Proofs.Graph.Plain
import ShapeDomain.Proofs.Join.Alignment
import ShapeDomain.Proofs.Join.Scopes

/-!
# What has to fit for one memory to cover another

Two memories are compared from their variables on.  Objects meet when a variable of the same name
names them, or when addresses in the same place of objects that meet lead to them.  This module says
which objects and which of their contents meet, and what has to hold of all that meet, without
mention of a run.
-/

namespace ShapeDomain

/-! ### Variables -/

/-- A variable of a program. -/
inductive Variable where
  /-- A global variable. -/
  | global (name : String)
  /-- A variable of the function at a depth, counted from the outermost one. -/
  | inner (depth : Nat) (name : String)
  deriving DecidableEq

namespace Graph

/-- The object that a variable names. -/
def named? (graph : Graph) : Variable → Option ObjectId
  | .global name => graph.globals.get? name
  | .inner depth name => (graph.frames[depth]?).bind fun frame => frame.locals.get? name

theorem exists_named?_iff {graph : Graph} {id : ObjectId} :
    (∃ name, graph.named? name = some id) ↔ id ∈ graph.roots.map Prod.snd := by
  simp only [List.mem_map, Prod.exists, exists_eq_right]
  constructor
  · rintro ⟨name | ⟨depth, name⟩, named⟩
    · exact ⟨name, mem_roots_iff.2 (.inl named)⟩
    · obtain ⟨frame, found, named⟩ := Option.bind_eq_some_iff.1 named
      exact ⟨name, mem_roots_iff.2
        (.inr ⟨frame, List.mem_reverse.1 (List.mem_of_getElem? found), named⟩)⟩
  · rintro ⟨name, member⟩
    rcases mem_roots_iff.1 member with named | ⟨frame, inside, named⟩
    · exact ⟨.global name, named⟩
    · obtain ⟨depth, found⟩ := List.mem_iff_getElem?.1 (List.mem_reverse.2 inside)
      exact ⟨.inner depth name, Option.bind_eq_some_iff.2 ⟨frame, found, named⟩⟩

/-- Objects that variables name are proper ones outside of the heap. -/
theorem Sound.nameable {graph : Graph} (sound : graph.Sound) {name : Variable} {id : ObjectId}
    (named : graph.named? name = some id) : graph.Nameable id := by
  obtain ⟨entry, member, rfl⟩ := List.mem_map.1 (exists_named?_iff.1 ⟨name, named⟩)
  exact sound.nameables entry member

/-- Two graphs have the same variables. -/
structure SameScopes (left right : Graph) : Prop where
  /-- They have the same global variables. -/
  globals : left.globals.keys = right.globals.keys
  /-- The same functions run, with the same variables. -/
  frames : (left.frames.map fun frame => (frame.function, frame.locals.keys)) =
    right.frames.map fun frame => (frame.function, frame.locals.keys)

/-- Graphs with the same variables name objects by the same names. -/
theorem SameScopes.isSome_named? {left right : Graph} (same : left.SameScopes right)
    (name : Variable) : (left.named? name).isSome = (right.named? name).isSome := by
  cases name with
  | global name => exact Table.isSome_get?_of_keys same.globals name
  | inner depth name =>
      have outlines := congrArg (·[depth]?) same.frames
      simp only [List.getElem?_map] at outlines
      simp only [named?]
      cases found1 : left.frames[depth]? with
      | none =>
          cases found2 : right.frames[depth]? with
          | none => rfl
          | some frame2 => simp [found1, found2] at outlines
      | some frame1 =>
          cases found2 : right.frames[depth]? with
          | none => simp [found1, found2] at outlines
          | some frame2 =>
              rw [found1, found2, Option.map_some, Option.map_some, Option.some.injEq,
                Prod.mk.injEq] at outlines
              exact Table.isSome_get?_of_keys outlines.2 name

end Graph

namespace Join

/-! ### What meets -/

/-- What an object holds in a range after its layout was aligned with that of an object of another
graph. -/
def slot (graph other : Graph) (object otherObject : ObjectId) (range : BitRange) :
    Alignment.Slot :=
  Alignment.alignedSlots graph object (other.fieldsOf otherObject) range

/-- What a range of an object holds: a value of its graph, or a value of its own of which nothing is
known. -/
inductive Cell where
  /-- A value. -/
  | value (value : ValueId)
  /-- The unknown contents of a range. -/
  | piece (object : ObjectId) (range : BitRange)
  deriving DecidableEq

namespace Cell

/-- Zero. -/
def zero : Cell := value .zero

/-- The place that the contents are the address of. -/
def address? (graph : Graph) : Cell → Option Target
  | .value held => Join.address? graph held
  | .piece .. => none

/-- The number that the contents are known to be. -/
def number? (graph : Graph) : Cell → Option Int
  | .value held => graph.number? held
  | .piece .. => none

end Cell

/-- The contents of a range of an object after its layout was aligned. -/
def cell? (graph other : Graph) (object otherObject : ObjectId) (range : BitRange) : Option Cell :=
  match slot graph other object otherObject range with
  | .empty => none
  | .kept value => some (.value value)
  | .zero => some .zero
  | .unknown => some (.piece object range)

variable (left right : Graph)

/-- Objects that are compared with each other. -/
inductive Met : ObjectId → ObjectId → Prop where
  /-- Variables of the same name name them. -/
  | named {name : Variable} {object1 object2 : ObjectId} :
      left.named? name = some object1 → right.named? name = some object2 → Met object1 object2
  /-- Addresses in the same place of objects that meet lead to them. -/
  | address {object1 object2 : ObjectId} {range : BitRange} {cell1 cell2 : Cell}
      {target1 target2 : Target} :
      Met object1 object2 → cell? left right object1 object2 range = some cell1 →
      cell? right left object2 object1 range = some cell2 →
      cell1.address? left = some target1 → cell2.address? right = some target2 →
      target1.object ≠ .null → target2.object ≠ .null → Met target1.object target2.object

/-- Contents that are compared with each other, at a range. -/
def Compared (range : BitRange) (cell1 cell2 : Cell) : Prop :=
  ∃ object1 object2, Met left right object1 object2 ∧
    cell? left right object1 object2 range = some cell1 ∧
    cell? right left object2 object1 range = some cell2

/-- Contents are no addresses, or they are addresses of the same offset, and both or none of them is
one in the NULL object. -/
def SameAddress (cell1 cell2 : Cell) : Prop :=
  (cell1.address? left = none ∧ cell2.address? right = none) ∨
    ∃ target1 target2, cell1.address? left = some target1 ∧ cell2.address? right = some target2 ∧
      target1.offset = target2.offset ∧ (target1.object = .null ↔ target2.object = .null)

namespace SameAddress

variable {left right middle : Graph} {cell1 cell2 cell3 : Cell}

theorem none_right (same : SameAddress left right cell1 cell2)
    (none1 : cell1.address? left = none) : cell2.address? right = none := by
  rcases same with ⟨-, none2⟩ | ⟨_, _, leads1, -⟩
  · exact none2
  · simp [none1] at leads1

theorem none_left (same : SameAddress left right cell1 cell2)
    (none2 : cell2.address? right = none) : cell1.address? left = none := by
  rcases same with ⟨none1, -⟩ | ⟨_, _, -, leads2, -⟩
  · exact none1
  · simp [none2] at leads2

theorem trans (first : SameAddress left middle cell1 cell2)
    (second : SameAddress middle right cell2 cell3) : SameAddress left right cell1 cell3 := by
  rcases first with ⟨none1, none2⟩ | ⟨target1, target2, leads1, leads2, offset, null⟩
  · exact .inl ⟨none1, second.none_right none2⟩
  · rcases second with ⟨none2, -⟩ | ⟨other2, target3, leads2', leads3, offset', null'⟩
    · simp [none2] at leads2
    · obtain rfl := Option.some.inj (leads2.symm.trans leads2')
      exact .inr ⟨target1, target3, leads1, leads3, offset.trans offset', null.trans null'⟩

end SameAddress

/-! ### What has to fit -/

/-- What has to hold for the right graph to cover the left one, numbers apart. -/
structure Fits : Prop where
  /-- The graphs have the same variables. -/
  scopes : left.SameScopes right
  /-- Objects that meet have the same size. -/
  size : ∀ {object1 object2}, Met left right object1 object2 →
    (left.object? object1).map Object.size = (right.object? object2).map Object.size
  /-- Both may be accessed or none. -/
  valid : ∀ {object1 object2}, Met left right object1 object2 →
    left.isValid object1 = right.isValid object2
  /-- No object meets two. -/
  oneToOne : ∀ {object1 object2 other1 other2}, Met left right object1 object2 →
    Met left right other1 other2 → (object1 = other1 ↔ object2 = other2)
  /-- No field of the left graph that holds a value other than zero is cut. -/
  whole : ∀ {object1 object2}, Met left right object1 object2 →
    ∀ field ∈ left.fieldsOf object1, Alignment.losesValue
      (Alignment.boundaries (left.fieldsOf object1 ++ right.fieldsOf object2)) field = false
  /-- Left contents other than zero are paired once. -/
  leftOnce : ∀ {range1 range2 cell other1 other2}, Compared left right range1 cell other1 →
    Compared left right range2 cell other2 → cell = .zero ∨ other1 = other2
  /-- So are right ones. -/
  rightOnce : ∀ {range1 range2 cell other1 other2}, Compared left right range1 other1 cell →
    Compared left right range2 other2 cell → cell = .zero ∨ other1 = other2
  /-- Addresses are paired with addresses. -/
  addresses : ∀ {range cell1 cell2}, Compared left right range cell1 cell2 →
    SameAddress left right cell1 cell2
  /-- What the right graph knows the left one knows. -/
  known : ∀ {range cell1 cell2 number}, Compared left right range cell1 cell2 →
    cell1.address? left = none → cell2.number? right = some number →
    (cell1.number? left).isSome = true

/-- Numbers that are paired are the same within the width of every field that they are paired in. -/
def AgreeEverywhere : Prop :=
  ∀ {range cell1 cell2 number1 number2}, Compared left right range cell1 cell2 →
    cell1.address? left = none → cell1.number? left = some number1 →
    cell2.number? right = some number2 → Number.agreeIn number1 number2 range.size = true

/-- All that meets fits. -/
structure Cover : Prop where
  /-- All fits, numbers apart. -/
  fits : Fits left right
  /-- Numbers agree. -/
  numbers : AgreeEverywhere left right

/-- The left graph says at least as much as the right one about what meets. -/
structure Informed : Prop where
  /-- No field of the left graph that holds a value other than zero is cut. -/
  whole : ∀ {object1 object2}, Met left right object1 object2 →
    ∀ field ∈ left.fieldsOf object1, Alignment.losesValue
      (Alignment.boundaries (left.fieldsOf object1 ++ right.fieldsOf object2)) field = false
  /-- What the right graph knows the left one knows, unless both contents are zero. -/
  known : ∀ {range cell1 cell2 number}, Compared left right range cell1 cell2 →
    ¬ (cell1 = .zero ∧ cell2 = .zero) → cell1.address? left = none →
    cell2.number? right = some number → (cell1.number? left).isSome = true

theorem Cover.informed {left right : Graph} (cover : Cover left right) : Informed left right where
  whole := cover.fits.whole
  known compared _ := cover.fits.known compared

end Join

namespace Graph

/-- A field of a given width holds a value. -/
def HoldsAt (graph : Graph) (value : ValueId) (size : Nat) : Prop :=
  ∃ object range, graph.valueAt? object range = some value ∧ range.size = size

theorem holdsAt_iff {graph : Graph} {value : ValueId} {size : Nat} : graph.HoldsAt value size ↔
    ∃ field ∈ graph.fields, field.value = value ∧ field.range.size = size := by
  constructor
  · rintro ⟨object, range, held, width⟩
    exact ⟨⟨object, range, value⟩, mem_fields_iff.2 held, rfl, width⟩
  · rintro ⟨field, member, rfl, width⟩
    exact ⟨field.object, field.range, mem_fields_iff.1 member, width⟩

instance (graph : Graph) (value : ValueId) (size : Nat) : Decidable (graph.HoldsAt value size) :=
  decidable_of_iff _ holdsAt_iff.symm

end Graph

namespace Join

/-- Two values are the same number within a width at which each of them is held, unless it is
zero. -/
structure NumbersFit (left right : Graph) (value1 value2 : ValueId) (number1 number2 : Int)
    (size : Nat) :
    Prop where
  /-- The numbers are the same. -/
  agree : Number.agreeIn number1 number2 size = true
  /-- The left graph holds the left value at this width. -/
  left : value1 = .zero ∨ left.HoldsAt value1 size
  /-- The right graph holds the right value at it. -/
  right : value2 = .zero ∨ right.HoldsAt value2 size

/-- Numbers that are paired are the same within the width of some field that holds them. -/
def AgreeSomewhere (left right : Graph) : Prop :=
  ∀ {range value1 value2 number1 number2},
    Compared left right range (.value value1) (.value value2) →
    address? left value1 = none → left.number? value1 = some number1 →
    right.number? value2 = some number2 →
    ∃ size, NumbersFit left right value1 value2 number1 number2 size

end Join

end ShapeDomain
