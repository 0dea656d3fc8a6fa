import ShapeDomain.Join.Progress

/-!
# Joining values

Two values are joined into one value of the destination.  Numbers have to be the same within the
width of the field; addresses have to lead to the same place of objects that are counterparts of
each other, or that become so here, and then these are joined as well.
-/

namespace ShapeDomain

namespace Join

/-- The outcome of joining two values. -/
inductive ValueJoin where
  /-- They have a joint value.  The list folding is to be done when the object that holds the value
  is joined. -/
  | joined (value : ValueId) (fold : Option Fold)
  /-- They have none.  A list segment that absorbs the difference might still help. -/
  | undefined (recoverable : Bool)

/-- How two objects are joined into one of the destination, at a difference of levels.  Says whether
they have a join. -/
abbrev Descend :=
  (object1 object2 dest : ObjectId) → (levelDiff : Int) → Run Progress Bool

/-- The place that a value other than zero is the address of. -/
def address? (graph : Graph) (value : ValueId) : Option Target :=
  if value.isZero then none else graph.target? value

/-- Whether a value is the address of a list segment. -/
def pointsToList (graph : Graph) (value : ValueId) : Bool :=
  ((graph.target? value).bind fun target => graph.object? target.object).any fun object =>
    object.kind.isList

/-- The values have no join, which is recoverable if one of them leads to a list segment. -/
def noJoin (setting : Setting) (value1 value2 : ValueId) : Run Progress ValueJoin := do
  let progress ← Run.state
  return .undefined (setting.options.foldLists &&
    (pointsToList progress.left value1 || pointsToList progress.right value2))

/-! ### Numbers -/

/-- How two values relate that are not both known numbers: the one that is known is the more
specific one, and of two unknown ones the one that is less deeply nested. -/
def numberStatus (shared : Bool) (levelDiff : Int) : Option Int → Option Int → Status
  | some _, none => .leftEntail
  | none, some _ => .rightEntail
  | _, _ =>
      if shared then .equal
      else if levelDiff < 0 then .leftEntail
      else if 0 < levelDiff then .rightEntail
      else .equal

/-- The name of the joint value of two values that are known to be the same number: zero has its
own. -/
def numberName (value1 value2 : ValueId) (number : Int) (size : Nat) : Run Progress ValueId :=
  if value1 = value2 then pure value1
  else if Number.wrap number size false = 0 then pure .zero
  else Run.draw Draw.valueId

/-- Joins two values that are not addresses and are held by fields of `size` bits. -/
def joinNumbers (value1 value2 : ValueId) (size : Nat) (levelDiff : Int) :
    Run Progress ValueJoin := do
  let progress ← Run.state
  let number1 := progress.left.number? value1
  let number2 := progress.right.number? value2
  match number1, number2 with
  | some a, some b =>
      if Number.agreeIn a b size then
        let dest ← numberName value1 value2 a size
        unless dest.isZero do
          modifyDest fun graph => graph.setNumber dest a
        pairValues value1 value2 dest
        return .joined dest none
      else
        return .undefined false
  | _, _ =>
      let dest ← valueName value1 value2
      pairValues value1 value2 dest
      lower (numberStatus (value1 == value2) levelDiff number1 number2)
      return .joined dest none

/-! ### Addresses -/

/-- Makes a joint object of two objects that have no counterparts, if they can stand for the same
memory. -/
def joinTargets (target1 target2 : ObjectId) : Run Progress (Option ObjectId) := do
  let object1 ← Run.demand fun progress => progress.left.object target1
  let object2 ← Run.demand fun progress => progress.right.object target2
  let progress ← Run.state
  let valid := progress.left.isValid target1
  if object1.size ≠ object2.size ∨ valid ≠ progress.right.isValid target2 then
    return none
  else
    match object1.kind.join object2.kind, progress.levels.get? object1.level object2.level with
    | some (kind, status), some level => do
        let id ← objectName target1 target2
        let object : Object := { object1 with level := level, kind := kind }
        if progress.left.isHeap target1 || progress.right.isHeap target2 then
          modifyDest fun graph => graph.addHeapObject id object
        else
          modifyDest fun graph => graph.addObject id object
        attemptDest fun graph => graph.setValid id valid
        pairObjects target1 target2 id
        lower status
        return some id
    | _, _ => return none

/-- Where two addresses lead in the destination. -/
inductive Destination where
  /-- To an object that is there. -/
  | known (object : ObjectId)
  /-- To an object that was just made, and whose fields are still to be joined. -/
  | made (object : ObjectId)

/-- The object of the destination. -/
def Destination.object : Destination → ObjectId
  | known object => object
  | made object => object

/-- Where two addresses of given objects lead in the destination.  They lead nowhere if the objects
have different counterparts, or only one of them has one. -/
def destination (target1 target2 : ObjectId) : Run Progress (Option Destination) := do
  let progress ← Run.state
  if target1.isNull && target2.isNull then
    return some (.known .null)
  else
    match progress.leftMap.object? target1, progress.rightMap.object? target2 with
    | some dest1, some dest2 => return if dest1 = dest2 then some (.known dest1) else none
    | none, none =>
        if target1.isNull || target2.isNull then
          return none
        else
          return (← joinTargets target1 target2).map .made
    | _, _ => return none

/-- The specifier of the joint address of two addresses, if there is one.  An address of every node
of a segment may be held only one level above the object. -/
def specifier? (holderLevel : Level) (object : Object) (specifier1 specifier2 : Specifier) :
    Except Fault (Option Specifier) :=
  match Specifier.join object.kind.isList specifier1 specifier2 with
  | some .all => do
      return if object.level = (← holderLevel.next) then some .all else none
  | joint => .ok joint

theorem join_of_specifier? {holderLevel : Level} {object : Object}
    {specifier1 specifier2 specifier : Specifier}
    (found : specifier? holderLevel object specifier1 specifier2 = .ok (some specifier)) :
    Specifier.join object.kind.isList specifier1 specifier2 = some specifier := by
  unfold specifier? at found
  split at found
  case h_1 all =>
    cases next : holderLevel.next with
    | error fault => simp [next, bind, Except.bind] at found
    | ok level =>
        simp only [next, bind, Except.bind, pure, Except.pure, Except.ok.injEq] at found
        split at found <;> simp_all
  case h_2 => exact Except.ok.inj found

theorem specifier?_of_ne_all {object : Object} {specifier1 specifier2 : Specifier}
    (other : Specifier.join object.kind.isList specifier1 specifier2 ≠ some .all)
    (holderLevel : Level) : specifier? holderLevel object specifier1 specifier2 =
      .ok (Specifier.join object.kind.isList specifier1 specifier2) := by
  unfold specifier?
  split
  case h_1 all => exact absurd all other
  case h_2 => rfl

/-- The joint address of two values: the address that the destination already has, unless the values
share their name. -/
def addressName (value1 value2 : ValueId) (place : Target) : Run Progress ValueId := do
  match ← Run.ask fun progress => progress.dest.addressOf? place with
  | some existing =>
      if value1 ≠ value2 then
        return existing
      else
        attemptDest fun graph => graph.addPointer ⟨value1, place⟩
        return value1
  | none =>
      let value ← valueName value1 value2
      attemptDest fun graph => graph.addPointer ⟨value, place⟩
      return value

/-- The folding that the destination offers at an object, unless it is not asked for. -/
def foldAt (setting : Setting) (object : ObjectId) : Run Progress (Option Fold) :=
  if setting.options.foldLists && !setting.identical then
    Run.ask fun progress => (Fold.startingFrom progress.dest object).head?
  else
    pure none

/-- Joins two values that are addresses of given places. -/
def joinAddresses (setting : Setting) (descend : Descend) (value1 value2 : ValueId)
    (target1 target2 : Target) (levelDiff : Int) (holderLevel : Level) :
    Run Progress ValueJoin := do
  if target1.offset ≠ target2.offset then
    noJoin setting value1 value2
  else
    match ← destination target1.object target2.object with
    | none => noJoin setting value1 value2
    | some destination => do
        let object ← Run.demand fun progress => progress.dest.object destination.object
        match ← Run.demand fun _ =>
            specifier? holderLevel object target1.specifier target2.specifier with
        | none => noJoin setting value1 value2
        | some specifier => do
            let place : Target := ⟨destination.object, target1.offset, specifier⟩
            let dest ← addressName value1 value2 place
            pairValues value1 value2 dest
            match destination with
            | .known _ => return .joined dest none
            | .made id =>
                if ← descend target1.object target2.object id levelDiff then
                  return .joined dest (← foldAt setting id)
                else
                  return .undefined false

/-! ### Values -/

/-- The joint value that a pair of values already has: two zeros have zero. -/
def jointValue? (progress : Progress) (value1 value2 : ValueId) : Option ValueId :=
  if value1.isZero && value2.isZero then some .zero else progress.joined.get? (value1, value2)

/-- Whether a value other than zero has a counterpart. -/
def hasCounterpart (map : Correspondence) (value : ValueId) : Bool :=
  !value.isZero && (map.value? value).isSome

/-- Joins two values that are held by fields of `size` bits, where `levelDiff` is by how much the
left one is nested deeper than the right one, and `holderLevel` is the level of the object of the
destination that holds the joint value. -/
def joinValuePair (setting : Setting) (descend : Descend) (value1 value2 : ValueId) (size : Nat)
    (levelDiff : Int) (holderLevel : Level) : Run Progress ValueJoin := do
  let progress ← Run.state
  match jointValue? progress value1 value2 with
  | some value => return .joined value none
  | none =>
      if hasCounterpart progress.leftMap value1 || hasCounterpart progress.rightMap value2 then
        return .undefined false
      else
        match address? progress.left value1, address? progress.right value2 with
        | none, none => joinNumbers value1 value2 size levelDiff
        | some target1, some target2 =>
            joinAddresses setting descend value1 value2 target1 target2 levelDiff holderLevel
        | _, _ => noJoin setting value1 value2

end Join

end ShapeDomain
