import ShapeDomain.Proofs.Coverage.Defs
import ShapeDomain.Proofs.Graph.Relaid

/-!
# The invariant of a join

While two plain graphs are joined, their objects and values have counterparts in the destination,
and the counterparts fit: the objects have the same sizes, an address has become an address in the
counterpart of the object that it led to, and two objects have the same counterpart only when it is
a list segment.  Each object that has been joined has been joined with one that it meets.  Where no
list nodes are folded, moreover, objects have the same counterpart exactly when they meet, and the
join goes on only as long as what meets fits.
-/

namespace ShapeDomain

namespace Graph

/-- No variable names an object. -/
def Unnamed (graph : Graph) (id : ObjectId) : Prop :=
  ∀ name, graph.named? name ≠ some id

/-- An object that has no name holds a value. -/
def HeldUnnamed (graph : Graph) (value : ValueId) : Prop :=
  ∃ holder range, graph.valueAt? holder range = some value ∧ graph.Unnamed holder

/-- Whether an object of a graph is a list segment. -/
def isList (graph : Graph) (id : ObjectId) : Bool :=
  (graph.object? id).any fun object => object.kind.isList

end Graph

namespace Join

/-- What a join starts from: two plain graphs, and how they are to be joined. -/
structure Basis where
  /-- The left graph. -/
  left : Graph
  /-- The right graph. -/
  right : Graph
  /-- How they are to be joined. -/
  setting : Setting
  /-- Where the supply stands. -/
  start : Nat
  /-- The left graph is plain. -/
  leftPlain : left.Plain start
  /-- So is the right graph. -/
  rightPlain : right.Plain start

/-- Whether list nodes may be folded. -/
def Basis.Folds (basis : Basis) : Prop :=
  basis.setting.options.foldLists = true ∧ basis.setting.identical = false

/-! ### The joined graphs -/

/-- A graph while it is joined: its layouts may be laid out anew, where values are kept, become zero
or are drawn. -/
structure Intact (start : Nat) (origin graph : Graph) (now : Nat) : Prop where
  /-- Nothing but layouts changes. -/
  relaid : origin.Relaid graph
  /-- The fields are tiled. -/
  tiled : graph.Tiled
  /-- What they hold was drawn. -/
  drawn : ∀ {object range value}, graph.valueAt? object range = some value → value.index < now
  /-- What was not drawn since is zero or was there from the beginning. -/
  old : ∀ {object range value}, graph.valueAt? object range = some value → value.index < start →
    value = .zero ∨ origin.valueAt? object range = some value
  /-- What was drawn since is held once. -/
  once : ∀ {object range other otherRange value}, graph.valueAt? object range = some value →
    graph.valueAt? other otherRange = some value → start ≤ value.index →
    object = other ∧ range = otherRange

/-! ### Counterparts -/

/-- The objects of a graph that have counterparts in the destination. -/
structure Mapped (start : Nat) (origin : Graph) (map : Correspondence) (dest : Graph) : Prop where
  /-- They are proper objects, and their counterparts have their sizes. -/
  source : ∀ {id image}, map.object? id = some image → id ≠ .null ∧ image ≠ .null ∧
    ∃ object joint, origin.object? id = some object ∧ dest.object? image = some joint ∧
      joint.size = object.size
  /-- They may be accessed if their counterparts may. -/
  valid : ∀ {id image}, map.object? id = some image → dest.isValid image = origin.isValid id
  /-- Counterparts of heap objects are part of the heap. -/
  heap : ∀ {id image}, map.object? id = some image → origin.isHeap id = true →
    dest.isHeap image = true
  /-- Only objects that are shared keep their names. -/
  shared : ∀ {id image}, map.object? id = some image → image.index < start → image = id
  /-- Two objects have the same counterpart only when it is a list segment. -/
  unique : ∀ {id other image}, map.object? id = some image → map.object? other = some image →
    id = other ∨ dest.isList image = true

/-- The counterpart of an object; NULL is its own one. -/
def image? (map : Correspondence) (id : ObjectId) : Option ObjectId :=
  if id.isNull then some .null else map.object? id

theorem image?_null (map : Correspondence) : image? map .null = some .null := rfl

theorem image?_of_proper {map : Correspondence} {id : ObjectId} (proper : id ≠ .null) :
    image? map id = map.object? id :=
  if_neg (by simpa [ObjectId.isNull] using proper)

theorem eq_null_of_image? {start : Nat} {origin dest : Graph} {map : Correspondence}
    {id : ObjectId} (mapped : Mapped start origin map dest) (isImage : image? map id = some .null) :
    id = .null := by
  by_contra proper
  rw [image?_of_proper proper] at isImage
  exact (mapped.source isImage).2.1 rfl

/-- An object whose counterpart is not NULL was mapped. -/
theorem object?_of_image? {map : Correspondence} {id image : ObjectId}
    (isImage : image? map id = some image) (proper : image ≠ .null) :
    map.object? id = some image := by
  rwa [image?_of_proper] at isImage
  rintro rfl
  exact proper (Option.some.inj isImage).symm

/-- Objects with one counterpart are the same, or else it is a list segment. -/
theorem eq_or_isList_of_image? {start : Nat} {origin dest : Graph} {map : Correspondence}
    {id other : ObjectId} (mapped : Mapped start origin map dest)
    (first : image? map id = some image) (second : image? map other = some image) :
    id = other ∨ image ≠ .null ∧ dest.isList image = true := by
  by_cases null : image = .null
  · subst null
    exact .inl ((eq_null_of_image? mapped first).trans (eq_null_of_image? mapped second).symm)
  · exact (mapped.unique (object?_of_image? first null) (object?_of_image? second null)).imp_right
      fun list => ⟨null, list⟩

/-- Objects with the same counterpart are the same, unless this is a list segment. -/
theorem eq_of_image? {start : Nat} {origin dest : Graph} {map : Correspondence}
    {id other : ObjectId} (mapped : Mapped start origin map dest)
    (region : dest.isList image = false) (first : image? map id = some image)
    (second : image? map other = some image) : id = other :=
  (eq_or_isList_of_image? mapped first second).resolve_right fun ⟨_, list⟩ => by
    simp [region] at list

theorem Mapped.hasObject {start : Nat} {origin graph : Graph} {map : Correspondence}
    {id image : ObjectId} (mapped : Mapped start origin map graph)
    (isImage : map.object? id = some image) : graph.hasObject image = true := by
  obtain ⟨-, -, -, joint, -, found, -⟩ := mapped.source isImage
  exact Graph.hasObject_of_object? found

/-- The counterpart of an object is in the destination. -/
theorem Mapped.hasObject_of_image? {start : Nat} {origin graph : Graph} {map : Correspondence}
    {id image : ObjectId} (mapped : Mapped start origin map graph) (sound : graph.Sound)
    (isImage : image? map id = some image) : graph.hasObject image = true := by
  unfold image? at isImage
  split at isImage
  case isTrue =>
    obtain rfl := Option.some.inj isImage
    exact sound.hasObject_null
  case isFalse => exact mapped.hasObject isImage

/-- Two addresses lead to the same place of objects that have the same counterpart, and so does
their joint value, if it is an address. -/
structure SamePlace (progress : Progress) (target1 target2 : Target) (value : ValueId)
    (image : ObjectId) : Prop where
  /-- The places are the same within the objects. -/
  offset : target1.offset = target2.offset
  /-- The counterpart of the left object. -/
  left : image? progress.leftMap target1.object = some image
  /-- The counterpart of the right object. -/
  right : image? progress.rightMap target2.object = some image
  /-- The joint value leads nowhere else. -/
  leads : ∀ target, progress.dest.target? value = some target →
    target.object = image ∧ target.offset = target1.offset

/-- How the targets of two values and of their joint value fit. -/
inductive Agree (progress : Progress) (value1 value2 value : ValueId) : Prop where
  /-- No one is an address. -/
  | plain : address? progress.left value1 = none → address? progress.right value2 = none →
      value = .zero ∨ progress.dest.target? value = none → Agree progress value1 value2 value
  /-- Both lead to the same place. -/
  | address {target1 target2 : Target} {image : ObjectId} :
      address? progress.left value1 = some target1 →
      address? progress.right value2 = some target2 →
      SamePlace progress target1 target2 value image → Agree progress value1 value2 value

/-- Two values have a joint value. -/
structure Joint (progress : Progress) (value1 value2 value : ValueId) : Prop where
  /-- It is in the destination. -/
  present : progress.dest.hasValue value = true
  /-- It is the counterpart of the left value. -/
  left : value1 = .zero ∨ progress.leftMap.value? value1 = some value
  /-- It is the counterpart of the right value. -/
  right : value2 = .zero ∨ progress.rightMap.value? value2 = some value
  /-- The targets fit. -/
  agree : Agree progress value1 value2 value

/-- What the left graph knows of a value that is no address covers what the right graph knows of
another one. -/
def Known (left right : Graph) (value1 value2 : ValueId) : Prop :=
  ∀ {number2}, right.number? value2 = some number2 →
    ∃ number1 size, left.number? value1 = some number1 ∧
      NumbersFit left right value1 value2 number1 number2 size

/-- A field of the destination comes from a field of each graph. -/
structure Source (progress : Progress) (image : ObjectId) (range : BitRange) (value : ValueId)
    (object1 object2 : ObjectId) (value1 value2 : ValueId) : Prop where
  /-- The object is the counterpart of the left object. -/
  left : progress.leftMap.object? object1 = some image
  /-- It is the counterpart of the right object. -/
  right : progress.rightMap.object? object2 = some image
  /-- The left object holds a value. -/
  held1 : progress.left.valueAt? object1 range = some value1
  /-- The right object holds one. -/
  held2 : progress.right.valueAt? object2 range = some value2
  /-- The object holds the joint value. -/
  joint : jointValue? progress value1 value2 = some value

/-! ### Pairs of objects -/

/-- Two objects have the same counterpart. -/
def Progress.Relates (progress : Progress) (object1 object2 : ObjectId) : Prop :=
  ∃ image, progress.leftMap.object? object1 = some image ∧
    progress.rightMap.object? object2 = some image

theorem Progress.Relates.left {progress : Progress} {object1 object2 : ObjectId}
    (relates : progress.Relates object1 object2) :
    (progress.leftMap.object? object1).isSome = true := by
  obtain ⟨image, mapped, -⟩ := relates
  exact Option.isSome_iff_exists.2 ⟨image, mapped⟩

theorem Progress.Relates.right {progress : Progress} {object1 object2 : ObjectId}
    (relates : progress.Relates object1 object2) :
    (progress.rightMap.object? object2).isSome = true := by
  obtain ⟨image, -, mapped⟩ := relates
  exact Option.isSome_iff_exists.2 ⟨image, mapped⟩

/-- The layouts of two objects are aligned with each other. -/
structure Realized (basis : Basis) (progress : Progress) (object1 object2 : ObjectId) : Prop where
  /-- The left object holds what its slots say. -/
  left : ∀ range, (slot basis.left basis.right object1 object2 range).Holds basis.start
    (basis.start ≤ ·) (progress.left.valueAt? object1 range)
  /-- So does the right object. -/
  right : ∀ range, (slot basis.right basis.left object2 object1 range).Holds basis.start
    (basis.start ≤ ·) (progress.right.valueAt? object2 range)

/-- Two objects are joined. -/
structure Settled (basis : Basis) (progress : Progress) (object1 object2 : ObjectId) : Prop where
  /-- Their layouts are aligned. -/
  realized : Realized basis progress object1 object2
  /-- What they hold has joint values. -/
  joint : ∀ {range value1 value2}, progress.left.valueAt? object1 range = some value1 →
    progress.right.valueAt? object2 range = some value2 →
    (jointValue? progress value1 value2).isSome = true
  /-- If the left graph is covered so far, then no field of the left object lost its value. -/
  whole : progress.status.leftIsCovered = true → ∀ field ∈ basis.left.fieldsOf object1,
    Alignment.losesValue
      (Alignment.boundaries (basis.left.fieldsOf object1 ++ basis.right.fieldsOf object2))
      field = false

/-- The counterpart of a pair of objects holds the joint values of what they hold, if it is still
there. -/
def Filled (progress : Progress) (pair : ObjectPair) : Prop :=
  progress.dest.hasObject pair.dest = true → ∀ {range value1 value2 value},
    progress.left.valueAt? pair.object1 range = some value1 →
    progress.right.valueAt? pair.object2 range = some value2 →
    jointValue? progress value1 value2 = some value →
    progress.dest.valueAt? pair.dest range = some value

/-- A pair of objects waits to be joined. -/
structure Waiting (basis : Basis) (progress : Progress) (pair : ObjectPair) : Prop where
  /-- The left object has its counterpart. -/
  left : progress.leftMap.object? pair.object1 = some pair.dest
  /-- So has the right object. -/
  right : progress.rightMap.object? pair.object2 = some pair.dest
  /-- The counterpart is a region. -/
  region : progress.dest.isList pair.dest = false
  /-- It holds nothing yet. -/
  empty : ∀ range, progress.dest.valueAt? pair.dest range = none
  /-- The layout of the left object is as it was. -/
  layout1 : progress.left.layout pair.object1 = basis.left.layout pair.object1
  /-- So is that of the right object. -/
  layout2 : progress.right.layout pair.object2 = basis.right.layout pair.object2

/-- A pair of objects is being joined, and its counterpart is the one it has, unless that was
folded. -/
structure Open (basis : Basis) (here : Progress × Supply) (pair : ObjectPair) : Prop where
  /-- The objects have the same counterpart. -/
  relates : here.1.Relates pair.object1 pair.object2
  /-- The name of the counterpart was drawn. -/
  early : pair.dest.index < here.2.next
  /-- If it is shared, then the object that has it has a counterpart. -/
  shared : pair.dest.index < basis.start → (here.1.leftMap.object? pair.dest).isSome = true
  /-- The counterpart is a region. -/
  present : here.1.dest.hasObject pair.dest = true →
    here.1.leftMap.object? pair.object1 = some pair.dest ∧
      here.1.rightMap.object? pair.object2 = some pair.dest ∧
      here.1.dest.isList pair.dest = false

/-- A left object is joined with an object that it meets. -/
def Partnered (basis : Basis) (progress : Progress) (object1 : ObjectId) : Prop :=
  ∃ object2, progress.Relates object1 object2 ∧ Met basis.left basis.right object1 object2 ∧
    Settled basis progress object1 object2

/-- What a join has come to: the pairs that it joins meet, and each left object that has been joined
has been joined with a right one. -/
structure Partners (basis : Basis) (path waiting : List ObjectPair) (here : Progress × Supply) :
    Prop where
  /-- Pairs that are being joined or wait meet. -/
  met : ∀ pair ∈ path ++ waiting, Met basis.left basis.right pair.object1 pair.object2
  /-- The other left objects with counterparts are joined with objects that they meet. -/
  joined : ∀ {object1}, (here.1.leftMap.object? object1).isSome = true →
    (∀ pair ∈ path ++ waiting, pair.object1 ≠ object1) → Partnered basis here.1 object1
  /-- The left graph remains covered as long as it says as much as the right one. -/
  covered : Informed basis.left basis.right → here.1.status.leftIsCovered = true

/-! ### Lost links -/

/-- The address of the start of an object has a counterpart that leads nowhere any more. -/
def Detached (origin : Graph) (map : Correspondence) (dest : Graph) (object : ObjectId) : Prop :=
  ∃ source value, origin.target? source = some ⟨object, 0, .region⟩ ∧
    map.value? source = some value ∧ dest.target? value = none

/-- Counterparts of addresses are addresses, unless they were links of nodes that were folded. -/
structure Tied (origin : Graph) (map : Correspondence) (dest : Graph) : Prop where
  /-- A counterpart leads nowhere only when an object that has no name held the address, and the
  object that it led to has become part of a list segment. -/
  lost : ∀ {source value target}, map.value? source = some value →
    address? origin source = some target → dest.target? value = none →
    (∃ image, image? map target.object = some image ∧ dest.isList image = true) ∧
      origin.HeldUnnamed source
  /-- Of two objects with the same counterpart one was folded together with a node before it. -/
  detached : ∀ {object other image}, map.object? object = some image →
    map.object? other = some image → object = other ∨ Detached origin map dest object ∨
      Detached origin map dest other

/-! ### Without folding -/

/-- What the destination knows of a joint value. -/
structure Knows (basis : Basis) (progress : Progress) (value1 value2 value : ValueId) : Prop where
  /-- The number of the left value, if both are known numbers. -/
  number : value ≠ .zero → progress.dest.number? value =
    if address? basis.left value1 = none ∧ (basis.right.number? value2).isSome = true then
      basis.left.number? value1
    else none
  /-- Zero stands for numbers that are zero. -/
  zero : value = .zero → address? basis.left value1 = none ∧ ∃ number1 number2 size,
    basis.left.number? value1 = some number1 ∧ basis.right.number? value2 = some number2 ∧
    NumbersFit basis.left basis.right value1 value2 number1 number2 size ∧
    Number.wrap number1 size false = 0
  /-- The place that both lead to. -/
  target : ∀ {target1}, address? basis.left value1 = some target1 →
    ∃ image, image? progress.leftMap target1.object = some image ∧
      progress.dest.target? value = some ⟨image, target1.offset, .region⟩
  /-- Known numbers are the same within the width of some field that holds them. -/
  agree : ∀ {number1 number2}, address? basis.left value1 = none →
    basis.left.number? value1 = some number1 → basis.right.number? value2 = some number2 →
    ∃ size, NumbersFit basis.left basis.right value1 value2 number1 number2 size

/-- What holds throughout a join that folds no list nodes: objects that meet are paired, and values
that are paired are paired once. -/
structure Exact (basis : Basis) (path waiting : List ObjectPair) (here : Progress × Supply) :
    Prop where
  /-- Objects with the same counterpart meet. -/
  met : ∀ {object1 object2 image}, here.1.leftMap.object? object1 = some image →
    here.1.rightMap.object? object2 = some image → Met basis.left basis.right object1 object2
  /-- Values with a joint value are held by objects with the same counterpart. -/
  held : ∀ {value1 value2 value}, here.1.joined.get? (value1, value2) = some value →
    ∃ object1 object2 image range, here.1.leftMap.object? object1 = some image ∧
      here.1.rightMap.object? object2 = some image ∧ (∀ pair ∈ waiting, pair.dest ≠ image) ∧
      Realized basis here.1 object1 object2 ∧
      here.1.left.valueAt? object1 range = some value1 ∧
      here.1.right.valueAt? object2 range = some value2
  /-- A joint value other than zero is that of one pair. -/
  single : ∀ {value1 value2 other1 other2 value},
    here.1.joined.get? (value1, value2) = some value →
    here.1.joined.get? (other1, other2) = some value →
    value = .zero ∨ (value1 = other1 ∧ value2 = other2)
  /-- The destination knows what both graphs know. -/
  knows : ∀ {value1 value2 value}, here.1.joined.get? (value1, value2) = some value →
    Knows basis here.1 value1 value2 value
  /-- It knows that zero is zero. -/
  zero : here.1.dest.number? .zero = some 0
  /-- What the destination knows comes from a joint value. -/
  valued : ∀ {value}, here.1.dest.hasValue value = true → value = .zero ∨
    ∃ value1 value2, here.1.joined.get? (value1, value2) = some value
  /-- Objects that are joined are settled. -/
  settled : ∀ {object1 object2 image}, here.1.leftMap.object? object1 = some image →
    here.1.rightMap.object? object2 = some image → (∀ pair ∈ path ++ waiting, pair.dest ≠ image) →
    Settled basis here.1 object1 object2
  /-- Their counterparts hold the joint values. -/
  filled : ∀ {object1 object2 image range value1 value2 value},
    here.1.leftMap.object? object1 = some image → here.1.rightMap.object? object2 = some image →
    (∀ pair ∈ path ++ waiting, pair.dest ≠ image) →
    here.1.left.valueAt? object1 range = some value1 →
    here.1.right.valueAt? object2 range = some value2 →
    jointValue? here.1 value1 value2 = some value →
    here.1.dest.valueAt? image range = some value

/-! ### The invariant -/

/-- What holds throughout a join, while the pairs of `path` are being joined and those of `waiting`
wait to be joined. -/
structure Invariant (basis : Basis) (path waiting : List ObjectPair) (here : Progress × Supply) :
    Prop where
  /-- The supply is beyond the start. -/
  started : basis.start ≤ here.2.next
  /-- The left graph changes in its layouts only. -/
  left : Intact basis.start basis.left here.1.left here.2.next
  /-- So does the right graph. -/
  right : Intact basis.start basis.right here.1.right here.2.next
  /-- No value was drawn for both graphs. -/
  separate : ∀ {object1 range1 object2 range2 value},
    here.1.left.valueAt? object1 range1 = some value →
    here.1.right.valueAt? object2 range2 = some value → value.index < basis.start
  /-- Left objects without counterparts have their layouts. -/
  untouched1 : ∀ {id}, here.1.leftMap.object? id = none →
    here.1.left.layout id = basis.left.layout id
  /-- So have right ones. -/
  untouched2 : ∀ {id}, here.1.rightMap.object? id = none →
    here.1.right.layout id = basis.right.layout id
  /-- Left objects have fitting counterparts. -/
  leftMap : Mapped basis.start basis.left here.1.leftMap here.1.dest
  /-- So have right ones. -/
  rightMap : Mapped basis.start basis.right here.1.rightMap here.1.dest
  /-- The tables of the destination fit together. -/
  dest : here.1.dest.Sound
  /-- Its objects are counterparts, and their names were drawn or are shared. -/
  objects : ∀ {id}, here.1.dest.hasObject id = true → id = .null ∨ (id.index < here.2.next ∧
    (∃ object, here.1.leftMap.object? object = some id) ∧
    ∃ object, here.1.rightMap.object? object = some id)
  /-- They are regions or list segments. -/
  kinds : ∀ {id object}, here.1.dest.object? id = some object → id ≠ .null →
    object.level = .ground ∧
      (object.kind = .region ∨ (object.kind.isList = true ∧ basis.Folds))
  /-- Its values were drawn or are shared. -/
  values : ∀ {value}, here.1.dest.hasValue value = true → value = .zero ∨
    (basis.start ≤ value.index ∧ value.index < here.2.next) ∨
    (value.index < basis.start ∧ here.1.leftMap.value? value = some value)
  /-- Left values with a counterpart have a joint value with some right value. -/
  value1 : ∀ {value1 value}, here.1.leftMap.value? value1 = some value →
    ∃ value2, here.1.joined.get? (value1, value2) = some value
  /-- Right values with a counterpart have a joint value with some left value. -/
  value2 : ∀ {value2 value}, here.1.rightMap.value? value2 = some value →
    ∃ value1, here.1.joined.get? (value1, value2) = some value
  /-- Joint values fit. -/
  joined : ∀ {value1 value2 value}, here.1.joined.get? (value1, value2) = some value →
    Joint here.1 value1 value2 value
  /-- If the left graph is covered so far, it knows what the right graph knows. -/
  known : here.1.status.leftIsCovered = true → ∀ {value1 value2 value},
    here.1.joined.get? (value1, value2) = some value → address? here.1.left value1 = none →
    Known basis.left basis.right value1 value2
  /-- The fields of regions hold joint values. -/
  contents : ∀ {id range value}, here.1.dest.valueAt? id range = some value →
    here.1.dest.isList id = false → ∃ object1 object2 value1 value2,
      Source here.1 id range value object1 object2 value1 value2
  /-- Only the ground level is needed. -/
  levels : here.1.levels = .initial
  /-- Some pairs wait. -/
  waits : ∀ pair ∈ waiting, Waiting basis here.1 pair
  /-- Some pairs are being joined. -/
  opens : ∀ pair ∈ path, Open basis here pair
  /-- What is joined meets. -/
  partners : Partners basis path waiting here
  /-- Counterparts of left addresses are addresses. -/
  tied1 : Tied basis.left here.1.leftMap here.1.dest
  /-- So are those of right addresses. -/
  tied2 : Tied basis.right here.1.rightMap here.1.dest
  /-- Without folding more is known. -/
  exact : ¬ basis.Folds → Exact basis path waiting here

end Join

end ShapeDomain
