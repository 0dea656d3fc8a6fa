import ShapeDomain.Proofs.Fold.Perform
import ShapeDomain.Proofs.Fold.Stable
import ShapeDomain.Proofs.Lists.Zeros

/-!
# Tails of lists of zeros

While lists of zeros are joined, the destination has a tail: the last node, or the segment into
which the nodes behind a holder have been folded.  A node that leads to a tail can be folded with
it, and the tail that this makes is one node longer and takes the place of the node.
-/

namespace ShapeDomain

open State (dataRange nextRange)

/-- The nodes behind a holder, folded into one object. -/
structure Tail where
  /-- The object. -/
  object : ObjectId
  /-- The address that leads to it. -/
  address : ValueId
  /-- The name that the object is shown under. -/
  label : String
  /-- The number of nodes. -/
  length : Nat

namespace Tail

/-- What stands for the nodes: a region for one, and a segment for several. -/
def shape (tail : Tail) : Object :=
  if tail.length = 1 then .region 128 tail.label
  else ⟨128, .ground, .list 0 64 none tail.length, tail.label⟩

/-- Where the address leads: to the region, or to the first node of the segment. -/
def place (tail : Tail) : Target :=
  ⟨tail.object, 0, if tail.length = 1 then .region else .first⟩

/-- A node in front of a tail can be folded with it. -/
theorem precedes_shape (tail : Tail) (label : String) :
    Fold.precedes 64 (.region 128 label) tail.shape = true := by
  unfold shape
  split <;> simp [Fold.precedes, Fold.continues, Object.region]

theorem leastLength_shape (tail : Tail) : tail.shape.kind.leastLength = tail.length := by
  unfold shape
  split
  case isTrue one => exact one.symm
  case isFalse => rfl

end Tail

/-- The layout of a node that holds zero and a link. -/
def zeroLayout (link : ValueId) : Layout :=
  ((∅ : Layout).insert 0 ⟨64, .zero⟩).insert 64 ⟨64, link⟩

namespace Graph

variable {graph before after : Graph} {node object holder : ObjectId} {tail : Tail} {label : String}
variable {link range : BitRange} {value address : ValueId} {target : Target}

/-- An object that is not in a graph has no layout. -/
theorem Sound.layout_of_absent (sound : graph.Sound) (absent : graph.hasObject object = false) :
    graph.layout object = ∅ := by
  have none : graph.layouts.get? object = none := by
    rw [← Option.not_isSome_iff_eq_none]
    intro present
    rw [sound.layouts object present] at absent
    simp at absent
  rw [Graph.layout, none]
  rfl

theorem valueAt?_of_zeroLayout (layout : graph.layout object = zeroLayout value) :
    graph.valueAt? object range =
      if range = nextRange then some value else if range = dataRange then some .zero else none := by
  obtain ⟨offset, size⟩ := range
  rw [valueAt?, layout, zeroLayout, Table.get?_insert, Table.get?_insert]
  by_cases second : offset = 64
  · simp [second, nextRange, dataRange, eq_comm]
  · by_cases first : offset = 0 <;> simp [first, second, nextRange, dataRange, eq_comm]

/-- A node cannot be folded with NULL. -/
theorem Sound.parts?_null (sound : graph.Sound) (next : Nat) :
    Fold.parts? graph ⟨node, .null, next⟩ = none := by
  cases found : Fold.parts? graph ⟨node, .null, next⟩ with
  | none => rfl
  | some parts => exact absurd rfl ((Fold.possible_of_parts? found).successor_ne_null sound)

/-! ### A node and its tail -/

/-- The folding of a node with its tail. -/
def growing (node : ObjectId) (tail : Tail) : Fold :=
  ⟨node, tail.object, 64⟩

/-- What is folded. -/
def grown (node : ObjectId) (label : String) (tail : Tail) : Fold.Parts :=
  ⟨.region 128 label, tail.shape, ⟨node, nextRange, tail.address⟩⟩

/-- A node of a graph leads to a tail, and nothing else does. -/
structure LeadsToTail (graph : Graph) (node : ObjectId) (label : String) (tail : Tail) : Prop where
  /-- The node is a region of the heap. -/
  placedNode : graph.objects.get? node = some ⟨.region 128 label, true, true⟩
  /-- The tail is in the heap. -/
  placedTail : graph.objects.get? tail.object = some ⟨tail.shape, true, true⟩
  /-- They are different objects. -/
  distinct : node ≠ tail.object
  /-- The node holds the address of the tail. -/
  nodeLayout : graph.layout node = zeroLayout tail.address
  /-- The tail holds zeros. -/
  tailLayout : graph.layout tail.object = zeroLayout .zero
  /-- The address leads to the tail. -/
  leads : graph.target? tail.address = some tail.place
  /-- No other address does. -/
  single : ∀ {value target}, graph.target? value = some target → target.object = tail.object →
    value = tail.address
  /-- No other object holds the address. -/
  once : ∀ {object range}, graph.valueAt? object range = some tail.address → object = node
  /-- The address is not zero. -/
  proper : tail.address ≠ .zero

namespace LeadsToTail

variable (leading : graph.LeadsToTail node label tail)

include leading

theorem link_held : graph.valueAt? node nextRange = some tail.address := by
  rw [valueAt?_of_zeroLayout leading.nodeLayout, if_pos rfl]

theorem range_eq_nextRange (held : graph.valueAt? node range = some tail.address) :
    range = nextRange := by
  rw [valueAt?_of_zeroLayout leading.nodeLayout] at held
  split at held
  case isTrue same => exact same
  case isFalse =>
    split at held
    · exact absurd (Option.some.inj held).symm leading.proper
    · simp at held

/-- The node can be folded with its tail. -/
theorem possible : Fold.Possible graph (growing node tail) (grown node label tail) where
  head := congrArg (Option.map Placement.object) leading.placedNode
  successor := congrArg (Option.map Placement.object) leading.placedTail
  distinct := leading.distinct
  heapHead := congrArg (Option.any Placement.heap) leading.placedNode
  heapSuccessor := congrArg (Option.any Placement.heap) leading.placedTail
  precedes := tail.precedes_shape label
  valid := (congrArg (Option.any Placement.valid) leading.placedNode).trans
    (congrArg (Option.any Placement.valid) leading.placedTail).symm
  link :=
    { member := mem_fieldsOf.2 leading.link_held
      offset := rfl
      target := ⟨_, leading.leads⟩
      pointer := length_pointersInto leading.leads leading.single
      holder := length_holders leading.link_held fun held =>
        have same := leading.once held
        ⟨same, leading.range_eq_nextRange (same ▸ held)⟩ }
  contents := by
    rw [growing, Fold.otherContents, Fold.otherContents, fieldsOf, fieldsOf, leading.nodeLayout,
      leading.tailLayout]
    rfl

/-- The folding is offered at the node. -/
theorem head?_startingFrom (sound : graph.Sound) :
    (Fold.startingFrom graph node).head? = some (growing node tail) := by
  have fields : graph.fieldsOf node =
      [⟨node, dataRange, .zero⟩, ⟨node, nextRange, tail.address⟩] := by
    rw [fieldsOf, leading.nodeLayout]
    rfl
  have found : Fold.parts? graph ⟨node, tail.object, 64⟩ = some (grown node label tail) :=
    Fold.parts?_of_possible leading.possible
  simp [Fold.startingFrom, fields, sound.zero, sound.parts?_null, leading.leads, Tail.place,
    Target.null, nextRange, found, growing]

/-- What the folding does. -/
theorem exact_folded {segment : ObjectId} (sound : graph.Sound)
    (absent : graph.hasObject segment = false) :
    Fold.Exact graph (growing node tail) (grown node label tail) segment
      (Fold.folded graph (growing node tail) (grown node label tail) segment) :=
  Fold.folded_exact (leading.possible.performable sound) absent

/-- The node still leads to its tail when another object gets a field that holds something else. -/
theorem putField {field : Field}
    (notNode : node ≠ field.object) (notTail : tail.object ≠ field.object)
    (other : field.value ≠ tail.address) : (graph.putField field).LeadsToTail node label tail where
  placedNode := leading.placedNode
  placedTail := leading.placedTail
  distinct := leading.distinct
  nodeLayout := by rw [layout_putField_of_ne notNode, leading.nodeLayout]
  tailLayout := by rw [layout_putField_of_ne notTail, leading.tailLayout]
  leads := by rw [target?_putField, leading.leads]
  single there into := leading.single (by rwa [target?_putField] at there) into
  once held := by
    rcases valueAt?_putField_iff.1 held with ⟨-, -, same⟩ | ⟨before, -⟩
    · exact absurd same.symm other
    · exact leading.once before
  proper := leading.proper

end LeadsToTail

/-! ### One more node -/

/-- The graph with one more node, which does not hold anything yet, and its address. -/
def withNode (graph : Graph) (id : ObjectId) (address : ValueId) (label : String) : Graph :=
  (graph.putPlacement id ⟨.region 128 label, true, true⟩).putPointer ⟨address, ⟨id, 0, .region⟩⟩

section Node

variable {id : ObjectId}

theorem get?_withNode (other : ObjectId) :
    (graph.withNode id address label).objects.get? other =
      if other = id then some ⟨.region 128 label, true, true⟩ else graph.objects.get? other :=
  Table.get?_insert ..

theorem hasObject_withNode (other : ObjectId) :
    (graph.withNode id address label).hasObject other =
      (decide (other = id) || graph.hasObject other) :=
  hasObject_putPlacement ..

theorem target?_withNode :
    (graph.withNode id address label).target? value =
      if value = address then some ⟨id, 0, .region⟩ else graph.target? value :=
  target?_putPointer ..

theorem hasValue_withNode :
    (graph.withNode id address label).hasValue value =
      (decide (value = address) || graph.hasValue value) :=
  hasValue_putKnowledge ..

@[simp] theorem layout_withNode (other : ObjectId) :
    (graph.withNode id address label).layout other = graph.layout other := rfl

/-- The address is in the graph already. -/
theorem addValue_withNode :
    (graph.withNode id address label).addValue address = graph.withNode id address label := by
  have bound : (graph.withNode id address label).values.get? address =
      some ((graph.withNode id address label).knowledge address) := by
    rw [knowledge, withNode, putPointer, Table.get?_insert_self]
    rfl
  rw [addValue, Table.insert_of_get?_eq bound]

theorem Sound.withNode (sound : graph.Sound) (newNode : graph.hasObject id = false)
    (proper : address ≠ .zero) : (graph.withNode id address label).Sound :=
  (sound.putNew newNode).putPointer (by rw [hasObject_putPlacement]; simp) fun zero =>
    absurd zero proper

end Node

/-! ### Hanging a tail on a holder -/

/-- A graph has got a tail, to which the link of a holder leads, and nothing else has changed. -/
structure Hangs (before : Graph) (holder : ObjectId) (link : BitRange) (tail : Tail)
    (after : Graph) : Prop where
  /-- The tail has nodes. -/
  positive : 0 < tail.length
  /-- The object was not there before. -/
  newObject : before.hasObject tail.object = false
  /-- Neither was the address. -/
  newAddress : before.hasValue tail.address = false
  /-- The tail is a valid object of the heap. -/
  objects : ∀ other, after.objects.get? other =
    if other = tail.object then some ⟨tail.shape, true, true⟩ else before.objects.get? other
  /-- It holds zeros, and the holder has got the link. -/
  layouts : ∀ other, after.layout other =
    if other = tail.object then zeroLayout .zero
    else if other = holder then
      (before.layout holder).insert link.offset ⟨link.size, tail.address⟩
    else before.layout other
  /-- The address leads to the tail. -/
  targets : ∀ value, after.target? value =
    if value = tail.address then some tail.place else before.target? value
  /-- Variables stay. -/
  stack : after.stack = before.stack
  /-- Global variables stay. -/
  globals : after.globals = before.globals

/-- A node that has got a tail leads to it. -/
theorem Hangs.leadsToTail (hangs : Hangs before node nextRange tail after) (sound : before.Sound)
    (placed : before.objects.get? node = some ⟨.region 128 label, true, true⟩)
    (data : before.layout node = (∅ : Layout).insert 0 ⟨64, .zero⟩) :
    after.LeadsToTail node label tail := by
  have distinct : node ≠ tail.object := by
    rintro rfl
    have absent := hangs.newObject
    rw [hasObject, Table.contains, placed] at absent
    simp at absent
  have proper : tail.address ≠ .zero := by
    intro zero
    have absent := hangs.newAddress
    rw [zero, sound.hasValue_zero] at absent
    simp at absent
  have tailLayout : after.layout tail.object = zeroLayout .zero := by
    rw [hangs.layouts, if_pos rfl]
  refine ⟨?_, ?_, distinct, ?_, tailLayout, ?_, fun {value target} leads into => ?_,
    fun {object range} held => ?_, proper⟩
  · rw [hangs.objects, if_neg distinct, placed]
  · rw [hangs.objects, if_pos rfl]
  · rw [hangs.layouts, if_neg distinct, if_pos rfl, data]
    rfl
  · rw [hangs.targets, if_pos rfl]
  · rw [hangs.targets] at leads
    split at leads
    case isTrue same => exact same
    case isFalse =>
      have present := sound.targets leads
      rw [into, hangs.newObject] at present
      simp at present
  · by_contra other
    by_cases isTail : object = tail.object
    · rw [isTail, valueAt?_of_zeroLayout tailLayout] at held
      split at held
      · exact proper (Option.some.inj held).symm
      · split at held
        · exact proper (Option.some.inj held).symm
        · simp at held
    · have same : after.layout object = before.layout object := by
        rw [hangs.layouts, if_neg isTail, if_neg other]
      have present := sound.values ((valueAt?_congr same range).symm.trans held)
      rw [hangs.newAddress] at present
      simp at present

section Growing

variable {id segment : ObjectId}

/-- A last node is a tail. -/
theorem hangs_last (sound : graph.Sound) (newNode : graph.hasObject id = false)
    (newAddress : graph.hasValue address = false) (other : holder ≠ id) :
    Hangs graph holder link ⟨id, address, label, 1⟩
      ((((graph.withNode id address label).putField ⟨id, dataRange, .zero⟩).putField
        ⟨id, nextRange, .zero⟩).putField ⟨holder, link, address⟩) where
  positive := Nat.one_pos
  newObject := newNode
  newAddress := newAddress
  objects object := by
    simp only [objects_putField, get?_withNode]
    rfl
  layouts object := by
    simp only [layout_putField, layout_withNode, if_neg other]
    by_cases isNode : object = id
    · subst isNode
      rw [if_neg (Ne.symm other), if_pos rfl, if_pos rfl, if_pos trivial,
        sound.layout_of_absent newNode]
      rfl
    · rw [if_neg isNode, if_neg isNode, if_neg isNode]
  targets value := by
    rw [target?_putField, target?_putField, target?_putField, target?_withNode]
    rfl
  stack := rfl
  globals := rfl

/-- The object of an absent name. -/
theorem get?_of_absent (absent : graph.hasObject object = false) :
    graph.objects.get? object = none := by
  simpa [hasObject, Table.contains] using absent

/-- A value that is not in a graph is no address. -/
theorem target?_of_absent (absent : graph.hasValue value = false) : graph.target? value = none := by
  rw [target?, knowledge_of_hasValue_eq_false absent]
  rfl

theorem segment_grown (positive : 0 < tail.length) : Fold.segment (grown node label tail) =
    Tail.shape ⟨segment, address, label, tail.length + 1⟩ := by
  have longer : tail.length + 1 ≠ 1 := by omega
  have least : Kind.leastLength (grown node label tail).successor.kind = tail.length :=
    tail.leastLength_shape
  rw [Fold.segment, least, Tail.shape, if_neg longer, Nat.add_comm 1]
  rfl

/-- A tail that hangs on a new node, in a graph in which another holder has got the address of the
node. -/
structure Grows (graph : Graph) (holder : ObjectId) (link : BitRange) (node : ObjectId)
    (address : ValueId) (label : String) (tail : Tail) (before : Graph) : Prop where
  /-- The graph is sound. -/
  sound : graph.Sound
  /-- The holder is in the graph. -/
  there : graph.hasObject holder = true
  /-- The node was not there. -/
  newNode : graph.hasObject node = false
  /-- Neither was its address. -/
  newAddress : graph.hasValue address = false
  /-- The tail hangs on the node. -/
  hangs : Hangs
    ((graph.withNode node address label).putField ⟨node, dataRange, .zero⟩) node nextRange
    tail before

namespace Grows

variable (grows : Grows graph holder link node address label tail before)

include grows

theorem tail_absent : graph.hasObject tail.object = false ∧ tail.object ≠ node := by
  have absent : (graph.withNode node address label).hasObject tail.object = false :=
    grows.hangs.newObject
  rw [hasObject_withNode, Bool.or_eq_false_iff, decide_eq_false_iff_not] at absent
  exact ⟨absent.2, absent.1⟩

theorem address_absent : graph.hasValue tail.address = false ∧ tail.address ≠ address := by
  have absent := grows.hangs.newAddress
  rw [hasValue_putField, hasValue_withNode, Bool.or_eq_false_iff, Bool.or_eq_false_iff,
    decide_eq_false_iff_not, decide_eq_false_iff_not] at absent
  exact ⟨absent.2.2, absent.2.1⟩

/-- What was in the graph is neither the node nor its tail. -/
theorem ne_of_present (present : graph.hasObject object = true) :
    object ≠ node ∧ object ≠ tail.object := by
  constructor
  · rintro rfl
    rw [grows.newNode] at present
    simp at present
  · rintro rfl
    rw [grows.tail_absent.1] at present
    simp at present

theorem get?_eq (notNode : object ≠ node) (notTail : object ≠ tail.object) :
    before.objects.get? object = graph.objects.get? object := by
  rw [grows.hangs.objects, if_neg notTail, objects_putField, get?_withNode, if_neg notNode]

theorem layout_eq (notNode : object ≠ node) (notTail : object ≠ tail.object) :
    before.layout object = graph.layout object := by
  rw [grows.hangs.layouts, if_neg notTail, if_neg notNode, layout_putField_of_ne notNode,
    layout_withNode]

theorem target?_eq : before.target? value =
    if value = tail.address then some tail.place
    else if value = address then some ⟨node, 0, .region⟩ else graph.target? value := by
  rw [grows.hangs.targets, target?_putField, target?_withNode]

section Folded

variable (soundNow : (before.putField ⟨holder, link, address⟩).Sound)
variable (leading : (before.putField ⟨holder, link, address⟩).LeadsToTail node label tail)
variable (absent : (before.putField ⟨holder, link, address⟩).hasObject segment = false)

include soundNow leading absent

theorem objects_folded (other : ObjectId) :
    (Fold.folded (before.putField ⟨holder, link, address⟩) (growing node tail)
      (grown node label tail) segment).objects.get? other =
      if other = segment then
        some ⟨Tail.shape ⟨segment, address, label, tail.length + 1⟩, true, true⟩
      else graph.objects.get? other := by
  have valid : (before.putField ⟨holder, link, address⟩).isValid node = true := by
    rw [isValid, leading.placedNode]
    rfl
  refine ((leading.exact_folded soundNow absent).objects other).trans ?_
  rw [segment_grown grows.hangs.positive, growing, valid]
  split
  case isTrue => rfl
  case isFalse =>
    split
    case isTrue removed =>
      rcases removed with rfl | rfl
      · exact (get?_of_absent grows.newNode).symm
      · exact (get?_of_absent grows.tail_absent.1).symm
    case isFalse kept =>
      obtain ⟨notNode, notTail⟩ := not_or.1 kept
      rw [objects_putField, grows.get?_eq notNode notTail]

theorem layouts_folded (other : ObjectId) :
    (Fold.folded (before.putField ⟨holder, link, address⟩) (growing node tail)
      (grown node label tail) segment).layout other =
      if other = segment then zeroLayout .zero
      else if other = holder then (graph.layout holder).insert link.offset ⟨link.size, address⟩
      else graph.layout other := by
  obtain ⟨holderNode, holderTail⟩ := grows.ne_of_present grows.there
  have held (range : BitRange) := (leading.exact_folded soundNow absent).held other range
  rw [growing] at held
  by_cases isSegment : other = segment
  · rw [if_pos isSegment, ← leading.tailLayout]
    refine layout_ext fun range => (held range).trans ?_
    rw [if_pos isSegment]
  · rw [if_neg isSegment]
    by_cases removed : other = node ∨ other = tail.object
    · have gone : graph.hasObject other = false :=
        removed.elim (fun same => same ▸ grows.newNode) fun same => same ▸ grows.tail_absent.1
      have notHolder : other ≠ holder := by
        rintro rfl
        exact removed.elim holderNode holderTail
      rw [if_neg notHolder]
      refine layout_ext fun range => (held range).trans ?_
      rw [if_neg isSegment, if_pos removed, grows.sound.valueAt?_of_absent gone]
    · obtain ⟨notNode, notTail⟩ := not_or.1 removed
      have kept := layout_ext fun range => (held range).trans
        ((if_neg isSegment).trans (if_neg removed))
      rw [growing, kept, layout_putField, grows.layout_eq holderNode holderTail,
        grows.layout_eq notNode notTail]

theorem targets_folded (value : ValueId) :
    (Fold.folded (before.putField ⟨holder, link, address⟩) (growing node tail)
      (grown node label tail) segment).target? value =
      if value = address then some (Tail.place ⟨segment, address, label, tail.length + 1⟩)
      else graph.target? value := by
  have longer : tail.length + 1 ≠ 1 := by
    have positive := grows.hangs.positive
    omega
  refine ((leading.exact_folded soundNow absent).targets value).trans ?_
  rw [target?_putField, grows.target?_eq, growing, grown]
  by_cases isLink : value = tail.address
  · have isOther : value ≠ address := isLink ▸ grows.address_absent.2
    rw [if_pos isLink, if_neg isOther, isLink, target?_of_absent grows.address_absent.1]
  · rw [if_neg isLink, if_neg isLink]
    split
    case isTrue =>
      rw [Tail.place, if_neg longer]
      simp [Fold.moveTarget, Fold.redirect]
    case isFalse =>
      cases leads : graph.target? value with
      | none => rfl
      | some target =>
          have elsewhere := (grows.ne_of_present (grows.sound.targets leads)).1
          exact congrArg some (if_neg elsewhere)

/-- A node that has been folded with its tail is a longer tail. -/
theorem folded : Hangs graph holder link ⟨segment, address, label, tail.length + 1⟩
    (Fold.folded (before.putField ⟨holder, link, address⟩) (growing node tail)
      (grown node label tail) segment) := by
  have possible : Fold.Possible (before.putField ⟨holder, link, address⟩) (growing node tail)
      (grown node label tail) := leading.possible
  have spec := Fold.folded_spec possible soundNow absent
  have newSegment : graph.hasObject segment = false := by
    cases present : graph.hasObject segment with
    | false => rfl
    | true =>
        obtain ⟨notNode, notTail⟩ := grows.ne_of_present present
        rw [hasObject, Table.contains, objects_putField, grows.get?_eq notNode notTail] at absent
        exact present.symm.trans absent
  exact
    { positive := Nat.succ_pos _
      newObject := newSegment
      newAddress := grows.newAddress
      objects := grows.objects_folded soundNow leading absent
      layouts := grows.layouts_folded soundNow leading absent
      targets := grows.targets_folded soundNow leading absent
      stack := spec.stack.trans grows.hangs.stack
      globals := spec.globals.trans grows.hangs.globals }

end Folded

end Grows

end Growing

end Graph

end ShapeDomain
