import Mathlib.Data.List.Pairwise
import ShapeDomain.Join.Object
import ShapeDomain.Proofs.Join.SameRanges
import ShapeDomain.Proofs.Join.Unmapped
import ShapeDomain.State.Lists

/-!
# Lists of zeros

In a list of zeros, every node holds zero and the address of the next node, and the last one holds
zero twice.  A variable holds the address of the first node.  The variable and the nodes have the
same form: they hold some zeros and then a link.
-/

namespace ShapeDomain

open State (headRange dataRange nextRange)

/-- A node of a list of zeros. -/
structure ZeroNode where
  /-- The object. -/
  object : ObjectId
  /-- Its address. -/
  address : ValueId
  /-- The name that the object is shown under. -/
  label : String

/-- The link that leads to some nodes: the address of the first one, or zero if there is none. -/
def linkTo : List ZeroNode → ValueId
  | [] => .zero
  | node :: _ => node.address

/-! ### Scopes -/

/-- Where a program with a single variable has it, and which functions it is in, from the outermost
one on. -/
inductive Scope where
  /-- The variable is global. -/
  | global (functions : List String)
  /-- The variable is one of a function. -/
  | inside (outer : List String) (function : String) (inner : List String)

namespace Scope

/-- The names of a scope that has one variable. -/
def single (name : String) (object : ObjectId) : Table String ObjectId :=
  (∅ : Table String ObjectId).insert name object

@[simp] theorem keys_single (name : String) (object : ObjectId) :
    (single name object).keys = [name] := rfl

/-- A function without variables. -/
def bare (function : String) : Frame :=
  ⟨function, ∅⟩

/-- The global variables. -/
def globals (name : String) (object : ObjectId) : Scope → Table String ObjectId
  | global _ => single name object
  | inside .. => ∅

/-- The running functions. -/
def frames (name : String) (object : ObjectId) : Scope → List Frame
  | global functions => functions.map bare
  | inside outer function inner =>
      outer.map bare ++ ⟨function, single name object⟩ :: inner.map bare

section Named

variable {name other : String} {object id : ObjectId} {scope : Scope} {frame : Frame}

theorem eq_of_get?_single (found : (single name object).get? other = some id) : id = object := by
  rw [single, Table.get?_insert] at found
  split at found
  · exact (Option.some.inj found).symm
  · simp at found

/-- Global variables lead to the object of the single variable. -/
theorem eq_of_global (found : (scope.globals name object).get? other = some id) : id = object := by
  cases scope with
  | global => exact eq_of_get?_single found
  | inside => simp [globals] at found

/-- So do the variables of functions. -/
theorem eq_of_local (isFrame : frame ∈ scope.frames name object)
    (found : frame.locals.get? other = some id) : id = object := by
  have none {functions : List String} (isBare : frame ∈ functions.map bare) : False := by
    obtain ⟨function, -, rfl⟩ := List.mem_map.1 isBare
    simp [bare] at found
  cases scope with
  | global functions => exact (none isFrame).elim
  | inside outer function inner =>
      rcases List.mem_append.1 isFrame with isBare | isFrame
      · exact (none isBare).elim
      · rcases List.mem_cons.1 isFrame with rfl | isBare
        · exact eq_of_get?_single found
        · exact (none isBare).elim

/-- The single variables of two programs have the same object if the programs have the same
names. -/
theorem eq_of_same_names (sameGlobals : scope.globals name object = scope.globals name id)
    (sameFrames : scope.frames name object = scope.frames name id) : object = id := by
  have same : single name object = single name id := by
    cases scope with
    | global functions => exact sameGlobals
    | inside outer function inner =>
        have tails := List.append_cancel_left sameFrames
        exact congrArg Frame.locals (List.cons.inj tails).1
  have found : (single name object).get? name = some object := Table.get?_insert_self ..
  exact eq_of_get?_single (same ▸ found)

end Named

end Scope

namespace Graph

/-! ### Holders -/

/-- The fields of an object that hold zeros. -/
def zeroFields (object : ObjectId) (zeros : List BitRange) : List Field :=
  zeros.map fun range => ⟨object, range, .zero⟩

/-- An object holds zeros and a link, and nothing else. -/
structure Holder (graph : Graph) (object : ObjectId) (placement : Placement)
    (zeros : List BitRange) (link : BitRange) (value : ValueId) : Prop where
  /-- Where the object stands. -/
  placed : graph.objects.get? object = some placement
  /-- What it holds. -/
  fields : graph.fieldsOf object = zeroFields object zeros ++ [⟨object, link, value⟩]

/-- The fields of a holder, the zeros and then the link, have bits, fit and are apart. -/
structure Form (size : Nat) (zeros : List BitRange) (link : BitRange) : Prop where
  /-- Each field has bits. -/
  positive : ∀ range ∈ zeros ++ [link], 0 < range.size
  /-- Each field fits. -/
  fits : ∀ range ∈ zeros ++ [link], range.fits size = true
  /-- The fields are apart. -/
  apart : (zeros ++ [link]).Pairwise BitRange.Apart

/-- A variable holds a link only. -/
theorem form_variable : Form 64 [] headRange := by
  refine ⟨?_, ?_, ?_⟩ <;> simp [headRange, BitRange.fits, BitRange.limit]

/-- A node holds a zero and a link. -/
theorem form_node : Form 128 [dataRange] nextRange := by
  refine ⟨?_, ?_, ?_⟩ <;>
    simp [dataRange, nextRange, BitRange.fits, BitRange.limit, BitRange.Apart]

namespace Holder

variable {graph : Graph} {object : ObjectId} {placement : Placement} {zeros : List BitRange}
variable {link range : BitRange} {value held : ValueId}
variable (holder : graph.Holder object placement zeros link value)

include holder

theorem object?_eq : graph.object? object = some placement.object := by
  rw [object?, holder.placed]
  rfl

theorem isValid_eq : graph.isValid object = placement.valid := by
  rw [isValid, holder.placed]
  rfl

theorem isHeap_eq : graph.isHeap object = placement.heap := by
  rw [isHeap, holder.placed]
  rfl

theorem valueAt?_iff : graph.valueAt? object range = some held ↔
    (range ∈ zeros ∧ held = .zero) ∨ (range = link ∧ held = value) := by
  rw [← mem_fieldsOf, holder.fields]
  simp only [zeroFields, List.mem_append, List.mem_map, List.mem_singleton,
    Field.mk.injEq, true_and]
  exact or_congr_left ⟨fun ⟨_, member, same, zero⟩ => ⟨same ▸ member, zero.symm⟩,
    fun ⟨member, zero⟩ => ⟨range, member, rfl, zero.symm⟩⟩

/-- The ranges of a holder are those of its form. -/
theorem isSome_valueAt? :
    (graph.valueAt? object range).isSome = decide (range ∈ zeros ++ [link]) := by
  rw [Bool.eq_iff_iff, Option.isSome_iff_exists, decide_eq_true_iff, List.mem_append,
    List.mem_singleton]
  simp only [holder.valueAt?_iff]
  constructor
  · rintro ⟨_, ⟨member, -⟩ | ⟨isLink, -⟩⟩
    · exact .inl member
    · exact .inr isLink
  · rintro (member | isLink)
    · exact ⟨.zero, .inl ⟨member, rfl⟩⟩
    · exact ⟨value, .inr ⟨isLink, rfl⟩⟩

theorem tiledAt (form : Form placement.object.size zeros link) :
    graph.TiledAt object placement.object.size := by
  have member {range : BitRange} {held : ValueId}
      (there : graph.valueAt? object range = some held) : range ∈ zeros ++ [link] := by
    have inside : (graph.valueAt? object range).isSome = decide (range ∈ zeros ++ [link]) :=
      holder.isSome_valueAt?
    rw [there] at inside
    exact of_decide_eq_true inside.symm
  refine ⟨⟨_, holder.object?_eq, rfl⟩, fun there => form.positive _ (member there),
    fun there => form.fits _ (member there), fun {first other _ _} here there => ?_⟩
  have : Std.Symm BitRange.Apart := ⟨fun _ _ apart => apart.symm⟩
  by_cases same : first = other
  · exact .inl same
  · exact .inr (form.apart.forall (member here) (member there) same)

end Holder

/-! ### Room for fields -/

section Room

variable {graph : Graph} {object : ObjectId} {size : Nat} {zeros rest : List BitRange}
variable {link range : BitRange}

/-- An object has place for several fields. -/
structure Roomy (graph : Graph) (object : ObjectId) (ranges : List BitRange) : Prop where
  /-- There is place for each of them. -/
  vacant : ∀ range ∈ ranges, graph.Vacant object range
  /-- They are apart. -/
  apart : ranges.Pairwise BitRange.Apart

/-- The place of a field is still free when another one was stored. -/
theorem Tiled.vacant_putField (tiled : graph.Tiled) {field : Field}
    (vacant : graph.Vacant field.object field.range) (free : graph.Vacant field.object range)
    (apart : field.range.Apart range) : (graph.putField field).Vacant field.object range where
  positive := free.positive
  fits := free.fits
  apart held := by
    rw [tiled.valueAt?_putField field vacant] at held
    split at held
    case isTrue same => exact same.2 ▸ apart
    case isFalse => exact free.apart held

/-- Places are free in graphs with the same object and the same layout. -/
theorem Vacant.congr {other : Graph} (vacant : graph.Vacant object range)
    (placed : other.objects.get? object = graph.objects.get? object)
    (layout : other.layout object = graph.layout object) : other.Vacant object range where
  positive := vacant.positive
  fits := by
    rw [object?, placed]
    exact vacant.fits
  apart held := vacant.apart ((valueAt?_congr layout _).symm.trans held)

/-- There is still place for the other fields when the first one was stored. -/
theorem Roomy.putField (roomy : graph.Roomy object (range :: rest)) (tiled : graph.Tiled)
    (value : ValueId) : (graph.putField ⟨object, range, value⟩).Roomy object rest where
  vacant other member := tiled.vacant_putField (roomy.vacant range List.mem_cons_self)
    (roomy.vacant other (List.mem_cons_of_mem _ member))
    ((List.pairwise_cons.1 roomy.apart).1 other member)
  apart := (List.pairwise_cons.1 roomy.apart).2

/-- An object that holds nothing has place for the fields of a form of its size. -/
theorem Form.roomy (form : Form size zeros link) {placed : Object}
    (found : graph.object? object = some placed) (sized : placed.size = size)
    (empty : graph.layout object = ∅) : graph.Roomy object (zeros ++ [link]) where
  vacant range member :=
    { positive := form.positive range member
      fits := ⟨placed, found, sized ▸ form.fits range member⟩
      apart := fun held => by
        rw [valueAt?, empty] at held
        simp at held }
  apart := form.apart

end Room

/-! ### Nodes -/

/-- NULL is in a graph, and zero is its address. -/
structure HasNull (graph : Graph) : Prop where
  /-- Zero leads to NULL. -/
  zero : graph.target? .zero = some .null
  /-- NULL is in the graph. -/
  null : graph.objects.get? .null = some ⟨.null, false, false⟩

/-- A graph has a node of a list of zeros, with the link to the next one. -/
structure HasZeroNode (graph : Graph) (node : ZeroNode) (next : ValueId) : Prop where
  /-- It is in the heap and holds zero and the link. -/
  holder : graph.Holder node.object ⟨.region 128 node.label, true, true⟩ [dataRange] nextRange next
  /-- Its address leads to it. -/
  leads : graph.target? node.address = some ⟨node.object, 0, .region⟩

/-- A graph has nodes, each of which leads to the next one. -/
inductive Chain (graph : Graph) : List ZeroNode → Prop where
  /-- There are no nodes. -/
  | nil : Chain graph []
  /-- There is one more node in front. -/
  | cons {node : ZeroNode} {rest : List ZeroNode} : graph.HasZeroNode node (linkTo rest) →
      (∀ later ∈ rest, later.object ≠ node.object) → Chain graph rest → Chain graph (node :: rest)

/-- A graph has a single variable, which holds a list of zeros. -/
structure HoldsZeros (graph : Graph) (scope : Scope) (name : String) (head : ObjectId)
    (nodes : List ZeroNode) : Prop where
  /-- The global variables. -/
  globals : graph.globals = scope.globals name head
  /-- The running functions. -/
  frames : graph.frames = scope.frames name head
  /-- The variable leads to the first node. -/
  holder : ∃ label, graph.Holder head ⟨.region 64 label, true, false⟩ [] headRange (linkTo nodes)
  /-- The nodes lead to each other. -/
  chain : graph.Chain nodes
  /-- Zero is the address of NULL. -/
  null : graph.HasNull
  /-- No values are known to be unequal. -/
  unrelated : graph.inequalities = ∅

section Nodes

variable {graph : Graph} {node : ZeroNode} {rest nodes : List ZeroNode} {next : ValueId}

theorem HasZeroNode.object_ne_null (isNode : graph.HasZeroNode node next) (null : graph.HasNull) :
    node.object ≠ .null := by
  intro same
  have placed := isNode.holder.placed
  rw [same, null.null] at placed
  simp [Object.null, Object.region] at placed

theorem HasZeroNode.address_ne_zero (isNode : graph.HasZeroNode node next) (null : graph.HasNull) :
    node.address ≠ .zero := by
  intro same
  have leads := isNode.leads
  rw [same, null.zero] at leads
  exact isNode.object_ne_null null (congrArg Target.object (Option.some.inj leads)).symm

theorem HasZeroNode.address?_eq (isNode : graph.HasZeroNode node next) (null : graph.HasNull) :
    Join.address? graph node.address = some ⟨node.object, 0, .region⟩ :=
  Join.address?_eq_some_iff.2 ⟨isNode.address_ne_zero null, isNode.leads⟩

/-- Nodes in different objects have different addresses. -/
theorem Chain.address_ne (chain : graph.Chain rest) (isNode : graph.HasZeroNode node next)
    (apart : ∀ later ∈ rest, later.object ≠ node.object) :
    ∀ later ∈ rest, later.address ≠ node.address := by
  induction chain with
  | nil => exact fun _ member => absurd member List.not_mem_nil
  | cons isFirst _ _ ih =>
      intro later member same
      rcases List.mem_cons.1 member with rfl | behind
      · have leads := isFirst.leads
        rw [same, isNode.leads] at leads
        exact apart later List.mem_cons_self (congrArg Target.object (Option.some.inj leads)).symm
      · exact ih (fun later member => apart later (List.mem_cons_of_mem _ member)) later behind same

/-- Links lead to the ground level. -/
theorem Chain.levelBelow (chain : graph.Chain nodes) (null : graph.HasNull) (holder : Object) :
    Join.levelBelow graph holder (linkTo nodes) = .ok .ground := by
  cases chain with
  | nil =>
      have found : graph.object .null = .ok .null := by
        rw [object_eq_ok_iff, object?, null.null]
        rfl
      simp [Join.levelBelow, linkTo, null.zero, Target.null, found, Except.map, Object.null]
  | cons isNode =>
      have found : graph.object _ = .ok _ := (graph.object_eq_ok_iff).2 isNode.holder.object?_eq
      simp [Join.levelBelow, linkTo, isNode.leads, found, Except.map, Object.region]

end Nodes

/-! ### Two lists -/

/-- Nodes in the same place of two lists, with what follows them. -/
structure Opposite (left right : Graph) (node1 node2 : ZeroNode) (rest1 rest2 : List ZeroNode) :
    Prop where
  /-- The left node leads to the next one. -/
  left : left.HasZeroNode node1 (linkTo rest1)
  /-- So does the right node. -/
  right : right.HasZeroNode node2 (linkTo rest2)
  /-- They are in different objects. -/
  objects : node1.object ≠ node2.object
  /-- They have different addresses. -/
  addresses : node1.address ≠ node2.address
  /-- The left node does not come again. -/
  later1 : ∀ later ∈ rest1, later.object ≠ node1.object
  /-- Neither does the right node. -/
  later2 : ∀ later ∈ rest2, later.object ≠ node2.object

/-- Two graphs have lists of zeros of the same length. -/
inductive Abreast (left right : Graph) : List ZeroNode → List ZeroNode → Prop where
  /-- There are no nodes. -/
  | nil : Abreast left right [] []
  /-- Both lists have one more node in front. -/
  | cons {node1 node2 : ZeroNode} {rest1 rest2 : List ZeroNode} :
      Opposite left right node1 node2 rest1 rest2 → Abreast left right rest1 rest2 →
      Abreast left right (node1 :: rest1) (node2 :: rest2)

/-- Two lists share no node. -/
def Separate (nodes1 nodes2 : List ZeroNode) : Prop :=
  ∀ node1 ∈ nodes1, ∀ node2 ∈ nodes2,
    node1.object ≠ node2.object ∧ node1.address ≠ node2.address

section Two

variable {left right : Graph} {nodes1 nodes2 : List ZeroNode}

theorem Chain.abreast (chain1 : left.Chain nodes1) (chain2 : right.Chain nodes2)
    (length : nodes1.length = nodes2.length) (separate : Separate nodes1 nodes2) :
    Abreast left right nodes1 nodes2 := by
  induction chain1 generalizing nodes2 with
  | nil =>
      obtain rfl := List.length_eq_zero_iff.1 length.symm
      exact .nil
  | cons isNode1 later1 _ ih =>
      cases chain2 with
      | nil => simp at length
      | cons isNode2 later2 chain2 =>
          obtain ⟨objects, addresses⟩ := separate _ List.mem_cons_self _ List.mem_cons_self
          exact .cons ⟨isNode1, isNode2, objects, addresses, later1, later2⟩
            (ih chain2 (Nat.succ.inj length) fun node1 member1 node2 member2 =>
              separate node1 (List.mem_cons_of_mem _ member1) node2
                (List.mem_cons_of_mem _ member2))

theorem Abreast.chainLeft (abreast : Abreast left right nodes1 nodes2) : left.Chain nodes1 := by
  induction abreast with
  | nil => exact .nil
  | cons opposite _ ih => exact .cons opposite.left opposite.later1 ih

theorem Abreast.chainRight (abreast : Abreast left right nodes1 nodes2) : right.Chain nodes2 := by
  induction abreast with
  | nil => exact .nil
  | cons opposite _ ih => exact .cons opposite.right opposite.later2 ih

end Two

end Graph

end ShapeDomain
