import ShapeDomain.Graph.Operation
import ShapeDomain.Proofs.Lists.Tails

/-!
# Building lists of zeros

A list of zeros is built node by node, the last node first, and then a variable gets the address of
the first node.  So there are lists of every length.
-/

namespace ShapeDomain

open State (headRange dataRange nextRange)

namespace Graph

variable {graph other : Graph} {node : ZeroNode} {nodes rest : List ZeroNode} {head : ObjectId}
variable {name : String} {next : ValueId} {supply : Supply}

/-- The operations that put a node in front of others. -/
def putNode (node : ZeroNode) (next : ValueId) : List Operation :=
  [.addHeapObject node.object (.region 128 node.label),
    .addPointer ⟨node.address, ⟨node.object, 0, .region⟩⟩,
    .addField ⟨node.object, dataRange, .zero⟩, .addField ⟨node.object, nextRange, next⟩]

/-- The operations that build some nodes. -/
def putNodes : List ZeroNode → List Operation
  | [] => []
  | node :: rest => putNodes rest ++ putNode node (linkTo rest)

/-- The operations that build a list and put the address of its first node into a global
variable. -/
def putList (name : String) (head : ObjectId) (nodes : List ZeroNode) : List Operation :=
  putNodes nodes ++
    [.declareGlobal name head (.region 64 name), .addField ⟨head, headRange, linkTo nodes⟩]

/-- The graph with a node in front of others. -/
def withZeroNode (graph : Graph) (node : ZeroNode) (next : ValueId) : Graph :=
  ((graph.withNode node.object node.address node.label).putField
    ⟨node.object, dataRange, .zero⟩).putField ⟨node.object, nextRange, next⟩

/-- The objects of some nodes, and NULL. -/
def objectsOf (nodes : List ZeroNode) : List ObjectId :=
  .null :: nodes.map ZeroNode.object

/-- The addresses of some nodes, and zero. -/
def addressesOf (nodes : List ZeroNode) : List ValueId :=
  .zero :: nodes.map ZeroNode.address

theorem linkTo_mem (nodes : List ZeroNode) : linkTo nodes ∈ addressesOf nodes := by
  cases nodes <;> simp [linkTo, addressesOf]

theorem get?_withZeroNode (id : ObjectId) : (graph.withZeroNode node next).objects.get? id =
    if id = node.object then some ⟨.region 128 node.label, true, true⟩
    else graph.objects.get? id := by
  rw [withZeroNode, objects_putField, objects_putField, get?_withNode]

theorem target?_withZeroNode (value : ValueId) : (graph.withZeroNode node next).target? value =
    if value = node.address then some ⟨node.object, 0, .region⟩ else graph.target? value := by
  rw [withZeroNode, target?_putField, target?_putField, target?_withNode]

/-- An operation that is not refused leads on. -/
theorem history_of_apply {operation : Operation} {operations : List Operation}
    (done : operation.apply graph = .ok other) :
    Run.history Operation.perform (operation :: operations) (graph, supply) =
      Run.history Operation.perform operations (other, supply) := by
  rw [Run.history_cons, Run.finish, Operation.perform,
    Run.attempt_apply_ok (show operation.apply (graph, supply).1 = .ok other from done)]

/-- A graph whose memory is some nodes, of a program without variables. -/
structure Holds (graph : Graph) (nodes : List ZeroNode) : Prop where
  /-- Its tables fit together. -/
  sound : graph.Sound
  /-- The nodes lead to each other. -/
  chain : graph.Chain nodes
  /-- There are no other objects. -/
  objects : ∀ id, graph.hasObject id = true → id ∈ objectsOf nodes
  /-- There are no other values. -/
  values : ∀ value, graph.hasValue value = true → value ∈ addressesOf nodes
  /-- No function is running. -/
  stack : graph.stack = []
  /-- There are no global variables. -/
  globals : graph.globals = ∅
  /-- No values are known to be unequal. -/
  unrelated : graph.inequalities = ∅

/-- Nodes stay where nothing that they hold changes. -/
theorem Chain.congr (chain : graph.Chain nodes)
    (objects : ∀ node ∈ nodes, other.objects.get? node.object = graph.objects.get? node.object)
    (layouts : ∀ node ∈ nodes, other.layout node.object = graph.layout node.object)
    (targets : ∀ node ∈ nodes, other.target? node.address = graph.target? node.address) :
    other.Chain nodes := by
  induction chain with
  | nil => exact .nil
  | cons isNode later _ ih =>
      refine .cons ⟨⟨?_, ?_⟩, ?_⟩ later (ih (fun node member => ?_) (fun node member => ?_)
        fun node member => ?_)
      · rw [objects _ List.mem_cons_self, isNode.holder.placed]
      · rw [fieldsOf, layouts _ List.mem_cons_self, ← fieldsOf, isNode.holder.fields]
      · rw [targets _ List.mem_cons_self, isNode.leads]
      · exact objects node (List.mem_cons_of_mem _ member)
      · exact layouts node (List.mem_cons_of_mem _ member)
      · exact targets node (List.mem_cons_of_mem _ member)

/-- A graph without memory has no nodes. -/
theorem holds_initial (machine : Machine) : (initial machine).Holds [] where
  sound := sound_initial machine
  chain := .nil
  objects id present := by
    rw [hasObject, Table.contains, initial, Table.get?_insert] at present
    split at present
    · simp [objectsOf, *]
    · simp at present
  values value present := by
    rw [hasValue, Table.contains, initial, Table.get?_insert] at present
    split at present
    · simp [addressesOf, *]
    · simp at present
  stack := rfl
  globals := rfl
  unrelated := rfl

section NewNode

variable (holds : graph.Holds rest) (newObject : node.object ∉ objectsOf rest)
variable (newAddress : node.address ∉ addressesOf rest)

include holds newObject

theorem Holds.absent : graph.hasObject node.object = false := by
  rw [Bool.eq_false_iff]
  exact fun present => newObject (holds.objects _ present)

omit newObject in
include newAddress in
theorem Holds.hasValue_eq_false : graph.hasValue node.address = false := by
  rw [Bool.eq_false_iff]
  exact fun present => newAddress (holds.values _ present)

/-- There is place for the fields of a new node. -/
theorem Holds.roomy : (graph.withNode node.object node.address node.label).Roomy node.object
    [dataRange, nextRange] := by
  have found : (graph.withNode node.object node.address node.label).object? node.object =
      some (.region 128 node.label) := by
    rw [object?, get?_withNode, if_pos rfl]
    rfl
  exact form_node.roomy found rfl (holds.sound.layout_of_absent (holds.absent newObject))

include newAddress

theorem Holds.sound_withNode : (graph.withNode node.object node.address node.label).Sound :=
  holds.sound.withNode (holds.absent newObject) fun zero => newAddress (by simp [addressesOf, zero])

/-- A node is put in front of others. -/
theorem Holds.withZeroNode : (graph.withZeroNode node (linkTo rest)).Holds (node :: rest) where
  sound := by
    have roomy := holds.roomy newObject
    have sound := holds.sound_withNode newObject newAddress
    exact (sound.putField (roomy.vacant dataRange List.mem_cons_self)).putField
      ((roomy.putField sound.tiled .zero).vacant nextRange List.mem_cons_self)
  chain := by
    have apart {later : ZeroNode} (member : later ∈ rest) :
      later.object ≠ node.object := fun same =>
      newObject (List.mem_cons_of_mem _ (same ▸ List.mem_map_of_mem member))
    have apart' {later : ZeroNode} (member : later ∈ rest) :
      later.address ≠ node.address := fun same =>
      newAddress (List.mem_cons_of_mem _ (same ▸ List.mem_map_of_mem member))
    refine .cons ⟨⟨?_, ?_⟩, ?_⟩ (fun later member => apart member)
      (holds.chain.congr (fun later member => ?_) (fun later member => ?_) fun later member => ?_)
    · rw [get?_withZeroNode, if_pos rfl]
    · rw [fieldsOf, Graph.withZeroNode, layout_putField, if_pos rfl, layout_putField, if_pos rfl,
        layout_withNode, holds.sound.layout_of_absent (holds.absent newObject)]
      rfl
    · rw [target?_withZeroNode, if_pos rfl]
    · rw [get?_withZeroNode, if_neg (apart member)]
    · rw [Graph.withZeroNode, layout_putField_of_ne (apart member),
        layout_putField_of_ne (apart member), layout_withNode]
    · rw [target?_withZeroNode, if_neg (apart' member)]
  objects id present := by
    have isOld := holds.objects id
    rw [hasObject, Table.contains, get?_withZeroNode] at present
    split at present
    case isTrue same => simp [objectsOf, same]
    case isFalse =>
      rcases List.mem_cons.1 (isOld present) with null | member
      · exact List.mem_cons.2 (.inl null)
      · exact List.mem_cons_of_mem _ (List.mem_cons_of_mem _ member)
  values value present := by
    have weaken (old : value ∈ addressesOf rest) : value ∈ addressesOf (node :: rest) := by
      rcases List.mem_cons.1 old with zero | member
      · exact List.mem_cons.2 (.inl zero)
      · exact List.mem_cons_of_mem _ (List.mem_cons_of_mem _ member)
    simp only [Graph.withZeroNode, hasValue_putField, hasValue_withNode, Bool.or_eq_true,
      decide_eq_true_iff] at present
    rcases present with rfl | rfl | rfl | old
    · exact weaken (linkTo_mem rest)
    · exact List.mem_cons_self
    · exact List.mem_cons_of_mem _ List.mem_cons_self
    · exact weaken (holds.values value old)
  stack := holds.stack
  globals := holds.globals
  unrelated := holds.unrelated

/-- The operations that put it there go through. -/
theorem Holds.history_putNode : Run.history Operation.perform (putNode node (linkTo rest))
    (graph, supply) = (graph.withZeroNode node (linkTo rest), supply) := by
  have absent := holds.absent newObject
  have roomy := holds.roomy newObject
  have tiled := (holds.sound_withNode newObject newAddress).tiled
  have placed : (Operation.addHeapObject node.object (.region 128 node.label)).apply graph =
      .ok (graph.putPlacement node.object ⟨.region 128 node.label, true, true⟩) :=
    congrArg Except.ok (addHeapObject_of_absent absent _)
  have addressed : (Operation.addPointer ⟨node.address, ⟨node.object, 0, .region⟩⟩).apply
      (graph.putPlacement node.object ⟨.region 128 node.label, true, true⟩) =
      .ok (graph.withNode node.object node.address node.label) :=
    addPointer_eq_ok_iff.2 ⟨by simp [hasObject_putPlacement],
      .inl (target?_of_absent (holds.hasValue_eq_false newAddress)), rfl⟩
  have zeroed : (Operation.addField ⟨node.object, dataRange, .zero⟩).apply _ = .ok _ :=
    addField_of_vacant (roomy.vacant dataRange List.mem_cons_self)
  have linked : (Operation.addField ⟨node.object, nextRange, linkTo rest⟩).apply _ = .ok _ :=
    addField_of_vacant ((roomy.putField tiled .zero).vacant nextRange List.mem_cons_self)
  rw [putNode, history_of_apply placed, history_of_apply addressed, history_of_apply zeroed,
    history_of_apply linked]
  rfl

end NewNode

/-- The operations that build some nodes go through. -/
theorem holds_putNodes (machine : Machine) (supply : Supply) (objects : (objectsOf nodes).Nodup)
    (addresses : (addressesOf nodes).Nodup) : ∃ graph,
    Run.history Operation.perform (putNodes nodes) (initial machine, supply) = (graph, supply) ∧
      graph.Holds nodes := by
  induction nodes with
  | nil => exact ⟨_, rfl, holds_initial machine⟩
  | cons node rest ih =>
      obtain ⟨newObject, restObjects⟩ := List.nodup_cons.1 ((List.Perm.swap ..).nodup_iff.1 objects)
      obtain ⟨newAddress, restAddresses⟩ :=
        List.nodup_cons.1 ((List.Perm.swap ..).nodup_iff.1 addresses)
      obtain ⟨graph, built, holds⟩ := ih restObjects restAddresses
      refine ⟨graph.withZeroNode node (linkTo rest), ?_, holds.withZeroNode newObject newAddress⟩
      rw [putNodes, Run.history_append, built, holds.history_putNode newObject newAddress]

/-- The operations that build a list end in a graph that holds it. -/
theorem holdsZeros_putList (machine : Machine) (supply : Supply) (name : String)
    (objects : (objectsOf nodes).Nodup) (addresses : (addressesOf nodes).Nodup)
    (newHead : head ∉ objectsOf nodes) :
    (Run.history Operation.perform (putList name head nodes) (initial machine, supply)).1.HoldsZeros
      (.global []) name head nodes := by
  obtain ⟨graph, built, holds⟩ := holds_putNodes machine supply objects addresses
  have absent : graph.hasObject head = false := by
    rw [Bool.eq_false_iff]
    exact fun present => newHead (holds.objects _ present)
  let declared := (graph.putPlacement head ⟨.region 64 name, true, false⟩).withNames graph.stack
    (graph.globals.insert name head)
  have first : (Operation.declareGlobal name head (.region 64 name)).apply graph =
    .ok declared := by
    show Except.ok _ = _
    rw [declareGlobal, addObject_of_absent absent]
    rfl
  have empty : declared.layout head = ∅ := holds.sound.layout_of_absent absent
  have found : declared.object? head = some (.region 64 name) :=
    (object?_putPlacement ..).trans (if_pos rfl)
  have second : (Operation.addField ⟨head, headRange, linkTo nodes⟩).apply declared =
      .ok (declared.putField ⟨head, headRange, linkTo nodes⟩) :=
    addField_of_vacant ((form_variable.roomy found rfl empty).vacant headRange List.mem_cons_self)
  have result : Run.history Operation.perform (putList name head nodes) (initial machine, supply) =
      (declared.putField ⟨head, headRange, linkTo nodes⟩, supply) := by
    rw [putList, Run.history_append, built, history_of_apply first, history_of_apply second]
    rfl
  rw [result]
  have other {node : ZeroNode} (member : node ∈ nodes) : node.object ≠ head := fun same =>
    newHead (List.mem_cons_of_mem _ (same ▸ List.mem_map_of_mem member))
  have proper : ObjectId.null ≠ head := fun same => newHead (same ▸ List.mem_cons_self)
  refine ⟨?_, ?_, ⟨name, ?_, ?_⟩, holds.chain.congr (fun node member => ?_) (fun node member => ?_)
    (fun node member => ?_), ⟨?_, ?_⟩, holds.unrelated⟩
  · exact congrArg (Table.insert · name head) holds.globals
  · exact congrArg List.reverse holds.stack
  · exact Table.get?_insert_self ..
  · rw [fieldsOf, layout_putField, if_pos rfl, empty]
    rfl
  · exact Table.get?_insert_of_ne _ (other member) _
  · rw [layout_putField_of_ne (other member)]
    rfl
  · exact target?_putField ..
  · exact (target?_putField ..).trans holds.sound.zero
  · exact (Table.get?_insert_of_ne _ proper _).trans holds.sound.null

/-! ### Lists of every length -/

/-- The nodes of a list of a given length, whose names are those from `next` on. -/
def zeroNodes (next : Nat) : (length : Nat) → List ZeroNode
  | 0 => []
  | length + 1 =>
      ⟨⟨next + 2 * length⟩, ⟨next + 2 * length + 1⟩, "node"⟩ :: zeroNodes next length

variable {start later length : Nat}

@[simp] theorem length_zeroNodes : (zeroNodes start length).length = length := by
  induction length with
  | zero => rfl
  | succ length ih => rw [zeroNodes, List.length_cons, ih]

/-- The names of the nodes are those from `start` on. -/
theorem of_mem_zeroNodes (member : node ∈ zeroNodes start length) :
    (start ≤ node.object.index ∧ node.object.index < start + 2 * length) ∧
      start ≤ node.address.index ∧ node.address.index < start + 2 * length := by
  induction length with
  | zero => exact absurd member List.not_mem_nil
  | succ length ih =>
      rcases List.mem_cons.1 member with rfl | behind
      · show (start ≤ start + 2 * length ∧ start + 2 * length < start + 2 * (length + 1)) ∧
          start ≤ start + 2 * length + 1 ∧ start + 2 * length + 1 < start + 2 * (length + 1)
        omega
      · obtain ⟨⟨least, object⟩, least', address⟩ := ih behind
        exact ⟨⟨least, by omega⟩, least', by omega⟩

/-- The nodes have different names. -/
theorem pairwise_zeroNodes : (zeroNodes start length).Pairwise fun node behind =>
    behind.object ≠ node.object ∧ behind.address ≠ node.address := by
  induction length with
  | zero => exact .nil
  | succ length ih =>
      refine .cons (fun behind member => ?_) ih
      obtain ⟨⟨-, object⟩, -, address⟩ := of_mem_zeroNodes member
      refine ⟨fun same => ?_, fun same => ?_⟩
      · rw [same] at object
        exact Nat.lt_irrefl _ object
      · rw [same] at address
        exact absurd address (Nat.not_lt_of_le (Nat.le_succ _))

theorem nodup_objectsOf_zeroNodes (positive : 0 < start) :
    (objectsOf (zeroNodes start length)).Nodup := by
  refine List.nodup_cons.2 ⟨fun member => ?_,
    List.pairwise_map.2 (pairwise_zeroNodes.imp fun apart same => apart.1 same.symm)⟩
  obtain ⟨node, isNode, same⟩ := List.mem_map.1 member
  have least := (of_mem_zeroNodes isNode).1.1
  rw [same] at least
  exact Nat.not_le_of_lt positive least

theorem nodup_addressesOf_zeroNodes (positive : 0 < start) :
    (addressesOf (zeroNodes start length)).Nodup := by
  refine List.nodup_cons.2 ⟨fun member => ?_,
    List.pairwise_map.2 (pairwise_zeroNodes.imp fun apart same => apart.2 same.symm)⟩
  obtain ⟨node, isNode, same⟩ := List.mem_map.1 member
  have least := (of_mem_zeroNodes isNode).2.1
  rw [same] at least
  exact Nat.not_le_of_lt positive least

/-- A list of zeros of a given length, which the global variable `x` holds.  Its names are those
from `start` on. -/
def zeroList (machine : Machine) (start length : Nat) : Graph :=
  (Run.history Operation.perform (putList "x" ⟨start + 2 * length⟩ (zeroNodes start length))
    (initial machine, .full)).1

/-- There are lists of every length. -/
theorem holdsZeros_zeroList (machine : Machine) (positive : 0 < start) :
    (zeroList machine start length).HoldsZeros (.global []) "x" ⟨start + 2 * length⟩
      (zeroNodes start length) := by
  refine holdsZeros_putList machine .full "x" (nodup_objectsOf_zeroNodes positive)
    (nodup_addressesOf_zeroNodes positive) fun member => ?_
  rcases List.mem_cons.1 member with null | member
  · exact absurd (congrArg ObjectId.index null) (Nat.ne_of_gt (Nat.lt_of_lt_of_le positive
      (Nat.le_add_right ..)))
  · obtain ⟨node, isNode, same⟩ := List.mem_map.1 member
    have bound := (of_mem_zeroNodes isNode).1.2
    rw [same] at bound
    exact Nat.lt_irrefl _ bound

/-- Lists with different names are separate. -/
theorem separate_zeroNodes {length' : Nat} (after : start + 2 * length ≤ later) :
    Separate (zeroNodes start length) (zeroNodes later length') := by
  intro node1 isNode1 node2 isNode2
  obtain ⟨⟨-, object1⟩, -, address1⟩ := of_mem_zeroNodes isNode1
  obtain ⟨⟨object2, -⟩, address2, -⟩ := of_mem_zeroNodes isNode2
  refine ⟨fun same => ?_, fun same => ?_⟩
  · rw [same] at object1
    omega
  · rw [same] at address1
    omega

end Graph

end ShapeDomain
