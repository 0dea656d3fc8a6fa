import ShapeDomain.Proofs.Join.Unmapped
import ShapeDomain.Proofs.Progress.Onward
import ShapeDomain.State.Lists

/-!
# Graphs that hold one list

In a graph that holds one list, the only variable leads to the first node, each node leads to the
next one, and nothing else leads anywhere.  The variable and the nodes form the spine of the list;
what each of them holds and where it leads is read off from its place in the spine.
-/

namespace ShapeDomain

open State (headRange dataRange nextRange)

/-- A node of a list. -/
structure ListNode where
  /-- The object. -/
  object : ObjectId
  /-- Its address. -/
  address : ValueId
  /-- Its data. -/
  value : ValueId

namespace ListNode

/-- The layout of a node, with the link to the next one. -/
def layout (node : ListNode) (next : ValueId) : Layout :=
  ((∅ : Layout).insert 0 ⟨64, node.value⟩).insert 64 ⟨64, next⟩

end ListNode

/-! ### The spine -/

/-- The variable and the nodes, each one before the one that it leads to. -/
def spine (head : ObjectId) (nodes : List ListNode) : List ObjectId :=
  head :: nodes.map ListNode.object

/-- The link of an object of the spine: the address of the next one, or zero if it is the last. -/
def linkAt (nodes : List ListNode) (index : Nat) : ValueId :=
  nodes[index]?.elim .zero ListNode.address

/-- Where the link is. -/
def linkRange : (index : Nat) → BitRange
  | 0 => headRange
  | _ + 1 => nextRange

/-- The data of an object of the spine; the variable has none. -/
def dataAt? (nodes : List ListNode) : (index : Nat) → Option ValueId
  | 0 => none
  | index + 1 => nodes[index]?.map ListNode.value

variable {head object next : ObjectId} {nodes : List ListNode} {index other : Nat} {value : ValueId}
variable {range : BitRange} {node : ListNode}

theorem spine_succ : (spine head nodes)[index + 1]? = nodes[index]?.map ListNode.object := by
  simp [spine]

theorem linkAt_of_getElem? (isNode : nodes[index]? = some node) :
    linkAt nodes index = node.address := by
  rw [linkAt, isNode]
  rfl

theorem linkAt_of_length_le (last : nodes.length ≤ index) : linkAt nodes index = .zero := by
  rw [linkAt, List.getElem?_eq_none last]
  rfl

theorem lt_of_spine (isAt : (spine head nodes)[index]? = some object) : index ≤ nodes.length := by
  have bound := (List.getElem?_eq_some_iff.1 isAt).1
  simp only [spine, List.length_cons, List.length_map] at bound
  omega

namespace Graph

/-! ### Lists in a graph -/

/-- A graph has a node of a list, with the link to the next one. -/
structure HasNode (graph : Graph) (data : Option Int) (node : ListNode)
    (next : ValueId) : Prop where
  /-- It is in the heap. -/
  placed : graph.objects.get? node.object = some ⟨.region 128 "node", true, true⟩
  /-- It holds its data and the link. -/
  layout : graph.layout node.object = node.layout next
  /-- Its address leads to it. -/
  leads : graph.target? node.address = some ⟨node.object, 0, .region⟩
  /-- The data is no address. -/
  plain : graph.target? node.value = none
  /-- It is known as far as the program knows it. -/
  number : graph.number? node.value = data

/-- A graph holds one list and nothing else. -/
structure HoldsList (graph : Graph) (data : Option Int) (head : ObjectId) (nodes : List ListNode) :
    Prop where
  /-- There is one function, with one variable. -/
  stack : graph.stack = [⟨"main", (∅ : Table String ObjectId).insert "head" head⟩]
  /-- There are no global variables. -/
  globals : graph.globals = ∅
  /-- The variable is not part of the heap. -/
  placed : graph.objects.get? head = some ⟨.region 64 "head", true, false⟩
  /-- It holds the link to the first node. -/
  layout : graph.layout head = (∅ : Layout).insert 0 ⟨64, linkAt nodes 0⟩
  /-- Each node holds its data and the link to the next one. -/
  node : ∀ {index node}, nodes[index]? = some node →
    graph.HasNode data node (linkAt nodes (index + 1))
  /-- The variable and the nodes are different objects. -/
  distinct : (spine head nodes).Nodup
  /-- The data of different nodes are different values. -/
  values : (nodes.map ListNode.value).Nodup
  /-- Nothing else holds anything. -/
  only : ∀ {object range value}, graph.valueAt? object range = some value →
    object ∈ spine head nodes
  /-- Nothing else is part of the heap. -/
  heap : ∀ {object}, graph.isHeap object = true → object ∈ nodes.map ListNode.object
  /-- The zero value is the number 0 and the address of NULL. -/
  zero : graph.knowledge .zero = .zero
  /-- NULL is in the graph. -/
  null : graph.objects.get? .null = some ⟨.null, false, false⟩

namespace HoldsList

variable {graph : Graph} {data : Option Int} (list : graph.HoldsList data head nodes)

include list

theorem target?_zero : graph.target? .zero = some .null :=
  congrArg Knowledge.target list.zero

theorem number?_zero : graph.number? .zero = some 0 :=
  congrArg Knowledge.number list.zero

/-- An object of the spine is a valid region of a size that its place tells. -/
theorem get?_of_spine (isAt : (spine head nodes)[index]? = some object) :
    graph.objects.get? object = some (if index = 0 then ⟨.region 64 "head", true, false⟩
      else ⟨.region 128 "node", true, true⟩) := by
  cases index with
  | zero =>
      obtain rfl : head = object := Option.some.inj isAt
      exact list.placed
  | succ index =>
      rw [spine_succ, Option.map_eq_some_iff] at isAt
      obtain ⟨node, isNode, rfl⟩ := isAt
      exact (list.node isNode).placed

/-- What an object of the spine holds. -/
theorem valueAt?_iff (isAt : (spine head nodes)[index]? = some object) :
    graph.valueAt? object range = some value ↔
      (range = linkRange index ∧ value = linkAt nodes index) ∨
        (range = dataRange ∧ dataAt? nodes index = some value) := by
  obtain ⟨offset, size⟩ := range
  rw [valueAt?_eq_some_iff]
  cases index with
  | zero =>
      obtain rfl : head = object := Option.some.inj isAt
      rw [list.layout, Table.get?_insert]
      by_cases first : offset = 0 <;>
        simp [first, linkRange, headRange, dataAt?, eq_comm]
  | succ index =>
      rw [spine_succ, Option.map_eq_some_iff] at isAt
      obtain ⟨node, isNode, rfl⟩ := isAt
      rw [(list.node isNode).layout, ListNode.layout, Table.get?_insert, Table.get?_insert]
      by_cases second : offset = 64
      · simp [second, linkRange, nextRange, dataRange, eq_comm]
      · by_cases first : offset = 0 <;>
          simp [first, second, linkRange, nextRange, dataRange, dataAt?, isNode, eq_comm]

/-- The fields of an object of the spine: its data, if it has some, and its link. -/
theorem fieldsOf_of_spine (isAt : (spine head nodes)[index]? = some object) :
    graph.fieldsOf object = (dataAt? nodes index).toList.map (Field.mk object dataRange) ++
      [⟨object, linkRange index, linkAt nodes index⟩] := by
  cases index with
  | zero =>
      obtain rfl : head = object := Option.some.inj isAt
      rw [fieldsOf, list.layout]
      rfl
  | succ index =>
      rw [spine_succ, Option.map_eq_some_iff] at isAt
      obtain ⟨node, isNode, rfl⟩ := isAt
      rw [fieldsOf, (list.node isNode).layout, dataAt?, isNode]
      rfl

/-- All fields have the same size. -/
theorem size_of_held (held : graph.valueAt? object range = some value) : range.size = 64 := by
  obtain ⟨index, isAt⟩ := List.mem_iff_getElem?.1 (list.only held)
  rcases (list.valueAt?_iff isAt).1 held with ⟨rfl, -⟩ | ⟨rfl, -⟩
  · cases index <;> rfl
  · rfl

/-- An object has one place in the spine. -/
theorem index_unique (isAt : (spine head nodes)[index]? = some object)
    (there : (spine head nodes)[other]? = some object) : index = other := by
  have inside := (List.getElem?_eq_some_iff.1 isAt).1
  exact (List.getElem?_inj inside list.distinct).1 (isAt.trans there.symm)

/-- A value is the data of one node. -/
theorem data_unique (isData : dataAt? nodes index = some value)
    (isData' : dataAt? nodes other = some value) : index = other := by
  cases index with
  | zero => simp [dataAt?] at isData
  | succ index =>
      cases other with
      | zero => simp [dataAt?] at isData'
      | succ other =>
          rw [dataAt?, ← List.getElem?_map] at isData isData'
          have inside := (List.getElem?_eq_some_iff.1 isData).1
          rw [(List.getElem?_inj inside list.values).1 (isData.trans isData'.symm)]

/-! ### Addresses -/

theorem object_ne_null (isNode : nodes[index]? = some node) : node.object ≠ .null := by
  intro isNull
  have placed := (list.node isNode).placed
  rw [isNull, list.null] at placed
  simp [Object.null, Object.region] at placed

/-- The link of an object of the spine leads to the next one. -/
theorem address?_link : Join.address? graph (linkAt nodes index) =
    nodes[index]?.map fun node => ⟨node.object, 0, .region⟩ := by
  cases isNode : nodes[index]? with
  | none =>
      rw [linkAt, isNode]
      rfl
  | some node =>
      have leads := (list.node isNode).leads
      have proper : node.address ≠ .zero := by
        intro isZero
        rw [isZero, list.target?_zero] at leads
        exact list.object_ne_null isNode (congrArg Target.object (Option.some.inj leads)).symm
      rw [linkAt_of_getElem? isNode]
      exact Join.address?_eq_some_iff.2 ⟨proper, leads⟩

/-- Data is no address, and it is known as far as the program knows it. -/
theorem of_data (isData : dataAt? nodes index = some value) :
    value ≠ .zero ∧ Join.address? graph value = none ∧ graph.number? value = data := by
  cases index with
  | zero => simp [dataAt?] at isData
  | succ index =>
      obtain ⟨node, isNode, rfl⟩ := Option.map_eq_some_iff.1 isData
      have plain := (list.node isNode).plain
      refine ⟨fun isZero => ?_, ?_, (list.node isNode).number⟩
      · rw [isZero, list.target?_zero] at plain
        simp at plain
      · rw [Join.address?, plain]
        split <;> rfl

/-- What an object of the spine holds leads nowhere or to the next one. -/
theorem of_address (isAt : (spine head nodes)[index]? = some object) {target : Target}
    (held : graph.valueAt? object range = some value)
    (leads : Join.address? graph value = some target) :
    range = linkRange index ∧ value = linkAt nodes index ∧ target.offset = 0 ∧
      (spine head nodes)[index + 1]? = some target.object := by
  rcases (list.valueAt?_iff isAt).1 held with ⟨rfl, rfl⟩ | ⟨-, isData⟩
  · rw [list.address?_link, Option.map_eq_some_iff] at leads
    obtain ⟨node, isNode, rfl⟩ := leads
    exact ⟨rfl, rfl, rfl, by rw [spine_succ, isNode]; rfl⟩
  · rw [(list.of_data isData).2.1] at leads
    simp at leads

/-- An object leads to the one after it in the spine. -/
theorem of_leads (leads : graph.Leads object next) : ∃ index,
    (spine head nodes)[index]? = some object ∧ (spine head nodes)[index + 1]? = some next := by
  obtain ⟨range, value, target, held, isAddress, rfl⟩ := leads
  obtain ⟨index, isAt⟩ := List.mem_iff_getElem?.1 (list.only held)
  exact ⟨index, isAt, (list.of_address isAt held isAddress).2.2.2⟩

/-- A list has no rings. -/
theorem ringless : graph.Ringless := by
  refine @ringless_of_rank _ (spine head nodes).idxOf fun leads => ?_
  obtain ⟨index, here, there⟩ := list.of_leads leads
  obtain ⟨inside, rfl⟩ := List.getElem?_eq_some_iff.1 here
  obtain ⟨inside', rfl⟩ := List.getElem?_eq_some_iff.1 there
  rw [list.distinct.idxOf_getElem, list.distinct.idxOf_getElem]
  exact Nat.lt_succ_self index

end HoldsList

end Graph

end ShapeDomain
