import ShapeDomain.Proofs.Lists.Defs
import ShapeDomain.Proofs.State.Locals
import ShapeDomain.Proofs.State.Memory

/-!
# Programs build lists

A program that pushes nodes in front of a list ends in a graph that holds the list and nothing else.
So nothing is garbage, and nothing was found on the way.
-/

namespace ShapeDomain

open State (headRange dataRange nextRange)

namespace Graph

variable {graph : Graph} {start : Nat} {head : ObjectId} {link value : ValueId} {data : Option Int}
variable {nodes : List ListNode}

/-- The graph in which a value is a number, as far as that is known. -/
def numbering (graph : Graph) (value : ValueId) (data : Option Int) : Graph :=
  data.elim graph (graph.setNumber value)

theorem numbering_fields : (graph.numbering value data).objects = graph.objects ∧
    (graph.numbering value data).layouts = graph.layouts ∧
    (graph.numbering value data).stack = graph.stack ∧
    (graph.numbering value data).globals = graph.globals := by
  cases data <;> exact ⟨rfl, rfl, rfl, rfl⟩

theorem knowledge_numbering (nothing : graph.knowledge value = .nothing) (other : ValueId) :
    (graph.numbering value data).knowledge other =
      if other = value then ⟨data, none⟩ else graph.knowledge other := by
  cases data with
  | none =>
      split
      case isTrue same => rw [same]; exact nothing
      case isFalse => rfl
  | some number =>
      simp only [numbering, Option.elim, setNumber, nothing]
      rw [knowledge, Table.get?_insert]
      split <;> rfl

theorem Plain.numbering (plain : graph.Plain start) (early : value.index < start) :
    (graph.numbering value data).Plain start := by
  cases data with
  | none => exact plain
  | some number => exact plain.setNumber early number

/-- The node that is made of the next three names. -/
def nodeAt (start : Nat) : ListNode := ⟨⟨start⟩, ⟨start + 1⟩, ⟨start + 2⟩⟩

/-- The graph in which a node has been put in front of a list. -/
def pushing (graph : Graph) (start : Nat) (data : Option Int) (head : ObjectId) (link : ValueId) :
    Graph :=
  ((((graph.allocating start 128 "node").numbering ⟨start + 2⟩ data).writing ⟨start⟩ dataRange
    ⟨start + 2⟩).writing ⟨start⟩ nextRange link).replacing head headRange link ⟨start + 1⟩

theorem get?_pushing (id : ObjectId) : (graph.pushing start data head link).objects.get? id =
    if id = ⟨start⟩ then some ⟨.region 128 "node", true, true⟩ else graph.objects.get? id := by
  rw [pushing, objects_replacing, objects_writing, objects_writing, numbering_fields.1,
    get?_allocating]

theorem names_pushing : (graph.pushing start data head link).stack = graph.stack ∧
    (graph.pushing start data head link).globals = graph.globals := by
  have names := @numbering_fields (graph.allocating start 128 "node") ⟨start + 2⟩ data
  exact ⟨(names_replacing _).1.trans names.2.2.1, (names_replacing _).2.trans names.2.2.2⟩

theorem knowledge_pushing (plain : graph.Plain start) (value : ValueId) :
    (graph.pushing start data head link).knowledge value =
      if value = ⟨start + 1⟩ then ⟨none, some ⟨⟨start⟩, 0, .region⟩⟩
      else if value = ⟨start + 2⟩ then ⟨data, none⟩ else graph.knowledge value := by
  have late {index : Nat} (after : start ≤ index) : graph.knowledge ⟨index⟩ = .nothing :=
    plain.knowledge_of_late after
  have unknown : (graph.allocating start 128 "node").knowledge ⟨start + 2⟩ = .nothing := by
    rw [knowledge_allocating, if_neg (by simp), late (by omega)]
  rw [pushing, knowledge_replacing, knowledge_writing, knowledge_writing,
    knowledge_numbering unknown, knowledge_allocating, late (by omega)]
  by_cases isAddress : value = ⟨start + 1⟩
  · rw [if_pos isAddress, if_pos isAddress, if_neg (by simp [isAddress])]
    rfl
  · rw [if_neg isAddress, if_neg isAddress]

theorem layout_pushing (bare : graph.layout ⟨start⟩ = ∅) (distinct : head ≠ ⟨start⟩)
    (only : graph.layout head = (∅ : Layout).insert 0 ⟨64, link⟩) (id : ObjectId) :
    (graph.pushing start data head link).layout id =
      if id = head then (∅ : Layout).insert 0 ⟨64, ⟨start + 1⟩⟩
      else if id = ⟨start⟩ then (nodeAt start).layout link else graph.layout id := by
  have same (id : ObjectId) :
      ((graph.allocating start 128 "node").numbering ⟨start + 2⟩ data).layout id =
        graph.layout id := by
    rw [Graph.layout, numbering_fields.2.1]
    rfl
  rw [pushing, layout_replacing]
  · rw [layout_writing, layout_writing, layout_writing, if_pos rfl, same, same, bare]
    by_cases isNode : id = ⟨start⟩
    · rw [if_pos isNode, if_pos isNode]
      rfl
    · rw [if_neg isNode, if_neg isNode, if_neg isNode]
      rfl
  · rw [layout_writing, if_neg distinct, layout_writing, if_neg distinct, same, only]
    rfl

/-! ### Longer lists -/

theorem HasNode.congr {next : Graph} {node : ListNode} (isNode : graph.HasNode data node link)
    (objects : next.objects.get? node.object = graph.objects.get? node.object)
    (layout : next.layout node.object = graph.layout node.object)
    (address : next.knowledge node.address = graph.knowledge node.address)
    (value : next.knowledge node.value = graph.knowledge node.value) :
    next.HasNode data node link where
  placed := objects.trans isNode.placed
  layout := layout.trans isNode.layout
  leads := (congrArg Knowledge.target address).trans isNode.leads
  plain := (congrArg Knowledge.target value).trans isNode.plain
  number := (congrArg Knowledge.number value).trans isNode.number

namespace Plain

variable (plain : graph.Plain start)

include plain

theorem ne_of_get? {id : ObjectId} {placement : Placement}
    (found : graph.objects.get? id = some placement) : id ≠ ⟨start⟩ := by
  rintro rfl
  have absent := plain.absent
  rw [hasObject_iff_get?.2 ⟨placement, found⟩] at absent
  simp at absent

theorem address_lt {target : Target} (leads : graph.target? value = some target) :
    value.index < start := by
  refine Nat.lt_of_not_le fun late => ?_
  rw [target?, plain.knowledge_of_late late] at leads
  simp [Knowledge.nothing] at leads

theorem data_lt {node : ListNode} (isNode : graph.HasNode data node link) :
    node.value.index < start := by
  have held : graph.valueAt? node.object dataRange = some node.value := by
    rw [valueAt?_eq_some_iff, isNode.layout]
    rfl
  exact plain.held_lt held

/-- What was known of a value stays known. -/
theorem knowledge_pushing_of_lt (before : value.index < start) :
    (graph.pushing start data head link).knowledge value = graph.knowledge value := by
  have other {index : Nat} (after : start ≤ index) : value ≠ ⟨index⟩ := by
    rintro rfl
    exact Nat.not_lt.2 after before
  rw [knowledge_pushing plain, if_neg (other (by omega)), if_neg (other (by omega))]

end Plain

namespace HoldsList

variable (list : graph.HoldsList data head nodes) (plain : graph.Plain start)

include list plain

theorem not_mem_spine : ⟨start⟩ ∉ spine head nodes := fun member => by
  obtain ⟨index, isAt⟩ := List.mem_iff_getElem?.1 member
  exact plain.ne_of_get? (list.get?_of_spine isAt) rfl

theorem layout_pushing (id : ObjectId) :
    (graph.pushing start data head (linkAt nodes 0)).layout id =
      if id = head then (∅ : Layout).insert 0 ⟨64, ⟨start + 1⟩⟩
      else if id = ⟨start⟩ then (nodeAt start).layout (linkAt nodes 0) else graph.layout id :=
  Graph.layout_pushing plain.layout_of_next (plain.ne_of_get? list.placed) list.layout id

/-- The new node leads to the one that was the first. -/
theorem hasNode_pushing :
    (graph.pushing start data head (linkAt nodes 0)).HasNode data (nodeAt start)
    (linkAt nodes 0) where
  placed := (get?_pushing _).trans (if_pos rfl)
  layout := by
    refine (list.layout_pushing plain ⟨start⟩).trans ?_
    rw [if_neg (plain.ne_of_get? list.placed).symm]
    exact if_pos rfl
  leads := by
    rw [target?, knowledge_pushing plain]
    exact congrArg Knowledge.target (if_pos rfl)
  plain := by
    rw [target?, knowledge_pushing plain, if_neg (by simp [nodeAt])]
    exact congrArg Knowledge.target (if_pos rfl)
  number := by
    rw [number?, knowledge_pushing plain, if_neg (by simp [nodeAt])]
    exact congrArg Knowledge.number (if_pos rfl)

/-- The other nodes stay as they are. -/
theorem hasNode_of_pushing {index : Nat} {node : ListNode} (isNode : nodes[index]? = some node) :
    (graph.pushing start data head (linkAt nodes 0)).HasNode data node
      (linkAt nodes (index + 1)) := by
  have there := list.node isNode
  have member : node.object ∈ nodes.map ListNode.object :=
    List.mem_map_of_mem (List.mem_of_getElem? isNode)
  have other : node.object ≠ ⟨start⟩ := plain.ne_of_get? there.placed
  have notHead : node.object ≠ head := by
    rintro same
    exact (List.nodup_cons.1 list.distinct).1 (same ▸ member)
  refine there.congr ?_ ?_ (plain.knowledge_pushing_of_lt (plain.address_lt there.leads))
    (plain.knowledge_pushing_of_lt (plain.data_lt there))
  · rw [get?_pushing, if_neg other]
  · rw [list.layout_pushing plain, if_neg notHead, if_neg other]

/-- A node that is put in front of a list makes a longer list. -/
theorem pushing :
    (graph.pushing start data head (linkAt nodes 0)).HoldsList data head
      (nodeAt start :: nodes) where
  stack := names_pushing.1.trans list.stack
  globals := names_pushing.2.trans list.globals
  placed := by
    rw [get?_pushing, if_neg (plain.ne_of_get? list.placed)]
    exact list.placed
  layout := (list.layout_pushing plain head).trans (if_pos rfl)
  node {index node} isNode := by
    cases index with
    | zero =>
        obtain rfl : nodeAt start = node := Option.some.inj isNode
        exact list.hasNode_pushing plain
    | succ index => exact list.hasNode_of_pushing plain isNode
  distinct := by
    have absent := list.not_mem_spine plain
    obtain ⟨notHead, distinct⟩ := List.nodup_cons.1 list.distinct
    rw [spine, List.mem_cons, not_or] at absent
    refine List.nodup_cons.2 ⟨?_, List.nodup_cons.2 ⟨absent.2, distinct⟩⟩
    exact List.not_mem_cons_of_ne_of_not_mem (plain.ne_of_get? list.placed) notHead
  values := by
    refine List.nodup_cons.2 ⟨fun member => ?_, list.values⟩
    obtain ⟨node, isMember, same⟩ := List.mem_map.1 member
    obtain ⟨index, isNode⟩ := List.mem_iff_getElem?.1 isMember
    have early := plain.data_lt (list.node isNode)
    rw [same] at early
    exact Nat.not_lt.2 (Nat.le_add_right start 2) early
  only {object range value} held := by
    rw [valueAt?_eq_some_iff, list.layout_pushing plain] at held
    by_cases isHead : object = head
    · exact List.mem_cons.2 (.inl isHead)
    by_cases isNew : object = ⟨start⟩
    · exact List.mem_cons_of_mem _ (List.mem_cons.2 (.inl isNew))
    · rw [if_neg isHead, if_neg isNew, ← valueAt?_eq_some_iff] at held
      have member := (List.mem_cons.1 (list.only held)).resolve_left isHead
      exact List.mem_cons_of_mem _ (List.mem_cons_of_mem _ member)
  heap {object} isHeap := by
    rw [Graph.isHeap, get?_pushing] at isHeap
    by_cases isNew : object = ⟨start⟩
    · exact List.mem_cons.2 (.inl isNew)
    · rw [if_neg isNew] at isHeap
      exact List.mem_cons_of_mem _ (list.heap isHeap)
  zero := (plain.knowledge_pushing_of_lt plain.positive).trans list.zero
  null := by
    rw [get?_pushing, if_neg (plain.ne_of_get? list.null)]
    exact list.null

end HoldsList

end Graph

namespace State

variable {state : State} {start : Nat} {head : ObjectId} {link : ValueId} {here : State × Supply}
variable {data : Option Int} {nodes : List ListNode}

/-- A node is filled and becomes the first one. -/
theorem fill_apply (plain : state.graph.Plain (start + 3))
    (placed : state.graph.objects.get? ⟨start⟩ = some ⟨.region 128 "node", true, true⟩)
    (bare : state.graph.layout ⟨start⟩ = ∅)
    (isHead : state.graph.objects.get? head = some ⟨.region 64 "head", true, false⟩)
    (only : state.graph.layout head = (∅ : Layout).insert 0 ⟨64, link⟩) :
    let filled := ((state.graph.writing ⟨start⟩ dataRange ⟨start + 2⟩).writing ⟨start⟩ nextRange
      link).replacing head headRange link ⟨start + 1⟩
    (do
      write ⟨start⟩ dataRange ⟨start + 2⟩
      let next ← read head headRange
      write ⟨start⟩ nextRange next
      write head headRange ⟨start + 1⟩ : Run State Unit) (state, ⟨start + 3⟩) =
        .ok () ({ state with graph := filled }, ⟨start + 3⟩) ∧ filled.Plain (start + 3) := by
  have distinct : head ≠ ⟨start⟩ := by
    rintro rfl
    rw [placed] at isHead
    simp [Object.region] at isHead
  have isLink : state.graph.valueAt? head headRange = some link :=
    Graph.valueAt?_eq_some_iff.2 (by rw [only]; rfl)
  have early : link.index < start + 3 := plain.held_lt isLink
  have isObject : state.graph.object? ⟨start⟩ = some (.region 128 "node") := by
    rw [Graph.object?, placed]
    rfl
  -- The data.
  let first := state.graph.writing ⟨start⟩ dataRange ⟨start + 2⟩
  obtain ⟨written1, plain1⟩ :=
    @write_of_vacant (state, ⟨start + 3⟩) ⟨start⟩ dataRange ⟨start + 2⟩ plain
    (mayAccess_of_region placed (by decide)) (Nat.lt_succ_self _)
    (Graph.vacant_of_bare placed bare (by decide) (by decide))
  refine And.imp_left (Run.bind_apply_ok written1).trans ?_
  -- The link.
  have layout1 (id : ObjectId) : first.layout id =
      if id = ⟨start⟩ then (∅ : Layout).insert 0 ⟨64, ⟨start + 2⟩⟩ else state.graph.layout id := by
    rw [Graph.layout_writing, bare]
    rfl
  have only1 : first.layout head = (∅ : Layout).insert 0 ⟨64, link⟩ := by
    rw [layout1, if_neg distinct, only]
  have held1 : first.valueAt? head headRange = some link :=
    (Graph.valueAt?_of_only only1).2 ⟨rfl, rfl⟩
  have read1 := @read_apply ({ state with graph := first }, ⟨start + 3⟩) head headRange link
    (mayAccess_of_region isHead (by decide)) held1
  refine And.imp_left (Run.bind_apply_ok read1).trans ?_
  let second := first.writing ⟨start⟩ nextRange link
  obtain ⟨written2, plain2⟩ := @write_of_vacant ({ state with graph := first }, ⟨start + 3⟩) ⟨start⟩
    nextRange link plain1 (mayAccess_of_region placed (by decide)) early <| by
      refine ⟨by decide, ⟨_, isObject, by decide⟩, fun held => ?_⟩
      obtain ⟨rfl, -⟩ := (@Graph.valueAt?_of_only first ⟨start⟩ dataRange ⟨start + 2⟩
        (by rw [layout1, if_pos rfl]; rfl) _ _).1 held
      exact .inl (by decide)
  refine And.imp_left (Run.bind_apply_ok written2).trans ?_
  -- The head.
  have only2 : second.layout head = (∅ : Layout).insert 0 ⟨64, link⟩ := by
    rw [Graph.layout_writing, if_neg distinct, only1]
  exact @write_of_only ({ state with graph := second }, ⟨start + 3⟩) head headRange
    ⟨start + 1⟩ plain2
    (mayAccess_of_region isHead (by decide)) (by simp) link only2

/-- To push a node is to put it in front of the list. -/
theorem pushNode_apply {number : Option Int64} (plain : here.1.graph.Plain here.2.next)
    (list : here.1.graph.HoldsList (number.map Int64.toInt) head nodes) :
    let pushed := here.1.graph.pushing here.2.next (number.map Int64.toInt) head (linkAt nodes 0)
    pushNode head number here =
        .ok () ({ here.1 with graph := pushed }, ⟨here.2.next + 3⟩) ∧
      pushed.Plain (here.2.next + 3) := by
  let start := here.2.next
  let made := here.1.graph.allocating start 128 "node"
  obtain ⟨allocated, plain1⟩ := allocate_apply plain 128 "node"
  have known : made.target? ⟨start + 1⟩ = some ⟨⟨start⟩, 0, .region⟩ := by
    rw [Graph.target?, Graph.knowledge_allocating, if_pos rfl]
  have isPlace : placeOf { here.1 with graph := made } ⟨start + 1⟩ = some (⟨start⟩, 0) := by
    rw [placeOf, known]
    rfl
  have plain2 : made.Plain (start + 3) := plain1.later (Nat.le_succ _)
  unfold pushNode
  refine And.imp_left (Run.bind_apply_ok allocated).trans ?_
  refine And.imp_left (Run.bind_apply_ok (Run.ask_apply _ _)).trans ?_
  rw [isPlace]
  refine And.imp_left (Run.bind_apply_ok (Run.draw_valueId_apply _)).trans ?_
  let numbered := made.numbering ⟨start + 2⟩ (number.map Int64.toInt)
  have distinct : head ≠ ⟨start⟩ := plain.ne_of_get? list.placed
  have objects : numbered.objects = made.objects := Graph.numbering_fields.1
  have layout (id : ObjectId) : numbered.layout id = here.1.graph.layout id := by
    rw [Graph.layout, Graph.numbering_fields.2.1]
    rfl
  have filled := @fill_apply { here.1 with graph := numbered } start head (linkAt nodes 0)
    (plain2.numbering (Nat.lt_succ_self _))
    (by rw [objects, Graph.get?_allocating, if_pos rfl])
    (by rw [layout, plain.layout_of_next])
    (by rw [objects, Graph.get?_allocating, if_neg distinct, list.placed])
    (by rw [layout, list.layout])
  cases number <;> exact filled

/-- To push nodes is to put as many in front of the list. -/
theorem pushNodes_apply {number : Option Int64} (length : Nat)
    (plain : here.1.graph.Plain here.2.next)
    (list : here.1.graph.HoldsList (number.map Int64.toInt) head nodes) :
    ∃ graph now longer, pushNodes head number length here =
        .ok () ({ here.1 with graph := graph }, now) ∧ graph.Plain now.next ∧
      graph.HoldsList (number.map Int64.toInt) head longer ∧
      longer.length = length + nodes.length := by
  induction length generalizing here nodes with
  | zero => exact ⟨_, _, nodes, rfl, plain, list, (Nat.zero_add _).symm⟩
  | succ length ih =>
      obtain ⟨pushed, plain'⟩ := pushNode_apply plain list
      obtain ⟨graph, now, longer, done, isPlain, holds, count⟩ :=
        @ih ({ here.1 with graph := _ }, ⟨_⟩) _
        plain' (list.pushing plain)
      refine ⟨graph, now, longer, (Run.bind_apply_ok pushed).trans done, isPlain, holds, ?_⟩
      rw [count, List.length_cons]
      omega

end State

namespace Graph

/-- The graph of a program whose only variable is not set yet. -/
def declaring (machine : Machine) (start : Nat) : Graph :=
  (((initial machine).enter "main").addObject ⟨start⟩ (.region 64 "head")).withNames
    [⟨"main", (∅ : Table String ObjectId).insert "head" ⟨start⟩⟩] ∅

theorem get?_declaring (machine : Machine) (start : Nat) (id : ObjectId) :
    (declaring machine (start + 1)).objects.get? id =
      if id = ⟨start + 1⟩ then some ⟨.region 64 "head", true, false⟩
      else (initial machine).objects.get? id := by
  have absent := ((Plain.initial machine).later (Nat.le_add_left 1 start)).absent
  rw [declaring, @addObject_of_absent ((initial machine).enter "main") _ absent]
  exact Table.get?_insert ..

/-- The only variable holds zero, so it leads to no node. -/
theorem HoldsList.empty (machine : Machine) (start : Nat) (data : Option Int) :
    ((declaring machine (start + 1)).writing ⟨start + 1⟩ headRange .zero).HoldsList data ⟨start + 1⟩
      [] where
  stack := rfl
  globals := rfl
  placed := (get?_declaring ..).trans (if_pos rfl)
  layout := (layout_writing _).trans (if_pos rfl)
  node isNode := by simp at isNode
  distinct := List.nodup_cons.2 ⟨List.not_mem_nil, List.nodup_nil⟩
  values := List.nodup_nil
  only {object range value} held := by
    have bare : (declaring machine (start + 1)).layout object = ∅ := rfl
    rw [valueAt?_eq_some_iff, layout_writing, bare] at held
    by_cases isHead : object = ⟨start + 1⟩
    · exact List.mem_singleton.2 isHead
    · simp [isHead] at held
  heap {object} isHeap := by
    rw [Graph.isHeap, objects_writing, get?_declaring, initial, Table.get?_insert] at isHeap
    split at isHeap
    · simp at isHeap
    · split at isHeap <;> simp at isHeap
  zero := rfl
  null := (get?_declaring ..).trans (if_neg (by simp [ObjectId.null]))

end Graph

namespace State

/-- A program that builds a list goes through, and its graph holds the list. -/
theorem listOf_apply (machine : Machine) (length start : Nat) (number : Option Int64) :
    ∃ graph now head nodes,
      listOf machine length number ⟨start + 1⟩ = .ok (ofGraph graph) now ∧ graph.Plain now.next ∧
      graph.HoldsList (number.map Int64.toInt) head nodes ∧ nodes.length = length := by
  let entered : State := (initial machine).enter "main"
  have plain : entered.graph.Plain (start + 1) :=
    ((Graph.Plain.initial machine).later (Nat.le_add_left 1 start)).enter "main"
  let declared := Graph.declaring machine (start + 1)
  have done : entered.graph.declareLocal "head" ⟨start + 1⟩ (.region 64 "head") =
    .ok declared := rfl
  have plain' : declared.Plain (start + 2) := plain.declareLocal done
  have placed := (Graph.get?_declaring machine start ⟨start + 1⟩).trans (if_pos rfl)
  obtain ⟨written, isPlain⟩ :=
    @write_of_vacant (ofGraph declared, ⟨start + 2⟩) ⟨start + 1⟩ headRange
    .zero plain' (mayAccess_of_region placed (by decide)) plain'.positive
    (Graph.vacant_of_bare placed rfl (by decide) (by decide))
  obtain ⟨graph, now, nodes, pushed, holds⟩ := @pushNodes_apply ⟨start + 1⟩
    (ofGraph _, ⟨start + 2⟩) [] number length isPlain (Graph.HoldsList.empty machine start _)
  refine ⟨graph, now, ⟨start + 1⟩, nodes, ?_, holds⟩
  have built : buildList length number (initial machine, ⟨start + 1⟩) =
    .ok () (ofGraph graph, now) := by
    refine (Run.bind_apply_ok (Run.modify_apply _ _)).trans ?_
    refine (Run.bind_apply_ok (declareLocal_of_ok done)).trans ?_
    exact (Run.bind_apply_ok written).trans pushed
  unfold listOf
  show EStateM.bind _ _ _ = _
  unfold EStateM.bind Run.startingAt
  rw [built]
  rfl

end State

end ShapeDomain
