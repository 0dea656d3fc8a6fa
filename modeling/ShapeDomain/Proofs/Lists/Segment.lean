import Mathlib.Data.List.Perm.Subperm
import ShapeDomain.Proofs.Lists.Single
import ShapeDomain.Proofs.Lists.ZeroBuild

/-!
# Joined lists fold completely

Two lists of zeros of the same length that share nothing are joined into one list segment, if list
nodes may be folded.  The segment stands for at least as many nodes as the lists have.
-/

namespace ShapeDomain

open State (headRange dataRange nextRange)

namespace Graph

variable {graph : Graph} {scope : Scope} {name : String} {head : ObjectId} {nodes : List ZeroNode}

/-- A graph has a single variable, which leads to the first node of a segment of zeros, the only
object of the heap. -/
structure HoldsSegment (graph : Graph) (scope : Scope) (name : String) (length : Nat)
    (head segment : ObjectId) : Prop where
  /-- The global variables. -/
  globals : graph.globals = scope.globals name head
  /-- The running functions. -/
  frames : graph.frames = scope.frames name head
  /-- The segment is the heap. -/
  heap : graph.heapObjects = [segment]
  /-- It is a valid segment of nodes. -/
  placed : ∃ label, graph.objects.get? segment =
    some ⟨⟨128, .ground, .list 0 64 none length, label⟩, true, true⟩
  /-- It holds zeros only. -/
  fields : graph.fieldsOf segment = [⟨segment, dataRange, .zero⟩, ⟨segment, nextRange, .zero⟩]
  /-- The variable holds the address of the first node. -/
  holder : ∃ label address, graph.Holder head ⟨.region 64 label, true, false⟩ [] headRange address ∧
    graph.target? address = some ⟨segment, 0, .first⟩

theorem Chain.node_of_mem (chain : graph.Chain nodes) {node : ZeroNode} (member : node ∈ nodes) :
    ∃ next, graph.HasZeroNode node next := by
  induction chain with
  | nil => exact absurd member List.not_mem_nil
  | cons isNode _ _ ih =>
      rcases List.mem_cons.1 member with rfl | later
      · exact ⟨_, isNode⟩
      · exact ih later

/-- A graph has as many objects as nodes, at least. -/
theorem Chain.length_le (chain : graph.Chain nodes) : nodes.length ≤ graph.objects.size := by
  have distinct : (nodes.map ZeroNode.object).Nodup := by
    induction chain with
    | nil => exact .nil
    | cons _ later _ ih =>
        refine List.nodup_cons.2 ⟨fun member => ?_, ih⟩
        obtain ⟨node, behind, same⟩ := List.mem_map.1 member
        exact later node behind same
  have present : nodes.map ZeroNode.object ⊆ graph.objects.keys := by
    intro object member
    obtain ⟨node, isNode, rfl⟩ := List.mem_map.1 member
    obtain ⟨next, here⟩ := chain.node_of_mem isNode
    exact Table.mem_keys_iff.2 (hasObject_iff_get?.2 ⟨_, here.holder.placed⟩)
  have fewer := (List.Nodup.subperm distinct present).length_le
  rwa [Table.keys, List.length_map, List.length_map] at fewer

/-- If one object is part of the heap, then it is the heap. -/
theorem heapObjects_eq_singleton {object : ObjectId}
    (only : ∀ other, graph.isHeap other = true ↔ other = object) :
    graph.heapObjects = [object] := by
  refine List.perm_singleton.1 ((List.perm_ext_iff_of_nodup nodup_heapObjects
    (List.nodup_singleton object)).2 fun other => ?_)
  rw [List.mem_singleton, ← only, heapObjects, Table.mem_keys_iff, Table.contains,
    Table.get?_filter, isHeap]
  cases graph.objects.get? other with
  | none => simp
  | some placement => simp [Option.filter]

end Graph

namespace Join

variable {left right : Graph} {scope : Scope} {name label : String} {head1 head2 : ObjectId}
variable {nodes1 nodes2 : List ZeroNode} {supply : Supply} {options : Options}

/-! ### The start -/

/-- The join in which the single variables are paired. -/
def paired (left right : Graph) (supply : Supply) (scope : Scope) (name label : String)
    (head1 head2 : ObjectId) : Progress × Supply :=
  ((Progress.start left right).making ⟨head1, head2, ⟨supply.next⟩⟩
    (withSingle (.initial left.machine) scope name ⟨supply.next⟩ label), ⟨supply.next + 1⟩)

/-- Drawn objects are not in the graph of a program without variables. -/
theorem absent_initial {machine : Machine} (positive : 0 < supply.next) :
    (Graph.initial machine).hasObject ⟨supply.next⟩ = false := by
  have proper : (⟨supply.next⟩ : ObjectId) ≠ .null := fun same =>
    absurd (congrArg ObjectId.index same) (Nat.ne_of_gt positive)
  rw [Graph.hasObject, Table.contains, Graph.initial, Table.get?_insert, if_neg proper,
    Table.get?_empty]
  rfl

/-- When the variables are paired, nothing else has been joined. -/
theorem underway_paired (positive : 0 < supply.next) :
    Underway left right (paired left right supply scope name label head1 head2) where
  left := rfl
  right := rfl
  levels := rfl
  status := rfl
  sound := by
    have proper : (⟨supply.next⟩ : ObjectId) ≠ .null := fun same =>
      absurd (congrArg ObjectId.index same) (Nat.ne_of_gt positive)
    refine ((Graph.sound_initial left.machine).putNew (absent_initial positive)).withNames ?_
    rintro ⟨other, id⟩ member
    obtain rfl : id = ⟨supply.next⟩ := by
      rcases Graph.mem_roots_iff.1 member with isGlobal | ⟨frame, isFrame, isLocal⟩
      · exact Scope.eq_of_global isGlobal
      · exact Scope.eq_of_local (List.mem_reverse.1 isFrame) isLocal
    exact ⟨by simp [Graph.hasObject_putPlacement], proper, by simp [Graph.isHeap_putPlacement]⟩
  drawn := by
    have before := (Graph.drawnBefore_initial left.machine).later (Nat.le_add_left 1 supply.next)
    exact before.putPlacement (Nat.lt_succ_self supply.next) _
  unrelated := rfl

/-- When the variables are paired, the join has not come to the nodes. -/
theorem ahead_paired (list1 : left.HoldsZeros scope name head1 nodes1)
    (list2 : right.HoldsZeros scope name head2 nodes2) :
    Ahead nodes1 nodes2 (paired left right supply scope name label head1 head2).1 := by
  have apart {graph : Graph} {head : ObjectId} {nodes : List ZeroNode}
      (list : graph.HoldsZeros scope name head nodes) {node : ZeroNode} (member : node ∈ nodes) :
      node.object ≠ head := by
    intro same
    obtain ⟨label, holder⟩ := list.holder
    obtain ⟨next, isNode⟩ := list.chain.node_of_mem member
    have heap := isNode.holder.isHeap_eq
    rw [same, holder.isHeap_eq] at heap
    simp at heap
  refine ⟨fun node member => ⟨?_, rfl⟩, fun node member => ⟨?_, rfl⟩, fun node member value => rfl⟩
  · exact (Correspondence.object?_setObject ..).trans (if_neg (apart list1 member))
  · exact (Correspondence.object?_setObject ..).trans (if_neg (apart list2 member))

/-- The single variables of two lists are paired. -/
theorem matchVariables_holdsZeros (list1 : left.HoldsZeros scope name head1 nodes1)
    (list2 : right.HoldsZeros scope name head2 nodes2) (differ : head1 ≠ head2)
    (positive : 0 < supply.next) : ∃ label,
    matchVariables (.start left right, supply) = .ok (some [⟨head1, head2, ⟨supply.next⟩⟩])
      (paired left right supply scope name label head1 head2) := by
  obtain ⟨label, holder1⟩ := list1.holder
  obtain ⟨label2, holder2⟩ := list2.holder
  have globals1 := list1.globals
  have globals2 := list2.globals
  have frames1 := list1.frames
  have frames2 := list2.frames
  refine ⟨label, ?_⟩
  cases scope with
  | global functions =>
      exact @matchVariables_global (.start left right, supply) name label label2 head1 head2
        holder1.object?_eq holder2.object?_eq holder1.isValid_eq holder2.isValid_eq differ rfl rfl
        (absent_initial positive) rfl rfl functions globals1 globals2 frames1 frames2
  | inside outer function inner =>
      exact @matchVariables_inside (.start left right, supply) name label label2 head1 head2
        holder1.object?_eq holder2.object?_eq holder1.isValid_eq holder2.isValid_eq differ rfl rfl
        (absent_initial positive) rfl rfl outer inner function globals1 globals2 frames1 frames2

/-! ### The join -/

/-- The join of two lists of zeros goes through, and the variable has got its link. -/
theorem joinAll_holdsZeros {setting : Setting} (folds : setting.options.foldLists = true)
    (different : setting.identical = false) (list1 : left.HoldsZeros scope name head1 nodes1)
    (list2 : right.HoldsZeros scope name head2 nodes2) (length : nodes1.length = nodes2.length)
    (separate : Graph.Separate nodes1 nodes2) (differ : head1 ≠ head2)
    (positive : 0 < supply.next) :
    ∃ label there, joinAll setting (.start left right, supply) = .ok true there ∧
      Completed left right (withSingle (.initial left.machine) scope name ⟨supply.next⟩ label)
        ⟨supply.next⟩ headRange nodes1
          (paired left right supply scope name label head1 head2) there := by
  obtain ⟨label, matched⟩ := matchVariables_holdsZeros list1 list2 differ positive
  obtain ⟨label1, holder1⟩ := list1.holder
  obtain ⟨label2, holder2⟩ := list2.holder
  have entering : Entering left right ⟨head1, head2, ⟨supply.next⟩⟩ 64 [] headRange nodes1 nodes2
      (paired left right supply scope name label head1 head2) :=
    { underway := underway_paired positive
      ahead := ahead_paired list1 list2
      form := Graph.form_variable
      holder1 := ⟨label1, true, false, holder1⟩
      holder2 := ⟨label2, true, false, holder2⟩
      place := ⟨.region 64 label, (Graph.object?_putPlacement ..).trans (if_pos rfl), rfl⟩
      empty := rfl }
  obtain ⟨there, joined, completed⟩ := joins_of_abreast folds different list1.null list2.null
    (list1.chain.abreast list2.chain length separate)
    (Nat.lt_succ_of_le list1.chain.length_le) entering
  refine ⟨label, there, ?_, completed⟩
  have underway := completed.underway
  have pairs : joinPairs setting (left.objects.size + 1) [⟨head1, head2, ⟨supply.next⟩⟩]
      (paired left right supply scope name label head1 head2) = .ok true there := by
    unfold joinPairs
    exact Run.bind_apply_ok joined
  have kept := keepInequalities_of_unrelated (underway.left.symm ▸ list1.unrelated)
    (underway.right.symm ▸ list2.unrelated)
  unfold joinAll
  refine (Run.bind_apply_ok (Run.ask_apply _ _)).trans ((Run.bind_apply_ok matched).trans
    ((Run.bind_apply_ok pairs).trans ((Run.bind_apply_ok kept).trans ?_)))
  cases setting.options.verify with
  | true => exact Run.bind_apply_ok (Run.demand_apply_ok underway.sound.consistent)
  | false => rfl

/-- No object is part of the heap when the variable is paired. -/
theorem isHeap_withSingle {machine : Machine} {id : ObjectId} (other : ObjectId) :
    (withSingle (.initial machine) scope name id label).isHeap other = false := by
  refine (Graph.isHeap_putPlacement ..).trans ?_
  split
  · rfl
  · rw [Graph.isHeap, Graph.initial, Table.get?_insert]
    split <;> rfl

/-- What the destination is like when a list of several nodes was folded. -/
theorem Hung.holdsSegment {machine : Machine} {id : ObjectId} {after : Graph}
    (hung : Hung (withSingle (.initial machine) scope name id label) id headRange nodes1 after)
    (several : 2 ≤ nodes1.length) :
    ∃ segment, after.HoldsSegment scope name nodes1.length id segment := by
  rcases hung.cases with ⟨rfl, -⟩ | ⟨node, rest, tail, rfl, hangs, -, length⟩
  · simp at several
  have longer : tail.length ≠ 1 := by
    rw [List.length_cons] at several
    omega
  have placed : (withSingle (.initial machine) scope name id label).objects.get? id =
      some ⟨.region 64 label, true, false⟩ := Table.get?_insert_self ..
  have isOther : id ≠ tail.object := by
    rintro rfl
    have absent := hangs.newObject
    rw [Graph.hasObject, Table.contains, placed] at absent
    simp at absent
  have tailLayout : after.layout tail.object = zeroLayout .zero := by
    rw [hangs.layouts, if_pos rfl]
  have layout : after.layout id = (∅ : Layout).insert 0 ⟨64, tail.address⟩ := by
    rw [hangs.layouts, if_neg isOther, if_pos rfl]
    rfl
  refine ⟨tail.object, hangs.globals, ?_, ?_, ⟨tail.label, ?_⟩, ?_,
    ⟨label, tail.address, ⟨?_, ?_⟩, ?_⟩⟩
  · rw [Graph.frames, hangs.stack]
    exact List.reverse_reverse _
  · refine Graph.heapObjects_eq_singleton fun other => ?_
    rw [Graph.isHeap, hangs.objects]
    split
    case isTrue same => exact iff_of_true rfl same
    case isFalse different =>
      rw [← Graph.isHeap, isHeap_withSingle]
      exact iff_of_false Bool.false_ne_true different
  · rw [hangs.objects, if_pos rfl, Tail.shape, if_neg longer, length, List.length_cons]
  · rw [Graph.fieldsOf, tailLayout]
    rfl
  · rw [hangs.objects, if_neg isOther, placed]
  · rw [Graph.fieldsOf, layout]
    rfl
  · rw [hangs.targets, if_pos rfl, Tail.place, if_neg longer]

end Join

namespace Graph

variable {left right : Graph} {scope : Scope} {name : String} {head1 head2 : ObjectId}
variable {nodes1 nodes2 : List ZeroNode} {supply : Supply} {options : Options}

/-- Two lists of zeros of the same length, of at least two nodes, that share nothing are joined into
a segment of this length, and they are equal. -/
theorem HoldsZeros.join_folds (list1 : left.HoldsZeros scope name head1 nodes1)
    (list2 : right.HoldsZeros scope name head2 nodes2) (length : nodes1.length = nodes2.length)
    (several : 2 ≤ nodes1.length) (separate : Separate nodes1 nodes2) (differ : head1 ≠ head2)
    (folds : options.foldLists = true) (positive : 0 < supply.next) :
    ∃ dest now head segment, left.join options right supply = .ok (.defined dest .equal) now ∧
      dest.HoldsSegment scope name nodes1.length head segment := by
  have different : (left == right) = false := by
    rw [beq_eq_false_iff_ne]
    rintro rfl
    exact differ (Scope.eq_of_same_names (list1.globals.symm.trans list2.globals)
      (list1.frames.symm.trans list2.frames))
  obtain ⟨label, there, done, completed⟩ := Join.joinAll_holdsZeros
    (show (Join.Setting.mk options (left == right)).options.foldLists = true from folds) different
    list1 list2 length separate differ positive
  obtain ⟨segment, holds⟩ := completed.hung.holdsSegment several
  exact ⟨there.1.dest, there.2, ⟨supply.next⟩, segment,
    join_eq_defined_iff.2 ⟨there, done, rfl, completed.underway.status, rfl⟩, holds⟩

/-- Two lists of three nodes become one segment. -/
theorem join_folds_threeNodes : ∃ dest now head segment,
    (zeroList .linux64 1 3).join {} (zeroList .linux64 8 3) ⟨15⟩ =
      .ok (.defined dest .equal) now ∧
    dest.HoldsSegment (.global []) "x" 3 head segment :=
  (holdsZeros_zeroList .linux64 Nat.one_pos).join_folds
    (holdsZeros_zeroList .linux64 (Nat.succ_pos 7)) rfl (by decide) (separate_zeroNodes (by decide))
    (by decide) rfl (by decide)

end Graph

end ShapeDomain
