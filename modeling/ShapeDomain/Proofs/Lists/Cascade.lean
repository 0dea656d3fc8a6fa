import ShapeDomain.Proofs.Lists.Tails
import ShapeDomain.Proofs.Progress.Objects

/-!
# The folding cascade

When two lists of zeros are joined, the join goes down to the last nodes first.  On the way back,
each holder gets the link to the tail behind it: the node that was just joined is folded with the
tail that it leads to.  So the tail grows by one node with every step, up to the variable.
-/

namespace ShapeDomain

open State (headRange dataRange nextRange)

namespace Join

variable {left right : Graph} {here : Progress × Supply} {setting : Setting} {descend : Descend}
variable {node1 node2 : ZeroNode} {rest1 rest2 nodes1 nodes2 : List ZeroNode} {pair : ObjectPair}

/-- A join that has not changed the graphs that it joins, and has found no difference between
them. -/
structure Underway (left right : Graph) (here : Progress × Supply) : Prop where
  /-- The left graph. -/
  left : here.1.left = left
  /-- The right graph. -/
  right : here.1.right = right
  /-- Only the ground level is needed. -/
  levels : here.1.levels = .initial
  /-- No difference was found. -/
  status : here.1.status = .equal
  /-- The tables of the destination fit together. -/
  sound : here.1.dest.Sound
  /-- Its names were drawn. -/
  drawn : here.1.dest.DrawnBefore here.2.next
  /-- It knows of no unequal values. -/
  unrelated : here.1.dest.inequalities = ∅

/-- Nodes that the join has not come to. -/
structure Ahead (nodes1 nodes2 : List ZeroNode) (progress : Progress) : Prop where
  /-- The left nodes have no counterparts, and neither have their addresses. -/
  left : ∀ node ∈ nodes1, progress.leftMap.object? node.object = none ∧
    progress.leftMap.value? node.address = none
  /-- Neither have the right ones. -/
  right : ∀ node ∈ nodes2, progress.rightMap.object? node.object = none ∧
    progress.rightMap.value? node.address = none
  /-- The addresses of the left nodes are not joined with anything. -/
  joined : ∀ node ∈ nodes1, ∀ value, progress.joined.get? (node.address, value) = none

namespace Underway

variable (underway : Underway left right here)

include underway

theorem absent : here.1.dest.hasObject ⟨here.2.next⟩ = false := by
  cases present : here.1.dest.hasObject ⟨here.2.next⟩ with
  | false => rfl
  | true => exact absurd (underway.drawn.1 _ (Table.mem_keys_iff.2 present)) (Nat.lt_irrefl _)

theorem hasValue_eq_false {value : ValueId} (late : here.2.next ≤ value.index) :
    here.1.dest.hasValue value = false := by
  cases present : here.1.dest.hasValue value with
  | false => rfl
  | true =>
      exact absurd (underway.drawn.2.1 _ (Table.mem_keys_iff.2 present)) (Nat.not_lt_of_le late)

end Underway

/-! ### Fields -/

/-- Two zeros are joined into zero. -/
theorem joinValuePair_zero (size : Nat) (levelDiff : Int) (holderLevel : Level) :
    joinValuePair setting descend .zero .zero size levelDiff holderLevel here =
      .ok (.joined .zero none) here := by
  unfold joinValuePair
  exact Run.bind_apply_ok (Run.state_apply _)

/-! ### A new node -/

/-- The join in which two nodes have got a counterpart, which has no address yet. -/
def nodeMade (here : Progress × Supply) (node1 node2 : ZeroNode) : Progress × Supply :=
  (here.1.making ⟨node1.object, node2.object, ⟨here.2.next⟩⟩
    (here.1.dest.putPlacement ⟨here.2.next⟩ ⟨.region 128 node1.label, true, true⟩),
    ⟨here.2.next + 1⟩)

/-- The join in which two nodes have got a counterpart, and their addresses a joint address. -/
def linked (here : Progress × Supply) (node1 node2 : ZeroNode) : Progress × Supply :=
  ((here.1.making ⟨node1.object, node2.object, ⟨here.2.next⟩⟩
      (here.1.dest.withNode ⟨here.2.next⟩ ⟨here.2.next + 1⟩ node1.label)).withJoint
    node1.address node2.address ⟨here.2.next + 1⟩, ⟨here.2.next + 2⟩)

theorem dest_linked : (linked here node1 node2).1.dest =
    here.1.dest.withNode ⟨here.2.next⟩ ⟨here.2.next + 1⟩ node1.label :=
  Graph.addValue_withNode

theorem Underway.linked (underway : Underway left right here) :
    Underway left right (linked here node1 node2) where
  left := underway.left
  right := underway.right
  levels := underway.levels
  status := underway.status
  sound := by
    rw [dest_linked]
    exact underway.sound.withNode underway.absent (by simp [ValueId.zero])
  drawn := by
    have later := underway.drawn.later (show here.2.next ≤ here.2.next + 2 by omega)
    rw [dest_linked]
    exact (later.putPlacement (show here.2.next < here.2.next + 2 by omega) _).putKnowledge
      (show here.2.next + 1 < here.2.next + 2 by omega) _
  unrelated := by
    rw [dest_linked]
    exact underway.unrelated

section Linked

variable (underway : Underway left right here)
variable (opposite : Graph.Opposite left right node1 node2 rest1 rest2)
variable (ahead : Ahead (node1 :: rest1) (node2 :: rest2) here.1)
variable (null1 : left.HasNull) (null2 : right.HasNull)

include underway opposite ahead

/-- The objects of two nodes get a counterpart. -/
theorem joinTargets_node : joinTargets node1.object node2.object here =
    .ok (some ⟨here.2.next⟩) (nodeMade here node1 node2) := by
  have object1 : here.1.left.object node1.object = .ok (.region 128 node1.label) := by
    rw [underway.left]
    exact (Graph.object_eq_ok_iff _).2 opposite.left.holder.object?_eq
  have object2 : here.1.right.object node2.object = .ok (.region 128 node2.label) := by
    rw [underway.right]
    exact (Graph.object_eq_ok_iff _).2 opposite.right.holder.object?_eq
  have valid1 : here.1.left.isValid node1.object = true :=
    underway.left ▸ opposite.left.holder.isValid_eq
  have valid2 : here.1.right.isValid node2.object = true :=
    underway.right ▸ opposite.right.holder.isValid_eq
  have heap1 : here.1.left.isHeap node1.object = true :=
    underway.left ▸ opposite.left.holder.isHeap_eq
  have level : here.1.levels.get? .ground .ground = some .ground := by
    rw [underway.levels]
    rfl
  have named : objectName node1.object node2.object here =
      .ok ⟨here.2.next⟩ (here.1, ⟨here.2.next + 1⟩) := by
    rw [objectName, if_neg opposite.objects]
    exact Run.draw_objectId_apply here
  have alike : ¬ ((Object.region 128 node1.label).size ≠ (Object.region 128 node2.label).size ∨
      here.1.left.isValid node1.object ≠ here.1.right.isValid node2.object) := by
    simp [valid1, valid2, Object.region]
  unfold joinTargets
  rw [Run.bind_apply_ok (Run.demand_apply_ok object1),
    Run.bind_apply_ok (Run.demand_apply_ok object2),
    Run.bind_apply_ok (Run.state_apply _), if_neg alike]
  simp only [valid1, Object.region, Kind.join, level, heap1, Bool.true_or, if_true]
  rw [Run.bind_apply_ok named]
  exact place_apply (Graph.addHeapObject_of_absent underway.absent _)
    (ahead.left node1 List.mem_cons_self).1 (ahead.right node2 List.mem_cons_self).1

include null1 null2

theorem destination_node : destination node1.object node2.object here =
    .ok (some (.made ⟨here.2.next⟩)) (nodeMade here node1 node2) := by
  unfold destination
  rw [Run.bind_apply_ok (Run.state_apply _)]
  simp only [(ahead.left node1 List.mem_cons_self).1, (ahead.right node2 List.mem_cons_self).1,
    ObjectId.isNull, beq_eq_false_iff_ne.2 (opposite.left.object_ne_null null1),
    beq_eq_false_iff_ne.2 (opposite.right.object_ne_null null2), Bool.or_self, Bool.and_self,
    Bool.false_eq_true, if_false]
  rw [Run.bind_apply_ok (joinTargets_node underway opposite ahead)]
  rfl

omit underway null2 in
/-- The addresses of two nodes may get a joint address. -/
theorem free_node : Free here node1.address node2.address := by
  obtain ⟨-, free1⟩ := ahead.left node1 List.mem_cons_self
  obtain ⟨-, free2⟩ := ahead.right node2 List.mem_cons_self
  refine ⟨?_, .inr free1, .inr free2⟩
  rw [jointValue?, ValueId.isZero, beq_eq_false_iff_ne.2 (opposite.left.address_ne_zero null1)]
  exact ahead.joined node1 List.mem_cons_self _

omit ahead null1 null2 in
/-- The joint address of two nodes is a new one. -/
theorem addressName_node : addressName node1.address node2.address ⟨⟨here.2.next⟩, 0, .region⟩
      (nodeMade here node1 node2) =
    .ok ⟨here.2.next + 1⟩ (here.1.making ⟨node1.object, node2.object, ⟨here.2.next⟩⟩
      (here.1.dest.withNode ⟨here.2.next⟩ ⟨here.2.next + 1⟩ node1.label), ⟨here.2.next + 2⟩) := by
  have unnamed : (nodeMade here node1 node2).1.dest.addressOf?
    ⟨⟨here.2.next⟩, 0, .region⟩ = none := by
    refine Option.eq_none_iff_forall_ne_some.2 fun value existing => ?_
    have present := underway.sound.targets (Graph.target?_of_addressOf? existing)
    rw [underway.absent] at present
    simp at present
  have free : (nodeMade here node1 node2).1.dest.target? ⟨here.2.next + 1⟩ = none :=
    Graph.target?_of_absent (underway.hasValue_eq_false (Nat.le_succ _))
  have present : (nodeMade here node1 node2).1.dest.hasObject ⟨here.2.next⟩ = true :=
    (Graph.hasObject_putPlacement ..).trans (by simp)
  unfold addressName
  rw [Run.bind_apply_ok (Run.ask_apply _ _)]
  simp only [unnamed, valueName, if_neg opposite.addresses]
  rw [Run.bind_apply_ok (Run.draw_valueId_apply _), Run.bind_apply_ok (attemptDest_apply
    (Graph.addPointer_eq_ok_iff.2 ⟨present, .inl free, rfl⟩))]
  rfl

/-- The addresses of two nodes get a joint address, and then the join goes down. -/
theorem joinValuePair_node (size : Nat) :
    joinValuePair setting descend node1.address node2.address size 0 .ground here =
      goDown setting descend ⟨node1.object, node2.object, ⟨here.2.next⟩⟩ ⟨here.2.next + 1⟩
        (linked here node1 node2) := by
  have free := free_node opposite ahead null1
  have address1 : address? here.1.left node1.address = some ⟨node1.object, 0, .region⟩ :=
    underway.left ▸ opposite.left.address?_eq null1
  have address2 : address? here.1.right node2.address = some ⟨node2.object, 0, .region⟩ :=
    underway.right ▸ opposite.right.address?_eq null2
  have found : (nodeMade here node1 node2).1.dest.object ⟨here.2.next⟩ =
      .ok (.region 128 node1.label) := by
    rw [Graph.object_eq_ok_iff]
    exact (Graph.object?_putPlacement ..).trans (if_pos rfl)
  have paired : pairValues node1.address node2.address ⟨here.2.next + 1⟩
      (here.1.making ⟨node1.object, node2.object, ⟨here.2.next⟩⟩
        (here.1.dest.withNode ⟨here.2.next⟩ ⟨here.2.next + 1⟩ node1.label), ⟨here.2.next + 2⟩) =
      .ok () (linked here node1 node2) :=
    pairValues_ok (.inr (.inl (ahead.left node1 List.mem_cons_self).2))
      (.inr (.inl (ahead.right node2 List.mem_cons_self).2))
  have addresses : joinValuePair setting descend node1.address node2.address size 0 .ground here =
      joinAddresses setting descend node1.address node2.address ⟨node1.object, 0, .region⟩
        ⟨node2.object, 0, .region⟩ 0 .ground here := by
    rw [joinValuePair_of_free setting descend free, address1, address2]
  rw [addresses]
  unfold joinAddresses
  rw [if_neg (by simp)]
  refine (Run.bind_apply_ok (destination_node underway opposite ahead null1 null2)).trans
    ((Run.bind_apply_ok (Run.demand_apply_ok found)).trans ?_)
  simp only [specifier?_region, Object.region]
  exact (Run.bind_apply_ok (addressName_node underway opposite)).trans (Run.bind_apply_ok paired)

omit underway null1 null2 in
theorem ahead_linked (chain1 : left.Chain rest1) (chain2 : right.Chain rest2) :
    Ahead rest1 rest2 (linked here node1 node2).1 := by
  have addresses1 := chain1.address_ne opposite.left opposite.later1
  have addresses2 := chain2.address_ne opposite.right opposite.later2
  refine ⟨fun node member => ?_, fun node member => ?_, fun node member value => ?_⟩
  · obtain ⟨object, address⟩ := ahead.left node (List.mem_cons_of_mem _ member)
    constructor
    · rw [Correspondence.object?, linked, Progress.withJoint, objects_setUnlessZero]
      exact (Correspondence.object?_setObject ..).trans
        ((if_neg (opposite.later1 node member)).trans object)
    · exact (value?_setUnlessZero ..).trans
        ((if_neg fun same => addresses1 node member same.1).trans address)
  · obtain ⟨object, address⟩ := ahead.right node (List.mem_cons_of_mem _ member)
    constructor
    · rw [Correspondence.object?, linked, Progress.withJoint, objects_setUnlessZero]
      exact (Correspondence.object?_setObject ..).trans
        ((if_neg (opposite.later2 node member)).trans object)
    · exact (value?_setUnlessZero ..).trans
        ((if_neg fun same => addresses2 node member same.1).trans address)
  · refine (Table.get?_insert_of_ne _ (fun same => ?_) _).trans
      (ahead.joined node (List.mem_cons_of_mem _ member) value)
    exact addresses1 node member (congrArg Prod.fst same)

end Linked

/-! ### Zeros -/

/-- A field is stored. -/
theorem Underway.storing (underway : Underway left right here) {field : Field}
    (vacant : here.1.dest.Vacant field.object field.range)
    (present : here.1.dest.hasValue field.value = true) :
    Underway left right (here.1.storing field, here.2) where
  left := underway.left
  right := underway.right
  levels := underway.levels
  status := underway.status
  sound := underway.sound.putField vacant
  drawn := underway.drawn.putKnowledge (underway.drawn.2.1 _ (Table.mem_keys_iff.2 present)) _
  unrelated := underway.unrelated

/-- A zero that two objects hold is stored in their counterpart. -/
theorem joinField_zero {source1 source2 : Object} {range : BitRange}
    (underway : Underway left right here) (null1 : left.HasNull) (null2 : right.HasNull)
    (ground1 : source1.level = .ground) (ground2 : source2.level = .ground)
    (held2 : right.valueAt? pair.object2 range = some .zero)
    (vacant : here.1.dest.Vacant pair.dest range) :
    joinField setting descend pair source1 source2 0 .ground ⟨pair.object1, range, .zero⟩ here =
      .ok (.stored .zero none) (here.1.storing ⟨pair.dest, range, .zero⟩, here.2) := by
  have below1 : levelBelow here.1.left source1 .zero = .ok .ground :=
    underway.left ▸ Graph.Chain.nil.levelBelow null1 source1
  have below2 : levelBelow here.1.right source2 .zero = .ok .ground :=
    underway.right ▸ Graph.Chain.nil.levelBelow null2 source2
  refine (joinField_of_ground underway.levels (underway.right ▸ held2) below1 below2 ground1
    ground2).trans ((Run.bind_apply_ok (joinValuePair_zero _ _ _)).trans ?_)
  exact Run.bind_apply_ok (store_of_vacant vacant)

/-! ### Links -/

/-- What a holder has got when its link was joined and the folding was done: zero, or the link to a
tail. -/
inductive Hung (before : Graph) (holder : ObjectId) (link : BitRange) :
    List ZeroNode → Graph → Prop where
  /-- There are no nodes. -/
  | last : Hung before holder link [] (before.putField ⟨holder, link, .zero⟩)
  /-- The nodes are folded. -/
  | tail {node : ZeroNode} {rest : List ZeroNode} {tail : Tail} {after : Graph} :
      Graph.Hangs before holder link tail after → tail.label = node.label →
      tail.length = rest.length + 1 → Hung before holder link (node :: rest) after

/-- A link and all that it leads to have been joined. -/
structure Completed (left right before : Graph) (holder : ObjectId) (link : BitRange)
    (nodes : List ZeroNode) (here there : Progress × Supply) : Prop where
  /-- Nothing else has changed. -/
  underway : Underway left right there
  /-- Names were drawn. -/
  time : here.2.next ≤ there.2.next
  /-- The holder has got its link. -/
  hung : Hung before holder link nodes there.1.dest

/-- A folding is offered at an object that leads to a tail. -/
theorem foldAt_of_head? {object : ObjectId} {fold : Option Fold}
    (folds : setting.options.foldLists = true) (differ : setting.identical = false)
    (offered : (Fold.startingFrom here.1.dest object).head? = fold) :
    foldAt setting object here = .ok fold here := by
  unfold foldAt
  simp only [folds, differ, Bool.not_false, Bool.and_self, if_true]
  rw [← offered]
  exact Run.ask_apply _ _

end Join

end ShapeDomain
