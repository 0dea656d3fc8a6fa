import ShapeDomain.Proofs.Lists.Cascade

/-!
# Folding on the way back

The links of two holders are joined by joining the nodes that they lead to.  When these are joined,
the new node has got the link to its own tail, and is folded with it as soon as the holder has got
its link.  The holders may be nodes or variables: they hold some zeros and then their link.
-/

namespace ShapeDomain

open State (headRange dataRange nextRange)

namespace Join

variable {left right : Graph} {here there : Progress × Supply} {setting : Setting}
    {descend : Descend}
variable {node1 node2 : ZeroNode} {rest1 rest2 nodes1 nodes2 : List ZeroNode} {pair : ObjectPair}
variable {source1 source2 : Object} {zeros : List BitRange} {link : BitRange} {size : Nat}
variable {fold : Fold} {parts : Fold.Parts}

/-! ### Zeros -/

/-- The join in which an object of the destination has got zeros. -/
def zeroed (here : Progress × Supply) (dest : ObjectId) (zeros : List BitRange) :
    Progress × Supply :=
  ({ here.1 with dest := here.1.dest.putFields (Graph.zeroFields dest zeros) }, here.2)

/-- The zeros that two holders hold are stored in their counterpart, before the link is joined. -/
theorem joinFields_zeros (underway : Underway left right here) (null1 : left.HasNull)
    (null2 : right.HasNull) (ground1 : source1.level = .ground) (ground2 : source2.level = .ground)
    (held2 : ∀ range ∈ zeros, right.valueAt? pair.object2 range = some .zero)
    (roomy : here.1.dest.Roomy pair.dest (zeros ++ [link])) (rest : List Field)
    (harvest : Harvest) :
    joinFields (joinField setting descend pair source1 source2 0 .ground)
        (Graph.zeroFields pair.object1 zeros ++ rest) harvest here =
      joinFields (joinField setting descend pair source1 source2 0 .ground) rest harvest
        (zeroed here pair.dest zeros) ∧
    Underway left right (zeroed here pair.dest zeros) ∧
    (zeroed here pair.dest zeros).1.dest.Roomy pair.dest [link] := by
  induction zeros generalizing here with
  | nil => exact ⟨rfl, underway, roomy⟩
  | cons range zeros ih =>
      have vacant := roomy.vacant range List.mem_cons_self
      have stored : joinField setting descend pair source1 source2 0 .ground
          ⟨pair.object1, range, .zero⟩ here =
          .ok (.stored .zero none) (here.1.storing ⟨pair.dest, range, .zero⟩, here.2) :=
        joinField_zero underway null1 null2 ground1 ground2 (held2 range List.mem_cons_self) vacant
      obtain ⟨same, further⟩ := @ih (here.1.storing ⟨pair.dest, range, .zero⟩, here.2)
        (underway.storing vacant underway.sound.hasValue_zero)
        (fun range member => held2 range (List.mem_cons_of_mem _ member))
        (roomy.putField underway.sound.tiled .zero)
      exact ⟨(Run.bind_apply_ok stored).trans same, further⟩

/-! ### Foldings -/

/-- A join is still underway when nodes of the destination are folded. -/
theorem Underway.folding (underway : Underway left right here)
    (possible : Fold.Possible here.1.dest fold parts) :
    Underway left right (here.1.folding fold ⟨here.2.next⟩
      (Fold.folded here.1.dest fold parts ⟨here.2.next⟩), ⟨here.2.next + 1⟩) where
  left := underway.left
  right := underway.right
  levels := underway.levels
  status := underway.status
  sound := Fold.sound_folded possible underway.sound underway.absent
  drawn := by
    have ready := possible.performable underway.sound
    obtain ⟨objects, values, -⟩ := underway.drawn
    refine ⟨fun id member => ?_, fun value member => ?_, fun pair member => ?_⟩
    · rcases (Fold.hasObject_folded_iff ready underway.absent id).1
        (Table.mem_keys_iff.1 member) with
        rfl | ⟨before, -⟩
      · exact Nat.lt_succ_self _
      · exact Nat.lt_succ_of_lt (objects id (Table.mem_keys_iff.2 before))
    · have present := (Fold.hasValue_folded ready value).symm.trans (Table.mem_keys_iff.1 member)
      exact Nat.lt_succ_of_lt (values value (Table.mem_keys_iff.2 present))
    · have unrelated := (Fold.inequalities_folded here.1.dest fold parts ⟨here.2.next⟩).trans
        underway.unrelated
      rw [Progress.folding, unrelated] at member
      simp [Table.keys] at member
  unrelated := (Fold.inequalities_folded ..).trans underway.unrelated

/-- A single folding that is possible is done. -/
theorem doFolds_of_possible (underway : Underway left right here)
    (possible : Fold.Possible here.1.dest fold parts) : doFolds [fold] here =
      .ok true (here.1.folding fold ⟨here.2.next⟩
        (Fold.folded here.1.dest fold parts ⟨here.2.next⟩), ⟨here.2.next + 1⟩) := by
  unfold doFolds
  refine (Run.bind_apply_ok (onDest_perform underway.sound underway.absent
    (Fold.parts?_of_possible possible))).trans ?_
  exact Run.bind_apply_ok (Run.modify_apply _ _)

/-! ### Links -/

namespace Hung

variable {before after : Graph} {holder object : ObjectId} {value : ValueId} {target : Target}
variable (hung : Hung before holder link nodes1 after)

include hung

/-- Objects stay. -/
theorem get?_eq (present : before.hasObject object = true) :
    after.objects.get? object = before.objects.get? object := by
  cases hung with
  | last => rfl
  | tail hangs =>
      refine (hangs.objects object).trans (if_neg ?_)
      rintro rfl
      rw [hangs.newObject] at present
      simp at present

/-- Objects other than the holder keep what they hold. -/
theorem layout_eq (present : before.hasObject object = true) (other : object ≠ holder) :
    after.layout object = before.layout object := by
  cases hung with
  | last => exact Graph.layout_putField_of_ne other
  | tail hangs =>
      refine (hangs.layouts object).trans ((if_neg ?_).trans (if_neg other))
      rintro rfl
      rw [hangs.newObject] at present
      simp at present

/-- Addresses still lead to the same place. -/
theorem target?_eq (leads : before.target? value = some target) :
    after.target? value = some target := by
  cases hung with
  | last => exact (Graph.target?_putField ..).trans leads
  | tail hangs =>
      refine (hangs.targets value).trans ((if_neg ?_).trans leads)
      rintro rfl
      have present := Graph.hasValue_of_target? leads
      rw [hangs.newAddress] at present
      simp at present

omit hung in
/-- The holder has got zero if there are no nodes, and else the link to a tail. -/
theorem cases (hung : Hung before holder link nodes1 after) :
    (nodes1 = [] ∧ after = before.putField ⟨holder, link, .zero⟩) ∨
      ∃ node rest tail, nodes1 = node :: rest ∧ Graph.Hangs before holder link tail after ∧
        tail.label = node.label ∧ tail.length = rest.length + 1 := by
  cases hung with
  | last => exact .inl ⟨rfl, rfl⟩
  | tail hangs label length => exact .inr ⟨_, _, _, rfl, hangs, label, length⟩

end Hung

/-- The zeros of two holders are joined, and their links come next. -/
structure LinkAhead (left right : Graph) (pair : ObjectPair) (link : BitRange)
    (nodes1 nodes2 : List ZeroNode) (here : Progress × Supply) : Prop where
  /-- Nothing has changed. -/
  underway : Underway left right here
  /-- The join has not come to the nodes. -/
  ahead : Ahead nodes1 nodes2 here.1
  /-- The right holder has a link, too. -/
  held2 : right.valueAt? pair.object2 link = some (linkTo nodes2)
  /-- There is place for the link. -/
  vacant : here.1.dest.Vacant pair.dest link

/-- Two holders are about to be joined into an object that does not hold anything yet. -/
structure Entering (left right : Graph) (pair : ObjectPair) (size : Nat) (zeros : List BitRange)
    (link : BitRange) (nodes1 nodes2 : List ZeroNode) (here : Progress × Supply) : Prop where
  /-- Nothing has changed. -/
  underway : Underway left right here
  /-- The join has not come to the nodes. -/
  ahead : Ahead nodes1 nodes2 here.1
  /-- The holders have the same form. -/
  form : Graph.Form size zeros link
  /-- The left holder. -/
  holder1 : ∃ label valid heap,
    left.Holder pair.object1 ⟨.region size label, valid, heap⟩ zeros link (linkTo nodes1)
  /-- The right holder. -/
  holder2 : ∃ label valid heap,
    right.Holder pair.object2 ⟨.region size label, valid, heap⟩ zeros link (linkTo nodes2)
  /-- Their counterpart. -/
  place : ∃ placed, here.1.dest.object? pair.dest = some placed ∧ placed.size = size
  /-- It holds nothing. -/
  empty : here.1.dest.layout pair.dest = ∅

/-- A way of going down joins all holders of links to some nodes. -/
def Joins (left right : Graph) (descend : Descend) (nodes1 nodes2 : List ZeroNode) : Prop :=
  ∀ {pair size zeros link here}, Entering left right pair size zeros link nodes1 nodes2 here →
    ∃ there, descend pair.object1 pair.object2 pair.dest 0 here = .ok true there ∧
      Completed left right (here.1.dest.putFields (Graph.zeroFields pair.dest zeros)) pair.dest link
        nodes1 here there

/-- A way of going down joins all links to some nodes. -/
def JoinsLinks (left right : Graph) (setting : Setting) (descend : Descend)
    (nodes1 nodes2 : List ZeroNode) : Prop :=
  ∀ {pair source1 source2 link here}, source1.level = .ground → source2.level = .ground →
    LinkAhead left right pair link nodes1 nodes2 here →
    ∃ there, (joinFields (joinField setting descend pair source1 source2 0 .ground)
        [⟨pair.object1, link, linkTo nodes1⟩] ⟨true, ∅⟩ >>= finishFields) here = .ok true there ∧
      Completed left right here.1.dest pair.dest link nodes1 here there

/-- When the last field is joined, what is to be folded is folded. -/
theorem finishFields_apply {join : Field → Run Progress FieldJoin} {field : Field} {value : ValueId}
    {fold : Option Fold} (stored : join field here = .ok (.stored value fold) there) :
    (joinFields join [field] ⟨true, ∅⟩ >>= finishFields) here = doFolds fold.toList there := by
  unfold joinFields
  rw [bind_assoc]
  refine (Run.bind_apply_ok stored).trans ?_
  cases fold <;> rfl

/-- Links to nothing are joined. -/
theorem joinsLinks_nil (null1 : left.HasNull) (null2 : right.HasNull) :
    JoinsLinks left right setting descend [] [] := by
  intro pair source1 source2 link here ground1 ground2 waits
  have stored : joinField setting descend pair source1 source2 0 .ground
      ⟨pair.object1, link, .zero⟩ here = .ok (.stored .zero none) _ :=
    joinField_zero waits.underway null1 null2 ground1 ground2 waits.held2 waits.vacant
  exact ⟨_, finishFields_apply stored,
    waits.underway.storing waits.vacant waits.underway.sound.hasValue_zero, Nat.le_refl _, .last⟩

section Linked

variable (waits : LinkAhead left right pair link (node1 :: rest1) (node2 :: rest2) here)
variable (opposite : Graph.Opposite left right node1 node2 rest1 rest2)

include waits opposite

/-- The nodes that links lead to are about to be joined. -/
theorem entering_linked (chain1 : left.Chain rest1) (chain2 : right.Chain rest2) :
    Entering left right ⟨node1.object, node2.object, ⟨here.2.next⟩⟩ 128 [dataRange] nextRange rest1
      rest2 (linked here node1 node2) where
  underway := waits.underway.linked
  ahead := ahead_linked opposite waits.ahead chain1 chain2
  form := Graph.form_node
  holder1 := ⟨node1.label, true, true, opposite.left.holder⟩
  holder2 := ⟨node2.label, true, true, opposite.right.holder⟩
  place := ⟨.region 128 node1.label, by
    rw [dest_linked, Graph.object?, Graph.get?_withNode, if_pos rfl]
    rfl, rfl⟩
  empty := by
    rw [dest_linked, Graph.layout_withNode]
    exact waits.underway.sound.layout_of_absent waits.underway.absent

end Linked

/-- A last node is offered no folding. -/
theorem head?_startingFrom_last {graph : Graph} {node : ObjectId} (sound : graph.Sound)
    (layout : graph.layout node = zeroLayout .zero) :
    (Fold.startingFrom graph node).head? = none := by
  have fields : graph.fieldsOf node = [⟨node, dataRange, .zero⟩, ⟨node, nextRange, .zero⟩] := by
    rw [Graph.fieldsOf, layout]
    rfl
  simp [Fold.startingFrom, fields, sound.zero, sound.parts?_null, Target.null]

/-- A graph in which a new node has got its zero is sound. -/
theorem sound_withZero (underway : Underway left right here) (label : String) :
    ((here.1.dest.withNode ⟨here.2.next⟩ ⟨here.2.next + 1⟩ label).putField
      ⟨⟨here.2.next⟩, dataRange, .zero⟩).Sound := by
  have sound : (here.1.dest.withNode ⟨here.2.next⟩ ⟨here.2.next + 1⟩ label).Sound :=
    underway.sound.withNode underway.absent (by simp [ValueId.zero])
  have found : (here.1.dest.withNode ⟨here.2.next⟩ ⟨here.2.next + 1⟩ label).object? ⟨here.2.next⟩ =
      some (.region 128 label) := by
    rw [Graph.object?, Graph.get?_withNode, if_pos rfl]
    rfl
  have roomy := Graph.form_node.roomy found rfl
    (underway.sound.layout_of_absent underway.absent)
  exact sound.putField (roomy.vacant dataRange List.mem_cons_self)

section Returned

variable {middle : Progress × Supply}
variable (underway : Underway left right here) (vacant : here.1.dest.Vacant pair.dest link)
variable (completed : Completed left right
  ((here.1.dest.withNode ⟨here.2.next⟩ ⟨here.2.next + 1⟩ node1.label).putField
    ⟨⟨here.2.next⟩, dataRange, .zero⟩)
  ⟨here.2.next⟩ nextRange rest1 (linked here node1 node2) middle)

include underway vacant completed

omit completed in
/-- The holder is not the node that its link leads to. -/
theorem holder_ne_node : pair.dest ≠ ⟨here.2.next⟩ := by
  intro same
  obtain ⟨placed, found, -⟩ := vacant.fits
  have present := Graph.hasObject_of_object? found
  rw [same, underway.absent] at present
  simp at present

/-- The holder still waits for its link when the nodes have been joined. -/
theorem vacant_returned : middle.1.dest.Vacant pair.dest link := by
  have other := holder_ne_node underway vacant
  obtain ⟨placed, found, -⟩ := vacant.fits
  have present : ((here.1.dest.withNode ⟨here.2.next⟩ ⟨here.2.next + 1⟩ node1.label).putField
      ⟨⟨here.2.next⟩, dataRange, .zero⟩).hasObject pair.dest = true := by
    rw [Graph.hasObject, Graph.objects_putField, ← Graph.hasObject, Graph.hasObject_withNode,
      Graph.hasObject_of_object? found, Bool.or_true]
  refine vacant.congr ?_ ?_
  · rw [completed.hung.get?_eq present, Graph.objects_putField, Graph.get?_withNode, if_neg other]
  · rw [completed.hung.layout_eq present other, Graph.layout_putField_of_ne other,
      Graph.layout_withNode]

omit underway vacant in
/-- The joint address of the nodes is in the destination. -/
theorem hasValue_returned : middle.1.dest.hasValue ⟨here.2.next + 1⟩ = true := by
  have leads : ((here.1.dest.withNode ⟨here.2.next⟩ ⟨here.2.next + 1⟩ node1.label).putField
      ⟨⟨here.2.next⟩, dataRange, .zero⟩).target? ⟨here.2.next + 1⟩ =
      some ⟨⟨here.2.next⟩, 0, .region⟩ := by
    rw [Graph.target?_putField, Graph.target?_withNode, if_pos rfl]
  exact Graph.hasValue_of_target? (completed.hung.target?_eq leads)

/-- The link is stored. -/
theorem underway_returned : Underway left right
    (middle.1.storing ⟨pair.dest, link, ⟨here.2.next + 1⟩⟩, middle.2) :=
  completed.underway.storing (vacant_returned underway vacant completed)
    (hasValue_returned completed)

/-- When the last nodes have been joined, their counterpart is the tail that the holder gets. -/
theorem exists_completed_last
    (isLast : rest1 = [] ∧ middle.1.dest =
      ((here.1.dest.withNode ⟨here.2.next⟩ ⟨here.2.next + 1⟩ node1.label).putField
        ⟨⟨here.2.next⟩, dataRange, .zero⟩).putField ⟨⟨here.2.next⟩, nextRange, .zero⟩) :
    ∃ there, doFolds (Fold.startingFrom middle.1.dest ⟨here.2.next⟩).head?.toList
        (middle.1.storing ⟨pair.dest, link, ⟨here.2.next + 1⟩⟩, middle.2) = .ok true there ∧
      Completed left right here.1.dest pair.dest link (node1 :: rest1) here there := by
  obtain ⟨rfl, same⟩ := isLast
  have layout : middle.1.dest.layout ⟨here.2.next⟩ = zeroLayout .zero := by
    rw [same, Graph.layout_putField, if_pos rfl, Graph.layout_putField, if_pos rfl,
      Graph.layout_withNode, underway.sound.layout_of_absent underway.absent]
    rfl
  refine ⟨(middle.1.storing ⟨pair.dest, link, ⟨here.2.next + 1⟩⟩, middle.2), ?_,
    underway_returned underway vacant completed, ?_, ?_⟩
  · rw [head?_startingFrom_last completed.underway.sound layout]
    rfl
  · exact Nat.le_trans (Nat.le_add_right _ 2) completed.time
  · have newAddress := underway.hasValue_eq_false (Nat.le_succ here.2.next)
    have hangs : Graph.Hangs here.1.dest pair.dest link
        ⟨⟨here.2.next⟩, ⟨here.2.next + 1⟩, node1.label, 1⟩ (middle.1.storing
          ⟨pair.dest, link, ⟨here.2.next + 1⟩⟩).dest := by
      rw [Progress.storing, same]
      exact Graph.hangs_last underway.sound underway.absent newAddress
        (holder_ne_node underway vacant)
    exact .tail hangs rfl rfl

/-- When other nodes have been joined, their counterpart is folded with its tail. -/
theorem exists_completed_tail {tail : Tail} (length : tail.length = rest1.length)
    (hangs : Graph.Hangs
      ((here.1.dest.withNode ⟨here.2.next⟩ ⟨here.2.next + 1⟩ node1.label).putField
      ⟨⟨here.2.next⟩, dataRange, .zero⟩) ⟨here.2.next⟩ nextRange tail middle.1.dest) :
    ∃ there, doFolds (Fold.startingFrom middle.1.dest ⟨here.2.next⟩).head?.toList
        (middle.1.storing ⟨pair.dest, link, ⟨here.2.next + 1⟩⟩, middle.2) = .ok true there ∧
      Completed left right here.1.dest pair.dest link (node1 :: rest1) here there := by
  have isUnderway := underway_returned underway vacant completed
  obtain ⟨placed, found, -⟩ := vacant.fits
  have grows : Graph.Grows here.1.dest pair.dest link ⟨here.2.next⟩ ⟨here.2.next + 1⟩ node1.label
      tail middle.1.dest :=
    ⟨underway.sound, Graph.hasObject_of_object? found, underway.absent,
      underway.hasValue_eq_false (Nat.le_succ _), hangs⟩
  have leading : middle.1.dest.LeadsToTail ⟨here.2.next⟩ node1.label tail := by
    refine hangs.leadsToTail ?_ ?_ ?_
    · exact sound_withZero underway node1.label
    · rw [Graph.objects_putField, Graph.get?_withNode, if_pos rfl]
    · rw [Graph.layout_putField, if_pos rfl, Graph.layout_withNode,
        underway.sound.layout_of_absent underway.absent]
      rfl
  have stored : (middle.1.storing ⟨pair.dest, link, ⟨here.2.next + 1⟩⟩).dest.LeadsToTail
      ⟨here.2.next⟩ node1.label tail :=
    leading.putField (holder_ne_node underway vacant).symm
      (grows.ne_of_present grows.there).2.symm grows.address_absent.2.symm
  have done := doFolds_of_possible isUnderway stored.possible
  rw [leading.head?_startingFrom completed.underway.sound]
  refine ⟨_, done, isUnderway.folding stored.possible, ?_, ?_⟩
  · have before : here.2.next + 2 ≤ middle.2.next := completed.time
    exact Nat.le_trans (Nat.le_add_right _ 3) (Nat.succ_le_succ before)
  · exact .tail (grows.folded isUnderway.sound stored isUnderway.absent) rfl
      (congrArg (· + 1) length)

end Returned

/-- The layouts of two holders are aligned as they are, and the fields of the left one are
joined. -/
theorem joinContents_holders {label1 label2 : String} {valid1 valid2 heap1 heap2 : Bool}
    (underway : Underway left right here) (form : Graph.Form size zeros link)
    (holder1 : left.Holder pair.object1
      ⟨.region size label1, valid1, heap1⟩ zeros link (linkTo nodes1))
    (holder2 : right.Holder pair.object2
      ⟨.region size label2, valid2, heap2⟩ zeros link (linkTo nodes2))
    (setting : Setting) (descend : Descend) :
    joinContents setting descend pair 0 here =
      (joinFields
        (joinField setting descend pair (.region size label1) (.region size label2) 0 .ground)
        (Graph.zeroFields pair.object1 zeros ++ [⟨pair.object1, link, linkTo nodes1⟩]) ⟨true, ∅⟩ >>=
          finishFields) here := by
  have same : SameRanges left right pair.object1 pair.object2 := fun range =>
    holder1.isSome_valueAt?.trans holder2.isSome_valueAt?.symm
  have aligned : onSides (Alignment.align pair.object1 pair.object2) here =
      .ok .equal ({ here.1 with left := left, right := right }, here.2) := by
    rw [onSides, Run.within_apply, underway.left, underway.right,
      Alignment.align_of_sameRanges (holder1.tiledAt form) holder2.object?_eq rfl same]
  have unchanged : ({ here.1 with
      left := left, right := right, status := here.1.status.meet .equal }, here.2) = here := by
    rw [Status.meet_equal, ← underway.left, ← underway.right]
  have contents : joinContents setting descend pair 0 here =
      joinAligned setting descend pair (.region size label1) (.region size label2) _ :=
    joinContents_of_align (underway.left ▸ holder1.object?_eq) (underway.right ▸ holder2.object?_eq)
      rfl aligned same
  rw [contents, unchanged, joinAligned_apply setting descend underway.levels rfl rfl, underway.left,
    holder1.fields]

section Links

variable (folds : setting.options.foldLists = true) (differ : setting.identical = false)
variable (null1 : left.HasNull) (null2 : right.HasNull)

include folds differ null1 null2

/-- The links to two nodes are joined by joining the nodes. -/
theorem joinField_node
    (waits : LinkAhead left right pair link (node1 :: rest1) (node2 :: rest2) here)
    (opposite : Graph.Opposite left right node1 node2 rest1 rest2) (chain1 : left.Chain rest1)
    (chain2 : right.Chain rest2) (ground1 : source1.level = .ground)
    (ground2 : source2.level = .ground) {middle : Progress × Supply}
    (down : descend node1.object node2.object ⟨here.2.next⟩ 0 (linked here node1 node2) =
      .ok true middle) (vacant : middle.1.dest.Vacant pair.dest link) :
    joinField setting descend pair source1 source2 0 .ground
      ⟨pair.object1, link, node1.address⟩ here =
      .ok (.stored ⟨here.2.next + 1⟩ (Fold.startingFrom middle.1.dest ⟨here.2.next⟩).head?)
        (middle.1.storing ⟨pair.dest, link, ⟨here.2.next + 1⟩⟩, middle.2) := by
  have underway := waits.underway
  have below1 : levelBelow here.1.left source1 node1.address = .ok .ground :=
    underway.left ▸ (Graph.Chain.cons opposite.left opposite.later1 chain1).levelBelow null1 source1
  have below2 : levelBelow here.1.right source2 node2.address = .ok .ground :=
    underway.right ▸
      (Graph.Chain.cons opposite.right opposite.later2 chain2).levelBelow null2 source2
  have joined : joinValuePair setting descend node1.address node2.address link.size 0 .ground here =
      .ok (.joined ⟨here.2.next + 1⟩
        (Fold.startingFrom middle.1.dest ⟨here.2.next⟩).head?) middle := by
    rw [joinValuePair_node underway opposite waits.ahead null1 null2]
    unfold goDown
    refine (Run.bind_apply_ok down).trans ?_
    rw [if_pos rfl]
    exact Run.bind_apply_ok (foldAt_of_head? folds differ rfl)
  refine (joinField_of_ground underway.levels (underway.right ▸ waits.held2) below1 below2 ground1
    ground2).trans ((Run.bind_apply_ok joined).trans ?_)
  exact Run.bind_apply_ok (store_of_vacant vacant)

/-- If the next nodes are joined, then so are the links to the nodes before them. -/
theorem joinsLinks_cons (opposite : Graph.Opposite left right node1 node2 rest1 rest2)
    (chain1 : left.Chain rest1) (chain2 : right.Chain rest2)
    (joins : Joins left right descend rest1 rest2) :
    JoinsLinks left right setting descend (node1 :: rest1) (node2 :: rest2) := by
  intro pair source1 source2 link here ground1 ground2 waits
  obtain ⟨middle, down, completed⟩ := joins (entering_linked waits opposite chain1 chain2)
  rw [dest_linked] at completed
  have stored := joinField_node
    folds differ null1 null2 waits opposite chain1 chain2 ground1 ground2
    down (vacant_returned waits.underway waits.vacant completed)
  rw [linkTo, finishFields_apply stored]
  rcases completed.hung.cases with isLast | ⟨next, rest, tail, rfl, hangs, -, length⟩
  · exact exists_completed_last waits.underway waits.vacant completed isLast
  · exact exists_completed_tail waits.underway waits.vacant completed length hangs

omit folds differ in
/-- Where links are joined, so are the objects that hold them. -/
theorem joins_of_joinsLinks (links : JoinsLinks left right setting descend nodes1 nodes2) :
    Joins left right (fun object1 object2 dest =>
      joinObjectsWith setting descend ⟨object1, object2, dest⟩) nodes1 nodes2 := by
  intro pair size zeros link here entering
  obtain ⟨label1, valid1, heap1, holder1⟩ := entering.holder1
  obtain ⟨label2, valid2, heap2, holder2⟩ := entering.holder2
  obtain ⟨placed, found, sized⟩ := entering.place
  have ground1 : (Object.region size label1).level = .ground := rfl
  have ground2 : (Object.region size label2).level = .ground := rfl
  have contents := joinContents_holders
    entering.underway entering.form holder1 holder2 setting descend
  obtain ⟨zerosJoined, further, roomy⟩ :=
    joinFields_zeros entering.underway null1 null2 ground1 ground2
    (fun range member => holder2.valueAt?_iff.2 (.inl ⟨member, rfl⟩))
    (entering.form.roomy found sized entering.empty) [⟨pair.object1, link, linkTo nodes1⟩] ⟨true, ∅⟩
  obtain ⟨there, done, completed⟩ := links ground1 ground2
    ⟨further, ⟨entering.ahead.left, entering.ahead.right, entering.ahead.joined⟩,
      holder2.valueAt?_iff.2 (.inr ⟨rfl, rfl⟩), roomy.vacant link List.mem_cons_self⟩
  rw [Run.bind_apply, zerosJoined, ← Run.bind_apply, done] at contents
  refine ⟨there, ?_, ⟨completed.underway, completed.time, completed.hung⟩⟩
  unfold joinObjectsWith
  exact Run.bind_apply_ok contents

/-- Holders of opposite links are joined, if there are enough steps. -/
theorem joins_of_abreast (abreast : Graph.Abreast left right nodes1 nodes2) {depth : Nat}
    (enough : nodes1.length < depth) : Joins left right (fun object1 object2 dest =>
      joinObjects setting depth ⟨object1, object2, dest⟩) nodes1 nodes2 := by
  induction abreast generalizing depth with
  | nil =>
      obtain ⟨depth, rfl⟩ : ∃ less, depth = less + 1 := ⟨depth - 1, by omega⟩
      exact joins_of_joinsLinks null1 null2 (joinsLinks_nil null1 null2)
  | cons opposite abreast ih =>
      obtain ⟨depth, rfl⟩ : ∃ less, depth = less + 1 := ⟨depth - 1, by omega⟩
      exact joins_of_joinsLinks null1 null2 (joinsLinks_cons folds differ null1 null2 opposite
        abreast.chainLeft abreast.chainRight (ih (Nat.lt_of_succ_lt_succ enough)))

end Links

end Join

end ShapeDomain
