import ShapeDomain.Proofs.Fold.Stable
import ShapeDomain.Proofs.Lists.Meeting

/-!
# Lists that cover each other have a join

When two lists are joined, opposite nodes are reached at the same time and for the first time, so
they get a counterpart of their own.  A folding that is offered at a node is done when the node
before it has been joined, and until then nothing that it depends on changes.  So joining two lists
of which one covers the other never gives up, whether or not nodes are folded.
-/

namespace ShapeDomain

open State (headRange dataRange nextRange)
open Join

/-! ### What has no counterpart yet -/

/-- From some places of a list on, nothing has a counterpart: neither the links and what they lead
to, nor the data. -/
structure Untouched (map : Correspondence) (nodes : List ListNode) (links data : Nat) : Prop where
  /-- Links have no counterparts. -/
  link : ∀ {index}, links ≤ index →
    linkAt nodes index = .zero ∨ map.value? (linkAt nodes index) = none
  /-- Nor has what they lead to. -/
  object : ∀ {index node}, links ≤ index → nodes[index]? = some node →
    map.object? node.object = none
  /-- Nor have data. -/
  data : ∀ {index value}, data ≤ index → dataAt? nodes index = some value →
    map.value? value = none

namespace Untouched

variable {graph : Graph} {data : Option Int} {head : ObjectId} {nodes : List ListNode}
variable {map : Correspondence} {index links other : Nat} {value joint : ValueId} {node : ListNode}

theorem mono (untouched : Untouched map nodes links index) (fewer : index ≤ other) :
    Untouched map nodes links other :=
  ⟨untouched.link, untouched.object, fun after => untouched.data (Nat.le_trans fewer after)⟩

/-- A list is untouched while only its variable has a counterpart. -/
theorem start (list : graph.HoldsList data head nodes) (values : ∀ value, map.value? value = none)
    (objects : ∀ {id}, (map.object? id).isSome = true → id = head) : Untouched map nodes 0 0 where
  link _ := .inr (values _)
  object {index node} _ isNode := by
    by_contra mapped
    have isHead := objects (Option.isSome_iff_ne_none.2 mapped)
    have place : (spine head nodes)[index + 1]? = some head := by
      rw [spine_succ, isNode, Option.map_some, isHead]
    exact Nat.succ_ne_zero _ (list.index_unique place rfl)
  data _ _ := values _

/-- What had no counterpart still has none when something else gets one. -/
theorem value?_eq_none (different : value ≠ joint) (free : map.value? value = none)
    (image : ValueId) : (setUnlessZero map joint image).value? value = none := by
  cases bound : (setUnlessZero map joint image).value? value with
  | none => rfl
  | some found =>
      rcases of_value?_setUnlessZero bound with ⟨same, -⟩ | bound
      · exact absurd same different
      · rw [free] at bound
        simp at bound

/-- The data of a node has got its counterpart. -/
theorem data_joined (untouched : Untouched map nodes links index)
    (list : graph.HoldsList data head nodes) (isData : dataAt? nodes index = some value)
    (image : ValueId) : Untouched (setUnlessZero map value image) nodes links (index + 1) where
  link {other} after := (untouched.link after).imp_right fun free =>
    value?_eq_none (list.link_ne_data isData) free image
  object after isNode := (object?_setUnlessZero ..).trans (untouched.object after isNode)
  data {other value'} after isData' := by
    refine value?_eq_none (fun same => ?_) (untouched.data (Nat.le_of_succ_le after) isData') image
    have equal := list.data_unique isData (same ▸ isData')
    omega

/-- A link and the node that it leads to have got their counterparts. -/
theorem link_joined (untouched : Untouched map nodes index other)
    (list : graph.HoldsList data head nodes) (isNode : nodes[index]? = some node)
    (image : ObjectId) (value : ValueId) :
    Untouched (setUnlessZero (map.setObject node.object image) (linkAt nodes index) value) nodes
      (index + 1) other where
  link {index'} after := by
    refine or_iff_not_imp_left.2 fun proper => ?_
    have free := (untouched.link (Nat.le_of_succ_le after)).resolve_left proper
    refine value?_eq_none (fun same => ?_) ((Correspondence.value?_setObject ..).trans free) value
    have equal := (list.link_unique same).resolve_left proper
    omega
  object {index' node'} after isNode' := by
    have different : node'.object ≠ node.object := by
      intro same
      have place : (spine head nodes)[index + 1]? = some node.object := by
        rw [spine_succ, isNode]
        rfl
      have place' : (spine head nodes)[index' + 1]? = some node.object := by
        rw [spine_succ, isNode', Option.map_some, same]
      have equal := list.index_unique place place'
      omega
    rw [object?_setUnlessZero, Correspondence.object?_setObject, if_neg different]
    exact untouched.object (Nat.le_of_succ_le after) isNode'
  data after isData := value?_eq_none (list.link_ne_data isData).symm
    ((Correspondence.value?_setObject ..).trans (untouched.data after isData)) value

end Untouched

/-! ### Opposite objects -/

variable {basis : Basis} {data1 data2 : Option Int} {head1 head2 : ObjectId}
variable {nodes1 nodes2 : List ListNode} {index room : Nat}
variable {path waiting : List ObjectPair} {pair : ObjectPair} {here there : Progress × Supply}
variable {descend : Descend} {field : Field} {rest : List Field} {source1 source2 : Object}
    {value2 : ValueId}

namespace TwoLists

variable (lists : TwoLists basis.left basis.right data1 data2 head1 head2 nodes1 nodes2)

include lists

/-- Opposite objects have the same ranges, so aligning their layouts changes nothing. -/
theorem valueAt?_left (realized : Realized basis here.1 pair.object1 pair.object2)
    (opposite : Opposite head1 head2 nodes1 nodes2 index pair.object1 pair.object2)
    (range : BitRange) :
    here.1.left.valueAt? pair.object1 range = basis.left.valueAt? pair.object1 range :=
  valueAt?_of_cell? basis.leftPlain.positive (realized.left range) (lists.cell?_eq opposite)

theorem valueAt?_right (realized : Realized basis here.1 pair.object1 pair.object2)
    (opposite : Opposite head1 head2 nodes1 nodes2 index pair.object1 pair.object2)
    (range : BitRange) :
    here.1.right.valueAt? pair.object2 range = basis.right.valueAt? pair.object2 range :=
  valueAt?_of_cell? basis.leftPlain.positive (realized.right range)
    (lists.symm.cell?_eq opposite.symm)

/-- The fields of an object of the spine that are joined are its data and its link. -/
theorem fieldsOf_left (realized : Realized basis here.1 pair.object1 pair.object2)
    (opposite : Opposite head1 head2 nodes1 nodes2 index pair.object1 pair.object2) :
    here.1.left.fieldsOf pair.object1 =
      (dataAt? nodes1 index).toList.map (Field.mk pair.object1 dataRange) ++
        [⟨pair.object1, linkRange index, linkAt nodes1 index⟩] := by
  have same : here.1.left.layout pair.object1 = basis.left.layout pair.object1 :=
    Graph.layout_ext (lists.valueAt?_left realized opposite)
  rw [← lists.list1.fieldsOf_of_spine opposite.1, Graph.fieldsOf, same, Graph.fieldsOf]

/-! ### Data -/

omit lists in
/-- Storing a joint value changes no counterparts. -/
theorem storeJoined_maps (dest : ObjectId) (range : BitRange) (value : ValueId)
    (fold : Option Fold) :
    Run.Passes (storeJoined dest range (.joined value fold)) here fun outcome there =>
      outcome = .stored value fold ∧ there.1.leftMap = here.1.leftMap ∧
        there.1.rightMap = here.1.rightMap := by
  unfold storeJoined
  refine Run.ends_bind (fun _ middle => middle.1.leftMap = here.1.leftMap ∧
    middle.1.rightMap = here.1.rightMap) ?_ fun _ _ same => Run.ends_pure ⟨rfl, same⟩
  unfold store
  refine Run.ends_bind_of_ok (Run.ask_apply _ _) ?_
  split
  case isTrue => exact Run.ends_pure ⟨rfl, rfl⟩
  case isFalse =>
    unfold attemptDest onDest
    exact (Run.passes_any _).within (fun _ _ _ => ⟨rfl, rfl⟩) fun _ _ _ => trivial

/-- What is known of opposite data fits, so they get a joint value. -/
theorem joinField_data (descend : Descend) (covers : ListCovers data1 data2 nodes1 nodes2)
    {value1 : ValueId}
    (filling : Filling basis path waiting pair (⟨pair.object1, dataRange, value1⟩ :: rest) here)
    (opposite : Opposite head1 head2 nodes1 nodes2 index pair.object1 pair.object2)
    (ground1 : source1.level = .ground) (ground2 : source2.level = .ground)
    (isData1 : dataAt? nodes1 index = some value1)
    (untouched1 : Untouched here.1.leftMap nodes1 index index)
    (untouched2 : Untouched here.1.rightMap nodes2 index index) :
    Run.Passes (joinField basis.setting descend pair source1 source2 0 .ground
        ⟨pair.object1, dataRange, value1⟩) here fun outcome there =>
      (∃ value, outcome = .stored value none) ∧
        Untouched there.1.leftMap nodes1 index (index + 1) ∧
        Untouched there.1.rightMap nodes2 index (index + 1) := by
  have invariant := filling.invariant
  obtain ⟨value2, meeting, same⟩ := joinField_apply descend filling ground1 ground2
  have isData2 : dataAt? nodes2 index = some value2 := by
    have held2 := (lists.valueAt?_right meeting.realized opposite _).symm.trans meeting.held2
    refine ((lists.list2.valueAt?_iff opposite.2).1 held2).elim (fun isLink => ?_) And.right
    cases index with
    | zero => simp [dataAt?] at isData1
    | succ => simp [dataRange, linkRange, nextRange] at isLink
  obtain ⟨proper1, plain1, -⟩ := lists.list1.of_data isData1
  obtain ⟨-, plain2, -⟩ := lists.list2.of_data isData2
  rw [← invariant.address?_left] at plain1
  rw [← invariant.address?_right] at plain2
  have free : Free here value1 value2 := invariant.free proper1
    (untouched1.data (Nat.le_refl _) isData1) (.inr (untouched2.data (Nat.le_refl _) isData2))
  obtain ⟨value, dest, status, now, done, -⟩ :=
    (joinNumbers_apply invariant meeting free plain1 plain2).resolve_right
      fun refused => refused.2 (lists.cover covers)
  have joined := joinValuePair_of_free basis.setting descend free dataRange.size
  rw [plain1, plain2] at joined
  refine Run.Ends.congr (Run.ends_bind_of_ok (joined.trans done) ?_) same
  refine (storeJoined_maps _ _ _ _).mono ?_
  rintro _ there ⟨rfl, left, right⟩
  refine ⟨⟨value, rfl⟩, ?_, ?_⟩
  · rw [left]
    exact untouched1.data_joined lists.list1 isData1 value
  · rw [right]
    exact untouched2.data_joined lists.list2 isData2 value

/-! ### Links -/

omit lists in
/-- A way of going down from a pair of opposite objects joins the pair of the next ones. -/
def WalksOn (basis : Basis) (descend : Descend) (room : Nat) (path waiting : List ObjectPair)
    (head1 head2 : ObjectId) (nodes1 nodes2 : List ListNode) (index : Nat) : Prop :=
  ∀ {child : ObjectPair} {here : Progress × Supply}, Invariant basis path (child :: waiting) here →
    Next basis path child → (∀ other ∈ waiting, other.dest ≠ child.dest) →
    Ready basis waiting here → unmapped basis.left here.1.leftMap < room →
    Opposite head1 head2 nodes1 nodes2 index child.object1 child.object2 →
    Untouched here.1.leftMap nodes1 index index → Untouched here.1.rightMap nodes2 index index →
    Run.Passes (descend child.object1 child.object2 child.dest 0) here fun joined _ => joined = true

/-- Opposite links get a joint value, and a folding that comes with it is possible. -/
theorem joinValuePair_link (covers : ListCovers data1 data2 nodes1 nodes2)
    (invariant : Invariant basis (pair :: path) waiting here) (ready : Ready basis waiting here)
    {range : BitRange} (meeting : Meeting basis waiting here.1 pair range (linkAt nodes1 index)
      (linkAt nodes2 index))
    (enough : unmapped basis.left here.1.leftMap ≤ room)
    (walksOn : WalksOn basis descend room
      (pair :: path) waiting head1 head2 nodes1 nodes2 (index + 1))
    (untouched1 : Untouched here.1.leftMap nodes1 index (index + 1))
    (untouched2 : Untouched here.1.rightMap nodes2 index (index + 1)) :
    Run.Passes (joinValuePair basis.setting descend (linkAt nodes1 index) (linkAt nodes2 index)
        range.size 0 .ground) here fun outcome there =>
      ∃ value fold, outcome = .joined value fold ∧ ∀ found, fold = some found →
        (∃ parts, found.parts? there.1.dest = some parts) ∧ index < nodes1.length := by
  by_cases inside : index < nodes1.length
  case neg =>
    have last1 := linkAt_of_length_le (Nat.le_of_not_lt inside)
    have last2 := linkAt_of_length_le (covers.length ▸ Nat.le_of_not_lt inside)
    have zeros : jointValue? here.1 (linkAt nodes1 index) (linkAt nodes2 index) = some .zero := by
      rw [last1, last2]
      rfl
    unfold joinValuePair
    refine Run.ends_bind_of_ok (Run.state_apply _) ?_
    simp only [zeros]
    exact Run.ends_pure ⟨.zero, none, rfl, by simp⟩
  case pos =>
    obtain ⟨node1, isNode1⟩ : ∃ node, nodes1[index]? = some node :=
      ⟨_, List.getElem?_eq_getElem inside⟩
    obtain ⟨node2, isNode2⟩ : ∃ node, nodes2[index]? = some node :=
      ⟨_, List.getElem?_eq_getElem (covers.length ▸ inside)⟩
    have leads1 : address? here.1.left (linkAt nodes1 index) = some ⟨node1.object, 0, .region⟩ :=
      (invariant.address?_left _).trans (lists.list1.address?_link.trans (by rw [isNode1]; rfl))
    have leads2 : address? here.1.right (linkAt nodes2 index) = some ⟨node2.object, 0, .region⟩ :=
      (invariant.address?_right _).trans (lists.list2.address?_link.trans (by rw [isNode2]; rfl))
    have free : Free here (linkAt nodes1 index) (linkAt nodes2 index) :=
      invariant.free (address?_eq_some_iff.1 leads1).1
        ((untouched1.link (Nat.le_refl _)).resolve_left (address?_eq_some_iff.1 leads1).1)
        (untouched2.link (Nat.le_refl _))
    have leading : Leading basis waiting here pair range (linkAt nodes1 index) (linkAt nodes2 index)
        ⟨node1.object, 0, .region⟩ ⟨node2.object, 0, .region⟩ := ⟨meeting, free, leads1, leads2⟩
    obtain ⟨id, dest, now, done, making, stack, globals⟩ := destination_of_free invariant leading
      (lists.cover covers) (lists.list1.object_ne_null isNode1) (lists.list2.object_ne_null isNode2)
      (untouched1.object (Nat.le_refl _) isNode1) (untouched2.object (Nat.le_refl _) isNode2)
    obtain ⟨value, middle, goesDown, descending⟩ := joinAddresses_of_made descend invariant leading
      rfl ready rfl done making stack globals
    have joined := joinValuePair_of_free basis.setting descend free range.size
    rw [leads1, leads2] at joined
    refine Run.Ends.congr ?_ (joined.trans goesDown)
    have opposite : Opposite head1 head2 nodes1 nodes2 (index + 1) node1.object node2.object :=
      ⟨by rw [spine_succ, isNode1]; rfl, by rw [spine_succ, isNode2]; rfl⟩
    unfold goDown
    refine Run.ends_bind _ (walksOn descending.waits descending.next (descending.apart ready)
      (ready.onward descending.onward) (descending.fewer enough) opposite ?_ ?_) ?_
    · rw [descending.leftMap]
      exact untouched1.link_joined lists.list1 isNode1 id value
    · rw [descending.rightMap]
      exact untouched2.link_joined lists.list2 isNode2 id value
    · rintro _ there rfl
      obtain ⟨fold, offer, offered⟩ := foldAt_apply basis.setting id there
      rw [if_pos rfl]
      refine Run.ends_bind_of_ok offer ?_
      exact Run.ends_pure ⟨value, fold, rfl,
        fun found isFold => ⟨(offered found isFold).2.2.2, inside⟩⟩

/-! ### Foldings -/

/-- A folding that is offered at a node stays possible when the object before it gets its link. -/
theorem parts?_stored (filling : Filling basis path waiting pair (field :: rest) here)
    (opposite : Opposite head1 head2 nodes1 nodes2 index pair.object1 pair.object2)
    (inside : index < nodes1.length) {value : ValueId}
    (isJoint : jointValue? here.1 (linkAt nodes1 index) (linkAt nodes2 index) = some value)
    (present : here.1.dest.hasObject pair.dest = true) {fold : Fold} {parts : Fold.Parts}
    (offers : Offers basis (pair :: path) here fold)
    (found : fold.parts? here.1.dest = some parts) :
    fold.parts? (here.1.dest.putField ⟨pair.dest, field.range, value⟩) = some parts := by
  have invariant := filling.invariant
  have possible := Fold.possible_of_parts? found
  obtain ⟨child, next, mapped⟩ := offers.child
  obtain ⟨child1, child2⟩ := mapped (Graph.hasObject_of_object? possible.head)
  obtain ⟨mapped1, mapped2, region⟩ := filling.isOpen.present present
  have isNext : (spine head1 nodes1)[index + 1]? = some child.object1 := by
    obtain ⟨_, isHead, leads1, -⟩ := next.leads
    obtain rfl := Option.some.inj isHead
    obtain ⟨_, isAt, isNext⟩ := lists.list1.of_leads leads1
    rwa [lists.list1.index_unique opposite.1 isAt]
  refine Fold.parts?_putField found invariant.dest.tiled (filling.vacant present) ?_ ?_ ?_
  · rintro (same : fold.head = pair.dest)
    rw [same] at child1
    exact next.new1 pair List.mem_cons_self
      ((invariant.leftMap.unique mapped1 child1).resolve_right (by simp [region]))
  · rintro (same : fold.successor = pair.dest)
    -- The node would lead back to the object before it.
    rw [← same] at mapped1 mapped2 region
    obtain ⟨back, -⟩ := leads_of_possible invariant possible child1 child2 mapped1 mapped2 region
    obtain ⟨place, isChild, isBefore⟩ := lists.list1.of_leads back
    have after := lists.list1.index_unique isNext isChild
    have before := lists.list1.index_unique opposite.1 isBefore
    omega
  · rintro (same : value = parts.link.value)
    -- The stored link leads to the node, and the link of the node to its successor.
    obtain ⟨node, isNode⟩ : ∃ node, nodes1[index]? = some node :=
      ⟨_, List.getElem?_eq_getElem inside⟩
    have leads : address? here.1.left (linkAt nodes1 index) = some ⟨node.object, 0, .region⟩ :=
      (invariant.address?_left _).trans (lists.list1.address?_link.trans (by rw [isNode]; rfl))
    obtain ⟨zero, -⟩ | ⟨-, isJoint⟩ := jointValue?_eq_some_iff.1 isJoint
    · exact (address?_eq_some_iff.1 leads).1 zero
    cases (invariant.joined isJoint).agree with
    | plain plain1 => simp [leads] at plain1
    | address leads1 _ place =>
        obtain ⟨specifier, isLink⟩ := possible.link.target
        obtain rfl := Option.some.inj (leads.symm.trans leads1)
        have isChild : node.object = child.object1 := by
          rw [spine_succ, isNode] at isNext
          exact Option.some.inj isNext
        have isImage := place.left
        rw [image?_of_proper (lists.list1.object_ne_null isNode), isChild, child1] at isImage
        exact possible.distinct
          ((Option.some.inj isImage).trans (place.leads _ (same ▸ isLink)).1.symm)

/-- Opposite objects get their link, and the folding that comes with it can be done. -/
theorem joinField_link (covers : ListCovers data1 data2 nodes1 nodes2)
    (filling : Filling basis path waiting pair
      [⟨pair.object1, linkRange index, linkAt nodes1 index⟩] here)
    (opposite : Opposite head1 head2 nodes1 nodes2 index pair.object1 pair.object2)
    (ground1 : source1.level = .ground) (ground2 : source2.level = .ground)
    (enough : unmapped basis.left here.1.leftMap ≤ room)
    (descends : basis.Descends descend room (pair :: path) waiting)
    (walksOn : WalksOn basis descend room
      (pair :: path) waiting head1 head2 nodes1 nodes2 (index + 1))
    (untouched1 : Untouched here.1.leftMap nodes1 index (index + 1))
    (untouched2 : Untouched here.1.rightMap nodes2 index (index + 1)) :
    Run.Passes (joinField basis.setting descend pair source1 source2 0 .ground
        ⟨pair.object1, linkRange index, linkAt nodes1 index⟩) here fun outcome there =>
      ∃ value fold, outcome = .stored value fold ∧
        Invariant basis (pair :: path) waiting there ∧ ∀ found, fold = some found →
          ∃ parts, found.parts? there.1.dest = some parts := by
  have invariant := filling.invariant
  obtain ⟨value2, meeting, same⟩ := joinField_apply descend filling ground1 ground2
  obtain rfl : value2 = linkAt nodes2 index := by
    have held2 := (lists.valueAt?_right meeting.realized opposite _).symm.trans meeting.held2
    refine ((lists.list2.valueAt?_iff opposite.2).1 held2).elim And.right fun isData => ?_
    cases index with
    | zero => simp [dataAt?] at isData
    | succ => simp [dataRange, linkRange, nextRange] at isData
  have ends := joinValuePair_ends invariant meeting rfl filling.ready enough descends
  have passes := lists.joinValuePair_link covers invariant filling.ready meeting enough walksOn
    untouched1 untouched2
  refine Run.Ends.congr (Run.ends_bind _ (ends.passes.and passes) ?_) same
  rintro _ middle ⟨joined, value, fold, rfl, possible⟩
  obtain ⟨invariant', onward, isJoint, offers⟩ := joined
  have filling' := filling.onward invariant' onward
  have held2 := (Graph.valueAt?_congr (onward.rightLayout filling.isOpen.relates.right (by simp))
    _).trans meeting.held2
  unfold storeJoined
  cases present : middle.1.dest.hasObject pair.dest with
  | false =>
      obtain ⟨fault, there, stopped⟩ := store_error present invariant'.dest
      exact Run.passes_of_error (Run.bind_apply_error stopped)
  | true =>
      have storing := filling'.storing present held2 isJoint
      refine Run.ends_bind_of_ok storing.store_apply (Run.ends_pure ⟨value, fold, rfl, storing.next,
        fun found isFold => ?_⟩)
      obtain ⟨⟨parts, isPossible⟩, inside⟩ := possible found isFold
      exact ⟨parts, lists.parts?_stored filling' opposite inside isJoint present
        (offers found isFold) isPossible⟩

/-! ### Pairs of objects -/

omit lists in
/-- When all fields are joined, a folding that is possible is done. -/
theorem finishFields_passes (invariant : Invariant basis path waiting here) (value : ValueId)
    {fold : Option Fold}
    (possible : ∀ found, fold = some found → ∃ parts, found.parts? here.1.dest = some parts) :
    Run.Passes (finishFields (some ((⟨true, ∅⟩ : Harvest).note value fold))) here
      fun joined _ => joined = true := by
  cases fold with
  | none => exact Run.ends_pure rfl
  | some fold =>
      obtain ⟨parts, found⟩ := possible fold rfl
      show Run.Passes (doFolds [fold]) here fun joined _ => joined = true
      unfold doFolds
      refine Run.ends_bind_of_ok
        (onDest_perform invariant.dest invariant.hasObject_of_next found) ?_
      exact Run.ends_bind_of_ok (Run.modify_apply _ _) (Run.ends_pure rfl)

/-- Opposite objects whose layouts are aligned have a join. -/
theorem joinAligned_passes (covers : ListCovers data1 data2 nodes1 nodes2)
    (filling : Filling basis path waiting pair (here.1.left.fieldsOf pair.object1) here)
    (opposite : Opposite head1 head2 nodes1 nodes2 index pair.object1 pair.object2)
    (ground1 : source1.level = .ground) (ground2 : source2.level = .ground)
    (enough : unmapped basis.left here.1.leftMap ≤ room)
    (descends : basis.Descends descend room (pair :: path) waiting)
    (walksOn : WalksOn basis descend room
      (pair :: path) waiting head1 head2 nodes1 nodes2 (index + 1))
    (untouched1 : Untouched here.1.leftMap nodes1 index index)
    (untouched2 : Untouched here.1.rightMap nodes2 index index) :
    Run.Passes (joinAligned basis.setting descend pair source1 source2) here
      fun joined _ => joined = true := by
  -- All that comes after the data.
  have link {middle : Progress × Supply} (filling : Filling basis path waiting pair
      [⟨pair.object1, linkRange index, linkAt nodes1 index⟩] middle)
      (enough : unmapped basis.left middle.1.leftMap ≤ room)
      (untouched1 : Untouched middle.1.leftMap nodes1 index (index + 1))
      (untouched2 : Untouched middle.1.rightMap nodes2 index (index + 1)) :
      Run.Passes (joinFields (joinField basis.setting descend pair source1 source2 0 .ground)
        [⟨pair.object1, linkRange index, linkAt nodes1 index⟩] ⟨true, ∅⟩ >>= finishFields) middle
        fun joined _ => joined = true := by
    have passes := lists.joinField_link
      covers filling opposite ground1 ground2 enough descends walksOn
      untouched1 untouched2
    unfold joinFields
    rw [bind_assoc]
    refine Run.ends_bind _ passes ?_
    rintro _ there ⟨value, fold, rfl, invariant, possible⟩
    exact finishFields_passes invariant value possible
  have fields := lists.fieldsOf_left filling.realized opposite
  refine Run.Ends.congr ?_ 
    (joinAligned_apply basis.setting descend filling.invariant.levels ground1 ground2)
  rw [fields] at filling ⊢
  cases isData1 : dataAt? nodes1 index with
  | none =>
      rw [isData1] at filling
      exact link filling enough (untouched1.mono (Nat.le_succ _)) (untouched2.mono (Nat.le_succ _))
  | some value1 =>
      rw [isData1] at filling
      have ends := joinField_ends filling ground1 ground2 enough descends
      have passes := lists.joinField_data descend covers filling opposite ground1 ground2 isData1
        untouched1 untouched2
      show Run.Passes (joinFields _ (⟨pair.object1, dataRange, value1⟩ ::
        [⟨pair.object1, linkRange index, linkAt nodes1 index⟩]) _ >>= finishFields) here _
      unfold joinFields
      rw [bind_assoc]
      refine Run.ends_bind _ (ends.passes.and passes) ?_
      rintro _ middle ⟨joined, ⟨value, rfl⟩, untouched1', untouched2'⟩
      obtain ⟨filling', onward, -⟩ := joined
      have less : unmapped basis.left middle.1.leftMap ≤ room :=
        Nat.le_trans (unmapped_le fun id isSome =>
          (onward.leftMap (Option.isSome_iff_exists.1 isSome).choose_spec).1) enough
      exact link filling' less untouched1' untouched2'

/-- Opposite objects have a join. -/
theorem joinObjects_passes (covers : ListCovers data1 data2 nodes1 nodes2) (depth : Nat)
    (isPath : Path basis (pair :: path)) (invariant : Invariant basis path (pair :: waiting) here)
    (apart : ∀ other ∈ waiting, other.dest ≠ pair.dest) (ready : Ready basis waiting here)
    (enough : unmapped basis.left here.1.leftMap < depth)
    (opposite : Opposite head1 head2 nodes1 nodes2 index pair.object1 pair.object2)
    (untouched1 : Untouched here.1.leftMap nodes1 index index)
    (untouched2 : Untouched here.1.rightMap nodes2 index index) :
    Run.Passes (joinObjects basis.setting depth pair 0) here fun joined _ => joined = true := by
  induction depth generalizing pair path waiting here index with
  | zero => exact absurd enough (Nat.not_lt_zero _)
  | succ depth ih =>
      let descend : Descend := fun object1 object2 dest =>
        joinObjects basis.setting depth ⟨object1, object2, dest⟩
      have descends : basis.Descends descend depth (pair :: path) waiting :=
        fun invariant next apart ready enough =>
          joinObjects_ends depth (.down isPath next) invariant apart ready enough
      have walksOn : WalksOn basis descend depth (pair :: path) waiting head1 head2 nodes1 nodes2
          (index + 1) := fun invariant next apart ready enough opposite untouched1 untouched2 =>
        ih (.down isPath next) invariant apart ready enough opposite untouched1 untouched2
      obtain ⟨source1, source2, left, right, now, ground1, ground2, aligning, same⟩ :=
        joinContents_apply descend invariant apart
      have joined : Run.Passes (joinAligned basis.setting descend pair source1 source2)
          (here.1.aligning pair left right, now) fun joined _ => joined = true :=
        lists.joinAligned_passes covers (aligning.filling ready) opposite ground1 ground2
          (Nat.le_of_lt_succ enough) descends walksOn untouched1 untouched2
      unfold joinObjects joinObjectsWith
      refine Run.ends_bind _ (joined.congr same) ?_
      rintro _ there rfl
      exact Run.ends_pure rfl

/-! ### The join of two lists -/

/-- Pairs of variables of lists lead to the first nodes. -/
theorem opposite_of_outside (met : Met basis.left basis.right pair.object1 pair.object2)
    (outside : basis.left.isHeap pair.object1 = false) :
    Opposite head1 head2 nodes1 nodes2 0 pair.object1 pair.object2 := by
  obtain ⟨index, opposite⟩ := lists.exists_opposite_of_met met
  cases index with
  | zero => exact opposite
  | succ index =>
      rw [Graph.isHeap, lists.list1.get?_of_spine opposite.1] at outside
      simp at outside

/-- If one list covers the other one, then no pair of variables lacks a join. -/
theorem joinPairs_passes (covers : ListCovers data1 data2 nodes1 nodes2) {pairs : List ObjectPair}
    (matching : Matching basis pairs [] here) (ready : Ready basis pairs here) {depth : Nat}
    (enough : unmapped basis.left here.1.leftMap < depth) :
    Run.Passes (joinPairs basis.setting depth pairs) here fun joined _ => joined = true := by
  have isHead {pair : ObjectPair} (member : pair ∈ pairs) :
      Opposite head1 head2 nodes1 nodes2 0 pair.object1 pair.object2 := by
    refine lists.opposite_of_outside
      (matching.invariant.partners.met pair (by simpa using member)) ?_
    cases heap : basis.left.isHeap pair.object1 with
    | false => rfl
    | true =>
        have mapped := (matching.invariant.waits pair member).left
        have outside := (matching.outside pair member).2
        rw [matching.invariant.leftMap.heap mapped heap] at outside
        simp at outside
  cases pairs with
  | nil => exact Run.ends_pure rfl
  | cons pair rest =>
      obtain rfl : rest = [] := by
        refine List.eq_nil_iff_forall_not_mem.2 fun other member => ?_
        have distinct := matching.distinct1
        simp only [List.map_cons, List.map_nil, List.append_nil, List.nodup_cons] at distinct
        have same := Option.some.inj
          ((isHead List.mem_cons_self).1.symm.trans (isHead (List.mem_cons_of_mem _ member)).1)
        exact distinct.1 (same ▸ List.mem_map_of_mem member)
      have opposite := isHead List.mem_cons_self
      have untouched1 : Untouched here.1.leftMap nodes1 0 0 :=
        .start lists.list1 matching.value?_left fun mapped =>
          (List.mem_singleton.1 (matching.only1 mapped)).trans (Option.some.inj opposite.1).symm
      have untouched2 : Untouched here.1.rightMap nodes2 0 0 :=
        .start lists.list2 matching.value?_right fun mapped =>
          (List.mem_singleton.1 (matching.only2 mapped)).trans (Option.some.inj opposite.2).symm
      unfold joinPairs
      refine Run.ends_bind _ (lists.joinObjects_passes covers depth (.root pair) matching.invariant
        (by simp) ⟨ready.named1, ready.named2, by simp⟩ enough opposite untouched1 untouched2) ?_
      rintro _ there rfl
      exact Run.ends_pure rfl

/-- If one list covers the other one, then their graphs have a join. -/
theorem joinAll_passes (covers : ListCovers data1 data2 nodes1 nodes2) :
    Run.Passes (joinAll basis.setting) (.start basis.left basis.right, ⟨basis.start⟩)
      fun joined _ => joined = true := by
  unfold joinAll
  refine Run.ends_bind_of_ok (Run.ask_apply _ _) ?_
  refine Run.ends_bind _ (matchVariables_ends basis).passes ?_
  intro outcome middle paired
  cases outcome with
  | none => exact absurd (lists.cover covers) paired
  | some pairs =>
      obtain ⟨matching, matched⟩ := paired
      refine Run.ends_bind _ (lists.joinPairs_passes covers matching (matching.ready matched)
        (unmapped_lt_size basis.left _)) ?_
      rintro _ there rfl
      rw [if_pos rfl]
      refine Run.ends_bind _ (Run.passes_any _) fun _ last _ => ?_
      split
      · exact Run.ends_bind _ (Run.passes_any _) fun _ _ _ => Run.ends_pure rfl
      · exact Run.ends_pure rfl

end TwoLists

variable {left right : Graph} {supply : Supply}

/-- If one list covers the other one, then the join of their graphs is defined. -/
theorem TwoLists.join_ne_undefined
    (lists : TwoLists left right data1 data2 head1 head2 nodes1 nodes2) (options : Options)
    (leftPlain : left.Plain supply.next) (rightPlain : right.Plain supply.next)
    (covers : ListCovers data1 data2 nodes1 nodes2) (now : Supply) :
    left.join options right supply ≠ .ok .undefined now := by
  have passes : Run.Passes (joinAll ⟨options, left == right⟩) (.start left right, supply)
      fun joined _ => joined = true :=
    @joinAll_passes (Graph.basis options leftPlain rightPlain) _ _ _ _ _ _ lists covers
  rw [Graph.join_apply]
  cases ended : joinAll ⟨options, left == right⟩ (.start left right, supply) with
  | ok joined there =>
      obtain rfl : joined = true := passes.of_eq_ok ended
      simp
  | error fault there => simp

/-- The join of two graphs that hold lists says that the left one is covered exactly if the right
list covers the left one. -/
theorem TwoLists.exists_outcome
    (lists : TwoLists left right data1 data2 head1 head2 nodes1 nodes2) (options : Options)
    (leftPlain : left.Plain supply.next) (rightPlain : right.Plain supply.next) :
    ∃ outcome now, left.join options right supply = .ok outcome now ∧
      ((outcome.isDefined && outcome.status.leftIsCovered) = true ↔
        ListCovers data1 data2 nodes1 nodes2) := by
  have concluded := Graph.join_concluded options leftPlain rightPlain
  have defined := lists.join_ne_undefined options leftPlain rightPlain
  generalize left.join options right supply = result at concluded defined ⊢
  cases concluded with
  | defined finished =>
      exact ⟨_, _, rfl, fun covered => finished.listCovers lists covered,
        fun covers => finished.invariant.partners.covered (lists.cover covers).informed⟩
  | @undefined now _ =>
      exact ⟨_, _, rfl, iff_of_false (by simp [Join.Outcome.isDefined])
        fun covers => defined covers now rfl⟩
  | stopped harmful => exact absurd (fun _ => .inl lists.list1.ringless) harmful

end ShapeDomain
