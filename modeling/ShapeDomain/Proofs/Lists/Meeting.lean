import ShapeDomain.Proofs.Lists.Defs
import ShapeDomain.Proofs.Progress.Verdicts

/-!
# What meets in two lists

When two graphs that hold lists are compared, the objects in the same place of both spines meet, and
so do their links and their data.  So one list covers another one exactly if they have the same
length and, unless they are empty, what the one knows of its data holds of the data of the other
one.
-/

namespace ShapeDomain

open State (headRange dataRange nextRange)
open Join (Met MeetOnce Compared SameRanges)

/-- What has to hold for a list to cover another one, which has the data `data1` and the nodes
`nodes1`. -/
structure ListCovers (data1 data2 : Option Int) (nodes1 nodes2 : List ListNode) : Prop where
  /-- The lists have the same length. -/
  length : nodes1.length = nodes2.length
  /-- What is known of the data of the nodes of the covering list holds of those of the other
  one. -/
  data : 0 < nodes1.length → ∀ {number2}, data2 = some number2 →
    ∃ number1, data1 = some number1 ∧ Number.agreeIn number1 number2 64 = true

namespace Graph.HoldsList

section Values

variable {graph : Graph} {data : Option Int} {head : ObjectId} {nodes : List ListNode}
variable {object : ObjectId} {index other : Nat} {value : ValueId} {range : BitRange}
variable (list : graph.HoldsList data head nodes)

theorem isSome_dataAt? (inside : index ≤ nodes.length) :
    (dataAt? nodes index).isSome = true ↔ index ≠ 0 := by
  cases index with
  | zero => simp [dataAt?]
  | succ index =>
      rw [dataAt?, Option.isSome_map, List.getElem?_eq_getElem inside]
      simp

include list

/-- The ranges of an object of the spine depend on its place only. -/
theorem isSome_valueAt?_iff (isAt : (spine head nodes)[index]? = some object) :
    (graph.valueAt? object range).isSome = true ↔
      range = linkRange index ∨ (range = dataRange ∧ index ≠ 0) := by
  rw [← isSome_dataAt? (lt_of_spine isAt), Option.isSome_iff_exists, Option.isSome_iff_exists]
  simp only [list.valueAt?_iff isAt]
  constructor
  · rintro ⟨value, ⟨rfl, -⟩ | ⟨rfl, isData⟩⟩
    · exact .inl rfl
    · exact .inr ⟨rfl, value, isData⟩
  · rintro (rfl | ⟨rfl, value, isData⟩)
    · exact ⟨_, .inl ⟨rfl, rfl⟩⟩
    · exact ⟨value, .inr ⟨rfl, isData⟩⟩

/-- Links that are the same are zero or those of the same object. -/
theorem link_unique (same : linkAt nodes index = linkAt nodes other) :
    linkAt nodes index = .zero ∨ index = other := by
  have leads := congrArg (Join.address? graph) same
  rw [list.address?_link, list.address?_link] at leads
  cases isNode : nodes[index]? with
  | none =>
      left
      rw [linkAt, isNode]
      rfl
  | some node =>
      right
      rw [isNode] at leads
      obtain ⟨node', isNode', sameTarget⟩ := Option.map_eq_some_iff.1 leads.symm
      have place : (spine head nodes)[index + 1]? = some node.object := by
        rw [spine_succ, isNode]
        rfl
      have place' : (spine head nodes)[other + 1]? = some node.object := by
        rw [spine_succ, isNode']
        exact congrArg (some ∘ Target.object) sameTarget
      exact Nat.succ.inj (list.index_unique place place')

/-- A link is no data. -/
theorem link_ne_data (isData : dataAt? nodes other = some value) : linkAt nodes index ≠ value := by
  rintro rfl
  obtain ⟨proper, plain, -⟩ := list.of_data isData
  rw [list.address?_link, Option.map_eq_none_iff] at plain
  rw [linkAt, plain] at proper
  exact proper rfl

theorem named?_iff {name : Variable} {id : ObjectId} :
    graph.named? name = some id ↔ name = .inner 0 "head" ∧ id = head := by
  cases name with
  | global name => simp [Graph.named?, list.globals]
  | inner depth name =>
      rw [Graph.named?, Graph.frames, list.stack]
      cases depth with
      | zero =>
          simp only [List.reverse_singleton, List.getElem?_cons_zero, Option.bind_some,
            Table.get?_insert]
          by_cases isHead : name = "head" <;> simp [isHead, eq_comm]
      | succ depth => simp

end Values

end Graph.HoldsList

/-! ### Two lists -/

/-- Two graphs hold a list each. -/
structure TwoLists (left right : Graph) (data1 data2 : Option Int) (head1 head2 : ObjectId)
    (nodes1 nodes2 : List ListNode) : Prop where
  /-- The list of the left graph. -/
  list1 : left.HoldsList data1 head1 nodes1
  /-- The list of the right graph. -/
  list2 : right.HoldsList data2 head2 nodes2
  /-- The fields of the left graph are tiled. -/
  tiled1 : left.Tiled
  /-- So are those of the right graph. -/
  tiled2 : right.Tiled

/-- Two objects have the same place in two spines. -/
def Opposite (head1 head2 : ObjectId) (nodes1 nodes2 : List ListNode) (index : Nat)
    (object1 object2 : ObjectId) : Prop :=
  (spine head1 nodes1)[index]? = some object1 ∧ (spine head2 nodes2)[index]? = some object2

variable {left right : Graph} {data1 data2 : Option Int} {head1 head2 : ObjectId}
variable {nodes1 nodes2 : List ListNode} {object1 object2 : ObjectId} {index : Nat}
variable {range : BitRange} {cell1 cell2 : Join.Cell}

theorem exists_opposite (inside1 : index ≤ nodes1.length) (inside2 : index ≤ nodes2.length) :
    ∃ object1 object2, Opposite head1 head2 nodes1 nodes2 index object1 object2 :=
  ⟨_, _, List.getElem?_eq_getElem (by simpa [spine] using Nat.lt_succ_of_le inside1),
    List.getElem?_eq_getElem (by simpa [spine] using Nat.lt_succ_of_le inside2)⟩

namespace TwoLists

variable (lists : TwoLists left right data1 data2 head1 head2 nodes1 nodes2)

include lists

theorem symm : TwoLists right left data2 data1 head2 head1 nodes2 nodes1 :=
  ⟨lists.list2, lists.list1, lists.tiled2, lists.tiled1⟩

/-- Opposite objects have the same ranges. -/
theorem sameRanges (opposite : Opposite head1 head2 nodes1 nodes2 index object1 object2) :
    SameRanges left right object1 object2 := by
  intro range
  rw [Bool.eq_iff_iff, lists.list1.isSome_valueAt?_iff opposite.1,
    lists.list2.isSome_valueAt?_iff opposite.2]

/-- What an object holds is compared with what the opposite one holds. -/
theorem cell?_eq (opposite : Opposite head1 head2 nodes1 nodes2 index object1 object2) :
    Join.cell? left right object1 object2 range = (left.valueAt? object1 range).map .value :=
  Join.cell?_of_same lists.tiled1 lists.tiled2 (lists.sameRanges opposite)

/-- The links of opposite objects are compared. -/
theorem cell?_link (opposite : Opposite head1 head2 nodes1 nodes2 index object1 object2) :
    Join.cell? left right object1 object2 (linkRange index) =
      some (.value (linkAt nodes1 index)) := by
  rw [lists.cell?_eq opposite, (lists.list1.valueAt?_iff opposite.1).2 (.inl ⟨rfl, rfl⟩)]
  rfl

/-- So are their data. -/
theorem cell?_data (opposite : Opposite head1 head2 nodes1 nodes2 index object1 object2)
    {value : ValueId} (isData : dataAt? nodes1 index = some value) :
    Join.cell? left right object1 object2 dataRange = some (.value value) := by
  rw [lists.cell?_eq opposite, (lists.list1.valueAt?_iff opposite.1).2 (.inr ⟨rfl, isData⟩)]
  rfl

/-- Opposite objects meet. -/
theorem met_of_opposite (opposite : Opposite head1 head2 nodes1 nodes2 index object1 object2) :
    Met left right object1 object2 := by
  induction index generalizing object1 object2 with
  | zero =>
      obtain rfl : head1 = object1 := Option.some.inj opposite.1
      obtain rfl : head2 = object2 := Option.some.inj opposite.2
      exact .named (lists.list1.named?_iff.2 ⟨rfl, rfl⟩) (lists.list2.named?_iff.2 ⟨rfl, rfl⟩)
  | succ index ih =>
      obtain ⟨isAt1, isAt2⟩ := opposite
      obtain ⟨holder1, holder2, before⟩ : ∃ holder1 holder2,
          Opposite head1 head2 nodes1 nodes2 index holder1 holder2 :=
        exists_opposite (Nat.le_of_succ_le (lt_of_spine isAt1))
          (Nat.le_of_succ_le (lt_of_spine isAt2))
      rw [spine_succ, Option.map_eq_some_iff] at isAt1 isAt2
      obtain ⟨node1, isNode1, rfl⟩ := isAt1
      obtain ⟨node2, isNode2, rfl⟩ := isAt2
      have leads1 : Join.address? left (linkAt nodes1 index) = some ⟨node1.object, 0, .region⟩ :=
        lists.list1.address?_link.trans (by rw [isNode1]; rfl)
      have leads2 : Join.address? right (linkAt nodes2 index) = some ⟨node2.object, 0, .region⟩ :=
        lists.list2.address?_link.trans (by rw [isNode2]; rfl)
      exact .address (ih before) (lists.cell?_link before) (lists.symm.cell?_link before.symm)
        leads1 leads2 (lists.list1.object_ne_null isNode1) (lists.list2.object_ne_null isNode2)

/-- Only opposite objects meet. -/
theorem exists_opposite_of_met (met : Met left right object1 object2) :
    ∃ index, Opposite head1 head2 nodes1 nodes2 index object1 object2 := by
  induction met with
  | named named1 named2 =>
      obtain ⟨-, rfl⟩ := lists.list1.named?_iff.1 named1
      obtain ⟨-, rfl⟩ := lists.list2.named?_iff.1 named2
      exact ⟨0, rfl, rfl⟩
  | address _ is1 is2 leads1 leads2 _ _ ih =>
      obtain ⟨index, opposite⟩ := ih
      rw [lists.cell?_eq opposite, Option.map_eq_some_iff] at is1
      rw [lists.symm.cell?_eq opposite.symm, Option.map_eq_some_iff] at is2
      obtain ⟨value1, held1, rfl⟩ := is1
      obtain ⟨value2, held2, rfl⟩ := is2
      exact ⟨index + 1, (lists.list1.of_address opposite.1 held1 leads1).2.2.2,
        (lists.list2.of_address opposite.2 held2 leads2).2.2.2⟩

/-- No object meets two. -/
theorem meetOnce : MeetOnce left right := by
  intro object1 object2 other1 other2 met met'
  obtain ⟨index, isAt1, isAt2⟩ := lists.exists_opposite_of_met met
  obtain ⟨index', isAt1', isAt2'⟩ := lists.exists_opposite_of_met met'
  constructor
  · rintro rfl
    obtain rfl := lists.list1.index_unique isAt1 isAt1'
    exact Option.some.inj (isAt2.symm.trans isAt2')
  · rintro rfl
    obtain rfl := lists.list2.index_unique isAt2 isAt2'
    exact Option.some.inj (isAt1.symm.trans isAt1')

/-! ### What is compared -/

end TwoLists

/-- The links of opposite objects, or their data. -/
inductive OppositeCells (nodes1 nodes2 : List ListNode) (index : Nat) :
    Join.Cell → Join.Cell → Prop where
  /-- Their links. -/
  | link : OppositeCells nodes1 nodes2 index (.value (linkAt nodes1 index))
      (.value (linkAt nodes2 index))
  /-- Their data. -/
  | data {value1 value2 : ValueId} : dataAt? nodes1 index = some value1 →
      dataAt? nodes2 index = some value2 →
      OppositeCells nodes1 nodes2 index (.value value1) (.value value2)

theorem OppositeCells.symm (cells : OppositeCells nodes1 nodes2 index cell1 cell2) :
    OppositeCells nodes2 nodes1 index cell2 cell1 := by
  cases cells with
  | link => exact .link
  | data isData1 isData2 => exact .data isData2 isData1

namespace TwoLists

variable (lists : TwoLists left right data1 data2 head1 head2 nodes1 nodes2)

include lists

/-- The links of opposite objects are compared, and their data, and nothing else. -/
theorem of_compared (compared : Compared left right range cell1 cell2) :
    range.size = 64 ∧ ∃ index, OppositeCells nodes1 nodes2 index cell1 cell2 := by
  obtain ⟨object1, object2, met, is1, is2⟩ := compared
  obtain ⟨index, opposite⟩ := lists.exists_opposite_of_met met
  rw [lists.cell?_eq opposite, Option.map_eq_some_iff] at is1
  rw [lists.symm.cell?_eq opposite.symm, Option.map_eq_some_iff] at is2
  obtain ⟨value1, held1, rfl⟩ := is1
  obtain ⟨value2, held2, rfl⟩ := is2
  refine ⟨lists.list1.size_of_held held1, index, ?_⟩
  -- The link of the variable is where the nodes have their data, but the variable has no data.
  have apart : linkRange index ≠ dataRange ∨ dataAt? nodes1 index = none ∧
      dataAt? nodes2 index = none := by
    cases index with
    | zero => exact .inr ⟨rfl, rfl⟩
    | succ index => exact .inl (by simp [linkRange, nextRange, dataRange])
  rcases (lists.list1.valueAt?_iff opposite.1).1 held1 with ⟨rfl, rfl⟩ | ⟨rfl, isData1⟩ <;>
    rcases (lists.list2.valueAt?_iff opposite.2).1 held2 with ⟨same, rfl⟩ | ⟨same, isData2⟩
  · exact .link
  · simp [same, isData2] at apart
  · simp [← same, isData1] at apart
  · exact .data isData1 isData2

/-- Contents other than zero are compared once. -/
theorem once {index1 index2 : Nat} {cell other1 other2 : Join.Cell}
    (cells1 : OppositeCells nodes1 nodes2 index1 cell other1)
    (cells2 : OppositeCells nodes1 nodes2 index2 cell other2) : cell = .zero ∨ other1 = other2 := by
  generalize isCell : cell = cell' at cells2
  cases cells1 with
  | link =>
      cases cells2 with
      | link =>
          have same := Join.Cell.value.inj isCell
          rcases lists.list1.link_unique same with zero | rfl
          · exact .inl (congrArg Join.Cell.value (same.symm.trans zero))
          · exact .inr rfl
      | data isData _ => exact absurd (Join.Cell.value.inj isCell) (lists.list1.link_ne_data isData)
  | data isData isOther =>
      cases cells2 with
      | link => exact absurd (Join.Cell.value.inj isCell).symm (lists.list1.link_ne_data isData)
      | data isData' isOther' =>
          obtain rfl := Join.Cell.value.inj isCell
          obtain rfl := lists.list1.data_unique isData isData'
          exact .inr (congrArg Join.Cell.value (Option.some.inj (isOther.symm.trans isOther')))

/-! ### Which lists cover which -/

theorem sameScopes : left.SameScopes right where
  globals := by rw [lists.list1.globals, lists.list2.globals]
  frames := by
    rw [Graph.frames, Graph.frames, lists.list1.stack, lists.list2.stack]
    rfl

/-- Links are addresses of the same place in opposite nodes, or both are zero. -/
theorem sameAddress (length : nodes1.length = nodes2.length)
    (cells : OppositeCells nodes1 nodes2 index cell1 cell2) :
    Join.SameAddress left right cell1 cell2 := by
  cases cells with
  | link =>
      by_cases inside : index < nodes1.length
      · obtain ⟨node1, isNode1⟩ : ∃ node, nodes1[index]? = some node :=
          ⟨_, List.getElem?_eq_getElem inside⟩
        obtain ⟨node2, isNode2⟩ : ∃ node, nodes2[index]? = some node :=
          ⟨_, List.getElem?_eq_getElem (length ▸ inside)⟩
        refine .inr ⟨⟨node1.object, 0, .region⟩, ⟨node2.object, 0, .region⟩,
          lists.list1.address?_link.trans (by rw [isNode1]; rfl),
          lists.list2.address?_link.trans (by rw [isNode2]; rfl), rfl, ?_⟩
        exact iff_of_false (lists.list1.object_ne_null isNode1) (lists.list2.object_ne_null isNode2)
      · have last : nodes1.length ≤ index := Nat.le_of_not_lt inside
        rw [linkAt_of_length_le last, linkAt_of_length_le (length ▸ last)]
        exact .inl ⟨rfl, rfl⟩
  | data isData1 isData2 =>
      exact .inl ⟨(lists.list1.of_data isData1).2.1, (lists.list2.of_data isData2).2.1⟩

/-- What is known of a value of the covering list holds of the value that it is compared with. -/
theorem exists_number (covers : ListCovers data1 data2 nodes1 nodes2)
    (cells : OppositeCells nodes1 nodes2 index cell1 cell2) (plain : cell1.address? left = none)
    {number2 : Int} (known : cell2.number? right = some number2) :
    ∃ number1, cell1.number? left = some number1 ∧ Number.agreeIn number1 number2 64 = true := by
  cases cells with
  | link =>
      have isLast : nodes1[index]? = none :=
        Option.map_eq_none_iff.1 (lists.list1.address?_link.symm.trans plain)
      have last : nodes1.length ≤ index := List.getElem?_eq_none_iff.1 isLast
      rw [linkAt_of_length_le (covers.length ▸ last)] at known
      rw [linkAt_of_length_le last]
      refine ⟨0, lists.list1.number?_zero, ?_⟩
      rw [← Option.some.inj (lists.list2.number?_zero.symm.trans known)]
      decide
  | @data value1 value2 isData1 isData2 =>
      have inside : 0 < nodes1.length := by
        cases index with
        | zero => simp [dataAt?] at isData1
        | succ index =>
            obtain ⟨node, isNode, -⟩ := Option.map_eq_some_iff.1 isData1
            exact Nat.zero_lt_of_lt (List.getElem?_eq_some_iff.1 isNode).1
      obtain ⟨number1, isNumber, agree⟩ :=
        covers.data inside ((lists.list2.of_data isData2).2.2.symm.trans known)
      exact ⟨number1, (lists.list1.of_data isData1).2.2.trans isNumber, agree⟩

/-- If a list covers another one, then so does its graph. -/
theorem cover (covers : ListCovers data1 data2 nodes1 nodes2) : Join.Cover left right where
  fits :=
    { scopes := lists.sameScopes
      size := fun met => by
        obtain ⟨index, opposite⟩ := lists.exists_opposite_of_met met
        rw [Graph.object?, Graph.object?, lists.list1.get?_of_spine opposite.1,
          lists.list2.get?_of_spine opposite.2]
      valid := fun met => by
        obtain ⟨index, opposite⟩ := lists.exists_opposite_of_met met
        rw [Graph.isValid, Graph.isValid, lists.list1.get?_of_spine opposite.1,
          lists.list2.get?_of_spine opposite.2]
      oneToOne := lists.meetOnce
      whole := fun met field member => by
        obtain ⟨index, opposite⟩ := lists.exists_opposite_of_met met
        refine (Join.losesValue_eq_false_iff lists.tiled1 lists.tiled2 member).2 (.inr ?_)
        exact Join.not_cuts_of_same lists.tiled2 (lists.sameRanges opposite)
          (Graph.mem_fieldsOf_iff.1 member).2
      leftOnce := fun compared compared' => by
        obtain ⟨-, index, cells⟩ := lists.of_compared compared
        obtain ⟨-, index', cells'⟩ := lists.of_compared compared'
        exact lists.once cells cells'
      rightOnce := fun compared compared' => by
        obtain ⟨-, index, cells⟩ := lists.of_compared compared
        obtain ⟨-, index', cells'⟩ := lists.of_compared compared'
        exact lists.symm.once cells.symm cells'.symm
      addresses := fun compared => by
        obtain ⟨-, index, cells⟩ := lists.of_compared compared
        exact lists.sameAddress covers.length cells
      known := fun compared plain known => by
        obtain ⟨-, index, cells⟩ := lists.of_compared compared
        obtain ⟨number1, isNumber, -⟩ := lists.exists_number covers cells plain known
        rw [isNumber]
        rfl }
  numbers := fun {range cell1 cell2 number1 number2} compared plain known1 known2 => by
    obtain ⟨size, index, cells⟩ := lists.of_compared compared
    obtain ⟨number, isNumber, agree⟩ := lists.exists_number covers cells plain known2
    rw [size, Option.some.inj (known1.symm.trans isNumber)]
    exact agree

end TwoLists

namespace Join.Finished

variable {basis : Join.Basis} {here : Join.Progress × Supply}
variable (finished : Join.Finished basis here)
variable (lists : TwoLists basis.left basis.right data1 data2 head1 head2 nodes1 nodes2)

include finished lists

/-- Opposite objects are joined. -/
theorem settled_of_opposite (opposite : Opposite head1 head2 nodes1 nodes2 index object1 object2) :
    Join.Settled basis here.1 object1 object2 :=
  finished.settled_of_meetOnce lists.meetOnce (lists.met_of_opposite opposite)

/-- Lists that have a joint graph have the same length. -/
theorem length_eq : nodes1.length = nodes2.length := by
  obtain ⟨object1, object2, opposite⟩ : ∃ object1 object2,
      Opposite head1 head2 nodes1 nodes2 (min nodes1.length nodes2.length) object1 object2 :=
    exists_opposite (Nat.min_le_left ..) (Nat.min_le_right ..)
  -- Where one list ends there is no address, so the other one ends there, too.
  obtain ⟨_, _, _, joined⟩ := (finished.settled_of_opposite lists opposite).exists_joined
    (lists.cell?_link opposite) (lists.symm.cell?_link opposite.symm)
  rcases joined.address_cases finished.invariant with ⟨none1, none2⟩ | ⟨_, _, _, some1, some2, -⟩
  · have last1 := List.getElem?_eq_none_iff.1
      (Option.map_eq_none_iff.1 (lists.list1.address?_link.symm.trans none1))
    have last2 := List.getElem?_eq_none_iff.1
      (Option.map_eq_none_iff.1 (lists.list2.address?_link.symm.trans none2))
    omega
  · obtain ⟨node1, isNode1, -⟩ :=
      Option.map_eq_some_iff.1 (lists.list1.address?_link.symm.trans some1)
    obtain ⟨node2, isNode2, -⟩ :=
      Option.map_eq_some_iff.1 (lists.list2.address?_link.symm.trans some2)
    have inside1 := (List.getElem?_eq_some_iff.1 isNode1).1
    have inside2 := (List.getElem?_eq_some_iff.1 isNode2).1
    omega

/-- If the left graph is covered, then the right list covers the left one. -/
theorem listCovers (covered : here.1.status.leftIsCovered = true) :
    ListCovers data1 data2 nodes1 nodes2 where
  length := finished.length_eq lists
  data := by
    intro inside number2 known
    have inside2 : 0 < nodes2.length := finished.length_eq lists ▸ inside
    obtain ⟨object1, object2, opposite⟩ : ∃ object1 object2,
        Opposite head1 head2 nodes1 nodes2 1 object1 object2 := exists_opposite inside inside2
    obtain ⟨value1, isData1⟩ : ∃ value1, dataAt? nodes1 1 = some value1 :=
      Option.isSome_iff_exists.1 ((Graph.HoldsList.isSome_dataAt? inside).2 (by decide))
    obtain ⟨value2, isData2⟩ : ∃ value2, dataAt? nodes2 1 = some value2 :=
      Option.isSome_iff_exists.1 ((Graph.HoldsList.isSome_dataAt? inside2).2 (by decide))
    obtain ⟨proper1, plain1, number1⟩ := lists.list1.of_data isData1
    obtain ⟨held1, _, _, joined⟩ := (finished.settled_of_opposite lists opposite).exists_joined
      (lists.cell?_data opposite isData1) (lists.symm.cell?_data opposite.symm isData2)
    obtain rfl := joined.stands1.value_eq
    rcases joined.known finished.invariant covered plain1
      ((lists.list2.of_data isData2).2.2.trans known) with ⟨zero1, -⟩ |
        ⟨number, size, isNumber, fit⟩
    · exact absurd (Join.Cell.value.inj zero1) proper1
    · obtain ⟨_, _, held, rfl⟩ := fit.left.resolve_left proper1
      have agree := fit.agree
      rw [lists.list1.size_of_held held] at agree
      exact ⟨number, number1.symm.trans isNumber, agree⟩

end Join.Finished

end ShapeDomain
