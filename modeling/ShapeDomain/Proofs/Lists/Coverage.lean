import ShapeDomain.Proofs.Lists.Build
import ShapeDomain.Proofs.Lists.Descent

/-!
# Coverage of lists

A list covers another one of the same length, if nothing is known of its data or the data is the
same.
-/

namespace ShapeDomain

namespace Graph.HoldsList

variable {graph : Graph} {data : Option Int} {head object : ObjectId} {nodes : List ListNode}
variable {index : Nat} (list : graph.HoldsList data head nodes)

include list

/-! ### No garbage -/

/-- The variable and the nodes are reachable. -/
theorem reaches (isAt : (spine head nodes)[index]? = some object) : graph.Reaches object := by
  induction index generalizing object with
  | zero =>
      obtain rfl : head = object := Option.some.inj isAt
      refine .root ?_
      rw [roots, frames, list.globals, list.stack]
      exact List.mem_singleton_self head
  | succ index ih =>
      have before : index < (spine head nodes).length :=
        Nat.lt_of_succ_lt (List.getElem?_eq_some_iff.1 isAt).1
      have here : (spine head nodes)[index]? = some (spine head nodes)[index] :=
        List.getElem?_eq_getElem before
      rw [spine_succ, Option.map_eq_some_iff] at isAt
      obtain ⟨node, isNode, rfl⟩ := isAt
      refine .step (ih here) (List.mem_filterMap.2
        ⟨⟨(spine head nodes)[index], linkRange index, linkAt nodes index⟩, ?_, ?_⟩)
      · rw [list.fieldsOf_of_spine here]
        exact List.mem_append_right _ (List.mem_singleton_self _)
      · rw [linkAt_of_getElem? isNode, (list.node isNode).leads]
        rfl

/-- Nothing is garbage. -/
theorem garbage_eq_nil : graph.garbage = [] := by
  refine List.eq_nil_iff_forall_not_mem.2 fun object member => ?_
  have isNode := list.heap (isHeap_of_mem_garbage member)
  obtain ⟨index, isAt⟩ : ∃ index, (spine head nodes)[index]? = some object :=
    List.mem_iff_getElem?.1 (List.mem_cons_of_mem _ isNode)
  have unreachable := (List.mem_filter.1 member).2
  simp [contains_reachable_iff.2 (list.reaches isAt)] at unreachable

/-- To collect garbage changes nothing. -/
theorem collect_eq : (State.ofGraph graph).collect = .ofGraph graph := by
  have none : (State.ofGraph graph).graph.garbage = [] := list.garbage_eq_nil
  rw [State.collect, none]
  rfl

end Graph.HoldsList

/-! ### The order of lists -/

/-- Numbers of 64 bits that leave the same bits in a field of 64 bits are the same. -/
theorem Number.agreeIn_toInt_iff {number1 number2 : Int64} :
    agreeIn number1.toInt number2.toInt 64 = true ↔ number1 = number2 := by
  refine ⟨fun agree => Int64.toInt.inj ?_, fun same => by simp [same, agreeIn]⟩
  have congruent : number1.toInt % 2 ^ 64 = number2.toInt % 2 ^ 64 := emod_eq_of_agreeIn agree
  have bounds1 := And.intro number1.le_toInt number1.toInt_lt
  have bounds2 := And.intro number2.le_toInt number2.toInt_lt
  omega

/-- A list covers another one exactly if it is as long and nothing is known of its data or the data
is the same, or there is none. -/
theorem listCovers_iff {data1 data2 : Option Int64} {nodes1 nodes2 : List ListNode} :
    ListCovers (data1.map Int64.toInt) (data2.map Int64.toInt) nodes1 nodes2 ↔
      nodes1.length = nodes2.length ∧ (nodes1.length = 0 ∨ data2 = none ∨ data1 = data2) := by
  constructor
  · rintro ⟨length, data⟩
    refine ⟨length, ?_⟩
    rcases Nat.eq_zero_or_pos nodes1.length with none | some
    · exact .inl none
    cases data2 with
    | none => exact .inr (.inl rfl)
    | some number2 =>
        obtain ⟨_, known, agree⟩ := data some rfl
        obtain ⟨number1, rfl, rfl⟩ := Option.map_eq_some_iff.1 known
        rw [Number.agreeIn_toInt_iff.1 agree]
        exact .inr (.inr rfl)
  · rintro ⟨length, answer⟩
    refine ⟨length, fun some number2 known => ?_⟩
    obtain ⟨number2, rfl, rfl⟩ := Option.map_eq_some_iff.1 known
    rcases answer with none | impossible | rfl
    · omega
    · simp at impossible
    · exact ⟨_, rfl, Number.agreeIn_toInt_iff.2 rfl⟩

namespace State

/-- Of programs that build lists, the state of one is subsumed by the state of another exactly if
the lists have the same length, and they are empty or nothing is known of the data of the other list
or the data is the same. -/
theorem listOf_isSubsumedBy_listOf (machine : Machine) (options : Options) (length1 length2 : Nat)
    (data1 data2 : Option Int64) (start1 start2 later : Nat) :
    ∃ left right now1 now2,
      listOf machine length1 data1 ⟨start1 + 1⟩ = .ok left now1 ∧
      listOf machine length2 data2 ⟨start2 + 1⟩ = .ok right now2 ∧
      ∃ covered now,
        left.isSubsumedBy options right ⟨max now1.next now2.next + later⟩ = .ok covered now ∧
        (covered = true ↔
          length1 = length2 ∧ (length1 = 0 ∨ data2 = none ∨ data1 = data2)) := by
  obtain ⟨left, now1, head1, nodes1, built1, plain1, list1, rfl⟩ :=
    listOf_apply machine length1 start1 data1
  obtain ⟨right, now2, head2, nodes2, built2, plain2, list2, rfl⟩ :=
    listOf_apply machine length2 start2 data2
  let supply : Supply := ⟨max now1.next now2.next + later⟩
  have leftPlain : left.Plain supply.next :=
    plain1.later ((Nat.le_max_left _ _).trans (Nat.le_add_right _ _))
  have rightPlain : right.Plain supply.next :=
    plain2.later ((Nat.le_max_right _ _).trans (Nat.le_add_right _ _))
  have lists : TwoLists left right _ _ head1 head2 nodes1 nodes2 :=
    ⟨list1, list2, plain1.sound.tiled, plain2.sound.tiled⟩
  obtain ⟨outcome, now, joined, answer⟩ := lists.exists_outcome options leftPlain rightPlain
  refine ⟨_, _, now1, now2, built1, built2, _, now, ?_, answer.trans listCovers_iff⟩
  rw [isSubsumedBy_apply, list1.collect_eq, list2.collect_eq, if_neg (fun differ => differ rfl)]
  simp only [ofGraph]
  rw [joined]

end State

end ShapeDomain
