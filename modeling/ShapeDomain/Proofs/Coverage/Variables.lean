import Mathlib
import ShapeDomain.Proofs.Coverage.Collected

/-!
# What variables hold in a covered state

A variable that holds something in the same range of a state and of one that covers it holds
contents that were joined.  Addresses among them lead to objects with the same counterpart, so that
aliases are preserved, except where the join folded the nodes of a list.  Numbers are compared once
for each pair of values, so they agree within the width of a field that holds both, which need not
be this one.
-/

namespace ShapeDomain

namespace Graph

/-- The object that a variable holds an address in, other than zero. -/
def pointee? (graph : Graph) (name : Variable) (range : BitRange) : Option ObjectId :=
  (graph.heldBy? name range).bind fun value => (Join.address? graph value).map Target.object

theorem pointee?_eq_some_iff {graph : Graph} {name : Variable} {range : BitRange}
    {object : ObjectId} : graph.pointee? name range = some object ↔
      ∃ value target, graph.heldBy? name range = some value ∧ value ≠ .zero ∧
        graph.target? value = some target ∧ target.object = object := by
  unfold pointee?
  simp only [Option.bind_eq_some_iff, Option.map_eq_some_iff, Join.address?_eq_some_iff]
  constructor
  · rintro ⟨value, held, target, ⟨proper, leads⟩, same⟩
    exact ⟨value, target, held, proper, leads, same⟩
  · rintro ⟨value, target, held, proper, leads, same⟩
    exact ⟨value, held, target, ⟨proper, leads⟩, same⟩

end Graph

namespace Join

variable {options : Options} {state reached : State} {supply : Supply} {states : List State}
variable {basis : Basis} {here : Progress × Supply}
variable {name : Variable} {range : BitRange} {value1 value2 : ValueId} {object1 object2 : ObjectId}

/-- What a variable holds in the same range of both graphs has a joint value. -/
theorem Finished.exists_joined_of_heldBy (finished : Finished basis here)
    (held1 : basis.left.heldBy? name range = some value1)
    (held2 : basis.right.heldBy? name range = some value2) :
    ∃ object1 object2 held1 held2 value,
      CellsJoined basis here object1 object2 range (.value value1)
        (.value value2) held1 held2 value := by
  obtain ⟨object1, named1, isHeld1⟩ := Graph.heldBy?_eq_some_iff.1 held1
  obtain ⟨object2, named2, isHeld2⟩ := Graph.heldBy?_eq_some_iff.1 held2
  obtain ⟨image, rooted⟩ := finished.rooted named1 named2
  exact ⟨object1, object2, rooted.settled.exists_joined_of_held isHeld1 isHeld2⟩

/-! ### Aliases -/

/-- Addresses that a variable holds in both states lead to objects with the same counterpart. -/
theorem Compares.exists_image (compares : Compares options state reached supply basis here)
    (pointee1 : state.graph.pointee? name range = some object1)
    (pointee2 : reached.graph.pointee? name range = some object2) :
    ∃ image, image? here.1.leftMap object1 = some image ∧
      image? here.1.rightMap object2 = some image := by
  obtain ⟨value1, target1, held1, proper1, leads1, rfl⟩ := Graph.pointee?_eq_some_iff.1 pointee1
  obtain ⟨value2, target2, held2, proper2, leads2, rfl⟩ := Graph.pointee?_eq_some_iff.1 pointee2
  obtain ⟨_, _, _, _, _, joined⟩ := compares.finished.exists_joined_of_heldBy
    (compares.heldBy?_left.trans held1) (compares.heldBy?_right.trans held2)
  have address1 : (Cell.value value1).address? basis.left = some target1 :=
    address?_eq_some_iff.2 ⟨proper1, (compares.target?_left held1).trans leads1⟩
  have address2 : (Cell.value value2).address? basis.right = some target2 :=
    address?_eq_some_iff.2 ⟨proper2, (compares.target?_right held2).trans leads2⟩
  rcases joined.address_cases compares.finished.invariant with
    ⟨none1, -⟩ | ⟨place1, place2, image, is1, is2, -, left, right⟩
  · simp [address1] at none1
  · obtain rfl := Option.some.inj (address1.symm.trans is1)
    obtain rfl := Option.some.inj (address2.symm.trans is2)
    exact ⟨image, left, right⟩

end Join

namespace State

open Join

variable {options : Options} {state reached : State} {supply : Supply} {states : List State}
variable {name : Variable} {range : BitRange} {value1 value2 : ValueId} {object1 object2 : ObjectId}

/-- If a state is covered, then two variables hold addresses in one object of it exactly if they do
in the state that covers it, or else the nodes of a list were folded: one list segment of the joint
memory is the counterpart of the objects of both states. -/
theorem CoveredBy.same_pointees (covered : CoveredBy options state reached supply)
    (family : Family states supply) (inside1 : state ∈ states) (inside2 : reached ∈ states)
    {other : Variable} {otherRange : BitRange} {other1 other2 : ObjectId}
    (pointee1 : state.graph.pointee? name range = some object1)
    (pointee2 : reached.graph.pointee? name range = some object2)
    (otherPointee1 : state.graph.pointee? other otherRange = some other1)
    (otherPointee2 : reached.graph.pointee? other otherRange = some other2) :
    (object1 = other1 ↔ object2 = other2) ∨ options.foldLists = true ∧ ∃ progress now segment,
      finish options state.collect.graph reached.collect.graph supply = .ok (some progress) now ∧
      state.collect.graph.join options reached.collect.graph supply =
        .ok (.defined progress.dest progress.status) now ∧
      progress.dest.isList segment = true ∧
      (progress.leftMap.object? object1 = some segment ∧
        progress.leftMap.object? other1 = some segment) ∧
      progress.rightMap.object? object2 = some segment ∧
        progress.rightMap.object? other2 = some segment := by
  obtain ⟨basis, here, compares⟩ := exists_compares family inside1 inside2 covered
  have invariant := compares.finished.invariant
  obtain ⟨image, left, right⟩ := compares.exists_image pointee1 pointee2
  obtain ⟨image', left', right'⟩ := compares.exists_image otherPointee1 otherPointee2
  by_cases folded : image = image' ∧ image ≠ .null ∧ here.1.dest.isList image = true
  · obtain ⟨rfl, proper, list⟩ := folded
    have folds : basis.Folds := by
      by_contra still
      simp [invariant.isList_eq_false still image] at list
    exact .inr ⟨compares.folds folds, here.1, here.2, image, compares.ended,
      Graph.join_eq_defined_iff.2 ⟨here, finish_eq_some_iff.1 compares.ended, rfl, rfl, rfl⟩, list,
      ⟨object?_of_image? left proper, object?_of_image? left' proper⟩,
      object?_of_image? right proper, object?_of_image? right' proper⟩
  · refine .inl ⟨?_, ?_⟩
    · rintro rfl
      obtain rfl := Option.some.inj (left.symm.trans left')
      exact (eq_or_isList_of_image? invariant.rightMap right right').resolve_right fun list =>
        folded ⟨rfl, list⟩
    · rintro rfl
      obtain rfl := Option.some.inj (right.symm.trans right')
      exact (eq_or_isList_of_image? invariant.leftMap left left').resolve_right fun list =>
        folded ⟨rfl, list⟩

/-- Two linked nodes, where `x` holds the address of the first one and `y` an address within the
object `inner`.  The names that are drawn start at `next`. -/
def linkedNodes (next inner : Nat) : List Event :=
  [.create .linux64, .perform (.declareGlobal "x" 64), .perform (.declareGlobal "y" 64),
    .perform (.allocate 64 "node"), .perform (.allocate 64 "node"),
    .perform (.write ⟨next + 2⟩ ⟨0, 64⟩ ⟨next + 5⟩), .perform (.write ⟨next + 4⟩ ⟨0, 64⟩ .zero),
    .perform (.write ⟨next⟩ ⟨0, 64⟩ ⟨next + 3⟩), .perform (.takeAddress ⟨inner⟩ 32),
    .perform (.write ⟨next + 1⟩ ⟨0, 64⟩ ⟨next + 6⟩)]

/-- Two such lists, in both of which `y` holds an address within the first node. -/
def aliasedNodes : List Event := linkedNodes 1 3 ++ linkedNodes 8 10

theorem covered_aliasedNodes : AllAdmissible aliasedNodes ([], .full) ∧
    (happened aliasedNodes ([], .full)).1.length = 2 ∧
    CoveredBy {} (built aliasedNodes 1) (built aliasedNodes 0) (builtSupply aliasedNodes) :=
  ⟨by decide_cbv, by cbv, coveredBy_iff.2 (by cbv)⟩

theorem pointees_aliasedNodes :
    (built aliasedNodes 1).graph.pointee? (.global "x") ⟨0, 64⟩ = some ⟨3⟩ ∧
      (built aliasedNodes 0).graph.pointee? (.global "x") ⟨0, 64⟩ = some ⟨10⟩ ∧
      (built aliasedNodes 1).graph.pointee? (.global "y") ⟨0, 64⟩ = some ⟨3⟩ ∧
      (built aliasedNodes 0).graph.pointee? (.global "y") ⟨0, 64⟩ = some ⟨10⟩ :=
  ⟨by cbv, by cbv, by cbv, by cbv⟩

theorem same_pointees_aliasedNodes : ((⟨3⟩ : ObjectId) = ⟨3⟩ ↔ (⟨10⟩ : ObjectId) = ⟨10⟩) ∨
    ({} : Options).foldLists = true ∧ ∃ progress now segment,
      finish {} (built aliasedNodes 1).collect.graph (built aliasedNodes 0).collect.graph
        (builtSupply aliasedNodes) = .ok (some progress) now ∧
      (built aliasedNodes 1).collect.graph.join {} (built aliasedNodes 0).collect.graph
        (builtSupply aliasedNodes) = .ok (.defined progress.dest progress.status) now ∧
      progress.dest.isList segment = true ∧
      (progress.leftMap.object? ⟨3⟩ = some segment ∧ progress.leftMap.object? ⟨3⟩ = some segment) ∧
      progress.rightMap.object? ⟨10⟩ = some segment ∧
        progress.rightMap.object? ⟨10⟩ = some segment := by
  obtain ⟨admissible, two, covered⟩ := covered_aliasedNodes
  obtain ⟨pointee1, pointee2, other1, other2⟩ := pointees_aliasedNodes
  exact covered.same_pointees (family_built admissible) (built_mem (by rw [two]; decide))
    (built_mem (by rw [two]; decide)) pointee1 pointee2 other1 other2

/-- Two such lists, where `y` holds an address within the second node of the one and within the
first node of the other. -/
def foldedNodes : List Event := linkedNodes 1 5 ++ linkedNodes 8 10

/-- When the nodes are folded after `x` was joined, `y` may have other aliases. -/
theorem pointees_differ_foldedNodes :
    AllAdmissible foldedNodes ([], .full) ∧
      CoveredBy {} (built foldedNodes 1) (built foldedNodes 0) (builtSupply foldedNodes) ∧
      (built foldedNodes 1).graph.pointee? (.global "x") ⟨0, 64⟩ = some ⟨3⟩ ∧
      (built foldedNodes 1).graph.pointee? (.global "y") ⟨0, 64⟩ = some ⟨5⟩ ∧
      (built foldedNodes 0).graph.pointee? (.global "x") ⟨0, 64⟩ = some ⟨10⟩ ∧
      (built foldedNodes 0).graph.pointee? (.global "y") ⟨0, 64⟩ = some ⟨10⟩ :=
  ⟨by decide_cbv, coveredBy_iff.2 (by cbv), by cbv, by cbv, by cbv, by cbv⟩

/-! ### Numbers -/

/-- If a state is covered, then it knows every number that a variable holds in the state that covers
it and in the same range: the numbers are the same within the width of the field, as long as one of
the two values is held at this width only. -/
theorem CoveredBy.same_number (covered : CoveredBy options state reached supply)
    (family : Family states supply) (inside1 : state ∈ states) (inside2 : reached ∈ states)
    (zero1 : state.graph.ZeroIsZero) (zero2 : reached.graph.ZeroIsZero)
    (held1 : state.graph.heldBy? name range = some value1)
    (held2 : reached.graph.heldBy? name range = some value2)
    (noAddress : value2 = .zero ∨ reached.graph.target? value2 = none) {number2 : Int}
    (isNumber2 : reached.graph.number? value2 = some number2)
    (oneWidth : (value1 = .zero ∧ value2 = .zero) ∨
      (value1 ≠ .zero ∧ ∀ size, state.graph.HoldsAt value1 size → size = range.size) ∨
      (value2 ≠ .zero ∧ ∀ size, reached.graph.HoldsAt value2 size → size = range.size)) :
    ∃ number1, state.graph.number? value1 = some number1 ∧
      number1 % 2 ^ range.size = number2 % 2 ^ range.size := by
  obtain ⟨basis, here, compares⟩ := exists_compares family inside1 inside2 covered
  obtain ⟨_, _, _, _, _, joined⟩ := compares.finished.exists_joined_of_heldBy
    (compares.heldBy?_left.trans held1) (compares.heldBy?_right.trans held2)
  have address2 : (Cell.value value2).address? basis.right = none := by
    rcases noAddress with rfl | none2
    · rfl
    · show address? basis.right value2 = none
      rw [address?, compares.target?_right held2, none2]
      split <;> rfl
  have sameAddress := joined.sameAddress compares.finished.invariant
  have isNumber : (Cell.value value2).number? basis.right = some number2 :=
    (compares.pruned_right.number value2).trans isNumber2
  have number1 : (Cell.value value1).number? basis.left = state.graph.number? value1 :=
    compares.pruned_left.number value1
  rcases joined.known compares.finished.invariant compares.covered (sameAddress.none_left address2)
    isNumber with ⟨is1, is2⟩ | ⟨number, size, isNumber1, fit⟩
  · obtain rfl := Cell.value.inj is1
    obtain rfl := Cell.value.inj is2
    obtain rfl := Option.some.inj (isNumber2.symm.trans zero2)
    exact ⟨0, zero1, rfl⟩
  · obtain rfl := joined.stands1.value_eq
    obtain rfl := joined.stands2.value_eq
    refine ⟨number, number1.symm.trans isNumber1, ?_⟩
    rcases oneWidth with ⟨rfl, rfl⟩ | ⟨proper1, only⟩ | ⟨proper2, only⟩
    · obtain rfl := Option.some.inj (isNumber2.symm.trans zero2)
      obtain rfl := Option.some.inj ((number1.symm.trans isNumber1).symm.trans zero1)
      rfl
    · obtain rfl := only size (compares.pruned_left.holdsAt (fit.left.resolve_left proper1))
      exact Number.emod_eq_of_agreeIn fit.agree
    · obtain rfl := only size (compares.pruned_right.holdsAt (fit.right.resolve_left proper2))
      exact Number.emod_eq_of_agreeIn fit.agree

/-- A variable `x` that holds a value in some ranges, which may be known to be a number.  The object
is `next`, and the name after it is drawn as well. -/
def holding (next size : Nat) (value : ValueId) (number : Option Int) (ranges : List BitRange) :
    List Event :=
  [.create .linux64, .perform (.declareGlobal "x" size), .draw] ++
    number.toList.map (fun number => .perform (.assign value number)) ++
    ranges.map fun range => .perform (.write ⟨next⟩ range value)

/-- Two variables that hold numbers which are the same within 32 bits. -/
def congruentNumbers : List Event :=
  holding 1 32 ⟨2⟩ (some (-1)) [⟨0, 32⟩] ++ holding 3 32 ⟨4⟩ (some (2 ^ 32 - 1)) [⟨0, 32⟩]

theorem same_number_congruentNumbers : ∃ number1,
    (built congruentNumbers 1).graph.number? ⟨2⟩ = some number1 ∧
      number1 % 2 ^ 32 = (2 ^ 32 - 1) % 2 ^ 32 := by
  have covered : CoveredBy {} (built congruentNumbers 1) (built congruentNumbers 0)
      (builtSupply congruentNumbers) := by decide_cbv
  have width : ∀ size, (built congruentNumbers 1).graph.HoldsAt ⟨2⟩ size → size = 32 := by
    intro size holds
    obtain ⟨field, member, -, rfl⟩ := Graph.holdsAt_iff.1 holds
    have only : (built congruentNumbers 1).graph.fields = [⟨⟨1⟩, ⟨0, 32⟩, ⟨2⟩⟩] := by cbv
    rw [only, List.mem_singleton] at member
    rw [member]
  exact covered.same_number (family_built (by decide_cbv)) (built_mem (by decide_cbv))
    (built_mem (by decide_cbv)) (by decide_cbv) (by decide_cbv)
    (show (built congruentNumbers 1).graph.heldBy? (.global "x") ⟨0, 32⟩ = some ⟨2⟩ by cbv)
    (show (built congruentNumbers 0).graph.heldBy? (.global "x") ⟨0, 32⟩ = some ⟨4⟩ by cbv)
    (.inr (by cbv)) (by cbv) (.inr (.inl ⟨by decide, width⟩))

/-- Two variables that hold numbers in two ranges, which are the same within 8 bits. -/
def numbersTwice : List Event :=
  holding 1 40 ⟨2⟩ (some (-1)) [⟨0, 8⟩, ⟨8, 32⟩] ++ holding 3 40 ⟨4⟩ (some 255) [⟨0, 8⟩, ⟨8, 32⟩]

/-- When the numbers were compared within 8 bits, they are not compared again within 32 bits. -/
theorem numbers_differ_numbersTwice :
    AllAdmissible numbersTwice ([], .full) ∧
      CoveredBy {} (built numbersTwice 1) (built numbersTwice 0) (builtSupply numbersTwice) ∧
      (built numbersTwice 1).graph.heldBy? (.global "x") ⟨8, 32⟩ = some ⟨2⟩ ∧
      (built numbersTwice 0).graph.heldBy? (.global "x") ⟨8, 32⟩ = some ⟨4⟩ ∧
      (built numbersTwice 1).graph.number? ⟨2⟩ = some (-1) ∧
      (built numbersTwice 0).graph.number? ⟨4⟩ = some 255 ∧ (-1) % 2 ^ 32 ≠ (255 : Int) % 2 ^ 32 :=
  ⟨by decide_cbv, by decide_cbv, by cbv, by cbv, by cbv, by cbv, by decide⟩

end State

end ShapeDomain
