import ShapeDomain.Proofs.Coverage.Variables

/-!
# Fields of the covering state

The join cuts the fields of both states at the boundaries of the other one, and fills with zero what
has no field.  So a covering state may hold anything in a field that the covered state cuts: the
parts are unknown, which is more general.  A field that is not cut, and that the covered state does
not have, meets zero, and it holds what zero may be covered by.
-/

namespace ShapeDomain

namespace Graph

/-- No field of an object has a bit. -/
def Untouched (graph : Graph) (object : ObjectId) (bit : Nat) : Prop :=
  ∀ range value, graph.valueAt? object range = some value →
    ¬ (range.offset ≤ bit ∧ bit < range.offset + range.size)

end Graph

namespace Join

variable {options : Options} {state reached : State} {supply : Supply}
variable {basis : Basis} {here : Progress × Supply}
variable {name : Variable} {range : BitRange} {object1 object2 : ObjectId}
variable {value held1 held2 joint : ValueId}

/-- A field of the right graph meets zero, if the left graph does not have and does not cut it. -/
theorem Finished.joined_zero (finished : Finished basis here)
    (covered : here.1.status.leftIsCovered = true)
    (named1 : basis.left.named? name = some object1)
    (named2 : basis.right.named? name = some object2)
    (held : basis.right.valueAt? object2 range = some value)
    (absent : basis.left.valueAt? object1 range = none) (uncut : ¬ basis.left.Cuts object1 range) :
    ∃ held1 held2 joint,
      CellsJoined basis here object1 object2 range .zero (.value value) held1 held2 joint := by
  obtain ⟨image, rooted⟩ := finished.rooted named1 named2
  have tiled1 := basis.leftPlain.sound.tiled
  have tiled2 := basis.rightPlain.sound.tiled
  have shared : Shared basis.left basis.right object1 object2 range :=
    (shared_of_held tiled2 tiled1 held uncut).symm
  have zero : cellAt basis.left object1 range = .zero := by
    rcases within_or_gap basis.left object1 range with ⟨outer, other, isHeld, within⟩ | gap
    · have proper : range ≠ outer := by
        rintro rfl
        simp [absent] at isHeld
      -- A field that is cut holds zero, as the left graph is covered.
      have member : ⟨object1, outer, other⟩ ∈ basis.left.fieldsOf object1 :=
        Graph.mem_fieldsOf.2 isHeld
      have whole := rooted.settled.whole covered _ member
      have isZero := ((losesValue_eq_false_iff tiled1 tiled2 member).1 whole).resolve_right
        (not_not_intro (shared.cuts_outer tiled1 tiled2 isHeld within proper))
      rw [cellAt_of_within tiled1 isHeld (shared.positive tiled1 tiled2) within proper, if_pos]
      simpa [ValueId.isZero] using isZero
    · have valid : basis.left.isValid object1 = true := by
        rw [← finished.invariant.leftMap.valid rooted.left,
          finished.invariant.rightMap.valid rooted.right]
        exact basis.rightPlain.freed held
      rw [cellAt_of_gap gap, if_pos valid]
  exact rooted.settled.exists_joined (cell?_eq_some_iff.2 ⟨shared, zero.symm⟩)
    (cell?_eq_some_iff.2 ⟨shared.symm, (cellAt_of_held tiled2 held).symm⟩)

/-- What meets zero is zero, or it is no address, and a number that it is known to be is that of
zero within a width at which it is held. -/
theorem CellsJoined.of_zero
    (joined : CellsJoined basis here object1 object2 range .zero (.value value) held1 held2 joint)
    (invariant : Invariant basis [] [] here) (covered : here.1.status.leftIsCovered = true) :
    value = .zero ∨ (basis.right.target? value = none ∧
      ∀ {number}, basis.right.number? value = some number → ∃ zero size,
        basis.left.number? .zero = some zero ∧ basis.right.HoldsAt value size ∧
          number % 2 ^ size = zero % 2 ^ size) := by
  refine or_iff_not_imp_left.2 fun proper => ⟨?_, fun {number} isNumber => ?_⟩
  · have noAddress := (joined.sameAddress invariant).none_right rfl
    cases leads : basis.right.target? value with
    | none => rfl
    | some target =>
        have address : (Cell.value value).address? basis.right = some target :=
          address?_eq_some_iff.2 ⟨proper, leads⟩
        simp [address] at noAddress
  · rcases joined.known invariant covered rfl isNumber with ⟨-, zero⟩ | ⟨zero, size, isZero, fit⟩
    · exact absurd (Cell.value.inj zero) proper
    · obtain rfl := joined.stands2.value_eq
      exact ⟨zero, size, isZero, fit.right.resolve_left proper,
        (Number.emod_eq_of_agreeIn fit.agree).symm⟩

/-- A field of a variable of the covering state meets zero, if the covered state does not have and
does not cut it. -/
theorem Compares.of_uncut (compares : Compares options state reached supply basis here)
    (held : reached.graph.heldBy? name range = some value)
    (named : state.graph.named? name = some object1)
    (absent : state.graph.valueAt? object1 range = none)
    (uncut : ¬ state.graph.Cuts object1 range) :
    value = .zero ∨ (reached.graph.target? value = none ∧
      ∀ {number}, reached.graph.number? value = some number → ∃ zero size,
        state.graph.number? .zero = some zero ∧ reached.graph.HoldsAt value size ∧
          number % 2 ^ size = zero % 2 ^ size) := by
  have pruned1 := compares.pruned_left
  have pruned2 := compares.pruned_right
  obtain ⟨object2, named2, isHeld⟩ :=
    Graph.heldBy?_eq_some_iff.1 (compares.heldBy?_right.trans held)
  have absent' : basis.left.valueAt? object1 range = none :=
    Option.eq_none_iff_forall_not_mem.2 fun other isHeld =>
      by simp [pruned1.held isHeld] at absent
  obtain ⟨_, _, _, joined⟩ := compares.finished.joined_zero compares.covered
    ((pruned1.named? name).trans named) named2 isHeld absent' fun cuts => uncut (pruned1.cuts cuts)
  refine (joined.of_zero compares.finished.invariant compares.covered).imp_right ?_
  rintro ⟨noAddress, numbers⟩
  refine ⟨(compares.target?_right held).symm.trans noAddress, fun {number} isNumber => ?_⟩
  obtain ⟨zero, size, isZero, holds, same⟩ := numbers ((pruned2.number value).trans isNumber)
  exact ⟨zero, size, (pruned1.number .zero).symm.trans isZero, pruned2.holdsAt holds, same⟩

end Join

namespace State

open Join

variable {options : Options} {state reached : State} {supply : Supply} {states : List State}
variable {name : Variable} {range : BitRange} {value : ValueId} {object : ObjectId}

/-- If a state is covered and a variable of the state that covers it holds an address, or a number
other than zero that is held at one width only, then the covered state has a field in the same range
of this variable, or one that starts or ends strictly inside the range. -/
theorem CoveredBy.has_field_or_cuts (covered : CoveredBy options state reached supply)
    (family : Family states supply) (inside1 : state ∈ states) (inside2 : reached ∈ states)
    (held : reached.graph.heldBy? name range = some value) (proper : value ≠ .zero)
    (tells : (reached.graph.target? value).isSome = true ∨
      ∃ number, reached.graph.number? value = some number ∧
        (∀ size, reached.graph.HoldsAt value size → size = range.size) ∧
        ∀ zero, state.graph.number? .zero = some zero →
          number % 2 ^ range.size ≠ zero % 2 ^ range.size) :
    ∃ object, state.graph.named? name = some object ∧
      ((state.graph.valueAt? object range).isSome = true ∨ state.graph.Cuts object range) := by
  obtain ⟨basis, here, compares⟩ := exists_compares family inside1 inside2 covered
  obtain ⟨object2, named2, -⟩ :=
    Graph.heldBy?_eq_some_iff.1 (compares.heldBy?_right.trans held)
  obtain ⟨object, named⟩ := Option.isSome_iff_exists.1
    ((compares.finished.scopes.isSome_named? name).trans (by rw [named2]; rfl))
  replace named := (compares.pruned_left.named? name).symm.trans named
  refine ⟨object, named, ?_⟩
  by_contra neither
  rw [not_or, Bool.not_eq_true, Option.isSome_eq_false_iff, Option.isNone_iff_eq_none] at neither
  obtain ⟨noAddress, numbers⟩ :=
    (compares.of_uncut held named neither.1 neither.2).resolve_left proper
  rcases tells with address | ⟨number, isNumber, only, differ⟩
  · simp [noAddress] at address
  · obtain ⟨zero, size, isZero, holds, same⟩ := numbers isNumber
    obtain rfl := only size holds
    exact differ zero isZero same

/-- A variable with an unknown value in its first half, and one with a number in both halves. -/
def halfUnknown : List Event :=
  holding 1 64 ⟨2⟩ none [⟨0, 32⟩] ++ holding 3 64 ⟨4⟩ (some 5) [⟨0, 64⟩]

theorem covered_halfUnknown : AllAdmissible halfUnknown ([], .full) ∧
    (happened halfUnknown ([], .full)).1.length = 2 ∧
    CoveredBy {} (built halfUnknown 1) (built halfUnknown 0) (builtSupply halfUnknown) :=
  ⟨by decide_cbv, by cbv, by decide_cbv⟩

theorem fields_halfUnknown : (built halfUnknown 1).graph.fields = [⟨⟨1⟩, ⟨0, 32⟩, ⟨2⟩⟩] ∧
    (built halfUnknown 0).graph.fields = [⟨⟨3⟩, ⟨0, 64⟩, ⟨4⟩⟩] ∧
    (built halfUnknown 0).graph.heldBy? (.global "x") ⟨0, 64⟩ = some ⟨4⟩ ∧
    (built halfUnknown 0).graph.number? ⟨4⟩ = some 5 ∧
    (built halfUnknown 1).graph.number? .zero = some 0 :=
  ⟨by cbv, by cbv, by cbv, by cbv, by cbv⟩

theorem cuts_halfUnknown : ∃ object,
    (built halfUnknown 1).graph.named? (.global "x") = some object ∧
      (((built halfUnknown 1).graph.valueAt? object ⟨0, 64⟩).isSome = true ∨
        (built halfUnknown 1).graph.Cuts object ⟨0, 64⟩) := by
  obtain ⟨admissible, two, covered⟩ := covered_halfUnknown
  obtain ⟨-, fields, held, isNumber, isZero⟩ := fields_halfUnknown
  refine covered.has_field_or_cuts (family_built admissible) (built_mem (by rw [two]; decide))
    (built_mem (by rw [two]; decide)) held (by decide)
    (.inr ⟨5, isNumber, fun size holds => ?_, fun zero isZero' => ?_⟩)
  · obtain ⟨field, member, -, rfl⟩ := Graph.holdsAt_iff.1 holds
    rw [fields, List.mem_singleton] at member
    rw [member]
  · obtain rfl := Option.some.inj (isZero.symm.trans isZero')
    decide

/-- A number that the covered state cuts is covered by nothing of its range. -/
theorem no_field_halfUnknown :
    AllAdmissible halfUnknown ([], .full) ∧
      CoveredBy {} (built halfUnknown 1) (built halfUnknown 0) (builtSupply halfUnknown) ∧
      (built halfUnknown 0).graph.heldBy? (.global "x") ⟨0, 64⟩ = some ⟨4⟩ ∧
      (built halfUnknown 0).graph.number? ⟨4⟩ = some 5 ∧ (5 : Int) % 2 ^ 64 ≠ 0 ∧
      (built halfUnknown 1).graph.named? (.global "x") = some ⟨1⟩ ∧
      (built halfUnknown 1).graph.valueAt? ⟨1⟩ ⟨0, 64⟩ = none :=
  ⟨by decide_cbv, by decide_cbv, by cbv, by cbv, by decide, by cbv, by cbv⟩

/-- If a state is covered, then untouched memory of its variables counts as zero: a field of the
covering state around an untouched bit, which the covered state does not cut, holds zero or
something that is no address, and if it is known to be a number and held at one width only, then
this is the number of zero. -/
theorem CoveredBy.untouched_counts_as_zero (covered : CoveredBy options state reached supply)
    (family : Family states supply) (inside1 : state ∈ states) (inside2 : reached ∈ states)
    (named : state.graph.named? name = some object) {bit : Nat}
    (untouched : state.graph.Untouched object bit)
    (held : reached.graph.heldBy? name range = some value)
    (around : range.offset ≤ bit ∧ bit < range.offset + range.size)
    (uncut : ¬ state.graph.Cuts object range) :
    value = .zero ∨ (reached.graph.target? value = none ∧
      ∀ number, reached.graph.number? value = some number →
        (∀ size, reached.graph.HoldsAt value size → size = range.size) →
        ∃ zero, state.graph.number? .zero = some zero ∧
          number % 2 ^ range.size = zero % 2 ^ range.size) := by
  obtain ⟨basis, here, compares⟩ := exists_compares family inside1 inside2 covered
  have absent : state.graph.valueAt? object range = none :=
    Option.eq_none_iff_forall_not_mem.2 fun other isHeld => untouched range other isHeld around
  refine (compares.of_uncut held named absent uncut).imp_right ?_
  rintro ⟨noAddress, numbers⟩
  refine ⟨noAddress, fun number isNumber only => ?_⟩
  obtain ⟨zero, size, isZero, holds, same⟩ := numbers isNumber
  obtain rfl := only size holds
  exact ⟨zero, isZero, same⟩

/-- An untouched variable, and one with a number that is zero. -/
def untouchedAndNumber : List Event :=
  holding 1 32 ⟨2⟩ none [] ++ holding 3 32 ⟨4⟩ (some 0) [⟨0, 32⟩]

theorem covered_untouchedAndNumber : AllAdmissible untouchedAndNumber ([], .full) ∧
    (happened untouchedAndNumber ([], .full)).1.length = 2 ∧
    CoveredBy {} (built untouchedAndNumber 1) (built untouchedAndNumber 0)
      (builtSupply untouchedAndNumber) ∧
    (built untouchedAndNumber 1).graph.fields = [] :=
  ⟨by decide_cbv, by cbv, by decide_cbv, by cbv⟩

theorem zero_untouchedAndNumber : (⟨4⟩ : ValueId) = .zero ∨
    ((built untouchedAndNumber 0).graph.target? ⟨4⟩ = none ∧
      ∀ number, (built untouchedAndNumber 0).graph.number? ⟨4⟩ = some number →
        (∀ size, (built untouchedAndNumber 0).graph.HoldsAt ⟨4⟩ size → size = 32) →
        ∃ zero, (built untouchedAndNumber 1).graph.number? .zero = some zero ∧
          number % 2 ^ 32 = zero % 2 ^ 32) := by
  obtain ⟨admissible, two, covered, fields⟩ := covered_untouchedAndNumber
  have empty {object : ObjectId} {range : BitRange} {value : ValueId} :
      (built untouchedAndNumber 1).graph.valueAt? object range ≠ some value := fun held => by
    have member := Graph.mem_fields_iff.2
      (show _ = some (⟨object, range, value⟩ : Field).value from held)
    simp [fields] at member
  exact covered.untouched_counts_as_zero (family_built admissible)
    (built_mem (by rw [two]; decide)) (built_mem (by rw [two]; decide))
    (show (built untouchedAndNumber 1).graph.named? (.global "x") = some ⟨1⟩ by cbv)
    (fun _ _ held => absurd held empty)
    (show (built untouchedAndNumber 0).graph.heldBy? (.global "x") ⟨0, 32⟩ = some ⟨4⟩ by cbv)
    (show 0 ≤ 7 ∧ 7 < 0 + 32 by decide) fun ⟨_, _, held, _⟩ => empty held

/-- An untouched variable, and one that holds zero. -/
def untouchedAndZero : List Event :=
  holding 1 32 ⟨2⟩ none [] ++ holding 3 32 .zero none [⟨0, 32⟩]

/-- Memory that was never written is covered by memory that holds zero. -/
theorem covered_untouchedAndZero :
    AllAdmissible untouchedAndZero ([], .full) ∧
      CoveredBy {} (built untouchedAndZero 1) (built untouchedAndZero 0)
        (builtSupply untouchedAndZero) ∧
      (built untouchedAndZero 1).graph.named? (.global "x") = some ⟨1⟩ ∧
      (built untouchedAndZero 1).graph.fieldsOf ⟨1⟩ = [] ∧
      (built untouchedAndZero 0).graph.heldBy? (.global "x") ⟨0, 32⟩ = some .zero :=
  ⟨by decide_cbv, by decide_cbv, by cbv, by cbv, by cbv⟩

end State

end ShapeDomain
