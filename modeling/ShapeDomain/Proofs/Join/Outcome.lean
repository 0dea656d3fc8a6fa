import ShapeDomain.Coverage

/-!
# What a join comes down to

The join of two graphs is the join of all their variables, and the order and the join of states are
those of what their variables reach.  A join without folding goes through in the same way whether it
is told that the joined graphs are equal or not.  What a graph knows to be unequal is carried over
to the counterparts of its values.
-/

namespace ShapeDomain

/-- The end of a join, by what the join of all variables ends in. -/
theorem Join.finish_apply (options : Options) (left right : Graph) (supply : Supply) :
    Join.finish options left right supply =
      match Join.joinAll ⟨options, left == right⟩ (.start left right, supply) with
      | .ok joined there => .ok (if joined then some there.1 else none) there.2
      | .error fault there => .error fault there.2 := by
  unfold Join.finish Run.startingAt
  show EStateM.bind _ _ supply = _
  unfold EStateM.bind
  simp only
  cases Join.joinAll ⟨options, left == right⟩ (.start left right, supply) <;> rfl

theorem Join.finish_eq_some_iff {options : Options} {left right : Graph} {supply now : Supply}
    {progress : Join.Progress} :
    Join.finish options left right supply = .ok (some progress) now ↔
      Join.joinAll ⟨options, left == right⟩ (.start left right, supply) =
        .ok true (progress, now) := by
  rw [Join.finish_apply]
  cases Join.joinAll ⟨options, left == right⟩ (.start left right, supply) with
  | error fault there => simp
  | ok joined there => cases joined <;> simp [Prod.ext_iff]

namespace Graph

/-- The join, by what the join of all variables ends in. -/
theorem join_apply (options : Options) (left right : Graph) (supply : Supply) :
    left.join options right supply =
      match Join.joinAll ⟨options, left == right⟩ (.start left right, supply) with
      | .ok true there => .ok (.defined there.1.dest there.1.status) there.2
      | .ok false there => .ok .undefined there.2
      | .error fault there => .error fault there.2 := by
  unfold Graph.join
  show EStateM.bind (Join.finish options left right) _ supply = _
  unfold EStateM.bind
  rw [Join.finish_apply]
  cases Join.joinAll ⟨options, left == right⟩ (.start left right, supply) with
  | error fault there => rfl
  | ok joined there => cases joined <;> rfl

theorem join_eq_defined_iff {options : Options} {left right dest : Graph} {status : Status}
    {supply now : Supply} : left.join options right supply = .ok (.defined dest status) now ↔
      ∃ there, Join.joinAll ⟨options, left == right⟩ (.start left right, supply) = .ok true there ∧
        there.1.dest = dest ∧ there.1.status = status ∧ there.2 = now := by
  rw [join_apply]
  cases Join.joinAll ⟨options, left == right⟩ (.start left right, supply) with
  | error fault there => simp
  | ok joined there => cases joined <;> simp [and_assoc]

end Graph

namespace State

/-- Whether a state is subsumed, by the outcome of the join. -/
theorem isSubsumedBy_apply (options : Options) (state reached : State) (supply : Supply) :
    state.isSubsumedBy options reached supply =
      if state.collect.findings ≠ reached.collect.findings then .ok false supply
      else match state.collect.graph.join options reached.collect.graph supply with
        | .ok outcome now => .ok (outcome.isDefined && outcome.status.leftIsCovered) now
        | .error fault now => .error fault now := by
  unfold isSubsumedBy
  split
  · rfl
  · show EStateM.bind _ _ supply = _
    unfold EStateM.bind
    cases state.collect.graph.join options reached.collect.graph supply <;> rfl

/-- A state is subsumed by another one with the same findings if the right one of the two graphs
covers the left one. -/
theorem isSubsumedBy_iff {options : Options} {state reached : State} {supply now : Supply} :
    state.isSubsumedBy options reached supply = .ok true now ↔
      state.collect.findings = reached.collect.findings ∧ ∃ dest status,
        state.collect.graph.join options reached.collect.graph supply =
          .ok (.defined dest status) now ∧ status.leftIsCovered = true := by
  rw [isSubsumedBy_apply]
  split
  case isTrue differ => simp [differ]
  case isFalse same =>
    rw [ne_eq, Decidable.not_not] at same
    cases state.collect.graph.join options reached.collect.graph supply with
    | error fault now => simp
    | ok outcome there =>
        cases outcome with
        | undefined => simp [Join.Outcome.isDefined]
        | defined dest status =>
            simp only [Join.Outcome.isDefined, Join.Outcome.status, Bool.true_and,
              EStateM.Result.ok.injEq, Join.Outcome.defined.injEq]
            constructor
            · rintro ⟨covered, rfl⟩
              exact ⟨same, dest, status, ⟨⟨rfl, rfl⟩, rfl⟩, covered⟩
            · rintro ⟨-, _, _, ⟨⟨rfl, rfl⟩, rfl⟩, covered⟩
              exact ⟨covered, rfl⟩

variable {options : Options} {state other joint : State} {supply now : Supply} {status : Status}

/-- The join of two states, by the join of their graphs. -/
theorem join_eq_some_iff :
    state.join options other supply = .ok (some (joint, status)) now ↔
      state.collect.findings = other.collect.findings ∧
        joint.findings = state.collect.findings ∧
        state.collect.graph.join options other.collect.graph supply =
          .ok (.defined joint.graph status) now := by
  unfold State.join
  split
  case isTrue differ =>
    simp only [differ, false_and, iff_false]
    simp [pure, EStateM.pure]
  case isFalse same =>
    rw [ne_eq, Decidable.not_not] at same
    show EStateM.bind _ _ supply = _ ↔ _
    unfold EStateM.bind
    cases state.collect.graph.join options other.collect.graph supply with
    | error fault there => simp
    | ok outcome there =>
        cases outcome with
        | undefined => simp [pure, EStateM.pure]
        | defined dest status' =>
            obtain ⟨graph, findings⟩ := joint
            simp only [pure, EStateM.pure, EStateM.Result.ok.injEq, Option.some.injEq,
              Prod.mk.injEq, State.mk.injEq, Join.Outcome.defined.injEq, same, true_and]
            constructor <;> rintro ⟨h, h'⟩ <;> simp_all

/-- Whether two states have a joint state with some property, which may depend on the names that are
left. -/
theorem exists_join_iff {property : State → Supply → Bool} :
    (∃ joint status now, state.join options other supply = .ok (some (joint, status)) now ∧
      property joint now = true) ↔
      (match state.join options other supply with
        | .ok (some (joint, _)) now => property joint now
        | _ => false) = true := by
  rcases state.join options other supply with ⟨_ | ⟨joint, status⟩, now⟩ | ⟨fault, now⟩
  · simp
  · constructor
    · rintro ⟨_, _, _, same, holds⟩
      cases same
      exact holds
    · exact fun holds => ⟨joint, status, now, rfl, holds⟩
  · simp

end State

namespace Join

/-! ### Joins that do not fold -/

section Unfolded

variable {options : Options} (off : options.foldLists = false) (identical : Bool)

include off

omit off in
theorem noJoin_unfolded : noJoin ⟨options, identical⟩ = noJoin ⟨options, false⟩ := rfl

theorem foldAt_unfolded : foldAt ⟨options, identical⟩ = foldAt ⟨options, false⟩ := by
  funext object
  simp only [foldAt, off, Bool.false_and]

theorem joinAddresses_unfolded :
    joinAddresses ⟨options, identical⟩ = joinAddresses ⟨options, false⟩ := by
  funext descend value1 value2 target1 target2 levelDiff holderLevel
  simp only [joinAddresses, noJoin_unfolded identical, foldAt_unfolded off identical]

theorem joinField_unfolded : joinField ⟨options, identical⟩ = joinField ⟨options, false⟩ := by
  funext descend pair source1 source2 levelDiff holderLevel field
  simp only [joinField, joinValuePair, noJoin_unfolded identical,
    joinAddresses_unfolded off identical]

theorem joinObjects_unfolded : joinObjects ⟨options, identical⟩ = joinObjects ⟨options, false⟩ := by
  funext depth
  induction depth with
  | zero => rfl
  | succ depth ih =>
      funext pair levelDiff
      simp only [joinObjects, joinObjectsWith, joinContents, joinField_unfolded off identical, ih]

theorem joinPairs_unfolded (depth : Nat) (pairs : List ObjectPair) :
    joinPairs ⟨options, identical⟩ depth pairs = joinPairs ⟨options, false⟩ depth pairs := by
  induction pairs with
  | nil => rfl
  | cons pair rest ih => simp only [joinPairs, joinObjects_unfolded off identical, ih]

/-- When nothing is folded, it does not matter whether the joined graphs are equal. -/
theorem joinAll_unfolded : joinAll ⟨options, identical⟩ = joinAll ⟨options, false⟩ := by
  simp only [joinAll, joinPairs_unfolded off identical]

end Unfolded

/-! ### Inequalities -/

/-- The counterparts of two values are unequal because the values are. -/
theorem contains_mappedInequalities_iff {graph : Graph} {map : Correspondence}
    {key : ValueId × ValueId} :
    (mappedInequalities graph map).contains key = true ↔
      ∃ pair a b, graph.inequalities.contains pair = true ∧ counterpart? map pair.1 = some a ∧
        counterpart? map pair.2 = some b ∧ a ≠ b ∧ Graph.ordered a b = key := by
  simp only [mappedInequalities, KeySet.contains_ofList, decide_eq_true_eq, List.mem_filterMap]
  constructor
  · rintro ⟨pair, known, mapped⟩
    obtain ⟨a, isFirst, mapped⟩ := Option.bind_eq_some_iff.1 mapped
    obtain ⟨b, isSecond, mapped⟩ := Option.bind_eq_some_iff.1 mapped
    split at mapped
    case isTrue => cases mapped
    case isFalse distinct =>
      exact ⟨pair, a, b, Table.mem_keys_iff.1 known, isFirst, isSecond, distinct,
        Option.some.inj mapped⟩
  · rintro ⟨pair, a, b, known, isFirst, isSecond, distinct, rfl⟩
    refine ⟨pair, Table.mem_keys_iff.2 known, ?_⟩
    rw [isFirst, isSecond]
    exact if_neg distinct

end Join

end ShapeDomain
