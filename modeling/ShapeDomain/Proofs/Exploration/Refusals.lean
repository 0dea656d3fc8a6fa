import ShapeDomain.Proofs.Exploration.Decisions

/-!
# Decisions that are refused

A decision to stop compares the state of a node with other states, one after the other, until one of
them covers it.  It is refused if the node is covered already or if the operator fails in one of
these comparisons.  There is a third reason: the node that a node was merged into may be covered
itself, which is noticed only when the coverage is to be recorded.  A refused decision leaves the
exploration as it is.
-/

namespace ShapeDomain

/-- A state is compared with others, one after the other and until one covers it, and the operator
fails in one of these comparisons. -/
inductive StopOperator.Fails {S : Type} (operator : StopOperator S) (state : S) :
    List S → Supply → Fault → Supply → Prop
  /-- The first comparison fails. -/
  | first {other : S} {rest : List S} {supply after : Supply} {fault : Fault}
      (failed : operator.stop state [other] supply = .error fault after) :
      Fails operator state (other :: rest) supply fault after
  /-- The first state does not cover the one that is compared, and a later comparison fails. -/
  | later {other : S} {rest : List S} {supply between after : Supply} {fault : Fault}
      (uncovered : operator.stop state [other] supply = .ok false between)
      (failed : Fails operator state rest between fault after) :
      Fails operator state (other :: rest) supply fault after

namespace StopOperator

variable {S : Type} {operator : StopOperator S} {state other : S} {rest : List S}
variable {supply after : Supply} {fault : Fault}

theorem not_fails_nil : ¬operator.Fails state [] supply fault after := nofun

theorem fails_cons_iff :
    operator.Fails state (other :: rest) supply fault after ↔
      operator.stop state [other] supply = .error fault after ∨
        ∃ between, operator.stop state [other] supply = .ok false between ∧
          operator.Fails state rest between fault after := by
  constructor
  · intro fails
    cases fails with
    | first failed => exact .inl failed
    | later uncovered failed => exact .inr ⟨_, uncovered, failed⟩
  · rintro (failed | ⟨_, uncovered, failed⟩)
    · exact .first failed
    · exact .later uncovered failed

end StopOperator

namespace Exploration

variable {S : Type} {operator : StopOperator S} {options : Options} {element : NodeId}
variable {node : Node S} {reached : List NodeId} {exploration : Exploration S}
variable {supply : Supply} {fault : Fault} {there : Exploration S × Supply}

/-! ## What a decision compares -/

/-- The reached node that a node was merged into. -/
def mergeTarget? (exploration : Exploration S) (node : Node S) (reached : List NodeId) :
    Option (Node S) :=
  (node.mergedInto.filter reached.contains).bind exploration.node?

/-- The node of a number, if it may cover a newer node. -/
def rival? (exploration : Exploration S) (element id : NodeId) : Option (Node S) :=
  (exploration.node? id).filter fun other => other.canCover && decide (id < element)

/-- The states of the older reached nodes that may cover others.  A target is compared with none of
them, unless the options allow it. -/
def rivals [Explorable S] (options : Options) (exploration : Exploration S) (element : NodeId)
    (node : Node S) (reached : List NodeId) : List S :=
  if !options.coverTargets && Explorable.isTarget node.state then []
  else (reached.filterMap (exploration.rival? element)).map Node.state

/-- The states that a node is compared with until one covers it: that of the node it was merged
into, and then those of its rivals. -/
def compared [Explorable S] (options : Options) (exploration : Exploration S) (element : NodeId)
    (node : Node S) (reached : List NodeId) : List S :=
  (exploration.mergeTarget? node reached).toList.map Node.state ++
    rivals options exploration element node reached

/-- Why a decision to stop is refused. -/
inductive Refusal [Explorable S] (operator : StopOperator S) (options : Options)
    (exploration : Exploration S) (element : NodeId) (reached : List NodeId) (supply : Supply) :
    Fault → Supply → Prop
  /-- The node is covered already. -/
  | covered {node : Node S} (found : exploration.node? element = some node)
      (covered : node.isCovered = true) :
      Refusal operator options exploration element reached supply
        (.invalidCoverage ("stop on already covered state " ++ element.text)) supply
  /-- The operator fails. -/
  | failed {node : Node S} {fault : Fault} {after : Supply}
      (found : exploration.node? element = some node) (uncovered : node.isCovered = false)
      (fails : operator.Fails node.state (compared options exploration element node reached)
        supply fault after) :
      Refusal operator options exploration element reached supply fault after
  /-- The node is to be marked as covered by the one it was merged into, which is covered itself. -/
  | unrecorded {node other : Node S} {id : NodeId} {after : Supply}
      (found : exploration.node? element = some node) (uncovered : node.isCovered = false)
      (chosen : options.markMerged = true) (merged : node.mergedInto = some id)
      (member : id ∈ reached) (target : exploration.node? id = some other)
      (taken : other.isCovered = true)
      (covers : operator.stop node.state [other.state] supply = .ok true after) :
      Refusal operator options exploration element reached supply
        (.invalidCoverage
          ("cannot cover " ++ element.text ++ " by " ++ id.text ++ ": already covered")) after

/-! ## The parts of a decision -/

/-- Two failures are the same if the faults, the explorations and the supplies are. -/
theorem error_eq_error_iff {refusal : Fault} {now : Supply} :
    (.error refusal (exploration, now) : EStateM.Result Fault (Exploration S × Supply) Bool) =
        .error fault there ↔
      (refusal = fault ∧ now = there.2) ∧ there.1 = exploration := by
  obtain ⟨after, later⟩ := there
  constructor
  · intro same
    cases same
    exact ⟨⟨rfl, rfl⟩, rfl⟩
  · rintro ⟨⟨rfl, rfl⟩, rfl⟩
    rfl

theorem rival?_eq_some_iff {id : NodeId} {other : Node S} :
    exploration.rival? element id = some other ↔
      exploration.node? id = some other ∧ other.canCover = true ∧ id < element := by
  simp [rival?, Option.filter_eq_some_iff]

/-- A rival is not covered, so that what it covers can be recorded. -/
theorem setCovered_of_rival {id : NodeId} {other : Node S}
    (uncovered : exploration.isCovered element = false)
    (rival : exploration.rival? element id = some other) :
    ∃ next, exploration.setCovered element id = .ok next := by
  obtain ⟨found, able, -⟩ := rival?_eq_some_iff.1 rival
  have free : exploration.isCovered id = false := by
    have bare : other.isCovered = false := by
      simp only [Node.canCover, Bool.and_eq_true, Bool.not_eq_true'] at able
      exact able.1.2
    simp [isCovered, found, bare]
  exact ⟨_, setCovered_eq_ok_iff.2 ⟨uncovered, free, rfl⟩⟩

/-- A node that is no rival is passed over. -/
theorem coverBy_of_rival_none {id : NodeId} (alone : exploration.rival? element id = none) :
    coverBy operator element node id (exploration, supply) = .ok none (exploration, supply) := by
  unfold coverBy
  rw [Run.bind_apply_ok (Run.ask_apply _ _)]
  cases found : exploration.node? id with
  | none => rfl
  | some other =>
      have unfit : (!other.canCover || decide (element ≤ id)) = true := by
        by_contra fit
        have rival : exploration.rival? element id = some other := by
          rw [rival?_eq_some_iff]
          simpa [found] using fit
        simp [alone] at rival
      simp only [unfit, if_true]
      rfl

/-- A rival is compared, and if it covers the node, that is recorded. -/
theorem coverBy_of_rival {id : NodeId} {other : Node S}
    (rival : exploration.rival? element id = some other) :
    coverBy operator element node id (exploration, supply) =
      (do
        if ← Run.draw (operator.stop node.state [other.state]) then
          Run.attempt fun exploration => exploration.setCovered element id
          return some other
        else
          return none : Run (Exploration S) (Option (Node S))) (exploration, supply) := by
  obtain ⟨found, able, older⟩ := rival?_eq_some_iff.1 rival
  have fit : (!other.canCover || decide (element ≤ id)) = false := by simp [able, older]
  unfold coverBy
  rw [Run.bind_apply_ok (Run.ask_apply _ _)]
  simp only [found, fit, Bool.false_eq_true, if_false]

/-- The comparison with the reached nodes is refused exactly if the operator fails for one of the
rivals among them. -/
theorem stopAtReached_eq_error_iff (uncovered : exploration.isCovered element = false)
    (reached : List NodeId) (supply : Supply) :
    stopAtReached operator options element node reached (exploration, supply) =
        .error fault there ↔
      operator.Fails node.state ((reached.filterMap (exploration.rival? element)).map Node.state)
          supply fault there.2 ∧
        there.1 = exploration := by
  induction reached generalizing supply with
  | nil => simp [stopAtReached, StopOperator.not_fails_nil]
  | cons id rest ih =>
      rw [stopAtReached]
      cases rival : exploration.rival? element id with
      | none =>
          rw [Run.bind_apply_ok (coverBy_of_rival_none rival), List.filterMap_cons_none rival]
          exact ih supply
      | some other =>
          rw [List.filterMap_cons_some rival, List.map_cons, StopOperator.fails_cons_iff]
          cases answer : operator.stop node.state [other.state] supply with
          | error fault now =>
              have refused : coverBy operator element node id (exploration, supply) =
                  .error fault (exploration, now) := by
                rw [coverBy_of_rival rival, Run.bind_apply_error (Run.draw_apply_error answer)]
              rw [Run.bind_apply_error refused, error_eq_error_iff]
              simp
          | ok verdict now =>
              cases verdict with
              | false =>
                  have passed : coverBy operator element node id (exploration, supply) =
                      .ok none (exploration, now) := by
                    rw [coverBy_of_rival rival, Run.bind_apply_ok (Run.draw_apply_ok answer)]
                    rfl
                  rw [Run.bind_apply_ok passed]
                  simpa using ih now
              | true =>
                  obtain ⟨next, recorded⟩ := setCovered_of_rival uncovered rival
                  have covered : coverBy operator element node id (exploration, supply) =
                      .ok (some other) (next, now) := by
                    rw [coverBy_of_rival rival, Run.bind_apply_ok (Run.draw_apply_ok answer)]
                    simp only [if_true]
                    rw [Run.bind_apply_ok (Run.attempt_apply_ok recorded)]
                    rfl
                  rw [Run.bind_apply_ok covered]
                  -- What is recorded goes through, so neither side holds.
                  simp only
                  split <;> simp [Run.bind_apply]

/-- A node that was not merged into a reached one is passed on. -/
theorem stopAtMerged_of_none (alone : exploration.mergeTarget? node reached = none) :
    stopAtMerged operator options element node reached (exploration, supply) =
      .ok false (exploration, supply) := by
  unfold stopAtMerged
  cases filtered : node.mergedInto.filter reached.contains with
  | none => rfl
  | some id =>
      have absent : exploration.node? id = none := by simpa [mergeTarget?, filtered] using alone
      simp only
      rw [Run.bind_apply_ok (Run.ask_apply _ _)]
      simp only [absent]
      rfl

/-- A node that was merged into a reached one is compared with it. -/
theorem stopAtMerged_of_target {id : NodeId} {other : Node S}
    (merged : node.mergedInto = some id) (member : id ∈ reached)
    (target : exploration.node? id = some other) :
    stopAtMerged operator options element node reached (exploration, supply) =
      (do
        if ← Run.draw (operator.stop node.state [other.state]) then
          if options.markMerged then
            Run.attempt fun exploration => exploration.setCovered element id
          else
            Run.modify fun exploration => exploration.remove element
          return true
        else
          return false : Run (Exploration S) Bool) (exploration, supply) := by
  have filtered : node.mergedInto.filter reached.contains = some id :=
    Option.filter_eq_some_iff.2 ⟨merged, by simpa using member⟩
  unfold stopAtMerged
  simp only [filtered]
  rw [Run.bind_apply_ok (Run.ask_apply _ _)]
  simp only [target]

theorem setCovered_eq_error_iff {id : NodeId} :
    exploration.setCovered element id = .error fault ↔
      (exploration.isCovered element = true ∨ exploration.isCovered id = true) ∧
        fault = .invalidCoverage
          ("cannot cover " ++ element.text ++ " by " ++ id.text ++ ": already covered") := by
  unfold setCovered
  split
  case isTrue covered =>
    have taken : exploration.isCovered element = true ∨ exploration.isCovered id = true := by
      simpa using covered
    constructor
    · intro same
      cases same
      exact ⟨taken, rfl⟩
    · rintro ⟨-, rfl⟩
      rfl
  case isFalse uncovered => simp_all

/-- If the node that a node was merged into covers it, this is refused exactly if it is to be
recorded and that node is covered itself. -/
theorem stopAtMerged_eq_error_iff_of_covers {id : NodeId} {other : Node S} {now : Supply}
    (uncovered : exploration.isCovered element = false)
    (merged : node.mergedInto = some id) (member : id ∈ reached)
    (target : exploration.node? id = some other)
    (covers : operator.stop node.state [other.state] supply = .ok true now) :
    stopAtMerged operator options element node reached (exploration, supply) =
        .error fault there ↔
      ((options.markMerged = true ∧ other.isCovered = true ∧
        .invalidCoverage
          ("cannot cover " ++ element.text ++ " by " ++ id.text ++ ": already covered") = fault) ∧
        now = there.2) ∧ there.1 = exploration := by
  have covered_iff : exploration.isCovered id = other.isCovered := by simp [isCovered, target]
  rw [stopAtMerged_of_target merged member target, Run.bind_apply_ok (Run.draw_apply_ok covers)]
  simp only [if_true]
  cases chosen : options.markMerged with
  | false => simp [Run.bind_apply]
  | true =>
      simp only [if_true, true_and]
      cases recorded : exploration.setCovered element id with
      | ok next =>
          obtain ⟨-, free, -⟩ := setCovered_eq_ok_iff.1 recorded
          rw [Run.bind_apply_ok (Run.attempt_apply_ok recorded)]
          simp [← covered_iff, free]
      | error refusal =>
          obtain ⟨taken, rfl⟩ := setCovered_eq_error_iff.1 recorded
          have covered : other.isCovered = true := by simpa [uncovered, covered_iff] using taken
          rw [Run.bind_apply_error (Run.attempt_apply_error recorded), error_eq_error_iff]
          simp [covered]

/-- It is never passed on to the rivals. -/
theorem stopAtMerged_verdict_of_covers {id : NodeId} {other : Node S} {now : Supply}
    {verdict : Bool} (merged : node.mergedInto = some id) (member : id ∈ reached)
    (target : exploration.node? id = some other)
    (covers : operator.stop node.state [other.state] supply = .ok true now)
    (done : stopAtMerged operator options element node reached (exploration, supply) =
      .ok verdict there) : verdict = true := by
  rw [stopAtMerged_of_target merged member target, Run.bind_apply_ok (Run.draw_apply_ok covers)]
    at done
  simp only [if_true] at done
  split at done <;>
  · obtain ⟨_, _, -, last⟩ := Run.bind_eq_ok_iff.1 done
    cases last
    rfl

/-! ## The whole decision -/

theorem mergeTarget?_eq_some_iff {other : Node S} :
    exploration.mergeTarget? node reached = some other ↔
      ∃ id, node.mergedInto = some id ∧ id ∈ reached ∧ exploration.node? id = some other := by
  simp [mergeTarget?, Option.bind_eq_some_iff, Option.filter_eq_some_iff, and_assoc]

theorem refusal_iff_of_covered [Explorable S] {after : Supply}
    (found : exploration.node? element = some node) (covered : node.isCovered = true) :
    Refusal operator options exploration element reached supply fault after ↔
      .invalidCoverage ("stop on already covered state " ++ element.text) = fault ∧
        supply = after := by
  constructor
  · intro refusal
    cases refusal with
    | covered => exact ⟨rfl, rfl⟩
    | failed found' uncovered =>
        obtain rfl := Option.some.inj (found.symm.trans found')
        simp [covered] at uncovered
    | unrecorded found' uncovered =>
        obtain rfl := Option.some.inj (found.symm.trans found')
        simp [covered] at uncovered
  · rintro ⟨rfl, rfl⟩
    exact .covered found covered

/-- A node that is not covered is refused for one of the two other reasons. -/
theorem refusal_iff_of_uncovered [Explorable S] {after : Supply}
    (found : exploration.node? element = some node) (uncovered : node.isCovered = false) :
    Refusal operator options exploration element reached supply fault after ↔
      operator.Fails node.state (compared options exploration element node reached) supply fault
          after ∨
        ∃ id other, (node.mergedInto = some id ∧ id ∈ reached ∧
            exploration.node? id = some other) ∧
          (options.markMerged = true ∧ other.isCovered = true ∧
            .invalidCoverage ("cannot cover " ++ element.text ++ " by " ++ id.text ++
              ": already covered") = fault) ∧
          operator.stop node.state [other.state] supply = .ok true after := by
  constructor
  · intro refusal
    cases refusal with
    | covered found' covered =>
        obtain rfl := Option.some.inj (found.symm.trans found')
        simp [uncovered] at covered
    | failed found' _ fails =>
        obtain rfl := Option.some.inj (found.symm.trans found')
        exact .inl fails
    | unrecorded found' _ chosen merged member target taken covers =>
        obtain rfl := Option.some.inj (found.symm.trans found')
        exact .inr ⟨_, _, ⟨merged, member, target⟩, ⟨chosen, taken, rfl⟩, covers⟩
  · rintro (fails | ⟨_, _, ⟨merged, member, target⟩, ⟨chosen, taken, rfl⟩, covers⟩)
    · exact .failed found uncovered fails
    · exact .unrecorded found uncovered chosen merged member target taken covers

/-- A node that was not merged into a reached one is refused only if the operator fails. -/
theorem refusal_iff_of_none [Explorable S] {after : Supply}
    (found : exploration.node? element = some node) (uncovered : node.isCovered = false)
    (alone : exploration.mergeTarget? node reached = none) :
    Refusal operator options exploration element reached supply fault after ↔
      operator.Fails node.state (rivals options exploration element node reached) supply fault
        after := by
  have same : compared options exploration element node reached =
      rivals options exploration element node reached := by simp [compared, alone]
  rw [refusal_iff_of_uncovered found uncovered, same, or_iff_left]
  rintro ⟨id, other, merged, -⟩
  have there := mergeTarget?_eq_some_iff.2 ⟨id, merged⟩
  simp [alone] at there

/-- A node that was merged into a reached one is compared with it first. -/
theorem refusal_iff_of_target [Explorable S] {after : Supply} {id : NodeId} {other : Node S}
    (found : exploration.node? element = some node) (uncovered : node.isCovered = false)
    (merged : node.mergedInto = some id) (member : id ∈ reached)
    (target : exploration.node? id = some other) :
    Refusal operator options exploration element reached supply fault after ↔
      operator.stop node.state [other.state] supply = .error fault after ∨
        (∃ between, operator.stop node.state [other.state] supply = .ok false between ∧
          operator.Fails node.state (rivals options exploration element node reached) between
            fault after) ∨
        (options.markMerged = true ∧ other.isCovered = true ∧
          .invalidCoverage
            ("cannot cover " ++ element.text ++ " by " ++ id.text ++ ": already covered") = fault) ∧
          operator.stop node.state [other.state] supply = .ok true after := by
  have first : compared options exploration element node reached =
      other.state :: rivals options exploration element node reached := by
    simp [compared, mergeTarget?_eq_some_iff.2 ⟨id, merged, member, target⟩]
  rw [refusal_iff_of_uncovered found uncovered, first, StopOperator.fails_cons_iff, or_assoc]
  refine or_congr_right (or_congr_right ⟨?_, fun refused => ⟨id, other, ⟨merged, member, target⟩,
    refused⟩⟩)
  rintro ⟨id', other', ⟨merged', -, target'⟩, refused⟩
  obtain rfl := Option.some.inj (merged.symm.trans merged')
  obtain rfl := Option.some.inj (target.symm.trans target')
  exact refused

/-- The decision for a node that is not covered. -/
theorem stop_of_uncovered [Explorable S] (found : exploration.node? element = some node)
    (uncovered : node.isCovered = false) :
    stop operator options element reached (exploration, supply) =
      (do
        if ← stopAtMerged operator options element node reached then
          return true
        else if !options.coverTargets && Explorable.isTarget node.state then
          return false
        else
          stopAtReached operator options element node reached : Run (Exploration S) Bool)
        (exploration, supply) := by
  unfold stop
  rw [Run.bind_apply_ok (Run.ask_apply _ _)]
  simp only [found, uncovered, Bool.false_eq_true, if_false]

/-- After the node that it was merged into, a node is compared with its rivals. -/
theorem stop_eq_error_iff_of_passed [Explorable S] {now : Supply}
    (found : exploration.node? element = some node) (uncovered : node.isCovered = false)
    (passed : stopAtMerged operator options element node reached (exploration, supply) =
      .ok false (exploration, now)) :
    stop operator options element reached (exploration, supply) = .error fault there ↔
      operator.Fails node.state (rivals options exploration element node reached) now fault
          there.2 ∧
        there.1 = exploration := by
  have free : exploration.isCovered element = false := by simp [isCovered, found, uncovered]
  rw [stop_of_uncovered found uncovered, Run.bind_apply_ok passed]
  unfold rivals
  simp only [Bool.false_eq_true, if_false]
  split
  case isTrue => simp [StopOperator.not_fails_nil]
  case isFalse => exact stopAtReached_eq_error_iff free reached now

/-- The decision for a node that was merged into a reached one. -/
theorem stop_eq_error_iff_of_target [Explorable S] {id : NodeId} {other : Node S}
    (found : exploration.node? element = some node) (uncovered : node.isCovered = false)
    (merged : node.mergedInto = some id) (member : id ∈ reached)
    (target : exploration.node? id = some other) :
    stop operator options element reached (exploration, supply) = .error fault there ↔
      Refusal operator options exploration element reached supply fault there.2 ∧
        there.1 = exploration := by
  rw [refusal_iff_of_target found uncovered merged member target]
  cases answer : operator.stop node.state [other.state] supply with
  | error refusal now =>
      have refused : stopAtMerged operator options element node reached (exploration, supply) =
          .error refusal (exploration, now) := by
        rw [stopAtMerged_of_target merged member target,
          Run.bind_apply_error (Run.draw_apply_error answer)]
      rw [stop_of_uncovered found uncovered, Run.bind_apply_error refused, error_eq_error_iff]
      simp
  | ok verdict now =>
      cases verdict with
      | false =>
          have passed : stopAtMerged operator options element node reached (exploration, supply) =
              .ok false (exploration, now) := by
            rw [stopAtMerged_of_target merged member target,
              Run.bind_apply_ok (Run.draw_apply_ok answer)]
            rfl
          simpa using stop_eq_error_iff_of_passed found uncovered passed
      | true =>
          have free : exploration.isCovered element = false := by simp [isCovered, found, uncovered]
          rw [stop_of_uncovered found uncovered, Run.bind_eq_error_iff,
            stopAtMerged_eq_error_iff_of_covers free merged member target answer]
          constructor
          · rintro (⟨⟨reason, rfl⟩, rfl⟩ | ⟨middle, between, done, stopped⟩)
            · exact ⟨.inr (.inr ⟨reason, rfl⟩), rfl⟩
            · obtain rfl := stopAtMerged_verdict_of_covers merged member target answer done
              simp at stopped
          · rintro ⟨failed | ⟨_, passed, -⟩ | ⟨reason, same⟩, rfl⟩
            · cases failed
            · cases passed
            · cases same
              exact .inl ⟨⟨reason, rfl⟩, rfl⟩

/-- A decision to stop is refused exactly for the three reasons, and it then leaves the exploration
as it is. -/
theorem stop_eq_error_iff [Explorable S] :
    stop operator options element reached (exploration, supply) = .error fault there ↔
      Refusal operator options exploration element reached supply fault there.2 ∧
        there.1 = exploration := by
  cases found : exploration.node? element with
  | none =>
      constructor
      · intro refused
        unfold stop at refused
        rw [Run.bind_apply_ok (Run.ask_apply _ _)] at refused
        simp [found] at refused
      · rintro ⟨refusal, -⟩
        cases refusal <;> simp_all
  | some node =>
      cases covered : node.isCovered with
      | true =>
          unfold stop
          rw [Run.bind_apply_ok (Run.ask_apply _ _), refusal_iff_of_covered found covered]
          simp only [found, covered, if_true]
          rw [Run.throw_apply, error_eq_error_iff]
      | false =>
          cases target : exploration.mergeTarget? node reached with
          | none =>
              rw [refusal_iff_of_none found covered target]
              exact stop_eq_error_iff_of_passed found covered (stopAtMerged_of_none target)
          | some other =>
              obtain ⟨id, merged, member, inside⟩ := mergeTarget?_eq_some_iff.1 target
              exact stop_eq_error_iff_of_target found covered merged member inside

/-- Three intervals, each inside the one before.  The third one was merged into the second one,
which is then covered by the first one. -/
def outdated : List (Operation Interval) :=
  [.addRoot ⟨0, 10, false⟩, .addRoot ⟨0, 5, false⟩, .addRoot ⟨1, 2, false⟩, .setMergedInto 2 1,
    .stop Interval.enclosure {} 1 [0]]

/-- The third interval of `outdated` is not covered and the operator never fails, but the decision
for it is refused if it is to be marked as covered by the second one. -/
theorem stop_refused_outdated :
    let found := (Run.history Operation.perform outdated (empty, .full)).1
    found.isCovered 2 = false ∧
      (∀ state others supply, ∃ verdict,
        Interval.enclosure.stop state others supply = .ok verdict supply) ∧
      ∃ fault there,
        stop Interval.enclosure { markMerged := true } 2 [1] (found, .full) = .error fault there :=
  ⟨rfl, fun _ _ _ => ⟨_, rfl⟩, _, _, rfl⟩

end Exploration

end ShapeDomain
