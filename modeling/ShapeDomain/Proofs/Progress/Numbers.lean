import ShapeDomain.Proofs.Progress.Path

/-!
# Joining values that are no addresses

Two values that are no addresses get a joint value unless they are numbers that differ.  If the left
graph is covered afterwards, then what the right graph knows the left one knows as well.
-/

namespace ShapeDomain

namespace Join

variable {basis : Basis} {path waiting kept : List ObjectPair} {here : Progress × Supply}
variable {pair : ObjectPair} {range : BitRange} {value1 value2 value : ValueId}

/-- What holds where a part of a join goes through; it stops with a fault only where folding can
harm. -/
abbrev Basis.Ends {α : Type} (basis : Basis) (computation : Run Progress α)
    (here : Progress × Supply) (good : α → Progress × Supply → Prop) : Prop :=
  Run.Ends computation here good fun _ _ => ¬ basis.Safe

/-- What joining two values leads to.  They have no joint value only if something that meets does
not fit, unless list nodes were folded. -/
def ValuesJoined (basis : Basis) (path waiting kept : List ObjectPair) (value1 value2 : ValueId)
    (here : Progress × Supply) : ValueJoin → Progress × Supply → Prop
  | .joined value fold, there => Invariant basis path waiting there ∧
      Onward basis [] [] kept here there ∧ jointValue? there.1 value1 value2 = some value ∧
      ∀ found, fold = some found → Offers basis path there found
  | .undefined recoverable, _ => recoverable = false ∧
      (¬ basis.Folds → ¬ Cover basis.left basis.right)

theorem modifyDest_apply (change : Graph → Graph) (here : Progress × Supply) :
    modifyDest change here = .ok () ({ here.1 with dest := change here.1.dest }, here.2) := rfl

theorem attemptDest_apply {change : Graph → Except Fault Graph} {here : Progress × Supply}
    {dest : Graph} (done : change here.1.dest = .ok dest) :
    attemptDest change here = .ok () ({ here.1 with dest := dest }, here.2) := by
  rw [attemptDest, onDest, Run.within_apply, Run.attempt_apply_ok done]

theorem lower_apply (status : Status) (here : Progress × Supply) :
    lower status here =
      .ok () ({ here.1 with status := here.1.status.meet status }, here.2) := rfl

theorem lower_equal_apply (here : Progress × Supply) : lower .equal here = .ok () here := by
  rw [lower_apply, Status.meet_equal]

/-! ### Values without a join -/

/-- A plain graph has no list segments. -/
theorem pointsToList_eq_false {start now : Nat} {origin graph : Graph} (plain : origin.Plain start)
    (intact : Intact start origin graph now) (value : ValueId) :
    pointsToList graph value = false := by
  unfold pointsToList
  cases leads : (graph.target? value).bind fun target => graph.object? target.object with
  | none => rfl
  | some object =>
      obtain ⟨target, -, found⟩ := Option.bind_eq_some_iff.1 leads
      rw [intact.relaid.object?] at found
      exact plain.noList found

theorem noJoin_apply (invariant : Invariant basis path waiting here) (value1 value2 : ValueId) :
    noJoin basis.setting value1 value2 here = .ok (.undefined false) here := by
  unfold noJoin
  rw [Run.bind_apply_ok (Run.state_apply _)]
  simp [pointsToList_eq_false basis.leftPlain invariant.left,
    pointsToList_eq_false basis.rightPlain invariant.right]

/-! ### The destination -/

section Gains

variable {graph : Graph}

theorem gains_addValue (sound : graph.Sound) (value : ValueId) :
    Gains graph (graph.addValue value) value where
  objects := rfl
  layouts := rfl
  stack := rfl
  globals := rfl
  sound := sound.addValue value
  knowledge _ := graph.knowledge_addValue value _
  values := by
    intro other
    rw [Graph.hasValue_addValue, Bool.or_eq_true, decide_eq_true_eq]

/-- What is known of a new value does not matter to the others. -/
theorem gains_putKnowledge {known : Knowledge} (absent : graph.hasValue value = false)
    (sound : (graph.putKnowledge value known).Sound) :
    Gains graph ((graph.putKnowledge value known).addValue value) value where
  objects := rfl
  layouts := rfl
  stack := rfl
  globals := rfl
  sound := sound.addValue value
  knowledge {other} present := by
    rw [Graph.knowledge_addValue, Graph.knowledge_putKnowledge, if_neg]
    rintro rfl
    rw [absent] at present
    simp at present
  values := by
    intro other
    rw [Graph.hasValue_addValue, Graph.hasValue_putKnowledge]
    simp

end Gains

/-! ### Names -/

/-- The name of a joint value is shared, or it is new. -/
inductive Named (basis : Basis) (here : Progress × Supply) (value1 value2 : ValueId) :
    ValueId → Supply → Prop where
  /-- The values share their name. -/
  | shared : value1 = value2 → value1 ≠ .zero → value1.index < basis.start →
      Named basis here value1 value2 value1 here.2
  /-- The name is drawn. -/
  | drawn : Named basis here value1 value2 ⟨here.2.next⟩ ⟨here.2.next + 1⟩

section

variable {now : Supply}

theorem valueName_apply (invariant : Invariant basis path waiting here)
    (meeting : Meeting basis waiting here.1 pair range value1 value2)
    (undecided : jointValue? here.1 value1 value2 = none) :
    ∃ value now, valueName value1 value2 here = .ok value (here.1, now) ∧
      Named basis here value1 value2 value now := by
  unfold valueName
  split
  case isTrue same =>
    subst same
    refine ⟨value1, here.2, rfl, .shared rfl ?_ (invariant.shared meeting)⟩
    rintro rfl
    exact (jointValue?_eq_none_iff.1 undecided).1 ⟨rfl, rfl⟩
  case isFalse => exact ⟨_, _, Run.draw_valueId_apply here, .drawn⟩

theorem numberName_apply (invariant : Invariant basis path waiting here)
    (meeting : Meeting basis waiting here.1 pair range value1 value2)
    (undecided : jointValue? here.1 value1 value2 = none) (number : Int) :
    ∃ value now, numberName value1 value2 number range.size here = .ok value (here.1, now) ∧
      ((value = .zero ∧ Number.wrap number range.size false = 0 ∧ now = here.2) ∨
        Named basis here value1 value2 value now) := by
  unfold numberName
  split
  case isTrue same =>
    subst same
    refine ⟨value1, here.2, rfl, .inr (.shared rfl ?_ (invariant.shared meeting))⟩
    rintro rfl
    exact (jointValue?_eq_none_iff.1 undecided).1 ⟨rfl, rfl⟩
  case isFalse =>
    split
    case isTrue wraps => exact ⟨.zero, here.2, rfl, .inl ⟨rfl, wraps, rfl⟩⟩
    case isFalse => exact ⟨_, _, Run.draw_valueId_apply here, .inr .drawn⟩

theorem Named.time (named : Named basis here value1 value2 value now) :
    here.2.next ≤ now.next := by
  cases named with
  | shared => exact Nat.le_refl _
  | drawn => exact Nat.le_succ _

theorem Named.absent (named : Named basis here value1 value2 value now)
    (invariant : Invariant basis path waiting here)
    (free : value1 = .zero ∨ here.1.leftMap.value? value1 = none) :
    here.1.dest.hasValue value = false := by
  cases named with
  | shared _ proper early =>
      cases present : here.1.dest.hasValue value1 with
      | false => rfl
      | true =>
          rcases invariant.values present with zero | ⟨late, -⟩ | ⟨-, bound⟩
          · exact absurd zero proper
          · exact absurd early (Nat.not_lt_of_le late)
          · rw [free.resolve_left proper] at bound
            simp at bound
  | drawn => exact invariant.absent_of_next

theorem Named.ne_zero (named : Named basis here value1 value2 value now)
    (invariant : Invariant basis path waiting here) : value ≠ .zero := by
  cases named with
  | shared _ proper => exact proper
  | drawn =>
      intro zero
      have isZero : here.2.next = 0 := congrArg ValueId.index zero
      have started := invariant.started
      have positive := basis.leftPlain.positive
      omega

theorem Named.named (named : Named basis here value1 value2 value now)
    (invariant : Invariant basis path waiting here) :
    here.1.dest.hasValue value = true ∨ (basis.start ≤ value.index ∧ value.index < now.next) ∨
      (value.index < basis.start ∧ value1 = value) := by
  cases named with
  | shared _ _ early => exact .inr (.inr ⟨early, rfl⟩)
  | drawn => exact .inr (.inl ⟨invariant.started, Nat.lt_succ_self _⟩)

end

/-! ### Numbers -/

/-- The values may get a joint value. -/
structure Free (here : Progress × Supply) (value1 value2 : ValueId) : Prop where
  /-- They have none yet. -/
  undecided : jointValue? here.1 value1 value2 = none
  /-- The left value has no counterpart. -/
  free1 : value1 = .zero ∨ here.1.leftMap.value? value1 = none
  /-- The right value has none either. -/
  free2 : value2 = .zero ∨ here.1.rightMap.value? value2 = none

/-- Values that have no counterparts have no joint value. -/
theorem Invariant.free (invariant : Invariant basis path waiting here) (proper : value1 ≠ .zero)
    (free1 : here.1.leftMap.value? value1 = none)
    (free2 : value2 = .zero ∨ here.1.rightMap.value? value2 = none) : Free here value1 value2 := by
  refine ⟨jointValue?_eq_none_iff.2 ⟨fun zeros => proper zeros.1, ?_⟩, .inr free1, free2⟩
  refine Option.eq_none_iff_forall_ne_some.2 fun value isJoint => ?_
  have bound := (invariant.joined isJoint).left.resolve_left proper
  rw [free1] at bound
  simp at bound

theorem Free.allows (free : Free here value1 value2) (value : ValueId) :
    AllowsValue here.1.leftMap value1 value ∧ AllowsValue here.1.rightMap value2 value := by
  refine ⟨free.free1.imp (fun zero => ?_) .inl, free.free2.imp (fun zero => ?_) .inl⟩
  · simp [zero, ValueId.isZero]
  · simp [zero, ValueId.isZero]

/-- Once a pair of values may get a joint value, it gets it. -/
theorem valuesJoined_of_joining (invariant : Invariant basis path waiting here) {dest : Graph}
    {status : Status} {now : Supply}
    (joining : Joining basis here value1 value2 value dest status now)
    (exact : ¬ basis.Folds → JoiningExact basis waiting here value1 value2 value dest status) :
    ValuesJoined basis path waiting kept value1 value2 here (.joined value none)
      (here.1.joining value1 value2 value dest status, now) :=
  ⟨invariant.joining joining exact, joining.onward, jointValue?_joining joining.undecided,
    by simp⟩

/-- A pair of values gets a joint value, and nothing else changes. -/
def GetsJoint (basis : Basis) (waiting : List ObjectPair) (here : Progress × Supply)
    (value1 value2 : ValueId) (computation : Run Progress ValueJoin) : Prop :=
  ∃ value dest status now,
    computation here = .ok (.joined value none)
      (here.1.joining value1 value2 value dest status, now) ∧
    Joining basis here value1 value2 value dest status now ∧
    (¬ basis.Folds → JoiningExact basis waiting here value1 value2 value dest status)

theorem leftIsCovered_meet {status other : Status} :
    (status.meet other).leftIsCovered = (status.leftIsCovered && other.leftIsCovered) := by
  cases status <;> cases other <;> rfl

section Numbers

variable (invariant : Invariant basis path waiting here)
variable (meeting : Meeting basis waiting here.1 pair range value1 value2)
variable (free : Free here value1 value2)
variable (plain1 : address? here.1.left value1 = none)
variable (plain2 : address? here.1.right value2 = none)

include invariant meeting free plain1 plain2

/-- Two values that are known to be the same number. -/
theorem joining_of_numbers {number1 number2 : Int}
    (known1 : here.1.left.number? value1 = some number1)
    (known2 : here.1.right.number? value2 = some number2)
    (agree : Number.agreeIn number1 number2 range.size = true) {dest : Graph} {now : Supply}
    (outcome : (value = .zero ∧ Number.wrap number1 range.size false = 0 ∧ now = here.2 ∧
        dest = here.1.dest.addValue .zero) ∨
      (Named basis here value1 value2 value now ∧
        dest = (here.1.dest.setNumber value number1).addValue value)) :
    Joining basis here value1 value2 value dest here.1.status now ∧ (¬ basis.Folds →
      JoiningExact basis waiting here value1 value2 value dest here.1.status) := by
  have gains : Gains here.1.dest dest value := by
    rcases outcome with ⟨rfl, -, -, rfl⟩ | ⟨named, rfl⟩
    · exact gains_addValue invariant.dest .zero
    · exact gains_putKnowledge (named.absent invariant free.free1)
        (invariant.dest.setNumber value number1)
  have fit := invariant.numbersFit meeting known1 known2 agree
  have left1 := (invariant.left.relaid.number? value1).symm.trans known1
  have right2 := (invariant.right.relaid.number? value2).symm.trans known2
  have isPlain := (invariant.address?_left value1).symm.trans plain1
  constructor
  · refine ⟨?_, gains, free.undecided, free.free1, free.free2, ?_, .plain plain1 plain2 ?_,
      fun leads => by simp [isPlain] at leads, fun covered => covered, fun _ _ found isFound => ?_,
      invariant.partners.covered⟩
    · rcases outcome with ⟨-, -, rfl, -⟩ | ⟨named, -⟩
      · exact Nat.le_refl _
      · exact named.time
    · rcases outcome with ⟨rfl, -⟩ | ⟨named, -⟩
      · exact .inl invariant.dest.hasValue_zero
      · exact named.named invariant
    · rcases outcome with ⟨rfl, -⟩ | ⟨named, rfl⟩
      · exact .inl rfl
      · right
        show ((here.1.dest.setNumber value number1).addValue value).target? value = none
        rw [Graph.target?_addValue, Graph.target?_setNumber, Graph.target?,
          Graph.knowledge_of_hasValue_eq_false (named.absent invariant free.free1)]
        rfl
    · rw [right2, Option.some.injEq] at isFound
      subst isFound
      exact ⟨number1, range.size, left1, fit⟩
  · intro still
    refine ⟨meeting.held still, ?_, ⟨fun proper => ?_, fun zero => ?_, fun leads => ?_,
      fun _ is1 is2 => ?_⟩⟩
    · rcases outcome with ⟨rfl, -⟩ | ⟨named, -⟩
      · exact .inl rfl
      · exact .inr (named.absent invariant free.free1)
    · rw [if_pos ⟨isPlain, by simp [right2]⟩, left1]
      rcases outcome with ⟨rfl, -⟩ | ⟨named, rfl⟩
      · exact absurd rfl proper
      · show ((here.1.dest.setNumber value number1).addValue value).number? value = some number1
        rw [Graph.number?_addValue, Graph.number?_setNumber, if_pos rfl]
    · rcases outcome with ⟨-, wraps, -⟩ | ⟨named, -⟩
      · exact ⟨isPlain, number1, number2, range.size, left1, right2, fit, wraps⟩
      · exact absurd zero (named.ne_zero invariant)
    · rw [isPlain] at leads
      simp at leads
    · obtain rfl := Option.some.inj (left1.symm.trans is1)
      obtain rfl := Option.some.inj (right2.symm.trans is2)
      exact ⟨range.size, fit⟩

/-- Two values that are not both known numbers. -/
theorem joining_of_unknown
    (unknown : here.1.left.number? value1 = none ∨ here.1.right.number? value2 = none)
    {now : Supply} (named : Named basis here value1 value2 value now) :
    Joining basis here value1 value2 value (here.1.dest.addValue value)
        (here.1.status.meet (numberStatus (value1 == value2) 0 (here.1.left.number? value1)
          (here.1.right.number? value2))) now ∧
      (¬ basis.Folds → JoiningExact basis waiting here value1 value2 value
        (here.1.dest.addValue value) (here.1.status.meet (numberStatus (value1 == value2) 0
          (here.1.left.number? value1) (here.1.right.number? value2)))) := by
  have absent := named.absent invariant free.free1
  have knowledge := Graph.knowledge_of_hasValue_eq_false absent
  have isPlain := (invariant.address?_left value1).symm.trans plain1
  have lowered : (numberStatus (value1 == value2) 0 (here.1.left.number? value1)
      (here.1.right.number? value2)).leftIsCovered = true ↔ here.1.right.number? value2 = none := by
    cases number1 : here.1.left.number? value1 <;> cases number2 : here.1.right.number? value2 <;>
      simp_all [numberStatus, Status.leftIsCovered]
  constructor
  · refine ⟨named.time, gains_addValue invariant.dest value, free.undecided, free.free1, free.free2,
      named.named invariant, .plain plain1 plain2 (.inr ?_),
      fun leads => by simp [isPlain] at leads, fun covered => ?_,
      fun covered _ found isFound => ?_, fun informed => ?_⟩
    · show (here.1.dest.addValue value).target? value = none
      rw [Graph.target?_addValue, Graph.target?, knowledge]
      rfl
    · rw [leftIsCovered_meet, Bool.and_eq_true] at covered
      exact covered.1
    · rw [leftIsCovered_meet, Bool.and_eq_true, lowered, invariant.right.relaid.number?, isFound]
        at covered
      simp at covered
    · rw [leftIsCovered_meet, invariant.partners.covered informed, Bool.true_and, lowered]
      obtain ⟨cell1, cell2, paired, stands1, stands2⟩ := meeting.paired
      cases number2 : here.1.right.number? value2 with
      | none => rfl
      | some number =>
          have known := informed.known paired (fun zeros => ?_)
            ((stands1.address? basis.leftPlain invariant.left).trans plain1)
            ((stands2.number? basis.rightPlain invariant.right).trans number2)
          · rw [stands1.number? basis.leftPlain invariant.left,
              unknown.resolve_right (by simp [number2])] at known
            simp at known
          · obtain ⟨rfl, rfl⟩ := zeros
            exact (jointValue?_eq_none_iff.1 free.undecided).1 ⟨stands1.eq_zero, stands2.eq_zero⟩
  · intro still
    refine ⟨meeting.held still, .inr absent, ⟨fun _ => ?_, fun zero => ?_, fun leads => ?_,
      fun _ is1 is2 => ?_⟩⟩
    · show (here.1.dest.addValue value).number? value = _
      rw [Graph.number?_addValue, Graph.number?, knowledge, ← invariant.left.relaid.number? value1,
        ← invariant.right.relaid.number? value2]
      rcases unknown with number | number
      · simp [number, Knowledge.nothing]
      · simp [number, Knowledge.nothing]
    · exact absurd zero (named.ne_zero invariant)
    · rw [isPlain] at leads
      simp at leads
    · rw [← invariant.left.relaid.number? value1] at is1
      rw [← invariant.right.relaid.number? value2] at is2
      simp [is1, is2] at unknown

omit free plain2 in
/-- Numbers that differ do not fit. -/
theorem not_cover_of_numbers {number1 number2 : Int}
    (known1 : here.1.left.number? value1 = some number1)
    (known2 : here.1.right.number? value2 = some number2)
    (differ : ¬ Number.agreeIn number1 number2 range.size = true) :
    ¬ Cover basis.left basis.right := by
  intro cover
  obtain ⟨cell1, cell2, paired, stands1, stands2⟩ := meeting.paired
  exact differ (cover.numbers paired
    ((stands1.address? basis.leftPlain invariant.left).trans plain1)
    ((stands1.number? basis.leftPlain invariant.left).trans known1)
    ((stands2.number? basis.rightPlain invariant.right).trans known2))

theorem joinNumbers_of_unknown
    (unknown : here.1.left.number? value1 = none ∨ here.1.right.number? value2 = none) :
    GetsJoint basis waiting here value1 value2 (joinNumbers value1 value2 range.size 0) := by
  obtain ⟨value, now, done, named⟩ := valueName_apply invariant meeting free.undecided
  obtain ⟨joining, exact⟩ :=
    joining_of_unknown invariant meeting free plain1 plain2 unknown named
  refine ⟨value, _, _, now, ?_, joining, exact⟩
  have rest : (do
      let dest ← valueName value1 value2
      pairValues value1 value2 dest
      lower (numberStatus (value1 == value2) 0 (here.1.left.number? value1)
        (here.1.right.number? value2))
      return ValueJoin.joined dest none) here = .ok (.joined value none)
        (here.1.joining value1 value2 value (here.1.dest.addValue value) (here.1.status.meet
          (numberStatus (value1 == value2) 0 (here.1.left.number? value1)
            (here.1.right.number? value2))), now) := by
    refine (Run.bind_apply_ok done).trans ?_
    refine (Run.bind_apply_ok (@pairValues_ok (here.1, now) _ _ _ (free.allows value).1
      (free.allows value).2)).trans ?_
    exact Run.bind_apply_ok (Run.modify_apply _ _)
  unfold joinNumbers
  refine (Run.bind_apply_ok (Run.state_apply _)).trans ?_
  rcases unknown with none1 | none2
  · simpa only [none1] using rest
  · cases number1 : here.1.left.number? value1 <;> simpa only [number1, none2] using rest

theorem joinNumbers_of_agree {number1 number2 : Int}
    (known1 : here.1.left.number? value1 = some number1)
    (known2 : here.1.right.number? value2 = some number2)
    (agree : Number.agreeIn number1 number2 range.size = true) :
    GetsJoint basis waiting here value1 value2 (joinNumbers value1 value2 range.size 0) := by
  obtain ⟨value, now, done, outcome⟩ :=
    numberName_apply invariant meeting free.undecided number1
  unfold joinNumbers GetsJoint
  rw [Run.bind_apply_ok (Run.state_apply _)]
  simp only [known1, known2, agree, if_true]
  rw [Run.bind_apply_ok done]
  rcases outcome with ⟨rfl, wraps, rfl⟩ | named
  · obtain ⟨joining, exact⟩ := joining_of_numbers invariant meeting free plain1 plain2
      known1 known2 agree (.inl ⟨rfl, wraps, rfl, rfl⟩)
    refine ⟨.zero, _, _, _, ?_, joining, exact⟩
    exact Run.bind_apply_ok (pairValues_ok (free.allows .zero).1 (free.allows .zero).2)
  · obtain ⟨joining, exact⟩ := joining_of_numbers invariant meeting free plain1 plain2
      known1 known2 agree (.inr ⟨named, rfl⟩)
    have proper : value.isZero = false := by
      simpa [ValueId.isZero] using named.ne_zero invariant
    refine ⟨value, _, _, now, ?_, joining, exact⟩
    rw [proper, if_neg Bool.false_ne_true]
    refine (Run.bind_apply_ok (modifyDest_apply _ (here.1, now))).trans ?_
    exact Run.bind_apply_ok (pairValues_ok (free.allows value).1 (free.allows value).2)

/-- Two values that are no addresses get a joint value unless they are numbers that differ. -/
theorem joinNumbers_apply :
    GetsJoint basis waiting here value1 value2 (joinNumbers value1 value2 range.size 0) ∨
      (joinNumbers value1 value2 range.size 0 here = .ok (.undefined false) here ∧
        ¬ Cover basis.left basis.right) := by
  cases known1 : here.1.left.number? value1 with
  | none => exact .inl (joinNumbers_of_unknown invariant meeting free plain1 plain2 (.inl known1))
  | some number1 =>
      cases known2 : here.1.right.number? value2 with
      | none =>
          exact .inl (joinNumbers_of_unknown invariant meeting free plain1 plain2 (.inr known2))
      | some number2 =>
          by_cases agree : Number.agreeIn number1 number2 range.size = true
          · exact .inl
              (joinNumbers_of_agree invariant meeting free plain1 plain2 known1 known2 agree)
          · refine .inr ⟨?_, not_cover_of_numbers invariant meeting plain1 known1 known2 agree⟩
            unfold joinNumbers
            rw [Run.bind_apply_ok (Run.state_apply _)]
            simp only [known1, known2, agree]
            rfl

/-- Joining two values that are no addresses. -/
theorem joinNumbers_ends :
    basis.Ends (joinNumbers value1 value2 range.size 0) here
      (ValuesJoined basis path waiting kept value1 value2 here) := by
  rcases joinNumbers_apply invariant meeting free plain1 plain2 with
    ⟨value, dest, status, now, done, joining, exact⟩ | ⟨refused, unfit⟩
  · exact Run.ends_of_ok done (valuesJoined_of_joining invariant joining exact)
  · exact Run.ends_of_ok refused ⟨rfl, fun _ => unfit⟩

end Numbers

end Join

end ShapeDomain
