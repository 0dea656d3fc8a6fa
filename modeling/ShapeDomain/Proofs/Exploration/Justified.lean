import ShapeDomain.Proofs.Exploration.Covering

/-!
# Coverage is justified

What a search records as covered is covered: the operator said so when it was asked about the two
states, and states never change.  If operators decide by a relation of states whose names were drawn
before, then the two states are so related.  As a covering node is older than the covered one, the
way from a node to the one that covers it, and on from there, comes to an end.
-/

namespace ShapeDomain

/-- An operator that decides by a relation of states, as long as these are known where it is asked.
States that are known stay known when it is asked. -/
structure StopOperator.DecidesBy {S : Type} (known : Supply → S → Prop)
    (covers : (covering state : S) → Prop) (operator : StopOperator S) : Prop where
  /-- No known state gets unknown, whether or not the operator stops with a fault. -/
  keeps : ∀ {supply : Supply} {other : S} (state : S) (reached : List S),
    known supply other → known (operator.left state reached supply) other
  /-- The operator says of known states what the relation says. -/
  decides : ∀ {supply : Supply} {covering state : S}, known supply covering → known supply state →
    ((∃ now, operator.stop state [covering] supply = .ok true now) ↔ covers covering state)

namespace StopOperator.DecidesBy

variable {S : Type} {known : Supply → S → Prop} {covers : (covering state : S) → Prop}
variable {operator : StopOperator S} {supply now : Supply} {covering state : S}

theorem known_of_leads (decides : operator.DecidesBy known covers)
    (leads : operator.Leads supply now) (before : known supply state) : known now state := by
  induction leads with
  | start => exact before
  | asked other reached _ ih => exact decides.keeps other reached ih

theorem covers_of_found (decides : operator.DecidesBy known covers)
    (found : operator.CoversFrom supply covering state) (known1 : known supply covering)
    (known2 : known supply state) : covers covering state := by
  obtain ⟨before, after, leads, asked⟩ := found
  exact (decides.decides (decides.known_of_leads leads known1)
    (decides.known_of_leads leads known2)).1 ⟨after, asked⟩

end StopOperator.DecidesBy

namespace Exploration

variable {S : Type} {exploration before after : Exploration S} {id x y : NodeId}

/-! ## States stay -/

/-- The state of the node of a number. -/
def stateOf? (exploration : Exploration S) (id : NodeId) : Option S :=
  (exploration.node? id).map Node.state

theorem stateOf?_update {change : Node S → Node S}
    (kept : ∀ node, (change node).state = node.state) :
    (exploration.update id change).stateOf? x = exploration.stateOf? x := by
  rw [stateOf?, node?_update]
  split
  · simp [stateOf?, Function.comp_def, kept]
  · rfl

theorem stateOf?_addRoot (state : S) :
    (exploration.addRoot state).2.stateOf? x =
      if x = exploration.size then some state else exploration.stateOf? x := by
  rw [stateOf?, node?_addRoot]
  split <;> rfl

theorem stateOf?_addParent (child parent : NodeId) :
    (exploration.addParent child parent).stateOf? x = exploration.stateOf? x := by
  unfold addParent
  split
  · rfl
  · refine (stateOf?_update ?_).trans (stateOf?_update ?_)
    · exact fun _ => rfl
    · exact fun _ => rfl

theorem stateOf?_of_setCovered (recorded : before.setCovered id y = .ok after) :
    after.stateOf? x = before.stateOf? x := by
  obtain ⟨-, -, rfl⟩ := setCovered_eq_ok_iff.1 recorded
  refine (stateOf?_update ?_).trans (stateOf?_update ?_)
  · exact fun _ => rfl
  · exact fun _ => rfl

theorem stateOf?_remove : (exploration.remove id).stateOf? x = exploration.stateOf? x := by
  have bare := congrArg (Option.map Node.state) (bare_remove exploration id x)
  simp only [Option.map_map] at bare
  refine bare.trans (congrArg (fun view => (exploration.node? x).map view) ?_)
  funext node
  simp only [Function.comp]
  split <;> rfl

/-- The state that an operation adds. -/
def Operation.added? : Operation S → Option S
  | .addRoot state | .addChild _ state => some state
  | _ => none

/-- No operation changes the state of a node, and what it adds gets the next number. -/
theorem Operation.stateOf?_perform [Explorable S] (operation : Operation S) (supply : Supply) :
    (operation.perform.finish (before, supply)).1.stateOf? x =
      if x = before.size then operation.added? else before.stateOf? x := by
  have absent : before.stateOf? before.size = none := by simp [stateOf?, node?, size]
  have same {after : Exploration S} (kept : after.stateOf? x = before.stateOf? x) :
      after.stateOf? x = if x = before.size then none else before.stateOf? x := by
    split
    case isTrue new => rw [kept, new, absent]
    case isFalse => exact kept
  cases operation with
  | addRoot state => exact stateOf?_addRoot state
  | addChild parent state =>
      exact (stateOf?_addParent before.size parent).trans (stateOf?_addRoot state)
  | addParent child parent => exact same (stateOf?_addParent child parent)
  | setMergedInto id into => exact same (stateOf?_update fun _ => rfl)
  | setEligible id eligible => exact same (stateOf?_update fun _ => rfl)
  | setCovered id covering =>
      refine same (Run.Ends.finish (fun there => stateOf? there.1 x = before.stateOf? x)
        ((setCovered_keeps stateOf?_of_setCovered rfl).bind ?_))
      exact fun _ _ kept => Run.ends_pure kept
  | remove id => exact same stateOf?_remove
  | stop operator options element reached =>
      refine same (Run.Ends.finish (fun there => stateOf? there.1 x = before.stateOf? x)
        ((@stop_keeps S before _ (fun there => there.stateOf? x = before.stateOf? x) _ _ _ _ _ ?_ ?_
          rfl).bind ?_))
      · exact fun kept _ _ recorded => (stateOf?_of_setCovered recorded).trans kept
      · exact fun kept => stateOf?_remove.trans kept
      · exact fun _ _ kept => Run.ends_pure kept

theorem Operation.retains [Explorable S] (operation : Operation S) (supply : Supply) {state : S}
    (known : before.stateOf? x = some state) :
    (operation.perform.finish (before, supply)).1.stateOf? x = some state := by
  rw [operation.stateOf?_perform supply, if_neg, known]
  rintro rfl
  simp [stateOf?, node?, size] at known

/-! ## Justified coverage -/

/-- Where a node covers another one, there is a reason for it in the two nodes and their states. -/
def Justified (reason : (covered covering : NodeId) → (covering state : S) → Prop)
    (exploration : Exploration S) : Prop :=
  ∀ x y, exploration.coveredBy? x = some y → ∃ state covering,
    exploration.stateOf? x = some state ∧ exploration.stateOf? y = some covering ∧
      reason x y covering state

/-- An operation keeps coverage justified, if there is a reason for what its operator finds. -/
theorem CoverageStep.justified [Explorable S] {operation : Operation S} {supply : Supply}
    {reason : (covered covering : NodeId) → (covering state : S) → Prop}
    (step : CoverageStep operation supply before (operation.perform.finish (before, supply)).1)
    (new : ∀ {operator options element id reached state covering},
      operation = .stop operator options element reached → id ∈ reached →
      before.stateOf? element = some state → before.stateOf? id = some covering →
      operator.CoversFrom supply covering state → reason element id covering state)
    (justified : Justified reason before) :
    Justified reason (operation.perform.finish (before, supply)).1 := by
  have retained {x y : NodeId} (covered : before.coveredBy? x = some y) :
      ∃ state covering, (operation.perform.finish (before, supply)).1.stateOf? x = some state ∧
        (operation.perform.finish (before, supply)).1.stateOf? y = some covering ∧
        reason x y covering state := by
    obtain ⟨state, covering, here, there, because⟩ := justified x y covered
    exact ⟨state, covering, operation.retains supply here, operation.retains supply there, because⟩
  intro x y covered
  cases step with
  | kept same => exact retained (same.coveredBy ▸ covered)
  | cut id coveredBy =>
      rw [coveredBy] at covered
      split at covered
      · cases covered
      · exact retained (Option.filter_eq_some_iff.1 covered).1
  | covered operator options element id reached asked member older alive uncovered coveredBy live
      unmerged found =>
      obtain ⟨node, other, here, there, found⟩ := found
      by_cases same : x = element
      · subst same
        obtain rfl : id = y := by simpa [coveredBy] using covered
        have isState : before.stateOf? x = some node.state := by simp [stateOf?, here]
        have isCovering : before.stateOf? id = some other.state := by simp [stateOf?, there]
        exact ⟨node.state, other.state, operation.retains supply isState,
          operation.retains supply isCovering, new asked member isState isCovering found⟩
      · exact retained (by simpa [coveredBy, same] using covered)

/-! ## Known states -/

/-- Whether the state that an operation adds is known. -/
def Operation.Introduces (known : Supply → S → Prop) (supply : Supply) (operation : Operation S) :
    Prop :=
  ∀ state, operation.added? = some state → known supply state

/-- Whether an operation asks only operators that decide by a relation. -/
def Operation.DecidesBy (known : Supply → S → Prop) (covers : (covering state : S) → Prop) :
    Operation S → Prop
  | .stop operator _ _ _ => operator.DecidesBy known covers
  | _ => True

/-- The states of all nodes are known. -/
def Acquainted (known : Supply → S → Prop) (here : Exploration S × Supply) : Prop :=
  ∀ x state, here.1.stateOf? x = some state → known here.2 state

/-- What is known stays known. -/
theorem Operation.DecidesBy.known [Explorable S] {known : Supply → S → Prop}
    {covers : (covering state : S) → Prop} {operation : Operation S} {supply : Supply} {state : S}
    (decides : operation.DecidesBy known covers) (before : known supply state) :
    known (operation.perform.finish (exploration, supply)).2 state := by
  cases operation with
  | setCovered id covering =>
      refine Run.Ends.finish (fun there => known there.2 state) (((recorded_ends covering).mono
        (fun _ there same => ?_) fun _ there same => ?_).bind fun _ _ kept => Run.ends_pure kept)
      · exact same.2 ▸ before
      · exact same.2 ▸ before
  | stop operator options element reached =>
      refine Run.Ends.finish (fun there => known there.2 state) ((stop_ends.mono
        (fun _ there ended => ?_) fun _ there ended => ?_).bind fun _ _ kept => Run.ends_pure kept)
      · exact StopOperator.DecidesBy.known_of_leads decides ended.1 before
      · exact StopOperator.DecidesBy.known_of_leads decides ended.2 before
  | _ => exact before

theorem Acquainted.perform [Explorable S] {known : Supply → S → Prop}
    {covers : (covering state : S) → Prop} {operation : Operation S} {here : Exploration S × Supply}
    (acquainted : Acquainted known here) (introduces : operation.Introduces known here.2)
    (decides : operation.DecidesBy known covers) :
    Acquainted known (operation.perform.finish here) := by
  intro x state there
  rw [operation.stateOf?_perform] at there
  split at there
  · exact decides.known (introduces state there)
  · exact decides.known (acquainted x state there)

/-! ## Searches -/

/-- The node that is found by following the covering nodes for some steps. -/
def covering? (exploration : Exploration S) : (steps : Nat) → (id : NodeId) → Option NodeId
  | 0, id => some id
  | steps + 1, id => (exploration.coveredBy? id).bind (exploration.covering? steps)

/-- If covering nodes are older, no more steps can be made from a node than there are older
nodes. -/
theorem covering?_eq_none (older : ∀ x y, exploration.coveredBy? x = some y → y < x) {steps : Nat}
    (enough : x < steps) : exploration.covering? steps x = none := by
  induction steps generalizing x with
  | zero => exact absurd enough (Nat.not_lt_zero x)
  | succ steps ih =>
      rw [covering?]
      cases covered : exploration.coveredBy? x with
      | none => rfl
      | some y => exact ih (Nat.lt_of_lt_of_le (older x y covered) (Nat.le_of_lt_succ enough))

/-- What holds at every moment of a search. -/
structure Searched (reason : (covered covering : NodeId) → (covering state : S) → Prop)
    (exploration : Exploration S) : Prop where
  /-- Covering nodes know what they cover. -/
  coverage : Coverage exploration
  /-- They are older, and are still there. -/
  ranked : Ranked exploration
  /-- There is a reason for their covering. -/
  justified : Justified reason exploration

theorem searched_empty {reason : (covered covering : NodeId) → (covering state : S) → Prop} :
    Searched reason (empty : Exploration S) :=
  ⟨mutual_empty, ranked_empty, by simp [Justified, coveredBy?_empty]⟩

theorem Searched.perform [Explorable S] {operation : Operation S} {supply : Supply}
    {reason : (covered covering : NodeId) → (covering state : S) → Prop}
    (searched : Searched reason before) (searching : operation.IsSearching)
    (new : ∀ {operator options element id reached state covering},
      operation = .stop operator options element reached → id ∈ reached →
      before.stateOf? element = some state → before.stateOf? id = some covering →
      operator.CoversFrom supply covering state → reason element id covering state) :
    Searched reason (operation.perform.finish (before, supply)).1 := by
  have step := Operation.coverageStep searching searched.coverage searched.ranked.unmerged supply
  exact ⟨searching.coverage searched.coverage, step.ranked searched.ranked,
    step.justified new searched.justified⟩

/-- The operator of a decision to stop was asked about two nodes and said that the one covers the
other. -/
def Found (operations : List (Operation S)) (covered covering : NodeId) (other state : S) : Prop :=
  ∃ operator options reached before after, .stop operator options covered reached ∈ operations ∧
    covering ∈ reached ∧ operator.stop state [other] before = .ok true after

/-- In a search a covering node is older than what it covers, is still there, and an operator that
was asked about their two states said that it covers the other node.  If all operators decide by a
relation of known states, and states are known when they are added, then the two states are so
related.  Following the covering nodes from any node comes to an end. -/
theorem coverage_justified [Explorable S] (operations : List (Operation S)) (supply : Supply)
    (searching : ∀ operation ∈ operations, operation.IsSearching) :
    let found := (Run.history Operation.perform operations (empty, supply)).1
    (∀ x y, found.coveredBy? x = some y → y < x ∧ y ∈ found.live ∧ ∃ state covering,
      found.stateOf? x = some state ∧ found.stateOf? y = some covering ∧
        Found operations x y covering state ∧
        ∀ known covers, Run.Permits Operation.perform (fun operation here =>
          operation.Introduces known here.2 ∧ operation.DecidesBy known covers)
            operations (empty, supply) → covers covering state) ∧
    ∀ x, found.covering? (x + 1) x = none := by
  have every : Run.Permits Operation.perform (fun operation _ => operation ∈ operations) operations
      (empty, supply) := Run.permits_of_forall fun _ member _ => member
  have found := every.keeps (fun there => Searched (Found operations) there.1) searched_empty (by
    rintro operation ⟨before, now⟩ member searched
    refine searched.perform (searching operation member) ?_
    rintro operator options element id reached state covering rfl inside - - ⟨first, last, -, asked⟩
    exact ⟨operator, options, reached, first, last, member, inside, asked⟩)
  refine ⟨fun x y covered => ?_, fun x => covering?_eq_none found.ranked.older (Nat.lt_succ_self x)⟩
  obtain ⟨state, covering, here, there, asked⟩ := found.justified x y covered
  refine ⟨found.ranked.older x y covered, found.ranked.live x y covered, state, covering,
    here, there, asked, fun known covers permits => ?_⟩
  have related := (every.and permits).keeps (fun there => Acquainted known there ∧
      Searched (fun _ _ => covers) there.1) ⟨by simp [Acquainted, stateOf?, node?, empty],
        searched_empty⟩
    (by
      rintro operation ⟨before, now⟩ ⟨member, introduces, decides⟩ ⟨acquainted, searched⟩
      refine ⟨acquainted.perform introduces decides,
        searched.perform (searching operation member) ?_⟩
      rintro operator options element id reached state covering rfl - isState isCovering found
      exact StopOperator.DecidesBy.covers_of_found decides found (acquainted id covering isCovering)
        (acquainted element state isState))
  obtain ⟨state', covering', here', there', because⟩ := related.2.justified x y covered
  obtain rfl := Option.some.inj (here.symm.trans here')
  obtain rfl := Option.some.inj (there.symm.trans there')
  exact because

end Exploration

end ShapeDomain
