import ShapeDomain.Exploration.Operation
import ShapeDomain.Interval
import ShapeDomain.Proofs.Run

/-!
# Decisions to stop

A node need not be explored if some reached node covers it.  `Decision` lists the ways in which the
comparison of a node with the reached ones can end, each with the reason for it and with what
becomes of the exploration.  Everything else about stopping follows from this list.
-/

namespace ShapeDomain

namespace StopOperator

variable {S : Type} {operator : StopOperator S} {supply now : Supply} {covering state : S}

/-- A stop operator can find that a state is covered by another one alone. -/
def Covers (operator : StopOperator S) (covering state : S) : Prop :=
  ∃ before after, operator.stop state [covering] before = .ok true after

/-- The supply that an operator leaves when it is asked, whether or not it stops with a fault. -/
def left (operator : StopOperator S) (state : S) (reached : List S) (supply : Supply) : Supply :=
  (operator.stop state reached).left supply

/-- The supplies that an operator leaves when it is asked some times. -/
inductive Leads (operator : StopOperator S) (supply : Supply) : Supply → Prop where
  /-- It was not asked. -/
  | start : Leads operator supply supply
  /-- It was asked once more. -/
  | asked {now : Supply} (state : S) (reached : List S) :
      Leads operator supply now → Leads operator supply (operator.left state reached now)

theorem Leads.trans {last : Supply} (first : operator.Leads supply now)
    (second : operator.Leads now last) : operator.Leads supply last := by
  induction second with
  | start => exact first
  | asked state reached _ ih => exact .asked state reached ih

/-- When it was asked some times, a stop operator found that a state is covered by another one
alone. -/
def CoversFrom (operator : StopOperator S) (supply : Supply) (covering state : S) : Prop :=
  ∃ before after, operator.Leads supply before ∧
    operator.stop state [covering] before = .ok true after

theorem CoversFrom.covers (found : operator.CoversFrom supply covering state) :
    operator.Covers covering state := by
  obtain ⟨before, after, -, asked⟩ := found
  exact ⟨before, after, asked⟩

theorem CoversFrom.earlier (found : operator.CoversFrom now covering state)
    (leads : operator.Leads supply now) : operator.CoversFrom supply covering state := by
  obtain ⟨before, after, later, asked⟩ := found
  exact ⟨before, after, leads.trans later, asked⟩

end StopOperator

namespace Exploration

variable {S : Type} {operator : StopOperator S} {options : Options} {element : NodeId}
variable {node : Node S} {reached : List NodeId} {exploration : Exploration S} {supply : Supply}

/-- The ways in which the comparison of a node with the reached ones ends: the verdict, and the
exploration afterwards. -/
inductive Decision (operator : StopOperator S) (supply : Supply) (options : Options)
    (exploration : Exploration S) (element : NodeId) (node : Node S) (reached : List NodeId) :
    Bool → Exploration S → Prop
  /-- Nothing covers the node, and it is explored further. -/
  | explored :
      Decision operator supply options exploration element node reached false exploration
  /-- The node it was merged into covers it, and this is recorded. -/
  | marked {id : NodeId} {other : Node S} {next : Exploration S}
      (merged : node.mergedInto = some id) (member : id ∈ reached)
      (found : exploration.node? id = some other)
      (covers : operator.CoversFrom supply other.state node.state)
        (chosen : options.markMerged = true)
      (recorded : exploration.setCovered element id = .ok next) :
      Decision operator supply options exploration element node reached true next
  /-- The node it was merged into covers it, and it is removed. -/
  | absorbed {id : NodeId} {other : Node S}
      (merged : node.mergedInto = some id) (member : id ∈ reached)
      (found : exploration.node? id = some other)
      (covers : operator.CoversFrom supply other.state node.state)
        (chosen : options.markMerged = false) :
      Decision operator supply options exploration element node reached true
        (exploration.remove element)
  /-- An older node that may cover others covers it, and this is recorded. -/
  | covered {id : NodeId} {other : Node S} {next : Exploration S}
      (member : id ∈ reached) (found : exploration.node? id = some other)
      (able : other.canCover = true) (older : id < element)
      (covers : operator.CoversFrom supply other.state node.state)
      (recorded : exploration.setCovered element id = .ok next) :
      Decision operator supply options exploration element node reached (!options.keepCovered) next
  /-- An older sibling that may cover others covers it, and it is removed. -/
  | replaced {id : NodeId} {other : Node S} {next : Exploration S}
      (member : id ∈ reached) (found : exploration.node? id = some other)
      (able : other.canCover = true) (older : id < element)
      (covers : operator.CoversFrom supply other.state node.state)
      (sibling : sharesOnlyParent node other = true)
      (recorded : exploration.setCovered element id = .ok next) :
      Decision operator supply options exploration element node reached true
        (next.remove element)

/-- What is decided later for some of the reached nodes is decided for all of them. -/
theorem Decision.mono {fewer : List NodeId} {verdict : Bool} {after : Exploration S} {now : Supply}
    (decision : Decision operator now options exploration element node fewer verdict after)
    (leads : operator.Leads supply now) (sub : ∀ id ∈ fewer, id ∈ reached) :
    Decision operator supply options exploration element node reached verdict after := by
  cases decision with
  | explored => exact .explored
  | marked merged member found covers chosen recorded =>
      exact .marked merged (sub _ member) found (covers.earlier leads) chosen recorded
  | absorbed merged member found covers chosen =>
      exact .absorbed merged (sub _ member) found (covers.earlier leads) chosen
  | covered member found able older covers recorded =>
      exact .covered (sub _ member) found able older (covers.earlier leads) recorded
  | replaced member found able older covers sibling recorded =>
      exact .replaced (sub _ member) found able older (covers.earlier leads) sibling recorded

/-- The operator is asked about a single node, which leaves the exploration as it is. -/
theorem asked_ends (covering : Node S) :
    Run.Ends (Run.draw (operator.stop node.state [covering.state])) (exploration, supply)
      (fun verdict there =>
        (verdict = true → operator.CoversFrom supply covering.state node.state) ∧
        there.1 = exploration ∧ operator.Leads supply there.2)
      (fun _ there => there.1 = exploration ∧ operator.Leads supply there.2) := by
  have leads : operator.Leads supply (operator.left node.state [covering.state] supply) :=
    StopOperator.Leads.start.asked _ _
  unfold StopOperator.left Draw.left at leads
  cases asked : operator.stop node.state [covering.state] supply with
  | ok verdict now =>
      rw [asked] at leads
      have done : Run.draw (operator.stop node.state [covering.state]) (exploration, supply) =
          .ok verdict (exploration, now) := by simp [Run.draw, asked]
      refine Run.ends_of_ok done ⟨?_, rfl, leads⟩
      rintro rfl
      exact ⟨supply, now, .start, asked⟩
  | error fault now =>
      rw [asked] at leads
      have stopped : Run.draw (operator.stop node.state [covering.state]) (exploration, supply) =
          .error fault (exploration, now) := by simp [Run.draw, asked]
      exact Run.ends_of_error stopped ⟨rfl, leads⟩

theorem setCovered_eq_ok_iff {id : NodeId} {next : Exploration S} :
    exploration.setCovered element id = .ok next ↔
      exploration.isCovered element = false ∧ exploration.isCovered id = false ∧
        next = (exploration.update element fun node => { node with coveredBy := some id }).update id
          fun node => { node with covers := node.covers.add element } := by
  unfold setCovered
  split
  case isTrue covered =>
    constructor
    · intro done
      cases done
    · rintro ⟨first, second, -⟩
      simp [first, second] at covered
  case isFalse uncovered =>
    obtain ⟨first, second⟩ : exploration.isCovered element = false ∧
        exploration.isCovered id = false := by simpa using uncovered
    simp [first, second, eq_comm]

/-- Recording that a node is covered goes through with the exploration that `setCovered` answers. -/
theorem recorded_ends (id : NodeId) :
    Run.Ends (Run.attempt fun exploration => exploration.setCovered element id)
      (exploration, supply)
      (fun _ there => exploration.setCovered element id = .ok there.1 ∧ there.2 = supply)
      (fun _ there => there.1 = exploration ∧ there.2 = supply) := by
  cases recorded : exploration.setCovered element id with
  | ok next => exact Run.ends_of_ok (Run.attempt_apply_ok recorded) ⟨rfl, rfl⟩
  | error fault => exact Run.ends_of_error (Run.attempt_apply_error recorded) ⟨rfl, rfl⟩

/-- A verdict is recorded where the operator was asked last. -/
theorem recorded_after {now : Supply} (leads : operator.Leads supply now) (id : NodeId) :
    Run.Ends (Run.attempt fun exploration => exploration.setCovered element id) (exploration, now)
      (fun _ there => exploration.setCovered element id = .ok there.1 ∧
        operator.Leads supply there.2)
      (fun _ there => there.1 = exploration ∧ operator.Leads supply there.2) := by
  refine (recorded_ends id).mono ?_ ?_
  · rintro _ there ⟨recorded, same⟩
    exact ⟨recorded, same ▸ leads⟩
  · rintro _ there ⟨unchanged, same⟩
    exact ⟨unchanged, same ▸ leads⟩

/-- The comparison with the node that a node was merged into. -/
theorem stopAtMerged_decides :
    Run.Ends (stopAtMerged operator options element node reached) (exploration, supply)
      (fun verdict there =>
        Decision operator supply options exploration element node reached verdict there.1 ∧
          (verdict = false → there.1 = exploration) ∧ operator.Leads supply there.2)
      (fun _ there => there.1 = exploration ∧ operator.Leads supply there.2) := by
  unfold stopAtMerged
  split
  case h_1 => exact Run.ends_pure ⟨.explored, fun _ => rfl, .start⟩
  case h_2 id filtered =>
    obtain ⟨merged, contained⟩ := Option.filter_eq_some_iff.1 filtered
    have member : id ∈ reached := by simpa using contained
    refine Run.ends_bind_of_ok (Run.ask_apply _ _) ?_
    cases found : exploration.node? id with
    | none => exact Run.ends_pure ⟨.explored, fun _ => rfl, .start⟩
    | some other =>
        refine (asked_ends other).bind ?_
        rintro verdict ⟨_, now⟩ ⟨covers, rfl, leads⟩
        cases verdict with
        | false => exact Run.ends_pure ⟨.explored, fun _ => rfl, leads⟩
        | true =>
            cases chosen : options.markMerged with
            | true =>
                refine (recorded_after leads id).bind ?_
                rintro _ there ⟨recorded, leads⟩
                exact Run.ends_pure
                  ⟨.marked merged member found (covers rfl) chosen recorded, by simp, leads⟩
            | false =>
                exact Run.ends_bind_of_ok (Run.modify_apply _ _)
                  (Run.ends_pure
                    ⟨.absorbed merged member found (covers rfl) chosen, by simp, leads⟩)

/-- The comparison with one reached node.  A node that covers it may cover others and is older. -/
theorem coverBy_decides (id : NodeId) :
    Run.Ends (coverBy operator element node id) (exploration, supply)
      (fun result there => operator.Leads supply there.2 ∧
        match result with
        | none => there.1 = exploration
        | some other => exploration.node? id = some other ∧ other.canCover = true ∧ id < element ∧
            operator.CoversFrom supply other.state node.state ∧
            exploration.setCovered element id = .ok there.1)
      (fun _ there => there.1 = exploration ∧ operator.Leads supply there.2) := by
  refine Run.ends_bind_of_ok (Run.ask_apply _ _) ?_
  cases found : exploration.node? id with
  | none => exact Run.ends_pure ⟨.start, rfl⟩
  | some other =>
      simp only
      split
      case isTrue => exact Run.ends_pure ⟨.start, rfl⟩
      case isFalse passed =>
        have fit : other.canCover = true ∧ id < element := by simpa using passed
        refine (asked_ends other).bind ?_
        rintro verdict ⟨_, now⟩ ⟨covers, rfl, leads⟩
        cases verdict with
        | false => exact Run.ends_pure ⟨leads, rfl⟩
        | true =>
            refine (recorded_after leads id).bind ?_
            rintro _ there ⟨recorded, leads⟩
            exact Run.ends_pure ⟨leads, rfl, fit.1, fit.2, covers rfl, recorded⟩

/-- The comparison with the reached nodes, one after the other. -/
theorem stopAtReached_decides (reached : List NodeId) (supply : Supply) :
    Run.Ends (stopAtReached operator options element node reached) (exploration, supply)
      (fun verdict there =>
        Decision operator supply options exploration element node reached verdict there.1 ∧
          operator.Leads supply there.2)
      (fun _ there => there.1 = exploration ∧ operator.Leads supply there.2) := by
  induction reached generalizing supply with
  | nil => exact Run.ends_pure ⟨.explored, .start⟩
  | cons id rest ih =>
      refine (coverBy_decides id).bind ?_
      rintro (_ | other) ⟨after, now⟩ ⟨leads, reason⟩
      case none =>
        obtain rfl : after = exploration := reason
        refine (ih now).mono ?_ fun _ _ same => ⟨same.1, leads.trans same.2⟩
        rintro verdict there ⟨decision, later⟩
        exact ⟨decision.mono leads fun _ member => List.mem_cons_of_mem id member,
          leads.trans later⟩
      case some =>
        obtain ⟨found, able, older, covers, recorded⟩ := reason
        simp only
        cases sibling : sharesOnlyParent node other with
        | true =>
            exact Run.ends_bind_of_ok (Run.modify_apply _ _) (Run.ends_pure
              ⟨.replaced List.mem_cons_self found able older covers sibling recorded, leads⟩)
        | false =>
            exact Run.ends_pure
              ⟨.covered List.mem_cons_self found able older covers recorded, leads⟩

/-- What is decided for a node that is not covered yet.  If no decision is reached, the exploration
stays as it is. -/
theorem stop_decides [Explorable S] (found : exploration.node? element = some node)
    (uncovered : node.isCovered = false) :
    Run.Ends (stop operator options element reached) (exploration, supply)
      (fun verdict there =>
        Decision operator supply options exploration element node reached verdict there.1 ∧
          operator.Leads supply there.2)
      (fun _ there => there.1 = exploration ∧ operator.Leads supply there.2) := by
  refine Run.ends_bind_of_ok (Run.ask_apply _ _) ?_
  simp only [found, uncovered, Bool.false_eq_true, if_false]
  refine stopAtMerged_decides.bind ?_
  rintro verdict ⟨after, now⟩ ⟨decision, unchanged, leads⟩
  cases verdict with
  | true => exact Run.ends_pure ⟨decision, leads⟩
  | false =>
      obtain rfl : after = exploration := unchanged rfl
      rw [if_neg Bool.false_ne_true]
      split
      case isTrue => exact Run.ends_pure ⟨.explored, leads⟩
      case isFalse =>
        refine (stopAtReached_decides reached now).mono ?_ fun _ _ same =>
          ⟨same.1, leads.trans same.2⟩
        rintro verdict there ⟨decision, later⟩
        exact ⟨decision.mono leads fun _ member => member, leads.trans later⟩

/-- A node that is not there is not stopped, and a node that is covered already is an error. -/
theorem stop_ends [Explorable S] :
    Run.Ends (stop operator options element reached) (exploration, supply)
      (fun verdict there => operator.Leads supply there.2 ∧
        ((exploration.node? element = none ∧ verdict = false ∧ there.1 = exploration) ∨
        ∃ node, exploration.node? element = some node ∧ node.isCovered = false ∧
          Decision operator supply options exploration element node reached verdict there.1))
      (fun _ there => there.1 = exploration ∧ operator.Leads supply there.2) := by
  cases found : exploration.node? element with
  | none =>
      refine Run.ends_bind_of_ok (Run.ask_apply _ _) ?_
      simp only [found]
      exact Run.ends_pure ⟨.start, .inl ⟨trivial, rfl, rfl⟩⟩
  | some node =>
      cases uncovered : node.isCovered with
      | true =>
          refine Run.ends_bind_of_ok (Run.ask_apply _ _) ?_
          simp only [found, uncovered, if_true]
          exact Run.ends_of_error (Run.throw_apply _ _) ⟨rfl, .start⟩
      | false =>
          refine (stop_decides found uncovered).mono ?_ fun _ _ same => same
          rintro verdict there ⟨decision, leads⟩
          exact ⟨leads, .inr ⟨node, rfl, uncovered, decision⟩⟩

/-- A node that need not be explored is covered by a reached one alone.  Either that one is older
and may cover others, or the node was merged into it, and then nothing more is asked of it than that
it is not covered when the node is to be marked. -/
theorem stop_in_favour [Explorable S] :
    Run.Passes (stop operator options element reached) (exploration, supply) fun verdict _ =>
      verdict = true → ∃ node id other, exploration.node? element = some node ∧
        node.isCovered = false ∧ id ∈ reached ∧ exploration.node? id = some other ∧
        operator.Covers other.state node.state ∧
        (id < element ∧ other.canCover = true ∨
          node.mergedInto = some id ∧ (options.markMerged = true → other.isCovered = false)) := by
  refine stop_ends.mono ?_ fun _ _ _ => trivial
  rintro verdict ⟨after, now⟩ ⟨-, ⟨-, rfl, -⟩ | ⟨node, here, uncovered, decision⟩⟩ stopped
  case inl => simp at stopped
  case inr =>
    cases decision with
    | explored => simp at stopped
    | covered member found able older covers =>
        exact ⟨node, _, _, here, uncovered, member, found, covers.covers, .inl ⟨older, able⟩⟩
    | replaced member found able older covers =>
        exact ⟨node, _, _, here, uncovered, member, found, covers.covers, .inl ⟨older, able⟩⟩
    | absorbed merged member found covers chosen =>
        exact ⟨node, _, _, here, uncovered, member, found, covers.covers,
          .inr ⟨merged, by simp [chosen]⟩⟩
    | marked merged member found covers chosen recorded =>
        have other_uncovered := (setCovered_eq_ok_iff.1 recorded).2.1
        refine ⟨node, _, _, here, uncovered, member, found, covers.covers,
          .inr ⟨merged, fun _ => ?_⟩⟩
        simpa [isCovered, found] using other_uncovered

/-- A wide interval, one inside it that may not cover others, and one inside both that was merged
into the second one. -/
def excluding : Exploration Interval :=
  let built := (((empty.addRoot ⟨0, 10, false⟩).2.addChild 0 ⟨0, 5, false⟩).2.addChild 0
    ⟨1, 2, false⟩).2
  (built.setMergedInto 2 1).setEligible 1 false

/-- The third interval of `excluding` leaves the exploration in favour of the second one, although
that one may not cover others and nothing else is reached. -/
theorem leaves_for_excluded :
    excluding.live = [0, 1, 2] ∧ excluding.isCovered 2 = false ∧
      (∃ there, stop Interval.enclosure {} 2 [1] (excluding, .full) = .ok true there ∧
        there.1.live = [0, 1]) ∧
      ∀ id ∈ [1], ∀ other, excluding.node? id = some other → other.canCover = false := by
  refine ⟨by decide, by decide, ⟨_, rfl, by decide⟩, ?_⟩
  rintro id member other found
  obtain rfl : id = 1 := by simpa using member
  cases found
  rfl

end Exploration

end ShapeDomain
