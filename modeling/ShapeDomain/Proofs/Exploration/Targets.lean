import ShapeDomain.Exploration.Operation
import ShapeDomain.Interval
import ShapeDomain.Proofs.Run

/-!
# Targets stay in sight

A node whose state the analysis looks for is not compared with the reached ones, unless the options
allow it.  It is still compared with the node it was merged into, and this is the only way in which
it can be hidden.
-/

namespace ShapeDomain

namespace Exploration

variable {S : Type} {operator : StopOperator S} {options : Options} {element : NodeId}
variable {node : Node S} {reached : List NodeId} {exploration : Exploration S} {supply : Supply}

/-- A node is absorbed if it was merged into a reached one whose state covers its own. -/
def Absorbed (operator : StopOperator S) (exploration : Exploration S) (supply : Supply)
    (node : Node S) (reached : List NodeId) : Prop :=
  ∃ merged other now, node.mergedInto = some merged ∧ merged ∈ reached ∧
    exploration.node? merged = some other ∧
    operator.stop node.state [other.state] supply = .ok true now

/-- A covered node either leaves the exploration or is marked. -/
theorem hide_ends (merged : NodeId) (now : Supply) :
    Run.Ends (do
        if options.markMerged then
          Run.attempt fun exploration => exploration.setCovered element merged
        else
          Run.modify fun exploration => exploration.remove element
        return true) (exploration, now)
      (fun verdict _ => verdict = true) (fun _ there => there.1 = exploration) := by
  split
  case isTrue =>
    cases marked : exploration.setCovered element merged with
    | ok next => exact Run.ends_bind_of_ok (Run.attempt_apply_ok marked) (Run.ends_pure rfl)
    | error fault =>
        exact Run.ends_of_error (Run.bind_apply_error (Run.attempt_apply_error marked)) rfl
  case isFalse => exact Run.ends_bind_of_ok (Run.modify_apply _ _) (Run.ends_pure rfl)

/-- The comparison with the node that a node was merged into says whether the node is absorbed.  It
changes the exploration only if it is. -/
theorem stopAtMerged_ends :
    Run.Ends (stopAtMerged operator options element node reached) (exploration, supply)
      (fun verdict there => (verdict = true ↔ Absorbed operator exploration supply node reached) ∧
        (verdict = false → there.1 = exploration))
      (fun _ there => there.1 = exploration) := by
  unfold stopAtMerged
  split
  case h_1 elsewhere =>
    refine Run.ends_pure ⟨⟨by simp, ?_⟩, fun _ => rfl⟩
    rintro ⟨merged, other, now, same, inside, -⟩
    simp [same, inside] at elsewhere
  case h_2 merged filtered =>
    obtain ⟨same, inside⟩ := Option.filter_eq_some_iff.1 filtered
    refine Run.ends_bind_of_ok (Run.ask_apply _ _) ?_
    cases found : exploration.node? merged with
    | none =>
        refine Run.ends_pure ⟨⟨by simp, ?_⟩, fun _ => rfl⟩
        rintro ⟨merged', other, now, same', -, found', -⟩
        obtain rfl : merged = merged' := Option.some.inj (same.symm.trans same')
        simp [found] at found'
    | some other =>
        have covers : ∀ verdict now,
            operator.stop node.state [other.state] supply = .ok verdict now →
            (verdict = true ↔ Absorbed operator exploration supply node reached) := by
          intro verdict now asked
          constructor
          · rintro rfl
            exact ⟨merged, other, now, same, by simpa using inside, found, asked⟩
          · rintro ⟨merged', other', now', same', -, found', asked'⟩
            obtain rfl : merged = merged' := Option.some.inj (same.symm.trans same')
            obtain rfl : other = other' := Option.some.inj (found.symm.trans found')
            rw [asked] at asked'
            cases asked'
            rfl
        cases asked : operator.stop node.state [other.state] supply with
        | error fault now =>
            have stopped : Run.draw (operator.stop node.state [other.state]) (exploration, supply) =
                .error fault (exploration, now) := by simp [Run.draw, asked]
            exact Run.ends_of_error (Run.bind_apply_error stopped) rfl
        | ok verdict now =>
            have done : Run.draw (operator.stop node.state [other.state]) (exploration, supply) =
                .ok verdict (exploration, now) := by simp [Run.draw, asked]
            refine Run.ends_bind_of_ok done ?_
            cases verdict with
            | true =>
                refine (hide_ends merged now).mono ?_ fun _ _ holds => holds
                rintro _ there rfl
                exact ⟨covers true now asked, by simp⟩
            | false => exact Run.ends_pure ⟨covers false now asked, fun _ => rfl⟩

/-- Unless the options let targets be covered, an uncovered target is hidden exactly if it is
absorbed.  Otherwise it is explored further, whatever is reached, and the exploration stays as it
is. -/
theorem stop_target [Explorable S] (found : exploration.node? element = some node)
    (uncovered : node.isCovered = false) (target : Explorable.isTarget node.state = true)
    (sought : options.coverTargets = false) :
    Run.Ends (stop operator options element reached) (exploration, supply)
      (fun verdict there => (verdict = true ↔ Absorbed operator exploration supply node reached) ∧
        (verdict = false → there.1 = exploration))
      (fun _ there => there.1 = exploration) := by
  refine Run.ends_bind_of_ok (Run.ask_apply _ _) ?_
  simp only [found, uncovered, Bool.false_eq_true, if_false]
  refine stopAtMerged_ends.bind ?_
  rintro hidden there ⟨absorbed, unchanged⟩
  cases hidden with
  | true => exact Run.ends_pure ⟨by simpa using absorbed, by simp⟩
  | false =>
      rw [if_neg Bool.false_ne_true, if_pos (by simp [sought, target])]
      exact Run.ends_pure ⟨by simpa using absorbed, unchanged⟩

/-- A wide interval, one inside it, and a target inside both that was derived from the first one. -/
def nested : Exploration Interval :=
  (((empty.addRoot ⟨0, 10, false⟩).2.addRoot ⟨0, 5, false⟩).2.addChild 0 ⟨1, 2, true⟩).2

/-- The target is a node of `nested`, which nothing covers. -/
theorem stop_target_nested :
    ∃ node, nested.node? 2 = some node ∧ node.isCovered = false ∧
      Explorable.isTarget node.state = true ∧
      Run.Ends (stop Interval.enclosure {} 2 [0, 1]) (nested, .full)
        (fun verdict there =>
          (verdict = true ↔ Absorbed Interval.enclosure nested .full node [0, 1]) ∧
            (verdict = false → there.1 = nested))
        (fun _ there => there.1 = nested) :=
  ⟨_, rfl, rfl, rfl, stop_target rfl rfl rfl rfl⟩

/-- After it was merged into the second interval, the target is hidden and leaves the
exploration. -/
theorem target_hidden_nested :
    let merged := nested.setMergedInto 2 1
    merged.live = [0, 1, 2] ∧ merged.isCovered 2 = false ∧
      (merged.node? 2).any (fun node => Explorable.isTarget node.state) = true ∧
      ∃ there, stop Interval.enclosure {} 2 [1] (merged, .full) = .ok true there ∧
        there.1.live = [0, 1] :=
  ⟨by decide, by decide, by decide, _, rfl, by decide⟩

end Exploration

end ShapeDomain
