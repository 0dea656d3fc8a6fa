import Mathlib
import ShapeDomain.Proofs.Names.Graphs
import ShapeDomain.Proofs.Progress.Outcome
import ShapeDomain.Proofs.Reflexive.Graphs

/-!
# Names carry no meaning

The join asks in many places whether two names are the same.  Without folding, the names of objects
and values decide nothing all the same: memories under other names have a join if and only if they
have one under their own names, and they relate alike.
-/

namespace ShapeDomain

variable {options : Options} {supply supply' : Supply}

/-- The outcome of a join that went through. -/
def Join.outcome (joined : Bool) (progress : Progress) : Outcome :=
  if joined then .defined progress.dest progress.status else .undefined

theorem Graph.exists_of_join_eq_ok {left right : Graph} {outcome : Join.Outcome} {now : Supply}
    (done : left.join options right supply = .ok outcome now) : ∃ joined there,
      Join.joinAll ⟨options, left == right⟩ (.start left right, supply) = .ok joined there ∧
      outcome = Join.outcome joined there.1 := by
  rw [join_apply] at done
  split at done
  case h_1 there ended =>
    cases done
    exact ⟨true, there, ended, rfl⟩
  case h_2 there ended =>
    cases done
    exact ⟨false, there, ended, rfl⟩
  case h_3 => cases done

/-- Two joins of the same graphs, the second one under other names, that both go through have the
same verdict. -/
theorem Join.Rerun.same_verdict (rerun : Rerun) {outcome outcome' : Outcome} {now now' : Supply}
    (done : rerun.left.join rerun.options rerun.right ⟨rerun.start⟩ = .ok outcome now)
    (done' : (rerun.left.rename rerun.leftNames).join rerun.options
      (rerun.right.rename rerun.rightNames) ⟨rerun.start'⟩ = .ok outcome' now') :
    outcome'.isDefined = outcome.isDefined ∧ outcome'.status = outcome.status := by
  obtain ⟨joined, there, ended, rfl⟩ := Graph.exists_of_join_eq_ok done
  obtain ⟨joined', there', ended', rfl⟩ := Graph.exists_of_join_eq_ok done'
  obtain ⟨_, -, step, rfl⟩ :=
    joinAll_lockstep (inStep_start rerun) rfl rfl joined there joined' there' ended ended'
  cases joined' with
  | false => exact ⟨rfl, rfl⟩
  | true => exact ⟨rfl, step.status⟩

namespace State

variable {states : List State} {state other : State}

/-- Without folding, the memories of two states that exist side by side go through a join under all
names, chosen for each of them alone, and under names drawn from any supply.  There is a joint
memory under the new names if and only if there is one under the old names, and the two relate
alike.  The same memory under two choices of names joins as equal. -/
theorem Family.join_renamed (family : Family states supply) (inside1 : state ∈ states)
    (inside2 : other ∈ states) (still : options.foldLists = false) (names1 names2 : Renaming)
    (drawn1 : (state.graph.rename names1).DrawnBefore supply'.next)
    (drawn2 : (other.graph.rename names2).DrawnBefore supply'.next) :
    ∃ outcome now outcome' now',
      state.graph.join options other.graph supply = .ok outcome now ∧
      (state.graph.rename names1).join options (other.graph.rename names2) supply' =
        .ok outcome' now' ∧
      outcome'.isDefined = outcome.isDefined ∧ outcome'.status = outcome.status ∧
      (state.graph = other.graph → ∃ joint, outcome' = .defined joint .equal) := by
  have plain1 := family.plain.2 state inside1
  have plain2 := family.plain.2 other inside2
  have renamed1 := plain1.rename names1 drawn1
  have renamed2 := plain2.rename names2 drawn2
  obtain ⟨outcome, now, done⟩ := plain1.exists_outcome plain2 still
  obtain ⟨outcome', now', done'⟩ := renamed1.exists_outcome renamed2 still
  let rerun : Join.Rerun := ⟨state.graph, other.graph, names1, names2, options, supply.next,
    supply'.next, plain1, plain2, renamed1, renamed2, still⟩
  obtain ⟨defined, status⟩ := rerun.same_verdict done done'
  refine ⟨outcome, now, outcome', now', done, done', defined, status, fun same => ?_⟩
  obtain ⟨copy, reflexive, -⟩ := plain1.tame.join_copies options supply
  rw [← same, reflexive] at done
  cases done
  cases outcome' with
  | undefined => cases defined
  | defined joint status' => exact ⟨joint, congrArg (Join.Outcome.defined joint) status⟩

/-- A ring that is built again has other names and joins with the first one as equal. -/
theorem join_renamed_twoRings :
    (built twoRings 0).graph = (built twoRings 1).graph.rename (.shifted ⟨1, 7, Nat.one_pos⟩) ∧
      ∃ joint now, (built twoRings 1).graph.join { foldLists := false } (built twoRings 0).graph
        (builtSupply twoRings) = .ok (.defined joint .equal) now := by
  obtain ⟨admissible, two⟩ := admissible_twoRings
  have family := family_built admissible
  have inside : built twoRings 1 ∈ (happened twoRings ([], .full)).1 :=
    built_mem (by rw [two]; decide)
  have again : (built twoRings 0).graph =
      (built twoRings 1).graph.rename (.shifted ⟨1, 7, Nat.one_pos⟩) := by cbv
  have kept : (built twoRings 1).graph.rename .same = (built twoRings 1).graph :=
    (family.plain.2 _ inside).rename_same
  have drawn1 : ((built twoRings 1).graph.rename .same).DrawnBefore
    (builtSupply twoRings).next := by
    decide_cbv
  have drawn2 : ((built twoRings 1).graph.rename (.shifted ⟨1, 7, Nat.one_pos⟩)).DrawnBefore
      (builtSupply twoRings).next := by decide_cbv
  obtain ⟨-, -, _, now, -, done, -, -, equal⟩ :=
    family.join_renamed inside inside
      (show Options.foldLists { foldLists := false } = false from rfl)
      .same (.shifted ⟨1, 7, Nat.one_pos⟩) drawn1 drawn2
  obtain ⟨joint, rfl⟩ := equal rfl
  rw [kept, ← again] at done
  exact ⟨again, joint, now, done⟩

end State

end ShapeDomain
