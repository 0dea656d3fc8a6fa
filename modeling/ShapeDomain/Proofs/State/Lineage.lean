import ShapeDomain.Proofs.State.Family
import ShapeDomain.Proofs.Steady.Objects

/-!
# States that are also joined

An analysis joins the states that it reaches, and goes on with the joint states as with any other
ones.  Whatever the options of the joins are, the graphs stay tame.
-/

namespace ShapeDomain

namespace State

/-- The states that exist side by side, where some may be joins of others, and the supply that all
of them draw from. -/
inductive Lineage : List State → Supply → Prop where
  /-- There is no state yet. -/
  | none : Lineage [] .full
  /-- A state starts without memory. -/
  | create {states : List State} {supply : Supply} (machine : Machine) :
      Lineage states supply → Lineage (.initial machine :: states) supply
  /-- A state is copied. -/
  | copy {states : List State} {supply : Supply} {state : State} :
      Lineage states supply → state ∈ states → Lineage (state :: states) supply
  /-- A name is drawn for something else. -/
  | draw {states : List State} {supply : Supply} :
      Lineage states supply → Lineage states ⟨supply.next + 1⟩
  /-- An operation is performed on one of the states.  What it did before a fault stays done. -/
  | perform {before after : List State} {state : State} {supply : Supply}
      {operation : Operation} :
      Lineage (before ++ state :: after) supply → operation.Admissible supply →
      Lineage (before ++ (operation.perform.finish (state, supply)).1 :: after)
        (operation.perform.finish (state, supply)).2
  /-- Two states have a joint state. -/
  | join {states : List State} {state other joint : State} {supply now : Supply} {status : Status}
      (options : Options) : Lineage states supply → state ∈ states → other ∈ states →
      state.join options other supply = .ok (some (joint, status)) now →
      Lineage (joint :: states) now

/-- States that exist side by side without joins. -/
theorem Family.lineage {states : List State} {supply : Supply} (family : Family states supply) :
    Lineage states supply := by
  induction family with
  | none => exact .none
  | create machine _ ih => exact .create machine ih
  | copy _ inside ih => exact .copy ih inside
  | draw _ ih => exact .draw ih
  | perform _ admissible ih => exact .perform ih admissible

/-- The graphs of states that are also joined are tame. -/
theorem Lineage.tame {states : List State} {supply : Supply} (lineage : Lineage states supply) :
    AllFine Graph.Tame states supply := by
  induction lineage with
  | none => exact ⟨Nat.one_pos, by simp⟩
  | create machine _ ih => exact ih.create tame_maintained machine
  | copy _ inside ih => exact ih.cons (ih.2 _ inside)
  | draw _ ih => exact ih.later tame_maintained (Nat.le_succ _)
  | perform _ admissible ih => exact ih.perform tame_maintained admissible
  | join options _ inside1 inside2 joined ih =>
      obtain ⟨-, -, defined⟩ := join_eq_some_iff.1 joined
      obtain ⟨tame, moved⟩ := Graph.Tame.join (tame_maintained.collect (ih.2 _ inside1))
        (tame_maintained.collect (ih.2 _ inside2)) defined
      exact (ih.later tame_maintained moved).cons tame

end State

end ShapeDomain
