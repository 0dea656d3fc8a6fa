import Mathlib
import ShapeDomain.Proofs.Progress.Graphs
import ShapeDomain.Proofs.State.Family

/-!
# When joins go through

Folding a node that closes a ring can remove a counterpart that is still being filled, and the join
stops with a fault.  Without folding, or if one of the two states has no ring, it goes through.
-/

namespace ShapeDomain

namespace State

variable {options : Options} {state other : State} {supply : Supply} {states : List State}

/-- The memories of two states that exist side by side have a join or none, but no fault, if no list
nodes are folded, if the memories are the same, or if one of them has no ring of three nodes or
more. -/
theorem Family.join_goes_through (family : Family states supply) (inside1 : state ∈ states)
    (inside2 : other ∈ states) (harmless : options.foldLists = false ∨ state.graph = other.graph ∨
      state.graph.Ringless ∨ other.graph.Ringless) :
    ∃ outcome now, state.graph.join options other.graph supply = .ok outcome now := by
  have plain1 := family.plain.2 state inside1
  have plain2 := family.plain.2 other inside2
  have safe : (Graph.basis options plain1 plain2).Safe := by
    rintro ⟨folds, differ⟩
    rcases harmless with still | same | ringless
    · have folds : options.foldLists = true := folds
      simp [folds] at still
    · have differ : (state.graph == other.graph) = false := differ
      simp [same] at differ
    · exact ringless
  have concluded := Graph.join_concluded options plain1 plain2
  generalize state.graph.join options other.graph supply = result at concluded ⊢
  cases concluded with
  | defined _ => exact ⟨_, _, rfl⟩
  | undefined _ => exact ⟨_, _, rfl⟩
  | stopped harmful => exact absurd safe harmful

/-- A variable that holds the address of the first of three nodes, of which the last one holds
`link`.  The names that are drawn start at `next`. -/
def threeNodes (next : Nat) (link : ValueId) : List Event :=
  [.create .linux64, .perform (.declareGlobal "x" 64), .perform (.allocate 64 "node"),
    .perform (.allocate 64 "node"), .perform (.allocate 64 "node"),
    .perform (.write ⟨next + 1⟩ ⟨0, 64⟩ ⟨next + 4⟩),
    .perform (.write ⟨next + 3⟩ ⟨0, 64⟩ ⟨next + 6⟩),
    .perform (.write ⟨next + 5⟩ ⟨0, 64⟩ link), .perform (.write ⟨next⟩ ⟨0, 64⟩ ⟨next + 2⟩)]

/-- Two chains, each of which ends with zero. -/
def twoChains : List Event := threeNodes 1 .zero ++ threeNodes 8 .zero

/-- Two rings, in which the last node leads to the first. -/
def twoRings : List Event := threeNodes 1 ⟨3⟩ ++ threeNodes 8 ⟨10⟩

theorem admissible_twoChains : AllAdmissible twoChains ([], .full) ∧
    (happened twoChains ([], .full)).1.length = 2 :=
  ⟨by decide_cbv, by cbv⟩

theorem admissible_twoRings : AllAdmissible twoRings ([], .full) ∧
    (happened twoRings ([], .full)).1.length = 2 :=
  ⟨by decide_cbv, by cbv⟩

/-- In a chain, each object leads to one that was made later. -/
theorem ringless_twoChains : (built twoChains 1).graph.Ringless := by
  have upwards : ∀ field ∈ (built twoChains 1).graph.fields,
      ∀ target ∈ Join.address? (built twoChains 1).graph field.value,
        field.object.index < target.object.index := by decide +kernel
  refine @Graph.ringless_of_rank _ ObjectId.index ?_
  rintro object _ ⟨range, value, target, held, isAddress, rfl⟩
  exact upwards ⟨object, range, value⟩ (Graph.mem_fields_iff.2 held) target isAddress

/-- Chains are folded, and their join goes through; so does that of rings which are not folded. -/
theorem twoChains_goes_through :
    ((built twoChains 1).graph.Ringless ∧ ∃ outcome now,
      (built twoChains 1).graph.join {} (built twoChains 0).graph (builtSupply twoChains) =
        .ok outcome now) ∧
      ∃ outcome now, (built twoRings 1).graph.join { foldLists := false } (built twoRings 0).graph
        (builtSupply twoRings) = .ok outcome now := by
  obtain ⟨chained, two⟩ := admissible_twoChains
  obtain ⟨ringed, two'⟩ := admissible_twoRings
  refine ⟨⟨ringless_twoChains, ?_⟩, ?_⟩
  · exact (family_built chained).join_goes_through (built_mem (by rw [two]; decide))
      (built_mem (by rw [two]; decide)) (.inr (.inr (.inl ringless_twoChains)))
  · exact (family_built ringed).join_goes_through (built_mem (by rw [two']; decide))
      (built_mem (by rw [two']; decide)) (.inl rfl)

/-- Folding stops the join of two rings. -/
theorem twoRings_stops : AllAdmissible twoRings ([], .full) ∧
    (built twoRings 1).graph.join {} (built twoRings 0).graph (builtSupply twoRings) =
      .error (.unknownObject ⟨16⟩) ⟨23⟩ :=
  ⟨by decide_cbv, by cbv⟩

end State

end ShapeDomain
