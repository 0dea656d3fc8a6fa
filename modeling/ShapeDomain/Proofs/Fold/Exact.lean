import ShapeDomain.Graph.Operation
import ShapeDomain.Proofs.Fold.Perform

/-!
# Foldings are exact

In a consistent graph a folding either does nothing, because the two nodes cannot be folded, or it
puts one segment in their place and changes nothing that is not theirs.  Fields may be empty, the
links may have different sizes, the nodes may lead to each other, and variables may name them.  Only
NULL cannot be folded: it is in every graph and not removed.
-/

namespace ShapeDomain

namespace Fold

variable {graph : Graph} {fold : Fold} {supply : Supply}

/-- A folding of nodes other than NULL is exact: it is done if it is possible, it is never refused,
and what it leads to is consistent. -/
theorem perform_exact (consistent : graph.Consistent) (reach : graph.InReach)
    (absent : graph.hasObject ⟨supply.next⟩ = false) (head : fold.head ≠ .null)
    (successor : fold.successor ≠ .null) :
    ((∀ parts, ¬ Possible graph fold parts) →
        fold.perform (graph, supply) = .ok none (graph, supply)) ∧
      ∀ parts, Possible graph fold parts →
        ∃ next, fold.perform (graph, supply) =
            .ok (some ⟨supply.next⟩) (next, ⟨supply.next + 1⟩) ∧
          Exact graph fold parts ⟨supply.next⟩ next ∧ next.Consistent ∧ next.InReach := by
  constructor
  · intro impossible
    refine perform_of_none ?_
    cases found : fold.parts? graph with
    | none => rfl
    | some parts => exact absurd (possible_of_parts? found) (impossible parts)
  · intro parts possible
    have ready : Performable graph fold parts :=
      ⟨possible, consistent.checked.fitting reach, head, successor⟩
    have exact := folded_exact ready absent
    exact ⟨_, perform_apply ready (parts?_of_possible possible) absent, exact,
      exact.fitting.consistent, exact.fitting.inReach⟩

/-- Two nodes that lead to each other, with an empty field and with links of different sizes. -/
def entangledNodes : Graph :=
  (Run.history Graph.Operation.perform
    [.addHeapObject ⟨1⟩ (.region 96 "node"), .addHeapObject ⟨2⟩ (.region 96 "node"),
      .declareGlobal "x" ⟨3⟩ (.region 64 "x"), .addPointer ⟨⟨4⟩, ⟨⟨2⟩, 0, .region⟩⟩,
      .addPointer ⟨⟨5⟩, ⟨⟨1⟩, 32, .region⟩⟩, .addField ⟨⟨1⟩, ⟨64, 32⟩, ⟨4⟩⟩,
      .addField ⟨⟨2⟩, ⟨64, 8⟩, ⟨5⟩⟩, .addField ⟨⟨1⟩, ⟨16, 0⟩, .zero⟩,
      .addField ⟨⟨2⟩, ⟨16, 0⟩, .zero⟩, .addField ⟨⟨3⟩, ⟨0, 64⟩, ⟨5⟩⟩]
    (.initial .linux64, .full)).1

/-- They are folded into a segment that leads to itself. -/
theorem perform_entangledNodes : ∃ next,
    Fold.perform ⟨⟨1⟩, ⟨2⟩, 64⟩ (entangledNodes, ⟨6⟩) = .ok (some ⟨6⟩) (next, ⟨7⟩) ∧
      next.Consistent ∧ next.target? ⟨4⟩ = none ∧
      next.target? ⟨5⟩ = some ⟨⟨6⟩, 32, .first⟩ ∧ next.valueAt? ⟨6⟩ ⟨64, 8⟩ = some ⟨5⟩ ∧
      next.valueAt? ⟨6⟩ ⟨16, 0⟩ = some .zero := by
  have found : Fold.parts? entangledNodes ⟨⟨1⟩, ⟨2⟩, 64⟩ =
      some ⟨.region 96 "node", .region 96 "node", ⟨⟨1⟩, ⟨64, 32⟩, ⟨4⟩⟩⟩ := by rfl
  have absent : entangledNodes.hasObject ⟨(⟨6⟩ : Supply).next⟩ = false := by decide +kernel
  obtain ⟨next, done, exact, consistent, -⟩ :=
    (perform_exact (by decide +kernel) (by decide +kernel)
    absent (by decide) (by decide)).2 _ (possible_of_parts? found)
  refine ⟨next, done, consistent, ?_, ?_, ?_, ?_⟩
  · rw [exact.targets]
    rfl
  · rw [exact.targets]
    rfl
  · rw [exact.held]
    rfl
  · rw [exact.held]
    rfl

/-- A graph in which NULL is a region of the heap that leads to another one. -/
def nullNode : Graph :=
  (Run.history Graph.Operation.perform
    [.addHeapObject .null (.region 64 "node"), .addHeapObject ⟨1⟩ (.region 64 "node"),
      .setValid ⟨1⟩ false, .addPointer ⟨⟨2⟩, ⟨⟨1⟩, 0, .region⟩⟩,
      .addField ⟨.null, ⟨0, 64⟩, ⟨2⟩⟩]
    (.initial .linux64, .full)).1

/-- The two can be folded by all conditions that are checked, but the zero value still leads to
NULL, so that the folding is refused. -/
theorem perform_refused_nullNode :
    nullNode.Consistent ∧ nullNode.InReach ∧ nullNode.hasObject ⟨3⟩ = false ∧
      (∃ parts, Possible nullNode ⟨.null, ⟨1⟩, 0⟩ parts) ∧
      ∃ fault there, Fold.perform ⟨.null, ⟨1⟩, 0⟩ (nullNode, ⟨3⟩) = .error fault there := by
  have found : Fold.parts? nullNode ⟨.null, ⟨1⟩, 0⟩ =
      some ⟨.region 64 "node", .region 64 "node", ⟨.null, ⟨0, 64⟩, ⟨2⟩⟩⟩ := by rfl
  exact ⟨by decide +kernel, by decide +kernel, by decide +kernel, ⟨_, possible_of_parts? found⟩,
    _, _, rfl⟩

end Fold

end ShapeDomain
