import Mathlib
import ShapeDomain.Proofs.Join.Confined
import ShapeDomain.Proofs.Reflexive.TracedObjects
import ShapeDomain.Proofs.Verified.Graphs

/-!
# Graphs of regions with the same contents

Joined with itself, or with a graph of the same contents, a graph of regions has a join that says
that both are equal, unless list nodes are folded on the way.  Where they are, the representation
matters: equal graphs are never folded, and graphs with the same contents may be.
-/

namespace ShapeDomain

namespace Join

variable {origin : Graph} {here : Progress × Supply} {setting : Setting}

namespace Tracing

/-- Nothing has been traced when a join starts. -/
theorem start (origin : Graph) (zero : origin.target? .zero = some .null) :
    Tracing origin (.start origin origin) where
  left := rfl
  right := rfl
  maps := rfl
  levels := rfl
  status := rfl
  null := ⟨.null, rfl, rfl, rfl⟩
  object mapped := by simp [Progress.start, Correspondence.empty, Correspondence.object?] at mapped
  heap {id} isHeap := by
    replace isHeap : (Graph.initial origin.machine).isHeap id = true := isHeap
    by_cases null : id = .null
    · subst null
      simp [Graph.isHeap, Graph.initial] at isHeap
    · simp [Graph.isHeap, Graph.initial, Table.get?_insert_of_ne _ null] at isHeap
  value mapped := by simp [Progress.start, Correspondence.empty, Correspondence.value?] at mapped
  joined value := rfl
  target {value target} leads := by
    replace leads : (Graph.initial origin.machine).target? value = some target := leads
    rw [Graph.target?_initial] at leads
    split at leads
    case isTrue same => exact ⟨.null, same ▸ zero, congrArg Target.object (Option.some.inj leads)⟩
    case isFalse => simp at leads
  free {value} proper _ := by
    show (Graph.initial origin.machine).target? value = none
    rw [Graph.target?_initial, if_neg proper]
  held isHeld := by simp [Progress.start, Graph.valueAt?_initial] at isHeld

/-- Both sides know of the same inequalities. -/
theorem keepInequalities (tracing : Tracing origin here.1) :
    Run.Ends Join.keepInequalities here
      (fun _ there => there.2 = here.2 ∧ there.1.status = .equal) fun _ _ => False := by
  have none (set : KeySet (ValueId × ValueId)) : (set.diff set).keys.isEmpty = true := by
    rw [KeySet.keys_diff_self]
    rfl
  unfold Join.keepInequalities
  refine Run.ends_bind_of_ok (Run.state_apply _) ?_
  dsimp only
  rw [tracing.left, tracing.right, tracing.maps]
  refine Run.ends_bind_of_ok (modifyDest_apply _ _) ?_
  rw [none, if_pos rfl, if_pos rfl]
  exact Run.ends_pure ⟨rfl, tracing.status⟩

/-- The whole join, without checks. -/
theorem joinAll (tracing : Tracing origin here.1) (regional : origin.Regional)
    (quiet : Quiet setting origin) (unchecked : setting.options.verify = false) :
    Run.Ends (Join.joinAll setting) here
      (fun joined there => joined = true ∧ there.2 = here.2 ∧ there.1.status = .equal)
      fun _ _ => False := by
  have size : here.1.left.objects.size = origin.objects.size :=
    congrArg (fun graph => graph.objects.size) tracing.left
  unfold Join.joinAll
  refine Run.ends_bind_of_ok (Run.ask_apply _ _) ?_
  refine Run.Ends.bind (tracing.matchVariables regional.roots) ?_
  rintro _ middle ⟨same, tracing, -, ids, rfl, copied⟩
  have few : unmapped origin middle.1.leftMap < here.1.left.objects.size + 1 := by
    rw [size]
    exact unmapped_lt_size origin middle.1.leftMap
  refine Run.Ends.bind (tracing.joinPairs regional quiet copied few) ?_
  rintro _ there ⟨same', tracing, -, rfl⟩
  rw [if_pos rfl]
  refine tracing.keepInequalities.bind ?_
  rintro _ last ⟨same'', status⟩
  rw [unchecked]
  exact Run.ends_pure ⟨rfl, same''.trans (same'.trans same), status⟩

end Tracing

end Join

namespace Graph

variable {graph other : Graph} {options : Options} {supply : Supply}

/-- A graph of regions and one with the same contents, whose join folds nothing. -/
theorem join_equal (consistent : graph.Consistent) (exact : graph.ExactFields)
    (drawn : graph.DrawnBefore supply.next) (regions : graph.OfRegions)
    (singles : graph.SingleTargets) (contents : graph.SameContents other)
    (quiet : Join.Tracing.Quiet ⟨options, graph == other⟩ graph) :
    ∃ dest, graph.join options other supply = .ok (.defined dest .equal) supply := by
  have regional := Regional.of_consistent consistent exact regions singles
  let setting : Join.Setting := ⟨options, graph == other⟩
  have starting := Join.Keeping.start (drawn.positive consistent.checked)
    (drawn.alignable consistent exact) (drawn.alignable consistent exact)
  have ends : Run.Ends (Join.joinAll setting.unchecked) (.start graph graph, supply)
      (fun joined there => joined = true ∧ there.2 = supply ∧ there.1.status = .equal)
      fun _ _ => False :=
    Join.Tracing.joinAll (Join.Tracing.start graph regional.zero) regional quiet rfl
  obtain ⟨_, ⟨progress, now⟩, done, rfl, rfl, status⟩ := ends.exists_ok
  have joined := (starting.joinAll setting).same.trans done
  obtain ⟨_, joined', ⟨-, -⟩⟩ :=
    (SameContents.refl graph).joinAll contents joined
  exact ⟨_, join_eq_defined_iff.2 ⟨_, joined', rfl, status, rfl⟩⟩

/-- Whatever the options are, a graph of regions joined with itself has a join, which says that both
are equal.  Without folding, the join with a graph of the same contents has the same outcome.  With
folding, the status is the same at least as long as no heap object leads to another one of its
size. -/
theorem join_equal_of_sameContents (consistent : graph.Consistent) (exact : graph.ExactFields)
    (drawn : graph.DrawnBefore supply.next) (regions : graph.OfRegions)
    (singles : graph.SingleTargets) (contents : graph.SameContents other) :
    ∃ dest, graph.join options graph supply = .ok (.defined dest .equal) supply ∧
      (options.foldLists = false →
        graph.join options other supply = .ok (.defined dest .equal) supply) ∧
      (graph.Unlinked →
        ∃ dest, graph.join options other supply = .ok (.defined dest .equal) supply) := by
  have equal {other : Graph} (contents : graph.SameContents other)
      (quiet : Join.Tracing.Quiet ⟨options, graph == other⟩ graph) :
      ∃ dest, graph.join options other supply = .ok (.defined dest .equal) supply :=
    join_equal consistent exact drawn regions singles contents quiet
  obtain ⟨dest, self⟩ := equal (.refl graph) (.inr (.inl (beq_self_eq_true graph)))
  refine ⟨dest, self, fun off => ?_, fun unlinked => equal contents (.inr (.inr unlinked))⟩
  exact ((SameContents.refl graph).join_iff contents off).2 self

end Graph

/-- A variable that leads to a node and to the node that follows it. -/
def sharedTail : Graph :=
  (((((((Graph.initial .linux64).declareGlobal "x" ⟨1⟩ (.region 128 "x")).addHeapObject ⟨2⟩
    (.region 64 "node")).addHeapObject ⟨3⟩ (.region 64 "node")).putPointer
    ⟨⟨4⟩, ⟨⟨2⟩, 0, .region⟩⟩).putPointer ⟨⟨5⟩, ⟨⟨3⟩, 0, .region⟩⟩).putField
    ⟨⟨1⟩, ⟨0, 64⟩, ⟨4⟩⟩).putField ⟨⟨1⟩, ⟨64, 64⟩, ⟨5⟩⟩ |>.putField ⟨⟨2⟩, ⟨0, 64⟩, ⟨5⟩⟩

/-- The same memory, where the last node had a field for a while. -/
def clearedTail : Graph :=
  (sharedTail.putField ⟨⟨3⟩, ⟨0, 64⟩, .zero⟩).removeField ⟨⟨3⟩, ⟨0, 64⟩, .zero⟩

theorem sameContents_clearedTail : sharedTail.SameContents clearedTail :=
  Graph.sameContents_removeField_putField sharedTail ⟨⟨3⟩, ⟨0, 64⟩, .zero⟩ (by decide +kernel)
    (by decide +kernel)

/-- A variable that leads to a single node. -/
def singleNode : Graph :=
  (((Graph.initial .linux64).declareGlobal "x" ⟨1⟩ (.region 64 "x")).addHeapObject ⟨2⟩
    (.region 64 "node")).putPointer ⟨⟨3⟩, ⟨⟨2⟩, 0, .region⟩⟩ |>.putField ⟨⟨1⟩, ⟨0, 64⟩, ⟨3⟩⟩

/-- The same memory, where the node had a field for a while. -/
def clearedNode : Graph :=
  (singleNode.putField ⟨⟨2⟩, ⟨0, 64⟩, .zero⟩).removeField ⟨⟨2⟩, ⟨0, 64⟩, .zero⟩

/-- Nothing tells a graph from the same memory with a cleared node, without folding or without a
node that leads to another one. -/
theorem join_equal_cleared :
    (∃ dest,
      sharedTail.join { foldLists := false } sharedTail ⟨6⟩ = .ok (.defined dest .equal) ⟨6⟩ ∧
      sharedTail.join { foldLists := false } clearedTail ⟨6⟩ = .ok (.defined dest .equal) ⟨6⟩) ∧
    ∃ dest, singleNode.join {} clearedNode ⟨4⟩ = .ok (.defined dest .equal) ⟨4⟩ := by
  obtain ⟨dest, self, unfolded, -⟩ :=
    @Graph.join_equal_of_sameContents sharedTail clearedTail { foldLists := false } ⟨6⟩
      (by decide +kernel) (by decide +kernel) (by decide +kernel) (by decide +kernel)
      (by decide +kernel) sameContents_clearedTail
  have contents : singleNode.SameContents clearedNode :=
    Graph.sameContents_removeField_putField singleNode ⟨⟨2⟩, ⟨0, 64⟩, .zero⟩ (by decide +kernel)
      (by decide +kernel)
  obtain ⟨-, -, -, unlinked⟩ :=
    @Graph.join_equal_of_sameContents singleNode clearedNode {} ⟨4⟩
      (by decide +kernel) (by decide +kernel) (by decide +kernel) (by decide +kernel)
      (by decide +kernel) contents
  exact ⟨⟨dest, self, unfolded rfl⟩, unlinked (by decide +kernel)⟩

/-- With folding, the node and its successor are to be folded as soon as the first field of the
variable leads there; by the time when this is done the second field leads to the successor as
well. -/
theorem join_undefined_clearedTail :
    sharedTail.Consistent ∧ sharedTail.ExactFields ∧ sharedTail.OfRegions ∧
      sharedTail.SingleTargets ∧ sharedTail.SameContents clearedTail ∧
      sharedTail.join {} clearedTail ⟨6⟩ = .ok .undefined ⟨6⟩ :=
  ⟨by decide +kernel, by decide +kernel, by decide +kernel, by decide +kernel,
    sameContents_clearedTail, by cbv⟩

end ShapeDomain
