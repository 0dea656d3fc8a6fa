import ShapeDomain.Proofs.Coverage.Collected
import ShapeDomain.Proofs.Progress.Verdicts
import ShapeDomain.Proofs.Reflexive.Graphs
import ShapeDomain.Proofs.State.Lineage

/-!
# The join of a state with itself

A state is subsumed by itself, and its join with itself is an exact copy of what its variables
reach: the garbage that is collected before is not reachable.
-/

namespace ShapeDomain

namespace Graph

variable {graph pruned copy : Graph} {gone : List ObjectId}

theorem machine_removeObjects (ids : List ObjectId) :
    (graph.removeObjects ids).machine = graph.machine := by
  induction ids generalizing graph with
  | nil => rfl
  | cons head rest ih =>
      refine ih.trans ?_
      unfold removeObject
      split <;> rfl

theorem inequalities_removeObjects (ids : List ObjectId) :
    (graph.removeObjects ids).inequalities = graph.inequalities := by
  induction ids generalizing graph with
  | nil => rfl
  | cons head rest ih =>
      refine ih.trans ?_
      unfold removeObject
      split <;> rfl

namespace Pruned

variable (parts : graph.Pruned pruned gone)

include parts

theorem roots : pruned.roots = graph.roots := by
  rw [Graph.roots, Graph.frames, parts.stack, parts.globals]
  rfl

/-- What is reachable without the objects that were removed was reachable before. -/
theorem reaches_of {id : ObjectId} (reaches : pruned.Reaches id) : graph.Reaches id := by
  induction reaches with
  | root named => exact .root (parts.roots ▸ named)
  | step _ leads ih =>
      obtain ⟨field, member, target⟩ := List.mem_filterMap.1 leads
      obtain ⟨place, isPlace, rfl⟩ := Option.map_eq_some_iff.1 target
      obtain ⟨same, held⟩ := mem_fieldsOf_iff.1 member
      refine ih.step (List.mem_filterMap.2 ⟨field, mem_fieldsOf_iff.2 ⟨same, parts.held held⟩, ?_⟩)
      rw [parts.leads isPlace]
      rfl

variable (unreached : ∀ {id}, graph.Reaches id → id ∉ gone)

include unreached

/-- If no reachable object was removed, the same objects are reachable. -/
theorem reaches_iff {id : ObjectId} : pruned.Reaches id ↔ graph.Reaches id := by
  refine ⟨parts.reaches_of, fun reaches => ?_⟩
  induction reaches with
  | root named => exact .root (parts.roots.symm ▸ named)
  | @step object next reaches leads ih =>
      obtain ⟨field, member, target⟩ := List.mem_filterMap.1 leads
      obtain ⟨place, isPlace, rfl⟩ := Option.map_eq_some_iff.1 target
      obtain ⟨same, held⟩ := mem_fieldsOf_iff.1 member
      refine ih.step (List.mem_filterMap.2 ⟨field, mem_fieldsOf_iff.2 ⟨same, ?_⟩, ?_⟩)
      · rw [parts.valueAt? (unreached reaches), held]
      · rw [parts.stays isPlace (unreached (reaches.step leads))]
        rfl

theorem kept_iff {value : ValueId} : pruned.Kept value ↔ graph.Kept value := by
  refine exists_congr fun object => exists_congr fun range => ?_
  rw [parts.reaches_iff unreached]
  refine and_congr_right fun reaches => ?_
  rw [parts.valueAt? (unreached reaches)]

/-- Kept addresses lead to the same places. -/
theorem target?_of_kept {value : ValueId} (kept : graph.Kept value) :
    pruned.target? value = graph.target? value := by
  cases leads : graph.target? value with
  | none =>
      rw [Option.eq_none_iff_forall_not_mem]
      intro place leads'
      rw [parts.leads leads'] at leads
      simp at leads
  | some place => exact parts.stays leads (unreached (kept.reaches leads))

end Pruned

/-- A copy of what is left without garbage is a copy. -/
theorem CopyOf.of_garbage (copied : copy.CopyOf (graph.removeObjects graph.garbage))
    (sound : graph.Sound) : copy.CopyOf graph := by
  have parts := graph.pruned_garbage
  have unreached {id : ObjectId} (reaches : graph.Reaches id) : id ∉ graph.garbage :=
    not_mem_garbage reaches
  have reaches {id : ObjectId} :
      (graph.removeObjects graph.garbage).Reaches id ↔ graph.Reaches id :=
        parts.reaches_iff unreached
  have kept {value : ValueId} :
      (graph.removeObjects graph.garbage).Kept value ↔ graph.Kept value := parts.kept_iff unreached
  have inPlace (id : ObjectId) (isReached : id = .null ∨ graph.Reaches id) :
      (graph.removeObjects graph.garbage).objects.get? id = graph.objects.get? id := by
    rcases isReached with rfl | isReached
    · exact (sound.removeObjects graph.garbage).null.trans sound.null.symm
    · exact get?_removeObjects (unreached isReached)
  have places {value : ValueId} (isKept : graph.Kept value) (target : Target)
      (leads : graph.target? value = some target) :
      (graph.removeObjects graph.garbage).copiedTarget target = graph.copiedTarget target := by
    have same := inPlace target.object (.inr (isKept.reaches leads))
    rw [copiedTarget, copiedTarget, isList, isList, object?, object?, same]
  exact
    { machine := copied.machine.trans (machine_removeObjects _)
      stack := copied.stack.trans parts.stack
      globals := copied.globals.trans parts.globals
      objects := fun id isReached =>
        (copied.objects id (isReached.imp_right reaches.2)).trans (inPlace id isReached)
      only := fun id present => (copied.only id present).imp_right reaches.1
      fields := fun object range value => by
        rw [copied.fields, reaches]
        refine and_congr_right fun isReached => ?_
        rw [parts.valueAt? (unreached isReached)]
      values := fun value => by rw [copied.values, kept]
      zero := copied.zero
      number := fun value proper number => by
        rw [copied.number value proper, kept, parts.number]
        refine and_congr_right fun isKept => ?_
        rw [parts.target?_of_kept unreached isKept]
      target := fun value proper place => by
        rw [copied.target value proper, kept]
        refine and_congr_right fun isKept => ?_
        rw [parts.target?_of_kept unreached isKept]
        refine exists_congr fun target => and_congr_right fun leads => ?_
        rw [places isKept target leads]
      unequal := fun a b => by
        rw [copied.unequal, kept, kept, isUnequal, inequalities_removeObjects, isUnequal] }

end Graph

namespace State

variable {state : State} {states : List State} {supply : Supply}

/-- A state that was built by operations and joins is subsumed by itself.  Its join with itself is
an exact copy of what its variables reach, and the two are equal; nothing is drawn. -/
theorem Lineage.join_itself (lineage : Lineage states supply) (inside : state ∈ states)
    (options : Options) :
    state.isSubsumedBy options state supply = .ok true supply ∧
      ∃ joint, state.join options state supply = .ok (some (joint, .equal)) supply ∧
        joint.graph.CopyOf state.graph ∧ joint.findings = state.collect.findings := by
  have tame := lineage.tame.2 state inside
  obtain ⟨copy, defined, copied⟩ := (tame_maintained.collect tame).join_copies options supply
  refine ⟨isSubsumedBy_iff.2 ⟨rfl, copy, .equal, defined, rfl⟩,
    ⟨copy, state.collect.findings⟩, ?_, ?_, rfl⟩
  · exact join_eq_some_iff.2 ⟨rfl, rfl, defined⟩
  · exact Graph.CopyOf.of_garbage copied tame.sound

/-- Two lists of two nodes have a join with a list segment, which is joined with itself. -/
theorem join_itself_apartNodes : ∃ folded status now,
    (built apartNodes 1).join {} (built apartNodes 0) (builtSupply apartNodes) =
        .ok (some (folded, status)) now ∧
      (folded.graph.objects.payloads.any fun placement => placement.object.kind.isList) = true ∧
      folded.isSubsumedBy {} folded now = .ok true now ∧
      ∃ joint, folded.join {} folded now = .ok (some (joint, .equal)) now ∧
        joint.graph.CopyOf folded.graph ∧ joint.findings = folded.collect.findings := by
  obtain ⟨admissible, two⟩ := admissible_apartNodes
  have found : ∃ folded status now, (built apartNodes 1).join {} (built apartNodes 0)
      (builtSupply apartNodes) = .ok (some (folded, status)) now ∧
      (folded.graph.objects.payloads.any fun placement => placement.object.kind.isList) = true :=
    exists_join_iff.2 (by cbv)
  obtain ⟨folded, status, now, joined, segment⟩ := found
  have lineage := (family_built admissible).lineage.join {} (built_mem (by rw [two]; decide))
    (built_mem (by rw [two]; decide)) joined
  exact ⟨folded, status, now, joined, segment, lineage.join_itself List.mem_cons_self {}⟩

end State

end ShapeDomain
