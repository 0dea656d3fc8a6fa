import ShapeDomain.Proofs.Coverage.Destination
import ShapeDomain.Proofs.Coverage.Variables

/-!
# Heap objects that variables hold

Where a variable of one of two states holds an address in the heap, their joint state holds one
there as well, unless the variable of the other state has a field that starts or ends inside the
range.  Then the address is cut into pieces of which nothing is known, and the object it led to may
be lost.  No leak is found by that.
-/

namespace ShapeDomain

namespace Graph

/-- A variable holds, in a range, an address in a heap object that may be accessed. -/
def HoldsHeap (graph : Graph) (name : Variable) (range : BitRange) : Prop :=
  ∃ value target, graph.heldBy? name range = some value ∧ graph.target? value = some target ∧
    graph.isHeap target.object = true ∧ graph.isValid target.object = true

/-- A field of a variable starts or ends strictly inside a range. -/
def VariableCuts (graph : Graph) (name : Variable) (range : BitRange) : Prop :=
  ∃ object, graph.named? name = some object ∧ graph.Cuts object range

/-- Whether a variable holds an address in the heap, by what it holds. -/
def holdsHeap (graph : Graph) (name : Variable) (range : BitRange) : Bool :=
  ((graph.heldBy? name range).bind graph.target?).any fun target =>
    graph.isHeap target.object && graph.isValid target.object

theorem holdsHeap_iff {graph : Graph} {name : Variable} {range : BitRange} :
    graph.holdsHeap name range = true ↔ graph.HoldsHeap name range := by
  simp only [holdsHeap, HoldsHeap, Option.any_eq_true, Option.bind_eq_some_iff, Bool.and_eq_true]
  constructor
  · rintro ⟨target, ⟨value, held, leads⟩, heap, valid⟩
    exact ⟨value, target, held, leads, heap, valid⟩
  · rintro ⟨value, target, held, leads, heap, valid⟩
    exact ⟨target, ⟨value, held, leads⟩, heap, valid⟩

instance (graph : Graph) (name : Variable) (range : BitRange) :
    Decidable (graph.HoldsHeap name range) :=
  decidable_of_iff _ holdsHeap_iff

instance (graph : Graph) (name : Variable) (range : BitRange) :
    Decidable (graph.VariableCuts name range) :=
  match named : graph.named? name with
  | none => isFalse fun ⟨_, isNamed, _⟩ => by simp [named] at isNamed
  | some object => decidable_of_iff (graph.Cuts object range)
      ⟨fun cuts => ⟨object, named, cuts⟩, fun ⟨_, isNamed, cuts⟩ =>
        Option.some.inj (named.symm.trans isNamed) ▸ cuts⟩

end Graph

namespace Join

variable {basis : Basis} {here : Progress × Supply} {object1 object2 : ObjectId}
variable {name : Variable} {range : BitRange} {value : ValueId}

/-- The counterpart of a heap object that may be accessed is one. -/
theorem Mapped.heap_and_valid {start : Nat} {origin dest : Graph} {map : Correspondence}
    {id image : ObjectId} (mapped : Mapped start origin map dest) (sound : origin.Sound)
    (isImage : image? map id = some image) (heap : origin.isHeap id = true)
    (valid : origin.isValid id = true) :
    dest.isHeap image = true ∧ dest.isValid image = true := by
  have proper : id ≠ .null := by
    rintro rfl
    simp [sound.isHeap_null] at heap
  rw [image?_of_proper proper] at isImage
  exact ⟨mapped.heap isImage heap, (mapped.valid isImage).trans valid⟩

namespace Finished

variable (finished : Finished basis here)

include finished

/-- A variable holds a joint value in each aligned range. -/
theorem exists_stored (named1 : basis.left.named? name = some object1)
    (named2 : basis.right.named? name = some object2)
    (shared : Shared basis.left basis.right object1 object2 range) :
    ∃ value1 value2 value, CellsJoined basis here object1 object2 range
        (cellAt basis.left object1 range) (cellAt basis.right object2 range) value1 value2 value ∧
      here.1.dest.heldBy? name range = some value := by
  obtain ⟨image, rooted⟩ := finished.rooted named1 named2
  obtain ⟨value1, value2, value, joined⟩ := rooted.settled.exists_joined
    (cell?_eq_some_iff.2 ⟨shared, rfl⟩) (cell?_eq_some_iff.2 ⟨shared.symm, rfl⟩)
  refine ⟨value1, value2, value, joined, Graph.heldBy?_eq_some_iff.2
    ⟨image, finished.named named1 named2 rooted.left, ?_⟩⟩
  exact rooted.filled (finished.invariant.hasObject_of_left rooted.left) joined.held1 joined.held2
    joined.joint

/-- A variable of the destination holds something in aligned ranges only. -/
theorem shared_of_heldBy (named1 : basis.left.named? name = some object1)
    (named2 : basis.right.named? name = some object2)
    (held : here.1.dest.heldBy? name range = some value) :
    Shared basis.left basis.right object1 object2 range := by
  have invariant := finished.invariant
  obtain ⟨image, rooted⟩ := finished.rooted named1 named2
  obtain ⟨id, named, isHeld⟩ := Graph.heldBy?_eq_some_iff.1 held
  obtain rfl := Option.some.inj ((finished.named named1 named2 rooted.left).symm.trans named)
  obtain ⟨other1, other2, value1, value2, source⟩ := invariant.contents isHeld rooted.region
  have same : other1 = object1 :=
    (invariant.leftMap.unique source.left rooted.left).resolve_right (by simp [rooted.region])
  obtain ⟨cell, isCell, -⟩ := exists_stands basis.leftPlain.positive
    (rooted.settled.realized.left range) (same ▸ source.held1)
  exact (cell?_eq_some_iff.1 isCell).1

/-- What one of the graphs cuts is no field of the destination. -/
theorem not_holdsHeap
    (cuts : basis.left.VariableCuts name range ∨ basis.right.VariableCuts name range) :
    ¬ here.1.dest.HoldsHeap name range := by
  rintro ⟨value, -, held, -⟩
  have same := finished.scopes.isSome_named? name
  have tiled1 := basis.leftPlain.sound.tiled
  have tiled2 := basis.rightPlain.sound.tiled
  rcases cuts with ⟨object1, named1, cuts⟩ | ⟨object2, named2, cuts⟩
  · obtain ⟨object2, named2⟩ := Option.isSome_iff_exists.1 (same.symm.trans (by rw [named1]; rfl))
    exact (finished.shared_of_heldBy named1 named2 held).not_cuts1 tiled1 tiled2 cuts
  · obtain ⟨object1, named1⟩ := Option.isSome_iff_exists.1 (same.trans (by rw [named2]; rfl))
    exact (finished.shared_of_heldBy named1 named2 held).symm.not_cuts1 tiled2 tiled1 cuts

variable (still : ¬ basis.Folds)

include still

/-- An address in the heap stays one, if the right graph does not cut it. -/
theorem holdsHeap_of_left (holds : basis.left.HoldsHeap name range)
    (uncut : ¬ basis.right.VariableCuts name range) : here.1.dest.HoldsHeap name range := by
  have invariant := finished.invariant
  have sound := basis.leftPlain.sound
  obtain ⟨value1, target1, held, leads, heap, valid⟩ := holds
  obtain ⟨object1, named1, isHeld⟩ := Graph.heldBy?_eq_some_iff.1 held
  obtain ⟨object2, named2⟩ := Option.isSome_iff_exists.1
    ((finished.scopes.isSome_named? name).symm.trans (by rw [named1]; rfl))
  have shared := shared_of_held sound.tiled basis.rightPlain.sound.tiled isHeld
    fun cuts => uncut ⟨object2, named2, cuts⟩
  obtain ⟨_, _, value, joined, stored⟩ := finished.exists_stored named1 named2 shared
  have proper : value1 ≠ .zero := by
    rintro rfl
    obtain rfl := Option.some.inj (leads.symm.trans sound.zero)
    exact absurd heap (by simp [Target.null, sound.isHeap_null])
  have leads1 : (cellAt basis.left object1 range).address? basis.left = some target1 := by
    rw [cellAt_of_held sound.tiled isHeld]
    exact address?_eq_some_iff.2 ⟨proper, leads⟩
  rcases joined.address?_dest invariant still with
    ⟨none1, -⟩ | ⟨_, _, target, leads1', -, there, -, -, image, -⟩
  · simp [leads1] at none1
  · obtain rfl := Option.some.inj (leads1.symm.trans leads1')
    obtain ⟨isHeap, isValid⟩ := invariant.leftMap.heap_and_valid sound image heap valid
    exact ⟨value, target, stored, (address?_eq_some_iff.1 there).2, isHeap, isValid⟩

/-- An address in the heap stays one, if the left graph does not cut it. -/
theorem holdsHeap_of_right (holds : basis.right.HoldsHeap name range)
    (uncut : ¬ basis.left.VariableCuts name range) : here.1.dest.HoldsHeap name range := by
  have invariant := finished.invariant
  have sound := basis.rightPlain.sound
  obtain ⟨value2, target2, held, leads, heap, valid⟩ := holds
  obtain ⟨object2, named2, isHeld⟩ := Graph.heldBy?_eq_some_iff.1 held
  obtain ⟨object1, named1⟩ := Option.isSome_iff_exists.1
    ((finished.scopes.isSome_named? name).trans (by rw [named2]; rfl))
  have shared := (shared_of_held sound.tiled basis.leftPlain.sound.tiled isHeld
    fun cuts => uncut ⟨object1, named1, cuts⟩).symm
  obtain ⟨_, _, value, joined, stored⟩ := finished.exists_stored named1 named2 shared
  have proper : value2 ≠ .zero := by
    rintro rfl
    obtain rfl := Option.some.inj (leads.symm.trans sound.zero)
    exact absurd heap (by simp [Target.null, sound.isHeap_null])
  have leads2 : (cellAt basis.right object2 range).address? basis.right = some target2 := by
    rw [cellAt_of_held sound.tiled isHeld]
    exact address?_eq_some_iff.2 ⟨proper, leads⟩
  rcases joined.address?_dest invariant still with
    ⟨-, none2, -⟩ | ⟨_, _, target, -, leads2', there, -, -, -, image⟩
  · simp [leads2] at none2
  · obtain rfl := Option.some.inj (leads2.symm.trans leads2')
    obtain ⟨isHeap, isValid⟩ := invariant.rightMap.heap_and_valid sound image heap valid
    exact ⟨value, target, stored, (address?_eq_some_iff.1 there).2, isHeap, isValid⟩

end Finished

end Join

namespace State

variable {options : Options} {state other joint : State} {supply now : Supply} {status : Status}
variable {states : List State} {name : Variable} {range : BitRange}

/-- If two states that exist side by side are joined without folding, and a variable of one of them
holds an address in a heap object that may be accessed, then the joint state holds one in the same
range of the variable, unless the other state has a field of the variable that starts or ends inside
the range.  What the joint state has found is what both states had found. -/
theorem Family.heap_pointer_kept_iff (family : Family states supply) (inside1 : state ∈ states)
    (inside2 : other ∈ states) (still : options.foldLists = false)
    (joined : state.join options other supply = .ok (some (joint, status)) now) :
    (state.collect.graph.HoldsHeap name range →
      (joint.graph.HoldsHeap name range ↔ ¬ other.collect.graph.VariableCuts name range)) ∧
    (other.collect.graph.HoldsHeap name range →
      (joint.graph.HoldsHeap name range ↔ ¬ state.collect.graph.VariableCuts name range)) ∧
    joint.findings = state.collect.findings ∧ joint.findings = other.collect.findings := by
  obtain ⟨findings, kept, defined⟩ := join_eq_some_iff.1 joined
  obtain ⟨there, done, dest, -, -⟩ := Graph.join_eq_defined_iff.1 defined
  have finished := (Join.joinAll_ends (Graph.basis options (family.plain_collect inside1)
    (family.plain_collect inside2))).of_eq_ok done
  have noFolds : ¬ (Graph.basis options (family.plain_collect inside1)
      (family.plain_collect inside2)).Folds := by
    rintro ⟨folds, -⟩
    replace folds : options.foldLists = true := folds
    simp [still] at folds
  rw [← dest]
  refine ⟨fun holds => ⟨fun kept cuts => finished.not_holdsHeap (.inr cuts) kept,
      finished.holdsHeap_of_left noFolds holds⟩,
    fun holds => ⟨fun kept cuts => finished.not_holdsHeap (.inl cuts) kept,
      finished.holdsHeap_of_right noFolds holds⟩, kept, kept.trans findings⟩

/-- A variable with the address of a node, and one that is zero in both halves. -/
def nodeAndHalves : List Event :=
  [.create .linux64, .perform (.enter "main"), .perform (.declareLocal "x" 64),
    .perform (.allocate 64 "node"), .perform (.write ⟨1⟩ ⟨0, 64⟩ ⟨3⟩),
    .create .linux64, .perform (.enter "main"), .perform (.declareLocal "x" 64),
    .perform (.write ⟨4⟩ ⟨0, 32⟩ .zero), .perform (.write ⟨4⟩ ⟨32, 32⟩ .zero)]

theorem admissible_nodeAndHalves : AllAdmissible nodeAndHalves ([], .full) ∧
    (happened nodeAndHalves ([], .full)).1.length = 2 ∧
    (built nodeAndHalves 1).collect.graph.HoldsHeap (.inner 0 "x") ⟨0, 64⟩ :=
  ⟨by decide_cbv, by cbv, by decide_cbv⟩

/-- They have a joint state, in which `x` holds no address and no leak is found. -/
theorem exists_join_nodeAndHalves : ∃ joint status now,
    (built nodeAndHalves 1).join { foldLists := false } (built nodeAndHalves 0)
        (builtSupply nodeAndHalves) = .ok (some (joint, status)) now ∧
      ¬ joint.graph.HoldsHeap (.inner 0 "x") ⟨0, 64⟩ ∧ joint.findings.memoryLeak = false := by
  let lost (joint : State) : Bool :=
    !joint.graph.holdsHeap (.inner 0 "x") ⟨0, 64⟩ && !joint.findings.memoryLeak
  have found : ∃ joint status now, (built nodeAndHalves 1).join { foldLists := false }
      (built nodeAndHalves 0) (builtSupply nodeAndHalves) = .ok (some (joint, status)) now ∧
      lost joint = true :=
    exists_join_iff.2 (by cbv)
  obtain ⟨joint, status, now, joined, isLost⟩ := found
  simp only [lost, Bool.and_eq_true, Bool.not_eq_true'] at isLost
  refine ⟨joint, status, now, joined, fun holds => ?_, isLost.2⟩
  rw [← Graph.holdsHeap_iff, isLost.1] at holds
  simp at holds

theorem heap_pointer_kept_nodeAndHalves : ∃ joint status now,
    (built nodeAndHalves 1).join { foldLists := false } (built nodeAndHalves 0)
      (builtSupply nodeAndHalves) = .ok (some (joint, status)) now ∧
    ((built nodeAndHalves 1).collect.graph.HoldsHeap (.inner 0 "x") ⟨0, 64⟩ →
      (joint.graph.HoldsHeap (.inner 0 "x") ⟨0, 64⟩ ↔
        ¬ (built nodeAndHalves 0).collect.graph.VariableCuts (.inner 0 "x") ⟨0, 64⟩)) ∧
    ((built nodeAndHalves 0).collect.graph.HoldsHeap (.inner 0 "x") ⟨0, 64⟩ →
      (joint.graph.HoldsHeap (.inner 0 "x") ⟨0, 64⟩ ↔
        ¬ (built nodeAndHalves 1).collect.graph.VariableCuts (.inner 0 "x") ⟨0, 64⟩)) ∧
    joint.findings = (built nodeAndHalves 1).collect.findings ∧
    joint.findings = (built nodeAndHalves 0).collect.findings := by
  obtain ⟨admissible, two, -⟩ := admissible_nodeAndHalves
  obtain ⟨joint, status, now, joined, -⟩ := exists_join_nodeAndHalves
  exact ⟨joint, status, now, joined, (family_built admissible).heap_pointer_kept_iff
    (built_mem (by rw [two]; decide)) (built_mem (by rw [two]; decide)) rfl joined⟩

/-- The node is lost without a leak. -/
theorem node_lost_nodeAndHalves : AllAdmissible nodeAndHalves ([], .full) ∧
    (built nodeAndHalves 1).collect.graph.HoldsHeap (.inner 0 "x") ⟨0, 64⟩ ∧
    ∃ joint status now, (built nodeAndHalves 1).join { foldLists := false }
        (built nodeAndHalves 0) (builtSupply nodeAndHalves) = .ok (some (joint, status)) now ∧
      ¬ joint.graph.HoldsHeap (.inner 0 "x") ⟨0, 64⟩ ∧ joint.findings.memoryLeak = false :=
  ⟨admissible_nodeAndHalves.1, admissible_nodeAndHalves.2.2, exists_join_nodeAndHalves⟩

end State

end ShapeDomain
