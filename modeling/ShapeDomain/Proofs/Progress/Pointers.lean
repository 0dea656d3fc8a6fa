import Mathlib
import ShapeDomain.Proofs.Coverage.Variables

/-!
# Pointers stay pointers

Where a variable holds addresses in both of two memories, it holds a joint address in their joint
memory.  The join takes the link between two nodes that it folds for their only connection, though:
a variable that holds the same address as a node does, and that is joined later, is left with a
value that leads nowhere.
-/

namespace ShapeDomain

namespace Join

variable {basis : Basis} {here : Progress × Supply}
variable {name : Variable} {range : BitRange} {value1 value2 : ValueId} {target1 target2 : Target}

/-- Where a variable holds addresses in both graphs, it holds a joint value of them in the
destination, which is an address as well, or was the link of two nodes that were folded. -/
theorem Finished.pointer (finished : Finished basis here)
    (held1 : basis.left.heldBy? name range = some value1)
    (held2 : basis.right.heldBy? name range = some value2)
    (leads1 : address? basis.left value1 = some target1)
    (leads2 : address? basis.right value2 = some target2) :
    ∃ value, here.1.dest.heldBy? name range = some value ∧
      ((∃ target, here.1.dest.target? value = some target ∧
          here.1.dest.hasObject target.object = true ∧ target.offset = target1.offset) ∨
        (basis.Folds ∧ basis.left.HeldUnnamed value1 ∧ basis.right.HeldUnnamed value2)) := by
  have invariant := finished.invariant
  obtain ⟨object1, named1, isHeld1⟩ := Graph.heldBy?_eq_some_iff.1 held1
  obtain ⟨object2, named2, isHeld2⟩ := Graph.heldBy?_eq_some_iff.1 held2
  obtain ⟨image, rooted⟩ := finished.rooted named1 named2
  obtain ⟨_, _, value, joined⟩ := rooted.settled.exists_joined_of_held isHeld1 isHeld2
  obtain rfl := joined.stands1.value_eq
  obtain rfl := joined.stands2.value_eq
  have stored : here.1.dest.valueAt? image range = some value :=
    rooted.filled (invariant.hasObject_of_left rooted.left) joined.held1 joined.held2 joined.joint
  refine ⟨value, Graph.heldBy?_eq_some_iff.2
    ⟨image, finished.named named1 named2 rooted.left, stored⟩, ?_⟩
  have proper1 := (address?_eq_some_iff.1 leads1).1
  have proper2 := (address?_eq_some_iff.1 leads2).1
  obtain ⟨-, isJoint⟩ :=
    (jointValue?_eq_some_iff.1 joined.joint).resolve_left fun zeros => proper1 zeros.1
  have joint := invariant.joined isJoint
  cases leads : here.1.dest.target? value with
  | some target =>
      refine .inl ⟨target, rfl, invariant.dest.targets leads, ?_⟩
      rw [← invariant.address?_left] at leads1
      cases joint.agree with
      | plain none1 => simp [leads1] at none1
      | address leads1' _ place =>
          obtain rfl := Option.some.inj (leads1.symm.trans leads1')
          exact (place.leads target leads).2
  | none =>
      obtain ⟨⟨segment, -, list⟩, inside1⟩ :=
        invariant.tied1.lost (joint.left.resolve_left proper1) leads1 leads
      obtain ⟨-, inside2⟩ := invariant.tied2.lost (joint.right.resolve_left proper2) leads2 leads
      refine .inr ⟨Classical.byContradiction fun still => ?_, inside1, inside2⟩
      rw [invariant.isList_eq_false still segment] at list
      simp at list

/-- Whether a join is defined and its graph has some property. -/
theorem exists_defined_iff {outcome : EStateM.Result Fault Supply Outcome}
    {property : Graph → Bool} :
    (∃ dest status now, outcome = .ok (.defined dest status) now ∧ property dest = true) ↔
      (match outcome with
        | .ok (.defined dest _) _ => property dest
        | _ => false) = true := by
  rcases outcome with ⟨_ | ⟨dest, status⟩, now⟩ | ⟨fault, now⟩ <;> simp

end Join

namespace State

variable {options : Options} {state other : State} {supply now : Supply} {states : List State}
variable {dest : Graph} {status : Status}
variable {name : Variable} {range : BitRange} {value1 value2 : ValueId} {target1 target2 : Target}

/-- Where a variable holds addresses in two states that exist side by side and whose memories have a
join, it holds an address of an object in the joint memory, unless list nodes may be folded and
nodes of both states hold the addresses as well. -/
theorem Family.pointers_stay (family : Family states supply) (inside1 : state ∈ states)
    (inside2 : other ∈ states)
    (defined : state.graph.join options other.graph supply = .ok (.defined dest status) now)
    (held1 : state.graph.heldBy? name range = some value1)
    (held2 : other.graph.heldBy? name range = some value2)
    (leads1 : Join.address? state.graph value1 = some target1)
    (leads2 : Join.address? other.graph value2 = some target2) :
    ∃ value, dest.heldBy? name range = some value ∧
      ((∃ target, dest.target? value = some target ∧ dest.hasObject target.object = true ∧
          target.offset = target1.offset) ∨
        (options.foldLists = true ∧ state.graph.HeldUnnamed value1 ∧
          other.graph.HeldUnnamed value2)) := by
  obtain ⟨there, done, rfl, rfl, rfl⟩ := Graph.join_eq_defined_iff.1 defined
  have finished := (Join.joinAll_ends (Graph.basis options (family.plain.2 state inside1)
    (family.plain.2 other inside2))).of_eq_ok done
  obtain ⟨value, held, kept | ⟨folds, inside⟩⟩ := finished.pointer held1 held2 leads1 leads2
  · exact ⟨value, held, .inl kept⟩
  · exact ⟨value, held, .inr ⟨folds.1, inside⟩⟩

/-- Two linked nodes, where `x` holds the address of the first one and `y` that of the second one.
The names that are drawn start at `next`. -/
def heldTwice (next : Nat) : List Event :=
  [.create .linux64, .perform (.declareGlobal "x" 64), .perform (.declareGlobal "y" 64),
    .perform (.allocate 64 "node"), .perform (.allocate 64 "node"),
    .perform (.write ⟨next + 2⟩ ⟨0, 64⟩ ⟨next + 5⟩), .perform (.write ⟨next + 4⟩ ⟨0, 64⟩ .zero),
    .perform (.write ⟨next⟩ ⟨0, 64⟩ ⟨next + 3⟩), .perform (.write ⟨next + 1⟩ ⟨0, 64⟩ ⟨next + 5⟩)]

/-- Two such lists. -/
def sharedNodes : List Event := heldTwice 1 ++ heldTwice 7

theorem admissible_sharedNodes : AllAdmissible sharedNodes ([], .full) ∧
    (happened sharedNodes ([], .full)).1.length = 2 :=
  ⟨by decide_cbv, by cbv⟩

/-- The lists have a join, in which `y` holds a value that leads nowhere. -/
theorem exists_join_sharedNodes : ∃ dest status now value,
    (built sharedNodes 1).graph.join {} (built sharedNodes 0).graph (builtSupply sharedNodes) =
        .ok (.defined dest status) now ∧
      dest.heldBy? (.global "y") ⟨0, 64⟩ = some value ∧ dest.target? value = none := by
  let lost (dest : Graph) : Bool :=
    (dest.heldBy? (.global "y") ⟨0, 64⟩).any fun value => (dest.target? value).isNone
  have found : ∃ dest status now, (built sharedNodes 1).graph.join {}
      (built sharedNodes 0).graph (builtSupply sharedNodes) = .ok (.defined dest status) now ∧
      lost dest = true :=
    Join.exists_defined_iff.2 (by cbv)
  obtain ⟨dest, status, now, defined, isLost⟩ := found
  obtain ⟨value, held, none⟩ := (Option.any_eq_true _ _).1 isLost
  exact ⟨dest, status, now, value, defined, held, Option.isNone_iff_eq_none.1 none⟩

theorem pointers_stay_sharedNodes : ∃ dest status now,
    (built sharedNodes 1).graph.join {} (built sharedNodes 0).graph (builtSupply sharedNodes) =
      .ok (.defined dest status) now ∧
    ∃ value, dest.heldBy? (.global "x") ⟨0, 64⟩ = some value ∧
      ((∃ target, dest.target? value = some target ∧ dest.hasObject target.object = true ∧
          target.offset = 0) ∨
        (({} : Options).foldLists = true ∧ (built sharedNodes 1).graph.HeldUnnamed ⟨4⟩ ∧
          (built sharedNodes 0).graph.HeldUnnamed ⟨10⟩)) := by
  obtain ⟨admissible, two⟩ := admissible_sharedNodes
  obtain ⟨dest, status, now, -, defined, -⟩ := exists_join_sharedNodes
  exact ⟨dest, status, now, defined, (family_built admissible).pointers_stay
    (built_mem (by rw [two]; decide)) (built_mem (by rw [two]; decide)) defined
    (show (built sharedNodes 1).graph.heldBy? (.global "x") ⟨0, 64⟩ = some ⟨4⟩ by cbv)
    (show (built sharedNodes 0).graph.heldBy? (.global "x") ⟨0, 64⟩ = some ⟨10⟩ by cbv)
    (show Join.address? (built sharedNodes 1).graph ⟨4⟩ = some ⟨⟨3⟩, 0, .region⟩ by cbv)
    (show Join.address? (built sharedNodes 0).graph ⟨10⟩ = some ⟨⟨9⟩, 0, .region⟩ by cbv)⟩

/-- When the nodes are folded after `x` was joined, `y` no longer holds an address. -/
theorem pointer_lost_sharedNodes : AllAdmissible sharedNodes ([], .full) ∧
    (built sharedNodes 1).graph.pointee? (.global "y") ⟨0, 64⟩ = some ⟨5⟩ ∧
    (built sharedNodes 0).graph.pointee? (.global "y") ⟨0, 64⟩ = some ⟨11⟩ ∧
    ∃ dest status now value,
      (built sharedNodes 1).graph.join {} (built sharedNodes 0).graph (builtSupply sharedNodes) =
          .ok (.defined dest status) now ∧
        dest.heldBy? (.global "y") ⟨0, 64⟩ = some value ∧ dest.target? value = none :=
  ⟨admissible_sharedNodes.1, by cbv, by cbv, exists_join_sharedNodes⟩

end State

end ShapeDomain
