import Mathlib
import ShapeDomain.Proofs.Coverage.Finished
import ShapeDomain.Proofs.State.Family
import ShapeDomain.Proofs.Symmetry.Graphs

/-!
# Folding does not change how graphs relate

Whether list nodes are folded does not change what the join of two graphs says about them: if it is
defined both with and without folding, then the status is the same.  In both joins all objects that
meet are joined, so that the left graph is covered exactly if it says as much as the right one; the
right graph is the left one of the mirrored joins.
-/

namespace ShapeDomain

theorem Status.eq_of_covered {status other : Status}
    (left : status.leftIsCovered = other.leftIsCovered)
    (right : status.mirror.leftIsCovered = other.mirror.leftIsCovered) : status = other := by
  cases status <;> cases other <;> simp_all [leftIsCovered, mirror]

namespace Join

variable {basis : Basis} {setting : Setting} {here there : Progress × Supply}
variable {object1 object2 : ObjectId}

/-! ### What a status says -/

/-- No object meets two. -/
def MeetOnce (left right : Graph) : Prop :=
  ∀ {object1 object2 other1 other2}, Met left right object1 object2 →
    Met left right other1 other2 → (object1 = other1 ↔ object2 = other2)

/-- If no object meets two, then objects that meet are joined with each other, even where list nodes
are folded. -/
theorem Finished.settled_of_meetOnce (finished : Finished basis here)
    (once : MeetOnce basis.left basis.right) (met : Met basis.left basis.right object1 object2) :
    Settled basis here.1 object1 object2 := by
  induction met with
  | named named1 named2 =>
      obtain ⟨image, rooted⟩ := finished.rooted named1 named2
      exact rooted.settled
  | @address object1 object2 range cell1 cell2 target1 target2 met is1 is2 leads1 leads2 proper1
      proper2 ih =>
      obtain ⟨value1, value2, value, joined⟩ := ih.exists_joined is1 is2
      rcases joined.address_cases finished.invariant with
        ⟨none1, -⟩ | ⟨place1, place2, image, leads1', -, -, left, -⟩
      · rw [leads1] at none1
        simp at none1
      · rw [leads1, Option.some.injEq] at leads1'
        subst leads1'
        rw [image?_of_proper proper1] at left
        obtain ⟨other2, -, met', settled⟩ := finished.invariant.partners.joined
          (Option.isSome_iff_exists.2 ⟨image, left⟩) (by simp)
        obtain rfl := (once (.address met is1 is2 leads1 leads2 proper1 proper2) met').1 rfl
        exact settled

/-- If no object meets two, then the left graph is covered exactly if it says as much as the right
one. -/
theorem Finished.leftIsCovered_iff (finished : Finished basis here)
    (once : MeetOnce basis.left basis.right) :
    here.1.status.leftIsCovered = true ↔ Informed basis.left basis.right := by
  refine ⟨fun covered => ⟨fun met => (finished.settled_of_meetOnce once met).whole covered,
    fun compared proper noAddress isNumber => ?_⟩, finished.invariant.partners.covered⟩
  obtain ⟨object1, object2, met, is1, is2⟩ := compared
  obtain ⟨value1, value2, value, joined⟩ :=
    (finished.settled_of_meetOnce once met).exists_joined is1 is2
  rcases joined.known finished.invariant covered noAddress isNumber with
    zeros | ⟨number1, -, isNumber1, -⟩
  · exact absurd zeros proper
  · exact Option.isSome_iff_exists.2 ⟨number1, isNumber1⟩

/-! ### Mirrored joins -/

/-- What a join starts from, with the graphs exchanged. -/
def Basis.mirror (basis : Basis) : Basis where
  left := basis.right
  right := basis.left
  setting := basis.setting
  start := basis.start
  leftPlain := basis.rightPlain
  rightPlain := basis.leftPlain

/-- Two plain graphs whose joins are mirrored. -/
def Basis.scene (basis : Basis) : Scene where
  left := basis.left
  right := basis.right
  shift := .between ⟨basis.start⟩ ⟨basis.start⟩ basis.leftPlain.positive
  leftOrigin := basis.leftPlain.drawn.origin (Graph.check_eq_ok_iff.2 basis.leftPlain.sound.checked)
  rightOrigin :=
    basis.rightPlain.drawn.origin (Graph.check_eq_ok_iff.2 basis.rightPlain.sound.checked)
  leftShallow := basis.leftPlain.tame.shallow
  rightShallow := basis.rightPlain.tame.shallow

/-- With the graphs exchanged, a join ends with the mirrored status. -/
theorem joinAll_mirror (basis : Basis)
    (done : joinAll setting (.start basis.left basis.right, ⟨basis.start⟩) = .ok true here) :
    ∃ there, joinAll setting (.start basis.right basis.left, ⟨basis.start⟩) = .ok true there ∧
      there.1.status = here.1.status.mirror := by
  have supplies : basis.scene.shift.Supplies ⟨basis.start⟩ ⟨basis.start⟩ :=
    ⟨Nat.le_refl _, (Nat.add_sub_cancel' (Nat.le_refl _)).symm⟩
  have mirror := mirror_start basis.scene supplies basis.leftPlain.sound.tiled
    basis.rightPlain.sound.tiled (fun _ _ _ held => basis.leftPlain.held_lt held)
    (fun _ _ _ held => basis.rightPlain.held_lt held)
  rcases Run.Matches.cases (twin_joinAll mirror setting) with
    ⟨joined, end1, joined', end2, done1, done2, rename, -, ends, same⟩ |
    ⟨fault, end1, fault', end2, stopped1, -⟩
  · obtain ⟨rfl, rfl⟩ := EStateM.Result.ok.inj (done1.symm.trans done)
    exact ⟨end2, same ▸ done2, ends.status⟩
  · exact absurd (stopped1.symm.trans done) (by simp)

/-! ### With and without folding -/

/-- If a join without folding is defined, then any other join of the graphs that is defined says the
same about whether the left graph is covered. -/
theorem leftIsCovered_eq (still : ¬ basis.Folds)
    (done : joinAll basis.setting (.start basis.left basis.right, ⟨basis.start⟩) = .ok true here)
    (done' : joinAll setting (.start basis.left basis.right, ⟨basis.start⟩) = .ok true there) :
    there.1.status.leftIsCovered = here.1.status.leftIsCovered := by
  have finished : Finished basis here := (joinAll_ends basis).of_eq_ok done
  have finished' : Finished { basis with setting := setting } there :=
    (joinAll_ends { basis with setting := setting }).of_eq_ok done'
  have once : MeetOnce basis.left basis.right := finished.oneToOne still
  rw [Bool.eq_iff_iff, finished.leftIsCovered_iff once, finished'.leftIsCovered_iff once]

/-- Then it has the same status. -/
theorem status_eq (still : ¬ basis.Folds)
    (done : joinAll basis.setting (.start basis.left basis.right, ⟨basis.start⟩) = .ok true here)
    (done' : joinAll setting (.start basis.left basis.right, ⟨basis.start⟩) = .ok true there) :
    there.1.status = here.1.status := by
  obtain ⟨here2, done2, status⟩ := joinAll_mirror basis done
  obtain ⟨there2, done2', status'⟩ := joinAll_mirror basis done'
  refine Status.eq_of_covered (leftIsCovered_eq still done done') ?_
  rw [← status, ← status']
  exact @leftIsCovered_eq basis.mirror setting here2 there2 still done2 done2'

end Join

namespace State

variable {options : Options} {state other : State} {supply now now' : Supply} {states : List State}
variable {outcome outcome' : Join.Outcome}

/-- If the memories of two states that exist side by side have a join both with and without folding
list nodes, then they relate in the same way. -/
theorem Family.status_with_folding (family : Family states supply) (inside1 : state ∈ states)
    (inside2 : other ∈ states)
    (folding : state.graph.join { options with foldLists := true } other.graph supply =
      .ok outcome now)
    (still : state.graph.join { options with foldLists := false } other.graph supply =
      .ok outcome' now')
    (defined : outcome.isDefined = true) (defined' : outcome'.isDefined = true) :
    outcome.status = outcome'.status := by
  cases outcome with
  | undefined => simp [Join.Outcome.isDefined] at defined
  | defined dest status =>
      cases outcome' with
      | undefined => simp [Join.Outcome.isDefined] at defined'
      | defined dest' status' =>
          obtain ⟨there, done, -, rfl, -⟩ := Graph.join_eq_defined_iff.1 folding
          obtain ⟨there', done', -, rfl, -⟩ := Graph.join_eq_defined_iff.1 still
          let basis := Graph.basis { options with foldLists := false }
            (family.plain.2 state inside1) (family.plain.2 other inside2)
          have still : ¬ basis.Folds := by
            rintro ⟨folds, -⟩
            exact absurd folds Bool.false_ne_true
          exact Join.status_eq still done' done

/-- Two linked nodes, where `x` holds the address of the first one.  The names that are drawn start
at `next`. -/
def heldOnce (next : Nat) : List Event :=
  [.create .linux64, .perform (.declareGlobal "x" 64), .perform (.allocate 64 "node"),
    .perform (.allocate 64 "node"), .perform (.write ⟨next + 1⟩ ⟨0, 64⟩ ⟨next + 4⟩),
    .perform (.write ⟨next + 3⟩ ⟨0, 64⟩ .zero), .perform (.write ⟨next⟩ ⟨0, 64⟩ ⟨next + 2⟩)]

/-- Two such lists. -/
def apartNodes : List Event := heldOnce 1 ++ heldOnce 6

theorem admissible_apartNodes : AllAdmissible apartNodes ([], .full) ∧
    (happened apartNodes ([], .full)).1.length = 2 :=
  ⟨by decide_cbv, by cbv⟩

theorem status_with_folding_apartNodes : ∃ dest status now dest' status' now',
    (built apartNodes 1).graph.join { ({} : Options) with foldLists := true }
      (built apartNodes 0).graph (builtSupply apartNodes) = .ok (.defined dest status) now ∧
    (built apartNodes 1).graph.join { ({} : Options) with foldLists := false }
      (built apartNodes 0).graph (builtSupply apartNodes) = .ok (.defined dest' status') now' ∧
    status = status' := by
  obtain ⟨admissible, two⟩ := admissible_apartNodes
  have folding : ∃ dest status now, (built apartNodes 1).graph.join
      { ({} : Options) with foldLists := true } (built apartNodes 0).graph
        (builtSupply apartNodes) =
        .ok (.defined dest status) now := ⟨_, _, _, by cbv⟩
  have still : ∃ dest status now, (built apartNodes 1).graph.join
      { ({} : Options) with foldLists := false } (built apartNodes 0).graph
        (builtSupply apartNodes) =
        .ok (.defined dest status) now := ⟨_, _, _, by cbv⟩
  obtain ⟨dest, status, now, folding⟩ := folding
  obtain ⟨dest', status', now', still⟩ := still
  exact ⟨dest, status, now, dest', status', now', folding, still,
    (family_built admissible).status_with_folding (built_mem (by rw [two]; decide))
      (built_mem (by rw [two]; decide)) folding still rfl rfl⟩

/-- Two linked nodes, where `x` holds the addresses of both.  The names that are drawn start at
`next`. -/
def heldBeside (next : Nat) : List Event :=
  [.create .linux64, .perform (.declareGlobal "x" 128), .perform (.allocate 64 "node"),
    .perform (.allocate 64 "node"), .perform (.write ⟨next + 1⟩ ⟨0, 64⟩ ⟨next + 4⟩),
    .perform (.write ⟨next + 3⟩ ⟨0, 64⟩ .zero), .perform (.write ⟨next⟩ ⟨0, 64⟩ ⟨next + 2⟩),
    .perform (.write ⟨next⟩ ⟨64, 64⟩ ⟨next + 4⟩)]

/-- Two such lists. -/
def besideNodes : List Event := heldBeside 1 ++ heldBeside 6

/-- Two linked nodes, where `x` holds the address of the first one and `y` an address inside the one
at `offset` from it.  The names that are drawn start at `next`. -/
def heldInside (next offset : Nat) : List Event :=
  [.create .linux64, .perform (.declareGlobal "x" 64), .perform (.declareGlobal "y" 64),
    .perform (.allocate 64 "node"), .perform (.allocate 64 "node"),
    .perform (.write ⟨next + 2⟩ ⟨0, 64⟩ ⟨next + 5⟩), .perform (.write ⟨next + 4⟩ ⟨0, 64⟩ .zero),
    .perform (.takeAddress ⟨next + 2 + offset⟩ 32), .perform (.write ⟨next⟩ ⟨0, 64⟩ ⟨next + 3⟩),
    .perform (.write ⟨next + 1⟩ ⟨0, 64⟩ ⟨next + 6⟩)]

/-- Two such lists, where `y` leads into the first node of the one and the second node of the
other. -/
def insideNodes : List Event := heldInside 1 0 ++ heldInside 8 2

/-- Beside each other, the nodes are to be folded once the first address is joined, and no longer
can be once the second one is.  Where `y` leads into different nodes, both of its addresses lead
into the segment once the nodes are folded. -/
theorem folding_changes_definedness :
    (AllAdmissible besideNodes ([], .full) ∧
      (∃ now, (built besideNodes 1).graph.join {} (built besideNodes 0).graph
        (builtSupply besideNodes) = .ok .undefined now) ∧
      ∃ dest now, (built besideNodes 1).graph.join { foldLists := false }
        (built besideNodes 0).graph (builtSupply besideNodes) = .ok (.defined dest .equal) now) ∧
    AllAdmissible insideNodes ([], .full) ∧
      (∃ dest now, (built insideNodes 1).graph.join {} (built insideNodes 0).graph
        (builtSupply insideNodes) = .ok (.defined dest .equal) now) ∧
      ∃ now, (built insideNodes 1).graph.join { foldLists := false } (built insideNodes 0).graph
        (builtSupply insideNodes) = .ok .undefined now :=
  ⟨⟨by decide_cbv, ⟨_, by cbv⟩, ⟨_, _, by cbv⟩⟩, by decide_cbv, ⟨_, _, by cbv⟩, ⟨_, by cbv⟩⟩

end State

end ShapeDomain
