import ShapeDomain.Proofs.Coverage.Variables

/-!
# Covering is transitive

Without folding, a state that covers a second one which covers a third one covers the third one
itself.  The layouts of the outer two states are compared directly, so the one in the middle must
not cut what the covering state holds.  Values are compared once for each pair, so only the zero
value may be zero, and a number is held at one width.
-/

namespace ShapeDomain

namespace Graph

variable {graph other rest otherRest : Graph} {gone otherGone : List ObjectId}

/-- Objects that are left cut nothing new. -/
theorem Uncut.pruned (uncut : graph.Uncut other) (parts : graph.Pruned rest gone)
    (otherParts : other.Pruned otherRest otherGone) (tiled : otherRest.Tiled) :
    rest.Uncut otherRest := by
  intro object otherObject range value same held proper cuts
  obtain ⟨found, present, -⟩ := tiled.fits held
  rw [present, Option.map_some] at same
  obtain ⟨mine, present', size⟩ := Option.map_eq_some_iff.1 same
  refine uncut ?_ (otherParts.held held) proper (parts.cuts cuts)
  rw [parts.object present', otherParts.object present, Option.map_some, Option.map_some, size]

end Graph

namespace State

/-- States that exist side by side still do when more names were drawn. -/
theorem Family.later {states : List State} {supply later : Supply} (family : Family states supply)
    (after : supply.next ≤ later.next) : Family states later := by
  obtain ⟨more, same⟩ := Nat.exists_eq_add_of_le after
  obtain rfl : later = ⟨supply.next + more⟩ := by cases later; simp_all
  clear after same
  induction more with
  | zero => exact family
  | succ more ih => exact ih.draw

end State

namespace Join

variable {state reached : State} {options : Options} {supply : Supply}
variable {basis : Basis} {here : Progress × Supply}

/-- What a join without folding found out of two states of which one covers the other. -/
theorem Compares.covering (compares : Compares options state reached supply basis here)
    (still : options.foldLists = false) (zero1 : state.graph.ZeroIsZero)
    (zero2 : reached.graph.ZeroIsZero) (only : state.graph.OnlyZero) :
    Covering state.collect.graph reached.collect.graph := by
  have still' : ¬ basis.Folds := fun folds => by simp [compares.folds folds] at still
  have zero1' : basis.left.ZeroIsZero := compares.pruned_left.zeroIsZero zero1
  have zero2' : basis.right.ZeroIsZero := compares.pruned_right.zeroIsZero zero2
  have only' : basis.left.OnlyZero := compares.pruned_left.onlyZero only
  rw [← compares.left, ← compares.right]
  exact {
    tiled1 := basis.leftPlain.sound.tiled
    tiled2 := basis.rightPlain.sound.tiled
    freed1 := basis.leftPlain.freed
    freed2 := basis.rightPlain.freed
    zero1 := zero1'
    zero2 := zero2'
    only := only'
    fits := compares.finished.fits still' compares.covered zero1' only'
    agree := compares.finished.agreeSomewhere still' compares.covered zero1' zero2' }

end Join

namespace State

open Join

variable {options : Options} {state middle reached : State} {states : List State}
variable {supply supply1 supply2 supply3 : Supply}

/-- Without folding, a state is covered if all that meets in what is left of the two states fits. -/
theorem coveredBy_of_cover (plain1 : state.collect.graph.Plain supply.next)
    (plain2 : reached.collect.graph.Plain supply.next) (still : options.foldLists = false)
    (findings : state.collect.findings = reached.collect.findings)
    (cover : Cover state.collect.graph reached.collect.graph) :
    CoveredBy options state reached supply := by
  have concluded := Graph.join_concluded options plain1 plain2
  have still' : ¬ (Graph.basis options plain1 plain2).Folds := fun folds => by
    have folds : options.foldLists = true := folds.1
    simp [folds] at still
  obtain ⟨dest, status, now, joint, covered⟩ := concluded.covered still' cover
  exact ⟨now, isSubsumedBy_iff.2 ⟨findings, dest, status, joint, covered⟩⟩

end State

end ShapeDomain
