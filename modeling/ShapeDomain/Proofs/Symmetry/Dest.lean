import ShapeDomain.Proofs.Graph.AddPointer
import ShapeDomain.Proofs.Symmetry.Steps

/-!
# The destinations of mirrored joins

Changes of the destinations that track each other keep mirrored joins in step, as long as the
numbers of the destinations stay congruent.
-/

namespace ShapeDomain

namespace Join

variable {scene : Scene} {rename : ValueId → ValueId} {pending pending' : Pending}
variable {here there : Progress × Supply} {except1 except2 : ObjectId → Prop}

/-- A join with another destination. -/
def Progress.withDest (progress : Progress) (dest : Graph) : Progress :=
  { progress with dest := dest }

theorem attemptDest_ok {change : Graph → Except Fault Graph} {next : Graph}
    (done : change here.1.dest = .ok next) :
    attemptDest change here = .ok () (here.1.withDest next, here.2) := by
  unfold attemptDest onDest
  rw [Run.within_apply, Run.attempt_apply_ok done]
  rfl

theorem attemptDest_error {change : Graph → Except Fault Graph} {fault : Fault}
    (refused : change here.1.dest = .error fault) :
    ∃ there, attemptDest change here = .error fault there := by
  unfold attemptDest onDest
  rw [Run.within_apply, Run.attempt_apply_error refused]
  exact ⟨_, rfl⟩

/-- Both destinations are changed. -/
theorem Mirror.withDest (mirror : Mirror scene rename pending here there) {next nextOther : Graph}
    (alike : Graph.Alike scene.shift next nextOther)
    (numbers : Congruent scene.shift pending'.width next nextOther)
    (knows : DestKnows scene.shift.start here.1.leftMap pending'.unpaired here.2.next next) :
    Mirror scene rename pending' (here.1.withDest next, here.2)
      (there.1.withDest nextOther, there.2) :=
  { mirror with
    dest := alike
    numbers := numbers
    knows := knows }

/-- More may be left to be done. -/
theorem Mirror.await (mirror : Mirror scene rename pending here there) (pending' : Pending)
    (wider : ∀ value size, pending.width value size → pending'.width value size)
    (more : ∀ value, pending.unpaired value → pending'.unpaired value) :
    Mirror scene rename pending' here there :=
  { mirror with
    numbers :=
      { mirror.numbers with
        agree := fun value a b first second =>
          (mirror.numbers.agree value a b first second).imp_right <|
            Or.imp_right fun ⟨size, wide, agree⟩ => ⟨size, wider value size wide, agree⟩ }
    knows :=
      { mirror.knows with
        known := fun value something =>
          (mirror.knows.known value something).imp_right <|
            Or.imp_left fun old => ⟨old.1, old.2.imp_right (more value)⟩ } }

theorem later_withDest (next : Graph) :
    Later except1 except2 rename here rename (here.1.withDest next, here.2) :=
  .of_eq (Nat.le_refl _) rfl rfl rfl rfl

theorem twin_modifyDest (mirror : Mirror scene rename pending here there)
    {change changeOther : Graph → Graph}
    (alike : Graph.Alike scene.shift (change here.1.dest) (changeOther there.1.dest))
    (numbers : Congruent scene.shift pending'.width (change here.1.dest)
      (changeOther there.1.dest))
    (knows : DestKnows scene.shift.start here.1.leftMap pending'.unpaired here.2.next
      (change here.1.dest)) :
    Twin scene (modifyDest change) (modifyDest changeOther) rename here there except1 except2
      (fun _ => pending') fun _ _ end1 =>
        end1 = (here.1.withDest (change here.1.dest), here.2) :=
  twin_of_ok rename rfl rfl (later_withDest _) (mirror.withDest alike numbers knows) rfl

theorem twin_attemptDest (pending' : Pending) (mirror : Mirror scene rename pending here there)
    {change changeOther : Graph → Except Fault Graph}
    (tracks : Graph.Tracks scene.shift (change here.1.dest) (changeOther there.1.dest))
    (keeps : ∀ next nextOther, change here.1.dest = .ok next →
      changeOther there.1.dest = .ok nextOther →
      Congruent scene.shift pending'.width next nextOther ∧
        DestKnows scene.shift.start here.1.leftMap pending'.unpaired here.2.next next) :
    Twin scene (attemptDest change) (attemptDest changeOther) rename here there except1 except2
      (fun _ => pending') fun _ _ end1 =>
        ∃ next, change here.1.dest = .ok next ∧ end1 = (here.1.withDest next, here.2) := by
  have together := tracks.isSome_eq
  cases done : change here.1.dest with
  | ok next =>
      cases done' : changeOther there.1.dest with
      | error fault => simp [done, done', Except.toOption] at together
      | ok nextOther =>
          obtain ⟨numbers, knows⟩ := keeps next nextOther done done'
          exact twin_of_ok rename (attemptDest_ok done) (attemptDest_ok done') (later_withDest _)
            (mirror.withDest (tracks.alike done done') numbers knows) ⟨next, rfl, rfl⟩
  | error fault =>
      cases done' : changeOther there.1.dest with
      | ok nextOther => simp [done, done', Except.toOption] at together
      | error fault' =>
          obtain ⟨_, stopped⟩ := attemptDest_error done
          obtain ⟨_, stopped'⟩ := attemptDest_error done'
          exact twin_of_error stopped stopped'

/-! ### What destinations know -/

section Knows

variable {start now : Nat} {map : Correspondence} {unpaired : ValueId → Prop} {dest next : Graph}
variable {shift : Shift} {width : ValueId → Nat → Prop} {other nextOther : Graph}

/-- Of a value without a counterpart that is not drawn yet nothing is known. -/
theorem DestKnows.nothing_of (knows : DestKnows start map unpaired now dest) {value : ValueId}
    (proper : value ≠ .zero) (old : value.index < start → map.value? value = none ∧
      ¬ unpaired value)
    (new : start ≤ value.index → now ≤ value.index) : dest.knowledge value = .nothing := by
  refine Classical.byContradiction fun something => ?_
  rcases knows.known value something with zero | ⟨early, mapped | isUnpaired⟩ | ⟨drawn, before⟩
  · exact proper zero
  · rw [(old early).1] at mapped
    simp at mapped
  · exact (old early).2 isUnpaired
  · exact absurd (new drawn) (Nat.not_le_of_lt before)

/-- A change that keeps all knowledge keeps what a destination knows. -/
theorem DestKnows.of_knowledge (knows : DestKnows start map unpaired now dest)
    (same : ∀ value, next.knowledge value = dest.knowledge value)
    (positive : next.PositiveFields) : DestKnows start map unpaired now next where
  plain value isNumber := by
    rw [Graph.number?, same] at isNumber
    rw [Graph.target?, same]
    exact knows.plain value isNumber
  known value something := knows.known value (same value ▸ something)
  positive := positive

/-- When something new is known of one value, that value was drawn or is to become a counterpart. -/
theorem DestKnows.known_of_ne (knows : DestKnows start map (fun _ => False) now dest)
    {value : ValueId} (drawn : start ≤ value.index → value.index < now)
    (same : ∀ other, other ≠ value → next.knowledge other = dest.knowledge other)
    {other : ValueId} (something : next.knowledge other ≠ .nothing) :
    other = .zero ∨
      (other.index < start ∧
        ((map.value? other).isSome = true ∨ (other = value ∧ other.index < start))) ∨
      (start ≤ other.index ∧ other.index < now) := by
  by_cases equal : other = value
  · by_cases early : other.index < start
    · exact .inr (.inl ⟨early, .inr ⟨equal, early⟩⟩)
    · have late := Nat.le_of_not_lt early
      exact .inr (.inr ⟨late, equal ▸ drawn (equal ▸ late)⟩)
  · rw [same other equal] at something
    rcases knows.known other something with zero | ⟨early, mapped | no⟩ | late
    · exact .inl zero
    · exact .inr (.inl ⟨early, .inl mapped⟩)
    · exact no.elim
    · exact .inr (.inr late)

/-- A value of which nothing was known becomes a number. -/
theorem DestKnows.setNumber (knows : DestKnows start map (fun _ => False) now dest)
    {value : ValueId} (nothing : dest.knowledge value = .nothing)
    (drawn : start ≤ value.index → value.index < now) (number : Int) :
    DestKnows start map (fun other => other = value ∧ other.index < start) now
      (dest.setNumber value number) where
  plain other isNumber := by
    rw [Graph.number?_setNumber] at isNumber
    rw [Graph.target?_setNumber]
    split at isNumber
    case isTrue same =>
      left
      rw [same, Graph.target?, nothing]
      rfl
    case isFalse => exact knows.plain other isNumber
  known other something := by
    refine knows.known_of_ne drawn (fun other different => ?_) something
    rw [Graph.setNumber, Graph.knowledge, Table.get?_insert_of_ne _ different]
    rfl
  positive := knows.positive

/-- Numbers that agree in the width of a value that is about to be held. -/
theorem Congruent.setNumber (congruent : Congruent shift (fun _ _ => False) dest other)
    {value : ValueId} (proper : value ≠ .zero) {a b : Int} {size : Nat}
    (agree : Number.agreeIn a b size = true) :
    Congruent shift (fun held width => held = value ∧ width = size) (dest.setNumber value a)
      (other.setNumber (shift.value value) b) where
  zero := by
    have proper' : ValueId.zero ≠ shift.value value := fun same => by
      rw [← shift.value_zero, shift.value_inj] at same
      exact proper same.symm
    rw [Graph.number?_setNumber, Graph.number?_setNumber, if_neg proper.symm, if_neg proper',
      congruent.zero]
  agree held a' b' first second := by
    rw [Graph.number?_setNumber] at first second
    by_cases same : held = value
    · rw [if_pos same, Option.some.injEq] at first
      rw [if_pos (congrArg shift.value same), Option.some.injEq] at second
      exact .inr (.inr ⟨size, ⟨same, rfl⟩, first ▸ second ▸ agree⟩)
    · rw [if_neg same] at first
      rw [if_neg fun equal => same (shift.value_injective equal)] at second
      rcases congruent.agree held a' b' first second with equal |
        ⟨object, range, there⟩ | ⟨_, no, _⟩
      · exact .inl equal
      · exact .inr (.inl ⟨object, range, there⟩)
      · exact no.elim

/-- A value of which nothing was known becomes an address. -/
theorem DestKnows.putPointer (knows : DestKnows start map (fun _ => False) now dest)
    (pointer : Pointer) (nothing : dest.knowledge pointer.value = .nothing)
    (drawn : start ≤ pointer.value.index → pointer.value.index < now) :
    DestKnows start map (fun other => other = pointer.value ∧ other.index < start) now
      (dest.putPointer pointer) where
  plain other isNumber := by
    rw [Graph.number?_putPointer] at isNumber
    rw [Graph.target?_putPointer]
    split
    case isTrue same =>
      rw [same, Graph.number?, nothing] at isNumber
      simp [Knowledge.nothing] at isNumber
    case isFalse => exact knows.plain other isNumber
  known other something := by
    refine knows.known_of_ne drawn (fun other different => ?_) something
    rw [Graph.knowledge_putPointer, if_neg different]
  positive := knows.positive

end Knows

end Join

end ShapeDomain
