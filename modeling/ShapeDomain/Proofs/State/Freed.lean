import ShapeDomain.Proofs.State.Course

/-!
# Freed memory

Once an object was freed, it is invalid and empty, whatever the program does: no name is drawn
twice, and nothing makes an object valid again.  So every later use of it is found, and so is every
further attempt to free it through one of its addresses.
-/

namespace ShapeDomain

namespace State

variable {here : State × Supply} {object : ObjectId}

/-! ### Freeing -/

/-- An object that was valid once is invalid and empty. -/
structure Dangling (object : ObjectId) (here : State × Supply) : Prop where
  /-- Its name was drawn. -/
  drawn : object.index < here.2.next
  /-- It is not valid. -/
  invalid : here.1.graph.isValid object = false
  /-- It has no fields. -/
  empty : ∀ range, here.1.graph.valueAt? object range = none

/-- The zero value frees nothing. -/
theorem Moment.isZero_eq_false (moment : Moment here) {address : ValueId} {target : Target}
    (leads : here.1.graph.target? address = some target) (proper : target.object ≠ .null) :
    address.isZero = false := by
  rw [Bool.eq_false_iff, Ne, ValueId.isZero, beq_iff_eq]
  rintro rfl
  rw [moment.zero leads] at proper
  exact proper rfl

theorem Moment.ne_null_of_heap (moment : Moment here) (heap : here.1.graph.isHeap object = true) :
    object ≠ .null := by
  rintro rfl
  rw [moment.null] at heap
  simp at heap

/-- An object that can be freed is freed. -/
theorem Moment.dangling_free (moment : Moment here) {address : ValueId}
    (frees : freeable? here.1.graph address = some object) :
    ∃ there, free address here = .ok () there ∧ Dangling object there := by
  obtain ⟨⟨target, leads, rfl, -⟩, heap, valid⟩ := of_freeable frees
  have proper := moment.isZero_eq_false leads (moment.ne_null_of_heap heap)
  obtain ⟨placement, found, -⟩ := (Option.any_eq_true ..).1 valid
  have emptied : (here.1.graph.removeFields (here.1.graph.fieldsOf target.object)).object?
      target.object = some placement.object := by
    rw [Graph.object?, Graph.objects_removeFields, found]
    rfl
  obtain ⟨next, done⟩ : ∃ next, (here.1.graph.removeFields
      (here.1.graph.fieldsOf target.object)).setValid target.object false = .ok next :=
    ⟨_, Graph.setValid_eq_ok emptied⟩
  refine ⟨({ here.1 with graph := next }, here.2), ?_, moment.early_of_valid valid,
    (Graph.isValid_of_setValid _ done _).trans (if_pos rfl), fun range => ?_⟩
  · simp only [free, proper, Bool.false_eq_true, if_false]
    rw [Run.bind_apply_ok (Run.ask_apply _ _), frees]
    exact (Run.bind_apply_ok rfl).trans (attemptGraph_ok done)
  · obtain ⟨old, -, rfl⟩ := (Graph.setValid_eq_ok_iff _).1 done
    exact Graph.valueAt?_removeFieldsOf target.object range

/-- What a step frees is invalid and empty after it. -/
theorem Moment.dangling_of_freed (moment : Moment here) {step : Step}
    (frees : step.freed? here.1.graph = some object) : Dangling object (step.run.finish here) := by
  cases step with
  | draw => simp [Step.freed?] at frees
  | perform operation =>
      cases operation with
      | free address =>
          obtain ⟨there, done, dangling⟩ := moment.dangling_free frees
          have finish : (Step.perform (.free address)).run.finish here = there :=
            (Run.finish_bind_pure ..).trans (by rw [Run.finish, done])
          exact finish ▸ dangling
      | _ => simp [Step.freed?, Operation.freed?] at frees

/-- What dangles goes on to do so. -/
theorem Dangling.step (dangling : Dangling object here) (step : Step) :
    Dangling object (step.run.finish here) := by
  have moved := step.moved here
  have invalid {id : ObjectId} (valid : here.1.graph.isValid id = true) :
    some id ≠ some object := by
    intro same
    rw [Option.some.inj same, dangling.invalid] at valid
    simp at valid
  refine ⟨Nat.lt_of_lt_of_le dangling.drawn moved.time, ?_, fun range => ?_⟩
  · rw [Bool.eq_false_iff]
    intro valid
    exact invalid (step.isValid_before dangling.drawn valid) rfl
  · rcases moved.fate (.inl dangling.drawn) with gone | ⟨-, layout⟩
    · exact gone.valueAt? range
    · rw [Graph.valueAt?_congr (layout fun touches => ?_), dangling.empty range]
      exact invalid (Step.of_touched touches) rfl

theorem Dangling.history (dangling : Dangling object here) (steps : List Step) :
    Dangling object (Run.history Step.run steps here) :=
  history_keeps (Dangling object) dangling fun step _ dangling => dangling.step step

/-! ### Using what was freed -/

theorem mayAccess_of_invalid {graph : Graph} (invalid : graph.isValid object = false)
    (range : BitRange) : mayAccess graph object range = false := by
  rw [mayAccess, invalid]
  cases graph.object? object <;> simp

/-- What goes through and makes a finding. -/
def Finds (finding : Findings → Bool) {α : Type} (computation : Run State α)
    (here : State × Supply) :
    Prop :=
  ∃ result there, computation here = .ok result there ∧ finding there.1.findings = true

/-- A read of an invalid object is found. -/
theorem finds_read (invalid : here.1.graph.isValid object = false) (range : BitRange) :
    Finds Findings.invalidRead (read object range) here := by
  unfold Finds
  unfold read
  rw [Run.bind_apply_ok (Run.ask_apply _ _), mayAccess_of_invalid invalid]
  exact ⟨_, _, rfl, rfl⟩

/-- So is a write. -/
theorem finds_write (invalid : here.1.graph.isValid object = false) (range : BitRange)
    (value : ValueId) : Finds Findings.invalidWrite (write object range value) here := by
  unfold Finds
  unfold write
  rw [Run.bind_apply_ok (Run.ask_apply _ _), mayAccess_of_invalid invalid]
  exact ⟨_, _, rfl, rfl⟩

/-- So is freeing what cannot be freed. -/
theorem finds_free {address : ValueId} (proper : address.isZero = false)
    (none : freeable? here.1.graph address = none) :
    Finds Findings.invalidFree (free address) here := by
  unfold Finds
  unfold free
  simp only [proper, Bool.false_eq_true, if_false]
  rw [Run.bind_apply_ok (Run.ask_apply _ _), none]
  exact ⟨_, _, rfl, rfl⟩

/-! ### Addresses of what was freed -/

/-- A value is an address in an object, or it is no address any more. -/
structure LeadsInto (object : ObjectId) (value : ValueId) (here : State × Supply) : Prop where
  /-- It was drawn. -/
  drawn : value.index < here.2.next
  /-- It leads nowhere else. -/
  inside : ∀ {target : Target}, here.1.graph.target? value = some target → target.object = object

theorem LeadsInto.history {value : ValueId} (into : LeadsInto object value here)
    (steps : List Step) : LeadsInto object value (Run.history Step.run steps here) :=
  history_keeps (LeadsInto object value) into fun step here into =>
    have moved := step.moved here
    ⟨Nat.lt_of_lt_of_le into.drawn moved.time, fun leads =>
      into.inside (moved.address (.inl into.drawn) leads)⟩

theorem Moment.leadsInto (moment : Moment here) {value : ValueId} {target : Target}
    (leads : here.1.graph.target? value = some target) : LeadsInto target.object value here where
  drawn := by
    by_contra late
    rw [moment.addressed (Nat.le_of_not_lt late)] at leads
    simp at leads
  inside leads' := by rw [Option.some.inj (leads'.symm.trans leads)]

/-- Nothing can be freed at an address in an invalid object. -/
theorem LeadsInto.freeable? {value : ValueId} (into : LeadsInto object value here)
    (invalid : here.1.graph.isValid object = false) :
    State.freeable? here.1.graph value = none := by
  cases frees : State.freeable? here.1.graph value with
  | none => rfl
  | some other =>
      obtain ⟨⟨target, leads, rfl, -⟩, -, valid⟩ := of_freeable frees
      rw [into.inside leads, invalid] at valid
      simp at valid

/-! ### Use after free -/

/-- Use after free is always found.  When an object was freed, and whatever the program did after
that, a read or a write of the object is a finding, so is freeing a value that was an address in the
object when it was freed or later, and the object has no fields.  Whatever was found on the way is
still found. -/
theorem use_after_free (machine : Machine) (before later : List Step) {address : ValueId}
    {object : ObjectId}
    (frees : freeable? (reached machine before).1.graph address = some object) :
    let freeing := Step.perform (.free address) :: later
    let now := reached machine (before ++ freeing)
    (∀ range, Finds Findings.invalidRead (read object range) now) ∧
      (∀ range value, Finds Findings.invalidWrite (write object range value) now) ∧
      (∀ between rest, freeing = between ++ rest → ∀ value target,
        (reached machine (before ++ between)).1.graph.target? value = some target →
        target.object = object → Finds Findings.invalidFree (free value) now) ∧
      (∀ range, now.1.graph.valueAt? object range = none) ∧
      ∀ first rest, before ++ freeing = first ++ rest →
        (reached machine first).1.findings.Within now.1.findings := by
  intro freeing now
  have moment := moment_reached machine before
  have dangling : Dangling object now := by
    show Dangling object (reached machine (before ++ freeing))
    rw [reached_append]
    have frees' : (Step.perform (.free address)).freed? (reached machine before).1.graph =
        some object := frees
    exact (moment.dangling_of_freed frees').history later
  have proper : object ≠ .null := moment.ne_null_of_heap (of_freeable frees).2.1
  refine ⟨finds_read dangling.invalid, finds_write dangling.invalid, ?_, dangling.empty, ?_⟩
  · rintro between rest split value target leads rfl
    have moment' := moment_reached machine (before ++ between)
    have nonzero := moment'.isZero_eq_false leads proper
    have rejoin : before ++ freeing = (before ++ between) ++ rest := by
      rw [split, List.append_assoc]
    have into : LeadsInto target.object value now := by
      show LeadsInto target.object value (reached machine (before ++ freeing))
      rw [rejoin, reached_append]
      exact (moment'.leadsInto leads).history rest
    exact finds_free nonzero (into.freeable? dangling.invalid)
  · intro first rest split
    show (reached machine first).1.findings.Within (reached machine (before ++ freeing)).1.findings
    rw [split, reached_append]
    exact findings_history rest (reached machine first)

/-- A node is lost when the function that freed it is left, and its memory and its address are still
useless after that. -/
theorem use_after_free_node :
    let before : List Step := [.perform (.enter "main"), .perform (.declareLocal "p" 64),
      .perform (.allocate 64 "node"), .perform (.write ⟨1⟩ ⟨0, 64⟩ ⟨3⟩)]
    let later : List Step := [.perform (.read ⟨1⟩ ⟨0, 64⟩), .perform .leave]
    let now := reached .linux64 (before ++ .perform (.free ⟨3⟩) :: later)
    now.1.graph.hasObject ⟨2⟩ = false ∧
      Finds Findings.invalidRead (read ⟨2⟩ ⟨0, 64⟩) now ∧
      Finds Findings.invalidWrite (write ⟨2⟩ ⟨0, 64⟩ .zero) now ∧
      Finds Findings.invalidFree (free ⟨3⟩) now := by
  intro before later now
  have frees : freeable? (reached .linux64 before).1.graph ⟨3⟩ = some ⟨2⟩ := by decide
  obtain ⟨reads, writes, freed, -⟩ := use_after_free .linux64 before later frees
  refine ⟨by decide, reads ⟨0, 64⟩, writes ⟨0, 64⟩ .zero, ?_⟩
  exact freed [] _ rfl ⟨3⟩ ⟨⟨2⟩, 0, .region⟩ (by decide) rfl

end State

end ShapeDomain
