import ShapeDomain.Proofs.State.Reading
import ShapeDomain.Proofs.State.Contents
import ShapeDomain.Proofs.State.Freed
import ShapeDomain.Proofs.State.Locals

/-!
# What a refused operation leaves

An operation that stops with a fault leaves the state as it was, with two exceptions.  Where the
address of a place in an unknown object is asked for, the value that was drawn for it stays in the
graph.  And a write to an object whose fields do not fit it, or have bits in common, may stop after
it dropped some of them.
-/

namespace ShapeDomain

namespace Graph

variable {graph : Graph} {object : ObjectId} {size : Nat} {range : BitRange}

/-- The objects of a consistent graph are laid out well, if their fields end at positions. -/
theorem Checked.laidAt (checked : graph.Checked) (reach : graph.InReach) {found : Object}
    (isFound : graph.object? object = some found) : graph.LaidAt object found.size where
  present := ⟨found, isFound, rfl⟩
  fits held := by
    obtain ⟨⟨source, isSource, within⟩, -⟩ := checked.of_held reach held
    obtain rfl := Option.some.inj (isFound.symm.trans isSource)
    exact BitRange.fits_iff.2 ⟨reach.of_held held, within⟩
  apart := checked.eq_or_apart reach

/-- A field can be put where nothing is held but an empty field at its start, which it replaces. -/
theorem LaidAt.exists_addField (laid : graph.LaidAt object size) (fit : range.fits size = true)
    (clear : graph.Clear object range) (value : ValueId) :
    ∃ next, graph.addField ⟨object, range, value⟩ = .ok next := by
  obtain ⟨found, isFound, rfl⟩ := laid.present
  have free : graph.collides ⟨object, range, value⟩ = false := by
    unfold collides
    split
    case h_1 offset content last =>
      exact (clear (valueAt?_eq_some_iff.2 (lastBelow?_mem last))).overlaps_eq_false
    case h_2 => rfl
  have outcome := toOption_addField graph ⟨object, range, value⟩
  rw [isFound, Option.bind_some, fit, free] at outcome
  cases added : graph.addField ⟨object, range, value⟩ with
  | ok next => exact ⟨next, rfl⟩
  | error fault =>
      rw [added] at outcome
      simp only [Except.toOption, Bool.not_true, Bool.false_eq_true, if_false] at outcome
      split at outcome <;> cases outcome

/-- What was not drawn yet is no address. -/
theorem DrawnBefore.target?_of_late {start : Nat} (drawn : graph.DrawnBefore start)
    {value : ValueId} (late : start ≤ value.index) : graph.target? value = none := by
  refine Option.eq_none_iff_forall_ne_some.2 fun place leads => ?_
  have early := drawn.2.1 value (Table.mem_keys_iff.2 (hasValue_of_target? leads))
  omega

end Graph

namespace State

variable {here there : State × Supply} {object : ObjectId} {fault : Fault}

/-- To take an address is refused only for an unknown object, and leaves the value that was
drawn. -/
theorem takeAddress_eq_error {offset : Nat} (fresh : here.1.graph.target? ⟨here.2.next⟩ = none)
    (stopped : takeAddress object offset here = .error fault there) :
    here.1.graph.hasObject object = false ∧ fault = .unknownObject object ∧
      there.1 = { here.1 with graph := here.1.graph.addValue ⟨here.2.next⟩ } := by
  unfold takeAddress at stopped
  rw [Run.bind_apply_ok (Run.ask_apply _ _)] at stopped
  cases found : here.1.graph.addressOf? ⟨object, offset, .region⟩ with
  | some value => simp [found] at stopped
  | none =>
      simp only [found] at stopped
      rw [Run.bind_apply_ok newValue_apply] at stopped
      let valued := here.1.graph.addValue ⟨here.2.next⟩
      let pointer : Pointer := ⟨⟨here.2.next⟩, ⟨object, offset, .region⟩⟩
      cases present : here.1.graph.hasObject object with
      | false =>
          have refused : valued.addPointer pointer = .error (.unknownObject object) := by
            have absent : valued.hasObject pointer.target.object = false := present
            simp [Graph.addPointer, absent, pointer]
          rw [Run.bind_apply_error (attemptGraph_error (by exact refused))] at stopped
          cases stopped
          exact ⟨rfl, rfl, rfl⟩
      | true =>
          have added : valued.addPointer pointer = .ok (valued.putPointer pointer) :=
            Graph.addPointer_eq_ok_iff.2
              ⟨present, .inl ((Graph.target?_addValue ..).trans fresh), rfl⟩
          rw [Run.bind_apply_ok (attemptGraph_ok (by exact added))] at stopped
          cases stopped

/-- To allocate is never refused. -/
theorem allocate_goes_through (drawn : here.1.graph.DrawnBefore here.2.next) (size : Nat)
    (label : String) : ∃ address there, allocate size label here = .ok address there := by
  let middle : State × Supply := ({ here.1 with
    graph := here.1.graph.addHeapObject ⟨here.2.next⟩ (.region size label) }, ⟨here.2.next + 1⟩)
  have same : allocate size label here = takeAddress ⟨here.2.next⟩ 0 middle := rfl
  have fresh : middle.1.graph.target? ⟨middle.2.next⟩ = none :=
    drawn.target?_of_late (Nat.le_succ _)
  cases outcome : takeAddress ⟨here.2.next⟩ 0 middle with
  | ok address there => exact ⟨address, there, same.trans outcome⟩
  | error fault there =>
      have absent := (takeAddress_eq_error fresh outcome).1
      have present : middle.1.graph.hasObject ⟨here.2.next⟩ = true := by
        rw [Graph.hasObject_iff, Graph.object?_addHeapObject, if_pos rfl]
        exact ⟨_, rfl⟩
      rw [present] at absent
      cases absent

/-- To free is never refused. -/
theorem free_goes_through (address : ValueId) (here : State × Supply) :
    ∃ there, free address here = .ok () there := by
  unfold free
  split
  · exact ⟨here, rfl⟩
  · rw [Run.bind_apply_ok (Run.ask_apply _ _)]
    cases frees : freeable? here.1.graph address with
    | none => exact ⟨_, rfl⟩
    | some object =>
        obtain ⟨placement, found, -⟩ := (Option.any_eq_true ..).1 (of_freeable frees).2.2
        have emptied : (here.1.graph.removeFields (here.1.graph.fieldsOf object)).object? object =
            some placement.object := by
          rw [Graph.object?, Graph.objects_removeFields, found]
          rfl
        exact ⟨_, (Run.bind_apply_ok rfl).trans (attemptGraph_ok (Graph.setValid_eq_ok emptied))⟩

/-- A write to an object that is laid out well is never refused. -/
theorem write_goes_through {size : Nat} (laid : here.1.graph.LaidAt object size) (range : BitRange)
    (value : ValueId) : ∃ there, write object range value here = .ok () there := by
  cases allowed : mayAccess here.1.graph object range with
  | false =>
      unfold write
      rw [Run.bind_apply_ok (Run.ask_apply _ _), allowed]
      exact ⟨_, rfl⟩
  | true =>
      have fit := laid.fits_of_mayAccess allowed
      obtain ⟨cut, done, laid', holds⟩ := forM_overwrite_overlapping laid fit
      have clear : (cut.addValue value).Clear object range := by
        intro other held isHeld
        rcases holds.1 isHeld with ⟨-, apart⟩ | ⟨old, -, isOld, meet, member⟩
        · exact apart
        · exact (BitRange.isRest_of_mem fit (laid.fits isOld) meet member).apart
      have valued : (cut.addValue value).LaidAt object size :=
        ⟨laid'.present, laid'.fits, laid'.apart⟩
      obtain ⟨next, added⟩ := valued.exists_addField fit clear value
      exact ⟨_, write_of_overwrite allowed done added⟩

/-- A write that is not allowed is a finding, and is not refused. -/
theorem mayAccess_of_write_eq_error {range : BitRange} {value : ValueId}
    (refused : write object range value here = .error fault there) :
    mayAccess here.1.graph object range = true := by
  cases allowed : mayAccess here.1.graph object range with
  | true => rfl
  | false =>
      unfold write at refused
      rw [Run.bind_apply_ok (Run.ask_apply _ _), allowed] at refused
      cases refused

/-- What an operation that stops with a fault leaves of a state whose names were drawn.  The state
is as it was; or the address of a place in an unknown object was asked for, and the value that was
drawn for it is left; or there was a write to an object whose fields do not fit it or have bits in
common, which is not so in a consistent graph whose fields end at positions, and then nothing has
changed but fields of that object. -/
theorem refused_leaves (here : State × Supply) (operation : Operation)
    (drawn : here.1.graph.DrawnBefore here.2.next)
    (stopped : operation.perform here = .error fault there) :
    there.1 = here.1 ∨
      (∃ object offset, operation = .takeAddress object offset ∧
        here.1.graph.hasObject object = false ∧ fault = .unknownObject object ∧
        there.1 = { here.1 with graph := here.1.graph.addValue ⟨here.2.next⟩ }) ∨
      ∃ object range value, operation = .write object range value ∧
        (∀ size, ¬ here.1.graph.LaidAt object size) ∧
        (here.1.graph.Consistent → ¬ here.1.graph.InReach) ∧
        there.1.findings = here.1.findings ∧ Calm none (some object) here there := by
  cases operation with
  | enter | declareGlobal | assign | collect => cases stopped
  | leave =>
      rw [Operation.perform, Run.bind_apply_ok (Run.ask_apply _ _)] at stopped
      cases left : here.1.leave <;> rw [left] at stopped <;> cases stopped
  | declareLocal name size =>
      left
      have refused := Run.bind_pure_eq_error_iff.1 stopped
      cases outcome : here.1.graph.declareLocal name ⟨here.2.next⟩ (.region size name) with
      | ok next => rw [declareLocal_of_ok outcome] at refused; cases refused
      | error fault => rw [declareLocal_of_error outcome] at refused; cases refused; rfl
  | allocate size label =>
      obtain ⟨address, next, done⟩ := allocate_goes_through drawn size label
      rw [Operation.perform, Run.bind_pure_eq_error_iff, done] at stopped
      cases stopped
  | free address =>
      obtain ⟨next, done⟩ := free_goes_through address here
      rw [Operation.perform, Run.bind_apply_ok done] at stopped
      cases stopped
  | takeAddress object offset =>
      exact .inr (.inl ⟨object, offset, rfl, takeAddress_eq_error
        (drawn.target?_of_late (Nat.le_refl _)) (Run.bind_pure_eq_error_iff.1 stopped)⟩)
  | read object range =>
      obtain ⟨value, next, done, -⟩ := read_cases object range here
      rw [Operation.perform, Run.bind_pure_eq_error_iff, done] at stopped
      cases stopped
  | write object range value =>
      have refused : write object range value here = .error fault there :=
        Run.bind_pure_eq_error_iff.1 stopped
      have allowed := mayAccess_of_write_eq_error refused
      have untidy (size : Nat) : ¬ here.1.graph.LaidAt object size := fun laid => by
        obtain ⟨next, done⟩ := write_goes_through laid range value
        rw [done] at refused
        cases refused
      obtain ⟨found, isFound, -⟩ := exists_of_mayAccess allowed
      refine .inr (.inr ⟨object, range, value, rfl, untidy, fun consistent reach =>
        untidy _ (consistent.checked.laidAt reach isFound), ?_, ?_⟩)
      · have findings := findings_write allowed value
        rwa [Run.finish, refused] at findings
      · have calm := (calms_write object range value).of_eq_error refused
        rwa [accessed?, if_pos allowed] at calm

/-- No variable can be declared once the only function was left, and the attempt leaves the state as
it was. -/
theorem refused_leaves_outside :
    let here := reached .linux64 [.perform (.enter "main"), .perform (.declareLocal "x" 64),
      .perform (.write ⟨1⟩ ⟨0, 32⟩ .zero), .perform .leave]
    here.1.graph.DrawnBefore here.2.next ∧
      ∃ fault there, (Operation.declareLocal "y" 64).perform here = .error fault there ∧
        there.1 = here.1 := by
  intro here
  have drawn : here.1.graph.DrawnBefore here.2.next := by decide
  refine ⟨drawn, _, _, rfl, ?_⟩
  rcases refused_leaves here (.declareLocal "y" 64) drawn rfl with
    same | ⟨_, _, other, -⟩ | ⟨_, _, _, other, -⟩
  · exact same
  · cases other
  · cases other

/-- The address of a variable cannot be taken once its function was left, but the attempt leaves a
value. -/
theorem refused_changes_outside :
    let here := reached .linux64 [.perform (.enter "main"), .perform (.declareLocal "x" 64),
      .perform .leave]
    ∃ fault there, (Operation.takeAddress ⟨1⟩ 0).perform here = .error fault there ∧
      there.1 ≠ here.1 :=
  ⟨_, _, rfl, by decide⟩

end State

end ShapeDomain
