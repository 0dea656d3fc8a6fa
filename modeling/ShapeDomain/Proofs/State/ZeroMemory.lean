import ShapeDomain.Proofs.State.Contents
import ShapeDomain.Proofs.State.Locals

/-!
# Zero memory

Reads and writes of an object tell exactly which of its bits are zero: those whose most recent write
stored zero.  And a range that was written as a whole, and not touched by a later write, is read
back.
-/

namespace ShapeDomain

namespace State

/-! ### What was written -/

namespace Step

/-- The write to an object, within its bounds, that a step is. -/
def write? (object : ObjectId) (size : Nat) : Step → Option (BitRange × ValueId)
  | perform (.write target range value) =>
      if target = object ∧ range.fits size = true then some (range, value) else none
  | _ => none

/-- A step accesses at least one bit, if it reads or writes. -/
def Positive : Step → Prop
  | perform (.read _ range) => 0 < range.size
  | perform (.write _ range _) => 0 < range.size
  | _ => True

instance (step : Step) : Decidable step.Positive := by
  unfold Positive
  split <;> infer_instance

end Step

/-- The writes to an object, within its bounds, among several steps, the most recent one first. -/
def writes (object : ObjectId) (size : Nat) (steps : List Step) : List (BitRange × ValueId) :=
  (steps.filterMap (Step.write? object size)).reverse

/-- The value that the most recent of several writes to a bit stored. -/
def lastStored? (writes : List (BitRange × ValueId)) (bit : Nat) : Option ValueId :=
  (writes.find? fun written => decide (written.1.Has bit)).map Prod.snd

/-- The most recent of several writes that overlaps a range. -/
def lastOverlapping? (writes : List (BitRange × ValueId)) (range : BitRange) :
    Option (BitRange × ValueId) :=
  writes.find? fun written => written.1.overlaps range

/-- An object of a size is made by a declaration or by an allocation. -/
inductive Makes (object : ObjectId) (size : Nat) (here there : State × Supply) : Prop where
  /-- A global variable is declared. -/
  | global {name : String} : declareGlobal name size here = .ok object there →
      Makes object size here there
  /-- A variable of the innermost function is declared. -/
  | inner {name : String} : declareLocal name size here = .ok object there →
      Makes object size here there
  /-- A heap region is allocated, whose address is returned. -/
  | heap {label : String} {address : ValueId} : allocate size label here = .ok address there →
      placeOf there.1 address = some (object, 0) → Makes object size here there

/-! ### What is remembered -/

/-- The contents of an object tell what was written to it. -/
structure Remembers (object : ObjectId) (size : Nat) (past : List (BitRange × ValueId))
    (here : State × Supply) : Prop where
  /-- Its name was drawn. -/
  drawn : object.index < here.2.next
  /-- It is a valid region. -/
  region : ∃ label heap, here.1.graph.objects.get? object =
    some ⟨.region size label, true, heap⟩
  /-- Its fields are apart from each other. -/
  tiled : here.1.graph.TiledAt object size
  /-- Its zero bits are those whose most recent write stored zero. -/
  zero : ∀ bit, ZeroBit here.1.graph object bit ↔ lastStored? past bit = some .zero
  /-- It holds what was written to a range that no later write overlaps. -/
  latest : ∀ {range value}, 0 < range.size → range.fits size = true →
    lastOverlapping? past range = some (range, value) →
    here.1.graph.valueAt? object range = some value

section Remembers

variable {object : ObjectId} {size : Nat} {past : List (BitRange × ValueId)}
variable {here there : State × Supply}

/-- Every range within a valid region may be accessed. -/
theorem Remembers.mayAccess (remembers : Remembers object size past here) {range : BitRange}
    (fits : range.fits size = true) : mayAccess here.1.graph object range = true := by
  obtain ⟨label, heap, placement⟩ := remembers.region
  exact mayAccess_of_region placement fits

/-- A region of which nothing is held yet. -/
theorem remembers_new {label : String} {heap : Bool} (drawn : object.index < here.2.next)
    (placement : here.1.graph.objects.get? object = some ⟨.region size label, true, heap⟩)
    (bare : here.1.graph.layout object = ∅) : Remembers object size [] here := by
  have nothing (range : BitRange) (value : ValueId) :
      here.1.graph.valueAt? object range ≠ some value := by
    rw [Graph.valueAt?, bare, Table.get?_empty]
    simp
  refine ⟨drawn, ⟨label, heap, placement⟩, ⟨?_, fun held => absurd held (nothing _ _),
    fun held => absurd held (nothing _ _), fun held => absurd held (nothing _ _)⟩,
      fun bit => ?_, ?_⟩
  · exact ⟨.region size label, by rw [Graph.object?, placement]; rfl, rfl⟩
  · refine iff_of_false ?_ (by simp [lastStored?])
    rintro ⟨range, held, -⟩
    exact nothing range .zero held
  · intro range value _ _ found
    simp [lastOverlapping?] at found

/-- An address that is taken leads to its place. -/
theorem target?_of_takeAddress {offset : Nat} {address : ValueId}
    (taken : takeAddress object offset here = .ok address there) :
    there.1.graph.target? address = some ⟨object, offset, .region⟩ := by
  unfold takeAddress at taken
  rw [Run.bind_apply_ok (Run.ask_apply _ _)] at taken
  cases found : here.1.graph.addressOf? ⟨object, offset, .region⟩ with
  | some value =>
      rw [found] at taken
      cases taken
      exact Graph.target?_of_addressOf? found
  | none =>
      rw [found] at taken
      simp only at taken
      rw [Run.bind_apply_ok newValue_apply] at taken
      cases outcome : (here.1.graph.addValue ⟨here.2.next⟩).addPointer
          ⟨⟨here.2.next⟩, ⟨object, offset, .region⟩⟩ with
      | error fault =>
          rw [Run.bind_apply_error (attemptGraph_error (by exact outcome))] at taken
          simp at taken
      | ok next =>
          rw [Run.bind_apply_ok (attemptGraph_ok (by exact outcome))] at taken
          cases taken
          exact (Graph.target?_of_addPointer _ outcome _).trans (if_pos rfl)

/-- What was just made remembers nothing. -/
theorem Moment.remembers (moment : Moment here) (made : Makes object size here there) :
    Remembers object size [] there := by
  have absent : here.1.graph.objects.get? ⟨here.2.next⟩ = none := moment.placed (Nat.le_refl _)
  have bare : here.1.graph.layout ⟨here.2.next⟩ = ∅ := moment.laid (Nat.le_refl _)
  have placed (object : Object) :
      (here.1.graph.addObject ⟨here.2.next⟩ object).objects.get? ⟨here.2.next⟩ =
        some ⟨object, true, false⟩ := by
    rw [Graph.addObject, absent]
    exact Table.get?_insert_self ..
  cases made with
  | global declared =>
      cases declared
      exact remembers_new (Nat.lt_succ_self _) (placed _) bare
  | @inner name declared =>
      cases outcome : here.1.graph.declareLocal name ⟨here.2.next⟩ (.region size name) with
      | error fault => simp [declareLocal_of_error outcome] at declared
      | ok next =>
          rw [declareLocal_of_ok outcome] at declared
          cases declared
          obtain ⟨frame, outer, -, rfl⟩ := Graph.declareLocal_eq_ok outcome
          exact remembers_new (Nat.lt_succ_self _) (placed _) bare
  | @heap label address allocated place =>
      -- The address of the new region is taken once the region is in the heap.
      let middle : State × Supply := ({ here.1 with
        graph := here.1.graph.addHeapObject ⟨here.2.next⟩ (.region size label) },
        ⟨here.2.next + 1⟩)
      have taken : takeAddress ⟨here.2.next⟩ 0 middle = .ok address there := allocated
      have calms : Calms none none (takeAddress ⟨here.2.next⟩ 0) middle := calms_takeAddress _ _
      have calm := calms.of_eq_ok taken
      obtain ⟨target, leads, same⟩ := Option.map_eq_some_iff.1 place
      rw [target?_of_takeAddress taken] at leads
      obtain rfl := Option.some.inj leads
      obtain rfl := (Prod.mk.inj same).1
      have early : NotDrawn middle there here.2.next := .inl (Nat.lt_succ_self _)
      have inHeap : middle.1.graph.objects.get? ⟨here.2.next⟩ =
          some ⟨.region size label, true, true⟩ := by
        show (here.1.graph.addHeapObject _ _).objects.get? _ = _
        rw [Graph.addHeapObject, absent]
        exact Table.get?_insert_self ..
      exact remembers_new (Nat.lt_of_lt_of_le (Nat.lt_succ_self _) calm.time)
        ((calm.placement early (by simp)).trans inHeap)
        ((calm.layout early (by simp)).trans bare)

/-- To make an object is a step. -/
theorem Makes.moment (made : Makes object size here there) (moment : Moment here) :
    Moment there := by
  have after {operation : Operation} (finish : operation.perform.finish here = there) :
      Moment there := finish ▸ moment.step (.perform operation)
  cases made with
  | @global name declared =>
      exact @after (.declareGlobal name size)
        ((Run.finish_bind_pure ..).trans (by rw [Run.finish, declared]))
  | @inner name declared =>
      exact @after (.declareLocal name size)
        ((Run.finish_bind_pure ..).trans (by rw [Run.finish, declared]))
  | @heap label address allocated =>
      exact @after (.allocate size label)
        ((Run.finish_bind_pure ..).trans (by rw [Run.finish, allocated]))

/-! ### What a step changes -/

theorem lastStored?_cons (written : BitRange × ValueId) (bit : Nat) :
    lastStored? (written :: past) bit =
      if written.1.Has bit then some written.2 else lastStored? past bit := by
  unfold lastStored?
  rw [List.find?_cons]
  by_cases has : written.1.Has bit <;> simp [has]

theorem lastOverlapping?_cons (written : BitRange × ValueId) (range : BitRange) :
    lastOverlapping? (written :: past) range =
      if written.1.overlaps range then some written else lastOverlapping? past range := by
  unfold lastOverlapping?
  rw [List.find?_cons]
  cases written.1.overlaps range <;> rfl

/-- Where all fields stay and no zero is added, no write is remembered. -/
theorem Remembers.of_kept (remembers : Remembers object size past here)
    (time : here.2.next ≤ there.2.next)
    (placement : there.1.graph.objects.get? object = here.1.graph.objects.get? object)
    (tiled : there.1.graph.TiledAt object size)
    (keeps : ∀ {range value}, here.1.graph.valueAt? object range = some value →
      there.1.graph.valueAt? object range = some value)
    (zeros : ∀ {range}, there.1.graph.valueAt? object range = some .zero →
      here.1.graph.valueAt? object range = some .zero) :
    Remembers object size past there where
  drawn := Nat.lt_of_lt_of_le remembers.drawn time
  region := placement ▸ remembers.region
  tiled := tiled
  zero bit := by
    rw [← remembers.zero bit]
    constructor
    · rintro ⟨old, held, has⟩
      exact ⟨old, zeros held, has⟩
    · rintro ⟨old, held, has⟩
      exact ⟨old, keeps held, has⟩
  latest bits fits last := keeps (remembers.latest bits fits last)

/-- A write is remembered. -/
theorem Remembers.of_written (remembers : Remembers object size past here) {range : BitRange}
    {value : ValueId} (fit : range.fits size = true) (time : here.2.next ≤ there.2.next)
    (placement : there.1.graph.objects.get? object = here.1.graph.objects.get? object)
    (tiled : there.1.graph.TiledAt object size)
    (written : Written object range value here.1.graph there.1.graph) :
    Remembers object size ((range, value) :: past) there where
  drawn := Nat.lt_of_lt_of_le remembers.drawn time
  region := placement ▸ remembers.region
  tiled := tiled
  zero bit := by
    rw [written.zeroBit_iff, lastStored?_cons]
    split
    · simp
    · exact remembers.zero bit
  latest {other held} bits fits last := by
    rw [lastOverlapping?_cons] at last
    split at last
    case isTrue =>
      obtain ⟨rfl, rfl⟩ := Prod.mk.inj (Option.some.inj last)
      exact written.here
    case isFalse apart =>
      refine written.apart (remembers.latest bits fits last) ?_
      by_contra meet
      exact apart ((BitRange.overlaps_iff_not_apart fit fits).2 fun apart => meet apart.symm)

/-- Nothing else changes the contents of an object that stays valid. -/
theorem Remembers.step (remembers : Remembers object size past here) (moment : Moment here)
    {step : Step} (positive : step.Positive)
    (valid : (step.run.finish here).1.graph.isValid object = true) :
    Remembers object size ((step.write? object size).toList ++ past) (step.run.finish here) := by
  have moved := step.moved here
  have notFreed : step.freed? here.1.graph ≠ some object := fun frees => by
    rw [(moment.dangling_of_freed frees).invalid] at valid
    simp at valid
  obtain ⟨placement, layout⟩ := (moved.fate (.inl remembers.drawn)).resolve_left fun gone => by
    rw [gone.isValid] at valid
    simp at valid
  have stays := placement notFreed
  by_cases touches : step.touched? here.1.graph = some object
  case neg =>
    have silent : step.write? object size = none := by
      cases written : step.write? object size with
      | none => rfl
      | some pair =>
          refine absurd ?_ touches
          unfold Step.write? at written
          split at written
          case h_1 target range value =>
            split at written
            case isTrue within =>
              obtain ⟨rfl, fits⟩ := within
              show accessed? here.1.graph target range = some target
              rw [accessed?, if_pos (remembers.mayAccess fits)]
            case isFalse => simp at written
          case h_2 => simp at written
    rw [silent]
    have same (range : BitRange) : (step.run.finish here).1.graph.valueAt? object range =
        here.1.graph.valueAt? object range := Graph.valueAt?_congr (layout touches) range
    have tiled : (step.run.finish here).1.graph.TiledAt object size := by
      refine ⟨?_, fun held => remembers.tiled.positive (same _ ▸ held),
        fun held => remembers.tiled.fits (same _ ▸ held),
        fun held held' => remembers.tiled.apart (same _ ▸ held) (same _ ▸ held')⟩
      rw [Graph.object?, stays]
      exact remembers.tiled.present
    exact remembers.of_kept moved.time stays tiled (fun held => (same _).trans held)
      fun held => (same _).symm.trans held
  case pos =>
    cases step with
    | draw => simp [Step.touched?] at touches
    | perform operation =>
      cases operation with
      | free address => exact absurd touches notFreed
      | read target range =>
          obtain ⟨rfl, allowed⟩ := of_accessed touches
          obtain ⟨value, next, supply, done, tiled, found⟩ :=
            read_ok remembers.tiled moment.positive allowed positive
          have finish : (Step.perform (.read target range)).run.finish here =
              ({ here.1 with graph := next }, supply) :=
            (Run.finish_bind_pure ..).trans (by rw [Run.finish, done])
          rw [finish] at moved stays ⊢
          exact remembers.of_kept moved.time stays tiled found.keeps found.zeros
      | write target range value =>
          obtain ⟨rfl, allowed⟩ := of_accessed touches
          have fit := remembers.tiled.laid.fits_of_mayAccess allowed
          obtain ⟨next, done, tiled, written⟩ := write_ok remembers.tiled allowed positive value
          have finish : (Step.perform (.write target range value)).run.finish here =
              ({ here.1 with graph := next }, here.2) :=
            (Run.finish_bind_pure ..).trans (by rw [Run.finish, done])
          have isWrite : Step.write? target size (.perform (.write target range value)) =
              some (range, value) := if_pos ⟨rfl, fit⟩
          rw [finish] at moved stays ⊢
          rw [isWrite]
          exact remembers.of_written fit moved.time stays tiled written
      | _ => simp [Step.touched?, Operation.touched?] at touches

theorem writes_cons (step : Step) (rest : List Step) :
    writes object size (step :: rest) =
      writes object size rest ++ (step.write? object size).toList := by
  unfold writes
  rw [List.filterMap_cons]
  cases step.write? object size <;> simp

/-- What is valid after several steps was valid before them. -/
theorem isValid_of_history {steps : List Step} (early : object.index < here.2.next)
    (valid : (Run.history Step.run steps here).1.graph.isValid object = true) :
    here.1.graph.isValid object = true := by
  induction steps generalizing here with
  | nil => exact valid
  | cons step rest ih =>
      exact step.isValid_before early (ih (Nat.lt_of_lt_of_le early (step.moved here).time) valid)

/-- All writes of several steps are remembered. -/
theorem Remembers.history {steps : List Step} (remembers : Remembers object size past here)
    (moment : Moment here) (positive : ∀ step ∈ steps, step.Positive)
    (valid : (Run.history Step.run steps here).1.graph.isValid object = true) :
    Remembers object size (writes object size steps ++ past) (Run.history Step.run steps here) := by
  induction steps generalizing here past with
  | nil => exact remembers
  | cons step rest ih =>
      have early := Nat.lt_of_lt_of_le remembers.drawn (step.moved here).time
      have next := remembers.step moment (positive step List.mem_cons_self)
        (isValid_of_history early valid)
      rw [writes_cons, List.append_assoc]
      exact ih next (moment.step step) (fun other member =>
        positive other (List.mem_cons_of_mem _ member)) valid

end Remembers

/-! ### Reads and writes -/

/-- Reads and writes track zero memory exactly.  An object was made, and at the end of several steps
it has neither been freed nor removed.  A read of a range within its bounds goes through without a
finding.  It yields zero exactly if all bits of the range were written and the most recent write to
each of them stored zero, and if the most recent write that overlaps the range was one to the whole
range, it yields the value that was written.  A write within the bounds goes through without a
finding, too. -/
theorem zero_memory (machine : Machine) (before steps : List Step) {object : ObjectId} {size : Nat}
    {there : State × Supply} (made : Makes object size (reached machine before) there)
    (positive : ∀ step ∈ steps, step.Positive)
    (valid : (Run.history Step.run steps there).1.graph.isValid object = true) :
    let now := Run.history Step.run steps there
    ∀ range : BitRange, 0 < range.size → range.fits size = true →
      (∃ value later, read object range now = .ok value later ∧
        later.1.findings = now.1.findings ∧
        (value = .zero ↔ ∀ bit, range.Has bit →
          lastStored? (writes object size steps) bit = some .zero) ∧
        ∀ stored, lastOverlapping? (writes object size steps) range = some (range, stored) →
          value = stored) ∧
      ∀ value, ∃ later, write object range value now = .ok () later ∧
        later.1.findings = now.1.findings := by
  intro now range bits fits
  have start := moment_reached machine before
  have moment := made.moment start
  have remembers : Remembers object size (writes object size steps) now := by
    have all := (start.remembers made).history moment positive valid
    rwa [List.append_nil] at all
  have allowed := remembers.mayAccess fits
  constructor
  · obtain ⟨value, next, supply, done, -, found⟩ :=
      read_ok remembers.tiled (moment.history steps).positive allowed bits
    refine ⟨value, _, done, rfl, found.zero.trans ?_, fun stored last =>
      found.held (remembers.latest bits fits last)⟩
    exact forall₂_congr fun bit _ => remembers.zero bit
  · intro value
    obtain ⟨next, done, -⟩ := write_ok remembers.tiled allowed bits value
    exact ⟨_, done, rfl⟩

/-- A number is written into the middle of zeros.  What is left of them on both sides is read as
zero, the number is read back, and a range that holds both is not zero. -/
theorem zero_memory_overwritten :
    let there := reached .linux64 [.perform (.enter "f"), .perform (.declareLocal "buffer" 64)]
    let steps : List Step := [.perform (.write ⟨1⟩ ⟨0, 64⟩ .zero), .draw,
      .perform (.write ⟨1⟩ ⟨16, 16⟩ ⟨2⟩), .perform (.read ⟨1⟩ ⟨24, 16⟩)]
    let now := Run.history Step.run steps there
    (∃ later, read ⟨1⟩ ⟨0, 16⟩ now = .ok .zero later) ∧
      (∃ later, read ⟨1⟩ ⟨32, 32⟩ now = .ok .zero later) ∧
      (∃ later, read ⟨1⟩ ⟨16, 16⟩ now = .ok ⟨2⟩ later) ∧
      ∃ value later, read ⟨1⟩ ⟨8, 16⟩ now = .ok value later ∧ value ≠ .zero := by
  intro there steps now
  have declared : State.declareLocal "buffer" 64 (reached .linux64 [.perform (.enter "f")]) =
      .ok ⟨1⟩ there := by rfl
  have tracked := zero_memory .linux64 [.perform (.enter "f")] steps (.inner declared)
    (by decide) (by decide)
  have zeroBit (bit : Nat) (within : bit < 64) (outside : bit < 16 ∨ 32 ≤ bit) :
      lastStored? (writes ⟨1⟩ 64 steps) bit = some .zero := by
    have second : ¬ (BitRange.mk 16 16).Has bit := by rw [BitRange.has_iff]; omega
    have first : (BitRange.mk 0 64).Has bit := by rw [BitRange.has_iff]; omega
    show lastStored? [(⟨16, 16⟩, ⟨2⟩), (⟨0, 64⟩, .zero)] bit = _
    rw [lastStored?_cons, if_neg second, lastStored?_cons, if_pos first]
  refine ⟨?_, ?_, ?_, ?_⟩
  · obtain ⟨⟨value, later, done, -, zero, -⟩, -⟩ := tracked ⟨0, 16⟩ (by decide) (by decide)
    obtain rfl := zero.2 fun bit has => by
      rw [BitRange.has_iff] at has
      exact zeroBit bit (by omega) (by omega)
    exact ⟨later, done⟩
  · obtain ⟨⟨value, later, done, -, zero, -⟩, -⟩ := tracked ⟨32, 32⟩ (by decide) (by decide)
    obtain rfl := zero.2 fun bit has => by
      rw [BitRange.has_iff] at has
      exact zeroBit bit (by omega) (by omega)
    exact ⟨later, done⟩
  · obtain ⟨⟨value, later, done, -, -, last⟩, -⟩ := tracked ⟨16, 16⟩ (by decide) (by decide)
    obtain rfl := last ⟨2⟩ (by decide)
    exact ⟨later, done⟩
  · obtain ⟨⟨value, later, done, -, zero, -⟩, -⟩ := tracked ⟨8, 16⟩ (by decide) (by decide)
    refine ⟨value, later, done, fun same => ?_⟩
    exact absurd (zero.1 same 16 (by decide)) (by decide)

end State

end ShapeDomain
