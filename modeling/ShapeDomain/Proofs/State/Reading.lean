import ShapeDomain.Proofs.State.Course

/-!
# What reads leave of the memory

A read always answers, and it removes no field that has a bit in common with what it puts.  But two
fields that start at the same bit have none in common if one of them is empty, and then the one that
is read takes the place of the other.
-/

namespace ShapeDomain

namespace Graph

variable {graph : Graph}

/-- The fields that are still there after another one was put are the new one and those that start
elsewhere or are in another object. -/
theorem hasField_putField_iff {field old : Field} (present : graph.hasField old = true) :
    (graph.putField field).hasField old = true ↔
      old = field ∨ (old.object = field.object → old.range.offset ≠ field.range.offset) := by
  rw [hasField_iff] at present ⊢
  rw [valueAt?_putField_iff]
  simp only [present, true_and]
  refine or_congr_left ?_
  cases old
  cases field
  simp

end Graph

namespace State

variable {here : State × Supply} {object : ObjectId} {range : BitRange}

/-- A read puts a field in the place of another one: nothing overlaps what is read, but the other
field starts at the same bit. -/
structure ReadsOver (graph : Graph) (object : ObjectId) (range : BitRange)
    (field : Field) : Prop where
  /-- The read is allowed. -/
  allowed : mayAccess graph object range = true
  /-- It overlaps nothing. -/
  clear : graph.overlapping object range = []
  /-- The field is one of the object that is read. -/
  object : field.object = object
  /-- It starts where the read starts. -/
  start : field.range.offset = range.offset
  /-- It has another size. -/
  size : field.range.size ≠ range.size

/-- Of two fields that start at the same bit, without having one in common, one is empty. -/
theorem ReadsOver.empty {graph : Graph} {field : Field} (loss : ReadsOver graph object range field)
    (present : graph.hasField field = true) : range.size = 0 ∨ field.range.size = 0 := by
  obtain ⟨allowed, clear, rfl, start, -⟩ := loss
  have apart := List.filter_eq_nil_iff.1 clear field
    (Graph.mem_fieldsOf_iff.2 ⟨rfl, Graph.hasField_iff.1 present⟩)
  rw [BitRange.overlaps_iff] at apart
  obtain ⟨found, -, -, fit⟩ := exists_of_mayAccess allowed
  have within := (BitRange.fits_iff.1 fit).1
  simp only [BitRange.stop] at apart
  omega

/-- What a read comes to: it leaves all contents as they are, or it puts its field where nothing is
held and nothing overlaps. -/
theorem read_cases (object : ObjectId) (range : BitRange) (here : State × Supply) :
    ∃ value there, read object range here = .ok value there ∧
      ((∀ id, there.1.graph.layout id = here.1.graph.layout id) ∧
          (mayAccess here.1.graph object range = true →
            here.1.graph.overlapping object range = [] →
            ∃ value, here.1.graph.valueAt? object range = some value) ∨
        mayAccess here.1.graph object range = true ∧
          here.1.graph.overlapping object range = [] ∧
          here.1.graph.valueAt? object range = none ∧
          ∀ id, there.1.graph.layout id =
            (here.1.graph.putField ⟨object, range, value⟩).layout id) := by
  unfold read
  rw [Run.bind_apply_ok (Run.ask_apply _ _)]
  cases allowed : mayAccess here.1.graph object range with
  | false =>
      simp only [Bool.not_false, if_true]
      exact ⟨_, _, rfl, .inl ⟨fun _ => rfl, nofun⟩⟩
  | true =>
      simp only [Bool.not_true, Bool.false_eq_true, if_false]
      cases held : here.1.graph.valueAt? object range with
      | some value => exact ⟨value, here, rfl, .inl ⟨fun _ => rfl, fun _ _ => ⟨value, rfl⟩⟩⟩
      | none =>
          simp only
          split
          case isTrue empty =>
            have clear := List.isEmpty_iff.1 empty
            obtain ⟨found, present, -, fit⟩ := exists_of_mayAccess allowed
            have apart {other : BitRange} {old : ValueId}
                (isHeld : here.1.graph.valueAt? object other = some old) :
                other.overlaps range = false :=
              Bool.eq_false_iff.2 (List.filter_eq_nil_iff.1 clear _ (Graph.mem_fieldsOf.2 isHeld))
            have added : (here.1.graph.addValue ⟨here.2.next⟩).addField
                ⟨object, range, ⟨here.2.next⟩⟩ = .ok _ :=
              Graph.addField_of_clear present fit held apart
            exact ⟨_, _, (Run.bind_apply_ok newValue_apply).trans
              (Run.bind_apply_ok (attemptGraph_ok added)),
                .inr ⟨trivial, clear, trivial, fun _ => rfl⟩⟩
          case isFalse occupied =>
            have overlaps : here.1.graph.overlapping object range ≠ [] :=
              fun clear => occupied (List.isEmpty_iff.2 clear)
            split
            · exact ⟨.zero, here, rfl, .inl ⟨fun _ => rfl, fun _ clear => absurd clear overlaps⟩⟩
            · exact ⟨_, _, newValue_apply,
                .inl ⟨fun _ => rfl, fun _ clear => absurd clear overlaps⟩⟩

/-- A read always answers, and every field is still there after it, except for one that starts at
the same bit as the read and still has none in common with it, because one of the two is empty. -/
theorem read_keeps_fields (here : State × Supply) (object : ObjectId) (range : BitRange) :
    ∃ value there, read object range here = .ok value there ∧
      ∀ field, here.1.graph.hasField field = true →
        (there.1.graph.hasField field = true ↔ ¬ ReadsOver here.1.graph object range field) ∧
        (ReadsOver here.1.graph object range field → range.size = 0 ∨ field.range.size = 0) := by
  obtain ⟨value, there, done, ⟨same, finds⟩ | ⟨allowed, clear, nothing, put⟩⟩ :=
    read_cases object range here
  case inl =>
    refine ⟨value, there, done, fun field present => ⟨?_, fun loss => loss.empty present⟩⟩
    have kept : there.1.graph.hasField field = true := by
      rw [Graph.hasField, same]
      exact present
    refine iff_of_true kept fun loss => ?_
    obtain ⟨found, held⟩ := finds loss.allowed loss.clear
    rw [Graph.hasField_iff, loss.object, Graph.valueAt?_eq_some_iff, loss.start] at present
    rw [Graph.valueAt?_eq_some_iff, present, Option.some.injEq, Content.mk.injEq] at held
    exact loss.size held.1
  case inr =>
    refine ⟨value, there, done, fun field present => ⟨?_, fun loss => loss.empty present⟩⟩
    have after : there.1.graph.hasField field =
        (here.1.graph.putField ⟨object, range, value⟩).hasField field := by
      rw [Graph.hasField, Graph.hasField, put]
    rw [after, Graph.hasField_putField_iff present]
    constructor
    · rintro (rfl | elsewhere) loss
      · exact loss.size rfl
      · exact elsewhere loss.object loss.start
    · intro spared
      refine .inr fun same start => spared ⟨allowed, clear, same, start, fun size => ?_⟩
      rw [Graph.hasField_iff, same, BitRange.eq_of_offset_of_size start size, nothing] at present
      simp at present

/-- A variable of which one half was written: a read of the other half keeps what was written. -/
theorem read_keeps_firstHalf :
    let here := reached .linux64 [.perform (.enter "main"), .perform (.declareLocal "x" 64),
      .draw, .perform (.write ⟨1⟩ ⟨0, 32⟩ ⟨2⟩)]
    here.1.graph.hasField ⟨⟨1⟩, ⟨0, 32⟩, ⟨2⟩⟩ = true ∧
      ∃ value there, read ⟨1⟩ ⟨32, 32⟩ here = .ok value there ∧
        there.1.graph.hasField ⟨⟨1⟩, ⟨0, 32⟩, ⟨2⟩⟩ = true := by
  intro here
  have present : here.1.graph.hasField ⟨⟨1⟩, ⟨0, 32⟩, ⟨2⟩⟩ = true := by decide
  obtain ⟨value, there, done, keeps⟩ := read_keeps_fields here ⟨1⟩ ⟨32, 32⟩
  exact ⟨present, value, there, done,
    (keeps _ present).1.2 fun loss => absurd loss.start (by decide)⟩

/-- A read of nothing at the start of the same variable loses what was written. -/
theorem read_loses_firstHalf :
    let here := reached .linux64 [.perform (.enter "main"), .perform (.declareLocal "x" 64),
      .draw, .perform (.write ⟨1⟩ ⟨0, 32⟩ ⟨2⟩)]
    here.1.graph.hasField ⟨⟨1⟩, ⟨0, 32⟩, ⟨2⟩⟩ = true ∧
      ∃ value there, read ⟨1⟩ ⟨0, 0⟩ here = .ok value there ∧
        there.1.graph.hasField ⟨⟨1⟩, ⟨0, 32⟩, ⟨2⟩⟩ = false := by
  exact ⟨by decide, ⟨3⟩, _, rfl, by decide⟩

end State

end ShapeDomain
