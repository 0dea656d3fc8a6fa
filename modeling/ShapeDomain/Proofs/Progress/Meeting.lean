import ShapeDomain.Proofs.Progress.Joint

/-!
# Values that meet

While the fields of two objects are joined, their layouts are aligned and hold values in the same
ranges.  What such a value stands for is a value of its graph, or unknown contents of its own.
-/

namespace ShapeDomain

namespace Join

/-- What a value that a range of an object holds stands for. -/
inductive Stands (start : Nat) (object : ObjectId) (range : BitRange) : Cell → ValueId → Prop where
  /-- A value that was there from the start stands for itself. -/
  | value {value : ValueId} : value.index < start → Stands start object range (.value value) value
  /-- A value that was drawn since stands for the contents of the range. -/
  | piece {value : ValueId} :
      start ≤ value.index → Stands start object range (.piece object range) value

namespace Stands

variable {start now : Nat} {object : ObjectId} {range : BitRange} {cell : Cell} {value : ValueId}
variable {origin graph : Graph}

theorem number? (stands : Stands start object range cell value) (plain : origin.Plain start)
    (intact : Intact start origin graph now) :
    cell.number? origin = graph.number? value := by
  rw [intact.relaid.number?]
  cases stands with
  | value => rfl
  | piece late =>
      rw [Graph.number?, plain.knowledge_of_late late]
      rfl

theorem address? (stands : Stands start object range cell value) (plain : origin.Plain start)
    (intact : Intact start origin graph now) :
    cell.address? origin = Join.address? graph value := by
  rw [Join.address?, intact.relaid.target?]
  cases stands with
  | value => rfl
  | piece late =>
      have leads : origin.target? value = none := by
        rw [Graph.target?, plain.knowledge_of_late late]
        rfl
      simp [Cell.address?, leads]

/-- Two held values stand for the same only if they are the same. -/
theorem unique {other : ObjectId} {otherRange : BitRange} {otherValue : ValueId}
    (stands : Stands start object range cell value)
    (stands' : Stands start other otherRange cell otherValue)
    (held : graph.valueAt? object range = some value)
    (held' : graph.valueAt? other otherRange = some otherValue) : value = otherValue := by
  cases stands with
  | value =>
      cases stands' with
      | value => rfl
  | piece =>
      cases stands' with
      | piece =>
          rw [held, Option.some.injEq] at held'
          exact held'

/-- The same held value stands for the same. -/
theorem congr {other : ObjectId} {otherRange : BitRange} {otherCell : Cell}
    (stands : Stands start object range cell value)
    (stands' : Stands start other otherRange otherCell value)
    (intact : Intact start origin graph now)
    (held : graph.valueAt? object range = some value)
    (held' : graph.valueAt? other otherRange = some value) : cell = otherCell := by
  cases stands with
  | value early =>
      cases stands' with
      | value => rfl
      | piece late => exact absurd early (Nat.not_lt_of_le late)
  | piece late =>
      cases stands' with
      | value early => exact absurd early (Nat.not_lt_of_le late)
      | piece =>
          obtain ⟨rfl, rfl⟩ := intact.once held held' late
          rfl

theorem eq_zero (stands : Stands start object range .zero value) : value = .zero := by
  generalize same : Cell.zero = cell at stands
  cases stands with
  | value => exact (Cell.value.inj same).symm
  | piece => simp [Cell.zero] at same

/-- A value that stands for a value is this value. -/
theorem value_eq {other : ValueId} (stands : Stands start object range (.value other) value) :
    other = value := by
  cases stands with
  | value => rfl

/-- Only zero stands for zero. -/
theorem cell_eq_zero (stands : Stands start object range cell .zero) (positive : 0 < start) :
    cell = .zero := by
  cases stands with
  | value => rfl
  | piece late => exact absurd positive (Nat.not_lt_of_le late)

end Stands

/-- What an aligned layout holds stands for its contents. -/
theorem exists_stands {start : Nat} {graph other origin : Graph} {object otherObject : ObjectId}
    {range : BitRange} {value : ValueId} (positive : 0 < start)
    (holds : (slot origin other object otherObject range).Holds start (start ≤ ·)
      (graph.valueAt? object range)) (held : graph.valueAt? object range = some value) :
    ∃ cell, cell? origin other object otherObject range = some cell ∧
      Stands start object range cell value := by
  rw [held] at holds
  unfold cell?
  cases isSlot : slot origin other object otherObject range with
  | empty => simp [isSlot, Alignment.Slot.Holds] at holds
  | kept found =>
      simp only [isSlot, Alignment.Slot.Holds, Option.some.injEq] at holds
      obtain ⟨rfl, early⟩ := holds
      exact ⟨_, rfl, .value early⟩
  | zero =>
      simp only [isSlot, Alignment.Slot.Holds, Option.some.injEq] at holds
      subst holds
      exact ⟨_, rfl, .value positive⟩
  | unknown =>
      simp only [isSlot, Alignment.Slot.Holds, Option.some.injEq] at holds
      obtain ⟨index, rfl, late⟩ := holds
      exact ⟨_, rfl, .piece late⟩

/-- An aligned layout holds a value that stands for its contents. -/
theorem exists_value {start : Nat} {graph other origin : Graph} {object otherObject : ObjectId}
    {range : BitRange} {cell : Cell} (positive : 0 < start)
    (holds : (slot origin other object otherObject range).Holds start (start ≤ ·)
      (graph.valueAt? object range))
    (isCell : cell? origin other object otherObject range = some cell) :
    ∃ value, graph.valueAt? object range = some value ∧ Stands start object range cell value := by
  have filled : slot origin other object otherObject range ≠ .empty := by
    intro empty
    rw [cell?, empty] at isCell
    simp at isCell
  obtain ⟨value, held⟩ := Option.isSome_iff_exists.1 (holds.isSome_iff.2 filled)
  obtain ⟨cell', isCell', stands⟩ := exists_stands positive holds held
  rw [isCell, Option.some.injEq] at isCell'
  exact ⟨value, held, isCell' ▸ stands⟩

/-- An aligned layout holds what was there from the start, where this is what its cells are. -/
theorem valueAt?_of_cell? {start : Nat} {graph other origin : Graph} {object otherObject : ObjectId}
    {range : BitRange} (positive : 0 < start)
    (holds : (slot origin other object otherObject range).Holds start (start ≤ ·)
      (graph.valueAt? object range))
    (cells : cell? origin other object otherObject range =
      (origin.valueAt? object range).map .value) :
    graph.valueAt? object range = origin.valueAt? object range := by
  cases held : origin.valueAt? object range with
  | none =>
      refine Option.eq_none_iff_forall_ne_some.2 fun value isValue => ?_
      obtain ⟨_, isCell, -⟩ := exists_stands positive holds isValue
      rw [cells, held] at isCell
      simp at isCell
  | some value =>
      rw [held] at cells
      obtain ⟨value', isValue, stands⟩ := exists_value positive holds cells
      rw [isValue, stands.value_eq]

/-- Two objects that are being joined hold two values in the same range. -/
structure Meeting (basis : Basis) (waiting : List ObjectPair) (progress : Progress)
    (pair : ObjectPair) (range : BitRange) (value1 value2 : ValueId) : Prop where
  /-- The objects meet. -/
  met : Met basis.left basis.right pair.object1 pair.object2
  /-- The left object holds the left value. -/
  held1 : progress.left.valueAt? pair.object1 range = some value1
  /-- The right object holds the right value. -/
  held2 : progress.right.valueAt? pair.object2 range = some value2
  /-- The layouts are aligned. -/
  realized : Realized basis progress pair.object1 pair.object2
  /-- Without folding, the objects have their counterpart, which is not that of a waiting pair. -/
  mapped : ¬ basis.Folds → progress.leftMap.object? pair.object1 = some pair.dest ∧
    progress.rightMap.object? pair.object2 = some pair.dest ∧
    ∀ other ∈ waiting, other.dest ≠ pair.dest

variable {basis : Basis} {path waiting : List ObjectPair} {here : Progress × Supply}
variable {pair : ObjectPair} {range : BitRange} {value1 value2 : ValueId}

/-- Objects that meet and hold values in the same range pair what these stand for. -/
theorem Realized.paired {progress : Progress} {object1 object2 : ObjectId}
    (realized : Realized basis progress object1 object2)
    (met : Met basis.left basis.right object1 object2)
    (held1 : progress.left.valueAt? object1 range = some value1)
    (held2 : progress.right.valueAt? object2 range = some value2) :
    ∃ cell1 cell2, Compared basis.left basis.right range cell1 cell2 ∧
      Stands basis.start object1 range cell1 value1 ∧
      Stands basis.start object2 range cell2 value2 := by
  obtain ⟨cell1, isCell1, stands1⟩ :=
    exists_stands basis.leftPlain.positive (realized.left range) held1
  obtain ⟨cell2, isCell2, stands2⟩ :=
    exists_stands basis.leftPlain.positive (realized.right range) held2
  exact ⟨cell1, cell2, ⟨object1, object2, met, isCell1, isCell2⟩, stands1, stands2⟩

/-- What two objects that are being joined hold is paired. -/
theorem Meeting.paired {progress : Progress}
    (meeting : Meeting basis waiting progress pair range value1 value2) :
    ∃ cell1 cell2, Compared basis.left basis.right range cell1 cell2 ∧
      Stands basis.start pair.object1 range cell1 value1 ∧
      Stands basis.start pair.object2 range cell2 value2 :=
  meeting.realized.paired meeting.met meeting.held1 meeting.held2

namespace Invariant

variable (invariant : Invariant basis path waiting here)

include invariant

/-- A value of which something is known was there from the start. -/
theorem early_of_number1 {value : ValueId} {number : Int}
    (known : here.1.left.number? value = some number) : value.index < basis.start := by
  by_contra late
  rw [invariant.left.relaid.number?, Graph.number?,
    basis.leftPlain.knowledge_of_late (Nat.le_of_not_lt late)] at known
  simp [Knowledge.nothing] at known

theorem early_of_number2 {value : ValueId} {number : Int}
    (known : here.1.right.number? value = some number) : value.index < basis.start := by
  by_contra late
  rw [invariant.right.relaid.number?, Graph.number?,
    basis.rightPlain.knowledge_of_late (Nat.le_of_not_lt late)] at known
  simp [Knowledge.nothing] at known

theorem address?_left (value : ValueId) :
    address? here.1.left value = address? basis.left value := by
  rw [address?, invariant.left.relaid.target?, address?]

theorem address?_right (value : ValueId) :
    address? here.1.right value = address? basis.right value := by
  rw [address?, invariant.right.relaid.target?, address?]

/-- An address was there from the start. -/
theorem early_of_address1 {value : ValueId} {target : Target}
    (leads : address? here.1.left value = some target) : value.index < basis.start := by
  by_contra late
  rw [address?, invariant.left.relaid.target?, Graph.target?,
    basis.leftPlain.knowledge_of_late (Nat.le_of_not_lt late)] at leads
  simp [Knowledge.nothing] at leads

theorem early_of_address2 {value : ValueId} {target : Target}
    (leads : address? here.1.right value = some target) : value.index < basis.start := by
  by_contra late
  rw [address?, invariant.right.relaid.target?, Graph.target?,
    basis.rightPlain.knowledge_of_late (Nat.le_of_not_lt late)] at leads
  simp [Knowledge.nothing] at leads

/-- Numbers that agree where they meet fit. -/
theorem numbersFit (meeting : Meeting basis waiting here.1 pair range value1 value2)
    {number1 number2 : Int} (known1 : here.1.left.number? value1 = some number1)
    (known2 : here.1.right.number? value2 = some number2)
    (agree : Number.agreeIn number1 number2 range.size = true) :
    NumbersFit basis.left basis.right value1 value2 number1 number2 range.size where
  agree := agree
  left := (invariant.left.old meeting.held1 (invariant.early_of_number1 known1)).imp_right
    fun held => ⟨pair.object1, range, held, rfl⟩
  right := (invariant.right.old meeting.held2 (invariant.early_of_number2 known2)).imp_right
    fun held => ⟨pair.object2, range, held, rfl⟩

/-- A value with a shared name was there from the start. -/
theorem shared (meeting : Meeting basis waiting here.1 pair range value1 value1) :
    value1.index < basis.start :=
  invariant.separate meeting.held1 meeting.held2

/-- A value that is still to be drawn is not in the destination. -/
theorem absent_of_next : here.1.dest.hasValue ⟨here.2.next⟩ = false := by
  have started := invariant.started
  have positive := basis.leftPlain.positive
  cases present : here.1.dest.hasValue ⟨here.2.next⟩ with
  | false => rfl
  | true =>
      rcases invariant.values present with zero | ⟨-, early⟩ | ⟨shared, -⟩
      · have isZero : here.2.next = 0 := congrArg ValueId.index zero
        omega
      · exact absurd early (Nat.lt_irrefl _)
      · exact absurd shared (Nat.not_lt_of_le started)

/-- Two values that meet and have no joint value have no counterparts, if all that meets fits. -/
theorem free_of_cover (still : ¬ basis.Folds)
    (meeting : Meeting basis waiting here.1 pair range value1 value2)
    (undecided : jointValue? here.1 value1 value2 = none) (cover : Cover basis.left basis.right) :
    (value1 = .zero ∨ here.1.leftMap.value? value1 = none) ∧
      (value2 = .zero ∨ here.1.rightMap.value? value2 = none) := by
  have exact := invariant.exact still
  obtain ⟨cell1, cell2, paired, stands1, stands2⟩ := meeting.paired
  have unpaired := (jointValue?_eq_none_iff.1 undecided).2
  constructor
  · refine Classical.or_iff_not_imp_left.2 fun proper => ?_
    cases bound : here.1.leftMap.value? value1 with
    | none => rfl
    | some value =>
        obtain ⟨other, isJoint⟩ := invariant.value1 bound
        obtain ⟨object1, object2, image, range', mapped1', mapped2', -, realized, held1, held2⟩ :=
          exact.held isJoint
        obtain ⟨cell1', cell2', paired', stands1', stands2'⟩ :=
          realized.paired (exact.met mapped1' mapped2') held1 held2
        obtain rfl := stands1.congr stands1' invariant.left meeting.held1 held1
        rcases cover.fits.leftOnce paired paired' with rfl | rfl
        · exact absurd stands1.eq_zero proper
        · obtain rfl := stands2.unique stands2' meeting.held2 held2
          rw [unpaired] at isJoint
          simp at isJoint
  · refine Classical.or_iff_not_imp_left.2 fun proper => ?_
    cases bound : here.1.rightMap.value? value2 with
    | none => rfl
    | some value =>
        obtain ⟨other, isJoint⟩ := invariant.value2 bound
        obtain ⟨object1, object2, image, range', mapped1', mapped2', -, realized, held1, held2⟩ :=
          exact.held isJoint
        obtain ⟨cell1', cell2', paired', stands1', stands2'⟩ :=
          realized.paired (exact.met mapped1' mapped2') held1 held2
        obtain rfl := stands2.congr stands2' invariant.right meeting.held2 held2
        rcases cover.fits.rightOnce paired paired' with rfl | rfl
        · exact absurd stands2.eq_zero proper
        · obtain rfl := stands1.unique stands1' meeting.held1 held1
          rw [unpaired] at isJoint
          simp at isJoint

end Invariant

/-- Without folding, values that meet are held by objects with the same counterpart. -/
theorem Meeting.held (meeting : Meeting basis waiting here.1 pair range value1 value2)
    (still : ¬ basis.Folds) : ∃ object1 object2 image range,
      here.1.leftMap.object? object1 = some image ∧
      here.1.rightMap.object? object2 = some image ∧ (∀ pair ∈ waiting, pair.dest ≠ image) ∧
      Realized basis here.1 object1 object2 ∧
      here.1.left.valueAt? object1 range = some value1 ∧
      here.1.right.valueAt? object2 range = some value2 := by
  obtain ⟨mapped1, mapped2, apart⟩ := meeting.mapped still
  exact ⟨pair.object1, pair.object2, pair.dest, range, mapped1, mapped2, apart, meeting.realized,
    meeting.held1, meeting.held2⟩

end Join

end ShapeDomain
