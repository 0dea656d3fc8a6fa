import ShapeDomain.Proofs.Coverage.Finished

/-!
# Composing two coverings

If one graph covers a second one and this covers a third one, then the layouts of the first and the
third are compared without the boundaries of the second one.  They still fit, as long as no field
that holds something other than zero is cut by the graph in the middle, and as long as numbers are
held at one width.
-/

namespace ShapeDomain

namespace Graph

/-- No field of an object of a graph starts or ends strictly inside a field of an object of the same
size of another graph, unless this field holds zero. -/
def Uncut (graph other : Graph) : Prop :=
  ∀ {object otherObject range value},
    (graph.object? object).map Object.size = (other.object? otherObject).map Object.size →
    other.valueAt? otherObject range = some value → value ≠ .zero → ¬ graph.Cuts object range

/-- Every number other than zero is held at one width. -/
def OneWidth (graph : Graph) : Prop :=
  ∀ {value number size other}, value ≠ .zero → graph.number? value = some number →
    graph.HoldsAt value size → graph.HoldsAt value other → size = other

theorem uncut_iff {graph other : Graph} : graph.Uncut other ↔
    ∀ field ∈ other.fields, field.value ≠ .zero → ∀ inner ∈ graph.fields,
      (graph.object? inner.object).map Object.size = (other.object? field.object).map Object.size →
        ¬ graph.Cuts inner.object field.range := by
  constructor
  · intro uncut field member proper inner _ same
    exact uncut same (mem_fields_iff.1 member) proper
  · intro uncut object otherObject range value same held proper cuts
    obtain ⟨inner, content, isHeld, inside⟩ := cuts
    exact uncut ⟨otherObject, range, value⟩ (mem_fields_iff.2 held) proper ⟨object, inner, content⟩
      (mem_fields_iff.2 isHeld) same ⟨inner, content, isHeld, inside⟩

instance (graph other : Graph) : Decidable (graph.Uncut other) :=
  decidable_of_iff _ uncut_iff.symm

theorem oneWidth_iff {graph : Graph} : graph.OneWidth ↔
    ∀ field ∈ graph.fields, field.value ≠ .zero → (graph.number? field.value).isSome = true →
      ∀ other ∈ graph.fields, other.value = field.value → field.range.size = other.range.size := by
  constructor
  · intro width field member proper known other member' same
    obtain ⟨number, isNumber⟩ := Option.isSome_iff_exists.1 known
    exact width proper isNumber (holdsAt_iff.2 ⟨field, member, rfl, rfl⟩)
      (holdsAt_iff.2 ⟨other, member', same, rfl⟩)
  · intro width value number size other proper isNumber holds holds'
    obtain ⟨field, member, rfl, rfl⟩ := holdsAt_iff.1 holds
    obtain ⟨field', member', same, rfl⟩ := holdsAt_iff.1 holds'
    exact width field member proper (by rw [isNumber]; rfl) field' member' same

instance (graph : Graph) : Decidable graph.OneWidth :=
  decidable_of_iff _ oneWidth_iff.symm

/-- What cuts a part of a range cuts the range. -/
theorem Cuts.mono {graph : Graph} {object : ObjectId} {range outer : BitRange}
    (cuts : graph.Cuts object range) (within : Alignment.Within range outer) :
    graph.Cuts object outer := by
  obtain ⟨inner, value, held, inside⟩ := cuts
  have := within.1
  have := within.2
  exact ⟨inner, value, held, by omega⟩

theorem SameScopes.trans {left middle right : Graph} (first : left.SameScopes middle)
    (second : middle.SameScopes right) : left.SameScopes right :=
  ⟨first.globals.trans second.globals, first.frames.trans second.frames⟩

end Graph

namespace Join

open ShapeDomain.Alignment

variable {left right : Graph} {object1 object2 object3 : ObjectId} {range outer : BitRange}
variable {value : ValueId}

/-- A range that meets an uncut range in some bits lies around it. -/
theorem within_of_not_cuts {graph : Graph} {object : ObjectId} {inner : BitRange}
    (uncut : ¬ graph.Cuts object outer) (held : graph.valueAt? object range = some value)
    (positive : 0 < inner.size) (inOuter : Within inner outer) (inRange : Within inner range) :
    Within outer range := by
  have bound : ¬ ((outer.offset < range.offset ∧ range.offset < outer.offset + outer.size) ∨
      (outer.offset < range.offset + range.size ∧
        range.offset + range.size < outer.offset + outer.size)) :=
    fun inside => uncut ⟨range, value, held, inside⟩
  have := inOuter.1
  have := inOuter.2
  have := inRange.1
  have := inRange.2
  exact ⟨by omega, by omega⟩

/-- Unless a field that holds something is cut, the left contents are zero or those of a field. -/
theorem cellAt_cases (tiled1 : left.Tiled) (tiled2 : right.Tiled)
    (valid : left.isValid object1 = true)
    (whole : ∀ {range value}, left.valueAt? object1 range = some value → value ≠ .zero →
      ¬ right.Cuts object2 range) (shared : Shared left right object1 object2 range) :
    cellAt left object1 range = .zero ∨
      ∃ value, value ≠ .zero ∧ left.valueAt? object1 range = some value := by
  have positive := shared.positive tiled1 tiled2
  cases isCell : cellAt left object1 range with
  | value value =>
      by_cases proper : value = .zero
      · exact .inl (by rw [proper]; rfl)
      · exact .inr ⟨value, proper, held_of_cellAt tiled1 positive isCell proper⟩
  | piece holder piece =>
      obtain ⟨outer, value, held, within, differ, proper⟩ :=
        exists_of_cellAt_piece tiled1 valid positive isCell
      exact absurd (shared.cuts_outer tiled1 tiled2 held within differ) (whole held proper)

/-! ### One covering -/

/-- A graph covers another one, as a join without folding finds it out. -/
structure Covering (left right : Graph) : Prop where
  /-- The fields of the left graph are tiled. -/
  tiled1 : left.Tiled
  /-- So are those of the right graph. -/
  tiled2 : right.Tiled
  /-- Left objects that must not be accessed have no fields. -/
  freed1 : ∀ {id range value}, left.valueAt? id range = some value → left.isValid id = true
  /-- Neither have right ones. -/
  freed2 : ∀ {id range value}, right.valueAt? id range = some value → right.isValid id = true
  /-- Zero is zero in the left graph. -/
  zero1 : left.ZeroIsZero
  /-- It is so in the right graph. -/
  zero2 : right.ZeroIsZero
  /-- Nothing else is zero in the left graph. -/
  only : left.OnlyZero
  /-- All that meets fits, numbers apart. -/
  fits : Fits left right
  /-- Numbers agree where they are held. -/
  agree : AgreeSomewhere left right

namespace Covering

variable (covering : Covering left right)

include covering

/-- Objects that meet and have a range in common may be accessed. -/
theorem valid (met : Met left right object1 object2)
    (shared : Shared left right object1 object2 range) :
    left.isValid object1 = true ∧ right.isValid object2 = true := by
  have same := covering.fits.valid met
  rcases shared.exists_outer covering.tiled1 covering.tiled2 with
    ⟨outer, value, held, -⟩ | ⟨outer, value, held, -⟩
  · have valid := covering.freed1 held
    exact ⟨valid, same ▸ valid⟩
  · have valid := covering.freed2 held
    exact ⟨same ▸ valid, valid⟩

theorem not_cuts (met : Met left right object1 object2)
    (held : left.valueAt? object1 range = some value) (proper : value ≠ .zero) :
    ¬ right.Cuts object2 range := by
  have member : ⟨object1, range, value⟩ ∈ left.fieldsOf object1 := Graph.mem_fieldsOf.2 held
  exact ((losesValue_eq_false_iff covering.tiled1 covering.tiled2 member).1
    (covering.fits.whole met _ member)).resolve_left proper

/-- The range of a field that does not hold zero is shared. -/
theorem shared (met : Met left right object1 object2)
    (held : left.valueAt? object1 range = some value) (proper : value ≠ .zero) :
    Shared left right object1 object2 range :=
  shared_of_held covering.tiled1 covering.tiled2 held (covering.not_cuts met held proper)

/-- Such a field is not paired with zero. -/
theorem cellAt_ne_zero (met : Met left right object1 object2)
    (held : left.valueAt? object1 range = some value) (proper : value ≠ .zero) :
    cellAt right object2 range ≠ .zero := by
  intro zero
  have compared : Compared left right range (.value value) (.value .zero) := compared_iff.2
    ⟨object1, object2, met, covering.shared met held proper,
      (cellAt_of_held covering.tiled1 held).symm, zero.symm⟩
  have noAddress : address? left value = none := by
    rcases covering.fits.addresses compared with ⟨none1, -⟩ | ⟨_, _, -, leads, -⟩
    · exact none1
    · simp [Cell.address?, address?, ValueId.isZero] at leads
  obtain ⟨number, isNumber⟩ := Option.isSome_iff_exists.1
    (covering.fits.known compared noAddress covering.zero2)
  obtain ⟨size, fit⟩ := covering.agree compared noAddress isNumber covering.zero2
  refine proper (covering.only (fit.left.resolve_left proper) isNumber ?_)
  have same := fit.agree
  rw [Number.agreeIn, beq_iff_eq] at same
  rw [same]
  unfold Number.wrap
  split <;> simp

/-- The left contents of a shared range are zero or those of a field. -/
theorem cases (met : Met left right object1 object2)
    (shared : Shared left right object1 object2 range) : cellAt left object1 range = .zero ∨
      ∃ value, value ≠ .zero ∧ left.valueAt? object1 range = some value :=
  cellAt_cases covering.tiled1 covering.tiled2 (covering.valid met shared).1
    (fun held proper => covering.not_cuts met held proper) shared

end Covering

/-! ### Two coverings -/

/-- How contents that the outer two of three graphs compare go through the middle one. -/
inductive Through (left middle right : Graph) (range : BitRange) : Cell → Cell → Prop where
  /-- The left graph has a field, and the middle graph has one of the same range. -/
  | field {value1 value2 : ValueId} {cell3 : Cell} : value2 ≠ .zero →
      middle.HoldsAt value2 range.size →
        Compared left middle range (.value value1) (.value value2) →
      Compared middle right range (.value value2) cell3 →
      Through left middle right range (.value value1) cell3
  /-- The left graph has a field, and the others have parts of fields. -/
  | part {value1 : ValueId} {object2 object3 : ObjectId} : Met middle right object2 object3 →
      Compared left middle range (.value value1) (.piece object2 range) →
      Through left middle right range (.value value1) (.piece object3 range)
  /-- All is zero. -/
  | zeros : Through left middle right range .zero .zero
  /-- The left contents are zero, and the right graph has a part of a field. -/
  | zeroPart {object3 : ObjectId} : Through left middle right range .zero (.piece object3 range)
  /-- The right graph has a field, and the others hold zero. -/
  | zeroField {value3 : ValueId} : value3 ≠ .zero → right.HoldsAt value3 range.size →
      Compared middle right range .zero (.value value3) →
      Through left middle right range .zero (.value value3)
  /-- The middle graph and the right one have fields, and the left contents are zero. -/
  | zeroFields {value2 value3 : ValueId} : value2 ≠ .zero → middle.HoldsAt value2 range.size →
      Compared left middle range .zero (.value value2) →
      Compared middle right range (.value value2) (.value value3) →
      Through left middle right range .zero (.value value3)

namespace Through

variable {middle : Graph} {cell1 cell3 : Cell}
    (through : Through left middle right range cell1 cell3)

include through

/-- Left contents other than zero are paired with a field or with a part of one. -/
theorem of_left (proper : cell1 ≠ .zero) :
    (∃ value2, value2 ≠ .zero ∧ Compared left middle range cell1 (.value value2) ∧
      Compared middle right range (.value value2) cell3) ∨
    ∃ object2 object3, Met middle right object2 object3 ∧
      Compared left middle range cell1 (.piece object2 range) ∧ cell3 = .piece object3 range := by
  cases through with
  | field proper2 _ first second => exact .inl ⟨_, proper2, first, second⟩
  | part met first => exact .inr ⟨_, _, met, first, rfl⟩
  | zeros | zeroPart | zeroField | zeroFields => exact absurd rfl proper

/-- A right value other than zero is paired with contents of the middle graph. -/
theorem of_right {value3 : ValueId} (is3 : cell3 = .value value3) (proper : value3 ≠ .zero) :
    ∃ cell2, Compared middle right range cell2 cell3 ∧
      ((cell2 = .zero ∧ cell1 = .zero) ∨
        (cell2 ≠ .zero ∧ Compared left middle range cell1 cell2)) := by
  have notZero {value : ValueId} (differ : value ≠ .zero) : Cell.value value ≠ .zero :=
    fun same => differ (Cell.value.inj same)
  cases through with
  | field proper2 _ first second => exact ⟨_, second, .inr ⟨notZero proper2, first⟩⟩
  | part => simp at is3
  | zeros => exact absurd (Cell.value.inj is3).symm proper
  | zeroPart => simp at is3
  | zeroField _ _ second => exact ⟨_, second, .inl ⟨rfl, rfl⟩⟩
  | zeroFields proper2 _ first second => exact ⟨_, second, .inr ⟨notZero proper2, first⟩⟩

end Through

/-- A graph covers a second one that covers a third one, and what is known there does not depend on
the boundaries and the widths in between. -/
structure Chain (left middle right : Graph) : Prop where
  /-- The middle graph covers the left one. -/
  first : Covering left middle
  /-- The right graph covers the middle one. -/
  second : Covering middle right
  /-- The middle graph cuts no field of the right one that holds something. -/
  uncut : middle.Uncut right
  /-- Numbers of the middle graph are held at one width. -/
  width2 : middle.OneWidth
  /-- So are those of the right graph. -/
  width3 : right.OneWidth

namespace Chain

variable {middle : Graph} {cell1 cell2 cell3 : Cell} (chain : Chain left middle right)

include chain

/-- A left field that does not hold zero is paired with a field of the middle graph of the same
range, or with a part of a field of which the right graph has a part as well. -/
theorem left_cases (met12 : Met left middle object1 object2)
    (met23 : Met middle right object2 object3)
    (held : left.valueAt? object1 range = some value) (proper : value ≠ .zero) :
    (∃ value2, value2 ≠ .zero ∧ middle.valueAt? object2 range = some value2 ∧
      Shared middle right object2 object3 range) ∨
    (cellAt middle object2 range = .piece object2 range ∧
      cellAt right object3 range = .piece object3 range ∧
      ∃ outer value2, middle.valueAt? object2 outer = some value2 ∧ Within range outer ∧
        value2 ≠ .zero) := by
  have shared12 := chain.first.shared met12 held proper
  have positive := shared12.positive chain.first.tiled1 chain.first.tiled2
  have notZero := chain.first.cellAt_ne_zero met12 held proper
  cases isCell : cellAt middle object2 range with
  | value value2 =>
      have proper2 : value2 ≠ .zero := fun zero => notZero (by rw [isCell, zero]; rfl)
      have held2 := held_of_cellAt chain.first.tiled2 positive isCell proper2
      exact .inl ⟨value2, proper2, held2, chain.second.shared met23 held2 proper2⟩
  | piece holder piece =>
      have valid2 := (chain.first.valid met12 shared12).2
      obtain ⟨rfl, rfl⟩ := eq_of_cellAt_piece isCell
      obtain ⟨outer, value2, held2, within, differ, proper2⟩ :=
        exists_of_cellAt_piece chain.first.tiled2 valid2 positive isCell
      have uncut := chain.second.not_cuts met23 held2 proper2
      have shared23 := chain.second.shared met23 held2 proper2
      have outerPositive := shared23.positive chain.second.tiled1 chain.second.tiled2
      have notZero3 := chain.second.cellAt_ne_zero met23 held2 proper2
      have valid3 := (chain.second.valid met23 shared23).2
      refine .inr ⟨rfl, ?_, outer, value2, held2, within, proper2⟩
      rcases within_or_gap right object3 piece with ⟨around, value3, held3, inside⟩ | gap
      · have wider := within_of_not_cuts uncut held3 positive within inside
        have differ3 : piece ≠ around := by
          rintro rfl
          exact differ (BitRange.eq_of_offset_of_size
            (Nat.le_antisymm wider.1 within.1) (by
              have := wider.1; have := wider.2; have := within.1; have := within.2; omega))
        rw [cellAt_of_within chain.second.tiled2 held3 positive inside differ3]
        split
        case isFalse => rfl
        case isTrue zero =>
          by_cases same : outer = around
          · subst same
            rw [cellAt_of_held chain.second.tiled2 held3] at notZero3
            rw [ValueId.isZero, beq_iff_eq] at zero
            exact absurd (congrArg Cell.value zero) notZero3
          · rw [cellAt_of_within chain.second.tiled2 held3 outerPositive wider same, if_pos zero]
              at notZero3
            exact absurd rfl notZero3
      · have outerGap : ∀ around value, right.valueAt? object3 around = some value →
            ¬ Within outer around := fun around value held3 inside =>
          gap around value held3 ⟨Nat.le_trans inside.1 within.1, Nat.le_trans within.2 inside.2⟩
        rw [cellAt_of_gap outerGap, if_pos valid3] at notZero3
        exact absurd rfl notZero3

/-- A right field that does not hold zero has a range that the middle graph shares. -/
theorem right_shared (met23 : Met middle right object2 object3)
    (held : right.valueAt? object3 range = some value) (proper : value ≠ .zero) :
    Shared middle right object2 object3 range :=
  (shared_of_held chain.second.tiled2 chain.second.tiled1 held
    (chain.uncut (chain.second.fits.size met23) held proper)).symm

/-- Objects that meet both meet an object in the middle. -/
theorem exists_middle {object3 : ObjectId} (met : Met left right object1 object3) :
    ∃ object2, Met left middle object1 object2 ∧ Met middle right object2 object3 := by
  induction met with
  | named named1 named3 =>
      obtain ⟨object2, named2⟩ := Option.isSome_iff_exists.1
        ((chain.first.fits.scopes.isSome_named? _).symm.trans (by rw [named1]; rfl))
      exact ⟨object2, .named named1 named2, .named named2 named3⟩
  | @address object1 object3
    range cell1 cell3 target1 target3 _ is1 is3 leads1 leads3 proper1 proper3
      ih =>
      obtain ⟨object2, met12, met23⟩ := ih
      obtain ⟨shared13, rfl⟩ := cell?_eq_some_iff.1 is1
      obtain ⟨-, rfl⟩ := cell?_eq_some_iff.1 is3
      have positive := shared13.positive chain.first.tiled1 chain.second.tiled2
      cases isCell : cellAt left object1 range with
      | piece => simp [isCell, Cell.address?] at leads1
      | value value1 =>
          have proper : value1 ≠ .zero := by
            rintro rfl
            simp [isCell, Cell.address?, address?, ValueId.isZero] at leads1
          have held := held_of_cellAt chain.first.tiled1 positive isCell proper
          have shared12 := chain.first.shared met12 held proper
          have same12 := chain.first.fits.addresses
            (compared_iff.2 ⟨_, _, met12, shared12, rfl, rfl⟩)
          rcases chain.left_cases met12 met23 held proper with
            ⟨value2, proper2, held2, shared23⟩ | ⟨isPiece, -⟩
          · rcases same12 with ⟨none1, -⟩ | ⟨place1, target2, leads1', leads2, -, null12⟩
            · simp [leads1] at none1
            · rw [leads1, Option.some.injEq] at leads1'
              subst leads1'
              have proper2' : target2.object ≠ .null := fun null => proper1 (null12.2 null)
              exact ⟨target2.object,
                .address met12 (cell?_eq_some_iff.2 ⟨shared12, rfl⟩)
                  (cell?_eq_some_iff.2 ⟨shared12.symm, rfl⟩) leads1 leads2 proper1 proper2',
                .address met23 (cell?_eq_some_iff.2 ⟨shared23, rfl⟩)
                  (cell?_eq_some_iff.2 ⟨shared23.symm, rfl⟩) leads2 leads3 proper2' proper3⟩
          · rcases same12 with ⟨none1, -⟩ | ⟨_, _, -, leads2, -⟩
            · simp [leads1] at none1
            · simp [isPiece, Cell.address?] at leads2

/-- No left field that does not hold zero is cut by the right graph. -/
theorem not_cuts (met12 : Met left middle object1 object2)
    (met23 : Met middle right object2 object3) (held : left.valueAt? object1 range = some value)
    (proper : value ≠ .zero) : ¬ right.Cuts object3 range := by
  rcases chain.left_cases met12 met23 held proper with
    ⟨value2, proper2, held2, -⟩ | ⟨-, -, outer, value2, held2, within, proper2⟩
  · exact chain.second.not_cuts met23 held2 proper2
  · exact fun cuts => chain.second.not_cuts met23 held2 proper2 (cuts.mono within)

/-- Objects that meet have the same layout as far as it is known that they may be accessed. -/
theorem valid (met12 : Met left middle object1 object2) (met23 : Met middle right object2 object3)
    (shared : Shared left right object1 object3 range) :
    left.isValid object1 = true ∧ right.isValid object3 = true := by
  have same := (chain.first.fits.valid met12).trans (chain.second.fits.valid met23)
  rcases shared.exists_outer chain.first.tiled1 chain.second.tiled2 with
    ⟨outer, value, held, -⟩ | ⟨outer, value, held, -⟩
  · have valid := chain.first.freed1 held
    exact ⟨valid, same ▸ valid⟩
  · have valid := chain.second.freed2 held
    exact ⟨same ▸ valid, valid⟩

/-- What the outer two graphs compare goes through the middle one. -/
theorem through (compared : Compared left right range cell1 cell3) :
    Through left middle right range cell1 cell3 := by
  obtain ⟨object1, object3, met13, shared13, rfl, rfl⟩ := compared_iff.1 compared
  obtain ⟨object2, met12, met23⟩ := chain.exists_middle met13
  have tiled1 := chain.first.tiled1
  have tiled3 := chain.second.tiled2
  have positive := shared13.positive tiled1 tiled3
  have holds {graph : Graph} {object : ObjectId} {value : ValueId}
      (held : graph.valueAt? object range = some value) : graph.HoldsAt value range.size :=
    ⟨object, range, held, rfl⟩
  rcases cellAt_cases tiled1 tiled3 (chain.valid met12 met23 shared13).1
    (fun held proper => chain.not_cuts met12 met23 held proper) shared13 with
    zero1 | ⟨value1, proper1, held1⟩
  case inr =>
    have shared12 := chain.first.shared met12 held1 proper1
    rw [cellAt_of_held tiled1 held1]
    rcases chain.left_cases met12 met23 held1 proper1 with
      ⟨value2, proper2, held2, shared23⟩ | ⟨piece2, piece3, -⟩
    · have is2 := (cellAt_of_held chain.first.tiled2 held2).symm
      exact .field proper2 (holds held2)
        (compared_iff.2 ⟨_, _, met12, shared12, (cellAt_of_held tiled1 held1).symm, is2⟩)
        (compared_iff.2 ⟨_, _, met23, shared23, is2, rfl⟩)
    · rw [piece3]
      exact .part met23 (compared_iff.2
        ⟨_, _, met12, shared12, (cellAt_of_held tiled1 held1).symm, piece2.symm⟩)
  case inl =>
    rw [zero1]
    cases is3 : cellAt right object3 range with
    | piece holder piece =>
        obtain ⟨rfl, rfl⟩ := eq_of_cellAt_piece is3
        exact .zeroPart
    | value value3 =>
        by_cases proper3 : value3 = .zero
        · subst proper3
          exact .zeros
        · have held3 := held_of_cellAt tiled3 positive is3 proper3
          have shared23 := chain.right_shared met23 held3 proper3
          rcases chain.second.cases met23 shared23 with zero2 | ⟨value2, proper2, held2⟩
          · exact .zeroField proper3 (holds held3)
              (compared_iff.2 ⟨_, _, met23, shared23, zero2.symm, is3.symm⟩)
          · have is2 := (cellAt_of_held chain.first.tiled2 held2).symm
            have shared12 := (shared_of_held chain.first.tiled2 tiled1 held2
              (shared13.not_cuts1 tiled1 tiled3)).symm
            exact .zeroFields proper2 (holds held2)
              (compared_iff.2 ⟨_, _, met12, shared12, zero1.symm, is2⟩)
              (compared_iff.2 ⟨_, _, met23, shared23, is2, is3.symm⟩)

/-! ### What fits -/

theorem oneToOne {other1 other3 : ObjectId} (met : Met left right object1 object3)
    (met' : Met left right other1 other3) : object1 = other1 ↔ object3 = other3 := by
  obtain ⟨object2, met12, met23⟩ := chain.exists_middle met
  obtain ⟨other2, met12', met23'⟩ := chain.exists_middle met'
  exact (chain.first.fits.oneToOne met12 met12').trans (chain.second.fits.oneToOne met23 met23')

theorem leftOnce {range1 range2 : BitRange} {cell other1 other2 : Cell}
    (compared : Compared left right range1 cell other1)
    (compared' : Compared left right range2 cell other2) : cell = .zero ∨ other1 = other2 := by
  refine Classical.or_iff_not_imp_left.2 fun proper => ?_
  rcases (chain.through compared).of_left proper with
    ⟨value2, proper2, first, second⟩ | ⟨object2, object3, met, first, rfl⟩
  · rcases (chain.through compared').of_left proper with
      ⟨other, _, first', second'⟩ | ⟨_, _, _, first', _⟩
    · obtain rfl := Cell.value.inj ((chain.first.fits.leftOnce first first').resolve_left proper)
      exact (chain.second.fits.leftOnce second second').resolve_left fun zero =>
        proper2 (Cell.value.inj zero)
    · simpa using (chain.first.fits.leftOnce first first').resolve_left proper
  · rcases (chain.through compared').of_left proper with
      ⟨other, _, first', second'⟩ | ⟨other2, other3, met', first', rfl⟩
    · simpa using (chain.first.fits.leftOnce first first').resolve_left proper
    · obtain ⟨rfl, rfl⟩ :=
        Cell.piece.inj ((chain.first.fits.leftOnce first first').resolve_left proper)
      rw [(chain.second.fits.oneToOne met met').1 rfl]

theorem rightOnce {range1 range2 : BitRange} {cell other1 other2 : Cell}
    (compared : Compared left right range1 other1 cell)
    (compared' : Compared left right range2 other2 cell) : cell = .zero ∨ other1 = other2 := by
  refine Classical.or_iff_not_imp_left.2 fun proper => ?_
  cases isCell : cell with
  | value value3 =>
      have proper3 : value3 ≠ .zero := fun zero => proper (by rw [isCell, zero]; rfl)
      obtain ⟨cell2, second, ways⟩ := (chain.through compared).of_right isCell proper3
      obtain ⟨cell2', second', ways'⟩ := (chain.through compared').of_right isCell proper3
      obtain rfl := (chain.second.fits.rightOnce second second').resolve_left proper
      rcases ways with ⟨zero2, rfl⟩ | ⟨proper2, first⟩
      · exact (ways'.resolve_right fun other => other.1 zero2).2.symm
      · exact (chain.first.fits.rightOnce first
          (ways'.resolve_left fun other => proper2 other.1).2).resolve_left proper2
  | piece holder piece =>
      obtain ⟨object1, object3, met, shared, rfl, is3⟩ := compared_iff.1 compared
      obtain ⟨object1', object3', met', shared', rfl, is3'⟩ := compared_iff.1 compared'
      obtain ⟨rfl, rfl⟩ := eq_of_cellAt_piece (is3.symm.trans isCell)
      obtain ⟨rfl, rfl⟩ := eq_of_cellAt_piece (is3'.symm.trans isCell)
      rw [(chain.oneToOne met met').2 rfl]

theorem addresses (compared : Compared left right range cell1 cell3) :
    SameAddress left right cell1 cell3 := by
  cases chain.through compared with
  | zeros => exact .inl ⟨rfl, rfl⟩
  | zeroPart => exact .inl ⟨rfl, rfl⟩
  | zeroField _ _ second => exact .inl ⟨rfl, (chain.second.fits.addresses second).none_right rfl⟩
  | zeroFields _ _ first second =>
      exact (chain.first.fits.addresses first).trans (chain.second.fits.addresses second)
  | part _ first => exact .inl ⟨(chain.first.fits.addresses first).none_left rfl, rfl⟩
  | field _ _ first second =>
      exact (chain.first.fits.addresses first).trans (chain.second.fits.addresses second)

theorem known {number : Int} (compared : Compared left right range cell1 cell3)
    (noAddress : cell1.address? left = none) (isNumber : cell3.number? right = some number) :
    (cell1.number? left).isSome = true := by
  cases chain.through compared with
  | zeros | zeroPart | zeroField | zeroFields =>
      exact Option.isSome_iff_exists.2 ⟨0, chain.first.zero1⟩
  | part => simp [Cell.number?] at isNumber
  | field _ _ first second =>
      obtain ⟨number2, isNumber2⟩ := Option.isSome_iff_exists.1 (chain.second.fits.known second
        ((chain.first.fits.addresses first).none_right noAddress) isNumber)
      exact chain.first.fits.known first noAddress isNumber2

/-- Numbers that go through a field of the middle graph agree within its width. -/
theorem agree_of_fields {value1 value2 value3 : ValueId} {number1 number3 : Int}
    (proper2 : value2 ≠ .zero) (holds : middle.HoldsAt value2 range.size)
    (first : Compared left middle range (.value value1) (.value value2))
    (second : Compared middle right range (.value value2) (.value value3))
    (noAddress : address? left value1 = none) (isNumber1 : left.number? value1 = some number1)
    (isNumber3 : right.number? value3 = some number3) :
    Number.agreeIn number1 number3 range.size = true := by
  have noAddress2 : address? middle value2 = none :=
    (chain.first.fits.addresses first).none_right noAddress
  obtain ⟨number2, isNumber2⟩ := Option.isSome_iff_exists.1
    (chain.second.fits.known second noAddress2 isNumber3)
  obtain ⟨size, fit⟩ := chain.first.agree first noAddress isNumber1 isNumber2
  obtain ⟨size', fit'⟩ := chain.second.agree second noAddress2 isNumber2 isNumber3
  obtain rfl := chain.width2 proper2 isNumber2 holds (fit.right.resolve_left proper2)
  obtain rfl := chain.width2 proper2 isNumber2 holds (fit'.left.resolve_left proper2)
  have same := fit.agree
  have same' := fit'.agree
  rw [Number.agreeIn, beq_iff_eq] at same same' ⊢
  exact same.trans same'

theorem agreeEverywhere : AgreeEverywhere left right := by
  intro range cell1 cell3 number1 number3 compared noAddress isNumber1 isNumber3
  cases chain.through compared with
  | zeros =>
      obtain rfl := Option.some.inj (isNumber1.symm.trans chain.first.zero1)
      obtain rfl := Option.some.inj (isNumber3.symm.trans chain.second.zero2)
      exact beq_self_eq_true _
  | zeroPart => simp [Cell.number?] at isNumber3
  | part => simp [Cell.number?] at isNumber3
  | zeroField proper3 holds second =>
      obtain ⟨size, fit⟩ := chain.second.agree second noAddress chain.second.zero1 isNumber3
      obtain rfl := chain.width3 proper3 isNumber3 holds (fit.right.resolve_left proper3)
      obtain rfl := Option.some.inj (isNumber1.symm.trans chain.first.zero1)
      exact fit.agree
  | zeroFields proper2 holds first second =>
      exact chain.agree_of_fields proper2 holds first second noAddress isNumber1 isNumber3
  | @field _ _ cell3 proper2 holds first second =>
      cases cell3 with
      | piece => simp [Cell.number?] at isNumber3
      | value =>
          exact chain.agree_of_fields proper2 holds first second noAddress isNumber1 isNumber3

/-- The right graph covers the left one. -/
theorem cover : Cover left right where
  fits :=
    { scopes := chain.first.fits.scopes.trans chain.second.fits.scopes
      size := fun met => by
        obtain ⟨object2, met12, met23⟩ := chain.exists_middle met
        exact (chain.first.fits.size met12).trans (chain.second.fits.size met23)
      valid := fun met => by
        obtain ⟨object2, met12, met23⟩ := chain.exists_middle met
        exact (chain.first.fits.valid met12).trans (chain.second.fits.valid met23)
      oneToOne := chain.oneToOne
      whole := fun met field member => by
        obtain ⟨object2, met12, met23⟩ := chain.exists_middle met
        refine (losesValue_eq_false_iff chain.first.tiled1 chain.second.tiled2 member).2 ?_
        by_cases proper : field.value = .zero
        · exact .inl proper
        · exact .inr (chain.not_cuts met12 met23 (Graph.mem_fieldsOf_iff.1 member).2 proper)
      leftOnce := chain.leftOnce
      rightOnce := chain.rightOnce
      addresses := chain.addresses
      known := chain.known }
  numbers := chain.agreeEverywhere

end Chain

end Join

end ShapeDomain
