import ShapeDomain.Proofs.Coverage.Defs

/-!
# The contents of aligned ranges

Objects that meet are compared in the ranges that both have after their layouts were aligned.  What
an object holds in such a range depends on its own fields alone: it is the value of the field in
this range, zero or unknown if the range is a part of a field, and what untouched memory counts as
if no field is around the range.
-/

namespace ShapeDomain

namespace Graph

/-- A field of an object starts or ends strictly inside a range. -/
def Cuts (graph : Graph) (object : ObjectId) (range : BitRange) : Prop :=
  ∃ other value, graph.valueAt? object other = some value ∧
    ((range.offset < other.offset ∧ other.offset < range.offset + range.size) ∨
      (range.offset < other.offset + other.size ∧
        other.offset + other.size < range.offset + range.size))

theorem cuts_iff {graph : Graph} {object : ObjectId} {range : BitRange} :
    graph.Cuts object range ↔ ∃ field ∈ graph.fieldsOf object,
      (range.offset < field.range.offset ∧ field.range.offset < range.offset + range.size) ∨
        (range.offset < field.range.offset + field.range.size ∧
          field.range.offset + field.range.size < range.offset + range.size) := by
  constructor
  · rintro ⟨inner, value, held, inside⟩
    exact ⟨⟨object, inner, value⟩, mem_fieldsOf.2 held, inside⟩
  · rintro ⟨field, member, inside⟩
    exact ⟨field.range, field.value, (mem_fieldsOf_iff.1 member).2, inside⟩

instance (graph : Graph) (object : ObjectId) (range : BitRange) :
    Decidable (graph.Cuts object range) :=
  decidable_of_iff _ cuts_iff.symm

end Graph

namespace Join

open ShapeDomain.Alignment

variable {left right graph other : Graph} {object1 object2 object : ObjectId}
variable {range outer : BitRange} {value : ValueId}

/-! ### Shared ranges -/

/-- Two objects both have a range after their layouts were aligned. -/
def Shared (left right : Graph) (object1 object2 : ObjectId) (range : BitRange) : Prop :=
  range ∈ sharedRanges (left.fieldsOf object1) (right.fieldsOf object2)

theorem Shared.symm (shared : Shared left right object1 object2 range) :
    Shared right left object2 object1 range :=
  mem_sharedRanges_comm.1 shared

theorem stop_of_member (tiled : graph.Tiled) {field : Field}
    (member : field ∈ graph.fieldsOf object) :
    field.range.stop = field.range.offset + field.range.size := by
  obtain ⟨found, -, fit⟩ := tiled.fits (Graph.mem_fieldsOf_iff.1 member).2
  exact BitRange.stop_of_fits fit

/-- The boundaries of the layouts of two objects. -/
def cuts (left right : Graph) (object1 object2 : ObjectId) : KeySet Nat :=
  boundaries (left.fieldsOf object1 ++ right.fieldsOf object2)

theorem cuttable1 (tiled : left.Tiled) (right : Graph) (object2 : ObjectId) :
    ∀ field ∈ left.fieldsOf object1, Cuttable (cuts left right object1 object2) object1 field :=
  fun field member => cuttable_of_tiled tiled member
    (contains_boundaries_iff.2 ⟨field, List.mem_append_left _ member, .inl rfl⟩)
    (contains_boundaries_iff.2 ⟨field, List.mem_append_left _ member, .inr rfl⟩)

theorem cuttable2 (tiled : right.Tiled) (left : Graph) (object1 : ObjectId) :
    ∀ field ∈ right.fieldsOf object2, Cuttable (cuts left right object1 object2) object2 field :=
  fun field member => cuttable_of_tiled tiled member
    (contains_boundaries_iff.2 ⟨field, List.mem_append_right _ member, .inl rfl⟩)
    (contains_boundaries_iff.2 ⟨field, List.mem_append_right _ member, .inr rfl⟩)

/-- A shared range is undivided. -/
theorem Shared.elementary (shared : Shared left right object1 object2 range) (tiled1 : left.Tiled)
    (tiled2 : right.Tiled) : Elementary (cuts left right object1 object2) range := by
  rcases mem_sharedRanges_iff.1 shared with piece | piece
  · exact ((mem_allPieces_iff (cuttable1 tiled1 right object2)).1 piece).1
  · exact ((mem_allPieces_iff (cuttable2 tiled2 left object1)).1 piece).1

theorem Shared.positive (shared : Shared left right object1 object2 range) (tiled1 : left.Tiled)
    (tiled2 : right.Tiled) : 0 < range.size :=
  (shared.elementary tiled1 tiled2).positive

/-- No field of a graph cuts the range of another one of the same object. -/
theorem not_cuts_of_held (tiled : graph.Tiled) (held : graph.valueAt? object range = some value) :
    ¬ graph.Cuts object range := by
  rintro ⟨inner, other, held', inside⟩
  rcases tiled.apart held held' with rfl | before | after <;> omega

/-- No field of the left object starts or ends strictly inside a shared range. -/
theorem Shared.not_cuts1 (shared : Shared left right object1 object2 range) (tiled1 : left.Tiled)
    (tiled2 : right.Tiled) : ¬ left.Cuts object1 range := by
  rintro ⟨inner, value, held, inside⟩
  have member : ⟨object1, inner, value⟩ ∈ left.fieldsOf object1 := Graph.mem_fieldsOf.2 held
  have undivided := (shared.elementary tiled1 tiled2).undivided
  have start := undivided inner.offset (contains_boundaries_iff.2
    ⟨_, List.mem_append_left _ member, .inl rfl⟩)
  have finish := undivided (inner.offset + inner.size) (contains_boundaries_iff.2
    ⟨_, List.mem_append_left _ member, .inr (stop_of_member tiled1 member).symm⟩)
  omega

/-- The range of a field of the left object is shared, if no field of the right one cuts it. -/
theorem shared_of_held (tiled1 : left.Tiled) (tiled2 : right.Tiled)
    (held : left.valueAt? object1 range = some value) (uncut : ¬ right.Cuts object2 range) :
    Shared left right object1 object2 range := by
  have member : ⟨object1, range, value⟩ ∈ left.fieldsOf object1 := Graph.mem_fieldsOf.2 held
  have stop := stop_of_member tiled1 member
  have elementary : Elementary (cuts left right object1 object2) range := by
    refine ⟨tiled1.positive held, contains_boundaries_iff.2
      ⟨_, List.mem_append_left _ member, .inl rfl⟩, contains_boundaries_iff.2
      ⟨_, List.mem_append_left _ member, .inr stop.symm⟩, fun cut isCut => ?_⟩
    obtain ⟨field, inside, isBoundary⟩ := contains_boundaries_iff.1 isCut
    rcases List.mem_append.1 inside with mine | others
    · have stop' := stop_of_member tiled1 mine
      rcases tiled1.apart held (Graph.mem_fieldsOf_iff.1 mine).2 with rfl | before | after <;> omega
    · have stop' := stop_of_member tiled2 others
      have bound : ¬ ((range.offset < field.range.offset ∧
          field.range.offset < range.offset + range.size) ∨
          (range.offset < field.range.offset + field.range.size ∧
            field.range.offset + field.range.size < range.offset + range.size)) := fun inner =>
        uncut ⟨field.range, field.value, (Graph.mem_fieldsOf_iff.1 others).2, inner⟩
      omega
  exact mem_sharedRanges_iff.2 (.inl ((mem_allPieces_iff (cuttable1 tiled1 right object2)).2
    ⟨elementary, _, member, Nat.le_refl _, Nat.le_refl _⟩))

/-- A shared range lies within a field of one of the objects. -/
theorem Shared.exists_outer (shared : Shared left right object1 object2 range)
    (tiled1 : left.Tiled) (tiled2 : right.Tiled) :
    (∃ outer value, left.valueAt? object1 outer = some value ∧ Within range outer) ∨
      ∃ outer value, right.valueAt? object2 outer = some value ∧ Within range outer := by
  rcases mem_sharedRanges_iff.1 shared with piece | piece
  · obtain ⟨-, field, member, within⟩ :=
      (mem_allPieces_iff (cuttable1 tiled1 right object2)).1 piece
    exact .inl ⟨field.range, field.value, (Graph.mem_fieldsOf_iff.1 member).2, within⟩
  · obtain ⟨-, field, member, within⟩ := (mem_allPieces_iff (cuttable2 tiled2 left object1)).1 piece
    exact .inr ⟨field.range, field.value, (Graph.mem_fieldsOf_iff.1 member).2, within⟩

/-- What an aligned range that lies strictly within a field of the left object was cut out of it by
the right object. -/
theorem Shared.cuts_outer (shared : Shared left right object1 object2 range) (tiled1 : left.Tiled)
    (tiled2 : right.Tiled) (held : left.valueAt? object1 outer = some value)
    (within : Within range outer) (proper : range ≠ outer) : right.Cuts object2 outer := by
  have elementary := shared.elementary tiled1 tiled2
  have positive := elementary.positive
  have inside : (outer.offset < range.offset) ∨
      (range.offset + range.size < outer.offset + outer.size) := by
    by_contra same
    exact proper (BitRange.eq_of_offset_of_size (by have := within.1; omega)
      (by have := within.1; have := within.2; omega))
  -- An end of the range that is strictly inside the field is a boundary of the other object.
  have other {cut : Nat} (isCut : (cuts left right object1 object2).contains cut = true)
      (inner : outer.offset < cut ∧ cut < outer.offset + outer.size) :
        right.Cuts object2 outer := by
    obtain ⟨field, member, isBoundary⟩ := contains_boundaries_iff.1 isCut
    rcases List.mem_append.1 member with mine | others
    · have stop := stop_of_member tiled1 mine
      rcases tiled1.apart held (Graph.mem_fieldsOf_iff.1 mine).2 with rfl | before | after <;> omega
    · have stop := stop_of_member tiled2 others
      exact ⟨field.range, field.value, (Graph.mem_fieldsOf_iff.1 others).2, by omega⟩
  have := within.1
  have := within.2
  rcases inside with before | after
  · exact other elementary.start (by omega)
  · exact other elementary.finish (by omega)

/-! ### Contents -/

/-- The contents of an object in an aligned range. -/
def cellAt (graph : Graph) (object : ObjectId) (range : BitRange) : Cell :=
  match slotAt graph object range with
  | .kept value => .value value
  | .zero => .zero
  | .empty | .unknown => .piece object range

theorem cell?_eq_some_iff {cell : Cell} : cell? left right object1 object2 range = some cell ↔
    Shared left right object1 object2 range ∧ cell = cellAt left object1 range := by
  unfold cell? cellAt
  by_cases shared : Shared left right object1 object2 range
  · have isSlot : slot left right object1 object2 range = slotAt left object1 range := if_pos shared
    have filled := slotAt_ne_empty left object1 range
    rw [isSlot]
    cases found : slotAt left object1 range <;> simp_all [eq_comm]
  · have isSlot : slot left right object1 object2 range = .empty := if_neg shared
    simp [isSlot, shared]

/-- Contents that are compared, by the objects that meet and the range. -/
theorem compared_iff {cell1 cell2 : Cell} : Compared left right range cell1 cell2 ↔
    ∃ object1 object2, Met left right object1 object2 ∧ Shared left right object1 object2 range ∧
      cell1 = cellAt left object1 range ∧ cell2 = cellAt right object2 range := by
  unfold Compared
  simp only [cell?_eq_some_iff]
  constructor
  · rintro ⟨object1, object2, met, ⟨shared, is1⟩, -, is2⟩
    exact ⟨object1, object2, met, shared, is1, is2⟩
  · rintro ⟨object1, object2, met, shared, is1, is2⟩
    exact ⟨object1, object2, met, ⟨shared, is1⟩, shared.symm, is2⟩

/-- A field holds its value. -/
theorem cellAt_of_held (tiled : graph.Tiled) (held : graph.valueAt? object range = some value) :
    cellAt graph object range = .value value := by
  have member : ⟨object, range, value⟩ ∈ graph.fieldsOf object := Graph.mem_fieldsOf.2 held
  rw [cellAt, slotAt_of_within tiled member (tiled.positive held) ⟨Nat.le_refl _, Nat.le_refl _⟩,
    if_pos rfl]

/-- A part of a field is zero or unknown. -/
theorem cellAt_of_within (tiled : graph.Tiled) (held : graph.valueAt? object outer = some value)
    (positive : 0 < range.size) (within : Within range outer) (proper : range ≠ outer) :
    cellAt graph object range = if value.isZero then .zero else .piece object range := by
  have member : ⟨object, outer, value⟩ ∈ graph.fieldsOf object := Graph.mem_fieldsOf.2 held
  rw [cellAt, slotAt_of_within tiled member positive within, if_neg proper, Slot.filled]
  cases value.isZero <;> rfl

/-- Where there is no field, memory that may be accessed counts as zero. -/
theorem cellAt_of_gap
    (gap : ∀ outer value, graph.valueAt? object outer = some value → ¬ Within range outer) :
    cellAt graph object range =
      if graph.isValid object then .zero else .piece object range := by
  have none : (graph.fieldsOf object).find? (fun field => decide (Within range field.range)) =
      none := by
    rw [List.find?_eq_none]
    intro field member
    simpa using gap field.range field.value (Graph.mem_fieldsOf_iff.1 member).2
  rw [cellAt, slotAt, none, Slot.filled]
  cases graph.isValid object <;> rfl

/-- A field is around a range, or none is. -/
theorem within_or_gap (graph : Graph) (object : ObjectId) (range : BitRange) :
    (∃ outer value, graph.valueAt? object outer = some value ∧ Within range outer) ∨
      ∀ outer value, graph.valueAt? object outer = some value → ¬ Within range outer := by
  by_cases inside : ∃ outer value, graph.valueAt? object outer = some value ∧ Within range outer
  · exact .inl inside
  · exact .inr fun outer value held within => inside ⟨outer, value, held, within⟩

/-- Only a field holds a value other than zero. -/
theorem held_of_cellAt (tiled : graph.Tiled) (positive : 0 < range.size)
    (isCell : cellAt graph object range = .value value) (proper : value ≠ .zero) :
    graph.valueAt? object range = some value := by
  have notZero : Cell.zero ≠ .value value := fun same => proper (Cell.value.inj same).symm
  rcases within_or_gap graph object range with ⟨outer, held, isHeld, within⟩ | gap
  · by_cases same : range = outer
    · subst same
      rw [cellAt_of_held tiled isHeld] at isCell
      rw [isHeld, Cell.value.inj isCell]
    · rw [cellAt_of_within tiled isHeld positive within same] at isCell
      split at isCell
      · exact absurd isCell notZero
      · simp at isCell
  · rw [cellAt_of_gap gap] at isCell
    split at isCell
    · exact absurd isCell notZero
    · simp at isCell

/-- Unknown contents are those of the object and the range themselves. -/
theorem eq_of_cellAt_piece {holder : ObjectId} {piece : BitRange}
    (isCell : cellAt graph object range = .piece holder piece) :
    holder = object ∧ piece = range := by
  unfold cellAt at isCell
  split at isCell
  · simp at isCell
  · simp [Cell.zero] at isCell
  all_goals
    obtain ⟨rfl, rfl⟩ := Cell.piece.inj isCell
    exact ⟨rfl, rfl⟩

/-- Only a part of a field that does not hold zero is unknown, in an object that may be accessed. -/
theorem exists_of_cellAt_piece (tiled : graph.Tiled) (valid : graph.isValid object = true)
    (positive : 0 < range.size) {holder : ObjectId} {piece : BitRange}
    (isCell : cellAt graph object range = .piece holder piece) :
    ∃ outer value, graph.valueAt? object outer = some value ∧ Within range outer ∧ range ≠ outer ∧
      value ≠ .zero := by
  rcases within_or_gap graph object range with ⟨outer, held, isHeld, within⟩ | gap
  · by_cases same : range = outer
    · subst same
      rw [cellAt_of_held tiled isHeld] at isCell
      simp at isCell
    · rw [cellAt_of_within tiled isHeld positive within same] at isCell
      split at isCell
      case isTrue => simp [Cell.zero] at isCell
      case isFalse proper =>
        exact ⟨outer, held, isHeld, within, same, by
          rintro rfl
          exact proper rfl⟩
  · rw [cellAt_of_gap gap, if_pos valid] at isCell
    simp [Cell.zero] at isCell

/-- A field that does not lose its value is not cut. -/
theorem losesValue_eq_false_iff (tiled1 : left.Tiled) (tiled2 : right.Tiled) {field : Field}
    (member : field ∈ left.fieldsOf object1) :
    losesValue (boundaries (left.fieldsOf object1 ++ right.fieldsOf object2)) field = false ↔
      field.value = .zero ∨ ¬ right.Cuts object2 field.range := by
  obtain ⟨-, held⟩ := Graph.mem_fieldsOf_iff.1 member
  have exact := stop_of_member tiled1 member
  have uncut : inside (cuts left right object1 object2) field.range = [] ↔
      ¬ right.Cuts object2 field.range := by
    rw [List.eq_nil_iff_forall_not_mem]
    constructor
    · rintro none ⟨inner, value, isHeld, within⟩
      have others : ⟨object2, inner, value⟩ ∈ right.fieldsOf object2 := Graph.mem_fieldsOf.2 isHeld
      rcases within with start | finish
      · exact none inner.offset ((mem_inside_iff exact).2 ⟨contains_boundaries_iff.2
          ⟨_, List.mem_append_right _ others, .inl rfl⟩, start⟩)
      · exact none (inner.offset + inner.size) ((mem_inside_iff exact).2 ⟨contains_boundaries_iff.2
          ⟨_, List.mem_append_right _ others, .inr (stop_of_member tiled2 others).symm⟩, finish⟩)
    · intro uncut cut isInside
      obtain ⟨isCut, inner⟩ := (mem_inside_iff exact).1 isInside
      exact (shared_of_held tiled1 tiled2 held uncut).elementary
        tiled1 tiled2 |>.undivided cut isCut
        |>.elim (fun before => by omega) fun after => by omega
  rw [losesValue, Bool.and_eq_false_iff, Bool.not_eq_false', Bool.not_eq_false', List.isEmpty_iff]
  rw [show inside (boundaries _) field.range = [] ↔ _ from uncut]
  rw [or_comm, ValueId.isZero, beq_iff_eq]

/-! ### Objects with the same ranges -/

section Same

variable (tiled1 : left.Tiled) (tiled2 : right.Tiled)
variable (same : SameRanges left right object1 object2)

include tiled2 same

/-- Objects with the same ranges do not cut each other's fields. -/
theorem not_cuts_of_same (held : left.valueAt? object1 range = some value) :
    ¬ right.Cuts object2 range := by
  obtain ⟨other, held2⟩ : ∃ other, right.valueAt? object2 range = some other := by
    rw [← Option.isSome_iff_exists, ← same, held]
    rfl
  exact not_cuts_of_held tiled2 held2

include tiled1

/-- Objects with the same ranges share these and no others. -/
theorem shared_iff_of_same : Shared left right object1 object2 range ↔
    ∃ value, left.valueAt? object1 range = some value := by
  constructor
  · intro shared
    have same' : SameRanges right left object2 object1 := fun range => (same range).symm
    rcases shared.exists_outer tiled1 tiled2 with ⟨outer, value, held, within⟩ |
      ⟨outer, value, held, within⟩
    · by_cases whole : range = outer
      · exact ⟨value, whole ▸ held⟩
      · exact absurd (shared.cuts_outer tiled1 tiled2 held within whole)
          (not_cuts_of_same tiled2 same held)
    · by_cases whole : range = outer
      · rw [← Option.isSome_iff_exists, same, whole, held]
        rfl
      · exact absurd (shared.symm.cuts_outer tiled2 tiled1 held within whole)
          (not_cuts_of_same tiled1 same' held)
  · rintro ⟨value, held⟩
    exact shared_of_held tiled1 tiled2 held (not_cuts_of_same tiled2 same held)

/-- What objects with the same ranges hold is compared as it is. -/
theorem cell?_of_same :
    cell? left right object1 object2 range = (left.valueAt? object1 range).map .value := by
  cases held : left.valueAt? object1 range with
  | none =>
      refine Option.eq_none_iff_forall_ne_some.2 fun cell isCell => ?_
      obtain ⟨value, held'⟩ := (shared_iff_of_same tiled1 tiled2 same).1
        (cell?_eq_some_iff.1 isCell).1
      rw [held] at held'
      simp at held'
  | some value =>
      exact cell?_eq_some_iff.2 ⟨(shared_iff_of_same tiled1 tiled2 same).2 ⟨value, held⟩,
        (cellAt_of_held tiled1 held).symm⟩

end Same

end Join

end ShapeDomain
