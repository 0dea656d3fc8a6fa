import ShapeDomain.Proofs.Graph.Removal
import ShapeDomain.Proofs.State.Family

/-!
# What accesses do to the contents of an object

The fields of an object have bits, lie within it and have no bit in common, and accesses of at least
one bit keep it so.  A write replaces what its range held and leaves of other zero fields the parts
outside of the range; a read may put a value where nothing was.  Bit by bit this means that exactly
the written bits change between zero and not zero.
-/

namespace ShapeDomain

namespace BitRange

/-- A bit lies in a range. -/
def Has (range : BitRange) (bit : Nat) : Prop :=
  range.offset ≤ bit ∧ bit < range.offset + range.size

instance (range : BitRange) (bit : Nat) : Decidable (range.Has bit) :=
  inferInstanceAs (Decidable (_ ∧ _))

theorem has_iff {offset size bit : Nat} :
    (BitRange.mk offset size).Has bit ↔ offset ≤ bit ∧ bit < offset + size := Iff.rfl

/-- Ranges at positions overlap if they are not apart. -/
theorem overlaps_iff_not_apart {range other : BitRange} {size size' : Nat}
    (fit : range.fits size = true) (fit' : other.fits size' = true) :
    range.overlaps other = true ↔ ¬ range.Apart other := by
  rw [overlaps_iff, stop_of_fits fit, stop_of_fits fit', Apart]
  omega

/-- Ranges apart from each other have no bit in common. -/
theorem Apart.not_has {range other : BitRange} {bit : Nat} (apart : range.Apart other)
    (has : range.Has bit) : ¬ other.Has bit := by
  unfold Has at *
  rcases apart with before | after <;> omega

/-- Ranges that are not apart have a bit in common. -/
theorem exists_common {range other : BitRange} (bits : 0 < range.size) (bits' : 0 < other.size)
    (meet : ¬ range.Apart other) : ∃ bit, range.Has bit ∧ other.Has bit := by
  rw [Apart, not_or] at meet
  exact ⟨max range.offset other.offset, by unfold Has; omega, by unfold Has; omega⟩

/-- The parts of a range before and after another one. -/
def rests (range old : BitRange) : List BitRange :=
  (if old.offset < range.offset then [between old.offset range.offset] else []) ++
    (if range.stop < old.stop then [between range.stop old.stop] else [])

variable {range old rest : BitRange} {size bit : Nat}

theorem mem_rests_iff (fit : range.fits size = true) (fit' : old.fits size = true) :
    rest ∈ rests range old ↔
      old.offset < range.offset ∧ rest = between old.offset range.offset ∨
      range.offset + range.size < old.offset + old.size ∧
        rest = between (range.offset + range.size) (old.offset + old.size) := by
  rw [rests, stop_of_fits fit, stop_of_fits fit', List.mem_append]
  split <;> split <;> simp [*]

/-- What is left of a range lies within it, apart from the range that was cut out. -/
structure IsRest (range old rest : BitRange) : Prop where
  /-- It has bits. -/
  positive : 0 < rest.size
  /-- It starts within the old range. -/
  start : old.offset ≤ rest.offset
  /-- It ends within the old range. -/
  finish : rest.offset + rest.size ≤ old.offset + old.size
  /-- It is apart from the new range. -/
  apart : rest.Apart range

section Rests

variable (fit : range.fits size = true) (fit' : old.fits size = true) (meet : ¬ old.Apart range)

include fit fit' meet

theorem isRest_of_mem (member : rest ∈ rests range old) : IsRest range old rest := by
  have outside : ¬ (old.offset + old.size ≤ range.offset ∨
    range.offset + range.size ≤ old.offset) := meet
  rcases (mem_rests_iff fit fit').1 member with ⟨before, rfl⟩ | ⟨after, rfl⟩
  · refine ⟨?_, ?_, ?_, .inl ?_⟩ <;> simp only [between] <;> omega
  · refine ⟨?_, ?_, ?_, .inr ?_⟩ <;> simp only [between] <;> omega

/-- The bits that are left are those outside of the range that was cut out. -/
theorem exists_rest_iff :
    (∃ rest ∈ rests range old, rest.Has bit) ↔ old.Has bit ∧ ¬ range.Has bit := by
  have outside : ¬ (old.offset + old.size ≤ range.offset ∨
    range.offset + range.size ≤ old.offset) := meet
  simp only [mem_rests_iff fit fit', Has]
  constructor
  · rintro ⟨rest, ⟨before, rfl⟩ | ⟨after, rfl⟩, has⟩ <;> simp only [between] at has <;> omega
  · rintro ⟨inOld, notInRange⟩
    by_cases before : bit < range.offset
    · exact ⟨_, .inl ⟨by omega, rfl⟩, by simp only [between]; omega⟩
    · exact ⟨_, .inr ⟨by omega, rfl⟩, by simp only [between]; omega⟩

end Rests

theorem pairwise_rests (fit : range.fits size = true) :
    (rests range old).Pairwise BitRange.Apart := by
  have stop := stop_of_fits fit
  unfold rests
  split <;> split <;> simp only [List.nil_append, List.append_nil, List.singleton_append,
    List.pairwise_cons, List.Pairwise.nil, List.mem_singleton, and_true,
    forall_eq, List.not_mem_nil, false_implies, implies_true]
  left
  simp only [between]
  omega

end BitRange

namespace Graph

variable {graph next : Graph} {object : ObjectId} {size : Nat}

/-- Nothing is held in a range. -/
def Clear (graph : Graph) (object : ObjectId) (range : BitRange) : Prop :=
  ∀ {other held}, graph.valueAt? object other = some held → other.Apart range

/-- The fields of an object of a size lie within it and have no bit in common.  Some may be
empty. -/
structure LaidAt (graph : Graph) (object : ObjectId) (size : Nat) : Prop where
  /-- The object is there and has that size. -/
  present : ∃ found, graph.object? object = some found ∧ found.size = size
  /-- Its fields fit it. -/
  fits : ∀ {range value}, graph.valueAt? object range = some value → range.fits size = true
  /-- Different fields have no bit in common. -/
  apart : ∀ {range other value held}, graph.valueAt? object range = some value →
    graph.valueAt? object other = some held → range = other ∨ range.Apart other

theorem TiledAt.laid (tiled : graph.TiledAt object size) : graph.LaidAt object size :=
  ⟨tiled.present, tiled.fits, tiled.apart⟩

namespace LaidAt

variable {range : BitRange} {value : ValueId}

theorem tiled (laid : graph.LaidAt object size)
    (positive : ∀ {range value}, graph.valueAt? object range = some value → 0 < range.size) :
    graph.TiledAt object size :=
  ⟨laid.present, positive, laid.fits, laid.apart⟩

/-- What may be accessed lies within the object. -/
theorem fits_of_mayAccess (laid : graph.LaidAt object size)
    (allowed : State.mayAccess graph object range = true) : range.fits size = true := by
  obtain ⟨found, isFound, isSize⟩ := laid.present
  obtain ⟨placed, isPlaced, -, fit⟩ := State.exists_of_mayAccess allowed
  obtain rfl := Option.some.inj (isFound.symm.trans isPlaced)
  exact isSize ▸ fit

/-- The fields that a range overlaps are those that are not apart from it. -/
theorem mem_overlapping_iff (laid : graph.LaidAt object size) (fit : range.fits size = true)
    {field : Field} :
    field ∈ graph.overlapping object range ↔ (field.object = object ∧
      graph.valueAt? object field.range = some field.value) ∧ ¬ field.range.Apart range := by
  rw [Graph.overlapping, List.mem_filter, mem_fieldsOf_iff]
  constructor
  · rintro ⟨held, overlaps⟩
    exact ⟨held, (BitRange.overlaps_iff_not_apart (laid.fits held.2) fit).1 overlaps⟩
  · rintro ⟨held, meet⟩
    exact ⟨held, (BitRange.overlaps_iff_not_apart (laid.fits held.2) fit).2 meet⟩

/-- A field can be added where nothing is held and nothing starts. -/
theorem addField (laid : graph.LaidAt object size) (fit : range.fits size = true)
    (clear : graph.Clear object range)
    (free : ∀ {other held}, graph.valueAt? object other = some held → other.offset ≠ range.offset)
    (value : ValueId) :
    ∃ next, graph.addField ⟨object, range, value⟩ = .ok next ∧ next.LaidAt object size ∧
      ∀ {other held}, next.valueAt? object other = some held ↔
        (other = range ∧ held = value) ∨ graph.valueAt? object other = some held := by
  obtain ⟨found, isFound, isSize⟩ := laid.present
  have none : graph.valueAt? object range = none :=
    Option.eq_none_iff_forall_ne_some.2 fun _ held => free held rfl
  have holds {other : BitRange} {held : ValueId} :
      (graph.putField ⟨object, range, value⟩).valueAt? object other = some held ↔
        (other = range ∧ held = value) ∨ graph.valueAt? object other = some held := by
    rw [valueAt?_putField_iff]
    refine or_congr ⟨And.right, And.intro rfl⟩ (and_iff_left_of_imp fun held' _ => free held')
  refine ⟨_, addField_of_clear isFound (isSize ▸ fit) none fun held =>
    (clear held).overlaps_eq_false, ⟨laid.present, ?_, ?_⟩, holds⟩
  · intro other held isHeld
    rcases holds.1 isHeld with ⟨rfl, rfl⟩ | before
    · exact fit
    · exact laid.fits before
  · intro first second held held' isHeld isHeld'
    rcases holds.1 isHeld with ⟨rfl, rfl⟩ | before <;>
      rcases holds.1 isHeld' with ⟨rfl, rfl⟩ | before'
    · exact .inl rfl
    · exact .inr (clear before').symm
    · exact .inr (clear before)
    · exact laid.apart before before'

/-- A field that is removed leaves the others. -/
theorem removeField (laid : graph.LaidAt object size)
    (held : graph.valueAt? object range = some value) :
    (graph.removeField ⟨object, range, value⟩).LaidAt object size ∧
      ∀ {other held}, (graph.removeField ⟨object, range, value⟩).valueAt? object other = some held ↔
        graph.valueAt? object other = some held ∧ other ≠ range := by
  have holds {other : BitRange} {held' : ValueId} :
      (graph.removeField ⟨object, range, value⟩).valueAt? object other = some held' ↔
        graph.valueAt? object other = some held' ∧ other ≠ range := by
    rw [valueAt?_removeField]
    have present : graph.hasField ⟨object, range, value⟩ = true := hasField_iff.2 held
    by_cases same : other = range <;> simp [same, present]
  refine ⟨⟨?_, fun isHeld => laid.fits (holds.1 isHeld).1, fun isHeld isHeld' =>
    laid.apart (holds.1 isHeld).1 (holds.1 isHeld').1⟩, holds⟩
  obtain ⟨found, isFound, isSize⟩ := laid.present
  exact ⟨found, by rw [object?, objects_removeField]; exact isFound, isSize⟩

end LaidAt

namespace TiledAt

variable {range : BitRange} {value : ValueId}

/-- Fields that have a bit in common are the same. -/
theorem eq_of_common (tiled : graph.TiledAt object size) {other : BitRange} {held : ValueId}
    {bit : Nat} (here : graph.valueAt? object range = some value)
    (there : graph.valueAt? object other = some held) (has : range.Has bit)
    (has' : other.Has bit) : range = other :=
  (tiled.apart here there).resolve_right fun apart => apart.not_has has has'

/-- A field can be added where nothing is held. -/
theorem addField (tiled : graph.TiledAt object size) (bits : 0 < range.size)
    (fit : range.fits size = true) (clear : graph.Clear object range) (value : ValueId) :
    ∃ next, graph.addField ⟨object, range, value⟩ = .ok next ∧ next.TiledAt object size ∧
      ∀ {other held}, next.valueAt? object other = some held ↔
        (other = range ∧ held = value) ∨ graph.valueAt? object other = some held := by
  obtain ⟨next, added, laid, holds⟩ := tiled.laid.addField fit clear
    (fun held => (clear held).offset_ne (tiled.positive held) bits) value
  refine ⟨next, added, laid.tiled fun isHeld => ?_, holds⟩
  rcases holds.1 isHeld with ⟨rfl, rfl⟩ | before
  · exact bits
  · exact tiled.positive before

end TiledAt

end Graph

namespace State

open ShapeDomain.Graph (TiledAt LaidAt)

variable {here : State × Supply} {object : ObjectId} {size : Nat} {range : BitRange}

/-! ### Writing -/

theorem modifyGraph_apply (change : Graph → Graph) :
    modifyGraph change here = .ok () ({ here.1 with graph := change here.1.graph }, here.2) := rfl

/-- Several fields of one value can be added where nothing is held and nothing starts. -/
theorem forM_addField {parts : List BitRange} {value : ValueId}
    (laid : here.1.graph.LaidAt object size) (bits : ∀ part ∈ parts, 0 < part.size)
    (fit : ∀ part ∈ parts, part.fits size = true) (apart : parts.Pairwise BitRange.Apart)
    (clear : ∀ part ∈ parts, here.1.graph.Clear object part)
    (free : ∀ part ∈ parts, ∀ {other held}, here.1.graph.valueAt? object other = some held →
      other.offset ≠ part.offset) :
    ∃ next, ((parts.map fun part => Field.mk object part value).forM fun part =>
        attemptGraph fun graph => graph.addField part) here =
        .ok () ({ here.1 with graph := next }, here.2) ∧ next.LaidAt object size ∧
      ∀ {other held}, next.valueAt? object other = some held ↔
        (other ∈ parts ∧ held = value) ∨ here.1.graph.valueAt? object other = some held := by
  induction parts generalizing here with
  | nil => exact ⟨here.1.graph, rfl, laid, by simp⟩
  | cons part rest ih =>
      obtain ⟨first, later⟩ := List.pairwise_cons.1 apart
      obtain ⟨between, done, laid', holds⟩ := laid.addField (fit part List.mem_cons_self)
        (clear part List.mem_cons_self) (free part List.mem_cons_self) value
      have clear' : ∀ other ∈ rest, between.Clear object other := by
        intro other member old held isHeld
        rcases holds.1 isHeld with ⟨rfl, -⟩ | before
        · exact first other member
        · exact clear other (List.mem_cons_of_mem _ member) before
      have free' : ∀ other ∈ rest, ∀ {old held}, between.valueAt? object old = some held →
          old.offset ≠ other.offset := by
        intro other member old held isHeld
        rcases holds.1 isHeld with ⟨rfl, -⟩ | before
        · exact (first other member).offset_ne (bits _ List.mem_cons_self)
            (bits other (List.mem_cons_of_mem _ member))
        · exact free other (List.mem_cons_of_mem _ member) before
      obtain ⟨next, done', laid'', holds'⟩ := @ih ({ here.1 with graph := between }, here.2) laid'
        (fun other member => bits other (List.mem_cons_of_mem _ member))
        (fun other member => fit other (List.mem_cons_of_mem _ member)) later clear' free'
      refine ⟨next, (Run.bind_apply_ok (attemptGraph_ok done)).trans done', laid'',
        fun {other held} => ?_⟩
      rw [holds', holds, List.mem_cons, or_and_right, ← or_assoc, or_comm (a := other ∈ rest ∧ _)]

theorem remainders_eq (range : BitRange) (field : Field) :
    remainders range field =
      if field.value.isZero then
        (BitRange.rests range field.range).map fun rest => ⟨field.object, rest, field.value⟩
      else [] := by
  unfold remainders BitRange.rests
  split
  · rw [List.map_append]
    split <;> split <;> rfl
  · rfl

/-- What an object holds after one of its fields was overwritten. -/
theorem overwrite_ok {field : Field} (laid : here.1.graph.LaidAt object size)
    (fit : range.fits size = true) (inObject : field.object = object)
    (held : here.1.graph.valueAt? object field.range = some field.value)
    (meet : ¬ field.range.Apart range) :
    ∃ next, overwrite range field here = .ok () ({ here.1 with graph := next }, here.2) ∧
      next.LaidAt object size ∧
      ∀ {other value}, next.valueAt? object other = some value ↔
        (here.1.graph.valueAt? object other = some value ∧ other ≠ field.range) ∨
        (field.value = .zero ∧ value = .zero ∧ other ∈ BitRange.rests range field.range) := by
  have isField : field = ⟨object, field.range, field.value⟩ := by rw [← inObject]
  obtain ⟨laid', removed⟩ := laid.removeField held
  rw [← isField] at laid' removed
  have fit' := laid.fits held
  cases zero : field.value.isZero with
  | false =>
      have proper : field.value ≠ .zero := by
        intro same
        simp [ValueId.isZero, same] at zero
      refine ⟨_, ?_, laid', fun {other value} => ?_⟩
      · refine (Run.bind_apply_ok (modifyGraph_apply _)).trans ?_
        rw [remainders_eq, zero]
        rfl
      · simp [removed, proper]
  | true =>
      have isZero : field.value = .zero := by simpa [ValueId.isZero] using zero
      have isRest {rest : BitRange} (member : rest ∈ BitRange.rests range field.range) :=
        BitRange.isRest_of_mem fit fit' meet member
      have fits (rest : BitRange) (member : rest ∈ BitRange.rests range field.range) :
          rest.fits size = true := by
        have bounds := BitRange.fits_iff.1 fit'
        have inside := (isRest member).finish
        exact BitRange.fits_iff.2 ⟨by omega, by omega⟩
      have clear (rest : BitRange) (member : rest ∈ BitRange.rests range field.range) :
          (here.1.graph.removeField field).Clear object rest := by
        intro other value isHeld
        obtain ⟨before, different⟩ := removed.1 isHeld
        have start := (isRest member).start
        have finish := (isRest member).finish
        rcases laid.apart before held with same | front | back
        · exact absurd same different
        · exact .inl (by omega)
        · exact .inr (by omega)
      have free (rest : BitRange) (member : rest ∈ BitRange.rests range field.range)
          {other : BitRange} {value : ValueId}
          (isHeld : (here.1.graph.removeField field).valueAt? object other = some value) :
          other.offset ≠ rest.offset := by
        intro same
        obtain ⟨before, different⟩ := removed.1 isHeld
        have start := (isRest member).start
        have finish := (isRest member).finish
        have bits := (isRest member).positive
        rcases laid.apart before held with same | front | back
        · exact absurd same different
        -- What ends before the field and starts in it is empty, and starts where the field does.
        · exact different (Graph.range_unique before held (by omega))
        · omega
      obtain ⟨next, done, laid'', holds⟩ := @forM_addField
        ({ here.1 with graph := here.1.graph.removeField field }, here.2) object size
        (BitRange.rests range field.range) field.value laid'
        (fun rest member => (isRest member).positive) fits (BitRange.pairwise_rests fit) clear free
      refine ⟨next, ?_, laid'', fun {other value} => ?_⟩
      · refine (Run.bind_apply_ok (modifyGraph_apply _)).trans ?_
        rw [remainders_eq, zero, if_pos rfl, inObject]
        exact done
      · rw [holds, isZero]
        simp only [removed, true_and]
        rw [or_comm, and_comm (a := other ∈ _)]

/-- What an object holds after several of its fields were overwritten. -/
theorem forM_overwrite {fields : List Field} (laid : here.1.graph.LaidAt object size)
    (fit : range.fits size = true)
    (held : ∀ field ∈ fields, field.object = object ∧
      here.1.graph.valueAt? object field.range = some field.value)
    (meet : ∀ field ∈ fields, ¬ field.range.Apart range)
    (distinct : fields.Pairwise fun first second => first.range ≠ second.range) :
    ∃ next, fields.forM (overwrite range) here = .ok () ({ here.1 with graph := next }, here.2) ∧
      next.LaidAt object size ∧
      ∀ {other value}, next.valueAt? object other = some value ↔
        (here.1.graph.valueAt? object other = some value ∧ ∀ field ∈ fields, other ≠ field.range) ∨
        ∃ field ∈ fields, field.value = .zero ∧ value = .zero ∧
          other ∈ BitRange.rests range field.range := by
  induction fields generalizing here with
  | nil => exact ⟨here.1.graph, rfl, laid, by simp⟩
  | cons field rest ih =>
      obtain ⟨inObject, isHeld⟩ := held field List.mem_cons_self
      obtain ⟨first, later⟩ := List.pairwise_cons.1 distinct
      obtain ⟨between, done, laid', holds⟩ := overwrite_ok laid fit inObject isHeld
        (meet field List.mem_cons_self)
      have meet' : ∀ other ∈ rest, ¬ other.range.Apart range := fun other member =>
        meet other (List.mem_cons_of_mem _ member)
      have held' : ∀ other ∈ rest, other.object = object ∧
          between.valueAt? object other.range = some other.value := fun other member =>
        have before := held other (List.mem_cons_of_mem _ member)
        ⟨before.1, holds.2 (.inl ⟨before.2, (first other member).symm⟩)⟩
      obtain ⟨next, done', laid'', holds'⟩ := @ih ({ here.1 with graph := between }, here.2) laid'
        held' meet' later
      refine ⟨next, (Run.bind_apply_ok done).trans done', laid'', fun {other value} => ?_⟩
      -- What is left of the first field is apart from the range: no later field is dropped for it.
      have apart (isRest : other ∈ BitRange.rests range field.range) (last : Field)
          (member : last ∈ rest) : other ≠ last.range := by
        rintro rfl
        exact meet' last member (BitRange.isRest_of_mem fit (laid.fits isHeld)
          (meet field List.mem_cons_self) isRest).apart
      rw [holds', holds]
      simp only [List.forall_mem_cons, List.exists_mem_cons_iff]
      constructor
      · rintro (⟨⟨before, other⟩ | left, others⟩ | later)
        · exact .inl ⟨before, other, others⟩
        · exact .inr (.inl left)
        · exact .inr (.inr later)
      · rintro (⟨before, other, others⟩ | left | later)
        · exact .inl ⟨.inl ⟨before, other⟩, others⟩
        · exact .inl ⟨.inr left, apart left.2.2⟩
        · exact .inr later

/-- What an object holds after a range of it was written to. -/
structure Written (object : ObjectId) (range : BitRange) (value : ValueId) (graph next : Graph) :
    Prop where
  /-- The range holds the value. -/
  here : next.valueAt? object range = some value
  /-- Fields apart from it stay. -/
  apart : ∀ {other held}, graph.valueAt? object other = some held → other.Apart range →
    next.valueAt? object other = some held
  /-- Bits outside of it hold zero if they did. -/
  outside : ∀ {old bit}, graph.valueAt? object old = some .zero → old.Has bit → ¬ range.Has bit →
    ∃ rest, next.valueAt? object rest = some .zero ∧ rest.Has bit
  /-- What holds zero apart from it is part of what did. -/
  zero : ∀ {rest}, next.valueAt? object rest = some .zero → rest ≠ range →
    rest.Apart range ∧ ∃ old, graph.valueAt? object old = some .zero ∧
      ∀ {bit}, rest.Has bit → old.Has bit

/-- Every range within a valid region may be accessed. -/
theorem mayAccess_of_region {graph : Graph} {label : String} {heap : Bool}
    (placed : graph.objects.get? object = some ⟨.region size label, true, heap⟩)
    (fit : range.fits size = true) : mayAccess graph object range = true := by
  rw [mayAccess, Graph.object?, Graph.isValid, placed]
  exact fit

/-- What an object holds after all fields that a range overlaps were overwritten. -/
theorem forM_overwrite_overlapping (laid : here.1.graph.LaidAt object size)
    (fit : range.fits size = true) :
    ∃ next, (here.1.graph.overlapping object range).forM (overwrite range) here =
        .ok () ({ here.1 with graph := next }, here.2) ∧ next.LaidAt object size ∧
      ∀ {other value}, next.valueAt? object other = some value ↔
        (here.1.graph.valueAt? object other = some value ∧ other.Apart range) ∨
        ∃ old, value = .zero ∧ here.1.graph.valueAt? object old = some .zero ∧
          ¬ old.Apart range ∧ other ∈ BitRange.rests range old := by
  have overlapping {field : Field} : field ∈ here.1.graph.overlapping object range ↔
      (field.object = object ∧ here.1.graph.valueAt? object field.range = some field.value) ∧
        ¬ field.range.Apart range := laid.mem_overlapping_iff fit
  have distinct : (here.1.graph.overlapping object range).Pairwise fun first second =>
      first.range ≠ second.range :=
    ((Graph.pairwise_fieldsOf object).filter _).imp fun {first second} less same => by
      rw [same] at less
      exact Nat.lt_irrefl _ less
  obtain ⟨cut, done, laid', holds⟩ := forM_overwrite laid fit
    (fun field member => (overlapping.1 member).1) (fun field member => (overlapping.1 member).2)
    distinct
  refine ⟨cut, done, laid',
    fun {other value} => holds.trans (or_congr (and_congr_right fun isHeld =>
    ⟨fun others => ?_, fun apart field member same => ?_⟩) ⟨?_, ?_⟩)⟩
  · by_contra meet
    exact others ⟨object, other, value⟩ (overlapping.2 ⟨⟨rfl, isHeld⟩, meet⟩) rfl
  · exact (overlapping.1 member).2 (same ▸ apart)
  · rintro ⟨field, member, zero, isZero, isRest⟩
    obtain ⟨⟨-, isField⟩, meet⟩ := overlapping.1 member
    exact ⟨field.range, isZero, zero ▸ isField, meet, isRest⟩
  · rintro ⟨old, isZero, isOld, meet, isRest⟩
    exact ⟨⟨object, old, .zero⟩, overlapping.2 ⟨⟨rfl, isOld⟩, meet⟩, rfl, isZero, isRest⟩

/-- A write that is allowed comes to this: what it overlaps is overwritten, and then its field is
added. -/
theorem write_of_overwrite {value : ValueId} {cut next : Graph}
    (allowed : mayAccess here.1.graph object range = true)
    (done : (here.1.graph.overlapping object range).forM (overwrite range) here =
      .ok () ({ here.1 with graph := cut }, here.2))
    (added : (cut.addValue value).addField ⟨object, range, value⟩ = .ok next) :
    write object range value here = .ok () ({ here.1 with graph := next }, here.2) := by
  unfold write
  rw [Run.bind_apply_ok (Run.ask_apply _ _), allowed]
  refine (Run.bind_apply_ok done).trans ((Run.bind_apply_ok (modifyGraph_apply _)).trans ?_)
  exact attemptGraph_ok added

/-- A write that is allowed goes through. -/
theorem write_ok (tiled : here.1.graph.TiledAt object size)
    (allowed : mayAccess here.1.graph object range = true) (bits : 0 < range.size)
    (value : ValueId) :
    ∃ next, write object range value here = .ok () ({ here.1 with graph := next }, here.2) ∧
      next.TiledAt object size ∧ Written object range value here.1.graph next := by
  have fit := tiled.laid.fits_of_mayAccess allowed
  obtain ⟨cut, done, laid, holds⟩ := forM_overwrite_overlapping tiled.laid fit
  have isRest {old rest : BitRange} (isOld : here.1.graph.valueAt? object old = some .zero)
      (meet : ¬ old.Apart range) (member : rest ∈ BitRange.rests range old) :
      BitRange.IsRest range old rest :=
    BitRange.isRest_of_mem fit (tiled.fits isOld) meet member
  have clear : (cut.addValue value).Clear object range := by
    intro other held isHeld
    rcases holds.1 isHeld with ⟨-, apart⟩ | ⟨old, -, isOld, meet, member⟩
    · exact apart
    · exact (isRest isOld meet member).apart
  have positive {other : BitRange} {held : ValueId}
    (isHeld : cut.valueAt? object other = some held) :
      0 < other.size := by
    rcases holds.1 isHeld with ⟨isHeld, -⟩ | ⟨old, -, isOld, meet, member⟩
    · exact tiled.positive isHeld
    · exact (isRest isOld meet member).positive
  have valued : (cut.addValue value).TiledAt object size :=
    ⟨laid.present, positive, laid.fits, laid.apart⟩
  obtain ⟨next, added, tiled', holds'⟩ := valued.addField bits fit clear value
  refine ⟨next, write_of_overwrite allowed done added, tiled',
    holds'.2 (.inl ⟨rfl, rfl⟩), ?_, ?_, ?_⟩
  · intro other held isHeld apart
    exact holds'.2 (.inr (holds.2 (.inl ⟨isHeld, apart⟩)))
  · intro old bit isHeld inOld outside
    by_cases meet : old.Apart range
    · exact ⟨old, holds'.2 (.inr (holds.2 (.inl ⟨isHeld, meet⟩))), inOld⟩
    · obtain ⟨rest, member, inRest⟩ :=
        (BitRange.exists_rest_iff fit (tiled.fits isHeld) meet).2 ⟨inOld, outside⟩
      exact ⟨rest, holds'.2 (.inr (holds.2 (.inr ⟨old, rfl, isHeld, meet, member⟩))), inRest⟩
  · intro rest isHeld other
    rcases holds'.1 isHeld with ⟨same, -⟩ | isHeld
    · exact absurd same other
    · refine ⟨clear isHeld, ?_⟩
      rcases holds.1 isHeld with ⟨isHeld, -⟩ | ⟨old, -, isOld, meet, member⟩
      · exact ⟨rest, isHeld, id⟩
      · have start := (isRest isOld meet member).start
        have finish := (isRest isOld meet member).finish
        refine ⟨old, isOld, fun {bit} inRest => ?_⟩
        unfold BitRange.Has at inRest ⊢
        omega

/-! ### Zero bits -/

/-- A bit of an object holds zero. -/
def ZeroBit (graph : Graph) (object : ObjectId) (bit : Nat) : Prop :=
  ∃ range, graph.valueAt? object range = some .zero ∧ range.Has bit

/-- A write makes its bits zero or not, and no others. -/
theorem Written.zeroBit_iff {graph next : Graph} {value : ValueId}
    (written : Written object range value graph next) {bit : Nat} :
    ZeroBit next object bit ↔
      if range.Has bit then value = .zero else ZeroBit graph object bit := by
  split
  case isTrue inside =>
    constructor
    · rintro ⟨rest, isZero, inRest⟩
      by_cases same : rest = range
      · subst same
        exact Option.some.inj (written.here.symm.trans isZero)
      · exact absurd inside ((written.zero isZero same).1.not_has inRest)
    · rintro rfl
      exact ⟨range, written.here, inside⟩
  case isFalse outside =>
    constructor
    · rintro ⟨rest, isZero, inRest⟩
      by_cases same : rest = range
      · exact absurd (same ▸ inRest) outside
      · obtain ⟨-, old, isOld, within⟩ := written.zero isZero same
        exact ⟨old, isOld, within inRest⟩
    · rintro ⟨old, isOld, inOld⟩
      obtain ⟨rest, isRest, inRest⟩ := written.outside isOld inOld outside
      exact ⟨rest, isRest, inRest⟩

/-! ### Reading -/

/-- Fields in the order in which they start leave no hole up to a bit exactly if they cover all bits
before it. -/
theorem coversUpTo_iff {stop start : Nat} {fields : List Field}
    (ordered : fields.Pairwise fun first second => first.range.offset < second.range.offset)
    (early : ∀ field ∈ fields, field.range.offset < stop)
    (exact : ∀ field ∈ fields, field.range.stop = field.range.offset + field.range.size) :
    coversUpTo stop start fields = true ↔
      ∀ bit, start ≤ bit → bit < stop → ∃ field ∈ fields, field.range.Has bit := by
  induction fields generalizing start with
  | nil =>
      simp only [coversUpTo, decide_eq_true_eq, List.not_mem_nil, false_and,
        exists_false, imp_false]
      constructor
      · intro done bit after before
        omega
      · intro none
        by_contra more
        exact none start (Nat.le_refl _) (by omega)
  | cons field rest ih =>
      obtain ⟨first, later⟩ := List.pairwise_cons.1 ordered
      have begins := early field List.mem_cons_self
      have ends := exact field List.mem_cons_self
      rw [coversUpTo]
      split
      case isTrue hole =>
        simp only [Bool.false_eq_true, false_iff]
        intro covered
        obtain ⟨other, member, has⟩ := covered start (Nat.le_refl _) (by omega)
        unfold BitRange.Has at has
        rcases List.mem_cons.1 member with rfl | inRest
        · omega
        · have after := first other inRest
          omega
      case isFalse reached =>
        rw [ih later (fun other member => early other (List.mem_cons_of_mem _ member))
          fun other member => exact other (List.mem_cons_of_mem _ member)]
        simp only [List.exists_mem_cons_iff, BitRange.Has]
        constructor
        · intro covered bit after before
          by_cases inside : bit < field.range.offset + field.range.size
          · exact .inl ⟨by omega, inside⟩
          · exact .inr (covered bit (by omega) before)
        · intro covered bit after before
          exact (covered bit (by omega) before).resolve_left (by omega)

/-- A range is found to be zero throughout exactly if all its bits are zero. -/
theorem isZeroed_iff (tiled : here.1.graph.TiledAt object size) (fit : range.fits size = true)
    (bits : 0 < range.size) :
    isZeroed range (here.1.graph.overlapping object range) = true ↔
      ∀ bit, range.Has bit → ZeroBit here.1.graph object bit := by
  have overlapping {field : Field} : field ∈ here.1.graph.overlapping object range ↔
      (field.object = object ∧ here.1.graph.valueAt? object field.range = some field.value) ∧
        ¬ field.range.Apart range := tiled.laid.mem_overlapping_iff fit
  have stop := BitRange.stop_of_fits fit
  have covers := @coversUpTo_iff range.stop range.offset (here.1.graph.overlapping object range)
    ((Graph.pairwise_fieldsOf object).filter _)
    (fun field member => by
      have meet := (overlapping.1 member).2
      rw [BitRange.Apart, not_or] at meet
      omega)
    fun field member => BitRange.stop_of_fits (tiled.fits (overlapping.1 member).1.2)
  rw [isZeroed, Bool.and_eq_true, List.all_eq_true, covers]
  constructor
  · rintro ⟨zeros, covered⟩ bit has
    obtain ⟨field, member, inField⟩ := covered bit has.1 (stop ▸ has.2)
    have zero : field.value = .zero := by simpa [ValueId.isZero] using zeros field member
    exact ⟨field.range, zero ▸ (overlapping.1 member).1.2, inField⟩
  · refine fun zeros => ⟨fun field member => ?_, fun bit after before => ?_⟩
    · obtain ⟨⟨-, held⟩, meet⟩ := overlapping.1 member
      obtain ⟨bit, inField, has⟩ := BitRange.exists_common (tiled.positive held) bits meet
      obtain ⟨old, isZero, inOld⟩ := zeros bit has
      rw [tiled.eq_of_common held isZero inField inOld, isZero] at held
      rw [← Option.some.inj held]
      rfl
    · have has : range.Has bit := ⟨after, stop ▸ before⟩
      obtain ⟨old, isZero, inOld⟩ := zeros bit has
      exact ⟨⟨object, old, .zero⟩, overlapping.2 ⟨⟨rfl, isZero⟩, fun apart =>
        apart.not_has inOld has⟩, inOld⟩

/-- What a read of a range finds and changes. -/
structure Found (object : ObjectId) (range : BitRange) (value : ValueId) (graph next : Graph) :
    Prop where
  /-- It finds what the range holds. -/
  held : ∀ {found}, graph.valueAt? object range = some found → value = found
  /-- It finds zero exactly if all bits are zero. -/
  zero : value = .zero ↔ ∀ bit, range.Has bit → ZeroBit graph object bit
  /-- All fields stay. -/
  keeps : ∀ {other found}, graph.valueAt? object other = some found →
    next.valueAt? object other = some found
  /-- No zero is added. -/
  zeros : ∀ {other}, next.valueAt? object other = some .zero →
    graph.valueAt? object other = some .zero

/-- A read that is allowed goes through. -/
theorem read_ok (tiled : here.1.graph.TiledAt object size) (drawn : 0 < here.2.next)
    (allowed : mayAccess here.1.graph object range = true) (bits : 0 < range.size) :
    ∃ value next supply, read object range here =
        .ok value ({ here.1 with graph := next }, supply) ∧
      next.TiledAt object size ∧ Found object range value here.1.graph next := by
  have fit := tiled.laid.fits_of_mayAccess allowed
  have zeroed := isZeroed_iff tiled fit bits
  have first : range.Has range.offset := ⟨Nat.le_refl _, by omega⟩
  have fresh : (⟨here.2.next⟩ : ValueId) ≠ .zero := by
    rw [Ne, ValueId.zero, ValueId.mk.injEq]
    exact Nat.ne_of_gt drawn
  have valued : (here.1.graph.addValue ⟨here.2.next⟩).TiledAt object size :=
    ⟨tiled.present, tiled.positive, tiled.fits, tiled.apart⟩
  unfold read
  rw [Run.bind_apply_ok (Run.ask_apply _ _), allowed]
  simp only [Bool.not_true, Bool.false_eq_true, if_false]
  cases held : here.1.graph.valueAt? object range with
  | some value =>
      refine ⟨value, here.1.graph, here.2, rfl, tiled, ⟨fun same => ?_, ?_, id, id⟩⟩
      · exact Option.some.inj (held.symm.trans same)
      · constructor
        · rintro rfl bit has
          exact ⟨range, held, has⟩
        · intro zeros
          obtain ⟨old, isZero, inOld⟩ := zeros _ first
          rw [tiled.eq_of_common held isZero first inOld, isZero] at held
          exact (Option.some.inj held).symm
  | none =>
      have nothing {found : ValueId} : here.1.graph.valueAt? object range ≠ some found := by
        simp [held]
      simp only
      split
      case isTrue empty =>
        have none := List.isEmpty_iff.1 empty
        have clear : (here.1.graph.addValue ⟨here.2.next⟩).Clear object range := by
          intro other found isHeld
          by_contra meet
          have member : ⟨object, other, found⟩ ∈ here.1.graph.overlapping object range :=
            (tiled.laid.mem_overlapping_iff fit).2 ⟨⟨rfl, isHeld⟩, meet⟩
          rw [none] at member
          simp at member
        obtain ⟨next, added, tiled', holds⟩ := valued.addField bits fit clear ⟨here.2.next⟩
        refine ⟨⟨here.2.next⟩, next, ⟨here.2.next + 1⟩, ?_, tiled',
          ⟨fun same => absurd same nothing, ?_, fun isHeld => holds.2 (.inr isHeld), ?_⟩⟩
        · exact (Run.bind_apply_ok newValue_apply).trans (Run.bind_apply_ok (attemptGraph_ok added))
        · refine iff_of_false fresh fun zeros => ?_
          obtain ⟨old, isZero, inOld⟩ := zeros _ first
          exact (clear isZero).not_has inOld first
        · intro other isHeld
          rcases holds.1 isHeld with ⟨-, zero⟩ | before
          · exact absurd zero.symm fresh
          · exact before
      case isFalse =>
        split
        case isTrue zero =>
          exact ⟨.zero, here.1.graph, here.2, rfl, tiled,
            ⟨fun same => absurd same nothing, iff_of_true rfl (zeroed.1 zero), id, id⟩⟩
        case isFalse mixed =>
          exact ⟨_, _, _, newValue_apply, valued, ⟨fun same => absurd same nothing,
            iff_of_false fresh fun zeros => mixed (zeroed.2 zeros), id, id⟩⟩

end State

end ShapeDomain
