import ShapeDomain.Proofs.Symmetry.Fields
import ShapeDomain.Proofs.Symmetry.Renaming

/-!
# Mirrored alignments

Whichever of two graphs comes first, aligning two of their objects leads to the same layouts, up to
the names of the values that are drawn for it, and the statuses are mirrored.
-/

namespace ShapeDomain

namespace Alignment

variable {start : Nat} {rename : ValueId → ValueId} {now : Nat}
variable {origin graph other origin2 graph2 other2 : Graph} {object object2 : ObjectId}

/-- A field in the other join. -/
def renameField (rename : ValueId → ValueId) (field : Field) : Field :=
  { field with value := rename field.value }

theorem fieldsOf_mirror (same : Join.SameSide origin rename now graph other) (object : ObjectId) :
    other.fieldsOf object = (graph.fieldsOf object).map (renameField rename) := by
  rw [Graph.fieldsOf_eq_map (fun _ value => rename value) (same.layouts object)]
  refine List.map_congr_left fun field member => ?_
  rw [renameField, (Graph.mem_fieldsOf_iff.1 member).1]

theorem boundaries_map (fields fields2 : List Field) :
    boundaries (fields.map (renameField rename) ++ fields2.map (renameField rename)) =
      boundaries (fields ++ fields2) := by
  rw [← List.map_append, boundaries, List.flatMap_map, boundaries]
  rfl

theorem sharedRanges_map (fields fields2 : List Field) :
    sharedRanges (fields.map (renameField rename)) (fields2.map (renameField rename)) =
      sharedRanges fields fields2 := by
  rw [sharedRanges, boundaries_map, ← List.map_append, List.flatMap_map, sharedRanges]
  rfl

theorem slotAt_mirror (same : Join.SameSide origin rename now graph other)
    (isZero : ∀ value, (rename value).isZero = value.isZero) (object : ObjectId)
    (range : BitRange) : slotAt other object range = (slotAt graph object range).rename rename := by
  rw [slotAt, slotAt, fieldsOf_mirror same, List.find?_map, same.isValid]
  have within : ((fun field : Field => decide (Within range field.range)) ∘ renameField rename) =
      fun field => decide (Within range field.range) := rfl
  rw [within]
  cases (graph.fieldsOf object).find? fun field => decide (Within range field.range) with
  | none => cases graph.isValid object <;> rfl
  | some field =>
      have range' : (renameField rename field).range = field.range := rfl
      have value' : (renameField rename field).value = rename field.value := rfl
      simp only [Option.map_some, range', value', isZero]
      split
      · rfl
      · cases field.value.isZero <;> rfl

theorem alignedSlots_mirror (object object2 : ObjectId)
    (same : Join.SameSide origin rename now graph other)
    (same2 : Join.SameSide origin2 rename now graph2 other2)
    (isZero : ∀ value, (rename value).isZero = value.isZero) (range : BitRange) :
    alignedSlots other object (other2.fieldsOf object2) range =
      (alignedSlots graph object (graph2.fieldsOf object2) range).rename rename := by
  rw [alignedSlots, alignedSlots, fieldsOf_mirror same, fieldsOf_mirror same2, sharedRanges_map,
    slotAt_mirror same isZero]
  split <;> rfl

theorem losesValue_map (isZero : ∀ value, (rename value).isZero = value.isZero) (cuts : KeySet Nat)
    (fields : List Field) :
    (fields.map (renameField rename)).any (losesValue cuts) = fields.any (losesValue cuts) := by
  rw [List.any_map]
  congr 1
  funext field
  show (_ && !(rename field.value).isZero) = _
  rw [isZero]
  rfl

theorem cutStatus_mirror (isZero : ∀ value, (rename value).isZero = value.isZero)
    (fields fields2 : List Field) :
    cutStatus (fields2.map (renameField rename)) (fields.map (renameField rename)) =
      (cutStatus fields fields2).mirror := by
  rw [cutStatus, cutStatus, boundaries_map, losesValue_map isZero, losesValue_map isZero,
    boundaries_append_comm fields2]
  split <;> split <;> rfl

theorem held_of_kept {otherFields : List Field} {range : BitRange} {value : ValueId}
    (kept : alignedSlots graph object otherFields range = .kept value) :
    graph.valueAt? object range = some value := by
  unfold alignedSlots slotAt at kept
  split at kept
  case isFalse => simp at kept
  case isTrue =>
    split at kept
    case h_1 field found =>
      split at kept
      case isTrue same =>
        rw [Slot.kept.injEq] at kept
        have member := List.mem_of_find?_eq_some found
        rw [same, ← kept]
        exact (Graph.mem_fieldsOf_iff.1 member).2
      case isFalse => cases zero : field.value.isZero <;> simp [Slot.filled, zero] at kept
    case h_2 => cases valid : graph.isValid object <;> simp [Slot.filled, valid] at kept

section Laid

variable {first first' : Nat} {slots slotsOther : BitRange → Slot} {drawn drawnOther : Nat → Prop}
variable {originOther : Graph} {rename' : ValueId → ValueId} {range : BitRange} {value : ValueId}

/-- What an aligned object holds and was not drawn is zero or was held before. -/
theorem Laid.old_of_held {otherFields : List Field}
    (laid : Laid first object origin (alignedSlots origin object otherFields) drawn graph)
    (held : graph.valueAt? object range = some value) (early : value.index < first) :
    value = .zero ∨ origin.valueAt? object range = some value := by
  have holds := laid.holds range
  rw [held] at holds
  cases slot : alignedSlots origin object otherFields range with
  | empty =>
      rw [slot] at holds
      simp [Slot.Holds] at holds
  | kept old =>
      rw [slot] at holds
      rw [Option.some.inj holds.1]
      exact .inr (held_of_kept slot)
  | zero =>
      rw [slot] at holds
      exact .inl (Option.some.inj holds)
  | unknown =>
      rw [slot] at holds
      obtain ⟨index, same, isDrawn⟩ := holds
      have late := laid.late index isDrawn
      rw [Option.some.inj same] at early
      exact absurd early (Nat.not_lt_of_le late)

/-- What an aligned object holds was drawn by then. -/
theorem Laid.lt_of_held {last : Nat} (laid : Laid first object origin slots drawn graph)
    (ordered : first ≤ last) (drawnBefore : ∀ index, drawn index → index < last)
    (held : graph.valueAt? object range = some value) : value.index < last := by
  by_cases early : value.index < first
  · exact Nat.lt_of_lt_of_le early ordered
  · exact drawnBefore _ (laid.unknown_of_held held (Nat.le_of_not_lt early)).2

/-- The layouts of an object hold the same, up to a renaming that matches what was drawn. -/
theorem Laid.layouts_mirror (laid : Laid first object origin slots drawn graph)
    (laidOther : Laid first' object originOther slotsOther drawnOther other)
    (mirrored : ∀ range, slotsOther range = (slots range).rename rename)
    (zero : rename .zero = .zero)
    (old : ∀ value, value.index < first → rename' value = rename value)
    (new : ∀ value partner, drawn value.index → Partners object graph other value partner →
      rename' value = partner) (range : BitRange) :
    other.valueAt? object range = (graph.valueAt? object range).map rename' := by
  have holds := laid.holds range
  have holdsOther := laidOther.holds range
  rw [mirrored] at holdsOther
  cases slot : slots range with
  | empty =>
      rw [slot] at holds holdsOther
      rw [show graph.valueAt? object range = none from holds]
      exact holdsOther
  | kept value =>
      rw [slot] at holds holdsOther
      rw [holds.1, Option.map_some, old value holds.2]
      exact holdsOther.1
  | zero =>
      rw [slot] at holds holdsOther
      rw [show graph.valueAt? object range = some .zero from holds, Option.map_some,
        old .zero laid.positive, zero]
      exact holdsOther
  | unknown =>
      rw [slot] at holds holdsOther
      obtain ⟨index, held, isDrawn⟩ := holds
      obtain ⟨partner, heldOther, -⟩ := holdsOther
      rw [held, heldOther, Option.map_some, new ⟨index⟩ ⟨partner⟩ isDrawn ⟨range, held, heldOther⟩]

end Laid

end Alignment

namespace Join

variable {scene : Scene} {rename rename' : ValueId → ValueId} {pending : Pending}
variable {here there : Progress × Supply} {except1 except2 : ObjectId → Prop}

section Extend

variable {shift : Shift} {now next : Nat}

/-- Values that were drawn since have no counterparts. -/
theorem SameValues.extend {map other : ValueId → Option ValueId}
    (values : SameValues shift rename now map other) (after : now ≤ next)
    (agree : ∀ value, value.index < now → rename' value = rename value)
    (late : ∀ value, now ≤ value.index → now + shift.distance ≤ (rename' value).index) :
    SameValues shift rename' next map other where
  same value := by
    by_cases early : value.index < now
    · rw [agree value early, values.same]
    · have new := Nat.le_of_not_lt early
      rw [values.new value new, values.newOther _ (late value new), Option.map_none]
  new value new := values.new value (Nat.le_trans after new)
  newOther value new := values.newOther value (by omega)

/-- Pairs of values that were drawn since have no joint values. -/
theorem SameJoints.extend {map other : ValueId × ValueId → Option ValueId}
    (joints : SameJoints shift rename now map other) (after : now ≤ next)
    (agree : ∀ value, value.index < now → rename' value = rename value)
    (late : ∀ value, now ≤ value.index → now + shift.distance ≤ (rename' value).index) :
    SameJoints shift rename' next map other where
  same value1 value2 := by
    by_cases early1 : value1.index < now
    case neg =>
      have new := Nat.le_of_not_lt early1
      rw [joints.new _ _ (.inl new), joints.newOther _ _ (.inr (late value1 new)), Option.map_none]
    case pos =>
      by_cases early2 : value2.index < now
      · rw [agree value1 early1, agree value2 early2, joints.same]
      · have new := Nat.le_of_not_lt early2
        rw [joints.new _ _ (.inr new), joints.newOther _ _ (.inl (late value2 new)),
          Option.map_none]
  new value1 value2 new := joints.new value1 value2 (by omega)
  newOther value1 value2 new := joints.newOther value1 value2 (by omega)

end Extend

/-- A graph in which an object was aligned, and what it is in the other join. -/
theorem SameSide.aligned {now next first : Nat} {origin graph other next1 next2 : Graph}
    {object : ObjectId} {slots slotsOther : BitRange → Alignment.Slot}
    {drawn drawnOther : Nat → Prop}
    (same : SameSide origin rename now graph other)
    (laid : Alignment.Laid now object graph slots drawn next1)
    (laidOther : Alignment.Laid first object other slotsOther drawnOther next2)
    (ordered : now ≤ next) (drawnBefore : ∀ index, drawn index → index < next)
    (agree : ∀ value, value.index < now → rename' value = rename value)
    (layouts : ∀ range, next2.valueAt? object range = (next1.valueAt? object range).map rename') :
    SameSide origin rename' next next1 next2 where
  relaid := same.relaid.trans laid.relaid
  relaidOther := same.relaidOther.trans laidOther.relaid
  tiled := laid.tiled
  layouts object' range := by
    by_cases isObject : object' = object
    · rw [isObject, layouts]
    · rw [Graph.valueAt?_congr (laid.others object' isObject),
        Graph.valueAt?_congr (laidOther.others object' isObject), same.layouts]
      cases held : graph.valueAt? object' range with
      | none => rfl
      | some value => rw [Option.map_some, Option.map_some, agree value (same.held _ _ _ held)]
  held object' range value held := by
    by_cases isObject : object' = object
    · rw [isObject] at held
      exact laid.lt_of_held ordered drawnBefore held
    · rw [Graph.valueAt?_congr (laid.others object' isObject)] at held
      exact Nat.lt_of_lt_of_le (same.held _ _ _ held) ordered

/-- What aligning two objects keeps apart. -/
theorem separate_of_aligned {start first last : Nat} {left right left' right' : Graph}
    {object1 object2 : ObjectId} {drawn1 drawn2 : Nat → Prop} (positive : 0 < start)
    (aligned : Alignment.Aligned left right object1 object2 first last drawn1 drawn2 left' right')
    (early1 : ∀ object range value, left.valueAt? object range = some value → value.index < first)
    (early2 : ∀ object range value, right.valueAt? object range = some value → value.index < first)
    (separate : ∀ object1 range1 object2 range2 value, left.valueAt? object1 range1 = some value →
      right.valueAt? object2 range2 = some value → value.index < start)
    {other1 other2 : ObjectId} {range1 range2 : BitRange} {value : ValueId}
    (held1 : left'.valueAt? other1 range1 = some value)
    (held2 : right'.valueAt? other2 range2 = some value) : value.index < start := by
  have source1 : value = .zero ∨ drawn1 value.index ∨
      value.index < first ∧ ∃ object range, left.valueAt? object range = some value := by
    by_cases isObject : other1 = object1
    · rw [isObject] at held1
      by_cases early : value.index < first
      · exact (aligned.layout1.old_of_held held1 early).imp_right fun held =>
          .inr ⟨early, _, _, held⟩
      · exact .inr (.inl (aligned.layout1.unknown_of_held held1 (Nat.le_of_not_lt early)).2)
    · rw [Graph.valueAt?_congr (aligned.layout1.others other1 isObject)] at held1
      exact .inr (.inr ⟨early1 _ _ _ held1, _, _, held1⟩)
  have source2 : value = .zero ∨ drawn2 value.index ∨
      value.index < first ∧ ∃ object range, right.valueAt? object range = some value := by
    by_cases isObject : other2 = object2
    · rw [isObject] at held2
      by_cases early : value.index < first
      · exact (aligned.layout2.old_of_held held2 early).imp_right fun held =>
          .inr ⟨early, _, _, held⟩
      · exact .inr (.inl (aligned.layout2.unknown_of_held held2 (Nat.le_of_not_lt early)).2)
    · rw [Graph.valueAt?_congr (aligned.layout2.others other2 isObject)] at held2
      exact .inr (.inr ⟨early2 _ _ _ held2, _, _, held2⟩)
  rcases source1 with zero | isDrawn1 | ⟨early, object, range, old1⟩
  · rw [zero]
    exact positive
  · rcases source2 with zero | isDrawn2 | ⟨early, -⟩
    · rw [zero]
      exact positive
    · exact absurd isDrawn2 (aligned.separate _ isDrawn1)
    · exact absurd early (Nat.not_lt_of_le (aligned.layout1.late _ isDrawn1))
  · rcases source2 with zero | isDrawn2 | ⟨-, object', range', old2⟩
    · rw [zero]
      exact positive
    · exact absurd early (Nat.not_lt_of_le (aligned.layout2.late _ isDrawn2))
    · exact separate _ _ _ _ _ old1 old2

/-- A join with other layouts. -/
def Progress.withSides (progress : Progress) (sides : Graph × Graph) : Progress :=
  { progress with left := sides.1, right := sides.2 }

theorem onSides_ok {α : Type} {computation : Run (Graph × Graph) α} {result : α}
    {sides : Graph × Graph} {supply : Supply}
    (done : computation ((here.1.left, here.1.right), here.2) = .ok result (sides, supply)) :
    onSides computation here = .ok result (here.1.withSides sides, supply) := by
  rw [onSides, Run.within_apply, done]
  rfl

theorem sameRanges_of_aligned {first last : Nat} {left right left' right' : Graph}
    {object1 object2 : ObjectId} {drawn1 drawn2 : Nat → Prop}
    (aligned : Alignment.Aligned left right object1 object2 first last drawn1 drawn2 left' right') :
    SameRanges left' right' object1 object2 := by
  intro range
  rw [Bool.eq_iff_iff, (aligned.layout1.holds range).isSome_iff,
    (aligned.layout2.holds range).isSome_iff, Alignment.alignedSlots_ne_empty_iff,
    Alignment.alignedSlots_ne_empty_iff, Alignment.mem_sharedRanges_comm]

theorem SameSide.tiledOther {now : Nat} {origin graph other : Graph}
    (same : SameSide origin rename now graph other) : other.Tiled := by
  have held {object : ObjectId} {range : BitRange} {value : ValueId}
      (heldOther : other.valueAt? object range = some value) :
      ∃ value', graph.valueAt? object range = some value' := by
    rw [same.layouts, Option.map_eq_some_iff] at heldOther
    obtain ⟨value', held, -⟩ := heldOther
    exact ⟨value', held⟩
  refine ⟨fun heldOther => ?_, fun heldOther => ?_, fun heldOther heldOther' => ?_⟩
  · obtain ⟨_, there⟩ := held heldOther
    exact same.tiled.positive there
  · obtain ⟨_, there⟩ := held heldOther
    rw [same.object?]
    exact same.tiled.fits there
  · obtain ⟨_, there⟩ := held heldOther
    obtain ⟨_, there'⟩ := held heldOther'
    exact same.tiled.apart there there'

theorem SameSide.heldOther {shift : Shift} {now : Nat} {origin graph other : Graph}
    (same : SameSide origin rename now graph other) (renames : Renames shift now rename)
    {object : ObjectId} {range : BitRange} {value : ValueId}
    (heldOther : other.valueAt? object range = some value) :
    value.index < now + shift.distance := by
  rw [same.layouts, Option.map_eq_some_iff] at heldOther
  obtain ⟨value', held, rfl⟩ := heldOther
  exact renames.index_lt (same.held _ _ _ held)

/-- Two objects are aligned. -/
theorem twin_align (mirror : Mirror scene rename pending here there) {object1 object2 : ObjectId}
    {source1 source2 : Object} (found1 : here.1.left.object? object1 = some source1)
    (found2 : here.1.right.object? object2 = some source2) (size : source1.size = source2.size) :
    Twin scene (onSides (Alignment.align object1 object2))
      (onSides (Alignment.align object2 object1)) rename here there (· = object1) (· = object2)
      (fun _ => pending) fun status status' end1 =>
        status' = status.mirror ∧ SameRanges end1.1.left end1.1.right object1 object2 ∧
          end1.1.leftMap = here.1.leftMap ∧ end1.1.rightMap = here.1.rightMap := by
  have started := mirror.supplies.started
  have positive := scene.shift.positive
  have ahead := mirror.supplies.ahead
  have renames := mirror.renames
  have ends : Run.Ends _ ((here.1.left, here.1.right), here.2) _ _ :=
    Alignment.align_ends (by omega) found1 found2 size mirror.left.tiled mirror.right.tiled
      (fun _ _ held => mirror.left.held _ _ _ held) fun _ _ held => mirror.right.held _ _ _ held
  have endsOther : Run.Ends _ ((there.1.left, there.1.right), there.2) _ _ :=
    Alignment.align_ends (by omega) ((mirror.right.object? object2).trans found2)
      ((mirror.left.object? object1).trans found1) size.symm mirror.right.tiledOther
      mirror.left.tiledOther
      (fun _ _ held => ahead ▸ mirror.right.heldOther renames held)
      fun _ _ held => ahead ▸ mirror.left.heldOther renames held
  unfold Run.Ends at ends endsOther
  split at ends
  case h_2 => exact ends.elim
  case h_1 status finish done =>
  split at endsOther
  case h_2 => exact endsOther.elim
  case h_1 status' finish' done' =>
  obtain ⟨⟨left', right'⟩, supply'⟩ := finish
  obtain ⟨⟨leftOther', rightOther'⟩, supplyOther'⟩ := finish'
  obtain ⟨rfl, drawn1, drawn2, aligned⟩ := ends
  obtain ⟨rfl, drawn1', drawn2', alignedOther⟩ := endsOther
  simp only at aligned alignedOther
  rw [ahead] at alignedOther
  have slots1 (range : BitRange) := Alignment.alignedSlots_mirror object1 object2 mirror.left
    mirror.right renames.isZero range
  have slots2 (range : BitRange) := Alignment.alignedSlots_mirror object2 object1 mirror.right
    mirror.left renames.isZero range
  obtain ⟨lasts, rename', renames', agree, late, matched⟩ :=
    aligned.exists_renaming started renames alignedOther slots1 slots2
  have after : here.2.next ≤ supply'.next := aligned.ordered
  have before1 (index : Nat) (isDrawn : drawn1 index) : index < supply'.next :=
    ((aligned.drawn index).1 (.inl isDrawn)).2
  have before2 (index : Nat) (isDrawn : drawn2 index) : index < supply'.next :=
    ((aligned.drawn index).1 (.inr isDrawn)).2
  have layouts1 := aligned.layout1.layouts_mirror alignedOther.layout2 slots1 renames.zero agree
    fun value partner isDrawn partners => matched value partner (aligned.layout1.late _ isDrawn)
      (before1 _ isDrawn) (.inl partners)
  have layouts2 := aligned.layout2.layouts_mirror alignedOther.layout1 slots2 renames.zero agree
    fun value partner isDrawn partners => matched value partner (aligned.layout2.late _ isDrawn)
      (before2 _ isDrawn) (.inr partners)
  refine twin_of_ok rename' (onSides_ok done) (onSides_ok done') ?_ ?_
    ⟨?_, sameRanges_of_aligned aligned, rfl, rfl⟩
  · exact ⟨after, agree, fun _ => id, fun _ => id,
      fun id _ different => aligned.layout1.others id different,
      fun id _ different => aligned.layout2.others id different⟩
  · exact { mirror with
      supplies := ⟨Nat.le_trans started after, lasts⟩
      renames := renames'
      left := mirror.left.aligned aligned.layout1 alignedOther.layout2 after before1 agree layouts1
      right := mirror.right.aligned
        aligned.layout2 alignedOther.layout1 after before2 agree layouts2
      separate := fun _ _ _ _ _ held1 held2 => separate_of_aligned positive aligned
        (fun _ _ _ held => mirror.left.held _ _ _ held)
        (fun _ _ _ held => mirror.right.held _ _ _ held) mirror.separate held1 held2
      leftValues := mirror.leftValues.extend after agree late
      rightValues := mirror.rightValues.extend after agree late
      joined := mirror.joined.extend after agree late
      knows := mirror.knows.later after }
  · rw [Alignment.fieldsOf_mirror mirror.left, Alignment.fieldsOf_mirror mirror.right,
      Alignment.cutStatus_mirror renames.isZero]

end Join

end ShapeDomain
