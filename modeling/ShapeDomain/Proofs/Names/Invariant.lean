import ShapeDomain.Proofs.Names.Aligning
import ShapeDomain.Proofs.Progress.Numbers

/-!
# Joining in step

A join runs twice: once for two plain graphs, and once for the same graphs under other names.  Both
runs go on in step.  They give counterparts to the same objects and values, and objects that share a
counterpart in one run share one in the other; the names of the counterparts have nothing to do with
each other, since where the two graphs share a name in one run they need not do so in the other.

Both runs are known to go through, so it is enough to follow them as long as they do.
-/

namespace ShapeDomain

namespace Graph

variable {graph next : Graph}

/-- No object of a graph is a list segment. -/
def Listless (graph : Graph) : Prop :=
  ∀ id, graph.isList id = false

namespace Listless

theorem of_object? (listless : graph.Listless)
    (same : ∀ id, next.object? id = graph.object? id) : next.Listless := by
  intro id
  rw [isList, same]
  exact listless id

theorem of_objects (listless : graph.Listless) (same : next.objects = graph.objects) :
    next.Listless :=
  listless.of_object? fun id => by rw [object?, object?, same]

theorem put (listless : graph.Listless) {id : ObjectId} {object : Object}
    (isObject : ∀ other, next.object? other =
      if other = id then some object else graph.object? other)
    (noList : object.kind.isList = false) : next.Listless := by
  intro other
  rw [isList, isObject]
  split
  · exact noList
  · exact listless other

end Listless

end Graph

namespace Join

/-- An object gets a counterpart in one map if the corresponding object gets one in the other. -/
theorem isSome_object?_setObject {map map' : Correspondence}
    {source source' other other' : ObjectId} (same : other = source ↔ other' = source')
    (before : (map'.object? other').isSome = (map.object? other).isSome) (dest dest' : ObjectId) :
    ((map'.setObject source' dest').object? other').isSome =
      ((map.setObject source dest).object? other).isSome := by
  rw [Correspondence.object?_setObject, Correspondence.object?_setObject]
  by_cases isSource : other = source
  · rw [if_pos isSource, if_pos (same.1 isSource)]
    rfl
  · rw [if_neg isSource, if_neg fun isSource' => isSource (same.2 isSource'), before]

/-- A value gets a counterpart in one map if the corresponding value gets one in the other. -/
theorem isSome_value?_setUnlessZero {map map' : Correspondence}
    {source source' other other' : ValueId} (same : other = source ↔ other' = source')
    (zero : source'.isZero = source.isZero)
    (before : (map'.value? other').isSome = (map.value? other).isSome) (dest dest' : ValueId) :
    ((setUnlessZero map' source' dest').value? other').isSome =
      ((setUnlessZero map source dest).value? other).isSome := by
  rw [value?_setUnlessZero, value?_setUnlessZero, zero]
  by_cases isSource : other = source ∧ source.isZero = false
  · rw [if_pos isSource, if_pos ⟨same.1 isSource.1, isSource.2⟩]
    rfl
  · rw [if_neg isSource, if_neg fun isSource' => isSource ⟨same.2 isSource'.1, isSource'.2⟩, before]

/-! ### One run -/

/-- The counterparts of objects have names that were drawn before `now`, and only an object that is
shared is its own counterpart, under a name that was drawn before `start`. -/
def TidyMap (start now : Nat) (map : Correspondence) : Prop :=
  ∀ ⦃id image⦄, map.object? id = some image → image.index < now ∧ (image.index < start → image = id)

theorem TidyMap.setObject {start now : Nat} {map : Correspondence} (tidy : TidyMap start now map)
    {source dest : ObjectId} (early : dest.index < now)
    (shared : dest.index < start → dest = source) :
    TidyMap start now (map.setObject source dest) := by
  intro id image mapped
  rw [Correspondence.object?_setObject] at mapped
  split at mapped
  case isTrue same =>
    obtain rfl := Option.some.inj mapped
    exact ⟨early, fun before => (shared before).trans same.symm⟩
  case isFalse => exact tidy mapped

/-- What holds of the names in a join of graphs whose names were drawn before `start`. -/
structure Tidy (start : Nat) (here : Progress × Supply) : Prop where
  /-- The supply has moved on. -/
  time : start ≤ here.2.next
  /-- The counterparts of left objects have names that were drawn. -/
  leftObjects : TidyMap start here.2.next here.1.leftMap
  /-- So have those of right objects. -/
  rightObjects : TidyMap start here.2.next here.1.rightMap
  /-- Left values with counterparts were drawn. -/
  leftValues : ∀ {value}, (here.1.leftMap.value? value).isSome = true → value.index < here.2.next
  /-- So were right ones. -/
  rightValues : ∀ {value}, (here.1.rightMap.value? value).isSome = true → value.index < here.2.next
  /-- So were values that are joined. -/
  joined : ∀ {value1 value2}, (here.1.joined.get? (value1, value2)).isSome = true →
    value1.index < here.2.next ∧ value2.index < here.2.next
  /-- The destination has no list segments. -/
  listless : here.1.dest.Listless

/-- A step that changes nothing but the destination. -/
structure Quiet (here there : Progress × Supply) : Prop where
  /-- The supply moves on. -/
  time : here.2.next ≤ there.2.next
  /-- Nothing but the destination changes. -/
  same : there.1 = { here.1 with dest := there.1.dest }
  /-- The destination gets no list segments. -/
  listless : here.1.dest.Listless → there.1.dest.Listless

namespace Quiet

variable {here middle there : Progress × Supply}

theorem refl (here : Progress × Supply) : Quiet here here :=
  ⟨Nat.le_refl _, rfl, fun listless => listless⟩

theorem trans (first : Quiet here middle) (second : Quiet middle there) : Quiet here there where
  time := Nat.le_trans first.time second.time
  same := by rw [second.same, first.same]
  listless listless := second.listless (first.listless listless)

theorem draw (here : Progress × Supply) : Quiet here (here.1, ⟨here.2.next + 1⟩) :=
  ⟨Nat.le_succ _, rfl, fun listless => listless⟩

theorem leftMap (quiet : Quiet here there) : there.1.leftMap = here.1.leftMap := by
  rw [quiet.same]

theorem rightMap (quiet : Quiet here there) : there.1.rightMap = here.1.rightMap := by
  rw [quiet.same]

end Quiet

namespace Tidy

variable {start : Nat} {here there : Progress × Supply}

/-- The supply may move on. -/
theorem later (tidy : Tidy start here) {now : Supply} (after : here.2.next ≤ now.next) :
    Tidy start (here.1, now) where
  time := Nat.le_trans tidy.time after
  leftObjects _ _ mapped := (tidy.leftObjects mapped).imp_left (Nat.lt_of_lt_of_le · after)
  rightObjects _ _ mapped := (tidy.rightObjects mapped).imp_left (Nat.lt_of_lt_of_le · after)
  leftValues mapped := Nat.lt_of_lt_of_le (tidy.leftValues mapped) after
  rightValues mapped := Nat.lt_of_lt_of_le (tidy.rightValues mapped) after
  joined isJoint := (tidy.joined isJoint).imp (Nat.lt_of_lt_of_le · after)
    (Nat.lt_of_lt_of_le · after)
  listless := tidy.listless

theorem quiet (tidy : Tidy start here) (quiet : Quiet here there) : Tidy start there := by
  have later := tidy.later quiet.time
  have listless := quiet.listless tidy.listless
  obtain ⟨there, now⟩ := there
  have same : there = { here.1 with dest := there.dest } := quiet.same
  rw [same] at listless ⊢
  exact { later with listless := listless }

/-- Values that were drawn may get a joint value. -/
theorem withJoint (tidy : Tidy start here) {value1 value2 : ValueId}
    (early1 : value1.index < here.2.next) (early2 : value2.index < here.2.next) (dest : ValueId) :
    Tidy start (here.1.withJoint value1 value2 dest, here.2) where
  time := tidy.time
  leftObjects id image mapped := by
    simp only [Progress.withJoint, Correspondence.object?, objects_setUnlessZero] at mapped
    exact tidy.leftObjects mapped
  rightObjects id image mapped := by
    simp only [Progress.withJoint, Correspondence.object?, objects_setUnlessZero] at mapped
    exact tidy.rightObjects mapped
  leftValues {value} mapped := by
    simp only [Progress.withJoint, value?_setUnlessZero] at mapped
    split at mapped
    case isTrue same => exact same.1 ▸ early1
    case isFalse => exact tidy.leftValues mapped
  rightValues {value} mapped := by
    simp only [Progress.withJoint, value?_setUnlessZero] at mapped
    split at mapped
    case isTrue same => exact same.1 ▸ early2
    case isFalse => exact tidy.rightValues mapped
  joined {other1 other2} isJoint := by
    simp only [Progress.withJoint, Table.get?_insert, Prod.mk.injEq] at isJoint
    split at isJoint
    case isTrue same => exact ⟨same.1 ▸ early1, same.2 ▸ early2⟩
    case isFalse => exact tidy.joined isJoint
  listless := tidy.listless.of_objects rfl

end Tidy

/-- A name is free for the counterpart of two objects: it was just drawn, or it is the name of
both. -/
structure Unused (start : Nat) (here : Progress × Supply)
    (object1 object2 id : ObjectId) : Prop where
  /-- The name was drawn. -/
  early : id.index < here.2.next
  /-- It is the name of both objects, if it was drawn before the join. -/
  shared : id.index < start → id = object1 ∧ id = object2
  /-- Else it is not that of the counterpart of a left object, -/
  left : start ≤ id.index → ∀ source, here.1.leftMap.object? source ≠ some id
  /-- nor that of a right one. -/
  right : start ≤ id.index → ∀ source, here.1.rightMap.object? source ≠ some id

namespace Unused

variable {start : Nat} {here there : Progress × Supply} {object1 object2 id : ObjectId}

theorem quiet (unused : Unused start here object1 object2 id) (quiet : Quiet here there) :
    Unused start there object1 object2 id where
  early := Nat.lt_of_lt_of_le unused.early quiet.time
  shared := unused.shared
  left late := quiet.leftMap ▸ unused.left late
  right late := quiet.rightMap ▸ unused.right late

/-- Of all left objects only the first one may have the counterpart already. -/
theorem eq_left (unused : Unused start here object1 object2 id) (tidy : Tidy start here)
    {source : ObjectId} (mapped : here.1.leftMap.object? source = some id) : source = object1 := by
  by_cases early : id.index < start
  · exact ((tidy.leftObjects mapped).2 early).symm.trans (unused.shared early).1
  · exact absurd mapped (unused.left (Nat.le_of_not_lt early) source)

/-- Of all right objects only the second one may have it. -/
theorem eq_right (unused : Unused start here object1 object2 id) (tidy : Tidy start here)
    {source : ObjectId} (mapped : here.1.rightMap.object? source = some id) : source = object2 := by
  by_cases early : id.index < start
  · exact ((tidy.rightObjects mapped).2 early).symm.trans (unused.shared early).2
  · exact absurd mapped (unused.right (Nat.le_of_not_lt early) source)

/-- Once two objects have the counterpart, they share it with each other only. -/
theorem relates_iff (unused : Unused start here object1 object2 id) (tidy : Tidy start here)
    {source1 source2 : ObjectId} :
    (here.1.withPair object1 object2 id).Relates source1 source2 ↔
      (source1 = object1 ∧ source2 = object2) ∨
        (source1 ≠ object1 ∧ source2 ≠ object2 ∧ here.1.Relates source1 source2) := by
  simp only [Progress.Relates, Progress.withPair, Correspondence.object?_setObject]
  constructor
  · rintro ⟨image, mapped1, mapped2⟩
    split at mapped1 <;> split at mapped2
    case isTrue.isTrue same1 same2 => exact .inl ⟨same1, same2⟩
    case isTrue.isFalse _ different =>
      obtain rfl := Option.some.inj mapped1
      exact absurd (unused.eq_right tidy mapped2) different
    case isFalse.isTrue different _ =>
      obtain rfl := Option.some.inj mapped2
      exact absurd (unused.eq_left tidy mapped1) different
    case isFalse.isFalse different1 different2 =>
      exact .inr ⟨different1, different2, image, mapped1, mapped2⟩
  · rintro (⟨rfl, rfl⟩ | ⟨different1, different2, image, mapped1, mapped2⟩)
    · exact ⟨id, if_pos rfl, if_pos rfl⟩
    · exact ⟨image, (if_neg different1).trans mapped1, (if_neg different2).trans mapped2⟩

theorem tidy (unused : Unused start here object1 object2 id) (tidy : Tidy start here) :
    Tidy start (here.1.withPair object1 object2 id, here.2) :=
  { tidy with
    leftObjects := tidy.leftObjects.setObject unused.early fun early => (unused.shared early).1
    rightObjects := tidy.rightObjects.setObject unused.early fun early => (unused.shared early).2 }

end Unused

/-! ### Two runs -/

/-- Two joins of the same graphs, the second one under other names, are in step. -/
structure InStep (rerun : Rerun) (namings : Namings) (here there : Progress × Supply) : Prop where
  /-- The joined graphs are in step. -/
  sides : Sides rerun namings ((here.1.left, here.1.right), here.2)
    ((there.1.left, there.1.right), there.2)
  /-- The names of the first join are tidy. -/
  tidy : Tidy rerun.start here
  /-- So are those of the second join. -/
  tidy' : Tidy rerun.start' there
  /-- The same left objects have counterparts. -/
  leftObjects : ∀ id, (there.1.leftMap.object? (rerun.leftNames.object id)).isSome =
    (here.1.leftMap.object? id).isSome
  /-- So do the same right ones. -/
  rightObjects : ∀ id, (there.1.rightMap.object? (rerun.rightNames.object id)).isSome =
    (here.1.rightMap.object? id).isSome
  /-- The same objects share a counterpart. -/
  relates : ∀ object1 object2,
    there.1.Relates (rerun.leftNames.object object1) (rerun.rightNames.object object2) ↔
      here.1.Relates object1 object2
  /-- The same left values have counterparts. -/
  leftValues : ∀ {value value'}, namings.left value value' →
    (there.1.leftMap.value? value').isSome = (here.1.leftMap.value? value).isSome
  /-- So do the same right ones. -/
  rightValues : ∀ {value value'}, namings.right value value' →
    (there.1.rightMap.value? value').isSome = (here.1.rightMap.value? value).isSome
  /-- The same pairs of values are joined. -/
  joined : ∀ {value1 value1' value2 value2'}, namings.left value1 value1' →
    namings.right value2 value2' → (there.1.joined.get? (value1', value2')).isSome =
      (here.1.joined.get? (value1, value2)).isSome
  /-- The levels are mapped alike. -/
  levels : there.1.levels = here.1.levels
  /-- The statuses are the same. -/
  status : there.1.status = here.1.status

/-- What was linked is linked. -/
structure Namings.Within (namings later : Namings) : Prop where
  /-- On the left side. -/
  left : ∀ {value value'}, namings.left value value' → later.left value value'
  /-- On the right side. -/
  right : ∀ {value value'}, namings.right value value' → later.right value value'

namespace Namings.Within

variable {namings later last : Namings}

theorem refl (namings : Namings) : namings.Within namings :=
  ⟨fun linked => linked, fun linked => linked⟩

theorem trans (first : namings.Within later) (second : later.Within last) : namings.Within last :=
  ⟨fun linked => second.left (first.left linked), fun linked => second.right (first.right linked)⟩

end Namings.Within

namespace InStep

variable {rerun : Rerun} {namings later : Namings} {here there end1 end2 : Progress × Supply}

/-- Steps that change nothing but the destinations keep joins in step. -/
theorem quiet (step : InStep rerun namings here there) (quiet1 : Quiet here end1)
    (quiet2 : Quiet there end2) : InStep rerun namings end1 end2 := by
  have tidy := step.tidy.quiet quiet1
  have tidy' := step.tidy'.quiet quiet2
  have left := step.sides.left.later quiet1.time quiet2.time
  have right := step.sides.right.later quiet1.time quiet2.time
  obtain ⟨end1, now1⟩ := end1
  obtain ⟨end2, now2⟩ := end2
  have same1 : end1 = { here.1 with dest := end1.dest } := quiet1.same
  have same2 : end2 = { there.1 with dest := end2.dest } := quiet2.same
  rw [same1] at tidy ⊢
  rw [same2] at tidy' ⊢
  exact { step with sides := ⟨left, right⟩, tidy := tidy, tidy' := tidy' }

/-- The statuses may change alike. -/
theorem withStatus (step : InStep rerun namings here there) (status : Status) :
    InStep rerun namings ({ here.1 with status := status }, here.2)
      ({ there.1 with status := status }, there.2) :=
  { step with
    tidy := { step.tidy with }
    tidy' := { step.tidy' with }
    status := rfl }

/-- So may the levels. -/
theorem withLevels (step : InStep rerun namings here there) (levels : LevelMap) :
    InStep rerun namings ({ here.1 with levels := levels }, here.2)
      ({ there.1 with levels := levels }, there.2) :=
  { step with
    tidy := { step.tidy with }
    tidy' := { step.tidy' with }
    levels := rfl }

/-- The same objects get counterparts. -/
theorem withPair (step : InStep rerun namings here there) {object1 object2 id id' : ObjectId}
    (unused : Unused rerun.start here object1 object2 id)
    (unused' : Unused rerun.start' there (rerun.leftNames.object object1)
      (rerun.rightNames.object object2) id') :
    InStep rerun namings (here.1.withPair object1 object2 id, here.2)
      (there.1.withPair (rerun.leftNames.object object1) (rerun.rightNames.object object2) id',
        there.2) :=
  { step with
    tidy := unused.tidy step.tidy
    tidy' := unused'.tidy step.tidy'
    leftObjects := fun source => isSome_object?_setObject
      rerun.leftNames.object_injective.eq_iff.symm (step.leftObjects source) id id'
    rightObjects := fun source => isSome_object?_setObject
      rerun.rightNames.object_injective.eq_iff.symm (step.rightObjects source) id id'
    relates := fun source1 source2 => by
      rw [unused.relates_iff step.tidy, unused'.relates_iff step.tidy', step.relates, Ne, Ne,
        rerun.leftNames.object_injective.eq_iff, rerun.rightNames.object_injective.eq_iff] }

/-- The same values get joint values. -/
theorem withJoint (step : InStep rerun namings here there) {value1 value1' value2 value2' : ValueId}
    (linked1 : namings.left value1 value1') (linked2 : namings.right value2 value2')
    (dest dest' : ValueId) :
    InStep rerun namings (here.1.withJoint value1 value2 dest, here.2)
      (there.1.withJoint value1' value2' dest', there.2) where
  sides := step.sides
  tidy := step.tidy.withJoint (step.sides.left.drawn linked1).1 (step.sides.right.drawn linked2).1 _
  tidy' := step.tidy'.withJoint (step.sides.left.drawn linked1).2
    (step.sides.right.drawn linked2).2 _
  leftObjects id := by
    simp only [Progress.withJoint, Correspondence.object?, objects_setUnlessZero]
    exact step.leftObjects id
  rightObjects id := by
    simp only [Progress.withJoint, Correspondence.object?, objects_setUnlessZero]
    exact step.rightObjects id
  relates object1 object2 := by
    simp only [Progress.Relates, Progress.withJoint, Correspondence.object?, objects_setUnlessZero]
    exact step.relates object1 object2
  leftValues linked := isSome_value?_setUnlessZero (step.sides.left.one linked linked1)
    (step.sides.left.isZero linked1) (step.leftValues linked) dest dest'
  rightValues linked := isSome_value?_setUnlessZero (step.sides.right.one linked linked2)
    (step.sides.right.isZero linked2) (step.rightValues linked) dest dest'
  joined {other1 other1' other2 other2'} named1 named2 := by
    have same : (other1', other2') = (value1', value2') ↔ (other1, other2) = (value1, value2) := by
      rw [Prod.mk.injEq, Prod.mk.injEq, step.sides.left.one named1 linked1,
        step.sides.right.one named2 linked2]
    simp only [Progress.withJoint, Table.get?_insert]
    by_cases isJoint : (other1, other2) = (value1, value2)
    · rw [if_pos isJoint, if_pos (same.2 isJoint)]
      rfl
    · rw [if_neg isJoint, if_neg fun isJoint' => isJoint (same.1 isJoint')]
      exact step.joined named1 named2
  levels := step.levels
  status := step.status

/-- More values may be linked while the layouts are aligned: what is drawn then has no
counterpart. -/
theorem withSides (step : InStep rerun namings here there)
    {end1 end2 : (Graph × Graph) × Supply}
    (onto : SidesOnto rerun namings later ((here.1.left, here.1.right), here.2)
      ((there.1.left, there.1.right), there.2) end1 end2) :
    InStep rerun later ({ here.1 with left := end1.1.1, right := end1.1.2 }, end1.2)
      ({ there.1 with left := end2.1.1, right := end2.1.2 }, end2.2) := by
  have unnamed {mapped : Bool} {index now : Nat} (early : mapped = true → index < now)
      (late : now ≤ index) : mapped = false :=
    Bool.eq_false_iff.2 fun isMapped => Nat.not_le_of_lt (early isMapped) late
  exact
    { step with
      sides := onto.sides
      tidy := { step.tidy.later onto.time with }
      tidy' := { step.tidy'.later onto.time' with }
      leftValues := fun linked => by
        rcases onto.grows.left.drawn linked with before | ⟨new, new'⟩
        · exact step.leftValues before
        · exact (unnamed step.tidy'.leftValues new').trans (unnamed step.tidy.leftValues new).symm
      rightValues := fun linked => by
        rcases onto.grows.right.drawn linked with before | ⟨new, new'⟩
        · exact step.rightValues before
        · exact (unnamed step.tidy'.rightValues new').trans (unnamed step.tidy.rightValues new).symm
      joined := fun linked1 linked2 => by
        rcases onto.grows.left.drawn linked1 with before1 | ⟨new, new'⟩
        · rcases onto.grows.right.drawn linked2 with before2 | ⟨new, new'⟩
          · exact step.joined before1 before2
          · exact (unnamed (fun isJoint => (step.tidy'.joined isJoint).2) new').trans
              (unnamed (fun isJoint => (step.tidy.joined isJoint).2) new).symm
        · exact (unnamed (fun isJoint => (step.tidy'.joined isJoint).1) new').trans
            (unnamed (fun isJoint => (step.tidy.joined isJoint).1) new).symm }

end InStep

end Join

end ShapeDomain
