import ShapeDomain.Graph.ReachableLemmas
import ShapeDomain.Proofs.Graph.Tame
import ShapeDomain.Proofs.Join.SameRanges
import ShapeDomain.Proofs.Progress.Numbers

/-!
# A join of a graph with itself

When a tame graph is joined with itself, every object and every value becomes its own counterpart,
nothing is drawn, and the destination grows into a copy of what the variables reach.  This module
says what has been copied at any time.
-/

namespace ShapeDomain

namespace Graph

/-- A reachable object holds a value. -/
def Kept (graph : Graph) (value : ValueId) : Prop :=
  ∃ object range, graph.Reaches object ∧ graph.valueAt? object range = some value

/-- The place that an address leads to in a copy: what led into a list segment as a region leads to
its first node. -/
def copiedTarget (graph : Graph) (target : Target) : Target :=
  if graph.isList target.object = true ∧ target.specifier = .region then
    { target with specifier := .first }
  else
    target

/-- What is known of a value in a copy: the place that it is the address of, or else its number. -/
def copiedKnowledge (graph : Graph) (value : ValueId) : Knowledge :=
  match graph.target? value with
  | some target => ⟨none, some (graph.copiedTarget target)⟩
  | none => ⟨graph.number? value, none⟩

variable {graph : Graph}

theorem object_copiedTarget (target : Target) :
    (graph.copiedTarget target).object = target.object := by
  unfold copiedTarget
  split <;> rfl

theorem offset_copiedTarget (target : Target) :
    (graph.copiedTarget target).offset = target.offset := by
  unfold copiedTarget
  split <;> rfl

/-- What is reachable is in the graph. -/
theorem Reaches.hasObject {id : ObjectId} (reaches : graph.Reaches id) (sound : graph.Sound) :
    graph.hasObject id = true := by
  induction reaches with
  | root named =>
      obtain ⟨entry, member, rfl⟩ := List.mem_map.1 named
      exact (sound.nameables entry member).present
  | step _ leads =>
      obtain ⟨field, -, target⟩ := List.mem_filterMap.1 leads
      obtain ⟨place, isPlace, rfl⟩ := Option.map_eq_some_iff.1 target
      exact sound.targets isPlace

/-- A kept address leads to a reachable object. -/
theorem Kept.reaches {value : ValueId} {target : Target} (kept : graph.Kept value)
    (leads : graph.target? value = some target) : graph.Reaches target.object := by
  obtain ⟨object, range, reaches, held⟩ := kept
  refine reaches.step (List.mem_filterMap.2 ⟨⟨object, range, value⟩, mem_fieldsOf.2 held, ?_⟩)
  rw [leads]
  rfl

end Graph

namespace Join

/-! ### What has been copied -/

/-- An object has been put into the destination. -/
def Progress.Copied (progress : Progress) (id : ObjectId) : Prop :=
  (progress.leftMap.object? id).isSome = true

/-- A value has been put into the destination. -/
def Progress.CopiedValue (progress : Progress) (value : ValueId) : Prop :=
  (progress.leftMap.value? value).isSome = true

instance (progress : Progress) (id : ObjectId) : Decidable (progress.Copied id) :=
  inferInstanceAs (Decidable (_ = _))

instance (progress : Progress) (value : ValueId) : Decidable (progress.CopiedValue value) :=
  inferInstanceAs (Decidable (_ = _))

/-- While a graph is joined with itself, what has counterparts is copied under its own names;
objects that wait may still lack fields. -/
structure Copying (origin : Graph) (waiting : List ObjectId) (progress : Progress) : Prop where
  /-- The left graph is the graph. -/
  left : progress.left = origin
  /-- So is the right graph. -/
  right : progress.right = origin
  /-- Both sides have the same counterparts. -/
  maps : progress.rightMap = progress.leftMap
  /-- Only the ground level is needed. -/
  levels : progress.levels = .initial
  /-- No difference was found. -/
  status : progress.status = .equal
  /-- The destination is sound. -/
  sound : progress.dest.Sound
  /-- It is in the memory of the same machine. -/
  machine : progress.dest.machine = origin.machine
  /-- It knows of no unequal values. -/
  unrelated : progress.dest.inequalities = ∅
  /-- Copied objects are their own counterparts, and reachable. -/
  object : ∀ {id image}, progress.leftMap.object? id = some image →
    image = id ∧ id ≠ .null ∧ origin.Reaches id
  /-- They stand in the destination as they do in the graph, and no others do. -/
  objects : ∀ id, id ≠ .null →
    progress.dest.objects.get? id = if progress.Copied id then origin.objects.get? id else none
  /-- Copied values are their own counterparts, and kept. -/
  value : ∀ {value image}, progress.leftMap.value? value = some image →
    image = value ∧ value ≠ .zero ∧ origin.Kept value
  /-- They are joined with themselves, and no others are joined. -/
  joined : ∀ {value1 value2 value}, progress.joined.get? (value1, value2) = some value ↔
    value1 = value ∧ value2 = value ∧ progress.CopiedValue value
  /-- They are in the destination, and no others are but zero. -/
  values : ∀ value, value ≠ .zero → progress.dest.values.get? value =
    if progress.CopiedValue value then some (origin.copiedKnowledge value) else none
  /-- The zero value is in the destination. -/
  zero : progress.dest.values.get? .zero = some .zero
  /-- Copied addresses lead to copied objects. -/
  leads : ∀ {value target}, progress.CopiedValue value → origin.target? value = some target →
    target.object = .null ∨ progress.Copied target.object
  /-- The fields of the destination are those of copied objects. -/
  held : ∀ {object range value}, progress.dest.valueAt? object range = some value →
    progress.Copied object ∧ origin.valueAt? object range = some value
  /-- Copied objects that do not wait have all their fields. -/
  filled : ∀ {object range value}, progress.Copied object → object ∉ waiting →
    origin.valueAt? object range = some value →
    progress.dest.valueAt? object range = some value ∧
      (value = .zero ∨ progress.CopiedValue value)

/-- What has been copied stays. -/
structure Grows (here there : Progress) : Prop where
  /-- Copied objects stay. -/
  objects : ∀ {id}, here.Copied id → there.Copied id
  /-- So do copied values, -/
  values : ∀ {value}, here.CopiedValue value → there.CopiedValue value
  /-- and fields. -/
  fields : ∀ {object range value}, here.dest.valueAt? object range = some value →
    there.dest.valueAt? object range = some value
  /-- The running functions stay the same. -/
  stack : there.dest.stack = here.dest.stack
  /-- So do the global variables. -/
  globals : there.dest.globals = here.dest.globals

theorem Grows.refl (progress : Progress) : Grows progress progress :=
  ⟨id, id, id, rfl, rfl⟩

theorem Grows.trans {first second third : Progress} (earlier : Grows first second)
    (later : Grows second third) : Grows first third where
  objects := later.objects ∘ earlier.objects
  values := later.values ∘ earlier.values
  fields := later.fields ∘ earlier.fields
  stack := later.stack.trans earlier.stack
  globals := later.globals.trans earlier.globals

/-- A computation goes through, draws nothing and copies more of the graph, and then `good` holds of
its result and the end. -/
abbrev Copies {α : Type} (origin : Graph) (waiting : List ObjectId) (computation : Run Progress α)
    (here : Progress × Supply) (good : α → Progress → Prop) : Prop :=
  Run.Ends computation here
    (fun result there => there.2 = here.2 ∧ Copying origin waiting there.1 ∧ good result there.1)
    (fun _ _ => False)

namespace Copying

variable {origin : Graph} {waiting : List ObjectId} {progress : Progress} {id : ObjectId}
variable {value : ValueId}

theorem object?_of_copied (copying : Copying origin waiting progress)
    (copied : progress.Copied id) :
    progress.leftMap.object? id = some id := by
  obtain ⟨image, found⟩ := Option.isSome_iff_exists.1 copied
  obtain ⟨rfl, -⟩ := copying.object found
  exact found

theorem reaches (copying : Copying origin waiting progress) (copied : progress.Copied id) :
    origin.Reaches id :=
  (copying.object (copying.object?_of_copied copied)).2.2

theorem proper (copying : Copying origin waiting progress) (copied : progress.Copied id) :
    id ≠ .null :=
  (copying.object (copying.object?_of_copied copied)).2.1

theorem value?_of_copied (copying : Copying origin waiting progress)
    (copied : progress.CopiedValue value) : progress.leftMap.value? value = some value := by
  obtain ⟨image, found⟩ := Option.isSome_iff_exists.1 copied
  obtain ⟨rfl, -⟩ := copying.value found
  exact found

theorem properValue (copying : Copying origin waiting progress)
    (copied : progress.CopiedValue value) :
    value ≠ .zero :=
  (copying.value (copying.value?_of_copied copied)).2.1

theorem kept (copying : Copying origin waiting progress) (copied : progress.CopiedValue value) :
    origin.Kept value :=
  (copying.value (copying.value?_of_copied copied)).2.2

theorem absent (copying : Copying origin waiting progress) (proper : id ≠ .null)
    (new : ¬ progress.Copied id) : progress.dest.hasObject id = false := by
  rw [Graph.hasObject, Table.contains, copying.objects id proper, if_neg new]
  rfl

theorem hasObject (copying : Copying origin waiting progress)
    (copied : id = .null ∨ progress.Copied id)
    (present : origin.hasObject id = true) :
    progress.dest.hasObject id = true := by
  rcases copied with rfl | copied
  · exact copying.sound.hasObject_null
  · rwa [Graph.hasObject, Table.contains, copying.objects id (copying.proper copied), if_pos copied]

/-- The objects of the destination are as they were. -/
theorem object?_eq (copying : Copying origin waiting progress) (sound : origin.Sound)
    (copied : id = .null ∨ progress.Copied id) :
    progress.dest.object? id = origin.object? id := by
  rcases copied with rfl | copied
  · rw [copying.sound.object?_null, sound.object?_null]
  · rw [Graph.object?, copying.objects id (copying.proper copied), if_pos copied, Graph.object?]

theorem knowledge_of_new (copying : Copying origin waiting progress) (proper : value ≠ .zero)
    (new : ¬ progress.CopiedValue value) : progress.dest.knowledge value = .nothing := by
  rw [Graph.knowledge, copying.values value proper, if_neg new]
  rfl

/-- More objects may wait. -/
theorem weaken (copying : Copying origin waiting progress) {more : List ObjectId}
    (within : ∀ {id}, id ∈ waiting → id ∈ more) : Copying origin more progress :=
  { copying with filled := fun copied outside =>
      copying.filled copied fun waits => outside (within waits) }

/-- An object with all its fields need not wait. -/
theorem finish (copying : Copying origin (id :: waiting) progress)
    (full : ∀ {range value}, origin.valueAt? id range = some value →
      progress.dest.valueAt? id range = some value ∧
        (value = .zero ∨ progress.CopiedValue value)) : Copying origin waiting progress := by
  refine { copying with filled := fun {object range value} copied outside held => ?_ }
  by_cases same : object = id
  · subst same
    exact full held
  · exact copying.filled copied (by simp [same, outside]) held

/-! ### More is copied -/

/-- An object is put into the destination, maybe as a variable, and waits for its fields. -/
theorem place (copying : Copying origin waiting progress) {dest : Graph}
    (reaches : origin.Reaches id)
    (proper : id ≠ .null) (sound : dest.Sound) (machine : dest.machine = progress.dest.machine)
    (objects : ∀ other, dest.objects.get? other =
      if other = id then origin.objects.get? id else progress.dest.objects.get? other)
    (values : dest.values = progress.dest.values) (layouts : dest.layouts = progress.dest.layouts)
    (inequalities : dest.inequalities = progress.dest.inequalities) :
    Copying origin (id :: waiting) ({ progress with dest := dest }.withPair id id id) := by
  have map (other : ObjectId) : (progress.leftMap.setObject id id).object? other =
      if other = id then some id else progress.leftMap.object? other :=
    Correspondence.object?_setObject ..
  have copied {other : ObjectId} :
      ({ progress with dest := dest }.withPair id id id).Copied other ↔
        other = id ∨ progress.Copied other := by
    rw [Progress.Copied, Progress.withPair, map]
    by_cases same : other = id <;> simp [same, Progress.Copied]
  have held (object : ObjectId) (range : BitRange) :
      dest.valueAt? object range = progress.dest.valueAt? object range := by
    rw [Graph.valueAt?, Graph.layout, layouts, Graph.valueAt?, Graph.layout]
  exact
    { left := copying.left
      right := copying.right
      maps := by rw [Progress.withPair]; exact congrArg (·.setObject id id) copying.maps
      levels := copying.levels
      status := copying.status
      sound := sound
      machine := machine.trans copying.machine
      unrelated := inequalities.trans copying.unrelated
      object := fun {other image} mapped => by
        replace mapped : (progress.leftMap.setObject id id).object? other = some image := mapped
        rw [map] at mapped
        split at mapped
        case isTrue same =>
          obtain rfl := Option.some.inj mapped
          rw [same]
          exact ⟨rfl, proper, reaches⟩
        case isFalse => exact copying.object mapped
      objects := fun other properOther => by
        refine (objects other).trans ?_
        simp only [copied]
        by_cases same : other = id
        · rw [if_pos same, if_pos (.inl same), same]
        · rw [if_neg same, copying.objects other properOther]
          simp [same]
      value := copying.value
      joined := copying.joined
      values := fun value properValue =>
        (congrArg (·.get? value) values).trans (copying.values value properValue)
      zero := (congrArg (·.get? .zero) values).trans copying.zero
      leads := fun isCopied leads =>
        (copying.leads isCopied leads).imp_right fun old => copied.2 (.inr old)
      held := fun {object range value} isHeld => by
        have old := copying.held ((held object range).symm.trans isHeld)
        exact ⟨copied.2 (.inr old.1), old.2⟩
      filled := fun {object range value} isCopied outside isHeld => by
        rw [List.mem_cons, not_or] at outside
        have full := copying.filled ((copied.1 isCopied).resolve_left outside.1) outside.2 isHeld
        exact ⟨(held object range).trans full.1, full.2⟩ }

/-- The destination stays sound when a value is put into it that leads to copied objects only. -/
theorem sound_putCopied (copying : Copying origin waiting progress) (proper : value ≠ .zero)
    (reaches : ∀ {target}, origin.target? value = some target →
      origin.hasObject target.object = true ∧
        (target.object = .null ∨ progress.Copied target.object)) :
    (progress.dest.putKnowledge value (origin.copiedKnowledge value)).Sound := by
  refine copying.sound.putKnowledge (fun zero => absurd zero proper) fun target leads => ?_
  unfold Graph.copiedKnowledge at leads
  split at leads
  case h_1 place isPlace =>
    obtain rfl := Option.some.inj leads
    rw [Graph.object_copiedTarget]
    obtain ⟨present, isCopied⟩ := reaches isPlace
    exact copying.hasObject isCopied present
  case h_2 => simp at leads

/-- When one more value is joined with itself, that value and the copied ones are, and no others. -/
theorem joined_insert (copying : Copying origin waiting progress) {value1 value2 result : ValueId} :
    (progress.joined.insert (value, value) value).get? (value1, value2) = some result ↔
      value1 = result ∧ value2 = result ∧ (result = value ∨ progress.CopiedValue result) := by
  rw [Table.get?_insert]
  by_cases isSame : (value1, value2) = (value, value)
  · obtain ⟨rfl, rfl⟩ := Prod.mk.inj isSame
    simp only [if_true, Option.some.injEq]
    constructor
    · rintro rfl
      exact ⟨rfl, rfl, .inl rfl⟩
    · exact And.left
  · rw [if_neg isSame, copying.joined]
    constructor
    · rintro ⟨rfl, rfl, old⟩
      exact ⟨rfl, rfl, .inr old⟩
    · rintro ⟨rfl, rfl, rfl | old⟩
      · exact absurd rfl isSame
      · exact ⟨rfl, rfl, old⟩

/-- A value is put into the destination. -/
theorem settle (copying : Copying origin waiting progress) (properValue : value ≠ .zero)
    (kept : origin.Kept value) {dest : Graph}
    (same : dest.addValue value =
      progress.dest.putKnowledge value (origin.copiedKnowledge value))
    (reaches : ∀ {target}, origin.target? value = some target →
      origin.hasObject target.object = true ∧
        (target.object = .null ∨ progress.Copied target.object)) :
    Copying origin waiting ({ progress with dest := dest }.withJoint value value value) ∧
      Grows progress ({ progress with dest := dest }.withJoint value value value) ∧
      ({ progress with dest := dest }.withJoint value value value).CopiedValue value := by
  rw [Progress.withJoint_of_proper _ properValue properValue, same]
  set there : Progress := { progress with
    leftMap := progress.leftMap.setValue value value
    rightMap := progress.rightMap.setValue value value
    joined := progress.joined.insert (value, value) value
    dest := progress.dest.putKnowledge value (origin.copiedKnowledge value) } with isThere
  have map (other : ValueId) : (progress.leftMap.setValue value value).value? other =
      if other = value then some value else progress.leftMap.value? other :=
    Correspondence.value?_setValue ..
  have copied {other : ValueId} : there.CopiedValue other ↔
      other = value ∨ progress.CopiedValue other := by
    rw [Progress.CopiedValue, isThere, map]
    by_cases same : other = value <;> simp [same, Progress.CopiedValue]
  refine ⟨?_, ⟨id, fun isCopied => copied.2 (.inr isCopied), id, rfl, rfl⟩, copied.2 (.inl rfl)⟩
  exact
    { left := copying.left
      right := copying.right
      maps := congrArg (·.setValue value value) copying.maps
      levels := copying.levels
      status := copying.status
      sound := copying.sound_putCopied properValue reaches
      machine := copying.machine
      unrelated := copying.unrelated
      object := copying.object
      objects := copying.objects
      value := fun {other image} mapped => by
        replace mapped : (progress.leftMap.setValue value value).value? other = some image := mapped
        rw [map] at mapped
        split at mapped
        case isTrue isSame =>
          obtain rfl := Option.some.inj mapped
          rw [isSame]
          exact ⟨rfl, properValue, kept⟩
        case isFalse => exact copying.value mapped
      joined := fun {value1 value2 result} => by
        rw [copied]
        exact copying.joined_insert
      values := fun other properOther => by
        show (progress.dest.values.insert value (origin.copiedKnowledge value)).get? other = _
        rw [Table.get?_insert]
        simp only [copied]
        by_cases isSame : other = value
        · simp [isSame]
        · rw [if_neg isSame, copying.values other properOther]
          simp [isSame]
      zero := by
        show (progress.dest.values.insert value (origin.copiedKnowledge value)).get? .zero = _
        rw [Table.get?_insert_of_ne _ (Ne.symm properValue)]
        exact copying.zero
      leads := fun {other target} isCopied leads => by
        rcases copied.1 isCopied with rfl | old
        · exact (reaches leads).2
        · exact copying.leads old leads
      held := copying.held
      filled := fun isCopied outside isHeld => by
        have full := copying.filled isCopied outside isHeld
        exact ⟨full.1, full.2.imp_right fun old => copied.2 (.inr old)⟩ }

end Copying

end Join

end ShapeDomain
