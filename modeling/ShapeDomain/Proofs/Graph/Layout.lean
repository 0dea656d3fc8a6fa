import ShapeDomain.Graph.Lemmas

/-!
# Fields seen through lookup

A graph is seen as the partial map from objects and ranges to values.  This module says which fields
a list of fields holds, what adding and removing a field does to the map, and when a field can be
added.  In a graph whose objects are tiled, it can be added wherever no other field is in the way.
-/

namespace ShapeDomain

namespace BitRange

theorem eq_of_offset_of_size {range other : BitRange}
    (offset : range.offset = other.offset) (size : range.size = other.size) : range = other := by
  cases range; cases other
  simp_all

/-- Two ranges have no bit in common. -/
def Apart (range other : BitRange) : Prop :=
  range.offset + range.size ≤ other.offset ∨ other.offset + other.size ≤ range.offset

theorem Apart.symm {range other : BitRange} (apart : range.Apart other) : other.Apart range :=
  Or.symm apart

theorem Apart.ne {range other : BitRange} (apart : range.Apart other) (positive : 0 < range.size) :
    range ≠ other := by
  rintro rfl
  rcases apart with before | after <;> omega

theorem Apart.offset_ne {range other : BitRange} (apart : range.Apart other)
    (positive : 0 < range.size) (otherPositive : 0 < other.size) :
    range.offset ≠ other.offset := by
  intro same
  rcases apart with before | after <;> omega

theorem Apart.overlaps_eq_false {range other : BitRange} (apart : range.Apart other) :
    range.overlaps other = false := by
  rw [Bool.eq_false_iff, Ne, overlaps_iff, stop, stop]
  rcases apart with before | after <;> omega

end BitRange

namespace Graph

variable {graph : Graph}

/-! ### Membership -/

theorem valueAt?_eq_some_iff {object : ObjectId} {range : BitRange} {value : ValueId} :
    graph.valueAt? object range = some value ↔
      (graph.layout object).get? range.offset = some ⟨range.size, value⟩ := by
  rw [valueAt?]
  cases (graph.layout object).get? range.offset with
  | none => simp
  | some content =>
      rcases content with ⟨size, held⟩
      simp only [Option.bind_some, Option.some.injEq, Content.mk.injEq]
      split <;> simp_all

/-- Fields of an object that start at the same bit are the same. -/
theorem range_unique {object : ObjectId} {range other : BitRange} {value held : ValueId}
    (here : graph.valueAt? object range = some value)
    (there : graph.valueAt? object other = some held) (same : range.offset = other.offset) :
    range = other := by
  rw [valueAt?_eq_some_iff] at here there
  rw [same, there, Option.some.injEq, Content.mk.injEq] at here
  exact BitRange.eq_of_offset_of_size same here.1.symm

theorem mem_fields_layout {object : ObjectId} {layout : Layout} {field : Field} :
    field ∈ layout.fields object ↔ field.object = object ∧
      layout.get? field.range.offset = some ⟨field.range.size, field.value⟩ := by
  rcases field with ⟨holder, ⟨offset, size⟩, value⟩
  rw [← Table.mem_toList_iff]
  simp only [Layout.fields, List.mem_map, Field.mk.injEq, BitRange.mk.injEq]
  constructor
  · rintro ⟨⟨start, content⟩, member, same, ⟨rfl, rfl⟩, rfl⟩
    exact ⟨same.symm, member⟩
  · rintro ⟨same, member⟩
    exact ⟨_, member, same.symm, ⟨rfl, rfl⟩, rfl⟩

theorem mem_fieldsOf_iff {object : ObjectId} {field : Field} :
    field ∈ graph.fieldsOf object ↔
      field.object = object ∧ graph.valueAt? object field.range = some field.value := by
  rw [fieldsOf, mem_fields_layout, valueAt?_eq_some_iff]

theorem mem_fieldsOf {object : ObjectId} {range : BitRange} {value : ValueId} :
    (⟨object, range, value⟩ : Field) ∈ graph.fieldsOf object ↔
      graph.valueAt? object range = some value := by
  simp [mem_fieldsOf_iff]

/-- The fields of an object are listed in the order in which they start. -/
theorem pairwise_fieldsOf (object : ObjectId) :
    (graph.fieldsOf object).Pairwise fun a b => a.range.offset < b.range.offset := by
  rw [fieldsOf, Layout.fields, List.pairwise_map]
  exact (graph.layout object).sorted.imp fun less => Nat.compare_eq_lt.1 less

theorem nodup_fieldsOf (object : ObjectId) : (graph.fieldsOf object).Nodup :=
  (pairwise_fieldsOf object).imp fun {a b} less same => by
    subst same
    exact absurd less (Nat.lt_irrefl _)

/-- Two objects with the same ranges have the same fields, up to what these hold. -/
theorem fieldsOf_eq_map {other : Graph} {object counterpart : ObjectId}
    (f : BitRange → ValueId → ValueId)
    (same : ∀ range, other.valueAt? counterpart range =
      (graph.valueAt? object range).map (f range)) :
    other.fieldsOf counterpart = (graph.fieldsOf object).map fun field =>
      ⟨counterpart, field.range, f field.range field.value⟩ := by
  have ordered : ((graph.fieldsOf object).map fun field =>
      (⟨counterpart, field.range, f field.range field.value⟩ : Field)).Pairwise fun a b =>
        a.range.offset < b.range.offset := by
    rw [List.pairwise_map]
    exact pairwise_fieldsOf object
  have nodup : ((graph.fieldsOf object).map fun field =>
      (⟨counterpart, field.range, f field.range field.value⟩ : Field)).Nodup :=
    ordered.imp fun {a b} less equal => by
      subst equal
      exact absurd less (Nat.lt_irrefl _)
  refine List.Perm.eq_of_pairwise (fun _ _ _ _ less greater => ?_) (pairwise_fieldsOf counterpart)
    ordered ((List.perm_ext_iff_of_nodup (nodup_fieldsOf counterpart) nodup).2 fun field => ?_)
  · exact absurd (Nat.lt_trans less greater) (Nat.lt_irrefl _)
  · rw [mem_fieldsOf_iff, same, Option.map_eq_some_iff, List.mem_map]
    constructor
    · rintro ⟨rfl, value, held, isValue⟩
      refine ⟨⟨object, field.range, value⟩, mem_fieldsOf.2 held, ?_⟩
      rw [isValue]
    · rintro ⟨source, member, rfl⟩
      exact ⟨rfl, source.value, (mem_fieldsOf_iff.1 member).2, rfl⟩

theorem mem_fields_iff {field : Field} :
    field ∈ graph.fields ↔ graph.valueAt? field.object field.range = some field.value := by
  rw [valueAt?_eq_some_iff]
  simp only [fields, List.mem_flatMap, Prod.exists, mem_fields_layout, Table.mem_toList_iff,
    layout]
  constructor
  · rintro ⟨object, layout, found, rfl, held⟩
    rw [found]
    exact held
  · intro held
    cases found : graph.layouts.get? field.object with
    | none =>
        rw [found] at held
        simp at held
    | some layout => exact ⟨field.object, layout, found, rfl, by simpa [found] using held⟩

theorem hasField_iff {field : Field} :
    graph.hasField field = true ↔ graph.valueAt? field.object field.range = some field.value := by
  rw [hasField, beq_iff_eq, valueAt?_eq_some_iff]

/-- What an object holds depends on its layout alone. -/
theorem valueAt?_congr {other : Graph} {object : ObjectId}
    (same : graph.layout object = other.layout object) (range : BitRange) :
    graph.valueAt? object range = other.valueAt? object range := by
  rw [valueAt?, valueAt?, same]

/-- Two layouts are equal when they hold the same values in the same ranges. -/
theorem layout_ext {other : Graph} {object counterpart : ObjectId}
    (same : ∀ range, graph.valueAt? object range = other.valueAt? counterpart range) :
    graph.layout object = other.layout counterpart := by
  refine Table.ext_get? fun offset => Option.ext fun content => ?_
  have held := same ⟨offset, content.size⟩
  have iff : graph.valueAt? object ⟨offset, content.size⟩ = some content.value ↔
      (graph.layout object).get? offset = some content := valueAt?_eq_some_iff
  have otherIff : other.valueAt? counterpart ⟨offset, content.size⟩ = some content.value ↔
      (other.layout counterpart).get? offset = some content := valueAt?_eq_some_iff
  exact iff.symm.trans ((iff_of_eq (congrArg (· = some content.value) held)).trans otherIff)

@[simp] theorem layout_addValue (value : ValueId) (object : ObjectId) :
    (graph.addValue value).layout object = graph.layout object := rfl

@[simp] theorem valueAt?_addValue (value : ValueId) (object : ObjectId) (range : BitRange) :
    (graph.addValue value).valueAt? object range = graph.valueAt? object range := rfl

/-! ### Putting a field -/

/-- The graph with one more field. -/
def putField (graph : Graph) (field : Field) : Graph :=
  { graph.addValue field.value with
    layouts := graph.layouts.insert field.object
      ((graph.layout field.object).insert field.range.offset ⟨field.range.size, field.value⟩) }

theorem layout_putField (field : Field) (object : ObjectId) :
    (graph.putField field).layout object =
      if object = field.object then
        (graph.layout field.object).insert field.range.offset ⟨field.range.size, field.value⟩
      else graph.layout object := by
  simp only [putField, layout, Table.get?_insert]
  split <;> rfl

theorem layout_putField_of_ne {field : Field} {object : ObjectId}
    (distinct : object ≠ field.object) :
    (graph.putField field).layout object = graph.layout object := by
  rw [layout_putField, if_neg distinct]

theorem valueAt?_putField_of_ne {field : Field} {object : ObjectId}
    (distinct : object ≠ field.object) (range : BitRange) :
    (graph.putField field).valueAt? object range = graph.valueAt? object range :=
  valueAt?_congr (layout_putField_of_ne distinct) range

@[simp] theorem valueAt?_putField_self (field : Field) :
    (graph.putField field).valueAt? field.object field.range = some field.value := by
  rw [valueAt?_eq_some_iff, layout_putField, if_pos rfl, Table.get?_insert_self]

/-- After a field was put, its object holds the field and what starts elsewhere. -/
theorem valueAt?_putField_iff {field : Field} {object : ObjectId} {range : BitRange}
    {value : ValueId} :
    (graph.putField field).valueAt? object range = some value ↔
      (object = field.object ∧ range = field.range ∧ value = field.value) ∨
        (graph.valueAt? object range = some value ∧
          (object = field.object → range.offset ≠ field.range.offset)) := by
  by_cases same : object = field.object
  case neg => simp [valueAt?_putField_of_ne same, same]
  case pos =>
    subst same
    rw [valueAt?_eq_some_iff, layout_putField, if_pos rfl, Table.get?_insert]
    split
    case isTrue start =>
      have equal : range = field.range ↔ field.range.size = range.size :=
        ⟨fun same => by rw [same], fun size => BitRange.eq_of_offset_of_size start size.symm⟩
      simp [start, equal, eq_comm (a := value)]
    case isFalse start =>
      have differ : range ≠ field.range := fun same => start (congrArg BitRange.offset same)
      simp [start, differ, valueAt?_eq_some_iff]

@[simp] theorem objects_putField (field : Field) :
    (graph.putField field).objects = graph.objects := rfl

@[simp] theorem target?_putField (field : Field) (value : ValueId) :
    (graph.putField field).target? value = graph.target? value := target?_addValue ..

@[simp] theorem number?_putField (field : Field) (value : ValueId) :
    (graph.putField field).number? value = graph.number? value := number?_addValue ..

@[simp] theorem hasValue_putField (field : Field) (value : ValueId) :
    (graph.putField field).hasValue value =
      (decide (value = field.value) || graph.hasValue value) := hasValue_addValue ..

/-! ### Tiled graphs -/

/-- Fields have bits, lie within their objects and have no bit in common. -/
structure Tiled (graph : Graph) : Prop where
  /-- No field is empty. -/
  positive : ∀ {object range value}, graph.valueAt? object range = some value → 0 < range.size
  /-- Every field fits its object. -/
  fits : ∀ {object range value}, graph.valueAt? object range = some value →
    ∃ found, graph.object? object = some found ∧ range.fits found.size = true
  /-- Different fields of an object are apart. -/
  apart : ∀ {object range other value held}, graph.valueAt? object range = some value →
    graph.valueAt? object other = some held → range = other ∨ range.Apart other

/-- The fields of an object have bits, lie within it and have no bit in common. -/
structure TiledAt (graph : Graph) (object : ObjectId) (size : Nat) : Prop where
  /-- The object has the size. -/
  present : ∃ found, graph.object? object = some found ∧ found.size = size
  /-- No field is empty. -/
  positive : ∀ {range value}, graph.valueAt? object range = some value → 0 < range.size
  /-- Every field fits the object. -/
  fits : ∀ {range value}, graph.valueAt? object range = some value → range.fits size = true
  /-- Different fields are apart. -/
  apart : ∀ {range other value held}, graph.valueAt? object range = some value →
    graph.valueAt? object other = some held → range = other ∨ range.Apart other

theorem Tiled.at {object : ObjectId} {found : Object} (tiled : graph.Tiled)
    (present : graph.object? object = some found) : graph.TiledAt object found.size where
  present := ⟨found, present, rfl⟩
  positive := tiled.positive
  fits held := by
    obtain ⟨found', there, fit⟩ := tiled.fits held
    obtain rfl := Option.some.inj (present.symm.trans there)
    exact fit
  apart := tiled.apart

/-- The fields of an object that have bits and no bit in common follow each other. -/
theorem follow_of_apart {object : ObjectId}
    (positive : ∀ {range value}, graph.valueAt? object range = some value → 0 < range.size)
    (apart : ∀ {range other value held}, graph.valueAt? object range = some value →
      graph.valueAt? object other = some held → range = other ∨ range.Apart other) :
    (graph.fieldsOf object).Pairwise fun a b =>
      a.range.offset + a.range.size ≤ b.range.offset := by
  have held {field : Field} (member : field ∈ graph.fieldsOf object) :
      graph.valueAt? object field.range = some field.value := (mem_fieldsOf_iff.1 member).2
  refine (pairwise_fieldsOf object).imp_of_mem fun {a b} memberA memberB less => ?_
  have bits := positive (held memberB)
  rcases apart (held memberA) (held memberB) with same | before | after
  · rw [same] at less
    exact absurd less (Nat.lt_irrefl _)
  · exact before
  · omega

/-- The place of a field is free. -/
structure Vacant (graph : Graph) (object : ObjectId) (range : BitRange) : Prop where
  /-- The field would have bits. -/
  positive : 0 < range.size
  /-- It would fit the object. -/
  fits : ∃ found, graph.object? object = some found ∧ range.fits found.size = true
  /-- It would have no bit in common with another field. -/
  apart : ∀ {other held}, graph.valueAt? object other = some held → other.Apart range

theorem Vacant.valueAt?_eq_none {object : ObjectId} {range : BitRange}
    (vacant : graph.Vacant object range) : graph.valueAt? object range = none := by
  cases held : graph.valueAt? object range with
  | none => rfl
  | some value => exact absurd rfl ((vacant.apart held).ne vacant.positive)

theorem lastBelow?_mem {layout : Layout} {bound : Nat} {binding : Nat × Content}
    (found : layout.lastBelow? bound = some binding) :
    layout.get? binding.1 = some binding.2 := by
  have member := List.mem_of_getLast? found
  exact Table.mem_toList_iff.1 (List.mem_filter.1 member).1

/-- If something starts below a bound, then so does the last binding below it, and no earlier. -/
theorem exists_lastBelow? {layout : Layout} {bound offset : Nat} {content : Content}
    (held : layout.get? offset = some content) (early : offset < bound) :
    ∃ last, layout.lastBelow? bound = some last ∧ offset ≤ last.1 ∧ last.1 < bound := by
  have member : (offset, content) ∈ layout.toList.filter fun binding =>
      compare binding.1 bound == .lt :=
    List.mem_filter.2 ⟨Table.mem_toList_iff.2 held, by simpa [Nat.compare_eq_lt] using early⟩
  unfold Table.lastBelow?
  cases last : (layout.toList.filter fun binding => compare binding.1 bound == .lt).getLast? with
  | none =>
      rw [List.getLast?_eq_none_iff] at last
      rw [last] at member
      simp at member
  | some binding =>
      have below := (List.mem_filter.1 (List.mem_of_getLast? last)).2
      rw [beq_iff_eq, Nat.compare_eq_lt] at below
      refine ⟨binding, rfl, ?_, below⟩
      have ordered := layout.sorted.filter fun binding => compare binding.1 bound == .lt
      obtain ⟨front, split⟩ := List.getLast?_eq_some_iff.1 last
      rw [split] at ordered member
      rcases List.mem_append.1 member with inFront | isLast
      · exact Nat.le_of_lt (Nat.compare_eq_lt.1
          ((List.pairwise_append.1 ordered).2.2 _ inFront _ List.mem_cons_self))
      · exact Nat.le_of_eq (congrArg Prod.fst (List.mem_singleton.1 isLast))

/-- A field that fits can be added where nothing is held that it overlaps. -/
theorem addField_of_clear {field : Field} {object : Object}
    (found : graph.object? field.object = some object) (fit : field.range.fits object.size = true)
    (nothing : graph.valueAt? field.object field.range = none)
    (clear : ∀ {other held}, graph.valueAt? field.object other = some held →
      other.overlaps field.range = false) : graph.addField field = .ok (graph.putField field) := by
  have present : graph.object field.object = .ok object := (graph.object_eq_ok_iff).2 found
  have absent : graph.hasField field = false := by
    rw [Bool.eq_false_iff, Ne, hasField_iff, nothing]
    simp
  have apart (binding : Nat × Content)
      (last : (graph.layout field.object).lastBelow? field.range.stop = some binding) :
      BitRange.overlaps ⟨binding.1, binding.2.size⟩ field.range = false :=
    clear (valueAt?_eq_some_iff.2 (lastBelow?_mem last))
  simp only [addField, present, bind, Except.bind, fit, Bool.not_true, Bool.false_eq_true,
    if_false, absent]
  cases last : (graph.layout field.object).lastBelow? field.range.stop with
  | none => rfl
  | some binding =>
      simp only [apart binding last, Bool.false_eq_true, if_false]
      rfl

/-- A field can be added where its place is free. -/
theorem addField_of_vacant {field : Field} (vacant : graph.Vacant field.object field.range) :
    graph.addField field = .ok (graph.putField field) := by
  obtain ⟨object, found, fit⟩ := vacant.fits
  exact addField_of_clear found fit vacant.valueAt?_eq_none fun held =>
    (vacant.apart held).overlaps_eq_false

/-- What a graph holds after a field was put into a free place of an object whose fields have
bits. -/
theorem Vacant.valueAt?_putField {field : Field}
    (vacant : graph.Vacant field.object field.range)
    (positive : ∀ {range value}, graph.valueAt? field.object range = some value → 0 < range.size)
    (object : ObjectId) (range : BitRange) :
    (graph.putField field).valueAt? object range =
      if object = field.object ∧ range = field.range then some field.value
      else graph.valueAt? object range := by
  split
  case isTrue same =>
    obtain ⟨rfl, rfl⟩ := same
    exact valueAt?_putField_self field
  case isFalse different =>
    by_cases same : object = field.object
    case neg => exact valueAt?_putField_of_ne same range
    case pos =>
      subst same
      by_cases start : range.offset = field.range.offset
      case neg =>
        rw [valueAt?, layout_putField, if_pos rfl, Table.get?_insert_of_ne _ start, valueAt?]
      case pos =>
        have unheld : graph.valueAt? field.object range = none := by
          cases held : graph.valueAt? field.object range with
          | none => rfl
          | some value =>
              exact absurd start
                ((vacant.apart held).offset_ne (positive held) vacant.positive)
        rw [unheld, valueAt?, layout_putField, if_pos rfl, start, Table.get?_insert_self]
        have size : field.range.size ≠ range.size := fun size =>
          different ⟨rfl, BitRange.eq_of_offset_of_size start size.symm⟩
        simp [size]

/-- What a tiled graph holds after a field was put into a free place. -/
theorem Tiled.valueAt?_putField (tiled : graph.Tiled) (field : Field)
    (vacant : graph.Vacant field.object field.range) (object : ObjectId) (range : BitRange) :
    (graph.putField field).valueAt? object range =
      if object = field.object ∧ range = field.range then some field.value
      else graph.valueAt? object range :=
  vacant.valueAt?_putField tiled.positive object range

theorem Tiled.putField (tiled : graph.Tiled) {field : Field}
    (vacant : graph.Vacant field.object field.range) : (graph.putField field).Tiled where
  positive {object range value} held := by
    rw [tiled.valueAt?_putField field vacant] at held
    split at held
    case isTrue same => exact same.2 ▸ vacant.positive
    case isFalse => exact tiled.positive held
  fits {object range value} held := by
    rw [tiled.valueAt?_putField field vacant] at held
    split at held
    case isTrue same =>
      obtain ⟨rfl, rfl⟩ := same
      exact vacant.fits
    case isFalse => exact tiled.fits held
  apart {object range other value held} here there := by
    rw [tiled.valueAt?_putField field vacant] at here there
    split at here <;> split at there
    case isTrue.isTrue same same' => exact .inl (same.2.trans same'.2.symm)
    case isTrue.isFalse same _ =>
      obtain ⟨rfl, rfl⟩ := same
      exact .inr (vacant.apart there).symm
    case isFalse.isTrue _ same =>
      obtain ⟨rfl, rfl⟩ := same
      exact .inr (vacant.apart here)
    case isFalse.isFalse => exact tiled.apart here there

/-! ### Removing a field -/

theorem layout_removeField_of_ne {field : Field} {object : ObjectId}
    (distinct : object ≠ field.object) :
    (graph.removeField field).layout object = graph.layout object := by
  unfold removeField
  split
  · simp only [layout, Table.get?_insert, if_neg distinct]
  · rfl

/-- Nothing but the removed field is lost. -/
theorem valueAt?_removeField (field : Field) (object : ObjectId) (range : BitRange) :
    (graph.removeField field).valueAt? object range =
      if object = field.object ∧ range = field.range ∧ graph.hasField field = true then none
      else graph.valueAt? object range := by
  by_cases same : object = field.object
  case neg =>
    simp only [same, false_and, if_false]
    exact valueAt?_congr (layout_removeField_of_ne same) range
  case pos =>
    subst same
    cases present : graph.hasField field with
    | false => simp [removeField, present]
    | true =>
        have held := valueAt?_eq_some_iff.1 (hasField_iff.1 present)
        have layout_eq : (graph.removeField field).layout field.object =
            (graph.layout field.object).erase field.range.offset := by
          simp [removeField, present, layout]
        rw [valueAt?, layout_eq]
        by_cases start : range.offset = field.range.offset
        · rw [start, Table.get?_erase_self]
          split
          case isTrue => rfl
          case isFalse different =>
            rw [valueAt?, start, held]
            have size : field.range.size ≠ range.size := fun size =>
              different ⟨rfl, BitRange.eq_of_offset_of_size start size.symm, rfl⟩
            simp [size]
        · rw [Table.get?_erase_of_ne _ start, valueAt?]
          have different : range ≠ field.range := fun same => start (by rw [same])
          simp [different]

@[simp] theorem objects_removeField (field : Field) :
    (graph.removeField field).objects = graph.objects := by
  unfold removeField
  split <;> rfl

@[simp] theorem values_removeField (field : Field) :
    (graph.removeField field).values = graph.values := by
  unfold removeField
  split <;> rfl

theorem names_removeField (field : Field) :
    (graph.removeField field).stack = graph.stack ∧
      (graph.removeField field).globals = graph.globals := by
  unfold removeField
  split <;> exact ⟨rfl, rfl⟩

theorem target?_removeField (field : Field) (value : ValueId) :
    (graph.removeField field).target? value = graph.target? value := by
  rw [target?, knowledge, values_removeField]
  rfl

@[simp] theorem objects_removeFields (fields : List Field) :
    (graph.removeFields fields).objects = graph.objects := by
  induction fields generalizing graph with
  | nil => rfl
  | cons field rest ih => exact ih.trans (objects_removeField field)

theorem Tiled.removeField (tiled : graph.Tiled) (field : Field) :
    (graph.removeField field).Tiled := by
  have keeps {object range value}
      (held : (graph.removeField field).valueAt? object range = some value) :
      graph.valueAt? object range = some value := by
    rw [valueAt?_removeField] at held
    split at held
    · simp at held
    · exact held
  refine ⟨fun held => tiled.positive (keeps held), fun held => ?_,
    fun here there => tiled.apart (keeps here) (keeps there)⟩
  simpa [object?] using tiled.fits (keeps held)

theorem valueAt?_of_removeFields {fields : List Field} {object : ObjectId} {range : BitRange}
    {value : ValueId} (held : (graph.removeFields fields).valueAt? object range = some value) :
    graph.valueAt? object range = some value ∧
      ∀ field ∈ fields, field ≠ ⟨object, range, value⟩ := by
  induction fields generalizing graph with
  | nil => exact ⟨held, by simp⟩
  | cons field rest ih =>
      obtain ⟨before, others⟩ := ih held
      rw [valueAt?_removeField] at before
      split at before
      · simp at before
      · rename_i stays
        refine ⟨before, fun other member => ?_⟩
        rcases List.mem_cons.1 member with rfl | member
        · rintro rfl
          exact stays ⟨rfl, rfl, by simpa [hasField_iff] using before⟩
        · exact others other member

/-- An object has no fields when all of them were removed. -/
theorem valueAt?_removeFieldsOf (object : ObjectId) (range : BitRange) :
    (graph.removeFields (graph.fieldsOf object)).valueAt? object range = none := by
  cases held : (graph.removeFields (graph.fieldsOf object)).valueAt? object range with
  | none => rfl
  | some value =>
      obtain ⟨before, others⟩ := valueAt?_of_removeFields held
      exact absurd rfl (others ⟨object, range, value⟩ (mem_fieldsOf.2 before))

end Graph

end ShapeDomain
