import ShapeDomain.Proofs.Graph.Sound

/-!
# Changes that keep a graph sound

Each change of a graph is an insertion into one of its tables, or the removal of an object.  This
module says for each of them when it keeps a sound graph sound.
-/

namespace ShapeDomain

namespace Graph

variable {graph next : Graph}

/-! ### Objects -/

/-- The graph in which an object stands under a name. -/
def putPlacement (graph : Graph) (id : ObjectId) (placement : Placement) : Graph :=
  { graph with objects := graph.objects.insert id placement }

theorem object?_putPlacement (id other : ObjectId) (placement : Placement) :
    (graph.putPlacement id placement).object? other =
      if other = id then some placement.object else graph.object? other := by
  simp only [putPlacement, object?, Table.get?_insert]
  split <;> rfl

theorem hasObject_putPlacement (id other : ObjectId) (placement : Placement) :
    (graph.putPlacement id placement).hasObject other =
      (decide (other = id) || graph.hasObject other) := by
  simp only [putPlacement, hasObject, Table.contains, Table.get?_insert]
  by_cases same : other = id <;> simp [same]

theorem isHeap_putPlacement (id other : ObjectId) (placement : Placement) :
    (graph.putPlacement id placement).isHeap other =
      if other = id then placement.heap else graph.isHeap other := by
  simp only [putPlacement, isHeap, Table.get?_insert]
  split <;> rfl

theorem isValid_putPlacement (id other : ObjectId) (placement : Placement) :
    (graph.putPlacement id placement).isValid other =
      if other = id then placement.valid else graph.isValid other := by
  simp only [putPlacement, isValid, Table.get?_insert]
  split <;> rfl

@[simp] theorem valueAt?_putPlacement (id object : ObjectId) (placement : Placement)
    (range : BitRange) :
    (graph.putPlacement id placement).valueAt? object range = graph.valueAt? object range := rfl

theorem addObject_of_absent {id : ObjectId} (absent : graph.hasObject id = false)
    (object : Object) : graph.addObject id object =
      graph.putPlacement id ⟨object, true, false⟩ := by
  have none : graph.objects.get? id = none := by
    simpa [hasObject, Table.contains] using absent
  rw [addObject, putPlacement, none]

theorem addHeapObject_of_absent {id : ObjectId} (absent : graph.hasObject id = false)
    (object : Object) :
    graph.addHeapObject id object = graph.putPlacement id ⟨object, true, true⟩ := by
  have none : graph.objects.get? id = none := by
    simpa [hasObject, Table.contains] using absent
  rw [addHeapObject, putPlacement, none]

/-- To set the validity of an object is to put the object anew. -/
theorem setValid_eq_ok {id : ObjectId} {valid : Bool} {object : Object}
    (found : graph.object? id = some object) :
    graph.setValid id valid =
      .ok (graph.putPlacement id ⟨object, valid, graph.isHeap id⟩) := by
  obtain ⟨placement, isPlacement, rfl⟩ := Option.map_eq_some_iff.1 found
  have heap : graph.isHeap id = placement.heap := by rw [isHeap, isPlacement]; rfl
  rw [setValid, isPlacement, heap]
  rfl

/-- The validity of an object that was just put into the graph may be set. -/
theorem setValid_putPlacement (id : ObjectId) (object : Object) (old valid heap : Bool) :
    (graph.putPlacement id ⟨object, old, heap⟩).setValid id valid =
      .ok (graph.putPlacement id ⟨object, valid, heap⟩) := by
  simp [setValid, putPlacement, Table.get?_insert_self, Table.insert_insert]

theorem Sound.putPlacement (sound : graph.Sound) {id : ObjectId} {placement : Placement}
    (proper : id ≠ .null)
    (size : ∀ found, graph.object? id = some found → placement.object.size = found.size)
    (outside : ∀ entry ∈ graph.roots, entry.2 = id → placement.heap = false) :
    (graph.putPlacement id placement).Sound where
  zero := sound.zero
  null := by
    rw [← sound.null]
    exact Table.get?_insert_of_ne _ (Ne.symm proper) _
  tiled := by
    refine sound.tiled.of_fewer (fun held => held) fun {object _ _ found} _ there => ?_
    rw [object?_putPlacement]
    split
    case isTrue same => exact ⟨_, rfl, size found (same ▸ there)⟩
    case isFalse => exact ⟨found, there, rfl⟩
  layouts other found := by
    rw [hasObject_putPlacement, sound.layouts other found, Bool.or_true]
  values := sound.values
  targets leads := by rw [hasObject_putPlacement, sound.targets leads, Bool.or_true]
  nameables entry member := by
    have nameable := sound.nameables entry member
    refine ⟨?_, nameable.proper, ?_⟩
    · rw [hasObject_putPlacement, nameable.present, Bool.or_true]
    · rw [isHeap_putPlacement]
      split
      case isTrue same => exact outside entry member same
      case isFalse => exact nameable.outside

/-- The validity of an object other than NULL may be set. -/
theorem Sound.setValid (sound : graph.Sound) {id : ObjectId} {valid : Bool} (proper : id ≠ .null)
    (done : graph.setValid id valid = .ok next) : next.Sound := by
  obtain ⟨old, found, rfl⟩ := (graph.setValid_eq_ok_iff).1 done
  refine sound.putPlacement proper (fun object isObject => ?_) fun entry member same => ?_
  · rw [object?, found] at isObject
    exact congrArg Object.size (Option.some.inj isObject)
  · have outside := (sound.nameables entry member).outside
    rw [same, isHeap, found] at outside
    exact outside

/-- A new object may be put anywhere. -/
theorem Sound.putNew (sound : graph.Sound) {id : ObjectId} {placement : Placement}
    (absent : graph.hasObject id = false) : (graph.putPlacement id placement).Sound := by
  have present {other : ObjectId} (there : graph.hasObject other = true) : other ≠ id := by
    rintro rfl
    rw [absent] at there
    simp at there
  refine sound.putPlacement (present sound.hasObject_null).symm (fun found there => ?_)
    fun entry member same => ?_
  · exact absurd rfl (present (hasObject_of_object? there))
  · exact absurd same (present (sound.nameables entry member).present)

/-! ### Names -/

/-- The graph with other variables. -/
def withNames (graph : Graph) (stack : List Frame) (globals : Table String ObjectId) : Graph :=
  { graph with stack := stack, globals := globals }

/-- The validity of an object that was put into the graph as a variable may be set. -/
theorem setValid_withNames (stack : List Frame) (globals : Table String ObjectId) (id : ObjectId)
    (object : Object) (old valid heap : Bool) :
    ((graph.putPlacement id ⟨object, old, heap⟩).withNames stack globals).setValid id valid =
      .ok ((graph.putPlacement id ⟨object, valid, heap⟩).withNames stack globals) := by
  simp [setValid, putPlacement, withNames, Table.get?_insert_self, Table.insert_insert]

theorem Sound.withNames (sound : graph.Sound) {stack : List Frame}
    {globals : Table String ObjectId}
    (named : ∀ entry ∈ (graph.withNames stack globals).roots, graph.Nameable entry.2) :
    (graph.withNames stack globals).Sound where
  zero := sound.zero
  null := sound.null
  tiled := ⟨sound.tiled.positive, sound.tiled.fits, sound.tiled.apart⟩
  layouts := sound.layouts
  values := sound.values
  targets := sound.targets
  nameables entry member := ⟨(named entry member).present, (named entry member).proper,
    (named entry member).outside⟩

/-- What a name leads to after a global variable was declared: the object of that variable, or what
some name led to before. -/
theorem mem_roots_global {name : String} {id : ObjectId} {entry : String × ObjectId}
    (member : entry ∈ (graph.withNames graph.stack (graph.globals.insert name id)).roots) :
    entry.2 = id ∨ entry ∈ graph.roots := by
  obtain ⟨other, named⟩ := entry
  rw [mem_roots_iff] at member ⊢
  simp only [Graph.withNames, Table.get?_insert] at member
  rcases member with global | inFrame
  · split at global
    · exact .inl (Option.some.inj global).symm
    · exact .inr (.inl global)
  · exact .inr (.inr inFrame)

/-- The same for a variable of the innermost function. -/
theorem mem_roots_local {name : String} {id : ObjectId} {frame : Frame} {outer : List Frame}
    (stack : graph.stack = frame :: outer) {entry : String × ObjectId}
    (member : entry ∈ (graph.withNames
      ({ frame with locals := frame.locals.insert name id } :: outer) graph.globals).roots) :
    entry.2 = id ∨ entry ∈ graph.roots := by
  obtain ⟨other, named⟩ := entry
  rw [mem_roots_iff] at member ⊢
  simp only [Graph.withNames, List.mem_cons, exists_eq_or_imp, Table.get?_insert] at member
  rcases member with global | inner | ⟨later, member, held⟩
  · exact .inr (.inl global)
  · split at inner
    · exact .inl (Option.some.inj inner).symm
    · exact .inr (.inr ⟨frame, stack ▸ List.mem_cons_self, inner⟩)
  · exact .inr (.inr ⟨later, stack ▸ List.mem_cons_of_mem _ member, held⟩)

/-- A function that was just entered has no variables. -/
theorem mem_roots_enter {function : String} {entry : String × ObjectId}
    (member : entry ∈ (graph.enter function).roots) : entry ∈ graph.roots := by
  obtain ⟨name, id⟩ := entry
  rw [mem_roots_iff] at member ⊢
  simpa [Graph.enter, Table.get?_empty] using member

/-- Without the innermost function the other names stay in their order. -/
theorem roots_outer_sublist {inner : Frame} {outer : List Frame}
    (stack : graph.stack = inner :: outer) :
    (graph.withNames outer graph.globals).roots.Sublist graph.roots := by
  simp only [roots, frames, Graph.withNames, stack, List.reverse_cons, List.flatMap_append]
  exact (List.sublist_append_left _ _).append_left _

/-- A new object may be named. -/
theorem Sound.nameable_addObject (sound : graph.Sound) {id : ObjectId} {object : Object}
    (absent : graph.hasObject id = false) : (graph.addObject id object).Nameable id := by
  rw [addObject_of_absent absent]
  refine ⟨?_, ?_, ?_⟩
  · rw [hasObject_putPlacement]
    simp
  · rintro rfl
    rw [sound.hasObject_null] at absent
    simp at absent
  · rw [isHeap_putPlacement, if_pos rfl]

theorem Sound.addObject (sound : graph.Sound) {id : ObjectId} {object : Object}
    (absent : graph.hasObject id = false) : (graph.addObject id object).Sound := by
  rw [addObject_of_absent absent]
  exact sound.putNew absent

theorem Sound.declareGlobal (sound : graph.Sound) {name : String} {id : ObjectId}
    {object : Object} (absent : graph.hasObject id = false) :
    (graph.declareGlobal name id object).Sound := by
  refine (sound.addObject absent).withNames fun entry member => ?_
  rcases mem_roots_global member with same | old
  · rw [same]
    exact sound.nameable_addObject absent
  · exact (sound.addObject absent).nameables entry old

theorem declareLocal_eq_ok {name : String} {id : ObjectId} {object : Object}
    (done : graph.declareLocal name id object = .ok next) :
    ∃ frame outer, graph.stack = frame :: outer ∧
      next = (graph.addObject id object).withNames
        ({ frame with locals := frame.locals.insert name id } :: outer) graph.globals := by
  unfold declareLocal at done
  split at done
  · simp at done
  · rename_i frame outer split
    exact ⟨frame, outer, split, (Except.ok.inj done).symm⟩

theorem Sound.declareLocal (sound : graph.Sound) {name : String} {id : ObjectId}
    {object : Object} (absent : graph.hasObject id = false)
    (done : graph.declareLocal name id object = .ok next) : next.Sound := by
  obtain ⟨frame, outer, stack, rfl⟩ := declareLocal_eq_ok done
  have split : (graph.addObject id object).stack = frame :: outer := stack
  refine (sound.addObject absent).withNames fun entry member => ?_
  rcases mem_roots_local split member with same | old
  · rw [same]
    exact sound.nameable_addObject absent
  · exact (sound.addObject absent).nameables entry old

theorem Sound.enter (sound : graph.Sound) (function : String) : (graph.enter function).Sound :=
  sound.withNames fun entry member => sound.nameables entry (mem_roots_enter member)

/-! ### Values -/

/-- The graph in which something else is known of a value. -/
def putKnowledge (graph : Graph) (value : ValueId) (known : Knowledge) : Graph :=
  { graph with values := graph.values.insert value known }

theorem knowledge_putKnowledge (value other : ValueId) (known : Knowledge) :
    (graph.putKnowledge value known).knowledge other =
      if other = value then known else graph.knowledge other := by
  simp only [putKnowledge, knowledge, Table.get?_insert]
  split <;> rfl

theorem hasValue_putKnowledge (value other : ValueId) (known : Knowledge) :
    (graph.putKnowledge value known).hasValue other =
      (decide (other = value) || graph.hasValue other) := by
  simp only [putKnowledge, hasValue, Table.contains, Table.get?_insert]
  by_cases same : other = value <;> simp [same]

theorem Sound.putKnowledge (sound : graph.Sound) {value : ValueId} {known : Knowledge}
    (zero : value = .zero → known.target = some .null)
    (leads : ∀ target, known.target = some target → graph.hasObject target.object = true) :
    (graph.putKnowledge value known).Sound where
  zero := by
    rw [target?, knowledge_putKnowledge]
    split
    case isTrue same => exact zero same.symm
    case isFalse => exact sound.zero
  null := sound.null
  tiled := ⟨sound.tiled.positive, sound.tiled.fits, sound.tiled.apart⟩
  layouts := sound.layouts
  values held := by
    rw [hasValue_putKnowledge, sound.values held, Bool.or_true]
  targets {other target} isTarget := by
    rw [target?, knowledge_putKnowledge] at isTarget
    split at isTarget
    case isTrue => exact leads target isTarget
    case isFalse => exact sound.targets isTarget
  nameables entry member := ⟨(sound.nameables entry member).present,
    (sound.nameables entry member).proper, (sound.nameables entry member).outside⟩

theorem Sound.addValue (sound : graph.Sound) (value : ValueId) : (graph.addValue value).Sound :=
  sound.putKnowledge (fun same => same ▸ sound.zero) fun _ leads => sound.targets leads

theorem Sound.setNumber (sound : graph.Sound) (value : ValueId) (number : Int) :
    (graph.setNumber value number).Sound :=
  sound.putKnowledge (fun same => by subst same; exact sound.zero) fun _ leads =>
    sound.targets leads

theorem Sound.putPointer (sound : graph.Sound) {pointer : Pointer}
    (present : graph.hasObject pointer.target.object = true)
    (zero : pointer.value = .zero → pointer.target = .null) : (graph.putPointer pointer).Sound :=
  sound.putKnowledge (fun same => congrArg some (zero same)) fun target leads => by
    obtain rfl := Option.some.inj leads
    exact present

theorem Sound.addPointer (sound : graph.Sound) {pointer : Pointer}
    (done : graph.addPointer pointer = .ok next) : next.Sound := by
  obtain ⟨present, free, rfl⟩ := addPointer_eq_ok_iff.1 done
  refine sound.putPointer present fun zero => ?_
  rw [zero, sound.zero] at free
  simpa [eq_comm] using free

theorem Sound.removePointer (sound : graph.Sound) (value : ValueId) :
    (graph.removePointer value).Sound := by
  unfold Graph.removePointer
  split
  case h_1 target removable =>
    have proper : value ≠ .zero := by
      rintro rfl
      simp [removableTarget?, ValueId.isZero] at removable
    exact sound.putKnowledge (fun same => absurd same proper) fun target leads => by
      simp at leads
  case h_2 => exact sound

/-! ### Fields -/

theorem Sound.putField (sound : graph.Sound) {field : Field}
    (vacant : graph.Vacant field.object field.range) : (graph.putField field).Sound where
  zero := by rw [target?_putField]; exact sound.zero
  null := sound.null
  tiled := sound.tiled.putField vacant
  layouts id found := by
    by_cases same : id = field.object
    · obtain ⟨object, there, -⟩ := vacant.fits
      exact same ▸ hasObject_of_object? there
    · rw [Graph.putField, Table.get?_insert_of_ne _ same] at found
      exact sound.layouts id found
  values {object range value} held := by
    rw [hasValue_putField]
    rw [sound.tiled.valueAt?_putField field vacant] at held
    split at held
    case isTrue => simp [(Option.some.inj held).symm]
    case isFalse => rw [sound.values held, Bool.or_true]
  targets leads := sound.targets (by rwa [target?_putField] at leads)
  nameables entry member := ⟨(sound.nameables entry member).present,
    (sound.nameables entry member).proper, (sound.nameables entry member).outside⟩

theorem Sound.removeField (sound : graph.Sound) (field : Field) :
    (graph.removeField field).Sound := by
  have tiled := sound.tiled.removeField field
  have fewer {object : ObjectId} {range : BitRange} {value : ValueId}
      (held : (graph.removeField field).valueAt? object range = some value) :
      graph.valueAt? object range = some value := by
    rw [valueAt?_removeField] at held
    split at held
    · simp at held
    · exact held
  unfold Graph.removeField at tiled fewer ⊢
  split
  case isFalse => exact sound
  case isTrue present =>
    simp only [present, if_true] at tiled fewer
    refine ⟨sound.zero, sound.null, tiled, fun id found => ?_,
      fun held => sound.values (fewer held),
      sound.targets, fun entry member => ⟨(sound.nameables entry member).present,
        (sound.nameables entry member).proper, (sound.nameables entry member).outside⟩⟩
    by_cases same : id = field.object
    · show graph.hasObject id = true
      rw [same]
      exact sound.hasObject_of_held (hasField_iff.1 present)
    · rw [Table.get?_insert_of_ne _ same] at found
      exact sound.layouts id found

/-- In a tiled graph a field that can be added is there already or its place is free. -/
theorem Tiled.vacant_of_addField (tiled : graph.Tiled) {field : Field}
    (bits : 0 < field.range.size) (done : graph.addField field = .ok next) :
    (graph.hasField field = true ∧ next = graph) ∨
      (graph.Vacant field.object field.range ∧ next = graph.putField field) := by
  rcases addField_eq_ok done with present | ⟨clear, rfl, object, found, fit⟩
  · exact .inl present
  · refine .inr ⟨⟨bits, ⟨object, found, fit⟩, fun {other value} held => ?_⟩, rfl⟩
    have stop := BitRange.stop_of_fits fit
    by_cases early : other.offset < field.range.stop
    case neg =>
      right
      omega
    case pos =>
      -- The last field that starts before the end is apart, and all others end before it starts.
      obtain ⟨⟨offset, content⟩, last, order, before⟩ :=
        exists_lastBelow? (valueAt?_eq_some_iff.1 held) early
      have heldLast : graph.valueAt? field.object ⟨offset, content.size⟩ =
          some content.value := valueAt?_eq_some_iff.2 (lastBelow?_mem last)
      have positiveLast := tiled.positive heldLast
      obtain ⟨found', there, fitLast⟩ := tiled.fits heldLast
      have stopLast := BitRange.stop_of_fits fitLast
      have free : BitRange.overlaps ⟨offset, content.size⟩ field.range = false := by
        simpa [collides, last] using clear
      rw [Bool.eq_false_iff, Ne, BitRange.overlaps_iff, stopLast] at free
      simp only at free positiveLast order before
      have positive := tiled.positive held
      left
      rcases tiled.apart held heldLast with same | first | second
      · rw [same]
        show offset + content.size ≤ _
        omega
      · simp only at first
        omega
      · simp only at second
        omega

theorem Sound.addField (sound : graph.Sound) {field : Field} (bits : 0 < field.range.size)
    (done : graph.addField field = .ok next) : next.Sound := by
  rcases sound.tiled.vacant_of_addField bits done with ⟨-, rfl⟩ | ⟨vacant, rfl⟩
  · exact sound
  · exact sound.putField vacant

/-! ### Removing objects -/

theorem hasObject_removeObject {id : ObjectId} (proper : id.isNull = false) (other : ObjectId) :
    (graph.removeObject id).hasObject other =
      (decide (other ≠ id) && graph.hasObject other) := by
  simp only [removeObject, proper, hasObject, Table.contains, Bool.false_eq_true, if_false]
  by_cases same : other = id
  · subst same
    simp [Table.get?_erase_self]
  · simp [same, Table.get?_erase_of_ne]

theorem get?_removeObject_of_ne {id other : ObjectId} (distinct : other ≠ id) :
    (graph.removeObject id).objects.get? other = graph.objects.get? other := by
  unfold removeObject
  split
  · rfl
  · exact Table.get?_erase_of_ne _ distinct

theorem isHeap_removeObject_of_ne {id other : ObjectId} (distinct : other ≠ id) :
    (graph.removeObject id).isHeap other = graph.isHeap other := by
  rw [isHeap, get?_removeObject_of_ne distinct, isHeap]

theorem hasValue_removeObject (id : ObjectId) (value : ValueId) :
    (graph.removeObject id).hasValue value = graph.hasValue value := by
  unfold removeObject
  split
  · rfl
  · simp only [hasValue, Table.contains, Table.get?_mapPayloads, Option.isSome_map]

theorem get?_unname {id : ObjectId} {names : Table String ObjectId} {name : String}
    {other : ObjectId} :
    (unname id names).get? name = some other ↔ names.get? name = some other ∧ other ≠ id := by
  rw [unname, Table.get?_filter, Option.filter_eq_some_iff, bne_iff_ne]

/-- The variables that are left name other objects. -/
theorem mem_roots_removeObject {id : ObjectId} (proper : id.isNull = false) {name : String}
    {other : ObjectId} :
    (name, other) ∈ (graph.removeObject id).roots ↔ (name, other) ∈ graph.roots ∧ other ≠ id := by
  rw [mem_roots_iff, mem_roots_iff]
  simp only [removeObject, proper, Bool.false_eq_true, if_false, List.mem_map]
  constructor
  · rintro (global | ⟨_, ⟨frame, member, rfl⟩, inner⟩)
    · exact ⟨.inl (get?_unname.1 global).1, (get?_unname.1 global).2⟩
    · exact ⟨.inr ⟨frame, member, (get?_unname.1 inner).1⟩, (get?_unname.1 inner).2⟩
  · rintro ⟨global | ⟨frame, member, inner⟩, distinct⟩
    · exact .inl (get?_unname.2 ⟨global, distinct⟩)
    · exact .inr ⟨_, ⟨frame, member, rfl⟩, get?_unname.2 ⟨inner, distinct⟩⟩

/-- Names that no variable has are dropped without a change. -/
theorem unname_of_other {id : ObjectId} {names : Table String ObjectId}
    (other : ∀ name, names.get? name ≠ some id) : unname id names = names := by
  refine Table.ext_get? fun name => Option.ext fun found => ?_
  rw [get?_unname]
  constructor
  · intro both
    exact both.1
  · intro named
    refine ⟨named, ?_⟩
    rintro rfl
    exact other name named

/-- When an object is removed that no variable names, the variables stay. -/
theorem names_removeObject {id : ObjectId} (unnamed : ∀ entry ∈ graph.roots, entry.2 ≠ id) :
    (graph.removeObject id).stack = graph.stack ∧
      (graph.removeObject id).globals = graph.globals := by
  unfold removeObject
  split
  case isTrue => exact ⟨rfl, rfl⟩
  case isFalse =>
    constructor
    · show graph.stack.map _ = graph.stack
      refine (List.map_congr_left fun frame member => ?_).trans (List.map_id _)
      rw [unname_of_other fun name named =>
        unnamed (name, id) (mem_roots_iff.2 (.inr ⟨frame, member, named⟩)) rfl]
      rfl
    · exact unname_of_other fun name named =>
        unnamed (name, id) (mem_roots_iff.2 (.inl named)) rfl

theorem Sound.removeObject (sound : graph.Sound) (id : ObjectId) :
    (graph.removeObject id).Sound := by
  cases proper : id.isNull with
  | true => simpa [Graph.removeObject, proper] using sound
  | false =>
      have notNull : (.null : ObjectId) ≠ id := by
        rintro rfl
        simp [ObjectId.isNull] at proper
      refine ⟨?_, ?_, ?_, fun other found => ?_, fun {object range value} held => ?_,
        fun {value target} leads => ?_, fun entry member => ?_⟩
      · rw [target?_removeObject _ proper, sound.zero]
        simpa [Option.filter, Target.null] using notNull
      · rw [get?_removeObject_of_ne notNull, sound.null]
      · refine sound.tiled.of_fewer valueAt?_of_removeObject
          fun {object range value found} held there => ?_
        refine ⟨found, ?_, rfl⟩
        rw [object?_removeObject _ proper, if_neg, there]
        rintro rfl
        simp [valueAt?, layout, Graph.removeObject, proper, Table.get?_erase_self] at held
      · have distinct : other ≠ id := by
          rintro rfl
          simp [Graph.removeObject, proper, Table.get?_erase_self] at found
        rw [hasObject_removeObject proper]
        simp only [Graph.removeObject, proper, Bool.false_eq_true, if_false,
          Table.get?_erase_of_ne _ distinct] at found
        simp [distinct, sound.layouts other found]
      · rw [hasValue_removeObject]
        exact sound.values (valueAt?_of_removeObject held)
      · rw [target?_removeObject _ proper, Option.filter_eq_some_iff] at leads
        rw [hasObject_removeObject proper, sound.targets leads.1]
        simpa using leads.2
      · obtain ⟨name, other⟩ := entry
        obtain ⟨member, distinct⟩ := (mem_roots_removeObject proper).1 member
        have nameable := sound.nameables _ member
        refine ⟨?_, nameable.proper, ?_⟩
        · rw [hasObject_removeObject proper, nameable.present]
          simpa using distinct
        · rw [isHeap_removeObject_of_ne distinct, nameable.outside]

theorem Sound.removeObjects (sound : graph.Sound) (ids : List ObjectId) :
    (graph.removeObjects ids).Sound := by
  induction ids generalizing graph with
  | nil => exact sound
  | cons id rest ih => exact ih (sound.removeObject id)

theorem get?_removeObjects {ids : List ObjectId} {id : ObjectId} (outside : id ∉ ids) :
    (graph.removeObjects ids).objects.get? id = graph.objects.get? id := by
  induction ids generalizing graph with
  | nil => rfl
  | cons head rest ih =>
      rw [List.mem_cons, not_or] at outside
      exact (ih outside.2).trans (get?_removeObject_of_ne outside.1)

/-- Neither an object nor contents of it are left under a name. -/
structure Gone (graph : Graph) (id : ObjectId) : Prop where
  /-- There is no object. -/
  absent : graph.objects.get? id = none
  /-- There are no contents. -/
  bare : graph.layout id = ∅

theorem Gone.isValid {id : ObjectId} (gone : graph.Gone id) : graph.isValid id = false := by
  rw [Graph.isValid, gone.absent]
  rfl

theorem Gone.valueAt? {id : ObjectId} (gone : graph.Gone id) (range : BitRange) :
    graph.valueAt? id range = none := by
  rw [Graph.valueAt?, gone.bare, Table.get?_empty]
  rfl

theorem gone_removeObject {id : ObjectId} (proper : id ≠ .null) :
    (graph.removeObject id).Gone id := by
  have notNull : id.isNull = false := by simpa [ObjectId.isNull] using proper
  constructor
  · simp [removeObject, notNull, Table.get?_erase_self]
  · simp [removeObject, notNull, layout, Table.get?_erase_self]

/-- What an object is and holds stays as it was when others are removed. -/
theorem removeObject_cases (id other : ObjectId) :
    (graph.removeObject id).Gone other ∨
      (graph.removeObject id).objects.get? other = graph.objects.get? other ∧
        (graph.removeObject id).layout other = graph.layout other := by
  by_cases null : id = .null
  · subst null
    exact .inr ⟨rfl, rfl⟩
  · by_cases same : other = id
    · subst same
      exact .inl (gone_removeObject null)
    · exact .inr ⟨get?_removeObject_of_ne same, layout_removeObject_of_ne same⟩

theorem Gone.removeObject {id : ObjectId} (gone : graph.Gone id) (other : ObjectId) :
    (graph.removeObject other).Gone id := by
  rcases graph.removeObject_cases other id with gone' | ⟨placement, layout⟩
  · exact gone'
  · exact ⟨placement.trans gone.absent, layout.trans gone.bare⟩

theorem Gone.removeObjects {id : ObjectId} (gone : graph.Gone id) (ids : List ObjectId) :
    (graph.removeObjects ids).Gone id := by
  induction ids generalizing graph with
  | nil => exact gone
  | cons head rest ih => exact ih (gone.removeObject head)

theorem gone_removeObjects {ids : List ObjectId} {id : ObjectId} (proper : id ≠ .null)
    (member : id ∈ ids) : (graph.removeObjects ids).Gone id := by
  induction ids generalizing graph with
  | nil => simp at member
  | cons head rest ih =>
      rcases List.mem_cons.1 member with rfl | inRest
      · exact (gone_removeObject proper).removeObjects rest
      · exact ih inRest

theorem removeObjects_cases (ids : List ObjectId) (id : ObjectId) :
    (graph.removeObjects ids).Gone id ∨
      (graph.removeObjects ids).objects.get? id = graph.objects.get? id ∧
        (graph.removeObjects ids).layout id = graph.layout id := by
  induction ids generalizing graph with
  | nil => exact .inr ⟨rfl, rfl⟩
  | cons head rest ih =>
      rcases graph.removeObject_cases head id with gone | ⟨placement, layout⟩
      · exact .inl (gone.removeObjects rest)
      · rcases @ih (graph.removeObject head) with gone | ⟨placement', layout'⟩
        · exact .inl gone
        · exact .inr ⟨placement'.trans placement, layout'.trans layout⟩

/-- What is an address after objects were removed was one before. -/
theorem target?_of_removeObjects {ids : List ObjectId} {value : ValueId} {target : Target}
    (leads : (graph.removeObjects ids).target? value = some target) :
    graph.target? value = some target := by
  induction ids generalizing graph with
  | nil => exact leads
  | cons id rest ih =>
      have before : (graph.removeObject id).target? value = some target := ih leads
      cases proper : id.isNull with
      | true => simpa [removeObject, proper] using before
      | false =>
          rw [target?_removeObject graph proper, Option.filter_eq_some_iff] at before
          exact before.1

/-- What is still named was named before. -/
theorem mem_roots_of_removeObjects {ids : List ObjectId} {entry : String × ObjectId}
    (member : entry ∈ (graph.removeObjects ids).roots) : entry ∈ graph.roots := by
  induction ids generalizing graph with
  | nil => exact member
  | cons id rest ih =>
      have before : entry ∈ (graph.removeObject id).roots := ih member
      cases proper : id.isNull with
      | true => simpa [removeObject, proper] using before
      | false => exact ((mem_roots_removeObject proper).1 before).1

/-- What is left when the innermost function is. -/
theorem leave_eq_some {frame : Frame} (left : graph.leave = some (frame, next)) :
    ∃ outer, graph.stack = frame :: outer ∧
      next = { graph with stack := outer }.removeObjects frame.locals.payloads := by
  unfold Graph.leave at left
  split at left
  · simp at left
  · rename_i inner outer stack
    obtain ⟨rfl, rfl⟩ := Prod.mk.inj (Option.some.inj left)
    exact ⟨outer, stack, rfl⟩

/-! ### Inequalities -/

end Graph

end ShapeDomain
