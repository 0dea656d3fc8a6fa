import ShapeDomain.Proofs.Graph.Tame

/-!
# Plain graphs

A plain graph is one that a program builds: besides NULL it has concrete regions only, a place has
one address at most, and no two variables name the same object.  What a program does to its memory
keeps a graph plain.
-/

namespace ShapeDomain

namespace Graph

variable {graph next : Graph} {start : Nat}

/-- A plain graph, whose names were drawn before `start`. -/
structure Plain (start : Nat) (graph : Graph) : Prop where
  /-- Zero is not drawn. -/
  positive : 0 < start
  /-- The tables of the graph fit together. -/
  sound : graph.Sound
  /-- All objects but NULL are concrete regions. -/
  regions : ∀ {id object}, graph.object? id = some object → id ≠ .null →
    object.kind = .region ∧ object.level = .ground
  /-- All addresses lead to them as such. -/
  direct : ∀ {value target}, graph.target? value = some target → target.specifier = .region
  /-- A place has one address at most. -/
  single : ∀ {value other target}, graph.target? value = some target →
    graph.target? other = some target → value = other
  /-- Variables name different objects. -/
  distinct : (graph.roots.map Prod.snd).Nodup
  /-- An object that must not be accessed has no fields. -/
  freed : ∀ {id range value}, graph.valueAt? id range = some value → graph.isValid id = true
  /-- No values are known to be unequal. -/
  unrelated : graph.inequalities = ∅
  /-- The names were drawn. -/
  drawn : graph.DrawnBefore start

/-- Plain graphs are tame. -/
theorem Plain.tame (plain : graph.Plain start) :
    graph.Tame start where
  positive := plain.positive
  sound := plain.sound
  shapely found proper :=
    have isRegion := plain.regions found proper
    ⟨isRegion.2, .inl isRegion.1⟩
  leading leads := .inl (plain.direct leads)
  concrete {id object} named found := by
    obtain ⟨entry, member, rfl⟩ := List.mem_map.1 named
    exact (plain.regions found (plain.sound.nameables entry member).proper).1
  distinct := plain.distinct
  unrelated := plain.unrelated
  drawn := plain.drawn

namespace Plain

theorem later (plain : graph.Plain start) {now : Nat} (after : start ≤ now) :
    graph.Plain now where
  positive := Nat.lt_of_lt_of_le plain.positive after
  sound := plain.sound
  regions := plain.regions
  direct := plain.direct
  single := plain.single
  distinct := plain.distinct
  freed := plain.freed
  unrelated := plain.unrelated
  drawn := plain.drawn.later after

theorem object_lt (plain : graph.Plain start) {id : ObjectId}
    (present : graph.hasObject id = true) :
    id.index < start :=
  plain.drawn.1 id (Table.mem_keys_iff.2 present)

theorem value_lt (plain : graph.Plain start) {value : ValueId}
    (present : graph.hasValue value = true) :
    value.index < start :=
  plain.drawn.2.1 value (Table.mem_keys_iff.2 present)

theorem held_lt (plain : graph.Plain start) {object : ObjectId} {range : BitRange} {value : ValueId}
    (held : graph.valueAt? object range = some value) : value.index < start :=
  plain.value_lt (plain.sound.values held)

/-- No object is a list segment. -/
theorem noList (plain : graph.Plain start) {id : ObjectId} {object : Object}
    (found : graph.object? id = some object) : object.kind.isList = false := by
  by_cases null : id = .null
  · subst null
    obtain rfl := Option.some.inj (plain.sound.object?_null.symm.trans found)
    rfl
  · rw [(plain.regions found null).1]
    rfl

/-- Nothing is known of a value that is not drawn yet. -/
theorem knowledge_of_late (plain : graph.Plain start) {value : ValueId}
    (late : start ≤ value.index) : graph.knowledge value = .nothing := by
  cases found : graph.values.get? value with
  | none => rw [knowledge, found]; rfl
  | some known =>
      have present : graph.hasValue value = true := by rw [hasValue, Table.contains, found]; rfl
      have early := plain.value_lt present
      omega

theorem absent (plain : graph.Plain start) : graph.hasObject ⟨start⟩ = false := by
  cases present : graph.hasObject ⟨start⟩ with
  | false => rfl
  | true => exact absurd (plain.object_lt present) (Nat.lt_irrefl _)

/-! ### What a program does -/

theorem initial (machine : Machine) : (Graph.initial machine).Plain 1 where
  positive := Nat.one_pos
  sound := sound_initial machine
  regions {id object} found proper := by
    simp only [object?, Graph.initial, Table.get?_insert, if_neg proper] at found
    simp at found
  direct {value target} leads := by
    rw [target?_initial] at leads
    split at leads
    · obtain rfl := Option.some.inj leads
      rfl
    · simp at leads
  single {value other target} here there := by
    rw [target?_initial] at here there
    split at here
    · split at there
      · simp_all
      · simp at there
    · simp at here
  distinct := .nil
  freed held := by simp [valueAt?, layout, Graph.initial] at held
  unrelated := rfl
  drawn := drawnBefore_initial machine

/-- A new region may be put into the graph. -/
theorem putRegion (plain : graph.Plain start) (size : Nat) (label : String) (heap : Bool) :
    (graph.putPlacement ⟨start⟩ ⟨.region size label, true, heap⟩).Plain (start + 1) where
  positive := Nat.succ_pos start
  sound := plain.sound.putNew plain.absent
  regions {id object} found proper := by
    rw [object?_putPlacement] at found
    split at found
    · obtain rfl := Option.some.inj found
      exact ⟨rfl, rfl⟩
    · exact plain.regions found proper
  direct := plain.direct
  single := plain.single
  distinct := plain.distinct
  freed {id range value} held := by
    rw [isValid_putPlacement]
    split
    · rfl
    · exact plain.freed held
  unrelated := plain.unrelated
  drawn := (plain.drawn.later (Nat.le_succ start)).putPlacement (Nat.lt_succ_self start) _

/-- The variables may change, as long as they name different objects. -/
theorem withNames (plain : graph.Plain start) {stack : List Frame}
    {globals : Table String ObjectId} (sound : (graph.withNames stack globals).Sound)
    (distinct : ((graph.withNames stack globals).roots.map Prod.snd).Nodup) :
    (graph.withNames stack globals).Plain start where
  positive := plain.positive
  sound := sound
  regions := plain.regions
  direct := plain.direct
  single := plain.single
  distinct := distinct
  freed := plain.freed
  unrelated := plain.unrelated
  drawn := plain.drawn

theorem declareGlobal (plain : graph.Plain start) (name : String) (size : Nat) :
    (graph.declareGlobal name ⟨start⟩ (.region size name)).Plain (start + 1) := by
  have declared : (graph.declareGlobal name ⟨start⟩ (.region size name)).Tame (start + 1) :=
    (plain.later (Nat.le_succ start)).tame.declareGlobal plain.absent (Nat.lt_succ_self start)
  have added : (graph.addObject ⟨start⟩ (.region size name)).Plain (start + 1) := by
    rw [addObject_of_absent plain.absent]
    exact plain.putRegion size name false
  exact added.withNames declared.sound declared.distinct

theorem declareLocal (plain : graph.Plain start) {name : String} {size : Nat}
    (done : graph.declareLocal name ⟨start⟩ (.region size name) = .ok next) :
    next.Plain (start + 1) := by
  have declared : next.Tame (start + 1) :=
    (plain.later (Nat.le_succ start)).tame.declareLocal plain.absent (Nat.lt_succ_self start) done
  obtain ⟨frame, outer, stack, rfl⟩ := declareLocal_eq_ok done
  have added : (graph.addObject ⟨start⟩ (.region size name)).Plain (start + 1) := by
    rw [addObject_of_absent plain.absent]
    exact plain.putRegion size name false
  exact added.withNames declared.sound declared.distinct

theorem enter (plain : graph.Plain start) (function : String) :
    (graph.enter function).Plain start :=
  plain.withNames (plain.sound.enter function) (plain.tame.enter function).distinct

theorem removeObject (plain : graph.Plain start) (id : ObjectId) :
    (graph.removeObject id).Plain start := by
  cases proper : id.isNull with
  | true => simpa [Graph.removeObject, proper] using plain
  | false =>
      have leads {value : ValueId} {target : Target}
          (isTarget : (graph.removeObject id).target? value = some target) :
          graph.target? value = some target := by
        rw [target?_removeObject _ proper, Option.filter_eq_some_iff] at isTarget
        exact isTarget.1
      refine ⟨plain.positive, plain.sound.removeObject id, fun {other object} found notNull => ?_,
        fun isTarget => plain.direct (leads isTarget),
        fun here there => plain.single (leads here) (leads there), ?_,
        fun {other range value} held => ?_, ?_, plain.drawn.removeObject id⟩
      · rw [object?_removeObject _ proper] at found
        split at found
        · simp at found
        · exact plain.regions found notNull
      · exact (plain.tame.removeObject id).distinct
      · have valid := plain.freed (valueAt?_of_removeObject held)
        have distinct : other ≠ id := by
          rintro rfl
          rw [valueAt?_removeObject_self proper] at held
          simp at held
        rw [isValid, get?_removeObject_of_ne distinct]
        exact valid
      · show (graph.removeObject id).inequalities = ∅
        simpa [Graph.removeObject, proper] using plain.unrelated

theorem removeObjects (plain : graph.Plain start) (ids : List ObjectId) :
    (graph.removeObjects ids).Plain start := by
  induction ids generalizing graph with
  | nil => exact plain
  | cons id rest ih => exact ih (plain.removeObject id)

theorem leave (plain : graph.Plain start) {frame : Frame}
    (left : graph.leave = some (frame, next)) : next.Plain start := by
  unfold Graph.leave at left
  split at left
  · simp at left
  · rename_i inner outer stack
    obtain ⟨rfl, rfl⟩ := Prod.mk.inj (Option.some.inj left)
    have fewer := roots_outer_sublist stack
    have outside : (graph.withNames outer graph.globals).Plain start :=
      plain.withNames
        (plain.sound.withNames fun entry member =>
          plain.sound.nameables entry (fewer.subset member))
        (plain.distinct.sublist (fewer.map Prod.snd))
    exact outside.removeObjects inner.locals.payloads

theorem setValid (plain : graph.Plain start) {id : ObjectId} {valid : Bool}
    (proper : id ≠ .null)
    (freed : ∀ {range value}, graph.valueAt? id range = some value → valid = true)
    (done : graph.setValid id valid = .ok next) : next.Plain start := by
  have sound := plain.sound.setValid proper done
  obtain ⟨old, found, rfl⟩ := (graph.setValid_eq_ok_iff).1 done
  have there : graph.object? id = some old.object := by rw [object?, found]; rfl
  refine ⟨plain.positive, sound, fun {other object} isObject notNull => ?_, plain.direct,
    plain.single, plain.distinct, fun {other range value} held => ?_, plain.unrelated,
    plain.drawn.putPlacement (plain.object_lt (hasObject_of_object? there)) _⟩
  · have moved : (graph.putPlacement id { old with valid := valid }).object? other = _ :=
      object?_putPlacement id other _
    rw [show (graph.putPlacement id { old with valid := valid }).object? other = some object
      from isObject] at moved
    split at moved
    case isTrue same =>
      rw [Option.some.inj moved]
      exact plain.regions there (same ▸ notNull)
    case isFalse => exact plain.regions moved.symm notNull
  · show (graph.putPlacement id { old with valid := valid }).isValid other = true
    rw [isValid_putPlacement]
    split
    case isTrue same =>
      subst same
      exact freed held
    case isFalse => exact plain.freed held

/-- Something else may be known of a value, as long as no place gets a second address. -/
theorem putKnowledge (plain : graph.Plain start) {value : ValueId} {known : Knowledge}
    (sound : (graph.putKnowledge value known).Sound) (early : value.index < start)
    (direct : ∀ {target}, known.target = some target → target.specifier = .region)
    (single : ∀ {other target}, known.target = some target → graph.target? other = some target →
      other = value) : (graph.putKnowledge value known).Plain start where
  positive := plain.positive
  sound := sound
  regions := plain.regions
  direct {other target} leads := by
    rw [target?, knowledge_putKnowledge] at leads
    split at leads
    · exact direct leads
    · exact plain.direct leads
  single {first second target} here there := by
    rw [target?, knowledge_putKnowledge] at here there
    split at here <;> split at there
    case isTrue.isTrue same same' => rw [same, same']
    case isTrue.isFalse same _ => rw [same, single here there]
    case isFalse.isTrue _ same => rw [same, single there here]
    case isFalse.isFalse => exact plain.single here there
  distinct := plain.distinct
  freed := plain.freed
  unrelated := plain.unrelated
  drawn := plain.drawn.putKnowledge early known

theorem addValue (plain : graph.Plain start) {value : ValueId} (early : value.index < start) :
    (graph.addValue value).Plain start :=
  plain.putKnowledge (plain.sound.addValue value) early (fun leads => plain.direct leads)
    fun here there => plain.single there here

theorem setNumber (plain : graph.Plain start) {value : ValueId} (early : value.index < start)
    (number : Int) : (graph.setNumber value number).Plain start :=
  plain.putKnowledge (plain.sound.setNumber value number) early (fun leads => plain.direct leads)
    fun here there => plain.single there here

/-- A value becomes the address of a place that has none. -/
theorem addPointer (plain : graph.Plain start) {value : ValueId} {object : ObjectId} {offset : Nat}
    (early : value.index < start) (free : graph.addressOf? ⟨object, offset, .region⟩ = none)
    (done : graph.addPointer ⟨value, ⟨object, offset, .region⟩⟩ = .ok next) :
    next.Plain start := by
  have sound := plain.sound.addPointer done
  obtain ⟨-, -, rfl⟩ := addPointer_eq_ok_iff.1 done
  refine plain.putKnowledge sound early (fun leads => ?_) fun {other target} here there => ?_
  · rw [← Option.some.inj leads]
  · obtain rfl := Option.some.inj here
    rw [addressOf?, Option.map_eq_none_iff, List.find?_eq_none] at free
    exact absurd (beq_self_eq_true _)
      (free ⟨other, ⟨object, offset, .region⟩⟩ (mem_pointers_iff.2 there))

theorem addField (plain : graph.Plain start) {field : Field} (bits : 0 < field.range.size)
    (early : field.value.index < start) (valid : graph.isValid field.object = true)
    (done : graph.addField field = .ok next) : next.Plain start := by
  have sound := plain.sound.addField bits done
  rcases plain.sound.tiled.vacant_of_addField bits done with ⟨-, rfl⟩ | ⟨vacant, rfl⟩
  · exact plain
  · have valued := plain.addValue early
    refine ⟨plain.positive, sound, plain.regions, valued.direct, valued.single, plain.distinct,
      fun {id range value} held => ?_, plain.unrelated, valued.drawn⟩
    rw [plain.sound.tiled.valueAt?_putField field vacant] at held
    split at held
    case isTrue same => exact same.1 ▸ valid
    case isFalse => exact plain.freed held

theorem removeField (plain : graph.Plain start) (field : Field) :
    (graph.removeField field).Plain start := by
  have sound := plain.sound.removeField field
  unfold Graph.removeField at sound ⊢
  split at sound
  case isTrue present =>
    have fewer {id : ObjectId} {range : BitRange} {value : ValueId}
        (held : (graph.removeField field).valueAt? id range = some value) :
        graph.valueAt? id range = some value := by
      rw [valueAt?_removeField] at held
      split at held
      · simp at held
      · exact held
    rw [Graph.removeField, if_pos present] at fewer
    rw [if_pos present]
    exact ⟨plain.positive, sound, plain.regions, plain.direct, plain.single, plain.distinct,
      fun held => plain.freed (fewer held), plain.unrelated, plain.drawn⟩
  case isFalse absent =>
    rw [if_neg absent]
    exact plain

end Plain

end Graph

end ShapeDomain
