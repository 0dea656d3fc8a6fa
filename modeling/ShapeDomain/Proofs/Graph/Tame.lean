import ShapeDomain.Proofs.Graph.Changes

/-!
# Tame graphs

A tame graph is one that programs and joins build.  Other than a plain graph it may have list
segments, which are addressed as such or by their first node, but variables still name different
concrete regions.  What a program does to its memory keeps a graph tame.
-/

namespace ShapeDomain

/-! ### Names without repetition -/

namespace Table

theorem mem_place_payloads {κ α : Type} [Ord κ] {key : κ} {payload other : α}
    {list : List (κ × α)} (member : other ∈ (place key payload list).map Prod.snd) :
    other = payload ∨ other ∈ list.map Prod.snd := by
  obtain ⟨binding, inside, rfl⟩ := List.mem_map.1 member
  rcases mem_place inside with rfl | old
  · exact .inl rfl
  · exact .inr (List.mem_map_of_mem old)

/-- A new payload keeps the payloads without repetition. -/
theorem nodup_place {κ α : Type} [Ord κ] {key : κ} {payload : α} {list : List (κ × α)}
    (nodup : (list.map Prod.snd).Nodup) (new : payload ∉ list.map Prod.snd) :
    ((place key payload list).map Prod.snd).Nodup := by
  induction list with
  | nil => simp [place]
  | cons head rest ih =>
      rw [List.map_cons, List.nodup_cons] at nodup
      rw [List.map_cons, List.mem_cons, not_or] at new
      simp only [place]
      split
      · rw [List.map_cons, List.map_cons, List.nodup_cons, List.nodup_cons, List.mem_cons, not_or]
        exact ⟨new, nodup⟩
      · rw [List.map_cons, List.nodup_cons]
        exact ⟨new.2, nodup.2⟩
      · rw [List.map_cons, List.nodup_cons]
        refine ⟨fun member => ?_, ih nodup.2 new.2⟩
        rcases mem_place_payloads member with same | old
        · exact new.1 same.symm
        · exact nodup.1 old

end Table

namespace Table

theorem mem_keys_insert {κ α : Type} [Ord κ] [Std.TransOrd κ] [Std.LawfulEqOrd κ] [DecidableEq κ]
    {table : Table κ α} {key other : κ} {payload : α} :
    other ∈ (table.insert key payload).keys ↔ other = key ∨ other ∈ table.keys := by
  rw [mem_keys_iff, mem_keys_iff, contains, get?_insert, contains]
  by_cases same : other = key <;> simp [same]

theorem mem_payloads_insert {κ α : Type} [Ord κ] [Std.TransOrd κ] [Std.LawfulEqOrd κ]
    {table : Table κ α} {key : κ} {payload other : α}
    (member : other ∈ (table.insert key payload).payloads) :
    other = payload ∨ other ∈ table.payloads :=
  mem_place_payloads member

end Table

/-- An object of the shapes that programs and joins build: a concrete region or a list segment,
which is not part of another one. -/
structure Object.Shapely (object : Object) : Prop where
  /-- It is not part of a list segment. -/
  ground : object.level = .ground
  /-- It is a region or a list segment. -/
  kind : object.kind = .region ∨ object.kind.isList = true

theorem Object.shapely_region (size : Nat) (label : String) : (Object.region size label).Shapely :=
  ⟨rfl, .inl rfl⟩

/-- An address of a region as such, or of the first node of a list segment. -/
def Specifier.Leading (specifier : Specifier) : Prop :=
  specifier = .region ∨ specifier = .first

namespace Graph

variable {graph next : Graph} {start : Nat}

/-! ### Drawn names -/

theorem roots_removeObject {id : ObjectId} (proper : id.isNull = false) :
    (graph.removeObject id).roots = graph.roots.filter fun entry => entry.2 != id := by
  unfold roots frames
  simp only [removeObject, proper, Bool.false_eq_true, if_false, ← List.map_reverse,
    List.flatMap_map, List.filter_append, List.filter_flatMap]
  rfl

theorem DrawnBefore.putPlacement (drawn : graph.DrawnBefore start) {id : ObjectId}
    (early : id.index < start) (placement : Placement) :
    (graph.putPlacement id placement).DrawnBefore start := by
  refine ⟨fun other member => ?_, drawn.2⟩
  rcases Table.mem_keys_insert.1 member with rfl | old
  · exact early
  · exact drawn.1 other old

theorem DrawnBefore.putKnowledge (drawn : graph.DrawnBefore start) {value : ValueId}
    (early : value.index < start) (known : Knowledge) :
    (graph.putKnowledge value known).DrawnBefore start := by
  refine ⟨drawn.1, fun other member => ?_, drawn.2.2⟩
  rcases Table.mem_keys_insert.1 member with rfl | old
  · exact early
  · exact drawn.2.1 other old

theorem DrawnBefore.removeObject (drawn : graph.DrawnBefore start) (id : ObjectId) :
    (graph.removeObject id).DrawnBefore start := by
  cases proper : id.isNull with
  | true => simpa [Graph.removeObject, proper] using drawn
  | false =>
      refine ⟨fun other member => ?_, fun value member => ?_, fun pair member => ?_⟩
      · rw [Table.mem_keys_iff] at member
        have present : (graph.removeObject id).hasObject other = true := member
        rw [hasObject_removeObject proper, Bool.and_eq_true] at present
        exact drawn.1 other (Table.mem_keys_iff.2 present.2)
      · rw [Table.mem_keys_iff] at member
        have present : (graph.removeObject id).hasValue value = true := member
        rw [hasValue_removeObject] at present
        exact drawn.2.1 value (Table.mem_keys_iff.2 present)
      · refine drawn.2.2 pair ?_
        simpa [Graph.removeObject, proper] using member

/-- The names of a graph without memory. -/
theorem drawnBefore_initial (machine : Machine) : (initial machine).DrawnBefore 1 := by
  refine ⟨fun id member => ?_, fun value member => ?_, fun pair member => ?_⟩
  · rcases Table.mem_keys_insert.1 member with rfl | old
    · exact Nat.one_pos
    · simp [Table.keys] at old
  · rcases Table.mem_keys_insert.1 member with rfl | old
    · exact Nat.one_pos
    · simp [Table.keys] at old
  · simp [Graph.initial, Table.keys] at member

/-! ### Tame graphs -/

/-- A tame graph, whose names were drawn before `start`. -/
structure Tame (start : Nat) (graph : Graph) : Prop where
  /-- Zero is not drawn. -/
  positive : 0 < start
  /-- The tables of the graph fit together. -/
  sound : graph.Sound
  /-- All objects but NULL are regions or list segments. -/
  shapely : ∀ {id object}, graph.object? id = some object → id ≠ .null → object.Shapely
  /-- All addresses lead to them as such or to their first nodes. -/
  leading : ∀ {value target}, graph.target? value = some target → target.specifier.Leading
  /-- Variables are regions. -/
  concrete : ∀ {id object}, id ∈ graph.roots.map Prod.snd → graph.object? id = some object →
    object.kind = .region
  /-- They are different ones. -/
  distinct : (graph.roots.map Prod.snd).Nodup
  /-- No values are known to be unequal. -/
  unrelated : graph.inequalities = ∅
  /-- The names were drawn. -/
  drawn : graph.DrawnBefore start

namespace Tame

theorem later (tame : graph.Tame start) {now : Nat} (after : start ≤ now) : graph.Tame now where
  positive := Nat.lt_of_lt_of_le tame.positive after
  sound := tame.sound
  shapely := tame.shapely
  leading := tame.leading
  concrete := tame.concrete
  distinct := tame.distinct
  unrelated := tame.unrelated
  drawn := tame.drawn.later after

theorem object_lt (tame : graph.Tame start) {id : ObjectId} (present : graph.hasObject id = true) :
    id.index < start :=
  tame.drawn.1 id (Table.mem_keys_iff.2 present)

theorem value_lt (tame : graph.Tame start) {value : ValueId}
    (present : graph.hasValue value = true) :
    value.index < start :=
  tame.drawn.2.1 value (Table.mem_keys_iff.2 present)

theorem held_lt (tame : graph.Tame start) {object : ObjectId} {range : BitRange} {value : ValueId}
    (held : graph.valueAt? object range = some value) : value.index < start :=
  tame.value_lt (tame.sound.values held)

/-- Everything is at the ground level. -/
theorem ground (tame : graph.Tame start) {id : ObjectId} {object : Object}
    (found : graph.object? id = some object) : object.level = .ground := by
  by_cases null : id = .null
  · subst null
    obtain rfl := Option.some.inj (tame.sound.object?_null.symm.trans found)
    rfl
  · exact (tame.shapely found null).ground

theorem shallow (tame : graph.Tame start) : graph.Shallow := by
  rintro ⟨id, placement⟩ member
  have found : graph.object? id = some placement.object :=
    congrArg (Option.map Placement.object) (Table.mem_toList_iff.1 member)
  rw [tame.ground found]
  decide

/-- What is still to be drawn is not there. -/
theorem absent_of_late (tame : graph.Tame start) {id : ObjectId} (late : start ≤ id.index) :
    graph.hasObject id = false := by
  cases present : graph.hasObject id with
  | false => rfl
  | true => exact absurd (tame.object_lt present) (Nat.not_lt_of_le late)

/-- A variable names an object that is there. -/
theorem present_of_named (tame : graph.Tame start) {id : ObjectId}
    (named : id ∈ graph.roots.map Prod.snd) : graph.hasObject id = true := by
  obtain ⟨entry, member, rfl⟩ := List.mem_map.1 named
  exact (tame.sound.nameables entry member).present

/-- No variable names an object that is not there. -/
theorem notNamed (tame : graph.Tame start) {id : ObjectId} (absent : graph.hasObject id = false) :
    id ∉ graph.roots.map Prod.snd := by
  intro named
  rw [tame.present_of_named named] at absent
  simp at absent

/-! ### Changes -/

theorem initial (machine : Machine) : (Graph.initial machine).Tame 1 where
  positive := Nat.one_pos
  sound := sound_initial machine
  shapely {id object} found proper := by
    simp only [object?, Graph.initial, Table.get?_insert, if_neg proper] at found
    simp at found
  leading {value target} leads := by
    rw [target?_initial] at leads
    split at leads
    · obtain rfl := Option.some.inj leads
      exact .inl rfl
    · simp at leads
  concrete named := by simp [roots, frames, Graph.initial] at named
  distinct := .nil
  unrelated := rfl
  drawn := drawnBefore_initial machine

/-- A graph is tame that has no more objects and variables than a tame one. -/
theorem of_fewer (tame : graph.Tame start) (sound : next.Sound)
    (objects : ∀ {id object}, next.object? id = some object → graph.object? id = some object)
    (leading : ∀ {value target}, next.target? value = some target → target.specifier.Leading)
    (names : (next.roots.map Prod.snd).Sublist (graph.roots.map Prod.snd))
    (unrelated : next.inequalities = ∅) (drawn : next.DrawnBefore start) : next.Tame start where
  positive := tame.positive
  sound := sound
  shapely found := tame.shapely (objects found)
  leading := leading
  concrete named found := tame.concrete (names.subset named) (objects found)
  distinct := tame.distinct.sublist names
  unrelated := unrelated
  drawn := drawn

/-- A new object may be put into the graph. -/
theorem putNew (tame : graph.Tame start) {id : ObjectId} {object : Object} {valid heap : Bool}
    (absent : graph.hasObject id = false) (early : id.index < start) (shapely : object.Shapely) :
    (graph.putPlacement id ⟨object, valid, heap⟩).Tame start where
  positive := tame.positive
  sound := tame.sound.putNew absent
  shapely {other found} isObject proper := by
    rw [object?_putPlacement] at isObject
    split at isObject
    · obtain rfl := Option.some.inj isObject
      exact shapely
    · exact tame.shapely isObject proper
  leading := tame.leading
  concrete {other found} named isObject := by
    rw [object?_putPlacement, if_neg] at isObject
    · exact tame.concrete named isObject
    · rintro rfl
      exact tame.notNamed absent named
  distinct := tame.distinct
  unrelated := tame.unrelated
  drawn := tame.drawn.putPlacement early _

/-- The variables may change, as long as they name different regions. -/
theorem withNames (tame : graph.Tame start) {stack : List Frame} {globals : Table String ObjectId}
    (sound : (graph.withNames stack globals).Sound)
    (concrete : ∀ {id object}, id ∈ (graph.withNames stack globals).roots.map Prod.snd →
      graph.object? id = some object → object.kind = .region)
    (distinct : ((graph.withNames stack globals).roots.map Prod.snd).Nodup) :
    (graph.withNames stack globals).Tame start where
  positive := tame.positive
  sound := sound
  shapely := tame.shapely
  leading := tame.leading
  concrete := concrete
  distinct := distinct
  unrelated := tame.unrelated
  drawn := tame.drawn

/-- A new variable is a region. -/
theorem variables_declare (tame : graph.Tame start) {id other : ObjectId} {size : Nat}
    {label : String} {valid : Bool} {object : Object}
    (named : other = id ∨ other ∈ graph.roots.map Prod.snd)
    (found : (graph.putPlacement id ⟨.region size label, valid, false⟩).object? other =
      some object) : object.kind = .region := by
  rw [object?_putPlacement] at found
  split at found
  case isTrue =>
    obtain rfl := Option.some.inj found
    rfl
  case isFalse different => exact tame.concrete (named.resolve_left different) found

theorem declareGlobal (tame : graph.Tame start) {name label : String} {id : ObjectId} {size : Nat}
    (absent : graph.hasObject id = false) (early : id.index < start) :
    (graph.declareGlobal name id (.region size label)).Tame start := by
  have sound : (graph.declareGlobal name id (.region size label)).Sound :=
    tame.sound.declareGlobal absent
  have added : (graph.addObject id (.region size label)).Tame start := by
    rw [addObject_of_absent absent]
    exact tame.putNew absent early (Object.shapely_region size label)
  have new : id ∉ graph.roots.map Prod.snd := tame.notNamed absent
  have distinct := tame.distinct
  simp only [roots, List.map_append, List.nodup_append, List.mem_append, not_or] at distinct new
  refine added.withNames sound (fun {other object} named found => ?_) ?_
  · rw [addObject_of_absent absent] at found
    refine tame.variables_declare ?_ found
    replace named : other ∈ ((graph.globals.insert name id).toList ++ _ : List _).map Prod.snd :=
      named
    rw [List.map_append, List.mem_append] at named
    rw [roots, List.map_append, List.mem_append]
    rcases named with inGlobals | inFrames
    · exact (Table.mem_place_payloads inGlobals).imp_right .inl
    · exact .inr (.inr inFrames)
  · show ((graph.globals.insert name id).toList ++ _ : List _).map Prod.snd |>.Nodup
    rw [List.map_append, List.nodup_append]
    refine ⟨Table.nodup_place distinct.1 new.1, distinct.2.1, fun a inGlobals b inFrames => ?_⟩
    rcases Table.mem_place_payloads inGlobals with rfl | old
    · rintro rfl
      exact new.2 inFrames
    · exact distinct.2.2 a old b inFrames

theorem declareLocal (tame : graph.Tame start) {name label : String} {id : ObjectId} {size : Nat}
    (absent : graph.hasObject id = false) (early : id.index < start)
    (done : graph.declareLocal name id (.region size label) = .ok next) : next.Tame start := by
  have sound := tame.sound.declareLocal absent done
  obtain ⟨frame, outer, stack, rfl⟩ := declareLocal_eq_ok done
  have added : (graph.addObject id (.region size label)).Tame start := by
    rw [addObject_of_absent absent]
    exact tame.putNew absent early (Object.shapely_region size label)
  have new := tame.notNamed absent
  have distinct := tame.distinct
  simp only [roots, frames, stack, List.reverse_cons, List.flatMap_append, List.flatMap_singleton,
    List.map_append, ← List.append_assoc] at distinct new
  refine added.withNames sound (fun {other object} named found => ?_) ?_
  · rw [addObject_of_absent absent] at found
    refine tame.variables_declare ?_ found
    replace named : other ∈
        (graph.globals.toList ++ List.flatMap _ (List.reverse (_ :: outer))).map Prod.snd := named
    simp only [List.reverse_cons, List.flatMap_append, List.flatMap_singleton, List.map_append,
      ← List.append_assoc] at named
    simp only [roots, frames, stack, List.reverse_cons, List.flatMap_append,
      List.flatMap_singleton, List.map_append, ← List.append_assoc]
    rw [List.mem_append] at named ⊢
    rcases named with before | inFrame
    · exact .inr (.inl before)
    · exact (Table.mem_place_payloads inFrame).imp_right .inr
  · show ((graph.globals.toList ++ List.flatMap _ (List.reverse (_ :: outer))).map Prod.snd).Nodup
    simp only [List.reverse_cons, List.flatMap_append, List.flatMap_singleton, List.map_append,
      ← List.append_assoc]
    rw [List.nodup_append] at distinct ⊢
    rw [List.mem_append, not_or] at new
    refine ⟨distinct.1, Table.nodup_place distinct.2.1 new.2, fun a before b inFrame => ?_⟩
    rcases Table.mem_place_payloads inFrame with rfl | old
    · rintro rfl
      exact new.1 before
    · exact distinct.2.2 a before b old

theorem enter (tame : graph.Tame start) (function : String) :
    (graph.enter function).Tame start := by
  have same : (graph.enter function).roots = graph.roots := by simp [roots, frames, Graph.enter]
  exact tame.of_fewer (tame.sound.enter function) (fun found => found) tame.leading
    (same ▸ List.Sublist.refl _) tame.unrelated tame.drawn

theorem removeObject (tame : graph.Tame start) (id : ObjectId) :
    (graph.removeObject id).Tame start := by
  cases proper : id.isNull with
  | true => simpa [Graph.removeObject, proper] using tame
  | false =>
      refine tame.of_fewer (tame.sound.removeObject id) (fun {other object} found => ?_)
        (fun {value target} leads => ?_) ?_ ?_ (tame.drawn.removeObject id)
      · rw [object?_removeObject _ proper] at found
        split at found
        · simp at found
        · exact found
      · rw [target?_removeObject _ proper, Option.filter_eq_some_iff] at leads
        exact tame.leading leads.1
      · rw [roots_removeObject proper]
        exact List.filter_sublist.map _
      · simpa [Graph.removeObject, proper] using tame.unrelated

theorem removeObjects (tame : graph.Tame start) (ids : List ObjectId) :
    (graph.removeObjects ids).Tame start := by
  induction ids generalizing graph with
  | nil => exact tame
  | cons id rest ih => exact ih (tame.removeObject id)

theorem leave (tame : graph.Tame start) {frame : Frame} (left : graph.leave = some (frame, next)) :
    next.Tame start := by
  unfold Graph.leave at left
  split at left
  · simp at left
  · rename_i inner outer stack
    obtain ⟨rfl, rfl⟩ := Prod.mk.inj (Option.some.inj left)
    have fewer : List.Sublist (graph.withNames outer graph.globals).roots graph.roots := by
      simp only [roots, frames, Graph.withNames, stack, List.reverse_cons, List.flatMap_append]
      exact (List.sublist_append_left _ _).append_left _
    have sound : (graph.withNames outer graph.globals).Sound :=
      tame.sound.withNames fun entry member => tame.sound.nameables entry (fewer.subset member)
    exact (tame.of_fewer sound (fun found => found) tame.leading (fewer.map _) tame.unrelated
      tame.drawn).removeObjects inner.locals.payloads

theorem setValid (tame : graph.Tame start) {id : ObjectId} {valid : Bool} (proper : id ≠ .null)
    (done : graph.setValid id valid = .ok next) : next.Tame start := by
  have sound := tame.sound.setValid proper done
  obtain ⟨old, found, rfl⟩ := (graph.setValid_eq_ok_iff).1 done
  have there : graph.object? id = some old.object := by rw [object?, found]; rfl
  refine tame.of_fewer sound (fun {other object} isObject => ?_) tame.leading (List.Sublist.refl _)
    tame.unrelated (tame.drawn.putPlacement (tame.object_lt (hasObject_of_object? there)) _)
  have moved : (graph.putPlacement id { old with valid := valid }).object? other = some object :=
    isObject
  rw [object?_putPlacement] at moved
  split at moved
  case isTrue same => exact same ▸ there.trans moved
  case isFalse => exact moved

/-- Something else may be known of a value. -/
theorem putKnowledge (tame : graph.Tame start) {value : ValueId} {known : Knowledge}
    (sound : (graph.putKnowledge value known).Sound) (early : value.index < start)
    (leading : ∀ {target}, known.target = some target → target.specifier.Leading) :
    (graph.putKnowledge value known).Tame start := by
  refine tame.of_fewer sound (fun found => found) (fun {other target} leads => ?_)
    (List.Sublist.refl _) tame.unrelated (tame.drawn.putKnowledge early known)
  rw [target?, knowledge_putKnowledge] at leads
  split at leads
  · exact leading leads
  · exact tame.leading leads

theorem addValue (tame : graph.Tame start) {value : ValueId} (early : value.index < start) :
    (graph.addValue value).Tame start :=
  tame.putKnowledge (tame.sound.addValue value) early fun leads => tame.leading leads

theorem setNumber (tame : graph.Tame start) {value : ValueId} (early : value.index < start)
    (number : Int) : (graph.setNumber value number).Tame start :=
  tame.putKnowledge (tame.sound.setNumber value number) early fun leads => tame.leading leads

theorem addPointer (tame : graph.Tame start) {pointer : Pointer}
    (early : pointer.value.index < start) (leading : pointer.target.specifier.Leading)
    (done : graph.addPointer pointer = .ok next) : next.Tame start := by
  have sound := tame.sound.addPointer done
  obtain ⟨-, -, rfl⟩ := addPointer_eq_ok_iff.1 done
  refine tame.putKnowledge sound early fun leads => ?_
  rw [← Option.some.inj leads]
  exact leading

theorem addField (tame : graph.Tame start) {field : Field} (bits : 0 < field.range.size)
    (early : field.value.index < start) (done : graph.addField field = .ok next) :
    next.Tame start := by
  have sound := tame.sound.addField bits done
  rcases tame.sound.tiled.vacant_of_addField bits done with ⟨-, rfl⟩ | ⟨vacant, rfl⟩
  · exact tame
  · have valued := tame.addValue early
    exact valued.of_fewer sound (fun found => found) valued.leading (List.Sublist.refl _)
      tame.unrelated valued.drawn

theorem removeField (tame : graph.Tame start) (field : Field) :
    (graph.removeField field).Tame start := by
  have sound := tame.sound.removeField field
  unfold Graph.removeField at sound ⊢
  split at sound
  case isTrue present =>
    rw [if_pos present]
    exact tame.of_fewer sound (fun found => found) tame.leading (List.Sublist.refl _)
      tame.unrelated tame.drawn
  case isFalse absent =>
    rw [if_neg absent]
    exact tame

end Tame

end Graph

end ShapeDomain
