import ShapeDomain.Join.Object
import ShapeDomain.Proofs.Fold.Numbers
import ShapeDomain.Proofs.Symmetry.Values

/-!
# Mirrored joins of fields

Two mirrored joins store alike values in the fields of the destination, map the same levels, and do
the same list foldings.
-/

namespace ShapeDomain

/-- The outcome of joining two fields in the other join. -/
def Shift.fieldJoin (shift : Shift) : Join.FieldJoin → Join.FieldJoin
  | .stored value fold => .stored (shift.value value) (fold.map shift.fold)
  | .missing => .missing
  | .refused => .refused

/-- What is left to be done in the other join. -/
def Shift.harvest (shift : Shift) (harvest : Join.Harvest) : Join.Harvest :=
  ⟨harvest.complete, harvest.folds.translate shift.value shift.keepsValues shift.fold⟩

theorem Shift.harvest_note (shift : Shift) (harvest : Join.Harvest) (value : ValueId)
    (fold : Option Fold) :
    shift.harvest (harvest.note value fold) =
      (shift.harvest harvest).note (shift.value value) (fold.map shift.fold) := by
  cases fold with
  | none => rfl
  | some fold =>
      simp only [Option.map_some, Join.Harvest.note, Shift.harvest, Table.translate_insert]

namespace LevelMap

/-- A level map and the one that takes pairs of levels the other way round. -/
def Mirrored (map other : LevelMap) : Prop :=
  ∀ level1 level2, other.get? level2 level1 = map.get? level1 level2

/-- The right object needs a level below it only if the left value is not at the one below the left
object, so both have to have one for the order not to matter. -/
theorem follow_swap (parent : Level) (values : Level × Level) {objects : Level × Level}
    (shallow1 : objects.1 < .deepest) (shallow2 : objects.2 < .deepest) :
    follow parent values.swap objects.swap = follow parent values objects := by
  obtain ⟨value1, value2⟩ := values
  obtain ⟨object1, object2⟩ := objects
  simp only [follow, Prod.swap_prod_mk, Prod.mk.injEq, Level.next_of_lt shallow1,
    Level.next_of_lt shallow2, and_comm (a := value2 = object2),
    and_comm (a := some value2 = object2.prev?), bind, Except.bind]
  by_cases below1 : value1 = ⟨object1.index + 1⟩ <;>
    by_cases below2 : value2 = ⟨object2.index + 1⟩ <;>
    simp only [below1, below2, if_true, if_false]

variable {map other : LevelMap}

theorem Mirrored.insert (mirrored : map.Mirrored other) (level1 level2 merged : Level) :
    Mirrored ⟨map.table.insert (level1, level2) merged⟩
      ⟨other.table.insert (level2, level1) merged⟩ := by
  intro one two
  have same := mirrored one two
  simp only [get?] at same ⊢
  simp only [Table.get?_insert, Prod.mk.injEq, and_comm (a := two = level2), same]

/-- Both maps are updated alike, or neither is. -/
theorem Mirrored.update (mirrored : map.Mirrored other) (values : Level × Level)
    {objects : Level × Level} (shallow1 : objects.1 < .deepest)
    (shallow2 : objects.2 < .deepest) :
    (∃ level next next', map.update values objects = .ok (level, next) ∧
      other.update values.swap objects.swap = .ok (level, next') ∧ next.Mirrored next') ∨
    ∃ fault fault', map.update values objects = .error fault ∧
      other.update values.swap objects.swap = .error fault' := by
  have swapped (parent : Level) := follow_swap parent values shallow1 shallow2
  have valuesOther : other.get? values.swap.1 values.swap.2 = map.get? values.1 values.2 :=
    mirrored values.1 values.2
  have objectsOther : other.get? objects.swap.1 objects.swap.2 = map.get? objects.1 objects.2 :=
    mirrored objects.1 objects.2
  unfold LevelMap.update LevelMap.require
  rw [valuesOther, objectsOther]
  cases mapped : map.get? values.1 values.2 with
  | some level => exact .inl ⟨some level, map, other, rfl, rfl, mirrored⟩
  | none =>
      cases map.get? objects.1 objects.2 with
      | none => exact .inr ⟨_, _, rfl, rfl⟩
      | some parent =>
          simp only [bind, Except.bind, swapped]
          cases follow parent values objects with
          | error fault => exact .inr ⟨fault, fault, rfl, rfl⟩
          | ok found =>
              cases found with
              | none => exact .inl ⟨none, map, other, rfl, rfl, mirrored⟩
              | some level =>
                  simp only [LevelMap.insert, valuesOther, mapped]
                  exact .inl ⟨some level, _, _, rfl, rfl, mirrored.insert values.1 values.2 level⟩

end LevelMap

namespace Join

variable {scene : Scene} {rename : ValueId → ValueId} {pending pending' : Pending}
variable {here there : Progress × Supply} {except1 except2 : ObjectId → Prop}

/-! ### Storing values -/

section Store

variable {start now : Nat} {map : Correspondence} {unpaired : ValueId → Prop} {dest next : Graph}
variable {shift : Shift} {other : Graph} {field : Field}

theorem knowledge_of_addField (done : dest.addField field = .ok next) (value : ValueId) :
    next.knowledge value = dest.knowledge value := by
  rcases Graph.addField_eq_ok done with ⟨-, rfl⟩ | ⟨-, rfl, -⟩
  · rfl
  · exact Graph.knowledge_addValue dest field.value value

/-- A value that was to be held is held. -/
theorem Congruent.held (field : Field) (congruent : Congruent shift
      (fun held width => held = field.value ∧ width = field.range.size) dest other)
    (holds : dest.valueAt? field.object field.range = some field.value) :
    Congruent shift (fun _ _ => False) dest other where
  zero := congruent.zero
  agree value a b first second := by
    rcases congruent.agree value a b first second with same | held | ⟨size, ⟨rfl, rfl⟩, agree⟩
    · exact .inl same
    · exact .inr (.inl held)
    · exact .inr (.inl ⟨field.object, field.range, holds, agree⟩)

/-- A joint value is stored in both destinations, or in none. -/
theorem twin_store (object : ObjectId) {range : BitRange} (bits : 0 < range.size) (value : ValueId)
    (mirror : Mirror scene rename
      ⟨fun held width => held = value ∧ width = range.size, fun _ => False⟩ here there) :
    Twin scene (store ⟨object, range, value⟩)
      (store ⟨scene.shift.object object, range, scene.shift.value value⟩) rename here there except1
      except2 (fun _ => .nothing) fun _ _ _ => True := by
  unfold store
  refine twin_bind_of_ok (Run.ask_apply _ _) (Run.ask_apply _ _) ?_
  have present : there.1.dest.valueAt? (scene.shift.object object) range =
        some (scene.shift.value value) ↔ here.1.dest.valueAt? object range = some value := by
    rw [mirror.dest.valueAt?]
    cases here.1.dest.valueAt? object range <;> simp
  by_cases holds : here.1.dest.valueAt? object range = some value
  · rw [if_pos holds, if_pos (present.2 holds)]
    exact twin_pure { mirror with
      numbers := Congruent.held ⟨object, range, value⟩ mirror.numbers holds
      knows := mirror.knows } trivial
  · rw [if_neg holds, if_neg fun other => holds (present.1 other)]
    refine (twin_attemptDest _ mirror (mirror.dest.addField ⟨object, range, value⟩) ?_).mono
      (fun _ => rfl) fun _ _ _ _ => trivial
    intro next nextOther done done'
    constructor
    · refine Congruent.held ⟨object, range, value⟩ (mirror.numbers.transfer
        (Graph.number?_of_addField done) (Graph.number?_of_addField done') ?_)
        (Graph.valueAt?_self_of_addField done)
      intro object range value _ _ held
      exact ⟨object, Graph.valueAt?_of_addField mirror.knows.positive bits done held⟩
    · exact mirror.knows.of_knowledge (knowledge_of_addField done)
        (mirror.knows.positive.addField bits done)

end Store

/-! ### Levels -/

theorem twin_mapLevels (mirror : Mirror scene rename pending here there)
    (values : Level × Level) {objects : Level × Level} (shallow1 : objects.1 < .deepest)
    (shallow2 : objects.2 < .deepest) :
    Twin scene (mapLevels values objects) (mapLevels values.swap objects.swap) rename here there
      except1 except2 (fun _ => pending) fun mapped mapped' _ => mapped' = mapped := by
  have mirrored : here.1.levels.Mirrored there.1.levels := mirror.levels
  unfold mapLevels
  rcases mirrored.update values shallow1 shallow2 with
    ⟨level, map, map', done, done', next⟩ | ⟨fault, fault', refused, refused'⟩
  · refine twin_bind_of_ok (Run.demand_apply_ok done) (Run.demand_apply_ok done') ?_
    refine twin_of_ok rename rfl rfl ?_ { mirror with levels := next } rfl
    exact .of_eq (Nat.le_refl _) rfl rfl rfl rfl
  · exact twin_of_error (Run.bind_apply_error (Run.demand_apply_error refused))
      (Run.bind_apply_error (Run.demand_apply_error refused'))

theorem Mirror.leftLevelBelow (mirror : Mirror scene rename pending here there) (holder : Object)
    (value : ValueId) :
    levelBelow there.1.right holder (rename value) = levelBelow here.1.left holder value := by
  simp only [levelBelow, mirror.leftTarget, mirror.left.object]

theorem Mirror.rightLevelBelow (mirror : Mirror scene rename pending here there) (holder : Object)
    (value : ValueId) :
    levelBelow there.1.left holder (rename value) = levelBelow here.1.right holder value := by
  simp only [levelBelow, mirror.rightTarget, mirror.right.object]

/-! ### Joining fields -/

variable {room1 room2 : Nat} {descend descend' : Descend}

/-- Two objects that are joined, in the other join. -/
def ObjectPair.mirror (shift : Shift) (pair : ObjectPair) : ObjectPair :=
  ⟨pair.object2, pair.object1, shift.object pair.dest⟩

/-- A range of bits of two objects. -/
theorem twin_joinField (descends : Descends scene room1 room2 descend descend')
    (mirror : Mirror scene rename .nothing here there) (setting : Setting) (pair : ObjectPair)
    {source1 source2 : Object} (shallow1 : source1.level < .deepest)
    (shallow2 : source2.level < .deepest) (levelDiff : Int) (holderLevel : Level) {range : BitRange}
    {value1 value2 : ValueId}
    (held1 : here.1.left.valueAt? pair.object1 range = some value1)
    (held2 : here.1.right.valueAt? pair.object2 range = some value2)
    (bound1 : unmapped scene.left here.1.leftMap ≤ room1)
    (bound2 : unmapped scene.right here.1.rightMap ≤ room2) :
    Twin scene
      (joinField setting descend pair source1 source2 levelDiff holderLevel
        ⟨pair.object1, range, value1⟩)
      (joinField setting descend' (pair.mirror scene.shift) source2 source1 (-levelDiff)
        holderLevel ⟨pair.object2, range, rename value2⟩)
      rename here there except1 except2 (fun _ => .nothing) fun result1 result2 _ =>
        result2 = scene.shift.fieldJoin result1 := by
  have held1' : there.1.right.valueAt? pair.object1 range = some (rename value1) := by
    rw [mirror.left.layouts, held1]
    rfl
  unfold joinField
  refine twin_bind_of_ok
    (Run.demand_apply_ok (show _ = Except.ok value2 by simp only [held2]))
    (Run.demand_apply_ok
      (show _ = Except.ok (rename value1) by simp only [ObjectPair.mirror, held1'])) ?_
  refine twin_demands (mirror.leftLevelBelow source1 value1)
    (mirror.rightLevelBelow source2 value2) ?_
  intro level1 level2 _ _
  refine (twin_mapLevels mirror (level1, level2) shallow1 shallow2).bind ?_
  intro mapped mapped' rename1 end1 end1' later1 mirror1 same
  subst same
  cases mapped' with
  | false => exact twin_pure mirror1 rfl
  | true =>
      have early1 := mirror.left.held _ _ _ held1
      have early2 := mirror.right.held _ _ _ held2
      have shared : value1 = value2 → value1.index < scene.shift.start := fun same =>
        mirror.separate _ _ _ _ _ held1 (same ▸ held2)
      have turned : -levelDiff + level2.diff source2.level - level1.diff source1.level =
          -(levelDiff + level1.diff source1.level - level2.diff source2.level) := by
        omega
      simp only [if_true]
      rw [← later1.extends_ value1 early1, ← later1.extends_ value2 early2, turned]
      refine (twin_joinValuePair descends mirror1 (Nat.lt_of_lt_of_le early1 later1.time)
        (Nat.lt_of_lt_of_le early2 later1.time) shared
        (Nat.le_trans (unmapped_le later1.left) bound1)
        (Nat.le_trans (unmapped_le later1.right) bound2) setting range.size _ holderLevel).bind ?_
      rintro result _ rename2 end2 end2' later2 mirror2 rfl
      cases result with
      | undefined recoverable => cases recoverable <;> exact twin_pure mirror2 rfl
      | joined value fold =>
          have bits : 0 < range.size := mirror.left.tiled.positive held1
          refine (twin_store pair.dest bits value mirror2).bind ?_
          intro _ _ rename3 end3 end3' _ mirror3 _
          exact twin_pure mirror3 rfl

/-- Ranges of bits of two objects, one after the other. -/
theorem twin_joinFields (descends : Descends scene room1 room2 descend descend')
    (mirror : Mirror scene rename .nothing here there) (setting : Setting) (pair : ObjectPair)
    {source1 source2 : Object} (shallow1 : source1.level < .deepest)
    (shallow2 : source2.level < .deepest) (levelDiff : Int) (holderLevel : Level)
    {shared : List (BitRange × ValueId × ValueId)}
    (held : ∀ slot ∈ shared, here.1.left.valueAt? pair.object1 slot.1 = some slot.2.1 ∧
      here.1.right.valueAt? pair.object2 slot.1 = some slot.2.2)
    (mapped1 : (here.1.leftMap.object? pair.object1).isSome = true)
    (mapped2 : (here.1.rightMap.object? pair.object2).isSome = true)
    (bound1 : unmapped scene.left here.1.leftMap ≤ room1)
    (bound2 : unmapped scene.right here.1.rightMap ≤ room2) (harvest : Harvest) :
    Twin scene
      (joinFields (joinField setting descend pair source1 source2 levelDiff holderLevel)
        (shared.map fun slot => ⟨pair.object1, slot.1, slot.2.1⟩) harvest)
      (joinFields (joinField setting descend' (pair.mirror scene.shift) source2 source1 (-levelDiff)
          holderLevel)
        (shared.map fun slot => ⟨pair.object2, slot.1, rename slot.2.2⟩)
        (scene.shift.harvest harvest))
      rename here there noObject noObject (fun _ => .nothing) fun result1 result2 _ =>
        result2 = result1.map scene.shift.harvest := by
  induction shared generalizing rename here there harvest with
  | nil => exact twin_pure mirror rfl
  | cons slot rest ih =>
      obtain ⟨range, value1, value2⟩ := slot
      obtain ⟨held1, held2⟩ := held _ List.mem_cons_self
      simp only [List.map_cons, joinFields]
      refine (twin_joinField descends mirror setting pair shallow1 shallow2 levelDiff holderLevel
        held1 held2 bound1 bound2).bind ?_
      rintro result _ rename1 end1 end1' later mirror1 rfl
      have heldRest : ∀ slot ∈ rest, end1.1.left.valueAt? pair.object1 slot.1 = some slot.2.1 ∧
          end1.1.right.valueAt? pair.object2 slot.1 = some slot.2.2 := by
        intro slot member
        rw [Graph.valueAt?_congr (later.leftLayout _ mapped1 fun no => no),
          Graph.valueAt?_congr (later.rightLayout _ mapped2 fun no => no)]
        exact held slot (List.mem_cons_of_mem _ member)
      have renamed : rest.map (fun slot => (⟨pair.object2, slot.1, rename slot.2.2⟩ : Field)) =
          rest.map fun slot => ⟨pair.object2, slot.1, rename1 slot.2.2⟩ := by
        refine List.map_congr_left fun slot member => ?_
        have early := mirror.right.held _ _ _ (held slot (List.mem_cons_of_mem _ member)).2
        rw [later.extends_ _ early]
      have next := ih mirror1 heldRest (later.left _ mapped1) (later.right _ mapped2)
        (Nat.le_trans (unmapped_le later.left) bound1)
        (Nat.le_trans (unmapped_le later.right) bound2)
      rw [renamed]
      cases result with
      | refused => exact twin_pure mirror1 rfl
      | missing => exact next { harvest with complete := false }
      | stored value fold =>
          have noted := next (harvest.note value fold)
          rw [Shift.harvest_note] at noted
          exact noted

/-! ### Folding -/

/-- A folding keeps the numbers congruent. -/
theorem Congruent.kept {shift : Shift} {width : ValueId → Nat → Prop} {start now : Nat}
    {map : Correspondence} {unpaired : ValueId → Prop} {dest next other nextOther : Graph}
    (congruent : Congruent shift width dest other) (knows : DestKnows start map unpaired now dest)
    (kept : Fold.Kept dest next) (keptOther : Fold.Kept other nextOther) :
    Congruent shift width next nextOther := by
  refine congruent.transfer kept.numbers keptOther.numbers ?_
  intro object range value isNumber proper held
  exact kept.held object range value ((knows.plain value isNumber).resolve_right proper) held

/-- A folding keeps what is known. -/
theorem DestKnows.kept {start now later : Nat} {map : Correspondence} {unpaired : ValueId → Prop}
    {dest next : Graph} (knows : DestKnows start map unpaired now dest) (after : now ≤ later)
    (kept : Fold.Kept dest next) : DestKnows start map unpaired later next where
  plain value isNumber := by
    rw [kept.numbers] at isNumber
    refine (knows.plain value isNumber).imp_left fun plain => ?_
    refine Classical.byContradiction fun leads => ?_
    have before := kept.targets value (Option.isSome_iff_ne_none.2 leads)
    rw [plain] at before
    simp at before
  known value something := by
    have before : dest.knowledge value ≠ .nothing := by
      intro nothing
      apply something
      have number := kept.numbers value
      rw [Graph.number?, Graph.number?, nothing] at number
      have target : next.target? value = Option.none := by
        refine Classical.byContradiction fun leads => ?_
        have before := kept.targets value (Option.isSome_iff_ne_none.2 leads)
        rw [Graph.target?, nothing] at before
        simp [Knowledge.nothing] at before
      rw [Graph.target?] at target
      cases known : next.knowledge value
      simp only [known] at number target
      rw [number, target]
      rfl
    rcases knows.known value before with zero | early | ⟨drawn, before⟩
    · exact .inl zero
    · exact .inr (.inl early)
    · exact .inr (.inr ⟨drawn, Nat.lt_of_lt_of_le before after⟩)
  positive := kept.positive

/-- A folding is done in both destinations, or in none. -/
theorem twin_perform (mirror : Mirror scene rename pending here there) (fold : Fold) :
    Twin scene (onDest fold.perform) (onDest (scene.shift.fold fold).perform) rename here there
      except1 except2 (fun _ => pending) fun done done' _ =>
        done' = done.map scene.shift.object := by
  have matching : Run.Matches fold.perform (scene.shift.fold fold).perform
      (here.1.dest, here.2) (there.1.dest, there.2) _ :=
    Fold.perform_matches fold mirror.dest mirror.supplies
  have keeps : Run.Ends fold.perform (here.1.dest, here.2) _ _ :=
    Fold.perform_keeps fold mirror.knows.positive
  have keepsOther : Run.Ends (scene.shift.fold fold).perform (there.1.dest, there.2) _ _ :=
    Fold.perform_keeps _ (mirror.dest.positive mirror.knows.positive)
  rcases matching.cases with ⟨done, end1, _, end2, ok1, ok2, rfl, alike, supplies, after⟩ |
    ⟨fault, end1, fault', end2, stopped1, stopped2⟩
  · have started := mirror.supplies.started
    have kept : Fold.Kept here.1.dest end1.1 := keeps.of_eq_ok ok1
    have keptOther : Fold.Kept there.1.dest end2.1 := keepsOther.of_eq_ok ok2
    have done1 : onDest fold.perform here = .ok done (here.1.withDest end1.1, end1.2) := by
      rw [onDest, Run.within_apply, ok1]
      rfl
    have done2 : onDest (scene.shift.fold fold).perform there =
        .ok (done.map scene.shift.object) (there.1.withDest end2.1, end2.2) := by
      rw [onDest, Run.within_apply, ok2]
      rfl
    refine twin_of_ok rename done1 done2 (.of_eq after rfl rfl rfl rfl) ?_ rfl
    exact { mirror with
      supplies := supplies
      renames := mirror.renames.later started after
      left := mirror.left.later after
      right := mirror.right.later after
      leftValues := mirror.leftValues.later after
      rightValues := mirror.rightValues.later after
      joined := mirror.joined.later after
      dest := alike
      numbers := mirror.numbers.kept mirror.knows kept keptOther
      knows := mirror.knows.kept after kept }
  · have stop1 : onDest fold.perform here =
        .error fault (here.1.withDest end1.1, end1.2) := by
      rw [onDest, Run.within_apply, stopped1]
      rfl
    have stop2 : onDest (scene.shift.fold fold).perform there =
        .error fault' (there.1.withDest end2.1, end2.2) := by
      rw [onDest, Run.within_apply, stopped2]
      rfl
    exact twin_of_error stop1 stop2

theorem sameObjects_retarget {shift : Shift} {map other : Correspondence}
    (same : ∀ id, other.object? id = (map.object? id).map shift.object) (old new id : ObjectId) :
    (other.retarget (shift.object old) (shift.object new)).object? id =
      ((map.retarget old new).object? id).map shift.object := by
  rw [Correspondence.object?_retarget, Correspondence.object?_retarget, same]
  cases map.object? id with
  | none => rfl
  | some dest =>
      simp only [Option.map_some, shift.object_inj]
      split <;> rfl

theorem twin_retarget (mirror : Mirror scene rename pending here there) (fold : Fold)
    (segment : ObjectId) :
    Twin scene (retarget fold segment)
      (retarget (scene.shift.fold fold) (scene.shift.object segment)) rename here there except1
      except2 (fun _ => pending) fun _ _ _ => True := by
  have grows {map : Correspondence} {old new id : ObjectId}
      (mapped : (map.object? id).isSome = true) :
      ((map.retarget old new).object? id).isSome = true := by
    rw [Correspondence.object?_retarget, Option.isSome_map]
    exact mapped
  refine twin_of_ok rename (Run.modify_apply _ _) (Run.modify_apply _ _) ?_ ?_ trivial
  · exact ⟨Nat.le_refl _, fun _ _ => rfl, fun _ mapped => grows (grows mapped),
      fun _ mapped => grows (grows mapped), fun _ _ _ => rfl, fun _ _ _ => rfl⟩
  · exact { mirror with
      leftObjects := sameObjects_retarget
        (sameObjects_retarget mirror.leftObjects fold.head segment) fold.successor segment
      rightObjects := sameObjects_retarget
        (sameObjects_retarget mirror.rightObjects fold.head segment) fold.successor segment
      knows := { mirror.knows with known := mirror.knows.known } }

/-- Foldings are done one after the other. -/
theorem twin_doFolds (mirror : Mirror scene rename pending here there) (folds : List Fold) :
    Twin scene (doFolds folds) (doFolds (folds.map scene.shift.fold)) rename here there except1
      except2 (fun _ => pending) fun done done' _ => done' = done := by
  induction folds generalizing rename here there with
  | nil => exact twin_pure mirror rfl
  | cons fold rest ih =>
      simp only [List.map_cons, doFolds]
      refine (twin_perform mirror fold).bind ?_
      rintro done _ rename1 end1 end1' _ mirror1 rfl
      cases done with
      | none => exact twin_pure mirror1 rfl
      | some segment =>
          refine (twin_retarget mirror1 fold segment).bind ?_
          intro _ _ rename2 end2 end2' _ mirror2 _
          exact ih mirror2

end Join

end ShapeDomain
