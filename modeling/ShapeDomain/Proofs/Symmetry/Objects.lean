import ShapeDomain.Proofs.Symmetry.Layouts

/-!
# Mirrored joins of objects

Two objects are joined in both of two mirrored joins, or in none.  As going down from a pair gives
counterparts to objects that had none, neither join goes down too far.
-/

namespace ShapeDomain

namespace Join

variable {scene : Scene} {rename : ValueId → ValueId} {pending : Pending}
variable {here there : Progress × Supply} {except1 except2 : ObjectId → Prop}

/-! ### Fields of aligned objects -/

section Shared

variable {left right : Graph} {object1 object2 : ObjectId}

/-- The ranges of two aligned objects, with what both hold there. -/
def sharedSlots (left right : Graph) (object1 object2 : ObjectId) :
    List (BitRange × ValueId × ValueId) :=
  (left.fieldsOf object1).map fun field =>
    (field.range, field.value, (right.valueAt? object2 field.range).getD .zero)

theorem SameRanges.held (same : SameRanges left right object1 object2)
    {slot : BitRange × ValueId × ValueId} (member : slot ∈ sharedSlots left right object1 object2) :
    left.valueAt? object1 slot.1 = some slot.2.1 ∧
      right.valueAt? object2 slot.1 = some slot.2.2 := by
  obtain ⟨field, isField, rfl⟩ := List.mem_map.1 member
  obtain ⟨-, held⟩ := Graph.mem_fieldsOf_iff.1 isField
  refine ⟨held, ?_⟩
  have other := same.valueAt?_eq field.range
  rw [held] at other
  exact other

theorem fieldsOf_eq_sharedSlots (left right : Graph) (object1 object2 : ObjectId) :
    left.fieldsOf object1 = (sharedSlots left right object1 object2).map fun slot =>
      ⟨object1, slot.1, slot.2.1⟩ := by
  rw [sharedSlots, List.map_map]
  refine Graph.fieldsOf_eq_map (fun _ value => value) fun range => ?_
  rw [Option.map_id']

theorem SameRanges.fieldsOf_other {now : Nat} {origin other : Graph}
    (same : SameRanges left right object1 object2)
    (side : SameSide origin rename now right other) :
    other.fieldsOf object2 = (sharedSlots left right object1 object2).map fun slot =>
      ⟨object2, slot.1, rename slot.2.2⟩ := by
  rw [sharedSlots, List.map_map]
  refine Graph.fieldsOf_eq_map (fun range _ => rename ((right.valueAt? object2 range).getD .zero))
    fun range => ?_
  have renamed := congrArg (Option.map rename) (same.valueAt?_eq range)
  rw [Option.map_map] at renamed
  rw [side.layouts]
  exact renamed

end Shared

/-! ### Joining objects -/

variable {room1 room2 : Nat} {descend descend' : Descend}

theorem Mirror.levelsRequire (mirror : Mirror scene rename pending here there)
    (level1 level2 : Level) :
    (∃ level, here.1.levels.require level1 level2 = .ok level ∧
      there.1.levels.require level2 level1 = .ok level) ∨
    ∃ fault fault', here.1.levels.require level1 level2 = .error fault ∧
      there.1.levels.require level2 level1 = .error fault' := by
  unfold LevelMap.require
  rw [mirror.levels]
  cases here.1.levels.get? level1 level2 with
  | some level => exact .inl ⟨level, rfl, rfl⟩
  | none => exact .inr ⟨_, _, rfl, rfl⟩

theorem Mirror.leftShallow (mirror : Mirror scene rename pending here there) {id : ObjectId}
    {object : Object} (found : here.1.left.object id = .ok object) : object.level < .deepest :=
  scene.leftShallow.of_object?
    ((mirror.left.relaid.object? id).symm.trans ((Graph.object_eq_ok_iff _).1 found))

theorem Mirror.rightShallow (mirror : Mirror scene rename pending here there) {id : ObjectId}
    {object : Object} (found : here.1.right.object id = .ok object) : object.level < .deepest :=
  scene.rightShallow.of_object?
    ((mirror.right.relaid.object? id).symm.trans ((Graph.object_eq_ok_iff _).1 found))

/-- The fields of two aligned objects. -/
theorem twin_joinAligned (descends : Descends scene room1 room2 descend descend')
    (mirror : Mirror scene rename .nothing here there) (setting : Setting) (pair : ObjectPair)
    {source1 source2 : Object} (shallow1 : source1.level < .deepest)
    (shallow2 : source2.level < .deepest) (levelDiff : Int)
    (same : SameRanges here.1.left here.1.right pair.object1 pair.object2)
    (mapped1 : (here.1.leftMap.object? pair.object1).isSome = true)
    (mapped2 : (here.1.rightMap.object? pair.object2).isSome = true)
    (bound1 : unmapped scene.left here.1.leftMap ≤ room1)
    (bound2 : unmapped scene.right here.1.rightMap ≤ room2) :
    Twin scene
      (do
        let holderLevel ← Run.demand fun progress =>
          progress.levels.require source1.level source2.level
        let fields ← Run.ask fun progress => progress.left.fieldsOf pair.object1
        let join := joinField setting descend pair source1 source2 levelDiff holderLevel
        match ← joinFields join fields ⟨true, ∅⟩ with
        | some harvest => if harvest.complete then doFolds harvest.folds.payloads else return false
        | none => return false)
      (do
        let holderLevel ← Run.demand fun progress =>
          progress.levels.require source2.level source1.level
        let fields ← Run.ask fun progress =>
          progress.left.fieldsOf (pair.mirror scene.shift).object1
        let join := joinField setting descend' (pair.mirror scene.shift) source2 source1
          (-levelDiff) holderLevel
        match ← joinFields join fields ⟨true, ∅⟩ with
        | some harvest => if harvest.complete then doFolds harvest.folds.payloads else return false
        | none => return false)
      rename here there noObject noObject (fun _ => .nothing) fun joined joined' _ =>
        joined' = joined := by
  rcases mirror.levelsRequire source1.level source2.level with
    ⟨holderLevel, given, given'⟩ | ⟨fault, fault', refused, refused'⟩
  case inr =>
    exact twin_of_error (Run.bind_apply_error (Run.demand_apply_error refused))
      (Run.bind_apply_error (Run.demand_apply_error refused'))
  case inl =>
    refine twin_bind_of_ok (Run.demand_apply_ok given) (Run.demand_apply_ok given') ?_
    refine twin_bind_of_ok (Run.ask_apply _ _) (Run.ask_apply _ _) ?_
    have fields := fieldsOf_eq_sharedSlots here.1.left here.1.right pair.object1 pair.object2
    have fieldsOther : there.1.left.fieldsOf (pair.mirror scene.shift).object1 = _ :=
      same.fieldsOf_other mirror.right
    rw [fields, fieldsOther]
    refine (twin_joinFields descends mirror setting pair shallow1 shallow2 levelDiff holderLevel
      (fun _ member => same.held member) mapped1 mapped2 bound1 bound2 ⟨true, ∅⟩).bind ?_
    rintro harvest _ rename1 end1 end1' _ mirror1 rfl
    cases harvest with
    | none => exact twin_pure mirror1 rfl
    | some harvest =>
        have complete : (scene.shift.harvest harvest).complete = harvest.complete := rfl
        have payloads : (scene.shift.harvest harvest).folds.payloads =
            harvest.folds.payloads.map scene.shift.fold := by
          simp only [Shift.harvest, Table.payloads, Table.translate, List.map_map]
          rfl
        simp only [Option.map_some, complete, payloads]
        split
        · exact twin_doFolds mirror1 harvest.folds.payloads
        · exact twin_pure mirror1 rfl

/-- The contents of two objects. -/
theorem twin_joinContents (descends : Descends scene room1 room2 descend descend')
    (mirror : Mirror scene rename .nothing here there) (setting : Setting) (pair : ObjectPair)
    (mapped1 : (here.1.leftMap.object? pair.object1).isSome = true)
    (mapped2 : (here.1.rightMap.object? pair.object2).isSome = true)
    (bound1 : unmapped scene.left here.1.leftMap ≤ room1)
    (bound2 : unmapped scene.right here.1.rightMap ≤ room2) (levelDiff : Int) :
    Twin scene (joinContents setting descend pair levelDiff)
      (joinContents setting descend' (pair.mirror scene.shift) (-levelDiff)) rename here there
      (· = pair.object1) (· = pair.object2) (fun _ => .nothing) fun joined joined' _ =>
        joined' = joined := by
  unfold joinContents
  refine twin_demands (mirror.left.object pair.object1) (mirror.right.object pair.object2) ?_
  intro source1 source2 found1 found2
  by_cases size : source1.size = source2.size
  case neg =>
    rw [if_pos size, if_pos (Ne.symm size)]
    exact twin_pure mirror rfl
  case pos =>
    rw [if_neg (Classical.not_not.2 size), if_neg (Classical.not_not.2 size.symm)]
    refine (twin_align mirror ((Graph.object_eq_ok_iff _).1 found1)
      ((Graph.object_eq_ok_iff _).1 found2) size).bind ?_
    rintro status _ rename1 end1 end1' later1 mirror1 ⟨rfl, ranges, leftMap, rightMap⟩
    refine (twin_lower mirror1 status).bind ?_
    intro _ _ rename2 end2 end2' _ mirror2 lowered
    have ranges2 : SameRanges end2.1.left end2.1.right pair.object1 pair.object2 := by
      rw [lowered]
      exact ranges
    have leftMap2 : end2.1.leftMap = here.1.leftMap := by
      rw [lowered]
      exact leftMap
    have rightMap2 : end2.1.rightMap = here.1.rightMap := by
      rw [lowered]
      exact rightMap
    have rest := twin_joinAligned descends mirror2 setting pair (mirror.leftShallow found1)
      (mirror.rightShallow found2) levelDiff ranges2
      (leftMap2 ▸ mapped1) (rightMap2 ▸ mapped2) (leftMap2 ▸ bound1) (rightMap2 ▸ bound2)
    have rangesOther : SameRanges end2'.1.left end2'.1.right pair.object2 pair.object1 := by
      intro range
      rw [mirror2.right.layouts, mirror2.left.layouts, Option.isSome_map, Option.isSome_map,
        ranges2 range]
    cases setting.options.verify with
    | true =>
        rw [if_pos rfl, if_pos rfl]
        exact twin_bind_of_ok (Run.demand_apply_ok ranges2.check)
          (Run.demand_apply_ok rangesOther.check) rest.weaken
    | false =>
        rw [if_neg Bool.false_ne_true, if_neg Bool.false_ne_true]
        exact rest.weaken

theorem twin_setIncomparable (mirror : Mirror scene rename pending here there) :
    Twin scene (Run.modify fun progress => { progress with status := .incomparable })
      (Run.modify fun progress => { progress with status := .incomparable }) rename here there
      except1 except2 (fun _ => pending) fun _ _ _ => True :=
  twin_of_ok rename (Run.modify_apply _ _) (Run.modify_apply _ _)
    (.of_eq (Nat.le_refl _) rfl rfl rfl rfl) { mirror with status := rfl } trivial

theorem twin_joinObjectsWith (descends : Descends scene room1 room2 descend descend')
    (mirror : Mirror scene rename .nothing here there) (setting : Setting) (pair : ObjectPair)
    (mapped1 : (here.1.leftMap.object? pair.object1).isSome = true)
    (mapped2 : (here.1.rightMap.object? pair.object2).isSome = true)
    (bound1 : unmapped scene.left here.1.leftMap ≤ room1)
    (bound2 : unmapped scene.right here.1.rightMap ≤ room2) (levelDiff : Int) :
    Twin scene (joinObjectsWith setting descend pair levelDiff)
      (joinObjectsWith setting descend' (pair.mirror scene.shift) (-levelDiff)) rename here there
      (· = pair.object1) (· = pair.object2) (fun _ => .nothing) fun joined joined' _ =>
        joined' = joined := by
  unfold joinObjectsWith
  refine (twin_joinContents descends mirror setting pair mapped1 mapped2 bound1 bound2
    levelDiff).bind ?_
  intro joined joined' rename1 end1 end1' _ mirror1 same
  subst same
  cases joined' with
  | true => exact twin_pure mirror1 rfl
  | false =>
      refine (twin_setIncomparable mirror1).bind ?_
      intro _ _ rename2 end2 end2' _ mirror2 _
      exact twin_pure mirror2 rfl

/-- Two objects, and all that they lead to. -/
theorem descends_joinObjects (setting : Setting) (depth1 depth2 : Nat) :
    Descends scene depth1 depth2
      (fun object1 object2 dest => joinObjects setting depth1 ⟨object1, object2, dest⟩)
      (fun object1 object2 dest => joinObjects setting depth2 ⟨object1, object2, dest⟩) := by
  induction depth1 generalizing depth2 with
  | zero =>
      intro rename here there object1 object2 dest levelDiff mirror _ _ room1 _
      exact absurd room1 (Nat.not_lt_zero _)
  | succ depth1 ih =>
      intro rename here there object1 object2 dest levelDiff mirror mapped1 mapped2 room1 room2
      cases depth2 with
      | zero => exact absurd room2 (Nat.not_lt_zero _)
      | succ depth2 =>
          exact twin_joinObjectsWith (ih depth2) mirror setting ⟨object1, object2, dest⟩ mapped1
            mapped2 (Nat.le_of_lt_succ room1) (Nat.le_of_lt_succ room2) levelDiff

end Join

end ShapeDomain
