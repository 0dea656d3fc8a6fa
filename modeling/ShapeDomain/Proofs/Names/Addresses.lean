import ShapeDomain.Proofs.Join.Unmapped
import ShapeDomain.Proofs.Names.Values

/-!
# Joining addresses in step

Two addresses are joined when they lead to the same place of objects that have the same counterpart,
or none.  Both joins of the same graphs find the same, and go down to the same objects.
-/

namespace ShapeDomain

namespace Join

variable {rerun : Rerun} {namings later : Namings} {here there end1 end2 : Progress × Supply}
variable {object1 object2 : ObjectId}

/-! ### Objects that addresses lead to -/

namespace InStep

variable (step : InStep rerun namings here there)

include step

/-- The left graphs have the same objects, whose names were drawn. -/
theorem left_object {source source' : Object} (given : here.1.left.object object1 = .ok source)
    (given' : there.1.left.object (rerun.leftNames.object object1) = .ok source') :
    source = source' ∧ rerun.left.object? object1 = some source ∧
      object1.index < rerun.start ∧ (rerun.leftNames.object object1).index < rerun.start' := by
  have found := (step.sides.left.relaid.object? object1).symm.trans
    ((Graph.object_eq_ok_iff _).1 given)
  have found' := (Graph.object?_rename rerun.leftNames object1).trans found
  exact ⟨step.sides.left.object_eq given given', found,
    rerun.leftPlain.object_lt (Graph.hasObject_of_object? found),
    rerun.leftPlain'.object_lt (Graph.hasObject_of_object? found')⟩

/-- The right graphs have the same objects. -/
theorem right_object {source source' : Object} (given : here.1.right.object object2 = .ok source)
    (given' : there.1.right.object (rerun.rightNames.object object2) = .ok source') :
    source = source' ∧ rerun.right.object? object2 = some source :=
  ⟨step.sides.right.object_eq given given', (step.sides.right.relaid.object? object2).symm.trans
    ((Graph.object_eq_ok_iff _).1 given)⟩

omit step in
/-- An object that was put into the destinations becomes the counterpart of the same objects. -/
theorem pairTargets {id id' : ObjectId} (step : InStep rerun namings here there)
    (unused : Unused rerun.start here object1 object2 id)
    (unused' : Unused rerun.start' there (rerun.leftNames.object object1)
      (rerun.rightNames.object object2) id') (valid : Bool) (status : Status) :
    Lockstep rerun namings
      (do
        attemptDest fun graph => graph.setValid id valid
        Join.pairObjects object1 object2 id
        Join.lower status
        return some id)
      (do
        attemptDest fun graph => graph.setValid id' valid
        Join.pairObjects (rerun.leftNames.object object1) (rerun.rightNames.object object2) id'
        Join.lower status
        return some id')
      here there fun _ made made' => made'.isSome = made.isSome := by
  refine Run.Agrees.bind (step.agrees_of_quiet ((quietly_setValid id valid).unused unused)
    ((quietly_setValid id' valid).unused unused')) ?_
  rintro _ end1 _ end2 ⟨step, unused, unused'⟩
  refine Run.Agrees.bind (step.pairObjects unused unused') ?_
  intro _ end1 _ end2 step
  refine Run.Agrees.bind (step.lower status) ?_
  exact fun _ end1 _ end2 step => lockstep_pure step rfl

/-- Joint objects are made of the same objects. -/
theorem joinTargets : Lockstep rerun namings (Join.joinTargets object1 object2)
    (Join.joinTargets (rerun.leftNames.object object1) (rerun.rightNames.object object2)) here there
    fun _ made made' => made'.isSome = made.isSome := by
  unfold Join.joinTargets
  refine Run.agrees_demand fun source1 source1' given1 given1' => ?_
  refine Run.agrees_demand fun source2 source2' given2 given2' => ?_
  obtain ⟨rfl, found1, early, early'⟩ := step.left_object given1 given1'
  obtain ⟨rfl, found2⟩ := step.right_object given2 given2'
  refine Run.agrees_bind_of_ok (Run.state_apply _) (Run.state_apply _) ?_
  have valid1 : there.1.left.isValid (rerun.leftNames.object object1) =
    here.1.left.isValid object1 := step.sides.left.isValid object1
  have valid2 : there.1.right.isValid (rerun.rightNames.object object2) =
    here.1.right.isValid object2 := step.sides.right.isValid object2
  have heap1 : there.1.left.isHeap (rerun.leftNames.object object1) =
    here.1.left.isHeap object1 := step.sides.left.isHeap object1
  have heap2 : there.1.right.isHeap (rerun.rightNames.object object2) =
    here.1.right.isHeap object2 := step.sides.right.isHeap object2
  simp only [valid1, valid2, heap1, heap2, step.levels]
  split
  case isTrue => exact lockstep_pure step rfl
  case isFalse =>
    split
    case h_2 => exact lockstep_pure step rfl
    case h_1 kind status level joined _ =>
      have noList := Kind.isList_of_join (rerun.leftPlain.noList found1)
        (rerun.rightPlain.noList found2) joined
      refine Run.Agrees.bind (step.agrees_of_quiet (quietly_objectName step.tidy early)
        (quietly_objectName step.tidy' early')) ?_
      rintro id middle1 id' middle2 ⟨step, unused, unused'⟩
      split
      case isTrue =>
        have put (id : ObjectId) (here : Progress × Supply) : Quietly (modifyDest fun graph =>
            graph.addHeapObject id { source1 with level := level, kind := kind }) here
              fun _ _ => True :=
          quietly_modifyDest fun listless =>
            listless.put (Graph.object?_addHeapObject _ id · _) noList
        refine Run.Agrees.bind (step.agrees_of_quiet ((put id middle1).unused unused)
          ((put id' middle2).unused unused')) ?_
        rintro _ end1 _ end2 ⟨step, unused, unused'⟩
        exact step.pairTargets unused unused' _ status
      case isFalse =>
        have put (id : ObjectId) (here : Progress × Supply) : Quietly (modifyDest fun graph =>
            graph.addObject id { source1 with level := level, kind := kind }) here
              fun _ _ => True :=
          quietly_modifyDest fun listless => listless.put (Graph.object?_addObject _ id · _) noList
        refine Run.Agrees.bind (step.agrees_of_quiet ((put id middle1).unused unused)
          ((put id' middle2).unused unused')) ?_
        rintro _ end1 _ end2 ⟨step, unused, unused'⟩
        exact step.pairTargets unused unused' _ status

end InStep

/-! ### Addresses -/

/-- Two addresses lead to the same kind of destination in both joins. -/
inductive SameDestination : Option Destination → Option Destination → Prop where
  /-- They lead nowhere. -/
  | nowhere : SameDestination none none
  /-- They lead to an object that is there. -/
  | known (object object' : ObjectId) :
    SameDestination (some (.known object)) (some (.known object'))
  /-- They lead to an object that was just made. -/
  | made (object object' : ObjectId) : SameDestination (some (.made object)) (some (.made object'))

/-- Addresses lead to the same kind of destination. -/
theorem destination_lockstep (step : InStep rerun namings here there) :
    Lockstep rerun namings (destination object1 object2)
      (destination (rerun.leftNames.object object1) (rerun.rightNames.object object2)) here there
      fun _ => SameDestination := by
  unfold destination
  refine Run.agrees_bind_of_ok (Run.state_apply _) (Run.state_apply _) ?_
  simp only [Renaming.isNull_object]
  split
  case isTrue => exact lockstep_pure step (.known _ _)
  case isFalse =>
    have mapped1 := step.leftObjects object1
    have mapped2 := step.rightObjects object2
    have relates := step.relates object1 object2
    unfold Progress.Relates at relates
    cases image1 : here.1.leftMap.object? object1 <;>
      cases image2 : here.1.rightMap.object? object2 <;>
      cases image1' : there.1.leftMap.object? (rerun.leftNames.object object1) <;>
      cases image2' : there.1.rightMap.object? (rerun.rightNames.object object2) <;>
      simp only [image1, image2, image1', image2', Option.isSome_some, Option.isSome_none,
        Bool.true_eq_false, Bool.false_eq_true] at mapped1 mapped2
    case none.none.none.none =>
      dsimp only
      split
      case isTrue => exact lockstep_pure step .nowhere
      case isFalse =>
        refine step.joinTargets.bind fun made made' later end1 end2 within step same => ?_
        cases made <;> cases made' <;>
          simp only [Option.isSome_some, Option.isSome_none, Bool.true_eq_false,
            Bool.false_eq_true] at same
        · exact lockstep_pure step .nowhere
        · exact lockstep_pure step (.made _ _)
    case none.some.none.some => exact lockstep_pure step .nowhere
    case some.none.some.none => exact lockstep_pure step .nowhere
    case some.some.some.some dest1 dest2 dest1' dest2' =>
      have same : dest1' = dest2' ↔ dest1 = dest2 := by
        simpa [image1, image2, image1', image2', eq_comm] using relates
      by_cases shared : dest1 = dest2
      · have shared' := same.2 shared
        simp only [shared, shared', if_true]
        exact lockstep_pure step (.known _ _)
      · have shared' : ¬ dest1' = dest2' := fun shared' => shared (same.1 shared')
        simp only [shared, shared', if_false]
        exact lockstep_pure step .nowhere

/-- Going down to two objects keeps joins in step. -/
def Rerun.Descends (rerun : Rerun) (descend descend' : Descend) : Prop :=
  ∀ {namings : Namings} {here there : Progress × Supply} (object1 object2 dest dest' : ObjectId),
    InStep rerun namings here there →
    Lockstep rerun namings (descend object1 object2 dest 0)
      (descend' (rerun.leftNames.object object1)
        (rerun.rightNames.object object2) dest' 0) here there
      fun _ joined joined' => joined' = joined

variable {setting setting' : Setting} {descend descend' : Descend}
variable {value1 value1' value2 value2' : ValueId}

/-- Without folding the values have no join for good. -/
theorem noJoin_apply_of_still (still : setting.options.foldLists = false) (value1 value2 : ValueId)
    (here : Progress × Supply) :
    noJoin setting value1 value2 here = .ok (.undefined false) here := by
  unfold noJoin
  rw [Run.bind_apply_ok (Run.state_apply _), still]
  rfl

/-- Nor is there anything to be folded. -/
theorem foldAt_apply_of_still (still : setting.options.foldLists = false) (object : ObjectId)
    (here : Progress × Supply) : foldAt setting object here = .ok none here := by
  unfold foldAt
  rw [still]
  rfl

/-- In both joins two values have no joint value. -/
theorem noJoin_lockstep (step : InStep rerun namings here there)
    (same : setting.options = rerun.options) (same' : setting'.options = rerun.options) :
    Lockstep rerun namings (noJoin setting value1 value2)
      (noJoin setting' value1' value2') here there
      fun _ => SameJoin :=
  Run.agrees_of_ok (noJoin_apply_of_still (same ▸ rerun.still) _ _ _)
    (noJoin_apply_of_still (same' ▸ rerun.still) _ _ _) ⟨namings, .refl _, step, .undefined⟩

/-- An address of a region that is joined with another one leads to a region. -/
theorem specifier?_of_noList (holderLevel : Level) {object : Object}
    (noList : object.kind.isList = false) :
    specifier? holderLevel object .region .region = .ok (some .region) := by
  unfold specifier?
  rw [noList]
  rfl

/-- Joint addresses are named, and paired with the same values. -/
theorem InStep.pairAddresses {α β : Type} {related : Namings → α → β → Prop}
    {next1 : ValueId → Run Progress α} {next2 : ValueId → Run Progress β} {place place' : Target}
    (step : InStep rerun namings here there) (linked1 : namings.left value1 value1')
    (linked2 : namings.right value2 value2')
    (rest : ∀ dest dest' end1 end2, InStep rerun namings end1 end2 →
      Lockstep rerun namings (next1 dest) (next2 dest') end1 end2 related) :
    Lockstep rerun namings
      (do
        let dest ← addressName value1 value2 place
        Join.pairValues value1 value2 dest
        next1 dest)
      (do
        let dest ← addressName value1' value2' place'
        Join.pairValues value1' value2' dest
        next2 dest)
      here there related := by
  refine Run.Agrees.bind (step.agrees_of_quiet (quietly_addressName value1 value2 place)
    (quietly_addressName value1' value2' place')) ?_
  rintro dest middle1 dest' middle2 ⟨step, -, -⟩
  refine Run.Agrees.bind (step.pairValues linked1 linked2 dest dest') ?_
  exact fun _ end1 _ end2 step => rest dest dest' end1 end2 step

/-- Addresses are joined in step. -/
theorem joinAddresses_lockstep (step : InStep rerun namings here there)
    (same : setting.options = rerun.options) (same' : setting'.options = rerun.options)
    (descends : rerun.Descends descend descend') (linked1 : namings.left value1 value1')
    (linked2 : namings.right value2 value2') {target1 target2 : Target}
    (leads1 : here.1.left.target? value1 = some target1)
    (leads2 : here.1.right.target? value2 = some target2) (holderLevel : Level) :
    Lockstep rerun namings
      (joinAddresses setting descend value1 value2 target1 target2 0 holderLevel)
      (joinAddresses setting' descend' value1' value2' (target1.rename rerun.leftNames)
        (target2.rename rerun.rightNames) 0 holderLevel) here there fun _ => SameJoin := by
  have direct1 : target1.specifier = .region :=
    rerun.leftPlain.direct ((step.sides.left.relaid.target? value1).symm.trans leads1)
  have direct2 : target2.specifier = .region :=
    rerun.rightPlain.direct ((step.sides.right.relaid.target? value2).symm.trans leads2)
  unfold joinAddresses
  simp only [Target.rename, direct1, direct2]
  split
  case isTrue => exact noJoin_lockstep step same same'
  case isFalse =>
    refine (destination_lockstep step).bind fun place place' later end1 end2 within step alike => ?_
    have noList {start : Nat} {here : Progress × Supply} (tidy : Tidy start here) {id : ObjectId}
        {object : Object} (given : here.1.dest.object id = .ok object) :
        object.kind.isList = false := by
      have listless := tidy.listless id
      rwa [Graph.isList, (Graph.object_eq_ok_iff _).1 given] at listless
    cases alike with
    | nowhere => exact noJoin_lockstep step same same'
    | known id id' =>
        refine Run.agrees_demand fun object object' given given' => ?_
        refine Run.agrees_bind_of_ok
          (Run.demand_apply_ok (specifier?_of_noList holderLevel (noList step.tidy given)))
          (Run.demand_apply_ok (specifier?_of_noList holderLevel (noList step.tidy' given'))) ?_
        exact step.pairAddresses (within.left linked1) (within.right linked2)
          fun dest dest' end1 end2 step => lockstep_pure step (.joined dest dest')
    | made id id' =>
        refine Run.agrees_demand fun object object' given given' => ?_
        refine Run.agrees_bind_of_ok
          (Run.demand_apply_ok (specifier?_of_noList holderLevel (noList step.tidy given)))
          (Run.demand_apply_ok (specifier?_of_noList holderLevel (noList step.tidy' given'))) ?_
        refine step.pairAddresses (within.left linked1) (within.right linked2)
          fun dest dest' end1 end2 step => ?_
        refine (descends target1.object target2.object id id' step).bind ?_
        rintro _ joined last final1 final2 - step rfl
        cases joined with
        | false => exact lockstep_pure step .undefined
        | true =>
            refine Run.agrees_bind_of_ok (foldAt_apply_of_still (same ▸ rerun.still) _ _)
              (foldAt_apply_of_still (same' ▸ rerun.still) _ _) ?_
            exact lockstep_pure step (.joined _ _)

/-! ### Values -/

/-- Values are joined in step. -/
theorem joinValuePair_lockstep (step : InStep rerun namings here there)
    (same : setting.options = rerun.options) (same' : setting'.options = rerun.options)
    (descends : rerun.Descends descend descend') (linked1 : namings.left value1 value1')
    (linked2 : namings.right value2 value2') (size : Nat) (holderLevel : Level) :
    Lockstep rerun namings (joinValuePair setting descend value1 value2 size 0 holderLevel)
      (joinValuePair setting' descend' value1' value2' size 0 holderLevel) here there
      fun _ => SameJoin := by
  have zero1 : value1'.isZero = value1.isZero := step.sides.left.isZero linked1
  have zero2 : value2'.isZero = value2.isZero := step.sides.right.isZero linked2
  have joint : (jointValue? there.1 value1' value2').isSome =
      (jointValue? here.1 value1 value2).isSome := by
    unfold jointValue?
    rw [zero1, zero2]
    split
    · rfl
    · exact step.joined linked1 linked2
  have paired1 : hasCounterpart there.1.leftMap value1' = hasCounterpart here.1.leftMap value1 := by
    rw [hasCounterpart, hasCounterpart, zero1, step.leftValues linked1]
  have paired2 : hasCounterpart there.1.rightMap value2' =
      hasCounterpart here.1.rightMap value2 := by
    rw [hasCounterpart, hasCounterpart, zero2, step.rightValues linked2]
  have address1 : address? there.1.left value1' =
      (address? here.1.left value1).map (Target.rename rerun.leftNames) := by
    have leads : there.1.left.target? value1' = _ := step.sides.left.target? linked1
    rw [address?, address?, zero1, leads]
    split <;> rfl
  have address2 : address? there.1.right value2' =
      (address? here.1.right value2).map (Target.rename rerun.rightNames) := by
    have leads : there.1.right.target? value2' = _ := step.sides.right.target? linked2
    rw [address?, address?, zero2, leads]
    split <;> rfl
  unfold joinValuePair
  refine Run.agrees_bind_of_ok (Run.state_apply _) (Run.state_apply _) ?_
  cases found : jointValue? here.1 value1 value2 with
  | some value =>
      rw [found, Option.isSome_some, Option.isSome_iff_exists] at joint
      obtain ⟨value', found'⟩ := joint
      simp only [found']
      exact lockstep_pure step (.joined value value')
  | none =>
      rw [found, Option.isSome_none, Option.isSome_eq_false_iff, Option.isNone_iff_eq_none] at joint
      simp only [joint, paired1, paired2, address1, address2]
      split
      case isTrue => exact lockstep_pure step .undefined
      case isFalse =>
        cases leads1 : address? here.1.left value1 with
        | none =>
            cases leads2 : address? here.1.right value2 with
            | none => exact joinNumbers_lockstep step linked1 linked2 size
            | some target2 => exact noJoin_lockstep step same same'
        | some target1 =>
            cases leads2 : address? here.1.right value2 with
            | none => exact noJoin_lockstep step same same'
            | some target2 =>
                exact joinAddresses_lockstep step same same' descends linked1 linked2
                  (address?_eq_some_iff.1 leads1).2 (address?_eq_some_iff.1 leads2).2 holderLevel

end Join

end ShapeDomain
