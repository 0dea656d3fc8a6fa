import ShapeDomain.Proofs.Names.Addresses
import ShapeDomain.Proofs.Progress.Objects

/-!
# Joining objects in step

Both joins of the same graphs align the same layouts and join the same fields, in the same order.
-/

namespace ShapeDomain

namespace Join

variable {rerun : Rerun} {namings later : Namings} {here there end1 end2 : Progress × Supply}
variable {setting setting' : Setting} {descend descend' : Descend} {pair pair' : ObjectPair}

/-- A pair of objects of the first join is, under other names, one of the second. -/
structure SamePair (rerun : Rerun) (pair pair' : ObjectPair) : Prop where
  /-- The left object. -/
  left : pair'.object1 = rerun.leftNames.object pair.object1
  /-- The right object. -/
  right : pair'.object2 = rerun.rightNames.object pair.object2

/-! ### Fields -/

/-- Two outcomes of joining fields are the same, up to the name of the joint value. -/
inductive SameFieldJoin : FieldJoin → FieldJoin → Prop where
  /-- Both fields are joined. -/
  | stored (value value' : ValueId) : SameFieldJoin (.stored value none) (.stored value' none)
  /-- None is. -/
  | refused : SameFieldJoin .refused .refused

theorem quietly_store (field : Field) : Quietly (store field) here fun _ _ => True := by
  unfold store
  refine Run.ends_bind_of_ok (Run.ask_apply _ _) ?_
  split
  · exact quietly_pure
  · exact quietly_attemptDest fun next done listless =>
      listless.of_objects (Graph.objects_of_addField done)

theorem mapLevels_lockstep (step : InStep rerun namings here there)
    (values objects : Level × Level) :
    Lockstep rerun namings (mapLevels values objects) (mapLevels values objects) here there
      fun _ mapped mapped' => mapped' = mapped := by
  unfold mapLevels
  refine Run.agrees_demand fun answer answer' given given' => ?_
  rw [step.levels, given] at given'
  obtain rfl := Except.ok.inj given'
  refine Run.agrees_bind_of_ok (Run.modify_apply _ _) (Run.modify_apply _ _) ?_
  exact lockstep_pure (step.withLevels _) rfl

/-- The fields of two objects are joined in step, and no folding is left to be done. -/
theorem joinFields_lockstep {join join' : Field → Run Progress FieldJoin}
    {fields fields' : List Field}
    (all : List.Forall₂ (SameField rerun.leftNames namings.left) fields fields') (harvest : Harvest)
    (step : InStep rerun namings here there)
    (each : ∀ {later : Namings} {here there : Progress × Supply} {field field' : Field},
      InStep rerun later here there → SameField rerun.leftNames later.left field field' →
      Lockstep rerun later (join field) (join' field') here there fun _ => SameFieldJoin) :
    Lockstep rerun namings (joinFields join fields harvest) (joinFields join' fields' harvest) here
      there fun _ left left' => left' = left ∧ ∀ found, left = some found → found = harvest := by
  induction fields generalizing namings here there fields' with
  | nil =>
      cases all
      exact lockstep_pure step ⟨rfl, fun found same => (Option.some.inj same).symm⟩
  | cons field rest ih =>
      cases all with
      | cons same all =>
          unfold joinFields
          refine (each step same).bind ?_
          rintro _ _ later middle1 middle2 within step (⟨value, value'⟩ | _)
          · exact ih (List.Forall₂.imp (fun _ _ same => same.mono within.left) all) step
          · exact lockstep_pure step ⟨rfl, fun found none => by cases none⟩

section Together

variable (same : setting.options = rerun.options) (same' : setting'.options = rerun.options)
variable (descends : rerun.Descends descend descend') (pairs : SamePair rerun pair pair')

include same same' descends pairs

/-- Fields are joined in step. -/
theorem joinField_lockstep (step : InStep rerun namings here there)
    {source1 source2 : Object} (ground1 : source1.level = .ground)
    (ground2 : source2.level = .ground)
    {field field' : Field} (fields : SameField rerun.leftNames namings.left field field')
    (holderLevel : Level) :
    Lockstep rerun namings (joinField setting descend pair source1 source2 0 holderLevel field)
      (joinField setting' descend' pair' source1 source2 0 holderLevel field') here there
      fun _ => SameFieldJoin := by
  unfold joinField
  refine Run.agrees_demand fun value2 value2' given given' => ?_
  have linked2 : namings.right value2 value2' := by
    rw [pairs.right, fields.range] at given'
    rcases step.sides.right.valueAt?_cases pair.object2 field.range with
      ⟨none, none'⟩ | ⟨held, held', isHeld, isHeld', linked⟩
    · simp only [none] at given
      cases given
    · simp only [isHeld, isHeld', Except.ok.injEq] at given given'
      exact given ▸ given' ▸ linked
  refine Run.agrees_bind_of_ok
    (Run.demand_apply_ok (levelBelow_of_tame rerun.leftPlain.tame step.sides.left.relaid _ _))
    (Run.demand_apply_ok (levelBelow_of_tame rerun.leftPlain'.tame step.sides.left.relaid' _ _)) ?_
  refine Run.agrees_bind_of_ok
    (Run.demand_apply_ok (levelBelow_of_tame rerun.rightPlain.tame step.sides.right.relaid _ _))
    (Run.demand_apply_ok
      (levelBelow_of_tame rerun.rightPlain'.tame step.sides.right.relaid' _ _)) ?_
  rw [ground1, ground2, fields.range]
  refine (mapLevels_lockstep step _ _).bind ?_
  rintro _ mapped later middle1 middle2 within step rfl
  cases mapped with
  | false => exact lockstep_pure step .refused
  | true =>
      refine (joinValuePair_lockstep step same same' descends (within.left fields.value)
        (within.right linked2) field.range.size holderLevel).bind ?_
      rintro _ _ last end1 end2 - step (⟨value, value'⟩ | _)
      · refine Run.Agrees.bind (step.agrees_of_quiet (quietly_store _) (quietly_store _)) ?_
        rintro _ final1 _ final2 ⟨step, -, -⟩
        exact lockstep_pure step (.stored value value')
      · exact lockstep_pure step .refused

/-! ### Objects -/

omit same same' descends pairs in
/-- Layouts are aligned in step during a join. -/
theorem onSides_align_lockstep (step : InStep rerun namings here there)
    (object1 object2 : ObjectId) :
    Lockstep rerun namings (onSides (Alignment.align object1 object2))
      (onSides (Alignment.align (rerun.leftNames.object object1) (rerun.rightNames.object object2)))
      here there fun _ status status' => status' = status := by
  refine Run.Agrees.within (align_agrees step.sides object1 object2) ?_
  rintro status end1 status' end2 ⟨later, onto, same⟩
  exact ⟨later, ⟨onto.grows.left.keeps, onto.grows.right.keeps⟩, step.withSides onto, same⟩

/-- The fields of objects whose layouts are aligned are joined in step. -/
theorem joinAligned_lockstep (step : InStep rerun namings here there)
    {source1 source2 : Object} (ground1 : source1.level = .ground)
    (ground2 : source2.level = .ground) :
    Lockstep rerun namings (joinAligned setting descend pair source1 source2)
      (joinAligned setting' descend' pair' source1 source2) here there
      fun _ joined joined' => joined' = joined := by
  unfold joinAligned
  rw [pairs.left]
  refine Run.agrees_demand fun holderLevel holderLevel' given given' => ?_
  rw [step.levels, given] at given'
  obtain rfl := Except.ok.inj given'
  refine Run.agrees_bind_of_ok (Run.ask_apply _ _) (Run.ask_apply _ _) ?_
  refine (joinFields_lockstep (step.sides.left.fieldsOf pair.object1) ⟨true, ∅⟩ step
    fun step fields => joinField_lockstep same same' descends pairs step ground1 ground2 fields
      holderLevel).bind ?_
  rintro _ left last end1 end2 - step ⟨rfl, only⟩
  cases left with
  | none => exact lockstep_pure step rfl
  | some found =>
      obtain rfl := only found rfl
      exact lockstep_pure step rfl

/-- The fields of two objects are joined in step. -/
theorem joinContents_lockstep (step : InStep rerun namings here there) :
    Lockstep rerun namings (joinContents setting descend pair 0)
      (joinContents setting' descend' pair' 0) here there fun _ joined joined' =>
        joined' = joined := by
  obtain ⟨object1', object2', dest'⟩ := pair'
  obtain rfl : object1' = rerun.leftNames.object pair.object1 := pairs.left
  obtain rfl : object2' = rerun.rightNames.object pair.object2 := pairs.right
  unfold joinContents
  rw [same, same']
  refine Run.agrees_demand fun source1 source1' given1 given1' => ?_
  refine Run.agrees_demand fun source2 source2' given2 given2' => ?_
  obtain ⟨rfl, found1, -, -⟩ := step.left_object given1 given1'
  obtain ⟨rfl, found2⟩ := step.right_object given2 given2'
  split
  case isTrue => exact lockstep_pure step rfl
  case isFalse =>
    refine (onSides_align_lockstep step pair.object1 pair.object2).bind ?_
    rintro _ status later middle1 middle2 within step rfl
    refine Run.Agrees.bind (step.lower status) ?_
    intro _ middle1 _ middle2 step
    have rest := joinAligned_lockstep same same' descends pairs step
      (rerun.leftPlain.tame.ground found1) (rerun.rightPlain.tame.ground found2)
    cases rerun.options.verify with
    | false => exact rest
    | true => exact Run.agrees_demand fun _ _ _ _ => rest

/-- Two objects are joined in step. -/
theorem joinObjectsWith_lockstep (step : InStep rerun namings here there) :
    Lockstep rerun namings (joinObjectsWith setting descend pair 0)
      (joinObjectsWith setting' descend' pair' 0) here there
      fun _ joined joined' => joined' = joined := by
  unfold joinObjectsWith
  refine (joinContents_lockstep same same' descends pairs step).bind ?_
  rintro _ joined later middle1 middle2 within step rfl
  cases joined with
  | true => exact lockstep_pure step rfl
  | false =>
      refine Run.agrees_bind_of_ok (Run.modify_apply _ _) (Run.modify_apply _ _) ?_
      exact lockstep_pure (step.withStatus .incomparable) rfl

end Together

/-- Two objects and all that they lead to are joined in step. -/
theorem joinObjects_lockstep (same : setting.options = rerun.options)
    (same' : setting'.options = rerun.options) (depth : Nat)
    (step : InStep rerun namings here there) (pairs : SamePair rerun pair pair') :
    Lockstep rerun namings (joinObjects setting depth pair 0) (joinObjects setting' depth pair' 0)
      here there fun _ joined joined' => joined' = joined := by
  induction depth generalizing namings here there pair pair' with
  | zero =>
      refine Run.agrees_bind_of_ok (Run.modify_apply _ _) (Run.modify_apply _ _) ?_
      exact lockstep_pure (step.withStatus .incomparable) rfl
  | succ depth ih =>
      refine joinObjectsWith_lockstep same same' ?_ pairs step
      intro _ _ _ object1 object2 dest dest' step
      exact ih step ⟨rfl, rfl⟩

end Join

end ShapeDomain
