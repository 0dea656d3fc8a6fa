import ShapeDomain.Proofs.Names.Objects
import ShapeDomain.Proofs.Progress.Graphs

/-!
# Joining graphs in step

Variables are paired by their names in the program, which renamed graphs share.  So the joins of two
plain graphs and of the same graphs under other names are in step from the beginning to the end.
-/

namespace ShapeDomain

namespace Join

variable {rerun : Rerun} {namings later : Namings} {here there end1 end2 : Progress × Supply}
variable {setting setting' : Setting}

/-! ### Variables -/

/-- Two lists of pairs of objects are the same, up to the names, or there is none. -/
abbrev SameVariables (rerun : Rerun) : Option (List ObjectPair) → Option (List ObjectPair) → Prop :=
  Option.Rel (List.Forall₂ (SamePair rerun))

/-- A way of declaring variables makes no list segments. -/
def DeclaresRegions (declare : Declare) : Prop :=
  ∀ name id object graph next, declare name id object graph = .ok next →
    object.kind.isList = false → graph.Listless → next.Listless

theorem declaresRegions_global :
    DeclaresRegions fun name id object graph => .ok (graph.declareGlobal name id object) := by
  intro name id object graph next done noList listless
  obtain rfl := Except.ok.inj done
  exact listless.put (graph.object?_addObject id · object) noList

theorem declaresRegions_local :
    DeclaresRegions fun name id object graph => graph.declareLocal name id object := by
  intro name id object graph next done noList listless
  obtain ⟨frame, outer, -, rfl⟩ := Graph.declareLocal_eq_ok done
  exact listless.put (graph.object?_addObject id · object) noList

variable {declare : Declare}

/-- Variables are paired in step. -/
theorem matchVariable_lockstep (step : InStep rerun namings here there)
    (declares : DeclaresRegions declare) (name : String) (object1 object2 : ObjectId) :
    Lockstep rerun namings (matchVariable declare name object1 object2)
      (matchVariable declare name
        (rerun.leftNames.object object1) (rerun.rightNames.object object2))
      here there fun _ => Option.Rel (SamePair rerun) := by
  unfold matchVariable
  refine Run.agrees_demand fun source1 source1' given1 given1' => ?_
  refine Run.agrees_demand fun source2 source2' given2 given2' => ?_
  obtain ⟨rfl, -, early, early'⟩ := step.left_object given1 given1'
  obtain ⟨rfl, -⟩ := step.right_object given2 given2'
  refine Run.agrees_bind_of_ok (Run.state_apply _) (Run.state_apply _) ?_
  have valid1 : there.1.left.isValid (rerun.leftNames.object object1) =
    here.1.left.isValid object1 := step.sides.left.isValid object1
  have valid2 : there.1.right.isValid (rerun.rightNames.object object2) =
    here.1.right.isValid object2 := step.sides.right.isValid object2
  simp only [valid1, valid2]
  split
  case isTrue => exact lockstep_pure step .none
  case isFalse =>
    have declared (id : ObjectId) (here : Progress × Supply) :
        Quietly (attemptDest (declare name id (.region source1.size source1.label))) here
          fun _ _ => True :=
      quietly_attemptDest fun next done listless => declares _ _ _ _ next done rfl listless
    refine Run.Agrees.bind (step.agrees_of_quiet (quietly_objectName step.tidy early)
      (quietly_objectName step.tidy' early')) ?_
    rintro id middle1 id' middle2 ⟨step, unused, unused'⟩
    refine Run.Agrees.bind (step.agrees_of_quiet ((declared id middle1).unused unused)
      ((declared id' middle2).unused unused')) ?_
    rintro _ middle1 _ middle2 ⟨step, unused, unused'⟩
    refine Run.Agrees.bind (step.agrees_of_quiet ((quietly_setValid id _).unused unused)
      ((quietly_setValid id' _).unused unused')) ?_
    rintro _ middle1 _ middle2 ⟨step, unused, unused'⟩
    refine Run.Agrees.bind (step.pairObjects unused unused') ?_
    exact fun _ end1 _ end2 step => lockstep_pure step (.some ⟨rfl, rfl⟩)

/-- A variable under another name of its object. -/
def renameEntry (names : Renaming) (entry : String × ObjectId) : String × ObjectId :=
  (entry.1, names.object entry.2)

theorem matchEach_lockstep (step : InStep rerun namings here there)
    (declares : DeclaresRegions declare)
    (entries : List ((String × ObjectId) × (String × ObjectId))) :
    Lockstep rerun namings (matchEach declare entries)
      (matchEach declare
        (entries.map (Prod.map (renameEntry rerun.leftNames) (renameEntry rerun.rightNames))))
      here there fun _ => SameVariables rerun := by
  induction entries generalizing namings here there with
  | nil => exact lockstep_pure step (.some .nil)
  | cons entry rest ih =>
      refine (matchVariable_lockstep step declares entry.1.1 entry.1.2 entry.2.2).bind ?_
      rintro _ _ later middle1 middle2 within step (same | _)
      · refine (ih step).bind ?_
        rintro _ _ last end1 end2 - step (all | _)
        · exact lockstep_pure step (.some (.cons same all))
        · exact lockstep_pure step .none
      · exact lockstep_pure step .none

theorem matchScopes_lockstep (step : InStep rerun namings here there)
    (declares : DeclaresRegions declare) (scope1 scope2 : Table String ObjectId) :
    Lockstep rerun namings (matchScopes declare scope1 scope2)
      (matchScopes declare (scope1.mapPayloads rerun.leftNames.object)
        (scope2.mapPayloads rerun.rightNames.object)) here there fun _ => SameVariables rerun := by
  unfold matchScopes
  rw [Table.keys_mapPayloads, Table.keys_mapPayloads]
  split
  case isTrue =>
    have entries := matchEach_lockstep step declares (scope1.toList.zip scope2.toList)
    rw [← List.zip_map] at entries
    exact entries
  case isFalse => exact lockstep_pure step .none

theorem matchFrames_lockstep (step : InStep rerun namings here there)
    (frames : List (Frame × Frame)) :
    Lockstep rerun namings (matchFrames frames)
      (matchFrames
        (frames.map (Prod.map (Frame.rename rerun.leftNames) (Frame.rename rerun.rightNames))))
      here there fun _ => SameVariables rerun := by
  induction frames generalizing namings here there with
  | nil => exact lockstep_pure step (.some .nil)
  | cons both rest ih =>
      obtain ⟨frame1, frame2⟩ := both
      simp only [List.map_cons, Prod.map_apply, matchFrames, Frame.rename, Table.keys_mapPayloads]
      split
      case isTrue => exact lockstep_pure step .none
      case isFalse =>
        have entered (here : Progress × Supply) : Quietly
            (modifyDest fun graph => graph.enter frame1.function) here fun _ _ => True :=
          quietly_modifyDest fun listless => listless.of_objects rfl
        refine Run.Agrees.bind (step.agrees_of_quiet (entered here) (entered there)) ?_
        rintro _ middle1 _ middle2 ⟨step, -, -⟩
        refine (matchScopes_lockstep step declaresRegions_local _ _).bind ?_
        rintro _ _ later middle1 middle2 within step (all | _)
        · refine (ih step).bind ?_
          rintro _ _ last end1 end2 - step (all' | _)
          · exact lockstep_pure step (.some (List.rel_append all all'))
          · exact lockstep_pure step .none
        · exact lockstep_pure step .none

/-- All variables are paired in step. -/
theorem matchVariables_lockstep (step : InStep rerun namings here there) :
    Lockstep rerun namings matchVariables matchVariables here there fun _ =>
      SameVariables rerun := by
  have globals1 : there.1.left.globals = _ := step.sides.left.globals
  have globals2 : there.1.right.globals = _ := step.sides.right.globals
  have frames1 : there.1.left.frames = _ := step.sides.left.frames
  have frames2 : there.1.right.frames = _ := step.sides.right.frames
  unfold matchVariables
  refine Run.agrees_bind_of_ok (Run.state_apply _) (Run.state_apply _) ?_
  simp only [globals1, globals2, frames1, frames2, List.length_map, List.zip_map]
  refine (matchScopes_lockstep step declaresRegions_global _ _).bind ?_
  rintro _ _ later middle1 middle2 within step (all | _)
  · dsimp only
    split
    case isTrue => exact lockstep_pure step .none
    case isFalse =>
      refine (matchFrames_lockstep step _).bind ?_
      rintro _ _ last end1 end2 - step (all' | _)
      · exact lockstep_pure step (.some (List.rel_append all all'))
      · exact lockstep_pure step .none
  · exact lockstep_pure step .none

/-! ### Graphs -/

/-- Pairs of objects are joined in step. -/
theorem joinPairs_lockstep (step : InStep rerun namings here there)
    (same : setting.options = rerun.options) (same' : setting'.options = rerun.options)
    (depth : Nat) {pairs pairs' : List ObjectPair}
    (all : List.Forall₂ (SamePair rerun) pairs pairs') :
    Lockstep rerun namings (joinPairs setting depth pairs) (joinPairs setting' depth pairs') here
      there fun _ joined joined' => joined' = joined := by
  induction all generalizing namings here there with
  | nil => exact lockstep_pure step rfl
  | cons pair _ ih =>
      unfold joinPairs
      refine (joinObjects_lockstep same same' depth step pair).bind ?_
      rintro _ joined later middle1 middle2 within step rfl
      cases joined with
      | true => exact ih step
      | false =>
          refine Run.agrees_bind_of_ok (Run.ask_apply _ _) (Run.ask_apply _ _) ?_
          rw [step.status]
          split
          case isTrue => exact lockstep_pure step rfl
          case isFalse => exact Run.agrees_of_error rfl

/-- Each value is linked with its new name. -/
def Rerun.newNames (rerun : Rerun) : Namings where
  left value value' := rerun.left.hasValue value = true ∧ rerun.leftNames.value value = value'
  right value value' := rerun.right.hasValue value = true ∧ rerun.rightNames.value value = value'

theorem tidy_start (start : Nat) (left right : Graph) :
    Tidy start (.start left right, ⟨start⟩) where
  time := Nat.le_refl _
  leftObjects _ _ mapped := by cases mapped
  rightObjects _ _ mapped := by cases mapped
  leftValues mapped := by cases mapped
  rightValues mapped := by cases mapped
  joined isJoint := by cases isJoint
  listless id := by
    unfold Graph.isList
    cases found : (Progress.start left right).dest.object? id with
    | none => rfl
    | some object => exact (Graph.Plain.initial left.machine).noList found

/-- Before anything is joined, two joins are in step. -/
theorem inStep_start (rerun : Rerun) :
    InStep rerun rerun.newNames (.start rerun.left rerun.right, ⟨rerun.start⟩)
      (.start (rerun.left.rename rerun.leftNames) (rerun.right.rename rerun.rightNames),
        ⟨rerun.start'⟩) where
  sides := ⟨.start rerun.leftPlain rerun.leftPlain', .start rerun.rightPlain rerun.rightPlain'⟩
  tidy := tidy_start ..
  tidy' := tidy_start ..
  leftObjects _ := rfl
  rightObjects _ := rfl
  relates object1 object2 := by
    constructor
    · rintro ⟨image, mapped, -⟩
      cases mapped
    · rintro ⟨image, mapped, -⟩
      cases mapped
  leftValues _ := rfl
  rightValues _ := rfl
  joined _ _ := rfl
  levels := rfl
  status := rfl

/-- Two joins of the same graphs, the second one under other names, are in step at the end. -/
theorem joinAll_lockstep (step : InStep rerun namings here there)
    (same : setting.options = rerun.options) (same' : setting'.options = rerun.options) :
    Lockstep rerun namings (joinAll setting) (joinAll setting') here there
      fun _ joined joined' => joined' = joined := by
  have size : there.1.left.objects.size = here.1.left.objects.size := step.sides.left.size_objects
  unfold joinAll
  refine Run.agrees_bind_of_ok (Run.ask_apply _ _) (Run.ask_apply _ _) ?_
  simp only [size]
  refine (matchVariables_lockstep step).bind ?_
  rintro _ _ later middle1 middle2 within step (all | _)
  case none => exact lockstep_pure step rfl
  case some =>
    refine (joinPairs_lockstep step same same' _ all).bind ?_
    rintro _ joined last end1 end2 - step rfl
    cases joined with
    | false => exact lockstep_pure step rfl
    | true =>
        have none1 : end1.1.left.inequalities = ∅ :=
          step.sides.left.relaid.inequalities.trans rerun.leftPlain.unrelated
        have none2 : end1.1.right.inequalities = ∅ :=
          step.sides.right.relaid.inequalities.trans rerun.rightPlain.unrelated
        have none1' : end2.1.left.inequalities = ∅ :=
          step.sides.left.relaid'.inequalities.trans rerun.leftPlain'.unrelated
        have none2' : end2.1.right.inequalities = ∅ :=
          step.sides.right.relaid'.inequalities.trans rerun.rightPlain'.unrelated
        refine Run.agrees_bind_of_ok (keepInequalities_of_unrelated none1 none2)
          (keepInequalities_of_unrelated none1' none2') ?_
        rw [same, same']
        cases rerun.options.verify with
        | false => exact lockstep_pure step rfl
        | true => exact Run.agrees_demand fun _ _ _ _ => lockstep_pure step rfl

end Join

end ShapeDomain
