import ShapeDomain.Proofs.Join.Drawing
import ShapeDomain.Proofs.Steady.Objects

/-!
# Steps apart from the joined graphs

Many steps of a join neither look at the two joined graphs nor change them.  They go through in the
same way whatever these graphs are.
-/

namespace ShapeDomain

namespace Join

/-- The same progress, on other graphs that are related to the joined ones. -/
inductive SameInputs (lefts rights : Graph → Graph → Prop) (here : Progress) : Progress → Prop where
  /-- The two joined graphs are replaced. -/
  | replaced {left right : Graph} : lefts here.left left → rights here.right right →
      SameInputs lefts rights here { here with left := left, right := right }

/-- The joined graphs and the counterparts of their values are what they were, and no left object
has lost its counterpart. -/
structure Untouched (here there : Progress × Supply) : Prop where
  /-- The left graph is the same. -/
  left : there.1.left = here.1.left
  /-- So is the right graph. -/
  right : there.1.right = here.1.right
  /-- Left values have the same counterparts. -/
  leftValues : ∀ value, there.1.leftMap.value? value = here.1.leftMap.value? value
  /-- So have right values. -/
  rightValues : ∀ value, there.1.rightMap.value? value = here.1.rightMap.value? value
  /-- Left objects have counterparts if they had. -/
  copied : ∀ {id}, (here.1.leftMap.object? id).isSome = true →
    (there.1.leftMap.object? id).isSome = true
  /-- The supply moves on. -/
  time : here.2.next ≤ there.2.next

namespace Untouched

variable {here middle there : Progress × Supply}

theorem refl (here : Progress × Supply) : Untouched here here :=
  ⟨rfl, rfl, fun _ => rfl, fun _ => rfl, fun isSome => isSome, Nat.le_refl _⟩

theorem trans (first : Untouched here middle) (second : Untouched middle there) :
    Untouched here there where
  left := second.left.trans first.left
  right := second.right.trans first.right
  leftValues value := (second.leftValues value).trans (first.leftValues value)
  rightValues value := (second.rightValues value).trans (first.rightValues value)
  copied isSome := second.copied (first.copied isSome)
  time := Nat.le_trans first.time second.time

end Untouched

/-- A computation that does not look at the joined graphs and does not touch them. -/
structure Apart {α : Type} (computation : Run Progress α) : Prop where
  /-- It goes through in the same way on other graphs. -/
  lifts : ∀ lefts rights, Run.Lifts (SameInputs lefts rights) computation
  /-- It does not touch them. -/
  untouched : ∀ here, Run.Passes computation here fun _ there => Untouched here there

variable {α β : Type} {setting : Setting}

theorem apart_pure (result : α) : Apart (pure result) where
  lifts _ _ := Run.lifts_pure result
  untouched here := Run.ends_pure (.refl here)

theorem Apart.bind {first : Run Progress β} {next : β → Run Progress α} (apart : Apart first)
    (rest : ∀ result, Apart (next result)) : Apart (first >>= next) where
  lifts lefts rights := (apart.lifts lefts rights).bind fun result =>
    (rest result).lifts lefts rights
  untouched here := (apart.untouched here).bind fun result middle first =>
    ((rest result).untouched middle).mono fun _ _ second => first.trans second

/-- A question about something else than the joined graphs. -/
theorem apart_ask {question : Progress → α}
    (same : ∀ here left right,
      question { here with left := left, right := right } = question here) :
    Apart (Run.ask question) where
  lifts _ _ := by
    refine Run.lifts_ask ?_
    rintro here _ ⟨-, -⟩
    exact same here _ _
  untouched here := Run.ends_of_ok (Run.ask_apply _ _) (.refl here)

/-- A question about something else than the joined graphs, which may have no answer. -/
theorem apart_demand {question : Progress → Except Fault α}
    (same : ∀ here left right,
      question { here with left := left, right := right } = question here) :
    Apart (Run.demand question) where
  lifts _ _ := by
    refine Run.lifts_demand ?_
    rintro here _ ⟨-, -⟩
    exact same here _ _
  untouched here := by
    cases given : question here.1 with
    | ok answer => exact Run.ends_of_ok (Run.demand_apply_ok given) (.refl here)
    | error fault => exact Run.passes_of_error (Run.demand_apply_error given)

theorem apart_draw {computation : Draw α} (later : ∀ supply result now,
    computation supply = .ok result now → supply.next ≤ now.next) :
    Apart (Run.draw computation) where
  lifts _ _ := Run.lifts_draw computation
  untouched here := by
    unfold Run.Passes Run.Ends Run.draw
    cases drawn : computation here.2 with
    | ok result now =>
        exact ⟨rfl, rfl, fun _ => rfl, fun _ => rfl, fun isSome => isSome, later _ _ _ drawn⟩
    | error => trivial

/-- A computation on the destination. -/
theorem apart_onDest {computation : Run Graph α}
    (later : ∀ here, Run.Passes computation here fun _ there => here.2.next ≤ there.2.next) :
    Apart (onDest computation) where
  lifts _ _ := by
    refine (Run.lifts_eq computation).within ?_ ?_
    · rintro here _ ⟨-, -⟩
      rfl
    · rintro here _ next _ ⟨left, right⟩ rfl
      exact .replaced left right
  untouched here := Run.Ends.within (later (here.1.dest, here.2))
    (fun _ _ after => ⟨rfl, rfl, fun _ => rfl, fun _ => rfl, fun isSome => isSome, after⟩)
    fun _ _ bad => bad

theorem apart_modifyDest (change : Graph → Graph) : Apart (modifyDest change) :=
  apart_onDest fun _ => Run.ends_of_ok (Run.modify_apply _ _) (Nat.le_refl _)

theorem apart_attemptDest (change : Graph → Except Fault Graph) : Apart (attemptDest change) :=
  apart_onDest fun _ => Run.passes_attempt fun _ _ => Nat.le_refl _

theorem apart_lower (status : Status) : Apart (lower status) where
  lifts _ _ := by
    refine Run.lifts_modify ?_
    rintro here _ ⟨left, right⟩
    exact .replaced left right
  untouched here := Run.ends_of_ok (lower_apply status here) { Untouched.refl here with }

theorem apart_incomparable :
    Apart (Run.modify fun progress => { progress with status := Status.incomparable }) where
  lifts _ _ := by
    refine Run.lifts_modify ?_
    rintro here _ ⟨left, right⟩
    exact .replaced left right
  untouched here := Run.ends_of_ok (Run.modify_apply _ _) { Untouched.refl here with }

/-! ### Pairs -/

section Changes

variable {lefts rights : Graph → Graph → Prop}

theorem lifts_changeLeft (change : Correspondence → Except Fault Correspondence) :
    Run.Lifts (SameInputs lefts rights) (Run.attempt fun progress => do
      return { progress with leftMap := ← change progress.leftMap }) := by
  refine Run.lifts_attempt ?_
  rintro here _ next ⟨left, right⟩ changed
  cases mapped : change here.leftMap with
  | error fault => simp [mapped, bind, Except.bind] at changed
  | ok map =>
      simp only [mapped, bind, Except.bind, pure, Except.pure, Except.ok.injEq] at changed
      subst changed
      exact ⟨_, rfl, .replaced left right⟩

theorem lifts_changeRight (change : Correspondence → Except Fault Correspondence) :
    Run.Lifts (SameInputs lefts rights) (Run.attempt fun progress => do
      return { progress with rightMap := ← change progress.rightMap }) := by
  refine Run.lifts_attempt ?_
  rintro here _ next ⟨left, right⟩ changed
  cases mapped : change here.rightMap with
  | error fault => simp [mapped, bind, Except.bind] at changed
  | ok map =>
      simp only [mapped, bind, Except.bind, pure, Except.pure, Except.ok.injEq] at changed
      subst changed
      exact ⟨_, rfl, .replaced left right⟩

theorem lifts_pairValues (value1 value2 dest : ValueId) :
    Run.Lifts (SameInputs lefts rights) (pairValues value1 value2 dest) := by
  have left : Run.Lifts (SameInputs lefts rights) (pairLeft value1 dest) := by
    unfold pairLeft pairOne
    split
    case isTrue => exact Run.lifts_pure ()
    case isFalse => exact lifts_changeLeft fun map => map.pairValue value1 dest
  have right : Run.Lifts (SameInputs lefts rights) (pairRight value2 dest) := by
    unfold pairRight pairOne
    split
    case isTrue => exact Run.lifts_pure ()
    case isFalse => exact lifts_changeRight fun map => map.pairValue value2 dest
  rw [pairValues_eq]
  refine left.bind fun _ => right.bind fun _ => Run.lifts_modify ?_
  rintro here _ ⟨left, right⟩
  exact .replaced left right

end Changes

/-- A left object that gets a counterpart has one, and no other one loses its own. -/
theorem Progress.copied_withPair (progress : Progress) (object1 object2 dest : ObjectId)
    {id : ObjectId} (isSome : (progress.leftMap.object? id).isSome = true) :
    ((progress.withPair object1 object2 dest).leftMap.object? id).isSome = true := by
  rw [withPair, Correspondence.object?_setObject]
  split
  · rfl
  · exact isSome

theorem Progress.mapped_withPair (progress : Progress) (object1 object2 dest : ObjectId) :
    ((progress.withPair object1 object2 dest).leftMap.object? object1).isSome = true := by
  rw [withPair, Correspondence.object?_setObject, if_pos rfl]
  rfl

theorem apart_pairObjects (object1 object2 dest : ObjectId) :
    Apart (pairObjects object1 object2 dest) where
  lifts _ _ := (lifts_changeLeft fun map => map.pairObject object1 dest).bind fun _ =>
    lifts_changeRight fun map => map.pairObject object2 dest
  untouched here := passes_pairObjects ⟨rfl, rfl, fun _ => rfl, fun _ => rfl,
    here.1.copied_withPair object1 object2 dest, Nat.le_refl _⟩

/-! ### Names -/

theorem apart_objectName (object1 object2 : ObjectId) : Apart (objectName object1 object2) := by
  unfold objectName
  split
  · exact apart_pure _
  · exact apart_draw fun supply _ _ drawn => by cases drawn; exact Nat.le_succ _

/-- At most the destination was changed, and names were drawn. -/
def OnlyDest (here there : Progress × Supply) : Prop :=
  ∃ dest now, there = ({ here.1 with dest := dest }, now) ∧ here.2.next ≤ now.next

theorem OnlyDest.trans {here middle there : Progress × Supply} (first : OnlyDest here middle)
    (second : OnlyDest middle there) : OnlyDest here there := by
  obtain ⟨dest, now, rfl, before⟩ := first
  obtain ⟨dest, now, rfl, after⟩ := second
  exact ⟨dest, now, rfl, Nat.le_trans before after⟩

theorem onlyDest_objectName (object1 object2 : ObjectId) (here : Progress × Supply) :
    Run.Passes (objectName object1 object2) here fun _ there => OnlyDest here there := by
  unfold objectName
  split
  · exact Run.ends_pure ⟨_, _, rfl, Nat.le_refl _⟩
  · exact Run.ends_of_ok (Run.draw_objectId_apply here) ⟨_, _, rfl, Nat.le_succ _⟩

theorem onlyDest_modifyDest (change : Graph → Graph) (here : Progress × Supply) :
    Run.Passes (modifyDest change) here fun _ there => OnlyDest here there :=
  Run.ends_of_ok (modifyDest_apply change here) ⟨_, _, rfl, Nat.le_refl _⟩

theorem onlyDest_attemptDest (change : Graph → Except Fault Graph) (here : Progress × Supply) :
    Run.Passes (attemptDest change) here fun _ there => OnlyDest here there :=
  passes_attemptDest fun _ _ => ⟨_, _, rfl, Nat.le_refl _⟩

theorem apart_drawValue : Apart (Run.draw Draw.valueId) :=
  apart_draw fun supply _ _ drawn => by cases drawn; exact Nat.le_succ _

theorem apart_valueName (value1 value2 : ValueId) : Apart (valueName value1 value2) := by
  unfold valueName
  split
  · exact apart_pure _
  · exact apart_drawValue

theorem apart_numberName (value1 value2 : ValueId) (number : Int) (size : Nat) :
    Apart (numberName value1 value2 number size) := by
  unfold numberName
  split
  · exact apart_pure _
  · split
    · exact apart_pure _
    · exact apart_drawValue

theorem apart_addressName (value1 value2 : ValueId) (place : Target) :
    Apart (addressName value1 value2 place) := by
  refine (apart_ask fun _ _ _ => rfl).bind fun found => ?_
  split
  case h_1 existing =>
    split
    case isTrue => exact apart_pure _
    case isFalse => exact (apart_attemptDest _).bind fun _ => apart_pure _
  case h_2 =>
    exact (apart_valueName value1 value2).bind fun _ =>
      (apart_attemptDest _).bind fun _ => apart_pure _

/-! ### Fields and foldings -/

theorem apart_foldAt (object : ObjectId) : Apart (foldAt setting object) := by
  unfold foldAt
  split
  case isTrue => exact apart_ask fun _ _ _ => rfl
  case isFalse => exact apart_pure _

theorem apart_store (field : Field) : Apart (store field) := by
  refine (apart_ask fun _ _ _ => rfl).bind fun present => ?_
  split
  case isTrue => exact apart_pure ()
  case isFalse => exact apart_attemptDest _

theorem apart_mapLevels (values objects : Level × Level) : Apart (mapLevels values objects) := by
  have changed (levels : LevelMap) :
      Apart (Run.modify fun progress => { progress with levels := levels }) := by
    refine ⟨fun _ _ => Run.lifts_modify ?_, fun here =>
      Run.ends_of_ok (Run.modify_apply _ _) { Untouched.refl here with }⟩
    rintro here _ ⟨left, right⟩
    exact .replaced left right
  refine (apart_demand fun _ _ _ => rfl).bind fun update => ?_
  exact (changed update.2).bind fun _ => apart_pure _

theorem apart_retarget (fold : Fold) (segment : ObjectId) : Apart (retarget fold segment) where
  lifts _ _ := by
    refine Run.lifts_modify ?_
    rintro here _ ⟨left, right⟩
    exact .replaced left right
  untouched here := Run.ends_of_ok (Run.modify_apply _ _)
    { Untouched.refl here with
      copied := fun isSome => by
        show (((here.1.leftMap.retarget fold.head segment).retarget fold.successor
          segment).object? _).isSome = true
        rw [object?_refold, Option.isSome_map]
        exact isSome }

theorem apart_doFolds (folds : List Fold) : Apart (doFolds folds) := by
  induction folds with
  | nil => exact apart_pure _
  | cons fold rest ih =>
      unfold doFolds
      refine (apart_onDest fold.forward_perform.passes).bind fun folded => ?_
      cases folded with
      | none => exact apart_pure _
      | some segment => exact (apart_retarget fold segment).bind fun _ => ih

end Join

end ShapeDomain
