import ShapeDomain.Proofs.Names.Invariant

/-!
# Joining values in step

Values are compared by the numbers that they are and by the places that they are addresses of.
Names are compared only to name what is made, so two joins of the same graphs under other names
decide alike.
-/

namespace ShapeDomain

/-- Objects that are no list segments are not joined into one. -/
theorem Kind.isList_of_join {kind1 kind2 kind : Kind} {status : Status}
    (noList1 : kind1.isList = false) (noList2 : kind2.isList = false)
    (joined : kind1.join kind2 = some (kind, status)) : kind.isList = false := by
  cases kind1 <;> cases kind2 <;> simp_all [Kind.join, Kind.isList, eq_comm]

namespace Join

variable {rerun : Rerun} {namings later : Namings} {here there end1 end2 : Progress × Supply}
variable {α β α' β' : Type}

/-! ### Runs in step -/

/-- Two runs keep two joins in step. -/
def Lockstep (rerun : Rerun) (namings : Namings) (first : Run Progress α) (second : Run Progress β)
    (here there : Progress × Supply) (related : Namings → α → β → Prop) : Prop :=
  Run.Agrees first second here there fun result1 end1 result2 end2 =>
    ∃ later, namings.Within later ∧ InStep rerun later end1 end2 ∧ related later result1 result2

variable {related : Namings → α → β → Prop} {relatedEnd : Namings → α' → β' → Prop}
variable {first : Run Progress α} {second : Run Progress β}

theorem lockstep_pure {result1 : α} {result2 : β} (step : InStep rerun namings here there)
    (holds : related namings result1 result2) :
    Lockstep rerun namings (pure result1) (pure result2) here there related :=
  Run.agrees_pure ⟨namings, .refl namings, step, holds⟩

theorem Lockstep.bind {next1 : α → Run Progress α'} {next2 : β → Run Progress β'}
    (start : Lockstep rerun namings first second here there related)
    (rest : ∀ result1 result2 later end1 end2, namings.Within later → InStep rerun later end1 end2 →
      related later result1 result2 →
      Lockstep rerun later (next1 result1) (next2 result2) end1 end2 relatedEnd) :
    Lockstep rerun namings (first >>= next1) (second >>= next2) here there relatedEnd := by
  refine Run.Agrees.bind start ?_
  rintro result1 end1 result2 end2 ⟨later, within, step, holds⟩
  refine (rest result1 result2 later end1 end2 within step holds).mono ?_
  rintro _ _ _ _ ⟨last, within', step', holds'⟩
  exact ⟨last, within.trans within', step', holds'⟩

/-- Runs that change nothing but the destinations keep joins in step. -/
theorem InStep.agrees_of_quiet {good1 : α → Progress × Supply → Prop}
    {good2 : β → Progress × Supply → Prop} (step : InStep rerun namings here there)
    (quiet1 : Run.Passes first here fun result end1 => Quiet here end1 ∧ good1 result end1)
    (quiet2 : Run.Passes second there fun result end2 => Quiet there end2 ∧ good2 result end2) :
    Run.Agrees first second here there fun result1 end1 result2 end2 =>
      InStep rerun namings end1 end2 ∧ good1 result1 end1 ∧ good2 result2 end2 := by
  intro result1 end1 result2 end2 done1 done2
  have ends1 := quiet1.of_eq_ok done1
  have ends2 := quiet2.of_eq_ok done2
  exact ⟨step.quiet ends1.1 ends2.1, ends1.2, ends2.2⟩

/-! ### What changes the destination only -/

/-- A run that changes nothing but the destination, of which moreover something holds. -/
abbrev Quietly (computation : Run Progress α) (here : Progress × Supply)
    (good : α → Progress × Supply → Prop) : Prop :=
  Run.Passes computation here fun result there => Quiet here there ∧ good result there

theorem Quietly.bind {next : α → Run Progress β} {good : α → Progress × Supply → Prop}
    {goodEnd : β → Progress × Supply → Prop} (start : Quietly first here good)
    (rest : ∀ result there, Quiet here there → good result there →
      Quietly (next result) there goodEnd) :
    Quietly (first >>= next) here goodEnd := by
  refine Run.Ends.bind start ?_
  rintro result there ⟨quiet, holds⟩
  exact (rest result there quiet holds).mono fun _ _ ends => ⟨quiet.trans ends.1, ends.2⟩

theorem quietly_pure {result : α} : Quietly (pure result) here fun _ _ => True :=
  Run.ends_pure ⟨.refl here, trivial⟩

theorem quietly_modifyDest {change : Graph → Graph}
    (keeps : here.1.dest.Listless → (change here.1.dest).Listless) :
    Quietly (modifyDest change) here fun _ _ => True :=
  Run.ends_of_ok (modifyDest_apply change here) ⟨⟨Nat.le_refl _, rfl, keeps⟩, trivial⟩

theorem quietly_attemptDest {change : Graph → Except Fault Graph}
    (keeps : ∀ next, change here.1.dest = .ok next → here.1.dest.Listless → next.Listless) :
    Quietly (attemptDest change) here fun _ _ => True := by
  cases done : change here.1.dest with
  | ok next =>
      exact Run.ends_of_ok (attemptDest_apply done)
        ⟨⟨Nat.le_refl _, rfl, keeps next done⟩, trivial⟩
  | error fault =>
      have stopped : attemptDest change here = .error fault here := by
        rw [attemptDest, onDest, Run.within_apply, Run.attempt_apply_error done]
      exact Run.passes_of_error stopped

theorem quietly_setValid (id : ObjectId) (valid : Bool) :
    Quietly (attemptDest fun graph => graph.setValid id valid) here fun _ _ => True :=
  quietly_attemptDest fun _ done listless =>
    listless.of_object? (Graph.object?_of_setValid _ done)

theorem quietly_valueName (value1 value2 : ValueId) :
    Quietly (valueName value1 value2) here fun _ _ => True := by
  unfold valueName
  split
  · exact quietly_pure
  · exact Run.ends_of_ok (Run.draw_valueId_apply here) ⟨.draw here, trivial⟩

theorem quietly_numberName (value1 value2 : ValueId) (number : Int) (size : Nat) :
    Quietly (numberName value1 value2 number size) here fun _ _ => True := by
  unfold numberName
  split
  · exact quietly_pure
  · split
    · exact quietly_pure
    · exact Run.ends_of_ok (Run.draw_valueId_apply here) ⟨.draw here, trivial⟩

/-- The number of a joint value is noted, unless the value is zero. -/
def noteNumber (value : ValueId) (number : Int) : Run Progress Unit :=
  if value.isZero = true then pure () else modifyDest fun graph => graph.setNumber value number

theorem noteNumber_bind (value : ValueId) (number : Int) (rest : Run Progress α) :
    (noteNumber value number >>= fun _ => rest) =
      if value.isZero = true then rest
      else modifyDest (fun graph => graph.setNumber value number) >>= fun _ => rest := by
  unfold noteNumber
  split
  · exact pure_bind _ _
  · rfl

theorem quietly_noteNumber (value : ValueId) (number : Int) :
    Quietly (noteNumber value number) here fun _ _ => True := by
  unfold noteNumber
  split
  · exact quietly_pure
  · exact quietly_modifyDest fun listless => listless.of_objects rfl

theorem quietly_addressName (value1 value2 : ValueId) (place : Target) :
    Quietly (addressName value1 value2 place) here fun _ _ => True := by
  have points {here : Progress × Supply} (value : ValueId) :
      Quietly (attemptDest fun graph => graph.addPointer ⟨value, place⟩) here fun _ _ => True :=
    quietly_attemptDest fun next done listless => by
      obtain ⟨-, -, rfl⟩ := Graph.addPointer_eq_ok_iff.1 done
      exact listless.of_objects rfl
  unfold addressName
  refine Run.ends_bind_of_ok (Run.ask_apply _ _) ?_
  split
  · split
    · exact quietly_pure
    · exact (points value1).bind fun _ _ _ _ => quietly_pure
  · exact (quietly_valueName value1 value2).bind fun value _ _ _ =>
      (points value).bind fun _ _ _ _ => quietly_pure

/-- The name of a joint object is not that of another one. -/
theorem quietly_objectName {start : Nat} {object1 object2 : ObjectId} (tidy : Tidy start here)
    (early : object1.index < start) :
    Quietly (objectName object1 object2) here fun id there =>
      Unused start there object1 object2 id := by
  unfold objectName
  split
  case isTrue same =>
    have drawn : ¬ start ≤ object1.index := Nat.not_le_of_lt early
    exact Run.ends_pure ⟨.refl here, Nat.lt_of_lt_of_le early tidy.time, fun _ => ⟨rfl, same⟩,
      fun late => absurd late drawn, fun late => absurd late drawn⟩
  case isFalse =>
    refine Run.ends_of_ok (Run.draw_objectId_apply here) ⟨.draw here, Nat.lt_succ_self _,
      fun shared => absurd tidy.time (Nat.not_le_of_lt shared), fun _ source mapped => ?_,
      fun _ source mapped => ?_⟩
    · exact Nat.lt_irrefl _ (tidy.leftObjects mapped).1
    · exact Nat.lt_irrefl _ (tidy.rightObjects mapped).1

/-- A name that is free stays so. -/
theorem Quietly.unused {start : Nat} {object1 object2 id : ObjectId}
    (quietly : Quietly first here fun _ _ => True) (unused : Unused start here object1 object2 id) :
    Quietly first here fun _ there => Unused start there object1 object2 id :=
  Run.Passes.mono quietly fun _ _ ends => ⟨ends.1, unused.quiet ends.1⟩

/-! ### Pairs -/

namespace InStep

variable {value1 value1' value2 value2' : ValueId} {object1 object2 id id' : ObjectId}

theorem lower (step : InStep rerun namings here there) (status : Status) :
    Run.Agrees (Join.lower status) (Join.lower status) here there fun _ end1 _ end2 =>
      InStep rerun namings end1 end2 := by
  refine Run.agrees_of_ok (lower_apply status here) (lower_apply status there) ?_
  rw [step.status]
  exact step.withStatus _

theorem pairObjects (step : InStep rerun namings here there)
    (unused : Unused rerun.start here object1 object2 id)
    (unused' : Unused rerun.start' there (rerun.leftNames.object object1)
      (rerun.rightNames.object object2) id') :
    Run.Agrees (Join.pairObjects object1 object2 id)
      (Join.pairObjects (rerun.leftNames.object object1) (rerun.rightNames.object object2) id')
      here there fun _ end1 _ end2 => InStep rerun namings end1 end2 := by
  by_cases allowed1 : Allows here.1.leftMap.object? object1 id ∧
      Allows here.1.rightMap.object? object2 id
  · by_cases allowed2 : Allows there.1.leftMap.object? (rerun.leftNames.object object1) id' ∧
        Allows there.1.rightMap.object? (rerun.rightNames.object object2) id'
    · exact Run.agrees_of_ok (pairObjects_ok allowed1.1 allowed1.2)
        (pairObjects_ok allowed2.1 allowed2.2) (step.withPair unused unused')
    · obtain ⟨fault, last, stopped⟩ := pairObjects_error allowed2
      exact Run.agrees_of_error_right stopped
  · obtain ⟨fault, last, stopped⟩ := pairObjects_error allowed1
    exact Run.agrees_of_error stopped

theorem pairValues (step : InStep rerun namings here there)
    (linked1 : namings.left value1 value1') (linked2 : namings.right value2 value2')
    (dest dest' : ValueId) :
    Run.Agrees (Join.pairValues value1 value2 dest) (Join.pairValues value1' value2' dest')
      here there fun _ end1 _ end2 => InStep rerun namings end1 end2 := by
  by_cases allowed1 : AllowsValue here.1.leftMap value1 dest ∧
      AllowsValue here.1.rightMap value2 dest
  · by_cases allowed2 : AllowsValue there.1.leftMap value1' dest' ∧
        AllowsValue there.1.rightMap value2' dest'
    · exact Run.agrees_of_ok (pairValues_ok allowed1.1 allowed1.2)
        (pairValues_ok allowed2.1 allowed2.2) (step.withJoint linked1 linked2 dest dest')
    · obtain ⟨fault, last, stopped⟩ := pairValues_error allowed2
      exact Run.agrees_of_error_right stopped
  · obtain ⟨fault, last, stopped⟩ := pairValues_error allowed1
    exact Run.agrees_of_error stopped

end InStep

/-! ### Numbers -/

/-- Two outcomes of joining values are the same, up to the name of the joint value.  Nothing is to
be folded, and no list segment might still help. -/
inductive SameJoin : ValueJoin → ValueJoin → Prop where
  /-- Both pairs have a joint value. -/
  | joined (value value' : ValueId) : SameJoin (.joined value none) (.joined value' none)
  /-- None has. -/
  | undefined : SameJoin (.undefined false) (.undefined false)

/-- Without levels it does not matter to the status whether two unknown values share their name. -/
theorem numberStatus_zero (shared shared' : Bool) (number1 number2 : Option Int) :
    numberStatus shared' 0 number1 number2 = numberStatus shared 0 number1 number2 := by
  cases number1 <;> cases number2 <;> cases shared <;> cases shared' <;> rfl

variable {value1 value1' value2 value2' : ValueId}

theorem joinNumbers_lockstep (step : InStep rerun namings here there)
    (linked1 : namings.left value1 value1') (linked2 : namings.right value2 value2') (size : Nat) :
    Lockstep rerun namings (joinNumbers value1 value2 size 0) (joinNumbers value1' value2' size 0)
      here there fun _ => SameJoin := by
  have number1 : there.1.left.number? value1' = here.1.left.number? value1 :=
    step.sides.left.number? linked1
  have number2 : there.1.right.number? value2' = here.1.right.number? value2 :=
    step.sides.right.number? linked2
  unfold joinNumbers
  refine Run.agrees_bind_of_ok (Run.state_apply _) (Run.state_apply _) ?_
  simp only [number1, number2]
  split
  case h_1 a b _ _ =>
    split
    case isFalse => exact lockstep_pure step .undefined
    case isTrue =>
      refine Run.Agrees.bind (step.agrees_of_quiet (quietly_numberName value1 value2 a size)
        (quietly_numberName value1' value2' a size)) ?_
      rintro dest end1 dest' end2 ⟨step, -, -⟩
      rw [← noteNumber_bind, ← noteNumber_bind]
      refine Run.Agrees.bind (step.agrees_of_quiet (quietly_noteNumber dest a)
        (quietly_noteNumber dest' a)) ?_
      rintro _ end1 _ end2 ⟨step, -, -⟩
      refine Run.Agrees.bind (step.pairValues linked1 linked2 dest dest') ?_
      exact fun _ end1 _ end2 step => lockstep_pure step (.joined dest dest')
  case h_2 =>
    refine Run.Agrees.bind (step.agrees_of_quiet (quietly_valueName value1 value2)
      (quietly_valueName value1' value2')) ?_
    rintro dest end1 dest' end2 ⟨step, -, -⟩
    refine Run.Agrees.bind (step.pairValues linked1 linked2 dest dest') ?_
    intro _ end1 _ end2 step
    rw [numberStatus_zero (value1 == value2) (value1' == value2')]
    refine Run.Agrees.bind (step.lower _) ?_
    exact fun _ end1 _ end2 step => lockstep_pure step (.joined dest dest')

end Join

end ShapeDomain
