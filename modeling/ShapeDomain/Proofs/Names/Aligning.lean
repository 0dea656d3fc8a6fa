import ShapeDomain.Options
import ShapeDomain.Proofs.Join.Alignment
import ShapeDomain.Proofs.Names.Sides

/-!
# Aligning in step

A graph and a renamed one are cut at the same places and filled in the same gaps, and so are both
graphs of a join.
-/

namespace ShapeDomain

namespace Join

/-! ### One graph -/

section Abreast

variable {origin : Graph} {names : Renaming} {naming : Naming} {here there : Graph × Supply}
variable {α β α' β' : Type}

/-- A graph and the renamed one at the ends of two runs, where more values may be linked. -/
structure Onto (origin : Graph) (names : Renaming) (naming later : Naming)
    (here there end1 end2 : Graph × Supply) : Prop where
  /-- The supply of the first run moves on. -/
  time : here.2.next ≤ end1.2.next
  /-- So does that of the second run. -/
  time' : there.2.next ≤ end2.2.next
  /-- What was linked is linked. -/
  grows : naming.Extends here.2.next there.2.next later
  /-- The graphs are in step. -/
  side : Side origin names later end1.2.next end2.2.next end1.1 end2.1

/-- Two runs keep a graph and the renamed one in step. -/
def Abreast (origin : Graph) (names : Renaming) (naming : Naming) (first : Run Graph α)
    (second : Run Graph β) (here there : Graph × Supply) (related : Naming → α → β → Prop) : Prop :=
  Run.Agrees first second here there fun result1 end1 result2 end2 =>
    ∃ later, Onto origin names naming later here there end1 end2 ∧ related later result1 result2

variable {related : Naming → α → β → Prop} {relatedEnd : Naming → α' → β' → Prop}
variable {first : Run Graph α} {second : Run Graph β}

theorem Onto.refl (side : Side origin names naming here.2.next there.2.next here.1 there.1) :
    Onto origin names naming naming here there here there :=
  ⟨Nat.le_refl _, Nat.le_refl _, .refl _ _ _, side⟩

theorem Onto.trans {later last : Naming} {end1 end2 final1 final2 : Graph × Supply}
    (first : Onto origin names naming later here there end1 end2)
    (second : Onto origin names later last end1 end2 final1 final2) :
    Onto origin names naming last here there final1 final2 where
  time := Nat.le_trans first.time second.time
  time' := Nat.le_trans first.time' second.time'
  grows := first.grows.trans first.time first.time' second.grows
  side := second.side

theorem abreast_pure {result1 : α} {result2 : β}
    (side : Side origin names naming here.2.next there.2.next here.1 there.1)
    (holds : related naming result1 result2) :
    Abreast origin names naming (pure result1) (pure result2) here there related :=
  Run.agrees_pure ⟨naming, .refl side, holds⟩

theorem Abreast.bind {next1 : α → Run Graph α'} {next2 : β → Run Graph β'}
    (start : Abreast origin names naming first second here there related)
    (rest : ∀ result1 result2 later end1 end2, Onto origin names naming later here there end1 end2 →
      related later result1 result2 →
      Abreast origin names later (next1 result1) (next2 result2) end1 end2 relatedEnd) :
    Abreast origin names naming (first >>= next1) (second >>= next2) here there relatedEnd := by
  refine Run.Agrees.bind start ?_
  rintro result1 end1 result2 end2 ⟨later, onto, holds⟩
  refine (rest result1 result2 later end1 end2 onto holds).mono ?_
  rintro _ _ _ _ ⟨last, onto', holds'⟩
  exact ⟨last, onto.trans onto', holds'⟩

/-- Loops over matching lists keep the graphs in step, if each step does. -/
theorem abreast_forM {ε ε' : Type} {alike : ε → ε' → Prop} {step : ε → Run Graph PUnit}
    {step' : ε' → Run Graph PUnit} {list : List ε} {list' : List ε'}
    (side : Side origin names naming here.2.next there.2.next here.1 there.1)
    (all : List.Forall₂ alike list list')
    (keeps : ∀ later item item' here there, alike item item' →
      Side origin names later here.2.next there.2.next here.1 there.1 →
      Abreast origin names later (step item) (step' item') here there fun _ _ _ => True) :
    Abreast origin names naming (list.forM step) (list'.forM step') here there
      fun _ _ _ => True := by
  refine (Run.agrees_forM
    (fun end1 end2 => ∃ later, Onto origin names naming later here there end1 end2)
    all ⟨naming, .refl side⟩ ?_).mono fun _ _ _ _ ⟨later, onto⟩ => ⟨later, onto, trivial⟩
  rintro item item' same end1 end2 ⟨later, onto⟩
  refine (keeps later item item' end1 end2 same onto.side).mono ?_
  rintro _ _ _ _ ⟨last, onto', -⟩
  exact ⟨last, onto.trans onto'⟩

variable (side : Side origin names naming here.2.next there.2.next here.1 there.1)

include side

theorem fillValue_abreast (zeroed : Bool) :
    Abreast origin names naming (Alignment.fillValue zeroed) (Alignment.fillValue zeroed) here there
      fun later value value' => later value value' := by
  cases zeroed with
  | true => exact abreast_pure side side.zero
  | false =>
      refine Run.agrees_of_ok (Alignment.newValue_apply _ _) (Alignment.newValue_apply _ _)
        ⟨_, ⟨Nat.le_succ _, Nat.le_succ _, ⟨.inl, ?_⟩, side.draw⟩, .inr ⟨rfl, rfl⟩⟩
      rintro value value' (linked | ⟨rfl, rfl⟩)
      · exact .inl linked
      · exact .inr ⟨Nat.le_refl _, Nat.le_refl _⟩

theorem fill_abreast (object : ObjectId) (zeroed : Bool) (range : BitRange) :
    Abreast origin names naming (Alignment.fill object zeroed range)
      (Alignment.fill (names.object object) zeroed range) here there fun _ _ _ => True := by
  refine (fillValue_abreast side zeroed).bind fun value value' later end1 end2 onto linked => ?_
  refine Run.agrees_attempt fun next1 next2 done1 done2 => ⟨later, ?_, trivial⟩
  have same : SameField names later ⟨object, range, value⟩ ⟨names.object object, range, value'⟩ :=
    ⟨rfl, rfl, linked⟩
  exact { Onto.refl onto.side with side := onto.side.addField same done1 done2 }

theorem fillMissing_abreast (object : ObjectId) (zeroed : Bool) (range : BitRange) :
    Abreast origin names naming (Alignment.fillMissing object zeroed range)
      (Alignment.fillMissing (names.object object) zeroed range) here there fun _ _ _ => True := by
  refine Run.agrees_bind_of_ok (Run.ask_apply _ _) (Run.ask_apply _ _) ?_
  have present : (there.1.valueAt? (names.object object) range).isSome =
      (here.1.valueAt? object range).isSome := by
    rcases side.valueAt?_cases object range with ⟨none, none'⟩ | ⟨_, _, held, held', -⟩
    · rw [none, none']
    · rw [held, held']
      rfl
  rw [present]
  split
  · exact abreast_pure side trivial
  · exact fill_abreast side object zeroed range

/-- Missing ranges are added in step. -/
theorem addMissing_abreast (object : ObjectId) {fields fields' : List Field}
    (same : List.Forall₂ (fun field field' => field'.range = field.range) fields fields') :
    Abreast origin names naming (Alignment.addMissing object fields)
      (Alignment.addMissing (names.object object) fields') here there fun _ _ _ => True := by
  intro result1 end1 result2 end2 done1 done2
  rw [Alignment.addMissing_apply] at done1 done2
  rw [side.isValid] at done2
  refine abreast_forM side same ?_ _ _ _ _ done1 done2
  intro later field field' here' there' same side'
  rw [same]
  exact fillMissing_abreast side' object _ field.range

/-- A field is split in step. -/
theorem cutField_abreast (cuts : KeySet Nat) {field field' : Field}
    (same : SameField names naming field field') :
    Abreast origin names naming (Alignment.cutField cuts field) (Alignment.cutField cuts field')
      here there fun _ lost lost' => lost' = lost := by
  unfold Alignment.cutField
  rw [same.range]
  by_cases empty : field.range.stop ≤ field.range.offset
  · rw [if_pos empty]
    exact Run.agrees_of_error (Run.bind_apply_error (Run.throw_apply _ _))
  rw [if_neg empty, if_neg empty]
  by_cases whole : (Alignment.inside cuts field.range).isEmpty = true
  · rw [if_pos whole, if_pos whole]
    exact abreast_pure side rfl
  rw [if_neg whole, if_neg whole]
  refine Run.agrees_bind_of_ok (Run.modify_apply _ _) (Run.modify_apply _ _) ?_
  have zeroed := side.isZero same.value
  have filled : Abreast origin names naming
      ((Alignment.pieces cuts field.range).forM (Alignment.fill field.object field.value.isZero))
      ((Alignment.pieces cuts field.range).forM (Alignment.fill field'.object field'.value.isZero))
      (here.1.removeField field, here.2) (there.1.removeField field', there.2)
      fun _ _ _ => True := by
    refine abreast_forM (side.removeField same)
      (List.forall₂_same.2 fun piece _ => Eq.refl piece) ?_
    rintro later piece _ here' there' rfl side'
    rw [same.object, zeroed]
    exact fill_abreast side' field.object field.value.isZero piece
  refine Run.Agrees.bind filled ?_
  rintro _ end1 _ end2 ⟨later, onto, -⟩
  exact Run.agrees_pure
    ⟨later, ⟨onto.time, onto.time', onto.grows, onto.side⟩, congrArg not zeroed⟩

omit side in
/-- The fields of an object are split in step. -/
theorem cutFields_abreast (cuts : KeySet Nat) {fields fields' : List Field}
    (same : List.Forall₂ (SameField names naming) fields fields')
    (side : Side origin names naming here.2.next there.2.next here.1 there.1) :
    Abreast origin names naming (Alignment.cutFields cuts fields) (Alignment.cutFields cuts fields')
      here there fun _ lost lost' => lost' = lost := by
  induction fields generalizing naming here there fields' with
  | nil =>
      cases same
      exact abreast_pure side rfl
  | cons field rest ih =>
      cases same with
      | cons same all =>
          unfold Alignment.cutFields
          refine (cutField_abreast side cuts same).bind ?_
          rintro lost _ later end1 end2 onto rfl
          have all' := List.Forall₂.imp (fun _ _ same => same.mono onto.grows.keeps) all
          refine (ih all' onto.side).bind ?_
          rintro lostLater _ last final1 final2 onto' rfl
          exact abreast_pure onto'.side rfl

end Abreast

/-! ### Both graphs of a join -/

/-- Two plain graphs that are joined, and the names under which they are joined once more. -/
structure Rerun where
  /-- The left graph. -/
  left : Graph
  /-- The right graph. -/
  right : Graph
  /-- The names of the left graph in the second join. -/
  leftNames : Renaming
  /-- Those of the right graph. -/
  rightNames : Renaming
  /-- How the graphs are joined. -/
  options : Options
  /-- Where the supply of the first join stands. -/
  start : Nat
  /-- Where that of the second join stands. -/
  start' : Nat
  /-- The left graph is plain. -/
  leftPlain : left.Plain start
  /-- So is the right graph. -/
  rightPlain : right.Plain start
  /-- So is the left graph of the second join. -/
  leftPlain' : (left.rename leftNames).Plain start'
  /-- So is its right graph. -/
  rightPlain' : (right.rename rightNames).Plain start'
  /-- No list nodes are folded. -/
  still : options.foldLists = false

/-- A naming for each side. -/
structure Namings where
  /-- The naming of values of the left graph. -/
  left : Naming
  /-- Namings of values of the right graphs. -/
  right : Naming

/-- More values are linked on both sides. -/
structure Namings.Extends (namings : Namings) (now now' : Nat) (later : Namings) : Prop where
  /-- On the left side. -/
  left : namings.left.Extends now now' later.left
  /-- On the right side. -/
  right : namings.right.Extends now now' later.right

/-- Both graphs of two joins are in step. -/
structure Sides (rerun : Rerun) (namings : Namings)
    (here there : (Graph × Graph) × Supply) : Prop where
  /-- The left graphs are. -/
  left : Side rerun.left rerun.leftNames namings.left here.2.next there.2.next here.1.1 there.1.1
  /-- The right graphs are. -/
  right : Side rerun.right
    rerun.rightNames namings.right here.2.next there.2.next here.1.2 there.1.2

/-- Both graphs of two joins at the ends of two runs, where more values may be linked. -/
structure SidesOnto (rerun : Rerun) (namings later : Namings)
    (here there end1 end2 : (Graph × Graph) × Supply) : Prop where
  /-- The supply of the first run moves on. -/
  time : here.2.next ≤ end1.2.next
  /-- So does that of the second run. -/
  time' : there.2.next ≤ end2.2.next
  /-- What was linked is linked. -/
  grows : namings.Extends here.2.next there.2.next later
  /-- The graphs are in step. -/
  sides : Sides rerun later end1 end2

namespace SidesOnto

variable {rerun : Rerun} {namings later last : Namings}
variable {here there end1 end2 final1 final2 : (Graph × Graph) × Supply}

theorem trans (first : SidesOnto rerun namings later here there end1 end2)
    (second : SidesOnto rerun later last end1 end2 final1 final2) :
    SidesOnto rerun namings last here there final1 final2 where
  time := Nat.le_trans first.time second.time
  time' := Nat.le_trans first.time' second.time'
  grows := ⟨first.grows.left.trans first.time first.time' second.grows.left,
    first.grows.right.trans first.time first.time' second.grows.right⟩
  sides := second.sides

end SidesOnto

section Align

variable {rerun : Rerun} {namings : Namings} {here there : (Graph × Graph) × Supply} {α β : Type}
variable {related : Naming → α → β → Prop} {first : Run Graph α} {second : Run Graph β}

theorem SidesOnto.refl (sides : Sides rerun namings here there) :
    SidesOnto rerun namings namings here there here there :=
  ⟨Nat.le_refl _, Nat.le_refl _, ⟨.refl _ _ _, .refl _ _ _⟩, sides⟩

/-- What keeps the left graphs in step does not touch the right ones. -/
theorem Abreast.onLeft (sides : Sides rerun namings here there)
    (abreast : Abreast rerun.left rerun.leftNames namings.left first second (here.1.1, here.2)
      (there.1.1, there.2) related) :
    Run.Agrees (Alignment.onLeft first) (Alignment.onLeft second) here there
      fun result1 end1 result2 end2 => ∃ later : Namings,
        SidesOnto rerun namings later here there end1 end2 ∧
          related later.left result1 result2 := by
  refine Run.Agrees.within abreast ?_
  rintro result1 end1 result2 end2 ⟨later, onto, holds⟩
  exact ⟨⟨later, namings.right⟩, ⟨onto.time, onto.time', ⟨onto.grows, .refl _ _ _⟩,
    onto.side, sides.right.later onto.time onto.time'⟩, holds⟩

/-- What keeps the right graphs in step does not touch the left ones. -/
theorem Abreast.onRight (sides : Sides rerun namings here there)
    (abreast : Abreast rerun.right rerun.rightNames namings.right first second (here.1.2, here.2)
      (there.1.2, there.2) related) :
    Run.Agrees (Alignment.onRight first) (Alignment.onRight second) here there
      fun result1 end1 result2 end2 => ∃ later : Namings,
        SidesOnto rerun namings later here there end1 end2 ∧
          related later.right result1 result2 := by
  refine Run.Agrees.within abreast ?_
  rintro result1 end1 result2 end2 ⟨later, onto, holds⟩
  exact ⟨⟨namings.left, later⟩, ⟨onto.time, onto.time', ⟨.refl _ _ _, onto.grows⟩,
    sides.left.later onto.time onto.time', onto.side⟩, holds⟩

/-- Boundaries depend on ranges alone. -/
theorem boundaries_eq {names1 names2 : Renaming} {naming1 naming2 : Naming}
    {fields1 fields1' fields2 fields2' : List Field}
    (same1 : List.Forall₂ (SameField names1 naming1) fields1 fields1')
    (same2 : List.Forall₂ (SameField names2 naming2) fields2 fields2') :
    Alignment.boundaries (fields1' ++ fields2') = Alignment.boundaries (fields1 ++ fields2) := by
  have ends {names : Renaming} {naming : Naming} {fields fields' : List Field}
      (same : List.Forall₂ (SameField names naming) fields fields') :
      (fields'.flatMap fun field => [field.range.offset, field.range.stop]) =
        fields.flatMap fun field => [field.range.offset, field.range.stop] := by
    induction same with
    | nil => rfl
    | cons same _ ih => rw [List.flatMap_cons, List.flatMap_cons, ih, same.range]
  simp only [Alignment.boundaries, List.flatMap_append, ends same1, ends same2]

/-- Layouts are aligned in step. -/
theorem align_agrees (sides : Sides rerun namings here there) (object1 object2 : ObjectId) :
    Run.Agrees (Alignment.align object1 object2)
      (Alignment.align (rerun.leftNames.object object1)
        (rerun.rightNames.object object2)) here there
      fun status end1 status' end2 => ∃ later, SidesOnto rerun namings later here there end1 end2 ∧
        status' = status := by
  unfold Alignment.align
  refine Run.agrees_demand fun source1 source1' given1 given1' => ?_
  refine Run.agrees_demand fun source2 source2' given2 given2' => ?_
  obtain rfl := sides.left.object_eq given1 given1'
  obtain rfl := sides.right.object_eq given2 given2'
  split
  case isTrue => exact Run.agrees_pure ⟨namings, .refl sides, rfl⟩
  case isFalse =>
    refine Run.agrees_bind_of_ok (Run.ask_apply _ _) (Run.ask_apply _ _) ?_
    refine Run.agrees_bind_of_ok (Run.ask_apply _ _) (Run.ask_apply _ _) ?_
    have fields1 := sides.left.fieldsOf object1
    have fields2 := sides.right.fieldsOf object2
    rw [boundaries_eq fields1 fields2]
    generalize Alignment.boundaries (here.1.1.fieldsOf object1 ++ here.1.2.fieldsOf object2) = cuts
    refine Run.Agrees.bind ((cutFields_abreast cuts fields1 sides.left).onLeft sides) ?_
    rintro lost1 end1 _ end1' ⟨namings1, onto1, rfl⟩
    have fields2' := List.Forall₂.imp (fun _ _ same => same.mono onto1.grows.right.keeps) fields2
    refine Run.Agrees.bind
      ((cutFields_abreast cuts fields2' onto1.sides.right).onRight onto1.sides) ?_
    rintro lost2 end2 _ end2' ⟨namings2, onto2, rfl⟩
    refine Run.agrees_bind_of_ok (Run.ask_apply _ _) (Run.ask_apply _ _) ?_
    have split2 := List.Forall₂.imp (fun _ _ same => SameField.range same)
      (onto2.sides.right.fieldsOf object2)
    refine Run.Agrees.bind
      ((addMissing_abreast onto2.sides.left object1 split2).onLeft onto2.sides) ?_
    rintro _ end3 _ end3' ⟨namings3, onto3, -⟩
    refine Run.agrees_bind_of_ok (Run.ask_apply _ _) (Run.ask_apply _ _) ?_
    have filled1 := List.Forall₂.imp (fun _ _ same => SameField.range same)
      (onto3.sides.left.fieldsOf object1)
    refine Run.Agrees.bind
      ((addMissing_abreast onto3.sides.right object2 filled1).onRight onto3.sides) ?_
    rintro _ end4 _ end4' ⟨namings4, onto4, -⟩
    exact Run.agrees_pure
      ⟨namings4, ((onto1.trans onto2).trans onto3).trans onto4, rfl⟩

end Align

end Join

end ShapeDomain
