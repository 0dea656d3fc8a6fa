import ShapeDomain.Proofs.Join.Laying

/-!
# What aligning keeps

All that aligning does to a graph is removing fields and adding ones that hold zero or a new value.
So what these two changes keep, aligning keeps, wherever it goes through.
-/

namespace ShapeDomain

namespace Alignment

/-- What stays true of a graph and of the supply while fields are removed, and while zero and new
values are put into fields. -/
structure Keeps (kept : Graph × Supply → Prop) : Prop where
  /-- Names are drawn for another graph. -/
  later : ∀ {graph supply now}, kept (graph, supply) → supply.next ≤ now.next → kept (graph, now)
  /-- A field is removed. -/
  removeField : ∀ {graph supply}, kept (graph, supply) → ∀ field,
    kept (graph.removeField field, supply)
  /-- Zero is put into a field. -/
  addZero : ∀ {graph supply next object range}, kept (graph, supply) →
    graph.addField ⟨object, range, .zero⟩ = .ok next → kept (next, supply)
  /-- A new value is put into a field. -/
  addNew : ∀ {graph supply next object range}, kept (graph, supply) →
    (graph.addValue ⟨supply.next⟩).addField ⟨object, range, ⟨supply.next⟩⟩ = .ok next →
    kept (next, ⟨supply.next + 1⟩)

/-- That a graph differs in its layouts only. -/
theorem keeps_relaid (origin : Graph) : Keeps fun here => origin.Relaid here.1 where
  later relaid _ := relaid
  removeField relaid field := relaid.removeField field
  addZero relaid added := relaid.addField added
  addNew relaid added := (relaid.addValue _).addField added

namespace Keeps

variable {kept : Graph × Supply → Prop} {here : Graph × Supply} {object : ObjectId}
variable {cuts : KeySet Nat}

/-- And that names are drawn from some position on. -/
theorem timed (keeps : Keeps kept) (start : Nat) :
    Keeps fun here => kept here ∧ start ≤ here.2.next where
  later both after := ⟨keeps.later both.1 after, Nat.le_trans both.2 after⟩
  removeField both field := ⟨keeps.removeField both.1 field, both.2⟩
  addZero both added := ⟨keeps.addZero both.1 added, both.2⟩
  addNew both added := ⟨keeps.addNew both.1 added, Nat.le_succ_of_le both.2⟩

variable (keeps : Keeps kept)

include keeps

theorem fill (holds : kept here) (zeroed : Bool) (range : BitRange) :
    Run.Passes (Alignment.fill object zeroed range) here fun _ there => kept there := by
  unfold Alignment.fill fillValue
  cases zeroed with
  | true =>
      exact Run.ends_bind_of_ok (Run.pure_apply _ _)
        (Run.passes_attempt fun _ added => keeps.addZero holds added)
  | false =>
      exact Run.ends_bind_of_ok (newValue_apply _ _)
        (Run.passes_attempt fun _ added => keeps.addNew holds added)

theorem cutField (holds : kept here) (field : Field) :
    Run.Passes (Alignment.cutField cuts field) here fun _ there => kept there := by
  unfold Alignment.cutField
  by_cases empty : field.range.stop ≤ field.range.offset
  case pos =>
    rw [if_pos empty]
    exact Run.passes_of_error (Run.bind_apply_error (Run.throw_apply _ _))
  case neg =>
    rw [if_neg empty]
    split
    case isTrue => exact Run.ends_pure holds
    case isFalse =>
      refine Run.ends_bind_of_ok (Run.modify_apply _ _) ?_
      refine Run.Ends.bind (Run.ends_forM kept (keeps.removeField holds field)
        fun piece _ _ holds => keeps.fill holds field.value.isZero piece) fun _ _ holds => ?_
      exact Run.ends_pure holds

theorem cutFields (holds : kept here) (fields : List Field) :
    Run.Passes (Alignment.cutFields cuts fields) here fun _ there => kept there := by
  induction fields generalizing here with
  | nil => exact Run.ends_pure holds
  | cons field rest ih =>
      unfold Alignment.cutFields
      refine (keeps.cutField holds field).bind fun _ _ holds => ?_
      exact (ih holds).bind fun _ _ holds => Run.ends_pure holds

theorem addMissing (holds : kept here) (fields : List Field) :
    Run.Passes (Alignment.addMissing object fields) here fun _ there => kept there := by
  unfold Run.Passes Run.Ends
  rw [addMissing_apply]
  refine Run.ends_forM kept holds fun field _ there holds => ?_
  unfold fillMissing
  refine Run.ends_bind_of_ok (Run.ask_apply _ _) ?_
  split
  · exact Run.ends_pure holds
  · exact keeps.fill holds _ _

end Keeps

/-- What is kept of the left graph and what is kept of the right one, aligning keeps. -/
theorem passes_align {keptLeft keptRight : Graph × Supply → Prop} (left : Keeps keptLeft)
    (right : Keeps keptRight) {here : (Graph × Graph) × Supply}
    (holdsLeft : keptLeft (here.1.1, here.2)) (holdsRight : keptRight (here.1.2, here.2))
    (object1 object2 : ObjectId) :
    Run.Passes (align object1 object2) here fun _ there =>
      keptLeft (there.1.1, there.2) ∧ keptRight (there.1.2, there.2) := by
  have onLeft {α : Type} {computation : Run Graph α} {here : (Graph × Graph) × Supply}
      (holdsRight : keptRight (here.1.2, here.2))
      (passes : Run.Passes computation (here.1.1, here.2) fun _ there =>
        keptLeft there ∧ here.2.next ≤ there.2.next) :
      Run.Passes (Alignment.onLeft computation) here fun _ there =>
        keptLeft (there.1.1, there.2) ∧ keptRight (there.1.2, there.2) :=
    Run.Ends.within passes (fun _ _ both => ⟨both.1, right.later holdsRight both.2⟩)
      fun _ _ bad => bad
  have onRight {α : Type} {computation : Run Graph α} {here : (Graph × Graph) × Supply}
      (holdsLeft : keptLeft (here.1.1, here.2))
      (passes : Run.Passes computation (here.1.2, here.2) fun _ there =>
        keptRight there ∧ here.2.next ≤ there.2.next) :
      Run.Passes (Alignment.onRight computation) here fun _ there =>
        keptLeft (there.1.1, there.2) ∧ keptRight (there.1.2, there.2) :=
    Run.Ends.within passes (fun _ _ both => ⟨left.later holdsLeft both.2, both.1⟩)
      fun _ _ bad => bad
  unfold align
  refine Run.passes_demand fun source1 _ => Run.passes_demand fun source2 _ => ?_
  split
  case isTrue => exact Run.ends_pure ⟨holdsLeft, holdsRight⟩
  case isFalse =>
    refine Run.ends_bind_of_ok (Run.ask_apply _ _) (Run.ends_bind_of_ok (Run.ask_apply _ _) ?_)
    refine (onLeft holdsRight ((left.timed _).cutFields ⟨holdsLeft, Nat.le_refl _⟩ _)).bind
      fun _ _ both => ?_
    refine (onRight both.1 ((right.timed _).cutFields ⟨both.2, Nat.le_refl _⟩ _)).bind
      fun _ _ both => ?_
    refine Run.ends_bind_of_ok (Run.ask_apply _ _) ?_
    refine (onLeft both.2 ((left.timed _).addMissing ⟨both.1, Nat.le_refl _⟩ _)).bind
      fun _ _ both => ?_
    refine Run.ends_bind_of_ok (Run.ask_apply _ _) ?_
    refine (onRight both.1 ((right.timed _).addMissing ⟨both.2, Nat.le_refl _⟩ _)).bind
      fun _ _ both => ?_
    exact Run.ends_pure both

end Alignment

end ShapeDomain
