import ShapeDomain.Proofs.Reflexive.Values

/-!
# An object joined with itself

An object that has been put into the destination gets its fields there: each value is joined with
itself, and the field is stored unless it is there already.  By induction on how deep the join may
go, so do all objects that it leads to.
-/

namespace ShapeDomain

namespace Join

variable {origin : Graph} {waiting : List ObjectId} {here : Progress × Supply} {start depth : Nat}
variable {id : ObjectId} {field : Field} {setting : Setting} {descend : Descend} {source : Object}
variable {levelDiff : Int} {holderLevel : Level}

namespace Copying

/-! ### Fields -/

/-- The place of a field of a copied object is free until it is stored. -/
theorem vacant (copying : Copying origin waiting here.1) (sound : origin.Sound)
    (copied : here.1.Copied id) (member : field ∈ origin.fieldsOf id)
    (absent : here.1.dest.valueAt? id field.range = none) :
    here.1.dest.Vacant id field.range := by
  have held := (Graph.mem_fieldsOf_iff.1 member).2
  obtain ⟨found, isObject, fits⟩ := sound.tiled.fits held
  refine ⟨sound.tiled.positive held, ⟨found, ?_, fits⟩, fun {other value} there => ?_⟩
  · rw [copying.object?_eq sound (.inr copied), isObject]
  · rcases sound.tiled.apart (copying.held there).2 held with same | apart
    · rw [same, absent] at there
      simp at there
    · exact apart

/-- A field of a copied object is stored, when its value has been copied. -/
theorem store (copying : Copying origin waiting here.1) (sound : origin.Sound)
    (copied : here.1.Copied id) (member : field ∈ origin.fieldsOf id)
    (value : field.value = .zero ∨ here.1.CopiedValue field.value) :
    Copies origin waiting (Join.store ⟨id, field.range, field.value⟩) here fun _ there =>
      Grows here.1 there ∧ there.dest.valueAt? id field.range = some field.value ∧
        (field.value = .zero ∨ there.CopiedValue field.value) := by
  have held := (Graph.mem_fieldsOf_iff.1 member).2
  unfold Join.store
  refine Run.ends_bind_of_ok (Run.ask_apply _ _) ?_
  dsimp only
  cases stored : here.1.dest.valueAt? id field.range with
  | some other =>
      obtain rfl : other = field.value :=
        Option.some.inj ((copying.held stored).2.symm.trans held)
      rw [if_pos rfl]
      exact Run.ends_pure ⟨rfl, copying, .refl _, stored, value⟩
  | none =>
      have vacant := copying.vacant sound copied member stored
      let part : Field := ⟨id, field.range, field.value⟩
      have added : attemptDest (fun graph => graph.addField part) here =
          .ok () ({ here.1 with dest := here.1.dest.putField part }, here.2) :=
        attemptDest_apply (Graph.addField_of_vacant vacant)
      have holds := copying.sound.tiled.valueAt?_putField part vacant
      have known : here.1.dest.addValue field.value = here.1.dest := by
        have bound : here.1.dest.values.get? field.value =
            some (here.1.dest.knowledge field.value) := by
          rcases value with zero | isCopied
          · rw [zero, Graph.knowledge, copying.zero]
            rfl
          · rw [Graph.knowledge, copying.values _ (copying.properValue isCopied), if_pos isCopied]
            rfl
        rw [Graph.addValue, Table.insert_of_get?_eq bound]
      have values : (here.1.dest.putField part).values = here.1.dest.values := by
        show (here.1.dest.addValue field.value).values = _
        rw [known]
      rw [if_neg (by simp)]
      refine Run.ends_of_ok added
        ⟨rfl, ?_, ⟨fun old => old, fun old => old, fun old => ?_, rfl, rfl⟩, ?_, value⟩
      · exact
          { copying with
            sound := copying.sound.putField vacant
            values := fun other proper =>
              (congrArg (·.get? other) values).trans (copying.values other proper)
            zero := (congrArg (·.get? .zero) values).trans copying.zero
            held := fun {object range other} isHeld => by
              rw [holds] at isHeld
              split at isHeld
              case isTrue same =>
                obtain ⟨rfl, rfl⟩ := same
                obtain rfl := Option.some.inj isHeld
                exact ⟨copied, held⟩
              case isFalse => exact copying.held isHeld
            filled := fun {object range other} isCopied outside isHeld => by
              have full := copying.filled isCopied outside isHeld
              refine ⟨?_, full.2⟩
              rw [holds]
              split
              case isTrue same =>
                obtain ⟨rfl, rfl⟩ := same
                rw [full.1] at stored
                simp at stored
              case isFalse => exact full.1 }
      · rw [holds]
        split
        case isTrue same =>
          obtain ⟨rfl, rfl⟩ := same
          rw [old] at stored
          simp at stored
        case isFalse => exact old
      · rw [holds, if_pos ⟨rfl, rfl⟩]

variable (tame : origin.Tame start) (identical : setting.identical = true)
variable (completes : Completes origin descend depth)

include tame identical completes

/-- A field joined with itself is stored. -/
theorem joinField (copying : Copying origin waiting here.1)
    (enough : unmapped origin here.1.leftMap ≤ depth) (copied : here.1.Copied id)
    (member : field ∈ origin.fieldsOf id) :
    Copies origin waiting (Join.joinField setting descend ⟨id, id, id⟩ source source levelDiff
      holderLevel field) here fun result there => result = .stored field.value none ∧
        Grows here.1 there ∧ there.dest.valueAt? id field.range = some field.value ∧
        (field.value = .zero ∨ there.CopiedValue field.value) := by
  have held := (Graph.mem_fieldsOf_iff.1 member).2
  have kept : origin.Kept field.value := ⟨id, field.range, copying.reaches copied, held⟩
  refine copying.mirrored.joinField member (levelBelow_of_tame tame (.refl _) source field.value)
    (fun _ => copying.joinValuePair tame identical completes enough kept field.range.size) ?_
  rintro _ middle ⟨same, copying, rfl, grows, value⟩
  refine ⟨rfl, (copying.store tame.sound (grows.objects copied) member value).mono ?_
    fun _ _ bad => bad⟩
  rintro _ there ⟨same', copying, grows', stored, value⟩
  exact ⟨same'.trans same, copying, rfl, grows.trans grows', stored, value⟩

/-- All fields of an object are stored, one after the other. -/
theorem joinFields (copying : Copying origin waiting here.1)
    (enough : unmapped origin here.1.leftMap ≤ depth) (copied : here.1.Copied id)
    {fields : List Field} (within : ∀ field ∈ fields, field ∈ origin.fieldsOf id)
    (harvest : Harvest) :
    Copies origin waiting (Join.joinFields
        (Join.joinField setting descend ⟨id, id, id⟩ source source levelDiff holderLevel) fields
        harvest)
      here fun result there => result = some harvest ∧ Grows here.1 there ∧
        ∀ field ∈ fields, there.dest.valueAt? id field.range = some field.value ∧
          (field.value = .zero ∨ there.CopiedValue field.value) := by
  induction fields generalizing here with
  | nil => exact Run.ends_pure ⟨rfl, copying, rfl, .refl _, by simp⟩
  | cons field rest ih =>
      unfold Join.joinFields
      refine (copying.joinField tame identical completes enough copied
        (within field List.mem_cons_self)).bind ?_
      rintro _ middle ⟨same, copying, rfl, grows, stored, value⟩
      have left : unmapped origin middle.1.leftMap ≤ depth :=
        Nat.le_trans (unmapped_le fun _ => grows.objects) enough
      refine (ih copying left (grows.objects copied) fun other member =>
        within other (List.mem_cons_of_mem _ member)).mono ?_ fun _ _ bad => bad
      rintro _ there ⟨same', copying, rfl, grows', later⟩
      refine ⟨same'.trans same, copying, rfl, grows.trans grows', fun other member => ?_⟩
      rcases List.mem_cons.1 member with rfl | member
      · exact ⟨grows'.fields stored, value.imp_right grows'.values⟩
      · exact later other member

/-! ### Objects -/

/-- An object that waits gets its fields. -/
theorem joinContents (copying : Copying origin (id :: waiting) here.1)
    (enough : unmapped origin here.1.leftMap ≤ depth) (copied : here.1.Copied id) :
    Copies origin waiting (Join.joinContents setting descend ⟨id, id, id⟩ levelDiff) here
      fun joined there => joined = true ∧ Grows here.1 there := by
  obtain ⟨object, found⟩ := (origin.hasObject_iff).1 ((copying.reaches copied).hasObject tame.sound)
  refine copying.mirrored.joinContents tame.sound.tiled found (tame.ground found) ?_
  refine (copying.joinFields tame identical completes enough copied (fun _ member => member)
    ⟨true, ∅⟩).mono ?_ fun _ _ bad => bad
  rintro _ there ⟨same, copying, rfl, grows, stored⟩
  exact ⟨rfl, same, copying.finish fun held => stored _ (Graph.mem_fieldsOf.2 held), rfl, grows⟩

omit completes in
/-- By induction on how deep the join may go, an object that waits gets its fields, and so do all
that it leads to. -/
theorem completes_joinObjects (depth : Nat) : Completes origin
    (fun object1 object2 dest => joinObjects setting depth ⟨object1, object2, dest⟩) depth := by
  induction depth with
  | zero => exact fun _ _ _ _ few => absurd few (Nat.not_lt_zero _)
  | succ depth ih =>
      intro waiting here id levelDiff copying copied few
      show Copies origin waiting (joinObjectsWith setting _ ⟨id, id, id⟩ levelDiff) here _
      unfold joinObjectsWith
      refine (copying.joinContents tame identical ih (Nat.le_of_lt_succ few) copied).bind ?_
      rintro _ there ⟨same, copying, rfl, grows⟩
      exact Run.ends_pure ⟨same, copying, rfl, grows⟩

omit completes in
/-- All variables get their fields, one after the other. -/
theorem joinPairs {ids : List ObjectId} (copying : Copying origin ids here.1)
    (copied : ∀ id ∈ ids, here.1.Copied id) (few : unmapped origin here.1.leftMap < depth) :
    Copies origin [] (Join.joinPairs setting depth (ids.map fun id => ⟨id, id, id⟩)) here
      fun joined there => joined = true ∧ Grows here.1 there := by
  induction ids generalizing here with
  | nil => exact Run.ends_pure ⟨rfl, copying, rfl, .refl _⟩
  | cons id rest ih =>
      rw [List.map_cons]
      unfold Join.joinPairs
      refine (completes_joinObjects tame identical depth id 0 copying
        (copied id List.mem_cons_self) few).bind ?_
      rintro _ middle ⟨same, copying, rfl, grows⟩
      rw [if_pos rfl]
      refine (ih copying (fun other member => grows.objects (copied other
        (List.mem_cons_of_mem _ member))) (Nat.lt_of_le_of_lt
          (unmapped_le fun _ => grows.objects) few)).mono ?_ fun _ _ bad => bad
      rintro _ there ⟨same', copying, rfl, grows'⟩
      exact ⟨same'.trans same, copying, rfl, grows.trans grows'⟩

end Copying

end Join

end ShapeDomain
