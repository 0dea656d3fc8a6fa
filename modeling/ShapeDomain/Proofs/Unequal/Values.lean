import ShapeDomain.Proofs.Unequal.Joint

/-!
# What joining two values records

Two values that have no counterparts get a joint value.  Numbers get zero only if both are zero
within the width of the field, and addresses get the address that the destination has of their
place.  Joining the objects that they lead to leaves what is recorded of the pair.
-/

namespace ShapeDomain

theorem Specifier.eq_region_of_join {toList : Bool} {specifier1 specifier2 : Specifier}
    (joined : Specifier.join toList specifier1 specifier2 = some .region) :
    specifier1 = .region ∧ specifier2 = .region := by
  cases toList <;> cases specifier1 <;> cases specifier2 <;> simp_all [Specifier.join]

/-- A number that is zero within the width of a field may vanish. -/
theorem Graph.Accounts.mayVanish {graph : Graph} {value : ValueId} {size : Nat} {number : Int}
    (accounts : graph.Accounts value size) (isNumber : graph.number? value = some number)
    (zero : Number.wrap number size false = 0) : graph.MayVanish value := by
  rcases accounts with isZero | none | held
  · exact .inl isZero
  · simp [isNumber] at none
  · exact .inr (.inr ⟨number, size, isNumber, held, zero⟩)

namespace Join

variable {outset : Outset} {here : Progress × Supply} {progress : Progress} {now : Supply}
variable {value1 value2 value : ValueId} {size : Nat} {levelDiff : Int} {holderLevel : Level}
variable {descend : Descend} {id1 id2 : ObjectId} {target1 target2 place : Target}

theorem records_of_keeps {α : Type} {computation : Run Progress α}
    {good : α → Progress × Supply → Prop} (keeps : Keeps computation here)
    (passes : Run.Passes computation here fun result there =>
      Ledger outset there ∧ Remembers here there ∧ good result there) :
    Records outset computation here good :=
  Run.Passes.and keeps passes

/-- What joining two values leads to: if they have a joint value, it is recorded, and a folding
comes with it only if lists are folded. -/
def JointIs (outset : Outset) (value1 value2 : ValueId) : ValueJoin → Progress × Supply → Prop
  | .joined value fold, there =>
      jointValue? there.1 value1 value2 = some value ∧ (fold = none ∨ outset.folds = true)
  | .undefined _, _ => True

/-- Where two objects lead in the destination. -/
structure Meets (outset : Outset) (progress : Progress) (id1 id2 : ObjectId) (place : Destination) :
    Prop where
  /-- It is the counterpart of the left object. -/
  left : IsCounterpart progress.leftMap id1 place.object
  /-- It is that of the right object. -/
  right : IsCounterpart progress.rightMap id2 place.object
  /-- If it was just made, it shares nothing with the variables. -/
  clear : ∀ id, place = .made id → outset.Clear ⟨id1, id2, id⟩

namespace Ledger

theorem later (ledger : Ledger outset here) (after : here.2.next ≤ now.next) :
    Ledger outset (here.1, now) :=
  ledger.aside after here.1.status here.1.levels

theorem lower (ledger : Ledger outset here) (keeping : Keeping here) (status : Status) :
    Records outset (Join.lower status) here fun _ _ => True :=
  records_of_keeps (keeping.lower status)
    (Run.ends_of_ok (lower_apply status here)
      ⟨ledger.aside (Nat.le_refl _) _ _, .of_eq rfl, trivial⟩)

/-! ### Names -/

/-- A joint value that stands for one pair only gets a new name. -/
theorem valueName (ledger : Ledger outset here) (keeping : Keeping here)
    (unjoined : Unjoined here.1 value1 value2) :
    Records outset (Join.valueName value1 value2) here fun value there => there.1 = here.1 ∧
      here.2.next ≤ there.2.next ∧ NewName here.1 value1 value2 value there.2.next := by
  refine records_of_keeps keeping.valueName ?_
  unfold Join.valueName
  split
  case isTrue same =>
    subst same
    exact Run.ends_pure ⟨ledger, .of_eq rfl, rfl, Nat.le_refl _,
      ledger.newName_own keeping unjoined⟩
  case isFalse =>
    exact Run.ends_of_ok (Run.draw_valueId_apply here)
      ⟨ledger.later (Nat.le_succ _), .of_eq rfl, rfl, Nat.le_succ _,
        ledger.newName_drawn keeping _ _⟩

/-- So does a number, unless it is zero. -/
theorem numberName (ledger : Ledger outset here) (keeping : Keeping here)
    (unjoined : Unjoined here.1 value1 value2) (number : Int) (size : Nat) :
    Records outset (Join.numberName value1 value2 number size) here fun value there =>
      there.1 = here.1 ∧ (NewName here.1 value1 value2 value there.2.next ∨
        (value = .zero ∧ Number.wrap number size false = 0)) := by
  refine records_of_keeps (keeping.numberName number size) ?_
  unfold Join.numberName
  split
  case isTrue same =>
    subst same
    exact Run.ends_pure ⟨ledger, .of_eq rfl, rfl, .inl (ledger.newName_own keeping unjoined)⟩
  case isFalse =>
    split
    case isTrue zero => exact Run.ends_pure ⟨ledger, .of_eq rfl, rfl, .inr ⟨rfl, zero⟩⟩
    case isFalse =>
      exact Run.ends_of_ok (Run.draw_valueId_apply here)
        ⟨ledger.later (Nat.le_succ _), .of_eq rfl, rfl, .inl (ledger.newName_drawn keeping _ _)⟩

/-- A pair of values gets a joint value whose place was just decided. -/
theorem pairValues {next : Graph} (ledger : Ledger outset (progress, now))
    (keeping : Keeping ({ progress with dest := next }, now))
    (unjoined : Unjoined progress value1 value2) (drawn : value.index < now.next)
    (repointed : Repointed value progress.dest next)
    (stands : StandsFor outset progress next value1 value2 value) :
    Records outset (Join.pairValues value1 value2 value) ({ progress with dest := next }, now)
      fun _ there => jointValue? there.1 value1 value2 = some value := by
  refine records_of_keeps (keeping.pairValues value) (passes_pairValues
    ⟨ledger.withJoint unjoined drawn repointed stands, ?_, ?_⟩)
  · have isUnjoined : Unjoined { progress with dest := next } value1 value2 := { unjoined with }
    exact ⟨fun isJoint => isUnjoined.joint_withJoint isJoint value⟩
  · exact jointValue?_eq_some_iff.2 (.inr ⟨unjoined.proper, joint_withJoint_self _ _ _ _⟩)

/-! ### Numbers -/

theorem noJoin (ledger : Ledger outset here) (keeping : Keeping here) :
    Records outset (Join.noJoin outset.setting value1 value2) here (JointIs outset value1 value2) :=
  records_of_keeps (keeping.noJoin outset.setting)
    (Run.ends_bind_of_ok (Run.state_apply _) (Run.ends_pure ⟨ledger, .of_eq rfl, trivial⟩))

/-- Joining two values that are no addresses. -/
theorem joinNumbers (ledger : Ledger outset here) (keeping : Keeping here)
    (unjoined : Unjoined here.1 value1 value2) (accounts1 : outset.left.Accounts value1 size)
    (accounts2 : outset.right.Accounts value2 size) :
    Records outset (Join.joinNumbers value1 value2 size levelDiff) here
      (JointIs outset value1 value2) := by
  unfold Join.joinNumbers
  refine Run.ends_bind_of_ok (Run.state_apply _) ?_
  dsimp only
  split
  case h_1 a b number1 number2 =>
    split
    case isFalse => exact records_pure keeping ledger trivial
    case isTrue agree =>
      refine (ledger.numberName keeping unjoined a size).bind ?_
      rintro value ⟨_, now⟩ keeping ledger - ⟨rfl, name | ⟨rfl, zero⟩⟩
      · have proper : value.isZero = false := by simpa [ValueId.isZero] using name.proper
        rw [proper]
        refine Run.ends_bind_of_ok (modifyDest_apply _ _) ?_
        have keeping := keeping.withDest (keeping.dest.setNumber value a) fun present => present
        have repointed : Repointed value here.1.dest (here.1.dest.setNumber value a) :=
          ⟨fun _ => Graph.target?_setNumber .., rfl, rfl, rfl, rfl⟩
        refine Records.since (Records.bind (ledger.pairValues keeping unjoined name.drawn repointed
          (name.standsFor fun isTarget => ?_)) ?_) (.of_eq rfl)
        · rw [Graph.target?_setNumber, ledger.target?_of_newName name] at isTarget
          cases isTarget
        · exact fun _ _ keeping ledger _ isJoint => records_pure keeping ledger ⟨isJoint, .inl rfl⟩
      · refine Records.bind (ledger.pairValues keeping unjoined keeping.positive (.refl _ _)
          ⟨.inl rfl, fun _ => ⟨?_, ?_⟩, fun proper => absurd rfl proper, .inl rfl⟩) ?_
        · exact accounts1.mayVanish ((ledger.left.number? _).symm.trans number1) zero
        · refine accounts2.mayVanish ((ledger.right.number? _).symm.trans number2) ?_
          rw [← zero]
          exact (beq_iff_eq.1 agree).symm
        · exact fun _ _ keeping ledger _ isJoint => records_pure keeping ledger ⟨isJoint, .inl rfl⟩
  case h_2 =>
    refine (ledger.valueName keeping unjoined).bind ?_
    rintro value ⟨_, now⟩ keeping ledger - ⟨rfl, -, name⟩
    refine Records.bind (ledger.pairValues keeping unjoined name.drawn (.refl _ _)
      (name.standsFor fun isTarget => ?_)) ?_
    · rw [ledger.target?_of_newName name] at isTarget
      cases isTarget
    · intro _ _ keeping ledger _ isJoint
      refine (ledger.lower keeping _).bind ?_
      exact fun _ _ keeping ledger remembers _ =>
        records_pure keeping ledger ⟨remembers.jointValue? isJoint, .inl rfl⟩

/-! ### Places -/

/-- The name of a new object is that of both objects, or it was just drawn. -/
theorem objectName_own_or_drawn (here : Progress × Supply) (id1 id2 : ObjectId) :
    Run.Passes (objectName id1 id2) here fun id there =>
      here.2.next ≤ there.2.next ∧ ((id = id1 ∧ id = id2) ∨ here.2.next ≤ id.index) := by
  unfold objectName
  split
  case isTrue same => exact Run.ends_pure ⟨Nat.le_refl _, .inl ⟨rfl, same⟩⟩
  case isFalse =>
    exact Run.ends_of_ok (Run.draw_objectId_apply here) ⟨Nat.le_succ _, .inr (Nat.le_refl _)⟩

/-- The counterpart of objects that had none shares nothing with the variables. -/
theorem clear_of_free (ledger : Ledger outset here) {id : ObjectId}
    (present : here.1.left.hasObject id1 = true) (free1 : here.1.leftMap.object? id1 = none)
    (free2 : here.1.rightMap.object? id2 = none) (name : id = id1 ∨ here.2.next ≤ id.index) :
    outset.Clear ⟨id1, id2, id⟩ := by
  intro anchor member common
  obtain ⟨mapped1, mapped2, drawn⟩ := ledger.mapped anchor member
  have other1 : anchor.object1 ≠ id1 := by
    rintro same
    simp [same, free1] at mapped1
  rcases common with same | same | same
  · exact absurd same other1
  · simp [same, free2] at mapped2
  · replace same : anchor.dest = id := same
    rcases name with rfl | late
    · rcases outset.shared anchor member with own | new
      · exact absurd (own.symm.trans same) other1
      · rw [Graph.hasObject, ledger.left.objects] at present
        exact absurd (same ▸ new) (Nat.not_le_of_lt (outset.objects present))
    · exact absurd (same ▸ drawn) (Nat.not_lt_of_le late)

/-- Objects that had no counterparts may get one with a name of its own. -/
theorem newPair (ledger : Ledger outset here) {id : ObjectId} (proper : id1 ≠ .null)
    (present : here.1.left.hasObject id1 = true) (free1 : here.1.leftMap.object? id1 = none)
    (free2 : here.1.rightMap.object? id2 = none) (early : id.index < now.next)
    (name : (id = id1 ∧ id = id2) ∨ here.2.next ≤ id.index) :
    NewPair outset (here.1, now) id1 id2 id := by
  rw [Graph.hasObject, ledger.left.objects] at present
  have old := outset.objects present
  refine ⟨free1, free2, ?_, early, name.imp And.left (Nat.le_trans ledger.started),
    name.imp And.right (Nat.le_trans ledger.started), fun off {_} mapped => ?_,
      fun off {_} mapped => ?_⟩
  · rintro rfl
    rcases name with ⟨null, -⟩ | late
    · exact proper null.symm
    · exact absurd (Nat.lt_of_lt_of_le outset.positive ledger.started) (Nat.not_lt_of_le late)
  · exact (ledger.distinct1 off).source_of_name (name.imp_left fun own => ⟨own.1, old⟩) mapped
  · refine (ledger.distinct2 off).source_of_name (name.imp_left fun own => ⟨own.2, ?_⟩) mapped
    exact own.2.symm.trans own.1 ▸ old

/-- Joining the targets of two addresses into a new object. -/
theorem joinTargets (ledger : Ledger outset here) (keeping : Keeping here)
    (unjoined : Unjoined here.1 value1 value2) (proper : id1 ≠ .null)
    (free1 : here.1.leftMap.object? id1 = none) (free2 : here.1.rightMap.object? id2 = none) :
    Records outset (Join.joinTargets id1 id2) here fun found there =>
      Unjoined there.1 value1 value2 ∧ ∀ id, found = some id →
        Meets outset there.1 id1 id2 (.made id) := by
  refine records_of_keeps (keeping.joinTargets proper free1) ?_
  unfold Join.joinTargets
  refine Run.passes_demand fun object1 found1 => Run.passes_demand fun object2 _ => ?_
  have present := Graph.hasObject_of_object? ((Graph.object_eq_ok_iff _).1 found1)
  refine Run.ends_bind_of_ok (Run.state_apply _) ?_
  dsimp only
  split
  case isTrue => exact Run.ends_pure ⟨ledger, .of_eq rfl, unjoined, by simp⟩
  case isFalse =>
    split
    case h_2 => exact Run.ends_pure ⟨ledger, .of_eq rfl, unjoined, by simp⟩
    case h_1 kind status level _ _ =>
      refine ((keeping.objectName present).and (objectName_own_or_drawn here id1 id2)).bind ?_
      rintro id ⟨_, now⟩ ⟨⟨-, rfl, early, -, -⟩, after, name⟩
      have clear := ledger.clear_of_free present free1 free2 (name.imp_left And.left)
      have new := ledger.newPair proper present free1 free2 early name
      let object : Object := { object1 with level := level, kind := kind }
      have placed {dest : Graph} (shrunk : Graph.Shrunk outset.folds now.next here.1.dest dest) :
          Run.Passes (do
            attemptDest fun graph => graph.setValid id (here.1.left.isValid id1)
            pairObjects id1 id2 id
            Join.lower status
            return some id) ({ here.1 with dest := dest }, now) fun found there =>
          Ledger outset there ∧ Remembers here there ∧ Unjoined there.1 value1 value2 ∧
            ∀ id, found = some id → Meets outset there.1 id1 id2 (.made id) := by
        refine Run.ends_bind (fun _ there => ∃ last, there = ({ here.1 with dest := last }, now) ∧
            Ledger outset there) (passes_attemptDest fun last done => ⟨last, rfl,
              ((ledger.later after).withDest shrunk).withDest (.setValid done)⟩) ?_
        rintro _ _ ⟨last, rfl, ledger⟩
        refine Run.ends_bind
          (fun _ there => there = ({ here.1 with dest := last }.withPair id1 id2 id, now))
          (passes_pairObjects rfl) ?_
        rintro _ _ rfl
        refine Run.ends_bind_of_ok (lower_apply _ _) (Run.ends_pure
          ⟨(ledger.withPair { new with }).aside (Nat.le_refl _) _ _, .of_eq rfl,
            { unjoined with }, ?_⟩)
        rintro _ ⟨⟩
        have self (map : Correspondence) (source : ObjectId) :
            (map.setObject source id).object? source = some id :=
          (Correspondence.object?_setObject ..).trans (if_pos rfl)
        exact ⟨.inl (self _ _), .inl (self _ _), by rintro _ ⟨⟩; exact clear⟩
      split
      case isTrue =>
        exact Run.ends_bind_of_ok (modifyDest_apply _ _)
          (placed (.of_same rfl (fun _ => rfl) rfl rfl rfl))
      case isFalse =>
        exact Run.ends_bind_of_ok (modifyDest_apply _ _)
          (placed (.of_same rfl (fun _ => rfl) rfl rfl rfl))

/-- Where two addresses lead. -/
theorem destination (ledger : Ledger outset here) (keeping : Keeping here)
    (unjoined : Unjoined here.1 value1 value2) (id1 id2 : ObjectId) :
    Records outset (Join.destination id1 id2) here fun found there =>
      Unjoined there.1 value1 value2 ∧ ∀ place, found = some place →
        Meets outset there.1 id1 id2 place := by
  have stops {found : Option Destination} (nowhere : found = none) :
      Records outset (pure found) here fun found there => Unjoined there.1 value1 value2 ∧
        ∀ place, found = some place → Meets outset there.1 id1 id2 place :=
    records_pure keeping ledger ⟨unjoined, by simp [nowhere]⟩
  unfold Join.destination
  refine Run.ends_bind_of_ok (Run.state_apply _) ?_
  split
  case isTrue nulls =>
    simp only [ObjectId.isNull, Bool.and_eq_true, beq_iff_eq] at nulls
    refine records_pure keeping ledger ⟨unjoined, ?_⟩
    rintro _ ⟨⟩
    exact ⟨.inr ⟨nulls.1, rfl⟩, .inr ⟨nulls.2, rfl⟩, by simp⟩
  case isFalse nulls =>
    split
    case h_1 dest1 dest2 mapped1 mapped2 =>
      split
      case isTrue same =>
        subst same
        refine records_pure keeping ledger ⟨unjoined, ?_⟩
        rintro _ ⟨⟩
        exact ⟨.inl mapped1, .inl mapped2, by simp⟩
      case isFalse => exact stops rfl
    case h_2 free1 free2 =>
      split
      case isTrue => exact stops rfl
      case isFalse proper =>
        have proper : id1 ≠ .null := by
          rintro rfl
          exact proper rfl
        refine (ledger.joinTargets keeping unjoined proper free1 free2).bind ?_
        rintro found there keeping ledger - ⟨unjoined, suits⟩
        refine records_pure keeping ledger ⟨unjoined, fun place isPlace => ?_⟩
        obtain ⟨id, rfl, rfl⟩ := Option.map_eq_some_iff.1 isPlace
        exact suits id rfl
    case h_3 => exact stops rfl

/-! ### Addresses -/

/-- A place that two addresses may get in the destination. -/
structure Reaches (outset : Outset) (progress : Progress) (value1 value2 : ValueId)
    (place : Target) :
    Prop where
  /-- They lead there. -/
  leads : outset.Leads progress value1 value2 place
  /-- It is NULL only for addresses of NULL. -/
  null : place = .null → outset.left.target? value1 = some .null ∧
    outset.right.target? value2 = some .null

/-- A value of the destination may be given to a pair of addresses: at most the place that it is the
address of has changed. -/
structure Addressed (outset : Outset) (here : Progress × Supply) (value1 value2 value : ValueId)
    (next : Graph) (now : Supply) : Prop where
  /-- The supply moves on. -/
  after : here.2.next ≤ now.next
  /-- The value was drawn. -/
  drawn : value.index < now.next
  /-- At most the place that it is the address of has changed. -/
  repointed : Repointed value here.1.dest next
  /-- It may stand for the pair. -/
  stands : StandsFor outset here.1 next value1 value2 value

/-- The address that the destination has of a place stands for all addresses of the place. -/
theorem addressed_existing (ledger : Ledger outset here) (keeping : Keeping here)
    (reaches : Reaches outset here.1 value1 value2 place)
    (leads : here.1.dest.target? value = some place) :
    Addressed outset here value1 value2 value here.1.dest here.2 := by
  have isPlace {other : Target} (isTarget : here.1.dest.target? value = some other) :
    other = place :=
    Option.some.inj (isTarget.symm.trans leads)
  refine ⟨Nat.le_refl _, ?_, .refl _ _, ?_, ?_, ?_, .inr (.inr ⟨place, leads, leads⟩)⟩
  · rcases ledger.pointers leads with rfl | ⟨values, isJoint⟩
    · exact keeping.positive
    · exact ledger.drawn isJoint
  · rcases ledger.pointers leads with zero | ⟨values, isJoint⟩
    · exact .inl zero
    · exact (ledger.own isJoint).imp_right .inr
  · rintro rfl
    have null := reaches.null (isPlace keeping.dest.zero).symm
    exact ⟨.inr (.inl null.1), .inr (.inl null.2)⟩
  · intro other _ isTarget
    exact isPlace isTarget ▸ reaches.leads

/-- A value with a new name becomes the address of a place. -/
theorem addPointer (name : NewName here.1 value1 value2 value now.next)
    (after : here.2.next ≤ now.next) (reaches : Reaches outset here.1 value1 value2 place) :
    Run.Passes (do
        attemptDest fun graph => graph.addPointer ⟨value, place⟩
        return value) (here.1, now) fun value there => ∃ next,
      there.1 = { here.1 with dest := next } ∧
        Addressed outset here value1 value2 value next there.2 := by
  refine Run.ends_bind (fun _ there => there = ({ here.1 with
      dest := here.1.dest.putPointer ⟨value, place⟩ }, now)) (passes_attemptDest
        fun dest done => ?_) ?_
  · obtain ⟨-, -, rfl⟩ := Graph.addPointer_eq_ok_iff.1 done
    rfl
  · rintro _ _ rfl
    refine Run.ends_pure ⟨_, rfl, after, name.drawn,
      repointed_putPointer here.1.dest ⟨value, place⟩, ?_⟩
    refine name.standsFor fun {other} isTarget => ?_
    rw [Graph.target?_putPointer, if_pos rfl, Option.some.injEq] at isTarget
    exact isTarget ▸ reaches.leads

/-- The joint address of two addresses. -/
theorem addressName (ledger : Ledger outset here) (keeping : Keeping here)
    (unjoined : Unjoined here.1 value1 value2)
    (reaches : Reaches outset here.1 value1 value2 place) :
    Run.Passes (Join.addressName value1 value2 place) here fun value there => ∃ next,
      there.1 = { here.1 with dest := next } ∧
        Addressed outset here value1 value2 value next there.2 := by
  unfold Join.addressName
  refine Run.ends_bind_of_ok (Run.ask_apply _ _) ?_
  split
  case h_1 existing found =>
    split
    case isTrue =>
      exact Run.ends_pure ⟨_, rfl,
        ledger.addressed_existing keeping reaches (Graph.target?_of_addressOf? found)⟩
    case isFalse same =>
      obtain rfl := not_ne_iff.1 same
      exact addPointer (ledger.newName_own keeping unjoined) (Nat.le_refl _) reaches
  case h_2 =>
    refine Run.Ends.bind (ledger.valueName keeping unjoined) ?_
    rintro value ⟨_, now⟩ ⟨-, -, -, rfl, after, name⟩
    exact addPointer name after reaches

theorem foldAt (ledger : Ledger outset here) (keeping : Keeping here) (object : ObjectId) :
    Records outset (Join.foldAt outset.setting object) here fun fold _ =>
      fold = none ∨ outset.folds = true := by
  unfold Join.foldAt
  split
  case isTrue allowed =>
    have folds : outset.folds = true := (Bool.and_eq_true_iff.1 allowed).1
    exact Run.ends_of_ok (Run.ask_apply _ _) ⟨keeping, ledger, .of_eq rfl, .inr folds⟩
  case isFalse => exact records_pure keeping ledger (.inl rfl)

end Ledger

/-- Going down from a pair of objects keeps what is recorded. -/
def DescendsRecording (outset : Outset) (descend : Descend) : Prop :=
  ∀ {here} object1 object2 dest levelDiff, Keeping here → Ledger outset here →
    outset.Clear ⟨object1, object2, dest⟩ →
    Records outset (descend object1 object2 dest levelDiff) here fun _ _ => True

namespace Ledger

/-- Joining two addresses. -/
theorem joinAddresses (ledger : Ledger outset here) (keeping : Keeping here)
    (descends : DescendsRecording outset descend) (unjoined : Unjoined here.1 value1 value2)
    (leads1 : address? here.1.left value1 = some target1)
    (leads2 : address? here.1.right value2 = some target2) :
    Records outset
      (Join.joinAddresses outset.setting descend value1 value2 target1 target2 levelDiff
      holderLevel) here (JointIs outset value1 value2) := by
  rw [address?_eq_some_iff, ledger.left.target?] at leads1
  rw [address?_eq_some_iff, ledger.right.target?] at leads2
  unfold Join.joinAddresses
  split
  case isTrue => exact ledger.noJoin keeping
  case isFalse offset =>
    refine (ledger.destination keeping unjoined target1.object target2.object).bind ?_
    rintro found middle keeping ledger - ⟨unjoined, found_spec⟩
    cases found with
    | none => exact ledger.noJoin keeping
    | some found =>
        have suits := found_spec found rfl
        refine Run.passes_demand fun object _ => Run.passes_demand fun joint isSpecifier => ?_
        cases joint with
        | none => exact ledger.noJoin keeping
        | some specifier =>
            have reaches : Reaches outset middle.1 value1 value2
                ⟨found.object, target1.offset, specifier⟩ := by
              refine ⟨⟨⟨target1, address?_eq_some_iff.2 leads1, rfl, fun _ => suits.left⟩,
                ⟨target2, address?_eq_some_iff.2 leads2, (not_ne_iff.1 offset).symm,
                  fun _ => suits.right⟩⟩, fun isNull => ?_⟩
              rw [Target.null, Target.mk.injEq] at isNull
              obtain ⟨isNull, zero, rfl⟩ := isNull
              obtain ⟨region1, region2⟩ :=
                Specifier.eq_region_of_join (join_of_specifier? isSpecifier)
              have null1 := (isNull ▸ suits.left).eq_null ledger.null1
              have null2 := (isNull ▸ suits.right).eq_null ledger.null2
              obtain ⟨id1, offset1, specifier1⟩ := target1
              obtain ⟨id2, offset2, specifier2⟩ := target2
              simp only at region1 region2 null1 null2 zero offset
              subst region1 region2 null1 null2 zero
              obtain rfl := not_ne_iff.1 offset
              exact ⟨leads1.2, leads2.2⟩
            refine ((keeping.addressName _).and
              (ledger.addressName keeping unjoined reaches)).bind ?_
            rintro value ⟨_, now⟩ ⟨keeping, next, rfl, addressed⟩
            refine Records.since
              (Records.bind ((ledger.later addressed.after).pairValues keeping unjoined
              addressed.drawn addressed.repointed addressed.stands) ?_) (.of_eq rfl)
            intro _ _ keeping ledger _ isJoint
            cases found with
            | known => exact records_pure keeping ledger ⟨isJoint, .inl rfl⟩
            | made id =>
                refine (descends _ _ _ _ keeping ledger (suits.clear id rfl)).bind ?_
                intro joined _ keeping ledger remembers _
                have isJoint := remembers.jointValue? isJoint
                cases joined with
                | false => exact records_pure keeping ledger trivial
                | true =>
                    refine (ledger.foldAt keeping id).bind ?_
                    exact fun _ _ keeping ledger remembers allowed =>
                      records_pure keeping ledger ⟨remembers.jointValue? isJoint, allowed⟩

/-- Joining two values that the joined graphs hold. -/
theorem joinValuePair (ledger : Ledger outset here) (keeping : Keeping here)
    (descends : DescendsRecording outset descend) (accounts1 : outset.left.Accounts value1 size)
    (accounts2 : outset.right.Accounts value2 size)
    (held : ∃ object range, here.1.right.valueAt? object range = some value2) :
    Records outset
      (Join.joinValuePair outset.setting descend value1 value2 size levelDiff holderLevel) here
      (JointIs outset value1 value2) := by
  unfold Join.joinValuePair
  refine Run.ends_bind_of_ok (Run.state_apply _) ?_
  split
  case h_1 value isJoint => exact records_pure keeping ledger ⟨isJoint, .inl rfl⟩
  case h_2 absent =>
    obtain ⟨proper, new⟩ := jointValue?_eq_none_iff.1 absent
    split
    case isTrue => exact records_pure keeping ledger trivial
    case isFalse free =>
      simp only [hasCounterpart, Bool.or_eq_true, Bool.and_eq_true, Bool.not_eq_true',
        not_or, not_and,
        Bool.not_eq_true, Option.isSome_eq_false_iff, Option.isNone_iff_eq_none] at free
      have zero_or {value : ValueId} {mapped : Option ValueId}
          (free : value.isZero = false → mapped = none) : value = .zero ∨ mapped = none :=
        (Classical.em (value = .zero)).imp_right fun proper =>
          free (by simpa [ValueId.isZero] using proper)
      have unjoined : Unjoined here.1 value1 value2 :=
        ⟨new, proper, zero_or free.1, zero_or free.2, held⟩
      split
      case h_1 => exact ledger.joinNumbers keeping unjoined accounts1 accounts2
      case h_2 target1 target2 leads1 leads2 =>
        exact ledger.joinAddresses keeping descends unjoined leads1 leads2
      case h_3 => exact ledger.noJoin keeping

end Ledger

end Join

end ShapeDomain
