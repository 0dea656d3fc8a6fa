import ShapeDomain.Proofs.Join.Pairing
import ShapeDomain.Proofs.Symmetry.Mirror

/-!
# Single steps of mirrored joins

Names that are drawn, statuses that are lowered and counterparts that are recorded keep mirrored
joins in step.
-/

namespace ShapeDomain

theorem Status.mirror_meet (a b : Status) : (a.meet b).mirror = a.mirror.meet b.mirror := by
  cases a <;> cases b <;> rfl

theorem Status.mirror_injective {a b : Status} (same : a.mirror = b.mirror) : a = b := by
  cases a <;> cases b <;> first | rfl | cases same

namespace Join

/-! ### The supply -/

theorem SameSide.later {origin : Graph} {rename : ValueId → ValueId} {now next : Nat}
    {graph other : Graph} (side : SameSide origin rename now graph other) (after : now ≤ next) :
    SameSide origin rename next graph other :=
  { side with held := fun object range value held =>
      Nat.lt_of_lt_of_le (side.held object range value held) after }

theorem SameValues.later {shift : Shift} {rename : ValueId → ValueId} {now next : Nat}
    {map other : ValueId → Option ValueId} (values : SameValues shift rename now map other)
    (after : now ≤ next) : SameValues shift rename next map other where
  same := values.same
  new value late := values.new value (Nat.le_trans after late)
  newOther value late := values.newOther value (by omega)

theorem SameJoints.later {shift : Shift} {rename : ValueId → ValueId} {now next : Nat}
    {map other : ValueId × ValueId → Option ValueId}
    (joints : SameJoints shift rename now map other)
    (after : now ≤ next) : SameJoints shift rename next map other where
  same := joints.same
  new value1 value2 late := joints.new value1 value2 (late.imp (Nat.le_trans after)
    (Nat.le_trans after))
  newOther value1 value2 late := joints.newOther value1 value2 (by omega)

theorem DestKnows.later {start now next : Nat} {map : Correspondence} {unpaired : ValueId → Prop}
    {dest : Graph} (knows : DestKnows start map unpaired now dest) (after : now ≤ next) :
    DestKnows start map unpaired next dest :=
  { knows with known := fun value something =>
      (knows.known value something).imp_right (Or.imp_right fun drawn =>
        ⟨drawn.1, Nat.lt_of_lt_of_le drawn.2 after⟩) }

section Steps

variable {scene : Scene} {rename : ValueId → ValueId} {pending pending' : Pending}
variable {here there : Progress × Supply} {except1 except2 : ObjectId → Prop}

/-- Both joins draw a name. -/
theorem Mirror.draw (mirror : Mirror scene rename pending here there) :
    Mirror scene rename pending (here.1, ⟨here.2.next + 1⟩) (there.1, ⟨there.2.next + 1⟩) := by
  have after : here.2.next ≤ here.2.next + 1 := Nat.le_succ _
  exact { mirror with
    supplies := mirror.supplies.next
    renames := mirror.renames.later mirror.supplies.started after
    left := mirror.left.later after
    right := mirror.right.later after
    leftValues := mirror.leftValues.later after
    rightValues := mirror.rightValues.later after
    joined := mirror.joined.later after
    knows := mirror.knows.later after }

/-- The name of a pair of objects. -/
theorem twin_objectName (mirror : Mirror scene rename pending here there)
    {object1 object2 : ObjectId} (early : object1.index < scene.shift.start) :
    Twin scene (objectName object1 object2) (objectName object2 object1) rename here there except1
      except2 (fun _ => pending) fun id id' end1 =>
        id' = scene.shift.object id ∧ end1.1 = here.1 := by
  unfold objectName
  by_cases same : object1 = object2
  · rw [if_pos same, if_pos same.symm]
    refine twin_pure mirror ⟨?_, rfl⟩
    rw [← same, scene.shift.object_of_lt early]
  · rw [if_neg same, if_neg (Ne.symm same)]
    refine twin_of_ok rename (Run.draw_objectId_apply _) (Run.draw_objectId_apply _)
      (Later.of_eq (Nat.le_succ _) rfl rfl rfl rfl) mirror.draw ⟨?_, rfl⟩
    exact mirror.supplies.object

/-- The name of a pair of values. -/
theorem twin_valueName (mirror : Mirror scene rename pending here there)
    {value1 value2 : ValueId} (shared : value1 = value2 → value1.index < scene.shift.start) :
    Twin scene (valueName value1 value2) (valueName (rename value2) (rename value1)) rename here
      there except1 except2 (fun _ => pending) fun id id' end1 =>
        id' = scene.shift.value id ∧ end1.1 = here.1 ∧
          (value1 = value2 ∧ id = value1 ∨
            value1 ≠ value2 ∧ id.index = here.2.next ∧ end1.2.next = here.2.next + 1) := by
  unfold valueName
  by_cases same : value1 = value2
  · rw [if_pos same, if_pos (congrArg rename same.symm)]
    refine twin_pure mirror ⟨?_, rfl, .inl ⟨same, rfl⟩⟩
    rw [← same, mirror.renames.fixes value1 (shared same),
      scene.shift.value_of_lt (shared same)]
  · have different : rename value2 ≠ rename value1 := fun equal =>
      same (mirror.renames.injective _ _ equal).symm
    rw [if_neg same, if_neg different]
    exact twin_of_ok rename (Run.draw_valueId_apply _) (Run.draw_valueId_apply _)
      (Later.of_eq (Nat.le_succ _) rfl rfl rfl rfl) mirror.draw
      ⟨mirror.supplies.value, rfl, .inr ⟨same, rfl, rfl⟩⟩

/-! ### The status -/

theorem twin_lower (mirror : Mirror scene rename pending here there) (status : Status) :
    Twin scene (lower status) (lower status.mirror) rename here there except1 except2
      (fun _ => pending) fun _ _ end1 =>
        end1 = ({ here.1 with status := here.1.status.meet status }, here.2) := by
  refine twin_of_ok rename (Run.modify_apply _ _) (Run.modify_apply _ _)
    (Later.of_eq (Nat.le_refl _) rfl rfl rfl rfl) ?_ rfl
  refine { mirror with status := ?_ }
  show there.1.status.meet status.mirror = (here.1.status.meet status).mirror
  rw [mirror.status, Status.mirror_meet]

/-! ### Counterparts -/

/-- What is allowed for a left object is allowed for it as a right one. -/
theorem allows_object_iff {shift : Shift} {map other : Correspondence}
    (same : ∀ id, other.object? id = (map.object? id).map shift.object) {source dest : ObjectId} :
    Allows other.object? source (shift.object dest) ↔ Allows map.object? source dest := by
  unfold Allows
  rw [same]
  cases map.object? source <;> simp

theorem sameObjects_setObject {shift : Shift} {map other : Correspondence}
    (same : ∀ id, other.object? id = (map.object? id).map shift.object)
    (source dest id : ObjectId) :
    (other.setObject source (shift.object dest)).object? id =
      ((map.setObject source dest).object? id).map shift.object := by
  rw [Correspondence.object?_setObject, Correspondence.object?_setObject]
  split
  · rfl
  · exact same id

/-- A pair of objects gets its counterpart in both joins, or in none. -/
theorem twin_pairObjects (mirror : Mirror scene rename pending here there)
    (object1 object2 dest : ObjectId) :
    Twin scene (pairObjects object1 object2 dest)
      (pairObjects object2 object1 (scene.shift.object dest)) rename here there except1 except2
      (fun _ => pending) fun _ _ end1 =>
        end1 = (here.1.withPair object1 object2 dest, here.2) := by
  by_cases allowed : Allows here.1.leftMap.object? object1 dest ∧
      Allows here.1.rightMap.object? object2 dest
  case neg =>
    obtain ⟨_, _, stopped⟩ := pairObjects_error allowed
    have refused : ¬ (Allows there.1.leftMap.object? object2 (scene.shift.object dest) ∧
        Allows there.1.rightMap.object? object1 (scene.shift.object dest)) := by
      rwa [allows_object_iff mirror.rightObjects, allows_object_iff mirror.leftObjects, and_comm]
    obtain ⟨_, _, stopped'⟩ := pairObjects_error refused
    exact twin_of_error stopped stopped'
  case pos =>
    have done := pairObjects_ok allowed.1 allowed.2
    have done' := pairObjects_ok ((allows_object_iff mirror.rightObjects).2 allowed.2)
      ((allows_object_iff mirror.leftObjects).2 allowed.1)
    refine twin_of_ok rename done done' ?_ ?_ rfl
    · refine ⟨Nat.le_refl _, fun _ _ => rfl, ?_, ?_, fun _ _ _ => rfl, fun _ _ _ => rfl⟩
      · intro id mapped
        show ((here.1.leftMap.setObject object1 dest).object? id).isSome = true
        rw [Correspondence.object?_setObject]
        split
        · rfl
        · exact mapped
      · intro id mapped
        show ((here.1.rightMap.setObject object2 dest).object? id).isSome = true
        rw [Correspondence.object?_setObject]
        split
        · rfl
        · exact mapped
    · exact { mirror with
        leftObjects := sameObjects_setObject mirror.leftObjects object1 dest
        rightObjects := sameObjects_setObject mirror.rightObjects object2 dest
        knows := { mirror.knows with known := mirror.knows.known } }

theorem allowsValue_iff {now : Nat} (renames : Renames scene.shift now rename)
    {map other : Correspondence}
    (values : SameValues scene.shift rename now map.value? other.value?) {source dest : ValueId} :
    AllowsValue other (rename source) (scene.shift.value dest) ↔ AllowsValue map source dest := by
  unfold AllowsValue Allows
  rw [renames.isZero, values.same]
  cases map.value? source <;> simp

theorem sameValues_setUnlessZero {now : Nat} (renames : Renames scene.shift now rename)
    {map other : Correspondence}
    (values : SameValues scene.shift rename now map.value? other.value?) {source : ValueId}
    (early : source.index < now) (dest : ValueId) :
    SameValues scene.shift rename now (setUnlessZero map source dest).value?
      (setUnlessZero other (rename source) (scene.shift.value dest)).value? where
  same value := by
    simp only [value?_setUnlessZero, renames.eq_iff, renames.isZero, values.same]
    split <;> rfl
  new value late := by
    have different : value ≠ source := fun same => by
      rw [same] at late
      omega
    rw [value?_setUnlessZero, if_neg fun both => different both.1, values.new value late]
  newOther value late := by
    have different : value ≠ rename source := fun same => by
      rw [same] at late
      have := renames.index_lt early
      omega
    rw [value?_setUnlessZero, if_neg fun both => different both.1, values.newOther value late]

theorem sameJoints_insert {now : Nat} (renames : Renames scene.shift now rename)
    {table other : Table (ValueId × ValueId) ValueId}
    (joints : SameJoints scene.shift rename now table.get? other.get?) {value1 value2 : ValueId}
    (early1 : value1.index < now) (early2 : value2.index < now) (dest : ValueId) :
    SameJoints scene.shift rename now (table.insert (value1, value2) dest).get?
      (other.insert (rename value2, rename value1) (scene.shift.value dest)).get? := by

  refine ⟨fun one two => ?_, fun one two late => ?_, fun one two late => ?_⟩
  · rw [Table.get?_insert, Table.get?_insert]
    have iff : (rename two, rename one) = (rename value2, rename value1) ↔
        (one, two) = (value1, value2) := by
      simp only [Prod.mk.injEq, renames.eq_iff, and_comm]
    by_cases same : (one, two) = (value1, value2)
    · rw [if_pos same, if_pos (iff.2 same)]
      rfl
    · rw [if_neg same, if_neg fun equal => same (iff.1 equal), joints.same]
  · have different : (one, two) ≠ (value1, value2) := fun same => by
      obtain ⟨rfl, rfl⟩ := Prod.mk.inj same
      omega
    rw [Table.get?_insert_of_ne _ different, joints.new one two late]
  · have different : (one, two) ≠ (rename value2, rename value1) := fun same => by
      obtain ⟨rfl, rfl⟩ := Prod.mk.inj same
      have := renames.index_lt early1
      have := renames.index_lt early2
      omega
    rw [Table.get?_insert_of_ne _ different, joints.newOther one two late]

/-- Changes that keep numbers and leave held numbers held keep numbers congruent. -/
theorem Congruent.transfer {shift : Shift} {width : ValueId → Nat → Prop}
    {graph other next nextOther : Graph} (congruent : Congruent shift width graph other)
    (numbers : ∀ value, next.number? value = graph.number? value)
    (numbersOther : ∀ value, nextOther.number? value = other.number? value)
    (held : ∀ object range value, (graph.number? value).isSome = true → value ≠ .zero →
      graph.valueAt? object range = some value →
      ∃ object', next.valueAt? object' range = some value) :
    Congruent shift width next nextOther where
  zero := by rw [numbers, numbersOther, congruent.zero]
  agree value a b first second := by
    rw [numbers] at first
    rw [numbersOther] at second
    rcases congruent.agree value a b first second with same | ⟨object, range, there, agree⟩ | wide
    · exact .inl same
    · by_cases zero : value = .zero
      · subst zero
        rw [Shift.value_zero, ← congruent.zero, first, Option.some.injEq] at second
        exact .inl second
      · obtain ⟨object', found⟩ := held object range value (by rw [first]; rfl) zero there
        exact .inr (.inl ⟨object', range, found, agree⟩)
    · exact .inr (.inr wide)

theorem Congruent.addValue {shift : Shift} {width : ValueId → Nat → Prop} {graph other : Graph}
    (congruent : Congruent shift width graph other) (value value' : ValueId) :
    Congruent shift width (graph.addValue value) (other.addValue value') :=
  congruent.transfer (Graph.number?_addValue graph value) (Graph.number?_addValue other value')
    fun object _ _ _ _ held => ⟨object, held⟩

/-- A destination that knows no more than before, or of values that are paired now. -/
theorem DestKnows.addValue {start now : Nat} {map next : Correspondence}
    {unpaired unpaired' : ValueId → Prop} {dest : Graph}
    (knows : DestKnows start map unpaired now dest)
    (grows : ∀ value, value ≠ .zero → (map.value? value).isSome = true ∨ unpaired value →
      (next.value? value).isSome = true ∨ unpaired' value)
    (value : ValueId) : DestKnows start next unpaired' now (dest.addValue value) where
  plain held isNumber := by
    rw [Graph.number?_addValue] at isNumber
    rw [Graph.target?_addValue]
    exact knows.plain held isNumber
  known held something := by
    rw [Graph.knowledge_addValue] at something
    by_cases zero : held = .zero
    · exact .inl zero
    · exact (knows.known held something).imp_right
        (Or.imp_left fun old => ⟨old.1, grows held zero old.2⟩)
  positive := knows.positive

/-- A pair of values gets its joint value in both joins, or in none. -/
theorem twin_pairValues (mirror : Mirror scene rename pending here there)
    {value1 value2 : ValueId} (early1 : value1.index < here.2.next)
    (early2 : value2.index < here.2.next) (dest : ValueId)
    (paired : ∀ value, pending.unpaired value → value = value1) :
    Twin scene (pairValues value1 value2 dest)
      (pairValues (rename value2) (rename value1) (scene.shift.value dest)) rename here there
      except1 except2 (fun _ => ⟨pending.width, fun _ => False⟩) fun _ _ end1 =>
        end1 = (here.1.withJoint value1 value2 dest, here.2) := by
  have left : AllowsValue there.1.rightMap (rename value1) (scene.shift.value dest) ↔
      AllowsValue here.1.leftMap value1 dest := allowsValue_iff mirror.renames mirror.leftValues
  have right : AllowsValue there.1.leftMap (rename value2) (scene.shift.value dest) ↔
      AllowsValue here.1.rightMap value2 dest := allowsValue_iff mirror.renames mirror.rightValues
  by_cases allowed : AllowsValue here.1.leftMap value1 dest ∧
      AllowsValue here.1.rightMap value2 dest
  case neg =>
    have refused : ¬ (AllowsValue there.1.leftMap (rename value2) (scene.shift.value dest) ∧
        AllowsValue there.1.rightMap (rename value1) (scene.shift.value dest)) := by
      rwa [left, right, and_comm]
    obtain ⟨_, _, stopped⟩ := pairValues_error allowed
    obtain ⟨_, _, stopped'⟩ := pairValues_error refused
    exact twin_of_error stopped stopped'
  case pos =>
    refine twin_of_ok rename (pairValues_ok allowed.1 allowed.2)
      (pairValues_ok (right.2 allowed.2) (left.2 allowed.1)) ?_ ?_ rfl
    · exact Later.of_eq (Nat.le_refl _) rfl rfl (objects_setUnlessZero ..)
        (objects_setUnlessZero ..)
    · have object {map : Correspondence} {source dest : ValueId} (id : ObjectId) :
          (setUnlessZero map source dest).object? id = map.object? id := by
        rw [Correspondence.object?, objects_setUnlessZero]
        rfl
      refine { mirror with
        leftObjects := fun id => ?_
        rightObjects := fun id => ?_
        leftValues := sameValues_setUnlessZero mirror.renames mirror.leftValues early1 dest
        rightValues := sameValues_setUnlessZero mirror.renames mirror.rightValues early2 dest
        joined := sameJoints_insert mirror.renames mirror.joined early1 early2 dest
        dest := mirror.dest.addValue dest
        numbers := mirror.numbers.addValue dest _
        knows := mirror.knows.addValue (fun value proper mapped => .inl ?_) dest }
      · exact (object id).trans ((mirror.leftObjects id).trans (congrArg _ (object id).symm))
      · exact (object id).trans ((mirror.rightObjects id).trans (congrArg _ (object id).symm))
      · show ((setUnlessZero here.1.leftMap value1 dest).value? value).isSome = true
        rw [value?_setUnlessZero]
        split
        case isTrue => rfl
        case isFalse different =>
          refine mapped.resolve_right fun isUnpaired => different ?_
          obtain rfl := paired value isUnpaired
          exact ⟨rfl, by simpa [ValueId.isZero] using proper⟩

end Steps

end Join

end ShapeDomain
