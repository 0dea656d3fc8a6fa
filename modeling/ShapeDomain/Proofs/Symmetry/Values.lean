import ShapeDomain.Proofs.Join.Unmapped
import ShapeDomain.Proofs.Symmetry.Addresses

/-!
# Mirrored joins of values

A pair of values has a joint value in both of two mirrored joins, or in none.
-/

namespace ShapeDomain

namespace Join

variable {scene : Scene} {rename : ValueId → ValueId} {pending pending' : Pending}
variable {here there : Progress × Supply} {except1 except2 : ObjectId → Prop}

/-! ### Going down -/

/-- Two ways of going down keep mirrored joins in step, if less than given numbers of objects have
no counterparts.  Only the objects that are gone down to may get new layouts. -/
def Descends (scene : Scene) (room1 room2 : Nat) (descend descend' : Descend) : Prop :=
  ∀ (rename : ValueId → ValueId) (here there : Progress × Supply) (object1 object2 dest : ObjectId)
    (levelDiff : Int),
    Mirror scene rename .nothing here there →
    (here.1.leftMap.object? object1).isSome = true →
    (here.1.rightMap.object? object2).isSome = true →
    unmapped scene.left here.1.leftMap < room1 →
    unmapped scene.right here.1.rightMap < room2 →
    Twin scene (descend object1 object2 dest levelDiff)
      (descend' object2 object1 (scene.shift.object dest) (-levelDiff)) rename here there
      (· = object1) (· = object2) (fun _ => .nothing) fun joined joined' _ => joined' = joined

theorem specifier?_mirror (holderLevel : Level) {object object' : Object}
    (alike : object'.unlabelled = object.unlabelled) (specifier1 specifier2 : Specifier) :
    specifier? holderLevel object' specifier2 specifier1 =
      specifier? holderLevel object specifier1 specifier2 := by
  have kind : object'.unlabelled.kind = object.unlabelled.kind := congrArg Object.kind alike
  have level : object'.unlabelled.level = object.unlabelled.level := congrArg Object.level alike
  replace kind : object'.kind = object.kind := kind
  replace level : object'.level = object.level := level
  rw [specifier?, specifier?, Specifier.join_comm, kind, level]

variable {room1 room2 : Nat} {descend descend' : Descend}

/-- The join goes down to two objects that have got their counterpart, and if they are joined, then
a given value is the joint value. -/
theorem twin_descend (descends : Descends scene room1 room2 descend descend')
    (mirror : Mirror scene rename .nothing here there) {object1 object2 : ObjectId}
    (mapped1 : (here.1.leftMap.object? object1).isSome = true)
    (mapped2 : (here.1.rightMap.object? object2).isSome = true)
    (less1 : unmapped scene.left here.1.leftMap < room1)
    (less2 : unmapped scene.right here.1.rightMap < room2) (setting : Setting) (size : Nat)
    (levelDiff : Int) (dest : ValueId) (id : ObjectId) :
    Twin scene
      (do
        if ← descend object1 object2 id levelDiff then
          return .joined dest (← foldAt setting id)
        else
          return .undefined false)
      (do
        if ← descend' object2 object1 (scene.shift.object id) (-levelDiff) then
          return .joined (scene.shift.value dest) (← foldAt setting (scene.shift.object id))
        else
          return .undefined false)
      rename here there (· = object1) (· = object2) (Pending.hold size) fun result1 result2 _ =>
        result2 = scene.shift.valueJoin result1 := by
  refine (descends rename here there object1 object2 id levelDiff mirror mapped1 mapped2 less1
    less2).bind ?_
  intro joined joined' rename' end1 end2 _ mirror' same
  subst same
  cases joined' with
  | false => exact twin_pure mirror' rfl
  | true =>
      refine (twin_foldAt mirror' setting id).bind ?_
      rintro fold _ rename'' end1' end2' _ mirror'' rfl
      exact twin_pure (mirror''.await _ (fun _ _ no => no.elim) fun _ no => no) rfl

/-- Two addresses. -/
theorem twin_joinAddresses (descends : Descends scene room1 room2 descend descend')
    (mirror : Mirror scene rename .nothing here there) {value1 value2 : ValueId}
    (early1 : value1.index < here.2.next) (early2 : value2.index < here.2.next)
    (shared : value1 = value2 → value1.index < scene.shift.start) (proper : value1 ≠ .zero)
    (free : hasCounterpart here.1.leftMap value1 = false) {target1 target2 : Target}
    (leads1 : here.1.left.target? value1 = some target1)
    (leads2 : here.1.right.target? value2 = some target2)
    (bound1 : unmapped scene.left here.1.leftMap ≤ room1)
    (bound2 : unmapped scene.right here.1.rightMap ≤ room2) (setting : Setting) (size : Nat)
    (levelDiff : Int) (holderLevel : Level) :
    Twin scene (joinAddresses setting descend value1 value2 target1 target2 levelDiff holderLevel)
      (joinAddresses setting descend' (rename value2) (rename value1) target2 target1 (-levelDiff)
        holderLevel)
      rename here there except1 except2 (Pending.hold size) fun result1 result2 _ =>
        result2 = scene.shift.valueJoin result1 := by
  -- The objects that are gone down to have no counterparts yet.
  refine Twin.hide (fun id => id = target1.object ∧ here.1.leftMap.object? id = Option.none)
    (fun id => id = target2.object ∧ here.1.rightMap.object? id = Option.none)
    (fun id => And.right) (fun id => And.right) ?_
  unfold joinAddresses
  by_cases offsets : target1.offset = target2.offset
  case neg =>
    rw [if_pos offsets, if_pos (Ne.symm offsets)]
    exact twin_noJoin mirror setting value1 value2 size
  case pos =>
    rw [if_neg (Classical.not_not.2 offsets), if_neg (Classical.not_not.2 offsets.symm)]
    refine (twin_destination mirror target1.object target2.object).bind ?_
    rintro found _ rename1 end1 end1' later1 mirror1 ⟨rfl, values, made⟩
    have refused {except1 except2 : ObjectId → Prop} :
        Twin scene (noJoin setting value1 value2) (noJoin setting (rename value2) (rename value1))
          rename1 end1 end1' except1 except2 (Pending.hold size) fun result1 result2 _ =>
            result2 = scene.shift.valueJoin result1 := by
      rw [← later1.extends_ value1 early1, ← later1.extends_ value2 early2]
      exact twin_noJoin mirror1 setting value1 value2 size
    cases found with
    | none => exact refused
    | some destination =>
        simp only [Option.map_some, Destination.object_shift]
        have objects := mirror1.dest.object? destination.object
        cases found1 : end1.1.dest.object? destination.object with
        | none =>
            rw [found1, Option.map_none, Option.map_eq_none_iff] at objects
            exact twin_of_error
              (Run.bind_apply_error (Run.demand_apply_error (Graph.object_of_none found1)))
              (Run.bind_apply_error (Run.demand_apply_error (Graph.object_of_none objects)))
        | some object =>
            rw [found1, Option.map_some, Option.map_eq_some_iff] at objects
            obtain ⟨object', found1', unlabelled⟩ := objects
            refine twin_bind_of_ok
              (Run.demand_apply_ok ((Graph.object_eq_ok_iff _).2 found1))
              (Run.demand_apply_ok ((Graph.object_eq_ok_iff _).2 found1')) ?_
            have isJoint' := specifier?_mirror holderLevel unlabelled target1.specifier
              target2.specifier
            cases isJoint : specifier? holderLevel object target1.specifier target2.specifier with
            | error fault =>
                rw [isJoint] at isJoint'
                exact twin_of_error (Run.bind_apply_error (Run.demand_apply_error rfl))
                  (Run.bind_apply_error (Run.demand_apply_error isJoint'))
            | ok joint =>
                rw [isJoint] at isJoint'
                refine twin_bind_of_ok (Run.demand_apply_ok rfl) (Run.demand_apply_ok isJoint') ?_
                cases joint with
                | none => exact refused
                | some specifier =>
                    have early1' := Nat.lt_of_lt_of_le early1 later1.time
                    have early2' := Nat.lt_of_lt_of_le early2 later1.time
                    have free' : hasCounterpart end1.1.leftMap value1 = false := by
                      rw [hasCounterpart, Correspondence.value?, values]
                      exact free
                    rw [← offsets, ← later1.extends_ value1 early1, ← later1.extends_ value2 early2]
                    refine (twin_addressName mirror1 early1' shared proper free'
                      ⟨destination.object, target1.offset, specifier⟩).bind ?_
                    rintro dest _ rename2 end2 end2' later2 mirror2 rfl
                    have early1'' := Nat.lt_of_lt_of_le early1' later2.time
                    have early2'' := Nat.lt_of_lt_of_le early2' later2.time
                    rw [← later2.extends_ value1 early1', ← later2.extends_ value2 early2']
                    refine (twin_pairValues mirror2 early1'' early2'' dest
                      fun _ same => same).bind ?_
                    intro _ _ rename3 end3 end3' later3 mirror3 _
                    cases destination with
                    | known id =>
                        exact twin_pure (mirror3.await _ (fun _ _ no => no.elim) fun _ no => no) rfl
                    | made id =>
                        obtain ⟨⟨new1, new2⟩, paired1, paired2⟩ := made id rfl
                        have mapped1 := later3.left _ (later2.left _ paired1)
                        have mapped2 := later3.right _ (later2.right _ paired2)
                        have later := later1.trans (later2.trans later3)
                        obtain ⟨source1, isSource1⟩ := scene.leftOrigin.checked.object_of_target
                          ((mirror.left.relaid.target? value1).symm.trans leads1)
                        obtain ⟨source2, isSource2⟩ := scene.rightOrigin.checked.object_of_target
                          ((mirror.right.relaid.target? value2).symm.trans leads2)
                        have less1 := unmapped_lt later.left isSource1 new1 mapped1
                        have less2 := unmapped_lt later.right isSource2 new2 mapped2
                        exact Twin.except (fun _ same => ⟨same, same ▸ new1⟩)
                          (fun _ same => ⟨same, same ▸ new2⟩)
                          (twin_descend descends mirror3 mapped1 mapped2
                            (Nat.lt_of_lt_of_le less1 bound1) (Nat.lt_of_lt_of_le less2 bound2)
                            setting size levelDiff dest id)

theorem Mirror.jointValue? (mirror : Mirror scene rename pending here there)
    (value1 value2 : ValueId) :
    jointValue? there.1 (rename value2) (rename value1) =
      (jointValue? here.1 value1 value2).map scene.shift.value := by
  unfold Join.jointValue?
  rw [mirror.renames.isZero, mirror.renames.isZero, Bool.and_comm, mirror.joined.same]
  split
  · rw [Option.map_some, Shift.value_zero]
  · rfl

theorem Mirror.leftHasCounterpart (mirror : Mirror scene rename pending here there)
    (value : ValueId) :
    hasCounterpart there.1.rightMap (rename value) = hasCounterpart here.1.leftMap value := by
  rw [hasCounterpart, hasCounterpart, mirror.renames.isZero, mirror.leftValues.same,
    Option.isSome_map]

theorem Mirror.rightHasCounterpart (mirror : Mirror scene rename pending here there)
    (value : ValueId) :
    hasCounterpart there.1.leftMap (rename value) = hasCounterpart here.1.rightMap value := by
  rw [hasCounterpart, hasCounterpart, mirror.renames.isZero, mirror.rightValues.same,
    Option.isSome_map]

/-- Two values. -/
theorem twin_joinValuePair (descends : Descends scene room1 room2 descend descend')
    (mirror : Mirror scene rename .nothing here there) {value1 value2 : ValueId}
    (early1 : value1.index < here.2.next) (early2 : value2.index < here.2.next)
    (shared : value1 = value2 → value1.index < scene.shift.start)
    (bound1 : unmapped scene.left here.1.leftMap ≤ room1)
    (bound2 : unmapped scene.right here.1.rightMap ≤ room2) (setting : Setting) (size : Nat)
    (levelDiff : Int) (holderLevel : Level) :
    Twin scene (joinValuePair setting descend value1 value2 size levelDiff holderLevel)
      (joinValuePair setting descend' (rename value2) (rename value1) size (-levelDiff)
        holderLevel)
      rename here there except1 except2 (Pending.hold size) fun result1 result2 _ =>
        result2 = scene.shift.valueJoin result1 := by
  unfold joinValuePair
  refine twin_bind_of_ok (Run.state_apply _) (Run.state_apply _) ?_
  rw [mirror.jointValue?, mirror.leftHasCounterpart, mirror.rightHasCounterpart,
    mirror.leftAddress, mirror.rightAddress, Bool.or_comm (hasCounterpart here.1.rightMap _)]
  cases jointValue? here.1 value1 value2 with
  | some value => exact twin_pure (mirror.await _ (fun _ _ no => no.elim) fun _ no => no) rfl
  | none =>
      simp only [Option.map_none]
      by_cases taken :
          (hasCounterpart here.1.leftMap value1 || hasCounterpart here.1.rightMap value2) = true
      · rw [if_pos taken, if_pos taken]
        exact twin_pure mirror rfl
      · rw [if_neg taken, if_neg taken]
        have free : hasCounterpart here.1.leftMap value1 = false := by
          rw [Bool.or_eq_true, not_or] at taken
          simpa using taken.1
        cases leads1 : address? here.1.left value1 with
        | none =>
            cases leads2 : address? here.1.right value2 with
            | none => exact twin_joinNumbers mirror early1 early2 shared free size levelDiff
            | some => exact twin_noJoin mirror setting value1 value2 size
        | some target1 =>
            cases leads2 : address? here.1.right value2 with
            | none => exact twin_noJoin mirror setting value1 value2 size
            | some target2 =>
                obtain ⟨proper, isTarget1⟩ := address?_eq_some_iff.1 leads1
                obtain ⟨-, isTarget2⟩ := address?_eq_some_iff.1 leads2
                exact twin_joinAddresses descends mirror early1 early2 shared proper free
                  isTarget1 isTarget2 bound1 bound2 setting size levelDiff holderLevel

end Join

end ShapeDomain
