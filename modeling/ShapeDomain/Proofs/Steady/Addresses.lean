import ShapeDomain.Proofs.Join.Unmapped
import ShapeDomain.Proofs.Steady.Invariant

/-!
# Joining addresses of tame graphs

Objects that addresses lead to get counterparts under new names, or under names of left objects that
had no counterpart, so that no object of the destination is replaced.
-/

namespace ShapeDomain

namespace Join

variable {low : Nat} {here : Progress × Supply} {value1 value2 : ValueId}

namespace Steady

theorem objectName (steady : Steady low here) {object1 object2 : ObjectId}
    (present : here.1.left.hasObject object1 = true) (proper : object1 ≠ .null)
    (free : here.1.leftMap.object? object1 = none) :
    Steadily low (Join.objectName object1 object2) here fun id there => there.1 = here.1 ∧
      id.index < there.2.next ∧ here.1.dest.hasObject id = false ∧
        (here.1.left.hasObject id = true → id = object1) := by
  unfold Join.objectName
  split
  case isTrue =>
    refine Run.ends_pure ⟨steady, rfl, steady.left.object_lt present, ?_, fun _ => rfl⟩
    refine Bool.eq_false_iff.2 fun there => ?_
    rcases steady.named there present with null | mapped
    · exact proper null
    · simp [free] at mapped
  case isFalse =>
    have late : here.2.next ≤ (⟨here.2.next⟩ : ObjectId).index := Nat.le_refl _
    refine Run.ends_of_ok (Run.draw_objectId_apply here)
      ⟨steady.later (Nat.le_succ _) here.1.status, rfl, Nat.lt_succ_self _,
        steady.dest.absent_of_late late, fun present => ?_⟩
    rw [steady.left.absent_of_late late] at present
    simp at present

end Steady

/-- An object is put into the destination under a name that is free, and becomes the counterpart of
two objects. -/
structure Placing (low : Nat) (here : Progress × Supply) (object1 id : ObjectId) : Prop where
  /-- All is steady before. -/
  steady : Steady low here
  /-- The name was drawn. -/
  early : id.index < here.2.next
  /-- It is no name of the destination. -/
  absent : here.1.dest.hasObject id = false
  /-- Only the left object may share it. -/
  shared : here.1.left.hasObject id = true → id = object1

namespace Placing

variable {object1 object2 id : ObjectId}

theorem proper (placing : Placing low here object1 id) : id ≠ .null := by
  rintro rfl
  have absent := placing.absent
  rw [placing.steady.dest.sound.hasObject_null] at absent
  simp at absent

/-- What is done once the object is in the destination. -/
theorem finish (placing : Placing low here object1 id) {dest : Graph} {valid : Bool} {α : Type}
    {next : Run Progress α} {good : α → Progress × Supply → Prop}
    (tame : dest.Tame here.2.next)
    (more : ∀ {other}, dest.hasObject other = true → other = id ∨
      here.1.dest.hasObject other = true)
    (rest : ∀ there, Steady low there → there.1.left = here.1.left →
      (∀ other, there.1.leftMap.object? other =
        if other = object1 then some id else here.1.leftMap.object? other) →
      Run.Passes next there good) :
    Run.Passes (do
        attemptDest fun graph => graph.setValid id valid
        pairObjects object1 object2 id
        next) ({ here.1 with dest := dest }, here.2) good := by
  have steady := placing.steady
  refine Run.ends_bind (fun _ there => ∃ last, there = ({ here.1 with dest := last }, here.2) ∧
      last.Tame here.2.next ∧ ∀ {other}, last.hasObject other = true →
        other = id ∨ here.1.dest.hasObject other = true)
    (passes_attemptDest fun last done => ⟨last, rfl, tame.setValid placing.proper done, ?_⟩) ?_
  · intro other present
    obtain ⟨old, -, rfl⟩ := (dest.setValid_eq_ok_iff).1 done
    have present' : (dest.putPlacement id { old with valid := valid }).hasObject other = true :=
      present
    rw [Graph.hasObject_putPlacement, Bool.or_eq_true, decide_eq_true_eq] at present'
    exact present'.elim .inl more
  rintro _ _ ⟨last, rfl, tame', more'⟩
  have mapped (other : ObjectId) : (here.1.leftMap.setObject object1 id).object? other =
      if other = object1 then some id else here.1.leftMap.object? other :=
    Correspondence.object?_setObject ..
  refine Run.ends_bind (fun _ there =>
      there = ({ here.1 with dest := last }.withPair object1 object2 id, here.2))
    (passes_pairObjects rfl) ?_
  rintro _ _ rfl
  refine rest _ ?_ rfl mapped
  exact { steady with
    dest := tame'
    named := fun {other} present shared => by
      show other = .null ∨ ((here.1.leftMap.setObject object1 id).object? other).isSome = true
      rw [mapped]
      split
      case isTrue => exact .inr rfl
      case isFalse different =>
        rcases more' present with rfl | old
        · exact absurd (placing.shared shared) different
        · exact steady.named old shared }

end Placing

/-- The specifier of a joint address is that of a leading one. -/
theorem leading_join {toList : Bool} {specifier1 specifier2 specifier : Specifier}
    (leading1 : specifier1.Leading) (leading2 : specifier2.Leading)
    (joined : Specifier.join toList specifier1 specifier2 = some specifier) :
    specifier.Leading := by
  rcases leading1 with rfl | rfl <;> rcases leading2 with rfl | rfl <;> cases toList <;>
    simp_all [Specifier.join, Specifier.Leading]

/-- The join of the kinds of regions and list segments is one of them. -/
theorem shapely_join {object1 object2 : Object} {kind : Kind} {status : Status}
    (shapely1 : object1.Shapely) (shapely2 : object2.Shapely)
    (joined : object1.kind.join object2.kind = some (kind, status)) :
    kind = .region ∨ kind.isList = true := by
  have list {kind : Kind} (isList : kind.isList = true) :
      ∃ head next prev least, kind = .list head next prev least := by
    cases kind <;> simp_all [Kind.isList]
  rcases shapely1.kind with region1 | list1
  · rcases shapely2.kind with region2 | list2
    · rw [region1, region2, Kind.join, Option.some.injEq, Prod.mk.injEq] at joined
      exact .inl joined.1.symm
    · obtain ⟨head, next, prev, least, isList⟩ := list list2
      simp only [region1, isList, Kind.join, Option.ite_none_right_eq_some, Option.some.injEq,
        Prod.mk.injEq] at joined
      exact .inr (joined.2.1 ▸ rfl)
  · obtain ⟨head, next, prev, least, isList1⟩ := list list1
    rcases shapely2.kind with region2 | list2
    · simp only [region2, isList1, Kind.join, Option.ite_none_right_eq_some, Option.some.injEq,
        Prod.mk.injEq] at joined
      exact .inr (joined.2.1 ▸ rfl)
    · obtain ⟨head', next', prev', least', isList2⟩ := list list2
      simp only [isList1, isList2, Kind.join, Option.ite_none_right_eq_some, Option.some.injEq,
        Prod.mk.injEq] at joined
      exact .inr (joined.2.1 ▸ rfl)

namespace Steady

theorem joinTargets (steady : Steady low here) {target1 target2 : ObjectId}
    (proper1 : target1 ≠ .null)
    (proper2 : target2 ≠ .null) (free : here.1.leftMap.object? target1 = none) :
    Steadily low (Join.joinTargets target1 target2) here fun _ _ => True := by
  unfold Join.joinTargets
  refine Run.passes_demand fun object1 found1 => Run.passes_demand fun object2 found2 => ?_
  rw [Graph.object_eq_ok_iff] at found1 found2
  have shapely1 := steady.left.shapely found1 proper1
  have shapely2 := steady.right.shapely found2 proper2
  refine Run.ends_bind_of_ok (Run.state_apply _) ?_
  dsimp only
  split
  case isTrue => exact Run.ends_pure ⟨steady, trivial⟩
  case isFalse =>
    split
    case h_2 => exact Run.ends_pure ⟨steady, trivial⟩
    case h_1 kind status level isKind isLevel =>
      refine (steady.objectName (Graph.hasObject_of_object? found1) proper1 free).bind ?_
      rintro id ⟨progress, now⟩ ⟨steady, rfl, early, absent, shared⟩
      have isGround : level = .ground := by
        rw [steady.levels, shapely1.ground, shapely2.ground] at isLevel
        exact (Option.some.inj isLevel).symm
      have shapely : ({ object1 with level := level, kind := kind } : Object).Shapely :=
        ⟨isGround, shapely_join shapely1 shapely2 isKind⟩
      have placing : Placing low (here.1, now) target1 id := ⟨steady, early, absent, shared⟩
      let dest (heap : Bool) : Graph := here.1.dest.putPlacement id
        ⟨{ object1 with level := level, kind := kind }, true, heap⟩
      have placed (heap : Bool) : Steadily low (do
          attemptDest fun graph => graph.setValid id (here.1.left.isValid target1)
          Join.pairObjects target1 target2 id
          Join.lower status
          return some id) ({ here.1 with dest := dest heap }, now) fun _ _ => True := by
        refine placing.finish (steady.dest.putNew absent early shapely) (fun {other} present => ?_)
          fun there steady _ _ => ?_
        · rw [Graph.hasObject_putPlacement, Bool.or_eq_true, decide_eq_true_eq] at present
          exact present
        · refine (steady.lower status).bind ?_
          rintro _ last ⟨steady, -⟩
          exact Run.ends_pure ⟨steady, trivial⟩
      split
      case isTrue =>
        refine Run.ends_bind_of_ok (modifyDest_apply _ _) ?_
        simp only [Graph.addHeapObject_of_absent absent]
        exact placed true
      case isFalse =>
        refine Run.ends_bind_of_ok (modifyDest_apply _ _) ?_
        simp only [Graph.addObject_of_absent absent]
        exact placed false

theorem destination (steady : Steady low here) {target1 target2 : ObjectId} :
    Steadily low (Join.destination target1 target2) here fun _ _ => True := by
  have proper {id : ObjectId} (different : ¬ id.isNull = true) : id ≠ .null := by
    rintro rfl
    exact different rfl
  unfold Join.destination
  refine Run.ends_bind_of_ok (Run.state_apply _) ?_
  split
  case isTrue => exact Run.ends_pure ⟨steady, trivial⟩
  case isFalse =>
    split
    case h_1 => exact Run.ends_pure ⟨steady, trivial⟩
    case h_2 free _ =>
      split
      case isTrue => exact Run.ends_pure ⟨steady, trivial⟩
      case isFalse nulls =>
        rw [Bool.or_eq_true, not_or] at nulls
        refine (steady.joinTargets (proper nulls.1) (proper nulls.2) free).bind ?_
        rintro made there ⟨steady, -⟩
        exact Run.ends_pure ⟨steady, trivial⟩
    case h_3 => exact Run.ends_pure ⟨steady, trivial⟩

/-- A value becomes the address of a place. -/
theorem addPointer (steady : Steady low here) {value : ValueId} {place : Target}
    (early : value.index < here.2.next) (leading : place.specifier.Leading) :
    Steadily low (do
      attemptDest fun graph => graph.addPointer ⟨value, place⟩
      return value) here fun value there => value.index < there.2.next := by
  refine Run.ends_bind (fun _ there => Steady low there ∧ there.2 = here.2)
    (passes_attemptDest fun dest done => ⟨?_, rfl⟩) ?_
  · refine steady.withDest (steady.dest.addPointer early leading done) fun {id} present => ?_
    obtain ⟨-, -, rfl⟩ := Graph.addPointer_eq_ok_iff.1 done
    exact present
  · rintro _ there ⟨steady, same⟩
    exact Run.ends_pure ⟨steady, (same ▸ early : value.index < there.2.next)⟩

theorem addressName (steady : Steady low here) (early : value1.index < low) {place : Target}
    (leading : place.specifier.Leading) :
    Steadily low (Join.addressName value1 value2 place) here fun value there =>
      value.index < there.2.next := by
  unfold Join.addressName
  refine Run.ends_bind_of_ok (Run.ask_apply _ _) ?_
  split
  case h_1 existing found =>
    split
    case isTrue =>
      obtain ⟨pointer, listed, rfl⟩ := Option.map_eq_some_iff.1 found
      have leads := Graph.mem_pointers_iff.1 (List.mem_of_find?_eq_some listed)
      exact Run.ends_pure ⟨steady, steady.dest.value_lt (Graph.hasValue_of_target? leads)⟩
    case isFalse => exact steady.addPointer (steady.lt early) leading
  case h_2 =>
    refine (steady.valueName early).bind ?_
    rintro value middle ⟨steady, -, drawn⟩
    exact steady.addPointer drawn leading

/-- A part of a join that goes down from a pair of objects keeps all steady. -/
def Descends (descend : Descend) : Prop :=
  ∀ {low here} object1 object2 dest levelDiff, Steady low here →
    Steadily low (descend object1 object2 dest levelDiff) here fun _ _ => True

theorem foldAt (steady : Steady low here) (setting : Setting) (object : ObjectId) :
    Steadily low (Join.foldAt setting object) here fun _ there => there.2 = here.2 := by
  unfold Join.foldAt
  split
  · exact Run.ends_of_ok (Run.ask_apply _ _) ⟨steady, rfl⟩
  · exact Run.ends_pure ⟨steady, rfl⟩

variable {setting : Setting} {descend : Descend} {target1 target2 : Target} {levelDiff : Int}
variable {holderLevel : Level}

theorem joinAddresses (steady : Steady low here) (descends : Descends descend)
    (early : value1.index < low) (leading1 : target1.specifier.Leading)
    (leading2 : target2.specifier.Leading) :
    Steadily low (Join.joinAddresses setting descend value1 value2 target1 target2 levelDiff
      holderLevel) here Drawn := by
  unfold Join.joinAddresses
  split
  case isTrue => exact steady.noJoin setting
  case isFalse =>
    refine (steady.destination).bind ?_
    rintro (_ | destination) middle ⟨steady, -⟩
    · exact steady.noJoin setting
    refine Run.passes_demand fun object _ => Run.passes_demand fun joint isSpecifier => ?_
    cases joint with
    | none => exact steady.noJoin setting
    | some specifier =>
        have leading : specifier.Leading :=
          leading_join leading1 leading2 (join_of_specifier? isSpecifier)
        refine (steady.addressName early (show (Target.mk _ _ specifier).specifier.Leading from
          leading)).bind ?_
        rintro dest middle ⟨steady, drawn⟩
        refine (steady.pairValues drawn).bind ?_
        rintro _ middle' ⟨steady, same⟩
        replace drawn : dest.index < middle'.2.next := same ▸ drawn
        cases destination with
        | known => exact Run.ends_pure ⟨steady, drawn⟩
        | made id =>
            refine (descends _ _ _ _ steady.now).bind ?_
            rintro joined last ⟨later, -⟩
            have steady : Steady low last :=
              { later with started := Nat.le_trans steady.started later.started }
            cases joined with
            | false => exact Run.ends_pure ⟨steady, trivial⟩
            | true =>
                refine (steady.foldAt setting id).bind ?_
                rintro fold there ⟨steady, same⟩
                refine Run.ends_pure ⟨steady, ?_⟩
                show dest.index < there.2.next
                rw [same]
                exact later.lt drawn

/-- Joining two values. -/
theorem joinValuePair (steady : Steady low here) (descends : Descends descend)
    (early : value1.index < low) (size : Nat) :
    Steadily low (Join.joinValuePair setting descend value1 value2 size levelDiff holderLevel) here
      Drawn := by
  unfold Join.joinValuePair
  refine Run.ends_bind_of_ok (Run.state_apply _) ?_
  split
  case h_1 value isJoint =>
    refine Run.ends_pure ⟨steady, ?_⟩
    unfold jointValue? at isJoint
    split at isJoint
    · obtain rfl := Option.some.inj isJoint
      exact steady.left.positive
    · exact steady.joined isJoint
  case h_2 =>
    split
    case isTrue => exact Run.ends_pure ⟨steady, trivial⟩
    case isFalse =>
      split
      case h_1 => exact steady.joinNumbers early size levelDiff
      case h_2 target1 target2 leads1 leads2 =>
        exact steady.joinAddresses descends early
          (steady.left.leading (address?_eq_some_iff.1 leads1).2)
          (steady.right.leading (address?_eq_some_iff.1 leads2).2)
      case h_3 => exact steady.noJoin setting

end Steady

end Join

end ShapeDomain
