import ShapeDomain.Proofs.Graph.Parts
import ShapeDomain.Proofs.Join.Apart
import ShapeDomain.Proofs.Join.Clipping
import ShapeDomain.Proofs.Join.Relaying
import ShapeDomain.Proofs.Join.Unmapped

/-!
# Joins of enclosed parts

A join starts from the variables and goes on along addresses.  So it never leaves parts of the two
graphs that variables, fields and addresses do not lead out of, and it goes through in the same way
on graphs that say the same of these parts.
-/

namespace ShapeDomain

open ShapeDomain.Graph (Part AgreeOn Encloses)

/-! ### Aligning -/

namespace Alignment

variable {part part1 part2 : Part} {start : Nat} {origin : Graph} {object : ObjectId}

/-- The same of a part stays true while one of its objects is laid out anew. -/
theorem agreeOn_lasts (inside : part.objects object) :
    Lasts (AgreeOn part) object fun _ => true where
  valid agree := agree.isValid inside
  held agree range _ := agree.valueAt? inside range
  addValue agree := agree.addValue
  removeField agree _ holder _ := agree.removeField (holder ▸ inside)
  addField agree _ holder _ added := agree.addField (holder ▸ inside) added

/-- Aligning objects of two parts goes through in the same way on graphs that say the same of the
parts. -/
theorem lifts_align {object1 object2 : ObjectId} (inside1 : part1.objects object1)
    (inside2 : part2.objects object2) :
    Run.Lifts (Beside (AgreeOn part1) (AgreeOn part2)) (align object1 object2) := by
  rw [align_eq]
  refine (Run.lifts_demand fun both => both.1.object (.inl inside1)).bind fun source1 => ?_
  refine (Run.lifts_demand fun both => both.2.object (.inl inside2)).bind fun source2 => ?_
  split
  case isTrue => exact Run.lifts_pure _
  case isFalse =>
    refine Run.Lifts.ask_bind (fun here => Run.Lifts.ask_bind (fun there => ?_) ?_) ?_
    · exact lifts_alignFields (agreeOn_lasts inside1) (agreeOn_lasts inside2)
        (fun field member => (Graph.mem_fieldsOf_iff.1 member).1)
        fun field member => (Graph.mem_fieldsOf_iff.1 member).1
    · intro here there both
      simp only [both.2.fieldsOf inside2]
    · intro here there both
      simp only [both.1.fieldsOf inside1]

/-- A graph that is laid out anew, of which nothing leads out of a part. -/
structure Enclosed (part : Part) (start : Nat) (origin : Graph) (here : Graph × Supply) : Prop where
  /-- Nothing leads out of the part. -/
  encloses : Encloses part start here.1
  /-- The objects are still the same. -/
  objects : here.1.objects = origin.objects
  /-- Names are drawn from this position on. -/
  time : start ≤ here.2.next

/-- Aligning does not lead out of a part: new values belong to every part. -/
theorem keeps_enclosed : Keeps (Enclosed part start origin) where
  later enclosed after :=
    ⟨enclosed.encloses, enclosed.objects, Nat.le_trans enclosed.time after⟩
  removeField enclosed field := ⟨enclosed.encloses.removeField field,
    (Graph.objects_removeField field).trans enclosed.objects, enclosed.time⟩
  addZero enclosed added := ⟨enclosed.encloses.addField enclosed.encloses.zero added,
    (Graph.objects_of_addField added).trans enclosed.objects, enclosed.time⟩
  addNew enclosed added :=
    ⟨(enclosed.encloses.addValue _).addField (enclosed.encloses.late enclosed.time) added,
      (Graph.objects_of_addField added).trans enclosed.objects, Nat.le_succ_of_le enclosed.time⟩

end Alignment

namespace Join

/-! ### What stays inside -/

/-- A part of each of two joined graphs, and another left graph that says the same of the left
part. -/
structure Stage where
  /-- The left graph. -/
  left : Graph
  /-- Another one. -/
  other : Graph
  /-- A part of the left graph. -/
  leftPart : Part
  /-- A part of the right graph. -/
  rightPart : Part
  /-- Where the supply stands. -/
  start : Nat
  /-- Both left graphs say the same of the left part. -/
  agree : AgreeOn leftPart left other

/-- A join has not left the parts, and few objects of the left graph and of the other one have no
counterparts. -/
structure Inside (stage : Stage) (room room' : Nat) (here : Progress × Supply) : Prop where
  /-- Nothing leads out of the left part. -/
  left : Encloses stage.leftPart stage.start here.1.left
  /-- Nothing leads out of the right part. -/
  right : Encloses stage.rightPart stage.start here.1.right
  /-- The left objects are still the same. -/
  objects : here.1.left.objects = stage.left.objects
  /-- Left values with counterparts are in the left part. -/
  leftValues : ∀ {value}, (here.1.leftMap.value? value).isSome = true → stage.leftPart.values value
  /-- Right values with counterparts are in the right part. -/
  rightValues : ∀ {value}, (here.1.rightMap.value? value).isSome = true →
    stage.rightPart.values value
  /-- Names are drawn from this position on. -/
  time : stage.start ≤ here.2.next
  /-- The number of left objects without counterparts is bounded. -/
  few : unmapped stage.left here.1.leftMap ≤ room
  /-- So is that of objects of the other graph. -/
  few' : unmapped stage.other here.1.leftMap ≤ room'

/-- The progress of a join on graphs that say the same of the parts. -/
abbrev Stage.Related (stage : Stage) : Progress → Progress → Prop :=
  SameInputs (AgreeOn stage.leftPart) (AgreeOn stage.rightPart)

/-- The first of two computations does not leave the parts, and the second one goes through like it
on graphs that say the same of them. -/
abbrev Confined {α : Type} (stage : Stage) (room room' : Nat) (first second : Run Progress α)
    (here : Progress × Supply) (good : α → Prop) : Prop :=
  Run.Carries stage.Related first second here fun result there =>
    Inside stage room room' there ∧ good result

variable {stage : Stage} {room room' : Nat} {here there : Progress × Supply}
variable {setting : Setting} {value1 value2 : ValueId} {levelDiff : Int} {holderLevel : Level}
variable {α : Type}

/-- An object was made, so that fewer objects than before have no counterparts. -/
def Made (stage : Stage) (room room' : Nat) (here : Progress × Supply) : Prop :=
  ∃ less less', less < room ∧ less' < room' ∧ Inside stage less less' here

namespace Inside

theorem mono (inside : Inside stage room room' here) {more more' : Nat} (le : room ≤ more)
    (le' : room' ≤ more') : Inside stage more more' here :=
  { inside with few := Nat.le_trans inside.few le, few' := Nat.le_trans inside.few' le' }

theorem of_untouched (inside : Inside stage room room' here) (untouched : Untouched here there) :
    Inside stage room room' there where
  left := untouched.left ▸ inside.left
  right := untouched.right ▸ inside.right
  objects := untouched.left ▸ inside.objects
  leftValues mapped := inside.leftValues (untouched.leftValues _ ▸ mapped)
  rightValues mapped := inside.rightValues (untouched.rightValues _ ▸ mapped)
  time := Nat.le_trans inside.time untouched.time
  few := Nat.le_trans (unmapped_le fun _ => untouched.copied) inside.few
  few' := Nat.le_trans (unmapped_le fun _ => untouched.copied) inside.few'

theorem pure (inside : Inside stage room room' here) {result : α} {good : α → Prop}
    (holds : good result) : Confined stage room room' (pure result) (pure result) here good :=
  Run.carries_pure ⟨inside, holds⟩

/-- A step apart from the joined graphs. -/
theorem apart (inside : Inside stage room room' here) {computation : Run Progress α}
    (apart : Apart computation) :
    Confined stage room room' computation computation here fun _ => True :=
  (apart.lifts _ _).carries ((apart.untouched here).mono fun _ _ untouched =>
    ⟨inside.of_untouched untouched, trivial⟩)

/-- Steps apart from the joined graphs come first. -/
theorem apart_bind (inside : Inside stage room room' here) {β : Type} {first : Run Progress β}
    (apart : Apart first) {next1 next2 : β → Run Progress α} {good : α → Progress × Supply → Prop}
    (rest : ∀ result there, Inside stage room room' there →
      Run.Carries stage.Related (next1 result) (next2 result) there good) :
    Run.Carries stage.Related (first >>= next1) (first >>= next2) here good :=
  (inside.apart apart).bind fun result there both => rest result there both.1

/-! ### Values -/

theorem pairValues (inside : Inside stage room room' here) (part1 : stage.leftPart.values value1)
    (part2 : stage.rightPart.values value2) (dest : ValueId) :
    Confined stage room room' (pairValues value1 value2 dest) (Join.pairValues value1 value2 dest)
      here fun _ => True := by
  have kept {part : Part} {map : Correspondence} {source value : ValueId}
      (mapped : ((setUnlessZero map source dest).value? value).isSome = true)
      (old : (map.value? value).isSome = true → part.values value) (new : part.values source) :
      part.values value := by
    rw [value?_setUnlessZero] at mapped
    split at mapped
    case isTrue same => exact same.1 ▸ new
    case isFalse => exact old mapped
  have copied (id : ObjectId) (isSome : (here.1.leftMap.object? id).isSome = true) :
      ((here.1.withJoint value1 value2 dest).leftMap.object? id).isSome = true := by
    show ((setUnlessZero here.1.leftMap value1 dest).object? id).isSome = true
    rw [object?_setUnlessZero]
    exact isSome
  refine (lifts_pairValues value1 value2 dest).carries (passes_pairValues ⟨?_, trivial⟩)
  exact { inside with
    leftValues := fun mapped => kept mapped inside.leftValues part1
    rightValues := fun mapped => kept mapped inside.rightValues part2
    few := Nat.le_trans (unmapped_le copied) inside.few
    few' := Nat.le_trans (unmapped_le copied) inside.few' }

/-- An address leads to a list segment in both graphs or in none. -/
theorem pointsToList {part : Part} {start : Nat} {graph other : Graph} {value : ValueId}
    (encloses : Encloses part start graph) (agree : AgreeOn part graph other)
    (inside : part.values value) : pointsToList other value = Join.pointsToList graph value := by
  unfold Join.pointsToList
  rw [agree.target? inside]
  cases leads : graph.target? value with
  | none => rfl
  | some target =>
      rw [Option.bind_some, Option.bind_some, agree.object? (encloses.sees inside leads)]

theorem noJoin (inside : Inside stage room room' here) (part1 : stage.leftPart.values value1)
    (part2 : stage.rightPart.values value2) :
    Confined stage room room' (noJoin setting value1 value2)
      (Join.noJoin setting value1 value2) here
      fun _ => True := by
  refine Run.carries_state ?_ (inside.pure trivial)
  rintro _ ⟨left, right⟩
  simp only [pointsToList inside.left left part1, pointsToList inside.right right part2]

theorem joinNumbers (inside : Inside stage room room' here) (part1 : stage.leftPart.values value1)
    (part2 : stage.rightPart.values value2) (size : Nat) :
    Confined stage room room' (joinNumbers value1 value2 size levelDiff)
      (Join.joinNumbers value1 value2 size levelDiff) here fun _ => True := by
  refine Run.carries_state ?_ ?_
  · rintro _ ⟨left, right⟩
    simp only [left.number? part1, right.number? part2]
  · dsimp only
    split
    case h_1 a b _ _ =>
      split
      case isFalse => exact inside.pure trivial
      case isTrue =>
        refine inside.apart_bind (apart_numberName value1 value2 a size) fun dest there inside => ?_
        have rest {there : Progress × Supply} (inside : Inside stage room room' there) :
            Confined stage room room' (do
              Join.pairValues value1 value2 dest
              return ValueJoin.joined dest none) (do
              Join.pairValues value1 value2 dest
              return ValueJoin.joined dest none) there fun _ => True :=
          (inside.pairValues part1 part2 dest).bind fun _ _ both => both.1.pure trivial
        cases dest.isZero with
        | true => exact rest inside
        | false => exact inside.apart_bind (apart_modifyDest _) fun _ _ inside => rest inside
    case h_2 =>
      refine inside.apart_bind (apart_valueName value1 value2) fun dest _ inside => ?_
      refine (inside.pairValues part1 part2 dest).bind fun _ _ both => ?_
      exact both.1.apart_bind (apart_lower _) fun _ _ inside => inside.pure trivial

/-! ### Objects that addresses lead to -/

/-- A pair of objects of which the left one had no counterpart gets one. -/
theorem pairObjects (inside : Inside stage room room' here) {object1 object2 dest : ObjectId}
    {source : Object} (part1 : stage.leftPart.objects object1)
    (found : here.1.left.object? object1 = some source)
    (free : here.1.leftMap.object? object1 = none) :
    Run.Carries stage.Related (pairObjects object1 object2 dest)
      (Join.pairObjects object1 object2 dest) here fun _ there => Made stage room room' there := by
  refine ((apart_pairObjects object1 object2 dest).lifts _ _).carries (passes_pairObjects ?_)
  have grown (id : ObjectId) := @Progress.copied_withPair here.1 object1 object2 dest id
  have mapped := here.1.mapped_withPair object1 object2 dest
  have isLeft : stage.left.object? object1 = some source := by
    rwa [Graph.object?, inside.objects, ← Graph.object?] at found
  have isOther : stage.other.object? object1 = some source :=
    (stage.agree.object? (.inl part1)).trans isLeft
  exact ⟨_, _, Nat.lt_of_lt_of_le (unmapped_lt grown isLeft free mapped) inside.few,
    Nat.lt_of_lt_of_le (unmapped_lt grown isOther free mapped) inside.few',
    { inside with few := Nat.le_refl _, few' := Nat.le_refl _ }⟩

/-- Where two addresses lead: an object is made only for a left object that had no counterpart. -/
def Found (stage : Stage) (room room' : Nat) : Option Destination → Progress × Supply → Prop
  | some (.made _) => Made stage room room'
  | _ => Inside stage room room'

theorem of_onlyDest (inside : Inside stage room room' here) (only : OnlyDest here there) :
    Inside stage room room' there := by
  obtain ⟨dest, now, rfl, after⟩ := only
  exact { inside with time := Nat.le_trans inside.time after }

theorem joinTargets (inside : Inside stage room room' here) {target1 target2 : ObjectId}
    (part1 : stage.leftPart.objects target1) (part2 : stage.rightPart.objects target2)
    (free : here.1.leftMap.object? target1 = none) :
    Run.Carries stage.Related (joinTargets target1 target2) (Join.joinTargets target1 target2) here
      fun found there => Found stage room room' (found.map .made) there := by
  unfold Join.joinTargets
  refine Run.carries_demand ?_ fun object1 found1 => Run.carries_demand ?_ fun object2 _ =>
    Run.carries_state ?_ ?_
  · rintro _ ⟨left, -⟩
    exact left.object (.inl part1)
  · rintro _ ⟨-, right⟩
    exact right.object (.inl part2)
  · rintro _ ⟨left, right⟩
    simp only [left.isValid part1, right.isValid part2, left.isHeap part1, right.isHeap part2]
  · rw [Graph.object_eq_ok_iff] at found1
    dsimp only
    split
    case isTrue => exact Run.carries_pure inside
    case isFalse =>
      split
      case h_2 => exact Run.carries_pure inside
      case h_1 kind status level _ _ =>
        -- up to here the left object has no counterpart
        have unpaired {there : Progress × Supply} (only : OnlyDest here there) (id : ObjectId) :
            Run.Carries stage.Related (do
                Join.pairObjects target1 target2 id
                lower status
                return some id) (do
                Join.pairObjects target1 target2 id
                lower status
                return some id) there
              fun found there => Found stage room room' (found.map .made) there := by
          have inside := inside.of_onlyDest only
          obtain ⟨dest, now, rfl, -⟩ := only
          refine (inside.pairObjects part1 found1 free).bind fun _ _ made => ?_
          obtain ⟨less, less', lt, lt', inside⟩ := made
          exact inside.apart_bind (apart_lower status) fun _ _ inside =>
            Run.carries_pure ⟨less, less', lt, lt', inside⟩
        refine (((apart_objectName target1 target2).lifts _ _).carries
          (onlyDest_objectName target1 target2 here)).bind fun id _ named => ?_
        have validated {there : Progress × Supply} (only : OnlyDest here there) :
            Run.Carries stage.Related (do
                attemptDest fun graph => graph.setValid id (here.1.left.isValid target1)
                Join.pairObjects target1 target2 id
                lower status
                return some id) (do
                attemptDest fun graph => graph.setValid id (here.1.left.isValid target1)
                Join.pairObjects target1 target2 id
                lower status
                return some id) there
              fun found there => Found stage room room' (found.map .made) there :=
          (((apart_attemptDest _).lifts _ _).carries (onlyDest_attemptDest _ there)).bind
            fun _ _ set => unpaired (only.trans set) id
        split
        · exact (((apart_modifyDest _).lifts _ _).carries (onlyDest_modifyDest _ _)).bind
            fun _ _ added => validated (named.trans added)
        · exact (((apart_modifyDest _).lifts _ _).carries (onlyDest_modifyDest _ _)).bind
            fun _ _ added => validated (named.trans added)

end Inside

end Join

end ShapeDomain
