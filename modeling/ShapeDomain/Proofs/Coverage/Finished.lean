import ShapeDomain.Proofs.Coverage.Cells
import ShapeDomain.Proofs.Progress.Graphs

/-!
# What a finished join says

When two objects are joined, what they hold in their aligned ranges has joint values.  From these it
can be read off whether addresses lead to the same places and what is known of numbers.  Where no
list nodes are folded, this holds of all objects that meet, and a join says that the right graph
covers the left one exactly if all that meets fits.
-/

namespace ShapeDomain

namespace Graph

/-- The zero value is known to be zero. -/
def ZeroIsZero (graph : Graph) : Prop :=
  graph.number? .zero = some 0

instance (graph : Graph) : Decidable graph.ZeroIsZero :=
  inferInstanceAs (Decidable (_ = _))

/-- A field that holds a number which is zero within the width of the field holds the zero value. -/
def OnlyZero (graph : Graph) : Prop :=
  ∀ {value number size}, graph.HoldsAt value size → graph.number? value = some number →
    Number.wrap number size false = 0 → value = .zero

theorem onlyZero_iff {graph : Graph} : graph.OnlyZero ↔
    ∀ field ∈ graph.fields, ∀ number ∈ graph.number? field.value,
      Number.wrap number field.range.size false = 0 → field.value = .zero := by
  constructor
  · intro only field member number isNumber zero
    exact only (holdsAt_iff.2 ⟨field, member, rfl, rfl⟩) isNumber zero
  · intro only value number size holds isNumber zero
    obtain ⟨field, member, rfl, rfl⟩ := holdsAt_iff.1 holds
    exact only field member number isNumber zero

instance (graph : Graph) : Decidable graph.OnlyZero :=
  decidable_of_iff _ onlyZero_iff.symm

end Graph

namespace Join

variable {basis : Basis} {path waiting : List ObjectPair} {here : Progress × Supply}
variable {object1 object2 other1 other2 : ObjectId} {range : BitRange} {cell1 cell2 : Cell}
variable {value1 value2 value : ValueId}

/-! ### Objects with the same counterpart -/

namespace Invariant

variable (invariant : Invariant basis path waiting here)

include invariant

/-- Without folding no object has the same counterpart as two. -/
theorem relates_iff (still : ¬ basis.Folds) (relates : here.1.Relates object1 object2)
    (relates' : here.1.Relates other1 other2) : object1 = other1 ↔ object2 = other2 := by
  obtain ⟨image, left, right⟩ := relates
  obtain ⟨image', left', right'⟩ := relates'
  have region := invariant.isList_eq_false still image
  constructor
  · rintro rfl
    obtain rfl := Option.some.inj (left.symm.trans left')
    exact (invariant.rightMap.unique right right').resolve_right (by simp [region])
  · rintro rfl
    obtain rfl := Option.some.inj (right.symm.trans right')
    exact (invariant.leftMap.unique left left').resolve_right (by simp [region])

/-- Objects with the same counterpart have the same size. -/
theorem size_of_relates (relates : here.1.Relates object1 object2) : ∃ source1 source2,
    basis.left.object? object1 = some source1 ∧ basis.right.object? object2 = some source2 ∧
      source1.size = source2.size := by
  obtain ⟨image, left, right⟩ := relates
  obtain ⟨-, -, source1, joint1, found1, there1, size1⟩ := invariant.leftMap.source left
  obtain ⟨-, -, source2, joint2, found2, there2, size2⟩ := invariant.rightMap.source right
  obtain rfl := Option.some.inj (there1.symm.trans there2)
  exact ⟨source1, source2, found1, found2, size1.symm.trans size2⟩

/-- Either both of them may be accessed or none of them. -/
theorem valid_of_relates (relates : here.1.Relates object1 object2) :
    basis.left.isValid object1 = basis.right.isValid object2 := by
  obtain ⟨image, left, right⟩ := relates
  rw [← invariant.leftMap.valid left, invariant.rightMap.valid right]

end Invariant

/-! ### Joined contents -/

/-- The contents of two objects in an aligned range have a joint value. -/
structure CellsJoined (basis : Basis) (here : Progress × Supply) (object1 object2 : ObjectId)
    (range : BitRange) (cell1 cell2 : Cell) (value1 value2 value : ValueId) : Prop where
  /-- The left object holds the left value. -/
  held1 : here.1.left.valueAt? object1 range = some value1
  /-- The right object holds the right value. -/
  held2 : here.1.right.valueAt? object2 range = some value2
  /-- The left value stands for the left contents. -/
  stands1 : Stands basis.start object1 range cell1 value1
  /-- The right value stands for the right contents. -/
  stands2 : Stands basis.start object2 range cell2 value2
  /-- The values have a joint value. -/
  joint : jointValue? here.1 value1 value2 = some value

/-- What two joined objects hold has joint values. -/
theorem Settled.exists_joined (settled : Settled basis here.1 object1 object2)
    (is1 : cell? basis.left basis.right object1 object2 range = some cell1)
    (is2 : cell? basis.right basis.left object2 object1 range = some cell2) :
    ∃ value1 value2 value,
      CellsJoined basis here object1 object2 range cell1 cell2 value1 value2 value := by
  obtain ⟨value1, held1, stands1⟩ :=
    exists_value basis.leftPlain.positive (settled.realized.left range) is1
  obtain ⟨value2, held2, stands2⟩ :=
    exists_value basis.leftPlain.positive (settled.realized.right range) is2
  obtain ⟨value, joint⟩ := Option.isSome_iff_exists.1 (settled.joint held1 held2)
  exact ⟨value1, value2, value, held1, held2, stands1, stands2, joint⟩

/-- What two joined objects hold in the same range has a joint value. -/
theorem Settled.exists_joined_of_held (settled : Settled basis here.1 object1 object2)
    (held1 : basis.left.valueAt? object1 range = some value1)
    (held2 : basis.right.valueAt? object2 range = some value2) : ∃ there1 there2 value,
      CellsJoined basis here object1 object2 range (.value value1) (.value value2) there1 there2
        value := by
  have tiled1 := basis.leftPlain.sound.tiled
  have tiled2 := basis.rightPlain.sound.tiled
  have shared : Shared basis.left basis.right object1 object2 range :=
    shared_of_held tiled1 tiled2 held1 (not_cuts_of_held tiled2 held2)
  exact settled.exists_joined
    (cell?_eq_some_iff.2 ⟨shared, (cellAt_of_held tiled1 held1).symm⟩)
    (cell?_eq_some_iff.2 ⟨shared.symm, (cellAt_of_held tiled2 held2).symm⟩)

namespace CellsJoined

variable (joined : CellsJoined basis here object1 object2 range cell1 cell2 value1 value2 value)
variable (invariant : Invariant basis path waiting here)

include joined invariant

theorem address?_left : cell1.address? basis.left = address? here.1.left value1 :=
  joined.stands1.address? basis.leftPlain invariant.left

theorem address?_right : cell2.address? basis.right = address? here.1.right value2 :=
  joined.stands2.address? basis.rightPlain invariant.right

/-- The targets of the values fit. -/
theorem agree : Agree here.1 value1 value2 value := by
  rcases jointValue?_eq_some_iff.1 joined.joint with ⟨rfl, rfl, rfl⟩ | ⟨-, isJoint⟩
  · exact .plain rfl rfl (.inl rfl)
  · exact (invariant.joined isJoint).agree

/-- Both contents are addresses in objects with the same counterpart, or none of them is an
address. -/
theorem address_cases :
    (cell1.address? basis.left = none ∧ cell2.address? basis.right = none) ∨
    ∃ target1 target2 image, cell1.address? basis.left = some target1 ∧
      cell2.address? basis.right = some target2 ∧ target1.offset = target2.offset ∧
      image? here.1.leftMap target1.object = some image ∧
      image? here.1.rightMap target2.object = some image := by
  rw [joined.address?_left invariant, joined.address?_right invariant]
  cases joined.agree invariant with
  | plain none1 none2 => exact .inl ⟨none1, none2⟩
  | address leads1 leads2 same =>
      exact .inr ⟨_, _, _, leads1, leads2, same.offset, same.left, same.right⟩

theorem sameAddress : SameAddress basis.left basis.right cell1 cell2 := by
  refine (joined.address_cases invariant).imp_right ?_
  rintro ⟨target1, target2, image, leads1, leads2, offset, left, right⟩
  refine ⟨target1, target2, leads1, leads2, offset, ?_, ?_⟩
  · intro null
    rw [null, image?_null, Option.some.injEq] at left
    exact eq_null_of_image? invariant.rightMap (left ▸ right)
  · intro null
    rw [null, image?_null, Option.some.injEq] at right
    exact eq_null_of_image? invariant.leftMap (right ▸ left)

/-- If the left graph is covered, then what the right graph knows it knows as well, or both contents
are zero. -/
theorem known (covered : here.1.status.leftIsCovered = true)
    (noAddress : cell1.address? basis.left = none) {number2 : Int}
    (isNumber : cell2.number? basis.right = some number2) :
    (cell1 = .zero ∧ cell2 = .zero) ∨ ∃ number1 size, cell1.number? basis.left = some number1 ∧
      NumbersFit basis.left basis.right value1 value2 number1 number2 size := by
  rw [joined.address?_left invariant] at noAddress
  have number1 : cell1.number? basis.left = basis.left.number? value1 :=
    (joined.stands1.number? basis.leftPlain invariant.left).trans (invariant.left.relaid.number? _)
  have number2 : cell2.number? basis.right = basis.right.number? value2 :=
    (joined.stands2.number? basis.rightPlain invariant.right).trans
      (invariant.right.relaid.number? _)
  rw [number1]
  rw [number2] at isNumber
  rcases jointValue?_eq_some_iff.1 joined.joint with ⟨rfl, rfl, rfl⟩ | ⟨-, isJoint⟩
  · exact .inl ⟨joined.stands1.cell_eq_zero basis.leftPlain.positive,
      joined.stands2.cell_eq_zero basis.leftPlain.positive⟩
  · obtain ⟨number1, size, isNumber1, fit⟩ := invariant.known covered isJoint noAddress isNumber
    exact .inr ⟨number1, size, isNumber1, fit⟩

end CellsJoined

/-! ### Without folding -/

namespace Finished

variable (finished : Finished basis here) (still : ¬ basis.Folds)

include finished still

/-- Objects that meet have the same counterpart. -/
theorem exists_image (met : Met basis.left basis.right object1 object2) : ∃ image,
    here.1.leftMap.object? object1 = some image ∧
      here.1.rightMap.object? object2 = some image := by
  have invariant := finished.invariant
  induction met with
  | named named1 named2 =>
      obtain ⟨image, rooted⟩ := finished.rooted named1 named2
      exact ⟨image, rooted.left, rooted.right⟩
  | address _ is1 is2 leads1 leads2 proper1 proper2 ih =>
      obtain ⟨image, mapped1, mapped2⟩ := ih
      obtain ⟨value1, value2, value, joined⟩ :=
        ((invariant.exact still).settled mapped1 mapped2 (by simp)).exists_joined is1 is2
      rcases joined.address_cases invariant with
        ⟨none1, -⟩ | ⟨place1, place2, next, leads1', leads2', -, left, right⟩
      · rw [leads1] at none1
        simp at none1
      · rw [leads1, Option.some.injEq] at leads1'
        rw [leads2, Option.some.injEq] at leads2'
        subst leads1' leads2'
        rw [image?_of_proper proper1] at left
        rw [image?_of_proper proper2] at right
        exact ⟨next, left, right⟩

/-- Objects that meet are joined. -/
theorem settled_of_met (met : Met basis.left basis.right object1 object2) :
    Settled basis here.1 object1 object2 := by
  obtain ⟨image, mapped1, mapped2⟩ := finished.exists_image still met
  exact (finished.invariant.exact still).settled mapped1 mapped2 (by simp)

/-- Contents that are compared have a joint value. -/
theorem exists_joined (compared : Compared basis.left basis.right range cell1 cell2) :
    ∃ object1 object2 value1 value2 value,
      CellsJoined basis here object1 object2 range cell1 cell2 value1 value2 value := by
  obtain ⟨object1, object2, met, is1, is2⟩ := compared
  obtain ⟨value1, value2, value, joined⟩ :=
    (finished.settled_of_met still met).exists_joined is1 is2
  exact ⟨object1, object2, value1, value2, value, joined⟩

/-- No object meets two. -/
theorem oneToOne (met : Met basis.left basis.right object1 object2)
    (met' : Met basis.left basis.right other1 other2) : object1 = other1 ↔ object2 = other2 :=
  finished.invariant.relates_iff still (finished.exists_image still met)
    (finished.exists_image still met')

/-- Only zero has the joint value zero. -/
theorem eq_zero_of_joint (only : basis.left.OnlyZero)
    (isJoint : here.1.joined.get? (value1, value2) = some .zero) : value1 = .zero := by
  obtain ⟨-, number1, number2, size, isNumber, -, fit, zero⟩ :=
    ((finished.invariant.exact still).knows isJoint).zero rfl
  exact fit.left.elim (fun same => same) fun held => only held isNumber zero

/-- Left values other than zero have one right value. -/
theorem right_unique (only : basis.left.OnlyZero) {other2 other : ValueId}
    (proper : value1 ≠ .zero) (joint : jointValue? here.1 value1 value2 = some value)
    (joint' : jointValue? here.1 value1 other2 = some other) : value2 = other2 := by
  have invariant := finished.invariant
  obtain ⟨-, isJoint⟩ := (jointValue?_eq_some_iff.1 joint).resolve_left fun zeros => proper zeros.1
  obtain ⟨-, isJoint'⟩ := (jointValue?_eq_some_iff.1 joint').resolve_left fun zeros =>
    proper zeros.1
  have bound := (invariant.joined isJoint).left.resolve_left proper
  have bound' := (invariant.joined isJoint').left.resolve_left proper
  obtain rfl := Option.some.inj (bound.symm.trans bound')
  rcases (invariant.exact still).single isJoint isJoint' with rfl | same
  · exact absurd (finished.eq_zero_of_joint still only isJoint) proper
  · exact same.2

/-- Right values other than zero have one left value. -/
theorem left_unique (only : basis.left.OnlyZero) {other1 other : ValueId}
    (proper : value2 ≠ .zero) (joint : jointValue? here.1 value1 value2 = some value)
    (joint' : jointValue? here.1 other1 value2 = some other) : value1 = other1 := by
  have invariant := finished.invariant
  obtain ⟨-, isJoint⟩ := (jointValue?_eq_some_iff.1 joint).resolve_left fun zeros =>
    proper zeros.2.1
  obtain ⟨-, isJoint'⟩ := (jointValue?_eq_some_iff.1 joint').resolve_left fun zeros =>
    proper zeros.2.1
  have bound := (invariant.joined isJoint).right.resolve_left proper
  have bound' := (invariant.joined isJoint').right.resolve_left proper
  obtain rfl := Option.some.inj (bound.symm.trans bound')
  rcases (invariant.exact still).single isJoint isJoint' with rfl | same
  · rw [finished.eq_zero_of_joint still only isJoint,
      finished.eq_zero_of_joint still only isJoint']
  · exact same.1

/-- If the left graph is covered, then all that meets fits, numbers apart. -/
theorem fits (covered : here.1.status.leftIsCovered = true) (zero : basis.left.ZeroIsZero)
    (only : basis.left.OnlyZero) : Fits basis.left basis.right where
  scopes := finished.scopes
  size met := by
    obtain ⟨source1, source2, found1, found2, size⟩ :=
      finished.invariant.size_of_relates (finished.exists_image still met)
    rw [found1, found2, Option.map_some, Option.map_some, size]
  valid met := finished.invariant.valid_of_relates (finished.exists_image still met)
  oneToOne met met' := finished.oneToOne still met met'
  whole met := (finished.settled_of_met still met).whole covered
  leftOnce compared compared' := by
    obtain ⟨_, _, value1, value2, value, joined⟩ := finished.exists_joined still compared
    obtain ⟨_, _, value1', value2', value', joined'⟩ := finished.exists_joined still compared'
    obtain rfl := joined.stands1.unique joined'.stands1 joined.held1 joined'.held1
    by_cases proper : value1 = .zero
    · subst proper
      exact .inl (joined.stands1.cell_eq_zero basis.leftPlain.positive)
    · obtain rfl := finished.right_unique still only proper joined.joint joined'.joint
      exact .inr (joined.stands2.congr joined'.stands2 finished.invariant.right joined.held2
        joined'.held2)
  rightOnce compared compared' := by
    obtain ⟨_, _, value1, value2, value, joined⟩ := finished.exists_joined still compared
    obtain ⟨_, _, value1', value2', value', joined'⟩ := finished.exists_joined still compared'
    obtain rfl := joined.stands2.unique joined'.stands2 joined.held2 joined'.held2
    by_cases proper : value2 = .zero
    · subst proper
      exact .inl (joined.stands2.cell_eq_zero basis.leftPlain.positive)
    · obtain rfl := finished.left_unique still only proper joined.joint joined'.joint
      exact .inr (joined.stands1.congr joined'.stands1 finished.invariant.left joined.held1
        joined'.held1)
  addresses compared := by
    obtain ⟨_, _, value1, value2, value, joined⟩ := finished.exists_joined still compared
    exact joined.sameAddress finished.invariant
  known compared noAddress isNumber := by
    obtain ⟨_, _, value1, value2, value, joined⟩ := finished.exists_joined still compared
    rcases joined.known finished.invariant covered noAddress isNumber with
      ⟨rfl, -⟩ | ⟨number1, -, isNumber1, -⟩
    · exact Option.isSome_iff_exists.2 ⟨0, zero⟩
    · exact Option.isSome_iff_exists.2 ⟨number1, isNumber1⟩

/-- If the left graph is covered, then numbers that are paired are the same within the width of some
field that holds them. -/
theorem agreeSomewhere (covered : here.1.status.leftIsCovered = true)
    (zero1 : basis.left.ZeroIsZero) (zero2 : basis.right.ZeroIsZero) :
    AgreeSomewhere basis.left basis.right := by
  intro range value1 value2 number1 number2 compared noAddress isNumber1 isNumber2
  obtain ⟨_, _, held1, held2, value, joined⟩ := finished.exists_joined still compared
  rcases joined.known finished.invariant covered noAddress isNumber2 with
    ⟨is1, is2⟩ | ⟨number, size, isNumber, fit⟩
  · obtain rfl := Cell.value.inj is1
    obtain rfl := Cell.value.inj is2
    obtain rfl := Option.some.inj (isNumber1.symm.trans zero1)
    obtain rfl := Option.some.inj (isNumber2.symm.trans zero2)
    exact ⟨0, by decide, .inl rfl, .inl rfl⟩
  · obtain rfl := joined.stands1.value_eq
    obtain rfl := joined.stands2.value_eq
    obtain rfl := Option.some.inj (isNumber1.symm.trans isNumber)
    exact ⟨size, fit⟩

end Finished

/-- If all that meets fits, then without folding there is a joint graph, and the left graph is
covered. -/
theorem Concluded.covered {outcome : EStateM.Result Fault Supply Outcome}
    (concluded : Concluded basis outcome) (still : ¬ basis.Folds)
    (cover : Cover basis.left basis.right) :
    ∃ dest status now, outcome = .ok (.defined dest status) now ∧ status.leftIsCovered = true := by
  cases concluded with
  | defined finished =>
      exact ⟨_, _, _, rfl, finished.invariant.partners.covered cover.informed⟩
  | undefined unfit => exact absurd cover (unfit still)
  | stopped harmful => exact absurd (fun folds => absurd folds still) harmful

end Join

end ShapeDomain
