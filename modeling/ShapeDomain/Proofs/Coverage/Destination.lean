import Mathlib.Data.Nat.Find
import ShapeDomain.Graph.ReachableLemmas
import ShapeDomain.Proofs.Coverage.Composition
import ShapeDomain.Proofs.Join.Outcome

/-!
# The destination of a finished join

A join without folding leaves a graph that could have been built by a program.  Its objects are the
counterparts of the objects that meet, it reaches all of them, and they hold the joint values of
what meets, in the shared ranges and nowhere else.
-/

namespace ShapeDomain

/-! ### Bits of shared ranges -/

namespace Alignment

variable {cuts : KeySet Nat} {outer : BitRange} {bit : Nat}

/-- Every bit of a range between cuts is in an undivided range within it. -/
theorem exists_elementary (start : cuts.contains outer.offset = true)
    (finish : cuts.contains (outer.offset + outer.size) = true) (lower : outer.offset ≤ bit)
    (upper : bit < outer.offset + outer.size) :
    ∃ range, Elementary cuts range ∧ Within range outer ∧ range.offset ≤ bit ∧
      bit < range.offset + range.size := by
  classical
  -- The range goes from the last cut up to the bit to the first cut after it.
  let isStart (cut : Nat) : Prop := cuts.contains cut = true
  let first := Nat.findGreatest isStart bit
  have after : ∃ cut, bit < cut ∧ isStart cut := ⟨_, upper, finish⟩
  let last := Nat.find after
  have isFirst : isStart first := Nat.findGreatest_spec lower start
  have firstLe : first ≤ bit := Nat.findGreatest_le bit
  have outerLe : outer.offset ≤ first := Nat.le_findGreatest lower start
  obtain ⟨ltLast, isLast⟩ : bit < last ∧ isStart last := Nat.find_spec after
  have lastLe : last ≤ outer.offset + outer.size := Nat.find_min' after ⟨upper, finish⟩
  have size : first + (last - first) = last := by omega
  refine ⟨⟨first, last - first⟩, ⟨?_, isFirst, ?_, fun cut isCut => ?_⟩, ⟨outerLe, ?_⟩, firstLe, ?_⟩
  · show 0 < last - first
    omega
  · show cuts.contains (first + (last - first)) = true
    rw [size]
    exact isLast
  · show cut ≤ first ∨ first + (last - first) ≤ cut
    rw [size]
    by_cases before : cut ≤ bit
    · exact .inl (Nat.le_findGreatest before isCut)
    · exact .inr (Nat.find_min' after ⟨Nat.lt_of_not_le before, isCut⟩)
  · show first + (last - first) ≤ outer.offset + outer.size
    omega
  · show bit < first + (last - first)
    omega

end Alignment

namespace Graph

theorem SameScopes.symm {left right : Graph} (same : left.SameScopes right) :
    right.SameScopes left :=
  ⟨same.globals.symm, same.frames.symm⟩

end Graph

namespace Join

open ShapeDomain.Alignment

/-- Every bit of a field is in a shared range within the field. -/
theorem exists_shared {left : Graph} (right : Graph) {object1 : ObjectId} (object2 : ObjectId)
    {outer : BitRange} {value : ValueId} {bit : Nat} (tiled1 : left.Tiled)
    (held : left.valueAt? object1 outer = some value) (lower : outer.offset ≤ bit)
    (upper : bit < outer.offset + outer.size) :
    ∃ range, Shared left right object1 object2 range ∧ range.offset ≤ bit ∧
      bit < range.offset + range.size := by
  have member : ⟨object1, outer, value⟩ ∈ left.fieldsOf object1 := Graph.mem_fieldsOf.2 held
  have cuttable := cuttable1 tiled1 right object2 _ member
  obtain ⟨range, elementary, within, lower', upper'⟩ :=
    exists_elementary cuttable.start (cuttable.exact ▸ cuttable.finish) lower upper
  exact ⟨range, mem_sharedRanges_iff.2 (.inl ((mem_allPieces_iff (cuttable1 tiled1 right object2)).2
    ⟨elementary, _, member, within⟩)), lower', upper'⟩

variable {basis : Basis} {path waiting : List ObjectPair} {here : Progress × Supply}
variable {object1 object2 image : ObjectId} {range : BitRange} {cell1 cell2 : Cell}
variable {value1 value2 value : ValueId}

/-! ### Joint values -/

/-- A value that is known to be a number, other than zero, is held by the range that it stands for
the contents of. -/
theorem Stands.holdsAt {start : Nat} {graph : Graph} {object : ObjectId} {cell : Cell}
    {number : Int}
    (stands : Stands start object range cell value) (isCell : cell = cellAt graph object range)
    (tiled : graph.Tiled) (positive : 0 < range.size) (isNumber : cell.number? graph = some number)
    (proper : value ≠ .zero) : graph.HoldsAt value range.size := by
  cases stands with
  | value => exact ⟨object, range, held_of_cellAt tiled positive isCell.symm proper, rfl⟩
  | piece => simp [Cell.number?] at isNumber

/-- If a joint value is known to be a number, then it is that of the left value or zero, and the
numbers of both values fit. -/
theorem Knows.fits (knows : Knows basis here.1 value1 value2 value)
    (zero : here.1.dest.number? .zero = some 0) (noAddress : address? basis.left value1 = none)
    {number : Int} (isNumber : here.1.dest.number? value = some number) :
    ∃ number1 number2 size, basis.left.number? value1 = some number1 ∧
      basis.right.number? value2 = some number2 ∧
      NumbersFit basis.left basis.right value1 value2 number1 number2 size ∧
      Number.agreeIn number1 number size = true := by
  by_cases isZero : value = .zero
  · obtain ⟨-, number1, number2, size, is1, is2, fit, wraps⟩ := knows.zero isZero
    subst isZero
    obtain rfl := Option.some.inj (isNumber.symm.trans zero)
    refine ⟨number1, number2, size, is1, is2, fit, ?_⟩
    rw [Number.agreeIn, beq_iff_eq, wraps]
    unfold Number.wrap
    split <;> simp
  · rw [knows.number isZero] at isNumber
    split at isNumber
    case isFalse => simp at isNumber
    case isTrue both =>
      obtain ⟨number2, is2⟩ := Option.isSome_iff_exists.1 both.2
      obtain ⟨size, fit⟩ := knows.agree noAddress isNumber is2
      exact ⟨number, number2, size, isNumber, is2, fit, beq_self_eq_true _⟩

namespace CellsJoined

variable (joined : CellsJoined basis here object1 object2 range cell1 cell2 value1 value2 value)
variable (invariant : Invariant basis path waiting here)

include joined invariant

/-- The joint value is the counterpart of the left value. -/
theorem value?_left (proper : value1 ≠ .zero) : here.1.leftMap.value? value1 = some value := by
  obtain ⟨-, isJoint⟩ :=
    (jointValue?_eq_some_iff.1 joined.joint).resolve_left fun zeros => proper zeros.1
  exact (invariant.joined isJoint).left.resolve_left proper

/-- The joint value is the counterpart of the right value. -/
theorem value?_right (proper : value2 ≠ .zero) : here.1.rightMap.value? value2 = some value := by
  obtain ⟨-, isJoint⟩ :=
    (jointValue?_eq_some_iff.1 joined.joint).resolve_left fun zeros => proper zeros.2.1
  exact (invariant.joined isJoint).right.resolve_left proper

section Pairs

variable {other1 other2 : ObjectId} {otherRange : BitRange} {otherCell1 otherCell2 : Cell}
variable {otherValue1 otherValue2 otherValue : ValueId}
variable
    (joined' : CellsJoined basis here other1 other2 otherRange otherCell1 otherCell2 otherValue1
  otherValue2 otherValue)

include joined'

/-- The same left contents other than zero have the same joint value. -/
theorem unique_left (same : cell1 = otherCell1) : cell1 = .zero ∨ value = otherValue := by
  subst same
  obtain rfl := joined.stands1.unique joined'.stands1 joined.held1 joined'.held1
  by_cases zero : value1 = .zero
  · subst zero
    exact .inl (joined.stands1.cell_eq_zero basis.leftPlain.positive)
  · exact .inr (Option.some.inj ((joined.value?_left invariant zero).symm.trans
      (joined'.value?_left invariant zero)))

/-- So have the same right contents. -/
theorem unique_right (same : cell2 = otherCell2) : cell2 = .zero ∨ value = otherValue := by
  subst same
  obtain rfl := joined.stands2.unique joined'.stands2 joined.held2 joined'.held2
  by_cases zero : value2 = .zero
  · subst zero
    exact .inl (joined.stands2.cell_eq_zero basis.leftPlain.positive)
  · exact .inr (Option.some.inj ((joined.value?_right invariant zero).symm.trans
      (joined'.value?_right invariant zero)))

/-- Without folding, a joint value other than zero is that of one pair of contents. -/
theorem cells_unique (still : ¬ basis.Folds) (same : value = otherValue) :
    value = .zero ∨ (cell1 = otherCell1 ∧ cell2 = otherCell2) := by
  subst same
  refine Classical.or_iff_not_imp_left.2 fun proper => ?_
  obtain ⟨-, isJoint⟩ :=
    (jointValue?_eq_some_iff.1 joined.joint).resolve_left fun zeros => proper zeros.2.2
  obtain ⟨-, isJoint'⟩ :=
    (jointValue?_eq_some_iff.1 joined'.joint).resolve_left fun zeros => proper zeros.2.2
  obtain ⟨rfl, rfl⟩ := ((invariant.exact still).single isJoint isJoint').resolve_left proper
  exact ⟨joined.stands1.congr joined'.stands1 invariant.left joined.held1 joined'.held1,
    joined.stands2.congr joined'.stands2 invariant.right joined.held2 joined'.held2⟩

end Pairs

variable (still : ¬ basis.Folds)

include still

/-- Both contents and their joint value are addresses of places that correspond, or none of them is
an address. -/
theorem address?_dest :
    (cell1.address? basis.left = none ∧ cell2.address? basis.right = none ∧
      address? here.1.dest value = none) ∨
    ∃ target1 target2 target, cell1.address? basis.left = some target1 ∧
      cell2.address? basis.right = some target2 ∧ address? here.1.dest value = some target ∧
      target1.offset = target.offset ∧ target2.offset = target.offset ∧
      image? here.1.leftMap target1.object = some target.object ∧
      image? here.1.rightMap target2.object = some target.object := by
  rw [joined.address?_left invariant, joined.address?_right invariant]
  cases joined.agree invariant with
  | plain none1 none2 nowhere =>
      refine .inl ⟨none1, none2, ?_⟩
      rcases nowhere with rfl | nowhere
      · rfl
      · simp [address?, nowhere]
  | address leads1 leads2 place =>
      have leads := (invariant.address?_left value1).symm.trans leads1
      obtain ⟨-, isJoint⟩ := (jointValue?_eq_some_iff.1 joined.joint).resolve_left fun zeros =>
        (address?_eq_some_iff.1 leads).1 zeros.1
      have knows := (invariant.exact still).knows isJoint
      obtain ⟨image, isImage, there⟩ := knows.target leads
      obtain rfl := Option.some.inj (place.left.symm.trans isImage)
      have proper : value ≠ .zero := fun zero => by
        rw [(knows.zero zero).1] at leads
        simp at leads
      exact .inr ⟨_, _, _, leads1, leads2, address?_eq_some_iff.2 ⟨proper, there⟩, rfl,
        place.offset.symm, place.left, place.right⟩

/-- Contents whose joint value is known to be a number are known to be numbers, which agree with it
within the width of the range, as long as each number is held at one width. -/
theorem number?_dest (shared : Shared basis.left basis.right object1 object2 range)
    (is1 : cell1 = cellAt basis.left object1 range) (is2 : cell2 = cellAt basis.right object2 range)
    (zero1 : basis.left.ZeroIsZero) (zero2 : basis.right.ZeroIsZero) (width1 : basis.left.OneWidth)
    (width2 : basis.right.OneWidth) (noAddress : cell1.address? basis.left = none) {number : Int}
    (isNumber : here.1.dest.number? value = some number) :
    ∃ number1 number2, cell1.number? basis.left = some number1 ∧
      cell2.number? basis.right = some number2 ∧
      Number.agreeIn number1 number range.size = true ∧
      Number.agreeIn number2 number range.size = true := by
  have exact := invariant.exact still
  have known1 : cell1.number? basis.left = basis.left.number? value1 :=
    (joined.stands1.number? basis.leftPlain invariant.left).trans (invariant.left.relaid.number? _)
  have known2 : cell2.number? basis.right = basis.right.number? value2 :=
    (joined.stands2.number? basis.rightPlain invariant.right).trans
      (invariant.right.relaid.number? _)
  have tiled1 := basis.leftPlain.sound.tiled
  have tiled2 := basis.rightPlain.sound.tiled
  have positive := shared.positive tiled1 tiled2
  rw [joined.address?_left invariant, invariant.address?_left] at noAddress
  rcases jointValue?_eq_some_iff.1 joined.joint with ⟨rfl, rfl, rfl⟩ | ⟨proper, isJoint⟩
  · obtain rfl := Option.some.inj (isNumber.symm.trans exact.zero)
    exact ⟨0, 0, known1.trans zero1, known2.trans zero2, beq_self_eq_true _, beq_self_eq_true _⟩
  · obtain ⟨number1, number2, size, isNumber1, isNumber2, fit, agree⟩ :=
      (exact.knows isJoint).fits exact.zero noAddress isNumber
    have isNumber1' := known1.trans isNumber1
    have isNumber2' := known2.trans isNumber2
    obtain rfl : size = range.size := by
      by_cases zero : value1 = .zero
      · have proper2 : value2 ≠ .zero := fun zero' => proper ⟨zero, zero'⟩
        exact width2 proper2 isNumber2 (fit.right.resolve_left proper2)
          (joined.stands2.holdsAt is2 tiled2 positive isNumber2' proper2)
      · exact width1 zero isNumber1 (fit.left.resolve_left zero)
          (joined.stands1.holdsAt is1 tiled1 positive isNumber1' zero)
    refine ⟨number1, number2, isNumber1', isNumber2', agree, ?_⟩
    have same := fit.agree
    rw [Number.agreeIn, beq_iff_eq] at same agree ⊢
    exact same.symm.trans agree

end CellsJoined

/-! ### Objects of the destination -/

namespace Finished

variable (finished : Finished basis here) (still : ¬ basis.Folds)

include finished

/-- An object of the destination is the counterpart of a pair of objects. -/
theorem exists_pair (present : here.1.dest.hasObject image = true) (proper : image ≠ .null) :
    ∃ object1 object2, here.1.leftMap.object? object1 = some image ∧
      here.1.rightMap.object? object2 = some image := by
  obtain ⟨-, ⟨object1, mapped1⟩, object2, mapped2⟩ :=
    (finished.invariant.objects present).resolve_left proper
  exact ⟨object1, object2, mapped1, mapped2⟩

include still

/-- Objects have the same counterpart exactly if they meet. -/
theorem relates_iff_met :
    here.1.Relates object1 object2 ↔ Met basis.left basis.right object1 object2 :=
  ⟨fun ⟨_, mapped1, mapped2⟩ => (finished.invariant.exact still).met mapped1 mapped2,
    finished.exists_image still⟩

section Counterpart

variable (mapped1 : here.1.leftMap.object? object1 = some image)
variable (mapped2 : here.1.rightMap.object? object2 = some image)

include mapped1 mapped2

/-- The counterpart of a pair of objects holds the joint values of what these hold. -/
theorem valueAt?_dest_iff : here.1.dest.valueAt? image range = some value ↔
    Shared basis.left basis.right object1 object2 range ∧
      ∃ value1 value2, CellsJoined basis here object1 object2 range
        (cellAt basis.left object1 range)
        (cellAt basis.right object2 range) value1 value2 value := by
  have invariant := finished.invariant
  have region := invariant.isList_eq_false still image
  have settled := (invariant.exact still).settled mapped1 mapped2 (by simp)
  constructor
  · intro held
    obtain ⟨other1, other2, value1, value2, source⟩ := invariant.contents held region
    obtain rfl := (invariant.leftMap.unique source.left mapped1).resolve_right (by simp [region])
    obtain rfl := (invariant.rightMap.unique source.right mapped2).resolve_right (by simp [region])
    obtain ⟨cell1, is1, stands1⟩ := exists_stands basis.leftPlain.positive
      (settled.realized.left range) source.held1
    obtain ⟨cell2, is2, stands2⟩ := exists_stands basis.leftPlain.positive
      (settled.realized.right range) source.held2
    obtain ⟨shared, rfl⟩ := cell?_eq_some_iff.1 is1
    obtain ⟨-, rfl⟩ := cell?_eq_some_iff.1 is2
    exact ⟨shared, value1, value2, source.held1, source.held2, stands1, stands2, source.joint⟩
  · rintro ⟨-, value1, value2, joined⟩
    exact (invariant.exact still).filled mapped1 mapped2 (by simp) joined.held1 joined.held2
      joined.joint

/-- It has a field in each range that the objects share, and no others. -/
theorem isSome_valueAt?_dest_iff : (∃ value, here.1.dest.valueAt? image range = some value) ↔
    Shared basis.left basis.right object1 object2 range := by
  simp only [finished.valueAt?_dest_iff still mapped1 mapped2]
  refine ⟨fun ⟨_, shared, _⟩ => shared, fun shared => ?_⟩
  have settled := (finished.invariant.exact still).settled mapped1 mapped2 (by simp)
  obtain ⟨value1, value2, value, joined⟩ := settled.exists_joined
    (cell?_eq_some_iff.2 ⟨shared, rfl⟩) (cell?_eq_some_iff.2 ⟨shared.symm, rfl⟩)
  exact ⟨value, shared, value1, value2, joined⟩

/-- It may be accessed if it has a field. -/
theorem isValid_dest (held : here.1.dest.valueAt? image range = some value) :
    here.1.dest.isValid image = true := by
  have invariant := finished.invariant
  have shared := (finished.isSome_valueAt?_dest_iff still mapped1 mapped2).1 ⟨value, held⟩
  rcases shared.exists_outer basis.leftPlain.sound.tiled basis.rightPlain.sound.tiled with
    ⟨outer, value1, held1, -⟩ | ⟨outer, value2, held2, -⟩
  · exact (invariant.leftMap.valid mapped1).trans (basis.leftPlain.freed held1)
  · exact (invariant.rightMap.valid mapped2).trans (basis.rightPlain.freed held2)

end Counterpart

/-! ### The destination is plain -/

/-- An address of the destination other than zero is the joint value of two addresses. -/
theorem exists_target_left {target : Target} (leads : here.1.dest.target? value = some target)
    (proper : value ≠ .zero) : ∃ value1 target1 image, value1 ≠ .zero ∧
      here.1.leftMap.value? value1 = some value ∧ basis.left.target? value1 = some target1 ∧
      image? here.1.leftMap target1.object = some image ∧
      target = ⟨image, target1.offset, .region⟩ := by
  have invariant := finished.invariant
  have exact := invariant.exact still
  obtain ⟨value1, value2, isJoint⟩ :=
    (exact.valued (Graph.hasValue_of_target? leads)).resolve_left proper
  have joint := invariant.joined isJoint
  cases leads1 : address? basis.left value1 with
  | none =>
      cases joint.agree with
      | plain _ _ nowhere =>
          rw [nowhere.resolve_left proper] at leads
          simp at leads
      | address leads1' =>
          rw [invariant.address?_left, leads1] at leads1'
          simp at leads1'
  | some target1 =>
      obtain ⟨image, isImage, there⟩ := (exact.knows isJoint).target leads1
      obtain ⟨proper1, leads1⟩ := address?_eq_some_iff.1 leads1
      exact ⟨value1, target1, image, proper1, joint.left.resolve_left proper1, leads1, isImage,
        Option.some.inj (leads.symm.trans there)⟩

/-- Only zero is an address in NULL. -/
theorem eq_zero_of_target_null (leads : here.1.dest.target? value = some .null) :
    value = .zero := by
  by_contra proper
  obtain ⟨value1, ⟨object, offset, specifier⟩, image, proper1, -, leads1, isImage, same⟩ :=
    finished.exists_target_left still leads proper
  have isRegion : specifier = .region := basis.leftPlain.direct leads1
  obtain ⟨rfl, rfl, -⟩ := Target.mk.inj same
  obtain rfl : object = .null := eq_null_of_image? finished.invariant.leftMap isImage
  subst isRegion
  exact proper1 (basis.leftPlain.single leads1 basis.leftPlain.sound.zero)

/-- A place of the destination has one address at most. -/
theorem single_dest {target : Target} {other : ValueId}
    (leads : here.1.dest.target? value = some target)
    (leads' : here.1.dest.target? other = some target) : value = other := by
  have invariant := finished.invariant
  have null : here.1.dest.target? .zero = some .null := invariant.dest.zero
  by_cases zero : value = .zero
  · subst zero
    obtain rfl := Option.some.inj (leads.symm.trans null)
    exact (finished.eq_zero_of_target_null still leads').symm
  by_cases zero' : other = .zero
  · subst zero'
    obtain rfl := Option.some.inj (leads'.symm.trans null)
    exact finished.eq_zero_of_target_null still leads
  -- The addresses come from left addresses of the same place, of which there is one.
  obtain ⟨value1, ⟨object, offset, specifier⟩, image, -, bound, leads1, isImage, rfl⟩ :=
    finished.exists_target_left still leads zero
  obtain ⟨other1, ⟨object', offset', specifier'⟩, image', -, bound', leads2, isImage', same⟩ :=
    finished.exists_target_left still leads' zero'
  obtain ⟨rfl, rfl, -⟩ := Target.mk.inj same
  obtain rfl : object = object' :=
    eq_of_image? invariant.leftMap (invariant.isList_eq_false still _) isImage isImage'
  obtain rfl : specifier = specifier' :=
    (basis.leftPlain.direct leads1).trans (basis.leftPlain.direct leads2).symm
  obtain rfl := basis.leftPlain.single leads1 leads2
  exact Option.some.inj (bound.symm.trans bound')

/-- The destination of a join without folding is plain. -/
theorem plain_dest {start : Nat} (tame : here.1.dest.Tame start) : here.1.dest.Plain start where
  positive := tame.positive
  sound := tame.sound
  regions {id object} found proper := by
    obtain ⟨level, kind⟩ := finished.invariant.kinds found proper
    exact ⟨kind.resolve_right fun list => still list.2, level⟩
  direct {value target} leads := by
    by_cases zero : value = .zero
    · subst zero
      obtain rfl := Option.some.inj (leads.symm.trans finished.invariant.dest.zero)
      rfl
    · obtain ⟨_, _, _, -, -, -, -, rfl⟩ := finished.exists_target_left still leads zero
      rfl
  single := finished.single_dest still
  distinct := tame.distinct
  freed {id range value} held := by
    obtain ⟨_, _, _, _, source⟩ :=
      finished.invariant.contents held (finished.invariant.isList_eq_false still id)
    exact finished.isValid_dest still source.left source.right held
  unrelated := tame.unrelated
  drawn := tame.drawn

/-- The destination reaches the counterparts of the objects that meet. -/
theorem reaches_dest (met : Met basis.left basis.right object1 object2)
    (mapped1 : here.1.leftMap.object? object1 = some image)
    (mapped2 : here.1.rightMap.object? object2 = some image) : here.1.dest.Reaches image := by
  have invariant := finished.invariant
  induction met generalizing image with
  | named named1 named2 =>
      have named := finished.named named1 named2 mapped1
      exact .root (Graph.exists_named?_iff.1 ⟨_, named⟩)
  | address before is1 is2 leads1 leads2 proper1 proper2 ih =>
      obtain ⟨holder, held1, held2⟩ := finished.exists_image still before
      obtain ⟨shared, rfl⟩ := cell?_eq_some_iff.1 is1
      obtain ⟨-, rfl⟩ := cell?_eq_some_iff.1 is2
      obtain ⟨value, held⟩ := (finished.isSome_valueAt?_dest_iff still held1 held2).2 shared
      obtain ⟨-, value1, value2, joined⟩ := (finished.valueAt?_dest_iff still held1 held2).1 held
      rcases joined.address?_dest invariant still with
        ⟨none1, -⟩ | ⟨target1, target2, target, leads1', leads2', leads, -, -, isImage, -⟩
      · simp [leads1] at none1
      · obtain rfl := Option.some.inj (leads1.symm.trans leads1')
        rw [image?_of_proper proper1, mapped1, Option.some.injEq] at isImage
        refine .step (ih held1 held2) (List.mem_filterMap.2
          ⟨⟨holder, _, value⟩, Graph.mem_fieldsOf.2 held, ?_⟩)
        rw [(address?_eq_some_iff.1 leads).2, isImage]
        rfl

end Finished

end Join

end ShapeDomain
