import ShapeDomain.Proofs.Join.Unmapped
import ShapeDomain.Proofs.Progress.Making

/-!
# Joining addresses

Two addresses get a joint address if they lead to the same place of objects that have the same
counterpart, or that get one here.  Without folding nothing else is asked of them: what meets and
fits always gets its joint address, and a new one.
-/

namespace ShapeDomain

namespace Join

variable {basis : Basis} {path waiting kept : List ObjectPair} {here : Progress × Supply}
variable {pair : ObjectPair} {range : BitRange} {value1 value2 : ValueId}
variable {target1 target2 : Target} {image : ObjectId}

/-- The value is an address of an object of the graph. -/
theorem exists_object_of_address {start : Nat} {origin : Graph} (plain : origin.Plain start)
    {value : ValueId} {target : Target} (leads : address? origin value = some target) :
    ∃ object, origin.object? target.object = some object :=
  (Graph.hasObject_iff _).1 (plain.sound.targets (address?_eq_some_iff.1 leads).2)

/-- Two addresses of the same place are the same. -/
theorem eq_of_address {start : Nat} {origin : Graph} (plain : origin.Plain start)
    {value other : ValueId} {target otherTarget : Target}
    (leads : address? origin value = some target)
    (leads' : address? origin other = some otherTarget)
    (object : target.object = otherTarget.object) (offset : target.offset = otherTarget.offset) :
    value = other := by
  have here := (address?_eq_some_iff.1 leads).2
  have there := (address?_eq_some_iff.1 leads').2
  have specifier := (plain.direct here).trans (plain.direct there).symm
  obtain ⟨_, _, _⟩ := target
  obtain ⟨_, _, _⟩ := otherTarget
  simp only at object offset specifier
  subst object offset specifier
  exact plain.single here there

/-! ### Addresses that meet -/

/-- A pair of objects holds two addresses, which may get a joint address. -/
structure Leading (basis : Basis) (waiting : List ObjectPair) (here : Progress × Supply)
    (pair : ObjectPair) (range : BitRange) (value1 value2 : ValueId) (target1 target2 : Target) :
    Prop where
  /-- The pair holds them. -/
  meeting : Meeting basis waiting here.1 pair range value1 value2
  /-- They may get a joint value. -/
  free : Free here value1 value2
  /-- The left one is an address. -/
  leads1 : address? here.1.left value1 = some target1
  /-- So is the right one. -/
  leads2 : address? here.1.right value2 = some target2

namespace Invariant

variable (invariant : Invariant basis path waiting here)

include invariant

/-- Without folding, objects that meet have the same counterpart or none, if all that meets fits. -/
theorem object?_eq_of_met (still : ¬ basis.Folds) (cover : Cover basis.left basis.right)
    {object1 object2 : ObjectId} (met : Met basis.left basis.right object1 object2) :
    here.1.leftMap.object? object1 = here.1.rightMap.object? object2 := by
  have exact := invariant.exact still
  refine Option.ext fun image => ⟨fun mapped => ?_, fun mapped => ?_⟩
  · obtain ⟨-, proper, -⟩ := invariant.leftMap.source mapped
    obtain ⟨-, -, other, mapped'⟩ :=
      (invariant.objects (invariant.hasObject_of_left mapped)).resolve_left proper
    rwa [(cover.fits.oneToOne met (exact.met mapped mapped')).1 rfl]
  · obtain ⟨-, proper, -⟩ := invariant.rightMap.source mapped
    obtain ⟨-, ⟨other, mapped'⟩, -⟩ :=
      (invariant.objects (invariant.hasObject_of_right mapped)).resolve_left proper
    rwa [(cover.fits.oneToOne met (exact.met mapped' mapped)).2 rfl]

end Invariant

namespace Leading

variable (leading : Leading basis waiting here pair range value1 value2 target1 target2)
include leading in
theorem proper1 : value1 ≠ .zero := (address?_eq_some_iff.1 leading.leads1).1

include leading in
theorem proper2 : value2 ≠ .zero := (address?_eq_some_iff.1 leading.leads2).1

variable (invariant : Invariant basis path waiting here)

include leading invariant

theorem origin1 : address? basis.left value1 = some target1 :=
  (invariant.address?_left value1).symm.trans leading.leads1

theorem origin2 : address? basis.right value2 = some target2 :=
  (invariant.address?_right value2).symm.trans leading.leads2

/-- The left object leads to the left target. -/
theorem leads_left : basis.left.Leads pair.object1 target1.object :=
  ⟨range, value1, target1, (invariant.left.old leading.meeting.held1
    (invariant.early_of_address1 leading.leads1)).resolve_left leading.proper1,
    leading.origin1 invariant, rfl⟩

theorem leads_right : basis.right.Leads pair.object2 target2.object :=
  ⟨range, value2, target2, (invariant.right.old leading.meeting.held2
    (invariant.early_of_address2 leading.leads2)).resolve_left leading.proper2,
    leading.origin2 invariant, rfl⟩

/-- What the addresses stand for is paired. -/
theorem paired : ∃ object1 object2 cell1 cell2,
    Met basis.left basis.right object1 object2 ∧
    cell? basis.left basis.right object1 object2 range = some cell1 ∧
    cell? basis.right basis.left object2 object1 range = some cell2 ∧
    cell1.address? basis.left = some target1 ∧ cell2.address? basis.right = some target2 := by
  obtain ⟨cell1, cell2, ⟨object1, object2, met, isCell1, isCell2⟩, stands1, stands2⟩ :=
    leading.meeting.paired
  exact ⟨object1, object2, cell1, cell2, met, isCell1, isCell2,
    (stands1.address? basis.leftPlain invariant.left).trans leading.leads1,
    (stands2.address? basis.rightPlain invariant.right).trans leading.leads2⟩

/-- The targets meet. -/
theorem met (proper1 : target1.object ≠ .null) (proper2 : target2.object ≠ .null) :
    Met basis.left basis.right target1.object target2.object := by
  obtain ⟨object1, object2, cell1, cell2, met, isCell1, isCell2, leads1, leads2⟩ :=
    leading.paired invariant
  exact .address met isCell1 isCell2 leads1 leads2 proper1 proper2

/-- The targets fit if all that meets fits. -/
theorem sameAddress (cover : Cover basis.left basis.right) :
    target1.offset = target2.offset ∧ (target1.object = .null ↔ target2.object = .null) := by
  obtain ⟨object1, object2, cell1, cell2, met, isCell1, isCell2, leads1, leads2⟩ :=
    leading.paired invariant
  rcases cover.fits.addresses ⟨object1, object2, met, isCell1, isCell2⟩ with
    ⟨none1, -⟩ | ⟨place1, place2, isPlace1, isPlace2, offset, null⟩
  · rw [leads1] at none1
    simp at none1
  · rw [leads1, Option.some.injEq] at isPlace1
    rw [leads2, Option.some.injEq] at isPlace2
    subst isPlace1 isPlace2
    exact ⟨offset, null⟩

end Leading

/-! ### Destinations -/

theorem objectName_apply (invariant : Invariant basis path waiting here)
    {object1 : ObjectId} (object2 : ObjectId) (early : object1.index < basis.start)
    (proper : object1 ≠ .null)
    (free : here.1.leftMap.object? object1 = none) :
    ∃ id now, objectName object1 object2 here = .ok id (here.1, now) ∧
      here.2.next ≤ now.next ∧ here.1.dest.hasObject id = false ∧
      ((here.2.next ≤ id.index ∧ id.index < now.next) ∨
        (id.index < basis.start ∧ object1 = id ∧ object2 = id)) := by
  unfold objectName
  split
  case isTrue same =>
    refine ⟨object1, here.2, rfl, Nat.le_refl _, ?_, .inr ⟨early, rfl, same.symm⟩⟩
    cases present : here.1.dest.hasObject object1 with
    | false => rfl
    | true =>
        rw [invariant.leftMap_of_shared present proper early] at free
        simp at free
  case isFalse =>
    exact ⟨_, _, Run.draw_objectId_apply here, Nat.le_succ _, invariant.hasObject_of_next,
      .inl ⟨Nat.le_refl _, Nat.lt_succ_self _⟩⟩

/-- A pair of objects gets a new region as its counterpart. -/
theorem making_of_new (invariant : Invariant basis path waiting here) {child : ObjectPair}
    {now : Supply} {size : Nat} {label : String} {valid heap : Bool}
    (time : here.2.next ≤ now.next) (absent : here.1.dest.hasObject child.dest = false)
    (suits1 : Suits basis.left child.object1 size valid heap)
    (suits2 : Suits basis.right child.object2 size valid heap)
    (free1 : here.1.leftMap.object? child.object1 = none)
    (free2 : here.1.rightMap.object? child.object2 = none)
    (named : (here.2.next ≤ child.dest.index ∧ child.dest.index < now.next) ∨
      (child.dest.index < basis.start ∧ child.object1 = child.dest ∧ child.object2 = child.dest))
    (met : Met basis.left basis.right child.object1 child.object2) :
    Making basis here child
      (here.1.dest.putPlacement child.dest ⟨.region size label, valid, heap⟩) now where
  time := time
  absent := absent
  placed := ⟨size, label, valid, heap, rfl, suits1, suits2⟩
  values := rfl
  layouts := rfl
  sound := invariant.dest.putNew absent
  free1 := free1
  free2 := free2
  named := named
  met := met

/-- A region is put into the destination and becomes the counterpart of a pair of objects. -/
theorem place_apply {object1 object2 id : ObjectId} {now : Supply} {change : Graph → Graph}
    {region : Object} {valid heap : Bool}
    (put : change here.1.dest = here.1.dest.putPlacement id ⟨region, true, heap⟩)
    (free1 : here.1.leftMap.object? object1 = none)
    (free2 : here.1.rightMap.object? object2 = none) :
    (do
      modifyDest change
      attemptDest fun graph => graph.setValid id valid
      pairObjects object1 object2 id
      lower .equal
      return some id : Run Progress (Option ObjectId)) (here.1, now) =
      .ok (some id) (here.1.making ⟨object1, object2, id⟩
        (here.1.dest.putPlacement id ⟨region, valid, heap⟩), now) := by
  have validated : attemptDest (fun graph => graph.setValid id valid)
      ({ here.1 with dest := here.1.dest.putPlacement id ⟨region, true, heap⟩ }, now) =
      .ok () ({ here.1 with dest := here.1.dest.putPlacement id ⟨region, valid, heap⟩ }, now) :=
    attemptDest_apply (Graph.setValid_putPlacement id _ _ _ _)
  have paired : pairObjects object1 object2 id
      ({ here.1 with dest := here.1.dest.putPlacement id ⟨region, valid, heap⟩ }, now) =
      .ok () (here.1.making ⟨object1, object2, id⟩
        (here.1.dest.putPlacement id ⟨region, valid, heap⟩), now) :=
    pairObjects_ok (.inl free1) (.inl free2)
  rw [Run.bind_apply_ok (modifyDest_apply change _)]
  simp only [put]
  rw [Run.bind_apply_ok validated, Run.bind_apply_ok paired,
    Run.bind_apply_ok (lower_equal_apply _)]
  rfl

/-- Two objects without counterparts get one, unless they do not fit. -/
theorem joinTargets_apply (invariant : Invariant basis path waiting here)
    (leading : Leading basis waiting here pair range value1 value2 target1 target2)
    (proper1 : target1.object ≠ .null) (proper2 : target2.object ≠ .null)
    (free1 : here.1.leftMap.object? target1.object = none)
    (free2 : here.1.rightMap.object? target2.object = none) :
    (joinTargets target1.object target2.object here = .ok none here ∧
      ¬ Cover basis.left basis.right) ∨
    ∃ id dest now, joinTargets target1.object target2.object here =
        .ok (some id) (here.1.making ⟨target1.object, target2.object, id⟩ dest, now) ∧
      Making basis here ⟨target1.object, target2.object, id⟩ dest now ∧
      dest.stack = here.1.dest.stack ∧ dest.globals = here.1.dest.globals := by
  obtain ⟨object1, found1⟩ := exists_object_of_address basis.leftPlain (leading.origin1 invariant)
  obtain ⟨object2, found2⟩ := exists_object_of_address basis.rightPlain (leading.origin2 invariant)
  obtain ⟨kind1, level1⟩ := basis.leftPlain.regions found1 proper1
  obtain ⟨kind2, level2⟩ := basis.rightPlain.regions found2 proper2
  have here1 : here.1.left.object target1.object = .ok object1 :=
    (Graph.object_eq_ok_iff _).2 ((invariant.left.relaid.object? _).trans found1)
  have here2 : here.1.right.object target2.object = .ok object2 :=
    (Graph.object_eq_ok_iff _).2 ((invariant.right.relaid.object? _).trans found2)
  have ground : here.1.levels.get? .ground .ground = some .ground := by
    rw [invariant.levels]
    rfl
  unfold joinTargets
  rw [Run.bind_apply_ok (Run.demand_apply_ok here1), Run.bind_apply_ok (Run.demand_apply_ok here2),
    Run.bind_apply_ok (Run.state_apply _)]
  simp only [invariant.left.relaid.isValid, invariant.right.relaid.isValid, kind1, kind2, level1,
    level2, Kind.join, ground]
  split
  case isTrue differ =>
    refine .inl ⟨rfl, fun cover => ?_⟩
    have met := leading.met invariant proper1 proper2
    rcases differ with differ | differ
    · have size := cover.fits.size met
      rw [found1, found2] at size
      exact differ (Option.some.inj size)
    · exact differ (cover.fits.valid met)
  case isFalse alike =>
    obtain ⟨size, valid⟩ := not_or.1 alike
    rw [ne_eq, not_not] at size valid
    obtain ⟨id, now, done, time, absent, named⟩ := objectName_apply
      invariant target2.object
        (basis.leftPlain.object_lt (Graph.hasObject_of_object? found1)) proper1 free1
    have suits1 : Suits basis.left target1.object object1.size (basis.left.isValid target1.object)
        (basis.left.isHeap target1.object || basis.right.isHeap target2.object) :=
      ⟨proper1, ⟨object1, found1, rfl⟩, rfl, fun heap => by rw [heap, Bool.true_or]⟩
    have suits2 : Suits basis.right target2.object object1.size
        (basis.left.isValid target1.object)
        (basis.left.isHeap target1.object || basis.right.isHeap target2.object) :=
      ⟨proper2, ⟨object2, found2, size⟩, valid.symm, fun heap => by rw [heap, Bool.or_true]⟩
    simp only [invariant.left.relaid.isHeap, invariant.right.relaid.isHeap]
    generalize (basis.left.isHeap target1.object || basis.right.isHeap target2.object) = heap
      at suits1 suits2
    refine .inr ⟨id, here.1.dest.putPlacement id
      ⟨.region object1.size object1.label, basis.left.isValid target1.object, heap⟩, now, ?_,
      making_of_new invariant time absent suits1 suits2 free1 free2 named
        (leading.met invariant proper1 proper2), rfl, rfl⟩
    rw [Run.bind_apply_ok done]
    cases heap with
    | true => exact place_apply (Graph.addHeapObject_of_absent absent _) free1 free2
    | false => exact place_apply (Graph.addObject_of_absent absent _) free1 free2

/-- Where two addresses of given objects lead in the destination. -/
inductive Destined (basis : Basis) (here : Progress × Supply) (object1 object2 : ObjectId) :
    Option Destination → Progress × Supply → Prop where
  /-- They lead nowhere, as something does not fit. -/
  | nowhere : (¬ basis.Folds → ¬ Cover basis.left basis.right) →
      Destined basis here object1 object2 none here
  /-- They lead to the counterpart of both objects. -/
  | known {image : ObjectId} : image? here.1.leftMap object1 = some image →
      image? here.1.rightMap object2 = some image →
      Destined basis here object1 object2 (some (.known image)) here
  /-- They lead to a new counterpart of both objects. -/
  | made {id : ObjectId} {dest : Graph} {now : Supply} :
      Making basis here ⟨object1, object2, id⟩ dest now → dest.stack = here.1.dest.stack →
      dest.globals = here.1.dest.globals → Destined basis here object1 object2 (some (.made id))
        (here.1.making ⟨object1, object2, id⟩ dest, now)

theorem destination_apply (invariant : Invariant basis path waiting here)
    (leading : Leading basis waiting here pair range value1 value2 target1 target2) :
    ∃ outcome there, destination target1.object target2.object here = .ok outcome there ∧
      Destined basis here target1.object target2.object outcome there := by
  -- If only one object has a counterpart, or they have different ones, then they do not fit.
  have differ (different : here.1.leftMap.object? target1.object ≠
      here.1.rightMap.object? target2.object) (still : ¬ basis.Folds) :
      ¬ Cover basis.left basis.right := by
    intro cover
    have null := (leading.sameAddress invariant cover).2
    by_cases proper : target1.object = .null
    · have unmapped1 : here.1.leftMap.object? target1.object = none := by
        cases mapped : here.1.leftMap.object? target1.object with
        | none => rfl
        | some image => exact absurd proper (invariant.leftMap.source mapped).1
      have unmapped2 : here.1.rightMap.object? target2.object = none := by
        cases mapped : here.1.rightMap.object? target2.object with
        | none => rfl
        | some image => exact absurd (null.1 proper) (invariant.rightMap.source mapped).1
      exact different (unmapped1.trans unmapped2.symm)
    · exact different (invariant.object?_eq_of_met still cover
        (leading.met invariant proper fun zero => proper (null.2 zero)))
  unfold destination
  rw [Run.bind_apply_ok (Run.state_apply _)]
  split
  case isTrue nulls =>
    simp only [ObjectId.isNull, Bool.and_eq_true, beq_iff_eq] at nulls
    exact ⟨_, _, rfl, .known (by rw [nulls.1, image?_null]) (by rw [nulls.2, image?_null])⟩
  case isFalse notBoth =>
    cases mapped1 : here.1.leftMap.object? target1.object with
    | some dest1 =>
        cases mapped2 : here.1.rightMap.object? target2.object with
        | none => exact ⟨_, _, rfl, .nowhere (differ (by simp [mapped1, mapped2]))⟩
        | some dest2 =>
            by_cases same : dest1 = dest2
            · subst same
              refine ⟨some (.known dest1), here, by simp, .known ?_ ?_⟩
              · rw [image?_of_proper (invariant.leftMap.source mapped1).1, mapped1]
              · rw [image?_of_proper (invariant.rightMap.source mapped2).1, mapped2]
            · exact ⟨none, here, by simp [same],
                .nowhere (differ (by simpa [mapped1, mapped2] using same))⟩
    | none =>
        cases mapped2 : here.1.rightMap.object? target2.object with
        | some dest2 => exact ⟨_, _, rfl, .nowhere (differ (by simp [mapped1, mapped2]))⟩
        | none =>
            simp only
            split
            case isTrue null =>
              refine ⟨_, _, rfl, .nowhere fun _ cover => ?_⟩
              have both := (leading.sameAddress invariant cover).2
              simp only [ObjectId.isNull, Bool.and_eq_true, Bool.or_eq_true, beq_iff_eq]
                at notBoth null
              tauto
            case isFalse proper =>
              simp only [ObjectId.isNull, Bool.or_eq_true, beq_iff_eq, not_or] at proper
              rcases joinTargets_apply invariant leading proper.1 proper.2 mapped1 mapped2 with
                ⟨done, unfit⟩ | ⟨id, dest, now, done, making, stack, globals⟩
              · exact ⟨none, here, by rw [Run.bind_apply_ok done]; rfl, .nowhere fun _ => unfit⟩
              · exact ⟨some (.made id), _, by rw [Run.bind_apply_ok done]; rfl,
                  .made making stack globals⟩

/-- Two addresses of proper objects without counterparts lead to a new one, if all that meets
fits. -/
theorem destination_of_free (invariant : Invariant basis path waiting here)
    (leading : Leading basis waiting here pair range value1 value2 target1 target2)
    (cover : Cover basis.left basis.right)
    (proper1 : target1.object ≠ .null) (proper2 : target2.object ≠ .null)
    (free1 : here.1.leftMap.object? target1.object = none)
    (free2 : here.1.rightMap.object? target2.object = none) :
    ∃ id dest now, destination target1.object target2.object here =
        .ok (some (.made id)) (here.1.making ⟨target1.object, target2.object, id⟩ dest, now) ∧
      Making basis here ⟨target1.object, target2.object, id⟩ dest now ∧
      dest.stack = here.1.dest.stack ∧ dest.globals = here.1.dest.globals := by
  obtain ⟨id, dest, now, done, rest⟩ :=
    (joinTargets_apply invariant leading proper1 proper2 free1 free2).resolve_left
      fun refused => refused.2 cover
  refine ⟨id, dest, now, ?_, rest⟩
  unfold destination
  rw [Run.bind_apply_ok (Run.state_apply _)]
  simp only [free1, free2, ObjectId.isNull, beq_eq_false_iff_ne.2 proper1,
    beq_eq_false_iff_ne.2 proper2, Bool.or_self, Bool.and_self, Bool.false_eq_true, if_false]
  rw [Run.bind_apply_ok done]
  rfl

/-! ### Names of addresses -/

/-- Without folding, a joint address that is still to be made is not there. -/
theorem addressOf?_eq_none (invariant : Invariant basis path waiting here)
    (leading : Leading basis waiting here pair range value1 value2 target1 target2)
    (still : ¬ basis.Folds) (left : image? here.1.leftMap target1.object = some image)
    (right : image? here.1.rightMap target2.object = some image)
    (offset : target1.offset = target2.offset) (specifier : Specifier) :
    here.1.dest.addressOf? ⟨image, target1.offset, specifier⟩ = none := by
  by_contra present
  obtain ⟨existing, found⟩ := Option.ne_none_iff_exists'.1 present
  have leads := Graph.target?_of_addressOf? found
  have exact := invariant.exact still
  have notZero : existing ≠ .zero := by
    rintro rfl
    rw [invariant.dest.zero, Option.some.injEq] at leads
    have isNull : image = .null := congrArg Target.object leads.symm
    have start : target1.offset = 0 := congrArg Target.offset leads.symm
    subst isNull
    have null := eq_null_of_image? invariant.leftMap left
    refine leading.proper1 (basis.leftPlain.single
      (address?_eq_some_iff.1 (leading.origin1 invariant)).2 ?_)
    have direct := basis.leftPlain.direct (address?_eq_some_iff.1 (leading.origin1 invariant)).2
    rw [basis.leftPlain.sound.zero]
    obtain ⟨_, _, _⟩ := target1
    simp_all [Target.null]
  obtain ⟨other1, other2, isJoint⟩ :=
    (exact.valued (Graph.hasValue_of_target? leads)).resolve_left notZero
  have region := invariant.isList_eq_false still image
  cases (invariant.joined isJoint).agree with
  | plain _ _ none => simp [leads, notZero] at none
  | @address place1 place2 image' leads1 leads2 place =>
      obtain ⟨isImage, same⟩ := place.leads _ leads
      simp only at isImage same
      subst isImage
      have same1 := eq_of_address basis.leftPlain (leading.origin1 invariant)
        ((invariant.address?_left other1).symm.trans leads1)
        (eq_of_image? invariant.leftMap region left place.left) same
      have same2 := eq_of_address basis.rightPlain (leading.origin2 invariant)
        ((invariant.address?_right other2).symm.trans leads2)
        (eq_of_image? invariant.rightMap region right place.right)
        (offset.symm.trans (same.trans place.offset))
      subst same1 same2
      have unpaired := (jointValue?_eq_none_iff.1 leading.free.undecided).2
      rw [isJoint] at unpaired
      simp at unpaired

/-- A joint address may be a new one, or one that is there already. -/
theorem joining_of_address (invariant : Invariant basis path waiting here)
    (leading : Leading basis waiting here pair range value1 value2 target1 target2)
    (left : image? here.1.leftMap target1.object = some image)
    (right : image? here.1.rightMap target2.object = some image)
    (offset : target1.offset = target2.offset) {specifier : Specifier}
    (direct : ¬ basis.Folds → specifier = .region) {value : ValueId} {dest : Graph} {now : Supply}
    (outcome : (here.1.dest.target? value = some ⟨image, target1.offset, specifier⟩ ∧
        now = here.2 ∧ dest = here.1.dest.addValue value ∧ basis.Folds) ∨
      (Named basis here value1 value2 value now ∧ dest = (here.1.dest.putPointer
        ⟨value, ⟨image, target1.offset, specifier⟩⟩).addValue value)) :
    Joining basis here value1 value2 value dest here.1.status now ∧ (¬ basis.Folds →
      JoiningExact basis waiting here value1 value2 value dest here.1.status) := by
  have present := invariant.leftMap.hasObject_of_image? invariant.dest left
  have leads : dest.target? value = some ⟨image, target1.offset, specifier⟩ := by
    rcases outcome with ⟨leads, -, rfl, -⟩ | ⟨-, rfl⟩
    · rw [Graph.target?_addValue, leads]
    · rw [Graph.target?_addValue, Graph.target?_putPointer, if_pos rfl]
  have isAddress : address? here.1.left value1 ≠ none := by simp [leading.leads1]
  have samePlace : SamePlace (here.1.joining value1 value2 value dest here.1.status) target1 target2
      value image := by
    refine ⟨offset, by simpa [Progress.joining] using left, by simpa [Progress.joining] using right,
      fun target found => ?_⟩
    have same : dest.target? value = some target := found
    rw [leads, Option.some.injEq] at same
    subst same
    exact ⟨rfl, rfl⟩
  constructor
  · refine ⟨?_, ?_, leading.free.undecided, leading.free.free1, leading.free.free2, ?_,
      .address leading.leads1 leading.leads2 samePlace, fun _ none => ?_, fun covered => covered,
      fun _ none => absurd none isAddress, invariant.partners.covered⟩
    · rcases outcome with ⟨-, rfl, -⟩ | ⟨named, -⟩
      · exact Nat.le_refl _
      · exact named.time
    · rcases outcome with ⟨-, -, rfl, -⟩ | ⟨named, rfl⟩
      · exact gains_addValue invariant.dest value
      · exact gains_putKnowledge (named.absent invariant leading.free.free1)
          (invariant.dest.putPointer present fun zero => absurd zero (named.ne_zero invariant))
    · rcases outcome with ⟨leads, -⟩ | ⟨named, -⟩
      · exact .inl (Graph.hasValue_of_target? leads)
      · exact named.named invariant
    · simp [leads] at none
  · intro still
    obtain ⟨named, rfl⟩ := outcome.resolve_left fun known => still known.2.2.2
    have absent := named.absent invariant leading.free.free1
    refine ⟨leading.meeting.held still, .inr absent, ⟨fun _ => ?_, fun zero => ?_, fun found => ?_,
      fun noAddress => by simp [leading.origin1 invariant] at noAddress⟩⟩
    · rw [if_neg fun both => by simp [leading.origin1 invariant] at both]
      show ((here.1.dest.putPointer _).addValue value).number? value = none
      rw [Graph.number?_addValue, Graph.number?_putPointer, Graph.number?,
        Graph.knowledge_of_hasValue_eq_false absent]
      rfl
    · exact absurd zero (named.ne_zero invariant)
    · rw [leading.origin1 invariant, Option.some.injEq] at found
      subst found
      refine ⟨image, by simpa [Progress.joining] using left, ?_⟩
      rw [← direct still]
      exact leads

theorem addressName_apply (invariant : Invariant basis path waiting here)
    (leading : Leading basis waiting here pair range value1 value2 target1 target2)
    (left : image? here.1.leftMap target1.object = some image)
    (right : image? here.1.rightMap target2.object = some image)
    (offset : target1.offset = target2.offset) {specifier : Specifier}
    (direct : ¬ basis.Folds → specifier = .region) :
    ∃ value dest now,
      addressName value1 value2 ⟨image, target1.offset, specifier⟩ here =
        .ok value ({ here.1 with dest := dest }, now) ∧
      Joining basis here value1 value2 value (dest.addValue value) here.1.status now ∧
      (¬ basis.Folds →
        JoiningExact basis waiting here value1 value2 value
          (dest.addValue value) here.1.status) := by
  have present := invariant.leftMap.hasObject_of_image? invariant.dest left
  have added {value : ValueId} {now : Supply} (named : Named basis here value1 value2 value now) :
      attemptDest (fun graph => graph.addPointer ⟨value, ⟨image, target1.offset, specifier⟩⟩)
        (here.1, now) = .ok () ({ here.1 with
          dest := here.1.dest.putPointer ⟨value, ⟨image, target1.offset, specifier⟩⟩ }, now) := by
    have free : here.1.dest.target? value = none := by
      rw [Graph.target?, Graph.knowledge_of_hasValue_eq_false
        (named.absent invariant leading.free.free1)]
      rfl
    have done : here.1.dest.addPointer ⟨value, ⟨image, target1.offset, specifier⟩⟩ =
        .ok (here.1.dest.putPointer ⟨value, ⟨image, target1.offset, specifier⟩⟩) :=
      Graph.addPointer_eq_ok_iff.2 ⟨present, .inl free, rfl⟩
    exact attemptDest_apply done
  unfold addressName
  rw [Run.bind_apply_ok (Run.ask_apply _ _)]
  cases found : here.1.dest.addressOf? ⟨image, target1.offset, specifier⟩ with
  | none =>
      obtain ⟨value, now, done, named⟩ :=
        valueName_apply invariant leading.meeting leading.free.undecided
      refine ⟨value, _, now, ?_, joining_of_address invariant leading left right offset direct
        (.inr ⟨named, rfl⟩)⟩
      simp only
      rw [Run.bind_apply_ok done, Run.bind_apply_ok (added named)]
      rfl
  | some existing =>
      have folds : basis.Folds := by
        by_contra still
        rw [addressOf?_eq_none invariant leading still left right offset] at found
        simp at found
      by_cases same : value1 = value2
      · have named : Named basis here value1 value2 value1 here.2 :=
          .shared same leading.proper1 (invariant.early_of_address1 leading.leads1)
        refine ⟨value1, _, here.2, ?_, joining_of_address invariant leading left right offset
          direct (.inr ⟨named, rfl⟩)⟩
        simp only [ne_eq, same, not_true_eq_false, if_false]
        rw [← same, Run.bind_apply_ok (added named)]
        rfl
      · refine ⟨existing, here.1.dest, here.2, ?_, joining_of_address invariant leading left right
          offset direct (.inl ⟨Graph.target?_of_addressOf? found, rfl, rfl, folds⟩)⟩
        simp [same]

end Join

end ShapeDomain
