import ShapeDomain.Proofs.Progress.Folding
import ShapeDomain.Proofs.Progress.Storing

/-!
# The counterpart of a pair of objects is filled

The fields of a pair of objects are joined one after the other, and the joint values are stored in
the counterpart of the pair.  What has been stored stays there while the objects below are joined.
-/

namespace ShapeDomain

namespace Join

variable {basis : Basis} {path waiting lays fills kept : List ObjectPair}
variable {here there : Progress × Supply} {pair : ObjectPair} {range : BitRange}
variable {value1 value2 value : ValueId} {field : Field} {rest : List Field}

/-! ### Levels -/

/-- What a value leads to is at the ground level in a tame graph. -/
theorem levelBelow_of_tame {start : Nat} {origin graph : Graph} (tame : origin.Tame start)
    (relaid : origin.Relaid graph) (holder : Object) (value : ValueId) :
    levelBelow graph holder value = .ok .ground := by
  unfold levelBelow
  cases leads : graph.target? value with
  | none => rfl
  | some target =>
      rw [relaid.target?] at leads
      have single : target.specifier ≠ .all := by
        rcases tame.leading leads with region | first
        · simp [region]
        · simp [first]
      obtain ⟨object, found⟩ := (Graph.hasObject_iff _).1 (tame.sound.targets leads)
      have isObject : graph.object target.object = .ok object :=
        (Graph.object_eq_ok_iff _).2 ((relaid.object? _).trans found)
      simp only [single, if_false, isObject, Except.map, tame.ground found]

/-- The ground levels are mapped from the start. -/
theorem mapLevels_initial (initial : here.1.levels = .initial) (objects : Level × Level) :
    mapLevels (.ground, .ground) objects here = .ok true here := by
  have updated : here.1.levels.update (.ground, .ground) objects =
      .ok (some .ground, here.1.levels) := by
    rw [initial]
    rfl
  exact (Run.bind_apply_ok (Run.demand_apply_ok updated)).trans
    (Run.bind_apply_ok (Run.modify_apply _ _))

/-! ### Pairs with aligned layouts -/

/-- Objects with aligned layouts have fields in the same ranges. -/
theorem Realized.sameRanges {progress : Progress} {object1 object2 : ObjectId}
    (realized : Realized basis progress object1 object2) :
    SameRanges progress.left progress.right object1 object2 := by
  intro range
  rw [Bool.eq_iff_iff, (realized.left range).isSome_iff, (realized.right range).isSome_iff, slot,
    slot, Alignment.alignedSlots_ne_empty_iff, Alignment.alignedSlots_ne_empty_iff,
    Alignment.mem_sharedRanges_comm]

/-- A counterpart that is there was there before. -/
theorem Open.before (isOpen : Open basis here pair)
    (onward : Onward basis lays fills kept here there)
    (present : there.1.dest.hasObject pair.dest = true) :
    here.1.dest.hasObject pair.dest = true := by
  rcases onward.new present with before | late | ⟨shared, unmapped⟩
  · exact before
  · exact absurd isOpen.early (Nat.not_lt_of_le late)
  · have mapped := isOpen.shared shared
    rw [unmapped] at mapped
    simp at mapped

/-- The layouts of a pair of objects are aligned, and their fields have joint values, which are
stored, except for the fields of a list. -/
structure Filling (basis : Basis) (path waiting : List ObjectPair) (pair : ObjectPair)
    (rest : List Field) (here : Progress × Supply) : Prop where
  /-- The pair is being joined. -/
  invariant : Invariant basis (pair :: path) waiting here
  /-- The variables are paired. -/
  ready : Ready basis waiting here
  /-- Pairs that wait have other counterparts. -/
  apart : ∀ other ∈ waiting, other.dest ≠ pair.dest
  /-- The layouts are aligned. -/
  realized : Realized basis here.1 pair.object1 pair.object2
  /-- If the left graph is covered so far, then no field of the left object lost its value. -/
  whole : here.1.status.leftIsCovered = true → ∀ field ∈ basis.left.fieldsOf pair.object1,
    Alignment.losesValue (Alignment.boundaries
      (basis.left.fieldsOf pair.object1 ++ basis.right.fieldsOf pair.object2)) field = false
  /-- Where folding cannot harm, the counterpart is there. -/
  stays : basis.Safe → here.1.dest.hasObject pair.dest = true
  /-- The fields of the list are fields of the left object. -/
  listed : ∀ field ∈ rest, here.1.left.valueAt? pair.object1 field.range = some field.value
  /-- They are different. -/
  nodup : (rest.map Field.range).Nodup
  /-- The others have joint values, which are stored. -/
  stored : ∀ {range value1 value2}, here.1.left.valueAt? pair.object1 range = some value1 →
    here.1.right.valueAt? pair.object2 range = some value2 → range ∉ rest.map Field.range →
    ∃ value, jointValue? here.1 value1 value2 = some value ∧
      (here.1.dest.hasObject pair.dest = true →
        here.1.dest.valueAt? pair.dest range = some value)
  /-- Nothing else is stored. -/
  only : ∀ {range value}, here.1.dest.valueAt? pair.dest range = some value →
    (here.1.left.valueAt? pair.object1 range).isSome = true ∧ range ∉ rest.map Field.range

namespace Filling

section

variable (filling : Filling basis path waiting pair rest here)

include filling

theorem isOpen : Open basis here pair :=
  filling.invariant.opens pair List.mem_cons_self

/-- Without folding, the pair keeps its counterpart. -/
theorem mapped (still : ¬ basis.Folds) : here.1.leftMap.object? pair.object1 = some pair.dest ∧
    here.1.rightMap.object? pair.object2 = some pair.dest ∧
    ∀ other ∈ waiting, other.dest ≠ pair.dest := by
  obtain ⟨mapped1, mapped2, -⟩ :=
    filling.isOpen.present (filling.stays fun folds => absurd folds still)
  exact ⟨mapped1, mapped2, filling.apart⟩

/-- What is stored stays while objects below are joined. -/
theorem onward (invariant : Invariant basis (pair :: path) waiting there)
    (onward : Onward basis [] [] ((pair :: path) ++ waiting) here there) :
    Filling basis path waiting pair rest there := by
  have left (range : BitRange) : there.1.left.valueAt? pair.object1 range =
      here.1.left.valueAt? pair.object1 range :=
    Graph.valueAt?_congr (onward.leftLayout filling.isOpen.relates.left (by simp)) range
  have right (range : BitRange) : there.1.right.valueAt? pair.object2 range =
      here.1.right.valueAt? pair.object2 range :=
    Graph.valueAt?_congr (onward.rightLayout filling.isOpen.relates.right (by simp)) range
  have dest (present : there.1.dest.hasObject pair.dest = true) (range : BitRange) :
      there.1.dest.valueAt? pair.dest range = here.1.dest.valueAt? pair.dest range :=
    Graph.valueAt?_congr (onward.layout (filling.isOpen.before onward present) present (by simp))
      range
  refine ⟨invariant, filling.ready.onward onward, filling.apart, ⟨fun range => ?_, fun range => ?_⟩,
    fun covered => filling.whole (onward.status covered), fun safe => ?_, fun field member => ?_,
    filling.nodup, fun {range value1 value2} held1 held2 outside => ?_,
      fun {range value} held => ?_⟩
  · rw [left]
    exact filling.realized.left range
  · rw [right]
    exact filling.realized.right range
  · exact onward.kept safe pair (by simp) (filling.stays safe)
  · rw [left]
    exact filling.listed field member
  · rw [left] at held1
    rw [right] at held2
    obtain ⟨value, isJoint, stored⟩ := filling.stored held1 held2 outside
    refine ⟨value, onward.jointValue? isJoint, fun present => ?_⟩
    rw [dest present]
    exact stored (filling.isOpen.before onward present)
  · rw [dest (invariant.dest.hasObject_of_held held)] at held
    rw [left]
    exact filling.only held

end

/-- When all fields are joined, so is the pair. -/
theorem settled (filling : Filling basis path waiting pair [] here) :
    Settled basis here.1 pair.object1 pair.object2 where
  realized := filling.realized
  joint held1 held2 := by
    obtain ⟨value, isJoint, -⟩ := filling.stored held1 held2 (by simp)
    rw [isJoint]
    rfl
  whole := filling.whole

/-- Then its counterpart holds all joint values. -/
theorem filled (filling : Filling basis path waiting pair [] here) : Filled here.1 pair := by
  intro present range value1 value2 value held1 held2 isJoint
  obtain ⟨old, isJoint', stored⟩ := filling.stored held1 held2 (by simp)
  obtain rfl := Option.some.inj (isJoint'.symm.trans isJoint)
  exact stored present

/-- The left object of such a pair is joined with one that it meets. -/
theorem partners (filling : Filling basis path waiting pair [] here) :
    Partners basis path waiting here where
  met other member := filling.invariant.partners.met other (List.mem_cons_of_mem _ member)
  joined {object1} mapped apart := by
    by_cases same : pair.object1 = object1
    · subst same
      exact ⟨pair.object2, filling.isOpen.relates,
        filling.invariant.partners.met pair List.mem_cons_self, filling.settled⟩
    · refine filling.invariant.partners.joined mapped fun other member => ?_
      rcases List.mem_cons.1 member with rfl | member
      · exact same
      · exact apart other member
  covered := filling.invariant.partners.covered

/-- A pair whose fields are all joined is no longer being joined. -/
theorem closed (filling : Filling basis path waiting pair [] here) :
    Invariant basis path waiting here := by
  have invariant := filling.invariant
  refine { invariant with
    opens := fun other member => invariant.opens other (List.mem_cons_of_mem _ member)
    partners := filling.partners
    exact := fun still => ?_ }
  have exact := invariant.exact still
  have whose {object1 object2 image : ObjectId}
      (mapped1 : here.1.leftMap.object? object1 = some image)
      (mapped2 : here.1.rightMap.object? object2 = some image)
      (apart : ∀ other ∈ path ++ waiting, other.dest ≠ image) :
      (object1 = pair.object1 ∧ object2 = pair.object2 ∧ image = pair.dest) ∨
        ∀ other ∈ (pair :: path) ++ waiting, other.dest ≠ image := by
    by_cases same : image = pair.dest
    · subst same
      obtain ⟨pair1, pair2, -⟩ := filling.mapped still
      have region := invariant.isList_eq_false still pair.dest
      exact .inl ⟨(invariant.leftMap.unique mapped1 pair1).resolve_right (by simp [region]),
        (invariant.rightMap.unique mapped2 pair2).resolve_right (by simp [region]), rfl⟩
    · refine .inr fun other member => ?_
      rcases List.mem_cons.1 member with rfl | member
      · exact Ne.symm same
      · exact apart other member
  exact
    { exact with
      settled := fun mapped1 mapped2 apart => by
        rcases whose mapped1 mapped2 apart with ⟨rfl, rfl, -⟩ | apart
        · exact filling.settled
        · exact exact.settled mapped1 mapped2 apart
      filled := fun mapped1 mapped2 apart held1 held2 isJoint => by
        rcases whose mapped1 mapped2 apart with ⟨rfl, rfl, rfl⟩ | apart
        · obtain ⟨value, isJoint', stored⟩ := filling.stored held1 held2 (by simp)
          rw [isJoint, Option.some.injEq] at isJoint'
          subst isJoint'
          exact stored (invariant.hasObject_of_left mapped1)
        · exact exact.filled mapped1 mapped2 apart held1 held2 isJoint }

/-- The place of the next field is free, as long as the counterpart is there. -/
theorem vacant (filling : Filling basis path waiting pair (field :: rest) here)
    (present : here.1.dest.hasObject pair.dest = true) :
    here.1.dest.Vacant pair.dest field.range := by
  have invariant := filling.invariant
  have held := filling.listed field List.mem_cons_self
  obtain ⟨mapped1, -, -⟩ := filling.isOpen.present present
  obtain ⟨-, -, object, joint, found, isJoint, size⟩ := invariant.leftMap.source mapped1
  refine ⟨invariant.left.tiled.positive held, ⟨joint, isJoint, ?_⟩,
    fun {other value} heldThere => ?_⟩
  · obtain ⟨object', found', fits⟩ := invariant.left.tiled.fits held
    rw [invariant.left.relaid.object?, found, Option.some.injEq] at found'
    subst found'
    rwa [size]
  · obtain ⟨isHeld, outside⟩ := filling.only heldThere
    obtain ⟨value', held'⟩ := Option.isSome_iff_exists.1 isHeld
    refine (invariant.left.tiled.apart held' held).resolve_left fun same => ?_
    rw [same] at outside
    simp at outside

/-- The joint value of the next field is stored. -/
theorem storing (filling : Filling basis path waiting pair (field :: rest) here)
    (present : here.1.dest.hasObject pair.dest = true)
    (held2 : here.1.right.valueAt? pair.object2 field.range = some value2)
    (isJoint : jointValue? here.1 field.value value2 = some value) :
    Storing basis path waiting here pair field.range field.value value2 value where
  invariant := filling.invariant
  apart := filling.apart
  held1 := filling.listed field List.mem_cons_self
  held2 := held2
  joint := isJoint
  vacant := filling.vacant present

/-- One field less is left to be joined. -/
theorem next (filling : Filling basis path waiting pair (field :: rest) here)
    (storing : Storing basis path waiting here pair field.range field.value value2 value) :
    Filling basis path waiting pair rest
      (here.1.storing ⟨pair.dest, field.range, value⟩, here.2) := by
  have heldAfter (other : BitRange) :
      (here.1.dest.putField ⟨pair.dest, field.range, value⟩).valueAt? pair.dest other =
        if other = field.range then some value else here.1.dest.valueAt? pair.dest other := by
    rw [filling.invariant.dest.tiled.valueAt?_putField _ storing.vacant]
    simp
  have fresh : field.range ∉ rest.map Field.range :=
    (List.nodup_cons.1 (List.map_cons ▸ filling.nodup)).1
  refine ⟨storing.next, ⟨filling.ready.named1, filling.ready.named2, filling.ready.outside⟩,
    filling.apart, ⟨filling.realized.left, filling.realized.right⟩, filling.whole, filling.stays,
    fun other member => filling.listed other (List.mem_cons_of_mem _ member),
    (List.nodup_cons.1 (List.map_cons ▸ filling.nodup)).2,
    fun {range value1 value2'} held1 held2 outside => ?_, fun {range found} held => ?_⟩
  · by_cases same : range = field.range
    · subst same
      have isValue1 := held1.symm.trans storing.held1
      have isValue2 := held2.symm.trans storing.held2
      rw [Option.some.injEq] at isValue1 isValue2
      subst isValue1 isValue2
      exact ⟨value, storing.joint, fun _ => (heldAfter _).trans (if_pos rfl)⟩
    · obtain ⟨joint, isJoint, stored⟩ := filling.stored held1 held2 (by simp [same, outside])
      exact ⟨joint, isJoint, fun present =>
        ((heldAfter _).trans (if_neg same)).trans (stored present)⟩
  · have held' := (heldAfter range).symm.trans held
    split at held'
    case isTrue same =>
      subst same
      refine ⟨?_, fresh⟩
      show (here.1.left.valueAt? pair.object1 field.range).isSome = true
      rw [storing.held1]
      rfl
    case isFalse =>
      obtain ⟨isHeld, outside⟩ := filling.only held'
      rw [List.map_cons, List.mem_cons, not_or] at outside
      exact ⟨isHeld, outside.2⟩

end Filling

end Join

end ShapeDomain
