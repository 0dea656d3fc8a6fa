import ShapeDomain.Proofs.Progress.Aligning

/-!
# A joint value is stored

The counterpart of a pair of objects gets a field with the joint value of what the pair holds.  This
only fails when the counterpart was folded, which does not happen where folding cannot harm.
-/

namespace ShapeDomain

namespace Join

variable {basis : Basis} {path waiting lays fills kept : List ObjectPair}
variable {here : Progress × Supply} {pair : ObjectPair} {range : BitRange}
variable {value1 value2 value : ValueId}

/-- A join in which the destination has got a field. -/
def Progress.storing (progress : Progress) (field : Field) : Progress :=
  { progress with dest := progress.dest.putField field }

/-- A value is stored where there is place for it. -/
theorem store_of_vacant {field : Field} (vacant : here.1.dest.Vacant field.object field.range) :
    store field here = .ok () (here.1.storing field, here.2) := by
  unfold store
  rw [Run.bind_apply_ok (Run.ask_apply _ _), vacant.valueAt?_eq_none]
  exact attemptDest_apply (Graph.addField_of_vacant vacant)

/-- The joint value of two values may be stored. -/
structure Storing (basis : Basis) (path waiting : List ObjectPair) (here : Progress × Supply)
    (pair : ObjectPair) (range : BitRange) (value1 value2 value : ValueId) : Prop where
  /-- The pair is being joined. -/
  invariant : Invariant basis (pair :: path) waiting here
  /-- Pairs that wait have other counterparts. -/
  apart : ∀ other ∈ waiting, other.dest ≠ pair.dest
  /-- The left object holds the left value. -/
  held1 : here.1.left.valueAt? pair.object1 range = some value1
  /-- The right object holds the right value. -/
  held2 : here.1.right.valueAt? pair.object2 range = some value2
  /-- They have a joint value. -/
  joint : jointValue? here.1 value1 value2 = some value
  /-- There is place for it. -/
  vacant : here.1.dest.Vacant pair.dest range

namespace Storing

variable (storing : Storing basis path waiting here pair range value1 value2 value)

include storing

theorem present : here.1.dest.hasObject pair.dest = true := by
  obtain ⟨object, found, -⟩ := storing.vacant.fits
  exact Graph.hasObject_of_object? found

theorem isOpen : here.1.leftMap.object? pair.object1 = some pair.dest ∧
    here.1.rightMap.object? pair.object2 = some pair.dest ∧
    here.1.dest.isList pair.dest = false :=
  (storing.invariant.opens pair List.mem_cons_self).present storing.present

/-- The joint value is in the destination. -/
theorem hasValue : here.1.dest.hasValue value = true := by
  rcases jointValue?_eq_some_iff.1 storing.joint with ⟨-, -, rfl⟩ | ⟨-, isJoint⟩
  · exact storing.invariant.dest.hasValue_zero
  · exact (storing.invariant.joined isJoint).present

theorem hasValue_next (other : ValueId) :
    (here.1.dest.putField ⟨pair.dest, range, value⟩).hasValue other =
      here.1.dest.hasValue other := by
  rw [Graph.hasValue_putField]
  by_cases same : other = value
  · subst same
    simp [storing.hasValue]
  · simp [same]

omit storing in
theorem valueAt?_other {id : ObjectId} (different : id ≠ pair.dest) (other : BitRange) :
    (here.1.dest.putField ⟨pair.dest, range, value⟩).valueAt? id other =
      here.1.dest.valueAt? id other :=
  Graph.valueAt?_putField_of_ne (by exact different) other

omit storing in
/-- Storing a joint value leaves all else as it is. -/
theorem onward (inside : pair ∈ fills) :
    Onward basis lays fills kept here (here.1.storing ⟨pair.dest, range, value⟩, here.2) where
  time := Nat.le_refl _
  leftLayout _ _ := rfl
  rightLayout _ _ := rfl
  joined isJoint := isJoint
  leftMap mapped := ⟨Option.isSome_iff_exists.2 ⟨_, mapped⟩, fun _ => mapped⟩
  rightMap mapped := ⟨Option.isSome_iff_exists.2 ⟨_, mapped⟩, fun _ => mapped⟩
  relates related := related
  object _ _ := rfl
  layout _ _ apart := Graph.layout_putField_of_ne (by exact apart pair inside)
  gone present absent := absurd (present.symm.trans absent) (by simp)
  kept _ _ _ present := present
  new present := .inl present
  status covered := covered
  stack := rfl
  globals := rfl

theorem exact_next (exact : Exact basis (pair :: path) waiting here) :
    Exact basis (pair :: path) waiting (here.1.storing ⟨pair.dest, range, value⟩, here.2) where
  met := exact.met
  held isJoint := by
    obtain ⟨object1, object2, image, range, mapped1, mapped2, apart, realized, held⟩ :=
      exact.held isJoint
    exact ⟨object1, object2, image, range, mapped1, mapped2, apart,
      ⟨realized.left, realized.right⟩, held⟩
  single := exact.single
  knows isJoint := (exact.knows isJoint).mono (Graph.number?_putField _ _)
    (Graph.target?_putField _ _) fun isImage => isImage
  zero := (Graph.number?_putField _ _).trans exact.zero
  valued {other} present := exact.valued ((storing.hasValue_next other).symm.trans present)
  settled mapped1 mapped2 apart := by
    have settled := exact.settled mapped1 mapped2 apart
    exact ⟨⟨settled.realized.left, settled.realized.right⟩, settled.joint, settled.whole⟩
  filled mapped1 mapped2 apart held1 held2 isJoint :=
    (valueAt?_other (apart pair (by simp)).symm _).trans
      (exact.filled mapped1 mapped2 apart held1 held2 isJoint)

/-- The invariant stays when a joint value is stored. -/
theorem next : Invariant basis (pair :: path) waiting
    (here.1.storing ⟨pair.dest, range, value⟩, here.2) := by
  have invariant := storing.invariant
  obtain ⟨mapped1, mapped2, region⟩ := storing.isOpen
  exact
    { invariant with
      leftMap := ⟨fun isImage => invariant.leftMap.source isImage,
        fun isImage => invariant.leftMap.valid isImage,
        fun isImage heap => invariant.leftMap.heap isImage heap, invariant.leftMap.shared,
        fun first second => invariant.leftMap.unique first second⟩
      rightMap := ⟨fun isImage => invariant.rightMap.source isImage,
        fun isImage => invariant.rightMap.valid isImage,
        fun isImage heap => invariant.rightMap.heap isImage heap, invariant.rightMap.shared,
        fun first second => invariant.rightMap.unique first second⟩
      dest := invariant.dest.putField storing.vacant
      values := fun {other} present =>
        invariant.values ((storing.hasValue_next other).symm.trans present)
      joined := fun isJoint => by
        have joint := invariant.joined isJoint
        exact ⟨(storing.hasValue_next _).trans joint.present, joint.left, joint.right,
          joint.agree.mono rfl rfl (Graph.target?_putField _ _) (fun isImage => isImage)
            fun isImage => isImage⟩
      contents := fun {id other found} held isRegion => by
        have held' : (here.1.dest.putField ⟨pair.dest, range, value⟩).valueAt? id other =
            some found := held
        rw [invariant.dest.tiled.valueAt?_putField _ storing.vacant] at held'
        split at held'
        case isTrue same =>
          obtain ⟨rfl, rfl⟩ := same
          obtain rfl := Option.some.inj held'
          exact ⟨pair.object1, pair.object2, value1, value2, mapped1, mapped2, storing.held1,
            storing.held2, storing.joint⟩
        case isFalse =>
          obtain ⟨object1, object2, first, second, source⟩ := invariant.contents held' isRegion
          exact ⟨object1, object2, first, second, source.left, source.right, source.held1,
            source.held2, source.joint⟩
      waits := fun other member => by
        have waiting := invariant.waits other member
        exact ⟨waiting.left, waiting.right, waiting.region, fun range =>
          (valueAt?_other (storing.apart other member) range).trans (waiting.empty range),
          waiting.layout1, waiting.layout2⟩
      opens := fun other member => by
        have isOpen := invariant.opens other member
        exact ⟨isOpen.relates, isOpen.early, isOpen.shared, isOpen.present⟩
      partners :=
        { invariant.partners with
          joined := fun mapped apart => by
            have onward : Onward basis [] [pair] [] here
                (here.1.storing ⟨pair.dest, range, value⟩, here.2) := onward List.mem_cons_self
            exact onward.partnered (invariant.partners.joined mapped apart) (by simp) (by simp) }
      tied1 := invariant.tied1.mono .inl (fun bound => ⟨bound, Graph.target?_putField _ _⟩)
        (fun isImage => ⟨isImage, rfl⟩) fun first second => .inr ⟨first, second⟩
      tied2 := invariant.tied2.mono .inl (fun bound => ⟨bound, Graph.target?_putField _ _⟩)
        (fun isImage => ⟨isImage, rfl⟩) fun first second => .inr ⟨first, second⟩
      exact := fun still => storing.exact_next (invariant.exact still) }

/-- The joint value is stored. -/
theorem store_apply : store ⟨pair.dest, range, value⟩ here =
    .ok () (here.1.storing ⟨pair.dest, range, value⟩, here.2) :=
  store_of_vacant storing.vacant

end Storing

/-- Where the counterpart is not there, nothing can be stored. -/
theorem store_error (absent : here.1.dest.hasObject pair.dest = false) (sound : here.1.dest.Sound) :
    ∃ fault there, store ⟨pair.dest, range, value⟩ here = .error fault there := by
  have unheld : here.1.dest.valueAt? pair.dest range = none := by
    cases held : here.1.dest.valueAt? pair.dest range with
    | none => rfl
    | some found =>
        rw [sound.hasObject_of_held held] at absent
        simp at absent
  have refused : here.1.dest.addField ⟨pair.dest, range, value⟩ =
      .error (.unknownObject pair.dest) := by
    simp only [Graph.addField, Graph.object_of_none (Graph.object?_of_hasObject_eq_false absent),
      bind, Except.bind]
  refine ⟨.unknownObject pair.dest, here, ?_⟩
  unfold store
  rw [Run.bind_apply_ok (Run.ask_apply _ _), unheld]
  show attemptDest (fun graph => graph.addField ⟨pair.dest, range, value⟩) here = _
  rw [attemptDest, onDest, Run.within_apply, Run.attempt_apply_error refused]

end Join

end ShapeDomain
