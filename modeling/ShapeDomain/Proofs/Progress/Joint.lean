import ShapeDomain.Proofs.Join.Pairing
import ShapeDomain.Proofs.Progress.Onward

/-!
# A pair of values gets its joint value

When two values get a joint value, the destination gets to know this value and nothing else, the
correspondences and the table of joint values grow, and the status may go down.  The invariant stays
as long as the new joint value fits.
-/

namespace ShapeDomain

namespace Join

/-- A graph gets to know a value, and nothing else. -/
structure Gains (graph next : Graph) (value : ValueId) : Prop where
  /-- The objects stay. -/
  objects : next.objects = graph.objects
  /-- So do the fields, -/
  layouts : next.layouts = graph.layouts
  /-- the running functions -/
  stack : next.stack = graph.stack
  /-- and the global variables. -/
  globals : next.globals = graph.globals
  /-- The tables fit together. -/
  sound : next.Sound
  /-- Nothing new is known of the values that were there. -/
  knowledge : ∀ {other}, graph.hasValue other = true → next.knowledge other = graph.knowledge other
  /-- One value may be new. -/
  values : ∀ {other}, next.hasValue other = true ↔ other = value ∨ graph.hasValue other = true

/-- A join in which a pair of values has got a joint value. -/
def Progress.joining (progress : Progress) (value1 value2 value : ValueId) (dest : Graph)
    (status : Status) : Progress :=
  { progress with
    leftMap := setUnlessZero progress.leftMap value1 value
    rightMap := setUnlessZero progress.rightMap value2 value
    joined := progress.joined.insert (value1, value2) value
    dest := dest
    status := status }

/-- Two values may get a joint value. -/
structure Joining (basis : Basis) (here : Progress × Supply) (value1 value2 value : ValueId)
    (dest : Graph) (status : Status) (now : Supply) : Prop where
  /-- The supply moves on. -/
  time : here.2.next ≤ now.next
  /-- The destination gets to know the joint value. -/
  gains : Gains here.1.dest dest value
  /-- They have none yet. -/
  undecided : jointValue? here.1 value1 value2 = none
  /-- The left value has no counterpart. -/
  free1 : value1 = .zero ∨ here.1.leftMap.value? value1 = none
  /-- The right value has none either. -/
  free2 : value2 = .zero ∨ here.1.rightMap.value? value2 = none
  /-- The joint value is one of the destination, or it was drawn, or it is shared. -/
  named : here.1.dest.hasValue value = true ∨
    (basis.start ≤ value.index ∧ value.index < now.next) ∨
    (value.index < basis.start ∧ value1 = value)
  /-- The targets fit. -/
  agree : Agree (here.1.joining value1 value2 value dest status) value1 value2 value
  /-- The joint value of addresses is an address. -/
  leads : ∀ {target1}, address? basis.left value1 = some target1 → dest.target? value ≠ none
  /-- If the left graph is still covered, it was before, -/
  lowered : status.leftIsCovered = true → here.1.status.leftIsCovered = true
  /-- and it knows what the right graph knows. -/
  known : status.leftIsCovered = true → address? here.1.left value1 = none →
    Known basis.left basis.right value1 value2
  /-- It is, as long as it says as much as the right one. -/
  covered : Informed basis.left basis.right → status.leftIsCovered = true

/-- Without folding, two values get a joint value because objects that meet hold them. -/
structure JoiningExact (basis : Basis) (waiting : List ObjectPair) (here : Progress × Supply)
    (value1 value2 value : ValueId) (dest : Graph) (status : Status) : Prop where
  /-- Objects with the same counterpart hold them. -/
  held : ∃ object1 object2 image range, here.1.leftMap.object? object1 = some image ∧
    here.1.rightMap.object? object2 = some image ∧ (∀ pair ∈ waiting, pair.dest ≠ image) ∧
    Realized basis here.1 object1 object2 ∧
    here.1.left.valueAt? object1 range = some value1 ∧
    here.1.right.valueAt? object2 range = some value2
  /-- The joint value is zero or new. -/
  new : value = .zero ∨ here.1.dest.hasValue value = false
  /-- The destination knows what both graphs know. -/
  knows : Knows basis (here.1.joining value1 value2 value dest status) value1 value2 value

section

variable {progress : Progress} {value1 value2 value : ValueId} {dest : Graph} {status : Status}

@[simp] theorem object?_setUnlessZero (map : Correspondence) (source dest : ValueId)
    (id : ObjectId) : (setUnlessZero map source dest).object? id = map.object? id := by
  rw [Correspondence.object?, objects_setUnlessZero, Correspondence.object?]

@[simp] theorem image?_setUnlessZero (map : Correspondence) (source dest : ValueId)
    (id : ObjectId) : image? (setUnlessZero map source dest) id = image? map id := by
  rw [image?, image?, object?_setUnlessZero]

/-- Who had no counterpart may get one without harm to the others. -/
theorem value?_setUnlessZero_of_some {map : Correspondence} {source other dest found : ValueId}
    (free : source = .zero ∨ map.value? source = none) (bound : map.value? other = some found) :
    (setUnlessZero map source dest).value? other = some found := by
  rw [value?_setUnlessZero, if_neg]
  · exact bound
  · rintro ⟨rfl, proper⟩
    rcases free with rfl | unbound
    · simp [ValueId.isZero] at proper
    · rw [bound] at unbound
      simp at unbound

/-- What has a counterpart has one that was there before or the new one. -/
theorem of_value?_setUnlessZero {map : Correspondence} {source other dest found : ValueId}
    (bound : (setUnlessZero map source dest).value? other = some found) :
    (other = source ∧ found = dest) ∨ map.value? other = some found := by
  rw [value?_setUnlessZero] at bound
  split at bound
  case isTrue same => exact .inl ⟨same.1, (Option.some.inj bound).symm⟩
  case isFalse => exact .inr bound

/-- Zero has no counterpart, and any other value has the one that it gets. -/
theorem value?_setUnlessZero_self (map : Correspondence) (source dest : ValueId) :
    source = .zero ∨ (setUnlessZero map source dest).value? source = some dest := by
  refine Classical.or_iff_not_imp_left.2 fun proper => ?_
  rw [value?_setUnlessZero, if_pos]
  exact ⟨rfl, by simpa [ValueId.isZero] using proper⟩

theorem jointValue?_eq_none_iff :
    jointValue? progress value1 value2 = none ↔
      ¬ (value1 = .zero ∧ value2 = .zero) ∧ progress.joined.get? (value1, value2) = none := by
  unfold jointValue?
  split
  case isTrue zeros =>
    rw [Bool.and_eq_true, ValueId.isZero, ValueId.isZero, beq_iff_eq, beq_iff_eq] at zeros
    simp [zeros]
  case isFalse proper =>
    rw [Bool.and_eq_true, ValueId.isZero, ValueId.isZero, beq_iff_eq, beq_iff_eq] at proper
    exact ⟨fun absent => ⟨proper, absent⟩, And.right⟩

theorem jointValue?_eq_some_iff :
    jointValue? progress value1 value2 = some value ↔
      (value1 = .zero ∧ value2 = .zero ∧ value = .zero) ∨
        (¬ (value1 = .zero ∧ value2 = .zero) ∧
          progress.joined.get? (value1, value2) = some value) := by
  unfold jointValue?
  split
  case isTrue zeros =>
    rw [Bool.and_eq_true, ValueId.isZero, ValueId.isZero, beq_iff_eq, beq_iff_eq] at zeros
    simp [zeros, eq_comm]
  case isFalse proper =>
    rw [Bool.and_eq_true, ValueId.isZero, ValueId.isZero, beq_iff_eq, beq_iff_eq] at proper
    constructor
    · exact fun found => .inr ⟨proper, found⟩
    · rintro (⟨zero1, zero2, -⟩ | ⟨-, found⟩)
      · exact absurd ⟨zero1, zero2⟩ proper
      · exact found

theorem get?_joined_joining (pair : ValueId × ValueId) :
    (progress.joining value1 value2 value dest status).joined.get? pair =
      if pair = (value1, value2) then some value else progress.joined.get? pair :=
  Table.get?_insert ..

theorem joined_joining :
    (progress.joining value1 value2 value dest status).joined.get? (value1, value2) =
      some value := by
  rw [get?_joined_joining, if_pos rfl]

/-- A joint value is the new one or was there before. -/
theorem of_joined_joining {first second found : ValueId}
    (isJoint : (progress.joining value1 value2 value dest status).joined.get? (first, second) =
      some found) : (first = value1 ∧ second = value2 ∧ found = value) ∨
        progress.joined.get? (first, second) = some found := by
  rw [get?_joined_joining] at isJoint
  split at isJoint
  case isTrue same =>
    obtain ⟨rfl, rfl⟩ := Prod.mk.inj same
    exact .inl ⟨rfl, rfl, (Option.some.inj isJoint).symm⟩
  case isFalse => exact .inr isJoint

theorem joined_of_undecided (undecided : jointValue? progress value1 value2 = none)
    {pair : ValueId × ValueId} {found : ValueId}
    (isJoint : progress.joined.get? pair = some found) :
    (progress.joining value1 value2 value dest status).joined.get? pair = some found := by
  rw [get?_joined_joining, if_neg]
  · exact isJoint
  · rintro rfl
    rw [(jointValue?_eq_none_iff.1 undecided).2] at isJoint
    simp at isJoint

theorem jointValue?_joining (undecided : jointValue? progress value1 value2 = none) :
    jointValue? (progress.joining value1 value2 value dest status) value1 value2 = some value :=
  jointValue?_eq_some_iff.2 (.inr ⟨(jointValue?_eq_none_iff.1 undecided).1, joined_joining⟩)

theorem jointValue?_of_undecided (undecided : jointValue? progress value1 value2 = none)
    {other1 other2 found : ValueId} (isJoint : jointValue? progress other1 other2 = some found) :
    jointValue? (progress.joining value1 value2 value dest status) other1 other2 = some found := by
  rcases jointValue?_eq_some_iff.1 isJoint with zeros | ⟨proper, joined⟩
  · exact jointValue?_eq_some_iff.2 (.inl zeros)
  · exact jointValue?_eq_some_iff.2 (.inr ⟨proper, joined_of_undecided undecided joined⟩)

end

namespace Gains

variable {graph next : Graph} {value : ValueId}

theorem object? (gains : Gains graph next value) (id : ObjectId) :
    next.object? id = graph.object? id := by
  rw [Graph.object?, gains.objects, Graph.object?]

theorem isValid (gains : Gains graph next value) (id : ObjectId) :
    next.isValid id = graph.isValid id := by
  rw [Graph.isValid, gains.objects, Graph.isValid]

theorem isHeap (gains : Gains graph next value) (id : ObjectId) :
    next.isHeap id = graph.isHeap id := by
  rw [Graph.isHeap, gains.objects, Graph.isHeap]

theorem hasObject (gains : Gains graph next value) (id : ObjectId) :
    next.hasObject id = graph.hasObject id := by
  rw [Graph.hasObject, gains.objects, Graph.hasObject]

theorem isList (gains : Gains graph next value) (id : ObjectId) :
    next.isList id = graph.isList id :=
  Graph.isList_congr (gains.object? id)

theorem valueAt? (gains : Gains graph next value) (object : ObjectId) (range : BitRange) :
    next.valueAt? object range = graph.valueAt? object range := by
  apply Graph.valueAt?_congr
  rw [Graph.layout, gains.layouts, Graph.layout]

theorem target? (gains : Gains graph next value) {other : ValueId}
    (present : graph.hasValue other = true) : next.target? other = graph.target? other := by
  rw [Graph.target?, gains.knowledge present, Graph.target?]

theorem number? (gains : Gains graph next value) {other : ValueId}
    (present : graph.hasValue other = true) : next.number? other = graph.number? other := by
  rw [Graph.number?, gains.knowledge present, Graph.number?]

/-- Counterparts of objects fit as before. -/
theorem mapped {start : Nat} {origin : Graph} {map map' : Correspondence}
    (gains : Gains graph next value) (same : ∀ id, map'.object? id = map.object? id)
    (mapped : Mapped start origin map graph) : Mapped start origin map' next where
  source {id image} isImage := by
    rw [same] at isImage
    obtain ⟨proper, properImage, object, joint, found, there, size⟩ := mapped.source isImage
    exact ⟨proper, properImage, object, joint, found, (gains.object? image).trans there, size⟩
  valid {id image} isImage := by
    rw [same] at isImage
    exact (gains.isValid image).trans (mapped.valid isImage)
  heap {id image} isImage heap := by
    rw [same] at isImage
    exact (gains.isHeap image).trans (mapped.heap isImage heap)
  shared {id image} isImage := by
    rw [same] at isImage
    exact mapped.shared isImage
  unique {id other image} first second := by
    rw [same] at first second
    rw [gains.isList]
    exact mapped.unique first second

end Gains

variable {basis : Basis} {path waiting lays fills kept : List ObjectPair}
variable {here : Progress × Supply} {value1 value2 value : ValueId} {dest : Graph}
variable {status : Status} {now : Supply}

theorem Knows.mono {progress progress' : Progress} {value1 value2 value : ValueId}
    (knows : Knows basis progress value1 value2 value)
    (number : progress'.dest.number? value = progress.dest.number? value)
    (target : progress'.dest.target? value = progress.dest.target? value)
    (image : ∀ {id image}, image? progress.leftMap id = some image →
      image? progress'.leftMap id = some image) : Knows basis progress' value1 value2 value where
  number proper := number.trans (knows.number proper)
  zero := knows.zero
  target leads := by
    obtain ⟨there, isImage, place⟩ := knows.target leads
    exact ⟨there, image isImage, target.trans place⟩
  agree := knows.agree

/-- What it takes for two targets to agree is kept when more is mapped. -/
theorem Agree.mono {progress progress' : Progress} {value1 value2 value : ValueId}
    (agree : Agree progress value1 value2 value)
    (left : progress'.left.values = progress.left.values)
    (right : progress'.right.values = progress.right.values)
    (target : progress'.dest.target? value = progress.dest.target? value)
    (image1 : ∀ {id image}, image? progress.leftMap id = some image →
      image? progress'.leftMap id = some image)
    (image2 : ∀ {id image}, image? progress.rightMap id = some image →
      image? progress'.rightMap id = some image) : Agree progress' value1 value2 value := by
  have left' (value : ValueId) : address? progress'.left value = address? progress.left value := by
    simp only [address?, Graph.target?, Graph.knowledge, left]
  have right' (value : ValueId) :
      address? progress'.right value = address? progress.right value := by
    simp only [address?, Graph.target?, Graph.knowledge, right]
  cases agree with
  | plain none1 none2 fits =>
      exact .plain ((left' _).trans none1) ((right' _).trans none2)
        (fits.imp_right target.trans)
  | address leads1 leads2 place =>
      refine .address ((left' _).trans leads1) ((right' _).trans leads2)
        ⟨place.offset, image1 place.left, image2 place.right, fun found leads => ?_⟩
      rw [target] at leads
      exact place.leads found leads

theorem Joining.onward (joining : Joining basis here value1 value2 value dest status now) :
    Onward basis lays fills kept here (here.1.joining value1 value2 value dest status, now) :=
  .of_same joining.time rfl rfl (objects_setUnlessZero ..) (objects_setUnlessZero ..)
    (fun isJoint => joined_of_undecided joining.undecided isJoint) joining.gains.objects
    joining.gains.layouts joining.lowered joining.gains.stack joining.gains.globals

/-- The joint value of right addresses is an address as well. -/
theorem Joining.leads_right (joining : Joining basis here value1 value2 value dest status now)
    (left : basis.left.Relaid here.1.left) (right : basis.right.Relaid here.1.right)
    {target2 : Target} (leads2 : address? basis.right value2 = some target2) :
    dest.target? value ≠ none := by
  have left' : address? here.1.left value1 = address? basis.left value1 := by
    rw [address?, left.target?, address?]
  have right' : address? here.1.right value2 = address? basis.right value2 := by
    rw [address?, right.target?, address?]
  cases joining.agree with
  | plain _ none2 => exact absurd (none2.symm.trans (right'.trans leads2)) (by simp)
  | address leads1 => exact joining.leads (left'.symm.trans leads1)

/-- Counterparts of addresses are addresses after a pair of values got its joint value. -/
theorem Joining.tied (joining : Joining basis here value1 value2 value dest status now)
    {origin : Graph} {map : Correspondence} {source : ValueId} (tied : Tied origin map here.1.dest)
    (free : source = .zero ∨ map.value? source = none)
    (present : ∀ {source found}, map.value? source = some found →
      here.1.dest.hasValue found = true)
    (leads : ∀ {target}, address? origin source = some target → dest.target? value ≠ none) :
    Tied origin (setUnlessZero map source value) dest := by
  refine tied.mono (fun bound => ?_) (fun bound => ⟨value?_setUnlessZero_of_some free bound,
    joining.gains.target? (present bound)⟩) (fun {id image} isImage => ⟨?_, ?_⟩)
    fun first second => .inr ⟨?_, ?_⟩
  · rcases of_value?_setUnlessZero bound with ⟨rfl, rfl⟩ | old
    · exact .inr leads
    · exact .inl old
  · rw [image?_setUnlessZero, isImage]
  · exact joining.gains.isList image
  · rwa [object?_setUnlessZero] at first
  · rwa [object?_setUnlessZero] at second

namespace Invariant

theorem joining_exact (invariant : Invariant basis path waiting here)
    (exact : Exact basis path waiting here)
    (joining : Joining basis here value1 value2 value dest status now)
    (joiningExact : JoiningExact basis waiting here value1 value2 value dest status) :
    Exact basis path waiting (here.1.joining value1 value2 value dest status, now) where
  met {object1 object2 image} mapped1 mapped2 := by
    simp only [Progress.joining, object?_setUnlessZero] at mapped1 mapped2
    exact exact.met mapped1 mapped2
  held {first second found} isJoint := by
    simp only [Progress.joining, object?_setUnlessZero]
    rcases of_joined_joining isJoint with ⟨rfl, rfl, -⟩ | isJoint
    · obtain ⟨object1, object2, image, range, mapped1, mapped2, apart, realized, held1, held2⟩ :=
        joiningExact.held
      exact ⟨object1, object2, image, range, mapped1, mapped2, apart,
        ⟨realized.left, realized.right⟩, held1, held2⟩
    · obtain ⟨object1, object2, image, range, mapped1, mapped2, apart, realized, held1, held2⟩ :=
        exact.held isJoint
      exact ⟨object1, object2, image, range, mapped1, mapped2, apart,
        ⟨realized.left, realized.right⟩, held1, held2⟩
  single {first1 first2 second1 second2 found} isJoint isJoint' := by
    have old {other1 other2 : ValueId}
      (isJoint : here.1.joined.get? (other1, other2) = some value) :
        value = .zero := by
      refine joiningExact.new.resolve_right fun absent => ?_
      rw [(invariant.joined isJoint).present] at absent
      simp at absent
    rcases of_joined_joining isJoint with ⟨rfl, rfl, rfl⟩ | before <;>
      rcases of_joined_joining isJoint' with ⟨rfl, rfl, same⟩ | before'
    · exact .inr ⟨rfl, rfl⟩
    · exact .inl (old before')
    · exact .inl (same ▸ old (same ▸ before))
    · exact exact.single before before'
  knows {first second found} isJoint := by
    rcases of_joined_joining isJoint with ⟨rfl, rfl, rfl⟩ | isJoint
    · exact joiningExact.knows
    · have present := (invariant.joined isJoint).present
      refine (exact.knows isJoint).mono (joining.gains.number? present)
        (joining.gains.target? present) fun isImage => ?_
      simpa [Progress.joining] using isImage
  zero := (joining.gains.number? invariant.dest.hasValue_zero).trans exact.zero
  valued {other} present := by
    rcases joining.gains.values.1 present with rfl | present
    · exact .inr ⟨value1, value2, joined_joining⟩
    · refine (exact.valued present).imp_right ?_
      rintro ⟨first, second, isJoint⟩
      exact ⟨first, second, joined_of_undecided joining.undecided isJoint⟩
  settled {object1 object2 image} mapped1 mapped2 apart := by
    simp only [Progress.joining, object?_setUnlessZero] at mapped1 mapped2
    have settled := exact.settled mapped1 mapped2 apart
    refine ⟨⟨settled.realized.left, settled.realized.right⟩, fun held1 held2 => ?_,
      fun covered => settled.whole (joining.lowered covered)⟩
    obtain ⟨found, isJoint⟩ := Option.isSome_iff_exists.1 (settled.joint held1 held2)
    rw [jointValue?_of_undecided joining.undecided isJoint]
    rfl
  filled {object1 object2 image range first second found} mapped1 mapped2 apart held1 held2
      isJoint := by
    simp only [Progress.joining, object?_setUnlessZero] at mapped1 mapped2
    show dest.valueAt? image range = some found
    rw [joining.gains.valueAt?]
    have settled := exact.settled mapped1 mapped2 apart
    obtain ⟨found', isJoint'⟩ := Option.isSome_iff_exists.1 (settled.joint held1 held2)
    have same : jointValue? (here.1.joining value1 value2 value dest status) first second =
        some found' := jointValue?_of_undecided joining.undecided isJoint'
    rw [isJoint, Option.some.injEq] at same
    subst same
    exact exact.filled mapped1 mapped2 apart held1 held2 isJoint'

/-- Objects are joined with the same objects after a pair of values got its joint value. -/
theorem joining_partners (invariant : Invariant basis path waiting here)
    (joining : Joining basis here value1 value2 value dest status now) :
    Partners basis path waiting (here.1.joining value1 value2 value dest status, now) where
  met := invariant.partners.met
  joined {object1} mapped apart := by
    simp only [Progress.joining, object?_setUnlessZero] at mapped
    have onward : Onward basis [] [] [] here
        (here.1.joining value1 value2 value dest status, now) := joining.onward
    exact onward.partnered (invariant.partners.joined mapped apart) (by simp) (by simp)
  covered := joining.covered

/-- The values of the destination were drawn or are shared after a pair of values got its joint
value. -/
theorem joining_values (invariant : Invariant basis path waiting here)
    (joining : Joining basis here value1 value2 value dest status now) {other : ValueId}
    (present : dest.hasValue other = true) : other = .zero ∨
      (basis.start ≤ other.index ∧ other.index < now.next) ∨ (other.index < basis.start ∧
        (setUnlessZero here.1.leftMap value1 value).value? other = some other) := by
  have old (present : here.1.dest.hasValue other = true) : other = .zero ∨
      (basis.start ≤ other.index ∧ other.index < now.next) ∨ (other.index < basis.start ∧
        (setUnlessZero here.1.leftMap value1 value).value? other = some other) := by
    rcases invariant.values present with zero | ⟨late, early⟩ | ⟨shared, bound⟩
    · exact .inl zero
    · exact .inr (.inl ⟨late, Nat.lt_of_lt_of_le early joining.time⟩)
    · exact .inr (.inr ⟨shared, value?_setUnlessZero_of_some joining.free1 bound⟩)
  rcases joining.gains.values.1 present with rfl | before
  · rcases joining.named with before | late | ⟨shared, rfl⟩
    · exact old before
    · exact .inr (.inl late)
    · exact (value?_setUnlessZero_self ..).imp_right fun bound => .inr ⟨shared, bound⟩
  · exact old before

/-- Joint values fit after a pair of values got its joint value. -/
theorem joining_joint (invariant : Invariant basis path waiting here)
    (joining : Joining basis here value1 value2 value dest status now)
    {first second found : ValueId}
    (isJoint : (here.1.joining value1 value2 value dest status).joined.get? (first, second) =
      some found) :
    Joint (here.1.joining value1 value2 value dest status) first second found := by
  rcases of_joined_joining isJoint with ⟨rfl, rfl, rfl⟩ | isJoint
  · exact ⟨joining.gains.values.2 (.inl rfl), value?_setUnlessZero_self ..,
      value?_setUnlessZero_self .., joining.agree⟩
  · have joint := invariant.joined isJoint
    refine ⟨joining.gains.values.2 (.inr joint.present),
      joint.left.imp_right (value?_setUnlessZero_of_some joining.free1),
      joint.right.imp_right (value?_setUnlessZero_of_some joining.free2),
      joint.agree.mono rfl rfl (joining.gains.target? joint.present) ?_ ?_⟩
    · intro id image isImage
      simpa [Progress.joining] using isImage
    · intro id image isImage
      simpa [Progress.joining] using isImage

/-- The invariant stays when a pair of values gets a joint value. -/
theorem joining (invariant : Invariant basis path waiting here)
    (joining : Joining basis here value1 value2 value dest status now)
    (exact : ¬ basis.Folds → JoiningExact basis waiting here value1 value2 value dest status) :
    Invariant basis path waiting (here.1.joining value1 value2 value dest status, now) where
  started := Nat.le_trans invariant.started joining.time
  left := { invariant.left with
    drawn := fun held => Nat.lt_of_lt_of_le (invariant.left.drawn held) joining.time }
  right := { invariant.right with
    drawn := fun held => Nat.lt_of_lt_of_le (invariant.right.drawn held) joining.time }
  separate := invariant.separate
  untouched1 {id} unmapped := by
    simp only [Progress.joining, object?_setUnlessZero] at unmapped
    exact invariant.untouched1 unmapped
  untouched2 {id} unmapped := by
    simp only [Progress.joining, object?_setUnlessZero] at unmapped
    exact invariant.untouched2 unmapped
  leftMap := joining.gains.mapped (fun id => object?_setUnlessZero ..) invariant.leftMap
  rightMap := joining.gains.mapped (fun id => object?_setUnlessZero ..) invariant.rightMap
  dest := joining.gains.sound
  objects {id} present := by
    simp only [Progress.joining, object?_setUnlessZero]
    have present' : here.1.dest.hasObject id = true := (joining.gains.hasObject id) ▸ present
    refine (invariant.objects present').imp_right ?_
    rintro ⟨early, mapped⟩
    exact ⟨Nat.lt_of_lt_of_le early joining.time, mapped⟩
  kinds {id object} found proper :=
    invariant.kinds ((joining.gains.object? id).symm.trans found) proper
  values present := invariant.joining_values joining present
  value1 {other found} bound := by
    rcases of_value?_setUnlessZero bound with ⟨rfl, rfl⟩ | bound
    · exact ⟨value2, joined_joining⟩
    · obtain ⟨second, isJoint⟩ := invariant.value1 bound
      exact ⟨second, joined_of_undecided joining.undecided isJoint⟩
  value2 {other found} bound := by
    rcases of_value?_setUnlessZero bound with ⟨rfl, rfl⟩ | bound
    · exact ⟨value1, joined_joining⟩
    · obtain ⟨first, isJoint⟩ := invariant.value2 bound
      exact ⟨first, joined_of_undecided joining.undecided isJoint⟩
  joined isJoint := invariant.joining_joint joining isJoint
  known covered {first second found} isJoint plain := by
    rcases of_joined_joining isJoint with ⟨rfl, rfl, -⟩ | isJoint
    · exact joining.known covered plain
    · exact invariant.known (joining.lowered covered) isJoint plain
  contents {id range found} held region := by
    have held' : here.1.dest.valueAt? id range = some found :=
      (joining.gains.valueAt? id range).symm.trans held
    obtain ⟨object1, object2, first, second, source⟩ :=
      invariant.contents held' ((joining.gains.isList id).symm.trans region)
    refine ⟨object1, object2, first, second, ?_, ?_, source.held1, source.held2,
      jointValue?_of_undecided joining.undecided source.joint⟩
    · exact (object?_setUnlessZero ..).trans source.left
    · exact (object?_setUnlessZero ..).trans source.right
  levels := invariant.levels
  waits pair member := by
    have waiting := invariant.waits pair member
    refine ⟨(object?_setUnlessZero ..).trans waiting.left,
      (object?_setUnlessZero ..).trans waiting.right, (joining.gains.isList _).trans waiting.region,
      fun range => (joining.gains.valueAt? _ _).trans (waiting.empty range), waiting.layout1,
      waiting.layout2⟩
  opens pair member := by
    have isOpen := invariant.opens pair member
    have onward : Onward basis [] [] [] here
        (here.1.joining value1 value2 value dest status, now) := joining.onward
    refine ⟨onward.relates isOpen.relates, Nat.lt_of_lt_of_le isOpen.early joining.time,
      fun shared => ?_, fun present => ?_⟩
    · simp only [Progress.joining, object?_setUnlessZero]
      exact isOpen.shared shared
    · simp only [Progress.joining, object?_setUnlessZero]
      rw [joining.gains.isList]
      exact isOpen.present (joining.gains.hasObject _ ▸ present)
  partners := invariant.joining_partners joining
  tied1 := joining.tied invariant.tied1 joining.free1 (fun bound => by
    obtain ⟨_, isJoint⟩ := invariant.value1 bound
    exact (invariant.joined isJoint).present) joining.leads
  tied2 := joining.tied invariant.tied2 joining.free2 (fun bound => by
    obtain ⟨_, isJoint⟩ := invariant.value2 bound
    exact (invariant.joined isJoint).present)
      (joining.leads_right invariant.left.relaid invariant.right.relaid)
  exact still := invariant.joining_exact (invariant.exact still) joining (exact still)

end Invariant

end Join

end ShapeDomain
