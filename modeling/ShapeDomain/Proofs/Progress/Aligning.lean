import ShapeDomain.Proofs.Progress.Making

/-!
# The layouts of a pair of objects are aligned

When a waiting pair of objects is joined, its layouts are aligned first.  Both objects then hold
what their slots say, and the left graph is still covered unless one of its fields lost its value.
-/

namespace ShapeDomain

namespace Alignment

/-- The slots of a layout depend on its fields and on whether the object may be accessed. -/
theorem alignedSlots_congr {graph origin : Graph} {object : ObjectId}
    (layout : graph.layout object = origin.layout object)
    (valid : graph.isValid object = origin.isValid object) (otherFields : List Field) :
    alignedSlots graph object otherFields = alignedSlots origin object otherFields := by
  have fields : graph.fieldsOf object = origin.fieldsOf object := by
    rw [Graph.fieldsOf, layout, Graph.fieldsOf]
  funext range
  simp only [alignedSlots, slotAt, fields, valid]

/-- No status is lowered against the left side when none of its fields loses its value. -/
theorem leftIsCovered_cutStatus {fields1 fields2 : List Field} :
    (cutStatus fields1 fields2).leftIsCovered = true ↔
      ∀ field ∈ fields1, losesValue (boundaries (fields1 ++ fields2)) field = false := by
  rw [cutStatus, Join.leftIsCovered_meet]
  cases lost : fields1.any (losesValue (boundaries (fields1 ++ fields2))) with
  | true =>
      obtain ⟨field, member, loses⟩ := List.any_eq_true.1 lost
      simp only [if_true, Status.leftIsCovered, Bool.false_and, Bool.false_eq_true, false_iff,
        not_forall]
      exact ⟨field, member, by simp [loses]⟩
  | false =>
      rw [List.any_eq_false] at lost
      have right : (if fields2.any (losesValue (boundaries (fields1 ++ fields2))) then
          Status.leftEntail else Status.equal).leftIsCovered = true := by
        split <;> rfl
      rw [right]
      simpa [Status.leftIsCovered] using lost

/-- A layout holds what its slots say, as seen from a point before values were drawn for it. -/
theorem Laid.holds_from {first start : Nat} {object : ObjectId} {origin graph : Graph}
    {slots : BitRange → Slot} {drawn : Nat → Prop}
    (laid : Laid first object origin slots drawn graph) (started : start ≤ first)
    (early : ∀ {range value}, slots range = .kept value → value.index < start)
    (range : BitRange) : (slots range).Holds start (start ≤ ·) (graph.valueAt? object range) := by
  have holds := laid.holds range
  cases isSlot : slots range with
  | empty => rw [isSlot] at holds; exact holds
  | kept value => rw [isSlot] at holds; exact ⟨holds.1, early isSlot⟩
  | zero => rw [isSlot] at holds; exact holds
  | unknown =>
      rw [isSlot] at holds
      obtain ⟨index, held, isDrawn⟩ := holds
      exact ⟨index, held, Nat.le_trans started (laid.late index isDrawn)⟩

end Alignment

namespace Join

open ShapeDomain.Alignment

variable {basis : Basis} {path waiting lays fills kept : List ObjectPair}
variable {here : Progress × Supply} {pair : ObjectPair}

section Laid

variable {start first now : Nat} {origin graph graph' : Graph} {object : ObjectId}
variable {slots : BitRange → Slot} {drawn : Nat → Prop}

/-- What is held after an object was laid out anew. -/
theorem held_cases (laid : Laid first object graph slots drawn graph')
    (kept : ∀ {range value}, slots range = .kept value →
      value.index < start ∧ origin.valueAt? object range = some value)
    {other : ObjectId} {range : BitRange} {value : ValueId}
    (held : graph'.valueAt? other range = some value) :
    (other ≠ object ∧ graph.valueAt? other range = some value) ∨
      (other = object ∧ (value = .zero ∨
        (value.index < start ∧ origin.valueAt? object range = some value) ∨
        (drawn value.index ∧ first ≤ value.index))) := by
  by_cases same : other = object
  · subst same
    refine .inr ⟨rfl, ?_⟩
    have holds := laid.holds range
    rw [held] at holds
    cases isSlot : slots range with
    | empty => simp [isSlot, Slot.Holds] at holds
    | kept found =>
        simp only [isSlot, Slot.Holds, Option.some.injEq] at holds
        obtain ⟨rfl, -⟩ := holds
        exact .inr (.inl (kept isSlot))
    | zero =>
        simp only [isSlot, Slot.Holds, Option.some.injEq] at holds
        exact .inl holds
    | unknown =>
        simp only [isSlot, Slot.Holds, Option.some.injEq] at holds
        obtain ⟨index, rfl, isDrawn⟩ := holds
        exact .inr (.inr ⟨isDrawn, laid.late index isDrawn⟩)
  · rw [Graph.valueAt?_congr (laid.others other same)] at held
    exact .inl ⟨same, held⟩

/-- A graph stays intact when one of its objects is laid out anew. -/
theorem Intact.laid (intact : Intact start origin graph first) (positive : 0 < start)
    (started : start ≤ first) (later : first ≤ now)
    (laid : Laid first object graph slots drawn graph')
    (kept : ∀ {range value}, slots range = .kept value →
      value.index < start ∧ origin.valueAt? object range = some value)
    (bound : ∀ index, drawn index → index < now) : Intact start origin graph' now where
  relaid := intact.relaid.trans laid.relaid
  tiled := laid.tiled
  drawn {other range value} held := by
    rcases held_cases laid kept held with
      ⟨-, held⟩ | ⟨-, rfl | ⟨early, -⟩ | ⟨isDrawn, -⟩⟩
    · exact Nat.lt_of_lt_of_le (intact.drawn held) later
    · exact Nat.lt_of_lt_of_le positive (Nat.le_trans started later)
    · exact Nat.lt_of_lt_of_le early (Nat.le_trans started later)
    · exact bound _ isDrawn
  old {other range value} held early := by
    rcases held_cases laid kept held with
      ⟨-, held⟩ | ⟨rfl, rfl | ⟨-, before⟩ | ⟨-, late⟩⟩
    · exact intact.old held early
    · exact .inl rfl
    · exact .inr before
    · omega
  once {one range other range' value} held held' late := by
    have drawnAt {one : ObjectId} {range : BitRange}
        (held : graph'.valueAt? one range = some value) :
        (one ≠ object ∧ graph.valueAt? one range = some value) ∨
          (one = object ∧ drawn value.index ∧ first ≤ value.index) := by
      rcases held_cases laid kept held with same | ⟨same, rfl | ⟨early, -⟩ | isDrawn⟩
      · exact .inl same
      · exact absurd late (Nat.not_le_of_lt positive)
      · exact absurd late (Nat.not_le_of_lt early)
      · exact .inr ⟨same, isDrawn⟩
    rcases drawnAt held with ⟨-, before⟩ | ⟨rfl, isDrawn, after⟩
    · rcases drawnAt held' with ⟨-, before'⟩ | ⟨-, -, after'⟩
      · exact intact.once before before' late
      · exact absurd (intact.drawn before) (Nat.not_lt_of_le after')
    · rcases drawnAt held' with ⟨-, before'⟩ | ⟨rfl, -, -⟩
      · exact absurd (intact.drawn before') (Nat.not_lt_of_le after)
      · exact ⟨rfl, laid.once range range' value.index isDrawn held held'⟩

end Laid

/-- What a layout keeps was there from the start. -/
theorem of_slot_kept {start : Nat} {graph other : Graph} (plain : graph.Plain start)
    {object otherObject : ObjectId} {range : BitRange} {value : ValueId}
    (kept : slot graph other object otherObject range = .kept value) :
    value.index < start ∧ graph.valueAt? object range = some value :=
  ⟨plain.held_lt (valueAt?_of_alignedSlots kept), valueAt?_of_alignedSlots kept⟩

/-- A join in which the layouts of a pair of objects were aligned. -/
def Progress.aligning (progress : Progress) (pair : ObjectPair) (left right : Graph) : Progress :=
  { progress with
    left := left
    right := right
    status := progress.status.meet
      (cutStatus (progress.left.fieldsOf pair.object1) (progress.right.fieldsOf pair.object2)) }

/-- The left graph was covered before its layouts were aligned, if it still is. -/
theorem covered_of_aligning {progress : Progress} {left right : Graph}
    (covered : (progress.aligning pair left right).status.leftIsCovered = true) :
    progress.status.leftIsCovered = true := by
  have both : (progress.status.meet _).leftIsCovered = true := covered
  rw [leftIsCovered_meet, Bool.and_eq_true] at both
  exact both.1

/-- The layouts of a waiting pair were aligned. -/
structure Aligning (basis : Basis) (path waiting : List ObjectPair) (here : Progress × Supply)
    (pair : ObjectPair) (left right : Graph) (now : Supply) : Prop where
  /-- The pair waits. -/
  invariant : Invariant basis path (pair :: waiting) here
  /-- Other pairs that wait have other counterparts. -/
  apart : ∀ other ∈ waiting, other.dest ≠ pair.dest
  /-- The layouts were aligned. -/
  aligned : ∃ drawn1 drawn2, Aligned here.1.left here.1.right pair.object1 pair.object2
    here.2.next now.next drawn1 drawn2 left right

namespace Aligning

variable {left right : Graph} {now : Supply}

section

variable (aligning : Aligning basis path waiting here pair left right now)

include aligning

theorem isWaiting : Waiting basis here.1 pair :=
  aligning.invariant.waits pair List.mem_cons_self

theorem fieldsOf1 :
    here.1.left.fieldsOf pair.object1 = basis.left.fieldsOf pair.object1 := by
  rw [Graph.fieldsOf, aligning.isWaiting.layout1, Graph.fieldsOf]

theorem fieldsOf2 :
    here.1.right.fieldsOf pair.object2 = basis.right.fieldsOf pair.object2 := by
  rw [Graph.fieldsOf, aligning.isWaiting.layout2, Graph.fieldsOf]

theorem slots1 : alignedSlots here.1.left pair.object1 (here.1.right.fieldsOf pair.object2) =
    slot basis.left basis.right pair.object1 pair.object2 := by
  rw [aligning.fieldsOf2, alignedSlots_congr aligning.isWaiting.layout1
    (aligning.invariant.left.relaid.isValid _)]
  rfl

theorem slots2 : alignedSlots here.1.right pair.object2 (here.1.left.fieldsOf pair.object1) =
    slot basis.right basis.left pair.object2 pair.object1 := by
  rw [aligning.fieldsOf1, alignedSlots_congr aligning.isWaiting.layout2
    (aligning.invariant.right.relaid.isValid _)]
  rfl

/-- Both objects hold what their slots say. -/
theorem realized :
    Realized basis (here.1.aligning pair left right) pair.object1 pair.object2 := by
  obtain ⟨drawn1, drawn2, aligned⟩ := aligning.aligned
  have started := aligning.invariant.started
  have layout1 := aligned.layout1
  have layout2 := aligned.layout2
  rw [aligning.slots1] at layout1
  rw [aligning.slots2] at layout2
  exact ⟨layout1.holds_from started fun kept => (of_slot_kept basis.leftPlain kept).1,
    layout2.holds_from started fun kept => (of_slot_kept basis.rightPlain kept).1⟩

/-- If the left graph is covered, then no field of the left object lost its value. -/
theorem whole (covered : (here.1.aligning pair left right).status.leftIsCovered = true) :
    ∀ field ∈ basis.left.fieldsOf pair.object1, losesValue
      (boundaries (basis.left.fieldsOf pair.object1 ++ basis.right.fieldsOf pair.object2)) field =
        false := by
  have both : (here.1.status.meet (cutStatus (here.1.left.fieldsOf pair.object1)
      (here.1.right.fieldsOf pair.object2))).leftIsCovered = true := covered
  rw [leftIsCovered_meet, Bool.and_eq_true, aligning.fieldsOf1, aligning.fieldsOf2,
    leftIsCovered_cutStatus] at both
  exact both.2

/-- The other objects with counterparts keep their layouts. -/
theorem valueAt?_left {id image : ObjectId} (mapped : here.1.leftMap.object? id = some image)
    (different : image ≠ pair.dest) (range : BitRange) :
    left.valueAt? id range = here.1.left.valueAt? id range := by
  obtain ⟨drawn1, drawn2, aligned⟩ := aligning.aligned
  refine Graph.valueAt?_congr (aligned.layout1.others id ?_) range
  rintro rfl
  rw [aligning.isWaiting.left, Option.some.injEq] at mapped
  exact different mapped.symm

theorem valueAt?_right {id image : ObjectId} (mapped : here.1.rightMap.object? id = some image)
    (different : image ≠ pair.dest) (range : BitRange) :
    right.valueAt? id range = here.1.right.valueAt? id range := by
  obtain ⟨drawn1, drawn2, aligned⟩ := aligning.aligned
  refine Graph.valueAt?_congr (aligned.layout2.others id ?_) range
  rintro rfl
  rw [aligning.isWaiting.right, Option.some.injEq] at mapped
  exact different mapped.symm

/-- Pairs of other objects that are aligned stay so. -/
theorem realized_other {object1 object2 image : ObjectId}
    (mapped1 : here.1.leftMap.object? object1 = some image)
    (mapped2 : here.1.rightMap.object? object2 = some image) (different : image ≠ pair.dest)
    (realized : Realized basis here.1 object1 object2) :
    Realized basis (here.1.aligning pair left right) object1 object2 where
  left range := by
    show Slot.Holds _ _ _ (left.valueAt? object1 range)
    rw [aligning.valueAt?_left mapped1 different]
    exact realized.left range
  right range := by
    show Slot.Holds _ _ _ (right.valueAt? object2 range)
    rw [aligning.valueAt?_right mapped2 different]
    exact realized.right range

theorem exact_next (exact : Exact basis path (pair :: waiting) here) :
    Exact basis (pair :: path) waiting (here.1.aligning pair left right, now) where
  met := exact.met
  held {value1 value2 value} isJoint := by
    obtain ⟨object1, object2, image, range, mapped1, mapped2, apart, realized, held1, held2⟩ :=
      exact.held isJoint
    have different : image ≠ pair.dest := (apart pair List.mem_cons_self).symm
    exact ⟨object1, object2, image, range, mapped1, mapped2,
      fun other member => apart other (List.mem_cons_of_mem _ member),
      aligning.realized_other mapped1 mapped2 different realized,
      (aligning.valueAt?_left mapped1 different range).trans held1,
      (aligning.valueAt?_right mapped2 different range).trans held2⟩
  single := exact.single
  knows isJoint := (exact.knows isJoint).mono rfl rfl fun isImage => isImage
  zero := exact.zero
  valued := exact.valued
  settled {object1 object2 image} mapped1 mapped2 apart := by
    have different : image ≠ pair.dest := (apart pair (by simp)).symm
    have settled := exact.settled mapped1 mapped2 fun other member =>
      apart other (List.perm_middle.mem_iff.1 member)
    exact ⟨aligning.realized_other mapped1 mapped2 different settled.realized,
      fun {range value1 value2} held1 held2 => settled.joint
        ((aligning.valueAt?_left mapped1 different range).symm.trans held1)
        ((aligning.valueAt?_right mapped2 different range).symm.trans held2),
      fun covered => settled.whole (covered_of_aligning covered)⟩
  filled {object1 object2 image range value1 value2 value} mapped1 mapped2 apart held1 held2
      isJoint := by
    have different : image ≠ pair.dest := (apart pair (by simp)).symm
    exact exact.filled mapped1 mapped2
      (fun other member => apart other (List.perm_middle.mem_iff.1 member))
      ((aligning.valueAt?_left mapped1 different range).symm.trans held1)
      ((aligning.valueAt?_right mapped2 different range).symm.trans held2) isJoint

/-- Aligning the layouts of a pair leaves all else as it is. -/
theorem onward (inside : pair ∈ lays) :
    Onward basis lays fills kept here (here.1.aligning pair left right, now) := by
  obtain ⟨drawn1, drawn2, aligned⟩ := aligning.aligned
  exact ⟨aligned.ordered, fun {id} _ apart => aligned.layout1.others id (apart pair inside),
    fun {id} _ apart => aligned.layout2.others id (apart pair inside), fun isJoint => isJoint,
    fun mapped => ⟨Option.isSome_iff_exists.2 ⟨_, mapped⟩, fun _ => mapped⟩,
    fun mapped => ⟨Option.isSome_iff_exists.2 ⟨_, mapped⟩, fun _ => mapped⟩,
    fun related => related, fun _ _ => rfl, fun _ _ _ => rfl,
    fun present absent => absurd (present.symm.trans absent) (by simp),
    fun _ _ _ present => present, .inl, covered_of_aligning, rfl, rfl⟩

/-- The pair is being joined, and the others are joined as before. -/
theorem partners :
    Partners basis (pair :: path) waiting (here.1.aligning pair left right, now) where
  met other member := aligning.invariant.partners.met other (List.perm_middle.mem_iff.2 member)
  joined {object1} mapped apart := by
    have onward : Onward basis [pair] [] [] here (here.1.aligning pair left right, now) :=
      aligning.onward List.mem_cons_self
    have before := aligning.invariant.partners.joined mapped fun other member =>
      apart other (List.perm_middle.mem_iff.1 member)
    refine onward.partnered before (fun other member => ?_) fun {object2} related other member => ?_
    · obtain rfl := List.mem_singleton.1 member
      exact (apart other (by simp)).symm
    · obtain rfl := List.mem_singleton.1 member
      rintro rfl
      obtain ⟨image, mapped1, mapped2⟩ := related
      obtain rfl := Option.some.inj (mapped2.symm.trans aligning.isWaiting.right)
      exact apart other (by simp) ((aligning.invariant.leftMap.unique aligning.isWaiting.left
        mapped1).resolve_right (by simp [aligning.isWaiting.region]))
  covered informed := by
    show (here.1.status.meet _).leftIsCovered = true
    rw [leftIsCovered_meet, aligning.invariant.partners.covered informed, Bool.true_and,
      aligning.fieldsOf1, aligning.fieldsOf2, leftIsCovered_cutStatus]
    exact informed.whole (aligning.invariant.partners.met pair (by simp))

/-- Values were drawn for one of the graphs only. -/
theorem separate {object1 object2 : ObjectId} {range1 range2 : BitRange} {value : ValueId}
    (held1 : left.valueAt? object1 range1 = some value)
    (held2 : right.valueAt? object2 range2 = some value) : value.index < basis.start := by
  have invariant := aligning.invariant
  have positive := basis.leftPlain.positive
  obtain ⟨drawn1, drawn2, aligned⟩ := aligning.aligned
  have layout1 := aligned.layout1
  have layout2 := aligned.layout2
  rw [aligning.slots1] at layout1
  rw [aligning.slots2] at layout2
  by_contra late
  rcases held_cases layout1 (of_slot_kept basis.leftPlain) held1 with
    ⟨-, before1⟩ | ⟨-, rfl | ⟨early, -⟩ | ⟨isDrawn1, after1⟩⟩
  · rcases held_cases layout2 (of_slot_kept basis.rightPlain) held2 with
      ⟨-, before2⟩ | ⟨-, rfl | ⟨early, -⟩ | ⟨-, after2⟩⟩
    · exact late (invariant.separate before1 before2)
    · exact late positive
    · exact late early
    · exact absurd (invariant.left.drawn before1) (Nat.not_lt_of_le after2)
  · exact late positive
  · exact late early
  · rcases held_cases layout2 (of_slot_kept basis.rightPlain) held2 with
      ⟨-, before2⟩ | ⟨-, rfl | ⟨early, -⟩ | ⟨isDrawn2, -⟩⟩
    · exact absurd (invariant.right.drawn before2) (Nat.not_lt_of_le after1)
    · exact late positive
    · exact late early
    · exact aligned.separate _ isDrawn1 isDrawn2

/-- The other pairs still wait. -/
theorem waiting_other {other : ObjectPair} (member : other ∈ waiting) :
    Waiting basis (here.1.aligning pair left right) other := by
  obtain ⟨drawn1, drawn2, aligned⟩ := aligning.aligned
  have waiting := aligning.invariant.waits other (List.mem_cons_of_mem _ member)
  have different := aligning.apart other member
  refine ⟨waiting.left, waiting.right, waiting.region, waiting.empty, ?_, ?_⟩
  · refine (aligned.layout1.others other.object1 fun same => different ?_).trans waiting.layout1
    have mapped := waiting.left
    rw [same, aligning.isWaiting.left, Option.some.injEq] at mapped
    exact mapped.symm
  · refine (aligned.layout2.others other.object2 fun same => different ?_).trans waiting.layout2
    have mapped := waiting.right
    rw [same, aligning.isWaiting.right, Option.some.injEq] at mapped
    exact mapped.symm

/-- The pair itself is being joined now. -/
theorem opens : Open basis (here.1.aligning pair left right, now) pair := by
  have invariant := aligning.invariant
  obtain ⟨drawn1, drawn2, aligned⟩ := aligning.aligned
  have waiting := aligning.isWaiting
  have present := invariant.hasObject_of_left waiting.left
  obtain ⟨-, proper, -⟩ := invariant.leftMap.source waiting.left
  exact ⟨⟨_, waiting.left, waiting.right⟩,
    Nat.lt_of_lt_of_le (invariant.index_lt present) aligned.ordered,
    fun shared => Option.isSome_iff_exists.2 ⟨_, invariant.leftMap_of_shared present proper shared⟩,
    fun _ => ⟨waiting.left, waiting.right, waiting.region⟩⟩

/-- The invariant stays when the layouts of a waiting pair are aligned.  The pair then is being
joined. -/
theorem next : Invariant basis (pair :: path) waiting (here.1.aligning pair left right, now) := by
  have invariant := aligning.invariant
  have started := invariant.started
  have positive := basis.leftPlain.positive
  obtain ⟨drawn1, drawn2, aligned⟩ := aligning.aligned
  have layout1 := aligned.layout1
  have layout2 := aligned.layout2
  rw [aligning.slots1] at layout1
  rw [aligning.slots2] at layout2
  have bound1 (index : Nat) (isDrawn : drawn1 index) : index < now.next :=
    ((aligned.drawn index).1 (.inl isDrawn)).2
  have bound2 (index : Nat) (isDrawn : drawn2 index) : index < now.next :=
    ((aligned.drawn index).1 (.inr isDrawn)).2
  have knows1 (value : ValueId) : address? left value = address? here.1.left value := by
    rw [address?, layout1.relaid.target?, address?]
  have knows2 (value : ValueId) : address? right value = address? here.1.right value := by
    rw [address?, layout2.relaid.target?, address?]
  exact {
    invariant with
    started := Nat.le_trans started aligned.ordered
    left := invariant.left.laid positive started aligned.ordered layout1
      (of_slot_kept basis.leftPlain) bound1
    right := invariant.right.laid positive started aligned.ordered layout2
      (of_slot_kept basis.rightPlain) bound2
    separate := aligning.separate
    untouched1 := fun {id} unmapped => by
      refine (layout1.others id ?_).trans (invariant.untouched1 unmapped)
      rintro rfl
      have mapped : here.1.leftMap.object? pair.object1 = none := unmapped
      rw [aligning.isWaiting.left] at mapped
      simp at mapped
    untouched2 := fun {id} unmapped => by
      refine (layout2.others id ?_).trans (invariant.untouched2 unmapped)
      rintro rfl
      have mapped : here.1.rightMap.object? pair.object2 = none := unmapped
      rw [aligning.isWaiting.right] at mapped
      simp at mapped
    objects := fun present => by
      refine (invariant.objects present).imp_right ?_
      rintro ⟨early, mapped⟩
      exact ⟨Nat.lt_of_lt_of_le early aligned.ordered, mapped⟩
    values := fun present => by
      rcases invariant.values present with zero | ⟨late, early⟩ | shared
      · exact .inl zero
      · exact .inr (.inl ⟨late, Nat.lt_of_lt_of_le early aligned.ordered⟩)
      · exact .inr (.inr shared)
    joined := fun isJoint => by
      have joint := invariant.joined isJoint
      refine ⟨joint.present, joint.left, joint.right, ?_⟩
      cases joint.agree with
      | plain plain1 plain2 fits =>
          exact .plain ((knows1 _).trans plain1) ((knows2 _).trans plain2) fits
      | address leads1 leads2 place =>
          exact .address ((knows1 _).trans leads1) ((knows2 _).trans leads2)
            ⟨place.offset, place.left, place.right, place.leads⟩
    known := fun covered {value1 _ _} isJoint plain =>
      invariant.known (covered_of_aligning covered) isJoint ((knows1 value1).symm.trans plain)
    contents := fun {id range value} held region => by
      obtain ⟨object1, object2, value1, value2, source⟩ := invariant.contents held region
      have different : id ≠ pair.dest := by
        rintro rfl
        have empty := aligning.isWaiting.empty range
        rw [show here.1.dest.valueAt? pair.dest range = some value from held] at empty
        simp at empty
      exact ⟨object1, object2, value1, value2, source.left, source.right,
        (aligning.valueAt?_left source.left different range).trans source.held1,
        (aligning.valueAt?_right source.right different range).trans source.held2, source.joint⟩
    waits := fun other member => aligning.waiting_other member
    opens := fun other member => by
      rcases List.mem_cons.1 member with rfl | member
      · exact aligning.opens
      · have isOpen := invariant.opens other member
        exact ⟨isOpen.relates, Nat.lt_of_lt_of_le isOpen.early aligned.ordered, isOpen.shared,
          isOpen.present⟩
    partners := aligning.partners
    exact := fun still => aligning.exact_next (invariant.exact still) }

end

end Aligning

end Join

end ShapeDomain
