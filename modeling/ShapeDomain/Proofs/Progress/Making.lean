import ShapeDomain.Proofs.Progress.Numbers

/-!
# A pair of objects gets its counterpart

Two objects without counterparts get a new region of the destination as their counterpart.  The pair
then waits to be joined.
-/

namespace ShapeDomain

namespace Join

variable {basis : Basis} {path waiting lays fills kept : List ObjectPair}
variable {here : Progress × Supply} {child : ObjectPair} {dest : Graph} {now : Supply}

/-- A join in which a pair of objects has got its counterpart. -/
def Progress.making (progress : Progress) (child : ObjectPair) (dest : Graph) : Progress :=
  { progress with
    leftMap := progress.leftMap.setObject child.object1 child.dest
    rightMap := progress.rightMap.setObject child.object2 child.dest
    dest := dest }

/-- An object of a graph can have a counterpart of a given size, which may be accessed and be part
of the heap or not. -/
structure Suits (origin : Graph) (id : ObjectId) (size : Nat) (valid heap : Bool) : Prop where
  /-- It is not NULL. -/
  proper : id ≠ .null
  /-- It is in the graph, and has the size. -/
  found : ∃ object, origin.object? id = some object ∧ size = object.size
  /-- It may be accessed or not. -/
  valid : origin.isValid id = valid
  /-- The counterpart is part of the heap if the object is. -/
  heap : origin.isHeap id = true → heap = true

/-- Two objects may get a counterpart. -/
structure Making (basis : Basis) (here : Progress × Supply) (child : ObjectPair) (dest : Graph)
    (now : Supply) : Prop where
  /-- The supply moves on. -/
  time : here.2.next ≤ now.next
  /-- The counterpart is new. -/
  absent : here.1.dest.hasObject child.dest = false
  /-- It is a region that suits both objects. -/
  placed : ∃ size label valid heap,
    dest.objects = here.1.dest.objects.insert child.dest ⟨.region size label, valid, heap⟩ ∧
    Suits basis.left child.object1 size valid heap ∧
    Suits basis.right child.object2 size valid heap
  /-- The values stay. -/
  values : dest.values = here.1.dest.values
  /-- So do the fields. -/
  layouts : dest.layouts = here.1.dest.layouts
  /-- The tables fit together. -/
  sound : dest.Sound
  /-- The left object has no counterpart. -/
  free1 : here.1.leftMap.object? child.object1 = none
  /-- Neither has the right object. -/
  free2 : here.1.rightMap.object? child.object2 = none
  /-- The name of the counterpart was drawn, or it is shared. -/
  named : (here.2.next ≤ child.dest.index ∧ child.dest.index < now.next) ∨
    (child.dest.index < basis.start ∧ child.object1 = child.dest ∧ child.object2 = child.dest)
  /-- The objects meet. -/
  met : Met basis.left basis.right child.object1 child.object2

namespace Making

variable (making : Making basis here child dest now)

include making

theorem ne_of_present {id : ObjectId} (present : here.1.dest.hasObject id = true) :
    id ≠ child.dest := by
  rintro rfl
  rw [making.absent] at present
  simp at present

theorem get?_of_present {id : ObjectId} (present : here.1.dest.hasObject id = true) :
    dest.objects.get? id = here.1.dest.objects.get? id := by
  obtain ⟨size, label, valid, heap, objects, -⟩ := making.placed
  rw [objects, Table.get?_insert_of_ne _ (making.ne_of_present present)]

theorem object?_of_present {id : ObjectId} (present : here.1.dest.hasObject id = true) :
    dest.object? id = here.1.dest.object? id := by
  rw [Graph.object?, making.get?_of_present present, Graph.object?]

theorem isList_of_present {id : ObjectId} (present : here.1.dest.hasObject id = true) :
    dest.isList id = here.1.dest.isList id :=
  Graph.isList_congr (making.object?_of_present present)

theorem hasObject_iff {id : ObjectId} :
    dest.hasObject id = true ↔ id = child.dest ∨ here.1.dest.hasObject id = true := by
  obtain ⟨size, label, valid, heap, objects, -⟩ := making.placed
  rw [Graph.hasObject, Table.contains, objects, Table.get?_insert]
  split
  case isTrue same => simp [same]
  case isFalse different => simp [different, Graph.hasObject, Table.contains]

theorem isList_child : dest.isList child.dest = false := by
  obtain ⟨size, label, valid, heap, objects, -⟩ := making.placed
  simp [Graph.isList, Graph.object?, objects, Table.get?_insert_self, Object.region, Kind.isList]

theorem valueAt? (id : ObjectId) (range : BitRange) :
    dest.valueAt? id range = here.1.dest.valueAt? id range := by
  apply Graph.valueAt?_congr
  rw [Graph.layout, making.layouts, Graph.layout]

theorem knowledge (value : ValueId) : dest.knowledge value = here.1.dest.knowledge value := by
  rw [Graph.knowledge, making.values, Graph.knowledge]

theorem hasValue (value : ValueId) : dest.hasValue value = here.1.dest.hasValue value := by
  rw [Graph.hasValue, making.values, Graph.hasValue]

theorem target? (value : ValueId) : dest.target? value = here.1.dest.target? value := by
  rw [Graph.target?, making.knowledge, Graph.target?]

theorem number? (value : ValueId) : dest.number? value = here.1.dest.number? value := by
  rw [Graph.number?, making.knowledge, Graph.number?]

/-- The counterpart is not NULL. -/
theorem child_ne_null (sound : here.1.dest.Sound) : child.dest ≠ .null :=
  (making.ne_of_present sound.hasObject_null).symm

/-- The counterpart holds nothing. -/
theorem valueAt?_child (sound : here.1.dest.Sound) (range : BitRange) :
    dest.valueAt? child.dest range = none := by
  rw [making.valueAt?]
  cases held : here.1.dest.valueAt? child.dest range with
  | none => rfl
  | some value =>
      have present := sound.hasObject_of_held held
      rw [making.absent] at present
      simp at present

/-- Objects that have a counterpart keep it. -/
theorem object?_of_mapped1 {id image : ObjectId}
    (mapped : here.1.leftMap.object? id = some image) :
    (here.1.leftMap.setObject child.object1 child.dest).object? id = some image := by
  rw [Correspondence.object?_setObject, if_neg]
  · exact mapped
  · rintro rfl
    rw [making.free1] at mapped
    simp at mapped

theorem object?_of_mapped2 {id image : ObjectId}
    (mapped : here.1.rightMap.object? id = some image) :
    (here.1.rightMap.setObject child.object2 child.dest).object? id = some image := by
  rw [Correspondence.object?_setObject, if_neg]
  · exact mapped
  · rintro rfl
    rw [making.free2] at mapped
    simp at mapped

theorem relates {object1 object2 : ObjectId} (related : here.1.Relates object1 object2) :
    (here.1.making child dest).Relates object1 object2 := by
  obtain ⟨image, mapped1, mapped2⟩ := related
  exact ⟨image, making.object?_of_mapped1 mapped1, making.object?_of_mapped2 mapped2⟩

theorem image?_of_mapped1 {id image : ObjectId}
    (isImage : image? here.1.leftMap id = some image) :
    image? (here.1.leftMap.setObject child.object1 child.dest) id = some image := by
  unfold image? at isImage ⊢
  split at isImage
  case isTrue null => rw [if_pos null]; exact isImage
  case isFalse proper => rw [if_neg proper]; exact making.object?_of_mapped1 isImage

theorem image?_of_mapped2 {id image : ObjectId}
    (isImage : image? here.1.rightMap id = some image) :
    image? (here.1.rightMap.setObject child.object2 child.dest) id = some image := by
  unfold image? at isImage ⊢
  split at isImage
  case isTrue null => rw [if_pos null]; exact isImage
  case isFalse proper => rw [if_neg proper]; exact making.object?_of_mapped2 isImage

end Making

/-- The new counterpart fits. -/
theorem Mapped.making {start : Nat} {origin graph : Graph} {map : Correspondence}
    {source image : ObjectId} (mapped : Mapped start origin map graph)
    (present : ∀ {id}, graph.hasObject id = true → id ≠ image ∧
      dest.objects.get? id = graph.objects.get? id)
    (size : Nat) (label : String) (valid heap : Bool)
    (placed : dest.objects.get? image = some ⟨.region size label, valid, heap⟩)
    (suits : Suits origin source size valid heap) (proper : image ≠ .null)
    (shared : image.index < start → image = source) :
    Mapped start origin (map.setObject source image) dest := by
  have there {id other : ObjectId} (isImage : map.object? id = some other) :
      graph.hasObject other = true := mapped.hasObject isImage
  have old {id : ObjectId} (known : graph.hasObject id = true) :
      dest.object? id = graph.object? id := by
    rw [Graph.object?, (present known).2, Graph.object?]
  refine ⟨fun {id other} isImage => ?_, fun {id other} isImage => ?_,
    fun {id other} isImage isHeap => ?_, fun {id other} isImage early => ?_,
    fun {id other there'} first second => ?_⟩
  · rw [Correspondence.object?_setObject] at isImage
    split at isImage
    case isTrue same =>
      subst same
      obtain rfl := Option.some.inj isImage
      obtain ⟨object, found, fits⟩ := suits.found
      exact ⟨suits.proper, proper, object, .region size label, found,
        by rw [Graph.object?, placed]; rfl, fits⟩
    case isFalse =>
      obtain ⟨proper, properImage, object, joint, found, known, fits⟩ := mapped.source isImage
      exact ⟨proper, properImage, object, joint, found, (old (there isImage)).trans known, fits⟩
  · rw [Correspondence.object?_setObject] at isImage
    split at isImage
    case isTrue same =>
      subst same
      obtain rfl := Option.some.inj isImage
      rw [suits.valid, Graph.isValid, placed]
      rfl
    case isFalse =>
      rw [← mapped.valid isImage, Graph.isValid, (present (there isImage)).2, Graph.isValid]
  · rw [Correspondence.object?_setObject] at isImage
    split at isImage
    case isTrue same =>
      subst same
      obtain rfl := Option.some.inj isImage
      rw [Graph.isHeap, placed]
      exact suits.heap isHeap
    case isFalse =>
      rw [← mapped.heap isImage isHeap, Graph.isHeap, (present (there isImage)).2, Graph.isHeap]
  · rw [Correspondence.object?_setObject] at isImage
    split at isImage
    case isTrue same =>
      obtain rfl := Option.some.inj isImage
      exact (shared early).trans same.symm
    case isFalse => exact mapped.shared isImage early
  · rw [Correspondence.object?_setObject] at first second
    split at first
    case isTrue same =>
      obtain rfl := Option.some.inj first
      split at second
      case isTrue same' => exact .inl (same.trans same'.symm)
      case isFalse => exact absurd rfl (present (there second)).1
    case isFalse =>
      split at second
      case isTrue =>
        obtain rfl := Option.some.inj second
        exact absurd rfl (present (there first)).1
      case isFalse =>
        refine (mapped.unique first second).imp_right fun list => ?_
        rw [Graph.isList_congr (old (there first)), list]

/-- No link is lost when a pair of objects gets its counterpart. -/
theorem Making.tied (making : Making basis here child dest now) {start : Nat} {origin : Graph}
    {map : Correspondence} {source : ObjectId} (tied : Tied origin map here.1.dest)
    (mapped : Mapped start origin map here.1.dest) (sound : here.1.dest.Sound)
    (free : map.object? source = none) : Tied origin (map.setObject source child.dest) dest := by
  have new {id image : ObjectId} (isImage : map.object? id = some image) : image ≠ child.dest :=
    making.ne_of_present (mapped.hasObject isImage)
  refine tied.mono .inl (fun bound => ⟨bound, making.target? _⟩) (fun {id image} isImage =>
    ⟨?_, making.isList_of_present (mapped.hasObject_of_image? sound isImage)⟩)
      fun first second => ?_
  · unfold image? at isImage ⊢
    split at isImage
    case isTrue null => rw [if_pos null]; exact isImage
    case isFalse proper =>
      rw [if_neg proper, Correspondence.object?_setObject, if_neg]
      · exact isImage
      · rintro rfl
        rw [free] at isImage
        simp at isImage
  · rw [Correspondence.object?_setObject] at first second
    split at first
    case isTrue same =>
      obtain rfl := Option.some.inj first
      split at second
      case isTrue same' => exact .inl (same.trans same'.symm)
      case isFalse => exact absurd rfl (new second)
    case isFalse =>
      split at second
      case isTrue =>
        obtain rfl := Option.some.inj second
        exact absurd rfl (new first)
      case isFalse => exact .inr ⟨first, second⟩

namespace Invariant

theorem making_exact (invariant : Invariant basis path waiting here)
    (making : Making basis here child dest now) (exact : Exact basis path waiting here) :
    Exact basis path (child :: waiting) (here.1.making child dest, now) := by
  have there1 {id image : ObjectId} (mapped : here.1.leftMap.object? id = some image) :
      image ≠ child.dest := making.ne_of_present (invariant.hasObject_of_left mapped)
  have there2 {id image : ObjectId} (mapped : here.1.rightMap.object? id = some image) :
      image ≠ child.dest := making.ne_of_present (invariant.hasObject_of_right mapped)
  have both {object1 object2 image : ObjectId}
      (mapped1 : (here.1.making child dest).leftMap.object? object1 = some image)
      (mapped2 : (here.1.making child dest).rightMap.object? object2 = some image) :
      (object1 = child.object1 ∧ object2 = child.object2 ∧ image = child.dest) ∨
        (here.1.leftMap.object? object1 = some image ∧
          here.1.rightMap.object? object2 = some image ∧ image ≠ child.dest) := by
    simp only [Progress.making, Correspondence.object?_setObject] at mapped1 mapped2
    split at mapped1
    case isTrue same1 =>
      obtain rfl := Option.some.inj mapped1
      split at mapped2
      case isTrue same2 => exact .inl ⟨same1, same2, rfl⟩
      case isFalse => exact absurd rfl (there2 mapped2)
    case isFalse =>
      split at mapped2
      case isTrue =>
        obtain rfl := Option.some.inj mapped2
        exact absurd rfl (there1 mapped1)
      case isFalse => exact .inr ⟨mapped1, mapped2, there1 mapped1⟩
  refine ⟨fun mapped1 mapped2 => ?_, fun isJoint => ?_, exact.single, fun isJoint => ?_,
    (making.number? .zero).trans exact.zero, fun {value} present => ?_,
    fun mapped1 mapped2 apart => ?_, fun mapped1 mapped2 apart held1 held2 isJoint => ?_⟩
  · rcases both mapped1 mapped2 with ⟨rfl, rfl, -⟩ | ⟨mapped1, mapped2, -⟩
    · exact making.met
    · exact exact.met mapped1 mapped2
  · obtain ⟨object1, object2, image, range, mapped1, mapped2, apart, realized, held⟩ :=
      exact.held isJoint
    refine ⟨object1, object2, image, range, making.object?_of_mapped1 mapped1,
      making.object?_of_mapped2 mapped2, fun pair member => ?_, ⟨realized.left, realized.right⟩,
      held⟩
    rcases List.mem_cons.1 member with rfl | member
    · exact (there1 mapped1).symm
    · exact apart pair member
  · exact (exact.knows isJoint).mono (making.number? _) (making.target? _)
      fun isImage => making.image?_of_mapped1 isImage
  · exact exact.valued ((making.hasValue value).symm.trans present)
  · rcases both mapped1 mapped2 with ⟨-, -, rfl⟩ | ⟨mapped1, mapped2, -⟩
    · exact absurd rfl (apart child (by simp))
    · have settled := exact.settled mapped1 mapped2 fun pair member =>
        apart pair (List.perm_middle.mem_iff.2 (List.mem_cons_of_mem _ member))
      exact ⟨⟨settled.realized.left, settled.realized.right⟩, settled.joint, settled.whole⟩
  · rcases both mapped1 mapped2 with ⟨-, -, rfl⟩ | ⟨mapped1, mapped2, -⟩
    · exact absurd rfl (apart child (by simp))
    · exact (making.valueAt? _ _).trans (exact.filled mapped1 mapped2 (fun pair member =>
        apart pair (List.perm_middle.mem_iff.2 (List.mem_cons_of_mem _ member)))
        held1 held2 isJoint)

/-- The objects that get a counterpart meet, and the others are joined as before. -/
theorem making_partners (invariant : Invariant basis path waiting here)
    (making : Making basis here child dest now) :
    Partners basis path (child :: waiting) (here.1.making child dest, now) where
  met pair member := by
    rcases List.mem_append.1 member with inside | member
    · exact invariant.partners.met pair (List.mem_append_left _ inside)
    · rcases List.mem_cons.1 member with rfl | inside
      · exact making.met
      · exact invariant.partners.met pair (List.mem_append_right _ inside)
  joined {object1} mapped apart := by
    have old : (here.1.leftMap.object? object1).isSome = true := by
      simp only [Progress.making, Correspondence.object?_setObject] at mapped
      split at mapped
      case isTrue same => exact absurd same.symm (apart child (by simp))
      case isFalse => exact mapped
    obtain ⟨object2, related, met, settled⟩ := invariant.partners.joined old fun pair member =>
      apart pair (List.perm_middle.mem_iff.2 (List.mem_cons_of_mem _ member))
    exact ⟨object2, making.relates related, met,
      ⟨⟨settled.realized.left, settled.realized.right⟩, settled.joint, settled.whole⟩⟩
  covered := invariant.partners.covered

/-- The pairs that wait are those that did and the one that gets its counterpart. -/
theorem making_waits (invariant : Invariant basis path waiting here)
    (making : Making basis here child dest now) {pair : ObjectPair}
    (member : pair ∈ child :: waiting) :
    Waiting basis (here.1.making child dest) pair := by
  rcases List.mem_cons.1 member with rfl | member
  · exact ⟨(Correspondence.object?_setObject ..).trans (if_pos rfl),
      (Correspondence.object?_setObject ..).trans (if_pos rfl), making.isList_child,
      making.valueAt?_child invariant.dest, invariant.untouched1 making.free1,
      invariant.untouched2 making.free2⟩
  · have waiting := invariant.waits pair member
    have known := invariant.hasObject_of_left waiting.left
    exact ⟨making.object?_of_mapped1 waiting.left, making.object?_of_mapped2 waiting.right,
      (making.isList_of_present known).trans waiting.region,
      fun range => (making.valueAt? _ _).trans (waiting.empty range), waiting.layout1,
      waiting.layout2⟩

/-- The pairs that are being joined keep their counterparts. -/
theorem making_opens (invariant : Invariant basis path waiting here)
    (making : Making basis here child dest now) {pair : ObjectPair} (member : pair ∈ path) :
    Open basis (here.1.making child dest, now) pair := by
  have isOpen := invariant.opens pair member
  refine ⟨making.relates isOpen.relates, Nat.lt_of_lt_of_le isOpen.early making.time,
    fun shared => ?_, fun known => ?_⟩
  · obtain ⟨image, mapped⟩ := Option.isSome_iff_exists.1 (isOpen.shared shared)
    exact Option.isSome_iff_exists.2 ⟨image, making.object?_of_mapped1 mapped⟩
  · have different : pair.dest ≠ child.dest := by
      intro same
      rcases making.named with ⟨late, -⟩ | ⟨shared, isChild, -⟩
      · have := isOpen.early
        rw [same] at this
        omega
      · have mapped := isOpen.shared (same ▸ shared)
        rw [same, ← isChild, making.free1] at mapped
        simp at mapped
    have there := (making.hasObject_iff.1 known).resolve_left different
    obtain ⟨mapped1, mapped2, region⟩ := isOpen.present there
    exact ⟨making.object?_of_mapped1 mapped1, making.object?_of_mapped2 mapped2,
      (making.isList_of_present there).trans region⟩

/-- The invariant stays when a pair of objects gets its counterpart. -/
theorem making (invariant : Invariant basis path waiting here)
    (making : Making basis here child dest now) :
    Invariant basis path (child :: waiting) (here.1.making child dest, now) := by
  have early : child.dest.index < now.next := by
    rcases making.named with ⟨-, early⟩ | ⟨early, -⟩
    · exact early
    · exact Nat.lt_of_lt_of_le early (Nat.le_trans invariant.started making.time)
  obtain ⟨size, label, valid, heap, objects, suits1, suits2⟩ := making.placed
  have placed : dest.objects.get? child.dest = some ⟨.region size label, valid, heap⟩ := by
    rw [objects, Table.get?_insert_self]
  have present {id : ObjectId} (known : here.1.dest.hasObject id = true) : id ≠ child.dest ∧
      dest.objects.get? id = here.1.dest.objects.get? id :=
    ⟨making.ne_of_present known, making.get?_of_present known⟩
  have shared (same : child.dest.index < basis.start) :
      child.object1 = child.dest ∧ child.object2 = child.dest := by
    rcases making.named with ⟨late, -⟩ | ⟨-, same⟩
    · exact absurd same (Nat.not_lt_of_le (Nat.le_trans invariant.started late))
    · exact same
  exact {
    invariant with
    started := Nat.le_trans invariant.started making.time
    left := { invariant.left with
      drawn := fun held => Nat.lt_of_lt_of_le (invariant.left.drawn held) making.time }
    right := { invariant.right with
      drawn := fun held => Nat.lt_of_lt_of_le (invariant.right.drawn held) making.time }
    untouched1 := fun {id} unmapped => by
      refine invariant.untouched1 ?_
      simp only [Progress.making, Correspondence.object?_setObject] at unmapped
      split at unmapped
      · simp at unmapped
      · exact unmapped
    untouched2 := fun {id} unmapped => by
      refine invariant.untouched2 ?_
      simp only [Progress.making, Correspondence.object?_setObject] at unmapped
      split at unmapped
      · simp at unmapped
      · exact unmapped
    leftMap := invariant.leftMap.making present size label valid heap placed suits1
      (making.child_ne_null invariant.dest) fun same => (shared same).1.symm
    rightMap := invariant.rightMap.making present size label valid heap placed suits2
      (making.child_ne_null invariant.dest) fun same => (shared same).2.symm
    dest := making.sound
    objects := fun {id} known => by
      rcases making.hasObject_iff.1 known with rfl | known
      · refine .inr ⟨early, ⟨child.object1, ?_⟩, ⟨child.object2, ?_⟩⟩
        · exact (Correspondence.object?_setObject ..).trans (if_pos rfl)
        · exact (Correspondence.object?_setObject ..).trans (if_pos rfl)
      · refine (invariant.objects known).imp_right ?_
        rintro ⟨before, ⟨object1, mapped1⟩, ⟨object2, mapped2⟩⟩
        exact ⟨Nat.lt_of_lt_of_le before making.time,
          ⟨object1, making.object?_of_mapped1 mapped1⟩,
          ⟨object2, making.object?_of_mapped2 mapped2⟩⟩
    kinds := fun {id object} found proper => by
      rcases making.hasObject_iff.1 (Graph.hasObject_of_object? found) with rfl | known
      · have found' : dest.object? child.dest = some object := found
        rw [Graph.object?, placed] at found'
        obtain rfl := Option.some.inj found'
        exact ⟨rfl, .inl rfl⟩
      · exact invariant.kinds ((making.object?_of_present known).symm.trans found) proper
    values := fun {value} known => by
      rcases invariant.values ((making.hasValue value).symm.trans known) with
        zero | ⟨late, before⟩ | shared
      · exact .inl zero
      · exact .inr (.inl ⟨late, Nat.lt_of_lt_of_le before making.time⟩)
      · exact .inr (.inr shared)
    joined := fun isJoint => by
      have joint := invariant.joined isJoint
      exact ⟨(making.hasValue _).trans joint.present, joint.left, joint.right,
        joint.agree.mono rfl rfl (making.target? _)
          (fun isImage => making.image?_of_mapped1 isImage)
          fun isImage => making.image?_of_mapped2 isImage⟩
    contents := fun {id range value} held region => by
      have held' := (making.valueAt? id range).symm.trans held
      have known := invariant.dest.hasObject_of_held held'
      obtain ⟨object1, object2, value1, value2, source⟩ :=
        invariant.contents held' ((making.isList_of_present known).symm.trans region)
      exact ⟨object1, object2, value1, value2, making.object?_of_mapped1 source.left,
        making.object?_of_mapped2 source.right, source.held1, source.held2, source.joint⟩
    waits := fun pair member => invariant.making_waits making member
    opens := fun pair member => invariant.making_opens making member
    partners := invariant.making_partners making
    tied1 := making.tied invariant.tied1 invariant.leftMap invariant.dest making.free1
    tied2 := making.tied invariant.tied2 invariant.rightMap invariant.dest making.free2
    exact := fun still => invariant.making_exact making (invariant.exact still) }

end Invariant

/-- Making a counterpart leaves all else as it is. -/
theorem Making.onward (making : Making basis here child dest now)
    (stack : dest.stack = here.1.dest.stack) (globals : dest.globals = here.1.dest.globals) :
    Onward basis lays fills kept here (here.1.making child dest, now) where
  time := making.time
  leftLayout _ _ := rfl
  rightLayout _ _ := rfl
  joined isJoint := isJoint
  leftMap mapped := by
    have still := making.object?_of_mapped1 mapped
    exact ⟨Option.isSome_iff_exists.2 ⟨_, still⟩, fun _ => still⟩
  rightMap mapped := by
    have still := making.object?_of_mapped2 mapped
    exact ⟨Option.isSome_iff_exists.2 ⟨_, still⟩, fun _ => still⟩
  relates := making.relates
  object present _ := making.get?_of_present present
  layout _ _ _ := by
    show dest.layout _ = _
    rw [Graph.layout, making.layouts, Graph.layout]
  gone present absent := by
    have there : dest.hasObject _ = true := making.hasObject_iff.2 (.inr present)
    exact absurd (there.symm.trans absent) (by simp)
  kept _ pair _ present := making.hasObject_iff.2 (.inr present)
  new {id} present := by
    rcases making.hasObject_iff.1 present with rfl | present
    · rcases making.named with ⟨late, -⟩ | ⟨shared, same, -⟩
      · exact .inr (.inl late)
      · exact .inr (.inr ⟨shared, same ▸ making.free1⟩)
    · exact .inl present
  status covered := covered
  stack := stack
  globals := globals

end Join

end ShapeDomain
