import ShapeDomain.Proofs.Fold.Perform
import ShapeDomain.Proofs.Progress.Values

/-!
# List nodes are folded

When a node and its successor are folded, the segment becomes the counterpart of all objects whose
counterparts they were.  The pairs that are being joined keep their counterparts, unless the joined
graphs both have rings.
-/

namespace ShapeDomain

namespace Join

variable {basis : Basis} {path waiting lays fills kept : List ObjectPair}
variable {here there : Progress × Supply} {pair : ObjectPair} {fold : Fold} {parts : Fold.Parts}
variable {segment : ObjectId} {dest : Graph} {now : Supply}

/-- The counterpart that takes the place of another one. -/
def replace (fold : Fold) (segment image : ObjectId) : ObjectId :=
  if image = fold.head ∨ image = fold.successor then segment else image

/-- A join in which two nodes of the destination were folded. -/
def Progress.folding (progress : Progress) (fold : Fold) (segment : ObjectId) (dest : Graph) :
    Progress :=
  { progress with
    leftMap := (progress.leftMap.retarget fold.head segment).retarget fold.successor segment
    rightMap := (progress.rightMap.retarget fold.head segment).retarget fold.successor segment
    dest := dest }

theorem object?_refold (map : Correspondence) (id : ObjectId) :
    ((map.retarget fold.head segment).retarget fold.successor segment).object? id =
      (map.object? id).map (replace fold segment) := by
  rw [Correspondence.object?_retarget, Correspondence.object?_retarget, Option.map_map]
  congr 1
  funext image
  unfold replace
  by_cases isHead : image = fold.head
  · by_cases same : segment = fold.successor <;> simp [isHead, same]
  · simp [isHead]

/-- Two nodes of the destination were folded. -/
structure Folding (basis : Basis) (path waiting : List ObjectPair) (here : Progress × Supply)
    (fold : Fold) (parts : Fold.Parts) (segment : ObjectId) (dest : Graph) (now : Supply) :
    Prop where
  /-- Pairs are being joined and wait. -/
  invariant : Invariant basis path waiting here
  /-- List nodes may be folded. -/
  folds : basis.Folds
  /-- The nodes could be folded. -/
  possible : Fold.Possible here.1.dest fold parts
  /-- They were folded. -/
  folded : Fold.Folded here.1.dest fold parts segment dest
  /-- The name of the segment is new. -/
  new : here.2.next ≤ segment.index
  /-- It was drawn. -/
  drawn : segment.index < now.next
  /-- Pairs that wait are not part of the heap. -/
  outside : ∀ pair ∈ waiting, Outside here pair.dest
  /-- Left objects that have become the node have no names. -/
  unnamed1 : ∀ {id}, here.1.leftMap.object? id = some fold.head → basis.left.Unnamed id
  /-- Right ones have none either. -/
  unnamed2 : ∀ {id}, here.1.rightMap.object? id = some fold.head → basis.right.Unnamed id

/-! ### Links -/

theorem isList_of_possible {graph : Graph} (possible : Fold.Possible graph fold parts) :
    graph.isList fold.head = false := by
  rw [Graph.isList, possible.head, Option.any_some, possible.head_kind]
  rfl

/-- Two values whose joint value is an address are addresses of the same place. -/
theorem Invariant.agree_of_leads (invariant : Invariant basis path waiting here)
    {value1 value2 value : ValueId} {target : Target}
    (isJoint : here.1.joined.get? (value1, value2) = some value) (proper : value ≠ .zero)
    (leads : here.1.dest.target? value = some target) : ∃ target1 target2,
      address? here.1.left value1 = some target1 ∧ address? here.1.right value2 = some target2 ∧
      SamePlace here.1 target1 target2 value target.object ∧ target1.offset = target.offset := by
  cases (invariant.joined isJoint).agree with
  | plain _ _ none => simp [proper, leads] at none
  | @address target1 target2 image leads1 leads2 place =>
      obtain ⟨rfl, offset⟩ := place.leads _ leads
      exact ⟨target1, target2, leads1, leads2, place, offset.symm⟩

/-- The link of two nodes is the joint value of two addresses, which the objects that have become
the first node hold. -/
theorem exists_link (invariant : Invariant basis path waiting here)
    (possible : Fold.Possible here.1.dest fold parts) :
    ∃ object1 object2 value1 value2 target1 target2,
      Source here.1 fold.head parts.link.range parts.link.value object1 object2 value1 value2 ∧
      here.1.joined.get? (value1, value2) = some parts.link.value ∧
      address? here.1.left value1 = some target1 ∧ address? here.1.right value2 = some target2 ∧
      SamePlace here.1 target1 target2 parts.link.value fold.successor ∧ target1.offset = 0 := by
  obtain ⟨object1, object2, value1, value2, source⟩ :=
    invariant.contents possible.link_held (isList_of_possible possible)
  obtain ⟨specifier, isLink⟩ := possible.link.target
  have proper : parts.link.value ≠ .zero := by
    simpa [ValueId.isZero] using (possible.performable invariant.dest).link_ne_zero
  have isJoint : here.1.joined.get? (value1, value2) = some parts.link.value := by
    rcases jointValue?_eq_some_iff.1 source.joint with ⟨-, -, zero⟩ | ⟨-, isJoint⟩
    · exact absurd zero proper
    · exact isJoint
  obtain ⟨target1, target2, leads1, leads2, place, offset⟩ :=
    invariant.agree_of_leads isJoint proper isLink
  exact ⟨object1, object2, value1, value2, target1, target2, source, isJoint, leads1, leads2, place,
    offset⟩

/-- What the link of two nodes comes from, in one of the joined graphs. -/
structure Linked (origin : Graph) (map : Correspondence) (fold : Fold) (parts : Fold.Parts) :
    Prop where
  /-- It is the counterpart of an address that an object without a name holds. -/
  held : ∃ source target, map.value? source = some parts.link.value ∧
    address? origin source = some target ∧ origin.HeldUnnamed source
  /-- It is the counterpart of addresses of objects that have become the successor only. -/
  starts : ∀ {source target}, map.value? source = some parts.link.value →
    address? origin source = some target →
    image? map target.object = some fold.successor ∧ target.offset = 0

namespace Folding

variable (folding : Folding basis path waiting here fold parts segment dest now)

include folding

theorem ne_segment {id : ObjectId} (present : here.1.dest.hasObject id = true) : id ≠ segment := by
  rintro rfl
  exact absurd (folding.invariant.index_lt present) (Nat.not_lt_of_le folding.new)

theorem present_head : here.1.dest.hasObject fold.head = true :=
  Graph.hasObject_of_object? folding.possible.head

/-- The segment is a list segment. -/
theorem isList_segment : dest.isList segment = true := by
  rw [Graph.isList, folding.folded.objects, if_pos rfl]
  rfl

/-- What is still there was there, unless it is the segment. -/
theorem hasObject_iff {id : ObjectId} : dest.hasObject id = true ↔ id = segment ∨
    (here.1.dest.hasObject id = true ∧ ¬ (id = fold.head ∨ id = fold.successor)) := by
  rw [Graph.hasObject_iff, Graph.hasObject_iff, folding.folded.objects]
  by_cases isSegment : id = segment
  · simp [isSegment]
  · by_cases node : id = fold.head ∨ id = fold.successor <;> simp [isSegment, node]

/-- What is still there has not changed. -/
theorem get?_eq {id : ObjectId} (present : here.1.dest.hasObject id = true)
    (other : ¬ (id = fold.head ∨ id = fold.successor)) :
    dest.objects.get? id = here.1.dest.objects.get? id := by
  have object := folding.folded.objects id
  have heap := folding.folded.heap id
  have valid := folding.folded.valid id
  rw [if_neg (folding.ne_segment present), if_neg other] at object heap valid
  obtain ⟨placement, found⟩ := Graph.hasObject_iff_get?.1 present
  rw [Graph.object?, Graph.object?, found, Option.map_some, Option.map_eq_some_iff] at object
  obtain ⟨placement', found', same⟩ := object
  rw [Graph.isHeap, Graph.isHeap, found, found', Option.any_some, Option.any_some] at heap
  rw [Graph.isValid, Graph.isValid, found, found', Option.any_some, Option.any_some] at valid
  rw [found, found']
  obtain ⟨_, _, _⟩ := placement
  obtain ⟨_, _, _⟩ := placement'
  simp_all

theorem object?_eq {id : ObjectId} (present : here.1.dest.hasObject id = true)
    (other : ¬ (id = fold.head ∨ id = fold.successor)) :
    dest.object? id = here.1.dest.object? id := by
  rw [Graph.object?, folding.get?_eq present other, Graph.object?]

theorem valueAt?_eq {id : ObjectId} (present : here.1.dest.hasObject id = true)
    (other : ¬ (id = fold.head ∨ id = fold.successor)) (range : BitRange) :
    dest.valueAt? id range = here.1.dest.valueAt? id range := by
  rw [folding.folded.held, if_neg (folding.ne_segment present), if_neg other]

omit folding in
theorem replace_of_other {image : ObjectId}
    (other : ¬ (image = fold.head ∨ image = fold.successor)) :
    replace fold segment image = image := if_neg other

omit folding in
theorem replace_of_node {image : ObjectId} (node : image = fold.head ∨ image = fold.successor) :
    replace fold segment image = segment := if_pos node

/-- NULL is not folded. -/
theorem replace_null : replace fold segment .null = .null := by
  refine if_neg ?_
  rintro (same | same)
  · exact folding.possible.head_ne_null folding.invariant.dest same.symm
  · exact folding.possible.successor_ne_null folding.invariant.dest same.symm

/-- What becomes a node is an object. -/
theorem object?_of_image? {map : Correspondence} {id image : ObjectId}
    (node : image = fold.head ∨ image = fold.successor) (isImage : image? map id = some image) :
    map.object? id = some image := by
  refine (image?_of_proper ?_).symm.trans isImage
  rintro rfl
  obtain rfl := Option.some.inj isImage
  rcases node with same | same
  · exact folding.possible.head_ne_null folding.invariant.dest same.symm
  · exact folding.possible.successor_ne_null folding.invariant.dest same.symm

theorem link_proper : parts.link.value ≠ .zero := by
  simpa [ValueId.isZero] using (folding.possible.performable folding.invariant.dest).link_ne_zero

/-- What leads nowhere does so after the folding. -/
theorem target?_eq_none {value : ValueId} (none : here.1.dest.target? value = none) :
    dest.target? value = .none := by
  rw [folding.folded.targets, none]
  split <;> rfl

theorem image?_eq {map : Correspondence} {id image : ObjectId}
    (isImage : image? map id = some image) :
    image? ((map.retarget fold.head segment).retarget fold.successor segment) id =
      some (replace fold segment image) := by
  unfold image? at isImage ⊢
  split at isImage
  case isTrue null =>
    obtain rfl := Option.some.inj isImage
    rw [if_pos null, folding.replace_null]
  case isFalse proper => rw [if_neg proper, object?_refold, isImage]; rfl

/-- A list segment has become a list segment. -/
theorem isList_replace {image : ObjectId} (list : here.1.dest.isList image = true) :
    dest.isList (replace fold segment image) = true := by
  by_cases node : image = fold.head ∨ image = fold.successor
  · rw [replace_of_node node]
    exact folding.isList_segment
  · rw [replace_of_other node,
      Graph.isList_congr (folding.object?_eq (Graph.hasObject_of_isList list) node)]
    exact list

/-- Of two objects that become the same one is the successor. -/
theorem successor_of_replace {image other : ObjectId}
    (present : here.1.dest.hasObject image = true) (present' : here.1.dest.hasObject other = true)
    (distinct : other ≠ image) (same : replace fold segment image = replace fold segment other) :
    image = fold.successor ∨ other = fold.successor := by
  by_cases node : image = fold.head ∨ image = fold.successor
  · by_cases node' : other = fold.head ∨ other = fold.successor
    · rcases node with rfl | isSuccessor
      · exact .inr (node'.resolve_left distinct)
      · exact .inl isSuccessor
    · rw [replace_of_node node, replace_of_other node'] at same
      exact absurd same.symm (folding.ne_segment present')
  · by_cases node' : other = fold.head ∨ other = fold.successor
    · rw [replace_of_other node, replace_of_node node'] at same
      exact absurd same (folding.ne_segment present)
    · rw [replace_of_other node, replace_of_other node'] at same
      exact absurd same.symm distinct

/-- The counterparts fit after the folding. -/
theorem mapped {origin : Graph} {map : Correspondence}
    (mapped : Mapped basis.start origin map here.1.dest) : Mapped basis.start origin
      ((map.retarget fold.head segment).retarget fold.successor segment) dest := by
  have started := folding.invariant.started
  have proper : segment ≠ .null := by
    rintro rfl
    exact folding.ne_segment folding.invariant.dest.hasObject_null rfl
  refine ⟨fun {id image} isImage => ?_, fun {id image} isImage => ?_,
    fun {id image} isImage heap => ?_, fun {id image} isImage early => ?_,
    fun {id other image} first second => ?_⟩
  · rw [object?_refold] at isImage
    obtain ⟨before, isBefore, rfl⟩ := Option.map_eq_some_iff.1 isImage
    obtain ⟨notNull, notNull', object, joint, found, isJoint, size⟩ := mapped.source isBefore
    by_cases node : before = fold.head ∨ before = fold.successor
    · rw [replace_of_node node]
      refine ⟨notNull, proper, object, Fold.segment parts, found, ?_, ?_⟩
      · rw [folding.folded.objects, if_pos rfl]
      · rw [← size]
        show parts.head.size = joint.size
        rcases node with rfl | rfl
        · rw [folding.possible.head, Option.some.injEq] at isJoint
          rw [isJoint]
        · rw [folding.possible.successor, Option.some.injEq] at isJoint
          rw [folding.possible.size_eq, isJoint]
    · rw [replace_of_other node]
      exact ⟨notNull, notNull', object, joint, found,
        (folding.object?_eq (mapped.hasObject isBefore) node).trans isJoint, size⟩
  · rw [object?_refold] at isImage
    obtain ⟨before, isBefore, rfl⟩ := Option.map_eq_some_iff.1 isImage
    rw [← mapped.valid isBefore]
    by_cases node : before = fold.head ∨ before = fold.successor
    · rw [replace_of_node node, folding.folded.valid, if_pos rfl]
      rcases node with rfl | rfl
      · rfl
      · exact folding.possible.valid
    · rw [replace_of_other node, Graph.isValid, folding.get?_eq (mapped.hasObject isBefore) node,
        Graph.isValid]
  · rw [object?_refold] at isImage
    obtain ⟨before, isBefore, rfl⟩ := Option.map_eq_some_iff.1 isImage
    by_cases node : before = fold.head ∨ before = fold.successor
    · rw [replace_of_node node, folding.folded.heap, if_pos rfl]
    · rw [replace_of_other node, ← mapped.heap isBefore heap, Graph.isHeap,
        folding.get?_eq (mapped.hasObject isBefore) node, Graph.isHeap]
  · rw [object?_refold] at isImage
    obtain ⟨before, isBefore, rfl⟩ := Option.map_eq_some_iff.1 isImage
    by_cases node : before = fold.head ∨ before = fold.successor
    · rw [replace_of_node node] at early
      exact absurd (Nat.lt_of_lt_of_le early started) (Nat.not_lt_of_le folding.new)
    · rw [replace_of_other node] at early ⊢
      exact mapped.shared isBefore early
  · rw [object?_refold] at first second
    obtain ⟨before, isBefore, rfl⟩ := Option.map_eq_some_iff.1 first
    obtain ⟨before', isBefore', same⟩ := Option.map_eq_some_iff.1 second
    by_cases node : before = fold.head ∨ before = fold.successor
    · rw [replace_of_node node]
      exact .inr folding.isList_segment
    · rw [replace_of_other node] at same ⊢
      by_cases node' : before' = fold.head ∨ before' = fold.successor
      · rw [replace_of_node node'] at same
        exact absurd same.symm (folding.ne_segment (mapped.hasObject isBefore))
      · rw [replace_of_other node'] at same
        subst same
        refine (mapped.unique isBefore isBefore').imp_right fun list => ?_
        rw [Graph.isList_congr (folding.object?_eq (mapped.hasObject isBefore) node)]
        exact list

/-- Where addresses lead to after the folding. -/
theorem samePlace {target1 target2 : Target} {value : ValueId} {image : ObjectId}
    (place : SamePlace here.1 target1 target2 value image) :
    SamePlace (here.1.folding fold segment dest) target1 target2 value
      (replace fold segment image) where
  offset := place.offset
  left := folding.image?_eq place.left
  right := folding.image?_eq place.right
  leads target found := by
    have found' : dest.target? value = some target := found
    rw [folding.folded.targets] at found'
    split at found'
    case isTrue => simp at found'
    case isFalse notLink =>
      obtain ⟨before, leads, rfl⟩ := Option.map_eq_some_iff.1 found'
      obtain ⟨rfl, offset⟩ := place.leads before leads
      have notSuccessor : before.object ≠ fold.successor := fun same =>
        notLink (folding.possible.eq_link leads same)
      unfold Fold.moveTarget replace
      by_cases isHead : before.object = fold.head
      · rw [if_pos isHead, if_pos (.inl isHead)]
        exact ⟨rfl, offset⟩
      · rw [if_neg isHead, if_neg (not_or.2 ⟨isHead, notSuccessor⟩)]
        exact ⟨rfl, offset⟩

/-- An object that is not part of the heap is none of the nodes. -/
theorem not_node {id : ObjectId} (outside : Outside here id) :
    ¬ (id = fold.head ∨ id = fold.successor) := by
  rintro (rfl | rfl)
  · have heap := folding.possible.heapHead
    rw [outside.2] at heap
    simp at heap
  · have heap := folding.possible.heapSuccessor
    rw [outside.2] at heap
    simp at heap

/-- Folding two nodes leaves all else as it is. -/
theorem onward (safe : basis.Safe → ∀ pair ∈ kept, here.1.dest.hasObject pair.dest = true →
      ¬ (pair.dest = fold.head ∨ pair.dest = fold.successor)) :
    Onward basis lays fills kept here (here.1.folding fold segment dest, now) := by
  have mapped {map : Correspondence} {id image : ObjectId} (isImage : map.object? id = some image)
      (present : here.1.dest.hasObject image = true) :
      (((map.retarget fold.head segment).retarget fold.successor segment).object? id).isSome =
          true ∧
        (dest.hasObject image = true → ((map.retarget fold.head segment).retarget fold.successor
          segment).object? id = some image) := by
    rw [object?_refold, isImage, Option.map_some]
    refine ⟨rfl, fun last => ?_⟩
    rw [replace_of_other ((folding.hasObject_iff.1 last).resolve_left
      (folding.ne_segment present)).2]
  have other {id : ObjectId} (present : here.1.dest.hasObject id = true)
      (last : dest.hasObject id = true) : ¬ (id = fold.head ∨ id = fold.successor) :=
    ((folding.hasObject_iff.1 last).resolve_left (folding.ne_segment present)).2
  refine ⟨Nat.le_of_lt (Nat.lt_of_le_of_lt folding.new folding.drawn), fun _ _ => rfl,
    fun _ _ => rfl, fun isJoint => isJoint,
    fun isImage => mapped isImage (folding.invariant.hasObject_of_left isImage),
    fun isImage => mapped isImage (folding.invariant.hasObject_of_right isImage),
    fun {object1 object2} ⟨image, isImage1, isImage2⟩ =>
      ⟨replace fold segment image, (object?_refold ..).trans (by rw [isImage1]; rfl),
        (object?_refold ..).trans (by rw [isImage2]; rfl)⟩,
    fun present last => folding.get?_eq present (other present last),
    fun present last _ => Graph.layout_ext (folding.valueAt?_eq present (other present last)),
    fun {id} present absent => ⟨folding.folds, ?_⟩, fun isSafe pair member present => ?_,
    fun {id} present => ?_, fun covered => covered, folding.folded.stack, folding.folded.globals⟩
  · have node : id = fold.head ∨ id = fold.successor := by
      by_contra other
      have last : dest.hasObject id = true := folding.hasObject_iff.2 (.inr ⟨present, other⟩)
      exact absurd (last.symm.trans absent) (by simp)
    rcases node with rfl | rfl
    · exact folding.possible.heapHead
    · exact folding.possible.heapSuccessor
  · exact folding.hasObject_iff.2 (.inr ⟨present, safe isSafe pair member present⟩)
  · rcases folding.hasObject_iff.1 present with rfl | ⟨before, -⟩
    · exact .inr (.inl folding.new)
    · exact .inl before

/-! ### Lost links -/

theorem linked1 : Linked basis.left here.1.leftMap fold parts where
  held := by
    obtain ⟨object1, _, value1, _, target1, _, source, isJoint, leads1, -⟩ :=
      exists_link folding.invariant folding.possible
    have proper := (address?_eq_some_iff.1 leads1).1
    exact ⟨value1, target1, (folding.invariant.joined isJoint).left.resolve_left proper,
      (folding.invariant.address?_left value1).symm.trans leads1, object1, _,
      (folding.invariant.left.old source.held1
        (folding.invariant.early_of_address1 leads1)).resolve_left proper,
      folding.unnamed1 source.left⟩
  starts {source target} bound leads := by
    obtain ⟨specifier, isLink⟩ := folding.possible.link.target
    obtain ⟨_, isJoint⟩ := folding.invariant.value1 bound
    obtain ⟨target1, _, leads1, -, place, offset⟩ :=
      folding.invariant.agree_of_leads isJoint folding.link_proper isLink
    rw [folding.invariant.address?_left, leads, Option.some.injEq] at leads1
    subst leads1
    exact ⟨place.left, offset⟩

theorem linked2 : Linked basis.right here.1.rightMap fold parts where
  held := by
    obtain ⟨_, object2, _, value2, _, target2, source, isJoint, -, leads2, -⟩ :=
      exists_link folding.invariant folding.possible
    have proper := (address?_eq_some_iff.1 leads2).1
    exact ⟨value2, target2, (folding.invariant.joined isJoint).right.resolve_left proper,
      (folding.invariant.address?_right value2).symm.trans leads2, object2, _,
      (folding.invariant.right.old source.held2
        (folding.invariant.early_of_address2 leads2)).resolve_left proper,
      folding.unnamed2 source.right⟩
  starts {source target} bound leads := by
    obtain ⟨specifier, isLink⟩ := folding.possible.link.target
    obtain ⟨_, isJoint⟩ := folding.invariant.value2 bound
    obtain ⟨_, target2, -, leads2, place, offset⟩ :=
      folding.invariant.agree_of_leads isJoint folding.link_proper isLink
    rw [folding.invariant.address?_right, leads, Option.some.injEq] at leads2
    subst leads2
    exact ⟨place.right, place.offset.symm.trans offset⟩

section Tied

variable {start : Nat} {origin : Graph} {map : Correspondence} (plain : origin.Plain start)
variable (ties : Tied origin map here.1.dest) (linked : Linked origin map fold parts)

include plain ties linked

/-- An object that has become the successor is what the link comes from leads to, unless it was
folded before. -/
theorem detached_or_linked {object : ObjectId}
    (isImage : map.object? object = some fold.successor) :
    Detached origin map here.1.dest object ∨ ∃ source,
      origin.target? source = some ⟨object, 0, .region⟩ ∧
      map.value? source = some parts.link.value ∧ origin.HeldUnnamed source := by
  obtain ⟨source, ⟨linkObject, offset, specifier⟩, bound, leads, held⟩ := linked.held
  obtain ⟨isSuccessor, atStart⟩ := linked.starts bound leads
  have found := (address?_eq_some_iff.1 leads).2
  have direct := plain.direct found
  simp only at isSuccessor atStart direct
  subst atStart direct
  have mapped : map.object? linkObject = some fold.successor :=
    folding.object?_of_image? (.inr rfl) isSuccessor
  rcases ties.detached mapped isImage with rfl | lost | lost
  · exact .inr ⟨source, found, bound, held⟩
  · obtain ⟨other, value, leads', bound', none⟩ := lost
    obtain rfl := plain.single leads' found
    rw [bound, Option.some.injEq] at bound'
    subst bound'
    obtain ⟨_, isLink⟩ := folding.possible.link.target
    rw [isLink] at none
    simp at none
  · exact .inl lost

/-- An object that has become the successor loses its address. -/
theorem detached_successor {object : ObjectId}
    (isImage : map.object? object = some fold.successor) :
    Detached origin ((map.retarget fold.head segment).retarget fold.successor segment) dest
      object := by
  rcases folding.detached_or_linked plain ties linked isImage with lost | linked
  · exact lost.mono (fun bound => bound) fun _ none => folding.target?_eq_none none
  · obtain ⟨source, leads, bound, -⟩ := linked
    refine ⟨source, _, leads, bound, ?_⟩
    rw [folding.folded.targets, if_pos rfl]

/-- Only the link is lost. -/
theorem tied (mapped : Mapped basis.start origin map here.1.dest) :
    Tied origin ((map.retarget fold.head segment).retarget fold.successor segment) dest where
  lost {source value target} bound leads none := by
    by_cases isLink : value = parts.link.value
    · subst isLink
      obtain ⟨isImage, offset⟩ := linked.starts bound leads
      refine ⟨⟨segment, ?_, folding.isList_segment⟩, ?_⟩
      · rw [folding.image?_eq isImage, replace_of_node (.inr rfl)]
      have found := (address?_eq_some_iff.1 leads).2
      have direct := plain.direct found
      obtain ⟨object, _, _⟩ := target
      simp only at offset direct
      subst offset direct
      rcases folding.detached_or_linked plain ties linked
        (folding.object?_of_image? (.inr rfl) isImage) with lost | link
      · obtain ⟨other, value, leads', bound', none⟩ := lost
        obtain rfl := plain.single leads' found
        obtain rfl := Option.some.inj (bound'.symm.trans bound)
        obtain ⟨_, isLink⟩ := folding.possible.link.target
        rw [isLink] at none
        simp at none
      · obtain ⟨other, leads', -, held⟩ := link
        obtain rfl := plain.single leads' found
        exact held
    · rw [folding.folded.targets, if_neg isLink, Option.map_eq_none_iff] at none
      obtain ⟨⟨image, isImage, list⟩, held⟩ := ties.lost bound leads none
      exact ⟨⟨_, folding.image?_eq isImage, folding.isList_replace list⟩, held⟩
  detached {object other image} first second := by
    rw [object?_refold] at first second
    obtain ⟨before, isBefore, rfl⟩ := Option.map_eq_some_iff.1 first
    obtain ⟨before', isBefore', same⟩ := Option.map_eq_some_iff.1 second
    have stays {object : ObjectId} (detached : Detached origin map here.1.dest object) :
        Detached origin ((map.retarget fold.head segment).retarget fold.successor segment) dest
          object :=
      detached.mono (fun bound => bound) fun _ none => folding.target?_eq_none none
    by_cases equal : before' = before
    · subst equal
      exact (ties.detached isBefore isBefore').imp_right (Or.imp stays stays)
    · refine .inr ?_
      rcases folding.successor_of_replace
        (mapped.hasObject isBefore) (mapped.hasObject isBefore') equal same.symm with rfl | rfl
      · exact .inl (folding.detached_successor plain ties linked isBefore)
      · exact .inr (folding.detached_successor plain ties linked isBefore')

end Tied

/-! ### The invariant -/

omit folding in
theorem object?_left {id image : ObjectId} (mapped : here.1.leftMap.object? id = some image) :
    (here.1.folding fold segment dest).leftMap.object? id = some (replace fold segment image) :=
  (object?_refold ..).trans (by rw [mapped, Option.map_some])

omit folding in
theorem object?_right {id image : ObjectId} (mapped : here.1.rightMap.object? id = some image) :
    (here.1.folding fold segment dest).rightMap.object? id = some (replace fold segment image) :=
  (object?_refold ..).trans (by rw [mapped, Option.map_some])

/-- The objects of the destination are counterparts after the folding. -/
theorem objects {id : ObjectId} (present : dest.hasObject id = true) : id = .null ∨
    (id.index < now.next ∧
      (∃ object, (here.1.folding fold segment dest).leftMap.object? object = some id) ∧
      ∃ object, (here.1.folding fold segment dest).rightMap.object? object = some id) := by
  have invariant := folding.invariant
  have time : here.2.next ≤ now.next := Nat.le_of_lt (Nat.lt_of_le_of_lt folding.new folding.drawn)
  rcases folding.hasObject_iff.1 present with rfl | ⟨before, other⟩
  · obtain ⟨-, ⟨object1, mapped1⟩, object2, mapped2⟩ := (invariant.objects
      folding.present_head).resolve_left (folding.possible.head_ne_null invariant.dest)
    refine .inr ⟨folding.drawn, ⟨object1, ?_⟩, object2, ?_⟩
    · rw [object?_left mapped1, replace_of_node (.inl rfl)]
    · rw [object?_right mapped2, replace_of_node (.inl rfl)]
  · refine (invariant.objects before).imp_right ?_
    rintro ⟨index, ⟨object1, mapped1⟩, object2, mapped2⟩
    refine ⟨Nat.lt_of_lt_of_le index time, ⟨object1, ?_⟩, object2, ?_⟩
    · rw [object?_left mapped1, replace_of_other other]
    · rw [object?_right mapped2, replace_of_other other]

/-- The fields of regions hold joint values after the folding. -/
theorem contents {id : ObjectId} {range : BitRange} {value : ValueId}
    (held : dest.valueAt? id range = some value) (region : dest.isList id = false) :
    ∃ object1 object2 value1 value2, Source (here.1.folding fold segment dest) id range value
      object1 object2 value1 value2 := by
  have notSegment : id ≠ segment := by
    rintro rfl
    rw [folding.isList_segment] at region
    simp at region
  obtain ⟨before, other⟩ := (folding.hasObject_iff.1
    (folding.folded.sound.hasObject_of_held held)).resolve_left notSegment
  obtain ⟨object1, object2, value1, value2, source⟩ := folding.invariant.contents
    ((folding.valueAt?_eq before other range).symm.trans held)
    ((Graph.isList_congr (folding.object?_eq before other)).symm.trans region)
  refine ⟨object1, object2, value1, value2, ?_, ?_, source.held1, source.held2, source.joint⟩
  · rw [object?_left source.left, replace_of_other other]
  · rw [object?_right source.right, replace_of_other other]

/-- Pairs that wait are not folded. -/
theorem waits {other : ObjectPair} (member : other ∈ waiting) :
    Waiting basis (here.1.folding fold segment dest) other := by
  have waiting := folding.invariant.waits other member
  have outside := folding.outside other member
  have apart := folding.not_node outside
  refine ⟨?_, ?_, ?_, fun range => ?_, waiting.layout1, waiting.layout2⟩
  · rw [object?_left waiting.left, replace_of_other apart]
  · rw [object?_right waiting.right, replace_of_other apart]
  · exact (Graph.isList_congr (folding.object?_eq outside.1 apart)).trans waiting.region
  · exact (folding.valueAt?_eq outside.1 apart range).trans (waiting.empty range)

/-- A pair that is being joined keeps its counterpart, unless that is folded. -/
theorem opens {other : ObjectPair} (member : other ∈ path) :
    Open basis (here.1.folding fold segment dest, now) other := by
  have isOpen := folding.invariant.opens other member
  have onward : Onward basis [] [] [] here (here.1.folding fold segment dest, now) :=
    folding.onward (by simp)
  refine ⟨onward.relates isOpen.relates, Nat.lt_of_lt_of_le isOpen.early onward.time,
    fun shared => ?_, fun present => ?_⟩
  · obtain ⟨image, mapped⟩ := Option.isSome_iff_exists.1 (isOpen.shared shared)
    exact Option.isSome_iff_exists.2 ⟨_, object?_left mapped⟩
  · have notSegment : other.dest ≠ segment := by
      rintro same
      have index := isOpen.early
      rw [same] at index
      exact absurd index (Nat.not_lt_of_le folding.new)
    obtain ⟨before, apart⟩ := (folding.hasObject_iff.1 present).resolve_left notSegment
    obtain ⟨mapped1, mapped2, region⟩ := isOpen.present before
    refine ⟨?_, ?_, (Graph.isList_congr (folding.object?_eq before apart)).trans region⟩
    · rw [object?_left mapped1, replace_of_other apart]
    · rw [object?_right mapped2, replace_of_other apart]

/-- The invariant stays when two nodes are folded. -/
theorem next : Invariant basis path waiting (here.1.folding fold segment dest, now) := by
  have invariant := folding.invariant
  have onward : Onward basis [] [] [] here (here.1.folding fold segment dest, now) :=
    folding.onward (by simp)
  have time : here.2.next ≤ now.next := onward.time
  exact {
    invariant with
    started := Nat.le_trans invariant.started time
    left := { invariant.left with
      drawn := fun held => Nat.lt_of_lt_of_le (invariant.left.drawn held) time }
    right := { invariant.right with
      drawn := fun held => Nat.lt_of_lt_of_le (invariant.right.drawn held) time }
    untouched1 := fun {id} unmapped =>
      invariant.untouched1 (Option.map_eq_none_iff.1 ((object?_refold ..).symm.trans unmapped))
    untouched2 := fun {id} unmapped =>
      invariant.untouched2 (Option.map_eq_none_iff.1 ((object?_refold ..).symm.trans unmapped))
    leftMap := folding.mapped invariant.leftMap
    rightMap := folding.mapped invariant.rightMap
    dest := folding.folded.sound
    objects := folding.objects
    kinds := fun {id object} found proper => by
      rcases folding.hasObject_iff.1 (Graph.hasObject_of_object? found) with rfl | ⟨before, other⟩
      · have found' : dest.object? id = some object := found
        rw [folding.folded.objects, if_pos rfl, Option.some.injEq] at found'
        subst found'
        exact ⟨(invariant.kinds folding.possible.head
          (folding.possible.head_ne_null invariant.dest)).1, .inr ⟨rfl, folding.folds⟩⟩
      · exact invariant.kinds ((folding.object?_eq before other).symm.trans found) proper
    values := fun {value} present => by
      rcases invariant.values ((folding.folded.values value).symm.trans present) with
        zero | ⟨late, index⟩ | shared
      · exact .inl zero
      · exact .inr (.inl ⟨late, Nat.lt_of_lt_of_le index time⟩)
      · exact .inr (.inr shared)
    joined := fun isJoint => by
      have joint := invariant.joined isJoint
      refine ⟨(folding.folded.values _).trans joint.present, joint.left, joint.right, ?_⟩
      cases joint.agree with
      | plain plain1 plain2 fits =>
          exact .plain plain1 plain2 (fits.imp_right folding.target?_eq_none)
      | address leads1 leads2 place => exact .address leads1 leads2 (folding.samePlace place)
    contents := folding.contents
    waits := fun other member => folding.waits member
    opens := fun other member => folding.opens member
    partners := ⟨invariant.partners.met, fun {object1} mapped apart => by
      have before : (here.1.leftMap.object? object1).isSome = true := by
        rw [← Option.isSome_map, ← object?_refold]
        exact mapped
      exact onward.partnered (invariant.partners.joined before apart) (by simp) (by simp),
      invariant.partners.covered⟩
    tied1 := folding.tied basis.leftPlain invariant.tied1 folding.linked1 invariant.leftMap
    tied2 := folding.tied basis.rightPlain invariant.tied2 folding.linked2 invariant.rightMap
    exact := fun still => absurd folding.folds still }

end Folding

/-! ### Rings -/

/-- The innermost pair of a path is not among those above it. -/
theorem Path.ne_head (isPath : Path basis (pair :: path)) {top : ObjectPair} (member : top ∈ path) :
    top ≠ pair := by
  rintro rfl
  cases isPath with
  | root => simp at member
  | down _ next => exact next.new1 top member rfl

/-- The successor of a node that is offered for folding is led to in both graphs. -/
theorem leads_of_possible (invariant : Invariant basis path waiting here)
    (possible : Fold.Possible here.1.dest fold parts) {child top : ObjectPair}
    (mapped1 : here.1.leftMap.object? child.object1 = some fold.head)
    (mapped2 : here.1.rightMap.object? child.object2 = some fold.head)
    (top1 : here.1.leftMap.object? top.object1 = some fold.successor)
    (top2 : here.1.rightMap.object? top.object2 = some fold.successor)
    (region : here.1.dest.isList fold.successor = false) :
    basis.left.Leads child.object1 top.object1 ∧ basis.right.Leads child.object2 top.object2 := by
  have isRegion : here.1.dest.isList fold.head = false := isList_of_possible possible
  obtain ⟨object1, object2, value1, value2, target1, target2, source, -, leads1, leads2,
    place, -⟩ :=
    exists_link invariant possible
  obtain rfl := (invariant.leftMap.unique source.left mapped1).resolve_right (by simp [isRegion])
  obtain rfl := (invariant.rightMap.unique source.right mapped2).resolve_right (by simp [isRegion])
  have same1 : target1.object = top.object1 := by
    refine eq_of_image? invariant.leftMap region place.left ?_
    rw [image?_of_proper (invariant.leftMap.source top1).1, top1]
  have same2 : target2.object = top.object2 := by
    refine eq_of_image? invariant.rightMap region place.right ?_
    rw [image?_of_proper (invariant.rightMap.source top2).1, top2]
  exact ⟨⟨parts.link.range, value1, target1, (invariant.left.old source.held1
      (invariant.early_of_address1 leads1)).resolve_left (address?_eq_some_iff.1 leads1).1,
      (invariant.address?_left value1).symm.trans leads1, same1⟩,
    ⟨parts.link.range, value2, target2, (invariant.right.old source.held2
      (invariant.early_of_address2 leads2)).resolve_left (address?_eq_some_iff.1 leads2).1,
      (invariant.address?_right value2).symm.trans leads2, same2⟩⟩

/-- Where folding cannot harm, the counterparts of the pairs that are being joined are not
folded. -/
theorem Offers.spares (offers : Offers basis (pair :: path) here fold)
    (isPath : Path basis (pair :: path)) (invariant : Invariant basis path waiting here)
    (ready : Ready basis waiting here) (possible : Fold.Possible here.1.dest fold parts)
    (safe : basis.Safe) {top : ObjectPair} (member : top ∈ path)
    (present : here.1.dest.hasObject top.dest = true) :
    ¬ (top.dest = fold.head ∨ top.dest = fold.successor) := by
  obtain ⟨mapped1, mapped2, region⟩ := (invariant.opens top member).present present
  obtain ⟨child, next, mapped⟩ := offers.child
  obtain ⟨child1, child2⟩ := mapped (Graph.hasObject_of_object? possible.head)
  rintro (isHead | isSuccessor)
  · rw [isHead] at mapped1 region
    have same := (invariant.leftMap.unique mapped1 child1).resolve_right (by simp [region])
    exact next.new1 top (List.mem_cons_of_mem _ member) same
  · rw [isSuccessor] at mapped1 mapped2 region
    obtain ⟨back1, back2⟩ :=
      leads_of_possible invariant possible child1 child2 mapped1 mapped2 region
    obtain ⟨ring1, ring2⟩ := isPath.rings next (List.mem_cons_of_mem _ member)
      (fun same => isPath.ne_head member (Option.some.inj same).symm)
      (ready.unnamed1 mapped1 possible.heapSuccessor)
        (ready.unnamed2 mapped2 possible.heapSuccessor)
      back1 back2
    exact (safe offers.folds).elim ring1 ring2

/-! ### Several foldings -/

/-- A folding that is possible is done. -/
theorem onDest_perform (sound : here.1.dest.Sound)
    (absent : here.1.dest.hasObject ⟨here.2.next⟩ = false)
    (found : fold.parts? here.1.dest = some parts) : onDest fold.perform here =
      .ok (some ⟨here.2.next⟩)
        ({ here.1 with dest := Fold.folded here.1.dest fold parts ⟨here.2.next⟩ },
          ⟨here.2.next + 1⟩) := by
  rw [onDest, Run.within_apply,
    Fold.perform_apply ((Fold.possible_of_parts? found).performable sound) found absent]

/-- The foldings that were found below a pair of objects are done. -/
theorem doFolds_ends {folds : List Fold} (isPath : Path basis (pair :: path))
    (invariant : Invariant basis path waiting here) (ready : Ready basis waiting here)
    (offers : ∀ fold ∈ folds, Offers basis (pair :: path) here fold) :
    basis.Ends (doFolds folds) here fun
      | true, there => Invariant basis path waiting there ∧
          Onward basis [] [] (path ++ waiting) here there
      | false, _ => basis.Folds := by
  induction folds generalizing here with
  | nil => exact Run.ends_pure ⟨invariant, .refl ..⟩
  | cons fold rest ih =>
      have offer := offers fold List.mem_cons_self
      unfold doFolds
      cases found : fold.parts? here.1.dest with
      | none =>
          refine Run.ends_bind_of_ok
            (by rw [onDest, Run.within_apply, Fold.perform_of_none found]) ?_
          exact Run.ends_pure offer.folds
      | some parts =>
          have possible := Fold.possible_of_parts? found
          have folding : Folding basis path waiting here fold parts ⟨here.2.next⟩
              (Fold.folded here.1.dest fold parts ⟨here.2.next⟩) ⟨here.2.next + 1⟩ :=
            ⟨invariant, offer.folds, possible, Fold.folded_spec possible invariant.dest
                invariant.hasObject_of_next,
              Nat.le_refl _, Nat.lt_succ_self _, ready.outside,
              fun isImage => ready.unnamed1 isImage possible.heapHead,
              fun isImage => ready.unnamed2 isImage possible.heapHead⟩
          have onward : Onward basis [] [] (path ++ waiting) here _ :=
            folding.onward fun safe top member present => by
              rcases List.mem_append.1 member with member | member
              · exact offer.spares isPath invariant ready possible safe member present
              · exact folding.not_node (ready.outside top member)
          refine Run.ends_bind_of_ok
            (onDest_perform invariant.dest invariant.hasObject_of_next found) ?_
          refine Run.ends_bind_of_ok (Run.modify_apply _ _) ?_
          refine (ih folding.next (ready.onward onward) fun other member =>
            (offers other (List.mem_cons_of_mem _ member)).onward onward).mono ?_ fun _ _ bad => bad
          rintro (_ | _) there outcome
          · exact outcome
          · exact ⟨outcome.1, onward.trans invariant folding.next outcome.2⟩

end Join

end ShapeDomain
