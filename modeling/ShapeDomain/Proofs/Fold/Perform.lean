import ShapeDomain.Proofs.Fold.Numbers
import ShapeDomain.Proofs.Graph.Several

/-!
# What a folding does

In a graph whose tables fit together, a folding of two nodes that can be folded and removed always
goes through.  The segment takes the place of both nodes, has the fields of the successor, and is
where the addresses of the node lead to; the value that linked the nodes is no address any more, and
everything else stays.  In a sound graph neither of the nodes is NULL, so that both can be removed,
and no variable loses its name.
-/

namespace ShapeDomain

namespace Fold

variable {graph next : Graph} {fold : Fold} {parts : Parts} {id : ObjectId}

/-- Where a target leads after a folding. -/
def moveTarget (fold : Fold) (segment : ObjectId) (target : Target) : Target :=
  if target.object = fold.head then (redirect segment ⟨.zero, target⟩).target else target

/-- Two nodes of a graph were folded into a segment. -/
structure Folded (graph : Graph) (fold : Fold) (parts : Parts) (id : ObjectId) (next : Graph) :
    Prop where
  /-- The tables of the graph fit together. -/
  sound : next.Sound
  /-- The segment is there, and the nodes are not. -/
  objects : ∀ other, next.object? other =
    if other = id then some (segment parts)
    else if other = fold.head ∨ other = fold.successor then none
    else graph.object? other
  /-- The segment is part of the heap. -/
  heap : ∀ other, next.isHeap other =
    if other = id then true
    else if other = fold.head ∨ other = fold.successor then false
    else graph.isHeap other
  /-- The segment is valid if the nodes are. -/
  valid : ∀ other, next.isValid other =
    if other = id then graph.isValid fold.head
    else if other = fold.head ∨ other = fold.successor then false
    else graph.isValid other
  /-- The segment has the fields of the successor. -/
  held : ∀ other range, next.valueAt? other range =
    if other = id then graph.valueAt? fold.successor range
    else if other = fold.head ∨ other = fold.successor then none
    else graph.valueAt? other range
  /-- Numbers stay. -/
  numbers : ∀ value, next.number? value = graph.number? value
  /-- The link is no address any more, and what led to the node leads to the segment. -/
  targets : ∀ value, next.target? value =
    if value = parts.link.value then none
    else (graph.target? value).map (moveTarget fold id)
  /-- Values stay, and none is new. -/
  values : ∀ value, next.hasValue value = graph.hasValue value
  /-- Variables stay. -/
  stack : next.stack = graph.stack
  /-- Global variables stay. -/
  globals : next.globals = graph.globals

/-- What a folding does to a graph whose tables fit together, and that it does nothing else. -/
structure Exact (graph : Graph) (fold : Fold) (parts : Parts) (id : ObjectId) (next : Graph) :
    Prop where
  /-- The tables of the graph still fit together. -/
  fitting : next.Fitting
  /-- The segment is there as a part of the heap, valid if the nodes are, and the nodes are not. -/
  objects : ∀ other, next.objects.get? other =
    if other = id then some ⟨segment parts, graph.isValid fold.head, true⟩
    else if other = fold.head ∨ other = fold.successor then none
    else graph.objects.get? other
  /-- The segment has the fields of the successor. -/
  held : ∀ other range, next.valueAt? other range =
    if other = id then graph.valueAt? fold.successor range
    else if other = fold.head ∨ other = fold.successor then none
    else graph.valueAt? other range
  /-- No field holds the link any more. -/
  unheld : ∀ other range, next.valueAt? other range ≠ some parts.link.value
  /-- The link is no address any more, and what led to the node leads to the segment. -/
  targets : ∀ value, next.target? value =
    if value = parts.link.value then none
    else (graph.target? value).map (moveTarget fold id)
  /-- Numbers stay. -/
  numbers : ∀ value, next.number? value = graph.number? value
  /-- Values stay, and none is new. -/
  values : ∀ value, next.hasValue value = graph.hasValue value
  /-- What is known of differences stays. -/
  inequalities : next.inequalities = graph.inequalities
  /-- The machine stays. -/
  machine : next.machine = graph.machine
  /-- Variables stay, except for those that named one of the nodes. -/
  roots : ∀ {name other}, (name, other) ∈ next.roots ↔
    (name, other) ∈ graph.roots ∧ other ≠ fold.head ∧ other ≠ fold.successor

/-! ### The two nodes -/

/-- The fields that the segment gets. -/
def segmentFields (graph : Graph) (fold : Fold) (parts : Parts) (id : ObjectId) : List Field :=
  (((graph.fieldsOf fold.head).filter fun field =>
      field.range.offset != parts.link.range.offset) ++
    ((graph.fieldsOf fold.successor).filter fun field =>
      field.range.offset == parts.link.range.offset)).map fun field => { field with object := id }

namespace Possible

theorem head_ne_null (possible : Possible graph fold parts) (sound : graph.Sound) :
    fold.head ≠ .null := by
  intro same
  have heap := possible.heapHead
  rw [same, sound.isHeap_null] at heap
  simp at heap

theorem successor_ne_null (possible : Possible graph fold parts) (sound : graph.Sound) :
    fold.successor ≠ .null := by
  intro same
  have heap := possible.heapSuccessor
  rw [same, sound.isHeap_null] at heap
  simp at heap

theorem link_held (possible : Possible graph fold parts) :
    graph.valueAt? fold.head parts.link.range = some parts.link.value :=
  (Graph.mem_fieldsOf_iff.1 possible.link.member).2

/-- Only the link leads to the successor. -/
theorem eq_link (possible : Possible graph fold parts) {value : ValueId} {target : Target}
    (leads : graph.target? value = some target) (into : target.object = fold.successor) :
    value = parts.link.value := by
  obtain ⟨specifier, isLink⟩ := possible.link.target
  obtain ⟨only, isOnly⟩ := List.length_eq_one_iff.1 possible.link.pointer
  have among {other : ValueId} {place : Target} (leads : graph.target? other = some place)
      (into : place.object = fold.successor) : (⟨other, place⟩ : Pointer) = only := by
    have member : (⟨other, place⟩ : Pointer) ∈ graph.pointersInto fold.successor :=
      List.mem_filter.2 ⟨Graph.mem_pointers_iff.2 leads, by simpa using into⟩
    rw [isOnly, List.mem_singleton] at member
    exact member
  exact congrArg Pointer.value ((among leads into).trans (among isLink rfl).symm)

/-- The nodes have the same size. -/
theorem size_eq (possible : Possible graph fold parts) :
    parts.head.size = parts.successor.size := by
  have fits := possible.precedes
  simp only [Fold.precedes, Bool.and_eq_true, beq_iff_eq] at fits
  exact fits.1.1.2

/-- The node is a region. -/
theorem head_kind (possible : Possible graph fold parts) : parts.head.kind = .region := by
  have fits := possible.precedes
  simp only [Fold.precedes, Bool.and_eq_true, beq_iff_eq] at fits
  exact fits.1.1.1

/-- They are those of the successor. -/
theorem mem_segmentFields_iff (possible : Possible graph fold parts) {field : Field} :
    field ∈ segmentFields graph fold parts id ↔
      field.object = id ∧ graph.valueAt? fold.successor field.range = some field.value := by
  have next := possible.link.offset
  obtain ⟨object, range, value⟩ := field
  simp only [segmentFields, List.mem_map, List.mem_append, List.mem_filter, bne_iff_ne, ne_eq,
    beq_iff_eq, Graph.mem_fieldsOf_iff, Field.mk.injEq]
  constructor
  · rintro ⟨source, ⟨⟨isHead, held⟩, elsewhere⟩ | ⟨⟨isSuccessor, held⟩, atLink⟩, rfl, rfl, rfl⟩
    · rw [next] at elsewhere
      exact ⟨rfl, possible.valueAt?_eq elsewhere ▸ held⟩
    · exact ⟨rfl, held⟩
  · rintro ⟨rfl, held⟩
    by_cases atLink : range.offset = parts.link.range.offset
    · exact ⟨⟨fold.successor, range, value⟩, .inr ⟨⟨rfl, held⟩, atLink⟩, rfl, rfl, rfl⟩
    · refine ⟨⟨fold.head, range, value⟩, .inl ⟨⟨rfl, ?_⟩, atLink⟩, rfl, rfl, rfl⟩
      rw [next] at atLink
      rw [possible.valueAt?_eq atLink, held]

/-- Only the node holds the link, and only once. -/
theorem eq_holder (possible : Possible graph fold parts) {object : ObjectId} {range : BitRange}
    (held : graph.valueAt? object range = some parts.link.value) : object = fold.head := by
  obtain ⟨only, isOnly⟩ := List.length_eq_one_iff.1 possible.link.holder
  have among {object : ObjectId} {range : BitRange}
      (held : graph.valueAt? object range = some parts.link.value) :
      (⟨object, range, parts.link.value⟩ : Field) = only := by
    have member : (⟨object, range, parts.link.value⟩ : Field) ∈
        graph.fields.filter fun field => field.value == parts.link.value :=
      List.mem_filter.2 ⟨Graph.mem_fields_iff.2 held, by simp⟩
    rw [isOnly, List.mem_singleton] at member
    exact member
  exact congrArg Field.object ((among held).trans (among possible.link_held).symm)

end Possible

/-- A folding that is possible in a graph whose tables fit together, of nodes that can be
removed. -/
structure Performable (graph : Graph) (fold : Fold) (parts : Parts) : Prop extends
    Possible graph fold parts where
  /-- The tables fit together. -/
  fitting : graph.Fitting
  /-- The node is not NULL. -/
  properHead : fold.head ≠ .null
  /-- Neither is its successor. -/
  properSuccessor : fold.successor ≠ .null

theorem Possible.performable (possible : Possible graph fold parts) (sound : graph.Sound) :
    Performable graph fold parts :=
  ⟨possible, sound.fitting, possible.head_ne_null sound, possible.successor_ne_null sound⟩

namespace Performable

theorem link_ne_zero (ready : Performable graph fold parts) :
    parts.link.value.isZero = false := by
  rw [Bool.eq_false_iff, Ne, ValueId.isZero, beq_iff_eq]
  intro same
  obtain ⟨_, leads⟩ := ready.link.target
  rw [same, ready.fitting.zero, Option.some.injEq] at leads
  exact ready.properSuccessor (congrArg Target.object leads).symm

theorem head_isNull (ready : Performable graph fold parts) : fold.head.isNull = false := by
  rw [Bool.eq_false_iff, Ne, ObjectId.isNull, beq_iff_eq]
  exact ready.properHead

theorem successor_isNull (ready : Performable graph fold parts) :
    fold.successor.isNull = false := by
  rw [Bool.eq_false_iff, Ne, ObjectId.isNull, beq_iff_eq]
  exact ready.properSuccessor

/-- The fields of the segment are separate from each other. -/
theorem separate_segmentFields (ready : Performable graph fold parts) :
    (segmentFields graph fold parts id).Pairwise fun a b =>
      a.object = b.object → a.range.Separate b.range := by
  have offsets : (segmentFields graph fold parts id).Pairwise fun a b =>
      a.range.offset ≠ b.range.offset := by
    unfold segmentFields
    rw [List.map_append, List.pairwise_append, List.pairwise_map, List.pairwise_map]
    refine ⟨((Graph.pairwise_fieldsOf _).filter _).imp Nat.ne_of_lt,
      ((Graph.pairwise_fieldsOf _).filter _).imp Nat.ne_of_lt, ?_⟩
    intro a inHead b inSuccessor same
    obtain ⟨a', memberA, rfl⟩ := List.mem_map.1 inHead
    obtain ⟨b', memberB, rfl⟩ := List.mem_map.1 inSuccessor
    have elsewhere := (List.mem_filter.1 memberA).2
    have atLink := (List.mem_filter.1 memberB).2
    simp only [bne_iff_ne, ne_eq] at elsewhere
    simp only [beq_iff_eq] at atLink
    exact elsewhere (same.trans atLink)
  refine offsets.imp_of_mem fun {a b} memberA memberB different _ => ⟨different, ?_⟩
  have heldA := (ready.mem_segmentFields_iff.1 memberA).2
  have heldB := (ready.mem_segmentFields_iff.1 memberB).2
  rcases Nat.lt_or_gt_of_ne different with less | greater
  · exact .inl (ready.fitting.follow heldA heldB less)
  · exact .inr (ready.fitting.follow heldB heldA greater)

end Performable

/-! ### The steps of a folding -/

/-- The graph in which the nodes are gone and the segment is there, still without fields. -/
def marked (graph : Graph) (fold : Fold) (parts : Parts) (id : ObjectId) : Graph :=
  (cleared graph fold parts id).putPlacement id
    ⟨segment parts, graph.isValid fold.head, true⟩

theorem hasValue_marked (value : ValueId) :
    (marked graph fold parts id).hasValue value = graph.hasValue value := by
  show ((((graph.removePointer parts.link.value).removeObject fold.head).removeObject
    fold.successor).hasValue value) = _
  rw [Graph.hasValue_removeObject, Graph.hasValue_removeObject, Graph.hasValue_removePointer]

section Marked

variable (ready : Performable graph fold parts) (absent : graph.hasObject id = false)

include ready

/-- What is left of the objects when the nodes are removed. -/
theorem get?_removed (other : ObjectId) :
    (((graph.removePointer parts.link.value).removeObject fold.head).removeObject
      fold.successor).objects.get? other =
      if other = fold.head ∨ other = fold.successor then none else graph.objects.get? other := by
  by_cases isSuccessor : other = fold.successor
  · subst isSuccessor
    rw [if_pos (.inr rfl)]
    simp [Graph.removeObject, ready.successor_isNull, Table.get?_erase_self]
  · rw [Graph.get?_removeObject_of_ne isSuccessor]
    by_cases isHead : other = fold.head
    · subst isHead
      rw [if_pos (.inl rfl)]
      simp [Graph.removeObject, ready.head_isNull, Table.get?_erase_self]
    · rw [Graph.get?_removeObject_of_ne isHead, Graph.objects_removePointer,
        if_neg (not_or.2 ⟨isHead, isSuccessor⟩)]

theorem target?_marked (value : ValueId) :
    (marked graph fold parts id).target? value =
      if value = parts.link.value then none
      else (graph.target? value).filter fun target => target.object != fold.head := by
  show (((graph.removePointer parts.link.value).removeObject fold.head).removeObject
    fold.successor).target? value = _
  rw [Graph.target?_removeObject _ ready.successor_isNull,
    Graph.target?_removeObject _ ready.head_isNull, Graph.target?_removePointer]
  simp only [ready.link_ne_zero, and_true]
  split
  case isTrue => rfl
  case isFalse different =>
    cases leads : graph.target? value with
    | none => rfl
    | some target =>
        have elsewhere : (target.object != fold.successor) = true := by
          rw [bne_iff_ne]
          exact fun into => different (ready.eq_link leads into)
        cases kept : target.object != fold.head <;> simp [Option.filter, kept, elsewhere]

theorem valueAt?_marked (other : ObjectId) (range : BitRange) :
    (marked graph fold parts id).valueAt? other range =
      if other = fold.head ∨ other = fold.successor then none
      else graph.valueAt? other range := by
  split
  case isTrue folded =>
    have gone : (((graph.removePointer parts.link.value).removeObject fold.head).removeObject
        fold.successor).Gone other := by
      rcases folded with rfl | rfl
      · exact (Graph.gone_removeObject ready.properHead).removeObject fold.successor
      · exact Graph.gone_removeObject ready.properSuccessor
    exact gone.valueAt? range
  case isFalse other' =>
    obtain ⟨notHead, notSuccessor⟩ := not_or.1 other'
    show (cleared graph fold parts id).valueAt? other range = _
    exact valueAt?_cleared_of_ne notHead notSuccessor range

/-- The layouts that are left are those of other objects. -/
theorem of_isSome_layouts_marked {other : ObjectId}
    (present : ((marked graph fold parts id).layouts.get? other).isSome = true) :
    (graph.layouts.get? other).isSome = true ∧ other ≠ fold.head ∧ other ≠ fold.successor := by
  change ((((graph.removePointer parts.link.value).removeObject fold.head).removeObject
    fold.successor).layouts.get? other).isSome = true at present
  rw [Graph.get?_layouts_removeObject ready.successor_isNull,
    Graph.get?_layouts_removeObject ready.head_isNull, Graph.layouts_removePointer] at present
  by_cases isSuccessor : other = fold.successor
  · simp [isSuccessor] at present
  · by_cases isHead : other = fold.head
    · simp [isHead] at present
    · rw [if_neg isSuccessor, if_neg isHead] at present
      exact ⟨present, isHead, isSuccessor⟩

theorem mem_roots_marked {name : String} {other : ObjectId} :
    (name, other) ∈ (marked graph fold parts id).roots ↔
      (name, other) ∈ graph.roots ∧ other ≠ fold.head ∧ other ≠ fold.successor := by
  have roots : (graph.removePointer parts.link.value).roots = graph.roots := by
    have names : (graph.removePointer parts.link.value).stack = graph.stack ∧
        (graph.removePointer parts.link.value).globals = graph.globals :=
      Graph.names_removePointer parts.link.value
    simp only [Graph.roots, Graph.frames, names]
  show (name, other) ∈ (((graph.removePointer parts.link.value).removeObject fold.head).removeObject
    fold.successor).roots ↔ _
  rw [Graph.mem_roots_removeObject ready.successor_isNull,
    Graph.mem_roots_removeObject ready.head_isNull, roots, and_assoc]

include absent

theorem absent_removed :
    (((graph.removePointer parts.link.value).removeObject fold.head).removeObject
      fold.successor).hasObject id = false := by
  rw [Graph.hasObject, Table.contains, get?_removed ready]
  split
  · rfl
  · exact absent

theorem get?_marked (other : ObjectId) :
    (marked graph fold parts id).objects.get? other =
      if other = id then some ⟨segment parts, graph.isValid fold.head, true⟩
      else if other = fold.head ∨ other = fold.successor then none
      else graph.objects.get? other := by
  rw [marked, Graph.putPlacement, Table.get?_insert]
  split
  case isTrue => rfl
  case isFalse different =>
    rw [cleared, Graph.addHeapObject_of_absent (absent_removed ready absent),
      Graph.putPlacement, Table.get?_insert_of_ne _ different, get?_removed ready]

/-- Nothing is in the way of the fields of the segment. -/
theorem allClear_marked :
    (marked graph fold parts id).AllClear (segmentFields graph fold parts id) where
  fits field member := by
    obtain ⟨rfl, held⟩ := ready.mem_segmentFields_iff.1 member
    obtain ⟨found, there, fit⟩ := ready.fitting.fits held
    rw [ready.successor, Option.some.injEq] at there
    refine ⟨segment parts, ?_, ?_⟩
    · rw [Graph.object?, get?_marked ready absent, if_pos rfl]
      rfl
    · show field.range.fits parts.head.size = true
      rw [ready.size_eq, there]
      exact fit
  clear field member other value held := by
    obtain ⟨rfl, -⟩ := ready.mem_segmentFields_iff.1 member
    rw [valueAt?_marked ready] at held
    split at held
    · simp at held
    · rw [ready.fitting.valueAt?_of_absent absent] at held
      simp at held
  separate := ready.separate_segmentFields

/-- The pointers that are redirected to the segment. -/
theorem allFree_marked :
    ((marked graph fold parts id).putFields (segmentFields graph fold parts id)).AllFree
      ((graph.pointersInto fold.head).map (redirect id)) where
  present pointer member := by
    obtain ⟨source, -, rfl⟩ := List.mem_map.1 member
    rw [Graph.hasObject, (Graph.frame_putFields _).1, Table.contains]
    show ((marked graph fold parts id).objects.get? id).isSome = true
    rw [get?_marked ready absent, if_pos rfl]
    rfl
  free pointer member := by
    obtain ⟨source, inside, rfl⟩ := List.mem_map.1 member
    obtain ⟨listed, into⟩ := List.mem_filter.1 inside
    have leads := Graph.mem_pointers_iff.1 listed
    rw [Graph.target?_putFields]
    show (marked graph fold parts id).target? source.value = none
    rw [target?_marked ready, leads]
    split
    · rfl
    · rw [beq_iff_eq] at into
      simp [Option.filter, into]
  distinct := by
    rw [List.pairwise_map]
    exact (Graph.pairwise_pointers graph).filter _

end Marked

/-- The graph after a folding. -/
def folded (graph : Graph) (fold : Fold) (parts : Parts) (id : ObjectId) : Graph :=
  ((marked graph fold parts id).putFields (segmentFields graph fold parts id)).putPointers
    ((graph.pointersInto fold.head).map (redirect id))

/-- Nothing happens if the nodes cannot be folded. -/
theorem perform_of_none {supply : Supply} (refused : fold.parts? graph = none) :
    fold.perform (graph, supply) = .ok none (graph, supply) := by
  unfold perform
  rw [Run.bind_apply_ok (Run.ask_apply _ _)]
  simp only [refused]
  rfl

/-- A folding of two nodes that can be folded and removed goes through. -/
theorem perform_apply {supply : Supply} (ready : Performable graph fold parts)
    (found : fold.parts? graph = some parts) (absent : graph.hasObject ⟨supply.next⟩ = false) :
    fold.perform (graph, supply) =
      .ok (some ⟨supply.next⟩) (folded graph fold parts ⟨supply.next⟩, ⟨supply.next + 1⟩) := by
  have there : (cleared graph fold parts ⟨supply.next⟩).object? ⟨supply.next⟩ =
      some (segment parts) := by
    rw [cleared, Graph.object?_addHeapObject, if_pos rfl]
  have heap : (cleared graph fold parts ⟨supply.next⟩).isHeap ⟨supply.next⟩ = true := by
    rw [cleared, Graph.isHeap_addHeapObject]
    simp
  have validated : (cleared graph fold parts ⟨supply.next⟩).setValid ⟨supply.next⟩
      (graph.isValid fold.head) = .ok (marked graph fold parts ⟨supply.next⟩) := by
    rw [Graph.setValid_eq_ok there, heap]
    rfl
  have clear := allClear_marked ready absent
  have free := allFree_marked ready absent
  unfold perform
  rw [Run.bind_apply_ok (Run.ask_apply _ _)]
  simp only [found]
  rw [Run.bind_apply_ok (Run.draw_objectId_apply _), Run.bind_apply_ok (Run.state_apply _),
    Run.bind_apply_ok (Run.modify_apply _ _),
    Run.bind_apply_ok (Run.attempt_apply_ok validated)]
  refine (Run.bind_apply_ok (Graph.forM_addField _ clear)).trans ?_
  refine (Run.bind_apply_ok (Graph.forM_addPointer _ free)).trans ?_
  rfl

/-! ### What is seen of the graph after a folding -/

theorem mem_redirected_iff {value : ValueId} {target : Target} :
    (⟨value, target⟩ : Pointer) ∈ (graph.pointersInto fold.head).map (redirect id) ↔
      ∃ place, graph.target? value = some place ∧ place.object = fold.head ∧
        target = moveTarget fold id place := by
  rw [List.mem_map]
  constructor
  · rintro ⟨⟨other, place⟩, inside, same⟩
    obtain ⟨listed, into⟩ := List.mem_filter.1 inside
    rw [beq_iff_eq] at into
    obtain ⟨rfl, rfl⟩ := Pointer.mk.inj same
    exact ⟨place, Graph.mem_pointers_iff.1 listed, into, by rw [moveTarget, if_pos into]; rfl⟩
  · rintro ⟨place, leads, into, rfl⟩
    refine ⟨⟨value, place⟩, List.mem_filter.2 ⟨Graph.mem_pointers_iff.2 leads, ?_⟩, ?_⟩
    · simpa using into
    · rw [moveTarget, if_pos into]
      rfl

theorem inequalities_folded (graph : Graph) (fold : Fold) (parts : Parts) (id : ObjectId) :
    (folded graph fold parts id).inequalities = graph.inequalities := by
  have removed (graph : Graph) (object : ObjectId) :
      (graph.removeObject object).inequalities = graph.inequalities := by
    unfold Graph.removeObject
    split <;> rfl
  have unlinked : (graph.removePointer parts.link.value).inequalities = graph.inequalities := by
    unfold Graph.removePointer
    split <;> rfl
  rw [folded, Graph.inequalities_putPointers, Graph.inequalities_putFields]
  exact (removed _ fold.successor).trans ((removed _ fold.head).trans unlinked)

theorem machine_folded (graph : Graph) (fold : Fold) (parts : Parts) (id : ObjectId) :
    (folded graph fold parts id).machine = graph.machine := by
  have removed (graph : Graph) (object : ObjectId) :
      (graph.removeObject object).machine = graph.machine := by
    unfold Graph.removeObject
    split <;> rfl
  have unlinked : (graph.removePointer parts.link.value).machine = graph.machine := by
    unfold Graph.removePointer
    split <;> rfl
  rw [folded, Graph.machine_putPointers, Graph.machine_putFields]
  exact (removed _ fold.successor).trans ((removed _ fold.head).trans unlinked)

section Folded

variable (ready : Performable graph fold parts) (absent : graph.hasObject id = false)

include ready

theorem hasValue_folded (value : ValueId) :
    (folded graph fold parts id).hasValue value = graph.hasValue value := by
  have filled (value : ValueId) : ((marked graph fold parts id).putFields
      (segmentFields graph fold parts id)).hasValue value =
      (marked graph fold parts id).hasValue value :=
    Graph.hasValue_putFields (fun field member => (hasValue_marked field.value).trans
      (ready.fitting.values (ready.mem_segmentFields_iff.1 member).2)) value
  refine (Graph.hasValue_putPointers (fun pointer member => ?_) value).trans
    ((filled value).trans (hasValue_marked value))
  obtain ⟨place, leads, -⟩ := mem_redirected_iff.1 member
  exact ((filled _).trans (hasValue_marked _)).trans (Graph.hasValue_of_target? leads)

theorem mem_roots_folded {name : String} {other : ObjectId} :
    (name, other) ∈ (folded graph fold parts id).roots ↔
      (name, other) ∈ graph.roots ∧ other ≠ fold.head ∧ other ≠ fold.successor := by
  have same : (folded graph fold parts id).roots = (marked graph fold parts id).roots := by
    rw [Graph.roots, Graph.frames, folded, (Graph.frame_putPointers _).2.2.1,
      (Graph.frame_putPointers _).2.2.2, (Graph.frame_putFields _).2.1,
      (Graph.frame_putFields _).2.2]
    rfl
  rw [same, mem_roots_marked ready]

include absent

theorem get?_folded (other : ObjectId) :
    (folded graph fold parts id).objects.get? other =
      if other = id then some ⟨segment parts, graph.isValid fold.head, true⟩
      else if other = fold.head ∨ other = fold.successor then none
      else graph.objects.get? other := by
  rw [folded, (Graph.frame_putPointers _).1, (Graph.frame_putFields _).1]
  exact get?_marked ready absent other

theorem valueAt?_folded (other : ObjectId) (range : BitRange) :
    (folded graph fold parts id).valueAt? other range =
      if other = id then graph.valueAt? fold.successor range
      else if other = fold.head ∨ other = fold.successor then none
      else graph.valueAt? other range := by
  refine Option.ext fun value => ?_
  have member : (⟨other, range, value⟩ : Field) ∈ segmentFields graph fold parts id ↔ _ :=
    ready.mem_segmentFields_iff
  have layout : (folded graph fold parts id).layout other =
      ((marked graph fold parts id).putFields
        (segmentFields graph fold parts id)).layout other := by
    rw [folded, Graph.layout, (Graph.frame_putPointers _).2.1, Graph.layout]
  rw [Graph.valueAt?_congr layout, Graph.valueAt?_putFields (allClear_marked ready absent), member,
    valueAt?_marked ready]
  by_cases isId : other = id
  · subst isId
    simp [ready.fitting.valueAt?_of_absent absent]
  · simp [isId]

theorem target?_folded (value : ValueId) :
    (folded graph fold parts id).target? value =
      if value = parts.link.value then none
      else (graph.target? value).map (moveTarget fold id) := by
  refine Option.ext fun target => ?_
  rw [folded, Graph.target?_putPointers (allFree_marked ready absent), Graph.target?_putFields,
    target?_marked ready, mem_redirected_iff]
  by_cases isLink : value = parts.link.value
  · obtain ⟨specifier, leads⟩ := ready.link.target
    rw [if_pos isLink, if_pos isLink, isLink, leads]
    simp only [reduceCtorEq, or_false, iff_false, Option.some.injEq, not_exists, not_and]
    rintro place rfl into
    exact absurd into.symm ready.distinct
  · rw [if_neg isLink, if_neg isLink]
    cases leads : graph.target? value with
    | none => simp
    | some place =>
        by_cases into : place.object = fold.head
        · simp [Option.filter, into, moveTarget, eq_comm]
        · simp [Option.filter, into, moveTarget]

theorem hasObject_folded_iff (other : ObjectId) :
    (folded graph fold parts id).hasObject other = true ↔
      other = id ∨ (graph.hasObject other = true ∧ other ≠ fold.head ∧ other ≠ fold.successor) := by
  rw [Graph.hasObject, Table.contains, get?_folded ready absent, Graph.hasObject, Table.contains]
  by_cases isId : other = id
  · simp [isId]
  · by_cases removed : other = fold.head ∨ other = fold.successor
    · rw [if_neg isId, if_pos removed]
      rcases removed with rfl | rfl <;> simp [isId]
    · rw [if_neg isId, if_neg removed]
      rw [not_or] at removed
      simp [isId, removed]

/-- A field of the graph after a folding was a field before, of the successor if it is one of the
segment now. -/
theorem of_valueAt?_folded {other : ObjectId} {range : BitRange} {value : ValueId}
    (held : (folded graph fold parts id).valueAt? other range = some value) :
    (other = id ∧ graph.valueAt? fold.successor range = some value) ∨
      (other ≠ id ∧ other ≠ fold.head ∧ other ≠ fold.successor ∧
        graph.valueAt? other range = some value) := by
  rw [valueAt?_folded ready absent] at held
  split at held
  case isTrue same => exact .inl ⟨same, held⟩
  case isFalse different =>
    split at held
    · simp at held
    · rename_i elsewhere
      rw [not_or] at elsewhere
      exact .inr ⟨different, elsewhere.1, elsewhere.2, held⟩

/-- After a folding the tables of the graph still fit together. -/
theorem fitting_folded : (folded graph fold parts id).Fitting where
  zero := by
    have notLink : ValueId.zero ≠ parts.link.value := fun same => by
      have nonzero := ready.link_ne_zero
      rw [← same] at nonzero
      simp [ValueId.isZero] at nonzero
    have notHead : Target.null.object ≠ fold.head := ready.properHead.symm
    rw [target?_folded ready absent, if_neg notLink, ready.fitting.zero,
      Option.map_some, moveTarget, if_neg notHead]
  layouts other present := by
    rw [hasObject_folded_iff ready absent]
    rw [folded, (Graph.frame_putPointers _).2.1] at present
    rcases Graph.of_isSome_layouts_putFields present with ⟨field, member, rfl⟩ | before
    · exact .inl (ready.mem_segmentFields_iff.1 member).1
    · obtain ⟨kept, notHead, notSuccessor⟩ := of_isSome_layouts_marked ready before
      exact .inr ⟨ready.fitting.layouts other kept, notHead, notSuccessor⟩
  fits {other range value} held := by
    rcases of_valueAt?_folded ready absent held with ⟨rfl, before⟩ |
      ⟨notId, notHead, notSuccessor, before⟩
    · obtain ⟨found, there, fit⟩ := ready.fitting.fits before
      refine ⟨segment parts, ?_, ?_⟩
      · rw [Graph.object?, get?_folded ready absent, if_pos rfl]
        rfl
      · rw [ready.successor, Option.some.injEq] at there
        show range.fits parts.head.size = true
        rw [ready.size_eq, there]
        exact fit
    · obtain ⟨found, there, fit⟩ := ready.fitting.fits before
      refine ⟨found, ?_, fit⟩
      rw [Graph.object?, get?_folded ready absent, if_neg notId,
        if_neg (not_or.2 ⟨notHead, notSuccessor⟩)]
      exact there
  follow first second less := by
    rcases of_valueAt?_folded ready absent first with ⟨same, before⟩ | ⟨notId, -, -, before⟩ <;>
      rcases of_valueAt?_folded ready absent second with ⟨same', before'⟩ | ⟨notId', -, -, before'⟩
    · exact ready.fitting.follow before before' less
    · exact absurd same notId'
    · exact absurd same' notId
    · exact ready.fitting.follow before before' less
  values held := by
    rw [hasValue_folded ready]
    rcases of_valueAt?_folded ready absent held with ⟨-, before⟩ | ⟨-, -, -, before⟩ <;>
      exact ready.fitting.values before
  targets {value target} leads := by
    rw [target?_folded ready absent] at leads
    split at leads
    case isTrue => simp at leads
    case isFalse notLink =>
      obtain ⟨place, before, rfl⟩ := Option.map_eq_some_iff.1 leads
      rw [hasObject_folded_iff ready absent, moveTarget]
      split
      case isTrue => exact .inl rfl
      case isFalse elsewhere =>
        exact .inr ⟨ready.fitting.targets before, elsewhere,
          fun into => notLink (ready.eq_link before into)⟩
  roots := by
    rintro ⟨name, other⟩ member
    obtain ⟨before, notHead, notSuccessor⟩ := (mem_roots_folded ready).1 member
    exact (hasObject_folded_iff ready absent other).2
      (.inr ⟨ready.fitting.roots _ before, notHead, notSuccessor⟩)

/-- What a folding does to a graph whose tables fit together. -/
theorem folded_exact : Exact graph fold parts id (folded graph fold parts id) where
  fitting := fitting_folded ready absent
  objects := get?_folded ready absent
  held := valueAt?_folded ready absent
  unheld other range held := by
    rcases of_valueAt?_folded ready absent held with ⟨-, before⟩ | ⟨-, notHead, -, before⟩
    · exact ready.distinct (ready.eq_holder before).symm
    · exact notHead (ready.eq_holder before)
  targets := target?_folded ready absent
  numbers value := by
    rw [folded, Graph.number?_putPointers, Graph.number?_putFields]
    exact number?_cleared id value
  values := hasValue_folded ready
  inequalities := inequalities_folded graph fold parts id
  machine := machine_folded graph fold parts id
  roots := mem_roots_folded ready

end Folded

/-! ### Sound graphs -/

/-- Folding changes no variable, as these do not name nodes of the heap. -/
theorem names_marked (possible : Possible graph fold parts) (sound : graph.Sound) :
    (marked graph fold parts id).stack = graph.stack ∧
      (marked graph fold parts id).globals = graph.globals := by
  have soundLink := sound.removePointer parts.link.value
  have sameNames : (graph.removePointer parts.link.value).stack = graph.stack ∧
      (graph.removePointer parts.link.value).globals = graph.globals :=
    Graph.names_removePointer parts.link.value
  have unnamed {node : ObjectId} (heap : graph.isHeap node = true) {other : Graph}
      (sound : other.Sound) (same : other.isHeap node = graph.isHeap node) :
      ∀ entry ∈ other.roots, entry.2 ≠ node := by
    rintro entry member rfl
    have outside := (sound.nameables entry member).outside
    rw [same, heap] at outside
    simp at outside
  have heapLink (node : ObjectId) :
      (graph.removePointer parts.link.value).isHeap node = graph.isHeap node := by
    rw [Graph.isHeap, Graph.objects_removePointer, Graph.isHeap]
  have heapHead : ((graph.removePointer parts.link.value).removeObject fold.head).isHeap
      fold.successor = graph.isHeap fold.successor := by
    rw [Graph.isHeap_removeObject_of_ne possible.distinct.symm, heapLink]
  have first := Graph.names_removeObject
    (unnamed possible.heapHead soundLink (heapLink fold.head))
  have second := Graph.names_removeObject
    (unnamed possible.heapSuccessor (soundLink.removeObject fold.head) heapHead)
  exact ⟨second.1.trans (first.1.trans sameNames.1), second.2.trans (first.2.trans sameNames.2)⟩

theorem sound_folded (possible : Possible graph fold parts) (sound : graph.Sound)
    (absent : graph.hasObject id = false) : (folded graph fold parts id).Sound := by
  have ready := possible.performable sound
  have fitting := fitting_folded ready absent
  have isNew {other : ObjectId} (present : graph.hasObject other = true) : other ≠ id := by
    rintro rfl
    rw [absent] at present
    simp at present
  have exact : (folded graph fold parts id).ExactFields := fun field member => by
    have held := Graph.mem_fields_iff.1 member
    refine ⟨?_, fitting.inReach field member⟩
    rcases of_valueAt?_folded ready absent held with ⟨-, before⟩ | ⟨-, -, -, before⟩ <;>
      exact sound.tiled.positive before
  refine ⟨fitting.zero, ?_, fitting.checked.tiled exact, fitting.layouts, fitting.values,
    fitting.targets, ?_⟩
  · rw [get?_folded ready absent, if_neg (isNew sound.hasObject_null),
      if_neg (not_or.2 ⟨ready.properHead.symm, ready.properSuccessor.symm⟩)]
    exact sound.null
  · rintro ⟨name, other⟩ member
    obtain ⟨before, notHead, notSuccessor⟩ := (mem_roots_folded ready).1 member
    have nameable := sound.nameables _ before
    refine ⟨fitting.roots _ member, nameable.proper, ?_⟩
    rw [Graph.isHeap, get?_folded ready absent, if_neg (isNew nameable.present),
      if_neg (not_or.2 ⟨notHead, notSuccessor⟩)]
    exact nameable.outside

/-- What a folding does to a sound graph. -/
theorem folded_spec (possible : Possible graph fold parts) (sound : graph.Sound)
    (absent : graph.hasObject id = false) :
    Folded graph fold parts id (folded graph fold parts id) := by
  have exact := folded_exact (possible.performable sound) absent
  refine ⟨sound_folded possible sound absent, fun other => ?_, fun other => ?_, fun other => ?_,
    exact.held, exact.numbers, exact.targets, exact.values, ?_, ?_⟩
  · rw [Graph.object?, exact.objects]
    split
    · rfl
    · split <;> rfl
  · rw [Graph.isHeap, exact.objects]
    split
    · rfl
    · split <;> rfl
  · rw [Graph.isValid, exact.objects]
    split
    · rfl
    · split <;> rfl
  · exact (Graph.frame_putPointers _).2.2.1.trans
      ((Graph.frame_putFields _).2.1.trans (names_marked possible sound).1)
  · exact (Graph.frame_putPointers _).2.2.2.trans
      ((Graph.frame_putFields _).2.2.trans (names_marked possible sound).2)

end Fold

end ShapeDomain
