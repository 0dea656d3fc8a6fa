import ShapeDomain.Proofs.State.Contents

/-!
# What memory operations come to

Where a memory operation is allowed and nothing is in its way, the graph after it can be written
down: an allocated region has one address, a read finds what is held, and a write puts its field.
-/

namespace ShapeDomain

namespace Graph

variable {graph : Graph} {object : ObjectId} {range : BitRange} {value : ValueId} {start : Nat}

/-- The graph after a heap region was allocated, whose name and whose address were drawn one after
the other. -/
def allocating (graph : Graph) (start size : Nat) (label : String) : Graph :=
  ((graph.putPlacement ⟨start⟩ ⟨.region size label, true, true⟩).addValue ⟨start + 1⟩).putPointer
    ⟨⟨start + 1⟩, ⟨⟨start⟩, 0, .region⟩⟩

/-- The graph after a value was written to a free place. -/
def writing (graph : Graph) (object : ObjectId) (range : BitRange) (value : ValueId) : Graph :=
  (graph.addValue value).putField ⟨object, range, value⟩

theorem get?_allocating (size : Nat) (label : String) (id : ObjectId) :
    (graph.allocating start size label).objects.get? id =
      if id = ⟨start⟩ then some ⟨.region size label, true, true⟩ else graph.objects.get? id := by
  rw [← Table.get?_insert]
  rfl

theorem knowledge_allocating (size : Nat) (label : String) (value : ValueId) :
    (graph.allocating start size label).knowledge value =
      if value = ⟨start + 1⟩ then
        { graph.knowledge ⟨start + 1⟩ with target := some ⟨⟨start⟩, 0, .region⟩ }
      else graph.knowledge value := by
  rw [allocating, knowledge_putPointer]
  simp only [knowledge_addValue]
  rfl

@[simp] theorem objects_writing : (graph.writing object range value).objects = graph.objects := rfl

@[simp] theorem knowledge_writing (other : ValueId) :
    (graph.writing object range value).knowledge other = graph.knowledge other := by
  show (((graph.addValue value).addValue value).knowledge other) = _
  rw [knowledge_addValue, knowledge_addValue]

theorem layout_writing (id : ObjectId) :
    (graph.writing object range value).layout id =
      if id = object then (graph.layout object).insert range.offset ⟨range.size, value⟩
      else graph.layout id := layout_putField ..

theorem layout_eq_empty (nothing : ∀ range value, graph.valueAt? object range ≠ some value) :
    graph.layout object = ∅ := by
  refine Table.ext_get? fun offset => Option.eq_none_iff_forall_ne_some.2 fun content held => ?_
  have isHeld : graph.valueAt? object ⟨offset, content.size⟩ = some content.value :=
    valueAt?_eq_some_iff.2 held
  exact nothing _ _ isHeld

/-- In a region that holds nothing, every range is free. -/
theorem vacant_of_bare {size : Nat} {label : String} {valid heap : Bool}
    (placed : graph.objects.get? object = some ⟨.region size label, valid, heap⟩)
    (bare : graph.layout object = ∅) (bits : 0 < range.size) (fit : range.fits size = true) :
    graph.Vacant object range := by
  refine ⟨bits, ⟨.region size label, ?_, fit⟩, fun held => ?_⟩
  · rw [object?, placed]
    rfl
  · rw [valueAt?_eq_some_iff, bare] at held
    simp at held

/-- In a plain graph, what was not drawn yet holds nothing. -/
theorem Plain.layout_of_next (plain : graph.Plain start) : graph.layout ⟨start⟩ = ∅ := by
  refine layout_eq_empty fun range value held => ?_
  obtain ⟨object, found, -⟩ := plain.sound.tiled.fits held
  exact absurd (hasObject_of_object? found) (by simp [plain.absent])

section Only

variable {old : ValueId}
variable (only : graph.layout object = (∅ : Layout).insert range.offset ⟨range.size, old⟩)

include only

theorem valueAt?_of_only {other : BitRange} {held : ValueId} :
    graph.valueAt? object other = some held ↔ other = range ∧ held = old := by
  obtain ⟨offset, size⟩ := range
  obtain ⟨offset', size'⟩ := other
  rw [valueAt?_eq_some_iff, only, Table.get?_insert]
  by_cases same : offset' = offset
  · simp [same, eq_comm]
  · simp [same]

/-- When the only field is removed, nothing is left. -/
theorem layout_removeField_of_only (id : ObjectId) :
    (graph.removeField ⟨object, range, old⟩).layout id =
      if id = object then ∅ else graph.layout id := by
  split
  case isTrue same =>
    subst same
    refine layout_eq_empty fun other held isHeld => ?_
    rw [valueAt?_removeField] at isHeld
    split at isHeld
    case isTrue => simp at isHeld
    case isFalse kept =>
      obtain ⟨rfl, rfl⟩ := (valueAt?_of_only only).1 isHeld
      exact kept ⟨rfl, rfl, hasField_iff.2 isHeld⟩
  case isFalse distinct => exact layout_removeField_of_ne distinct

end Only

/-- The graph after the only field of an object was replaced. -/
def replacing (graph : Graph) (object : ObjectId) (range : BitRange)
    (old value : ValueId) : Graph :=
  (graph.removeField ⟨object, range, old⟩).writing object range value

theorem layout_replacing {old : ValueId}
    (only : graph.layout object = (∅ : Layout).insert range.offset ⟨range.size, old⟩)
    (id : ObjectId) :
    (graph.replacing object range old value).layout id =
      if id = object then (∅ : Layout).insert range.offset ⟨range.size, value⟩
      else graph.layout id := by
  rw [replacing, layout_writing, layout_removeField_of_only only, layout_removeField_of_only only,
    if_pos rfl]
  split <;> rfl

@[simp] theorem objects_replacing (old : ValueId) :
    (graph.replacing object range old value).objects = graph.objects := objects_removeField _

@[simp] theorem knowledge_replacing (old other : ValueId) :
    (graph.replacing object range old value).knowledge other = graph.knowledge other := by
  rw [replacing, knowledge_writing, knowledge, values_removeField, knowledge]

theorem names_replacing (old : ValueId) :
    (graph.replacing object range old value).stack = graph.stack ∧
      (graph.replacing object range old value).globals = graph.globals := names_removeField _

end Graph

namespace State

variable {here : State × Supply} {object : ObjectId} {range : BitRange} {value : ValueId}

/-- To allocate a region is to draw its name and its address. -/
theorem allocate_apply (plain : here.1.graph.Plain here.2.next) (size : Nat) (label : String) :
    allocate size label here = .ok ⟨here.2.next + 1⟩
        ({ here.1 with graph := here.1.graph.allocating here.2.next size label },
          ⟨here.2.next + 2⟩) ∧
      (here.1.graph.allocating here.2.next size label).Plain (here.2.next + 2) := by
  let placed := here.1.graph.putPlacement ⟨here.2.next⟩ ⟨.region size label, true, true⟩
  have isPlain : placed.Plain (here.2.next + 1) := plain.putRegion size label true
  have put : here.1.graph.addHeapObject ⟨here.2.next⟩ (.region size label) = placed :=
    Graph.addHeapObject_of_absent plain.absent _
  -- What was not there before has no address.
  have free {graph : Graph} (same : ∀ value, graph.target? value = here.1.graph.target? value) :
      graph.addressOf? ⟨⟨here.2.next⟩, 0, .region⟩ = none := by
    refine Option.eq_none_iff_forall_ne_some.2 fun value found => ?_
    have present := plain.sound.targets
      ((same value).symm.trans (Graph.target?_of_addressOf? found))
    rw [plain.absent] at present
    simp at present
  have valued : (placed.addValue ⟨here.2.next + 1⟩).Plain (here.2.next + 2) :=
    (isPlain.later (Nat.le_succ _)).addValue (Nat.lt_succ_self _)
  have pointed : (placed.addValue ⟨here.2.next + 1⟩).addPointer
      ⟨⟨here.2.next + 1⟩, ⟨⟨here.2.next⟩, 0, .region⟩⟩ =
        .ok (here.1.graph.allocating here.2.next size label) := by
    refine Graph.addPointer_eq_ok_iff.2 ⟨?_, .inl ?_, rfl⟩
    · exact (Graph.hasObject_putPlacement ..).trans (by simp)
    · rw [Graph.target?_addValue, Graph.target?, isPlain.knowledge_of_late (Nat.le_refl _)]
      rfl
  refine ⟨?_, valued.addPointer (Nat.lt_succ_self _)
    (free fun _ => Graph.target?_addValue ..) pointed⟩
  unfold allocate
  refine (Run.bind_apply_ok (Run.draw_objectId_apply _)).trans ?_
  refine (Run.bind_apply_ok (modifyGraph_apply _)).trans ?_
  rw [put]
  unfold takeAddress
  refine (Run.bind_apply_ok (Run.ask_apply _ _)).trans ?_
  have unaddressed : placed.addressOf? ⟨⟨here.2.next⟩, 0, .region⟩ = none := free fun _ => rfl
  simp only [unaddressed]
  refine (Run.bind_apply_ok newValue_apply).trans ?_
  exact Run.bind_apply_ok (attemptGraph_ok pointed)

/-- A read finds what is held. -/
theorem read_apply (allowed : mayAccess here.1.graph object range = true)
    (held : here.1.graph.valueAt? object range = some value) :
    read object range here = .ok value here := by
  unfold read
  rw [Run.bind_apply_ok (Run.ask_apply _ _), allowed]
  simp only [held]
  rfl

/-- A write puts its field, when nothing that the range overlaps is left. -/
theorem write_apply (allowed : mayAccess here.1.graph object range = true)
    (early : value.index < here.2.next) {cleared : Graph} (isPlain : cleared.Plain here.2.next)
    (overwritten : (here.1.graph.overlapping object range).forM (overwrite range) here =
      .ok () ({ here.1 with graph := cleared }, here.2))
    (objects : cleared.objects = here.1.graph.objects) (vacant : cleared.Vacant object range) :
    write object range value here = .ok ()
        ({ here.1 with graph := cleared.writing object range value }, here.2) ∧
      (cleared.writing object range value).Plain here.2.next := by
  have added : (cleared.addValue value).addField ⟨object, range, value⟩ =
      .ok (cleared.writing object range value) :=
    Graph.addField_of_vacant ⟨vacant.positive, vacant.fits, vacant.apart⟩
  have valid : (cleared.addValue value).isValid object = true := by
    obtain ⟨-, -, valid, -⟩ := exists_of_mayAccess allowed
    rwa [Graph.isValid, Graph.addValue, objects]
  refine ⟨?_, (isPlain.addValue early).addField vacant.positive early valid added⟩
  unfold write
  rw [Run.bind_apply_ok (Run.ask_apply _ _), allowed]
  refine (Run.bind_apply_ok overwritten).trans ?_
  refine (Run.bind_apply_ok (modifyGraph_apply _)).trans ?_
  exact attemptGraph_ok added

/-- A write to a free place puts its field. -/
theorem write_of_vacant (plain : here.1.graph.Plain here.2.next)
    (allowed : mayAccess here.1.graph object range = true) (early : value.index < here.2.next)
    (vacant : here.1.graph.Vacant object range) :
    write object range value here = .ok ()
        ({ here.1 with graph := here.1.graph.writing object range value }, here.2) ∧
      (here.1.graph.writing object range value).Plain here.2.next := by
  refine write_apply allowed early plain ?_ rfl vacant
  have nothing : here.1.graph.overlapping object range = [] := by
    refine List.filter_eq_nil_iff.2 fun field member => ?_
    have apart := vacant.apart (Graph.mem_fieldsOf_iff.1 member).2
    simp [apart.overlaps_eq_false]
  rw [nothing]
  rfl

/-- A write to the only field of an object replaces it. -/
theorem write_of_only (plain : here.1.graph.Plain here.2.next)
    (allowed : mayAccess here.1.graph object range = true) (early : value.index < here.2.next)
    {old : ValueId}
    (only : here.1.graph.layout object = (∅ : Layout).insert range.offset ⟨range.size, old⟩) :
    write object range value here = .ok ()
        ({ here.1 with graph := here.1.graph.replacing object range old value }, here.2) ∧
      (here.1.graph.replacing object range old value).Plain here.2.next := by
  have held := (Graph.valueAt?_of_only only).2 ⟨rfl, rfl⟩
  obtain ⟨found, isFound, fit⟩ := plain.sound.tiled.fits held
  have positive := plain.sound.tiled.positive held
  have overlapping : here.1.graph.overlapping object range = [⟨object, range, old⟩] := by
    have fields : here.1.graph.fieldsOf object = [⟨object, range, old⟩] := by
      rw [Graph.fieldsOf, only]
      rfl
    have overlaps : range.overlaps range = true := by
      refine (BitRange.overlaps_iff_not_apart fit fit).2 fun apart => ?_
      unfold BitRange.Apart at apart
      omega
    rw [Graph.overlapping, fields]
    exact List.filter_cons_of_pos overlaps
  refine write_apply allowed early (plain.removeField ⟨object, range, old⟩) ?_
    (Graph.objects_removeField _) ⟨positive, ⟨found, ?_, fit⟩, fun {other held'} isHeld => ?_⟩
  · have rest : remainders range ⟨object, range, old⟩ = [] := by
      simp [remainders]
    have overwritten : overwrite range ⟨object, range, old⟩ here = .ok ()
        ({ here.1 with graph := here.1.graph.removeField ⟨object, range, old⟩ }, here.2) := by
      refine (Run.bind_apply_ok (modifyGraph_apply _)).trans ?_
      rw [rest]
      rfl
    rw [overlapping]
    exact Run.bind_apply_ok overwritten
  · rw [Graph.object?, Graph.objects_removeField]
    exact isFound
  · have nothing := Graph.layout_removeField_of_only only object
    rw [if_pos rfl] at nothing
    rw [Graph.valueAt?_eq_some_iff, nothing] at isHeld
    simp at isHeld

end State

end ShapeDomain
