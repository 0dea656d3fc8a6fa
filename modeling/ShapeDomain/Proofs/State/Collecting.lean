import ShapeDomain.Proofs.State.Locals

/-!
# What the collection of garbage comes to

To collect garbage removes exactly the heap objects that no variable reaches, and NULL stays even if
it was put into the heap.  A second collection finds nothing more to do, so that states are compared
and joined alike before and after their garbage was collected.
-/

namespace ShapeDomain

namespace Graph

variable {graph : Graph} {ids : List ObjectId} {id : ObjectId}

/-! ### Removing several objects -/

/-- What stays when several objects are removed: all others, and NULL. -/
theorem kept_removeObjects (spared : id ∈ ids → id = .null) :
    (graph.removeObjects ids).objects.get? id = graph.objects.get? id ∧
      (graph.removeObjects ids).layout id = graph.layout id := by
  induction ids generalizing graph with
  | nil => exact ⟨rfl, rfl⟩
  | cons head rest ih =>
      have later := @ih (graph.removeObject head) fun member =>
        spared (List.mem_cons_of_mem _ member)
      by_cases same : id = head
      case pos =>
        obtain rfl := same
        rw [spared List.mem_cons_self] at later ⊢
        exact later
      case neg =>
        exact ⟨later.1.trans (get?_removeObject_of_ne same),
          later.2.trans (layout_removeObject_of_ne same)⟩

/-- What is still an address when several objects were removed. -/
theorem target?_removeObjects_iff {value : ValueId} {target : Target} :
    (graph.removeObjects ids).target? value = some target ↔
      graph.target? value = some target ∧ (target.object ∈ ids → target.object = .null) := by
  induction ids generalizing graph with
  | nil => simp [removeObjects]
  | cons head rest ih =>
      show ((graph.removeObject head).removeObjects rest).target? value = some target ↔ _
      rw [ih]
      cases proper : head.isNull with
      | true =>
          have isNull : head = .null := by simpa [ObjectId.isNull] using proper
          subst isNull
          simp only [removeObject_null, List.mem_cons]
          tauto
      | false =>
          have notNull : head ≠ .null := by simpa [ObjectId.isNull] using proper
          rw [target?_removeObject graph proper, Option.filter_eq_some_iff, bne_iff_ne,
            List.mem_cons]
          constructor
          · rintro ⟨⟨leads, other⟩, spared⟩
            exact ⟨leads, fun member => spared (member.resolve_left other)⟩
          · rintro ⟨leads, spared⟩
            refine ⟨⟨leads, fun same => notNull ?_⟩, fun member => spared (.inr member)⟩
            exact same.symm.trans (spared (.inl same))

theorem hasValue_removeObjects (value : ValueId) :
    (graph.removeObjects ids).hasValue value = graph.hasValue value := by
  induction ids generalizing graph with
  | nil => rfl
  | cons head rest ih => exact ih.trans (hasValue_removeObject head value)

/-- To remove nothing but NULL changes nothing. -/
theorem removeObjects_of_null (only : ∀ id ∈ ids, id = .null) :
    graph.removeObjects ids = graph := by
  induction ids with
  | nil => rfl
  | cons head rest ih =>
      have isNull : head = .null := only head List.mem_cons_self
      rw [isNull]
      exact ih fun id member => only id (List.mem_cons_of_mem _ member)

/-! ### Garbage -/

theorem mem_garbage_iff : id ∈ graph.garbage ↔ graph.isHeap id = true ∧ ¬ graph.Reaches id := by
  rw [garbage, List.mem_filter, heapObjects, Table.mem_keys_iff, Table.contains, Table.get?_filter,
    isHeap, Bool.not_eq_true', Bool.eq_false_iff, Ne, contains_reachable_iff]
  cases graph.objects.get? id with
  | none => simp
  | some placement => simp [Option.filter]

/-- A heap object that no variable reaches, other than NULL. -/
structure Discarded (graph : Graph) (id : ObjectId) : Prop where
  /-- It is part of the heap. -/
  heap : graph.isHeap id = true
  /-- No variable reaches it. -/
  unreached : ¬ graph.Reaches id
  /-- It is not NULL. -/
  proper : id ≠ .null

theorem not_discarded_iff : ¬ graph.Discarded id ↔ (id ∈ graph.garbage → id = .null) := by
  rw [mem_garbage_iff]
  constructor
  · intro spared garbage
    by_contra proper
    exact spared ⟨garbage.1, garbage.2, proper⟩
  · intro spared discarded
    exact discarded.proper (spared ⟨discarded.heap, discarded.unreached⟩)

/-- The same objects are reachable without the garbage. -/
theorem reaches_removeObjects_garbage :
    (graph.removeObjects graph.garbage).Reaches id ↔ graph.Reaches id :=
  graph.pruned_garbage.reaches_iff not_mem_garbage

/-- What is garbage once the garbage was removed is NULL, and it was garbage before. -/
theorem of_mem_garbage_again (member : id ∈ (graph.removeObjects graph.garbage).garbage) :
    id = .null ∧ id ∈ graph.garbage ∧
      (graph.removeObjects graph.garbage).isValid id = graph.isValid id := by
  obtain ⟨heap, unreached⟩ := mem_garbage_iff.1 member
  rw [reaches_removeObjects_garbage] at unreached
  by_cases discarded : graph.Discarded id
  case pos =>
    have gone : (graph.removeObjects graph.garbage).Gone id :=
      gone_removeObjects discarded.proper (mem_garbage_iff.2 ⟨discarded.heap, unreached⟩)
    rw [isHeap, gone.absent] at heap
    simp at heap
  case neg =>
    have spared := not_discarded_iff.1 discarded
    have placement : (graph.removeObjects graph.garbage).objects.get? id = graph.objects.get? id :=
      (kept_removeObjects spared).1
    rw [isHeap, placement, ← isHeap] at heap
    have before : id ∈ graph.garbage := mem_garbage_iff.2 ⟨heap, unreached⟩
    exact ⟨spared before, before, by rw [isValid, placement, isValid]⟩

end Graph

namespace State

open ShapeDomain.Graph

variable {state : State}

/-- What the collection of the garbage of a state leads to. -/
structure Collects (state collected : State) : Prop where
  /-- Garbage is removed with all that it holds. -/
  removed : ∀ {id}, state.graph.Discarded id → collected.graph.Gone id
  /-- All other objects stay as they are and hold what they held. -/
  kept : ∀ {id}, ¬ state.graph.Discarded id →
    collected.graph.objects.get? id = state.graph.objects.get? id ∧
      collected.graph.layout id = state.graph.layout id
  /-- The addresses of these objects stay, and no others. -/
  addresses : ∀ {value target}, collected.graph.target? value = some target ↔
    state.graph.target? value = some target ∧ ¬ state.graph.Discarded target.object
  /-- The values stay. -/
  values : ∀ value, collected.graph.hasValue value = state.graph.hasValue value
  /-- So does what is known of their numbers. -/
  numbers : ∀ value, collected.graph.number? value = state.graph.number? value
  /-- So does what is known of their differences. -/
  inequalities : collected.graph.inequalities = state.graph.inequalities
  /-- The running functions and their variables stay. -/
  stack : collected.graph.stack = state.graph.stack
  /-- The global variables stay. -/
  globals : collected.graph.globals = state.graph.globals
  /-- The machine stays. -/
  machine : collected.graph.machine = state.graph.machine
  /-- A leak is found if something valid was lost. -/
  leak : collected.findings.memoryLeak = true ↔ state.findings.memoryLeak = true ∨
    ∃ id, state.graph.isHeap id = true ∧ ¬ state.graph.Reaches id ∧ state.graph.isValid id = true
  /-- No other finding is added. -/
  findings : collected.findings =
    { state.findings with memoryLeak := collected.findings.memoryLeak }

theorem collects_collect (state : State) : Collects state state.collect where
  removed discarded :=
    gone_removeObjects discarded.proper (mem_garbage_iff.2 ⟨discarded.heap, discarded.unreached⟩)
  kept spared := kept_removeObjects (not_discarded_iff.1 spared)
  addresses := by
    intro value target
    rw [not_discarded_iff]
    exact target?_removeObjects_iff
  values := hasValue_removeObjects
  numbers := state.pruned_collect.number
  inequalities := inequalities_removeObjects _
  stack := state.pruned_collect.stack
  globals := state.pruned_collect.globals
  machine := machine_removeObjects _
  leak := by
    show (_ || _) = true ↔ _
    rw [Bool.or_eq_true, List.any_eq_true]
    simp only [mem_garbage_iff, and_assoc]
  findings := rfl

/-- A second collection changes nothing. -/
theorem collect_collect (state : State) : state.collect.collect = state.collect := by
  have again : ∀ id ∈ state.collect.graph.garbage, id = .null ∧ id ∈ state.graph.garbage ∧
      state.collect.graph.isValid id = state.graph.isValid id :=
    fun _ member => of_mem_garbage_again member
  have graph : state.collect.graph.removeObjects state.collect.graph.garbage =
    state.collect.graph :=
    removeObjects_of_null fun id member => (again id member).1
  -- What is garbage a second time was taken into account the first time.
  have known : state.collect.graph.garbage.any state.collect.graph.isValid = true →
      state.collect.findings.memoryLeak = true := by
    intro lost
    obtain ⟨id, member, valid⟩ := List.any_eq_true.1 lost
    obtain ⟨-, before, same⟩ := again id member
    rw [same] at valid
    exact Bool.or_eq_true_iff.2 (.inr (List.any_eq_true.2 ⟨id, before, valid⟩))
  have leak : (state.collect.findings.memoryLeak ||
      state.collect.graph.garbage.any state.collect.graph.isValid) =
        state.collect.findings.memoryLeak := by
    cases lost : state.collect.graph.garbage.any state.collect.graph.isValid with
    | false => exact Bool.or_false _
    | true => rw [known lost, Bool.or_true]
  show State.mk (state.collect.graph.removeObjects state.collect.graph.garbage)
    { state.collect.findings with memoryLeak := state.collect.findings.memoryLeak ||
      state.collect.graph.garbage.any state.collect.graph.isValid } = state.collect
  rw [graph, leak]

/-- Where there is no garbage, a collection changes nothing. -/
theorem collect_of_garbage_eq_nil (none : state.graph.garbage = []) : state.collect = state := by
  obtain ⟨graph, findings⟩ := state
  have nothing : graph.garbage = [] := none
  unfold collect
  simp only [nothing, List.any_nil, Bool.or_false]
  rfl

/-- Comparisons and joins look at what is left without the garbage. -/
theorem order_congr {options : Options} {state other state' other' : State}
    (same : state'.collect = state.collect) (same' : other'.collect = other.collect) :
    state'.isSubsumedBy options other' = state.isSubsumedBy options other ∧
      state'.join options other' = state.join options other := by
  constructor
  · unfold isSubsumedBy
    rw [same, same']
  · unfold join
    rw [same, same']

/-- To collect garbage removes what no variable reaches and nothing else; to do it again changes
nothing, as where there is none, and whether it was done makes no difference to comparisons and
joins. -/
theorem collect_exact (options : Options) (state other : State) :
    Collects state state.collect ∧ state.collect.collect = state.collect ∧
      (state.graph.garbage = [] → state.collect = state) ∧
      ∀ state' ∈ [state, state.collect], ∀ other' ∈ [other, other.collect],
        state'.isSubsumedBy options other' = state.isSubsumedBy options other ∧
          state'.join options other' = state.join options other := by
  refine ⟨collects_collect state, collect_collect state, collect_of_garbage_eq_nil,
    fun state' member other' member' => ?_⟩
  have same {state state' : State} (member : state' ∈ [state, state.collect]) :
      state'.collect = state.collect := by
    simp only [List.mem_cons, List.not_mem_nil, or_false] at member
    rcases member with rfl | rfl
    · rfl
    · exact collect_collect state
  exact order_congr (same member) (same member')

/-- Two nodes that lead to each other, and to which no variable leads. -/
def lostCycle : State :=
  (reached .linux64 [.perform (.allocate 64 "a"), .perform (.allocate 64 "b"),
    .perform (.write ⟨1⟩ ⟨0, 64⟩ ⟨4⟩), .perform (.write ⟨3⟩ ⟨0, 64⟩ ⟨2⟩)]).1

/-- Both nodes are removed, and a leak is found. -/
theorem collect_lostCycle :
    lostCycle.collect.graph.Gone ⟨1⟩ ∧ lostCycle.collect.graph.Gone ⟨3⟩ ∧
      lostCycle.collect.findings.memoryLeak = true := by
  have collects := (collect_exact {} lostCycle lostCycle).1
  have unreached {id : ObjectId} : lostCycle.graph.reachable.contains id = false →
      ¬ lostCycle.graph.Reaches id := by
    rw [← contains_reachable_iff, Bool.not_eq_true]
    exact fun outside => outside
  refine ⟨collects.removed ⟨by decide, unreached (by decide), by decide⟩,
    collects.removed ⟨by decide, unreached (by decide), by decide⟩, ?_⟩
  exact collects.leak.2 (.inr ⟨⟨1⟩, by decide, unreached (by decide), by decide⟩)

/-- The memory of a program without variables, where NULL was put into the heap. -/
def nullInHeap : State :=
  ofGraph ((Graph.initial .linux64).addHeapObject .null .null)

/-- NULL is not reachable there, but it stays in the heap. -/
theorem null_kept_nullInHeap :
    nullInHeap.graph.Consistent ∧ nullInHeap.graph.isHeap .null = true ∧
      ¬ nullInHeap.graph.Reaches .null ∧ nullInHeap.collect.graph.isHeap .null = true := by
  refine ⟨by decide, by decide, ?_, by decide⟩
  rw [← contains_reachable_iff, Bool.not_eq_true]
  decide

end State

end ShapeDomain
