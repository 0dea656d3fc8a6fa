import ShapeDomain.Proofs.Graph.Layout
import ShapeDomain.Proofs.Translate

/-!
# What adding a pointer leads to

A value becomes the address of a place in an object of the graph, unless it is the address of
another place.
-/

namespace ShapeDomain

namespace Graph

variable {graph next : Graph} {pointer : Pointer}

/-- The graph in which a value is the address of a place. -/
def putPointer (graph : Graph) (pointer : Pointer) : Graph :=
  { graph with
    values := graph.values.insert pointer.value
      { graph.knowledge pointer.value with target := some pointer.target } }

theorem knowledge_putPointer (value : ValueId) :
    (graph.putPointer pointer).knowledge value =
      if value = pointer.value then
        { graph.knowledge pointer.value with target := some pointer.target }
      else graph.knowledge value := by
  simp only [putPointer, knowledge, Table.get?_insert]
  split <;> rfl

@[simp] theorem number?_putPointer (value : ValueId) :
    (graph.putPointer pointer).number? value = graph.number? value := by
  rw [number?, knowledge_putPointer]
  split
  case isTrue same => rw [same]; rfl
  case isFalse => rfl

theorem target?_putPointer (value : ValueId) :
    (graph.putPointer pointer).target? value =
      if value = pointer.value then some pointer.target else graph.target? value := by
  rw [target?, knowledge_putPointer]
  split <;> rfl

@[simp] theorem valueAt?_putPointer (object : ObjectId) (range : BitRange) :
    (graph.putPointer pointer).valueAt? object range = graph.valueAt? object range := rfl

@[simp] theorem object?_putPointer (id : ObjectId) :
    (graph.putPointer pointer).object? id = graph.object? id := rfl

/-- A pointer can be added when its object is there and its value has no other target. -/
theorem addPointer_eq_ok_iff :
    graph.addPointer pointer = .ok next ↔
      graph.hasObject pointer.target.object = true ∧
        (graph.target? pointer.value = none ∨
          graph.target? pointer.value = some pointer.target) ∧
        next = graph.putPointer pointer := by
  unfold addPointer
  cases present : graph.hasObject pointer.target.object with
  | false => simp
  | true =>
      simp only [Bool.not_true, Bool.false_eq_true, if_false, true_and]
      cases leads : graph.target? pointer.value with
      | none =>
          have known : (graph.knowledge pointer.value).target = none := leads
          simp only [known, true_or, true_and, Except.ok.injEq, putPointer]
          exact eq_comm
      | some existing =>
          have known : (graph.knowledge pointer.value).target = some existing := leads
          simp only [known, reduceCtorEq, Option.some.injEq, false_or]
          by_cases same : existing = pointer.target
          · have bound : graph.values.get? pointer.value =
                some { graph.knowledge pointer.value with target := some pointer.target } := by
              cases found : graph.values.get? pointer.value with
              | none => simp [knowledge, found, Knowledge.nothing] at known
              | some knowledge =>
                  have equal : graph.knowledge pointer.value = knowledge := by
                    rw [Graph.knowledge, found]
                    rfl
                  rw [equal] at known ⊢
                  rw [← same, ← known]
            have unchanged : graph.putPointer pointer = graph := by
              rw [putPointer, Table.insert_of_get?_eq bound]
            simp only [same, if_true, Except.ok.injEq, true_and, unchanged]
            exact eq_comm
          · simp [same]

end Graph

end ShapeDomain
