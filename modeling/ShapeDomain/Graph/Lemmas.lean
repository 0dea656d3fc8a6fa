import ShapeDomain.Graph.Field
import ShapeDomain.Graph.Pointer

/-!
# What the operations on a graph change

For each operation, what can be seen of a graph after it: its objects with their validity and place,
and what is known of its values.  What an operation does not mention stays as it is by definition.
-/

namespace ShapeDomain

namespace Graph

variable (graph : Graph)

theorem object_eq_ok_iff {id : ObjectId} {object : Object} :
    graph.object id = .ok object ↔ graph.object? id = some object := by
  unfold Graph.object
  split <;> simp_all

theorem hasObject_iff {id : ObjectId} :
    graph.hasObject id = true ↔ ∃ object, graph.object? id = some object := by
  rw [hasObject, Table.contains, object?]
  cases graph.objects.get? id <;> simp

/-! ### Adding objects -/

theorem object?_addObject (id other : ObjectId) (object : Object) :
    (graph.addObject id object).object? other =
      if other = id then some object else graph.object? other := by
  simp only [addObject, object?, Table.get?_insert]
  split
  · cases graph.objects.get? id <;> rfl
  · rfl

theorem isValid_addObject (id other : ObjectId) (object : Object) :
    (graph.addObject id object).isValid other =
      if other = id ∧ graph.hasObject id = false then true else graph.isValid other := by
  simp only [addObject, isValid, hasObject, Table.contains, Table.get?_insert]
  by_cases same : other = id
  · subst same
    simp only [if_true, true_and]
    cases graph.objects.get? other <;> simp
  · simp [same]

theorem isHeap_addObject (id other : ObjectId) (object : Object) :
    (graph.addObject id object).isHeap other = graph.isHeap other := by
  simp only [addObject, isHeap, Table.get?_insert]
  by_cases same : other = id
  · subst same
    cases graph.objects.get? other <;> simp
  · simp [same]

theorem object?_addHeapObject (id other : ObjectId) (object : Object) :
    (graph.addHeapObject id object).object? other =
      if other = id then some object else graph.object? other := by
  simp only [addHeapObject, object?, Table.get?_insert]
  split <;> rfl

theorem isValid_addHeapObject (id other : ObjectId) (object : Object) :
    (graph.addHeapObject id object).isValid other =
      if other = id ∧ graph.hasObject id = false then true else graph.isValid other := by
  simp only [addHeapObject, isValid, hasObject, Table.contains, Table.get?_insert]
  by_cases same : other = id
  · subst same
    simp only [if_true, true_and]
    cases graph.objects.get? other <;> simp
  · simp [same]

theorem isHeap_addHeapObject (id other : ObjectId) (object : Object) :
    (graph.addHeapObject id object).isHeap other =
      (decide (other = id) || graph.isHeap other) := by
  simp only [addHeapObject, isHeap, Table.get?_insert]
  by_cases same : other = id <;> simp [same]

/-! ### Validity -/

theorem setValid_eq_ok_iff {id : ObjectId} {valid : Bool} {next : Graph} :
    graph.setValid id valid = .ok next ↔
      ∃ old, graph.objects.get? id = some old ∧
        next = { graph with objects := graph.objects.insert id { old with valid := valid } } := by
  simp only [setValid]
  cases graph.objects.get? id <;> simp [eq_comm]

theorem isValid_of_setValid {id : ObjectId} {valid : Bool} {next : Graph}
    (done : graph.setValid id valid = .ok next) (other : ObjectId) :
    next.isValid other = if other = id then valid else graph.isValid other := by
  obtain ⟨old, -, rfl⟩ := (graph.setValid_eq_ok_iff).1 done
  simp only [isValid, Table.get?_insert]
  split <;> rfl

theorem object?_of_setValid {id : ObjectId} {valid : Bool} {next : Graph}
    (done : graph.setValid id valid = .ok next) (other : ObjectId) :
    next.object? other = graph.object? other := by
  obtain ⟨old, found, rfl⟩ := (graph.setValid_eq_ok_iff).1 done
  simp only [object?, Table.get?_insert]
  split
  case isTrue same => subst same; simp [found]
  case isFalse => rfl

theorem isHeap_of_setValid {id : ObjectId} {valid : Bool} {next : Graph}
    (done : graph.setValid id valid = .ok next) (other : ObjectId) :
    next.isHeap other = graph.isHeap other := by
  obtain ⟨old, found, rfl⟩ := (graph.setValid_eq_ok_iff).1 done
  simp only [isHeap, Table.get?_insert]
  split
  case isTrue same => subst same; simp [found]
  case isFalse => rfl

/-! ### Removing objects -/

theorem removeObject_null : graph.removeObject .null = graph := rfl

theorem object?_removeObject {id : ObjectId} (proper : id.isNull = false) (other : ObjectId) :
    (graph.removeObject id).object? other =
      if other = id then none else graph.object? other := by
  simp only [removeObject, proper, object?]
  by_cases same : other = id
  · subst same
    simp [Table.get?_erase_self]
  · simp [same, Table.get?_erase_of_ne]

theorem target?_removeObject {id : ObjectId} (proper : id.isNull = false) (value : ValueId) :
    (graph.removeObject id).target? value =
      (graph.target? value).filter fun target => target.object != id := by
  simp only [removeObject, proper, target?, knowledge]
  cases found : graph.values.get? value <;>
    simp [Table.get?_mapPayloads, found, Knowledge.nothing, Knowledge.forget]

theorem number?_removeObject (id : ObjectId) (value : ValueId) :
    (graph.removeObject id).number? value = graph.number? value := by
  unfold removeObject
  split
  · rfl
  · simp only [number?, knowledge]
    cases found : graph.values.get? value <;>
      simp [Table.get?_mapPayloads, found, Knowledge.nothing, Knowledge.forget]

/-! ### Values -/

theorem knowledge_addValue (value other : ValueId) :
    (graph.addValue value).knowledge other = graph.knowledge other := by
  simp only [addValue, knowledge, Table.get?_insert]
  split
  case isTrue same => subst same; rfl
  case isFalse => rfl

@[simp] theorem number?_addValue (value other : ValueId) :
    (graph.addValue value).number? other = graph.number? other := by
  rw [number?, knowledge_addValue]
  rfl

@[simp] theorem target?_addValue (value other : ValueId) :
    (graph.addValue value).target? other = graph.target? other := by
  rw [target?, knowledge_addValue]
  rfl

theorem hasValue_addValue (value other : ValueId) :
    (graph.addValue value).hasValue other = (decide (other = value) || graph.hasValue other) := by
  simp only [addValue, hasValue, Table.contains, Table.get?_insert]
  by_cases same : other = value <;> simp [same]

theorem number?_setNumber (value other : ValueId) (number : Int) :
    (graph.setNumber value number).number? other =
      if other = value then some number else graph.number? other := by
  simp only [setNumber, number?, knowledge, Table.get?_insert]
  split <;> rfl

@[simp] theorem target?_setNumber (value other : ValueId) (number : Int) :
    (graph.setNumber value number).target? other = graph.target? other := by
  simp only [setNumber, target?, knowledge, Table.get?_insert]
  split
  case isTrue same => subst same; rfl
  case isFalse => rfl

/-! ### Pointers -/

theorem target?_of_addPointer {pointer : Pointer} {next : Graph}
    (done : graph.addPointer pointer = .ok next) (value : ValueId) :
    next.target? value =
      if value = pointer.value then some pointer.target else graph.target? value := by
  simp only [addPointer] at done
  split at done
  · simp at done
  · split at done
    case h_1 existing known =>
      split at done
      case isTrue same =>
        obtain rfl := Except.ok.inj done
        split
        case isTrue equal => subst equal; simpa [target?, ← same] using known
        case isFalse => rfl
      case isFalse => simp at done
    case h_2 =>
      obtain rfl := Except.ok.inj done
      simp only [target?, knowledge, Table.get?_insert]
      split <;> rfl

/-! ### Inequalities -/

theorem ordered_comm (a b : ValueId) : ordered a b = ordered b a := by
  cases a with
  | mk i =>
      cases b with
      | mk j =>
          simp only [ordered]
          split <;> split <;> simp_all <;> omega

theorem isUnequal_comm (a b : ValueId) : graph.isUnequal a b = graph.isUnequal b a := by
  rw [isUnequal, isUnequal, ordered_comm]

theorem isUnequal_addInequality {a b : ValueId} (distinct : a ≠ b) (c d : ValueId) :
    (graph.addInequality a b).isUnequal c d =
      (decide (ordered c d = ordered a b) || graph.isUnequal c d) := by
  simp only [addInequality, distinct, if_false, isUnequal, KeySet.contains_add]

end Graph

end ShapeDomain
