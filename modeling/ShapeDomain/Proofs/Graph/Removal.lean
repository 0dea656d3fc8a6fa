import ShapeDomain.Proofs.Graph.Layout

/-!
# What removing leaves

What is left of fields and addresses after an object was removed or a value ceased to be an address.
-/

namespace ShapeDomain

namespace Graph

variable {graph : Graph}

theorem layout_removeObject_of_ne {id other : ObjectId} (distinct : other ≠ id) :
    (graph.removeObject id).layout other = graph.layout other := by
  unfold removeObject
  split
  · rfl
  · simp only [layout, Table.get?_erase_of_ne _ distinct]

theorem get?_layouts_removeObject {id : ObjectId} (proper : id.isNull = false) (other : ObjectId) :
    (graph.removeObject id).layouts.get? other =
      if other = id then none else graph.layouts.get? other := by
  simp only [removeObject, proper, Bool.false_eq_true, if_false]
  split
  case isTrue same => rw [same, Table.get?_erase_self]
  case isFalse distinct => rw [Table.get?_erase_of_ne _ distinct]

theorem valueAt?_of_removeObject {id other : ObjectId} {range : BitRange} {value : ValueId}
    (held : (graph.removeObject id).valueAt? other range = some value) :
    graph.valueAt? other range = some value := by
  by_cases same : other = id
  · subst same
    unfold removeObject at held
    split at held
    · exact held
    · simp only [valueAt?, layout, Table.get?_erase_self] at held
      simp at held
  · rwa [valueAt?_congr (layout_removeObject_of_ne same)] at held

/-- A removed object has no fields. -/
theorem valueAt?_removeObject_self {id : ObjectId} (proper : id.isNull = false)
    (range : BitRange) : (graph.removeObject id).valueAt? id range = none := by
  simp [removeObject, proper, valueAt?, layout, Table.get?_erase_self]

theorem isSome_target?_of_removeObject {id : ObjectId} {value : ValueId}
    (leads : ((graph.removeObject id).target? value).isSome = true) :
    (graph.target? value).isSome = true := by
  cases proper : id.isNull with
  | true => simpa [removeObject, proper] using leads
  | false =>
      rw [target?_removeObject graph proper] at leads
      cases found : graph.target? value with
      | none => simp [found] at leads
      | some target => rfl

theorem knowledge_removePointer (value other : ValueId) :
    (graph.removePointer value).knowledge other =
      if other = value ∧ value.isZero = false then
        { graph.knowledge value with target := none }
      else graph.knowledge other := by
  unfold removePointer removableTarget?
  by_cases zero : value.isZero = true
  · simp [zero]
  · simp only [zero, Bool.false_eq_true, if_false, and_true]
    cases found : graph.target? value with
    | some target =>
        simp only [knowledge, Table.get?_insert]
        split <;> rfl
    | none =>
        show graph.knowledge other = _
        split
        case isTrue same =>
          subst same
          rw [← show (graph.knowledge other).target = none from found]
        case isFalse => rfl

@[simp] theorem number?_removePointer (value other : ValueId) :
    (graph.removePointer value).number? other = graph.number? other := by
  rw [number?, knowledge_removePointer]
  split
  case isTrue same => rw [same.1]; rfl
  case isFalse => rfl

theorem target?_removePointer (value other : ValueId) :
    (graph.removePointer value).target? other =
      if other = value ∧ value.isZero = false then none else graph.target? other := by
  rw [target?, knowledge_removePointer]
  split <;> rfl

@[simp] theorem layouts_removePointer (value : ValueId) :
    (graph.removePointer value).layouts = graph.layouts := by
  unfold removePointer
  split <;> rfl

@[simp] theorem objects_removePointer (value : ValueId) :
    (graph.removePointer value).objects = graph.objects := by
  unfold removePointer
  split <;> rfl

theorem names_removePointer (value : ValueId) :
    (graph.removePointer value).stack = graph.stack ∧
      (graph.removePointer value).globals = graph.globals := by
  unfold removePointer
  split <;> exact ⟨rfl, rfl⟩

theorem hasValue_removePointer (value other : ValueId) :
    (graph.removePointer value).hasValue other = graph.hasValue other := by
  unfold removePointer
  split
  case h_1 target leads =>
    simp only [hasValue, Table.contains, Table.get?_insert]
    split
    case isTrue same =>
      subst same
      unfold removableTarget? at leads
      split at leads
      · simp at leads
      · cases found : graph.values.get? other with
        | some known => rfl
        | none => simp [target?, knowledge, found, Knowledge.nothing] at leads
    case isFalse => rfl
  case h_2 => rfl

end Graph

end ShapeDomain
