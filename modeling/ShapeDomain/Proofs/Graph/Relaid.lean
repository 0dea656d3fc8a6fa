import ShapeDomain.Proofs.Graph.AddField

/-!
# Graphs that differ in their layouts

While two graphs are joined, only their layouts change.  What else they say stays as it was in the
graphs that the join started from.
-/

namespace ShapeDomain

namespace Graph

theorem object_of_none {graph : Graph} {id : ObjectId} (absent : graph.object? id = none) :
    graph.object id = .error (.unknownObject id) := by
  rw [object, absent]

/-- A graph that differs from another one in its layouts only; values of which nothing is known may
have come or gone. -/
structure Relaid (origin graph : Graph) : Prop where
  /-- The objects are the same. -/
  objects : graph.objects = origin.objects
  /-- The same is known of every value. -/
  knowledge : ∀ value, graph.knowledge value = origin.knowledge value
  /-- The inequalities are the same. -/
  inequalities : graph.inequalities = origin.inequalities
  /-- The same functions run. -/
  stack : graph.stack = origin.stack
  /-- The global variables are the same. -/
  globals : graph.globals = origin.globals
  /-- The machine is the same. -/
  machine : graph.machine = origin.machine

namespace Relaid

variable {origin graph next : Graph}

theorem refl (graph : Graph) : Relaid graph graph :=
  ⟨rfl, fun _ => rfl, rfl, rfl, rfl, rfl⟩

theorem trans (first : Relaid origin graph) (second : Relaid graph next) : Relaid origin next where
  objects := second.objects.trans first.objects
  knowledge value := (second.knowledge value).trans (first.knowledge value)
  inequalities := second.inequalities.trans first.inequalities
  stack := second.stack.trans first.stack
  globals := second.globals.trans first.globals
  machine := second.machine.trans first.machine

theorem object? (relaid : Relaid origin graph) (id : ObjectId) :
    graph.object? id = origin.object? id := by
  rw [Graph.object?, Graph.object?, relaid.objects]

theorem object (relaid : Relaid origin graph) (id : ObjectId) :
    graph.object id = origin.object id := by
  rw [Graph.object, Graph.object, relaid.object?]

theorem isValid (relaid : Relaid origin graph) (id : ObjectId) :
    graph.isValid id = origin.isValid id := by
  rw [Graph.isValid, Graph.isValid, relaid.objects]

theorem isHeap (relaid : Relaid origin graph) (id : ObjectId) :
    graph.isHeap id = origin.isHeap id := by
  rw [Graph.isHeap, Graph.isHeap, relaid.objects]

theorem target? (relaid : Relaid origin graph) (value : ValueId) :
    graph.target? value = origin.target? value := by
  rw [Graph.target?, Graph.target?, relaid.knowledge]

theorem number? (relaid : Relaid origin graph) (value : ValueId) :
    graph.number? value = origin.number? value := by
  rw [Graph.number?, Graph.number?, relaid.knowledge]

theorem addValue (relaid : Relaid origin graph) (value : ValueId) :
    Relaid origin (graph.addValue value) where
  objects := relaid.objects
  knowledge other := (knowledge_addValue graph value other).trans (relaid.knowledge other)
  inequalities := relaid.inequalities
  stack := relaid.stack
  globals := relaid.globals
  machine := relaid.machine

theorem putField (relaid : Relaid origin graph) (field : Field) :
    Relaid origin (graph.putField field) where
  objects := relaid.objects
  knowledge other := (knowledge_addValue graph field.value other).trans (relaid.knowledge other)
  inequalities := relaid.inequalities
  stack := relaid.stack
  globals := relaid.globals
  machine := relaid.machine

theorem addField (relaid : Relaid origin graph) {field : Field}
    (done : graph.addField field = .ok next) : Relaid origin next := by
  rcases Graph.addField_eq_ok done with ⟨-, rfl⟩ | ⟨-, rfl, -⟩
  · exact relaid
  · exact relaid.putField field

theorem removeField (relaid : Relaid origin graph) (field : Field) :
    Relaid origin (graph.removeField field) := by
  unfold Graph.removeField
  split
  · exact ⟨relaid.objects, relaid.knowledge, relaid.inequalities, relaid.stack, relaid.globals,
      relaid.machine⟩
  · exact relaid

end Relaid

end Graph

end ShapeDomain
