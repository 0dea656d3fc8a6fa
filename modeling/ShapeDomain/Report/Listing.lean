import ShapeDomain.Graph.Field
import ShapeDomain.Graph.Pointer

/-!
# Listings

A graph as text: a line for each object, followed by lines for its fields, and a line for each
inequality.
-/

namespace ShapeDomain

/-- What is to be said of an object of a graph. -/
structure ObjectReport where
  /-- The name of the object. -/
  id : ObjectId
  /-- The object. -/
  object : Object
  /-- A variable that names it. -/
  name? : Option String
  /-- Whether it is part of the heap. -/
  heap : Bool
  /-- Whether it may be accessed. -/
  valid : Bool
  /-- Its fields. -/
  fields : List Field
  /-- The pointers into it. -/
  pointers : List Pointer

namespace ObjectReport

/-- The line of an object. -/
def text (report : ObjectReport) : String :=
  let name := match report.name? with
    | some name => name ++ ": "
    | none => ""
  let heap := if report.heap then " heap" else ""
  let invalid := if !report.valid && !report.object.kind.isNull then " invalid" else ""
  name ++ report.object.text report.id ++ heap ++ invalid ++ ", " ++
    toString report.fields.length ++ " fields, " ++ toString report.pointers.length ++ " pointers"

end ObjectReport

namespace Graph

/-- What is to be said of an object; the variable is the first one that names it. -/
def report? (graph : Graph) (id : ObjectId) : Option ObjectReport :=
  (graph.object? id).map fun object =>
    { id := id
      object := object
      name? := (graph.roots.find? fun entry => entry.2 == id).map Prod.fst
      heap := graph.isHeap id
      valid := graph.isValid id
      fields := graph.fieldsOf id
      pointers := graph.pointersInto id }

/-- The line of a field, with the number it holds if that is known. -/
def fieldLine (graph : Graph) (field : Field) : String :=
  match graph.number? field.value with
  | some number => "    " ++ field.text ++ " = " ++ toString number
  | none => "    " ++ field.text

/-- The lines of an object. -/
def objectLines (graph : Graph) (report : ObjectReport) : List String :=
  ("  " ++ report.text) :: report.fields.map graph.fieldLine

/-- The lines of a graph. -/
def lines (graph : Graph) : List String :=
  ("SMG (" ++ toString graph.objects.size ++ " objects, " ++ toString graph.values.size ++
    " values):") ::
  ((graph.objects.keys.filterMap graph.report?).flatMap graph.objectLines ++
    graph.inequalities.keys.map fun pair => "  " ++ pair.1.text ++ " != " ++ pair.2.text)

/-- The listing of a graph. -/
def listing (graph : Graph) : String :=
  String.join (graph.lines.map (· ++ "\n"))

end Graph

end ShapeDomain
