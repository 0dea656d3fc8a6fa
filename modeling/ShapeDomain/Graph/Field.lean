import ShapeDomain.Graph.Basic

/-!
# Fields of a graph

The fields of an object have no bit in common and lie within the object.  To add a field it is
enough to look at the last field that starts before the end of the new one.
-/

namespace ShapeDomain

namespace Layout

/-- The fields of a layout, as fields of an object, in the order in which they start. -/
def fields (object : ObjectId) (layout : Layout) : List Field :=
  layout.toList.map fun entry => ⟨object, ⟨entry.1, entry.2.size⟩, entry.2.value⟩

end Layout

namespace Graph

/-- The layout of an object; it is empty if the object never had a field. -/
def layout (graph : Graph) (object : ObjectId) : Layout :=
  (graph.layouts.get? object).getD ∅

/-- The fields of an object, in the order in which they start. -/
def fieldsOf (graph : Graph) (object : ObjectId) : List Field :=
  (graph.layout object).fields object

/-- All fields, in the order of their objects and then in that in which they start. -/
def fields (graph : Graph) : List Field :=
  graph.layouts.toList.flatMap fun entry => entry.2.fields entry.1

/-- The fields that a filter selects, in the same order. -/
def select (graph : Graph) (filter : FieldFilter) : List Field :=
  graph.fields.filter filter.accepts

/-- Whether a field is in the graph. -/
def hasField (graph : Graph) (field : Field) : Bool :=
  (graph.layout field.object).get? field.range.offset == some ⟨field.range.size, field.value⟩

/-- The value that an object holds in exactly a given range. -/
def valueAt? (graph : Graph) (object : ObjectId) (range : BitRange) : Option ValueId :=
  ((graph.layout object).get? range.offset).bind fun content =>
    if content.size = range.size then some content.value else none

/-- The fields of an object that have a bit in common with a range; a field that starts where the
range ends does not. -/
def overlapping (graph : Graph) (object : ObjectId) (range : BitRange) : List Field :=
  (graph.fieldsOf object).filter fun field => field.range.overlaps range

/-- Adds a field.  A field that is already there is left alone; one that would not fit its object,
or that has a bit in common with another field, is refused. -/
def addField (graph : Graph) (field : Field) : Except Fault Graph := do
  let object ← graph.object field.object
  if !field.range.fits object.size then
    throw (.fieldOutOfBounds field.object field.range object.size)
  else if graph.hasField field then
    return graph
  else
    let layout := graph.layout field.object
    let collides := match layout.lastBelow? field.range.stop with
      | some (offset, content) => BitRange.overlaps ⟨offset, content.size⟩ field.range
      | none => false
    if collides then
      throw (.overlappingField field.object field.range)
    else
      let content : Content := ⟨field.range.size, field.value⟩
      let graph := graph.addValue field.value
      return { graph with
        layouts := graph.layouts.insert field.object
          (layout.insert field.range.offset content) }

/-- Removes a field, if it is in the graph; the object keeps its layout even when that is empty. -/
def removeField (graph : Graph) (field : Field) : Graph :=
  if graph.hasField field then
    { graph with
      layouts := graph.layouts.insert field.object
        ((graph.layout field.object).erase field.range.offset) }
  else
    graph

/-- Removes several fields. -/
def removeFields (graph : Graph) (fields : List Field) : Graph :=
  fields.foldl removeField graph

end Graph

end ShapeDomain
