import ShapeDomain.Graph.Basic

/-!
# Pointers and inequalities of a graph

A value is the address of at most one place.  The zero value is the address of NULL for good.
-/

namespace ShapeDomain

namespace Graph

/-- All pointers, in the order of their values. -/
def pointers (graph : Graph) : List Pointer :=
  graph.values.toList.filterMap fun entry => entry.2.target.map (⟨entry.1, ·⟩)

/-- The pointers into an object. -/
def pointersInto (graph : Graph) (object : ObjectId) : List Pointer :=
  graph.pointers.filter fun pointer => pointer.target.object == object

/-- The least value that is the address of a place. -/
def addressOf? (graph : Graph) (target : Target) : Option ValueId :=
  (graph.pointers.find? fun pointer => pointer.target == target).map Pointer.value

/-- Makes a value the address of a place in an object of the graph.  A value that is the address of
another place is refused. -/
def addPointer (graph : Graph) (pointer : Pointer) : Except Fault Graph :=
  if !graph.hasObject pointer.target.object then
    .error (.unknownObject pointer.target.object)
  else
    let known := graph.knowledge pointer.value
    match known.target with
    | some existing =>
        if existing = pointer.target then
          .ok graph
        else
          .error (.conflictingTarget pointer.value existing.object pointer.target.object)
    | none =>
        .ok { graph with
          values := graph.values.insert pointer.value
            { known with target := some pointer.target } }

/-- The place that a value would cease to be the address of; the zero value keeps its place. -/
def removableTarget? (graph : Graph) (value : ValueId) : Option Target :=
  if value.isZero then none else graph.target? value

/-- A value ceases to be the address of a place. -/
def removePointer (graph : Graph) (value : ValueId) : Graph :=
  match graph.removableTarget? value with
  | some _ =>
      { graph with
        values := graph.values.insert value { graph.knowledge value with target := none } }
  | none => graph

/-! ### Inequalities -/

/-- A pair of values, the smaller one first. -/
def ordered (a b : ValueId) : ValueId × ValueId :=
  if a.index ≤ b.index then (a, b) else (b, a)

/-- Records that two values are unequal; a value is never unequal to itself. -/
def addInequality (graph : Graph) (a b : ValueId) : Graph :=
  if a = b then
    graph
  else
    { graph with inequalities := graph.inequalities.add (ordered a b) }

/-- Whether two values are known to be unequal. -/
def isUnequal (graph : Graph) (a b : ValueId) : Bool :=
  graph.inequalities.contains (ordered a b)

/-- The values that are known to be unequal to a value, in increasing order. -/
def unequalTo (graph : Graph) (value : ValueId) : List ValueId :=
  graph.inequalities.keys.filterMap fun pair =>
    if pair.1 = value then some pair.2
    else if pair.2 = value then some pair.1
    else none

end Graph

end ShapeDomain
