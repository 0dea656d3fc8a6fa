import ShapeDomain.Graph.Field
import ShapeDomain.Graph.Pointer
import ShapeDomain.Run

/-!
# Folding list nodes

Two heap nodes that are linked by a pointer, agree in all other fields and can be told apart by
nothing else are folded into one list segment.  The successor may be such a segment already.
-/

namespace ShapeDomain

/-- The folding of a list node and its successor, which the node points to at offset `next`. -/
structure Fold where
  /-- The node. -/
  head : ObjectId
  /-- Its successor. -/
  successor : ObjectId
  /-- Where the link starts. -/
  next : Nat
  deriving DecidableEq, Repr

namespace Fold

/-- The way a folding is written in messages. -/
def text (fold : Fold) : String :=
  "fold(" ++ fold.head.text ++ " -> " ++ fold.successor.text ++ " at " ++ toString fold.next ++
    "b)"

/-- Whether an object of this kind can follow a list node: a region can, and a segment that is
linked in one direction at the same place. -/
def continues (next : Nat) : Kind → Bool
  | .region => true
  | .list 0 link none _ => link == next
  | _ => false

/-- Whether an object can be the node before another one. -/
def precedes (next : Nat) (head successor : Object) : Bool :=
  head.kind == .region && head.size == successor.size && head.level == successor.level &&
    continues next successor.kind

/-- The field that links a node to its successor, if it leads to the start of the successor and no
other pointer and no other field does. -/
def link? (graph : Graph) (fold : Fold) : Option Field := do
  let link ← (graph.fieldsOf fold.head).find? fun field => field.range.offset == fold.next
  let target ← graph.target? link.value
  if target.object = fold.successor ∧ target.offset = 0 ∧
      (graph.pointersInto fold.successor).length = 1 ∧
      (graph.fields.filter fun field => field.value == link.value).length = 1 then
    some link
  else
    none

/-- What an object holds besides the link at `next`. -/
def otherContents (graph : Graph) (next : Nat) (object : ObjectId) : List (BitRange × ValueId) :=
  ((graph.fieldsOf object).filter fun field => field.range.offset != next).map fun field =>
    (field.range, field.value)

/-- The parts of two nodes that can be folded. -/
structure Parts where
  /-- The node. -/
  head : Object
  /-- Its successor. -/
  successor : Object
  /-- The link between them. -/
  link : Field

/-- The parts of a folding, if the two nodes can be folded. -/
def parts? (graph : Graph) (fold : Fold) : Option Parts := do
  let head ← graph.object? fold.head
  let successor ← graph.object? fold.successor
  if fold.head ≠ fold.successor ∧ graph.isHeap fold.head ∧ graph.isHeap fold.successor ∧
      precedes fold.next head successor ∧
      graph.isValid fold.head = graph.isValid fold.successor then
    let link ← fold.link? graph
    if otherContents graph fold.next fold.head = otherContents graph fold.next fold.successor then
      some ⟨head, successor, link⟩
    else
      none
  else
    none

/-- The foldings that start at an object, in the order of the links. -/
def startingFrom (graph : Graph) (object : ObjectId) : List Fold :=
  (graph.fieldsOf object).filterMap fun field => do
    let target ← graph.target? field.value
    let fold : Fold := ⟨object, target.object, field.range.offset⟩
    let _ ← fold.parts? graph
    return fold

/-- The segment that takes the place of two nodes. -/
def segment (parts : Parts) : Object :=
  { parts.head with
    kind := .list 0 parts.link.range.offset none (1 + parts.successor.kind.leastLength) }

/-- A pointer to the node becomes one to the segment; what pointed to the region points to the first
node. -/
def redirect (segment : ObjectId) (pointer : Pointer) : Pointer :=
  let specifier := match pointer.target.specifier with
    | .region => .first
    | specifier => specifier
  ⟨pointer.value, ⟨segment, pointer.target.offset, specifier⟩⟩

/-- Folds two nodes into a new list segment, which takes the link of the successor and all else of
the node.  Nothing happens if the nodes cannot be folded. -/
def perform (fold : Fold) : Run Graph (Option ObjectId) := do
  match ← Run.ask fun graph => fold.parts? graph with
  | none => return none
  | some parts => do
      let id ← Run.draw Draw.objectId
      let before ← Run.state
      let kept := (before.fieldsOf fold.head).filter fun field =>
        field.range.offset != parts.link.range.offset
      let moved := (before.fieldsOf fold.successor).filter fun field =>
        field.range.offset == parts.link.range.offset
      let incoming := before.pointersInto fold.head
      Run.modify fun graph =>
        ((((graph.removePointer parts.link.value).removeObject fold.head).removeObject
          fold.successor).addHeapObject id (segment parts))
      Run.attempt fun graph => graph.setValid id (before.isValid fold.head)
      (kept ++ moved).forM fun field =>
        Run.attempt fun graph => graph.addField { field with object := id }
      incoming.forM fun pointer =>
        Run.attempt fun graph => graph.addPointer (redirect id pointer)
      return some id

end Fold

end ShapeDomain
