import ShapeDomain.Graph.Field
import ShapeDomain.Graph.Pointer

/-!
# Drawings

A graph as a drawing in the DOT language.  The drawing is a list of statements, and a statement is
written as a line.  Variables are drawn in a cluster for each scope, objects as records, values as
ellipses, and fields and pointers as arrows.
-/

namespace ShapeDomain

namespace Dot

/-- The choices that a drawing leaves open. -/
structure Style where
  /-- The colour of heap objects that may be accessed. -/
  liveColor : String := "green"
  /-- The colour of heap objects that were freed. -/
  freedColor : String := "red"
  /-- The colour of inequalities. -/
  inequalityColor : String := "red"
  /-- The style of abstract objects. -/
  abstractOutline : String := "dashed"
  /-- Whether the NULL object and the zero value are drawn. -/
  drawNull : Bool := true
  deriving DecidableEq, Repr, Inhabited

/-- The node of an object or a value. -/
inductive Vertex where
  /-- The node of an object. -/
  | object (id : ObjectId)
  /-- The node of a value. -/
  | value (id : ValueId)
  deriving DecidableEq, Repr

/-- The name of a node. -/
def Vertex.text : Vertex → String
  | object id => if id.isNull then "null" else "o" ++ toString id.index
  | value id => "v" ++ toString id.index

/-- An attribute of a node. -/
inductive Attribute where
  /-- The text of a record, which is quoted. -/
  | record (content : List Char)
  /-- The style of a filled node, which is quoted. -/
  | filled (style : List Char)
  /-- The colour that a node is filled with. -/
  | fillColor (color : String)
  /-- The style of a node that is not filled. -/
  | outline (style : String)

/-- A statement of a drawing. -/
inductive Statement where
  /-- The drawing begins; its name is quoted. -/
  | opening (name : List Char)
  /-- A caption, which is quoted. -/
  | caption (text : List Char)
  /-- Nodes are records. -/
  | records
  /-- A cluster begins. -/
  | cluster (name : String)
  /-- A cluster or the drawing ends. -/
  | closing
  /-- The node of an object. -/
  | object (id : ObjectId) (attributes : List Attribute)
  /-- The node of a value, with the number it is known to be. -/
  | value (id : ValueId) (number : Option Int)
  /-- The arrow of a field. -/
  | field (held : Field)
  /-- The arrow of a pointer. -/
  | pointer (address : Pointer)
  /-- The line of an inequality. -/
  | inequality (a b : ValueId) (color : String)

/-! ### Quoting -/

/-- The characters that are special in a record or a quoted text. -/
def isSpecial (c : Char) : Bool :=
  c == '"' || c == '\x7b' || c == '\x7d' || c == '|' || c == '<' || c == '>'

/-- Puts a backslash before every special character. -/
def escape : List Char → List Char
  | [] => []
  | c :: rest => if isSpecial c then '\\' :: c :: escape rest else c :: escape rest

/-- A part of a line. -/
inductive Piece where
  /-- Text that stands as it is. -/
  | plain (text : String)
  /-- Text between double quotes. -/
  | quoted (text : List Char)

/-- The characters of a part of a line. -/
def Piece.chars : Piece → List Char
  | plain text => text.toList
  | quoted text => '"' :: text ++ ['"']

/-- Joins parts with commas between them. -/
def separate : List (List Piece) → List Piece
  | [] => []
  | [item] => item
  | item :: rest => item ++ .plain ", " :: separate rest

/-- The parts of an attribute. -/
def Attribute.pieces : Attribute → List Piece
  | record content => [.plain "label=", .quoted ('\x7b' :: content ++ ['\x7d'])]
  | filled style => [.plain "style=", .quoted style]
  | fillColor color => [.plain ("fillcolor=" ++ color)]
  | outline style => [.plain ("style=" ++ style)]

/-- The parts of a node or arrow with a quoted label. -/
def labelled (start label : String) : List Piece :=
  [.plain (start ++ "label="), .quoted label.toList, .plain "];"]

/-- The parts of the line of a statement. -/
def Statement.pieces : Statement → List Piece
  | opening name => [.plain "digraph ", .quoted name, .plain " \x7b"]
  | caption text => [.plain "label=", .quoted text, .plain ";"]
  | records => [.plain "node [shape=record];"]
  | cluster name => [.plain ("subgraph " ++ name ++ " \x7b")]
  | closing => [.plain "\x7d"]
  | object id attributes =>
      .plain ((Vertex.object id).text ++ " [") ::
        separate (attributes.map Attribute.pieces) ++ [.plain "];"]
  | value id number =>
      let known := match number with
        | some number => " = " ++ toString number
        | none => ""
      labelled ((Vertex.value id).text ++ " [shape=ellipse, ") (id.text ++ known)
  | field held =>
      labelled ((Vertex.object held.object).text ++ " -> " ++
        (Vertex.value held.value).text ++ " [")
        ("[" ++ toString held.range.offset ++ "b, " ++ toString held.range.stop ++ "b)")
  | pointer ⟨address, target⟩ =>
      labelled ((Vertex.value address).text ++ " -> " ++ (Vertex.object target.object).text ++
        " [") ("+" ++ toString target.offset ++ "b, " ++ target.specifier.text)
  | inequality a b color =>
      [.plain ((Vertex.value a).text ++ " -> " ++ (Vertex.value b).text ++
        " [dir=none, color=" ++ color ++ "];")]

/-- The characters of the line of a statement. -/
def Statement.chars (statement : Statement) : List Char :=
  statement.pieces.flatMap Piece.chars ++ ['\n']

/-- The text of a drawing. -/
def render (statements : List Statement) : String :=
  String.ofList (statements.flatMap Statement.chars)

end Dot

namespace Graph

open Dot

/-- How a heap object is filled, or how an abstract object outside of the heap is outlined. -/
def dotStyle (graph : Graph) (style : Style) (id : ObjectId) (object : Object) :
    List Attribute :=
  if graph.isHeap id then
    let outline := if object.kind.isAbstract then "," ++ style.abstractOutline else ""
    let color := if graph.isValid id then style.liveColor else style.freedColor
    [.filled ("filled" ++ outline).toList, .fillColor color]
  else if object.kind.isAbstract then
    [.outline style.abstractOutline]
  else
    []

/-- The node of an object, if it is in the graph; that of a variable shows its name. -/
def dotObject (graph : Graph) (style : Style) (name : Option String) (id : ObjectId) :
    List Statement :=
  match graph.object? id with
  | none => []
  | some object =>
      let shown := escape (object.text id).toList
      let content := match name with
        | some name => escape name.toList ++ " | ".toList ++ shown
        | none => shown
      [.object id (.record content :: graph.dotStyle style id object)]

/-- A cluster with the variables of a scope. -/
def dotScope (graph : Graph) (style : Style) (name : String) (caption : String)
    (scope : Table String ObjectId) : List Statement :=
  [.cluster name, .caption (escape caption.toList)] ++
    (scope.toList.flatMap fun entry => graph.dotObject style (some entry.1) entry.2) ++
    [.closing]

/-- The clusters of the functions and that of the global variables, if there are any. -/
def dotScopes (graph : Graph) (style : Style) : List Statement :=
  (graph.frames.zipIdx.flatMap fun entry =>
    graph.dotScope style ("cluster_frame_" ++ toString entry.2) entry.1.function
      entry.1.locals) ++
  if graph.globals.toList.isEmpty then []
  else graph.dotScope style "cluster_globals" "globals" graph.globals

/-- The nodes of the objects that no variable names. -/
def dotObjects (graph : Graph) (style : Style) : List Statement :=
  let named := graph.roots.map Prod.snd
  let rest := graph.objects.toList.filter fun entry =>
    !named.contains entry.1 && (style.drawNull || !entry.2.object.kind.isNull)
  rest.flatMap fun entry => graph.dotObject style none entry.1

/-- The nodes of the values. -/
def dotValues (graph : Graph) (style : Style) : List Statement :=
  let shown := graph.values.toList.filter fun entry => style.drawNull || !entry.1.isZero
  shown.map fun entry => .value entry.1 entry.2.number

/-- The arrows of the fields of the objects. -/
def dotFields (graph : Graph) : List Statement :=
  (graph.objects.keys.flatMap graph.fieldsOf).map .field

/-- The arrows of the pointers. -/
def dotPointers (graph : Graph) (style : Style) : List Statement :=
  let shown := graph.pointers.filter fun pointer => style.drawNull || !pointer.value.isZero
  shown.map .pointer

/-- The lines of the inequalities. -/
def dotInequalities (graph : Graph) (style : Style) : List Statement :=
  graph.inequalities.keys.map fun pair => .inequality pair.1 pair.2 style.inequalityColor

/-- The drawing of a graph, under a name and with a caption. -/
def drawing (graph : Graph) (style : Style) (name location : String) : List Statement :=
  [.opening (escape name.toList), .caption (escape location.toList), .records] ++
    graph.dotScopes style ++ graph.dotObjects style ++ graph.dotValues style ++
    graph.dotFields ++ graph.dotPointers style ++ graph.dotInequalities style ++ [.closing]

/-- The drawing of a graph as text. -/
def toDot (graph : Graph) (style : Style) (name location : String) : String :=
  render (graph.drawing style name location)

end Graph

end ShapeDomain
