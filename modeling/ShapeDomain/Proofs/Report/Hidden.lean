import ShapeDomain.Graph.Operation
import ShapeDomain.Proofs.Graph.Sound
import ShapeDomain.Proofs.Report.Quotes

/-!
# What is left of NULL where it is hidden

A drawing may leave out the node of the NULL object and that of the zero value.  A reader makes a
node of every name at the end of an arrow, though, so that they come back wherever a field, a
pointer or an inequality names them.  `Graph.mentions_hidden_iff` says for which graphs they do.
-/

namespace ShapeDomain

namespace Dot

/-! ## Names of nodes -/

theorem toDigits_injective : Function.Injective (Nat.toDigits 10) := by
  intro a b same
  rw [← Nat.ofDigitChars_toDigits (b := 10) (n := a) (by decide) (by decide), same,
    Nat.ofDigitChars_toDigits (by decide) (by decide)]

theorem Vertex.toList_object (id : ObjectId) :
    (object id).text.toList =
      if id.isNull then ['n', 'u', 'l', 'l'] else 'o' :: Nat.toDigits 10 id.index := by
  change (if id.isNull then "null" else "o" ++ toString id.index).toList = _
  split <;> simp

theorem Vertex.toList_value (id : ValueId) :
    (value id).text.toList = 'v' :: Nat.toDigits 10 id.index := by
  simp [text]

/-- Objects and values have different names. -/
theorem Vertex.text_object_ne_text_value (object : ObjectId) (value : ValueId) :
    (Vertex.object object).text ≠ (Vertex.value value).text := by
  intro same
  have letters := congrArg String.toList same
  rw [toList_object, toList_value] at letters
  split at letters <;> simp at letters

/-- The name of a node tells which node it is. -/
theorem Vertex.text_injective : Function.Injective Vertex.text := by
  intro first second same
  cases first with
  | object a =>
      cases second with
      | object b =>
          have letters := congrArg String.toList same
          rw [toList_object, toList_object] at letters
          split at letters <;> split at letters
          case isTrue.isTrue nullA nullB => rw [beq_iff_eq.1 nullA, beq_iff_eq.1 nullB]
          case isFalse.isFalse =>
            have indices : a.index = b.index := toDigits_injective (List.cons_eq_cons.1 letters).2
            rw [show a = b from congrArg ObjectId.mk indices]
          all_goals simp at letters
      | value b => exact absurd same (text_object_ne_text_value a b)
  | value a =>
      cases second with
      | object b => exact absurd same.symm (text_object_ne_text_value b a)
      | value b =>
          have letters := congrArg String.toList same
          rw [toList_value, toList_value] at letters
          have indices : a.index = b.index := toDigits_injective (List.cons_eq_cons.1 letters).2
          rw [show a = b from congrArg ValueId.mk indices]

variable {vertex : Vertex}

/-! ## The nodes of a line -/

/-- The nodes that a line names: the one that it declares, or the two that it connects. -/
def Statement.vertices : Statement → List Vertex
  | object id _ => [.object id]
  | value id _ => [.value id]
  | field held => [.object held.object, .value held.value]
  | pointer address => [.value address.value, .object address.target.object]
  | inequality a b _ => [.value a, .value b]
  | opening _ | caption _ | records | cluster _ | closing => []

/-- How a line that names some nodes begins: with their names, an arrow between them, and a
bracket. -/
def lineStart (vertices : List Vertex) : List Char :=
  (" -> ".intercalate (vertices.map Vertex.text) ++ " [").toList

/-- A line begins with the names of nodes, and a node is one of them. -/
def Names (line : List Char) (vertex : Vertex) : Prop :=
  ∃ vertices, lineStart vertices <+: line ∧ vertex ∈ vertices

/-- What follows the first name, but for a blank. -/
def lineRest : List Vertex → List Char
  | [] => ['[']
  | next :: rest => '-' :: '>' :: ' ' :: lineStart (next :: rest)

theorem lineStart_cons (vertex : Vertex) (rest : List Vertex) :
    lineStart (vertex :: rest) = vertex.text.toList ++ ' ' :: lineRest rest := by
  cases rest <;> simp [lineStart, lineRest]

/-- The line of a node or an arrow begins with the names and goes on with attributes. -/
theorem Statement.chars_eq {statement : Statement} (drawn : statement.vertices ≠ []) :
    ∃ attributes, statement.chars = lineStart statement.vertices ++ attributes := by
  cases statement with
  | object | value | field | pointer | inequality =>
      simp [chars, pieces, vertices, Piece.chars, labelled, lineStart]
  | opening | caption | records | cluster | closing => exact absurd rfl drawn

/-! ## Reading the names of a line -/

/-- The name of a node is a word. -/
theorem Vertex.not_mem_text (vertex : Vertex) : ' ' ∉ vertex.text.toList := by
  have digits (n : Nat) : ' ' ∉ Nat.toDigits 10 n := fun member => by
    have digit : ' '.isDigit = true := Nat.isDigit_of_mem_toDigits (by decide) (by decide) member
    cases digit
  cases vertex with
  | object id =>
      rw [toList_object]
      split <;> simp [digits]
  | value id => simp [toList_value, digits]

theorem Vertex.text_ne_nil (vertex : Vertex) : vertex.text.toList ≠ [] := by
  cases vertex with
  | object id =>
      rw [toList_object]
      split <;> simp
  | value id => simp [toList_value]

/-- Words in front of a blank are the same if what is read is. -/
theorem eq_of_word {first second rest others : List Char} (word : ' ' ∉ first)
    (word' : ' ' ∉ second)
    (same : first ++ ' ' :: rest <+: second ++ ' ' :: others) :
    first = second ∧ rest <+: others := by
  induction first generalizing second with
  | nil =>
      cases second with
      | nil => exact ⟨rfl, (List.cons_prefix_cons.1 same).2⟩
      | cons c second =>
          obtain ⟨rfl, -⟩ := List.cons_prefix_cons.1 same
          exact absurd List.mem_cons_self word'
  | cons c first ih =>
      cases second with
      | nil =>
          obtain ⟨rfl, -⟩ := List.cons_prefix_cons.1 same
          exact absurd List.mem_cons_self word
      | cons c' second =>
          rw [List.cons_append, List.cons_append, List.cons_prefix_cons] at same
          obtain ⟨rfl, same⟩ := same
          obtain ⟨rfl, follows⟩ := ih (fun member => word (List.mem_cons_of_mem _ member))
            (fun member => word' (List.mem_cons_of_mem _ member)) same
          exact ⟨rfl, follows⟩

/-- A line that begins with the names of some nodes does not begin with those of others. -/
theorem lineStart_unique {vertices others : List Vertex} {attributes : List Char}
    (same : lineStart vertices <+: lineStart others ++ attributes) : vertices = others := by
  induction vertices generalizing others with
  | nil =>
      cases others with
      | nil => rfl
      | cons other others =>
          rw [lineStart_cons, List.append_assoc] at same
          exact absurd (@eq_of_word [] _ _ _ List.not_mem_nil other.not_mem_text same).1.symm
            other.text_ne_nil
  | cons vertex rest ih =>
      rw [lineStart_cons] at same
      cases others with
      | nil =>
          exact absurd (@eq_of_word _ [] _ _ vertex.not_mem_text List.not_mem_nil same).1
            vertex.text_ne_nil
      | cons other others =>
          rw [lineStart_cons, List.append_assoc] at same
          obtain ⟨text, follows⟩ := eq_of_word vertex.not_mem_text other.not_mem_text same
          rw [Vertex.text_injective (String.toList_inj.1 text)]
          cases rest with
          | nil =>
              cases others with
              | nil => rfl
              | cons => simp [lineRest] at follows
          | cons next rest =>
              cases others with
              | nil => simp [lineRest] at follows
              | cons => rw [ih (by simpa [lineRest] using follows)]

/-- The other lines do not begin with names of nodes. -/
theorem Statement.not_names {statement : Statement} (other : statement.vertices = []) :
    ¬Names statement.chars vertex := by
  rintro ⟨vertices, starts, member⟩
  obtain ⟨first, rest, rfl⟩ := List.exists_cons_of_ne_nil (List.ne_nil_of_mem member)
  rw [lineStart_cons] at starts
  cases statement with
  | object | value | field | pointer | inequality => simp [Statement.vertices] at other
  | opening | caption | records | cluster | closing =>
      cases first with
      | object id =>
          rw [Vertex.toList_object] at starts
          split at starts <;> simp [chars, pieces, Piece.chars] at starts
      | value id => simp [Vertex.toList_value, chars, pieces, Piece.chars] at starts

theorem Statement.names_chars_iff {statement : Statement} :
    Names statement.chars vertex ↔ vertex ∈ statement.vertices := by
  by_cases drawn : statement.vertices = []
  · simp [not_names drawn, drawn]
  · obtain ⟨attributes, same⟩ := chars_eq drawn
    constructor
    · rintro ⟨vertices, starts, member⟩
      rw [same] at starts
      exact lineStart_unique starts ▸ member
    · exact fun member => ⟨_, same ▸ List.prefix_append _ _, member⟩

/-! ## The nodes of several lines -/

/-- A node is among those that the lines of a drawing name. -/
def Mentions (statements : List Statement) (vertex : Vertex) : Prop :=
  ∃ line ∈ statements.map Statement.chars, Names line vertex

theorem mentions_iff {statements : List Statement} :
    Mentions statements vertex ↔ ∃ statement ∈ statements, vertex ∈ statement.vertices := by
  simp only [Mentions, List.mem_map, exists_exists_and_eq_and, Statement.names_chars_iff]

instance (statements : List Statement) (vertex : Vertex) : Decidable (Mentions statements vertex) :=
  decidable_of_iff _ mentions_iff.symm

@[simp] theorem mentions_nil : ¬Mentions [] vertex := by
  simp [Mentions]

@[simp] theorem mentions_cons {statement : Statement} {rest : List Statement} :
    Mentions (statement :: rest) vertex ↔ vertex ∈ statement.vertices ∨ Mentions rest vertex := by
  simp [mentions_iff]

@[simp] theorem mentions_append {first second : List Statement} :
    Mentions (first ++ second) vertex ↔ Mentions first vertex ∨ Mentions second vertex := by
  simp [mentions_iff, or_and_right, exists_or]

theorem mentions_flatMap {α : Type} {list : List α} {f : α → List Statement} :
    Mentions (list.flatMap f) vertex ↔ ∃ item ∈ list, Mentions (f item) vertex := by
  simp only [mentions_iff, List.mem_flatMap]
  constructor
  · rintro ⟨statement, ⟨item, member, shown⟩, named⟩
    exact ⟨item, member, statement, shown, named⟩
  · rintro ⟨item, member, statement, shown, named⟩
    exact ⟨statement, ⟨item, member, shown⟩, named⟩

theorem mentions_map {α : Type} {list : List α} {f : α → Statement} :
    Mentions (list.map f) vertex ↔ ∃ item ∈ list, vertex ∈ (f item).vertices := by
  simp [mentions_iff]

end Dot

namespace Graph

open Dot

variable {graph : Graph} {style : Style} {vertex : Vertex}

/-! ## The nodes of a drawing -/

theorem mentions_dotObject {name : Option String} {id : ObjectId} :
    Mentions (graph.dotObject style name id) vertex ↔
      vertex = .object id ∧ graph.hasObject id = true := by
  unfold dotObject
  cases found : graph.object? id with
  | none => simp [graph.hasObject_iff, found]
  | some object => simp [graph.hasObject_iff, found, Statement.vertices]

theorem mentions_dotScope (name caption : String) (scope : Table String ObjectId) :
    Mentions (graph.dotScope style name caption scope) vertex ↔
      ∃ entry ∈ scope.toList, vertex = .object entry.2 ∧ graph.hasObject entry.2 = true := by
  simp [dotScope, Statement.vertices, mentions_flatMap, mentions_dotObject]

/-- The clusters show the objects of the variables. -/
theorem mentions_dotScopes :
    Mentions (graph.dotScopes style) vertex ↔
      ∃ entry ∈ graph.roots, vertex = .object entry.2 ∧ graph.hasObject entry.2 = true := by
  have each (name caption : String) (scope : Table String ObjectId) :
      (∀ statement ∈ graph.dotScope style name caption scope, vertex ∉ statement.vertices) ↔
        ∀ entry ∈ scope.toList, ¬(vertex = .object entry.2 ∧ graph.hasObject entry.2 = true) := by
    simpa [mentions_iff] using not_congr (mentions_dotScope name caption scope)
  have all := (forall_mem_dotScopes each (by simp +contextual)).trans forall_mem_roots.symm
  simpa [mentions_iff] using not_congr all

/-- Outside of the clusters, objects without names are shown, the NULL object only if it is not
hidden. -/
theorem mentions_dotObjects :
    Mentions (graph.dotObjects style) vertex ↔
      ∃ id object, vertex = .object id ∧ graph.object? id = some object ∧
        id ∉ graph.roots.map Prod.snd ∧ (style.drawNull = true ∨ object.kind.isNull = false) := by
  simp only [dotObjects, mentions_flatMap, mentions_dotObject, List.mem_filter,
    List.contains_eq_mem, Bool.and_eq_true, Bool.or_eq_true, Bool.not_eq_true',
    decide_eq_false_iff_not]
  constructor
  · rintro ⟨⟨id, placement⟩, ⟨placed, unnamed, shown⟩, same, -⟩
    have found : graph.object? id = some placement.object :=
      Option.map_eq_some_iff.2 ⟨placement, Table.mem_toList_iff.1 placed, rfl⟩
    exact ⟨id, placement.object, same, found, unnamed, shown⟩
  · rintro ⟨id, object, same, found, unnamed, shown⟩
    obtain ⟨placement, placed, rfl⟩ := Option.map_eq_some_iff.1 found
    exact ⟨(id, placement), ⟨Table.mem_toList_iff.2 placed, unnamed, shown⟩, same,
      hasObject_of_object? found⟩

theorem mentions_dotValues :
    Mentions (graph.dotValues style) vertex ↔
      ∃ value, vertex = .value value ∧ graph.hasValue value = true ∧
        (style.drawNull = true ∨ value.isZero = false) := by
  simp only [dotValues, mentions_map, Statement.vertices, List.mem_filter, List.mem_singleton,
    Bool.or_eq_true, Bool.not_eq_true', hasValue, Table.contains, Option.isSome_iff_exists]
  constructor
  · rintro ⟨⟨value, known⟩, ⟨member, shown⟩, same⟩
    exact ⟨value, same, ⟨known, Table.mem_toList_iff.1 member⟩, shown⟩
  · rintro ⟨value, same, ⟨known, found⟩, shown⟩
    exact ⟨(value, known), ⟨Table.mem_toList_iff.2 found, shown⟩, same⟩

/-- The arrows of the fields connect objects of the graph with what they hold. -/
theorem mentions_dotFields :
    Mentions graph.dotFields vertex ↔
      ∃ object range value, (vertex = .object object ∨ vertex = .value value) ∧
        graph.hasObject object = true ∧ graph.valueAt? object range = some value := by
  simp only [dotFields, mentions_map, Statement.vertices, List.mem_flatMap, Table.mem_keys_iff,
    List.mem_pair]
  constructor
  · rintro ⟨held, ⟨object, present, member⟩, same⟩
    obtain ⟨rfl, found⟩ := mem_fieldsOf_iff.1 member
    exact ⟨held.object, held.range, held.value, same, present, found⟩
  · rintro ⟨object, range, value, same, present, found⟩
    exact ⟨⟨object, range, value⟩, ⟨object, present, mem_fieldsOf.2 found⟩, same⟩

theorem mentions_dotPointers :
    Mentions (graph.dotPointers style) vertex ↔
      ∃ value target, (vertex = .value value ∨ vertex = .object target.object) ∧
        graph.target? value = some target ∧ (style.drawNull = true ∨ value.isZero = false) := by
  simp only [dotPointers, mentions_map, Statement.vertices, List.mem_filter, mem_pointers_iff,
    List.mem_pair, Bool.or_eq_true, Bool.not_eq_true']
  constructor
  · rintro ⟨⟨value, target⟩, ⟨leads, shown⟩, same⟩
    exact ⟨value, target, same, leads, shown⟩
  · rintro ⟨value, target, same, leads, shown⟩
    exact ⟨⟨value, target⟩, ⟨leads, shown⟩, same⟩

theorem mentions_dotInequalities :
    Mentions (graph.dotInequalities style) vertex ↔
      ∃ pair ∈ graph.inequalities.keys, vertex = .value pair.1 ∨ vertex = .value pair.2 := by
  simp [dotInequalities, mentions_map, Statement.vertices]

theorem mentions_drawing {name location : String} :
    Mentions (graph.drawing style name location) vertex ↔
      Mentions (graph.dotScopes style) vertex ∨ Mentions (graph.dotObjects style) vertex ∨
      Mentions (graph.dotValues style) vertex ∨ Mentions graph.dotFields vertex ∨
      Mentions (graph.dotPointers style) vertex ∨
        Mentions (graph.dotInequalities style) vertex := by
  simp [drawing, Statement.vertices]

/-- The text of a drawing consists of its lines. -/
theorem toList_toDot {name location : String} : (graph.toDot style name location).toList =
    ((graph.drawing style name location).map Statement.chars).flatten := by
  rw [toDot, render, String.toList_ofList, List.flatMap_def]

/-! ## NULL and zero -/

/-- What shows the NULL object although it is hidden. -/
inductive ShowsNull (graph : Graph) : Prop
  /-- It has a variable. -/
  | named {name : String} (named : (name, ObjectId.null) ∈ graph.roots)
      (present : graph.hasObject .null = true)
  /-- It was replaced by an object of another kind. -/
  | replaced {object : Object} (found : graph.object? .null = some object)
      (replaced : object.kind.isNull = false)
  /-- It has a field. -/
  | field {range : BitRange} {value : ValueId} (present : graph.hasObject .null = true)
      (held : graph.valueAt? .null range = some value)
  /-- A value other than zero is an address of it. -/
  | pointer {value : ValueId} {target : Target} (leads : graph.target? value = some target)
      (into : target.object = .null) (other : value.isZero = false)

/-- What shows the zero value although it is hidden. -/
inductive ShowsZero (graph : Graph) : Prop
  /-- A field holds it. -/
  | field {object : ObjectId} {range : BitRange} (present : graph.hasObject object = true)
      (held : graph.valueAt? object range = some .zero)
  /-- A value is known to be unequal to it. -/
  | inequality {pair : ValueId × ValueId} (unequal : pair ∈ graph.inequalities.keys)
      (member : .zero = pair.1 ∨ .zero = pair.2)

section Hidden

variable {name location : String} (hidden : style.drawNull = false)

include hidden

theorem mentions_null_iff :
    Mentions (graph.drawing style name location) (.object .null) ↔ graph.ShowsNull := by
  rw [mentions_drawing, mentions_dotScopes, mentions_dotObjects, mentions_dotValues,
    mentions_dotFields, mentions_dotPointers, mentions_dotInequalities]
  simp only [hidden, Vertex.object.injEq, reduceCtorEq, false_or, or_false, false_and, and_false,
    exists_false, Bool.false_eq_true]
  constructor
  · rintro (⟨⟨holder, _⟩, named, rfl, present⟩ | ⟨_, object, rfl, found, -, other⟩ |
      ⟨_, range, value, rfl, present, held⟩ | ⟨value, target, into, leads, other⟩)
    · exact .named named present
    · exact .replaced found other
    · exact .field present held
    · exact .pointer leads into.symm other
  · rintro (⟨named, present⟩ | ⟨found, other⟩ | ⟨present, held⟩ | ⟨leads, into, other⟩)
    · exact .inl ⟨_, named, rfl, present⟩
    · -- If it has a variable as well, it is drawn with it and not among the objects without names.
      by_cases named : .null ∈ graph.roots.map Prod.snd
      · obtain ⟨entry, member, same⟩ := List.mem_map.1 named
        exact .inl ⟨entry, member, same.symm, same ▸ hasObject_of_object? found⟩
      · exact .inr (.inl ⟨_, _, rfl, found, named, other⟩)
    · exact .inr (.inr (.inl ⟨_, _, _, rfl, present, held⟩))
    · exact .inr (.inr (.inr ⟨_, _, into.symm, leads, other⟩))

theorem mentions_zero_iff :
    Mentions (graph.drawing style name location) (.value .zero) ↔ graph.ShowsZero := by
  rw [mentions_drawing, mentions_dotScopes, mentions_dotObjects, mentions_dotValues,
    mentions_dotFields, mentions_dotPointers, mentions_dotInequalities]
  simp only [hidden, Vertex.value.injEq, reduceCtorEq, false_or, or_false, false_and, and_false,
    exists_false, Bool.false_eq_true]
  have zero : ValueId.zero.isZero ≠ false := nofun
  constructor
  · rintro (⟨_, rfl, -, other⟩ | ⟨object, range, _, rfl, present, held⟩ |
      ⟨_, target, rfl, -, other⟩ | ⟨pair, unequal, member⟩)
    · exact absurd other zero
    · exact .field present held
    · exact absurd other zero
    · exact .inequality unequal member
  · rintro (⟨present, held⟩ | ⟨unequal, member⟩)
    · exact .inr (.inl ⟨_, _, _, rfl, present, held⟩)
    · exact .inr (.inr (.inr ⟨_, unequal, member⟩))

/-- If NULL and zero are hidden, lines of the drawing name their nodes all the same where a
variable, a field, another address of NULL or an inequality shows them, and nowhere else. -/
theorem mentions_hidden_iff :
    (graph.toDot style name location).toList =
        ((graph.drawing style name location).map Statement.chars).flatten ∧
      (Mentions (graph.drawing style name location) (.object .null) ↔ graph.ShowsNull) ∧
      (Mentions (graph.drawing style name location) (.value .zero) ↔ graph.ShowsZero) :=
  ⟨toList_toDot, mentions_null_iff hidden, mentions_zero_iff hidden⟩

end Hidden

/-- The last node of a list, whose address is known to be unequal to zero. -/
def lastNode : Graph :=
  (Run.history Graph.Operation.perform
    [.addHeapObject ⟨1⟩ (.region 64 "node"), .addPointer ⟨⟨2⟩, ⟨⟨1⟩, 0, .region⟩⟩,
      .addField ⟨⟨1⟩, ⟨0, 64⟩, .zero⟩, .addInequality ⟨2⟩ .zero]
    (.initial .linux64, .full)).1

/-- The link of the node and the inequality show zero, but nothing shows NULL. -/
theorem mentions_hidden_lastNode :
    Mentions (lastNode.drawing { drawNull := false } "list" "end") (.value .zero) ∧
      ¬Mentions (lastNode.drawing { drawNull := false } "list" "end") (.object .null) := by
  have hidden : ({ drawNull := false } : Style).drawNull = false := rfl
  obtain ⟨-, null, zero⟩ : _ ∧ (_ ↔ lastNode.ShowsNull) ∧ (_ ↔ lastNode.ShowsZero) :=
    mentions_hidden_iff hidden
  refine ⟨zero.2 ?_, fun shown => ?_⟩
  · have held : lastNode.valueAt? ⟨1⟩ ⟨0, 64⟩ = some .zero := rfl
    exact .field rfl held
  · rcases null.1 shown with ⟨named, -⟩ | ⟨found, other⟩ | ⟨-, held⟩ | ⟨leads, into, other⟩
    · have nothing : lastNode.roots = [] := rfl
      simp [nothing] at named
    · obtain rfl := Option.some.inj found
      cases other
    · have nothing : lastNode.fieldsOf .null = [] := rfl
      simpa [nothing] using mem_fieldsOf.2 held
    · have only : ∀ pointer ∈ lastNode.pointers, pointer.target.object = .null →
          pointer.value.isZero = true := by decide +kernel
      have isZero := only ⟨_, _⟩ (mem_pointers_iff.2 leads) into
      exact absurd (isZero.symm.trans other) (by decide)

/-- A graph with a second address of NULL. -/
def nullAddress : Graph :=
  (Run.history Graph.Operation.perform
    [.addHeapObject ⟨1⟩ (.region 64 "node"), .addValue ⟨2⟩, .addPointer ⟨⟨2⟩, ⟨.null, 8, .region⟩⟩,
      .addField ⟨⟨1⟩, ⟨0, 64⟩, .zero⟩, .addInequality ⟨2⟩ .zero]
    (.initial .linux64, .full)).1

/-- It is consistent, and its drawing shows NULL and zero although they are hidden. -/
theorem mentions_hidden_nullAddress :
    nullAddress.Consistent ∧
      Mentions (nullAddress.drawing { drawNull := false } "list" "end") (.object .null) ∧
      Mentions (nullAddress.drawing { drawNull := false } "list" "end") (.value .zero) := by
  refine ⟨by decide +kernel, by decide +kernel, by decide +kernel⟩

end Graph

end ShapeDomain
