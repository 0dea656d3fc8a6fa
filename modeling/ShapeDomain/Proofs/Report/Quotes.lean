import ShapeDomain.Report.Dot

/-!
# Where quoted texts end

A drawing quotes names, captions and labels.  A reader ends a quoted text at its first quote that is
not escaped, that is, that does not stand behind an odd number of backslashes.  The special
characters of a text are escaped, but its backslashes are not: together with those that are put in
they may free a quote of the text, or capture the closing one.  `Graph.drawing_closed_iff` says for
which graphs no text does so.
-/

namespace ShapeDomain

namespace Dot

/-! ## Escaped quotes -/

/-- Whether some characters escape a quote that follows them: they end in an odd number of
backslashes. -/
def escapesNext (before : List Char) : Bool :=
  (before.reverse.takeWhile (· == '\\')).length % 2 == 1

/-- Every quote of a text is escaped, if `escaped`, or no quote of it is. -/
def Quotes (escaped : Bool) (text : List Char) : Prop :=
  ∀ before after, text = before ++ '"' :: after → escapesNext before = escaped

/-- A quoted text ends where it is meant to: its own quotes are escaped, and the closing quote is
not. -/
def EndsAtQuote (text : List Char) : Prop :=
  Quotes true text ∧ escapesNext text = false

/-- A text that can be escaped: none of its quotes is escaped yet. -/
abbrev Escapable (text : List Char) : Prop := Quotes false text

/-- A text that can be escaped and does not capture what follows it. -/
def Quotable (text : List Char) : Prop :=
  Escapable text ∧ escapesNext text = false

/-- Whether a quote is escaped behind a character, if `escaped` says so of a quote in its place. -/
def escapesBehind (escaped : Bool) (c : Char) : Bool :=
  c == '\\' && !escaped

/-- Reads a text all of whose quotes are escaped, or none, starting where a quote would be escaped
or not.  The result says whether a quote behind the text would be. -/
def scan (wanted : Bool) : (escaped : Bool) → List Char → Option Bool
  | escaped, [] => some escaped
  | escaped, c :: rest =>
      if c = '"' ∧ escaped ≠ wanted then none else scan wanted (escapesBehind escaped c) rest

theorem escapesBehind_of_ne {c : Char} (plain : c ≠ '\\') (escaped : Bool) :
    escapesBehind escaped c = false := by
  simp [escapesBehind, beq_false_of_ne plain]

theorem escapesNext_concat (before : List Char) (c : Char) :
    escapesNext (before ++ [c]) = escapesBehind (escapesNext before) c := by
  unfold escapesNext escapesBehind
  rw [List.reverse_append, List.reverse_singleton, List.singleton_append, List.takeWhile_cons]
  by_cases backslash : c = '\\'
  · simp only [backslash, beq_self_eq_true, if_true, List.length_cons, Bool.true_and]
    rcases Nat.mod_two_eq_zero_or_one (before.reverse.takeWhile (· == '\\')).length with even | odd
    · simp [Nat.add_mod, even]
    · simp [Nat.add_mod, odd]
  · simp [backslash]

/-- The scanner follows the quotes of a text that stands behind another one. -/
theorem scan_eq_some_iff {wanted escaped : Bool} (front : List Char) {text : List Char} :
    scan wanted (escapesNext front) text = some escaped ↔
      (∀ before after, text = before ++ '"' :: after → escapesNext (front ++ before) = wanted) ∧
        escapesNext (front ++ text) = escaped := by
  induction text generalizing front with
  | nil => simp [scan]
  | cons c rest ih =>
      rw [scan]
      have behind : front ++ c :: rest = (front ++ [c]) ++ rest := by simp
      split
      case isTrue stopped =>
        obtain ⟨rfl, unwanted⟩ := stopped
        constructor
        · simp
        · rintro ⟨quotes, -⟩
          exact absurd (by simpa using quotes [] rest rfl) unwanted
      case isFalse passed =>
        rw [← escapesNext_concat, ih, behind]
        refine and_congr_left fun _ => ⟨?_, ?_⟩
        · rintro quotes (_ | ⟨first, before⟩) after same
          · obtain ⟨rfl, rfl⟩ := List.cons_eq_cons.1 same
            simpa using passed
          · obtain ⟨rfl, rfl⟩ := List.cons_eq_cons.1 same
            simpa using quotes before after rfl
        · rintro quotes before after rfl
          simpa using quotes (c :: before) after rfl

theorem scan_append {wanted escaped : Bool} (first second : List Char) :
    scan wanted escaped (first ++ second) =
      (scan wanted escaped first).bind fun escaped => scan wanted escaped second := by
  induction first generalizing escaped with
  | nil => rfl
  | cons c rest ih =>
      simp only [List.cons_append, scan]
      split
      · rfl
      · exact ih

theorem endsAtQuote_iff {text : List Char} :
    EndsAtQuote text ↔ scan true false text = some false :=
  (scan_eq_some_iff []).symm

theorem quotable_iff {text : List Char} : Quotable text ↔ scan false false text = some false :=
  (scan_eq_some_iff []).symm

theorem quotes_iff {wanted : Bool} {text : List Char} :
    Quotes wanted text ↔ (scan wanted false text).isSome := by
  rw [Option.isSome_iff_exists]
  constructor
  · intro quotes
    exact ⟨_, (scan_eq_some_iff []).2 ⟨quotes, rfl⟩⟩
  · rintro ⟨_, followed⟩
    exact ((scan_eq_some_iff []).1 followed).1

/-- What a reader takes for a quoted text of which `before` is read: the text ends at the first
quote that is not escaped. -/
def quotedText? (before : List Char) : List Char → Option (List Char)
  | [] => none
  | c :: rest =>
      if c = '"' ∧ escapesNext before = false then some before else quotedText? (before ++ [c]) rest

/-- What was read is kept. -/
theorem length_le_of_quotedText? {before text read : List Char}
    (found : quotedText? before text = some read) : before.length ≤ read.length := by
  induction text generalizing before with
  | nil => cases found
  | cons c rest ih =>
      rw [quotedText?] at found
      split at found
      · exact Nat.le_of_eq (congrArg List.length (Option.some.inj found))
      · exact Nat.le_of_succ_le (by simpa using ih found)

/-- The reader goes on to a quote exactly if all quotes in front of it are escaped and it is not. -/
theorem quotedText?_eq_some_iff {before text after : List Char} :
    quotedText? before (text ++ '"' :: after) = some (before ++ text) ↔
      scan true (escapesNext before) text = some false := by
  induction text generalizing before with
  | nil =>
      cases escaped : escapesNext before with
      | false => simp [quotedText?, escaped, scan]
      | true =>
          have longer : quotedText? (before ++ ['"']) after ≠ some before := fun found => by
            have kept := length_le_of_quotedText? found
            rw [List.length_append] at kept
            exact Nat.not_succ_le_self _ kept
          simpa [quotedText?, escaped, scan] using longer
  | cons c rest ih =>
      rw [List.cons_append, quotedText?, scan]
      by_cases stops : c = '"' ∧ escapesNext before = false
      · simp [stops]
      · have passes : ¬ (c = '"' ∧ escapesNext before ≠ true) := by simpa using stops
        rw [if_neg stops, if_neg passes, ← escapesNext_concat, ← ih, List.append_assoc]
        rfl

/-! ## Escaping -/

/-- What is put in before a quote escapes it exactly if it was not escaped. -/
theorem scan_escape {escaped : Bool} (text : List Char) :
    scan true escaped (escape text) = scan false escaped text := by
  induction text generalizing escaped with
  | nil => rfl
  | cons c rest ih =>
      by_cases quote : c = '"'
      · subst quote
        have put : escape ('"' :: rest) = '\\' :: '"' :: escape rest := rfl
        cases escaped <;> simp [put, scan, escapesBehind, ih]
      · by_cases special : isSpecial c
        · have plain : c ≠ '\\' := by
            rintro rfl
            cases special
          simp [escape, special, scan, escapesBehind_of_ne plain, quote, ih]
        · simp [escape, special, scan, quote, ih]

theorem endsAtQuote_escape {text : List Char} : EndsAtQuote (escape text) ↔ Quotable text := by
  rw [endsAtQuote_iff, scan_escape, quotable_iff]

theorem quotes_escape {text : List Char} : Quotes true (escape text) ↔ Escapable text := by
  rw [quotes_iff, scan_escape]
  exact quotes_iff.symm

/-! ## Texts without quotes and backslashes -/

/-- A text without quotes and backslashes. -/
def Harmless (text : List Char) : Prop :=
  ∀ c ∈ text, c ≠ '"' ∧ c ≠ '\\'

instance (text : List Char) : Decidable (Harmless text) :=
  inferInstanceAs (Decidable (∀ c ∈ text, c ≠ '"' ∧ c ≠ '\\'))

@[simp] theorem harmless_nil : Harmless [] := by
  simp [Harmless]

@[simp] theorem harmless_cons {c : Char} {text : List Char} :
    Harmless (c :: text) ↔ (c ≠ '"' ∧ c ≠ '\\') ∧ Harmless text :=
  List.forall_mem_cons

@[simp] theorem harmless_append {first second : List Char} :
    Harmless (first ++ second) ↔ Harmless first ∧ Harmless second :=
  List.forall_mem_append

@[simp] theorem harmless_digits (n : Nat) : Harmless (Nat.toDigits 10 n) := by
  intro c member
  have digit : c.isDigit = true := Nat.isDigit_of_mem_toDigits (by decide) (by decide) member
  constructor <;>
  · rintro rfl
    cases digit

/-- Nothing is escaped behind a harmless text, and it has no quotes. -/
theorem Harmless.scan {wanted : Bool} {text : List Char} (harmless : Harmless text) :
    scan wanted false text = some false := by
  induction text with
  | nil => rfl
  | cons c rest ih =>
      obtain ⟨⟨quote, backslash⟩, others⟩ := List.forall_mem_cons.1 harmless
      simp [Dot.scan, escapesBehind_of_ne backslash, quote, ih others]

theorem Harmless.endsAtQuote {text : List Char} (harmless : Harmless text) : EndsAtQuote text :=
  endsAtQuote_iff.2 harmless.scan

theorem Harmless.quotes {wanted : Bool} {text : List Char} (harmless : Harmless text) :
    Quotes wanted text :=
  quotes_iff.2 (by rw [harmless.scan]; rfl)

section Separated

variable {c : Char} {wanted : Bool} {first second : List Char}

/-- A harmless character keeps what stands before it apart from what follows it. -/
theorem scan_append_cons (harmless : Harmless [c]) :
    scan wanted false (first ++ c :: second) =
      (scan wanted false first).bind fun _ => scan wanted false second := by
  obtain ⟨quote, backslash⟩ := harmless c List.mem_cons_self
  rw [scan_append]
  congr 1
  funext escaped
  simp [scan, quote, escapesBehind_of_ne backslash]

theorem quotes_append_cons (harmless : Harmless [c]) :
    Quotes wanted (first ++ c :: second) ↔ Quotes wanted first ∧ Quotes wanted second := by
  rw [quotes_iff, scan_append_cons harmless, quotes_iff, quotes_iff]
  cases scan wanted false first <;> simp

theorem endsAtQuote_append_cons (harmless : Harmless [c]) :
    EndsAtQuote (first ++ c :: second) ↔ Quotes true first ∧ EndsAtQuote second := by
  rw [endsAtQuote_iff, scan_append_cons harmless, endsAtQuote_iff, quotes_iff]
  cases scan true false first <;> simp

end Separated

/-! ## The text of an object -/

@[simp] theorem harmless_objectId (id : ObjectId) : Harmless id.text.toList := by
  unfold ObjectId.text
  split <;> simp

@[simp] theorem harmless_level (level : Level) : Harmless level.text.toList := by
  simp [Level.text]

@[simp] theorem harmless_kind (kind : Kind) : Harmless kind.name.toList := by
  cases kind with
  | list head next prev least => cases prev <;> simp [Kind.name]
  | region | optional | abstraction | null => simp [Kind.name]

/-- Only the text of a region shows a label. -/
theorem harmless_object (id : ObjectId) {object : Object} (abstracted : object.kind ≠ .region) :
    Harmless (object.text id).toList := by
  unfold Object.text
  split
  case h_2 region => exact absurd region abstracted
  case h_3 next prev least listed => cases prev <;> simp
  all_goals simp

/-- The text of an object can be escaped unless the object is a region whose label cannot. -/
theorem escapable_object (id : ObjectId) (object : Object) :
    Escapable (object.text id).toList ↔
      (object.kind = .region → Escapable object.label.toList) := by
  unfold Escapable
  by_cases region : object.kind = .region
  · have harmless : Harmless (id.text ++ ", " ++ (toString object.size ++ "b") ++ ")").toList := by
      simp
    have shown : (object.text id).toList = object.label.toList ++
        '(' :: (id.text ++ ", " ++ (toString object.size ++ "b") ++ ")").toList := by
      simp [Object.text, region]
    rw [shown, quotes_append_cons (by simp), and_iff_left harmless.quotes]
    simp [region]
  · simp [region, (harmless_object id region).quotes]

/-! ## Statements -/

/-- Every quoted part of a line ends where it is meant to. -/
def Closed (pieces : List Piece) : Prop :=
  ∀ text, Piece.quoted text ∈ pieces → EndsAtQuote text

@[simp] theorem closed_nil : Closed [] := by
  simp [Closed]

@[simp] theorem closed_plain {text : String} {rest : List Piece} :
    Closed (.plain text :: rest) ↔ Closed rest := by
  simp [Closed]

@[simp] theorem closed_quoted {text : List Char} {rest : List Piece} :
    Closed (.quoted text :: rest) ↔ EndsAtQuote text ∧ Closed rest := by
  simp [Closed]

@[simp] theorem closed_append {first second : List Piece} :
    Closed (first ++ second) ↔ Closed first ∧ Closed second := by
  simp [Closed, or_imp, forall_and]

theorem closed_separate {items : List (List Piece)} :
    Closed (separate items) ↔ ∀ item ∈ items, Closed item := by
  induction items with
  | nil => simp [separate]
  | cons item rest ih =>
      cases rest with
      | nil => simp [separate]
      | cons next rest => simp [separate, ih]

theorem closed_labelled {start label : String} (harmless : Harmless label.toList) :
    Closed (labelled start label) := by
  simpa [labelled] using harmless.endsAtQuote

theorem closed_record {content : List Char} :
    Closed (Attribute.record content).pieces ↔ Quotes true content := by
  have enclosed : '\x7b' :: content ++ ['\x7d'] = [] ++ '\x7b' :: (content ++ '\x7d' :: []) := rfl
  have nothing : Harmless [] := harmless_nil
  simp only [Attribute.pieces, closed_plain, closed_quoted, enclosed]
  rw [endsAtQuote_append_cons (by simp), endsAtQuote_append_cons (by simp)]
  simp [nothing.quotes, nothing.endsAtQuote]

theorem closed_object {id : ObjectId} {attributes : List Attribute} :
    Closed (Statement.object id attributes).pieces ↔ ∀ item ∈ attributes, Closed item.pieces := by
  simp [Statement.pieces, closed_separate]

/-- The label of a value shows its number. -/
theorem closed_value {id : ValueId} {number : Option Int} :
    Closed (Statement.value id number).pieces := by
  refine closed_labelled ?_
  cases number with
  | none => simp [ValueId.text]
  | some number => cases number <;> simp [ValueId.text, Int.repr]

theorem closed_field {held : Field} : Closed (Statement.field held).pieces :=
  closed_labelled (by simp)

theorem closed_pointer {address : Pointer} : Closed (Statement.pointer address).pieces := by
  refine closed_labelled ?_
  cases address.target.specifier <;> simp [Specifier.text]

theorem closed_inequality {a b : ValueId} {color : String} :
    Closed (Statement.inequality a b color).pieces := by
  simp [Statement.pieces]

/-- A name and a text with a bar between them. -/
theorem quotes_named {name shown : List Char} :
    Quotes true (escape name ++ " | ".toList ++ escape shown) ↔
      Escapable name ∧ Escapable shown := by
  have nothing : Harmless [] := harmless_nil
  have apart : escape name ++ " | ".toList ++ escape shown =
      escape name ++ ' ' :: ([] ++ '|' :: ([] ++ ' ' :: escape shown)) := by simp
  rw [apart, quotes_append_cons (by simp), quotes_append_cons (by simp),
    quotes_append_cons (by simp)]
  simp only [quotes_escape, nothing.quotes, true_and]

/-- Every quoted part of every line ends where it is meant to. -/
def AllClosed (statements : List Statement) : Prop :=
  ∀ statement ∈ statements, Closed statement.pieces

@[simp] theorem allClosed_nil : AllClosed [] :=
  List.forall_mem_nil _

@[simp] theorem allClosed_cons {statement : Statement} {rest : List Statement} :
    AllClosed (statement :: rest) ↔ Closed statement.pieces ∧ AllClosed rest :=
  List.forall_mem_cons

@[simp] theorem allClosed_append {first second : List Statement} :
    AllClosed (first ++ second) ↔ AllClosed first ∧ AllClosed second :=
  List.forall_mem_append

theorem allClosed_flatMap {α : Type} {list : List α} {f : α → List Statement} :
    AllClosed (list.flatMap f) ↔ ∀ item ∈ list, AllClosed (f item) :=
  List.forall_mem_flatMap

theorem allClosed_map {α : Type} {list : List α} {f : α → Statement}
    (closed : ∀ item, Closed (f item).pieces) : AllClosed (list.map f) :=
  List.forall_mem_map.2 fun item _ => closed item

/-! ## The text of a drawing -/

/-- The parts of the lines of a drawing, one after another. -/
def parts (statements : List Statement) : List Piece :=
  statements.flatMap fun statement => statement.pieces ++ [.plain "\n"]

theorem toList_render (statements : List Statement) :
    (render statements).toList = (parts statements).flatMap Piece.chars := by
  rw [render, String.toList_ofList, parts, List.flatMap_assoc]
  refine congrArg (List.flatMap · statements) (funext fun statement => ?_)
  rw [Statement.chars, List.flatMap_append]
  rfl

theorem quoted_mem_parts {statements : List Statement} {text : List Char} :
    Piece.quoted text ∈ parts statements ↔
      ∃ statement ∈ statements, Piece.quoted text ∈ statement.pieces := by
  simp [parts]

/-- The text of a drawing quotes a text between other characters. -/
def Writes (statements : List Statement) (before text after : List Char) : Prop :=
  ∃ front back, parts statements = front ++ .quoted text :: back ∧
    front.flatMap Piece.chars = before ∧ back.flatMap Piece.chars = after

theorem Writes.toList_render {statements : List Statement} {before text after : List Char}
    (writes : Writes statements before text after) :
    (render statements).toList = before ++ '"' :: (text ++ '"' :: after) := by
  obtain ⟨front, back, same, rfl, rfl⟩ := writes
  rw [Dot.toList_render, same]
  simp [Piece.chars]

/-- The quoted parts end where they are meant to exactly if a reader of the text who starts behind
an opening quote reads what stands in front of the closing one. -/
theorem allClosed_iff {statements : List Statement} :
    AllClosed statements ↔ ∀ before text after, Writes statements before text after →
      quotedText? [] ((render statements).toList.drop (before.length + 1)) = some text := by
  have read {before text after : List Char} (writes : Writes statements before text after) :
      quotedText? [] ((render statements).toList.drop (before.length + 1)) = some text ↔
        EndsAtQuote text := by
    have followed : ((render statements).toList.drop (before.length + 1)) =
      text ++ '"' :: after := by
      simp [writes.toList_render]
    rw [followed, endsAtQuote_iff]
    exact @quotedText?_eq_some_iff [] text after
  constructor
  · intro closed before text after writes
    obtain ⟨front, back, same, -, -⟩ := id writes
    obtain ⟨statement, member, quoted⟩ :=
      quoted_mem_parts.1 (same ▸ List.mem_append_right front List.mem_cons_self)
    exact (read writes).2 (closed statement member text quoted)
  · intro reads statement member text quoted
    obtain ⟨front, back, same⟩ :=
      List.append_of_mem (quoted_mem_parts.2 ⟨statement, member, quoted⟩)
    exact (read ⟨front, back, same, rfl, rfl⟩).1 (reads _ _ _ ⟨front, back, same, rfl, rfl⟩)

end Dot

namespace Graph

open Dot

variable {graph : Graph} {style : Style}

/-! ## Drawings -/

theorem closed_dotStyle (id : ObjectId) (object : Object) :
    (∀ item ∈ graph.dotStyle style id object, Closed item.pieces) ↔
      (graph.isHeap id = true → object.kind.isAbstract = true →
        EndsAtQuote style.abstractOutline.toList) := by
  have plain : Harmless "filled".toList := by simp
  unfold dotStyle
  cases graph.isHeap id <;> cases object.kind.isAbstract
  · simp
  · simp [Attribute.pieces]
  · simpa [Attribute.pieces] using plain.endsAtQuote
  · have shown : ("filled" ++ ("," ++ style.abstractOutline)).toList =
        "filled".toList ++ ',' :: style.abstractOutline.toList := by simp
    simp only [if_true, Attribute.pieces, List.forall_mem_cons, closed_plain, closed_quoted, shown,
      endsAtQuote_append_cons (c := ',') (by simp), plain.quotes]
    simp

/-- The label of an object can be escaped, and the style of abstract objects, which is quoted as it
is, ends where it is meant to if the object is drawn in it. -/
def Drawable (graph : Graph) (style : Style) (id : ObjectId) : Prop :=
  ∀ object, graph.object? id = some object →
    (object.kind = .region → Escapable object.label.toList) ∧
      (graph.isHeap id = true → object.kind.isAbstract = true →
        EndsAtQuote style.abstractOutline.toList)

theorem allClosed_dotObject (name : Option String) (id : ObjectId) :
    AllClosed (graph.dotObject style name id) ↔
      ((graph.object? id).isSome → ∀ shown ∈ name, Escapable shown.toList) ∧
        graph.Drawable style id := by
  unfold dotObject Drawable
  cases graph.object? id with
  | none => simp
  | some object =>
      simp only [allClosed_cons, allClosed_nil, and_true, closed_object, List.forall_mem_cons,
        closed_record, closed_dotStyle, Option.some.injEq, forall_eq', Option.isSome_some,
          true_imp_iff]
      cases name with
      | none => simp [quotes_escape, escapable_object]
      | some name =>
          rw [quotes_named, escapable_object]
          simp [and_assoc]

/-- The name of a variable can be escaped if it is shown, and the object that it names can be
drawn. -/
def VariableDrawable (graph : Graph) (style : Style) (entry : String × ObjectId) : Prop :=
  ((graph.object? entry.2).isSome → Escapable entry.1.toList) ∧ graph.Drawable style entry.2

theorem allClosed_dotScope (name caption : String) (scope : Table String ObjectId) :
    AllClosed (graph.dotScope style name caption scope) ↔
      Quotable caption.toList ∧ ∀ entry ∈ scope.toList, graph.VariableDrawable style entry := by
  simp [dotScope, Statement.pieces, allClosed_flatMap, allClosed_dotObject, endsAtQuote_escape,
    VariableDrawable]

/-- Numbering the elements of a list does not change what holds of all of them. -/
theorem forall_mem_zipIdx {α : Type} (list : List α) (holds : α → Prop) :
    (∀ item ∈ list.zipIdx, holds item.1) ↔ ∀ element ∈ list, holds element := by
  rw [← List.forall_mem_map (f := Prod.fst), List.zipIdx_map_fst]

theorem forall_mem_roots {holds : String × ObjectId → Prop} :
    (∀ entry ∈ graph.roots, holds entry) ↔
      (∀ frame ∈ graph.stack, ∀ entry ∈ frame.locals.toList, holds entry) ∧
        ∀ entry ∈ graph.globals.toList, holds entry := by
  simp only [roots, frames, List.forall_mem_append, List.mem_flatMap, List.mem_reverse]
  constructor
  · rintro ⟨outer, inner⟩
    exact ⟨fun frame inside entry member => inner entry ⟨frame, inside, member⟩, outer⟩
  · rintro ⟨inner, outer⟩
    exact ⟨outer, fun entry ⟨frame, inside, member⟩ => inner frame inside entry member⟩

/-- What holds of the clusters is what holds of the variables of each function and of the global
ones, whose cluster is left out if there are none. -/
theorem forall_mem_dotScopes {holds : Statement → Prop}
    {holdsOf : String → Table String ObjectId → Prop}
    (each : ∀ name caption scope,
      (∀ statement ∈ graph.dotScope style name caption scope, holds statement) ↔
        holdsOf caption scope)
    (empty : graph.globals.toList = [] → holdsOf "globals" graph.globals) :
    (∀ statement ∈ graph.dotScopes style, holds statement) ↔
      (∀ frame ∈ graph.stack, holdsOf frame.function frame.locals) ∧
        holdsOf "globals" graph.globals := by
  rw [dotScopes, List.forall_mem_append]
  refine and_congr ?_ ?_
  · have same (frame : Frame) : frame ∈ graph.frames ↔ frame ∈ graph.stack := List.mem_reverse
    simp only [List.forall_mem_flatMap, each, ← same]
    exact forall_mem_zipIdx graph.frames fun frame => holdsOf frame.function frame.locals
  · split
    case isTrue nothing => simp [empty (List.isEmpty_iff.1 nothing)]
    case isFalse => exact each _ _ _

/-- The clusters are closed if the functions can be quoted and the variables can be drawn. -/
theorem allClosed_dotScopes :
    AllClosed (graph.dotScopes style) ↔
      (∀ frame ∈ graph.stack, Quotable frame.function.toList) ∧
        ∀ entry ∈ graph.roots, graph.VariableDrawable style entry := by
  have globals : Quotable "globals".toList := by
    have harmless : Harmless "globals".toList := by simp
    exact quotable_iff.2 harmless.scan
  rw [AllClosed, forall_mem_dotScopes allClosed_dotScope fun nothing =>
    ⟨globals, by simp [nothing]⟩, forall_mem_roots, and_iff_right globals]
  simp only [imp_and, forall_and, and_assoc]

/-- The objects that are drawn outside of the clusters can be drawn if all objects without a name
can. -/
theorem allClosed_dotObjects :
    AllClosed (graph.dotObjects style) ↔
      ∀ id, id ∉ graph.roots.map Prod.snd → graph.Drawable style id := by
  simp only [dotObjects, allClosed_flatMap, allClosed_dotObject, List.mem_filter]
  constructor
  · intro drawable id unnamed object found
    obtain ⟨placement, placed, rfl⟩ := Option.map_eq_some_iff.1 found
    by_cases null : placement.object.kind.isNull = true
    · -- The NULL object shows no label and is not abstract.
      cases kind : placement.object.kind <;> simp_all [Kind.isNull, Kind.isAbstract]
    · refine (drawable (id, placement) ⟨Table.mem_toList_iff.2 placed, ?_⟩).2 _ found
      simp only [List.contains_eq_mem, Bool.and_eq_true, Bool.not_eq_true', Bool.or_eq_true]
      exact ⟨decide_eq_false unnamed, .inr (by simpa using null)⟩
  · rintro drawable entry ⟨-, unnamed⟩
    simp only [List.contains_eq_mem, Bool.and_eq_true, Bool.not_eq_true'] at unnamed
    exact ⟨fun _ _ => nofun, drawable entry.1 (of_decide_eq_false unnamed.1)⟩

/-- What the texts of a drawing have to be for its quoted parts to end where they are meant to. -/
structure Legible (graph : Graph) (style : Style) (name location : String) : Prop where
  /-- The name of the drawing can be quoted. -/
  name : Quotable name.toList
  /-- Its caption can be quoted. -/
  location : Quotable location.toList
  /-- The names of the functions can be quoted. -/
  functions : ∀ frame ∈ graph.stack, Quotable frame.function.toList
  /-- The names of the variables, which something follows, can be escaped. -/
  holders : ∀ entry ∈ graph.roots, (graph.object? entry.2).isSome → Escapable entry.1.toList
  /-- The labels of the regions, which something follows, can be escaped. -/
  labels : ∀ id object, graph.object? id = some object → object.kind = .region →
    Escapable object.label.toList
  /-- The style of abstract objects, which is quoted as it is, ends where it is meant to if such an
  object is part of the heap. -/
  outlines : ∀ id object, graph.object? id = some object → graph.isHeap id = true →
    object.kind.isAbstract = true → EndsAtQuote style.abstractOutline.toList

theorem allClosed_drawing {name location : String} :
    AllClosed (graph.drawing style name location) ↔ graph.Legible style name location := by
  have values : AllClosed (graph.dotValues style) := allClosed_map fun _ => closed_value
  have fields : AllClosed graph.dotFields := allClosed_map fun _ => closed_field
  have pointers : AllClosed (graph.dotPointers style) := allClosed_map fun _ => closed_pointer
  have inequalities : AllClosed (graph.dotInequalities style) :=
    allClosed_map fun _ => closed_inequality
  simp only [drawing, allClosed_append, allClosed_cons, allClosed_nil, Statement.pieces,
    closed_plain, closed_quoted, closed_nil, endsAtQuote_escape, allClosed_dotScopes,
    allClosed_dotObjects, values, fields, pointers, inequalities, and_true]
  constructor
  · rintro ⟨⟨⟨name, location⟩, functions, holders⟩, unnamed⟩
    have drawable (id : ObjectId) : graph.Drawable style id := by
      by_cases named : id ∈ graph.roots.map Prod.snd
      · obtain ⟨entry, member, rfl⟩ := List.mem_map.1 named
        exact (holders entry member).2
      · exact unnamed id named
    exact ⟨name, location, functions, fun entry member => (holders entry member).1,
      fun id object found => (drawable id object found).1,
      fun id object found => (drawable id object found).2⟩
  · intro legible
    have drawable (id : ObjectId) : graph.Drawable style id := fun object found =>
      ⟨legible.labels id object found, legible.outlines id object found⟩
    exact ⟨⟨⟨legible.name, legible.location⟩, legible.functions,
      fun entry member => ⟨legible.holders entry member, drawable entry.2⟩⟩,
      fun id _ => drawable id⟩

/-- The quoted parts of a drawing all end where they are meant to exactly if none of its texts has
an escaped quote, and none that stands alone between its quotes ends in an odd number of
backslashes.  Then, and only then, a reader of the characters of the drawing who starts behind any
of the opening quotes stops at the closing one. -/
theorem drawing_closed_iff {name location : String} :
    (AllClosed (graph.drawing style name location) ↔ graph.Legible style name location) ∧
      ((∀ before text after, Writes (graph.drawing style name location) before text after →
        quotedText? [] ((graph.toDot style name location).toList.drop (before.length + 1)) =
          some text) ↔ graph.Legible style name location) :=
  ⟨allClosed_drawing, allClosed_iff.symm.trans allClosed_drawing⟩

/-- A backslash at the end of a name captures the quote that closes it, and the reader goes on. -/
theorem not_allClosed_backslash :
    ¬AllClosed ((initial .linux64).drawing {} "\\" "start") ∧
      ∃ before text after, Writes ((initial .linux64).drawing {} "\\" "start") before text after ∧
        quotedText? []
          (((initial .linux64).toDot {} "\\" "start").toList.drop (before.length + 1)) ≠
          some text := by
  have captured : ¬AllClosed ((initial .linux64).drawing {} "\\" "start") := by
    intro closed
    have opened : EndsAtQuote ['\\'] := closed (.opening ['\\'])
      (by simp [drawing, escape, isSpecial]) _ (by simp [Statement.pieces])
    exact absurd opened.2 (by decide)
  have misread : ¬∀ before text after,
      Writes ((initial .linux64).drawing {} "\\" "start") before text after →
        quotedText? []
          (((initial .linux64).toDot {} "\\" "start").toList.drop (before.length + 1)) =
          some text := (not_congr allClosed_iff).1 captured
  exact ⟨captured, by simpa only [Classical.not_forall, exists_prop] using misread⟩

end Graph

end ShapeDomain
