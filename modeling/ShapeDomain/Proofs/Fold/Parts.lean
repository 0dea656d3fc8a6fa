import ShapeDomain.Fold
import ShapeDomain.Proofs.Graph.AddField
import ShapeDomain.Proofs.Run

/-!
# When nodes can be folded

The conditions under which a node and its successor can be folded, one by one, and what holds of a
folding that was done in any graph whose fields have bits: numbers stay, and a number that a field
held is held by a field of the same range.
-/

namespace ShapeDomain

namespace Fold

variable {graph : Graph} {fold : Fold} {parts : Parts} {link : Field}

/-- The link of a folding leads from the node to the start of its successor, and nothing else leads
there. -/
structure Links (graph : Graph) (fold : Fold) (link : Field) : Prop where
  /-- The link is a field of the node. -/
  member : link ∈ graph.fieldsOf fold.head
  /-- It is where the folding says. -/
  offset : link.range.offset = fold.next
  /-- It leads to the start of the successor. -/
  target : ∃ specifier, graph.target? link.value = some ⟨fold.successor, 0, specifier⟩
  /-- No other value leads there. -/
  pointer : (graph.pointersInto fold.successor).length = 1
  /-- No other field holds the value. -/
  holder : (graph.fields.filter fun field => field.value == link.value).length = 1

theorem links_of_link? (found : fold.link? graph = some link) : Links graph fold link := by
  simp only [link?, bind, Option.bind_eq_some_iff] at found
  obtain ⟨candidate, first, target, leads, found⟩ := found
  split at found
  case isTrue conditions =>
    obtain rfl := Option.some.inj found
    obtain ⟨object, offset, specifier⟩ := target
    obtain ⟨rfl, rfl, pointer, holder⟩ := conditions
    exact ⟨List.mem_of_find?_eq_some first, by simpa using List.find?_some first,
      ⟨specifier, leads⟩, pointer, holder⟩
  case isFalse => simp at found

/-- A node and its successor can be folded. -/
structure Possible (graph : Graph) (fold : Fold) (parts : Parts) : Prop where
  /-- The node is in the graph. -/
  head : graph.object? fold.head = some parts.head
  /-- So is its successor. -/
  successor : graph.object? fold.successor = some parts.successor
  /-- They are different. -/
  distinct : fold.head ≠ fold.successor
  /-- The node is part of the heap. -/
  heapHead : graph.isHeap fold.head = true
  /-- So is its successor. -/
  heapSuccessor : graph.isHeap fold.successor = true
  /-- Their sizes, levels and kinds fit. -/
  precedes : precedes fold.next parts.head parts.successor = true
  /-- Both are valid or none is. -/
  valid : graph.isValid fold.head = graph.isValid fold.successor
  /-- They are linked. -/
  link : Links graph fold parts.link
  /-- They agree elsewhere. -/
  contents : otherContents graph fold.next fold.head = otherContents graph fold.next fold.successor

theorem possible_of_parts? (found : fold.parts? graph = some parts) :
    Possible graph fold parts := by
  simp only [parts?, bind, Option.bind_eq_some_iff] at found
  obtain ⟨head, isHead, successor, isSuccessor, found⟩ := found
  split at found
  case isTrue conditions =>
    obtain ⟨distinct, heapHead, heapSuccessor, fits, valid⟩ := conditions
    obtain ⟨link, isLink, found⟩ := Option.bind_eq_some_iff.1 found
    split at found
    case isTrue contents =>
      obtain rfl := Option.some.inj found
      exact ⟨isHead, isSuccessor, distinct, heapHead, heapSuccessor, fits, valid,
        links_of_link? isLink, contents⟩
    case isFalse => simp at found
  case isFalse => simp at found

/-- The link is found, as no other field of the node starts where it does. -/
theorem link?_of_links (links : Links graph fold link) : fold.link? graph = some link := by
  obtain ⟨specifier, leads⟩ := links.target
  have first : (graph.fieldsOf fold.head).find? (fun field => field.range.offset == fold.next) =
      some link := by
    cases found : (graph.fieldsOf fold.head).find? fun field => field.range.offset == fold.next with
    | none =>
        have elsewhere := List.find?_eq_none.1 found link links.member
        simp [links.offset] at elsewhere
    | some candidate =>
        have member := Graph.mem_fieldsOf_iff.1 (List.mem_of_find?_eq_some found)
        have isLink := Graph.mem_fieldsOf_iff.1 links.member
        have start : candidate.range.offset = link.range.offset := by
          rw [links.offset]
          simpa using List.find?_some found
        have range := Graph.range_unique member.2 isLink.2 start
        have value : candidate.value = link.value :=
          Option.some.inj (member.2.symm.trans (range ▸ isLink.2))
        cases candidate
        cases link
        simp_all
  simp [link?, first, leads, links.pointer, links.holder]

theorem parts?_of_possible (possible : Possible graph fold parts) :
    fold.parts? graph = some parts := by
  have conditions : fold.head ≠ fold.successor ∧ graph.isHeap fold.head = true ∧
      graph.isHeap fold.successor = true ∧
      Fold.precedes fold.next parts.head parts.successor = true ∧
      graph.isValid fold.head = graph.isValid fold.successor :=
    ⟨possible.distinct, possible.heapHead, possible.heapSuccessor, possible.precedes,
      possible.valid⟩
  simp only [parts?, bind, possible.head, possible.successor, Option.bind_some]
  rw [if_pos conditions, link?_of_links possible.link, Option.bind_some, if_pos possible.contents]

/-- The parts of a folding are found if and only if it is possible. -/
theorem parts?_eq_some_iff : fold.parts? graph = some parts ↔ Possible graph fold parts :=
  ⟨possible_of_parts?, parts?_of_possible⟩

theorem mem_otherContents_iff {next : Nat} {object : ObjectId} {range : BitRange}
    {value : ValueId} :
    (range, value) ∈ otherContents graph next object ↔
      range.offset ≠ next ∧ graph.valueAt? object range = some value := by
  simp only [otherContents, List.mem_map, List.mem_filter, Prod.mk.injEq, bne_iff_ne]
  constructor
  · rintro ⟨field, ⟨member, elsewhere⟩, rfl, rfl⟩
    exact ⟨elsewhere, (Graph.mem_fieldsOf_iff.1 member).2⟩
  · rintro ⟨elsewhere, held⟩
    exact ⟨⟨object, range, value⟩, ⟨Graph.mem_fieldsOf.2 held, elsewhere⟩, rfl, rfl⟩

/-- Elsewhere than at the link, the two nodes hold the same. -/
theorem Possible.valueAt?_eq (possible : Possible graph fold parts) {range : BitRange}
    (elsewhere : range.offset ≠ fold.next) :
    graph.valueAt? fold.head range = graph.valueAt? fold.successor range := by
  refine Option.ext fun value => ?_
  have iff : (range, value) ∈ otherContents graph fold.next fold.head ↔
      range.offset ≠ fold.next ∧ graph.valueAt? fold.head range = some value :=
    mem_otherContents_iff
  rw [possible.contents, mem_otherContents_iff] at iff
  simp only [elsewhere, ne_eq, not_false_eq_true, true_and] at iff
  exact iff.symm

end Fold

end ShapeDomain
