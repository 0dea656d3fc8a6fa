import ShapeDomain.Proofs.Fold.Parts
import ShapeDomain.Proofs.Graph.AddPointer
import ShapeDomain.Proofs.Graph.Removal

/-!
# What a folding keeps

In a graph whose fields have bits, a folding that goes through keeps all numbers, makes no value an
address that was none before, and leaves every value that is no address in a field of the range that
held it.
-/

namespace ShapeDomain

namespace Graph

/-- Numbers and fields stay, and new addresses satisfy `may`. -/
structure Keeps (may : ValueId → Prop) (graph next : Graph) : Prop where
  /-- Fields have bits. -/
  positive : next.PositiveFields
  /-- Numbers stay. -/
  numbers : ∀ value, next.number? value = graph.number? value
  /-- Fields stay. -/
  held : ∀ object range value, graph.valueAt? object range = some value →
    next.valueAt? object range = some value
  /-- What becomes an address satisfies `may`. -/
  targets : ∀ value, (next.target? value).isSome = true →
    (graph.target? value).isSome = true ∨ may value

variable {may : ValueId → Prop} {graph next last : Graph}

theorem Keeps.refl (positive : graph.PositiveFields) : Keeps may graph graph :=
  ⟨positive, fun _ => rfl, fun _ _ _ held => held, fun _ leads => .inl leads⟩

theorem Keeps.trans (first : Keeps may graph next) (second : Keeps may next last) :
    Keeps may graph last where
  positive := second.positive
  numbers value := (second.numbers value).trans (first.numbers value)
  held object range value held :=
    second.held object range value (first.held object range value held)
  targets value leads := (second.targets value leads).elim (first.targets value) .inr

theorem keeps_addField {field : Field} (positive : graph.PositiveFields)
    (bits : 0 < field.range.size) (done : graph.addField field = .ok next) :
    Keeps may graph next where
  positive := positive.addField bits done
  numbers := number?_of_addField done
  held _ _ _ held := valueAt?_of_addField positive bits done held
  targets value leads := .inl (target?_of_addField done value ▸ leads)

theorem keeps_setValid {id : ObjectId} {valid : Bool} (positive : graph.PositiveFields)
    (done : graph.setValid id valid = .ok next) : Keeps may graph next := by
  obtain ⟨old, -, rfl⟩ := (graph.setValid_eq_ok_iff).1 done
  exact ⟨positive, fun _ => rfl, fun _ _ _ held => held, fun _ leads => .inl leads⟩

theorem keeps_addPointer {pointer : Pointer} (positive : graph.PositiveFields)
    (allowed : may pointer.value) (done : graph.addPointer pointer = .ok next) :
    Keeps may graph next := by
  obtain ⟨-, -, rfl⟩ := addPointer_eq_ok_iff.1 done
  refine ⟨fun object range value held => positive object range value held,
    fun value => number?_putPointer value, fun _ _ _ held => held, fun value leads => ?_⟩
  rw [target?_putPointer] at leads
  split at leads
  case isTrue same => exact .inr (same ▸ allowed)
  case isFalse => exact .inl leads

end Graph

namespace Fold

variable {graph : Graph} {fold : Fold} {parts : Parts}

/-- The graph in which the fields of a segment are put together. -/
def cleared (graph : Graph) (fold : Fold) (parts : Parts) (id : ObjectId) : Graph :=
  (((graph.removePointer parts.link.value).removeObject fold.head).removeObject
    fold.successor).addHeapObject id (segment parts)

theorem number?_cleared (id : ObjectId) (value : ValueId) :
    (cleared graph fold parts id).number? value = graph.number? value := by
  show (((graph.removePointer parts.link.value).removeObject fold.head).removeObject
    fold.successor).number? value = _
  rw [Graph.number?_removeObject, Graph.number?_removeObject, Graph.number?_removePointer]

theorem isSome_target?_of_cleared {id : ObjectId} {value : ValueId}
    (leads : ((cleared graph fold parts id).target? value).isSome = true) :
    (graph.target? value).isSome = true := by
  have once := Graph.isSome_target?_of_removeObject (Graph.isSome_target?_of_removeObject leads)
  rw [Graph.target?_removePointer] at once
  split at once
  · simp at once
  · exact once

theorem layout_removePointer (value : ValueId) (object : ObjectId) :
    (graph.removePointer value).layout object = graph.layout object := by
  rw [Graph.layout, Graph.layout, Graph.layouts_removePointer]

theorem valueAt?_of_cleared {id object : ObjectId} {range : BitRange} {value : ValueId}
    (held : (cleared graph fold parts id).valueAt? object range = some value) :
    graph.valueAt? object range = some value := by
  have once := Graph.valueAt?_of_removeObject (Graph.valueAt?_of_removeObject held)
  rwa [Graph.valueAt?_congr (layout_removePointer _ object)] at once

theorem valueAt?_cleared_of_ne {id object : ObjectId} (notHead : object ≠ fold.head)
    (notSuccessor : object ≠ fold.successor) (range : BitRange) :
    (cleared graph fold parts id).valueAt? object range = graph.valueAt? object range := by
  apply Graph.valueAt?_congr
  show (((graph.removePointer parts.link.value).removeObject fold.head).removeObject
    fold.successor).layout object = _
  rw [Graph.layout_removeObject_of_ne notSuccessor, Graph.layout_removeObject_of_ne notHead,
    layout_removePointer]

/-- Fields that are added one after the other are all there in the end. -/
theorem addFields_ends (may : ValueId → Prop) {id : ObjectId} {fields : List Field}
    {here : Graph × Supply} (positive : here.1.PositiveFields)
    (bits : ∀ field ∈ fields, 0 < field.range.size) :
    Run.Ends (fields.forM fun field => Run.attempt fun graph =>
        graph.addField { field with object := id }) here
      (fun _ there => Graph.Keeps may here.1 there.1 ∧
        ∀ field ∈ fields, there.1.valueAt? id field.range = some field.value)
      (fun _ _ => True) := by
  induction fields generalizing here with
  | nil => exact Run.ends_pure ⟨.refl positive, by simp⟩
  | cons field rest ih =>
      cases done : here.1.addField { field with object := id } with
      | error fault =>
          exact Run.ends_of_error (Run.bind_apply_error (Run.attempt_apply_error done)) trivial
      | ok next =>
          refine Run.ends_bind_of_ok (Run.attempt_apply_ok done) ?_
          have fieldBits := bits field List.mem_cons_self
          have keeps : Graph.Keeps may here.1 next :=
            Graph.keeps_addField positive (by exact fieldBits) done
          refine (ih keeps.positive fun later member =>
            bits later (List.mem_cons_of_mem _ member)).mono ?_
            (fun _ _ _ => trivial)
          rintro _ there ⟨keepsRest, heldRest⟩
          refine ⟨keeps.trans keepsRest, fun later member => ?_⟩
          rcases List.mem_cons.1 member with rfl | member
          · exact keepsRest.held _ _ _ (Graph.valueAt?_self_of_addField done)
          · exact heldRest later member

/-- What a folding that goes through keeps. -/
structure Kept (graph next : Graph) : Prop where
  /-- Fields have bits. -/
  positive : next.PositiveFields
  /-- Numbers stay. -/
  numbers : ∀ value, next.number? value = graph.number? value
  /-- What is held and no address is held by a field of the same range. -/
  held : ∀ object range value, graph.target? value = none →
    graph.valueAt? object range = some value →
    ∃ object', next.valueAt? object' range = some value
  /-- Addresses were addresses. -/
  targets : ∀ value, (next.target? value).isSome = true → (graph.target? value).isSome = true

theorem Kept.refl (positive : graph.PositiveFields) : Kept graph graph :=
  ⟨positive, fun _ => rfl, fun object _ _ _ held => ⟨object, held⟩, fun _ leads => leads⟩

/-- What the two nodes hold and is no address is put into the segment. -/
theorem Possible.mem_segment_fields (possible : Possible graph fold parts) {object : ObjectId}
    {range : BitRange} {value : ValueId} (plain : graph.target? value = none)
    (held : graph.valueAt? object range = some value)
    (folded : object = fold.head ∨ object = fold.successor) :
    ∃ field ∈ ((graph.fieldsOf fold.head).filter fun field =>
        field.range.offset != parts.link.range.offset) ++
      ((graph.fieldsOf fold.successor).filter fun field =>
        field.range.offset == parts.link.range.offset),
      field.range = range ∧ field.value = value := by
  have next := possible.link.offset
  by_cases atLink : range.offset = fold.next
  · -- The link itself is an address, so the value is that of the successor.
    have inSuccessor : graph.valueAt? fold.successor range = some value := by
      rcases folded with rfl | rfl
      · have isLink := (Graph.mem_fieldsOf_iff.1 possible.link.member).2
        have same := Graph.range_unique held isLink (atLink.trans next.symm)
        rw [same, isLink, Option.some.injEq] at held
        obtain ⟨_, leads⟩ := possible.link.target
        rw [held, plain] at leads
        simp at leads
      · exact held
    refine ⟨⟨fold.successor, range, value⟩, List.mem_append_right _ ?_, rfl, rfl⟩
    rw [List.mem_filter, Graph.mem_fieldsOf]
    exact ⟨inSuccessor, by simp [atLink, next]⟩
  · have inHead : graph.valueAt? fold.head range = some value := by
      rcases folded with rfl | rfl
      · exact held
      · rw [possible.valueAt?_eq atLink, held]
    refine ⟨⟨fold.head, range, value⟩, List.mem_append_left _ ?_, rfl, rfl⟩
    rw [List.mem_filter, Graph.mem_fieldsOf]
    exact ⟨inHead, by simpa [next] using atLink⟩

theorem perform_keeps (fold : Fold) {here : Graph × Supply} (positive : here.1.PositiveFields) :
    Run.Ends fold.perform here (fun _ there => Kept here.1 there.1) (fun _ _ => True) := by
  obtain ⟨graph, supply⟩ := here
  simp only at positive ⊢
  unfold perform
  refine Run.ends_bind_of_ok (Run.ask_apply _ _) ?_
  simp only
  cases found : fold.parts? graph with
  | none => exact Run.ends_pure (.refl positive)
  | some parts =>
      have possible := possible_of_parts? found
      let may (value : ValueId) : Prop := (graph.target? value).isSome = true
      let segmentId : ObjectId := ⟨supply.next⟩
      have start : (cleared graph fold parts segmentId).PositiveFields :=
        fun object range value held => positive object range value (valueAt?_of_cleared held)
      refine Run.ends_bind_of_ok (Run.draw_objectId_apply _) ?_
      refine Run.ends_bind_of_ok (Run.state_apply _) ?_
      refine Run.ends_bind_of_ok (Run.modify_apply _ _) ?_
      refine Run.ends_bind (fun _ there =>
        Graph.Keeps may (cleared graph fold parts segmentId) there.1) ?_ ?_
      · cases done : (cleared graph fold parts segmentId).setValid segmentId
          (graph.isValid fold.head) with
        | error fault => exact Run.ends_of_error (Run.attempt_apply_error done) trivial
        | ok next =>
            exact Run.ends_of_ok (Run.attempt_apply_ok done) (Graph.keeps_setValid start done)
      intro _ there keeps
      refine (addFields_ends may keeps.positive ?_).bind ?_
      · intro field member
        rcases List.mem_append.1 member with member | member <;>
          exact positive _ _ _ (Graph.mem_fieldsOf_iff.1 (List.mem_filter.1 member).1).2
      rintro _ there' ⟨keepsFields, heldFields⟩
      have keeps' := keeps.trans keepsFields
      refine (Run.ends_forM (fun end' => Graph.Keeps may there'.1 end'.1)
        (.refl keepsFields.positive) ?_).bind ?_
      · intro pointer member here keepsHere
        have allowed : may pointer.value := by
          have isPointer := (List.mem_filter.1 member).1
          simp only [Graph.pointers, List.mem_filterMap, Option.map_eq_some_iff] at isPointer
          obtain ⟨⟨value, known⟩, entry, target, isTarget, rfl⟩ := isPointer
          have found := Table.mem_toList_iff.1 entry
          have leads : graph.target? value = some target := by
            rw [Graph.target?, Graph.knowledge, found]
            exact isTarget
          show (graph.target? value).isSome = true
          rw [leads]
          rfl
        cases done : here.1.addPointer (redirect segmentId pointer) with
        | error fault => exact Run.ends_of_error (Run.attempt_apply_error done) trivial
        | ok next =>
            exact Run.ends_of_ok (Run.attempt_apply_ok done)
              (keepsHere.trans (Graph.keeps_addPointer keepsHere.positive (by exact allowed) done))
      intro _ last keepsLast
      have all := keeps'.trans keepsLast
      refine Run.ends_pure ⟨all.positive, fun value => ?_, ?_, fun value leads => ?_⟩
      · rw [all.numbers, number?_cleared]
      · intro object range value plain held
        by_cases folded : object = fold.head ∨ object = fold.successor
        · obtain ⟨field, member, rfl, rfl⟩ := possible.mem_segment_fields plain held folded
          exact ⟨segmentId, keepsLast.held _ _ _ (heldFields field member)⟩
        · have elsewhere := not_or.1 folded
          refine ⟨object, all.held object range value ?_⟩
          rw [valueAt?_cleared_of_ne elsewhere.1 elsewhere.2, held]
      · rcases all.targets value leads with cleared | allowed
        · exact isSome_target?_of_cleared cleared
        · exact allowed

end Fold

end ShapeDomain
