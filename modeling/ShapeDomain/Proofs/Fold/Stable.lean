import Mathlib.Data.List.Nodup
import ShapeDomain.Proofs.Fold.Parts
import ShapeDomain.Proofs.Graph.Sound

/-!
# Foldings that stay possible

Whether two nodes can be folded depends on the two nodes, on the pointers into the second one and on
the fields that hold the link.  So a folding stays possible when another object gets a field that
does not hold the link.
-/

namespace ShapeDomain

/-- Bindings in the order of their keys have different keys. -/
theorem KeyLt.ne {κ α : Type} [Ord κ] [Std.TransOrd κ] {first second : κ × α}
    (less : KeyLt first second) : first.1 ≠ second.1 := by
  intro equal
  rw [KeyLt, equal, Std.ReflOrd.compare_self] at less
  simp at less

namespace Graph

variable {graph : Graph} {field : Field}

/-! ### Lists without duplicates -/

theorem nodup_heapObjects : graph.heapObjects.Nodup := by
  rw [heapObjects, Table.keys, List.Nodup, List.pairwise_map]
  exact (Table.sorted _).imp KeyLt.ne

theorem nodup_pointers : graph.pointers.Nodup := by
  refine List.Pairwise.filterMap _ (fun first second less => ?_) graph.values.sorted
  rintro pointer isFirst other isSecond rfl
  obtain ⟨target, -, rfl⟩ := Option.map_eq_some_iff.1 isFirst
  obtain ⟨target', -, same⟩ := Option.map_eq_some_iff.1 isSecond
  exact less.ne (congrArg Pointer.value same).symm

theorem nodup_fields : graph.fields.Nodup := by
  refine List.nodup_flatMap.2
    ⟨fun entry _ => ?_, graph.layouts.sorted.imp fun {first second} less => ?_⟩
  · rw [Layout.fields, List.Nodup, List.pairwise_map]
    refine entry.2.sorted.imp fun {first second} less same => ?_
    have equal : first.1 = second.1 := congrArg (BitRange.offset ∘ Field.range) same
    exact less.ne equal
  · intro field inFirst inSecond
    exact less.ne ((mem_fields_layout.1 inFirst).1.symm.trans (mem_fields_layout.1 inSecond).1)

/-- One address leads into an object. -/
theorem length_pointersInto {value : ValueId} {target : Target}
    (leads : graph.target? value = some target)
    (single : ∀ {other place}, graph.target? other = some place → place.object = target.object →
      other = value) : (graph.pointersInto target.object).length = 1 := by
  refine ((List.perm_ext_iff_of_nodup (nodup_pointers.filter _)
    (List.nodup_singleton ⟨value, target⟩)).2 fun pointer => ?_).length_eq
  obtain ⟨other, place⟩ := pointer
  rw [List.mem_filter, mem_pointers_iff, beq_iff_eq, List.mem_singleton, Pointer.mk.injEq]
  constructor
  · rintro ⟨there, into⟩
    obtain rfl := single there into
    exact ⟨rfl, Option.some.inj (there.symm.trans leads)⟩
  · rintro ⟨rfl, rfl⟩
    exact ⟨leads, rfl⟩

/-- One field holds a value. -/
theorem length_holders {object : ObjectId} {range : BitRange} {value : ValueId}
    (held : graph.valueAt? object range = some value)
    (once : ∀ {other place}, graph.valueAt? other place = some value →
      other = object ∧ place = range) :
    (graph.fields.filter fun field => field.value == value).length = 1 := by
  refine ((List.perm_ext_iff_of_nodup (nodup_fields.filter _)
    (List.nodup_singleton ⟨object, range, value⟩)).2 fun field => ?_).length_eq
  obtain ⟨other, place, found⟩ := field
  rw [List.mem_filter, mem_fields_iff, beq_iff_eq, List.mem_singleton, Field.mk.injEq]
  constructor
  · rintro ⟨there, rfl⟩
    obtain ⟨rfl, rfl⟩ := once there
    exact ⟨rfl, rfl, rfl⟩
  · rintro ⟨rfl, rfl, rfl⟩
    exact ⟨held, rfl⟩

/-! ### One more field -/

/-- A field more is no address more. -/
theorem perm_pointers_putField : (graph.putField field).pointers.Perm graph.pointers :=
  (List.perm_ext_iff_of_nodup nodup_pointers nodup_pointers).2 fun pointer => by
    rw [mem_pointers_iff, mem_pointers_iff, target?_putField]

theorem perm_fields_putField (tiled : graph.Tiled)
    (vacant : graph.Vacant field.object field.range) :
    (graph.putField field).fields.Perm (field :: graph.fields) := by
  have new : field ∉ graph.fields := fun member => by
    rw [mem_fields_iff, vacant.valueAt?_eq_none] at member
    simp at member
  refine (List.perm_ext_iff_of_nodup nodup_fields (List.nodup_cons.2 ⟨new, nodup_fields⟩)).2
    fun other => ?_
  rw [List.mem_cons, mem_fields_iff, mem_fields_iff, tiled.valueAt?_putField field vacant]
  have free := vacant.valueAt?_eq_none
  obtain ⟨object, range, value⟩ := field
  obtain ⟨object', range', value'⟩ := other
  split
  case isTrue same =>
    obtain ⟨rfl, rfl⟩ : object' = object ∧ range' = range := same
    simp only at free
    simp [free, eq_comm]
  case isFalse different =>
    simp only at different
    simp only [Field.mk.injEq]
    tauto

end Graph

namespace Fold

variable {graph : Graph} {fold : Fold} {parts : Parts} {field : Field}

/-- Two nodes that can be folded can still be folded when another object gets a field that does not
hold the link. -/
theorem parts?_putField (found : fold.parts? graph = some parts) (tiled : graph.Tiled)
    (vacant : graph.Vacant field.object field.range) (notHead : fold.head ≠ field.object)
    (notSuccessor : fold.successor ≠ field.object) (other : field.value ≠ parts.link.value) :
    fold.parts? (graph.putField field) = some parts := by
  have fields (object : ObjectId) (distinct : object ≠ field.object) :
      (graph.putField field).fieldsOf object = graph.fieldsOf object := by
    rw [Graph.fieldsOf, Graph.layout_putField_of_ne distinct, Graph.fieldsOf]
  have pointers : ((graph.putField field).pointersInto fold.successor).length =
      (graph.pointersInto fold.successor).length :=
    (Graph.perm_pointers_putField.filter _).length_eq
  have holders : ((graph.putField field).fields.filter fun field =>
      field.value == parts.link.value).length =
        (graph.fields.filter fun field => field.value == parts.link.value).length := by
    rw [((Graph.perm_fields_putField tiled vacant).filter _).length_eq, List.filter_cons,
      if_neg (by simpa using other)]
  have isLink : fold.link? graph = some parts.link → fold.link? (graph.putField field) =
      some parts.link := by
    intro isLink
    simp only [link?, bind, Option.bind_eq_some_iff] at isLink ⊢
    obtain ⟨candidate, first, target, leads, same⟩ := isLink
    obtain rfl : candidate = parts.link := by
      split at same
      · exact Option.some.inj same
      · simp at same
    refine ⟨parts.link, by rwa [fields _ notHead], target, by rwa [Graph.target?_putField], ?_⟩
    rw [pointers, holders]
    exact same
  simp only [parts?, bind, Option.bind_eq_some_iff] at found ⊢
  obtain ⟨head, isHead, successor, isSuccessor, found⟩ := found
  refine ⟨head, isHead, successor, isSuccessor, ?_⟩
  split at found
  case isTrue conditions =>
    obtain ⟨link, linked, found⟩ := Option.bind_eq_some_iff.1 found
    rw [otherContents, otherContents] at found
    refine (if_pos conditions).trans ?_
    rw [otherContents, otherContents, fields _ notHead, fields _ notSuccessor]
    obtain rfl : parts.link = link := by
      split at found
      · rw [← Option.some.inj found]
      · simp at found
    rw [isLink linked]
    exact found
  case isFalse => simp at found

end Fold

end ShapeDomain
