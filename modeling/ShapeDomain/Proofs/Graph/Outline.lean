import ShapeDomain.Proofs.Graph.AddField
import ShapeDomain.Proofs.Translate

/-!
# Outlines

The outline of a graph is what is left of it when labels, the machine and the choice of numbers are
forgotten; that a value is a number is kept.  Names that were drawn from a start on may be moved up
on the way, as happens when the same memory is built from a supply that has drawn more.  Every
operation on graphs commutes with taking the outline.
-/

namespace ShapeDomain

/-- A move of the names from `start` on. -/
structure Shift where
  /-- The names below it stay. -/
  start : Nat
  /-- How far the other names move. -/
  distance : Nat
  /-- The NULL object and the zero value stay. -/
  positive : 0 < start

namespace Shift

variable (shift : Shift)

/-- The move with the same start that moves nothing. -/
def still : Shift := ⟨shift.start, 0, shift.positive⟩

/-- Where an index is moved. -/
def index (position : Nat) : Nat :=
  if position < shift.start then position else position + shift.distance

/-- The moved name of an object. -/
def object (id : ObjectId) : ObjectId := ⟨shift.index id.index⟩

/-- The moved name of a value. -/
def value (id : ValueId) : ValueId := ⟨shift.index id.index⟩

/-- A place in a moved object. -/
def target (target : Target) : Target :=
  ⟨shift.object target.object, target.offset, target.specifier⟩

/-- A moved address. -/
def pointer (pointer : Pointer) : Pointer :=
  ⟨shift.value pointer.value, shift.target pointer.target⟩

/-- A field of a moved object with a moved value. -/
def field (field : Field) : Field :=
  ⟨shift.object field.object, field.range, shift.value field.value⟩

/-- A pair of moved values. -/
def pair (pair : ValueId × ValueId) : ValueId × ValueId := (shift.value pair.1, shift.value pair.2)

/-- Moved content. -/
def content (content : Content) : Content := ⟨content.size, shift.value content.value⟩

/-- A layout with moved values. -/
def layout (layout : Layout) : Layout := layout.mapPayloads shift.content

/-- What is known of a value, but for which number it is. -/
def knowledge (known : Knowledge) : Knowledge :=
  ⟨known.number.map fun _ => 0, known.target.map shift.target⟩

/-- A running function with moved variables. -/
def frame (frame : Frame) : Frame := ⟨frame.function, frame.locals.mapPayloads shift.object⟩

@[simp] theorem index_still (position : Nat) : shift.still.index position = position := by
  unfold index still
  split <;> rfl

@[simp] theorem object_still (id : ObjectId) : shift.still.object id = id := by
  simp [object]

@[simp] theorem value_still (id : ValueId) : shift.still.value id = id := by
  simp [value]

@[simp] theorem target_still (target : Target) : shift.still.target target = target := by
  simp [Shift.target]

@[simp] theorem field_still (field : Field) : shift.still.field field = field := by
  simp [Shift.field]

@[simp] theorem pointer_still (pointer : Pointer) : shift.still.pointer pointer = pointer := by
  simp [Shift.pointer]

@[simp] theorem pair_still (pair : ValueId × ValueId) : shift.still.pair pair = pair := by
  simp [Shift.pair]

theorem map_field_still (fields : List Field) : fields.map shift.still.field = fields :=
  List.map_id'' (field_still shift) fields

theorem map_pointer_still (pointers : List Pointer) :
    pointers.map shift.still.pointer = pointers :=
  List.map_id'' (pointer_still shift) pointers

theorem index_of_lt {position : Nat} (early : position < shift.start) :
    shift.index position = position :=
  if_pos early

theorem index_of_le {position : Nat} (late : shift.start ≤ position) :
    shift.index position = position + shift.distance :=
  if_neg (Nat.not_lt_of_le late)

theorem object_of_lt {id : ObjectId} (early : id.index < shift.start) : shift.object id = id := by
  simp [object, shift.index_of_lt early]

theorem value_of_lt {id : ValueId} (early : id.index < shift.start) : shift.value id = id := by
  simp [value, shift.index_of_lt early]

theorem compare_index (a b : Nat) : compare (shift.index a) (shift.index b) = compare a b := by
  have mono : ∀ {a b : Nat}, a < b → shift.index a < shift.index b := by
    intro a b less
    simp only [index]
    split <;> split <;> omega
  rcases Nat.lt_trichotomy a b with less | same | greater
  · rw [Nat.compare_eq_lt.2 less, Nat.compare_eq_lt.2 (mono less)]
  · rw [same, Nat.compare_eq_eq.2 rfl, Nat.compare_eq_eq.2 rfl]
  · rw [Nat.compare_eq_gt.2 greater, Nat.compare_eq_gt.2 (mono greater)]

theorem keepsObjects : KeepsOrder shift.object :=
  ⟨fun a b => shift.compare_index a.index b.index⟩

theorem keepsValues : KeepsOrder shift.value :=
  ⟨fun a b => shift.compare_index a.index b.index⟩

theorem keepsPairs : KeepsOrder shift.pair where
  compare_eq a b := by
    show compareLex (compareOn (·.1)) (compareOn (·.2)) (shift.pair a) (shift.pair b) =
      compareLex (compareOn (·.1)) (compareOn (·.2)) a b
    simp only [compareLex, compareOn, Shift.pair, shift.keepsValues.compare_eq]

theorem object_injective {a b : ObjectId} (same : shift.object a = shift.object b) : a = b :=
  shift.keepsObjects.injective same

theorem value_injective {a b : ValueId} (same : shift.value a = shift.value b) : a = b :=
  shift.keepsValues.injective same

@[simp] theorem object_inj {a b : ObjectId} : shift.object a = shift.object b ↔ a = b :=
  ⟨shift.object_injective, congrArg shift.object⟩

@[simp] theorem value_inj {a b : ValueId} : shift.value a = shift.value b ↔ a = b :=
  ⟨shift.value_injective, congrArg shift.value⟩

@[simp] theorem target_inj {a b : Target} : shift.target a = shift.target b ↔ a = b := by
  cases a; cases b
  simp [Shift.target]

@[simp] theorem beq_object (a b : ObjectId) : (shift.object a == shift.object b) = (a == b) := by
  rw [Bool.eq_iff_iff, beq_iff_eq, beq_iff_eq, object_inj]

@[simp] theorem beq_value (a b : ValueId) : (shift.value a == shift.value b) = (a == b) := by
  rw [Bool.eq_iff_iff, beq_iff_eq, beq_iff_eq, value_inj]

@[simp] theorem beq_target (a b : Target) : (shift.target a == shift.target b) = (a == b) := by
  rw [Bool.eq_iff_iff, beq_iff_eq, beq_iff_eq, target_inj]

@[simp] theorem content_inj {a b : Content} : shift.content a = shift.content b ↔ a = b := by
  cases a; cases b
  simp [Shift.content]

@[simp] theorem object_null : shift.object .null = .null :=
  shift.object_of_lt shift.positive

@[simp] theorem value_zero : shift.value .zero = .zero :=
  shift.value_of_lt shift.positive

@[simp] theorem target_null : shift.target .null = .null := by
  simp [Shift.target, Target.null]

@[simp] theorem isNull_object (id : ObjectId) : (shift.object id).isNull = id.isNull := by
  have iff := shift.object_inj (a := id) (b := .null)
  rw [object_null] at iff
  rw [Bool.eq_iff_iff]
  simpa [ObjectId.isNull] using iff

@[simp] theorem isZero_value (id : ValueId) : (shift.value id).isZero = id.isZero := by
  have iff := shift.value_inj (a := id) (b := .zero)
  rw [value_zero] at iff
  rw [Bool.eq_iff_iff]
  simpa [ValueId.isZero] using iff

end Shift

/-- An object without its label. -/
def Object.unlabelled (object : Object) : Object :=
  { object with label := "" }

/-- The placement of an object without its label. -/
def Placement.unlabelled (placement : Placement) : Placement :=
  { placement with object := placement.object.unlabelled }

namespace Graph

/-- What is left of a graph when labels, the machine and the choice of numbers are forgotten, with
the names moved. -/
def outline (shift : Shift) (graph : Graph) : Graph where
  objects := graph.objects.translate shift.object shift.keepsObjects Placement.unlabelled
  values := graph.values.translate shift.value shift.keepsValues shift.knowledge
  layouts := graph.layouts.translate shift.object shift.keepsObjects shift.layout
  inequalities := graph.inequalities.translate shift.pair shift.keepsPairs fun _ => ()
  stack := graph.stack.map shift.frame
  globals := graph.globals.mapPayloads shift.object
  machine := default

variable (shift : Shift) (graph : Graph)

/-! ### Objects -/

theorem objects_get?_outline (id : ObjectId) :
    (graph.outline shift).objects.get? (shift.object id) =
      (graph.objects.get? id).map Placement.unlabelled :=
  Table.get?_translate shift.keepsObjects _ _ _

theorem object?_outline (id : ObjectId) :
    (graph.outline shift).object? (shift.object id) =
      (graph.object? id).map Object.unlabelled := by
  rw [object?, objects_get?_outline, object?, Option.map_map, Option.map_map]
  rfl

theorem isValid_outline (id : ObjectId) :
    (graph.outline shift).isValid (shift.object id) = graph.isValid id := by
  rw [isValid, objects_get?_outline, isValid]
  cases graph.objects.get? id <;> rfl

theorem isHeap_outline (id : ObjectId) :
    (graph.outline shift).isHeap (shift.object id) = graph.isHeap id := by
  rw [isHeap, objects_get?_outline, isHeap]
  cases graph.objects.get? id <;> rfl

theorem hasObject_outline (id : ObjectId) :
    (graph.outline shift).hasObject (shift.object id) = graph.hasObject id :=
  Table.contains_translate shift.keepsObjects _ _ _

theorem outline_addObject (id : ObjectId) (object : Object) :
    (graph.addObject id object).outline shift =
      (graph.outline shift).addObject (shift.object id) object.unlabelled := by
  unfold addObject
  rw [objects_get?_outline]
  cases graph.objects.get? id <;> simp only [outline, Table.translate_insert] <;> rfl

theorem outline_addHeapObject (id : ObjectId) (object : Object) :
    (graph.addHeapObject id object).outline shift =
      (graph.outline shift).addHeapObject (shift.object id) object.unlabelled := by
  unfold addHeapObject
  rw [objects_get?_outline]
  cases graph.objects.get? id <;> simp only [outline, Table.translate_insert] <;> rfl

theorem outline_setValid (id : ObjectId) (valid : Bool) :
    (graph.setValid id valid).toOption.map (outline shift) =
      ((graph.outline shift).setValid (shift.object id) valid).toOption := by
  simp only [setValid, objects_get?_outline]
  cases graph.objects.get? id with
  | none => rfl
  | some old =>
      simp only [Option.map_some, Except.toOption, outline, Table.translate_insert]
      rfl

/-! ### Values -/

theorem knowledge_outline (id : ValueId) :
    (graph.outline shift).knowledge (shift.value id) = shift.knowledge (graph.knowledge id) := by
  rw [knowledge, knowledge, outline, Table.get?_translate]
  cases graph.values.get? id <;> rfl

theorem target?_outline (id : ValueId) :
    (graph.outline shift).target? (shift.value id) = (graph.target? id).map shift.target := by
  rw [target?, knowledge_outline, target?]
  rfl

theorem hasValue_outline (id : ValueId) :
    (graph.outline shift).hasValue (shift.value id) = graph.hasValue id :=
  Table.contains_translate shift.keepsValues _ _ _

theorem outline_addValue (id : ValueId) :
    (graph.addValue id).outline shift = (graph.outline shift).addValue (shift.value id) := by
  unfold addValue
  rw [knowledge_outline]
  simp only [outline, Table.translate_insert]

theorem outline_setNumber (id : ValueId) (number : Int) :
    (graph.setNumber id number).outline shift =
      (graph.outline shift).setNumber (shift.value id) 0 := by
  unfold setNumber
  rw [knowledge_outline]
  simp only [outline, Table.translate_insert]
  rfl

/-! ### Scopes -/

theorem outline_declareGlobal (name : String) (id : ObjectId) (object : Object) :
    (graph.declareGlobal name id object).outline shift =
      (graph.outline shift).declareGlobal name (shift.object id) object.unlabelled := by
  have added := outline_addObject shift graph id object
  simp only [declareGlobal]
  rw [← added]
  simp only [outline, Table.mapPayloads_insert]

theorem outline_declareLocal (name : String) (id : ObjectId) (object : Object) :
    (graph.declareLocal name id object).toOption.map (outline shift) =
      ((graph.outline shift).declareLocal name (shift.object id) object.unlabelled).toOption := by
  have added := outline_addObject shift graph id object
  have stack : (graph.outline shift).stack = graph.stack.map shift.frame := rfl
  simp only [declareLocal, stack]
  cases graph.stack with
  | nil => rfl
  | cons frame outer =>
      simp only [List.map_cons, Except.toOption, Option.map_some, ← added]
      simp only [outline, Shift.frame, List.map_cons, Table.mapPayloads_insert]

theorem outline_enter (function : String) :
    (graph.enter function).outline shift = (graph.outline shift).enter function := rfl

/-! ### Fields -/

theorem layout_outline (object : ObjectId) :
    (graph.outline shift).layout (shift.object object) = shift.layout (graph.layout object) := by
  rw [layout, layout, outline, Table.get?_translate]
  cases graph.layouts.get? object <;> rfl

theorem fields_layout (object : ObjectId) (layout : Layout) :
    (shift.layout layout).fields (shift.object object) =
      (layout.fields object).map shift.field := by
  simp [Layout.fields, Shift.layout, Table.mapPayloads, Shift.field, Shift.content]

theorem fieldsOf_outline (object : ObjectId) :
    (graph.outline shift).fieldsOf (shift.object object) =
      (graph.fieldsOf object).map shift.field := by
  rw [fieldsOf, layout_outline, fields_layout, fieldsOf]

theorem fields_outline : (graph.outline shift).fields = graph.fields.map shift.field := by
  simp only [fields, outline, Table.translate, List.flatMap_map, List.map_flatMap, fields_layout]

theorem valueAt?_outline (object : ObjectId) (range : BitRange) :
    (graph.outline shift).valueAt? (shift.object object) range =
      (graph.valueAt? object range).map shift.value := by
  rw [valueAt?, valueAt?, layout_outline, Shift.layout, Table.get?_mapPayloads]
  cases (graph.layout object).get? range.offset with
  | none => rfl
  | some content =>
      simp only [Option.map_some, Option.bind_some, Shift.content]
      split <;> rfl

theorem hasField_outline (field : Field) :
    (graph.outline shift).hasField (shift.field field) = graph.hasField field := by
  have iff : (graph.valueAt? field.object field.range).map shift.value =
      some (shift.value field.value) ↔
      graph.valueAt? field.object field.range = some field.value := by
    cases graph.valueAt? field.object field.range <;> simp
  rw [Bool.eq_iff_iff, hasField_iff, hasField_iff]
  exact (iff_of_eq (congrArg (· = some (shift.value field.value))
    (valueAt?_outline shift graph field.object field.range))).trans iff

theorem outline_putField (field : Field) :
    (graph.putField field).outline shift = (graph.outline shift).putField (shift.field field) := by
  have laid := layout_outline shift graph field.object
  have added := outline_addValue shift graph field.value
  simp only [putField, Shift.field, laid, ← added]
  simp only [outline, Table.translate_insert, Shift.layout, Table.mapPayloads_insert]
  rfl

theorem collides_outline (field : Field) :
    (graph.outline shift).collides (shift.field field) = graph.collides field := by
  have laid := layout_outline shift graph field.object
  simp only [collides, Shift.field, laid, Shift.layout, Table.lastBelow?_mapPayloads]
  cases (graph.layout field.object).lastBelow? field.range.stop <;> rfl

theorem outline_addField (field : Field) :
    (graph.addField field).toOption.map (outline shift) =
      ((graph.outline shift).addField (shift.field field)).toOption := by
  have found := object?_outline shift graph field.object
  rw [toOption_addField, toOption_addField, hasField_outline, collides_outline,
    ← outline_putField]
  simp only [Shift.field, found]
  cases graph.object? field.object with
  | none => rfl
  | some object =>
      simp only [Option.bind_some, Option.map_some, Object.unlabelled]
      by_cases fit : field.range.fits object.size = true
      case neg => simp [fit]
      case pos =>
        cases graph.hasField field <;> cases graph.collides field <;> simp [fit]

/-! ### Pointers -/

theorem pointers_outline : (graph.outline shift).pointers = graph.pointers.map shift.pointer := by
  simp only [pointers, outline, Table.translate, List.filterMap_map, List.map_filterMap]
  congr 1
  funext entry
  simp only [Function.comp, Shift.knowledge, Option.map_map]
  rfl

theorem pointersInto_outline (object : ObjectId) :
    (graph.outline shift).pointersInto (shift.object object) =
      (graph.pointersInto object).map shift.pointer := by
  simp only [pointersInto, pointers_outline, List.filter_map]
  congr 1
  apply List.filter_congr
  intro pointer _
  exact shift.beq_object _ _

theorem addressOf?_outline (target : Target) :
    (graph.outline shift).addressOf? (shift.target target) =
      (graph.addressOf? target).map shift.value := by
  simp only [addressOf?, pointers_outline, List.find?_map, Option.map_map]
  have same : ((fun pointer => pointer.target == shift.target target) ∘ shift.pointer) =
      fun pointer : Pointer => pointer.target == target := by
    funext pointer
    exact shift.beq_target _ _
  rw [same]
  rfl

theorem outline_addPointer (pointer : Pointer) :
    (graph.addPointer pointer).toOption.map (outline shift) =
      ((graph.outline shift).addPointer (shift.pointer pointer)).toOption := by
  have present := hasObject_outline shift graph pointer.target.object
  have known := knowledge_outline shift graph pointer.value
  simp only [addPointer, Shift.pointer, Shift.target, present, known, Shift.knowledge]
  split
  · rfl
  · cases (graph.knowledge pointer.value).target with
    | none =>
        simp only [Option.map_none, Except.toOption, Option.map_some, outline,
          Table.translate_insert]
        rfl
    | some existing =>
        have same : (⟨shift.object existing.object, existing.offset, existing.specifier⟩ =
            (⟨shift.object pointer.target.object, pointer.target.offset,
              pointer.target.specifier⟩ : Target)) ↔ existing = pointer.target :=
          shift.target_inj
        simp only [Option.map_some, Shift.target, same]
        split <;> rfl

theorem outline_removePointer (value : ValueId) :
    (graph.removePointer value).outline shift =
      (graph.outline shift).removePointer (shift.value value) := by
  have known := knowledge_outline shift graph value
  have target := target?_outline shift graph value
  simp only [removePointer, removableTarget?, Shift.isZero_value, target]
  split
  case h_1 found =>
    rw [known]
    split at found
    · simp at found
    · rename_i proper
      rw [found]
      simp only [proper, outline, Table.translate_insert]
      rfl
  case h_2 found =>
    split at found
    · rename_i zero
      simp [zero]
    · rename_i proper
      simp [proper, found]

/-! ### Removing objects -/

theorem unname_outline (id : ObjectId) (names : Table String ObjectId) :
    (unname id names).mapPayloads shift.object =
      unname (shift.object id) (names.mapPayloads shift.object) := by
  refine Table.translate_filter .id shift.object names fun _ other => ?_
  simp only [bne, Shift.beq_object]

theorem knowledge_forget (id : ObjectId) (known : Knowledge) :
    shift.knowledge (known.forget id) = (shift.knowledge known).forget (shift.object id) := by
  obtain ⟨number, target⟩ := known
  cases target with
  | none => rfl
  | some target =>
      simp only [Knowledge.forget, Shift.knowledge, Option.map_some, Option.filter_some,
        Shift.target, bne, Shift.beq_object]
      split <;> rfl

theorem outline_removeObject (id : ObjectId) :
    (graph.removeObject id).outline shift =
      (graph.outline shift).removeObject (shift.object id) := by
  unfold removeObject
  rw [Shift.isNull_object]
  split
  case isTrue => rfl
  case isFalse =>
    simp only [outline, Table.translate_erase, unname_outline, List.map_map]
    congr 1
    · exact Table.translate_mapPayloads shift.keepsValues shift.knowledge graph.values
        (knowledge_forget shift id)
    · apply List.map_congr_left
      intro frame _
      simp only [Function.comp, Shift.frame, unname_outline]

/-! ### Inequalities -/

theorem ordered_outline (a b : ValueId) :
    ordered (shift.value a) (shift.value b) = shift.pair (ordered a b) := by
  have iff : shift.index a.index ≤ shift.index b.index ↔ a.index ≤ b.index := by
    rw [← Nat.isLE_compare, ← Nat.isLE_compare, shift.compare_index]
  simp only [ordered, Shift.value, iff]
  split <;> rfl

theorem outline_addInequality (a b : ValueId) :
    (graph.addInequality a b).outline shift =
      (graph.outline shift).addInequality (shift.value a) (shift.value b) := by
  simp only [addInequality, Shift.value_inj]
  split
  · rfl
  · simp only [outline, KeySet.add, Table.translate_insert, ordered_outline]

end Graph

end ShapeDomain
