import ShapeDomain.Graph.Store
import ShapeDomain.Proofs.Graph.AddField
import ShapeDomain.Proofs.Graph.Changes

/-!
# Graphs as stores

An operation does the same to a graph as to its tables taken apart, refusals included, and the check
of a graph says the same as that of its tables.  So a history of operations on a store is one on a
graph.
-/

namespace ShapeDomain

/-! ## Tables -/

namespace Table

variable {κ α β : Type} [Ord κ] [Std.TransOrd κ] [Std.LawfulEqOrd κ] [DecidableEq κ]
variable {table : Table κ α} {key : κ} {payload : α} {f : κ → α → Option β}

theorem get?_erase (table : Table κ α) (key other : κ) :
    (table.erase key).get? other = if other = key then none else table.get? other := by
  split
  case isTrue same => rw [same, get?_erase_self]
  case isFalse distinct => rw [get?_erase_of_ne _ distinct]

theorem filterMap_insert {new : β} (made : f key payload = some new) :
    (table.insert key payload).filterMap f = (table.filterMap f).insert key new := by
  refine ext_get? fun other => ?_
  simp only [get?_filterMap, get?_insert]
  split
  case isTrue same => rw [same, Option.bind_some, made]
  case isFalse => rfl

theorem filterMap_erase : (table.erase key).filterMap f = (table.filterMap f).erase key := by
  refine ext_get? fun other => ?_
  simp only [get?_filterMap, get?_erase]
  split <;> rfl

end Table

/-! ## Inequalities -/

namespace Store

variable {unequal other : Table ValueId (KeySet ValueId)}

/-- Where a value is listed, it is unequal to some value. -/
def Filled (unequal : Table ValueId (KeySet ValueId)) : Prop :=
  ∀ value set, unequal.get? value = some set → ∃ other, set.contains other = true

theorem unequal_ext (filled : Filled unequal) (filled' : Filled other)
    (same : ∀ a b, (unequalTo unequal a).contains b = true ↔
      (unequalTo other a).contains b = true) :
    unequal = other := by
  refine Table.ext_get? fun value => ?_
  have alike := same value
  unfold unequalTo at alike
  cases first : unequal.get? value with
  | none =>
      cases second : other.get? value with
      | none => rfl
      | some set =>
          obtain ⟨b, present⟩ := filled' value set second
          have absent := (alike b).2 (by simpa [second] using present)
          simp [first, Table.contains] at absent
  | some set =>
      cases second : other.get? value with
      | none =>
          obtain ⟨b, present⟩ := filled value set first
          have absent := (alike b).1 (by simpa [first] using present)
          simp [second, Table.contains] at absent
      | some set' =>
          simp only [first, second, Option.getD_some] at alike
          rw [KeySet.ext_contains alike]

theorem unequalTo_distinguish (value other a : ValueId) :
    unequalTo (distinguish unequal value other) a =
      if a = value then (unequalTo unequal value).add other else unequalTo unequal a := by
  rw [unequalTo, distinguish, Table.get?_insert]
  split <;> rfl

theorem filled_distinguish (filled : Filled unequal) (value other : ValueId) :
    Filled (distinguish unequal value other) := by
  intro a set found
  rw [distinguish, Table.get?_insert] at found
  split at found
  case isTrue =>
    obtain rfl := Option.some.inj found
    exact ⟨other, by simp [KeySet.contains_add]⟩
  case isFalse => exact filled a set found

theorem filled_separate (filled : Filled unequal) (pair : ValueId × ValueId) :
    Filled (separate unequal pair) :=
  filled_distinguish (filled_distinguish filled _ _) _ _

theorem contains_distinguish_iff {value other a b : ValueId} :
    (unequalTo (distinguish unequal value other) a).contains b = true ↔
      a = value ∧ b = other ∨ (unequalTo unequal a).contains b = true := by
  rw [unequalTo_distinguish]
  split
  case isTrue same => rw [KeySet.contains_add, same]; simp
  case isFalse distinct => simp [distinct]

theorem contains_separate_iff {pair : ValueId × ValueId} {a b : ValueId} :
    (unequalTo (separate unequal pair) a).contains b = true ↔
      pair = (a, b) ∨ pair = (b, a) ∨ (unequalTo unequal a).contains b = true := by
  obtain ⟨first, second⟩ := pair
  rw [separate, contains_distinguish_iff, contains_distinguish_iff, Prod.mk.injEq, Prod.mk.injEq]
  grind

theorem filled_foldl (filled : Filled unequal) (pairs : List (ValueId × ValueId)) :
    Filled (pairs.foldl separate unequal) := by
  induction pairs generalizing unequal with
  | nil => exact filled
  | cons pair rest ih => exact ih (filled_separate filled pair)

theorem contains_foldl_iff {pairs : List (ValueId × ValueId)} {a b : ValueId} :
    (unequalTo (pairs.foldl separate unequal) a).contains b = true ↔
      (a, b) ∈ pairs ∨ (b, a) ∈ pairs ∨ (unequalTo unequal a).contains b = true := by
  induction pairs generalizing unequal with
  | nil => simp
  | cons pair rest ih =>
      rw [List.foldl_cons, ih, contains_separate_iff, List.mem_cons, List.mem_cons]
      grind

theorem filled_empty : Filled ∅ := by
  intro value set found
  simp at found

theorem contains_empty (a b : ValueId) :
    (unequalTo (∅ : Table ValueId (KeySet ValueId)) a).contains b = false := rfl

end Store

namespace Layout

variable {object : ObjectId} {layout : Layout}

theorem toList_row : (layout.row object).toList =
    layout.toList.map fun entry => (entry.1, ⟨object, ⟨entry.1, entry.2.size⟩, entry.2.value⟩) := by
  rw [row, Table.filterMap, ← List.filterMap_eq_map]
  rfl

/-- The fields of an object are listed as in its layout. -/
theorem payloads_row : (layout.row object).payloads = layout.fields object := by
  rw [Table.payloads, toList_row, List.map_map]
  rfl

theorem get?_row (start : Nat) : (layout.row object).get? start =
    (layout.get? start).map fun content => ⟨object, ⟨start, content.size⟩, content.value⟩ := by
  rw [row, Table.get?_filterMap]
  cases layout.get? start <;> rfl

theorem lastBelow?_row (bound : Nat) : (layout.row object).lastBelow? bound =
    (layout.lastBelow? bound).map fun entry =>
      (entry.1, ⟨object, ⟨entry.1, entry.2.size⟩, entry.2.value⟩) := by
  rw [Table.lastBelow?, toList_row, List.filter_map, List.getLast?_map]
  rfl

theorem row_insert (start : Nat) (content : Content) :
    row object (layout.insert start content) =
      (row object layout).insert start ⟨object, ⟨start, content.size⟩, content.value⟩ := by
  unfold row
  exact Table.filterMap_insert rfl

theorem row_erase (start : Nat) :
    row object (layout.erase start) = (row object layout).erase start :=
  Table.filterMap_erase

end Layout

/-! ## What is seen of a store -/

namespace Store

variable {store : Store} {graph : Graph}

/-- A store says of everything what a graph says of it. -/
structure Describes (store : Store) (graph : Graph) : Prop where
  /-- They have the same objects. -/
  objects : ∀ id, store.objects.get? id = graph.object? id
  /-- The same ones may be accessed. -/
  validity : ∀ id, store.validity.get? id = (graph.objects.get? id).map Placement.valid
  /-- The same ones are part of the heap. -/
  heap : ∀ id, store.heap.contains id = graph.isHeap id
  /-- They have the same values. -/
  values : ∀ value, store.values.contains value = graph.hasValue value
  /-- These are the same numbers. -/
  numbers : ∀ value, store.numbers.get? value = graph.number? value
  /-- They are addresses of the same places. -/
  pointers : ∀ value, store.pointers.get? value = (graph.target? value).map (⟨value, ·⟩)
  /-- The objects have the same fields. -/
  fields : ∀ object, store.fields.get? object = (graph.layouts.get? object).map (Layout.row object)
  /-- The same values are unequal. -/
  unequal : store.unequal = graph.inequalities.keys.foldl separate ∅
  /-- The same functions are running. -/
  stack : store.stack = graph.stack
  /-- They have the same global variables. -/
  globals : store.globals = graph.globals
  /-- They are for the same machine. -/
  machine : store.machine = graph.machine

theorem describes_store (graph : Graph) : graph.store.Describes graph where
  objects _ := Table.get?_mapPayloads _ _ _
  validity _ := Table.get?_mapPayloads _ _ _
  heap id := by
    show (((graph.objects.filter fun _ placement => placement.heap).mapPayloads fun _ => ()).get?
      id).isSome = _
    rw [Table.get?_mapPayloads, Table.get?_filter, Option.isSome_map, Graph.isHeap]
    cases graph.objects.get? id with
    | none => rfl
    | some placement => cases heap : placement.heap <;> simp [heap]
  values value := by
    show ((graph.values.mapPayloads fun _ => ()).get? value).isSome = _
    rw [Table.get?_mapPayloads, Option.isSome_map]
    rfl
  numbers value := by
    show (graph.values.filterMap _).get? value = _
    rw [Table.get?_filterMap, Graph.number?, Graph.knowledge]
    cases graph.values.get? value <;> rfl
  pointers value := by
    show (graph.values.filterMap _).get? value = _
    rw [Table.get?_filterMap, Graph.target?, Graph.knowledge]
    cases graph.values.get? value <;> rfl
  fields object := by
    show (graph.layouts.filterMap _).get? object = _
    rw [Table.get?_filterMap]
    cases graph.layouts.get? object <;> rfl
  unequal := rfl
  stack := rfl
  globals := rfl
  machine := rfl

/-- A graph is described by its tables taken apart alone. -/
theorem Describes.eq (describes : store.Describes graph) : store = graph.store := by
  have same := describes_store graph
  refine Store.ext ?_ ?_ ?_ ?_ ?_ ?_ ?_ ?_ ?_ ?_ ?_
  · exact Table.ext_get? fun id => (describes.objects id).trans (same.objects id).symm
  · exact Table.ext_get? fun id => (describes.validity id).trans (same.validity id).symm
  · exact KeySet.ext_contains fun value => by rw [describes.values, same.values]
  · exact Table.ext_get? fun object => (describes.fields object).trans (same.fields object).symm
  · exact Table.ext_get? fun value => (describes.pointers value).trans (same.pointers value).symm
  · exact describes.unequal
  · exact Table.ext_get? fun value => (describes.numbers value).trans (same.numbers value).symm
  · exact describes.stack
  · exact describes.globals
  · exact KeySet.ext_contains fun id => by rw [describes.heap, same.heap]
  · exact describes.machine

namespace Describes

variable (describes : store.Describes graph)
include describes

theorem hasObject (id : ObjectId) : store.objects.contains id = graph.hasObject id := by
  rw [Table.contains, describes.objects, Graph.object?, Option.isSome_map]
  rfl

theorem object (id : ObjectId) : store.object id = graph.object id := by
  cases found : graph.object? id <;> simp [Store.object, Graph.object, describes.objects, found]

theorem row (object : ObjectId) : store.row object = (graph.layout object).row object := by
  rw [Store.row, describes.fields, Graph.layout]
  cases graph.layouts.get? object <;> rfl

/-! ## Operations -/

theorem addObject (id : ObjectId) (object : Object) :
    (store.addObject id object).Describes (graph.addObject id object) :=
  { describes with
    objects := fun other => by
      show (store.objects.insert id object).get? other = _
      rw [Table.get?_insert, Graph.object?_addObject, describes.objects]
    validity := fun other => by
      have known : store.validity.contains id = (graph.objects.get? id).isSome := by
        rw [Table.contains, describes.validity, Option.isSome_map]
      simp only [Store.addObject, Graph.addObject, known, Table.get?_insert]
      cases found : graph.objects.get? id with
      | none =>
          simp only [Option.isSome_none, Bool.false_eq_true, if_false, Table.get?_insert]
          split
          · rfl
          · exact describes.validity other
      | some old =>
          simp only [Option.isSome_some, if_true]
          split
          case isTrue same => rw [describes.validity, same, found]; rfl
          case isFalse => exact describes.validity other
    heap := fun other => by rw [Graph.isHeap_addObject]; exact describes.heap other }

theorem addHeapObject (id : ObjectId) (object : Object) :
    (store.addHeapObject id object).Describes (graph.addHeapObject id object) :=
  have added := describes.addObject id object
  { describes with
    objects := fun other => by
      rw [Graph.object?_addHeapObject, ← Graph.object?_addObject]
      exact added.objects other
    validity := fun other => by
      refine (added.validity other).trans ?_
      simp only [Graph.addObject, Graph.addHeapObject, Table.get?_insert]
      split
      case isTrue => cases graph.objects.get? id <;> rfl
      case isFalse => rfl
    heap := fun other => by
      show (store.heap.add id).contains other = _
      rw [KeySet.contains_add, Graph.isHeap_addHeapObject, describes.heap] }

theorem setValid (id : ObjectId) (valid : Bool) :
    store.setValid id valid = (graph.setValid id valid).map Graph.store := by
  rw [Store.setValid, describes.hasObject, Graph.hasObject, Table.contains, Graph.setValid]
  cases found : graph.objects.get? id with
  | none => rfl
  | some old =>
      refine congrArg Except.ok (Describes.eq { describes with
        objects := fun other => ?_
        validity := fun other => ?_
        heap := fun other => ?_ })
      · rw [describes.objects, Graph.object?, Graph.object?, Table.get?_insert]
        split
        case isTrue same => rw [same, found]; rfl
        case isFalse => rfl
      · simp only [Table.get?_insert, describes.validity]
        split <;> rfl
      · rw [describes.heap, Graph.isHeap, Graph.isHeap, Table.get?_insert]
        split
        case isTrue same => rw [same, found]; rfl
        case isFalse => rfl

theorem addValue (value : ValueId) : (store.addValue value).Describes (graph.addValue value) :=
  { describes with
    values := fun other => by
      show (store.values.add value).contains other = _
      rw [KeySet.contains_add, Graph.hasValue_addValue, describes.values]
    numbers := fun other => by rw [Graph.number?_addValue]; exact describes.numbers other
    pointers := fun other => by rw [Graph.target?_addValue]; exact describes.pointers other }

theorem setNumber (value : ValueId) (number : Int) :
    (store.setNumber value number).Describes (graph.setNumber value number) :=
  { describes with
    values := fun other => by
      refine ((describes.addValue value).values other).trans ?_
      simp only [Graph.addValue, Graph.setNumber, Graph.hasValue, Table.contains, Table.get?_insert]
      split <;> rfl
    numbers := fun other => by
      show (store.numbers.insert value number).get? other = _
      rw [Table.get?_insert, Graph.number?_setNumber, describes.numbers]
    pointers := fun other => by rw [Graph.target?_setNumber]; exact describes.pointers other }

/-! ### Scopes -/

theorem declareGlobal (name : String) (id : ObjectId) (object : Object) :
    (store.declareGlobal name id object).Describes (graph.declareGlobal name id object) :=
  { describes.addObject id object with
    globals := congrArg (fun globals : Table String ObjectId => globals.insert name id)
      describes.globals }

theorem declareLocal (name : String) (id : ObjectId) (object : Object) :
    store.declareLocal name id object = (graph.declareLocal name id object).map Graph.store := by
  rw [Store.declareLocal, Graph.declareLocal, describes.stack]
  cases graph.stack with
  | nil => rfl
  | cons frame outer =>
      exact congrArg Except.ok (Describes.eq { describes.addObject id object with stack := rfl })

theorem enter (function : String) : (store.enter function).Describes (graph.enter function) :=
  { describes with stack := congrArg (List.cons (⟨function, ∅⟩ : Frame)) describes.stack }

theorem removeObject (id : ObjectId) :
    (store.removeObject id).Describes (graph.removeObject id) := by
  cases proper : id.isNull with
  | true => simpa [Store.removeObject, Graph.removeObject, proper] using describes
  | false =>
      have remains : store.removeObject id = { store with
          objects := store.objects.erase id
          validity := store.validity.erase id
          fields := store.fields.erase id
          heap := store.heap.erase id
          globals := Graph.unname id store.globals
          stack := store.stack.map fun frame =>
            { frame with locals := Graph.unname id frame.locals }
          pointers := store.pointers.filter fun _ pointer => pointer.target.object != id } := by
        simp [Store.removeObject, proper]
      rw [remains]
      exact {
        objects := fun other => by
          rw [Table.get?_erase, Graph.object?_removeObject _ proper, describes.objects]
        validity := fun other => by
          simp only [Graph.removeObject, proper, Table.get?_erase, describes.validity,
            Bool.false_eq_true, if_false]
          split <;> rfl
        heap := fun other => by
          have kept := describes.heap other
          rw [Table.contains] at kept
          simp only [Graph.removeObject, proper, Table.contains, Table.get?_erase,
            Graph.isHeap, Bool.false_eq_true, if_false]
          split
          · rfl
          · exact kept
        values := fun value => by rw [Graph.hasValue_removeObject]; exact describes.values value
        numbers := fun value => by rw [Graph.number?_removeObject]; exact describes.numbers value
        pointers := fun value => by
          rw [Table.get?_filter, describes.pointers, Graph.target?_removeObject _ proper]
          cases graph.target? value with
          | none => rfl
          | some target => cases leads : target.object != id <;> simp [Option.filter, leads]
        fields := fun other => by
          rw [Table.get?_erase, Graph.get?_layouts_removeObject proper, describes.fields]
          split <;> rfl
        unequal := by simp [Graph.removeObject, proper, describes.unequal]
        stack := by simp [Graph.removeObject, proper, describes.stack]
        globals := by simp [Graph.removeObject, proper, describes.globals]
        machine := by simp [Graph.removeObject, proper, describes.machine] }

theorem removeObjects (ids : List ObjectId) :
    (ids.foldl Store.removeObject store).Describes (graph.removeObjects ids) := by
  induction ids generalizing store graph with
  | nil => exact describes
  | cons id rest ih => exact ih (describes.removeObject id)

theorem leave : store.leave = graph.leave.map fun left => (left.1, left.2.store) := by
  rw [Store.leave, Graph.leave, describes.stack]
  cases graph.stack with
  | nil => rfl
  | cons frame outer =>
      have outside : { store with stack := outer }.Describes { graph with stack := outer } :=
        { describes with stack := rfl }
      exact congrArg (fun left => some (frame, left)) (outside.removeObjects _).eq

/-! ### Fields -/

theorem hasField_iff (field : Field) :
    (store.row field.object).get? field.range.offset = some field ↔
      graph.hasField field = true := by
  rw [describes.row, Layout.get?_row, Graph.hasField, beq_iff_eq]
  cases (graph.layout field.object).get? field.range.offset with
  | none => simp
  | some content =>
      obtain ⟨object, ⟨start, size⟩, value⟩ := field
      obtain ⟨size', value'⟩ := content
      simp

theorem collides (field : Field) :
    (((store.row field.object).lastBelow? field.range.stop).any fun entry =>
      entry.2.range.overlaps field.range) = graph.collides field := by
  rw [describes.row, Layout.lastBelow?_row, Graph.collides]
  cases (graph.layout field.object).lastBelow? field.range.stop <;> rfl

theorem putField (field : Field) :
    { store.addValue field.value with
      fields := store.fields.insert field.object
        ((store.row field.object).insert field.range.offset field) }.Describes
      (graph.putField field) :=
  { describes.addValue field.value with
    fields := fun other => by
      show _ = Option.map _ ((graph.layouts.insert _ _).get? other)
      rw [Table.get?_insert, Table.get?_insert, describes.row, describes.fields]
      split
      case isTrue same => rw [Option.map_some, Layout.row_insert, same]
      case isFalse => rfl }

theorem addField (field : Field) :
    store.addField field = (graph.addField field).map Graph.store := by
  rw [Store.addField, Graph.addField, describes.object]
  cases graph.object field.object with
  | error fault => rfl
  | ok object =>
      simp only [bind, Except.bind]
      cases fits : field.range.fits object.size with
      | false => rfl
      | true =>
          simp only [Bool.not_true, Bool.false_eq_true, if_false, describes.collides]
          by_cases present : graph.hasField field = true
          case pos =>
            rw [if_pos present, if_pos ((describes.hasField_iff field).2 present)]
            exact congrArg Except.ok describes.eq
          case neg =>
            rw [if_neg present, if_neg (mt (describes.hasField_iff field).1 present)]
            show _ = Except.map Graph.store (if graph.collides field then _ else _)
            split
            case isTrue => rfl
            case isFalse => exact congrArg Except.ok (describes.putField field).eq

theorem removeField (field : Field) :
    (store.removeField field).Describes (graph.removeField field) := by
  rw [Store.removeField, Graph.removeField]
  by_cases present : graph.hasField field = true
  case neg =>
    rw [if_neg present, if_neg (mt (describes.hasField_iff field).1 present)]
    exact describes
  case pos =>
    rw [if_pos present, if_pos ((describes.hasField_iff field).2 present)]
    exact { describes with
      fields := fun other => by
        rw [Table.get?_insert, Table.get?_insert, describes.row, describes.fields]
        split
        case isTrue same => rw [Option.map_some, Layout.row_erase, same]
        case isFalse => rfl }

/-! ### Pointers and inequalities -/

theorem addPointer (pointer : Pointer) :
    store.addPointer pointer = (graph.addPointer pointer).map Graph.store := by
  rw [Store.addPointer, Graph.addPointer, describes.hasObject, describes.pointers, Graph.target?]
  cases graph.hasObject pointer.target.object with
  | false => rfl
  | true =>
      simp only [Bool.not_true, Bool.false_eq_true, if_false]
      cases found : (graph.knowledge pointer.value).target with
      | some existing =>
          obtain ⟨value, target⟩ := pointer
          by_cases same : existing = target
          · simp only [Option.map_some, same, if_true]
            exact congrArg Except.ok describes.eq
          · simp only [Option.map_some, same, Pointer.mk.injEq, and_false, if_false]
            rfl
      | none =>
          refine congrArg Except.ok (Describes.eq { describes with
            values := fun other => ?_
            numbers := fun other => ?_
            pointers := fun other => ?_ })
          · show (store.values.add pointer.value).contains other =
              (graph.putPointer pointer).hasValue other
            rw [KeySet.contains_add, describes.values, Graph.putPointer, Graph.hasValue,
              Graph.hasValue, Table.contains, Table.contains, Table.get?_insert]
            by_cases same : other = pointer.value <;> simp [same]
          · show store.numbers.get? other = (graph.putPointer pointer).number? other
            rw [Graph.number?_putPointer, describes.numbers]
          · show (store.pointers.insert pointer.value pointer).get? other =
              ((graph.putPointer pointer).target? other).map _
            rw [Table.get?_insert, Graph.target?_putPointer, describes.pointers]
            split
            case isTrue same => rw [Option.map_some, same]
            case isFalse => rfl

theorem removePointer (value : ValueId) :
    (store.removePointer value).Describes (graph.removePointer value) := by
  cases zero : value.isZero with
  | true =>
      simpa [Store.removePointer, Graph.removePointer, Graph.removableTarget?, zero] using describes
  | false =>
      have same : (graph.removePointer value).inequalities = graph.inequalities ∧
          (graph.removePointer value).machine = graph.machine := by
        unfold Graph.removePointer
        split <;> exact ⟨rfl, rfl⟩
      have names := @Graph.names_removePointer graph value
      rw [Store.removePointer, zero, if_neg Bool.false_ne_true]
      exact {
        objects := fun id => by
          rw [Graph.object?, Graph.objects_removePointer]
          exact describes.objects id
        validity := fun id => by rw [Graph.objects_removePointer]; exact describes.validity id
        heap := fun id => by
          rw [Graph.isHeap, Graph.objects_removePointer]
          exact describes.heap id
        values := fun other => by rw [Graph.hasValue_removePointer]; exact describes.values other
        numbers := fun other => by rw [Graph.number?_removePointer]; exact describes.numbers other
        pointers := fun other => by
          rw [Table.get?_erase, Graph.target?_removePointer, describes.pointers]
          by_cases isValue : other = value <;> simp [isValue, zero]
        fields := fun object => by rw [Graph.layouts_removePointer]; exact describes.fields object
        unequal := by rw [same.1]; exact describes.unequal
        stack := by rw [names.1]; exact describes.stack
        globals := by rw [names.2]; exact describes.globals
        machine := by rw [same.2]; exact describes.machine }

theorem addInequality (a b : ValueId) :
    (store.addInequality a b).Describes (graph.addInequality a b) := by
  rw [Store.addInequality, Graph.addInequality]
  split
  case isTrue => exact describes
  case isFalse =>
    refine { describes with unequal := unequal_ext ?_ (filled_foldl filled_empty _) fun c d => ?_ }
    · show Filled (separate store.unequal (a, b))
      rw [describes.unequal]
      exact filled_separate (filled_foldl filled_empty _) _
    · show (unequalTo (separate store.unequal (a, b)) c).contains d = true ↔ _
      have either : Graph.ordered a b = (a, b) ∨ Graph.ordered a b = (b, a) := by
        unfold Graph.ordered
        split <;> simp
      rw [describes.unequal, contains_separate_iff, contains_foldl_iff, contains_foldl_iff]
      simp only [Table.mem_keys_iff, KeySet.contains_add, contains_empty, Bool.or_eq_true,
        decide_eq_true_eq]
      rcases either with ordered | ordered
      · rw [ordered]
        grind
      · rw [ordered]
        grind

/-- Every operation does the same to a store as to the graph that it describes. -/
theorem apply (operation : Graph.Operation) :
    store.apply operation = (operation.apply graph).map Graph.store := by
  cases operation with
  | addObject id object => exact congrArg Except.ok (describes.addObject id object).eq
  | addHeapObject id object => exact congrArg Except.ok (describes.addHeapObject id object).eq
  | declareGlobal name id object =>
      exact congrArg Except.ok (describes.declareGlobal name id object).eq
  | declareLocal name id object => exact describes.declareLocal name id object
  | removeObject id => exact congrArg Except.ok (describes.removeObject id).eq
  | enter function => exact congrArg Except.ok (describes.enter function).eq
  | leave =>
      refine congrArg Except.ok ?_
      rw [describes.leave]
      cases graph.leave with
      | none => exact describes.eq
      | some left => rfl
  | setValid id valid => exact describes.setValid id valid
  | addValue value => exact congrArg Except.ok (describes.addValue value).eq
  | setNumber value number => exact congrArg Except.ok (describes.setNumber value number).eq
  | addField field => exact describes.addField field
  | removeField field => exact congrArg Except.ok (describes.removeField field).eq
  | addPointer pointer => exact describes.addPointer pointer
  | removePointer value => exact congrArg Except.ok (describes.removePointer value).eq
  | addInequality a b => exact congrArg Except.ok (describes.addInequality a b).eq

end Describes

end Store

end ShapeDomain
