import ShapeDomain.Proofs.Graph.Orderly
import ShapeDomain.Proofs.Store.Refinement

/-!
# Stores that can be relied on

The tables of a store stay in step through every history of operations, refused ones included, as
long as new objects get names that are not in use.  They do so because each operation does to them
what it does to the graph that they describe, and graphs stay orderly.
-/

namespace ShapeDomain

/-! ## The check -/

theorem forM_map_of_same {α β : Type} {check : α → Except Fault PUnit}
    {check' : β → Except Fault PUnit} (change : α → β) {list : List α}
    (same : ∀ item ∈ list, check' (change item) = check item) :
    (list.map change).forM check' = list.forM check := by
  induction list with
  | nil => rfl
  | cons item rest ih =>
      have later := ih fun other member => same other (List.mem_cons_of_mem _ member)
      simp only [List.forM_eq_forM, List.map_cons, List.forM_cons] at later ⊢
      rw [same item List.mem_cons_self, later]

namespace Store

variable {store : Store} {graph : Graph}

namespace Describes

variable (describes : store.Describes graph)
include describes

theorem checkObject (id : ObjectId) : store.checkObject id = graph.checkObject id := by
  rw [Store.checkObject, Graph.checkObject, describes.hasObject]

/-- Every pointer of a graph is that of a value of the graph. -/
theorem checkPointer {pointer : Pointer} (member : pointer ∈ graph.pointers) :
    store.checkPointer pointer = graph.checkObject pointer.target.object := by
  have present : store.values.contains pointer.value = true :=
    (describes.values _).trans (Graph.hasValue_of_target? (Graph.mem_pointers_iff.1 member))
  rw [Store.checkPointer, describes.checkObject, present]
  cases graph.checkObject pointer.target.object <;> rfl

theorem checkRow {object : ObjectId} (size least : Nat) {fields : List Field}
    (own : ∀ field ∈ fields, field.object = object) :
    store.checkRow object size least fields = graph.checkFields size least fields := by
  induction fields generalizing least with
  | nil => rfl
  | cons field rest ih =>
      rw [Store.checkRow, Graph.checkFields, describes.values, own field List.mem_cons_self,
        ih _ fun other member => own other (List.mem_cons_of_mem _ member)]

end Describes

theorem payloads_pointers (graph : Graph) : graph.store.pointers.payloads = graph.pointers := by
  show (graph.values.toList.filterMap _).map Prod.snd = graph.values.toList.filterMap _
  rw [List.map_filterMap]
  refine List.filterMap_congr fun entry _ => ?_
  simp only [Option.map_map]
  rfl

theorem toList_fields (graph : Graph) : graph.store.fields.toList =
    graph.layouts.toList.map fun entry => (entry.1, Layout.row entry.1 entry.2) := by
  show graph.layouts.toList.filterMap _ = _
  rw [← List.filterMap_eq_map]
  rfl

theorem placed_store (graph : Graph) :
    graph.store.placed = graph.roots.map Prod.snd ++ graph.store.heap.keys := by
  rw [placed, Graph.roots, List.map_append, List.map_flatMap]
  rfl

end Store

namespace Graph

variable {graph : Graph}

/-- What is part of the heap is an object of the graph. -/
theorem hasObject_of_isHeap {id : ObjectId} (inside : graph.isHeap id = true) :
    graph.hasObject id = true := by
  rw [isHeap] at inside
  rw [hasObject, Table.contains]
  cases found : graph.objects.get? id with
  | none => simp [found] at inside
  | some placement => rfl

/-- What is known to be a number is a value of the graph. -/
theorem hasValue_of_number? {value : ValueId} (isNumber : (graph.number? value).isSome = true) :
    graph.hasValue value = true := by
  rw [number?, knowledge] at isNumber
  rw [hasValue, Table.contains]
  cases found : graph.values.get? value with
  | none => simp [found, Knowledge.nothing] at isNumber
  | some known => rfl

end Graph

open Store in
/-- The check of a graph says what the check of its tables says: neither can a pointer be that of no
value, nor can the heap have an object that the graph has not. -/
theorem Graph.check_store (graph : Graph) : graph.store.check = graph.check := by
  have describes := describes_store graph
  have zero : graph.store.pointers.get? .zero ≠ some ⟨.zero, .null⟩ ↔
    graph.target? .zero ≠ some .null := by
    rw [describes.pointers]
    cases graph.target? .zero <;> simp
  have fields : (graph.store.fields.toList.forM fun entry => do
        let object ← graph.store.object entry.1
        graph.store.checkRow entry.1 object.size 0 entry.2.payloads) =
      graph.layouts.toList.forM graph.checkLayout := by
    rw [toList_fields]
    refine forM_map_of_same _ fun entry _ => ?_
    rw [describes.object, checkLayout, Layout.payloads_row]
    cases graph.object entry.1 with
    | error fault => rfl
    | ok object =>
        refine describes.checkRow object.size 0 fun field member => ?_
        obtain ⟨_, -, rfl⟩ := List.mem_map.1 member
        rfl
  have pointers : graph.store.pointers.payloads.forM graph.store.checkPointer =
      graph.pointers.forM fun pointer => graph.checkObject pointer.target.object := by
    have same := forM_map_of_same id fun pointer (member : pointer ∈ graph.pointers) =>
      describes.checkPointer member
    rw [List.map_id] at same
    rw [payloads_pointers, same]
    rfl
  have names : graph.store.placed.forM graph.store.checkObject =
      graph.roots.forM fun entry => graph.checkObject entry.2 := by
    have heap : graph.store.heap.keys.forM graph.store.checkObject = .ok () := by
      refine forM_eq_ok_iff.2 fun id member => ?_
      have inside := (describes.heap id).symm.trans (Table.mem_keys_iff.1 member)
      rw [describes.checkObject]
      exact checkObject_eq_ok_iff.2 (hasObject_of_isHeap inside)
    have roots : (graph.roots.map Prod.snd).forM graph.store.checkObject =
        graph.roots.forM fun entry => graph.checkObject entry.2 :=
      forM_map_of_same Prod.snd fun entry _ => describes.checkObject entry.2
    rw [placed_store, List.forM_eq_forM, List.forM_append, ← List.forM_eq_forM, roots, heap]
    cases graph.roots.forM fun entry => graph.checkObject entry.2 <;> rfl
  unfold Store.check Graph.check
  rw [fields, pointers, names]
  simp only [zero]
  rfl

/-! ## Histories -/

theorem Graph.store_initial (machine : Machine) : (initial machine).store = .initial machine := by
  refine Store.ext ?_ ?_ ?_ ?_ ?_ ?_ ?_ ?_ ?_ ?_ ?_
  all_goals rfl

namespace Store

/-- Performing an operation on the tables of a graph leads to those of the graph after it, and is
refused for the same reason. -/
theorem perform_store (operation : Graph.Operation) (graph : Graph) (supply : Supply) :
    perform operation (graph.store, supply) =
      match operation.perform (graph, supply) with
      | .ok () there => .ok () (there.1.store, there.2)
      | .error fault there => .error fault (there.1.store, there.2) := by
  have same := (describes_store graph).apply operation
  unfold perform Graph.Operation.perform Run.attempt
  simp only [same]
  cases operation.apply graph <;> rfl

theorem finish_perform_store (operation : Graph.Operation) (graph : Graph) (supply : Supply) :
    (perform operation).finish (graph.store, supply) =
      ((operation.perform.finish (graph, supply)).1.store,
        (operation.perform.finish (graph, supply)).2) := by
  unfold Run.finish
  rw [perform_store]
  cases operation.perform (graph, supply) <;> rfl

/-- A history of operations on the tables of a graph leads to those of the graph after the same
history. -/
theorem history_store (operations : List Graph.Operation) (graph : Graph) (supply : Supply) :
    Run.history perform operations (graph.store, supply) =
      ((Run.history Graph.Operation.perform operations (graph, supply)).1.store,
        (Run.history Graph.Operation.perform operations (graph, supply)).2) := by
  induction operations generalizing graph supply with
  | nil => rfl
  | cons operation rest ih =>
      rw [Run.history_cons, Run.history_cons, finish_perform_store, ih]

/-- Whether an operation puts objects only under names that are not in use. -/
def AddsNew (store : Store) : Graph.Operation → Prop
  | .addObject id _ | .addHeapObject id _ | .declareGlobal _ id _ | .declareLocal _ id _ =>
      store.objects.contains id = false
  | _ => True

theorem addsNew_store (graph : Graph) (operation : Graph.Operation) :
    graph.store.AddsNew operation ↔ operation.AddsNew graph := by
  cases operation <;>
    simp only [AddsNew, Graph.Operation.AddsNew, (describes_store graph).hasObject]

theorem permits_store {operations : List Graph.Operation} {graph : Graph} {supply : Supply} :
    Run.Permits perform (fun operation here => here.1.AddsNew operation) operations
        (graph.store, supply) ↔
      Run.Permits Graph.Operation.perform
        (fun operation here => operation.AddsNew here.1) operations
        (graph, supply) := by
  induction operations generalizing graph supply with
  | nil => exact Iff.rfl
  | cons operation rest ih =>
      rw [Run.Permits, Run.Permits, finish_perform_store, ih, addsNew_store]

/-- What can be relied on in a store. -/
structure WellKept (store : Store) : Prop where
  /-- The store passes its check. -/
  consistent : store.check = .ok ()
  /-- Every field is stored under its own object, where it starts. -/
  stored : ∀ object row start field, store.fields.get? object = some row →
    row.get? start = some field → field.object = object ∧ field.range.offset = start
  /-- The fields of an object have no bit in common. -/
  disjoint : ∀ object, (store.row object).payloads.Pairwise fun a b =>
    a.range.offset + a.range.size ≤ b.range.offset
  /-- Every field lies within its object. -/
  within : ∀ object start field, (store.row object).get? start = some field →
    ∃ found, store.objects.get? object = some found ∧
      field.range.offset + field.range.size ≤ found.size
  /-- Of the objects of the store, and of no others, it is recorded whether they may be accessed. -/
  validity : ∀ id, store.validity.contains id = store.objects.contains id
  /-- The heap has only objects of the store. -/
  heap : ∀ id, store.heap.contains id = true → store.objects.contains id = true
  /-- Numbers are those of values of the store. -/
  numbers : ∀ value, store.numbers.contains value = true → store.values.contains value = true
  /-- Every pointer is stored under its own value, which is in the store, and leads to an object. -/
  pointers : ∀ value pointer, store.pointers.get? value = some pointer → pointer.value = value ∧
    store.values.contains value = true ∧ store.objects.contains pointer.target.object = true
  /-- Inequality is symmetric. -/
  symmetric : ∀ a b, store.isUnequal a b = store.isUnequal b a
  /-- Inequality is irreflexive. -/
  irreflexive : ∀ value, store.isUnequal value value = false
  /-- The NULL object is in the store. -/
  null : store.objects.contains .null = true
  /-- The zero value is in the store. -/
  zero : store.values.contains .zero = true
  /-- The zero value is the address of NULL. -/
  address : store.pointers.get? .zero = some ⟨.zero, .null⟩

theorem isUnequal_store_iff {graph : Graph} {a b : ValueId} :
    graph.store.isUnequal a b = true ↔ (a, b) ∈ graph.inequalities.keys ∨
      (b, a) ∈ graph.inequalities.keys := by
  rw [isUnequal, (describes_store graph).unequal, contains_foldl_iff]
  simp [contains_empty]

/-- The tables of an orderly graph can be relied on. -/
theorem wellKept_of_orderly {graph : Graph} (orderly : graph.Orderly) : graph.store.WellKept := by
  have describes := describes_store graph
  have held {object : ObjectId} {start : Nat} {field : Field}
      (found : (graph.store.row object).get? start = some field) :
      field.object = object ∧ field.range.offset = start ∧
        graph.valueAt? object field.range = some field.value := by
    rw [describes.row, Layout.get?_row] at found
    obtain ⟨content, there, rfl⟩ := Option.map_eq_some_iff.1 found
    exact ⟨rfl, rfl, Graph.valueAt?_eq_some_iff.2 there⟩
  exact {
    consistent := (Graph.check_store graph).trans orderly.consistent
    stored := fun object row start field isRow found => by
      have inRow : (graph.store.row object).get? start = some field := by
        rw [Store.row, isRow]
        exact found
      exact ⟨(held inRow).1, (held inRow).2.1⟩
    disjoint := fun object => by
      rw [describes.row, Layout.payloads_row]
      exact orderly.fitting.pairwise_fieldsOf object
    within := fun object start field found => by
      obtain ⟨found, there, fit⟩ := orderly.fits (held found).2.2
      exact ⟨found, (describes.objects object).trans there, (BitRange.fits_iff.1 fit).2⟩
    validity := fun id => by
      rw [describes.hasObject, Table.contains, describes.validity, Option.isSome_map]
      rfl
    heap := fun id inside => by
      rw [describes.heap] at inside
      exact (describes.hasObject id).trans (Graph.hasObject_of_isHeap inside)
    numbers := fun value isNumber => by
      rw [Table.contains, describes.numbers] at isNumber
      rw [describes.values]
      exact Graph.hasValue_of_number? isNumber
    pointers := fun value pointer found => by
      rw [describes.pointers] at found
      obtain ⟨target, leads, rfl⟩ := Option.map_eq_some_iff.1 found
      exact ⟨rfl, (describes.values value).trans (Graph.hasValue_of_target? leads),
        (describes.hasObject _).trans (orderly.targets leads)⟩
    symmetric := fun a b => by
      rw [Bool.eq_iff_iff, isUnequal_store_iff, isUnequal_store_iff, or_comm]
    irreflexive := fun value => by
      rw [Bool.eq_false_iff, Ne, isUnequal_store_iff, or_self, Table.mem_keys_iff]
      exact fun present => Nat.lt_irrefl _ (orderly.increasing _ present)
    null := (describes.hasObject _).trans orderly.null
    zero := (describes.values _).trans (Graph.hasValue_of_target? orderly.zero)
    address := by rw [describes.pointers, orderly.zero]; rfl }

/-- A store can be relied on after any history of operations, refused ones included, that puts new
objects under names that are not in use. -/
theorem wellKept_history (machine : Machine) (supply : Supply) (operations : List Graph.Operation)
    (new : Run.Permits perform (fun operation here => here.1.AddsNew operation) operations
      (initial machine, supply)) :
    (Run.history perform operations (initial machine, supply)).1.WellKept := by
  rw [← Graph.store_initial] at new ⊢
  rw [history_store]
  exact wellKept_of_orderly (Graph.orderly_history machine supply operations (permits_store.1 new))

/-- A history in which an empty field is replaced, a field is refused, and the name of a variable is
used again after its function was left. -/
def reusing : List Graph.Operation :=
  [.addHeapObject ⟨1⟩ (.region 64 "node"), .addField ⟨⟨1⟩, ⟨8, 0⟩, ⟨2⟩⟩,
    .addField ⟨⟨1⟩, ⟨8, 32⟩, ⟨3⟩⟩, .addField ⟨⟨1⟩, ⟨0, 16⟩, ⟨2⟩⟩, .enter "main",
    .declareLocal "x" ⟨4⟩ (.region 32 "x"), .addField ⟨⟨4⟩, ⟨0, 32⟩, ⟨2⟩⟩,
    .addPointer ⟨⟨5⟩, ⟨⟨4⟩, 0, .region⟩⟩, .addInequality ⟨3⟩ ⟨2⟩, .leave,
    .addHeapObject ⟨4⟩ (.region 8 "node")]

/-- What it leads to can be relied on: the heap has two objects, only the field that replaced the
empty one is left, and only the zero value is an address. -/
theorem wellKept_reusing :
    let store := (Run.history perform reusing (initial .linux64, .full)).1
    store.heap.keys = [⟨1⟩, ⟨4⟩] ∧ (store.row ⟨1⟩).payloads = [⟨⟨1⟩, ⟨8, 32⟩, ⟨3⟩⟩] ∧
      store.pointers.keys = [.zero] ∧ store.isUnequal ⟨2⟩ ⟨3⟩ = true ∧ store.WellKept :=
  ⟨by decide, by decide, by decide, by decide, wellKept_history .linux64 .full reusing
    ⟨rfl, trivial, trivial, trivial, trivial, rfl, trivial, trivial, trivial, trivial, rfl,
      trivial⟩⟩

end Store

end ShapeDomain
