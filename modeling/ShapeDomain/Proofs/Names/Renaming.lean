import Mathlib.Data.List.Nodup
import Mathlib.Logic.Function.Basic
import ShapeDomain.Proofs.Graph.Outline
import ShapeDomain.Proofs.Graph.Plain

/-!
# Renaming graphs

The names of objects and values say nothing about the memory: a graph may get other names, as long
as different things keep different names and NULL and zero keep theirs.  A renaming need not keep
the order of the names, so the tables of the graph are sorted anew.
-/

namespace ShapeDomain

/-! ### Tables with other keys -/

namespace Table

variable {κ κ' α : Type} [Ord κ] [Ord κ']

/-- A table has one binding more after a key was bound that was not. -/
theorem length_place [Std.TransOrd κ] {key : κ} {payload : α} {list : List (κ × α)}
    (free : find? key list = none) : (place key payload list).length = list.length + 1 := by
  induction list with
  | nil => rfl
  | cons head rest ih =>
      simp only [find?] at free
      split at free
      case isTrue => simp at free
      case isFalse different =>
        simp only [place]
        split
        case h_1 => rfl
        case h_2 same => exact absurd same different
        case h_3 => simp only [List.length_cons, ih free]

theorem mapPayloads_of_identical {f : α → α} (identical : ∀ payload, f payload = payload)
    (table : Table κ α) : table.mapPayloads f = table := by
  refine toList_injective ((List.map_congr_left fun binding _ => ?_).trans (List.map_id _))
  exact congrArg (binding.1, ·) (identical binding.2)

variable [Std.TransOrd κ'] [Std.LawfulEqOrd κ']

/-- The table of some bindings.  Of several bindings of a key the first one counts. -/
def ofBindings : List (κ' × α) → Table κ' α
  | [] => ∅
  | binding :: rest => (ofBindings rest).insert binding.1 binding.2

theorem get?_ofBindings (bindings : List (κ' × α)) (key : κ') :
    (ofBindings bindings).get? key = find? key bindings := by
  induction bindings with
  | nil => rfl
  | cons binding rest ih =>
      rw [ofBindings, find?]
      split
      case isTrue same =>
        obtain rfl := Std.LawfulEqCmp.eq_of_compare same
        exact get?_insert_self ..
      case isFalse different =>
        have distinct : key ≠ binding.1 := by
          rintro rfl
          exact different Std.ReflCmp.compare_self
        rw [get?_insert_of_ne _ distinct, ih]

/-- The table with other keys. -/
def rekey (f : κ → κ') (table : Table κ α) : Table κ' α :=
  ofBindings (table.toList.map fun binding => (f binding.1, binding.2))

variable [Std.LawfulEqOrd κ] {f : κ → κ'} (injective : Function.Injective f)

include injective

omit [Std.TransOrd κ'] in
theorem find?_rekey (key : κ) (list : List (κ × α)) :
    find? (f key) (list.map fun binding => (f binding.1, binding.2)) = find? key list := by
  induction list with
  | nil => rfl
  | cons head rest ih =>
      have same : compare (f key) (f head.1) = .eq ↔ compare key head.1 = .eq := by
        rw [Std.compare_eq_iff_eq, Std.compare_eq_iff_eq, injective.eq_iff]
      simp only [List.map_cons, find?, same, ih]

theorem get?_rekey (table : Table κ α) (key : κ) :
    (table.rekey f).get? (f key) = table.get? key :=
  (get?_ofBindings _ _).trans (find?_rekey injective key table.toList)

/-- All keys are new names of keys. -/
theorem get?_rekey_eq_some_iff [Std.TransOrd κ] {table : Table κ α} {key : κ'} {payload : α} :
    (table.rekey f).get? key = some payload ↔
      ∃ old, f old = key ∧ table.get? old = some payload := by
  constructor
  · intro found
    have member := mem_of_find? ((get?_ofBindings _ key).symm.trans found)
    obtain ⟨⟨old, payload⟩, inside, same⟩ := List.mem_map.1 member
    obtain ⟨rfl, rfl⟩ := Prod.mk.inj same
    exact ⟨old, rfl, mem_toList_iff.1 inside⟩
  · rintro ⟨old, rfl, found⟩
    exact (get?_rekey injective table old).trans found

theorem size_rekey (table : Table κ α) : (table.rekey f).size = table.size := by
  obtain ⟨list, sorted⟩ := table
  show (ofBindings (list.map fun binding => (f binding.1, binding.2))).toList.length = list.length
  induction list with
  | nil => rfl
  | cons head rest ih =>
      obtain ⟨first, sorted⟩ := List.pairwise_cons.1 sorted
      have free : find? head.1 rest = none := by
        cases found : find? head.1 rest with
        | none => rfl
        | some payload =>
            have less : compare head.1 head.1 = .lt := first (head.1, payload) (mem_of_find? found)
            simp [Std.ReflCmp.compare_self] at less
      have fresh : find? (f head.1) (ofBindings (rest.map fun binding =>
          (f binding.1, binding.2))).toList = none :=
        (get?_ofBindings _ (f head.1)).trans ((find?_rekey injective head.1 rest).trans free)
      exact (length_place fresh).trans (congrArg (· + 1) (ih sorted))

end Table

/-! ### Other names -/

/-- Other names for objects and values. -/
structure Renaming where
  /-- The new name of an object. -/
  object : ObjectId → ObjectId
  /-- The new name of a value. -/
  value : ValueId → ValueId
  /-- No two objects get the same name. -/
  object_injective : Function.Injective object
  /-- No two values get the same name. -/
  value_injective : Function.Injective value
  /-- NULL keeps its name. -/
  object_null : object .null = .null
  /-- So does zero. -/
  value_zero : value .zero = .zero

/-- A place in the object of the new name. -/
def Target.rename (names : Renaming) (target : Target) : Target :=
  { target with object := names.object target.object }

/-- The same knowledge of a value, under new names. -/
def Knowledge.rename (names : Renaming) (known : Knowledge) : Knowledge :=
  { known with target := known.target.map (Target.rename names) }

/-- The same contents, under new names. -/
def Content.rename (names : Renaming) (content : Content) : Content :=
  { content with value := names.value content.value }

/-- The same variables of a function, under new names. -/
def Frame.rename (names : Renaming) (frame : Frame) : Frame :=
  { frame with locals := frame.locals.mapPayloads names.object }

/-- The same memory, under new names. -/
def Graph.rename (names : Renaming) (graph : Graph) : Graph where
  objects := graph.objects.rekey names.object
  values := (graph.values.mapPayloads (Knowledge.rename names)).rekey names.value
  layouts := (graph.layouts.mapPayloads fun layout =>
    layout.mapPayloads (Content.rename names)).rekey names.object
  inequalities := KeySet.ofList <| graph.inequalities.keys.map fun pair =>
    ordered (names.value pair.1) (names.value pair.2)
  stack := graph.stack.map (Frame.rename names)
  globals := graph.globals.mapPayloads names.object
  machine := graph.machine

namespace Renaming

/-- All things keep their names. -/
def same : Renaming where
  object id := id
  value value := value
  object_injective _ _ equal := equal
  value_injective _ _ equal := equal
  object_null := rfl
  value_zero := rfl

/-- The names from a position on are moved up. -/
def shifted (shift : Shift) : Renaming where
  object := shift.object
  value := shift.value
  object_injective _ _ := shift.object_injective
  value_injective _ _ := shift.value_injective
  object_null := shift.object_null
  value_zero := shift.value_zero

theorem object_eq_null_iff (names : Renaming) {id : ObjectId} :
    names.object id = .null ↔ id = .null :=
  ⟨fun same => names.object_injective (same.trans names.object_null.symm),
    fun same => same ▸ names.object_null⟩

@[simp] theorem isNull_object (names : Renaming) (id : ObjectId) :
    (names.object id).isNull = id.isNull := by
  rw [Bool.eq_iff_iff]
  simp only [ObjectId.isNull, beq_iff_eq, names.object_eq_null_iff]

end Renaming

namespace Graph

variable {graph : Graph} (names : Renaming)

/-! ### What renamed graphs say -/

theorem get?_objects_rename (id : ObjectId) :
    (graph.rename names).objects.get? (names.object id) = graph.objects.get? id :=
  Table.get?_rekey names.object_injective _ id

@[simp] theorem object?_rename (id : ObjectId) :
    (graph.rename names).object? (names.object id) = graph.object? id := by
  rw [object?, object?, get?_objects_rename]

@[simp] theorem isValid_rename (id : ObjectId) :
    (graph.rename names).isValid (names.object id) = graph.isValid id := by
  rw [isValid, isValid, get?_objects_rename]

@[simp] theorem isHeap_rename (id : ObjectId) :
    (graph.rename names).isHeap (names.object id) = graph.isHeap id := by
  rw [isHeap, isHeap, get?_objects_rename]

@[simp] theorem hasObject_rename (id : ObjectId) :
    (graph.rename names).hasObject (names.object id) = graph.hasObject id := by
  rw [hasObject, hasObject, Table.contains, Table.contains, get?_objects_rename]

theorem get?_values_rename (value : ValueId) :
    (graph.rename names).values.get? (names.value value) =
      (graph.values.get? value).map (Knowledge.rename names) :=
  (Table.get?_rekey names.value_injective _ value).trans (Table.get?_mapPayloads ..)

@[simp] theorem hasValue_rename (value : ValueId) :
    (graph.rename names).hasValue (names.value value) = graph.hasValue value := by
  rw [hasValue, hasValue, Table.contains, Table.contains, get?_values_rename, Option.isSome_map]

@[simp] theorem knowledge_rename (value : ValueId) :
    (graph.rename names).knowledge (names.value value) = (graph.knowledge value).rename names := by
  rw [knowledge, knowledge, get?_values_rename]
  cases graph.values.get? value <;> rfl

@[simp] theorem target?_rename (value : ValueId) :
    (graph.rename names).target? (names.value value) =
      (graph.target? value).map (Target.rename names) := by
  rw [target?, target?, knowledge_rename]
  rfl

theorem layout_rename (id : ObjectId) :
    (graph.rename names).layout (names.object id) =
      (graph.layout id).mapPayloads (Content.rename names) := by
  have found : (graph.rename names).layouts.get? (names.object id) =
      (graph.layouts.get? id).map fun layout => layout.mapPayloads (Content.rename names) :=
    (Table.get?_rekey names.object_injective _ id).trans (Table.get?_mapPayloads ..)
  rw [layout, layout, found]
  cases graph.layouts.get? id <;> rfl

@[simp] theorem valueAt?_rename (id : ObjectId) (range : BitRange) :
    (graph.rename names).valueAt? (names.object id) range =
      (graph.valueAt? id range).map names.value := by
  rw [valueAt?, valueAt?, layout_rename, Table.get?_mapPayloads]
  cases (graph.layout id).get? range.offset with
  | none => rfl
  | some content =>
      simp only [Option.map_some, Option.bind_some, Content.rename]
      split <;> rfl

theorem roots_rename :
    (graph.rename names).roots = graph.roots.map fun entry => (entry.1, names.object entry.2) := by
  simp only [roots, frames, rename, Table.mapPayloads, List.map_append, List.map_flatMap,
    ← List.map_reverse, List.flatMap_map, Frame.rename]

/-! ### Nothing else is in renamed graphs -/

theorem exists_of_hasObject_rename {id : ObjectId}
    (present : (graph.rename names).hasObject id = true) :
    ∃ old, names.object old = id ∧ graph.hasObject old = true := by
  obtain ⟨placement, found⟩ := hasObject_iff_get?.1 present
  obtain ⟨old, rfl, there⟩ := (Table.get?_rekey_eq_some_iff names.object_injective).1 found
  exact ⟨old, rfl, hasObject_iff_get?.2 ⟨placement, there⟩⟩

theorem exists_of_hasValue_rename {value : ValueId}
    (present : (graph.rename names).hasValue value = true) :
    ∃ old, names.value old = value ∧ graph.hasValue old = true := by
  obtain ⟨known, found⟩ := Option.isSome_iff_exists.1 present
  obtain ⟨old, rfl, -⟩ := (Table.get?_rekey_eq_some_iff names.value_injective).1 found
  rw [hasValue_rename] at present
  exact ⟨old, rfl, present⟩

theorem exists_of_target?_rename {value : ValueId} {target : Target}
    (leads : (graph.rename names).target? value = some target) :
    ∃ old place, names.value old = value ∧ place.rename names = target ∧
      graph.target? old = some place := by
  obtain ⟨old, rfl, -⟩ := exists_of_hasValue_rename names (hasValue_of_target? leads)
  rw [target?_rename, Option.map_eq_some_iff] at leads
  obtain ⟨place, leads, rfl⟩ := leads
  exact ⟨old, place, rfl, rfl, leads⟩

theorem exists_of_layouts_rename {id : ObjectId}
    (found : ((graph.rename names).layouts.get? id).isSome = true) :
    ∃ old, names.object old = id ∧ (graph.layouts.get? old).isSome = true := by
  obtain ⟨layout, found⟩ := Option.isSome_iff_exists.1 found
  obtain ⟨old, rfl, there⟩ := (Table.get?_rekey_eq_some_iff names.object_injective).1 found
  rw [Table.get?_mapPayloads, Option.map_eq_some_iff] at there
  obtain ⟨layout, there, -⟩ := there
  exact ⟨old, rfl, by rw [there]; rfl⟩

theorem exists_of_valueAt?_rename {id : ObjectId} {range : BitRange} {value : ValueId}
    (held : (graph.rename names).valueAt? id range = some value) :
    ∃ old content, names.object old = id ∧ names.value content = value ∧
      graph.valueAt? old range = some content := by
  have found : ((graph.rename names).layouts.get? id).isSome = true := by
    cases found : (graph.rename names).layouts.get? id with
    | some layout => rfl
    | none => simp [valueAt?, layout, found] at held
  obtain ⟨old, rfl, -⟩ := exists_of_layouts_rename names found
  rw [valueAt?_rename, Option.map_eq_some_iff] at held
  obtain ⟨content, held, rfl⟩ := held
  exact ⟨old, content, rfl, rfl, held⟩

/-! ### Renamed graphs are plain -/

theorem Tiled.rename (tiled : graph.Tiled) : (graph.rename names).Tiled where
  positive held := by
    obtain ⟨_, _, -, -, before⟩ := exists_of_valueAt?_rename names held
    exact tiled.positive before
  fits held := by
    obtain ⟨old, _, rfl, -, before⟩ := exists_of_valueAt?_rename names held
    obtain ⟨found, isObject, fit⟩ := tiled.fits before
    exact ⟨found, (object?_rename names old).trans isObject, fit⟩
  apart {id _ _ _ _} held other := by
    obtain ⟨old, _, rfl, -, before⟩ := exists_of_valueAt?_rename names held
    rw [valueAt?_rename, Option.map_eq_some_iff] at other
    obtain ⟨_, beforeOther, -⟩ := other
    exact tiled.apart before beforeOther

theorem Sound.rename (sound : graph.Sound) : (graph.rename names).Sound where
  zero := by
    have place : Target.null.rename names = .null := by
      rw [Target.rename, Target.null, names.object_null]
    have leads : (graph.rename names).target? (names.value .zero) = _ := target?_rename names .zero
    rwa [names.value_zero, sound.zero, Option.map_some, place] at leads
  null := by
    have found : (graph.rename names).objects.get? (names.object .null) = _ :=
      get?_objects_rename names .null
    rwa [names.object_null, sound.null] at found
  tiled := sound.tiled.rename names
  layouts id found := by
    obtain ⟨old, rfl, before⟩ := exists_of_layouts_rename names found
    rw [hasObject_rename]
    exact sound.layouts old before
  values held := by
    obtain ⟨_, _, -, rfl, before⟩ := exists_of_valueAt?_rename names held
    rw [hasValue_rename]
    exact sound.values before
  targets leads := by
    obtain ⟨_, place, -, rfl, before⟩ := exists_of_target?_rename names leads
    exact (hasObject_rename names place.object).trans (sound.targets before)
  nameables entry member := by
    rw [roots_rename, List.mem_map] at member
    obtain ⟨old, member, rfl⟩ := member
    have nameable := sound.nameables old member
    exact ⟨(hasObject_rename names _).trans nameable.present,
      fun null => nameable.proper (names.object_eq_null_iff.1 null),
      (isHeap_rename names _).trans nameable.outside⟩

/-- A plain graph is plain under all names that were drawn. -/
theorem Plain.rename {start now : Nat} (plain : graph.Plain start)
    (drawn : (graph.rename names).DrawnBefore now) : (graph.rename names).Plain now where
  positive := drawn.2.1 .zero (Table.mem_keys_iff.2 (plain.sound.rename names).hasValue_zero)
  sound := plain.sound.rename names
  regions {id object} found proper := by
    obtain ⟨old, rfl, -⟩ := exists_of_hasObject_rename names (hasObject_of_object? found)
    rw [object?_rename] at found
    exact plain.regions found fun null => proper (names.object_eq_null_iff.2 null)
  direct leads := by
    obtain ⟨_, place, -, rfl, before⟩ := exists_of_target?_rename names leads
    have direct : place.specifier = .region := plain.direct before
    exact direct
  single {value other target} leads leads' := by
    obtain ⟨old1, place1, rfl, rfl, before⟩ := exists_of_target?_rename names leads
    obtain ⟨old2, place2, rfl, same, before'⟩ := exists_of_target?_rename names leads'
    rw [Target.rename, Target.rename, Target.mk.injEq] at same
    obtain rfl : place2 = place1 := by
      cases place1; cases place2
      simp only [Target.mk.injEq]
      exact ⟨names.object_injective same.1, same.2⟩
    rw [plain.single before before']
  distinct := by
    have distinct := List.Nodup.map names.object_injective plain.distinct
    rw [List.map_map] at distinct
    rwa [roots_rename, List.map_map]
  freed held := by
    obtain ⟨old, _, rfl, -, before⟩ := exists_of_valueAt?_rename names held
    exact (isValid_rename names old).trans (plain.freed before)
  unrelated := by
    show KeySet.ofList _ = ∅
    rw [plain.unrelated]
    rfl
  drawn := drawn

/-- A plain graph whose things keep their names stays as it is. -/
theorem Plain.rename_same {start : Nat} (plain : graph.Plain start) :
    graph.rename .same = graph := by
  have known (knowledge : Knowledge) : knowledge.rename .same = knowledge := by
    rcases knowledge with ⟨number, _ | target⟩ <;> rfl
  have contents (layout : Layout) : layout.mapPayloads (Content.rename .same) = layout :=
    Table.mapPayloads_of_identical (fun _ => rfl) layout
  have objects : (graph.rename .same).objects = graph.objects :=
    Table.ext_get? fun id => get?_objects_rename .same id
  have values : (graph.rename .same).values = graph.values :=
    Table.ext_get? fun value => (Table.get?_rekey Renaming.same.value_injective _ value).trans
      (by rw [Table.mapPayloads_of_identical known])
  have layouts : (graph.rename .same).layouts = graph.layouts :=
    Table.ext_get? fun id => (Table.get?_rekey Renaming.same.object_injective _ id).trans
      (by rw [Table.mapPayloads_of_identical contents])
  have inequalities : (graph.rename .same).inequalities = graph.inequalities := by
    show KeySet.ofList _ = graph.inequalities
    rw [plain.unrelated]
    rfl
  have stack : (graph.rename .same).stack = graph.stack := by
    refine (List.map_congr_left fun frame _ => ?_).trans (List.map_id _)
    exact congrArg (Frame.mk frame.function) (Table.mapPayloads_of_identical (fun _ => rfl) _)
  have globals : (graph.rename .same).globals = graph.globals :=
    Table.mapPayloads_of_identical (fun _ => rfl) _
  show Graph.mk (graph.rename .same).objects (graph.rename .same).values
    (graph.rename .same).layouts (graph.rename .same).inequalities (graph.rename .same).stack
    (graph.rename .same).globals graph.machine = graph
  rw [objects, values, layouts, inequalities, stack, globals]

end Graph

end ShapeDomain
