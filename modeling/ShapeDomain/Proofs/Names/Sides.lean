import ShapeDomain.Proofs.Graph.Relaid
import ShapeDomain.Proofs.Names.Renaming

/-!
# Graphs that change along with renamed ones

While a graph is aligned, a renamed one is aligned with it.  What they hold is linked: a value of
the first graph with its new name, and each value that is drawn for the first one with the value
that is drawn at that time for the second one.
-/

namespace ShapeDomain

/-! ### Tables with the same keys -/

namespace Table

variable {κ α β : Type} [Ord κ] {related related' : α → β → Prop}

/-- Two tables bind the same keys, to payloads that are related. -/
def Matched (related : α → β → Prop) (first : Table κ α) (second : Table κ β) : Prop :=
  List.Forall₂ (fun binding1 binding2 => binding1.1 = binding2.1 ∧ related binding1.2 binding2.2)
    first.toList second.toList

namespace Matched

variable {first : Table κ α} {second : Table κ β}

theorem mono (matched : Matched related first second)
    (more : ∀ {a b}, related a b → related' a b) : Matched related' first second :=
  List.Forall₂.imp (fun _ _ both => ⟨both.1, more both.2⟩) matched

/-- A key is bound in both tables or in none. -/
theorem get?_cases (matched : Matched related first second) (key : κ) :
    (first.get? key = none ∧ second.get? key = none) ∨
      ∃ payload1 payload2, first.get? key = some payload1 ∧ second.get? key = some payload2 ∧
        related payload1 payload2 := by
  unfold Matched at matched
  unfold Table.get?
  generalize first.toList = list1 at matched ⊢
  generalize second.toList = list2 at matched ⊢
  induction matched with
  | nil => exact .inl ⟨rfl, rfl⟩
  | cons both _ ih =>
      simp only [find?, both.1]
      split
      · exact .inr ⟨_, _, rfl, rfl, both.2⟩
      · exact ih

theorem insert [Std.TransOrd κ] [Std.LawfulEqOrd κ] (matched : Matched related first second)
    (key : κ) {payload1 : α} {payload2 : β} (holds : related payload1 payload2) :
    Matched related (first.insert key payload1) (second.insert key payload2) := by
  unfold Matched at matched
  show List.Forall₂ _ (place key payload1 first.toList) (place key payload2 second.toList)
  generalize first.toList = list1 at matched ⊢
  generalize second.toList = list2 at matched ⊢
  induction matched with
  | nil => exact .cons ⟨rfl, holds⟩ .nil
  | cons both rest ih =>
      simp only [place, both.1]
      split
      · exact .cons ⟨rfl, holds⟩ (.cons both rest)
      · exact .cons ⟨rfl, holds⟩ rest
      · exact .cons both ih

theorem erase (matched : Matched related first second) (key : κ) :
    Matched related (first.erase key) (second.erase key) := by
  unfold Matched at matched
  show List.Forall₂ _ (first.toList.filter fun binding => compare key binding.1 != .eq)
    (second.toList.filter fun binding => compare key binding.1 != .eq)
  generalize first.toList = list1 at matched ⊢
  generalize second.toList = list2 at matched ⊢
  induction matched with
  | nil => exact .nil
  | cons both _ ih =>
      simp only [List.filter_cons, both.1]
      split
      · exact .cons both ih
      · exact ih

end Matched

/-- A table matches itself with other payloads. -/
theorem matched_mapPayloads {table : Table κ α} {f : α → β}
    (holds : ∀ binding ∈ table.toList, related binding.2 (f binding.2)) :
    Matched related table (table.mapPayloads f) :=
  List.forall₂_map_right_iff.2 (List.forall₂_same.2 fun binding member =>
    ⟨rfl, holds binding member⟩)

end Table

namespace Join

/-! ### Namings -/

/-- A naming links values of a graph with values of the renamed one. -/
abbrev Naming := ValueId → ValueId → Prop

/-- Some values that were not drawn at some time have been linked since. -/
structure Naming.Extends (naming : Naming) (now now' : Nat) (later : Naming) : Prop where
  /-- What was linked is linked. -/
  keeps : ∀ {value value'}, naming value value' → later value value'
  /-- What else is linked was drawn. -/
  drawn : ∀ {value value'}, later value value' →
    naming value value' ∨ (now ≤ value.index ∧ now' ≤ value'.index)

namespace Naming.Extends

variable {naming later last : Naming} {now now' next next' : Nat}

theorem refl (naming : Naming) (now now' : Nat) : naming.Extends now now' naming :=
  ⟨fun linked => linked, .inl⟩

theorem trans (first : naming.Extends now now' later) (after : now ≤ next) (after' : now' ≤ next')
    (second : later.Extends next next' last) : naming.Extends now now' last where
  keeps linked := second.keeps (first.keeps linked)
  drawn linked := by
    rcases second.drawn linked with linked | ⟨new, new'⟩
    · exact first.drawn linked
    · exact .inr ⟨Nat.le_trans after new, Nat.le_trans after' new'⟩

end Naming.Extends

/-- The same contents, with linked values. -/
structure SameContent (naming : Naming) (content content' : Content) : Prop where
  /-- They have the same width. -/
  size : content.size = content'.size
  /-- The values are linked. -/
  value : naming content.value content'.value

/-- The same field under a new name, with linked values. -/
structure SameField (names : Renaming) (naming : Naming) (field field' : Field) : Prop where
  /-- The object has its new name. -/
  object : field'.object = names.object field.object
  /-- The fields have the same range. -/
  range : field'.range = field.range
  /-- The values are linked. -/
  value : naming field.value field'.value

theorem SameField.mono {names : Renaming} {naming later : Naming} {field field' : Field}
    (same : SameField names naming field field')
    (keeps : ∀ {value value'}, naming value value' → later value value') :
    SameField names later field field' :=
  { same with value := keeps same.value }

/-- A graph that is aligned, and the renamed one that is aligned in step.  Of the two supplies,
`now` and `now'` are the next names. -/
structure Side (origin : Graph) (names : Renaming) (naming : Naming) (now now' : Nat)
    (graph graph' : Graph) : Prop where
  /-- Only layouts of the graph change. -/
  relaid : origin.Relaid graph
  /-- Only layouts of the renamed graph change. -/
  relaid' : (origin.rename names).Relaid graph'
  /-- Zero is linked with zero. -/
  zero : naming .zero .zero
  /-- No value is linked with two. -/
  one : ∀ {value value' other other'}, naming value value' → naming other other' →
    (value = other ↔ value' = other')
  /-- Linked values were drawn. -/
  drawn : ∀ {value value'}, naming value value' → value.index < now ∧ value'.index < now'
  /-- The same is known of linked values. -/
  knowledge : ∀ {value value'}, naming value value' →
    (origin.rename names).knowledge value' = (origin.knowledge value).rename names
  /-- Nothing is known of what is not drawn. -/
  late : ∀ {value}, now ≤ value.index → origin.knowledge value = .nothing
  /-- Nor is it in the renamed graph. -/
  late' : ∀ {value}, now' ≤ value.index → (origin.rename names).knowledge value = .nothing
  /-- The objects hold linked values. -/
  layouts : ∀ id,
    (graph.layout id).Matched (SameContent naming) (graph'.layout (names.object id))

namespace Side

variable {origin graph graph' next next' : Graph} {names : Renaming} {naming : Naming}
variable {now now' : Nat} {id : ObjectId} {value value' : ValueId}

/-- Each value of a graph is linked with its new name. -/
theorem start (plain : graph.Plain now) (plain' : (graph.rename names).Plain now') :
    Side graph names (fun value value' => graph.hasValue value = true ∧ names.value value = value')
      now now' graph (graph.rename names) where
  relaid := .refl graph
  relaid' := .refl _
  zero := ⟨plain.sound.hasValue_zero, names.value_zero⟩
  one linked linked' := by
    obtain ⟨-, rfl⟩ := linked
    obtain ⟨-, rfl⟩ := linked'
    exact (names.value_injective.eq_iff).symm
  drawn linked := by
    obtain ⟨present, rfl⟩ := linked
    exact ⟨plain.value_lt present, plain'.value_lt ((Graph.hasValue_rename names _).trans present)⟩
  knowledge linked := by
    obtain ⟨-, rfl⟩ := linked
    exact Graph.knowledge_rename names _
  late := plain.knowledge_of_late
  late' := plain'.knowledge_of_late
  layouts id := by
    rw [Graph.layout_rename]
    refine Table.matched_mapPayloads fun binding member => ⟨rfl, ?_, rfl⟩
    have held : graph.valueAt? id ⟨binding.1, binding.2.size⟩ = some binding.2.value :=
      Graph.valueAt?_eq_some_iff.2 (Table.mem_toList_iff.1 member)
    exact plain.sound.values held

variable (side : Side origin names naming now now' graph graph')

include side

theorem later {then_ then' : Nat} (after : now ≤ then_) (after' : now' ≤ then') :
    Side origin names naming then_ then' graph graph' :=
  { side with
    drawn := fun linked =>
      have drawn := side.drawn linked
      ⟨Nat.lt_of_lt_of_le drawn.1 after, Nat.lt_of_lt_of_le drawn.2 after'⟩
    late := fun new => side.late (Nat.le_trans after new)
    late' := fun new => side.late' (Nat.le_trans after' new) }

/-! ### What the two graphs say -/

theorem isZero (linked : naming value value') : value'.isZero = value.isZero := by
  rw [Bool.eq_iff_iff, ValueId.isZero, ValueId.isZero, beq_iff_eq, beq_iff_eq,
    side.one linked side.zero]

theorem target? (linked : naming value value') :
    graph'.target? value' = (graph.target? value).map (Target.rename names) := by
  rw [side.relaid'.target?, side.relaid.target?, Graph.target?, side.knowledge linked]
  rfl

theorem number? (linked : naming value value') : graph'.number? value' = graph.number? value := by
  rw [side.relaid'.number?, side.relaid.number?, Graph.number?, side.knowledge linked]
  rfl

theorem object? (id : ObjectId) : graph'.object? (names.object id) = graph.object? id := by
  rw [side.relaid'.object?, side.relaid.object?, Graph.object?_rename]

theorem isValid (id : ObjectId) : graph'.isValid (names.object id) = graph.isValid id := by
  rw [side.relaid'.isValid, side.relaid.isValid, Graph.isValid_rename]

theorem isHeap (id : ObjectId) : graph'.isHeap (names.object id) = graph.isHeap id := by
  rw [side.relaid'.isHeap, side.relaid.isHeap, Graph.isHeap_rename]

/-- Both graphs have the same object. -/
theorem object_eq {object object' : Object} (given : graph.object id = .ok object)
    (given' : graph'.object (names.object id) = .ok object') : object = object' := by
  have found := (graph.object_eq_ok_iff).1 given
  have found' := (graph'.object_eq_ok_iff).1 given'
  rw [side.object?, found] at found'
  exact Option.some.inj found'

/-- Both objects hold something in a range, or none does. -/
theorem valueAt?_cases (id : ObjectId) (range : BitRange) :
    (graph.valueAt? id range = none ∧ graph'.valueAt? (names.object id) range = none) ∨
      ∃ value value', graph.valueAt? id range = some value ∧
        graph'.valueAt? (names.object id) range = some value' ∧ naming value value' := by
  rw [Graph.valueAt?, Graph.valueAt?]
  rcases (side.layouts id).get?_cases range.offset with
    ⟨none, none'⟩ | ⟨content, content', found, found', same⟩
  · rw [none, none']
    exact .inl ⟨rfl, rfl⟩
  · rw [found, found']
    simp only [Option.bind_some, same.size]
    split
    · exact .inr ⟨_, _, rfl, rfl, same.value⟩
    · exact .inl ⟨rfl, rfl⟩

theorem fieldsOf (id : ObjectId) :
    List.Forall₂ (SameField names naming) (graph.fieldsOf id)
      (graph'.fieldsOf (names.object id)) := by
  refine List.forall₂_map_left_iff.2 (List.forall₂_map_right_iff.2 ?_)
  refine List.Forall₂.imp (fun binding binding' both => ⟨rfl, ?_, both.2.value⟩) (side.layouts id)
  rw [both.1, both.2.size]

/-- Both graphs have the same global variables. -/
theorem globals : graph'.globals = graph.globals.mapPayloads names.object := by
  rw [side.relaid'.globals, side.relaid.globals]
  rfl

/-- The same functions run, with the same variables. -/
theorem frames : graph'.frames = graph.frames.map (Frame.rename names) := by
  rw [Graph.frames, Graph.frames, side.relaid'.stack, side.relaid.stack, List.map_reverse]
  rfl

/-- Both graphs have as many objects. -/
theorem size_objects : graph'.objects.size = graph.objects.size := by
  rw [side.relaid'.objects, side.relaid.objects]
  exact Table.size_rekey names.object_injective _

/-! ### What aligning does -/

/-- Two drawn values are linked. -/
theorem draw : Side origin names (fun value value' => naming value value' ∨
      (value = ⟨now⟩ ∧ value' = ⟨now'⟩)) (now + 1) (now' + 1)
      (graph.addValue ⟨now⟩) (graph'.addValue ⟨now'⟩) where
  relaid := side.relaid.addValue _
  relaid' := side.relaid'.addValue _
  zero := .inl side.zero
  one {value value' other other'} linked linked' := by
    rcases linked with linked | ⟨rfl, rfl⟩ <;> rcases linked' with linked' | ⟨rfl, rfl⟩
    · exact side.one linked linked'
    · have drawn := side.drawn linked
      constructor <;> rintro rfl
      · exact absurd drawn.1 (Nat.lt_irrefl _)
      · exact absurd drawn.2 (Nat.lt_irrefl _)
    · have drawn := side.drawn linked'
      constructor <;> rintro rfl
      · exact absurd drawn.1 (Nat.lt_irrefl _)
      · exact absurd drawn.2 (Nat.lt_irrefl _)
    · simp
  drawn linked := by
    rcases linked with linked | ⟨rfl, rfl⟩
    · have drawn := side.drawn linked
      omega
    · exact ⟨Nat.lt_succ_self _, Nat.lt_succ_self _⟩
  knowledge linked := by
    rcases linked with linked | ⟨rfl, rfl⟩
    · exact side.knowledge linked
    · rw [side.late (Nat.le_refl _), side.late' (Nat.le_refl _)]
      rfl
  late new := side.late (Nat.le_of_succ_le new)
  late' new := side.late' (Nat.le_of_succ_le new)
  layouts id := (side.layouts id).mono fun same => { same with value := .inl same.value }

/-- The same field is added to both graphs. -/
theorem addField {field field' : Field} (same : SameField names naming field field')
    (done : graph.addField field = .ok next) (done' : graph'.addField field' = .ok next') :
    Side origin names naming now now' next next' := by
  have put {graph next : Graph} {field : Field} (done : graph.addField field = .ok next) :
      ∀ id, next.layout id = (graph.putField field).layout id := by
    rcases Graph.addField_eq_ok done with ⟨present, rfl⟩ | ⟨-, rfl, -⟩
    · intro id
      rw [Graph.layout_putField]
      split
      case isTrue same =>
        subst same
        refine (Table.insert_of_get?_eq ?_).symm
        exact Graph.valueAt?_eq_some_iff.1 (Graph.hasField_iff.1 present)
      case isFalse => rfl
    · exact fun _ => rfl
  refine { side with
    relaid := side.relaid.addField done
    relaid' := side.relaid'.addField done'
    layouts := fun id => ?_ }
  rw [put done, put done', Graph.layout_putField, Graph.layout_putField, same.object, same.range]
  by_cases isObject : id = field.object
  · subst isObject
    rw [if_pos rfl, if_pos rfl]
    exact (side.layouts field.object).insert _ ⟨rfl, same.value⟩
  · rw [if_neg isObject, if_neg fun equal => isObject (names.object_injective equal)]
    exact side.layouts id

/-- The same field is removed from both graphs. -/
theorem removeField {field field' : Field} (same : SameField names naming field field') :
    Side origin names naming now now' (graph.removeField field) (graph'.removeField field') := by
  have present : graph'.hasField field' = graph.hasField field := by
    rw [Bool.eq_iff_iff, Graph.hasField_iff, Graph.hasField_iff, same.object, same.range]
    rcases side.valueAt?_cases field.object field.range with
      ⟨none, none'⟩ | ⟨value, value', held, held', linked⟩
    · simp [none, none']
    · rw [held, held', Option.some.injEq, Option.some.injEq, side.one linked same.value]
  refine { side with
    relaid := side.relaid.removeField field
    relaid' := side.relaid'.removeField field'
    layouts := fun id => ?_ }
  unfold Graph.removeField
  rw [present]
  split
  case isTrue =>
    simp only [Graph.layout, Table.get?_insert, same.object, same.range]
    by_cases isObject : id = field.object
    · subst isObject
      rw [if_pos rfl, if_pos rfl]
      exact (side.layouts field.object).erase _
    · rw [if_neg isObject, if_neg fun equal => isObject (names.object_injective equal)]
      exact side.layouts id
  case isFalse => exact side.layouts id

end Side

end Join

end ShapeDomain
