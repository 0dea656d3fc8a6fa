import ShapeDomain.Graph.Consistency
import ShapeDomain.Graph.Reachable
import ShapeDomain.Proofs.Graph.AddField
import ShapeDomain.Proofs.Translate

/-!
# Parts of graphs

A part of a graph is given by some of its objects and some of its values.  Two graphs that say the
same of a part may differ in everything else, and changes of objects and values of the part are the
same in both.

An object that lost its last field keeps an empty layout, and one that never had a field has none.
So different graphs may have the same contents in all their parts; what is read from a graph does
not tell them apart.
-/

namespace ShapeDomain

namespace Graph

/-! ### The same contents -/

/-- Two graphs differ at most in that objects without fields have empty layouts or none. -/
structure SameContents (graph other : Graph) : Prop where
  /-- Everything but the layouts is the same. -/
  same : other = { graph with layouts := other.layouts }
  /-- Every object has the same fields. -/
  layout : ∀ object, other.layout object = graph.layout object

namespace SameContents

variable {graph other : Graph}

theorem refl (graph : Graph) : graph.SameContents graph :=
  ⟨rfl, fun _ => rfl⟩

/-! ### What is read -/

theorem objects (contents : graph.SameContents other) : other.objects = graph.objects := by
  rw [contents.same]

theorem inequalities (contents : graph.SameContents other) :
    other.inequalities = graph.inequalities := by
  rw [contents.same]

theorem stack (contents : graph.SameContents other) : other.stack = graph.stack := by
  rw [contents.same]

theorem globals (contents : graph.SameContents other) : other.globals = graph.globals := by
  rw [contents.same]

theorem machine (contents : graph.SameContents other) : other.machine = graph.machine := by
  rw [contents.same]

theorem knowledge (contents : graph.SameContents other) (value : ValueId) :
    other.knowledge value = graph.knowledge value := by
  rw [contents.same]
  rfl

end SameContents

/-- Where a new field was put and removed again, an empty layout may be left, and nothing else. -/
theorem sameContents_removeField_putField (graph : Graph) (field : Field)
    (new : (graph.layout field.object).get? field.range.offset = none)
    (known : graph.hasValue field.value = true) :
    graph.SameContents ((graph.putField field).removeField field) := by
  have held : (graph.putField field).hasField field = true :=
    hasField_iff.2 (valueAt?_putField_self field)
  have values : (graph.addValue field.value).values = graph.values := by
    obtain ⟨knowledge, found⟩ := Option.isSome_iff_exists.1 known
    refine Table.insert_of_get?_eq ?_
    rw [Graph.knowledge, found]
    rfl
  have removed : (graph.putField field).removeField field = { graph.putField field with
      layouts := (graph.putField field).layouts.insert field.object
        (((graph.putField field).layout field.object).erase field.range.offset) } := by
    rw [removeField, if_pos held]
  rw [removed]
  refine ⟨?_, fun object => ?_⟩
  · simp only [putField, values]
    rfl
  · by_cases same : object = field.object
    · subst same
      refine (congrArg (Option.getD · ∅) (Table.get?_insert_self ..)).trans
        (Table.ext_get? fun start => ?_)
      by_cases here : start = field.range.offset
      · subst here
        rw [Option.getD_some, Table.get?_erase_self, new]
      · rw [Option.getD_some, Table.get?_erase_of_ne _ here, layout_putField, if_pos rfl,
          Table.get?_insert_of_ne _ here]
    · rw [layout, Table.get?_insert_of_ne _ same]
      exact layout_putField_of_ne same

/-! ### Parts -/

/-- Some objects and some values. -/
structure Part where
  /-- The objects. -/
  objects : ObjectId → Prop
  /-- The values. -/
  values : ValueId → Prop

/-- All objects and all values. -/
def Part.whole : Part := ⟨fun _ => True, fun _ => True⟩

/-- An object of a part, or the NULL object, which the zero value leads to. -/
def Part.Sees (part : Part) (id : ObjectId) : Prop :=
  part.objects id ∨ id = .null

/-- Two graphs say the same of a part, and they have the same variables. -/
structure AgreeOn (part : Part) (graph other : Graph) : Prop where
  /-- The objects are the same, and they stand at the same places.  So does the NULL object. -/
  placement : ∀ {id}, part.Sees id → other.objects.get? id = graph.objects.get? id
  /-- They have the same fields. -/
  layout : ∀ {id}, part.objects id → other.layout id = graph.layout id
  /-- The same is known of the values. -/
  knowledge : ∀ {value}, part.values value → other.knowledge value = graph.knowledge value
  /-- The same values are unequal. -/
  inequalities : ∀ {pair : ValueId × ValueId}, part.values pair.1 → part.values pair.2 →
    other.inequalities.get? pair = graph.inequalities.get? pair
  /-- The same functions run. -/
  stack : other.stack = graph.stack
  /-- The global variables are the same. -/
  globals : other.globals = graph.globals
  /-- The machine is the same. -/
  machine : other.machine = graph.machine

/-- Variables and fields of a part lead to nothing outside of it, and values that are yet to be
drawn belong to it. -/
structure Encloses (part : Part) (start : Nat) (graph : Graph) : Prop where
  /-- The variables are in the part. -/
  named : ∀ {id}, id ∈ graph.roots.map Prod.snd → part.objects id
  /-- So is what its objects hold. -/
  held : ∀ {object range value}, part.objects object → graph.valueAt? object range = some value →
    part.values value
  /-- So are the objects that its values lead to, but for the NULL object that zero leads to. -/
  leads : ∀ {value target}, part.values value → graph.target? value = some target →
    part.objects target.object ∨ value = .zero ∧ target.object = .null
  /-- So is zero. -/
  zero : part.values .zero
  /-- So are values that were not drawn. -/
  late : ∀ {value : ValueId}, start ≤ value.index → part.values value

variable {part : Part} {start : Nat} {graph other : Graph} {id : ObjectId} {value : ValueId}
variable {field : Field}

namespace AgreeOn

theorem symm (agree : AgreeOn part graph other) : AgreeOn part other graph where
  placement seen := (agree.placement seen).symm
  layout inside := (agree.layout inside).symm
  knowledge inside := (agree.knowledge inside).symm
  inequalities inside1 inside2 := (agree.inequalities inside1 inside2).symm
  stack := agree.stack.symm
  globals := agree.globals.symm
  machine := agree.machine.symm

/-! ### What is read -/

theorem frames (agree : AgreeOn part graph other) : other.frames = graph.frames := by
  rw [Graph.frames, agree.stack, ← Graph.frames]

theorem roots (agree : AgreeOn part graph other) : other.roots = graph.roots := by
  rw [Graph.roots, agree.globals, agree.frames, ← Graph.roots]

theorem object? (agree : AgreeOn part graph other) (seen : part.Sees id) :
    other.object? id = graph.object? id := by
  rw [Graph.object?, agree.placement seen, ← Graph.object?]

theorem object (agree : AgreeOn part graph other) (seen : part.Sees id) :
    other.object id = graph.object id := by
  rw [Graph.object, agree.object? seen, ← Graph.object]

theorem isValid (agree : AgreeOn part graph other) (inside : part.objects id) :
    other.isValid id = graph.isValid id := by
  rw [Graph.isValid, agree.placement (.inl inside), ← Graph.isValid]

theorem isHeap (agree : AgreeOn part graph other) (inside : part.objects id) :
    other.isHeap id = graph.isHeap id := by
  rw [Graph.isHeap, agree.placement (.inl inside), ← Graph.isHeap]

theorem number? (agree : AgreeOn part graph other) (inside : part.values value) :
    other.number? value = graph.number? value := by
  rw [Graph.number?, agree.knowledge inside, ← Graph.number?]

theorem target? (agree : AgreeOn part graph other) (inside : part.values value) :
    other.target? value = graph.target? value := by
  rw [Graph.target?, agree.knowledge inside, ← Graph.target?]

theorem fieldsOf (agree : AgreeOn part graph other) (inside : part.objects id) :
    other.fieldsOf id = graph.fieldsOf id := by
  rw [Graph.fieldsOf, agree.layout inside, ← Graph.fieldsOf]

theorem valueAt? (agree : AgreeOn part graph other) (inside : part.objects id) (range : BitRange) :
    other.valueAt? id range = graph.valueAt? id range :=
  valueAt?_congr (agree.layout inside) range

/-! ### What is changed -/

theorem addValue (agree : AgreeOn part graph other) (value : ValueId) :
    AgreeOn part (graph.addValue value) (other.addValue value) :=
  { agree with
    knowledge := fun inside => by
      rw [knowledge_addValue, knowledge_addValue, agree.knowledge inside] }

theorem putField (agree : AgreeOn part graph other) (inside : part.objects field.object) :
    AgreeOn part (graph.putField field) (other.putField field) :=
  { agree.addValue field.value with
    layout := fun {id} isPart => by
      rw [layout_putField, layout_putField, agree.layout inside]
      split
      · rfl
      · exact agree.layout isPart }

theorem hasField (agree : AgreeOn part graph other) (inside : part.objects field.object) :
    other.hasField field = graph.hasField field := by
  rw [Graph.hasField, agree.layout inside, ← Graph.hasField]

theorem addField (agree : AgreeOn part graph other) (inside : part.objects field.object)
    {next : Graph} (added : graph.addField field = .ok next) :
    ∃ next', other.addField field = .ok next' ∧ AgreeOn part next next' := by
  have collides : other.collides field = graph.collides field := by
    rw [Graph.collides, agree.layout inside, ← Graph.collides]
  rcases addField_congr (agree.object? (.inl inside)) (agree.hasField inside) collides added with
    ⟨done, rfl⟩ | ⟨done, rfl⟩
  · exact ⟨other, done, agree⟩
  · exact ⟨_, done, agree.putField inside⟩

theorem removeField (agree : AgreeOn part graph other) (inside : part.objects field.object) :
    AgreeOn part (graph.removeField field) (other.removeField field) := by
  rw [Graph.removeField, Graph.removeField, agree.hasField inside]
  split
  case isFalse => exact agree
  case isTrue =>
    refine { agree with layout := fun {id} isPart => ?_ }
    by_cases holder : id = field.object
    · subst holder
      simp only [Graph.layout, Table.get?_insert_self, Option.getD_some]
      rw [← Graph.layout, ← Graph.layout, agree.layout inside]
    · simp only [Graph.layout, Table.get?_insert_of_ne _ holder]
      exact agree.layout isPart

end AgreeOn

/-- Graphs with the same contents say the same of everything. -/
theorem SameContents.agreeOn (contents : graph.SameContents other) (part : Part) :
    AgreeOn part graph other where
  placement _ := by rw [contents.objects]
  layout _ := contents.layout _
  knowledge _ := contents.knowledge _
  inequalities _ _ := by rw [contents.inequalities]
  stack := contents.stack
  globals := contents.globals
  machine := contents.machine

/-! ### What leads nowhere else -/

theorem encloses_whole (graph : Graph) (start : Nat) : Encloses .whole start graph :=
  ⟨fun _ => trivial, fun _ _ => trivial, fun _ _ => .inl trivial, trivial, fun _ => trivial⟩

namespace Encloses

/-- What a value of the part leads to can be seen. -/
theorem sees (encloses : Encloses part start graph) (inside : part.values value) {target : Target}
    (leads : graph.target? value = some target) : part.Sees target.object :=
  (encloses.leads inside leads).imp_right And.right

/-- What a proper value of the part leads to is in the part. -/
theorem leads_of_proper (encloses : Encloses part start graph) (inside : part.values value)
    (proper : value ≠ .zero) {target : Target} (leads : graph.target? value = some target) :
    part.objects target.object :=
  (encloses.leads inside leads).resolve_right fun null => proper null.1

theorem addValue (encloses : Encloses part start graph) (value : ValueId) :
    Encloses part start (graph.addValue value) :=
  { encloses with
    leads := fun inside leads => encloses.leads inside (by rwa [target?_addValue] at leads) }

/-- The part still leads nowhere else when an object gets a field with one of its values. -/
theorem addField (encloses : Encloses part start graph) (inside : part.values field.value)
    {next : Graph} (added : graph.addField field = .ok next) : Encloses part start next := by
  obtain ⟨stack, globals⟩ := names_of_addField added
  have roots : next.roots = graph.roots := by
    rw [roots, globals, frames, stack, ← frames, ← Graph.roots]
  refine { encloses with named := roots ▸ encloses.named, held := ?_, leads := ?_ }
  · intro object range value isPart held
    rcases addField_eq_ok added with ⟨-, rfl⟩ | ⟨-, rfl, -⟩
    · exact encloses.held isPart held
    · rcases valueAt?_putField_iff.1 held with ⟨-, -, rfl⟩ | ⟨old, -⟩
      · exact inside
      · exact encloses.held isPart old
  · intro value target isPart leads
    exact encloses.leads isPart ((target?_of_addField added value).symm.trans leads)

theorem removeField (encloses : Encloses part start graph) (field : Field) :
    Encloses part start (graph.removeField field) := by
  obtain ⟨stack, globals⟩ := @names_removeField graph field
  have roots : (graph.removeField field).roots = graph.roots := by
    rw [roots, globals, frames, stack, ← frames, ← Graph.roots]
  refine { encloses with named := roots ▸ encloses.named, held := ?_, leads := ?_ }
  · intro object range value isPart held
    rw [valueAt?_removeField] at held
    split at held
    · cases held
    · exact encloses.held isPart held
  · intro value target isPart leads
    exact encloses.leads isPart ((target?_removeField field value).symm.trans leads)

/-- An object of the part that is asked for is one of both graphs. -/
theorem of_agreeOn (encloses : Encloses part start graph) (agree : AgreeOn part graph other) :
    Encloses part start other where
  named named := encloses.named (agree.roots ▸ named)
  held inside held := encloses.held inside ((agree.valueAt? inside _).symm.trans held)
  leads inside leads := encloses.leads inside ((agree.target? inside).symm.trans leads)
  zero := encloses.zero
  late := encloses.late

end Encloses

end Graph

end ShapeDomain
