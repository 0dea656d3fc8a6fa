import ShapeDomain.Graph.ReachableLemmas
import ShapeDomain.Proofs.Coverage.Composition
import ShapeDomain.Proofs.Graph.Removal
import ShapeDomain.Proofs.Join.Outcome
import ShapeDomain.Proofs.State.Family

/-!
# Comparing states without their garbage

States are compared after their garbage was collected.  What is left holds what it held before, and
whatever variables hold is left, together with the objects that addresses among it lead to.
-/

namespace ShapeDomain

namespace Graph

variable {graph middle pruned : Graph} {gone : List ObjectId}

/-- What a variable holds in a range. -/
def heldBy? (graph : Graph) (name : Variable) (range : BitRange) : Option ValueId :=
  (graph.named? name).bind fun object => graph.valueAt? object range

theorem heldBy?_eq_some_iff {name : Variable} {range : BitRange} {value : ValueId} :
    graph.heldBy? name range = some value ↔
      ∃ object, graph.named? name = some object ∧ graph.valueAt? object range = some value :=
  Option.bind_eq_some_iff

/-! ### Removing objects without names -/

/-- Objects without names were removed from a graph. -/
structure Pruned (graph pruned : Graph) (gone : List ObjectId) : Prop where
  /-- The running functions stay. -/
  stack : pruned.stack = graph.stack
  /-- So do the global variables. -/
  globals : pruned.globals = graph.globals
  /-- What is known of numbers stays. -/
  number : ∀ value, pruned.number? value = graph.number? value
  /-- What is still an address was one. -/
  leads : ∀ {value target}, pruned.target? value = some target → graph.target? value = some target
  /-- Addresses in objects that stay are still addresses. -/
  stays : ∀ {value target}, graph.target? value = some target → target.object ∉ gone →
    pruned.target? value = some target
  /-- What is still a field was one. -/
  held : ∀ {object range value}, pruned.valueAt? object range = some value →
    graph.valueAt? object range = some value
  /-- Objects that stay have the same fields. -/
  layout : ∀ {object}, object ∉ gone → pruned.layout object = graph.layout object
  /-- What is still an object was one. -/
  object : ∀ {id object}, pruned.object? id = some object → graph.object? id = some object

theorem Pruned.refl (graph : Graph) : graph.Pruned graph [] where
  stack := rfl
  globals := rfl
  number _ := rfl
  leads same := same
  stays same _ := same
  held same := same
  layout _ := rfl
  object same := same

theorem Pruned.trans {others : List ObjectId} (first : graph.Pruned middle gone)
    (second : middle.Pruned pruned others) : graph.Pruned pruned (gone ++ others) where
  stack := second.stack.trans first.stack
  globals := second.globals.trans first.globals
  number value := (second.number value).trans (first.number value)
  leads same := first.leads (second.leads same)
  stays same outside := by
    rw [List.mem_append, not_or] at outside
    exact second.stays (first.stays same outside.1) outside.2
  held same := first.held (second.held same)
  layout outside := by
    rw [List.mem_append, not_or] at outside
    exact (second.layout outside.2).trans (first.layout outside.1)
  object same := first.object (second.object same)

theorem pruned_removeObject {id : ObjectId} (unnamed : ∀ entry ∈ graph.roots, entry.2 ≠ id) :
    graph.Pruned (graph.removeObject id) [id] := by
  obtain ⟨stack, globals⟩ := names_removeObject unnamed
  have others {object : ObjectId} (outside : object ∉ [id]) : object ≠ id :=
    fun same => outside (by simp [same])
  refine ⟨stack, globals, number?_removeObject graph id, fun {value target} same => ?_,
    fun {value target} same outside => ?_, valueAt?_of_removeObject,
    fun outside => layout_removeObject_of_ne (others outside), fun {other object} same => ?_⟩
  all_goals
    cases proper : id.isNull with
    | true => simpa [removeObject, proper] using same
    | false => ?_
  · rw [target?_removeObject _ proper, Option.filter_eq_some_iff] at same
    exact same.1
  · rw [target?_removeObject _ proper, Option.filter_eq_some_iff]
    exact ⟨same, by simpa using others outside⟩
  · rw [object?_removeObject _ proper] at same
    split at same
    · simp at same
    · exact same

theorem pruned_removeObjects {ids : List ObjectId}
    (unnamed : ∀ id ∈ ids, ∀ entry ∈ graph.roots, entry.2 ≠ id) :
    graph.Pruned (graph.removeObjects ids) ids := by
  induction ids generalizing graph with
  | nil => exact .refl graph
  | cons id rest ih =>
      have first := pruned_removeObject (unnamed id List.mem_cons_self)
      refine first.trans (ih fun other member entry inside => ?_)
      refine unnamed other (List.mem_cons_of_mem _ member) entry ?_
      obtain ⟨name, object⟩ := entry
      rw [mem_roots_iff] at inside ⊢
      rwa [first.stack, first.globals] at inside

/-! ### Collecting garbage -/

/-- What is reachable is no garbage. -/
theorem not_mem_garbage {object : ObjectId} (reaches : graph.Reaches object) :
    object ∉ graph.garbage := by
  intro member
  have outside := (List.mem_filter.1 member).2
  simp [contains_reachable_iff.2 reaches] at outside

theorem reaches_of_named {name : Variable} {object : ObjectId}
    (named : graph.named? name = some object) : graph.Reaches object :=
  .root (exists_named?_iff.1 ⟨name, named⟩)

/-- Garbage has no names. -/
theorem pruned_garbage (graph : Graph) :
    graph.Pruned (graph.removeObjects graph.garbage) graph.garbage := by
  refine pruned_removeObjects fun id member entry inside same => ?_
  exact not_mem_garbage (.root (List.mem_map.2 ⟨entry, inside, same⟩)) member

namespace Pruned

section Pruned

variable (parts : graph.Pruned pruned gone)

include parts

theorem named? (name : Variable) : pruned.named? name = graph.named? name := by
  cases name with
  | global name => exact congrArg (·.get? name) parts.globals
  | inner depth name =>
      simp only [Graph.named?, Graph.frames]
      rw [parts.stack]

theorem valueAt? {object : ObjectId} (outside : object ∉ gone) (range : BitRange) :
    pruned.valueAt? object range = graph.valueAt? object range := by
  rw [Graph.valueAt?, parts.layout outside, Graph.valueAt?]

theorem holdsAt {value : ValueId} {size : Nat} (holds : pruned.HoldsAt value size) :
    graph.HoldsAt value size := by
  obtain ⟨object, range, held, width⟩ := holds
  exact ⟨object, range, parts.held held, width⟩

/-! What is assumed of numbers and fields stays true. -/

theorem zeroIsZero (zero : graph.ZeroIsZero) : pruned.ZeroIsZero :=
  (parts.number .zero).trans zero

theorem onlyZero (only : graph.OnlyZero) : pruned.OnlyZero :=
  fun holds isNumber zero => only (parts.holdsAt holds) (parts.number _ ▸ isNumber) zero

theorem oneWidth (width : graph.OneWidth) : pruned.OneWidth :=
  fun proper isNumber holds holds' =>
    width proper (parts.number _ ▸ isNumber) (parts.holdsAt holds) (parts.holdsAt holds')

theorem cuts {object : ObjectId} {range : BitRange} (cuts : pruned.Cuts object range) :
    graph.Cuts object range := by
  obtain ⟨inner, value, held, inside⟩ := cuts
  exact ⟨inner, value, parts.held held, inside⟩

end Pruned

end Pruned

end Graph

namespace State

open ShapeDomain.Graph

variable {state reached : State}

/-- Collecting garbage removes objects without names. -/
theorem pruned_collect (state : State) :
    state.graph.Pruned state.collect.graph state.graph.garbage :=
  pruned_garbage state.graph

/-- Variables hold the same without the garbage. -/
theorem heldBy?_collect (state : State) (name : Variable) (range : BitRange) :
    state.collect.graph.heldBy? name range = state.graph.heldBy? name range := by
  rw [heldBy?, state.pruned_collect.named? name, heldBy?]
  cases named : state.graph.named? name with
  | none => rfl
  | some object =>
      exact state.pruned_collect.valueAt? (not_mem_garbage (reaches_of_named named)) range

/-- Addresses that variables hold lead to the same place without the garbage. -/
theorem target?_collect {name : Variable} {range : BitRange} {value : ValueId}
    (held : state.graph.heldBy? name range = some value) :
    state.collect.graph.target? value = state.graph.target? value := by
  obtain ⟨object, named, isHeld⟩ := heldBy?_eq_some_iff.1 held
  cases leads : state.graph.target? value with
  | none =>
      rw [Option.eq_none_iff_forall_not_mem]
      intro target leads'
      rw [state.pruned_collect.leads leads'] at leads
      simp at leads
  | some target =>
      refine state.pruned_collect.stays leads (not_mem_garbage (.step (reaches_of_named named) ?_))
      exact List.mem_filterMap.2 ⟨⟨object, range, value⟩, mem_fieldsOf.2 isHeld, by rw [leads]; rfl⟩

/-! ### Comparing -/

/-- The comparison of two states goes through and says that the second one covers the first one. -/
def CoveredBy (options : Options) (state reached : State) (supply : Supply) : Prop :=
  ∃ now, state.isSubsumedBy options reached supply = .ok true now

theorem coveredBy_iff {options : Options} {state reached : State} {supply : Supply} :
    CoveredBy options state reached supply ↔
      (match state.isSubsumedBy options reached supply with
      | .ok answer _ => answer
      | .error _ _ => false) = true := by
  unfold CoveredBy
  cases state.isSubsumedBy options reached supply <;> simp

instance (options : Options) (state reached : State) (supply : Supply) :
    Decidable (CoveredBy options state reached supply) :=
  decidable_of_iff _ coveredBy_iff.symm

variable {options : Options} {supply : Supply} {states : List State}

/-- The graphs of states that exist side by side are plain without their garbage. -/
theorem Family.plain_collect (family : Family states supply) (inside : state ∈ states) :
    state.collect.graph.Plain supply.next :=
  State.plain_collect (family.plain.2 state inside)

end State

namespace Join

variable {state reached : State} {options : Options} {supply : Supply} {states : List State}

/-- Two states without their garbage were joined, and the first one is covered. -/
structure Compares (options : Options) (state reached : State) (supply : Supply) (basis : Basis)
    (here : Progress × Supply) : Prop where
  /-- The left graph is that of the first state. -/
  left : basis.left = state.collect.graph
  /-- The right graph is that of the second state. -/
  right : basis.right = reached.collect.graph
  /-- List nodes are folded only if the options say so. -/
  folds : basis.Folds → options.foldLists = true
  /-- The join is finished. -/
  finished : Finished basis here
  /-- The left graph is covered. -/
  covered : here.1.status.leftIsCovered = true
  /-- It ended here. -/
  ended : finish options state.collect.graph reached.collect.graph supply = .ok (some here.1) here.2
  /-- The states had the same findings. -/
  findings : state.collect.findings = reached.collect.findings

/-- A covered state was joined with the one that covers it, if the graphs are plain without their
garbage. -/
theorem exists_compares_of_plain (plain1 : state.collect.graph.Plain supply.next)
    (plain2 : reached.collect.graph.Plain supply.next)
    (covered : State.CoveredBy options state reached supply) :
    ∃ basis here, Compares options state reached supply basis here := by
  obtain ⟨now, answer⟩ := covered
  obtain ⟨findings, _, _, joint, isCovered⟩ := State.isSubsumedBy_iff.1 answer
  obtain ⟨here, done, rfl, rfl, rfl⟩ := Graph.join_eq_defined_iff.1 joint
  have ends := joinAll_ends (Graph.basis options plain1 plain2)
  exact ⟨_, here, rfl, rfl, And.left, ends.of_eq_ok done, isCovered,
    finish_eq_some_iff.2 done, findings⟩

/-- So it is with states that exist side by side. -/
theorem exists_compares (family : State.Family states supply) (inside1 : state ∈ states)
    (inside2 : reached ∈ states) (covered : State.CoveredBy options state reached supply) :
    ∃ basis here, Compares options state reached supply basis here :=
  exists_compares_of_plain (family.plain_collect inside1) (family.plain_collect inside2) covered

namespace Compares

variable {basis : Basis} {here : Progress × Supply}
variable {name : Variable} {range : BitRange} {value : ValueId}

section Compares

variable (compares : Compares options state reached supply basis here)

include compares

theorem pruned_left : state.graph.Pruned basis.left state.graph.garbage :=
  compares.left ▸ state.pruned_collect

theorem pruned_right : reached.graph.Pruned basis.right reached.graph.garbage :=
  compares.right ▸ reached.pruned_collect

theorem heldBy?_left : basis.left.heldBy? name range = state.graph.heldBy? name range :=
  compares.left ▸ state.heldBy?_collect name range

theorem heldBy?_right : basis.right.heldBy? name range = reached.graph.heldBy? name range :=
  compares.right ▸ reached.heldBy?_collect name range

theorem target?_left (held : state.graph.heldBy? name range = some value) :
    basis.left.target? value = state.graph.target? value :=
  compares.left ▸ State.target?_collect held

theorem target?_right (held : reached.graph.heldBy? name range = some value) :
    basis.right.target? value = reached.graph.target? value :=
  compares.right ▸ State.target?_collect held

end Compares

end Compares

end Join

end ShapeDomain
