import Mathlib
import ShapeDomain.Proofs.Graph.Sound
import ShapeDomain.Proofs.Join.Confined

/-!
# Unreachable memory

A graph may have memory that no variable reaches: heap objects with fields and addresses, values
that only these hold, and inequalities with such values.  None of this is ever looked at when two
graphs are joined, even where it leads into memory that is reachable or has names of the other
graph.
-/

namespace ShapeDomain

namespace Graph

variable {graph larger left left' right right' : Graph} {start : Nat}

/-- A value that matters for what variables reach: a field of a reachable object holds it, or it is
zero. -/
def Exposes (graph : Graph) (value : ValueId) : Prop :=
  value = .zero ∨ ∃ object range, graph.Reaches object ∧ graph.valueAt? object range = some value

/-- A graph with more memory, of which no variable reaches anything: every new inequality has a
value that is not exposed, and nothing new is known of exposed values. -/
structure Extends (graph larger : Graph) : Prop where
  /-- The objects are still there, at the same places. -/
  placement : ∀ {id placement}, graph.objects.get? id = some placement →
    larger.objects.get? id = some placement
  /-- They have the same fields. -/
  layout : ∀ {id}, graph.hasObject id = true → larger.layout id = graph.layout id
  /-- The same is known of the exposed values. -/
  knowledge : ∀ {value}, graph.Exposes value → larger.knowledge value = graph.knowledge value
  /-- The same ones of them are unequal. -/
  inequalities : ∀ {pair : ValueId × ValueId}, graph.Exposes pair.1 → graph.Exposes pair.2 →
    larger.inequalities.get? pair = graph.inequalities.get? pair
  /-- The same functions run. -/
  stack : larger.stack = graph.stack
  /-- The global variables are the same. -/
  globals : larger.globals = graph.globals
  /-- The machine is the same. -/
  machine : larger.machine = graph.machine

namespace Extends

theorem refl (graph : Graph) : graph.Extends graph :=
  ⟨id, fun _ => rfl, fun _ => rfl, fun _ _ => rfl, rfl, rfl, rfl⟩

/-! ### Ways to extend a graph -/

/-- A new object is put into the heap. -/
theorem addHeapObject (more : graph.Extends larger) {id : ObjectId} (object : Object)
    (new : graph.hasObject id = false) : graph.Extends (larger.addHeapObject id object) :=
  { more with
    placement := fun {other placement} found => by
      have distinct : other ≠ id := by
        rintro rfl
        simp [hasObject, Table.contains, found] at new
      exact (Table.get?_insert_of_ne _ distinct _).trans (more.placement found) }

/-- A new object gets a field. -/
theorem putField (more : graph.Extends larger) {field : Field}
    (new : graph.hasObject field.object = false) : graph.Extends (larger.putField field) :=
  { more with
    layout := fun {id} present => by
      have distinct : id ≠ field.object := by
        rintro rfl
        simp [new] at present
      rw [layout_putField, if_neg distinct, more.layout present]
    knowledge := fun exposed => by
      rw [← more.knowledge exposed]
      exact knowledge_addValue larger field.value _ }

/-- Something becomes known of a value that is not exposed. -/
theorem putKnowledge (more : graph.Extends larger) {value : ValueId}
    (hidden : ¬ graph.Exposes value) (known : Knowledge) :
    graph.Extends { larger with values := larger.values.insert value known } :=
  { more with
    knowledge := fun {other} exposed => by
      have distinct : other ≠ value := by
        rintro rfl
        exact hidden exposed
      rw [← more.knowledge exposed]
      simp only [Graph.knowledge, Table.get?_insert_of_ne _ distinct] }

/-- Two values of which one is not exposed become unequal. -/
theorem addInequality (more : graph.Extends larger) {a b : ValueId}
    (hidden : ¬ (graph.Exposes a ∧ graph.Exposes b)) :
    graph.Extends (larger.addInequality a b) := by
  unfold Graph.addInequality
  split
  case isTrue => exact more
  case isFalse =>
    refine { more with inequalities := fun {pair} exposed1 exposed2 => ?_ }
    have distinct : pair ≠ ordered a b := by
      rintro rfl
      unfold ordered at exposed1 exposed2
      split at exposed1
      · exact hidden ⟨exposed1, by simpa [*] using exposed2⟩
      · exact hidden ⟨by simpa [*] using exposed2, exposed1⟩
    exact (Table.get?_insert_of_ne _ distinct _).trans (more.inequalities exposed1 exposed2)

end Extends

/-! ### The reachable part -/

/-- What variables reach, and the values that are yet to be drawn. -/
def reachablePart (graph : Graph) (start : Nat) : Part :=
  ⟨graph.Reaches, fun value => graph.Exposes value ∨ start ≤ value.index⟩

/-- Reachable objects are objects of the graph. -/
theorem Consistent.hasObject_of_reaches (consistent : graph.Consistent) {id : ObjectId}
    (reaches : graph.Reaches id) : graph.hasObject id = true := by
  cases reaches with
  | root named =>
      obtain ⟨entry, member, rfl⟩ := List.mem_map.1 named
      exact consistent.checked.roots entry member
  | step _ leads =>
      obtain ⟨field, -, found⟩ := List.mem_filterMap.1 leads
      obtain ⟨target, isTarget, rfl⟩ := Option.map_eq_some_iff.1 found
      exact (graph.hasObject_iff).2 (consistent.checked.object_of_target isTarget)

/-- The reachable part is closed. -/
theorem Consistent.encloses (consistent : graph.Consistent) (drawn : graph.DrawnBefore start) :
    Encloses (graph.reachablePart start) start graph where
  named named := .root named
  held reaches held := .inl (.inr ⟨_, _, reaches, held⟩)
  leads {value target} inside leads := by
    rcases inside with (rfl | ⟨object, range, reaches, held⟩) | late
    · obtain rfl := Option.some.inj (consistent.checked.zero.symm.trans leads)
      exact .inr ⟨rfl, rfl⟩
    · refine .inl (.step reaches (List.mem_filterMap.2 ⟨_, mem_fieldsOf.2 held, ?_⟩))
      rw [leads, Option.map_some]
    · have early := drawn.2.1 value (Table.mem_keys_iff.2 (hasValue_of_target? leads))
      exact absurd late (Nat.not_le_of_lt early)
  zero := .inl (.inl rfl)
  late late := .inr late

/-- Nothing is known of values that were not drawn. -/
theorem DrawnBefore.knowledge_of_late (drawn : graph.DrawnBefore start) {value : ValueId}
    (late : start ≤ value.index) : graph.knowledge value = .nothing := by
  cases found : graph.values.get? value with
  | none => rw [knowledge, found, Option.getD_none]
  | some known =>
      have early := drawn.2.1 value (Table.mem_keys_iff.2 (Option.isSome_of_eq_some found))
      exact absurd late (Nat.not_le_of_lt early)

/-- They are not unequal to anything. -/
theorem DrawnBefore.inequalities_of_late (drawn : graph.DrawnBefore start)
    {pair : ValueId × ValueId} (late : start ≤ pair.1.index ∨ start ≤ pair.2.index) :
    graph.inequalities.get? pair = none := by
  cases found : graph.inequalities.get? pair with
  | none => rfl
  | some =>
      have early := drawn.2.2 pair (Table.mem_keys_iff.2 (Option.isSome_of_eq_some found))
      omega

/-- An extended graph says the same of the reachable part. -/
theorem Extends.agreeOn (more : graph.Extends larger) (consistent : graph.Consistent)
    (drawn : graph.DrawnBefore start) (drawn' : larger.DrawnBefore start) :
    AgreeOn (graph.reachablePart start) graph larger where
  placement {id} seen := by
    have present : graph.hasObject id = true := by
      rcases seen with reaches | rfl
      · exact consistent.hasObject_of_reaches reaches
      · exact (graph.hasObject_iff).2 (consistent.checked.object_of_target consistent.checked.zero)
    obtain ⟨placement, found⟩ := Option.isSome_iff_exists.1 present
    rw [found, more.placement found]
  layout reaches := more.layout (consistent.hasObject_of_reaches reaches)
  knowledge {value} inside := by
    rcases inside with exposed | late
    · exact more.knowledge exposed
    · rw [drawn.knowledge_of_late late, drawn'.knowledge_of_late late]
  inequalities {pair} inside1 inside2 := by
    rcases inside1 with exposed1 | late
    case inr =>
      rw [drawn.inequalities_of_late (.inl late), drawn'.inequalities_of_late (.inl late)]
    rcases inside2 with exposed2 | late
    case inr =>
      rw [drawn.inequalities_of_late (.inr late), drawn'.inequalities_of_late (.inr late)]
    exact more.inequalities exposed1 exposed2
  stack := more.stack
  globals := more.globals
  machine := more.machine

/-- Without folding, memory that no variable reaches does not influence a join: both joins go
through or none does, and then there is a joint graph for both or for none, it is the same, and so
is how the joined graphs relate. -/
theorem Extends.same_join (lefts : left.Extends left') (rights : right.Extends right')
    (consistent1 : left.Consistent) (consistent2 : right.Consistent) {supply now : Supply}
    (drawn1 : left.DrawnBefore supply.next) (drawn1' : left'.DrawnBefore supply.next)
    (drawn2 : right.DrawnBefore supply.next) (drawn2' : right'.DrawnBefore supply.next)
    {options : Options} (off : options.foldLists = false) {outcome : Join.Outcome} :
    left'.join options right' supply = .ok outcome now ↔
      left.join options right supply = .ok outcome now :=
  (lefts.agreeOn consistent1 drawn1 drawn1').join_iff (rights.agreeOn consistent2 drawn2 drawn2')
    (consistent1.encloses drawn1) (consistent2.encloses drawn2) off

end Graph

/-- A variable that leads to an object, both named as told. -/
def leadingTo (object : ObjectId) (address : ValueId) : Graph :=
  ((((Graph.initial .linux64).declareGlobal "x" ⟨1⟩ (.region 64 "x")).addHeapObject object
    (.region 32 "t")).putPointer ⟨address, ⟨object, 0, .region⟩⟩).putField ⟨⟨1⟩, ⟨0, 64⟩, address⟩

/-- The same memory, and an object out of reach that leads to the object of the variable. -/
def leadingWithGarbage : Graph :=
  ((((leadingTo ⟨3⟩ ⟨2⟩).addHeapObject ⟨4⟩ (.region 64 "g")).putPointer
    ⟨⟨5⟩, ⟨⟨3⟩, 0, .region⟩⟩).putField ⟨⟨4⟩, ⟨0, 64⟩, ⟨5⟩⟩).addInequality ⟨2⟩ ⟨5⟩

theorem extends_leadingWithGarbage : (leadingTo ⟨3⟩ ⟨2⟩).Extends leadingWithGarbage := by
  have hidden : ¬ (leadingTo ⟨3⟩ ⟨2⟩).Exposes ⟨5⟩ := by
    rintro (zero | ⟨object, range, -, held⟩)
    · cases zero
    · have others : ∀ field ∈ (leadingTo ⟨3⟩ ⟨2⟩).fields, field.value ≠ ⟨5⟩ := by decide +kernel
      exact others ⟨object, range, ⟨5⟩⟩ (Graph.mem_fields_iff.2 held) rfl
  refine Graph.Extends.addInequality (.putField (.putKnowledge ((Graph.Extends.refl _).addHeapObject
    (.region 64 "g") ?_) hidden _) ?_) fun both => hidden both.2
  · decide +kernel
  · decide +kernel

/-- The garbage of the left graph has names of the right one. -/
theorem same_join_leadingWithGarbage :
    ∃ dest, (leadingTo ⟨3⟩ ⟨2⟩).join { foldLists := false } (leadingTo ⟨4⟩ ⟨5⟩) ⟨6⟩ =
        .ok (.defined dest .equal) ⟨8⟩ ∧
      leadingWithGarbage.join { foldLists := false } (leadingTo ⟨4⟩ ⟨5⟩) ⟨6⟩ =
        .ok (.defined dest .equal) ⟨8⟩ := by
  have joined : ∃ dest, (leadingTo ⟨3⟩ ⟨2⟩).join { foldLists := false } (leadingTo ⟨4⟩ ⟨5⟩) ⟨6⟩ =
      .ok (.defined dest .equal) ⟨8⟩ := ⟨_, by cbv⟩
  obtain ⟨dest, done⟩ := joined
  refine ⟨dest, done, (extends_leadingWithGarbage.same_join (.refl _) ?_ ?_ ?_ ?_ ?_ ?_ rfl).2 done⟩
  · decide +kernel
  · decide +kernel
  · decide +kernel
  · decide +kernel
  · decide +kernel
  · decide +kernel

end ShapeDomain
