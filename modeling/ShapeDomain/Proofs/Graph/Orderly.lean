import ShapeDomain.Graph.Operation
import ShapeDomain.Proofs.Graph.Changes
import ShapeDomain.Proofs.Run

/-!
# Orderly graphs

The tables of a graph fit together from the first operation on, whatever is done to the graph:
fields may be empty, variables may name any object, and operations may be refused.  All that is
asked is that new objects get names that are not in use.

That a field starts before another one is enough to keep them apart, because the last field that
starts before the end of a new one is the only one that can reach into it.
-/

namespace ShapeDomain

namespace Graph

variable {graph next : Graph}

/-- The tables of a graph fit together. -/
structure Orderly (graph : Graph) : Prop where
  /-- The zero value is the address of NULL. -/
  zero : graph.target? .zero = some .null
  /-- The NULL object is in the graph. -/
  null : graph.hasObject .null = true
  /-- Layouts are those of objects. -/
  layouts : ∀ id, (graph.layouts.get? id).isSome = true → graph.hasObject id = true
  /-- Every field fits its object. -/
  fits : ∀ {object range value}, graph.valueAt? object range = some value →
    ∃ found, graph.object? object = some found ∧ range.fits found.size = true
  /-- Of two fields of an object, the one that starts first ends before the other one starts. -/
  follow : ∀ {object range value later held}, graph.valueAt? object range = some value →
    graph.valueAt? object later = some held → range.offset < later.offset →
    range.offset + range.size ≤ later.offset
  /-- Fields hold values of the graph. -/
  values : ∀ {object range value}, graph.valueAt? object range = some value →
    graph.hasValue value = true
  /-- Addresses lead to objects. -/
  targets : ∀ {value target}, graph.target? value = some target →
    graph.hasObject target.object = true
  /-- Variables name objects. -/
  roots : ∀ entry ∈ graph.roots, graph.hasObject entry.2 = true
  /-- Unequal values are different, and the smaller one is named first. -/
  increasing : ∀ pair, graph.inequalities.contains pair = true → pair.1.index < pair.2.index

theorem orderly_initial (machine : Machine) : (initial machine).Orderly where
  zero := (sound_initial machine).zero
  null := (sound_initial machine).hasObject_null
  layouts := (sound_initial machine).layouts
  fits held := by simp [valueAt?_initial] at held
  follow held := by simp [valueAt?_initial] at held
  values held := by simp [valueAt?_initial] at held
  targets := (sound_initial machine).targets
  roots entry member := by simp [Graph.roots, frames, initial] at member
  increasing pair present := by simp [initial, Table.contains] at present

namespace Orderly

/-! ### What is seen of an orderly graph -/

theorem fitting (orderly : graph.Orderly) : graph.Fitting :=
  ⟨orderly.zero, orderly.layouts, orderly.fits, orderly.follow, orderly.values, orderly.targets,
    orderly.roots⟩

/-- An object that is not in the graph holds nothing. -/
theorem valueAt?_of_absent (orderly : graph.Orderly) {object : ObjectId}
    (absent : graph.hasObject object = false) (range : BitRange) :
    graph.valueAt? object range = none :=
  orderly.fitting.valueAt?_of_absent absent range

/-- An orderly graph passes the check. -/
theorem consistent (orderly : graph.Orderly) : graph.Consistent :=
  orderly.fitting.consistent

/-! ### Objects -/

/-- An object may be put under any name whose fields fit it. -/
theorem putPlacement (orderly : graph.Orderly) {id : ObjectId} {placement : Placement}
    (fit : ∀ {range value}, graph.valueAt? id range = some value →
      range.fits placement.object.size = true) : (graph.putPlacement id placement).Orderly where
  zero := orderly.zero
  null := by rw [hasObject_putPlacement, orderly.null, Bool.or_true]
  layouts other found := by rw [hasObject_putPlacement, orderly.layouts other found, Bool.or_true]
  fits {object range value} held := by
    rw [object?_putPlacement]
    split
    case isTrue same =>
      subst same
      exact ⟨placement.object, rfl, fit held⟩
    case isFalse => exact orderly.fits held
  follow := orderly.follow
  values := orderly.values
  targets leads := by rw [hasObject_putPlacement, orderly.targets leads, Bool.or_true]
  roots entry member := by rw [hasObject_putPlacement, orderly.roots entry member, Bool.or_true]
  increasing := orderly.increasing

/-- A new object may be put anywhere. -/
theorem putNew (orderly : graph.Orderly) {id : ObjectId} (absent : graph.hasObject id = false)
    (placement : Placement) : (graph.putPlacement id placement).Orderly :=
  orderly.putPlacement fun held => by
    rw [orderly.valueAt?_of_absent absent] at held
    simp at held

/-- While nothing has a field, an object may be replaced by any other one. -/
theorem addObject (orderly : graph.Orderly) (bare : graph.layouts = ∅) (id : ObjectId)
    (object : Object) : (graph.addObject id object).Orderly := by
  have unheld {range : BitRange} {value : ValueId} : graph.valueAt? id range ≠ some value := by
    simp [valueAt?, layout, bare]
  exact orderly.putPlacement fun held => absurd held unheld

theorem setValid (orderly : graph.Orderly) {id : ObjectId} {valid : Bool}
    (done : graph.setValid id valid = .ok next) : next.Orderly := by
  obtain ⟨old, found, rfl⟩ := (graph.setValid_eq_ok_iff).1 done
  refine orderly.putPlacement fun held => ?_
  obtain ⟨object, there, fit⟩ := orderly.fits held
  rw [object?, found] at there
  obtain rfl := Option.some.inj there
  exact fit

/-! ### Names -/

theorem withNames (orderly : graph.Orderly) {stack : List Frame} {globals : Table String ObjectId}
    (named : ∀ entry ∈ (graph.withNames stack globals).roots, graph.hasObject entry.2 = true) :
    (graph.withNames stack globals).Orderly where
  zero := orderly.zero
  null := orderly.null
  layouts := orderly.layouts
  fits := orderly.fits
  follow := orderly.follow
  values := orderly.values
  targets := orderly.targets
  roots := named
  increasing := orderly.increasing

/-- A global variable may name any object that was just put into the graph. -/
theorem declareGlobal {name : String} {id : ObjectId} {object : Object}
    (added : (graph.addObject id object).Orderly) :
    (graph.declareGlobal name id object).Orderly := by
  refine added.withNames fun entry member => ?_
  rcases mem_roots_global member with same | old
  · exact hasObject_of_object? (by rw [object?_addObject, if_pos same])
  · exact added.roots entry old

/-- So may a variable of the innermost function. -/
theorem declareLocal {name : String} {id : ObjectId} {object : Object}
    (added : (graph.addObject id object).Orderly)
    (done : graph.declareLocal name id object = .ok next) : next.Orderly := by
  obtain ⟨frame, outer, stack, rfl⟩ := declareLocal_eq_ok done
  have split : (graph.addObject id object).stack = frame :: outer := stack
  refine added.withNames fun entry member => ?_
  rcases mem_roots_local split member with same | old
  · exact hasObject_of_object? (by rw [object?_addObject, if_pos same])
  · exact added.roots entry old

theorem enter (orderly : graph.Orderly) (function : String) : (graph.enter function).Orderly :=
  orderly.withNames fun entry member => orderly.roots entry (mem_roots_enter member)

/-! ### Values -/

theorem putKnowledge (orderly : graph.Orderly) {value : ValueId} {known : Knowledge}
    (zero : value = .zero → known.target = some .null)
    (leads : ∀ target, known.target = some target → graph.hasObject target.object = true) :
    (graph.putKnowledge value known).Orderly where
  zero := by
    rw [target?, knowledge_putKnowledge]
    split
    case isTrue same => exact zero same.symm
    case isFalse => exact orderly.zero
  null := orderly.null
  layouts := orderly.layouts
  fits := orderly.fits
  follow := orderly.follow
  values held := by rw [hasValue_putKnowledge, orderly.values held, Bool.or_true]
  targets {other target} isTarget := by
    rw [target?, knowledge_putKnowledge] at isTarget
    split at isTarget
    case isTrue => exact leads target isTarget
    case isFalse => exact orderly.targets isTarget
  roots := orderly.roots
  increasing := orderly.increasing

theorem addValue (orderly : graph.Orderly) (value : ValueId) : (graph.addValue value).Orderly :=
  orderly.putKnowledge (fun same => same ▸ orderly.zero) fun _ leads => orderly.targets leads

theorem setNumber (orderly : graph.Orderly) (value : ValueId) (number : Int) :
    (graph.setNumber value number).Orderly :=
  orderly.putKnowledge (fun same => by subst same; exact orderly.zero) fun _ leads =>
    orderly.targets leads

theorem addPointer (orderly : graph.Orderly) {pointer : Pointer}
    (done : graph.addPointer pointer = .ok next) : next.Orderly := by
  obtain ⟨present, free, rfl⟩ := addPointer_eq_ok_iff.1 done
  refine orderly.putKnowledge (fun same => ?_) fun target leads => ?_
  · rw [same, orderly.zero] at free
    simpa [eq_comm] using free
  · obtain rfl := Option.some.inj leads
    exact present

theorem removePointer (orderly : graph.Orderly) (value : ValueId) :
    (graph.removePointer value).Orderly := by
  unfold Graph.removePointer
  split
  case h_1 target removable =>
    refine orderly.putKnowledge (fun same => ?_) fun _ leads => by simp at leads
    simp [removableTarget?, same, ValueId.isZero] at removable
  case h_2 => exact orderly

/-! ### Inequalities -/

theorem addInequality (orderly : graph.Orderly) (a b : ValueId) :
    (graph.addInequality a b).Orderly := by
  unfold Graph.addInequality
  split
  case isTrue => exact orderly
  case isFalse distinct =>
    refine { orderly with increasing := fun pair present => ?_ }
    rw [KeySet.contains_add, Bool.or_eq_true, decide_eq_true_eq] at present
    rcases present with rfl | old
    · have different : a.index ≠ b.index := fun same => distinct (by cases a; cases b; simp_all)
      unfold ordered
      split <;> simp only <;> omega
    · exact orderly.increasing pair old

theorem addInequalities (orderly : graph.Orderly) (pairs : List (ValueId × ValueId)) :
    (pairs.foldl (fun graph pair => graph.addInequality pair.1 pair.2) graph).Orderly ∧
      (pairs.foldl (fun graph pair => graph.addInequality pair.1 pair.2) graph).objects =
        graph.objects := by
  induction pairs generalizing graph with
  | nil => exact ⟨orderly, rfl⟩
  | cons pair rest ih =>
      obtain ⟨last, objects⟩ := ih (orderly.addInequality pair.1 pair.2)
      refine ⟨last, objects.trans ?_⟩
      unfold Graph.addInequality
      split <;> rfl

/-! ### Fields -/

/-- A field that starts elsewhere is apart from one that does not collide, even if one of the two is
empty. -/
theorem apart_of_clear (orderly : graph.Orderly) {field : Field} {object : Object}
    (clear : graph.collides field = false) (fit : field.range.fits object.size = true)
    {range : BitRange} {value : ValueId}
    (held : graph.valueAt? field.object range = some value) : range.Apart field.range ∨
      range.offset = field.range.offset := by
  have stop := BitRange.stop_of_fits fit
  by_cases early : range.offset < field.range.stop
  case neg =>
    left
    right
    omega
  case pos =>
    -- The last field that starts before the end must end before the start, and so do the others.
    obtain ⟨⟨offset, content⟩, last, order, before⟩ :=
      exists_lastBelow? (valueAt?_eq_some_iff.1 held) early
    have heldLast : graph.valueAt? field.object ⟨offset, content.size⟩ = some content.value :=
      valueAt?_eq_some_iff.2 (lastBelow?_mem last)
    obtain ⟨_, -, fitLast⟩ := orderly.fits heldLast
    have stopLast := BitRange.stop_of_fits fitLast
    have free : BitRange.overlaps ⟨offset, content.size⟩ field.range = false := by
      simpa [collides, last] using clear
    rw [Bool.eq_false_iff, Ne, BitRange.overlaps_iff, stopLast] at free
    simp only at free order before
    left
    left
    rcases Nat.lt_or_eq_of_le order with less | same
    · have follows := orderly.follow held heldLast less
      simp only at follows
      omega
    · obtain rfl := range_unique held heldLast same
      show offset + content.size ≤ _
      omega

/-- A field that does not collide may be put where it fits.  If a field starts at the same bit, it
is replaced. -/
theorem putField (orderly : graph.Orderly) {field : Field} {object : Object}
    (clear : graph.collides field = false) (found : graph.object? field.object = some object)
    (fit : field.range.fits object.size = true) : (graph.putField field).Orderly where
  zero := by rw [target?_putField]; exact orderly.zero
  null := orderly.null
  layouts id present := by
    by_cases same : id = field.object
    · exact same ▸ hasObject_of_object? found
    · rw [Graph.putField, Table.get?_insert_of_ne _ same] at present
      exact orderly.layouts id present
  fits held := by
    rcases valueAt?_putField_iff.1 held with ⟨rfl, rfl, -⟩ | ⟨old, -⟩
    · exact ⟨object, found, fit⟩
    · exact orderly.fits old
  follow {holder range value later held} first second less := by
    rcases valueAt?_putField_iff.1 first with ⟨rfl, rfl, -⟩ | ⟨old, elsewhere⟩
    · rcases valueAt?_putField_iff.1 second with ⟨-, rfl, -⟩ | ⟨old', elsewhere'⟩
      · exact absurd less (Nat.lt_irrefl _)
      · rcases orderly.apart_of_clear clear fit old' with (before | after) | same
        · omega
        · exact after
        · omega
    · rcases valueAt?_putField_iff.1 second with ⟨rfl, rfl, -⟩ | ⟨old', -⟩
      · rcases orderly.apart_of_clear clear fit old with (before | after) | same
        · exact before
        · omega
        · omega
      · exact orderly.follow old old' less
  values held := by
    rw [hasValue_putField]
    rcases valueAt?_putField_iff.1 held with ⟨-, -, rfl⟩ | ⟨old, -⟩
    · simp
    · rw [orderly.values old, Bool.or_true]
  targets leads := orderly.targets (by rwa [target?_putField] at leads)
  roots := orderly.roots
  increasing := orderly.increasing

theorem addField (orderly : graph.Orderly) {field : Field}
    (done : graph.addField field = .ok next) : next.Orderly := by
  rcases addField_eq_ok done with ⟨-, rfl⟩ | ⟨clear, rfl, object, found, fit⟩
  · exact orderly
  · exact orderly.putField clear found fit

theorem removeField (orderly : graph.Orderly) (field : Field) :
    (graph.removeField field).Orderly := by
  have fewer {object : ObjectId} {range : BitRange} {value : ValueId}
      (held : (graph.removeField field).valueAt? object range = some value) :
      graph.valueAt? object range = some value := by
    rw [valueAt?_removeField] at held
    split at held
    · simp at held
    · exact held
  unfold Graph.removeField at fewer ⊢
  split
  case isFalse => exact orderly
  case isTrue present =>
    simp only [present, if_true] at fewer
    refine { orderly with
      layouts := fun id found => ?_
      fits := fun held => orderly.fits (fewer held)
      follow := fun first second less => orderly.follow (fewer first) (fewer second) less
      values := fun held => orderly.values (fewer held) }
    by_cases same : id = field.object
    · obtain ⟨object, there, -⟩ := orderly.fits (hasField_iff.1 present)
      show graph.hasObject id = true
      rw [same]
      exact hasObject_of_object? there
    · rw [Table.get?_insert_of_ne _ same] at found
      exact orderly.layouts id found

/-! ### Removal -/

theorem removeObject (orderly : graph.Orderly) (id : ObjectId) :
    (graph.removeObject id).Orderly := by
  cases proper : id.isNull with
  | true => simpa [Graph.removeObject, proper] using orderly
  | false =>
      have notNull : (.null : ObjectId) ≠ id := by
        rintro rfl
        simp [ObjectId.isNull] at proper
      exact
        { zero := by
            rw [target?_removeObject _ proper, orderly.zero]
            simpa [Option.filter, Target.null] using notNull
          null := by simp [hasObject_removeObject proper, notNull, orderly.null]
          layouts := fun other found => by
            have distinct : other ≠ id := by
              rintro rfl
              simp [Graph.removeObject, proper, Table.get?_erase_self] at found
            simp only [Graph.removeObject, proper, Bool.false_eq_true, if_false,
              Table.get?_erase_of_ne _ distinct] at found
            simp [hasObject_removeObject proper, distinct, orderly.layouts other found]
          fits := fun {object range value} held => by
            have distinct : object ≠ id := by
              rintro rfl
              simp [valueAt?_removeObject_self proper] at held
            obtain ⟨found, there, fit⟩ := orderly.fits (valueAt?_of_removeObject held)
            exact ⟨found, by rw [object?_removeObject _ proper, if_neg distinct, there], fit⟩
          follow := fun first second less =>
            orderly.follow (valueAt?_of_removeObject first) (valueAt?_of_removeObject second) less
          values := fun held => by
            rw [hasValue_removeObject]
            exact orderly.values (valueAt?_of_removeObject held)
          targets := fun {value target} leads => by
            rw [target?_removeObject _ proper, Option.filter_eq_some_iff] at leads
            rw [hasObject_removeObject proper, orderly.targets leads.1]
            simpa using leads.2
          roots := fun entry member => by
            obtain ⟨old, distinct⟩ := (mem_roots_removeObject proper).1 member
            simp [hasObject_removeObject proper, distinct, orderly.roots entry old]
          increasing := by
            simpa [Graph.removeObject, proper] using orderly.increasing }

theorem removeObjects (orderly : graph.Orderly) (ids : List ObjectId) :
    (graph.removeObjects ids).Orderly := by
  induction ids generalizing graph with
  | nil => exact orderly
  | cons id rest ih => exact ih (orderly.removeObject id)

/-- When a function is left, its variables are removed. -/
theorem leave (orderly : graph.Orderly) {frame : Frame} (left : graph.leave = some (frame, next)) :
    next.Orderly := by
  unfold Graph.leave at left
  split at left
  · simp at left
  · rename_i inner outer stack
    obtain ⟨rfl, rfl⟩ := Prod.mk.inj (Option.some.inj left)
    have outside : (graph.withNames outer graph.globals).Orderly :=
      orderly.withNames fun entry member =>
        orderly.roots entry ((roots_outer_sublist stack).subset member)
    exact outside.removeObjects inner.locals.payloads

end Orderly

/-! ### Operations -/

/-- Whether an operation puts objects only under names that are not in use. -/
def Operation.AddsNew (graph : Graph) : Operation → Prop
  | .addObject id _ | .addHeapObject id _ | .declareGlobal _ id _ | .declareLocal _ id _ =>
      graph.hasObject id = false
  | _ => True

/-- Every operation keeps a graph orderly. -/
theorem Orderly.apply (orderly : graph.Orderly) {operation : Operation}
    (new : operation.AddsNew graph) (done : operation.apply graph = .ok next) : next.Orderly := by
  have added {id : ObjectId} (absent : graph.hasObject id = false) (object : Object) :
      (graph.addObject id object).Orderly := by
    rw [addObject_of_absent absent]
    exact orderly.putNew absent _
  cases operation with
  | addObject id object =>
      obtain rfl := Except.ok.inj done
      exact added new object
  | addHeapObject id object =>
      obtain rfl := Except.ok.inj done
      rw [addHeapObject_of_absent new]
      exact orderly.putNew new _
  | declareGlobal name id object =>
      obtain rfl := Except.ok.inj done
      exact (added new object).declareGlobal
  | declareLocal name id object => exact (added new object).declareLocal done
  | removeObject id =>
      obtain rfl := Except.ok.inj done
      exact orderly.removeObject id
  | enter function =>
      obtain rfl := Except.ok.inj done
      exact orderly.enter function
  | leave =>
      obtain rfl := Except.ok.inj done
      cases left : graph.leave with
      | none => exact orderly
      | some result => exact orderly.leave left
  | setValid id valid => exact orderly.setValid done
  | addValue value =>
      obtain rfl := Except.ok.inj done
      exact orderly.addValue value
  | setNumber value number =>
      obtain rfl := Except.ok.inj done
      exact orderly.setNumber value number
  | addField field => exact orderly.addField done
  | removeField field =>
      obtain rfl := Except.ok.inj done
      exact orderly.removeField field
  | addPointer pointer => exact orderly.addPointer done
  | removePointer value =>
      obtain rfl := Except.ok.inj done
      exact orderly.removePointer value
  | addInequality a b =>
      obtain rfl := Except.ok.inj done
      exact orderly.addInequality a b

/-- An operation that is refused leaves the graph as it is, so it keeps it orderly as well. -/
theorem Orderly.perform (orderly : graph.Orderly) {operation : Operation}
    (new : operation.AddsNew graph) (supply : Supply) :
    (operation.perform.finish (graph, supply)).1.Orderly := by
  refine Run.Ends.finish (fun there => Orderly there.1) ?_
  unfold Operation.perform
  cases done : operation.apply graph with
  | ok next => exact Run.ends_of_ok (Run.attempt_apply_ok done) (orderly.apply new done)
  | error fault => exact Run.ends_of_error (Run.attempt_apply_error done) orderly

/-- A graph is orderly after any history of operations, refused ones included, that puts new objects
under names that are not in use. -/
theorem orderly_history (machine : Machine) (supply : Supply) (operations : List Operation)
    (new : Run.Permits Operation.perform (fun operation here => operation.AddsNew here.1) operations
      (initial machine, supply)) :
    (Run.history Operation.perform operations (initial machine, supply)).1.Orderly :=
  new.keeps (fun there => Orderly there.1) (orderly_initial machine) fun _ here new orderly =>
    orderly.perform new here.2

end Graph

end ShapeDomain
