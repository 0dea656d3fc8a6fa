import ShapeDomain.Fold
import ShapeDomain.Proofs.Graph.Outline
import ShapeDomain.Proofs.Run

/-!
# Alike graphs

Two graphs are alike when the outline of the first one, with its names moved, is the outline of the
second one.  Doing the same to both keeps them alike, and a folding is possible in both or in none.
-/

namespace ShapeDomain

namespace Shift

variable (shift : Shift)

/-- The folding of moved nodes. -/
def fold (fold : Fold) : Fold :=
  ⟨shift.object fold.head, shift.object fold.successor, fold.next⟩

@[simp] theorem fold_still (fold : Fold) : shift.still.fold fold = fold := by
  simp [Shift.fold]

theorem map_fold_still (folds : List Fold) : folds.map shift.still.fold = folds :=
  List.map_id'' (fold_still shift) folds

end Shift

/-- The parts of a folding without labels, with names moved. -/
def Fold.Parts.outline (shift : Shift) (parts : Fold.Parts) : Fold.Parts :=
  ⟨parts.head.unlabelled, parts.successor.unlabelled, shift.field parts.link⟩

namespace Fold

variable (shift : Shift) (graph : Graph) (fold : Fold)

theorem link?_outline :
    (shift.fold fold).link? (graph.outline shift) = (fold.link? graph).map shift.field := by
  have same : ((fun field : Field => field.range.offset == fold.next) ∘ shift.field) =
      fun field => field.range.offset == fold.next := rfl
  simp only [link?, Shift.fold, Graph.fieldsOf_outline, List.find?_map, same]
  cases (graph.fieldsOf fold.head).find? fun field => field.range.offset == fold.next with
  | none => rfl
  | some link =>
      have target := Graph.target?_outline shift graph link.value
      have into := Graph.pointersInto_outline shift graph fold.successor
      have held : ((graph.outline shift).fields.filter fun field =>
          field.value == shift.value link.value).length =
          (graph.fields.filter fun field => field.value == link.value).length := by
        rw [Graph.fields_outline, List.filter_map, List.length_map]
        congr 2
        funext field
        exact shift.beq_value _ _
      simp only [Option.map_some, bind, Option.bind_some, Shift.field, target, into,
        List.length_map, held]
      cases graph.target? link.value with
      | none => rfl
      | some target =>
          simp only [Option.map_some, Option.bind_some, Shift.target, Shift.object_inj]
          split <;> rfl

theorem otherContents_outline (next : Nat) (object : ObjectId) :
    otherContents (graph.outline shift) next (shift.object object) =
      (otherContents graph next object).map fun content => (content.1, shift.value content.2) := by
  simp only [otherContents, Graph.fieldsOf_outline, List.filter_map, List.map_map]
  rfl

theorem parts?_outline :
    (shift.fold fold).parts? (graph.outline shift) =
      (fold.parts? graph).map (Parts.outline shift) := by
  have link := link?_outline shift graph fold
  simp only [parts?, bind, Shift.fold, Graph.object?_outline, Graph.isHeap_outline,
    Graph.isValid_outline, otherContents_outline] at link ⊢
  cases graph.object? fold.head with
  | none => rfl
  | some head =>
      cases graph.object? fold.successor with
      | none => rfl
      | some successor =>
          have precedes_eq : precedes fold.next head.unlabelled successor.unlabelled =
              precedes fold.next head successor := rfl
          have contents : (otherContents graph fold.next fold.head).map
                (fun content => (content.1, shift.value content.2)) =
              (otherContents graph fold.next fold.successor).map
                (fun content => (content.1, shift.value content.2)) ↔
              otherContents graph fold.next fold.head =
                otherContents graph fold.next fold.successor := by
            refine List.map_inj_right ?_
            rintro ⟨_, _⟩ ⟨_, _⟩ same
            simpa using same
          simp only [Option.map_some, Option.bind_some, precedes_eq, Ne, Shift.object_inj, link,
            contents]
          split
          · cases fold.link? graph with
            | none => rfl
            | some link =>
                simp only [Option.map_some, Option.bind_some]
                split <;> rfl
          · rfl

theorem startingFrom_outline (object : ObjectId) :
    startingFrom (graph.outline shift) (shift.object object) =
      (startingFrom graph object).map shift.fold := by
  simp only [startingFrom, Graph.fieldsOf_outline, List.filterMap_map, List.map_filterMap]
  congr 1
  funext field
  simp only [Function.comp, bind, Shift.field, Graph.target?_outline]
  cases graph.target? field.value with
  | none => rfl
  | some target =>
      have parts := parts?_outline shift graph ⟨object, target.object, field.range.offset⟩
      simp only [Shift.fold] at parts
      simp only [Option.map_some, Option.bind_some, Shift.target, parts]
      cases Fold.parts? graph ⟨object, target.object, field.range.offset⟩ <;> rfl

end Fold

namespace Graph

/-- The outline of the first graph, with its names moved, is that of the second one. -/
def Alike (shift : Shift) (graph other : Graph) : Prop :=
  graph.outline shift = other.outline shift.still

variable {shift : Shift} {graph other : Graph}

namespace Alike

section Lookup

variable (alike : Alike shift graph other)

include alike

theorem object? (id : ObjectId) :
    (other.object? (shift.object id)).map Object.unlabelled =
      (graph.object? id).map Object.unlabelled := by
  rw [← object?_outline shift graph, show graph.outline shift = _ from alike]
  simpa using (object?_outline shift.still other (shift.object id)).symm

theorem isValid (id : ObjectId) : other.isValid (shift.object id) = graph.isValid id := by
  rw [← isValid_outline shift graph, show graph.outline shift = _ from alike]
  simpa using (isValid_outline shift.still other (shift.object id)).symm

theorem valueAt? (object : ObjectId) (range : BitRange) :
    other.valueAt? (shift.object object) range =
      (graph.valueAt? object range).map shift.value := by
  rw [← valueAt?_outline shift graph, show graph.outline shift = _ from alike]
  have still := valueAt?_outline shift.still other (shift.object object) range
  rw [Shift.object_still] at still
  rw [still]
  cases other.valueAt? (shift.object object) range <;> simp

theorem fieldsOf (object : ObjectId) :
    other.fieldsOf (shift.object object) = (graph.fieldsOf object).map shift.field := by
  rw [← fieldsOf_outline shift graph, show graph.outline shift = _ from alike]
  have still := fieldsOf_outline shift.still other (shift.object object)
  rw [Shift.object_still] at still
  rw [still, Shift.map_field_still]

theorem pointersInto (object : ObjectId) :
    other.pointersInto (shift.object object) =
      (graph.pointersInto object).map shift.pointer := by
  rw [← pointersInto_outline shift graph, show graph.outline shift = _ from alike]
  have still := pointersInto_outline shift.still other (shift.object object)
  rw [Shift.object_still] at still
  rw [still, Shift.map_pointer_still]

theorem addressOf? (target : Target) :
    other.addressOf? (shift.target target) = (graph.addressOf? target).map shift.value := by
  rw [← addressOf?_outline shift graph, show graph.outline shift = _ from alike]
  have still := addressOf?_outline shift.still other (shift.target target)
  rw [Shift.target_still] at still
  rw [still]
  cases other.addressOf? (shift.target target) <;> simp

theorem parts? (fold : Fold) :
    ((shift.fold fold).parts? other).map (Fold.Parts.outline shift.still) =
      (fold.parts? graph).map (Fold.Parts.outline shift) := by
  rw [← Fold.parts?_outline shift graph, show graph.outline shift = _ from alike]
  simpa using (Fold.parts?_outline shift.still other (shift.fold fold)).symm

theorem startingFrom (object : ObjectId) :
    Fold.startingFrom other (shift.object object) =
      (Fold.startingFrom graph object).map shift.fold := by
  rw [← Fold.startingFrom_outline shift graph, show graph.outline shift = _ from alike]
  have still := Fold.startingFrom_outline shift.still other (shift.object object)
  rw [Shift.object_still] at still
  rw [still, Shift.map_fold_still]

/-- Fields of the second graph are moved fields of the first one. -/
theorem valueAt?_other {object : ObjectId} {range : BitRange} {value : ValueId}
    (held : other.valueAt? object range = some value) :
    ∃ object' value', graph.valueAt? object' range = some value' := by
  have still := valueAt?_outline shift.still other object range
  rw [Shift.object_still, held, ← show graph.outline shift = _ from alike] at still
  cases found : (graph.outline shift).layouts.get? object with
  | none => simp [Graph.valueAt?, layout, found] at still
  | some layout =>
      have member := Table.mem_toList_iff.2 found
      simp only [outline, Table.translate, List.mem_map, Prod.mk.injEq] at member
      obtain ⟨entry, -, rfl, -⟩ := member
      rw [valueAt?_outline] at still
      cases moved : graph.valueAt? entry.1 range with
      | none => simp [moved] at still
      | some value' => exact ⟨entry.1, value', moved⟩

theorem positive (positive : graph.PositiveFields) : other.PositiveFields := by
  intro object range value held
  obtain ⟨object', value', moved⟩ := alike.valueAt?_other held
  exact positive object' range value' moved

theorem addObject (id : ObjectId) {object object' : Object}
    (same : object'.unlabelled = object.unlabelled) :
    Alike shift (graph.addObject id object) (other.addObject (shift.object id) object') := by
  unfold Alike at *
  rw [outline_addObject, outline_addObject, Shift.object_still, same, alike]

theorem addHeapObject (id : ObjectId) {object object' : Object}
    (same : object'.unlabelled = object.unlabelled) :
    Alike shift (graph.addHeapObject id object)
      (other.addHeapObject (shift.object id) object') := by
  unfold Alike at *
  rw [outline_addHeapObject, outline_addHeapObject, Shift.object_still, same, alike]

theorem declareGlobal (name : String) (id : ObjectId) {object object' : Object}
    (same : object'.unlabelled = object.unlabelled) :
    Alike shift (graph.declareGlobal name id object)
      (other.declareGlobal name (shift.object id) object') := by
  unfold Alike at *
  rw [outline_declareGlobal, outline_declareGlobal, Shift.object_still, same, alike]

theorem enter (function : String) : Alike shift (graph.enter function) (other.enter function) := by
  unfold Alike at *
  rw [outline_enter, outline_enter, alike]

theorem addValue (id : ValueId) :
    Alike shift (graph.addValue id) (other.addValue (shift.value id)) := by
  unfold Alike at *
  rw [outline_addValue, outline_addValue, Shift.value_still, alike]

theorem setNumber (id : ValueId) (number number' : Int) :
    Alike shift (graph.setNumber id number) (other.setNumber (shift.value id) number') := by
  unfold Alike at *
  rw [outline_setNumber, outline_setNumber, Shift.value_still, alike]

theorem removePointer (id : ValueId) :
    Alike shift (graph.removePointer id) (other.removePointer (shift.value id)) := by
  unfold Alike at *
  rw [outline_removePointer, outline_removePointer, Shift.value_still, alike]

theorem removeObject (id : ObjectId) :
    Alike shift (graph.removeObject id) (other.removeObject (shift.object id)) := by
  unfold Alike at *
  rw [outline_removeObject, outline_removeObject, Shift.object_still, alike]

theorem addInequality (a b : ValueId) :
    Alike shift (graph.addInequality a b)
      (other.addInequality (shift.value a) (shift.value b)) := by
  unfold Alike at *
  rw [outline_addInequality, outline_addInequality, Shift.value_still, Shift.value_still, alike]

end Lookup

end Alike

/-- Two graphs that come out of changes that may be refused: both changes are refused, or none is
and the graphs are alike. -/
def Tracks (shift : Shift) (graph other : Except Fault Graph) : Prop :=
  graph.toOption.map (outline shift) = other.toOption.map (outline shift.still)

namespace Alike

theorem setValid (alike : Alike shift graph other) (id : ObjectId) (valid : Bool) :
    Tracks shift (graph.setValid id valid) (other.setValid (shift.object id) valid) := by
  unfold Alike Tracks at *
  rw [outline_setValid, outline_setValid, Shift.object_still, alike]

theorem declareLocal (alike : Alike shift graph other) (name : String) (id : ObjectId)
    {object object' : Object} (same : object'.unlabelled = object.unlabelled) :
    Tracks shift (graph.declareLocal name id object)
      (other.declareLocal name (shift.object id) object') := by
  unfold Alike Tracks at *
  rw [outline_declareLocal, outline_declareLocal, Shift.object_still, same, alike]

theorem addField (alike : Alike shift graph other) (field : Field) :
    Tracks shift (graph.addField field) (other.addField (shift.field field)) := by
  unfold Alike Tracks at *
  rw [outline_addField, outline_addField, Shift.field_still, alike]

theorem addPointer (alike : Alike shift graph other) (pointer : Pointer) :
    Tracks shift (graph.addPointer pointer) (other.addPointer (shift.pointer pointer)) := by
  unfold Alike Tracks at *
  rw [outline_addPointer, outline_addPointer, Shift.pointer_still, alike]

end Alike

theorem Tracks.ok (alike : Alike shift graph other) : Tracks shift (.ok graph) (.ok other) :=
  congrArg some alike

theorem Tracks.isSome_eq {first second : Except Fault Graph} (tracks : Tracks shift first second) :
    first.toOption.isSome = second.toOption.isSome := by
  have same := congrArg Option.isSome tracks
  rwa [Option.isSome_map, Option.isSome_map] at same

theorem Tracks.alike {first second : Except Fault Graph} (tracks : Tracks shift first second)
    (done1 : first = .ok graph) (done2 : second = .ok other) : Alike shift graph other := by
  subst done1 done2
  exact Option.some.inj tracks

/-- Changes that track each other keep graphs alike. -/
theorem Tracks.attempt {change change' : Graph → Except Fault Graph} {here there : Graph × Supply}
    (tracks : Tracks shift (change here.1) (change' there.1)) :
    Run.Matches (Run.attempt change) (Run.attempt change') here there fun _ end1 _ end2 =>
      Alike shift end1.1 end2.1 ∧ end1.2 = here.2 ∧ end2.2 = there.2 :=
  Run.matches_attempt tracks.isSome_eq fun _ _ done1 done2 => ⟨tracks.alike done1 done2, rfl, rfl⟩

end Graph

/-- A supply that has drawn more names than another one, by the distance of a shift, where both have
drawn those that stay. -/
structure Shift.Supplies (shift : Shift) (supply later : Supply) : Prop where
  /-- The names that stay were drawn. -/
  started : shift.start ≤ supply.next
  /-- The second supply is ahead by the distance. -/
  ahead : later.next = supply.next + shift.distance

namespace Shift.Supplies

variable {shift : Shift} {supply later : Supply}

theorem next (supplies : shift.Supplies supply later) :
    shift.Supplies ⟨supply.next + 1⟩ ⟨later.next + 1⟩ where
  started := Nat.le_succ_of_le supplies.started
  ahead := by
    have := supplies.ahead
    simp only
    omega

theorem object (supplies : shift.Supplies supply later) :
    (⟨later.next⟩ : ObjectId) = shift.object ⟨supply.next⟩ := by
  rw [Shift.object, shift.index_of_le supplies.started, supplies.ahead]

theorem value (supplies : shift.Supplies supply later) :
    (⟨later.next⟩ : ValueId) = shift.value ⟨supply.next⟩ := by
  rw [Shift.value, shift.index_of_le supplies.started, supplies.ahead]

end Shift.Supplies

namespace Fold

variable {shift : Shift} {graph other : Graph}

theorem redirect_shift (segment : ObjectId) (pointer : Pointer) :
    redirect (shift.object segment) (shift.pointer pointer) =
      shift.pointer (redirect segment pointer) := by
  obtain ⟨value, object, offset, specifier⟩ := pointer
  cases specifier <;> rfl

/-- Foldings of alike graphs end in alike graphs. -/
theorem perform_matches (fold : Fold) {here there : Graph × Supply}
    (alike : Graph.Alike shift here.1 there.1) (supplies : shift.Supplies here.2 there.2) :
    Run.Matches fold.perform (shift.fold fold).perform here there fun done1 end1 done2 end2 =>
      done2 = done1.map shift.object ∧ Graph.Alike shift end1.1 end2.1 ∧
        shift.Supplies end1.2 end2.2 ∧ here.2.next ≤ end1.2.next := by
  obtain ⟨graph, supply⟩ := here
  obtain ⟨other, later⟩ := there
  have parts := alike.parts? fold
  unfold perform
  refine Run.matches_bind_of_ok (Run.ask_apply _ _) (Run.ask_apply _ _) ?_
  simp only at alike supplies parts ⊢
  cases found : fold.parts? graph with
  | none =>
      cases found' : (shift.fold fold).parts? other with
      | some _ => simp [found, found'] at parts
      | none => exact Run.matches_pure ⟨rfl, alike, supplies, Nat.le_refl _⟩
  | some own =>
      cases found' : (shift.fold fold).parts? other with
      | none => simp [found, found'] at parts
      | some own' =>
          simp only [found, found', Option.map_some, Option.some.injEq, Parts.outline,
            Shift.field_still, Parts.mk.injEq] at parts
          obtain ⟨head, successor, link⟩ := parts
          simp only
          refine Run.matches_bind_of_ok (Run.draw_objectId_apply _) (Run.draw_objectId_apply _) ?_
          refine Run.matches_bind_of_ok (Run.state_apply _) (Run.state_apply _) ?_
          refine Run.matches_bind_of_ok (Run.modify_apply _ _) (Run.modify_apply _ _) ?_
          simp only [link, supplies.object]
          have segments : (segment own').unlabelled = (segment own).unlabelled := by
            have offset : own'.link.range = own.link.range := by rw [link]; rfl
            simp only [Object.unlabelled, Object.mk.injEq] at head successor
            simp [segment, Object.unlabelled, offset, head, successor]
          have removed := ((alike.removePointer own.link.value).removeObject fold.head).removeObject
            fold.successor
          have added := removed.addHeapObject ⟨supply.next⟩ segments
          let kept (end1 : Graph × Supply) (end2 : Graph × Supply) : Prop :=
            Graph.Alike shift end1.1 end2.1 ∧ shift.Supplies end1.2 end2.2 ∧
              supply.next ≤ end1.2.next
          have attempt {change change' : Graph → Except Fault Graph}
              {here there : Graph × Supply} (holds : kept here there)
              (tracks : Graph.Tracks shift (change here.1) (change' there.1)) :
              Run.Matches (Run.attempt change) (Run.attempt change') here there
                fun _ end1 _ end2 => kept end1 end2 := by
            refine tracks.attempt.mono ?_
            rintro _ end1 _ end2 ⟨still, same, same'⟩
            exact ⟨still, same ▸ same' ▸ holds.2⟩
          refine (attempt ⟨added, supplies.next, Nat.le_succ _⟩ ?_).bind ?_
          · simp only [Shift.fold, alike.isValid]
            exact added.setValid _ _
          intro _ end1 _ end2 holds
          have fields : ((other.fieldsOf (shift.fold fold).head).filter fun field =>
                field.range.offset != (shift.field own.link).range.offset) ++
              ((other.fieldsOf (shift.fold fold).successor).filter fun field =>
                field.range.offset == (shift.field own.link).range.offset) =
              (((graph.fieldsOf fold.head).filter fun field =>
                field.range.offset != own.link.range.offset) ++
              ((graph.fieldsOf fold.successor).filter fun field =>
                field.range.offset == own.link.range.offset)).map shift.field := by
            simp only [Shift.fold, alike.fieldsOf, List.map_append, List.filter_map]
            rfl
          rw [fields]
          refine (Run.matches_forM kept holds ?_).bind ?_
          · intro field _ here there holds
            exact attempt holds (holds.1.addField { field with object := ⟨supply.next⟩ })
          intro _ end1 _ end2 holds
          simp only [Shift.fold, alike.pointersInto]
          refine (Run.matches_forM kept holds ?_).bind ?_
          · intro pointer _ here there holds
            rw [redirect_shift]
            exact attempt holds (holds.1.addPointer (redirect ⟨supply.next⟩ pointer))
          intro _ end1 _ end2 holds
          exact Run.matches_pure ⟨rfl, holds⟩

end Fold

end ShapeDomain
