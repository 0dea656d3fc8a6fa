import ShapeDomain.Proofs.Graph.Layout

/-!
# What adding a field leads to

A field is added, is found to be there already, or is refused, and what decides is the last field
that starts before the end of the new one.  Where all fields have bits, none of them is lost.
-/

namespace ShapeDomain

namespace Graph

variable (graph : Graph)

/-- Whether the last field that starts before the end of a new one reaches into it. -/
def collides (graph : Graph) (field : Field) : Bool :=
  match (graph.layout field.object).lastBelow? field.range.stop with
  | some (offset, content) => BitRange.overlaps ⟨offset, content.size⟩ field.range
  | none => false

/-- The outcome of adding a field, by the things that decide it. -/
theorem toOption_addField (field : Field) :
    (graph.addField field).toOption =
      (graph.object? field.object).bind fun object =>
        if !field.range.fits object.size then none
        else if graph.hasField field then some graph
        else if graph.collides field then none
        else some (graph.putField field) := by
  unfold addField object
  cases graph.object? field.object with
  | none => rfl
  | some object =>
      simp only [Option.bind_some, bind, Except.bind]
      split
      · rfl
      · split
        · rfl
        · show Except.toOption (if graph.collides field then _ else _) = _
          split <;> rfl

/-- Every field has bits. -/
def PositiveFields (graph : Graph) : Prop :=
  ∀ object range value, graph.valueAt? object range = some value → 0 < range.size

variable {graph} {field : Field} {next : Graph}

/-- A field that was added was there already, or it was put where it fits and does not collide. -/
theorem addField_eq_ok (done : graph.addField field = .ok next) :
    (graph.hasField field = true ∧ next = graph) ∨
      (graph.collides field = false ∧ next = graph.putField field ∧
        ∃ object, graph.object? field.object = some object ∧
          field.range.fits object.size = true) := by
  have outcome := toOption_addField graph field
  rw [done] at outcome
  cases found : graph.object? field.object with
  | none => simp [found, Except.toOption] at outcome
  | some object =>
      simp only [found, Option.bind_some, Except.toOption] at outcome
      split at outcome
      · simp at outcome
      · rename_i fit
        split at outcome
        · rename_i present
          exact .inl ⟨present, Option.some.inj outcome⟩
        · split at outcome
          · simp at outcome
          · rename_i clear
            exact .inr ⟨by simpa using clear, Option.some.inj outcome, object, rfl,
              by simpa using fit⟩

/-- A field that can be added to a graph can be added to another one, if what decides is the same
there. -/
theorem addField_congr {part : Graph}
    (object : graph.object? field.object = part.object? field.object)
    (present : graph.hasField field = part.hasField field)
    (collides : graph.collides field = part.collides field)
    (done : part.addField field = .ok next) :
    (graph.addField field = .ok graph ∧ next = part) ∨
      (graph.addField field = .ok (graph.putField field) ∧ next = part.putField field) := by
  have before := toOption_addField part field
  have after := toOption_addField graph field
  rw [done] at before
  rw [object, present, collides] at after
  have answered {next' : Graph} (same : (graph.addField field).toOption = some next') :
      graph.addField field = .ok next' := by
    cases outcome : graph.addField field with
    | ok => rw [outcome] at same; cases same; rfl
    | error => rw [outcome] at same; cases same
  cases found : part.object? field.object with
  | none => simp [found, Except.toOption] at before
  | some object =>
      rw [found, Option.bind_some] at before after
      split at before
      case isTrue => cases before
      case isFalse fit =>
        rw [if_neg fit] at after
        split at before
        case isTrue isPresent =>
          rw [if_pos isPresent] at after
          cases before
          exact .inl ⟨answered after, rfl⟩
        case isFalse isAbsent =>
          rw [if_neg isAbsent] at after
          split at before
          case isTrue => cases before
          case isFalse clear =>
            rw [if_neg clear] at after
            cases before
            exact .inr ⟨answered after, rfl⟩

theorem number?_of_addField (done : graph.addField field = .ok next) (value : ValueId) :
    next.number? value = graph.number? value := by
  rcases addField_eq_ok done with ⟨-, rfl⟩ | ⟨-, rfl, -⟩
  · rfl
  · exact number?_putField field value

theorem target?_of_addField (done : graph.addField field = .ok next) (value : ValueId) :
    next.target? value = graph.target? value := by
  rcases addField_eq_ok done with ⟨-, rfl⟩ | ⟨-, rfl, -⟩
  · rfl
  · exact target?_putField field value

theorem objects_of_addField (done : graph.addField field = .ok next) :
    next.objects = graph.objects := by
  rcases addField_eq_ok done with ⟨-, rfl⟩ | ⟨-, rfl, -⟩
  · rfl
  · exact objects_putField field

theorem names_of_addField {field : Field} (done : graph.addField field = .ok next) :
    next.stack = graph.stack ∧ next.globals = graph.globals := by
  rcases addField_eq_ok done with ⟨-, rfl⟩ | ⟨-, rfl, -⟩ <;> exact ⟨rfl, rfl⟩

theorem layout_of_addField {field : Field} (done : graph.addField field = .ok next)
    {object : ObjectId} (other : object ≠ field.object) :
    next.layout object = graph.layout object := by
  rcases addField_eq_ok done with ⟨-, rfl⟩ | ⟨-, rfl, -⟩
  · rfl
  · exact layout_putField_of_ne other

theorem valueAt?_self_of_addField (done : graph.addField field = .ok next) :
    next.valueAt? field.object field.range = some field.value := by
  rcases addField_eq_ok done with ⟨present, rfl⟩ | ⟨-, rfl, -⟩
  · exact hasField_iff.1 present
  · exact valueAt?_putField_self field

/-- A field that starts where another one starts collides with it. -/
theorem collides_of_offset_eq {range : BitRange} {value : ValueId}
    (held : graph.valueAt? field.object range = some value) (positive : graph.PositiveFields)
    (same : range.offset = field.range.offset) (bits : 0 < field.range.size)
    (fit : field.range.offset + field.range.size ≤ BitRange.limit) :
    graph.collides field = true := by
  have stop : field.range.stop = field.range.offset + field.range.size := Nat.min_eq_left fit
  obtain ⟨⟨offset, content⟩, last, later, early⟩ :=
    exists_lastBelow? (valueAt?_eq_some_iff.1 held) (show range.offset < field.range.stop by omega)
  have content_positive := positive field.object ⟨offset, content.size⟩ content.value
    (valueAt?_eq_some_iff.2 (lastBelow?_mem last))
  have finish : (⟨offset, content.size⟩ : BitRange).stop =
      min (offset + content.size) BitRange.limit := rfl
  rw [collides, last, BitRange.overlaps_iff, finish]
  simp only at content_positive later early ⊢
  omega

/-- Adding a field loses none of the others. -/
theorem valueAt?_of_addField (positive : graph.PositiveFields) (bits : 0 < field.range.size)
    (done : graph.addField field = .ok next) {object : ObjectId} {range : BitRange}
    {value : ValueId} (held : graph.valueAt? object range = some value) :
    next.valueAt? object range = some value := by
  rcases addField_eq_ok done with ⟨-, rfl⟩ | ⟨clear, rfl, found, -, fit⟩
  · exact held
  · by_cases same : object = field.object
    case neg => rw [valueAt?_putField_of_ne same, held]
    case pos =>
      subst same
      have start : range.offset ≠ field.range.offset := fun same => by
        have fits := (BitRange.fits_iff.1 fit).1
        rw [collides_of_offset_eq held positive same bits fits] at clear
        simp at clear
      rw [valueAt?_eq_some_iff] at held ⊢
      rw [layout_putField, if_pos rfl, Table.get?_insert_of_ne _ start, held]

theorem PositiveFields.addField (positive : graph.PositiveFields) (bits : 0 < field.range.size)
    (done : graph.addField field = .ok next) : next.PositiveFields := by
  intro object range value held
  rcases addField_eq_ok done with ⟨-, rfl⟩ | ⟨-, rfl, -⟩
  · exact positive object range value held
  · by_cases same : object = field.object
    case neg =>
      rw [valueAt?_putField_of_ne same] at held
      exact positive object range value held
    case pos =>
      subst same
      rw [valueAt?_eq_some_iff, layout_putField, if_pos rfl, Table.get?_insert] at held
      split at held
      · rw [Option.some.injEq, Content.mk.injEq] at held
        rw [← held.1]
        exact bits
      · exact positive field.object range value (valueAt?_eq_some_iff.2 held)

end Graph

end ShapeDomain
