import ShapeDomain.Proofs.Graph.Orderly
import ShapeDomain.Proofs.Progress.Folding
import ShapeDomain.Proofs.Steady.Addresses

/-!
# What a join keeps

While two consistent graphs are joined, the destination stays orderly and both graphs stay tiled,
whatever the options are.  An object is put into the destination under a new name or under that of a
left object, and then that object had no counterpart, so that its name is not in use.
-/

namespace ShapeDomain

namespace Join

/-- A graph whose layouts can be aligned with others: it is tiled, and its objects and what they
hold were drawn before a position of the supply. -/
structure Alignable (graph : Graph) (position : Nat) : Prop where
  /-- The fields are tiled. -/
  tiled : graph.Tiled
  /-- What objects hold was drawn. -/
  held : ∀ {object range value}, graph.valueAt? object range = some value →
    value.index < position
  /-- The objects were drawn. -/
  objects : ∀ {id}, graph.hasObject id = true → id.index < position

/-- What a join keeps. -/
structure Keeping (here : Progress × Supply) : Prop where
  /-- The layouts of the left graph can be aligned. -/
  left : Alignable here.1.left here.2.next
  /-- So can those of the right graph. -/
  right : Alignable here.1.right here.2.next
  /-- The destination is orderly. -/
  dest : here.1.dest.Orderly
  /-- Its objects were drawn. -/
  drawn : ∀ {id}, here.1.dest.hasObject id = true → id.index < here.2.next
  /-- An object of the destination that shares its name with a left object is the counterpart of
  one: only left objects with counterparts give their names away. -/
  named : ∀ {id}, here.1.dest.hasObject id = true → here.1.left.hasObject id = true →
    id = .null ∨ (here.1.leftMap.object? id).isSome = true

/-- Wherever a computation goes through, it keeps what a join keeps. -/
abbrev Keeps {α : Type} (computation : Run Progress α) (here : Progress × Supply) : Prop :=
  Run.Passes computation here fun _ there => Keeping there

variable {here : Progress × Supply} {value1 value2 : ValueId}

theorem Alignable.later {graph : Graph} {position now : Nat} (alignable : Alignable graph position)
    (after : position ≤ now) : Alignable graph now where
  tiled := alignable.tiled
  held isHeld := Nat.lt_of_lt_of_le (alignable.held isHeld) after
  objects present := Nat.lt_of_lt_of_le (alignable.objects present) after

namespace Keeping

theorem positive (keeping : Keeping here) : 0 < here.2.next :=
  keeping.drawn keeping.dest.null

/-- The status may change, and the supply may move on. -/
theorem later (keeping : Keeping here) {now : Supply} (after : here.2.next ≤ now.next)
    (status : Status) : Keeping ({ here.1 with status := status }, now) where
  left := keeping.left.later after
  right := keeping.right.later after
  dest := keeping.dest
  drawn present := Nat.lt_of_lt_of_le (keeping.drawn present) after
  named := keeping.named

/-- The destination may change without new objects. -/
theorem withDest (keeping : Keeping here) {dest : Graph} (orderly : dest.Orderly)
    (fewer : ∀ {id}, dest.hasObject id = true → here.1.dest.hasObject id = true) :
    Keeping ({ here.1 with dest := dest }, here.2) :=
  { keeping with
    dest := orderly
    drawn := fun present => keeping.drawn (fewer present)
    named := fun present => keeping.named (fewer present) }

theorem lower (keeping : Keeping here) (status : Status) : Keeps (Join.lower status) here :=
  Run.ends_of_ok (lower_apply status here) (keeping.later (Nat.le_refl _) _)

/-- Drawing a name for a value. -/
theorem drawValue (keeping : Keeping here) : Keeps (Run.draw Draw.valueId) here :=
  Run.ends_of_ok (Run.draw_valueId_apply here) (keeping.later (Nat.le_succ _) here.1.status)

theorem valueName (keeping : Keeping here) : Keeps (Join.valueName value1 value2) here := by
  unfold Join.valueName
  split
  · exact Run.ends_pure keeping
  · exact keeping.drawValue

/-! ### Pairs -/

/-- Giving a pair of values its joint value. -/
theorem pairValues (keeping : Keeping here) (dest : ValueId) :
    Keeps (Join.pairValues value1 value2 dest) here := by
  refine passes_pairValues ?_
  exact { keeping with
    dest := keeping.dest.addValue dest
    named := fun {id} present shared => (keeping.named present shared).imp_right fun mapped => by
      show ((setUnlessZero here.1.leftMap value1 dest).object? id).isSome = true
      rw [object?_setUnlessZero]
      exact mapped }

/-! ### Values that are no addresses -/

theorem noJoin (keeping : Keeping here) (setting : Setting) :
    Keeps (Join.noJoin setting value1 value2) here :=
  Run.ends_bind_of_ok (Run.state_apply _) (Run.ends_pure keeping)

theorem numberName (keeping : Keeping here) (number : Int) (size : Nat) :
    Keeps (Join.numberName value1 value2 number size) here := by
  unfold Join.numberName
  split
  · exact Run.ends_pure keeping
  · split
    · exact Run.ends_pure keeping
    · exact keeping.drawValue

theorem joinNumbers (keeping : Keeping here) (size : Nat) (levelDiff : Int) :
    Keeps (Join.joinNumbers value1 value2 size levelDiff) here := by
  have paired {there : Progress × Supply} (keeping : Keeping there) (dest : ValueId) : Keeps (do
        Join.pairValues value1 value2 dest
        return ValueJoin.joined dest none) there :=
    (keeping.pairValues dest).bind fun _ _ keeping => Run.ends_pure keeping
  unfold Join.joinNumbers
  refine Run.ends_bind_of_ok (Run.state_apply _) ?_
  dsimp only
  split
  case h_1 a b _ _ =>
    split
    case isTrue =>
      refine (keeping.numberName a size).bind fun dest middle keeping => ?_
      split
      case isTrue => exact paired keeping dest
      case isFalse =>
        refine Run.ends_bind_of_ok (modifyDest_apply _ _) (paired ?_ dest)
        exact keeping.withDest (keeping.dest.setNumber dest a) fun present => present
    case isFalse => exact Run.ends_pure keeping
  case h_2 =>
    refine keeping.valueName.bind fun dest _ keeping => ?_
    refine (keeping.pairValues dest).bind fun _ _ keeping => ?_
    exact (keeping.lower _).bind fun _ _ keeping => Run.ends_pure keeping

/-! ### New objects -/

/-- The name of the counterpart of two objects is new or that of the left one. -/
theorem objectName (keeping : Keeping here) {object1 object2 : ObjectId}
    (present : here.1.left.hasObject object1 = true) :
    Run.Passes (Join.objectName object1 object2) here fun id there => Keeping there ∧
      there.1 = here.1 ∧ id.index < there.2.next ∧
        (here.1.left.hasObject id = true → id = object1) ∧
        (here.1.dest.hasObject id = true → id = object1) := by
  unfold Join.objectName
  split
  case isTrue =>
    exact Run.ends_pure ⟨keeping, rfl, keeping.left.objects present, fun _ => rfl, fun _ => rfl⟩
  case isFalse =>
    have late : here.2.next ≤ (⟨here.2.next⟩ : ObjectId).index := Nat.le_refl _
    refine Run.ends_of_ok (Run.draw_objectId_apply here)
      ⟨keeping.later (Nat.le_succ _) here.1.status, rfl, Nat.lt_succ_self _, fun shared => ?_,
        fun shared => ?_⟩
    · exact absurd (keeping.left.objects shared) (Nat.not_lt_of_le late)
    · exact absurd (keeping.drawn shared) (Nat.not_lt_of_le late)

/-- What is done once an object is in the destination: it becomes the counterpart of two objects. -/
theorem place (keeping : Keeping here) {dest : Graph} {object1 object2 id : ObjectId} {valid : Bool}
    {α : Type} {next : Run Progress α} {good : α → Progress × Supply → Prop}
    (orderly : dest.Orderly)
    (more : ∀ {other}, dest.hasObject other = true → other = id ∨
      here.1.dest.hasObject other = true)
    (early : id.index < here.2.next) (shared : here.1.left.hasObject id = true → id = object1)
    (rest : ∀ there, Keeping there → there.1.dest.layouts = dest.layouts →
      Run.Passes next there good) :
    Run.Passes (do
        attemptDest fun graph => graph.setValid id valid
        Join.pairObjects object1 object2 id
        next) ({ here.1 with dest := dest }, here.2) good := by
  refine Run.ends_bind (fun _ there => ∃ last, there = ({ here.1 with dest := last }, here.2) ∧
      last.Orderly ∧ last.layouts = dest.layouts ∧ ∀ {other}, last.hasObject other = true →
        other = id ∨ here.1.dest.hasObject other = true)
    (passes_attemptDest fun last done => ⟨last, rfl, orderly.setValid done, ?_⟩) ?_
  · obtain ⟨old, -, rfl⟩ := (dest.setValid_eq_ok_iff).1 done
    refine ⟨rfl, fun {other} present => ?_⟩
    have present' : (dest.putPlacement id { old with valid := valid }).hasObject other = true :=
      present
    rw [Graph.hasObject_putPlacement, Bool.or_eq_true, decide_eq_true_eq] at present'
    exact present'.elim .inl more
  rintro _ _ ⟨last, rfl, orderly, layouts, more⟩
  refine Run.ends_bind (fun _ there =>
      there = ({ here.1 with dest := last }.withPair object1 object2 id, here.2))
    (passes_pairObjects rfl) ?_
  rintro _ _ rfl
  refine rest _ ?_ layouts
  exact { keeping with
    dest := orderly
    drawn := fun present => (more present).elim (fun same => same ▸ early) keeping.drawn
    named := fun {other} present left => by
      show other = .null ∨ ((here.1.leftMap.setObject object1 id).object? other).isSome = true
      rw [Correspondence.object?_setObject]
      split
      case isTrue => exact .inr rfl
      case isFalse different =>
        rcases more present with rfl | old
        · exact absurd (shared left) different
        · exact keeping.named old left }

theorem joinTargets (keeping : Keeping here) {target1 target2 : ObjectId} (proper : target1 ≠ .null)
    (free : here.1.leftMap.object? target1 = none) :
    Keeps (Join.joinTargets target1 target2) here := by
  unfold Join.joinTargets
  refine Run.passes_demand fun object1 found1 => Run.passes_demand fun object2 _ => ?_
  have present := Graph.hasObject_of_object? ((Graph.object_eq_ok_iff _).1 found1)
  refine Run.ends_bind_of_ok (Run.state_apply _) ?_
  dsimp only
  split
  case isTrue => exact Run.ends_pure keeping
  case isFalse =>
    split
    case h_2 => exact Run.ends_pure keeping
    case h_1 kind status level _ _ =>
      refine (keeping.objectName present).bind ?_
      rintro id ⟨progress, now⟩ ⟨keeping, rfl, early, left, shared⟩
      have absent : here.1.dest.hasObject id = false := by
        refine Bool.eq_false_iff.2 fun there => ?_
        obtain rfl := shared there
        rcases keeping.named there present with null | mapped
        · exact proper null
        · simp [free] at mapped
      let dest (heap : Bool) : Graph := here.1.dest.putPlacement id
        ⟨{ object1 with level := level, kind := kind }, true, heap⟩
      have placed (heap : Bool) : Keeps (do
          attemptDest fun graph => graph.setValid id (here.1.left.isValid target1)
          Join.pairObjects target1 target2 id
          Join.lower status
          return some id) ({ here.1 with dest := dest heap }, now) := by
        refine keeping.place (keeping.dest.putNew absent _) (fun {other} present => ?_) early left
          fun there keeping _ => (keeping.lower status).bind fun _ _ keeping =>
            Run.ends_pure keeping
        rwa [Graph.hasObject_putPlacement, Bool.or_eq_true, decide_eq_true_eq] at present
      split
      case isTrue =>
        refine Run.ends_bind_of_ok (modifyDest_apply _ _) ?_
        simp only [Graph.addHeapObject_of_absent absent]
        exact placed true
      case isFalse =>
        refine Run.ends_bind_of_ok (modifyDest_apply _ _) ?_
        simp only [Graph.addObject_of_absent absent]
        exact placed false

theorem destination (keeping : Keeping here) (target1 target2 : ObjectId) :
    Keeps (Join.destination target1 target2) here := by
  unfold Join.destination
  refine Run.ends_bind_of_ok (Run.state_apply _) ?_
  split
  case isTrue => exact Run.ends_pure keeping
  case isFalse =>
    split
    case h_1 => exact Run.ends_pure keeping
    case h_2 free _ =>
      split
      case isTrue => exact Run.ends_pure keeping
      case isFalse nulls =>
        have proper : target1 ≠ .null := by
          rintro rfl
          exact nulls rfl
        exact (keeping.joinTargets proper free).bind fun _ _ keeping => Run.ends_pure keeping
    case h_3 => exact Run.ends_pure keeping

/-! ### Addresses -/

/-- A value becomes the address of a place. -/
theorem addPointer (keeping : Keeping here) (value : ValueId) (place : Target) :
    Keeps (do
      attemptDest fun graph => graph.addPointer ⟨value, place⟩
      return value) here := by
  refine Run.ends_bind (fun _ => Keeping) (passes_attemptDest fun dest done => ?_)
    fun _ _ keeping => Run.ends_pure keeping
  refine keeping.withDest (keeping.dest.addPointer done) fun {id} present => ?_
  obtain ⟨-, -, rfl⟩ := Graph.addPointer_eq_ok_iff.1 done
  exact present

theorem addressName (keeping : Keeping here) (place : Target) :
    Keeps (Join.addressName value1 value2 place) here := by
  unfold Join.addressName
  refine Run.ends_bind_of_ok (Run.ask_apply _ _) ?_
  split
  case h_1 existing _ =>
    split
    case isTrue => exact Run.ends_pure keeping
    case isFalse => exact keeping.addPointer value1 place
  case h_2 => exact keeping.valueName.bind fun value _ keeping => keeping.addPointer value place

theorem foldAt (keeping : Keeping here) (setting : Setting) (object : ObjectId) :
    Keeps (Join.foldAt setting object) here := by
  unfold Join.foldAt
  split
  · exact Run.ends_of_ok (Run.ask_apply _ _) keeping
  · exact Run.ends_pure keeping

/-! ### Fields and foldings -/

theorem store (keeping : Keeping here) (field : Field) : Keeps (Join.store field) here := by
  unfold Join.store
  refine Run.ends_bind_of_ok (Run.ask_apply _ _) ?_
  split
  case isTrue => exact Run.ends_pure keeping
  case isFalse =>
    refine passes_attemptDest fun dest done => ?_
    refine keeping.withDest (keeping.dest.addField done) fun {id} present => ?_
    rwa [Graph.hasObject, Graph.objects_of_addField done] at present

theorem mapLevels (keeping : Keeping here) (values objects : Level × Level) :
    Keeps (Join.mapLevels values objects) here := by
  unfold Join.mapLevels
  refine Run.passes_demand fun answer _ => ?_
  exact Run.ends_bind_of_ok (Run.modify_apply _ _) (Run.ends_pure { keeping with })

/-- After a folding other objects have counterparts, but no fewer. -/
theorem retarget (keeping : Keeping here) (fold : Fold) (segment : ObjectId) :
    Keeps (Join.retarget fold segment) here := by
  refine Run.ends_of_ok (Run.modify_apply _ _) ?_
  exact { keeping with
    named := fun {id} present shared => (keeping.named present shared).imp_right fun mapped => by
      show (((here.1.leftMap.retarget fold.head segment).retarget fold.successor segment).object?
        id).isSome = true
      rw [object?_refold, Option.isSome_map]
      exact mapped }

end Keeping

end Join

end ShapeDomain
