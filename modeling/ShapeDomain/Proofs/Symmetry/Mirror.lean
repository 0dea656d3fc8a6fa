import ShapeDomain.Join.Graph
import ShapeDomain.Proofs.Graph.Consistent
import ShapeDomain.Proofs.Graph.Relaid

/-!
# Mirrored joins

Two joins of the same graphs, one with the graphs exchanged, run in step.  What the first one knows
of its left graph, the second one knows of its right graph, up to a renaming of the values that were
drawn to align layouts.  The destinations are alike throughout: there the names drawn by the second
join are those of the first one, moved by the distance of the two supplies.
-/

namespace ShapeDomain

namespace Join

/-- A renaming of the values of the joined graphs.  Values below the start of a shift stay, the
other ones below `now` are permuted and moved, and the rest is moved. -/
structure Renames (shift : Shift) (now : Nat) (rename : ValueId → ValueId) : Prop where
  /-- The values of the graphs that are joined stay. -/
  fixes : ∀ value, value.index < shift.start → rename value = value
  /-- The values that were drawn become values that the second join drew. -/
  moves : ∀ value, shift.start ≤ value.index → value.index < now →
    shift.start + shift.distance ≤ (rename value).index ∧
      (rename value).index < now + shift.distance
  /-- The values that are not drawn yet are moved. -/
  beyond : ∀ value, now ≤ value.index → rename value = shift.value value
  /-- No two values become the same. -/
  injective : ∀ value other, rename value = rename other → value = other

namespace Renames

variable {shift : Shift} {now : Nat} {rename : ValueId → ValueId}

theorem index_of_le (renames : Renames shift now rename) (started : shift.start ≤ now)
    {value : ValueId} (late : now ≤ value.index) :
    (rename value).index = value.index + shift.distance := by
  rw [renames.beyond value late]
  exact shift.index_of_le (Nat.le_trans started late)

/-- The supply may move on. -/
theorem later (renames : Renames shift now rename) (started : shift.start ≤ now) {next : Nat}
    (after : now ≤ next) : Renames shift next rename where
  fixes := renames.fixes
  moves value drawn early := by
    by_cases before : value.index < now
    · have moved := renames.moves value drawn before
      omega
    · have index := renames.index_of_le started (Nat.le_of_not_lt before)
      omega
  beyond value late := renames.beyond value (Nat.le_trans after late)
  injective := renames.injective

theorem zero (renames : Renames shift now rename) : rename .zero = .zero :=
  renames.fixes .zero shift.positive

theorem isZero (renames : Renames shift now rename) (value : ValueId) :
    (rename value).isZero = value.isZero := by
  have iff : rename value = .zero ↔ value = .zero := by
    constructor
    · intro same
      exact renames.injective _ _ (same.trans renames.zero.symm)
    · rintro rfl
      exact renames.zero
  rw [Bool.eq_iff_iff]
  simpa [ValueId.isZero] using iff

theorem eq_iff (renames : Renames shift now rename) {value other : ValueId} :
    rename value = rename other ↔ value = other :=
  ⟨renames.injective value other, congrArg rename⟩

/-- A value that was drawn becomes one that the second join drew. -/
theorem index_lt (renames : Renames shift now rename) {value : ValueId}
    (early : value.index < now) : (rename value).index < now + shift.distance := by
  by_cases drawn : shift.start ≤ value.index
  · exact (renames.moves value drawn early).2
  · rw [renames.fixes value (Nat.lt_of_not_le drawn)]
    omega

/-- A value from the start on is not renamed to one below it. -/
theorem start_le (renames : Renames shift now rename) (started : shift.start ≤ now)
    {value : ValueId} (drawn : shift.start ≤ value.index) :
    shift.start ≤ (rename value).index := by
  by_cases before : value.index < now
  · have moved := renames.moves value drawn before
    omega
  · have index := renames.index_of_le started (Nat.le_of_not_lt before)
    omega

end Renames

/-- A graph that is joined: it is checked, and its names were drawn before `start`. -/
structure Origin (start : Nat) (graph : Graph) : Prop where
  /-- It passes the check. -/
  checked : graph.Checked
  /-- Its objects were drawn. -/
  objects : ∀ id object, graph.object? id = some object → id.index < start
  /-- Its values were drawn. -/
  values : ∀ value, start ≤ value.index → graph.knowledge value = .nothing
  /-- Its inequalities are between values that were drawn. -/
  inequalities : ∀ pair, graph.inequalities.contains pair = true →
    pair.1.index < start ∧ pair.2.index < start

/-- A graph and what it is in the other join: both differ from the origin in their layouts only, and
the layouts hold the same values up to the renaming. -/
structure SameSide (origin : Graph) (rename : ValueId → ValueId) (now : Nat)
    (graph other : Graph) : Prop where
  /-- Only layouts changed in the first join. -/
  relaid : origin.Relaid graph
  /-- Only layouts changed in the second join. -/
  relaidOther : origin.Relaid other
  /-- The fields are tiled. -/
  tiled : graph.Tiled
  /-- The layouts hold the same. -/
  layouts : ∀ object range,
    other.valueAt? object range = (graph.valueAt? object range).map rename
  /-- What they hold was drawn. -/
  held : ∀ object range value, graph.valueAt? object range = some value → value.index < now

/-- Counterparts of values of one graph in the two joins. -/
structure SameValues (shift : Shift) (rename : ValueId → ValueId) (now : Nat)
    (map other : ValueId → Option ValueId) : Prop where
  /-- They are the same up to the renaming and the shift. -/
  same : ∀ value, other (rename value) = (map value).map shift.value
  /-- Values that are not drawn yet have none. -/
  new : ∀ value, now ≤ value.index → map value = none
  /-- Nor have they in the second join. -/
  newOther : ∀ value, now + shift.distance ≤ value.index → other value = none

/-- Joint values of pairs of values in the two joins. -/
structure SameJoints (shift : Shift) (rename : ValueId → ValueId) (now : Nat)
    (map other : ValueId × ValueId → Option ValueId) : Prop where
  /-- They are the same up to the renaming and the shift. -/
  same : ∀ value1 value2,
    other (rename value2, rename value1) = (map (value1, value2)).map shift.value
  /-- Pairs with a value that is not drawn yet have none. -/
  new : ∀ value1 value2, now ≤ value1.index ∨ now ≤ value2.index → map (value1, value2) = none
  /-- Nor have they in the second join. -/
  newOther : ∀ value1 value2,
    now + shift.distance ≤ value1.index ∨ now + shift.distance ≤ value2.index →
      other (value1, value2) = none

/-- What is still to be done with values of the destination. -/
structure Pending where
  /-- A value is about to be held by a field of a width. -/
  width : ValueId → Nat → Prop
  /-- A value is about to become a counterpart. -/
  unpaired : ValueId → Prop

/-- Nothing is to be done. -/
def Pending.nothing : Pending :=
  ⟨fun _ _ => False, fun _ => False⟩

/-- The numbers of a value in two destinations are the same, or they agree in a field that holds the
value, or in a width in which it is about to be held. -/
structure Congruent (shift : Shift) (width : ValueId → Nat → Prop) (graph other : Graph) :
    Prop where
  /-- The zero values are the same number. -/
  zero : graph.number? .zero = other.number? .zero
  /-- Numbers are the same or agree where they are held. -/
  agree : ∀ value a b, graph.number? value = some a →
    other.number? (shift.value value) = some b →
    a = b ∨ (∃ object range, graph.valueAt? object range = some value ∧
      Number.agreeIn a b range.size = true) ∨
    ∃ size, width value size ∧ Number.agreeIn a b size = true

/-- What the destination of a join knows of values: a value other than zero is a number or an
address, it is known of values that were drawn or have a counterpart, and fields have bits. -/
structure DestKnows (start : Nat) (map : Correspondence) (unpaired : ValueId → Prop) (now : Nat)
    (dest : Graph) : Prop where
  /-- A number is no address, unless it is zero. -/
  plain : ∀ value, (dest.number? value).isSome = true → dest.target? value = none ∨ value = .zero
  /-- Of other values nothing is known. -/
  known : ∀ value, dest.knowledge value ≠ .nothing →
    value = .zero ∨
      (value.index < start ∧ ((map.value? value).isSome = true ∨ unpaired value)) ∨
      (start ≤ value.index ∧ value.index < now)
  /-- Fields have bits. -/
  positive : dest.PositiveFields

/-- What two mirrored joins start from: the graphs, and how far the supply of the second join is
ahead.  There is a level below every object. -/
structure Scene where
  /-- The left graph of the first join. -/
  left : Graph
  /-- Its right graph. -/
  right : Graph
  /-- How the names of the second join differ from those of the first one. -/
  shift : Shift
  /-- The names of the left graph were drawn before. -/
  leftOrigin : Origin shift.start left
  /-- So were those of the right graph. -/
  rightOrigin : Origin shift.start right
  /-- No left object is at the deepest level. -/
  leftShallow : left.Shallow
  /-- No right object is. -/
  rightShallow : right.Shallow

/-- Two joins of the same graphs, the second one with the graphs exchanged, are in step. -/
structure Mirror (scene : Scene) (rename : ValueId → ValueId)
    (pending : Pending) (here there : Progress × Supply) : Prop where
  /-- The second join draws later names. -/
  supplies : scene.shift.Supplies here.2 there.2
  /-- The values are renamed. -/
  renames : Renames scene.shift here.2.next rename
  /-- The left graph of the first join is the right one of the second. -/
  left : SameSide scene.left rename here.2.next here.1.left there.1.right
  /-- The right graph of the first join is the left one of the second. -/
  right : SameSide scene.right rename here.2.next here.1.right there.1.left
  /-- No value was drawn for both graphs. -/
  separate : ∀ object1 range1 object2 range2 value,
    here.1.left.valueAt? object1 range1 = some value →
    here.1.right.valueAt? object2 range2 = some value → value.index < scene.shift.start
  /-- Left objects have the counterparts that they have as right ones. -/
  leftObjects : ∀ id,
    there.1.rightMap.object? id = (here.1.leftMap.object? id).map scene.shift.object
  /-- Right objects have the counterparts that they have as left ones. -/
  rightObjects : ∀ id,
    there.1.leftMap.object? id = (here.1.rightMap.object? id).map scene.shift.object
  /-- So have left values. -/
  leftValues : SameValues scene.shift rename here.2.next here.1.leftMap.value?
    there.1.rightMap.value?
  /-- So have right values. -/
  rightValues : SameValues scene.shift rename here.2.next here.1.rightMap.value?
    there.1.leftMap.value?
  /-- So have pairs of values. -/
  joined : SameJoints scene.shift rename here.2.next here.1.joined.get? there.1.joined.get?
  /-- The levels are mapped alike. -/
  levels : ∀ level1 level2, there.1.levels.get? level2 level1 = here.1.levels.get? level1 level2
  /-- The statuses are mirrored. -/
  status : there.1.status = here.1.status.mirror
  /-- The destinations are alike. -/
  dest : Graph.Alike scene.shift here.1.dest there.1.dest
  /-- Their numbers are congruent. -/
  numbers : Congruent scene.shift pending.width here.1.dest there.1.dest
  /-- The first destination knows what a destination may know. -/
  knows : DestKnows scene.shift.start here.1.leftMap pending.unpaired here.2.next here.1.dest

/-- What stays while two mirrored joins go on: objects with a counterpart keep one, and all of them
but those excepted keep their layouts, and values that were drawn keep their names. -/
structure Later (except1 except2 : ObjectId → Prop) (rename : ValueId → ValueId)
    (here : Progress × Supply) (rename' : ValueId → ValueId) (there : Progress × Supply) :
    Prop where
  /-- The supply moves on. -/
  time : here.2.next ≤ there.2.next
  /-- The renaming is extended. -/
  extends_ : ∀ value, value.index < here.2.next → rename' value = rename value
  /-- Left objects that have a counterpart keep one. -/
  left : ∀ id, (here.1.leftMap.object? id).isSome = true →
    (there.1.leftMap.object? id).isSome = true
  /-- So do right ones. -/
  right : ∀ id, (here.1.rightMap.object? id).isSome = true →
    (there.1.rightMap.object? id).isSome = true
  /-- Such left objects keep their layouts. -/
  leftLayout : ∀ id, (here.1.leftMap.object? id).isSome = true → ¬ except1 id →
    there.1.left.layout id = here.1.left.layout id
  /-- So do such right ones. -/
  rightLayout : ∀ id, (here.1.rightMap.object? id).isSome = true → ¬ except2 id →
    there.1.right.layout id = here.1.right.layout id

/-- No object is excepted. -/
def noObject (_ : ObjectId) : Prop :=
  False

namespace Later

variable {except1 except2 : ObjectId → Prop} {rename rename' rename'' : ValueId → ValueId}
variable {here there final : Progress × Supply}

/-- A step that changes neither the joined graphs nor the counterparts of objects. -/
theorem of_eq (time : here.2.next ≤ there.2.next) (left : there.1.left = here.1.left)
    (right : there.1.right = here.1.right)
    (leftMap : there.1.leftMap.objects = here.1.leftMap.objects)
    (rightMap : there.1.rightMap.objects = here.1.rightMap.objects) :
    Later except1 except2 rename here rename there where
  time := time
  extends_ _ _ := rfl
  left id mapped := by rwa [Correspondence.object?, leftMap]
  right id mapped := by rwa [Correspondence.object?, rightMap]
  leftLayout id _ _ := by rw [left]
  rightLayout id _ _ := by rw [right]

theorem refl (rename : ValueId → ValueId) (here : Progress × Supply) :
    Later except1 except2 rename here rename here :=
  of_eq (Nat.le_refl _) rfl rfl rfl rfl

theorem trans (first : Later except1 except2 rename here rename' there)
    (second : Later except1 except2 rename' there rename'' final) :
    Later except1 except2 rename here rename'' final where
  time := Nat.le_trans first.time second.time
  extends_ value early := (second.extends_ value (Nat.lt_of_lt_of_le early first.time)).trans
    (first.extends_ value early)
  left id mapped := second.left id (first.left id mapped)
  right id mapped := second.right id (first.right id mapped)
  leftLayout id mapped kept :=
    (second.leftLayout id (first.left id mapped) kept).trans (first.leftLayout id mapped kept)
  rightLayout id mapped kept :=
    (second.rightLayout id (first.right id mapped) kept).trans (first.rightLayout id mapped kept)

theorem weaken (later : Later noObject noObject rename here rename' there) :
    Later except1 except2 rename here rename' there :=
  { later with
    leftLayout := fun id mapped _ => later.leftLayout id mapped fun no => no
    rightLayout := fun id mapped _ => later.rightLayout id mapped fun no => no }

end Later

section Twin

variable {scene : Scene} {α β α' β' : Type}

/-- Two runs keep mirrored joins in step: both go through, with related results, or both stop. -/
def Twin (scene : Scene) (first : Run Progress α)
    (second : Run Progress β) (rename : ValueId → ValueId) (here there : Progress × Supply)
    (except1 except2 : ObjectId → Prop) (pending : α → Pending)
    (related : α → β → Progress × Supply → Prop) : Prop :=
  Run.Matches first second here there fun result1 end1 result2 end2 =>
    ∃ rename', Later except1 except2 rename here rename' end1 ∧
      Mirror scene rename' (pending result1) end1 end2 ∧
      related result1 result2 end1

variable {first : Run Progress α} {second : Run Progress β} {rename : ValueId → ValueId}
variable {here there : Progress × Supply} {except1 except2 : ObjectId → Prop}
variable {pending : α → Pending} {related : α → β → Progress × Supply → Prop}

theorem twin_pure {result1 : α} {result2 : β}
    (mirror : Mirror scene rename (pending result1) here there)
    (holds : related result1 result2 here) :
    Twin scene (pure result1) (pure result2) rename here there except1 except2
      pending related :=
  Run.matches_pure ⟨rename, .refl rename here, mirror, holds⟩

theorem Twin.bind {next1 : α → Run Progress α'} {next2 : β → Run Progress β'}
    {pendingEnd : α' → Pending} {relatedEnd : α' → β' → Progress × Supply → Prop}
    (start : Twin scene first second rename here there except1 except2 pending
      related)
    (rest : ∀ result1 result2 rename' end1 end2,
      Later except1 except2 rename here rename' end1 →
      Mirror scene rename' (pending result1) end1 end2 →
      related result1 result2 end1 →
      Twin scene (next1 result1) (next2 result2) rename' end1 end2 except1 except2
        pendingEnd relatedEnd) :
    Twin scene (first >>= next1) (second >>= next2) rename here there except1
      except2 pendingEnd relatedEnd := by
  refine Run.Matches.bind start ?_
  rintro result1 end1 result2 end2 ⟨rename', later, mirror, holds⟩
  refine (rest result1 result2 rename' end1 end2 later mirror holds).mono ?_
  rintro final1 last1 final2 last2 ⟨rename'', later', mirror', holds'⟩
  exact ⟨rename'', later.trans later', mirror', holds'⟩

theorem Twin.mono {pending' : α → Pending}
    {related' : α → β → Progress × Supply → Prop}
    (twin : Twin scene first second rename here there except1 except2 pending
      related)
    (pendings : ∀ result, pending result = pending' result)
    (goods : ∀ result1 result2 end1, related result1 result2 end1 →
      related' result1 result2 end1) :
    Twin scene first second rename here there except1 except2 pending' related' := by
  refine Run.Matches.mono twin ?_
  rintro result1 end1 result2 end2 ⟨rename', later, mirror, holds⟩
  exact ⟨rename', later, pendings result1 ▸ mirror, goods _ _ _ holds⟩

/-- First steps that only look are skipped. -/
theorem twin_bind_of_ok {next1 : α → Run Progress α'} {next2 : β → Run Progress β'}
    {result1 : α} {result2 : β}
    {pendingEnd : α' → Pending} {relatedEnd : α' → β' → Progress × Supply → Prop}
    (done1 : first here = .ok result1 here) (done2 : second there = .ok result2 there)
    (rest : Twin scene (next1 result1) (next2 result2) rename here there except1
      except2 pendingEnd relatedEnd) :
    Twin scene (first >>= next1) (second >>= next2) rename here there except1
      except2 pendingEnd relatedEnd :=
  Run.matches_bind_of_ok done1 done2 rest

/-- Steps whose outcomes are known. -/
theorem twin_of_ok {result1 : α} {result2 : β} {end1 end2 : Progress × Supply}
    (rename' : ValueId → ValueId) (done1 : first here = .ok result1 end1)
    (done2 : second there = .ok result2 end2)
    (later : Later except1 except2 rename here rename' end1)
    (mirror : Mirror scene rename' (pending result1) end1 end2)
    (holds : related result1 result2 end1) :
    Twin scene first second rename here there except1 except2 pending related :=
  Run.matches_of_ok done1 done2 ⟨rename', later, mirror, holds⟩

theorem Twin.weaken
    (twin : Twin scene first second rename here there noObject noObject pending related) :
    Twin scene first second rename here there except1 except2 pending related := by
  refine Run.Matches.mono twin ?_
  rintro result1 end1 result2 end2 ⟨rename', later, holds⟩
  exact ⟨rename', later.weaken, holds⟩

theorem twin_of_error {fault1 fault2 : Fault} {end1 end2 : Progress × Supply}
    (stopped1 : first here = .error fault1 end1) (stopped2 : second there = .error fault2 end2) :
    Twin scene first second rename here there except1 except2 pending related :=
  Run.matches_of_error stopped1 stopped2

/-- Two questions that are asked in both orders. -/
theorem twin_demands {γ δ : Type} {question1 other1 : Progress → Except Fault γ}
    {question2 other2 : Progress → Except Fault δ} {next1 : γ → δ → Run Progress α}
    {next2 : δ → γ → Run Progress β} (same1 : other1 there.1 = question1 here.1)
    (same2 : other2 there.1 = question2 here.1)
    (rest : ∀ answer1 answer2, question1 here.1 = .ok answer1 → question2 here.1 = .ok answer2 →
      Twin scene (next1 answer1 answer2) (next2 answer2 answer1) rename here there except1
        except2 pending related) :
    Twin scene
      (do
        let answer1 ← Run.demand question1
        let answer2 ← Run.demand question2
        next1 answer1 answer2)
      (do
        let answer2 ← Run.demand other2
        let answer1 ← Run.demand other1
        next2 answer2 answer1)
      rename here there except1 except2 pending related := by
  cases given1 : question1 here.1 with
  | error fault1 =>
      have first := Run.demand_apply_error given1
      cases given2 : question2 here.1 with
      | error fault2 =>
          exact twin_of_error (Run.bind_apply_error first)
            (Run.bind_apply_error (Run.demand_apply_error (same2.trans given2)))
      | ok answer2 =>
          have second : (Run.demand other2 >>= fun answer2 =>
              Run.demand other1 >>= fun answer1 => next2 answer2 answer1) there =
                .error fault1 there := by
            rw [Run.bind_apply_ok (Run.demand_apply_ok (same2.trans given2))]
            exact Run.bind_apply_error (Run.demand_apply_error (same1.trans given1))
          exact twin_of_error (Run.bind_apply_error first) second
  | ok answer1 =>
      have first := Run.demand_apply_ok given1
      cases given2 : question2 here.1 with
      | error fault2 =>
          have both : (Run.demand question1 >>= fun answer1 =>
              Run.demand question2 >>= fun answer2 => next1 answer1 answer2) here =
                .error fault2 here := by
            rw [Run.bind_apply_ok first]
            exact Run.bind_apply_error (Run.demand_apply_error given2)
          exact twin_of_error both
            (Run.bind_apply_error (Run.demand_apply_error (same2.trans given2)))
      | ok answer2 =>
          refine twin_bind_of_ok first (Run.demand_apply_ok (same2.trans given2)) ?_
          exact twin_bind_of_ok (Run.demand_apply_ok given2)
            (Run.demand_apply_ok (same1.trans given1)) (rest answer1 answer2 given1 given2)

/-- More objects may be excepted. -/
theorem Twin.except {wider1 wider2 : ObjectId → Prop} (more1 : ∀ id, except1 id → wider1 id)
    (more2 : ∀ id, except2 id → wider2 id)
    (twin : Twin scene first second rename here there except1 except2 pending related) :
    Twin scene first second rename here there wider1 wider2 pending related := by
  refine Run.Matches.mono twin ?_
  rintro result1 end1 result2 end2 ⟨rename', later, holds⟩
  exact ⟨rename', { later with
    leftLayout := fun id mapped kept => later.leftLayout id mapped fun no => kept (more1 id no)
    rightLayout := fun id mapped kept => later.rightLayout id mapped fun no => kept (more2 id no) },
    holds⟩

/-- Objects that have no counterpart yet need not be excepted. -/
theorem Twin.hide (hidden1 hidden2 : ObjectId → Prop)
    (new1 : ∀ id, hidden1 id → here.1.leftMap.object? id = Option.none)
    (new2 : ∀ id, hidden2 id → here.1.rightMap.object? id = Option.none)
    (twin : Twin scene first second rename here there hidden1 hidden2 pending related) :
    Twin scene first second rename here there except1 except2 pending related := by
  refine Run.Matches.mono twin ?_
  rintro result1 end1 result2 end2 ⟨rename', later, holds⟩
  refine ⟨rename', { later with
    leftLayout := fun id mapped _ => later.leftLayout id mapped fun hidden => ?_
    rightLayout := fun id mapped _ => later.rightLayout id mapped fun hidden => ?_ }, holds⟩
  · rw [new1 id hidden] at mapped
    simp at mapped
  · rw [new2 id hidden] at mapped
    simp at mapped

end Twin

end Join

end ShapeDomain
