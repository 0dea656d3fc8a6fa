import Mathlib.Data.List.Perm.Basic
import ShapeDomain.Join.Levels

/-!
# Level maps and the order of requests

A level map is built by requests, and each request is answered from what the earlier ones have
mapped.  In whatever order the requests come, the same pairs of levels are mapped.  The levels that
they go to may depend on the order, since a pair that is mapped already is not looked at again: they
do not if the rule for a request never contradicts what its values are mapped to in the end.
-/

namespace ShapeDomain

namespace LevelMap

/-- A request for the level of two values that two objects hold. -/
structure Request where
  /-- The levels of the values. -/
  values : Level × Level
  /-- The levels of the objects. -/
  objects : Level × Level
  deriving DecidableEq, Repr

/-- The request with the given indices of the levels. -/
def Request.of (value1 value2 object1 object2 : Nat) : Request :=
  ⟨(⟨value1⟩, ⟨value2⟩), (⟨object1⟩, ⟨object2⟩)⟩

/-- From one map to another one by requests that are all answered with a level. -/
inductive Answers : LevelMap → List Request → LevelMap → Prop
  /-- There are no requests. -/
  | done (map : LevelMap) : Answers map [] map
  /-- The first request is answered, and then the others are. -/
  | next {map between after : LevelMap} {request : Request} {rest : List Request} {level : Level}
      (answered : map.update request.values request.objects = .ok (some level, between))
      (later : Answers between rest after) : Answers map (request :: rest) after

/-- Where the rule gives a level for a request, this is the level that its values are mapped to. -/
def Respects (map : LevelMap) (request : Request) : Prop :=
  ∀ parent ∈ map.get? request.objects.1 request.objects.2,
    ∀ found ∈ (follow parent request.values request.objects).toOption, ∀ level ∈ found,
      map.get? request.values.1 request.values.2 = some level

instance (map : LevelMap) (request : Request) : Decidable (map.Respects request) :=
  inferInstanceAs (Decidable (∀ parent ∈ map.get? request.objects.1 request.objects.2,
    ∀ found ∈ (follow parent request.values request.objects).toOption, ∀ level ∈ found,
      map.get? request.values.1 request.values.2 = some level))

variable {map between after reference : LevelMap} {request : Request} {requests : List Request}
variable {level : Level}

/-! ## One request -/

theorem get?_insert (values levels : Level × Level) :
    (⟨map.table.insert values level⟩ : LevelMap).get? levels.1 levels.2 =
      if levels = values then some level else map.get? levels.1 levels.2 :=
  Table.get?_insert map.table values levels level

/-- A request is answered either with the level that its values are mapped to, or with the one that
follows from the levels of the objects, and its values are then mapped to that one. -/
theorem update_eq_some_iff {values objects : Level × Level} :
    map.update values objects = .ok (some level, after) ↔
      map.get? values.1 values.2 = some level ∧ after = map ∨
        map.get? values.1 values.2 = none ∧
          ∃ parent, map.get? objects.1 objects.2 = some parent ∧
            follow parent values objects = .ok (some level) ∧
            after = ⟨map.table.insert values level⟩ := by
  unfold update require
  cases mapped : map.get? values.1 values.2 with
  | some existing => simp [eq_comm]
  | none =>
      cases held : map.get? objects.1 objects.2 with
      | none => simp [bind, Except.bind]
      | some parent =>
          simp only [bind, Except.bind]
          rcases followed : follow parent values objects with fault | _ | found
          · simp [followed]
          · simp [pure, Except.pure, followed]
          · simp only [LevelMap.insert, mapped]
            constructor
            · intro same
              cases same
              exact .inr ⟨trivial, parent, rfl, followed, rfl⟩
            · rintro (⟨absent, -⟩ | ⟨-, _, same, followed', rfl⟩)
              · cases absent
              · cases same
                rw [followed] at followed'
                cases followed'
                rfl

/-- An answered request keeps what is mapped. -/
theorem get?_of_update
    (answered : map.update request.values request.objects = .ok (some level, after))
    {levels : Level × Level} {old : Level} (mapped : map.get? levels.1 levels.2 = some old) :
    after.get? levels.1 levels.2 = some old := by
  rcases update_eq_some_iff.1 answered with ⟨-, rfl⟩ | ⟨fresh, -, -, -, rfl⟩
  · exact mapped
  · have other : levels ≠ request.values := by
      rintro rfl
      simp [fresh] at mapped
    rw [get?_insert, if_neg other, mapped]

/-- An answered request maps its values and nothing else. -/
theorem isSome_get?_of_update
    (answered : map.update request.values request.objects = .ok (some level, after))
    (levels : Level × Level) :
    (after.get? levels.1 levels.2).isSome ↔
      (map.get? levels.1 levels.2).isSome ∨ levels = request.values := by
  rcases update_eq_some_iff.1 answered with ⟨mapped, rfl⟩ | ⟨-, _, -, -, rfl⟩
  · constructor
    · exact .inl
    · rintro (there | rfl)
      · exact there
      · simp [mapped]
  · rw [get?_insert]
    split
    case isTrue same => simp [same]
    case isFalse other => simp [other]

/-! ## Several requests -/

/-- What is mapped in the end is what was mapped before and what was asked for. -/
theorem Answers.isSome_get? (answers : Answers map requests after) (levels : Level × Level) :
    (after.get? levels.1 levels.2).isSome ↔
      (map.get? levels.1 levels.2).isSome ∨ ∃ request ∈ requests, request.values = levels := by
  induction answers with
  | done => simp
  | next answered later ih =>
      rw [ih, isSome_get?_of_update answered, or_assoc, List.exists_mem_cons_iff,
        eq_comm (a := levels)]

/-- What is mapped stays mapped. -/
theorem Answers.get?_of_mapped (answers : Answers map requests after) {levels : Level × Level}
    {level : Level} (mapped : map.get? levels.1 levels.2 = some level) :
    after.get? levels.1 levels.2 = some level := by
  induction answers with
  | done => exact mapped
  | next answered later ih => exact ih (get?_of_update answered mapped)

/-- Every map that extends the first one and respects the requests extends what they lead to.  In
the induction, a pair that is mapped anew gets the level that follows from its objects, which go to
the same level in both maps. -/
theorem Answers.get?_of_respects (answers : Answers map requests after)
    (respected : ∀ request ∈ requests, reference.Respects request)
    (extended : ∀ (levels : Level × Level) (level : Level),
      map.get? levels.1 levels.2 = some level → reference.get? levels.1 levels.2 = some level)
    (levels : Level × Level) (level : Level) (mapped : after.get? levels.1 levels.2 = some level) :
    reference.get? levels.1 levels.2 = some level := by
  induction answers with
  | done => exact extended levels level mapped
  | @next map between after request rest found answered later ih =>
      refine ih (fun request member => respected request (List.mem_cons_of_mem _ member)) ?_ mapped
      intro levels level mapped
      rcases update_eq_some_iff.1 answered with ⟨-, rfl⟩ | ⟨-, parent, held, followed, rfl⟩
      · exact extended levels level mapped
      · rw [get?_insert] at mapped
        split at mapped
        case isTrue same =>
          cases mapped
          subst same
          exact respected request List.mem_cons_self parent (extended request.objects parent held)
            _ (by rw [followed]; rfl) _ rfl
        case isFalse => exact extended levels level mapped

theorem ext_get? {other : LevelMap}
    (same : ∀ levels : Level × Level, map.get? levels.1 levels.2 = other.get? levels.1 levels.2) :
    map = other := by
  obtain ⟨table1⟩ := map
  obtain ⟨table2⟩ := other
  exact congrArg mk (Table.ext_get? same)

/-- Requests that are all answered map the same pairs of levels in every order, and they lead to the
same map if the rule for none of them contradicts the map that one of the orders leads to. -/
theorem Answers.eq_of_perm {start other : LevelMap} {permuted : List Request}
    (first : Answers start requests map) (second : Answers start permuted other)
    (perm : requests.Perm permuted) :
    (∀ level1 level2, (map.get? level1 level2).isSome = (other.get? level1 level2).isSome) ∧
      ((∀ request ∈ requests, other.Respects request) → map = other) := by
  have mapped (levels : Level × Level) :
      (map.get? levels.1 levels.2).isSome = (other.get? levels.1 levels.2).isSome := by
    rw [Bool.eq_iff_iff, first.isSome_get?, second.isSome_get?]
    simp only [perm.mem_iff]
  refine ⟨fun level1 level2 => mapped (level1, level2), fun respected => ext_get? fun levels => ?_⟩
  cases found : map.get? levels.1 levels.2 with
  | some level =>
      exact (first.get?_of_respects respected (fun _ _ => second.get?_of_mapped) levels level
        found).symm
  | none =>
      have absent := mapped levels
      rw [found] at absent
      exact (Option.isNone_iff_eq_none.1 (by simpa using absent.symm)).symm

/-- Down into two segments, up again, and down on one side only. -/
def descent : List Request :=
  [.of 1 1 0 0, .of 2 2 1 1, .of 1 1 2 2, .of 1 0 0 0]

/-- The requests of `descent` in another order. -/
def otherDescent : List Request :=
  [.of 1 0 0 0, .of 1 1 0 0, .of 1 1 2 2, .of 2 2 1 1]

/-- Both orders lead to the same map. -/
theorem eq_of_perm_descent :
    ∃ map other, Answers initial descent map ∧ Answers initial otherDescent other ∧
      descent.Perm otherDescent ∧ (∀ request ∈ descent, other.Respects request) ∧
      (∀ level1 level2, (map.get? level1 level2).isSome = (other.get? level1 level2).isSome) ∧
      map = other := by
  have first : Answers initial descent _ := .next rfl (.next rfl (.next rfl (.next rfl (.done _))))
  have second : Answers initial otherDescent _ :=
    .next rfl (.next rfl (.next rfl (.next rfl (.done _))))
  have perm : descent.Perm otherDescent := by decide
  obtain ⟨mapped, same⟩ := Answers.eq_of_perm first second perm
  exact ⟨_, _, first, second, perm, by decide, mapped, same (by decide)⟩

/-- Three requests, two of which are for the same levels and contradict each other. -/
def contested : List Request :=
  [.of 1 4 0 0, .of 1 5 0 0, .of 1 5 1 4]

/-- The requests of `contested` with the contradicting ones exchanged. -/
def otherContested : List Request :=
  [.of 1 4 0 0, .of 1 5 1 4, .of 1 5 0 0]

/-- All requests are answered in both orders, but the contested levels go where the earlier one of
the two requests says. -/
theorem ne_of_perm_contested :
    ∃ map other, Answers initial contested map ∧ Answers initial otherContested other ∧
      contested.Perm otherContested ∧ map.get? ⟨1⟩ ⟨5⟩ = some ⟨1⟩ ∧
      other.get? ⟨1⟩ ⟨5⟩ = some ⟨2⟩ ∧ map ≠ other := by
  have first : Answers initial contested _ := .next rfl (.next rfl (.next rfl (.done _)))
  have second : Answers initial otherContested _ := .next rfl (.next rfl (.next rfl (.done _)))
  exact ⟨_, _, first, second, by decide, by decide, by decide, by decide⟩

end LevelMap

end ShapeDomain
