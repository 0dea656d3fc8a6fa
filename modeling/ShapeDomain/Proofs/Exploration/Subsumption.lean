import ShapeDomain.Proofs.Exploration.Justified
import ShapeDomain.Proofs.Join.Drawing
import ShapeDomain.Proofs.State.Lineage
import ShapeDomain.Proofs.Symmetry.Graphs

/-!
# Searches through memory states

The stop operator of memory states draws names for the joins that it tries.  Its verdict does not
depend on them, as long as the names of the compared states were drawn before: it decides by a
relation of states.
-/

namespace ShapeDomain

namespace State

variable {options : Options} {state reached : State} {supply now : Supply}

/-- A state that can be compared with others: what is left of its memory without garbage is
consistent, its fields have bits, there is a level below each of its objects, and its names were
drawn. -/
structure Comparable (supply : Supply) (state : State) : Prop where
  /-- The memory passes its check. -/
  consistent : state.collect.graph.Consistent
  /-- All fields have bits and end at a position. -/
  exact : state.collect.graph.ExactFields
  /-- No object is at the deepest level. -/
  shallow : state.collect.graph.Shallow
  /-- The names were drawn. -/
  drawn : state.collect.graph.DrawnBefore supply.next

theorem Comparable.later (comparable : state.Comparable supply) (after : supply.next ≤ now.next) :
    state.Comparable now :=
  { comparable with drawn := comparable.drawn.later after }

/-- What a program builds can be compared, and so can the joins of that. -/
theorem Lineage.comparable {states : List State} (lineage : Lineage states supply)
    (inside : state ∈ states) : state.Comparable supply := by
  have tame := tame_maintained.collect (lineage.tame.2 state inside)
  exact {
    consistent := tame.sound.consistent
    exact := fun field member => by
      have held := Graph.mem_fields_iff.1 member
      obtain ⟨found, -, fit⟩ := tame.sound.tiled.fits held
      exact ⟨tame.sound.tiled.positive held, (of_decide_eq_true fit).1⟩
    shallow := tame.shallow
    drawn := tame.drawn }

/-- A state is subsumed by another one: where both can be compared, the comparison says so. -/
def Subsumed (options : Options) (covering state : State) : Prop :=
  ∃ supply now, covering.Comparable supply ∧ state.Comparable supply ∧
    state.isSubsumedBy options covering supply = .ok true now

/-- The comparison says the same wherever the two states can be compared. -/
theorem Comparable.isSubsumedBy_iff (comparable1 : state.Comparable supply)
    (comparable2 : reached.Comparable supply) (comparable1' : state.Comparable now)
    (comparable2' : reached.Comparable now) :
    (∃ after, state.isSubsumedBy options reached supply = .ok true after) ↔
      ∃ after, state.isSubsumedBy options reached now = .ok true after := by
  have joins (status : Status) := Graph.exists_status_iff options
    comparable1.consistent comparable2.consistent comparable1.exact comparable2.exact
    comparable1.shallow comparable2.shallow comparable1.drawn comparable2.drawn
    comparable1'.drawn comparable2'.drawn status
  simp only [State.isSubsumedBy_iff]
  constructor
  · rintro ⟨after, findings, dest, status, joined, covered⟩
    obtain ⟨dest', after', joined'⟩ := (joins status).1 ⟨dest, after, joined⟩
    exact ⟨after', findings, dest', status, joined', covered⟩
  · rintro ⟨after, findings, dest, status, joined, covered⟩
    obtain ⟨dest', after', joined'⟩ := (joins status).2 ⟨dest, after, joined⟩
    exact ⟨after', findings, dest', status, joined', covered⟩

end State

namespace StopOperator

/-- The stop operator of memory states decides by subsumption. -/
theorem separate_decidesBy (options : Options) :
    (separate options).DecidesBy State.Comparable (State.Subsumed options) where
  keeps state reached comparable := comparable.later (forward_subsumedByAny state reached _)
  decides {supply covering state} comparable1 comparable2 := by
    have asked : (∃ now, (separate options).stop state [covering] supply = .ok true now) ↔
        ∃ now, state.isSubsumedBy options covering supply = .ok true now := by
      show (∃ now, subsumedByAny options state [covering] supply = .ok true now) ↔ _
      rw [subsumedByAny_apply]
      cases state.isSubsumedBy options covering supply with
      | error fault now => simp
      | ok verdict now => cases verdict <;> simp [subsumedByAny, pure, EStateM.pure]
    rw [asked]
    constructor
    · rintro ⟨now, subsumed⟩
      exact ⟨supply, now, comparable1, comparable2, subsumed⟩
    · rintro ⟨before, now, comparable1', comparable2', subsumed⟩
      exact (comparable2'.isSubsumedBy_iff comparable1' comparable2 comparable1).1 ⟨now, subsumed⟩

end StopOperator

namespace Exploration

/-- An unknown value was found first, and then a number, which it covers. -/
def memorySearch : List (Operation State) :=
  [.addRoot (.ofGraph unknownVariable), .addChild 0 (.ofGraph numberVariable),
    .stop (.separate {}) {} 1 [0]]

/-- The number is covered by the unknown value, as the stop operator of memory states is to say. -/
theorem coverage_justified_variables :
    let found := (Run.history Operation.perform memorySearch (empty, ⟨4⟩)).1
    found.coveredBy? 1 = some 0 ∧ 0 ∈ found.live ∧
      State.Subsumed {} (.ofGraph unknownVariable) (.ofGraph numberVariable) ∧
      found.covering? 2 1 = none := by
  have searching : ∀ operation ∈ memorySearch, operation.IsSearching := by
    simp [memorySearch, Operation.IsSearching]
  have known (state : State) (comparable : state.collect.graph.Consistent ∧
      state.collect.graph.ExactFields ∧ state.collect.graph.Shallow ∧
      state.collect.graph.DrawnBefore 4) : state.Comparable ⟨4⟩ :=
    ⟨comparable.1, comparable.2.1, comparable.2.2.1, comparable.2.2.2⟩
  have first := known (.ofGraph unknownVariable) (by decide +kernel)
  have second := known (.ofGraph numberVariable) (by decide +kernel)
  have permits : Run.Permits Operation.perform (fun operation here =>
      operation.Introduces State.Comparable here.2 ∧
        operation.DecidesBy State.Comparable (State.Subsumed {})) memorySearch (empty, ⟨4⟩) := by
    refine ⟨⟨?_, trivial⟩, ⟨?_, trivial⟩, ⟨?_, StopOperator.separate_decidesBy {}⟩, trivial⟩
    · rintro state ⟨⟩
      exact first
    · rintro state ⟨⟩
      exact second
    · rintro state ⟨⟩
  obtain ⟨justified, ends⟩ := coverage_justified memorySearch ⟨4⟩ searching
  have covered :
      (Run.history Operation.perform memorySearch (empty, ⟨4⟩)).1.coveredBy? 1 = some 0 := by
    cbv
  have states : (Run.history Operation.perform memorySearch (empty, ⟨4⟩)).1.stateOf? 0 =
        some (.ofGraph unknownVariable) ∧
      (Run.history Operation.perform memorySearch (empty, ⟨4⟩)).1.stateOf? 1 =
        some (.ofGraph numberVariable) := ⟨by decide_cbv, by decide_cbv⟩
  obtain ⟨-, live, state, covering, isState, isCovering, -, subsumed⟩ := justified 1 0 covered
  obtain rfl := Option.some.inj (isState.symm.trans states.2)
  obtain rfl := Option.some.inj (isCovering.symm.trans states.1)
  exact ⟨covered, live, subsumed State.Comparable (State.Subsumed {}) permits, ends 1⟩

end Exploration

end ShapeDomain
