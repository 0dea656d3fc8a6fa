import Mathlib.Logic.Function.Basic
import ShapeDomain.Proofs.Exploration.Links

/-!
# What covers what

`coveredBy?` reads the coverage of an exploration as a partial function, and every operation changes
that function in one of three ways: not at all, by cutting a node out, or by letting an older node
cover a newer one.  What holds of coverage in every history is proved of these three.
-/

namespace ShapeDomain

theorem Node.canCover_iff {S : Type} {node : Node S} :
    node.canCover = true ↔
      node.eligible = true ∧ node.coveredBy = none ∧ node.removed = false := by
  simp [canCover, isCovered, and_assoc]

namespace Exploration

variable {S : Type} {exploration before after : Exploration S} {id other element : NodeId}

/-! ## Views of an exploration -/

/-- Whether the node of a number covers another one. -/
def isCovering (exploration : Exploration S) (id : NodeId) : Bool :=
  exploration.nodes.any fun node => node.coveredBy == some id

/-- No node was merged into another one. -/
def Unmerged (exploration : Exploration S) : Prop :=
  ∀ id node, exploration.node? id = some node → node.mergedInto = none

theorem mem_live_iff :
    id ∈ exploration.live ↔ ∃ node, exploration.node? id = some node ∧ node.removed = false := by
  cases found : exploration.node? id with
  | none => simp [live, found]
  | some node =>
      have inside : id < exploration.size := (List.getElem?_eq_some_iff.1 found).1
      simp [live, found, inside]

theorem isCovered_eq (exploration : Exploration S) (id : NodeId) :
    exploration.isCovered id = (exploration.coveredBy? id).isSome := by
  cases found : exploration.node? id <;> simp [isCovered, coveredBy?, found, Node.isCovered]

theorem coveredBy?_ne_of_not_covering (idle : exploration.isCovering id = false) (x : NodeId) :
    exploration.coveredBy? x ≠ some id := by
  intro covered
  obtain ⟨node, found, same⟩ := Option.bind_eq_some_iff.1 covered
  have covering : exploration.isCovering id = true :=
    List.any_eq_true.2 ⟨node, List.mem_of_getElem? found, by simp [same]⟩
  simp [idle] at covering

/-! ## Changes that do not touch coverage -/

/-- An exploration follows another one if it tells the same of every old node as far as coverage is
concerned, and if new nodes are not covered. -/
structure Extends (before after : Exploration S) : Prop where
  /-- The same nodes cover the same nodes. -/
  coveredBy : after.coveredBy? = before.coveredBy?
  /-- Nothing was removed. -/
  live : ∀ id ∈ before.live, id ∈ after.live
  /-- Nothing was merged. -/
  unmerged : before.Unmerged → after.Unmerged

theorem Extends.refl (exploration : Exploration S) : Extends exploration exploration :=
  ⟨rfl, fun _ member => member, fun unmerged => unmerged⟩

theorem Extends.trans {between : Exploration S} (first : Extends before between)
    (second : Extends between after) : Extends before after where
  coveredBy := second.coveredBy.trans first.coveredBy
  live id member := second.live id (first.live id member)
  unmerged unmerged := second.unmerged (first.unmerged unmerged)

theorem extends_update {change : Node S → Node S}
    (coveredBy : ∀ node, (change node).coveredBy = node.coveredBy)
    (removed : ∀ node, (change node).removed = node.removed)
    (mergedInto : ∀ node, (change node).mergedInto = node.mergedInto) :
    Extends exploration (exploration.update id change) where
  coveredBy := by
    funext x
    cases found : exploration.node? x <;> by_cases same : id = x <;>
      simp [coveredBy?, node?_update, found, same, coveredBy]
  live x member := by
    obtain ⟨node, found, alive⟩ := mem_live_iff.1 member
    by_cases same : id = x
    · exact mem_live_iff.2 ⟨change node, by simp [node?_update, same, found],
        by simp [removed, alive]⟩
    · exact mem_live_iff.2 ⟨node, by simp [node?_update, same, found], alive⟩
  unmerged unmerged x node found := by
    rw [node?_update] at found
    split at found
    case isTrue =>
      obtain ⟨old, there, rfl⟩ := Option.map_eq_some_iff.1 found
      rw [mergedInto]
      exact unmerged x old there
    case isFalse => exact unmerged x node found

theorem extends_addRoot (state : S) : Extends exploration (exploration.addRoot state).2 where
  coveredBy := by
    funext x
    by_cases new : x = exploration.size
    · have absent : exploration.node? x = none := by simp [new, node?, size]
      simp [coveredBy?, node?_addRoot, new ▸ absent, new]
    · simp [coveredBy?, node?_addRoot, new]
  live x member := by
    obtain ⟨node, found, alive⟩ := mem_live_iff.1 member
    have inside : x < exploration.size := (List.getElem?_eq_some_iff.1 found).1
    exact mem_live_iff.2 ⟨node, by simp [node?_addRoot, Nat.ne_of_lt inside, found], alive⟩
  unmerged unmerged x node found := by
    rw [node?_addRoot] at found
    split at found
    case isTrue =>
      cases found
      rfl
    case isFalse => exact unmerged x node found

theorem extends_addParent (child parent : NodeId) :
    Extends exploration (exploration.addParent child parent) := by
  unfold addParent
  split
  case isTrue => exact .refl exploration
  case isFalse =>
    refine .trans (extends_update ?_ ?_ ?_) (extends_update ?_ ?_ ?_) <;> exact fun _ => rfl

/-! ## Changes of coverage -/

/-- Recording that a node is covered marks it; what the covering node notes does not count. -/
theorem extends_of_setCovered (recorded : exploration.setCovered element id = .ok after) :
    Extends (exploration.update element fun node => { node with coveredBy := some id }) after := by
  obtain ⟨-, -, rfl⟩ := setCovered_eq_ok_iff.1 recorded
  exact extends_update (fun _ => rfl) (fun _ => rfl) fun _ => rfl

theorem coveredBy?_of_setCovered (present : (exploration.node? element).isSome)
    (recorded : exploration.setCovered element id = .ok after) :
    after.coveredBy? = Function.update exploration.coveredBy? element (some id) := by
  rw [(extends_of_setCovered recorded).coveredBy]
  obtain ⟨node, found⟩ := Option.isSome_iff_exists.1 present
  funext x
  by_cases same : x = element
  · simp [coveredBy?, node?_update, same, found]
  · simp [coveredBy?, node?_update, same, Ne.symm same]

theorem mem_live_of_setCovered {x : NodeId} (member : x ∈ exploration.live)
    (recorded : exploration.setCovered element id = .ok after) : x ∈ after.live := by
  refine (extends_of_setCovered recorded).live x ?_
  obtain ⟨node, found, alive⟩ := mem_live_iff.1 member
  rw [mem_live_iff, node?_update, found]
  split
  · exact ⟨_, rfl, alive⟩
  · exact ⟨_, rfl, alive⟩

theorem unmerged_of_setCovered (unmerged : exploration.Unmerged)
    (recorded : exploration.setCovered element id = .ok after) : after.Unmerged := by
  refine (extends_of_setCovered recorded).unmerged ?_
  intro x node found
  rw [node?_update] at found
  split at found
  case isTrue =>
    obtain ⟨old, there, rfl⟩ := Option.map_eq_some_iff.1 found
    exact unmerged x old there
  case isFalse => exact unmerged x node found

theorem mem_live_remove {x : NodeId} (member : x ∈ exploration.live) (stays : x ≠ id) :
    x ∈ (exploration.remove id).live := by
  obtain ⟨node, found, alive⟩ := mem_live_iff.1 member
  have bare := bare_remove exploration id x
  rw [found, Option.map_some, if_neg stays] at bare
  obtain ⟨left, there, same⟩ := Option.map_eq_some_iff.1 bare
  exact mem_live_iff.2 ⟨left, there, (congrArg Node.removed same).trans alive⟩

theorem unmerged_remove (unmerged : exploration.Unmerged) : (exploration.remove id).Unmerged := by
  intro x node found
  have bare := bare_remove exploration id x
  rw [found, Option.map_some] at bare
  obtain ⟨old, there, same⟩ := Option.map_eq_some_iff.1 bare.symm
  have into := congrArg Node.mergedInto same
  split at into
  · exact into.symm.trans (unmerged x old there)
  · exact into.symm.trans (unmerged x old there)

/-! ## One operation -/

/-- Whether an operation leaves it to `stop` to find out what covers what: it neither merges nodes
nor records coverage itself. -/
def Operation.IsSearching : Operation S → Prop
  | .setMergedInto _ _ | .setCovered _ _ => False
  | _ => True

/-- A search keeps coverage mutual. -/
theorem Operation.IsSearching.coverage [Explorable S] {operation : Operation S} {supply : Supply}
    (searching : operation.IsSearching) (both : before.Coverage) :
    (operation.perform.finish (before, supply)).1.Coverage := by
  refine Operation.coverage ?_ both
  rintro id covering rfl
  exact searching.elim

/-- The ways in which an operation that starts with a supply changes coverage. -/
inductive CoverageStep (operation : Operation S) (supply : Supply) (before after : Exploration S) :
    Prop
  /-- Not at all. -/
  | kept (same : Extends before after)
  /-- A node is cut out: nothing covers it, and it covers nothing. -/
  | cut (id : NodeId)
      (coveredBy : ∀ x, after.coveredBy? x =
        if x = id then none else (before.coveredBy? x).filter (· != id))
      (live : ∀ x ∈ before.live, x ≠ id → x ∈ after.live)
      (unmerged : before.Unmerged → after.Unmerged)
  /-- A node that was asked about is covered by an older one, which is neither covered nor
  removed. -/
  | covered (operator : StopOperator S) (options : Options) (element id : NodeId)
      (reached : List NodeId)
      (asked : operation = .stop operator options element reached) (member : id ∈ reached)
      (older : id < element) (alive : id ∈ before.live) (uncovered : before.coveredBy? id = none)
      (coveredBy : after.coveredBy? = Function.update before.coveredBy? element (some id))
      (live : ∀ x ∈ before.live, x ∈ after.live) (unmerged : before.Unmerged → after.Unmerged)
      (justified : ∃ node other, before.node? element = some node ∧ before.node? id = some other ∧
        operator.CoversFrom supply other.state node.state)

theorem CoverageStep.removed (operation : Operation S) (supply : Supply)
    (both : exploration.Coverage) (id : NodeId) :
    CoverageStep operation supply exploration (exploration.remove id) :=
  .cut id (coveredBy?_remove both) (fun _ => mem_live_remove) unmerged_remove

/-- A node that is covered and then removed is as good as removed at once. -/
theorem CoverageStep.replaced (operation : Operation S) (supply : Supply) (both : before.Coverage)
    (present : (before.node? element).isSome) (covering : (before.node? id).isSome)
    (recorded : before.setCovered element id = .ok after) :
    CoverageStep operation supply before (after.remove element) := by
  refine .cut element ?_ ?_ ?_
  · intro x
    rw [coveredBy?_remove (coverage_of_setCovered both present covering recorded),
      coveredBy?_of_setCovered present recorded]
    by_cases same : x = element <;> simp [same]
  · intro x member stays
    exact mem_live_remove (mem_live_of_setCovered member recorded) stays
  · intro unmerged
    exact unmerged_remove (unmerged_of_setCovered unmerged recorded)

/-- What is decided for a node that was not merged. -/
theorem Decision.coverageStep {operator : StopOperator S} {options : Options}
    {reached : List NodeId} {node : Node S} {verdict : Bool} {supply : Supply}
    (decision : Decision operator supply options before element node reached verdict after)
    (found : before.node? element = some node) (both : before.Coverage)
    (unmerged : before.Unmerged) :
    CoverageStep (.stop operator options element reached) supply before after := by
  have present : (before.node? element).isSome := by simp [found]
  have alone : node.mergedInto = none := unmerged element node found
  cases decision with
  | explored => exact .kept (.refl _)
  | marked merged => simp [alone] at merged
  | absorbed merged => simp [alone] at merged
  | covered member there able older covers recorded =>
      rename_i id covering
      obtain ⟨-, uncovered, alive⟩ := Node.canCover_iff.1 able
      exact .covered operator options element id reached rfl member older
        (mem_live_iff.2 ⟨covering, there, alive⟩) (by simp [coveredBy?, there, uncovered])
        (coveredBy?_of_setCovered present recorded)
        (fun _ member => mem_live_of_setCovered member recorded)
        (fun unmerged => unmerged_of_setCovered unmerged recorded)
          ⟨node, covering, found, there, covers⟩
  | replaced member there able older covers sibling recorded =>
      exact .replaced _ _ both present (by simp [there]) recorded

/-- A decision to stop makes one of the three steps, whether or not it stops with a fault. -/
theorem stop_coverageStep [Explorable S] {operator : StopOperator S} {options : Options}
    {reached : List NodeId} (both : before.Coverage) (unmerged : before.Unmerged)
    (supply : Supply) :
    Run.Ends (stop operator options element reached) (before, supply)
      (fun _ there => CoverageStep (.stop operator options element reached) supply before there.1)
      (fun _ there => CoverageStep
        (.stop operator options element reached) supply before there.1) := by
  refine stop_ends.mono ?_ ?_
  · rintro verdict ⟨after, now⟩ ⟨-, ⟨-, -, rfl⟩ | ⟨node, found, -, decision⟩⟩
    · exact .kept (.refl _)
    · exact decision.coverageStep found both unmerged
  · rintro _ ⟨after, now⟩ ⟨rfl, -⟩
    exact .kept (.refl _)

/-- Every operation of a search makes one of the three steps. -/
theorem Operation.coverageStep [Explorable S] {operation : Operation S}
    (searching : operation.IsSearching) (both : before.Coverage) (unmerged : before.Unmerged)
    (supply : Supply) :
    CoverageStep operation supply before (operation.perform.finish (before, supply)).1 := by
  cases operation with
  | addRoot state => exact .kept (extends_addRoot state)
  | addChild parent state =>
      exact .kept ((extends_addRoot state).trans (extends_addParent before.size parent))
  | addParent child parent => exact .kept (extends_addParent child parent)
  | setMergedInto id into => exact searching.elim
  | setEligible id eligible =>
      exact .kept (extends_update (fun _ => rfl) (fun _ => rfl) fun _ => rfl)
  | setCovered id covering => exact searching.elim
  | remove id => exact .removed _ _ both id
  | stop operator options element reached =>
      exact Run.Ends.finish (fun there => CoverageStep _ supply before there.1)
        ((stop_coverageStep both unmerged supply).bind fun _ _ step => Run.ends_pure step)

/-! ## Histories of operations -/

/-- Coverage that only a search has recorded: nothing was merged, and every covering node is older
than the one it covers and was not removed. -/
structure Ranked (exploration : Exploration S) : Prop where
  /-- No node was merged. -/
  unmerged : exploration.Unmerged
  /-- A covering node is older. -/
  older : ∀ x y, exploration.coveredBy? x = some y → y < x
  /-- A covering node was not removed. -/
  live : ∀ x y, exploration.coveredBy? x = some y → y ∈ exploration.live

theorem CoverageStep.ranked {operation : Operation S} {supply : Supply}
    (step : CoverageStep operation supply before after)
    (ranked : Ranked before) : Ranked after := by
  cases step with
  | kept same =>
      refine ⟨same.unmerged ranked.unmerged, ?_, ?_⟩
      · rw [same.coveredBy]
        exact ranked.older
      · rw [same.coveredBy]
        exact fun x y covered => same.live y (ranked.live x y covered)
  | cut id coveredBy live unmerged =>
      have old : ∀ x y, after.coveredBy? x = some y → before.coveredBy? x = some y ∧ y ≠ id := by
        intro x y covered
        rw [coveredBy] at covered
        split at covered
        · cases covered
        · simpa [Option.filter_eq_some_iff] using covered
      refine ⟨unmerged ranked.unmerged, ?_, ?_⟩
      · exact fun x y covered => ranked.older x y (old x y covered).1
      · intro x y covered
        exact live y (ranked.live x y (old x y covered).1) (old x y covered).2
  | covered operator options element id reached asked member older alive uncovered coveredBy live
      unmerged =>
      have old : ∀ x y, after.coveredBy? x = some y →
          x = element ∧ y = id ∨ before.coveredBy? x = some y := by
        intro x y covered
        rw [coveredBy] at covered
        by_cases same : x = element
        · subst same
          exact .inl ⟨rfl, by simpa using covered.symm⟩
        · exact .inr (by simpa [same] using covered)
      refine ⟨unmerged ranked.unmerged, ?_, ?_⟩
      · intro x y covered
        rcases old x y covered with ⟨rfl, rfl⟩ | covered
        · exact older
        · exact ranked.older x y covered
      · intro x y covered
        rcases old x y covered with ⟨rfl, rfl⟩ | covered
        · exact live y alive
        · exact live y (ranked.live x y covered)

/-- No covering node is covered. -/
def Flat (exploration : Exploration S) : Prop :=
  ∀ x y, exploration.coveredBy? x = some y → exploration.coveredBy? y = none

theorem coveredBy?_empty (x : NodeId) : (empty : Exploration S).coveredBy? x = none := by
  simp [coveredBy?, node?, empty]

theorem ranked_empty : Ranked (empty : Exploration S) where
  unmerged := by simp [Unmerged, node?, empty]
  older x y covered := by simp [coveredBy?_empty] at covered
  live x y covered := by simp [coveredBy?_empty] at covered

theorem flat_empty : Flat (empty : Exploration S) := by
  intro x y covered
  simp [coveredBy?_empty] at covered

/-- Whether an operation asks about a node only if that node covers no other one. -/
def Operation.AsksIdle (exploration : Exploration S) : Operation S → Prop
  | .stop _ _ element _ => exploration.isCovering element = false
  | _ => True

/-- Coverage stays flat, unless a node is asked about that covers another one: `setCovered` looks at
what covers the two nodes and not at what they cover. -/
theorem CoverageStep.flat {operation : Operation S} {supply : Supply}
    (step : CoverageStep operation supply before after)
    (idle : operation.AsksIdle before) (flat : Flat before) : Flat after := by
  cases step with
  | kept same =>
      intro x y
      rw [same.coveredBy]
      exact flat x y
  | cut id coveredBy =>
      intro x y covered
      rw [coveredBy] at covered ⊢
      split at covered
      · cases covered
      · have old : before.coveredBy? x = some y := (Option.filter_eq_some_iff.1 covered).1
        simp [flat x y old]
  | covered operator options element id reached asked member older alive uncovered coveredBy =>
      subst asked
      intro x y covered
      rw [coveredBy] at covered ⊢
      by_cases same : x = element
      · obtain rfl : id = y := by simpa [same] using covered
        simp [Nat.ne_of_lt older, uncovered]
      · have old : before.coveredBy? x = some y := by simpa [same] using covered
        have other : y ≠ element := by
          rintro rfl
          exact coveredBy?_ne_of_not_covering idle x old
        simp [other, flat x y old]

/-- In a search that asks about no node while that node covers another one, every covering node is
older than what it covers, is still there, and is not covered itself. -/
theorem covering_not_covered [Explorable S] (operations : List (Operation S)) (supply : Supply)
    (permits : Run.Permits Operation.perform
      (fun operation here => operation.IsSearching ∧ operation.AsksIdle here.1)
      operations (empty, supply)) :
    let found := (Run.history Operation.perform operations (empty, supply)).1
    ∀ x y, found.coveredBy? x = some y →
      y < x ∧ y ∈ found.live ∧ found.isCovered y = false := by
  have kept := permits.keeps (fun there => Coverage there.1 ∧ Ranked there.1 ∧ Flat there.1)
    ⟨mutual_empty, ranked_empty, flat_empty⟩ (by
      rintro operation ⟨before, now⟩ ⟨searching, idle⟩ ⟨both, ranked, flat⟩
      have step := Operation.coverageStep searching both ranked.unmerged now
      exact ⟨searching.coverage both, step.ranked ranked, step.flat idle flat⟩)
  obtain ⟨-, ranked, flat⟩ := kept
  intro found x y covered
  refine ⟨ranked.older x y covered, ranked.live x y covered, ?_⟩
  rw [isCovered_eq, flat x y covered, Option.isSome_none]

/-- Three intervals, each derived from the one before and inside it. -/
def shrinking : List (Operation Interval) :=
  [.addRoot ⟨0, 10, false⟩, .addChild 0 ⟨0, 5, false⟩, .addChild 1 ⟨1, 2, false⟩]

/-- The first interval covers the last one. -/
theorem covering_not_covered_shrinking :
    let operations := shrinking ++ [.stop Interval.enclosure {} 2 [0, 1]]
    let found := (Run.history Operation.perform operations (empty, .full)).1
    found.coveredBy? 2 = some 0 ∧
      (∀ x y, found.coveredBy? x = some y → y < x ∧ y ∈ found.live ∧ found.isCovered y = false) :=
  ⟨rfl, covering_not_covered _ _
    ⟨⟨trivial, trivial⟩, ⟨trivial, trivial⟩, ⟨trivial, trivial⟩, ⟨trivial, rfl⟩, trivial⟩⟩

/-- If the second interval is asked about after it covered the last one, it is covered by the first
one. -/
theorem covered_covering_shrinking :
    let operations := shrinking ++
      [.stop Interval.enclosure {} 2 [1], .stop Interval.enclosure {} 1 [0]]
    let found := (Run.history Operation.perform operations (empty, .full)).1
    (∀ operation ∈ operations, operation.IsSearching) ∧
      found.coveredBy? 2 = some 1 ∧ found.isCovered 1 = true :=
  ⟨by simp [shrinking, Operation.IsSearching], rfl, rfl⟩

end Exploration

end ShapeDomain
