import ShapeDomain.Graph.Reachable

/-!
# The reachable objects are found exactly

The search of `Graph.explore` finds reachable objects only, and it finds all of them in as many
rounds as there are layouts: a round that sees new objects goes on from an object whose layout was
not looked at before.
-/

namespace ShapeDomain

namespace Graph

variable {graph : Graph}

/-- An object with successors has a layout. -/
theorem mem_layouts_of_mem_successors {object next : ObjectId}
    (member : next ∈ graph.successors object) : object ∈ graph.layouts.keys := by
  rw [Table.mem_keys_iff, Table.contains]
  cases found : graph.layouts.get? object with
  | some _ => rfl
  | none =>
      have layout : graph.layout object = ∅ := by simp [Graph.layout, found]
      simp [successors, fieldsOf, layout, Layout.fields] at member

/-- The layouts of objects that were not seen yet. -/
def unseen (graph : Graph) (seen : KeySet ObjectId) : List ObjectId :=
  graph.layouts.keys.filter fun object => !seen.contains object

/-- Everything that leads on from the seen objects is seen or about to be. -/
structure Frontier (graph : Graph) (seen : KeySet ObjectId) (frontier : List ObjectId) : Prop where
  /-- The frontier is new. -/
  fresh : ∀ object ∈ frontier, seen.contains object = false
  /-- What the variables name is seen or about to be. -/
  roots : ∀ object ∈ graph.roots.map Prod.snd,
    seen.contains object = true ∨ object ∈ frontier
  /-- What seen objects lead to is seen or about to be. -/
  closed : ∀ object, seen.contains object = true →
    ∀ next ∈ graph.successors object, seen.contains next = true ∨ next ∈ frontier

/-- A set that the variables and the fields of its members lead into contains what is reachable. -/
theorem contains_of_reaches {seen : KeySet ObjectId}
    (complete : Frontier graph seen []) {object : ObjectId}
    (reaches : graph.Reaches object) : seen.contains object = true := by
  induction reaches with
  | root named => simpa using complete.roots _ named
  | step _ leads ih => simpa using complete.closed _ ih _ leads

theorem mem_beyond {seen : KeySet ObjectId} {frontier : List ObjectId} {object : ObjectId} :
    object ∈ (graph.beyond seen frontier).keys ↔
      (∃ source ∈ frontier, object ∈ graph.successors source) ∧
        object ∉ frontier ∧ seen.contains object = false := by
  simp [beyond, Table.mem_keys_iff, KeySet.contains_ofList, KeySet.contains_addAll]

theorem explore_succ (rounds : Nat) (seen : KeySet ObjectId) (frontier : List ObjectId) :
    graph.explore (rounds + 1) seen frontier =
      if (graph.beyond seen frontier).keys.isEmpty then seen.addAll frontier
      else graph.explore rounds (seen.addAll frontier) (graph.beyond seen frontier).keys := rfl

/-- A round keeps the frontier complete. -/
theorem Frontier.next {seen : KeySet ObjectId} {frontier : List ObjectId}
    (complete : Frontier graph seen frontier) :
    Frontier graph (seen.addAll frontier) (graph.beyond seen frontier).keys where
  fresh object member := by
    have new := mem_beyond.1 member
    simp [KeySet.contains_addAll, new.2.1, new.2.2]
  roots object named := by
    rw [KeySet.contains_addAll]
    rcases complete.roots object named with old | new
    · simp [old]
    · simp [new]
  closed object member next leads := by
    rw [KeySet.contains_addAll_iff] at member ⊢
    by_cases later : next ∈ frontier
    · simp [later]
    · cases old : seen.contains next with
      | true => simp
      | false =>
          refine .inr (mem_beyond.2 ⟨?_, later, old⟩)
          rcases member with inFrontier | inSeen
          · exact ⟨object, inFrontier, leads⟩
          · rcases complete.closed object inSeen next leads with seenNext | laterNext
            · simp [seenNext] at old
            · exact absurd laterNext later

/-- A filter that is stricter than another one, and refuses a member which that one keeps, leaves
fewer members. -/
theorem length_filter_lt_of_mem {list : List ObjectId} {p q : ObjectId → Bool}
    (stricter : ∀ x, q x = true → p x = true)
    {x : ObjectId} (member : x ∈ list) (holds : p x = true) (fails : q x = false) :
    (list.filter q).length < (list.filter p).length := by
  have twice : list.filter q = (list.filter p).filter q := by
    rw [List.filter_filter]
    refine List.filter_congr fun y _ => ?_
    cases kept : q y <;> simp [stricter y, kept]
  rw [twice, List.length_filter_lt_length_iff_exists]
  exact ⟨x, List.mem_filter.2 ⟨member, holds⟩, by simp [fails]⟩

/-- A round that sees new objects leaves fewer layouts unseen. -/
theorem unseen_lt {seen : KeySet ObjectId} {frontier : List ObjectId}
    (complete : Frontier graph seen frontier) {object : ObjectId}
    (new : object ∈ (graph.beyond seen frontier).keys) :
    (graph.unseen (seen.addAll frontier)).length < (graph.unseen seen).length := by
  obtain ⟨⟨source, member, leads⟩, -⟩ := mem_beyond.1 new
  refine length_filter_lt_of_mem (fun x later => ?_) (mem_layouts_of_mem_successors leads) ?_ ?_
  · simp only [KeySet.contains_addAll] at later
    simp_all
  · simp [complete.fresh source member]
  · simp [KeySet.contains_addAll, member]

/-- The search contains what is reachable. -/
theorem contains_explore {rounds : Nat} {seen : KeySet ObjectId} {frontier : List ObjectId}
    (complete : Frontier graph seen frontier)
    (enough : (graph.unseen seen).length ≤ rounds) {object : ObjectId}
    (reaches : graph.Reaches object) :
    (graph.explore rounds seen frontier).contains object = true := by
  induction rounds generalizing seen frontier with
  | zero =>
      have nothing : (graph.beyond seen frontier).keys = [] := by
        refine List.eq_nil_iff_forall_not_mem.2 fun other new => ?_
        have := unseen_lt complete new
        omega
      have last := complete.next
      rw [nothing] at last
      exact contains_of_reaches last reaches
  | succ rounds ih =>
      have last := complete.next
      rw [explore_succ]
      split
      case isTrue nothing =>
        rw [List.isEmpty_iff.1 nothing] at last
        exact contains_of_reaches last reaches
      case isFalse something =>
        cases keys : (graph.beyond seen frontier).keys with
        | nil => simp [keys] at something
        | cons head rest =>
            rw [← keys]
            refine ih last ?_
            have new : head ∈ (graph.beyond seen frontier).keys := by simp [keys]
            have := unseen_lt complete new
            omega

/-- The search contains reachable objects only. -/
theorem reaches_of_contains_explore {rounds : Nat} {seen : KeySet ObjectId}
    {frontier : List ObjectId}
    (soundSeen : ∀ object, seen.contains object = true → graph.Reaches object)
    (soundFrontier : ∀ object ∈ frontier, graph.Reaches object) {object : ObjectId}
    (found : (graph.explore rounds seen frontier).contains object = true) :
    graph.Reaches object := by
  have sound : ∀ other, (seen.addAll frontier).contains other = true →
      graph.Reaches other := fun other member => by
    rcases KeySet.contains_addAll_iff.1 member with new | old
    · exact soundFrontier other new
    · exact soundSeen other old
  induction rounds generalizing seen frontier with
  | zero => exact sound object found
  | succ rounds ih =>
      have soundBeyond : ∀ other ∈ (graph.beyond seen frontier).keys,
          graph.Reaches other := fun other member => by
        obtain ⟨⟨source, inFrontier, leads⟩, -⟩ := mem_beyond.1 member
        exact .step (soundFrontier source inFrontier) leads
      rw [explore_succ] at found
      split at found
      · exact sound object found
      · refine ih sound soundBeyond found fun other member => ?_
        rcases KeySet.contains_addAll_iff.1 member with new | old
        · exact soundBeyond other new
        · exact sound other old

/-- The objects found are the reachable ones. -/
theorem contains_reachable_iff {object : ObjectId} :
    graph.reachable.contains object = true ↔ graph.Reaches object := by
  constructor
  · intro found
    refine reaches_of_contains_explore (fun other seen => ?_) (fun other named => .root named) found
    simp [Table.contains] at seen
  · refine contains_explore ⟨?_, fun other named => .inr named, ?_⟩ ?_
    · intro other _
      rfl
    · intro other seen
      simp [Table.contains] at seen
    · have all : (graph.unseen ∅).length ≤ graph.layouts.keys.length :=
        List.length_filter_le _ _
      simpa [Table.keys, Table.size] using all

end Graph

end ShapeDomain
