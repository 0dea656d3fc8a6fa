import Mathlib.Data.List.Nodup
import ShapeDomain.Proofs.Exploration.Links

/-!
# The links of an exploration

In every history the links of an exploration agree: parents and children are listed by each other
and once, and what a node covers names it.  The operations update the four lists by hand, so each of
them is shown to keep the agreement, also for nodes that are their own parents or cover themselves.
A removed node is mentioned nowhere.
-/

namespace ShapeDomain

namespace Exploration

variable {S : Type} {exploration before after : Exploration S} {id child parent x : NodeId}

/-- The links of an exploration agree. -/
structure Linked (exploration : Exploration S) : Prop where
  /-- The parents of a node are those that list it as a child. -/
  family : ∀ parent child, parent ∈ exploration.linksOf Node.parents child ↔
    child ∈ exploration.linksOf Node.children parent
  /-- No parent is listed twice. -/
  parents : ∀ x, (exploration.linksOf Node.parents x).Nodup
  /-- No child is listed twice. -/
  children : ∀ x, (exploration.linksOf Node.children x).Nodup
  /-- A node covers those that it is said to cover. -/
  coverage : ∀ x y, x ∈ exploration.linksOf Node.covered y ↔ exploration.coveredBy? x = some y

theorem Linked.covers (linked : exploration.Linked) : exploration.Coverage := by
  intro x y
  rw [mem_covering_iff]
  exact linked.coverage x y

theorem linked_of_covers (family : exploration.Mutual Node.parents Node.children)
    (parents : ∀ x, (exploration.linksOf Node.parents x).Nodup)
    (children : ∀ x, (exploration.linksOf Node.children x).Nodup) (covers : exploration.Coverage) :
    exploration.Linked :=
  ⟨family, parents, children, fun x y => (covers x y).trans mem_covering_iff⟩

theorem linked_empty : Linked (empty : Exploration S) :=
  linked_of_covers mutual_empty (by simp [linksOf, node?, empty]) (by simp [linksOf, node?, empty])
    mutual_empty

/-- A change of other things than relatives and coverage keeps the links. -/
theorem Linked.congr (linked : before.Linked)
    (parents : after.linksOf Node.parents = before.linksOf Node.parents)
    (children : after.linksOf Node.children = before.linksOf Node.children)
    (covers : after.Coverage) : after.Linked :=
  linked_of_covers (Mutual.congr linked.family parents children)
    (fun x => congrFun parents x ▸ linked.parents x)
    (fun x => congrFun children x ▸ linked.children x) covers

/-! ## One change -/

theorem Linked.addRoot (linked : exploration.Linked) (state : S) :
    (exploration.addRoot state).2.Linked :=
  linked.congr (linksOf_addRoot state rfl) (linksOf_addRoot state rfl)
    (linked.covers.congr (linksOf_addRoot state rfl) (linksOf_addRoot state rfl))

/-- A link that was not listed is not listed twice once it is added. -/
theorem nodup_linksOf_update {links : Node S → List NodeId} {change : Node S → Node S}
    {far : NodeId} (nodup : ∀ x, (exploration.linksOf links x).Nodup)
    (unlisted : far ∉ exploration.linksOf links id)
    (appends : ∀ node, links (change node) = links node ++ [far]) (x : NodeId) :
    ((exploration.update id change).linksOf links x).Nodup := by
  rw [linksOf_eq, node?_update]
  split
  case isFalse => exact linksOf_eq links ▸ nodup x
  case isTrue same =>
    subst same
    cases found : exploration.node? id with
    | none => simp
    | some node =>
        have nodup := nodup id
        rw [linksOf_of_some found] at nodup unlisted
        simp only [Option.map_some, Option.getD_some, appends]
        exact List.concat_eq_append ▸ List.Nodup.concat unlisted nodup

theorem addParent_of_mem (listed : parent ∈ exploration.linksOf Node.parents child) :
    exploration.addParent child parent = exploration := by
  cases found : exploration.node? child with
  | none => simp [linksOf, found] at listed
  | some node =>
      rw [linksOf_of_some found] at listed
      simp [addParent, found, listed]

theorem addParent_of_not_mem (unlisted : parent ∉ exploration.linksOf Node.parents child) :
    exploration.addParent child parent =
      (exploration.update child fun node =>
        { node with parents := node.parents ++ [parent] }).update
        parent fun node => { node with children := node.children ++ [child] } := by
  cases found : exploration.node? child with
  | none => simp [addParent, found]
  | some node =>
      rw [linksOf_of_some found] at unlisted
      simp [addParent, found, unlisted]

/-- A parent that is not listed yet is added to one list, and the child to the other one. -/
theorem Linked.addParent (linked : exploration.Linked)
    (childThere : (exploration.node? child).isSome)
    (parentThere : (exploration.node? parent).isSome) :
    (exploration.addParent child parent).Linked := by
  have covers : (exploration.addParent child parent).Coverage :=
    linked.covers.congr (linksOf_addParent _ _ (fun _ _ => rfl) fun _ _ => rfl)
      (linksOf_addParent _ _ (fun _ _ => rfl) fun _ _ => rfl)
  by_cases listed : parent ∈ exploration.linksOf Node.parents child
  case pos => rwa [addParent_of_mem listed]
  case neg =>
    have family : (exploration.addParent child parent).Mutual Node.parents Node.children := by
      rw [addParent_of_not_mem listed]
      refine Mutual.link linked.family childThere parentThere ?_ (fun _ => rfl) ?_ fun _ => rfl
      · simp
      · simp
    have unlisting : child ∉ exploration.linksOf Node.children parent :=
      fun member => listed ((linked.family parent child).2 member)
    rw [addParent_of_not_mem listed] at covers family ⊢
    refine linked_of_covers family ?_ ?_ covers
    · rw [linksOf_update fun node => by rfl]
      exact nodup_linksOf_update linked.parents listed fun _ => rfl
    · refine nodup_linksOf_update (fun x => ?_) ?_ fun _ => rfl
      · rw [linksOf_update fun node => by rfl]
        exact linked.children x
      · rw [linksOf_update fun node => by rfl]
        exact unlisting

theorem Linked.setCovered {covering : NodeId} (linked : before.Linked)
    (idThere : (before.node? id).isSome) (coveringThere : (before.node? covering).isSome)
    (recorded : before.setCovered id covering = .ok after) : after.Linked :=
  linked.congr (linksOf_of_setCovered (fun _ _ => rfl) (fun _ _ => rfl) recorded)
    (linksOf_of_setCovered (fun _ _ => rfl) (fun _ _ => rfl) recorded)
    (coverage_of_setCovered linked.covers idThere coveringThere recorded)

/-- Links to relatives are cut before coverage is. -/
theorem linksOf_remove {kind : Node S → List NodeId}
    (covers : ∀ node set, kind { node with covers := set } = kind node)
    (coveredBy : ∀ node covering, kind { node with coveredBy := covering } = kind node)
    (removed : ∀ node, kind { node with removed := true } = kind node) :
    (exploration.remove id).linksOf kind =
      ((exploration.cutParents id).cutChildren id).linksOf kind :=
  calc
    _ = ((((exploration.cutParents id).cutChildren id).cutCovered id).cutCovering
          id).linksOf kind :=
      linksOf_update removed
    _ = (((exploration.cutParents id).cutChildren id).cutCovered id).linksOf kind :=
      (cuts_covering id).linksOf_other (fun _ => coveredBy _ _) fun _ => covers _ _
    _ = ((exploration.cutParents id).cutChildren id).linksOf kind :=
      (cuts_covered id).linksOf_other (fun _ => covers _ _) fun _ => coveredBy _ _

/-- After a node was removed, the relatives that remain are those among others. -/
theorem remove_family (family : exploration.Mutual Node.parents Node.children) (id : NodeId) :
    (exploration.remove id).Mutual Node.parents Node.children ∧
      ∀ x y, x ∈ (exploration.remove id).linksOf Node.parents y ↔
        x ∈ exploration.linksOf Node.parents y ∧ x ≠ id ∧ y ≠ id := by
  obtain ⟨apart, remaining⟩ := (cuts_parents id).both_ways (cuts_children id) family
  have parents : (exploration.remove id).linksOf Node.parents = _ :=
    linksOf_remove (fun _ _ => rfl) (fun _ _ => rfl) fun _ => rfl
  have children : (exploration.remove id).linksOf Node.children = _ :=
    linksOf_remove (fun _ _ => rfl) (fun _ _ => rfl) fun _ => rfl
  refine ⟨apart.congr parents children, fun x y => ?_⟩
  rw [parents]
  exact remaining x y

theorem parents_remove_sublist (id x : NodeId) :
    ((exploration.remove id).linksOf Node.parents x).Sublist
      (exploration.linksOf Node.parents x) := by
  rw [linksOf_remove (fun _ _ => rfl) (fun _ _ => rfl) fun _ => rfl]
  refine ((cuts_children id).sublist (fun _ => ?_) fun _ => ?_).trans
    ((cuts_parents id).sublist (fun _ => ?_) fun _ => ?_)
  · exact .refl _
  · exact List.filter_sublist
  · exact List.nil_sublist _
  · exact .refl _

theorem children_remove_sublist (id x : NodeId) :
    ((exploration.remove id).linksOf Node.children x).Sublist
      (exploration.linksOf Node.children x) := by
  rw [linksOf_remove (fun _ _ => rfl) (fun _ _ => rfl) fun _ => rfl]
  refine ((cuts_children id).sublist (fun _ => ?_) fun _ => ?_).trans
    ((cuts_parents id).sublist (fun _ => ?_) fun _ => ?_)
  · exact List.nil_sublist _
  · exact .refl _
  · exact .refl _
  · exact List.filter_sublist

theorem Linked.remove (linked : exploration.Linked) (id : NodeId) :
    (exploration.remove id).Linked :=
  linked_of_covers (remove_family linked.family id).1
    (fun x => (linked.parents x).sublist (parents_remove_sublist id x))
    (fun x => (linked.children x).sublist (children_remove_sublist id x))
    (remove_coverage linked.covers id).1

/-! ## Histories of operations -/

/-- The nodes that an operation links with others, apart from those that it adds. -/
def Operation.linked : Operation S → List NodeId
  | .addChild parent _ => [parent]
  | .addParent child parent => [child, parent]
  | .setCovered id covering => [id, covering]
  | _ => []

/-- Every operation keeps the links, if the nodes that it links are there. -/
theorem Linked.perform [Explorable S] {operation : Operation S} {supply : Supply}
    (present : ∀ id ∈ operation.linked, (before.node? id).isSome) (linked : before.Linked) :
    (operation.perform.finish (before, supply)).1.Linked := by
  cases operation with
  | addRoot state => exact linked.addRoot state
  | addChild parent state =>
      have parentThere : (before.node? parent).isSome := present parent (by simp [Operation.linked])
      refine (linked.addRoot state).addParent ?_ ?_
      · simp [node?_addRoot]
      · rw [node?_addRoot]
        split <;> simp [parentThere]
  | addParent child parent =>
      exact linked.addParent (present child (by simp [Operation.linked]))
        (present parent (by simp [Operation.linked]))
  | setMergedInto id into =>
      exact linked.congr (linksOf_update fun _ => rfl) (linksOf_update fun _ => rfl)
        (linked.covers.congr (linksOf_update fun _ => rfl) (linksOf_update fun _ => rfl))
  | setEligible id eligible =>
      exact linked.congr (linksOf_update fun _ => rfl) (linksOf_update fun _ => rfl)
        (linked.covers.congr (linksOf_update fun _ => rfl) (linksOf_update fun _ => rfl))
  | setCovered id covering =>
      have idThere := present id (by simp [Operation.linked])
      have coveringThere := present covering (by simp [Operation.linked])
      refine Run.Ends.finish (fun there => Linked there.1) ((setCovered_keeps ?_ linked).bind ?_)
      · exact fun recorded => linked.setCovered idThere coveringThere recorded
      · exact fun _ _ linked => Run.ends_pure linked
  | remove id => exact linked.remove id
  | stop operator options element reached =>
      refine Run.Ends.finish (fun there => Linked there.1) ((stop_keeps ?_ ?_ linked).bind ?_)
      · exact fun linked idThere coveringThere recorded =>
          linked.setCovered idThere coveringThere recorded
      · exact fun linked => linked.remove _
      · exact fun _ _ linked => Run.ends_pure linked

/-- A removed node is mentioned by no node, itself included. -/
theorem Linked.remove_mentions (linked : exploration.Linked) {node : Node S}
    (found : (exploration.remove id).node? x = some node) :
    id ∉ node.parents ∧ id ∉ node.children ∧ id ∉ node.covered ∧ node.coveredBy ≠ some id := by
  have after := linked.remove id
  have family := (remove_family linked.family id).2
  have coverage := (remove_coverage linked.covers id).2
  have parents : id ∉ (exploration.remove id).linksOf Node.parents x := by simp [family]
  have children : id ∉ (exploration.remove id).linksOf Node.children x := by
    rw [← after.family]
    simp [family]
  have covered : id ∉ (exploration.remove id).linksOf Node.covered x := by simp [coverage]
  have covering : (exploration.remove id).coveredBy? x ≠ some id := by
    rw [Ne, ← after.coverage]
    simp [coverage]
  rw [linksOf_of_some found] at parents children covered
  rw [coveredBy?, found, Option.bind_some] at covering
  exact ⟨parents, children, covered, covering⟩

/-- In every history that links nodes that are there, the links agree, and removing a node leaves no
mention of it. -/
theorem linked_history [Explorable S] (operations : List (Operation S)) (supply : Supply)
    (permits : Run.Permits Operation.perform
      (fun operation here => ∀ id ∈ operation.linked, (here.1.node? id).isSome)
      operations (empty, supply)) :
    let found := (Run.history Operation.perform operations (empty, supply)).1
    found.Linked ∧ ∀ id x node, (found.remove id).node? x = some node →
      id ∉ node.parents ∧ id ∉ node.children ∧ id ∉ node.covered ∧ node.coveredBy ≠ some id := by
  have linked := permits.keeps (fun there => Linked there.1) linked_empty
    fun _ _ present linked => linked.perform present
  exact ⟨linked, fun _ _ _ found => linked.remove_mentions found⟩

/-- Three intervals, the second of which is its own parent and child, covers the third one and is
covered by the first one. -/
def entangled : List (Operation Interval) :=
  [.addRoot ⟨0, 10, false⟩, .addChild 0 ⟨0, 5, false⟩, .addChild 1 ⟨1, 2, false⟩, .addParent 1 1,
    .addParent 2 0, .addParent 2 1, .setCovered 2 1, .stop Interval.enclosure {} 1 [0]]

/-- All the links of the second interval are cut when it is removed. -/
theorem linked_history_entangled :
    let found := (Run.history Operation.perform entangled (empty, .full)).1
    (found.linksOf Node.parents 1 = [0, 1] ∧ found.linksOf Node.children 1 = [2, 1] ∧
      found.linksOf Node.covered 1 = [2] ∧ found.coveredBy? 1 = some 0) ∧
    found.Linked ∧ ∀ id x node, (found.remove id).node? x = some node →
      id ∉ node.parents ∧ id ∉ node.children ∧ id ∉ node.covered ∧ node.coveredBy ≠ some id := by
  refine ⟨⟨rfl, rfl, rfl, rfl⟩, linked_history entangled .full ?_⟩
  exact ⟨by decide, by decide, by decide, by decide, by decide, by decide, by decide,
    by decide, trivial⟩

end Exploration

end ShapeDomain
