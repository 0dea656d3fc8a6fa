import ShapeDomain.Proofs.Exploration.Decisions

/-!
# Links in both directions

Every link of an exploration is recorded at both of its ends: a parent lists its children and a
child its parents, and a node lists what it covers while that names the node that covers it.
`Mutual` says of two such lists that they agree, `linksOf` reads the lists, and cutting a node out
of one pair of lists keeps the pair mutual.
-/

namespace ShapeDomain

/-- A node without its links. -/
def Node.bare {S : Type} (node : Node S) : Node S :=
  { node with parents := [], children := [], coveredBy := none, covers := ∅ }

namespace Exploration

variable {S : Type} {exploration before after : Exploration S} {id other x y : NodeId}

/-! ## Nodes after a change -/

theorem node?_update (change : Node S → Node S) :
    (exploration.update id change).node? other =
      if id = other then (exploration.node? other).map change else exploration.node? other := by
  simp only [update, node?, List.getElem?_modify]
  split <;> simp

theorem node?_addRoot (state : S) :
    (exploration.addRoot state).2.node? other =
      if other = exploration.size then some { state := state } else exploration.node? other := by
  show (exploration.nodes ++ [{ state := state }])[other]? = _
  rcases Nat.lt_trichotomy other exploration.size with before | same | beyond
  · rw [List.getElem?_append_left before, if_neg (Nat.ne_of_lt before), node?]
  · rw [if_pos same, same, size, List.getElem?_concat_length]
  · rw [if_neg (Nat.ne_of_gt beyond), node?, List.getElem?_eq_none (Nat.le_of_lt beyond),
      List.getElem?_eq_none]
    rw [List.length_append]
    exact beyond

theorem node?_updateEach {drop : Node S → Node S}
    (idempotent : ∀ node, drop (drop node) = drop node) (others : List NodeId) :
    (others.foldl (fun exploration other => exploration.update other drop) exploration).node? x =
      (exploration.node? x).map fun node => if x ∈ others then drop node else node := by
  induction others generalizing exploration with
  | nil => simp
  | cons head rest ih =>
      rw [List.foldl_cons, ih, node?_update]
      by_cases same : head = x
      · subst same
        cases exploration.node? head <;> simp [idempotent]
      · simp [same, Ne.symm same]

/-- The links of a node are read off the node; a node that is not there has none. -/
theorem linksOf_eq (links : Node S → List NodeId) :
    exploration.linksOf links x = ((exploration.node? x).map links).getD [] := by
  cases found : exploration.node? x <;> simp [linksOf, found]

theorem linksOf_update {links : Node S → List NodeId} {change : Node S → Node S}
    (kept : ∀ node, links (change node) = links node) :
    (exploration.update id change).linksOf links = exploration.linksOf links := by
  funext x
  rw [linksOf_eq, linksOf_eq, node?_update]
  split
  · simp [Function.comp_def, kept]
  · rfl

theorem linksOf_update_of_some {links : Node S → List NodeId} {change : Node S → Node S}
    {node : Node S} (found : exploration.node? id = some node) :
    (exploration.update id change).linksOf links x =
      if x = id then links (change node) else exploration.linksOf links x := by
  rw [linksOf_eq, linksOf_eq, node?_update]
  by_cases same : x = id
  · simp [same, found]
  · simp [same, Ne.symm same]

theorem linksOf_of_some {links : Node S → List NodeId} {node : Node S}
    (found : exploration.node? id = some node) : exploration.linksOf links id = links node := by
  simp [linksOf, found]

/-- The node that covers the node of a number. -/
def coveredBy? (exploration : Exploration S) (id : NodeId) : Option NodeId :=
  (exploration.node? id).bind Node.coveredBy

theorem linksOf_covering (x : NodeId) :
    exploration.linksOf Node.covering x = (exploration.coveredBy? x).toList := by
  cases found : exploration.node? x <;> simp [linksOf, coveredBy?, found, Node.covering]

theorem mem_covering_iff :
    y ∈ exploration.linksOf Node.covering x ↔ exploration.coveredBy? x = some y := by
  simp [linksOf_covering]

/-! ## Cutting links -/

theorem node?_cut {links : Node S → List NodeId} {clear drop : Node S → Node S}
    (idempotent : ∀ node, drop (drop node) = drop node) :
    (exploration.cut id links clear drop).node? x =
      (exploration.node? x).map fun node =>
        let node := if x = id then clear node else node
        if x ∈ exploration.linksOf links id then drop node else node := by
  rw [cut, node?_updateEach idempotent, node?_update]
  by_cases same : id = x
  · subst same
    simp only [if_true, Option.map_map]
    rfl
  · simp [same, Ne.symm same]

/-! ## Mutual links -/

/-- What is listed one way is listed the other way: a node lists `x` under `there` exactly if `x`
lists that node under `back`. -/
def Mutual (there back : Node S → List NodeId) (exploration : Exploration S) : Prop :=
  ∀ x y, x ∈ exploration.linksOf there y ↔ y ∈ exploration.linksOf back x

theorem Mutual.symm {there back : Node S → List NodeId} (both : exploration.Mutual there back) :
    exploration.Mutual back there :=
  fun x y => (both y x).symm

theorem mutual_empty {there back : Node S → List NodeId} :
    (empty : Exploration S).Mutual there back := by
  intro x y
  simp [linksOf, node?, empty]

theorem Mutual.congr {there back : Node S → List NodeId} (both : before.Mutual there back)
    (same_there : after.linksOf there = before.linksOf there)
    (same_back : after.linksOf back = before.linksOf back) : after.Mutual there back := by
  rw [Mutual, same_there, same_back]
  exact both

/-- A node that is there gains one link by an update. -/
theorem mem_linksOf_update {links : Node S → List NodeId} {change : Node S → Node S} {far : NodeId}
    (present : (exploration.node? id).isSome)
    (gains : ∀ node, exploration.node? id = some node →
      ∀ z, z ∈ links (change node) ↔ z ∈ links node ∨ z = far) :
    y ∈ (exploration.update id change).linksOf links x ↔
      y ∈ exploration.linksOf links x ∨ x = id ∧ y = far := by
  obtain ⟨node, found⟩ := Option.isSome_iff_exists.1 present
  rw [linksOf_update_of_some found]
  split
  case isTrue same => rw [same, linksOf_of_some found, gains node found]; simp
  case isFalse distinct => simp [distinct]

/-- A pair of lists stays mutual when both nodes of a new link list it. -/
theorem Mutual.link {there back : Node S → List NodeId} {near far : NodeId}
    {noteNear noteFar : Node S → Node S} (both : exploration.Mutual there back)
    (nearThere : (exploration.node? near).isSome) (farThere : (exploration.node? far).isSome)
    (gains : ∀ node, exploration.node? near = some node →
      ∀ z, z ∈ there (noteNear node) ↔ z ∈ there node ∨ z = far)
    (near_back : ∀ node, back (noteNear node) = back node)
    (regains : ∀ node z, z ∈ back (noteFar node) ↔ z ∈ back node ∨ z = near)
    (far_there : ∀ node, there (noteFar node) = there node) :
    ((exploration.update near noteNear).update far noteFar).Mutual there back := by
  intro x y
  have farStill : ((exploration.update near noteNear).node? far).isSome := by
    rw [node?_update]
    split <;> simp [farThere]
  rw [linksOf_update far_there, mem_linksOf_update nearThere gains,
    mem_linksOf_update farStill fun node _ => regains node, linksOf_update near_back, both x y,
    and_comm]

/-- How the links that a node lists under `there` are cut: `clear` takes them all from the node, and
`drop` takes the node from the list `back` of another one. -/
structure Cuts (id : NodeId) (there back : Node S → List NodeId) (clear drop : Node S → Node S) :
    Prop where
  /-- A link that was dropped is not there to be dropped again. -/
  idempotent : ∀ node, drop (drop node) = drop node
  /-- The node keeps no link one way. -/
  cleared : ∀ node, there (clear node) = []
  /-- The links of the node the other way stay. -/
  clear_back : ∀ node, back (clear node) = back node
  /-- The links of the other node one way stay. -/
  drop_there : ∀ node, there (drop node) = there node
  /-- The other node loses one link the other way. -/
  mem_drop : ∀ node, id ∈ back node → ∀ y, y ∈ back (drop node) ↔ y ∈ back node ∧ y ≠ id

section Cuts

variable {there back : Node S → List NodeId} {clear drop : Node S → Node S}

theorem Cuts.linksOf_there (cuts : Cuts id there back clear drop) :
    (exploration.cut id there clear drop).linksOf there y =
      if y = id then [] else exploration.linksOf there y := by
  rw [linksOf_eq, linksOf_eq, node?_cut cuts.idempotent]
  cases exploration.node? y with
  | none => simp
  | some node =>
      simp only [Option.map_some, Option.getD_some]
      split <;> split <;> simp [cuts.cleared, cuts.drop_there]

theorem Cuts.mem_linksOf_back (cuts : Cuts id there back clear drop)
    (both : exploration.Mutual there back) :
    y ∈ (exploration.cut id there clear drop).linksOf back x ↔
      y ∈ exploration.linksOf back x ∧ y ≠ id := by
  have listed := both x id
  rw [linksOf_eq, node?_cut cuts.idempotent]
  cases found : exploration.node? x with
  | none => simp [linksOf, found]
  | some node =>
      rw [linksOf_of_some found] at listed ⊢
      simp only [Option.map_some, Option.getD_some]
      have same : back (if x = id then clear node else node) = back node := by
        split
        · exact cuts.clear_back node
        · rfl
      split
      case isTrue linked => rw [cuts.mem_drop _ (same ▸ listed.1 linked), same]
      case isFalse unlinked =>
        rw [same]
        exact ⟨fun member => ⟨member, fun equal => unlinked (listed.2 (equal ▸ member))⟩, And.left⟩

/-- What neither `clear` nor `drop` touches stays. -/
theorem Cuts.map_node? (cuts : Cuts id there back clear drop) {α : Type} {view : Node S → α}
    (cleared : ∀ node, view (clear node) = view node)
    (dropped : ∀ node, view (drop node) = view node) :
    ((exploration.cut id there clear drop).node? x).map view = (exploration.node? x).map view := by
  rw [node?_cut cuts.idempotent, Option.map_map]
  congr 1
  funext node
  simp only [Function.comp]
  split <;> split <;> simp [cleared, dropped]

/-- Cutting links adds none of any kind. -/
theorem Cuts.sublist (cuts : Cuts id there back clear drop) {kind : Node S → List NodeId}
    (cleared : ∀ node, (kind (clear node)).Sublist (kind node))
    (dropped : ∀ node, (kind (drop node)).Sublist (kind node)) :
    ((exploration.cut id there clear drop).linksOf kind x).Sublist
      (exploration.linksOf kind x) := by
  rw [linksOf_eq, linksOf_eq, node?_cut cuts.idempotent]
  cases exploration.node? x with
  | none => exact .refl _
  | some node =>
      simp only [Option.map_some, Option.getD_some]
      split <;> split
      · exact (dropped _).trans (cleared _)
      · exact dropped node
      · exact cleared node
      · exact .refl _

theorem Cuts.linksOf_other (cuts : Cuts id there back clear drop) {kind : Node S → List NodeId}
    (cleared : ∀ node, kind (clear node) = kind node)
    (dropped : ∀ node, kind (drop node) = kind node) :
    (exploration.cut id there clear drop).linksOf kind = exploration.linksOf kind := by
  funext x
  rw [linksOf_eq, linksOf_eq, cuts.map_node? cleared dropped]

/-- A pair of lists stays mutual when a node is cut out of it. -/
theorem Cuts.keeps_mutual (cuts : Cuts id there back clear drop)
    (both : exploration.Mutual there back) :
    (exploration.cut id there clear drop).Mutual there back := by
  intro x y
  rw [cuts.linksOf_there, cuts.mem_linksOf_back both, ← both x y]
  by_cases same : y = id <;> simp [same]

/-- If a node is cut out of both lists of a pair, the links that remain are those between others. -/
theorem Cuts.both_ways {clearBack dropBack : Node S → Node S} (cuts : Cuts id there back clear drop)
    (cutsBack : Cuts id back there clearBack dropBack) (both : exploration.Mutual there back) :
    let after := (exploration.cut id there clear drop).cut id back clearBack dropBack
    after.Mutual there back ∧
      ∀ x y, x ∈ after.linksOf there y ↔ x ∈ exploration.linksOf there y ∧ x ≠ id ∧ y ≠ id := by
  have between := cuts.keeps_mutual both
  refine ⟨(cutsBack.keeps_mutual between.symm).symm, fun x y => ?_⟩
  rw [cutsBack.mem_linksOf_back between.symm, cuts.linksOf_there]
  by_cases same : y = id <;> simp [same]

end Cuts

theorem cuts_parents (id : NodeId) :
    Cuts id (@Node.parents S) Node.children (fun node => { node with parents := [] })
      fun parent => { parent with children := parent.children.filter (· != id) } where
  idempotent node := by simp
  cleared _ := rfl
  clear_back _ := rfl
  drop_there _ := rfl
  mem_drop node _ y := by simp

theorem cuts_children (id : NodeId) :
    Cuts id (@Node.children S) Node.parents (fun node => { node with children := [] })
      fun child => { child with parents := child.parents.filter (· != id) } where
  idempotent node := by simp
  cleared _ := rfl
  clear_back _ := rfl
  drop_there _ := rfl
  mem_drop node _ y := by simp

theorem cuts_covered (id : NodeId) :
    Cuts id (@Node.covered S) Node.covering (fun node => { node with covers := ∅ })
      fun covered => { covered with coveredBy := none } where
  idempotent _ := rfl
  cleared _ := rfl
  clear_back _ := rfl
  drop_there _ := rfl
  mem_drop node covering y := by
    have same : node.coveredBy = some id := by simpa [Node.covering] using covering
    simp [Node.covering, same, eq_comm]

theorem cuts_covering (id : NodeId) :
    Cuts id (@Node.covering S) Node.covered (fun node => { node with coveredBy := none })
      fun covering => { covering with covers := covering.covers.erase id } where
  idempotent node := by
    congr 1
    refine Table.ext_get? fun key => ?_
    by_cases same : key = id
    · rw [same, Table.get?_erase_self, Table.get?_erase_self]
    · rw [Table.get?_erase_of_ne _ same]
  cleared _ := rfl
  clear_back _ := rfl
  drop_there _ := rfl
  mem_drop node _ y := by
    rw [Node.covered, Node.covered, Table.mem_keys_iff, Table.mem_keys_iff, Table.contains,
      Table.contains]
    by_cases same : y = id
    · simp [same, Table.get?_erase_self]
    · simp [same, Table.get?_erase_of_ne]

/-- Cutting links changes nothing but links. -/
theorem bare_apart (exploration : Exploration S) (id x : NodeId) :
    (((((exploration.cutParents id).cutChildren id).cutCovered id).cutCovering id).node? x).map
      Node.bare = (exploration.node? x).map Node.bare :=
  calc
    _ = ((((exploration.cutParents id).cutChildren id).cutCovered id).node? x).map Node.bare :=
      (cuts_covering id).map_node? (fun _ => rfl) fun _ => rfl
    _ = (((exploration.cutParents id).cutChildren id).node? x).map Node.bare :=
      (cuts_covered id).map_node? (fun _ => rfl) fun _ => rfl
    _ = ((exploration.cutParents id).node? x).map Node.bare :=
      (cuts_children id).map_node? (fun _ => rfl) fun _ => rfl
    _ = (exploration.node? x).map Node.bare :=
      (cuts_parents id).map_node? (fun _ => rfl) fun _ => rfl

/-- Removing a node changes nothing but links and the mark of the node itself. -/
theorem bare_remove (exploration : Exploration S) (id x : NodeId) :
    ((exploration.remove id).node? x).map Node.bare =
      (exploration.node? x).map fun node =>
        if x = id then { node.bare with removed := true } else node.bare := by
  have apart := bare_apart exploration id x
  rw [remove, node?_update]
  by_cases same : id = x
  · rw [if_pos same, Option.map_map]
    simp only [same, if_true] at apart ⊢
    simpa [Function.comp_def, Node.bare] using
      congrArg (Option.map fun node => { node with removed := true }) apart
  · simp [same, Ne.symm same, apart]

/-! ## Coverage -/

/-- What covers a node and what is covered by it agree. -/
abbrev Coverage (exploration : Exploration S) : Prop :=
  exploration.Mutual Node.covered Node.covering

theorem coverage_of_setCovered (both : before.Coverage) (present : (before.node? id).isSome)
    (covering : (before.node? other).isSome) (recorded : before.setCovered id other = .ok after) :
    after.Coverage := by
  obtain ⟨uncovered, -, rfl⟩ := setCovered_eq_ok_iff.1 recorded
  refine Mutual.symm (Mutual.link both.symm present covering ?_ ?_ ?_ ?_)
  · intro node found z
    have alone : node.coveredBy = none := by
      simpa [isCovered, found, Node.isCovered] using uncovered
    simp [Node.covering, alone, eq_comm]
  · exact fun _ => rfl
  · intro node z
    simp [Node.covered, Table.mem_keys_iff, KeySet.contains_add, or_comm]
  · exact fun _ => rfl

/-- After a node was removed, the coverage that remains is that between others. -/
theorem remove_coverage (both : exploration.Coverage) (id : NodeId) :
    (exploration.remove id).Coverage ∧
      ∀ x y, x ∈ (exploration.remove id).linksOf Node.covered y ↔
        x ∈ exploration.linksOf Node.covered y ∧ x ≠ id ∧ y ≠ id := by
  let relatives := (exploration.cutParents id).cutChildren id
  have covered : relatives.linksOf Node.covered = exploration.linksOf Node.covered :=
    ((cuts_children id).linksOf_other (fun _ => rfl) fun _ => rfl).trans
      ((cuts_parents id).linksOf_other (fun _ => rfl) fun _ => rfl)
  have covering : relatives.linksOf Node.covering = exploration.linksOf Node.covering :=
    ((cuts_children id).linksOf_other (fun _ => rfl) fun _ => rfl).trans
      ((cuts_parents id).linksOf_other (fun _ => rfl) fun _ => rfl)
  obtain ⟨apart, remaining⟩ :=
    (cuts_covered id).both_ways (cuts_covering id) (both.congr covered covering)
  have removed (kind : Node S → List NodeId)
      (flag : ∀ node : Node S, kind { node with removed := true } = kind node) :
      (exploration.remove id).linksOf kind =
        ((relatives.cutCovered id).cutCovering id).linksOf kind := linksOf_update flag
  refine ⟨apart.congr (removed _ fun _ => rfl) (removed _ fun _ => rfl), fun x y => ?_⟩
  rw [removed Node.covered fun _ => rfl, ← covered]
  exact remaining x y

/-- A removed node is covered no longer, and what it covered is not either. -/
theorem coveredBy?_remove (both : exploration.Coverage) (x : NodeId) :
    (exploration.remove id).coveredBy? x =
      if x = id then none else (exploration.coveredBy? x).filter (· != id) := by
  obtain ⟨after, remaining⟩ := remove_coverage both id
  refine Option.ext fun y => ?_
  rw [← mem_covering_iff, ← after, remaining, both, mem_covering_iff]
  by_cases same : x = id <;> simp [same, Option.filter_eq_some_iff]

/-! ## Operations -/

theorem linksOf_of_setCovered {links : Node S → List NodeId}
    (coveredBy : ∀ node covering, links { node with coveredBy := covering } = links node)
    (covers : ∀ node set, links { node with covers := set } = links node)
    (recorded : before.setCovered id other = .ok after) :
    after.linksOf links = before.linksOf links := by
  obtain ⟨-, -, rfl⟩ := setCovered_eq_ok_iff.1 recorded
  exact (linksOf_update fun _ => covers _ _).trans (linksOf_update fun _ => coveredBy _ _)

theorem linksOf_addRoot {links : Node S → List NodeId} (state : S)
    (alone : links { state := state } = []) :
    (exploration.addRoot state).2.linksOf links = exploration.linksOf links := by
  funext x
  rw [linksOf_eq, linksOf_eq, node?_addRoot]
  split
  case isTrue new =>
    have absent : exploration.node? x = none := by simp [new, node?, size]
    simp [absent, alone]
  case isFalse => rfl

theorem linksOf_addParent {links : Node S → List NodeId} (child parent : NodeId)
    (parents : ∀ node list, links { node with parents := list } = links node)
    (children : ∀ node list, links { node with children := list } = links node) :
    (exploration.addParent child parent).linksOf links = exploration.linksOf links := by
  unfold addParent
  split
  case isTrue => rfl
  case isFalse =>
    exact (linksOf_update fun _ => children _ _).trans (linksOf_update fun _ => parents _ _)

theorem setCovered_keeps {kept : Exploration S → Prop} {supply : Supply}
    (recorded : ∀ {next : Exploration S}, exploration.setCovered id other = .ok next → kept next)
    (start : kept exploration) :
    Run.Ends (Run.attempt fun exploration => exploration.setCovered id other) (exploration, supply)
      (fun _ there => kept there.1) (fun _ there => kept there.1) := by
  refine (recorded_ends other).mono (fun _ _ done => recorded done.1) ?_
  rintro _ ⟨after, now⟩ ⟨rfl, -⟩
  exact start

/-- What recording coverage and removing nodes keep, deciding to stop keeps. -/
theorem stop_keeps [Explorable S] {kept : Exploration S → Prop} {operator : StopOperator S}
    {options : Options} {element : NodeId} {reached : List NodeId} {supply : Supply}
    (recorded : ∀ {here next : Exploration S} {id covering : NodeId}, kept here →
      (here.node? id).isSome → (here.node? covering).isSome →
      here.setCovered id covering = .ok next → kept next)
    (removed : ∀ {here : Exploration S} {id : NodeId}, kept here → kept (here.remove id))
    (start : kept exploration) :
    Run.Ends (stop operator options element reached) (exploration, supply)
      (fun _ there => kept there.1) (fun _ there => kept there.1) := by
  refine stop_ends.mono ?_ ?_
  · rintro verdict ⟨after, now⟩ ⟨-, ⟨-, -, rfl⟩ | ⟨node, found, -, decision⟩⟩
    · exact start
    · have present : (exploration.node? element).isSome := by simp [found]
      cases decision with
      | explored => exact start
      | absorbed => exact removed start
      | marked _ _ there _ _ done => exact recorded start present (by simp [there]) done
      | covered _ there _ _ _ done => exact recorded start present (by simp [there]) done
      | replaced _ there _ _ _ _ done =>
          exact removed (recorded start present (by simp [there]) done)
  · rintro _ ⟨after, now⟩ ⟨rfl, -⟩
    exact start

/-- An operation keeps coverage mutual, if the nodes are there that it covers itself. -/
theorem Operation.coverage [Explorable S] {operation : Operation S} {supply : Supply}
    (present : ∀ id covering, operation = .setCovered id covering →
      (before.node? id).isSome ∧ (before.node? covering).isSome)
    (both : before.Coverage) : (operation.perform.finish (before, supply)).1.Coverage := by
  cases operation with
  | addRoot state => exact both.congr (linksOf_addRoot state rfl) (linksOf_addRoot state rfl)
  | addChild parent state =>
      have added : (before.addRoot state).2.Coverage :=
        both.congr (linksOf_addRoot state rfl) (linksOf_addRoot state rfl)
      exact added.congr (linksOf_addParent _ _ (fun _ _ => rfl) fun _ _ => rfl)
        (linksOf_addParent _ _ (fun _ _ => rfl) fun _ _ => rfl)
  | addParent child parent =>
      exact both.congr (linksOf_addParent _ _ (fun _ _ => rfl) fun _ _ => rfl)
        (linksOf_addParent _ _ (fun _ _ => rfl) fun _ _ => rfl)
  | setMergedInto id into =>
      exact both.congr (linksOf_update fun _ => rfl) (linksOf_update fun _ => rfl)
  | setEligible id eligible =>
      exact both.congr (linksOf_update fun _ => rfl) (linksOf_update fun _ => rfl)
  | setCovered id covering =>
      obtain ⟨idThere, coveringThere⟩ := present id covering rfl
      refine Run.Ends.finish (fun there => Coverage there.1) ((setCovered_keeps ?_ both).bind ?_)
      · exact fun recorded => coverage_of_setCovered both idThere coveringThere recorded
      · exact fun _ _ both => Run.ends_pure both
  | remove id => exact (remove_coverage both _).1
  | stop operator options element reached =>
      refine Run.Ends.finish (fun there => Coverage there.1) ((stop_keeps ?_ ?_ both).bind ?_)
      · exact fun both there covering recorded =>
          coverage_of_setCovered both there covering recorded
      · exact fun both => (remove_coverage both _).1
      · exact fun _ _ both => Run.ends_pure both

end Exploration

end ShapeDomain
