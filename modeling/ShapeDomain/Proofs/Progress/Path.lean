import Mathlib.Data.List.Nodup
import ShapeDomain.Proofs.Progress.Meeting

/-!
# The path of a join

The objects that are being joined form a path: each leads to the next one, and but for the first one
no variable names them.  A folding that was found below the end of such a path can only take away a
node of the path if the path closes to a ring in both graphs.
-/

namespace ShapeDomain

namespace Join

variable {basis : Basis} {path waiting rest : List ObjectPair} {here : Progress × Supply}
variable {pair child other : ObjectPair}

/-- A pair of objects can be joined next: the pair that is being joined leads to it, and it neither
has a name nor is being joined itself. -/
structure Next (basis : Basis) (path : List ObjectPair) (child : ObjectPair) : Prop where
  /-- The pair that is being joined leads to it. -/
  leads : ∃ pair, path.head? = some pair ∧ basis.left.Leads pair.object1 child.object1 ∧
    basis.right.Leads pair.object2 child.object2
  /-- The left object has no name. -/
  unnamed1 : basis.left.Unnamed child.object1
  /-- Neither has the right object. -/
  unnamed2 : basis.right.Unnamed child.object2
  /-- The left object is not being joined. -/
  new1 : ∀ pair ∈ path, pair.object1 ≠ child.object1
  /-- Neither is the right object. -/
  new2 : ∀ pair ∈ path, pair.object2 ≠ child.object2

/-- The pairs of objects that are being joined, the innermost one first. -/
inductive Path (basis : Basis) : List ObjectPair → Prop where
  /-- Only a pair of variables is being joined. -/
  | root (pair : ObjectPair) : Path basis [pair]
  /-- An object that the innermost one leads to is being joined. -/
  | down {path : List ObjectPair} {child : ObjectPair} :
      Path basis path → Next basis path child → Path basis (child :: path)

/-- The way back to an object closes to a ring. -/
theorem ring_of_chain {graph : Graph} {nodes : List ObjectId} {first last : ObjectId}
    (three : 3 ≤ (first :: nodes).length) (distinct : (first :: nodes).Nodup)
    (chain : (first :: nodes).IsChain fun node before => graph.Leads before node)
    (isLast : (first :: nodes).getLast? = some last) (closed : graph.Leads first last)
    (unnamed : ∀ node ∈ first :: nodes, graph.Unnamed node) :
    graph.Ring (first :: nodes).reverse where
  three := by rwa [List.length_reverse]
  distinct := List.nodup_reverse.2 distinct
  chain := by
    rw [List.isChain_reverse]
    exact chain
  closed := ⟨last, first, by rw [List.head?_reverse, isLast], by simp, closed⟩
  unnamed node member := unnamed node (List.mem_reverse.1 member)

/-- The part of a path down from one of its pairs, listed upwards. -/
structure Segment (basis : Basis) (nodes : List ObjectPair) (top : ObjectPair) : Prop where
  /-- It ends at this pair. -/
  isTop : nodes.getLast? = some top
  /-- The left objects are different. -/
  distinct1 : (nodes.map ObjectPair.object1).Nodup
  /-- So are the right ones. -/
  distinct2 : (nodes.map ObjectPair.object2).Nodup
  /-- Each left object is led to by the one after it. -/
  chain1 : (nodes.map ObjectPair.object1).IsChain fun node before => basis.left.Leads before node
  /-- So is each right one. -/
  chain2 : (nodes.map ObjectPair.object2).IsChain fun node before => basis.right.Leads before node
  /-- All but the last one have no names. -/
  unnamed : ∀ pair ∈ nodes.dropLast, basis.left.Unnamed pair.object1 ∧
    basis.right.Unnamed pair.object2

theorem Segment.single (basis : Basis) (pair : ObjectPair) : Segment basis [pair] pair where
  isTop := rfl
  distinct1 := List.nodup_singleton _
  distinct2 := List.nodup_singleton _
  chain1 := .singleton _
  chain2 := .singleton _
  unnamed := by simp

/-- A segment can be continued downwards. -/
theorem Segment.cons {nodes : List ObjectPair} {top : ObjectPair}
    (segment : Segment basis nodes top) (inside : ∀ pair ∈ nodes, pair ∈ path)
    (start : nodes.head? = path.head?) (next : Next basis path child) :
    Segment basis (child :: nodes) top := by
  obtain ⟨pair, isHead, leads1, leads2⟩ := next.leads
  obtain ⟨rest, rfl⟩ : ∃ rest, nodes = pair :: rest := by
    rw [isHead] at start
    exact ⟨nodes.tail, (List.cons_head?_tail start).symm⟩
  refine ⟨by simpa using segment.isTop, ?_, ?_, ?_, ?_, ?_⟩
  · rw [List.map_cons, List.nodup_cons]
    refine ⟨fun member => ?_, segment.distinct1⟩
    obtain ⟨other, isOther, same⟩ := List.mem_map.1 member
    exact next.new1 other (inside other isOther) same
  · rw [List.map_cons, List.nodup_cons]
    refine ⟨fun member => ?_, segment.distinct2⟩
    obtain ⟨other, isOther, same⟩ := List.mem_map.1 member
    exact next.new2 other (inside other isOther) same
  · exact .cons_cons leads1 segment.chain1
  · exact .cons_cons leads2 segment.chain2
  · intro other member
    rw [List.dropLast_cons_of_ne_nil (List.cons_ne_nil _ _)] at member
    rcases List.mem_cons.1 member with rfl | member
    · exact ⟨next.unnamed1, next.unnamed2⟩
    · exact segment.unnamed other member

/-- From each pair of a path a segment leads down to the innermost one. -/
theorem Path.exists_segment (isPath : Path basis path) {top : ObjectPair} (member : top ∈ path) :
    ∃ nodes, nodes.head? = path.head? ∧ (∀ pair ∈ nodes, pair ∈ path) ∧
      Segment basis nodes top := by
  induction isPath with
  | root pair =>
      obtain rfl := List.mem_singleton.1 member
      exact ⟨[top], rfl, fun _ same => same, .single basis top⟩
  | @down path child _ next ih =>
      rcases List.mem_cons.1 member with rfl | member
      · exact ⟨[top], rfl, by simp, .single basis top⟩
      · obtain ⟨nodes, start, inside, segment⟩ := ih member
        refine ⟨child :: nodes, rfl, fun pair isNode => ?_, segment.cons inside start next⟩
        rcases List.mem_cons.1 isNode with rfl | isNode
        · exact List.mem_cons_self
        · exact List.mem_cons_of_mem _ (inside pair isNode)

/-- A child that leads back to a pair of the path other than the innermost one closes rings in both
graphs, if this pair has no names. -/
theorem Path.rings (isPath : Path basis path) (next : Next basis path child) {top : ObjectPair}
    (member : top ∈ path) (inner : path.head? ≠ some top)
    (unnamed1 : basis.left.Unnamed top.object1) (unnamed2 : basis.right.Unnamed top.object2)
    (back1 : basis.left.Leads child.object1 top.object1)
    (back2 : basis.right.Leads child.object2 top.object2) :
    ¬ basis.left.Ringless ∧ ¬ basis.right.Ringless := by
  obtain ⟨nodes, start, inside, segment⟩ := isPath.exists_segment member
  have wider := segment.cons inside start next
  have two : 2 ≤ nodes.length := by
    have isTop := segment.isTop
    match nodes with
    | [] => simp at isTop
    | [only] =>
        simp only [List.getLast?_singleton, Option.some.injEq] at isTop
        subst isTop
        exact absurd start.symm inner
    | _ :: _ :: _ => simp
  have nameless (pair : ObjectPair) (isNode : pair ∈ child :: nodes) :
      basis.left.Unnamed pair.object1 ∧ basis.right.Unnamed pair.object2 := by
    rw [← List.dropLast_append_getLast? top wider.isTop, List.mem_append,
      List.mem_singleton] at isNode
    rcases isNode with isNode | rfl
    · exact wider.unnamed pair isNode
    · exact ⟨unnamed1, unnamed2⟩
  constructor
  · intro ringless
    refine ringless (child.object1 :: nodes.map ObjectPair.object1).reverse
      (ring_of_chain ?_ wider.distinct1 wider.chain1 ?_ back1 fun node isNode => ?_)
    · simp only [List.length_cons, List.length_map]
      omega
    · rw [← List.map_cons (f := ObjectPair.object1), List.getLast?_map, wider.isTop]
      rfl
    · obtain ⟨pair, isPair, rfl⟩ := List.mem_map.1
        (show node ∈ (child :: nodes).map ObjectPair.object1 from isNode)
      exact (nameless pair isPair).1
  · intro ringless
    refine ringless (child.object2 :: nodes.map ObjectPair.object2).reverse
      (ring_of_chain ?_ wider.distinct2 wider.chain2 ?_ back2 fun node isNode => ?_)
    · simp only [List.length_cons, List.length_map]
      omega
    · rw [← List.map_cons (f := ObjectPair.object2), List.getLast?_map, wider.isTop]
      rfl
    · obtain ⟨pair, isPair, rfl⟩ := List.mem_map.1
        (show node ∈ (child :: nodes).map ObjectPair.object2 from isNode)
      exact (nameless pair isPair).2

/-- A folding that was found at the counterpart of a pair that was joined below the path. -/
structure Offers (basis : Basis) (path : List ObjectPair) (here : Progress × Supply)
    (fold : Fold) : Prop where
  /-- List nodes may be folded. -/
  folds : basis.Folds
  /-- The name of the node was drawn. -/
  early : fold.head.index < here.2.next
  /-- If it is shared, then the object that has it has a counterpart. -/
  shared : fold.head.index < basis.start → (here.1.leftMap.object? fold.head).isSome = true
  /-- The node is the counterpart of a pair below the path, as long as it is there. -/
  child : ∃ child, Next basis path child ∧ (here.1.dest.hasObject fold.head = true →
    here.1.leftMap.object? child.object1 = some fold.head ∧
      here.1.rightMap.object? child.object2 = some fold.head)

/-- An offer stands while the join moves on. -/
theorem Offers.onward {lays fills kept : List ObjectPair} {there : Progress × Supply} {fold : Fold}
    (offers : Offers basis path here fold) (onward : Onward basis lays fills kept here there) :
    Offers basis path there fold where
  folds := offers.folds
  early := Nat.lt_of_lt_of_le offers.early onward.time
  shared isShared := by
    obtain ⟨image, mapped⟩ := Option.isSome_iff_exists.1 (offers.shared isShared)
    exact (onward.leftMap mapped).1
  child := by
    obtain ⟨child, next, mapped⟩ := offers.child
    refine ⟨child, next, fun last => ?_⟩
    have present : here.1.dest.hasObject fold.head = true := by
      rcases onward.new last with present | late | ⟨isShared, unmapped⟩
      · exact present
      · exact absurd offers.early (Nat.not_lt_of_le late)
      · have isSome := offers.shared isShared
        rw [unmapped] at isSome
        simp at isSome
    obtain ⟨mapped1, mapped2⟩ := mapped present
    exact ⟨(onward.leftMap mapped1).2 last, (onward.rightMap mapped2).2 last⟩

end Join

end ShapeDomain
