import Mathlib.Data.List.Chain
import ShapeDomain.Proofs.Progress.Invariant

/-!
# How a join moves on

A part of a join leaves most of what was there as it is.  Objects that have counterparts keep one,
joint values stay, and an object of the destination stays as it is unless it is folded.
-/

namespace ShapeDomain

namespace Graph

variable {graph next : Graph} {id : ObjectId}

theorem hasObject_of_isList (list : graph.isList id = true) : graph.hasObject id = true := by
  unfold isList at list
  cases found : graph.object? id with
  | none => simp [found] at list
  | some object => exact hasObject_of_object? found

theorem isList_congr (same : next.object? id = graph.object? id) :
    next.isList id = graph.isList id := by
  rw [isList, same, isList]

/-! ### Rings -/

/-- A field of an object holds an address in another object. -/
def Leads (graph : Graph) (object next : ObjectId) : Prop :=
  ∃ range value target, graph.valueAt? object range = some value ∧
    Join.address? graph value = some target ∧ target.object = next

/-- At least three objects without names, each of which leads to the next one, and the last one to
the first. -/
structure Ring (graph : Graph) (nodes : List ObjectId) : Prop where
  /-- There are at least three. -/
  three : 3 ≤ nodes.length
  /-- They are different. -/
  distinct : nodes.Nodup
  /-- Each leads to the next one. -/
  chain : nodes.IsChain graph.Leads
  /-- The last leads to the first. -/
  closed : ∃ first last, nodes.head? = some first ∧ nodes.getLast? = some last ∧
    graph.Leads last first
  /-- None of them has a name. -/
  unnamed : ∀ node ∈ nodes, graph.Unnamed node

/-- There are no rings. -/
def Ringless (graph : Graph) : Prop :=
  ∀ nodes, ¬ graph.Ring nodes

/-- Where everything leads upwards, there are no rings. -/
theorem ringless_of_rank {rank : ObjectId → Nat}
    (upwards : ∀ {object next}, graph.Leads object next → rank object < rank next) :
    graph.Ringless := by
  intro nodes ring
  obtain ⟨first, last, isFirst, isLast, closed⟩ := ring.closed
  have back : rank last < rank first := upwards closed
  obtain ⟨between, rfl⟩ := List.head?_eq_some_iff.1 isFirst
  have ordered : (first :: between).Pairwise fun object next => rank object < rank next :=
    (ring.chain.imp fun _ _ leads => upwards leads).pairwise
  rcases List.mem_cons.1 (List.mem_of_getLast? isLast) with rfl | inside
  · exact Nat.lt_irrefl _ back
  · exact Nat.lt_asymm back (List.rel_of_pairwise_cons ordered inside)

end Graph

namespace Join

/-- Folding cannot harm: no list nodes are folded, or one of the graphs has no rings. -/
def Basis.Safe (basis : Basis) : Prop :=
  basis.Folds → basis.left.Ringless ∨ basis.right.Ringless

/-- A part of a join has run.  It may have changed the layouts of the pairs of `lays` and filled the
counterparts of the pairs of `fills`, and the counterparts of the pairs of `kept` are safe from
being folded. -/
structure Onward (basis : Basis) (lays fills kept : List ObjectPair)
    (here there : Progress × Supply) : Prop where
  /-- The supply moves on. -/
  time : here.2.next ≤ there.2.next
  /-- Left objects that have counterparts keep their layouts. -/
  leftLayout : ∀ {id}, (here.1.leftMap.object? id).isSome = true →
    (∀ pair ∈ lays, id ≠ pair.object1) → there.1.left.layout id = here.1.left.layout id
  /-- So do such right ones. -/
  rightLayout : ∀ {id}, (here.1.rightMap.object? id).isSome = true →
    (∀ pair ∈ lays, id ≠ pair.object2) → there.1.right.layout id = here.1.right.layout id
  /-- Joint values stay. -/
  joined : ∀ {values value}, here.1.joined.get? values = some value →
    there.1.joined.get? values = some value
  /-- Left objects keep their counterparts, as long as these are there. -/
  leftMap : ∀ {id image}, here.1.leftMap.object? id = some image →
    (there.1.leftMap.object? id).isSome = true ∧ (there.1.dest.hasObject image = true →
      there.1.leftMap.object? id = some image)
  /-- So do right ones. -/
  rightMap : ∀ {id image}, here.1.rightMap.object? id = some image →
    (there.1.rightMap.object? id).isSome = true ∧ (there.1.dest.hasObject image = true →
      there.1.rightMap.object? id = some image)
  /-- Objects that have the same counterpart keep having the same one. -/
  relates : ∀ {object1 object2}, here.1.Relates object1 object2 → there.1.Relates object1 object2
  /-- An object that is still there is the same. -/
  object : ∀ {id}, here.1.dest.hasObject id = true → there.1.dest.hasObject id = true →
    there.1.dest.objects.get? id = here.1.dest.objects.get? id
  /-- It has the same fields. -/
  layout : ∀ {id}, here.1.dest.hasObject id = true → there.1.dest.hasObject id = true →
    (∀ pair ∈ fills, id ≠ pair.dest) → there.1.dest.layout id = here.1.dest.layout id
  /-- An object that is not there any more was a node of the heap and was folded. -/
  gone : ∀ {id}, here.1.dest.hasObject id = true → there.1.dest.hasObject id = false →
    basis.Folds ∧ here.1.dest.isHeap id = true
  /-- Where folding cannot harm, some objects are still there. -/
  kept : basis.Safe → ∀ pair ∈ kept, here.1.dest.hasObject pair.dest = true →
    there.1.dest.hasObject pair.dest = true
  /-- Other objects have new names, or shared ones. -/
  new : ∀ {id}, there.1.dest.hasObject id = true → here.1.dest.hasObject id = true ∨
    here.2.next ≤ id.index ∨ (id.index < basis.start ∧ here.1.leftMap.object? id = none)
  /-- A graph that is not covered does not become so. -/
  status : there.1.status.leftIsCovered = true → here.1.status.leftIsCovered = true
  /-- The running functions stay. -/
  stack : there.1.dest.stack = here.1.dest.stack
  /-- The global variables stay. -/
  globals : there.1.dest.globals = here.1.dest.globals

variable {basis : Basis} {path waiting lays fills kept : List ObjectPair}
variable {here there final : Progress × Supply}

/-! ### What the invariant says of names -/

namespace Invariant

theorem hasObject_of_left (invariant : Invariant basis path waiting here) {id image : ObjectId}
    (mapped : here.1.leftMap.object? id = some image) : here.1.dest.hasObject image = true :=
  invariant.leftMap.hasObject mapped

theorem hasObject_of_right (invariant : Invariant basis path waiting here) {id image : ObjectId}
    (mapped : here.1.rightMap.object? id = some image) : here.1.dest.hasObject image = true :=
  invariant.rightMap.hasObject mapped

/-- The names of the objects of the destination were drawn. -/
theorem index_lt (invariant : Invariant basis path waiting here) {id : ObjectId}
    (present : here.1.dest.hasObject id = true) : id.index < here.2.next := by
  rcases invariant.objects present with rfl | ⟨early, -⟩
  · exact Nat.lt_of_lt_of_le basis.leftPlain.positive invariant.started
  · exact early

/-- An object that is still to be drawn is not in the destination. -/
theorem hasObject_of_next (invariant : Invariant basis path waiting here) :
    here.1.dest.hasObject ⟨here.2.next⟩ = false := by
  cases present : here.1.dest.hasObject ⟨here.2.next⟩ with
  | false => rfl
  | true => exact absurd (invariant.index_lt present) (Nat.lt_irrefl _)

/-- An object of the destination with a shared name is the counterpart of the one that has it. -/
theorem leftMap_of_shared (invariant : Invariant basis path waiting here) {id : ObjectId}
    (present : here.1.dest.hasObject id = true) (proper : id ≠ .null)
    (early : id.index < basis.start) : here.1.leftMap.object? id = some id := by
  obtain ⟨-, ⟨object, mapped⟩, -⟩ := (invariant.objects present).resolve_left proper
  rw [← invariant.leftMap.shared mapped early] at mapped
  exact mapped

/-- Without folding no list segments are made. -/
theorem isList_eq_false (invariant : Invariant basis path waiting here) (still : ¬ basis.Folds)
    (id : ObjectId) : here.1.dest.isList id = false := by
  unfold Graph.isList
  cases found : here.1.dest.object? id with
  | none => rfl
  | some object =>
      by_cases proper : id = .null
      · subst proper
        rw [Graph.object?, invariant.dest.null] at found
        obtain rfl := Option.some.inj found
        rfl
      · rcases (invariant.kinds found proper).2 with region | ⟨-, folds⟩
        · simp [region, Kind.isList]
        · exact absurd folds still

end Invariant

/-! ### Composition -/

namespace Onward

variable {path' waiting' : List ObjectPair}

/-- An object that is there at the end was there in between. -/
theorem between (invariant : Invariant basis path waiting here)
    (middle : Invariant basis path' waiting' there)
    (first : Onward basis lays fills kept here there)
    (second : Onward basis lays fills kept there final) {id : ObjectId}
    (present : here.1.dest.hasObject id = true) (last : final.1.dest.hasObject id = true) :
    there.1.dest.hasObject id = true := by
  have early := invariant.index_lt present
  rcases second.new last with between | late | ⟨shared, unmapped⟩
  · exact between
  · have := first.time
    omega
  · by_cases proper : id = .null
    · subst proper
      exact middle.dest.hasObject_null
    · have mapped := (first.leftMap (invariant.leftMap_of_shared present proper shared)).1
      rw [unmapped] at mapped
      simp at mapped

theorem trans (invariant : Invariant basis path waiting here)
    (first : Onward basis lays fills kept here there)
    (middle : Invariant basis path' waiting' there)
    (second : Onward basis lays fills kept there final) :
    Onward basis lays fills kept here final where
  time := Nat.le_trans first.time second.time
  leftLayout {id} mapped apart := by
    obtain ⟨image, isImage⟩ := Option.isSome_iff_exists.1 mapped
    exact (second.leftLayout (first.leftMap isImage).1 apart).trans (first.leftLayout mapped apart)
  rightLayout {id} mapped apart := by
    obtain ⟨image, isImage⟩ := Option.isSome_iff_exists.1 mapped
    exact (second.rightLayout (first.rightMap isImage).1 apart).trans
      (first.rightLayout mapped apart)
  joined isJoint := second.joined (first.joined isJoint)
  leftMap {id image} mapped := by
    obtain ⟨stays, same⟩ := first.leftMap mapped
    obtain ⟨image', isImage⟩ := Option.isSome_iff_exists.1 stays
    refine ⟨(second.leftMap isImage).1, fun last => ?_⟩
    have between := first.between invariant middle second (invariant.hasObject_of_left mapped) last
    exact (second.leftMap (same between)).2 last
  rightMap {id image} mapped := by
    obtain ⟨stays, same⟩ := first.rightMap mapped
    obtain ⟨image', isImage⟩ := Option.isSome_iff_exists.1 stays
    refine ⟨(second.rightMap isImage).1, fun last => ?_⟩
    have between := first.between invariant middle second (invariant.hasObject_of_right mapped) last
    exact (second.rightMap (same between)).2 last
  relates related := second.relates (first.relates related)
  object present last := by
    have between := first.between invariant middle second present last
    exact (second.object between last).trans (first.object present between)
  layout present last apart := by
    have between := first.between invariant middle second present last
    exact (second.layout between last apart).trans (first.layout present between apart)
  gone {id} present absent := by
    cases between : there.1.dest.hasObject id with
    | true =>
        obtain ⟨folds, heap⟩ := second.gone between absent
        rw [Graph.isHeap, first.object present between] at heap
        exact ⟨folds, heap⟩
    | false => exact first.gone present between
  kept safe pair member present :=
    second.kept safe pair member (first.kept safe pair member present)
  new {id} present := by
    rcases second.new present with between | late | ⟨shared, unmapped⟩
    · exact first.new between
    · exact .inr (.inl (Nat.le_trans first.time late))
    · refine .inr (.inr ⟨shared, ?_⟩)
      cases mapped : here.1.leftMap.object? id with
      | none => rfl
      | some image =>
          have stays := (first.leftMap mapped).1
          rw [unmapped] at stays
          simp at stays
  status covered := first.status (second.status covered)
  stack := second.stack.trans first.stack
  globals := second.globals.trans first.globals

theorem weaken {lays' fills' kept' : List ObjectPair}
    (onward : Onward basis lays fills kept here there) (moreLays : ∀ pair ∈ lays, pair ∈ lays')
    (moreFills : ∀ pair ∈ fills, pair ∈ fills') (fewer : ∀ pair ∈ kept', pair ∈ kept) :
    Onward basis lays' fills' kept' here there :=
  { onward with
    leftLayout := fun mapped apart =>
      onward.leftLayout mapped fun pair member => apart pair (moreLays pair member)
    rightLayout := fun mapped apart =>
      onward.rightLayout mapped fun pair member => apart pair (moreLays pair member)
    layout := fun present last apart =>
      onward.layout present last fun pair member => apart pair (moreFills pair member)
    kept := fun safe pair member present => onward.kept safe pair (fewer pair member) present }

/-- What a part of a join does to a pair that had no counterpart is nothing new. -/
theorem of_free {pair : ObjectPair} (onward : Onward basis [pair] [pair] kept here there)
    (free1 : here.1.leftMap.object? pair.object1 = none)
    (free2 : here.1.rightMap.object? pair.object2 = none)
    (absent : here.1.dest.hasObject pair.dest = false) :
    Onward basis [] [] kept here there :=
  { onward with
    leftLayout := fun {id} mapped _ => onward.leftLayout mapped fun other member => by
      obtain rfl := List.mem_singleton.1 member
      rintro rfl
      simp [free1] at mapped
    rightLayout := fun {id} mapped _ => onward.rightLayout mapped fun other member => by
      obtain rfl := List.mem_singleton.1 member
      rintro rfl
      simp [free2] at mapped
    layout := fun {id} present last _ => onward.layout present last fun other member => by
      obtain rfl := List.mem_singleton.1 member
      rintro rfl
      simp [absent] at present }

/-- What is not part of the heap stays. -/
theorem stays (onward : Onward basis lays fills kept here there) {id : ObjectId}
    (present : here.1.dest.hasObject id = true) (outside : here.1.dest.isHeap id = false) :
    there.1.dest.hasObject id = true ∧ there.1.dest.isHeap id = false := by
  have last : there.1.dest.hasObject id = true := by
    cases last : there.1.dest.hasObject id with
    | true => rfl
    | false =>
        have heap := (onward.gone present last).2
        rw [outside] at heap
        simp at heap
  refine ⟨last, ?_⟩
  rw [Graph.isHeap, onward.object present last]
  exact outside

/-- A step that changes neither the layouts, nor the counterparts of objects, nor the objects of the
destination. -/
theorem of_same (time : here.2.next ≤ there.2.next)
    (left : there.1.left.layouts = here.1.left.layouts)
    (right : there.1.right.layouts = here.1.right.layouts)
    (leftMap : there.1.leftMap.objects = here.1.leftMap.objects)
    (rightMap : there.1.rightMap.objects = here.1.rightMap.objects)
    (joined : ∀ {values value}, here.1.joined.get? values = some value →
      there.1.joined.get? values = some value)
    (objects : there.1.dest.objects = here.1.dest.objects)
    (layouts : there.1.dest.layouts = here.1.dest.layouts)
    (status : there.1.status.leftIsCovered = true → here.1.status.leftIsCovered = true)
    (stack : there.1.dest.stack = here.1.dest.stack)
    (globals : there.1.dest.globals = here.1.dest.globals) :
    Onward basis lays fills kept here there where
  time := time
  leftLayout _ _ := by rw [Graph.layout, left, Graph.layout]
  rightLayout _ _ := by rw [Graph.layout, right, Graph.layout]
  joined := joined
  leftMap mapped := by
    rw [Correspondence.object?, leftMap]
    exact ⟨Option.isSome_iff_exists.2 ⟨_, mapped⟩, fun _ => mapped⟩
  rightMap mapped := by
    rw [Correspondence.object?, rightMap]
    exact ⟨Option.isSome_iff_exists.2 ⟨_, mapped⟩, fun _ => mapped⟩
  relates {object1 object2} related := by
    unfold Progress.Relates at related ⊢
    rw [Correspondence.object?, Correspondence.object?, leftMap, rightMap]
    exact related
  object _ _ := by rw [objects]
  layout _ _ _ := by rw [Graph.layout, layouts, Graph.layout]
  gone present absent := by
    rw [Graph.hasObject, objects] at absent
    exact absurd (present.symm.trans absent) (by simp)
  kept _ pair _ present := by
    rw [Graph.hasObject, objects]
    exact present
  new present := .inl (by rwa [Graph.hasObject, objects] at present)
  status := status
  stack := stack
  globals := globals

theorem refl (basis : Basis) (lays fills kept : List ObjectPair) (here : Progress × Supply) :
    Onward basis lays fills kept here here :=
  .of_same (Nat.le_refl _) rfl rfl rfl rfl (fun isJoint => isJoint) rfl rfl (fun same => same) rfl
    rfl

/-! ### What stays -/

theorem jointValue? (onward : Onward basis lays fills kept here there) {value1 value2 : ValueId}
    {value : ValueId} (isJoint : Join.jointValue? here.1 value1 value2 = some value) :
    Join.jointValue? there.1 value1 value2 = some value := by
  unfold Join.jointValue? at isJoint ⊢
  split at isJoint
  case isTrue zeros => rw [if_pos zeros]; exact isJoint
  case isFalse proper => rw [if_neg proper]; exact onward.joined isJoint

/-- Objects that are joined stay so, as long as their layouts stay. -/
theorem settled (onward : Onward basis lays fills kept here there) {object1 object2 : ObjectId}
    (settled : Settled basis here.1 object1 object2)
    (mapped1 : (here.1.leftMap.object? object1).isSome = true)
    (mapped2 : (here.1.rightMap.object? object2).isSome = true)
    (apart1 : ∀ pair ∈ lays, object1 ≠ pair.object1)
    (apart2 : ∀ pair ∈ lays, object2 ≠ pair.object2) : Settled basis there.1 object1 object2 := by
  have left (range : BitRange) : there.1.left.valueAt? object1 range =
      here.1.left.valueAt? object1 range :=
    Graph.valueAt?_congr (onward.leftLayout mapped1 apart1) range
  have right (range : BitRange) : there.1.right.valueAt? object2 range =
      here.1.right.valueAt? object2 range :=
    Graph.valueAt?_congr (onward.rightLayout mapped2 apart2) range
  refine ⟨⟨fun range => ?_, fun range => ?_⟩, fun {range value1 value2} held1 held2 => ?_,
    fun covered => settled.whole (onward.status covered)⟩
  · rw [left]
    exact settled.realized.left range
  · rw [right]
    exact settled.realized.right range
  · rw [left] at held1
    rw [right] at held2
    obtain ⟨value, isJoint⟩ := Option.isSome_iff_exists.1 (settled.joint held1 held2)
    rw [onward.jointValue? isJoint]
    rfl

/-- An object that is joined with another one stays so, as long as their layouts stay. -/
theorem partnered (onward : Onward basis lays fills kept here there) {object1 : ObjectId}
    (partnered : Partnered basis here.1 object1) (apart1 : ∀ pair ∈ lays, object1 ≠ pair.object1)
    (apart2 : ∀ {object2}, here.1.Relates object1 object2 → ∀ pair ∈ lays,
      object2 ≠ pair.object2) : Partnered basis there.1 object1 := by
  obtain ⟨object2, related, met, settled⟩ := partnered
  exact ⟨object2, onward.relates related, met,
    onward.settled settled related.left related.right apart1 (apart2 related)⟩

/-- What was stored stays, as long as the layouts stay. -/
theorem filled {pair : ObjectPair} (onward : Onward basis lays fills kept here there)
    (filled : Filled here.1 pair)
    (settled : Settled basis here.1 pair.object1 pair.object2)
    (relates : here.1.Relates pair.object1 pair.object2)
    (apart1 : ∀ other ∈ lays, pair.object1 ≠ other.object1)
    (apart2 : ∀ other ∈ lays, pair.object2 ≠ other.object2)
    (apart : ∀ other ∈ fills, pair.dest ≠ other.dest)
    (before : there.1.dest.hasObject pair.dest = true →
      here.1.dest.hasObject pair.dest = true) : Filled there.1 pair := by
  intro present range value1 value2 value held1 held2 isJoint
  rw [Graph.valueAt?_congr (onward.leftLayout relates.left apart1)] at held1
  rw [Graph.valueAt?_congr (onward.rightLayout relates.right apart2)] at held2
  obtain ⟨old, isJoint'⟩ := Option.isSome_iff_exists.1 (settled.joint held1 held2)
  obtain rfl := Option.some.inj ((onward.jointValue? isJoint').symm.trans isJoint)
  rw [Graph.valueAt?_congr (onward.layout (before present) present apart)]
  exact filled (before present) held1 held2 isJoint'

end Onward

/-! ### Lost links -/

section Tied

variable {origin dest dest' : Graph} {map map' : Correspondence}

/-- Links that were lost stay lost, as long as what has a counterpart keeps it. -/
theorem Detached.mono {object : ObjectId} (detached : Detached origin map dest object)
    (bounds : ∀ {source value}, map.value? source = some value → map'.value? source = some value)
    (lost : ∀ {source value}, map.value? source = some value → dest.target? value = none →
      dest'.target? value = none) : Detached origin map' dest' object := by
  obtain ⟨source, value, leads, bound, none⟩ := detached
  exact ⟨source, value, leads, bounds bound, lost bound none⟩

/-- No link is lost when more gets counterparts, if addresses get addresses, and different objects
different counterparts. -/
theorem Tied.mono (tied : Tied origin map dest)
    (values : ∀ {source value}, map'.value? source = some value → map.value? source = some value ∨
      ∀ {target}, address? origin source = some target → dest'.target? value ≠ none)
    (keeps : ∀ {source value}, map.value? source = some value →
      map'.value? source = some value ∧ dest'.target? value = dest.target? value)
    (images : ∀ {id image}, image? map id = some image →
      image? map' id = some image ∧ dest'.isList image = dest.isList image)
    (objects : ∀ {object other image}, map'.object? object = some image →
      map'.object? other = some image → object = other ∨
        (map.object? object = some image ∧ map.object? other = some image)) :
    Tied origin map' dest' where
  lost bound leads none := by
    rcases values bound with old | address
    · obtain ⟨⟨image, isImage, list⟩, held⟩ := tied.lost old leads ((keeps old).2.symm.trans none)
      obtain ⟨isImage', same⟩ := images isImage
      exact ⟨⟨image, isImage', same.trans list⟩, held⟩
    · exact absurd none (address leads)
  detached first second := by
    have stays {object : ObjectId} (detached : Detached origin map dest object) :
        Detached origin map' dest' object :=
      detached.mono (fun bound => (keeps bound).1) fun bound none => (keeps bound).2.trans none
    rcases objects first second with same | ⟨first, second⟩
    · exact .inl same
    · exact (tied.detached first second).imp_right (Or.imp stays stays)

end Tied

end Join

end ShapeDomain
