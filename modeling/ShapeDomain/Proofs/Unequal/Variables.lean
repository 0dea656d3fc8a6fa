import ShapeDomain.Proofs.Unequal.Values

/-!
# Pairing variables for the record

Before anything is joined, the variables of two graphs are paired.  Each pair gets a counterpart of
its own, under the name of both objects or a new one, and the variables of the destination name the
counterparts of those of the same name.  Two variables may name one object; then they are paired
with two that name one object as well.
-/

namespace ShapeDomain

namespace Join

variable {left right : Graph} {start now later depth : Nat} {here : Progress × Supply}
variable {pairs : List ObjectPair} {declare : Declare} {scope : String → Variable} {link : Link}
variable {map : Correspondence} {source dest : ObjectId}

/-- A variable was put into a graph in which a number of functions run. -/
structure Introduced (name : Variable) (id : ObjectId) (depth : Nat)
    (graph next : Graph) : Prop where
  /-- The same number of functions run. -/
  running : next.stack.length = depth
  /-- The inequalities are the same. -/
  inequalities : next.inequalities = graph.inequalities
  /-- Addresses lead where they led. -/
  targets : ∀ value, next.target? value = graph.target? value
  /-- The variable has its name, and the others have theirs. -/
  named : ∀ other, next.named? other = if other = name then some id else graph.named? other

theorem Introduced.setValid {name : Variable} {id other : ObjectId} {valid : Bool}
    {graph next last : Graph} (introduced : Introduced name id depth graph next)
    (done : next.setValid other valid = .ok last) : Introduced name id depth graph last := by
  obtain ⟨old, -, rfl⟩ := (next.setValid_eq_ok_iff).1 done
  exact
    { introduced with
      named := fun which => (@Graph.named?_congr next _ rfl rfl which).trans
        (introduced.named which) }

/-- A way of putting the variables of a scope into an orderly graph. -/
structure Declaring (declare : Declare) (scope : String → Variable) (depth : Nat) : Prop where
  /-- The graph stays orderly. -/
  admits : Admits declare
  /-- The variable gets its name. -/
  introduced : ∀ {name id object graph next}, graph.stack.length = depth →
    declare name id object graph = .ok next → Introduced (scope name) id depth graph next

theorem declaring_global :
    Declaring (fun name id object graph => .ok (graph.declareGlobal name id object)) .global 0 where
  admits := admits_global
  introduced {name id object graph next} running done := by
    obtain rfl := Except.ok.inj done
    exact ⟨running, rfl, fun _ => rfl, Graph.named?_declareGlobal name id object⟩

theorem declaring_local (depth : Nat) :
    Declaring (fun name id object graph => graph.declareLocal name id object) (.inner depth)
      (depth + 1) where
  admits := admits_local
  introduced {name id object graph next} running done := by
    have named := Graph.named?_declareLocal done running
    obtain ⟨frame, outer, stack, rfl⟩ := Graph.declareLocal_eq_ok done
    rw [stack] at running
    exact ⟨running, rfl, fun _ => rfl, named⟩

/-- Some variables were paired, and nothing else was done. -/
structure Pairing (left right : Graph) (start : Nat) (pairs : List ObjectPair)
    (here : Progress × Supply) : Prop where
  /-- The supply moves on. -/
  started : start ≤ here.2.next
  /-- The left graph is the same. -/
  same1 : here.1.left = left
  /-- So is the right graph. -/
  same2 : here.1.right = right
  /-- Left objects have counterparts of their own. -/
  distinct1 : Distinct start here.2.next here.1.leftMap
  /-- So have right ones. -/
  distinct2 : Distinct start here.2.next here.1.rightMap
  /-- The pairs have their counterparts. -/
  paired : ∀ pair ∈ pairs, here.1.leftMap.object? pair.object1 = some pair.dest ∧
    here.1.rightMap.object? pair.object2 = some pair.dest
  /-- The variables of the destination name counterparts of those of the same name. -/
  names : ∀ {name image}, here.1.dest.named? name = some image → ∃ pair ∈ pairs,
    pair.dest = image ∧ left.named? name = some pair.object1 ∧ right.named? name = some pair.object2
  /-- No left value has a counterpart. -/
  values1 : ∀ value, here.1.leftMap.value? value = none
  /-- Nor has a right one. -/
  values2 : ∀ value, here.1.rightMap.value? value = none
  /-- No values are joined. -/
  joined : here.1.joined = ∅
  /-- Only zero is an address. -/
  pointers : ∀ {value place}, here.1.dest.target? value = some place → value = .zero
  /-- There are no inequalities. -/
  related : here.1.dest.inequalities = ∅

namespace Pairing

/-- Two variables of the same name get their counterpart. -/
theorem withPair (pairing : Pairing left right start pairs here) {next : Graph} {now : Supply}
    {id : ObjectId} (after : here.2.next ≤ now.next) (early : id.index < now.next)
    (old : link.1.2.index < start) (name : (id = link.1.2 ∧ id = link.2.2) ∨ here.2.next ≤ id.index)
    (introduced : Introduced (scope link.1.1) id depth here.1.dest next)
    (named1 : left.named? (scope link.1.1) = some link.1.2)
    (named2 : right.named? (scope link.1.1) = some link.2.2)
    (allows1 : Allows here.1.leftMap.object? link.1.2 id)
    (allows2 : Allows here.1.rightMap.object? link.2.2 id) :
    Pairing left right start (pairs ++ [⟨link.1.2, link.2.2, id⟩])
      ({ here.1 with dest := next }.withPair link.1.2 link.2.2 id, now) := by
  have kept {map : Correspondence} {source object image : ObjectId}
      (allows : Allows map.object? source id) (mapped : map.object? object = some image) :
      (map.setObject source id).object? object = some image := by
    rw [Correspondence.object?_setObject]
    split
    case isTrue same =>
      subst same
      rcases allows with none | same
      · simp [mapped] at none
      · exact same.symm.trans mapped
    case isFalse => exact mapped
  have self (map : Correspondence) (source : ObjectId) :
      (map.setObject source id).object? source = some id := by
    rw [Correspondence.object?_setObject, if_pos rfl]
  exact
    { started := Nat.le_trans pairing.started after
      same1 := pairing.same1
      same2 := pairing.same2
      distinct1 := pairing.distinct1.setObject after early
        (name.imp And.left (Nat.le_trans pairing.started))
        (pairing.distinct1.source_of_name (name.imp_left fun own => ⟨own.1, old⟩))
      distinct2 := pairing.distinct2.setObject after early
        (name.imp And.right (Nat.le_trans pairing.started))
        (pairing.distinct2.source_of_name
          (name.imp_left fun ⟨own1, own2⟩ => ⟨own2, own2.symm.trans own1 ▸ old⟩))
      paired := fun pair member => by
        rcases List.mem_append.1 member with member | isLast
        · exact (pairing.paired pair member).imp (kept allows1) (kept allows2)
        · obtain rfl := List.mem_singleton.1 isLast
          exact ⟨self _ _, self _ _⟩
      names := fun {other image} named => by
        replace named : next.named? other = some image := named
        rw [introduced.named] at named
        split at named
        case isTrue same =>
          subst same
          exact ⟨_, List.mem_append_right _ List.mem_cons_self, Option.some.inj named,
            named1, named2⟩
        case isFalse =>
          obtain ⟨pair, member, facts⟩ := pairing.names named
          exact ⟨pair, List.mem_append_left _ member, facts⟩
      values1 := pairing.values1
      values2 := pairing.values2
      joined := pairing.joined
      pointers := fun leads => pairing.pointers ((introduced.targets _).symm.trans leads)
      related := introduced.inequalities.trans pairing.related }

/-- Pairing two variables of the same name. -/
theorem matchVariable (pairing : Pairing left right start pairs here) (starting : Starting here)
    (objects : ∀ {id}, left.hasObject id = true → id.index < start)
    (declaring : Declaring declare scope depth) (running : here.1.dest.stack.length = depth)
    (named1 : left.named? (scope link.1.1) = some link.1.2)
    (named2 : right.named? (scope link.1.1) = some link.2.2) :
    Run.Passes (Join.matchVariable declare link.1.1 link.1.2 link.2.2) here fun found there =>
      Starting there ∧ ∀ pair, found = some pair →
        Pairing left right start (pairs ++ [pair]) there ∧ there.1.dest.stack.length = depth := by
  refine Run.Passes.and (starting.matchVariable declaring.admits link.1.1 link.1.2 link.2.2) ?_
  unfold Join.matchVariable
  refine Run.passes_demand fun source1 found1 => Run.passes_demand fun source2 _ =>
    Run.ends_bind_of_ok (Run.state_apply _) ?_
  have present := Graph.hasObject_of_object? ((Graph.object_eq_ok_iff _).1 found1)
  dsimp only
  split
  case isTrue => exact Run.ends_pure (by simp)
  case isFalse =>
    refine ((starting.objectName present).and
      (Ledger.objectName_own_or_drawn here link.1.2 link.2.2)).bind ?_
    rintro id ⟨_, now⟩ ⟨⟨-, rfl, early, -, -⟩, after, name⟩
    let Added (there : Progress × Supply) : Prop := ∃ next,
      there = ({ here.1 with dest := next }, now) ∧
        Introduced (scope link.1.1) id depth here.1.dest next
    refine Run.ends_bind (fun _ => Added) (passes_attemptDest fun next done =>
      ⟨next, rfl, declaring.introduced running done⟩) ?_
    rintro _ _ ⟨added, rfl, introduced⟩
    refine Run.ends_bind (fun _ => Added) (passes_attemptDest fun next done =>
      ⟨next, rfl, introduced.setValid done⟩) ?_
    rintro _ _ ⟨next, rfl, introduced⟩
    refine Run.ends_bind (fun _ there =>
        Pairing left right start (pairs ++ [⟨link.1.2, link.2.2, id⟩]) there ∧
          there.1.dest.stack.length = depth)
      (passes_pairObjects_of_allows fun allows1 allows2 => ⟨pairing.withPair after early
        (objects (pairing.same1 ▸ present)) name introduced named1 named2 allows1 allows2,
        introduced.running⟩) ?_
    rintro _ there ⟨pairing, running⟩
    refine Run.ends_pure ?_
    rintro _ ⟨⟩
    exact ⟨pairing, running⟩

/-- Pairing variables of the same names one after the other. -/
theorem matchEach (pairing : Pairing left right start pairs here) (starting : Starting here)
    (objects : ∀ {id}, left.hasObject id = true → id.index < start)
    (declaring : Declaring declare scope depth) (running : here.1.dest.stack.length = depth)
    {links : List Link} (named : ∀ link ∈ links, left.named? (scope link.1.1) = some link.1.2 ∧
      right.named? (scope link.1.1) = some link.2.2) :
    Run.Passes (Join.matchEach declare links) here fun found there =>
      Starting there ∧ ∀ more, found = some more →
        Pairing left right start (pairs ++ more) there ∧ there.1.dest.stack.length = depth := by
  induction links generalizing here pairs with
  | nil =>
      refine Run.ends_pure ⟨starting, ?_⟩
      rintro _ ⟨⟩
      exact ⟨(List.append_nil pairs).symm ▸ pairing, running⟩
  | cons link rest ih =>
      obtain ⟨named1, named2⟩ := named link List.mem_cons_self
      unfold Join.matchEach
      refine (pairing.matchVariable starting objects declaring running named1 named2).bind ?_
      rintro (_ | pair) middle ⟨starting, matched⟩
      · exact Run.ends_pure ⟨starting, by simp⟩
      · obtain ⟨pairing, running⟩ := matched pair rfl
        refine (ih pairing starting running fun other member =>
          named other (List.mem_cons_of_mem _ member)).bind ?_
        rintro found there ⟨starting, matched⟩
        refine Run.ends_pure ⟨starting, fun more isMore => ?_⟩
        obtain ⟨later, rfl, rfl⟩ := Option.map_eq_some_iff.1 isMore
        simpa using matched later rfl

/-- Pairing the variables of two scopes. -/
theorem matchScopes (pairing : Pairing left right start pairs here) (starting : Starting here)
    (objects : ∀ {id}, left.hasObject id = true → id.index < start)
    (declaring : Declaring declare scope depth) (running : here.1.dest.stack.length = depth)
    {scope1 scope2 : Table String ObjectId}
    (scope1_eq : ∀ name, left.named? (scope name) = scope1.get? name)
    (scope2_eq : ∀ name, right.named? (scope name) = scope2.get? name) :
    Run.Passes (Join.matchScopes declare scope1 scope2) here fun found there =>
      Starting there ∧ ∀ more, found = some more →
        Pairing left right start (pairs ++ more) there ∧ there.1.dest.stack.length = depth := by
  unfold Join.matchScopes
  split
  case isFalse => exact Run.ends_pure ⟨starting, by simp⟩
  case isTrue same =>
    refine pairing.matchEach starting objects declaring running fun link member => ?_
    have inside := List.of_mem_zip member
    constructor
    · rw [scope1_eq]
      exact Table.mem_toList_iff.1 inside.1
    · rw [scope2_eq, Table.fst_eq_of_mem_zip same member]
      exact Table.mem_toList_iff.1 inside.2

/-- A function is entered. -/
theorem enter (pairing : Pairing left right start pairs here) (function : String) :
    Pairing left right start pairs ({ here.1 with dest := here.1.dest.enter function }, here.2) :=
  { pairing with
    names := fun named => pairing.names ((Graph.named?_enter function _).symm.trans named) }

/-- Pairing the variables of the functions from some depth on. -/
theorem matchFrames (pairing : Pairing left right start pairs here) (starting : Starting here)
    (objects : ∀ {id}, left.hasObject id = true → id.index < start)
    {frames : List (Frame × Frame)} (running : here.1.dest.stack.length = depth)
    (frames1 : left.frames.drop depth = frames.map Prod.fst)
    (frames2 : right.frames.drop depth = frames.map Prod.snd) :
    Run.Passes (Join.matchFrames frames) here fun found there =>
      Starting there ∧ ∀ more, found = some more →
        Pairing left right start (pairs ++ more) there := by
  induction frames generalizing depth here pairs with
  | nil =>
      refine Run.ends_pure ⟨starting, ?_⟩
      rintro _ ⟨⟩
      exact (List.append_nil pairs).symm ▸ pairing
  | cons both rest ih =>
      obtain ⟨frame1, frame2⟩ := both
      have isFrame1 : left.frames[depth]? = some frame1 := by
        rw [← List.head?_drop, frames1]
        rfl
      have isFrame2 : right.frames[depth]? = some frame2 := by
        rw [← List.head?_drop, frames2]
        rfl
      unfold Join.matchFrames
      split
      case isTrue => exact Run.ends_pure ⟨starting, by simp⟩
      case isFalse =>
        refine Run.ends_bind_of_ok (modifyDest_apply _ _) ?_
        have entered : Starting
            ({ here.1 with dest := here.1.dest.enter frame1.function }, here.2) :=
          { starting.withDest (starting.dest.enter _) fun present => present with
            bare := starting.bare }
        refine ((pairing.enter frame1.function).matchScopes entered objects (declaring_local depth)
          (congrArg (· + 1) running) (fun name => by simp [Graph.named?, isFrame1])
          fun name => by simp [Graph.named?, isFrame2]).bind ?_
        rintro (_ | found) middle ⟨starting, matched⟩
        · exact Run.ends_pure ⟨starting, by simp⟩
        · obtain ⟨pairing, running⟩ := matched found rfl
          refine (ih pairing starting running (by simpa using congrArg List.tail frames1)
            (by simpa using congrArg List.tail frames2)).bind ?_
          rintro found' there ⟨starting, matched⟩
          refine Run.ends_pure ⟨starting, fun more isMore => ?_⟩
          obtain ⟨later, rfl, rfl⟩ := Option.map_eq_some_iff.1 isMore
          simpa using matched later rfl

/-- Pairing all variables. -/
theorem matchVariables (pairing : Pairing left right start [] here) (starting : Starting here)
    (objects : ∀ {id}, left.hasObject id = true → id.index < start)
    (running : here.1.dest.stack.length = 0) :
    Run.Passes Join.matchVariables here fun found there =>
      Starting there ∧ ∀ pairs, found = some pairs → Pairing left right start pairs there := by
  unfold Join.matchVariables
  refine Run.ends_bind_of_ok (Run.state_apply _) ?_
  dsimp only
  rw [pairing.same1, pairing.same2]
  refine (pairing.matchScopes starting objects declaring_global running (fun _ => rfl)
    fun _ => rfl).bind ?_
  rintro (_ | globals) middle ⟨starting, matched⟩
  · exact Run.ends_pure ⟨starting, by simp⟩
  · obtain ⟨pairing, running⟩ := matched globals rfl
    dsimp only
    split
    case isTrue => exact Run.ends_pure ⟨starting, by simp⟩
    case isFalse length =>
      have length := not_ne_iff.1 length
      refine (@matchFrames _ _ _ 0 _ _ pairing starting objects _ running
        (List.map_fst_zip (Nat.le_of_eq length)).symm
        (List.map_snd_zip (Nat.le_of_eq length.symm)).symm).bind ?_
      rintro found there ⟨starting, matched⟩
      refine Run.ends_pure ⟨starting, fun pairs isPairs => ?_⟩
      obtain ⟨later, rfl, rfl⟩ := Option.map_eq_some_iff.1 isPairs
      exact matched later rfl

end Pairing

end Join

end ShapeDomain
