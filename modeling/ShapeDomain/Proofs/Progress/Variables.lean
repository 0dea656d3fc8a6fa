import ShapeDomain.Proofs.Join.Scopes
import ShapeDomain.Proofs.Progress.Objects

/-!
# Pairing variables

A join starts by pairing the variables of the same names.  It gives up only when these differ, or
when their objects do.
-/

namespace ShapeDomain

/-! ### Declaring a variable -/

namespace Graph

/-- Two graphs that differ in the names of their variables only. -/
def Renamed (graph next : Graph) : Prop :=
  ∃ stack globals, next = graph.withNames stack globals

/-- Functions of these names run, the outermost one first. -/
def Runs (functions : List String) (graph : Graph) : Prop :=
  graph.frames.map Frame.function = functions

variable {graph next : Graph}

theorem named?_congr (stack : next.stack = graph.stack) (globals : next.globals = graph.globals)
    (name : Variable) : next.named? name = graph.named? name := by
  cases name with
  | global name => rw [named?, named?, globals]
  | inner depth name => rw [named?, named?, frames, frames, stack]

/-- Which variables there are depends on the running functions and the global variables only. -/
theorem SameScopes.congr {other : Graph} (same : other.SameScopes graph)
    (stack : next.stack = graph.stack) (globals : next.globals = graph.globals) :
    other.SameScopes next where
  globals := by rw [same.globals, globals]
  frames := by rw [same.frames, Graph.frames, Graph.frames, stack]

theorem named?_declareGlobal (name : String) (id : ObjectId) (object : Object) (other : Variable) :
    (graph.declareGlobal name id object).named? other =
      if other = .global name then some id else graph.named? other := by
  cases other with
  | global other => simp [named?, declareGlobal, Table.get?_insert]
  | inner depth other => rfl

theorem named?_declareLocal {name : String} {id : ObjectId} {object : Object} {depth : Nat}
    (done : graph.declareLocal name id object = .ok next) (running : graph.stack.length = depth + 1)
    (other : Variable) : next.named? other =
      if other = .inner depth name then some id else graph.named? other := by
  obtain ⟨frame, outer, stack, rfl⟩ := declareLocal_eq_ok done
  obtain rfl : outer.length = depth := by simpa [stack] using running
  cases other with
  | global other => rfl
  | inner depth other =>
      simp only [named?, frames, withNames, stack, List.reverse_cons, Variable.inner.injEq]
      rcases Nat.lt_trichotomy depth outer.length with inside | rfl | beyond
      · rw [List.getElem?_append_left (by simpa using inside),
          List.getElem?_append_left (by simpa using inside), if_neg (by omega)]
      · simp [Table.get?_insert]
      · rw [List.getElem?_eq_none (by simpa using Nat.succ_le_of_lt beyond),
          List.getElem?_eq_none (by simpa using Nat.succ_le_of_lt beyond), if_neg (by omega)]

/-- A function that has just been entered has no variables. -/
theorem named?_enter (function : String) (name : Variable) :
    (graph.enter function).named? name = graph.named? name := by
  cases name with
  | global name => rfl
  | inner depth name =>
      simp only [named?, frames, enter, List.reverse_cons]
      rcases Nat.lt_trichotomy depth graph.stack.length with inside | rfl | beyond
      · rw [List.getElem?_append_left (by simpa using inside)]
      · simp
      · rw [List.getElem?_eq_none (by simpa using Nat.succ_le_of_lt beyond),
          List.getElem?_eq_none (by simpa using Nat.le_of_lt beyond)]

end Graph

namespace Join

variable {basis : Basis} {path waiting waiting' pairs : List ObjectPair} {later : List Link}
variable {here there : Progress × Supply} {declare : Declare} {scope : String → Variable}
variable {usable : Graph → Prop}

/-- A way of putting the variables of a scope into a graph that is usable for that. -/
structure Puts (declare : Declare) (scope : String → Variable) (usable : Graph → Prop) : Prop where
  /-- The variable is put into the graph and gets a name. -/
  puts : ∀ (name : String) {id : ObjectId} (object : Object) {graph : Graph}, graph.Sound →
    graph.hasObject id = false → usable graph → ∃ next, declare name id object graph = .ok next ∧
      Graph.Renamed (graph.putPlacement id ⟨object, true, false⟩) next ∧ next.Sound ∧ usable next ∧
      ∀ other, next.named? other = if other = scope name then some id else graph.named? other
  /-- A graph stays usable when the validity of an object is set. -/
  setValid : ∀ {graph next : Graph} {id : ObjectId} {valid : Bool}, usable graph →
    graph.setValid id valid = .ok next → usable next

theorem puts_global (functions : List String) :
    Puts (fun name id object graph => .ok (graph.declareGlobal name id object))
    .global (Graph.Runs functions) where
  puts name id object graph sound absent running := by
    have same : graph.declareGlobal name id object =
        (graph.putPlacement id ⟨object, true, false⟩).withNames graph.stack
          (graph.globals.insert name id) := by
      rw [Graph.declareGlobal, Graph.addObject_of_absent absent]
      rfl
    refine ⟨_, rfl, ⟨_, _, same⟩, sound.declareGlobal absent, ?_,
      Graph.named?_declareGlobal name id object⟩
    rw [same]
    exact running
  setValid {graph next id valid} running done := by
    obtain ⟨old, -, rfl⟩ := (graph.setValid_eq_ok_iff).1 done
    exact running

theorem puts_local {functions : List String} {depth : Nat} (length : functions.length = depth + 1) :
    Puts (fun name id object graph => graph.declareLocal name id object) (.inner depth)
      (Graph.Runs functions) where
  puts name id object graph sound absent running := by
    have height : graph.stack.length = depth + 1 := by
      rw [← length, ← running]
      simp [Graph.frames]
    obtain ⟨frame, outer, stack⟩ := List.exists_cons_of_length_eq_add_one height
    let frames : List Frame := { frame with locals := frame.locals.insert name id } :: outer
    have done : graph.declareLocal name id object =
        .ok ((graph.addObject id object).withNames frames graph.globals) := by
      rw [Graph.declareLocal, stack]
      rfl
    refine ⟨_, done, ⟨frames, graph.globals, ?_⟩, sound.declareLocal absent done, ?_,
      Graph.named?_declareLocal done height⟩
    · rw [Graph.addObject_of_absent absent]
    · simpa [Graph.Runs, Graph.frames, Graph.withNames, stack, frames] using running
  setValid {graph next id valid} running done := by
    obtain ⟨old, -, rfl⟩ := (graph.setValid_eq_ok_iff).1 done
    exact running

/-! ### The invariant is not about names and order -/

namespace Invariant

/-- It does not matter in which order pairs wait. -/
theorem reorder (invariant : Invariant basis path waiting here)
    (same : ∀ pair, pair ∈ waiting' ↔ pair ∈ waiting) : Invariant basis path waiting' here :=
  have both {pair : ObjectPair} (member : pair ∈ path ++ waiting) : pair ∈ path ++ waiting' := by
    rwa [List.mem_append, same, ← List.mem_append]
  { invariant with
    waits := fun pair member => invariant.waits pair ((same pair).1 member)
    partners :=
      { met := fun pair member => invariant.partners.met pair <| by
          rwa [List.mem_append, ← same, ← List.mem_append]
        joined := fun mapped apart =>
          invariant.partners.joined mapped fun pair member => apart pair (both member)
        covered := invariant.partners.covered }
    exact := fun still =>
      { invariant.exact still with
        held := fun isJoint => by
          obtain ⟨object1, object2, image, range, mapped1, mapped2, apart, held⟩ :=
            (invariant.exact still).held isJoint
          exact ⟨object1, object2, image, range, mapped1, mapped2,
            fun pair member => apart pair ((same pair).1 member), held⟩
        settled := fun mapped1 mapped2 apart =>
          (invariant.exact still).settled mapped1 mapped2 fun pair member =>
            apart pair (both member)
        filled := fun mapped1 mapped2 apart =>
          (invariant.exact still).filled mapped1 mapped2 fun pair member =>
            apart pair (both member) } }

/-- The variables of the destination do not matter. -/
theorem withNames (invariant : Invariant basis path waiting here) {stack : List Frame}
    {globals : Table String ObjectId} (sound : (here.1.dest.withNames stack globals).Sound) :
    Invariant basis path waiting
      ({ here.1 with dest := here.1.dest.withNames stack globals }, here.2) :=
  { invariant with
    leftMap := ⟨invariant.leftMap.source, invariant.leftMap.valid, invariant.leftMap.heap,
      invariant.leftMap.shared, invariant.leftMap.unique⟩
    rightMap := ⟨invariant.rightMap.source, invariant.rightMap.valid, invariant.rightMap.heap,
      invariant.rightMap.shared, invariant.rightMap.unique⟩
    dest := sound
    joined := fun isJoint =>
      have joint := invariant.joined isJoint
      ⟨joint.present, joint.left, joint.right,
        joint.agree.mono rfl rfl rfl (fun same => same) fun same => same⟩
    contents := fun held region => by
      obtain ⟨object1, object2, value1, value2, source⟩ := invariant.contents held region
      exact ⟨object1, object2, value1, value2, source.left, source.right, source.held1,
        source.held2, source.joint⟩
    waits := fun pair member =>
      have isWaiting := invariant.waits pair member
      ⟨isWaiting.left, isWaiting.right, isWaiting.region, isWaiting.empty, isWaiting.layout1,
        isWaiting.layout2⟩
    opens := fun pair member =>
      have isOpen := invariant.opens pair member
      ⟨isOpen.relates, isOpen.early, isOpen.shared, isOpen.present⟩
    partners :=
      { invariant.partners with
        joined := fun mapped apart => by
          obtain ⟨object2, relates, met, settled⟩ := invariant.partners.joined mapped apart
          exact ⟨object2, relates, met, ⟨settled.realized.left, settled.realized.right⟩,
            settled.joint, settled.whole⟩ }
    tied1 := ⟨invariant.tied1.lost, invariant.tied1.detached⟩
    tied2 := ⟨invariant.tied2.lost, invariant.tied2.detached⟩
    exact := fun still =>
      { invariant.exact still with
        held := fun isJoint => by
          obtain ⟨object1, object2, image, range, mapped1, mapped2, apart, realized, held⟩ :=
            (invariant.exact still).held isJoint
          exact ⟨object1, object2, image, range, mapped1, mapped2, apart,
            ⟨realized.left, realized.right⟩, held⟩
        knows := fun isJoint =>
          ((invariant.exact still).knows isJoint).mono rfl rfl fun same => same
        settled := fun mapped1 mapped2 apart =>
          have settled := (invariant.exact still).settled mapped1 mapped2 apart
          ⟨⟨settled.realized.left, settled.realized.right⟩, settled.joint, settled.whole⟩ } }

end Invariant

/-! ### Pairs of variables -/

/-- Some pairs of variables have been paired, and others are still to be paired. -/
structure Matching (basis : Basis) (pairs : List ObjectPair) (links : List Link)
    (here : Progress × Supply) : Prop where
  /-- The pairs wait. -/
  invariant : Invariant basis [] pairs here
  /-- Their counterparts are not part of the heap. -/
  outside : ∀ pair ∈ pairs, Outside here pair.dest
  /-- Nothing else has a counterpart in the left graph. -/
  only1 : ∀ {id}, (here.1.leftMap.object? id).isSome = true → id ∈ pairs.map ObjectPair.object1
  /-- Nor in the right graph. -/
  only2 : ∀ {id}, (here.1.rightMap.object? id).isSome = true → id ∈ pairs.map ObjectPair.object2
  /-- The left objects are different. -/
  distinct1 : (pairs.map ObjectPair.object1 ++ links.map fun link => link.1.2).Nodup
  /-- So are the right ones. -/
  distinct2 : (pairs.map ObjectPair.object2 ++ links.map fun link => link.2.2).Nodup
  /-- The variables of the destination name the counterparts of those of the same name. -/
  names : ∀ {name image}, here.1.dest.named? name = some image → ∃ pair ∈ pairs,
    pair.dest = image ∧ basis.left.named? name = some pair.object1 ∧
      basis.right.named? name = some pair.object2
  /-- No values have been joined. -/
  undecided : here.1.joined = ∅

/-- Some variables have been declared in the destination, and others have stayed. -/
def Declared (names : Variable → Prop) (here there : Progress × Supply) : Prop :=
  ∀ {name}, names name ∨ (here.1.dest.named? name).isSome = true →
    (there.1.dest.named? name).isSome = true

namespace Matching

variable {link : Link}

/-- The next left object has no counterpart. -/
theorem free1 (matching : Matching basis pairs (link :: later) here) :
    here.1.leftMap.object? link.1.2 = none := by
  cases mapped : here.1.leftMap.object? link.1.2 with
  | none => rfl
  | some image =>
      have old := matching.only1 (by rw [mapped]; rfl)
      exact absurd List.mem_cons_self ((List.nodup_append'.1 matching.distinct1).2.2 old)

/-- Neither has the next right one. -/
theorem free2 (matching : Matching basis pairs (link :: later) here) :
    here.1.rightMap.object? link.2.2 = none := by
  cases mapped : here.1.rightMap.object? link.2.2 with
  | none => rfl
  | some image =>
      have old := matching.only2 (by rw [mapped]; rfl)
      exact absurd List.mem_cons_self ((List.nodup_append'.1 matching.distinct2).2.2 old)

/-- No value of the left graph has a counterpart. -/
theorem value?_left (matching : Matching basis pairs later here) (value : ValueId) :
    here.1.leftMap.value? value = none := by
  refine Option.eq_none_iff_forall_ne_some.2 fun found bound => ?_
  obtain ⟨_, isJoint⟩ := matching.invariant.value1 bound
  simp [matching.undecided] at isJoint

/-- Nor has a value of the right graph. -/
theorem value?_right (matching : Matching basis pairs later here) (value : ValueId) :
    here.1.rightMap.value? value = none := by
  refine Option.eq_none_iff_forall_ne_some.2 fun found bound => ?_
  obtain ⟨_, isJoint⟩ := matching.invariant.value2 bound
  simp [matching.undecided] at isJoint

/-- One more pair of variables has been paired. -/
theorem making {id : ObjectId} {dest : Graph} {now : Supply}
    (matching : Matching basis pairs (link :: later) here)
    (making : Making basis here ⟨link.1.2, link.2.2, id⟩ dest now)
    (outside : dest.isHeap id = false) {name : Variable}
    (named1 : basis.left.named? name = some link.1.2)
    (named2 : basis.right.named? name = some link.2.2)
    (named : ∀ other, dest.named? other =
      if other = name then some id else here.1.dest.named? other) :
    Matching basis (pairs ++ [⟨link.1.2, link.2.2, id⟩]) later
      (here.1.making ⟨link.1.2, link.2.2, id⟩ dest, now) where
  invariant := (matching.invariant.making making).reorder fun pair => by
    rw [List.mem_append, List.mem_singleton, List.mem_cons, or_comm]
  outside pair member := by
    rcases List.mem_append.1 member with member | isLast
    · obtain ⟨present, isOutside⟩ := matching.outside pair member
      refine ⟨making.hasObject_iff.2 (.inr present), ?_⟩
      show dest.isHeap pair.dest = false
      rw [Graph.isHeap, making.get?_of_present present]
      exact isOutside
    · obtain rfl := List.mem_singleton.1 isLast
      exact ⟨making.hasObject_iff.2 (.inl rfl), outside⟩
  only1 {other} mapped := by
    simp only [Progress.making, Correspondence.object?_setObject] at mapped
    rw [List.map_append, List.mem_append]
    split at mapped
    case isTrue same => exact .inr (List.mem_singleton.2 same)
    case isFalse => exact .inl (matching.only1 mapped)
  only2 {other} mapped := by
    simp only [Progress.making, Correspondence.object?_setObject] at mapped
    rw [List.map_append, List.mem_append]
    split at mapped
    case isTrue same => exact .inr (List.mem_singleton.2 same)
    case isFalse => exact .inl (matching.only2 mapped)
  distinct1 := by simpa using matching.distinct1
  distinct2 := by simpa using matching.distinct2
  names {other image} isNamed := by
    replace isNamed : dest.named? other = some image := isNamed
    rw [named] at isNamed
    split at isNamed
    case isTrue same =>
      subst same
      exact ⟨_, List.mem_append_right _ List.mem_cons_self, Option.some.inj isNamed, named1, named2⟩
    case isFalse =>
      obtain ⟨pair, member, same⟩ := matching.names isNamed
      exact ⟨pair, List.mem_append_left _ member, same⟩
  undecided := matching.undecided

/-- A function is entered. -/
theorem enter (matching : Matching basis pairs later here) (function : String) :
    Matching basis pairs later
      ({ here.1 with dest := here.1.dest.enter function }, here.2) where
  invariant := matching.invariant.withNames (matching.invariant.dest.enter function)
  outside := matching.outside
  only1 := matching.only1
  only2 := matching.only2
  distinct1 := matching.distinct1
  distinct2 := matching.distinct2
  names named := matching.names ((Graph.named?_enter function _).symm.trans named)
  undecided := matching.undecided

/-- The next two variables get their counterpart. -/
theorem match_apply (puts : Puts declare scope usable)
    (matching : Matching basis pairs (link :: later) here) (isUsable : usable here.1.dest)
    (named1 : basis.left.named? (scope link.1.1) = some link.1.2)
    (named2 : basis.right.named? (scope link.1.1) = some link.2.2) {size : Nat} {valid : Bool}
    (suits1 : Suits basis.left link.1.2 size valid false)
    (suits2 : Suits basis.right link.2.2 size valid false) (label : String) :
    ∃ id dest now, (do
        let id ← objectName link.1.2 link.2.2
        attemptDest (declare link.1.1 id (.region size label))
        attemptDest fun graph => graph.setValid id valid
        pairObjects link.1.2 link.2.2 id
        return some ⟨link.1.2, link.2.2, id⟩ : Run Progress (Option ObjectPair)) here =
        .ok (some ⟨link.1.2, link.2.2, id⟩) (here.1.making ⟨link.1.2, link.2.2, id⟩ dest, now) ∧
      Making basis here ⟨link.1.2, link.2.2, id⟩ dest now ∧ dest.isHeap id = false ∧
      usable dest ∧ ∀ other, dest.named? other =
        if other = scope link.1.1 then some id else here.1.dest.named? other := by
  have invariant := matching.invariant
  have early := basis.leftPlain.object_lt (basis.leftPlain.sound.nameable named1).present
  obtain ⟨id, now, drawn, time, absent, isNamed⟩ :=
    objectName_apply invariant link.2.2 early suits1.proper matching.free1
  obtain ⟨_, declared, ⟨stack, globals, rfl⟩, sound, usable1, named⟩ :=
    puts.puts link.1.1 (.region size label) invariant.dest absent isUsable
  have validated := here.1.dest.setValid_withNames stack globals id (.region size label) true valid
    false
  have proper : id ≠ .null := by
    rintro rfl
    rw [invariant.dest.hasObject_null] at absent
    simp at absent
  have isOutside : (here.1.dest.putPlacement id ⟨.region size label, valid, false⟩).isHeap id =
      false := (Graph.isHeap_putPlacement ..).trans (if_pos rfl)
  refine ⟨id,
    (here.1.dest.putPlacement id ⟨.region size label, valid, false⟩).withNames stack globals,
    now, ?_, ⟨time, absent, ⟨size, label, valid, false, rfl, suits1, suits2⟩, rfl, rfl,
    sound.setValid proper validated, matching.free1, matching.free2, isNamed,
    .named named1 named2⟩, isOutside, puts.setValid usable1 validated, fun other => ?_⟩
  · refine (Run.bind_apply_ok drawn).trans ?_
    refine (Run.bind_apply_ok (@attemptDest_apply _ (here.1, now) _ declared)).trans ?_
    refine (Run.bind_apply_ok (attemptDest_apply validated)).trans ?_
    exact Run.bind_apply_ok (pairObjects_ok (.inl matching.free1) (.inl matching.free2))
  · rw [← named other]
    exact Graph.named?_congr rfl rfl other

end Matching

/-- Pairing the next two variables. -/
theorem matchVariable_ends {link : Link} (puts : Puts declare scope usable)
    (matching : Matching basis pairs (link :: later) here) (isUsable : usable here.1.dest)
    (named1 : basis.left.named? (scope link.1.1) = some link.1.2)
    (named2 : basis.right.named? (scope link.1.1) = some link.2.2) :
    basis.Ends (matchVariable declare link.1.1 link.1.2 link.2.2) here fun
      | some pair, there => Matching basis (pairs ++ [pair]) later there ∧ usable there.1.dest ∧
          Declared (· = scope link.1.1) here there
      | none, _ => ¬ Cover basis.left basis.right := by
  have invariant := matching.invariant
  have nameable1 := basis.leftPlain.sound.nameable named1
  have nameable2 := basis.rightPlain.sound.nameable named2
  obtain ⟨source1, found1⟩ := (Graph.hasObject_iff _).1 nameable1.present
  obtain ⟨source2, found2⟩ := (Graph.hasObject_iff _).1 nameable2.present
  unfold matchVariable
  refine Run.ends_bind_of_ok (Run.demand_apply_ok ((Graph.object_eq_ok_iff _).2
    ((invariant.left.relaid.object? _).trans found1))) ?_
  refine Run.ends_bind_of_ok (Run.demand_apply_ok ((Graph.object_eq_ok_iff _).2
    ((invariant.right.relaid.object? _).trans found2))) ?_
  refine Run.ends_bind_of_ok (Run.state_apply _) ?_
  simp only [invariant.left.relaid.isValid, invariant.right.relaid.isValid]
  split
  case isTrue differ =>
    refine Run.ends_pure fun cover => ?_
    have met : Met basis.left basis.right link.1.2 link.2.2 := .named named1 named2
    have size := cover.fits.size met
    rw [found1, found2] at size
    exact differ.elim (fun other => other (Option.some.inj size))
      fun other => other (cover.fits.valid met)
  case isFalse alike =>
    obtain ⟨size, valid⟩ := not_or.1 alike
    rw [ne_eq, not_not] at size valid
    obtain ⟨id, dest, now, done, making, outside, usable', named⟩ := matching.match_apply puts
      isUsable named1 named2
      ⟨nameable1.proper, ⟨source1, found1, rfl⟩, rfl, by simp [nameable1.outside]⟩
      ⟨nameable2.proper, ⟨source2, found2, size⟩, valid.symm, by simp [nameable2.outside]⟩
      source1.label
    refine Run.ends_of_ok done ⟨matching.making making outside named1 named2 named, usable',
      fun {other} declared => ?_⟩
    show (dest.named? other).isSome = true
    rw [named]
    split
    case isTrue => rfl
    case isFalse old => exact declared.resolve_left old

/-- Pairing some variables one after the other. -/
theorem matchEach_ends (puts : Puts declare scope usable) {links : List Link}
    (matching : Matching basis pairs (links ++ later) here) (isUsable : usable here.1.dest)
    (named : ∀ link ∈ links, basis.left.named? (scope link.1.1) = some link.1.2 ∧
      basis.right.named? (scope link.1.1) = some link.2.2) :
    basis.Ends (matchEach declare links) here fun
      | some found, there => Matching basis (pairs ++ found) later there ∧ usable there.1.dest ∧
          Declared (fun name => ∃ link ∈ links, name = scope link.1.1) here there
      | none, _ => ¬ Cover basis.left basis.right := by
  induction links generalizing here pairs with
  | nil => exact Run.ends_pure ⟨by simpa using matching, isUsable, by simp [Declared]⟩
  | cons link rest ih =>
      obtain ⟨named1, named2⟩ := named link List.mem_cons_self
      unfold matchEach
      refine Run.ends_bind _ (matchVariable_ends puts matching isUsable named1 named2) ?_
      intro outcome middle matched
      cases outcome with
      | none => exact Run.ends_pure matched
      | some pair =>
          obtain ⟨matching', usable', first⟩ := matched
          refine Run.ends_bind _ (ih matching' usable' fun other member =>
            named other (List.mem_cons_of_mem _ member)) ?_
          intro outcome there matched
          cases outcome with
          | none => exact Run.ends_pure matched
          | some found =>
              obtain ⟨matching'', usable'', others⟩ := matched
              refine Run.ends_pure ⟨by simpa using matching'', usable'', fun {name} declared => ?_⟩
              rcases declared with ⟨other, member, rfl⟩ | old
              · rcases List.mem_cons.1 member with rfl | member
                · exact others (.inr (first (.inl rfl)))
                · exact others (.inl ⟨other, member, rfl⟩)
              · exact others (.inr (first (.inr old)))

/-- Pairing the variables of two scopes. -/
theorem matchScopes_ends (puts : Puts declare scope usable) {scope1 scope2 : Table String ObjectId}
    (matching : Matching basis pairs (scope1.toList.zip scope2.toList ++ later) here)
    (isUsable : usable here.1.dest)
    (scope1_eq : ∀ name, basis.left.named? (scope name) = scope1.get? name)
    (scope2_eq : ∀ name, basis.right.named? (scope name) = scope2.get? name)
    (needed : Cover basis.left basis.right → scope1.keys = scope2.keys) :
    basis.Ends (matchScopes declare scope1 scope2) here fun
      | some found, there => Matching basis (pairs ++ found) later there ∧ usable there.1.dest ∧
          scope1.keys = scope2.keys ∧ Declared (fun name => ∃ inner, name = scope inner ∧
            (basis.left.named? name).isSome = true) here there
      | none, _ => ¬ Cover basis.left basis.right := by
  unfold matchScopes
  split
  case isFalse differ => exact Run.ends_pure fun cover => differ (needed cover)
  case isTrue same =>
    refine (matchEach_ends puts matching isUsable fun link member => ?_).mono ?_ fun _ _ bad => bad
    · have inside := List.of_mem_zip member
      constructor
      · rw [scope1_eq]
        exact Table.mem_toList_iff.1 inside.1
      · rw [scope2_eq, Table.fst_eq_of_mem_zip same member]
        exact Table.mem_toList_iff.1 inside.2
    · intro outcome there matched
      cases outcome with
      | none => exact matched
      | some found =>
          obtain ⟨matching', usable', declares⟩ := matched
          refine ⟨matching', usable', same, fun {name} declared => declares (declared.imp_left ?_)⟩
          rintro ⟨inner, rfl, isNamed⟩
          obtain ⟨id1, found1⟩ := Option.isSome_iff_exists.1 isNamed
          rw [scope1_eq] at found1
          obtain ⟨id2, found2⟩ := Option.isSome_iff_exists.1
            ((Table.isSome_get?_of_keys same inner).symm.trans (by rw [found1]; rfl))
          exact ⟨_, Table.mem_zip_of_get? same found1 found2, rfl⟩

/-- Pairing the variables of the functions from some depth on. -/
theorem matchFrames_ends {frames : List (Frame × Frame)} {depth : Nat}
    (frames1 : basis.left.frames.drop depth = frames.map Prod.fst)
    (frames2 : basis.right.frames.drop depth = frames.map Prod.snd)
    (matching : Matching basis pairs (frameLinks frames) here)
    (running : here.1.dest.Runs ((basis.left.frames.take depth).map Frame.function)) :
    basis.Ends (matchFrames frames) here fun
      | some found, there => Matching basis (pairs ++ found) [] there ∧
          there.1.dest.Runs (basis.left.frames.map Frame.function) ∧
          (∀ both ∈ frames, both.1.function = both.2.function ∧
            both.1.locals.keys = both.2.locals.keys) ∧
          Declared (fun name => ∃ level inner, depth ≤ level ∧ name = .inner level inner ∧
            (basis.left.named? name).isSome = true) here there
      | none, _ => ¬ Cover basis.left basis.right := by
  induction frames generalizing depth here pairs with
  | nil =>
      have outside : basis.left.frames.length ≤ depth := by simpa using frames1
      rw [List.take_of_length_le outside] at running
      refine Run.ends_pure ⟨by simpa [frameLinks] using matching, running, by simp,
        fun {name} declared => declared.resolve_left ?_⟩
      rintro ⟨level, inner, above, rfl, isNamed⟩
      have none : basis.left.frames[level]? = none :=
        List.getElem?_eq_none (Nat.le_trans outside above)
      simp [Graph.named?, none] at isNamed
  | cons both rest ih =>
      obtain ⟨frame1, frame2⟩ := both
      have isFrame1 : basis.left.frames[depth]? = some frame1 := by
        rw [← List.head?_drop, frames1]
        rfl
      have isFrame2 : basis.right.frames[depth]? = some frame2 := by
        rw [← List.head?_drop, frames2]
        rfl
      have needed (cover : Cover basis.left basis.right) :
          frame1.function = frame2.function ∧ frame1.locals.keys = frame2.locals.keys := by
        have same := congrArg (·[depth]?) cover.fits.scopes.frames
        simpa [isFrame1, isFrame2] using same
      unfold matchFrames
      split
      case isTrue differ =>
        exact Run.ends_pure fun cover => differ.elim (fun other => other (needed cover).1)
          fun other => other (needed cover).2
      case isFalse alike =>
        obtain ⟨function, -⟩ := not_or.1 alike
        rw [ne_eq, not_not] at function
        refine Run.ends_bind_of_ok (modifyDest_apply _ _) ?_
        have entered : (here.1.dest.enter frame1.function).Runs
            ((basis.left.frames.take (depth + 1)).map Frame.function) := by
          rw [List.take_add_one, isFrame1, List.map_append, ← running]
          simp [Graph.Runs, Graph.frames, Graph.enter]
        have length : ((basis.left.frames.take (depth + 1)).map Frame.function).length =
            depth + 1 := by
          have inside := (List.getElem?_eq_some_iff.1 isFrame1).1
          simp [Nat.min_eq_left (Nat.succ_le_of_lt inside)]
        refine Run.ends_bind _ (matchScopes_ends (puts_local length)
          (matching.enter frame1.function) entered (fun name => ?_)
          (fun name => ?_) fun cover => (needed cover).2) ?_
        · simp [Graph.named?, isFrame1]
        · simp [Graph.named?, isFrame2]
        intro outcome middle matched
        cases outcome with
        | none => exact Run.ends_pure matched
        | some found =>
            obtain ⟨matching', running', keys, first⟩ := matched
            refine Run.ends_bind _ (ih (by simpa using congrArg List.tail frames1)
              (by simpa using congrArg List.tail frames2) matching' running') ?_
            intro outcome there matched
            cases outcome with
            | none => exact Run.ends_pure matched
            | some others =>
                obtain ⟨matching'', running'', all, declares⟩ := matched
                refine Run.ends_pure ⟨by simpa using matching'', running'', fun other member => ?_,
                  fun {name} declared => ?_⟩
                · rcases List.mem_cons.1 member with rfl | member
                  · exact ⟨function, keys⟩
                  · exact all other member
                · rcases declared with ⟨level, inner, above, rfl, isNamed⟩ | old
                  · rcases Nat.eq_or_lt_of_le above with rfl | above
                    · exact declares (.inr (first (.inl ⟨inner, rfl, isNamed⟩)))
                    · exact declares (.inl ⟨level, inner, above, rfl, isNamed⟩)
                  · exact declares (.inr (first (.inr
                      (by rw [Graph.named?_enter]; exact old))))

/-! ### All variables -/

/-- The variables of two graphs are paired. -/
structure Matched (basis : Basis) (pairs : List ObjectPair) (here : Progress × Supply) : Prop where
  /-- The graphs have the same variables. -/
  scopes : basis.left.SameScopes basis.right
  /-- So has the destination. -/
  declared : basis.left.SameScopes here.1.dest
  /-- The objects of the same names are paired, and their counterparts have these names. -/
  paired : ∀ {name id1 id2}, basis.left.named? name = some id1 →
    basis.right.named? name = some id2 → ∃ pair ∈ pairs, pair.object1 = id1 ∧ pair.object2 = id2 ∧
      here.1.dest.named? name = some pair.dest

theorem sameScopes_of_frames {left right : Graph} (globals : left.globals.keys = right.globals.keys)
    (length : left.frames.length = right.frames.length)
    (frames : ∀ both ∈ left.frames.zip right.frames, both.1.function = both.2.function ∧
      both.1.locals.keys = both.2.locals.keys) : left.SameScopes right where
  globals := globals
  frames := by
    let outline (frame : Frame) : String × List String := (frame.function, frame.locals.keys)
    calc left.frames.map outline
      _ = (left.frames.zip right.frames).map (outline ∘ Prod.fst) := by
          rw [← List.map_map, List.map_fst_zip (Nat.le_of_eq length)]
      _ = (left.frames.zip right.frames).map (outline ∘ Prod.snd) :=
          List.map_congr_left fun both member =>
            Prod.ext (frames both member).1 (frames both member).2
      _ = right.frames.map outline := by
          rw [← List.map_map, List.map_snd_zip (Nat.le_of_eq length.symm)]

/-- Graphs in which the same functions run and that name objects by the same names have the same
variables. -/
theorem sameScopes_of_named {graph next : Graph}
    (running : next.Runs (graph.frames.map Frame.function))
    (named : ∀ name, (graph.named? name).isSome = (next.named? name).isSome) :
    graph.SameScopes next where
  globals := Table.keys_eq_of_isSome_get? fun name => named (.global name)
  frames := by
    refine List.ext_getElem? fun depth => ?_
    have function := congrArg (·[depth]?) running
    have locals (name : String) := named (.inner depth name)
    simp only [Graph.named?] at locals
    simp only [List.getElem?_map] at function ⊢
    cases found1 : graph.frames[depth]? <;> cases found2 : next.frames[depth]? <;>
      simp only [found1, found2, Option.map_some, Option.map_none, Option.some.injEq,
        Option.bind_some, reduceCtorEq] at function locals ⊢
    exact Prod.ext function.symm (Table.keys_eq_of_isSome_get? locals)

/-- When all variables are declared, they are paired. -/
theorem Matching.matched (matching : Matching basis pairs later here)
    (scopes : basis.left.SameScopes basis.right)
    (running : here.1.dest.Runs (basis.left.frames.map Frame.function))
    (declared : ∀ {name}, (basis.left.named? name).isSome = true →
      (here.1.dest.named? name).isSome = true) : Matched basis pairs here where
  scopes := scopes
  declared := sameScopes_of_named running fun name => by
    refine Bool.eq_iff_iff.2 ⟨declared, fun isNamed => ?_⟩
    obtain ⟨image, isImage⟩ := Option.isSome_iff_exists.1 isNamed
    obtain ⟨_, -, -, named1, -⟩ := matching.names isImage
    rw [named1]
    rfl
  paired {name id1 id2} named1 named2 := by
    obtain ⟨image, isImage⟩ := Option.isSome_iff_exists.1 (declared (by rw [named1]; rfl))
    obtain ⟨pair, member, rfl, isNamed1, isNamed2⟩ := matching.names isImage
    exact ⟨pair, member, Option.some.inj (isNamed1.symm.trans named1),
      Option.some.inj (isNamed2.symm.trans named2), isImage⟩

/-! ### The start of a join -/

theorem Mapped.empty (start : Nat) (origin dest : Graph) : Mapped start origin .empty dest where
  source mapped := by simp [Correspondence.object?, Correspondence.empty] at mapped
  valid mapped := by simp [Correspondence.object?, Correspondence.empty] at mapped
  heap mapped := by simp [Correspondence.object?, Correspondence.empty] at mapped
  shared mapped := by simp [Correspondence.object?, Correspondence.empty] at mapped
  unique mapped := by simp [Correspondence.object?, Correspondence.empty] at mapped

theorem Intact.refl {start : Nat} {origin : Graph} (plain : origin.Plain start) :
    Intact start origin origin start where
  relaid := .refl origin
  tiled := plain.sound.tiled
  drawn held := plain.held_lt held
  old held _ := .inr held
  once held _ late := absurd (plain.held_lt held) (Nat.not_lt_of_le late)

theorem Exact.start (basis : Basis) :
    Exact basis [] [] (.start basis.left basis.right, ⟨basis.start⟩) where
  met mapped := by simp [Progress.start, Correspondence.object?, Correspondence.empty] at mapped
  held isJoint := by simp [Progress.start] at isJoint
  single isJoint := by simp [Progress.start] at isJoint
  knows isJoint := by simp [Progress.start] at isJoint
  zero := rfl
  valued {value} present := by
    simp only [Progress.start, Graph.hasValue, Graph.initial, Table.contains,
      Table.get?_insert] at present
    split at present
    case isTrue zero => exact .inl zero
    case isFalse => simp at present
  settled mapped := by simp [Progress.start, Correspondence.object?, Correspondence.empty] at mapped
  filled mapped := by simp [Progress.start, Correspondence.object?, Correspondence.empty] at mapped

/-- Nothing is lost before anything has a counterpart. -/
theorem Tied.start (origin dest : Graph) : Tied origin .empty dest where
  lost bound := by simp [Correspondence.value?, Correspondence.empty] at bound
  detached mapped := by simp [Correspondence.object?, Correspondence.empty] at mapped

/-- The invariant holds of a join that has just started. -/
theorem Invariant.start (basis : Basis) :
    Invariant basis [] [] (.start basis.left basis.right, ⟨basis.start⟩) where
  started := Nat.le_refl _
  left := .refl basis.leftPlain
  right := .refl basis.rightPlain
  separate held _ := basis.leftPlain.held_lt held
  untouched1 _ := rfl
  untouched2 _ := rfl
  leftMap := .empty ..
  rightMap := .empty ..
  dest := Graph.sound_initial _
  objects {id} present := by
    simp only [Progress.start, Graph.hasObject, Graph.initial, Table.contains,
      Table.get?_insert] at present
    split at present
    case isTrue null => exact .inl null
    case isFalse => simp at present
  kinds found proper := absurd found (by
    simp [Progress.start, Graph.object?, Graph.initial, Table.get?_insert, proper])
  values present := .inl (((Exact.start basis).valued present).resolve_right
    fun ⟨_, _, isJoint⟩ => by simp [Progress.start] at isJoint)
  value1 bound := by simp [Progress.start, Correspondence.value?, Correspondence.empty] at bound
  value2 bound := by simp [Progress.start, Correspondence.value?, Correspondence.empty] at bound
  joined isJoint := by simp [Progress.start] at isJoint
  known _ _ _ _ isJoint := by simp [Progress.start] at isJoint
  contents held := by simp [Progress.start, Graph.valueAt?_initial] at held
  levels := rfl
  waits := by simp
  opens := by simp
  partners :=
    { met := by simp
      joined := fun mapped => by
        simp [Progress.start, Correspondence.object?, Correspondence.empty] at mapped
      covered := fun _ => rfl }
  tied1 := .start ..
  tied2 := .start ..
  exact _ := .start basis

/-- All variables are still to be paired. -/
theorem Matching.start (basis : Basis) : Matching basis [] (links basis.left basis.right)
    (.start basis.left basis.right, ⟨basis.start⟩) where
  invariant := .start basis
  outside := by simp
  only1 mapped := by simp [Progress.start, Correspondence.object?, Correspondence.empty] at mapped
  only2 mapped := by simp [Progress.start, Correspondence.object?, Correspondence.empty] at mapped
  distinct1 := by
    have fewer := (map_fst_links_sublist basis.left basis.right).map Prod.snd
    rw [List.map_map] at fewer
    exact basis.leftPlain.distinct.sublist fewer
  distinct2 := by
    have fewer := (map_snd_links_sublist basis.left basis.right).map Prod.snd
    rw [List.map_map] at fewer
    exact basis.rightPlain.distinct.sublist fewer
  names {name image} named := by
    cases name with
    | global name => simp [Progress.start, Graph.initial, Graph.named?] at named
    | inner depth name => simp [Progress.start, Graph.initial, Graph.named?, Graph.frames] at named
  undecided := rfl

/-- Pairing all variables. -/
theorem matchVariables_ends (basis : Basis) :
    basis.Ends matchVariables (.start basis.left basis.right, ⟨basis.start⟩) fun
      | some pairs, there => Matching basis pairs [] there ∧ Matched basis pairs there
      | none, _ => ¬ Cover basis.left basis.right := by
  unfold matchVariables
  refine Run.ends_bind_of_ok (Run.state_apply _) ?_
  refine Run.ends_bind _ (matchScopes_ends (puts_global []) (Matching.start basis) rfl
    (fun _ => rfl) (fun _ => rfl) fun cover => cover.fits.scopes.globals) ?_
  intro outcome middle matched
  cases outcome with
  | none => exact Run.ends_pure matched
  | some globals =>
      obtain ⟨matching, running, keys, first⟩ := matched
      simp only
      split
      case isTrue differ =>
        have same (cover : Cover basis.left basis.right) :
            basis.left.frames.length = basis.right.frames.length := by
          simpa using congrArg List.length cover.fits.scopes.frames
        exact Run.ends_pure fun cover => differ (same cover)
      case isFalse length =>
        rw [ne_eq, not_not] at length
        have length' : basis.left.frames.length = basis.right.frames.length := length
        refine Run.ends_bind _ (@matchFrames_ends _ _ _ _ 0
          (List.map_fst_zip (Nat.le_of_eq length')).symm
          (List.map_snd_zip (Nat.le_of_eq length'.symm)).symm matching
          (by simpa using running)) ?_
        intro outcome there matched
        cases outcome with
        | none => exact Run.ends_pure matched
        | some locals =>
            obtain ⟨matching', running', all, declares⟩ := matched
            refine Run.ends_pure ⟨matching', matching'.matched
              (sameScopes_of_frames keys length' all) running' fun {name} isNamed => ?_⟩
            cases name with
            | global name => exact declares (.inr (first (.inl ⟨name, rfl, isNamed⟩)))
            | inner depth name =>
                exact declares (.inl ⟨depth, name, Nat.zero_le _, rfl, isNamed⟩)

/-- When all variables are paired, their objects can be joined. -/
theorem Matching.ready (matching : Matching basis pairs later here)
    (matched : Matched basis pairs here) : Ready basis pairs here where
  named1 {name id} named := by
    obtain ⟨other, named'⟩ := Option.isSome_iff_exists.1
      ((matched.scopes.isSome_named? name).symm.trans (by rw [named]; rfl))
    obtain ⟨pair, member, rfl, -, -⟩ := matched.paired named named'
    exact ⟨pair.dest, (matching.invariant.waits pair member).left, matching.outside pair member⟩
  named2 {name id} named := by
    obtain ⟨other, named'⟩ := Option.isSome_iff_exists.1
      ((matched.scopes.isSome_named? name).trans (by rw [named]; rfl))
    obtain ⟨pair, member, -, rfl, -⟩ := matched.paired named' named
    exact ⟨pair.dest, (matching.invariant.waits pair member).right, matching.outside pair member⟩
  outside := matching.outside

end Join

end ShapeDomain
