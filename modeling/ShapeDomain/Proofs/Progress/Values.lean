import ShapeDomain.Proofs.Progress.Addresses

/-!
# Joining values

Joining two values gives them a joint value, or finds out that something does not fit.  On the way
the objects that two addresses lead to may be joined, which needs all variables to be paired.
-/

namespace ShapeDomain

namespace Join

variable {basis : Basis} {path waiting lays fills kept : List ObjectPair}
variable {here there : Progress × Supply} {pair : ObjectPair} {range : BitRange}
variable {value1 value2 : ValueId} {target1 target2 : Target} {image : ObjectId}

/-! ### Going down -/

/-- An object of the destination is not part of the heap. -/
def Outside (here : Progress × Supply) (id : ObjectId) : Prop :=
  here.1.dest.hasObject id = true ∧ here.1.dest.isHeap id = false

/-- The variables are paired, and pairs that wait are variables. -/
structure Ready (basis : Basis) (waiting : List ObjectPair) (here : Progress × Supply) : Prop where
  /-- The variables of the left graph have counterparts. -/
  named1 : ∀ {name id}, basis.left.named? name = some id →
    ∃ image, here.1.leftMap.object? id = some image ∧ Outside here image
  /-- So have those of the right graph. -/
  named2 : ∀ {name id}, basis.right.named? name = some id →
    ∃ image, here.1.rightMap.object? id = some image ∧ Outside here image
  /-- Pairs that wait are not part of the heap. -/
  outside : ∀ pair ∈ waiting, Outside here pair.dest

theorem Ready.onward (ready : Ready basis waiting here)
    (onward : Onward basis lays fills kept here there) : Ready basis waiting there where
  named1 named := by
    obtain ⟨image, mapped, present, outside⟩ := ready.named1 named
    obtain ⟨last, still⟩ := onward.stays present outside
    exact ⟨image, (onward.leftMap mapped).2 last, last, still⟩
  named2 named := by
    obtain ⟨image, mapped, present, outside⟩ := ready.named2 named
    obtain ⟨last, still⟩ := onward.stays present outside
    exact ⟨image, (onward.rightMap mapped).2 last, last, still⟩
  outside pair member := onward.stays (ready.outside pair member).1 (ready.outside pair member).2

/-- An object whose counterpart is part of the heap has no name. -/
theorem Ready.unnamed1 (ready : Ready basis waiting here) {id image : ObjectId}
    (isImage : here.1.leftMap.object? id = some image) (heap : here.1.dest.isHeap image = true) :
    basis.left.Unnamed id := by
  intro name named
  obtain ⟨other, isOther, -, outside⟩ := ready.named1 named
  rw [isImage, Option.some.injEq] at isOther
  subst isOther
  exact absurd (heap.symm.trans outside) (by simp)

theorem Ready.unnamed2 (ready : Ready basis waiting here) {id image : ObjectId}
    (isImage : here.1.rightMap.object? id = some image) (heap : here.1.dest.isHeap image = true) :
    basis.right.Unnamed id := by
  intro name named
  obtain ⟨other, isOther, -, outside⟩ := ready.named2 named
  rw [isImage, Option.some.injEq] at isOther
  subst isOther
  exact absurd (heap.symm.trans outside) (by simp)

/-- A pair of objects that is made can be joined next. -/
theorem Ready.next {child : ObjectPair} {dest : Graph} {now : Supply}
    (ready : Ready basis waiting here) (invariant : Invariant basis path waiting here)
    (making : Making basis here child dest now) (isHead : path.head? = some pair)
    (leads1 : basis.left.Leads pair.object1 child.object1)
    (leads2 : basis.right.Leads pair.object2 child.object2) : Next basis path child where
  leads := ⟨pair, isHead, leads1, leads2⟩
  unnamed1 name named := by
    obtain ⟨image, mapped, -⟩ := ready.named1 named
    rw [making.free1] at mapped
    simp at mapped
  unnamed2 name named := by
    obtain ⟨image, mapped, -⟩ := ready.named2 named
    rw [making.free2] at mapped
    simp at mapped
  new1 other member same := by
    have mapped := (invariant.opens other member).relates.left
    rw [same, making.free1] at mapped
    simp at mapped
  new2 other member same := by
    have mapped := (invariant.opens other member).relates.right
    rw [same, making.free2] at mapped
    simp at mapped

/-- What joining a pair of objects leads to.  They have no join only if something that meets does
not fit, unless list nodes were folded. -/
def ObjectsJoined (basis : Basis) (path waiting : List ObjectPair) (pair : ObjectPair)
    (here : Progress × Supply) : Bool → Progress × Supply → Prop
  | true, there => Invariant basis path waiting there ∧
      Onward basis [pair] [pair] (path ++ waiting) here there ∧
      Settled basis there.1 pair.object1 pair.object2 ∧ Filled there.1 pair
  | false, there => there.1.status = .incomparable ∧
      (¬ basis.Folds → ¬ Cover basis.left basis.right)

/-- A way of going down from a path joins pairs of objects, if less than a given number of objects
have no counterparts. -/
def Basis.Descends (basis : Basis) (descend : Descend) (room : Nat)
    (path waiting : List ObjectPair) : Prop :=
  ∀ {child : ObjectPair} {here : Progress × Supply}, Invariant basis path (child :: waiting) here →
    Next basis path child → (∀ other ∈ waiting, other.dest ≠ child.dest) →
    Ready basis waiting here → unmapped basis.left here.1.leftMap < room →
    basis.Ends (descend child.object1 child.object2 child.dest 0) here
      (ObjectsJoined basis path waiting child here)

/-! ### Addresses -/

theorem specifier?_region (object : Object) :
    specifier? .ground object .region .region =
      .ok (some (if object.kind.isList = true then .first else .region)) := by
  unfold specifier?
  cases object.kind.isList <;> rfl

/-- A folding is offered at the object that was asked for, if it is possible, and only where
foldings are wanted. -/
theorem foldAt_apply (setting : Setting) (object : ObjectId) (here : Progress × Supply) :
    ∃ fold, foldAt setting object here = .ok fold here ∧ ∀ found, fold = some found →
      setting.options.foldLists = true ∧ setting.identical = false ∧ found.head = object ∧
        ∃ parts, found.parts? here.1.dest = some parts := by
  unfold foldAt
  split
  case isTrue wanted =>
    refine ⟨_, Run.ask_apply _ _, fun found first => ?_⟩
    simp only [Bool.and_eq_true, Bool.not_eq_true'] at wanted
    obtain ⟨field, -, some⟩ := List.mem_filterMap.1 (List.mem_of_mem_head? first)
    simp only [bind, Option.bind_eq_some_iff] at some
    obtain ⟨target, -, parts, isParts, same⟩ := some
    obtain rfl := Option.some.inj same
    exact ⟨wanted.1, wanted.2, rfl, parts, isParts⟩
  case isFalse => exact ⟨none, rfl, by simp⟩

/-- Two addresses may still get a joint value when their targets got a counterpart. -/
theorem Leading.making {dest : Graph} {now : Supply} {child : ObjectPair}
    (leading : Leading basis waiting here pair range value1 value2 target1 target2)
    (invariant : Invariant basis path waiting here) (making : Making basis here child dest now) :
    Leading basis (child :: waiting) (here.1.making child dest, now) pair range value1 value2
      target1 target2 where
  meeting := by
    refine ⟨leading.meeting.met, leading.meeting.held1, leading.meeting.held2,
      ⟨leading.meeting.realized.left, leading.meeting.realized.right⟩, fun still => ?_⟩
    obtain ⟨mapped1, mapped2, apart⟩ := leading.meeting.mapped still
    refine ⟨making.object?_of_mapped1 mapped1, making.object?_of_mapped2 mapped2,
      fun other member => ?_⟩
    rcases List.mem_cons.1 member with rfl | member
    · exact (making.ne_of_present (invariant.hasObject_of_left mapped1)).symm
    · exact apart other member
  free := ⟨leading.free.undecided, leading.free.free1, leading.free.free2⟩
  leads1 := leading.leads1
  leads2 := leading.leads2

/-- The two addresses get a joint address in the counterpart of their targets. -/
theorem name_apply (invariant : Invariant basis path waiting here)
    (leading : Leading basis waiting here pair range value1 value2 target1 target2)
    (left : image? here.1.leftMap target1.object = some image)
    (right : image? here.1.rightMap target2.object = some image)
    (offset : target1.offset = target2.offset) :
    ∃ object specifier value dest now there, here.1.dest.object image = .ok object ∧
      specifier? .ground object target1.specifier target2.specifier = .ok (some specifier) ∧
      addressName value1 value2 ⟨image, target1.offset, specifier⟩ here = .ok value there ∧
      pairValues value1 value2 value there =
        .ok () (here.1.joining value1 value2 value dest here.1.status, now) ∧
      Joining basis here value1 value2 value dest here.1.status now ∧
      (¬ basis.Folds →
        JoiningExact basis waiting here value1 value2 value dest here.1.status) := by
  obtain ⟨object, found⟩ :=
    (Graph.hasObject_iff _).1 (invariant.leftMap.hasObject_of_image? invariant.dest left)
  have specifiers : specifier? .ground object target1.specifier target2.specifier =
      .ok (some (if object.kind.isList = true then .first else .region)) := by
    rw [basis.leftPlain.direct (address?_eq_some_iff.1 (leading.origin1 invariant)).2,
      basis.rightPlain.direct (address?_eq_some_iff.1 (leading.origin2 invariant)).2]
    exact specifier?_region object
  have direct (still : ¬ basis.Folds) :
      (if object.kind.isList = true then Specifier.first else .region) = .region := by
    have region := invariant.isList_eq_false still image
    rw [Graph.isList, found, Option.any_some] at region
    rw [region, if_neg Bool.false_ne_true]
  obtain ⟨value, dest, now, done, joining, exact⟩ :=
    addressName_apply invariant leading left right offset direct
  refine ⟨object, _, value, _, now, _, (Graph.object_eq_ok_iff _).2 found, specifiers, done, ?_,
    joining, exact⟩
  exact @pairValues_ok ({ here.1 with dest := dest }, now) _ _ _ (leading.free.allows value).1
    (leading.free.allows value).2

/-- Goes down to a new pair of objects.  If the pair has a join, then so have the addresses of
it. -/
def goDown (setting : Setting) (descend : Descend) (child : ObjectPair) (value : ValueId) :
    Run Progress ValueJoin := do
  if ← descend child.object1 child.object2 child.dest 0 then
    return .joined value (← foldAt setting child.dest)
  else
    return .undefined false

/-- Two addresses have got a joint value, and their targets a new counterpart. -/
structure Descending (basis : Basis) (path waiting : List ObjectPair) (value1 value2 : ValueId)
    (here : Progress × Supply) (child : ObjectPair) (value : ValueId)
    (middle : Progress × Supply) : Prop where
  /-- The targets have got their counterpart. -/
  making : ∃ dest now, Making basis here child dest now
  /-- The pair of targets waits. -/
  waits : Invariant basis path (child :: waiting) middle
  /-- Nothing else has changed. -/
  onward : Onward basis [child] [child] (path ++ waiting) here middle
  /-- The pair can be joined next. -/
  next : Next basis path child
  /-- The addresses have got their joint value. -/
  isJoint : jointValue? middle.1 value1 value2 = some value
  /-- This is all that has got a counterpart in the left graph. -/
  leftMap : middle.1.leftMap =
    setUnlessZero (here.1.leftMap.setObject child.object1 child.dest) value1 value
  /-- So it is in the right graph. -/
  rightMap : middle.1.rightMap =
    setUnlessZero (here.1.rightMap.setObject child.object2 child.dest) value2 value

namespace Descending

variable {room : Nat} {child : ObjectPair} {middle : Progress × Supply} {value : ValueId}
variable (descending : Descending basis path waiting value1 value2 here child value middle)

include descending

theorem isMapped : middle.1.leftMap.object? child.object1 = some child.dest :=
  (descending.waits.waits child List.mem_cons_self).left

/-- There are fewer objects left that have no counterpart. -/
theorem fewer (enough : unmapped basis.left here.1.leftMap ≤ room) :
    unmapped basis.left middle.1.leftMap < room := by
  obtain ⟨_, _, making⟩ := descending.making
  obtain ⟨_, _, _, _, -, suits1, -⟩ := making.placed
  obtain ⟨object, found, -⟩ := suits1.found
  exact Nat.lt_of_lt_of_le (unmapped_lt (fun id isSome =>
    (descending.onward.leftMap (Option.isSome_iff_exists.1 isSome).choose_spec).1)
      found making.free1
    (by rw [descending.isMapped]; rfl)) enough

/-- Pairs that wait have other counterparts. -/
theorem apart (ready : Ready basis waiting here) : ∀ other ∈ waiting, other.dest ≠ child.dest := by
  obtain ⟨_, _, making⟩ := descending.making
  exact fun other member => making.ne_of_present (ready.outside other member).1

end Descending

/-- Going down to a pair of objects that two addresses lead to. -/
theorem goDown_ends {descend : Descend} {room : Nat} {child : ObjectPair}
    {middle : Progress × Supply} {value : ValueId}
    (descends : basis.Descends descend room path waiting)
    (invariant : Invariant basis path waiting here) (ready : Ready basis waiting here)
    (descending : Descending basis path waiting value1 value2 here child value middle)
    (enough : unmapped basis.left here.1.leftMap ≤ room) :
    basis.Ends (goDown basis.setting descend child value) middle
      (ValuesJoined basis path waiting (path ++ waiting) value1 value2 here) := by
  have waits := descending.waits
  have mapped := descending.isMapped
  obtain ⟨_, _, making⟩ := descending.making
  unfold goDown
  refine Run.ends_bind _ (descends waits descending.next (descending.apart ready)
    (ready.onward descending.onward) (descending.fewer enough)) ?_
  intro joined there outcome
  cases joined with
  | false => exact Run.ends_pure ⟨rfl, outcome.2⟩
  | true =>
      obtain ⟨invariant', down, -⟩ := outcome
      obtain ⟨fold, done, offered⟩ := foldAt_apply basis.setting child.dest there
      refine Run.ends_bind_of_ok done ?_
      refine Run.ends_pure ⟨invariant', (descending.onward.trans invariant waits down).of_free
        making.free1 making.free2 making.absent, down.jointValue? descending.isJoint,
        fun found isFold => ?_⟩
      obtain ⟨wanted, differ, isHead, -⟩ := offered found isFold
      have present := waits.hasObject_of_left mapped
      refine ⟨⟨wanted, differ⟩, ?_, fun shared => ?_, child, descending.next, fun last => ?_⟩
      · rw [isHead]
        exact Nat.lt_of_lt_of_le (waits.index_lt present) down.time
      · rw [isHead] at shared ⊢
        exact (down.leftMap (waits.leftMap_of_shared present (waits.leftMap.source mapped).2.1
          shared)).1
      · rw [isHead] at last ⊢
        exact ⟨(down.leftMap mapped).2 last,
          (down.rightMap (waits.waits child List.mem_cons_self).right).2 last⟩

/-- Two addresses whose targets get a new counterpart get a joint value, and then the join goes
down. -/
theorem joinAddresses_of_made (descend : Descend) (invariant : Invariant basis path waiting here)
    (leading : Leading basis waiting here pair range value1 value2 target1 target2)
    (isHead : path.head? = some pair) (ready : Ready basis waiting here)
    (offset : target1.offset = target2.offset) {id : ObjectId} {dest : Graph} {now : Supply}
    (done : destination target1.object target2.object here =
      .ok (some (.made id)) (here.1.making ⟨target1.object, target2.object, id⟩ dest, now))
    (making : Making basis here ⟨target1.object, target2.object, id⟩ dest now)
    (stack : dest.stack = here.1.dest.stack) (globals : dest.globals = here.1.dest.globals) :
    ∃ value middle,
      joinAddresses basis.setting descend value1 value2 target1 target2 0 .ground here =
        goDown basis.setting descend ⟨target1.object, target2.object, id⟩ value middle ∧
      Descending basis path waiting value1 value2 here ⟨target1.object, target2.object, id⟩ value
        middle := by
  have mapped1 : (here.1.leftMap.setObject target1.object id).object? target1.object =
      some id := (Correspondence.object?_setObject ..).trans (if_pos rfl)
  have mapped2 : (here.1.rightMap.setObject target2.object id).object? target2.object =
      some id := (Correspondence.object?_setObject ..).trans (if_pos rfl)
  obtain ⟨_, _, _, _, -, suits1, suits2⟩ := making.placed
  have waits := invariant.making making
  obtain ⟨object, specifier, value, dest', now', middle, found, isSpecifier, named, paired,
    joining, exact⟩ := name_apply waits (leading.making invariant making)
      ((image?_of_proper suits1.proper).trans mapped1)
      ((image?_of_proper suits2.proper).trans mapped2) offset
  refine ⟨value, _, ?_, ⟨dest, now, making⟩, waits.joining joining exact,
    (making.onward stack globals).trans invariant waits joining.onward,
    ready.next invariant making isHead (leading.leads_left invariant)
      (leading.leads_right invariant), jointValue?_joining joining.undecided, rfl, rfl⟩
  unfold joinAddresses
  rw [if_neg (by simpa using offset)]
  refine (Run.bind_apply_ok done).trans ((Run.bind_apply_ok (Run.demand_apply_ok found)).trans ?_)
  refine (Run.bind_apply_ok (Run.demand_apply_ok isSpecifier)).trans ?_
  exact (Run.bind_apply_ok named).trans (Run.bind_apply_ok paired)

/-- Joining two addresses. -/
theorem joinAddresses_ends {descend : Descend} {room : Nat}
    (invariant : Invariant basis path waiting here)
    (leading : Leading basis waiting here pair range value1 value2 target1 target2)
    (isHead : path.head? = some pair) (ready : Ready basis waiting here)
    (enough : unmapped basis.left here.1.leftMap ≤ room)
    (descends : basis.Descends descend room path waiting) :
    basis.Ends (joinAddresses basis.setting descend value1 value2 target1 target2 0 .ground) here
      (ValuesJoined basis path waiting (path ++ waiting) value1 value2 here) := by
  have refused (unfit : ¬ basis.Folds → ¬ Cover basis.left basis.right) :
      basis.Ends (noJoin basis.setting value1 value2) here
        (ValuesJoined basis path waiting (path ++ waiting) value1 value2 here) :=
    Run.ends_of_ok (noJoin_apply invariant value1 value2) ⟨rfl, unfit⟩
  by_cases offset : target1.offset = target2.offset
  case neg =>
    unfold joinAddresses
    rw [if_pos offset]
    exact refused fun _ cover => offset (leading.sameAddress invariant cover).1
  case pos =>
    obtain ⟨outcome, there, done, destined⟩ := destination_apply invariant leading
    cases destined with
    | nowhere unfit =>
        unfold joinAddresses
        rw [if_neg (by simpa using offset)]
        exact Run.ends_bind_of_ok done (refused unfit)
    | @known image left right =>
        obtain ⟨object, specifier, value, dest, now, middle, found, isSpecifier, named, paired,
          joining, exact⟩ := name_apply invariant leading left right offset
        unfold joinAddresses
        rw [if_neg (by simpa using offset)]
        refine Run.ends_bind_of_ok done (Run.ends_bind_of_ok (Run.demand_apply_ok found) ?_)
        refine Run.ends_bind_of_ok (Run.demand_apply_ok isSpecifier) ?_
        refine Run.ends_bind_of_ok named ?_
        refine Run.ends_bind_of_ok paired ?_
        exact Run.ends_pure (valuesJoined_of_joining invariant joining exact)
    | made making stack globals =>
        obtain ⟨value, middle, goesDown, descending⟩ :=
          joinAddresses_of_made descend invariant leading
          isHead ready offset done making stack globals
        exact (goDown_ends descends invariant ready descending enough).congr goesDown

/-! ### Values -/

/-- An address and a value that is none do not fit. -/
theorem not_cover_of_address (invariant : Invariant basis path waiting here)
    (meeting : Meeting basis waiting here.1 pair range value1 value2)
    (differ : (address? here.1.left value1).isSome ≠ (address? here.1.right value2).isSome) :
    ¬ Cover basis.left basis.right := by
  intro cover
  obtain ⟨cell1, cell2, paired, stands1, stands2⟩ := meeting.paired
  rw [← stands1.address? basis.leftPlain invariant.left,
    ← stands2.address? basis.rightPlain invariant.right] at differ
  rcases cover.fits.addresses paired with ⟨none1, none2⟩ | ⟨_, _, some1, some2, -⟩
  · exact differ (by rw [none1, none2])
  · exact differ (by rw [some1, some2]; rfl)

theorem free_of_hasCounterpart {map : Correspondence} {value : ValueId}
    (without : hasCounterpart map value = false) : value = .zero ∨ map.value? value = none := by
  simpa [hasCounterpart, ValueId.isZero, Classical.or_iff_not_imp_left] using without

theorem hasCounterpart_of_free {map : Correspondence} {value : ValueId}
    (free : value = .zero ∨ map.value? value = none) : hasCounterpart map value = false := by
  rcases free with rfl | free
  · rfl
  · simp [hasCounterpart, free]

/-- How two values without counterparts are joined depends on whether they are addresses. -/
theorem joinValuePair_of_free (setting : Setting) (descend : Descend)
    (free : Free here value1 value2) (size : Nat) :
    joinValuePair setting descend value1 value2 size 0 .ground here =
      (match address? here.1.left value1, address? here.1.right value2 with
        | none, none => joinNumbers value1 value2 size 0
        | some target1, some target2 =>
            joinAddresses setting descend value1 value2 target1 target2 0 .ground
        | _, _ => noJoin setting value1 value2 : Run Progress ValueJoin) here := by
  unfold joinValuePair
  refine (Run.bind_apply_ok (Run.state_apply _)).trans ?_
  have unmatched : ¬ (hasCounterpart here.1.leftMap value1 ||
      hasCounterpart here.1.rightMap value2) = true := by
    rw [hasCounterpart_of_free free.free1, hasCounterpart_of_free free.free2]
    decide
  rw [free.undecided]
  exact congrFun (if_neg unmatched) here

/-- Joining two values that a pair of objects holds. -/
theorem joinValuePair_ends {descend : Descend} {room : Nat}
    (invariant : Invariant basis path waiting here)
    (meeting : Meeting basis waiting here.1 pair range value1 value2)
    (isHead : path.head? = some pair) (ready : Ready basis waiting here)
    (enough : unmapped basis.left here.1.leftMap ≤ room)
    (descends : basis.Descends descend room path waiting) :
    basis.Ends (joinValuePair basis.setting descend value1 value2 range.size 0 .ground) here
      (ValuesJoined basis path waiting (path ++ waiting) value1 value2 here) := by
  cases undecided : jointValue? here.1 value1 value2 with
  | some value =>
      unfold joinValuePair
      refine Run.ends_bind_of_ok (Run.state_apply _) ?_
      simp only [undecided]
      exact Run.ends_pure ⟨invariant, .refl .., undecided, by simp⟩
  | none =>
      by_cases free : Free here value1 value2
      case neg =>
        unfold joinValuePair
        refine Run.ends_bind_of_ok (Run.state_apply _) ?_
        simp only [undecided]
        rw [if_pos]
        · refine Run.ends_pure ⟨rfl, fun still cover => free ?_⟩
          obtain ⟨free1, free2⟩ := invariant.free_of_cover still meeting undecided cover
          exact ⟨undecided, free1, free2⟩
        · by_contra unbound
          rw [Bool.or_eq_true, not_or, Bool.not_eq_true, Bool.not_eq_true] at unbound
          exact free ⟨undecided, free_of_hasCounterpart unbound.1, free_of_hasCounterpart unbound.2⟩
      case pos =>
        refine Run.Ends.congr ?_ (joinValuePair_of_free _ descend free range.size)
        cases leads1 : address? here.1.left value1 with
        | none =>
            cases leads2 : address? here.1.right value2 with
            | none => exact joinNumbers_ends invariant meeting free leads1 leads2
            | some target2 =>
                exact Run.ends_of_ok (noJoin_apply invariant value1 value2)
                  ⟨rfl, fun _ => not_cover_of_address invariant meeting (by simp [leads1, leads2])⟩
        | some target1 =>
            cases leads2 : address? here.1.right value2 with
            | none =>
                exact Run.ends_of_ok (noJoin_apply invariant value1 value2)
                  ⟨rfl, fun _ => not_cover_of_address invariant meeting (by simp [leads1, leads2])⟩
            | some target2 =>
                exact joinAddresses_ends invariant ⟨meeting, free, leads1, leads2⟩ isHead ready
                  enough descends

end Join

end ShapeDomain
