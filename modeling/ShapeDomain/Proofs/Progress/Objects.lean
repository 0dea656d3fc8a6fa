import ShapeDomain.Proofs.Progress.Filling

/-!
# Joining objects

A pair of objects is joined by aligning its layouts, joining its fields and doing the foldings that
were found below.  This goes through where folding cannot harm, and without folding the pair has a
join if all that meets fits.
-/

namespace ShapeDomain

namespace Join

variable {basis : Basis} {path waiting lays fills kept : List ObjectPair}
variable {here there : Progress × Supply} {pair : ObjectPair} {field : Field} {rest : List Field}
variable {descend : Descend} {room : Nat}

/-! ### Fields -/

/-- What joining the next field of a pair of objects leads to. -/
def FieldJoined (basis : Basis) (path waiting : List ObjectPair) (pair : ObjectPair)
    (rest : List Field) (here : Progress × Supply) : FieldJoin → Progress × Supply → Prop
  | .stored _ fold, there => Filling basis path waiting pair rest there ∧
      Onward basis [] [pair] ((pair :: path) ++ waiting) here there ∧
      ∀ found, fold = some found → Offers basis (pair :: path) there found
  | .missing, _ => False
  | .refused, _ => ¬ basis.Folds → ¬ Cover basis.left basis.right

/-- The joint value of the next field is stored, unless the counterpart was folded. -/
theorem store_ends (filling : Filling basis path waiting pair (field :: rest) here)
    {value2 value : ValueId} {fold : Option Fold}
    (held2 : here.1.right.valueAt? pair.object2 field.range = some value2)
    (isJoint : jointValue? here.1 field.value value2 = some value)
    (offers : ∀ found, fold = some found → Offers basis (pair :: path) here found) :
    basis.Ends (do
        store ⟨pair.dest, field.range, value⟩
        return .stored value fold) here (FieldJoined basis path waiting pair rest here) := by
  cases present : here.1.dest.hasObject pair.dest with
  | false =>
      obtain ⟨fault, there, stopped⟩ := store_error present filling.invariant.dest
      refine Run.ends_of_error (Run.bind_apply_error stopped) fun safe => ?_
      rw [filling.stays safe] at present
      simp at present
  | true =>
      have storing := filling.storing present held2 isJoint
      have onward : Onward basis [] [pair] ((pair :: path) ++ waiting) here
          (here.1.storing ⟨pair.dest, field.range, value⟩, here.2) :=
        Storing.onward List.mem_cons_self
      refine Run.ends_bind_of_ok storing.store_apply ?_
      exact Run.ends_pure ⟨filling.next storing, onward,
        fun found isFold => (offers found isFold).onward onward⟩

/-- Stores the joint value that two values have got, if they have one. -/
def storeJoined (dest : ObjectId) (range : BitRange) : ValueJoin → Run Progress FieldJoin
  | .joined value fold => do
      store ⟨dest, range, value⟩
      return .stored value fold
  | .undefined true => return .missing
  | .undefined false => return .refused

/-- To join a field whose values lead to the ground level is to join the values and to store their
joint value. -/
theorem joinField_of_ground {setting : Setting} {source1 source2 : Object} {value2 : ValueId}
    (levels : here.1.levels = .initial)
    (held2 : here.1.right.valueAt? pair.object2 field.range = some value2)
    (below1 : levelBelow here.1.left source1 field.value = .ok .ground)
    (below2 : levelBelow here.1.right source2 value2 = .ok .ground)
    (ground1 : source1.level = .ground) (ground2 : source2.level = .ground) :
    joinField setting descend pair source1 source2 0 .ground field here =
      (joinValuePair setting descend field.value value2 field.range.size 0 .ground >>=
        storeJoined pair.dest field.range) here := by
  unfold joinField
  refine Eq.trans (Run.bind_apply_ok (Run.demand_apply_ok (?_ : _ = Except.ok value2))) ?_
  · rw [held2]
  refine Eq.trans (Run.bind_apply_ok (Run.demand_apply_ok below1)) ?_
  refine Eq.trans (Run.bind_apply_ok (Run.demand_apply_ok below2)) ?_
  rw [ground1, ground2]
  refine (Run.bind_apply_ok (mapLevels_initial levels _)).trans ?_
  rw [if_pos rfl]
  refine congrArg (fun next => (joinValuePair setting descend field.value value2
    field.range.size 0 .ground >>= next) here) (funext fun outcome => ?_)
  cases outcome with
  | joined value fold => rfl
  | undefined recoverable => cases recoverable <;> rfl

/-- To join the next field of a pair of objects is to join two values that meet, and to store their
joint value. -/
theorem joinField_apply (descend : Descend)
    (filling : Filling basis path waiting pair (field :: rest) here)
    {source1 source2 : Object} (ground1 : source1.level = .ground)
    (ground2 : source2.level = .ground) :
    ∃ value2, Meeting basis waiting here.1 pair field.range field.value value2 ∧
      joinField basis.setting descend pair source1 source2 0 .ground field here =
        (joinValuePair basis.setting descend field.value value2 field.range.size 0 .ground >>=
          storeJoined pair.dest field.range) here := by
  have invariant := filling.invariant
  have held1 := filling.listed field List.mem_cons_self
  obtain ⟨value2, held2⟩ : ∃ value2,
    here.1.right.valueAt? pair.object2 field.range = some value2 := by
    rw [← Option.isSome_iff_exists, ← filling.realized.sameRanges field.range, held1]
    rfl
  refine ⟨value2, ⟨invariant.partners.met pair List.mem_cons_self, held1, held2, filling.realized,
    filling.mapped⟩, ?_⟩
  exact joinField_of_ground invariant.levels held2
    (levelBelow_of_tame basis.leftPlain.tame invariant.left.relaid _ _)
    (levelBelow_of_tame basis.rightPlain.tame invariant.right.relaid _ _) ground1 ground2

/-- Joining the next field of a pair of objects. -/
theorem joinField_ends (filling : Filling basis path waiting pair (field :: rest) here)
    {source1 source2 : Object} (ground1 : source1.level = .ground)
    (ground2 : source2.level = .ground)
    (enough : unmapped basis.left here.1.leftMap ≤ room)
    (descends : basis.Descends descend room (pair :: path) waiting) :
    basis.Ends (joinField basis.setting descend pair source1 source2 0 .ground field) here
      (FieldJoined basis path waiting pair rest here) := by
  have invariant := filling.invariant
  obtain ⟨value2, meeting, same⟩ := joinField_apply descend filling ground1 ground2
  refine Run.Ends.congr
    (Run.ends_bind _ (joinValuePair_ends invariant meeting rfl filling.ready enough
    descends) ?_) same
  intro outcome middle joined
  cases outcome with
  | undefined recoverable =>
      obtain ⟨rfl, unfit⟩ := joined
      exact Run.ends_pure unfit
  | joined value fold =>
      obtain ⟨invariant', onward, isJoint, offers⟩ := joined
      have held2' : middle.1.right.valueAt? pair.object2 field.range = some value2 :=
        (Graph.valueAt?_congr (onward.rightLayout filling.isOpen.relates.right (by simp)) _).trans
          meeting.held2
      refine (store_ends (filling.onward invariant' onward) held2' isJoint offers).mono ?_
        fun _ _ bad => bad
      intro outcome there stored
      cases outcome with
      | stored value fold =>
          obtain ⟨filling', stores, offers'⟩ := stored
          exact ⟨filling', (onward.weaken (fun _ none => none) (by simp) fun _ same => same).trans
            invariant invariant' stores, offers'⟩
      | missing => exact stored
      | refused => exact stored

/-- Joining the fields of a pair of objects. -/
theorem joinFields_ends {harvest : Harvest} (filling : Filling basis path waiting pair rest here)
    {source1 source2 : Object} (ground1 : source1.level = .ground)
    (ground2 : source2.level = .ground)
    (enough : unmapped basis.left here.1.leftMap ≤ room)
    (descends : basis.Descends descend room (pair :: path) waiting)
    (complete : harvest.complete = true)
    (offers : ∀ fold ∈ harvest.folds.payloads, Offers basis (pair :: path) here fold) :
    basis.Ends (joinFields (joinField basis.setting descend pair source1 source2 0 .ground) rest
        harvest) here fun
      | some last, there => last.complete = true ∧ Filling basis path waiting pair [] there ∧
          Onward basis [] [pair] ((pair :: path) ++ waiting) here there ∧
          ∀ fold ∈ last.folds.payloads, Offers basis (pair :: path) there fold
      | none, _ => ¬ basis.Folds → ¬ Cover basis.left basis.right := by
  induction rest generalizing here harvest with
  | nil => exact Run.ends_pure ⟨complete, filling, .refl .., offers⟩
  | cons field rest ih =>
      unfold joinFields
      refine Run.ends_bind _ (joinField_ends filling ground1 ground2 enough descends) ?_
      intro outcome middle joined
      cases outcome with
      | missing => exact joined.elim
      | refused => exact Run.ends_pure joined
      | stored value fold =>
          obtain ⟨filling', onward, offered⟩ := joined
          have less : unmapped basis.left middle.1.leftMap ≤ room :=
            Nat.le_trans (unmapped_le fun id isSome =>
              (onward.leftMap (Option.isSome_iff_exists.1 isSome).choose_spec).1) enough
          have complete' : (harvest.note value fold).complete = true := by
            cases fold <;> exact complete
          have offers' : ∀ other ∈ (harvest.note value fold).folds.payloads,
              Offers basis (pair :: path) middle other := by
            intro other member
            cases fold with
            | none => exact (offers other member).onward onward
            | some found =>
                rcases Table.mem_payloads_insert member with rfl | member
                · exact offered _ rfl
                · exact (offers other member).onward onward
          refine (ih filling' less complete' offers').mono ?_ fun _ _ bad => bad
          intro last there outcome
          cases last with
          | none => exact outcome
          | some last =>
              obtain ⟨isComplete, filled, further, offers''⟩ := outcome
              exact ⟨isComplete, filled, onward.trans filling.invariant filling'.invariant further,
                offers''⟩

/-! ### Pairs of objects -/

/-- Two objects with the same counterpart have the same size. -/
theorem size_eq_of_waiting (invariant : Invariant basis path (pair :: waiting) here) :
    ∃ source1 source2, here.1.left.object? pair.object1 = some source1 ∧
      here.1.right.object? pair.object2 = some source2 ∧ source1.size = source2.size ∧
      source1.level = .ground ∧ source2.level = .ground := by
  have isWaiting := invariant.waits pair List.mem_cons_self
  obtain ⟨proper1, -, source1, joint, found1, there, size1⟩ :=
    invariant.leftMap.source isWaiting.left
  obtain ⟨proper2, -, source2, joint', found2, there', size2⟩ :=
    invariant.rightMap.source isWaiting.right
  rw [there, Option.some.injEq] at there'
  subst there'
  exact ⟨source1, source2, (invariant.left.relaid.object? _).trans found1,
    (invariant.right.relaid.object? _).trans found2, size1.symm.trans size2,
    (basis.leftPlain.regions found1 proper1).2, (basis.rightPlain.regions found2 proper2).2⟩

/-- Aligning the layouts of a waiting pair goes through. -/
theorem align_apply (invariant : Invariant basis path (pair :: waiting) here)
    (apart : ∀ other ∈ waiting, other.dest ≠ pair.dest) :
    ∃ left right now, Aligning basis path waiting here pair left right now ∧
      onSides (Alignment.align pair.object1 pair.object2) here =
        .ok (Alignment.cutStatus (here.1.left.fieldsOf pair.object1)
          (here.1.right.fieldsOf pair.object2))
          ({ here.1 with left := left, right := right }, now) := by
  obtain ⟨source1, source2, found1, found2, size, -, -⟩ := size_eq_of_waiting invariant
  have positive : 0 < here.2.next := Nat.lt_of_lt_of_le basis.leftPlain.positive invariant.started
  have ends := Alignment.align_ends positive found1 found2 size invariant.left.tiled
    invariant.right.tiled (fun _ _ held => invariant.left.drawn held)
    (fun _ _ held => invariant.right.drawn held)
  unfold onSides
  rw [Run.within_apply]
  unfold Run.Ends at ends
  split at ends
  case h_1 status there done =>
    obtain ⟨rfl, aligned⟩ := ends
    exact ⟨there.1.1, there.1.2, there.2, ⟨invariant, apart, aligned⟩, rfl⟩
  case h_2 => exact ends.elim

/-- A pair whose layouts are aligned is about to be filled. -/
theorem Aligning.filling {left right : Graph} {now : Supply}
    (aligning : Aligning basis path waiting here pair left right now)
    (ready : Ready basis waiting here) :
    Filling basis path waiting pair (left.fieldsOf pair.object1)
      (here.1.aligning pair left right, now) where
  invariant := aligning.next
  ready := ⟨ready.named1, ready.named2, ready.outside⟩
  apart := aligning.apart
  realized := aligning.realized
  whole := aligning.whole
  stays _ := aligning.invariant.hasObject_of_left aligning.isWaiting.left
  listed field member := (Graph.mem_fieldsOf_iff.1 member).2
  nodup := by
    rw [List.Nodup, List.pairwise_map]
    refine (Graph.pairwise_fieldsOf _).imp fun less same => ?_
    rw [same] at less
    exact Nat.lt_irrefl _ less
  stored {range value1 value2} held1 _ outside := by
    have member : range ∈ (left.fieldsOf pair.object1).map Field.range :=
      List.mem_map.2 ⟨⟨pair.object1, range, value1⟩, Graph.mem_fieldsOf.2 held1, rfl⟩
    exact absurd member outside
  only {range value} held := by
    have empty : here.1.dest.valueAt? pair.dest range = none := aligning.isWaiting.empty range
    have held' : here.1.dest.valueAt? pair.dest range = some value := held
    rw [empty] at held'
    simp at held'

/-- What joining the contents of a pair of objects leads to. -/
def ContentsJoined (basis : Basis) (path waiting : List ObjectPair) (pair : ObjectPair)
    (here : Progress × Supply) : Bool → Progress × Supply → Prop
  | true, there => Invariant basis path waiting there ∧
      Onward basis [pair] [pair] (path ++ waiting) here there ∧
      Settled basis there.1 pair.object1 pair.object2 ∧ Filled there.1 pair
  | false, _ => ¬ basis.Folds → ¬ Cover basis.left basis.right

/-- Does the foldings that joining the fields of two objects has left to be done. -/
def finishFields : Option Harvest → Run Progress Bool
  | some harvest => if harvest.complete then doFolds harvest.folds.payloads else return false
  | none => return false

/-- Joins the fields of two objects whose layouts are aligned, and does the foldings. -/
def joinAligned (setting : Setting) (descend : Descend) (pair : ObjectPair)
    (source1 source2 : Object) : Run Progress Bool := do
  let holderLevel ← Run.demand fun progress => progress.levels.require source1.level source2.level
  let fields ← Run.ask fun progress => progress.left.fieldsOf pair.object1
  joinFields (joinField setting descend pair source1 source2 0 holderLevel) fields ⟨true, ∅⟩ >>=
    finishFields

theorem joinAligned_apply (setting : Setting) (descend : Descend)
    (levels : here.1.levels = .initial)
    {source1 source2 : Object} (ground1 : source1.level = .ground)
    (ground2 : source2.level = .ground) :
    joinAligned setting descend pair source1 source2 here =
      (joinFields (joinField setting descend pair source1 source2 0 .ground)
        (here.1.left.fieldsOf pair.object1) ⟨true, ∅⟩ >>= finishFields) here := by
  have level : here.1.levels.require source1.level source2.level = .ok .ground := by
    rw [ground1, ground2, levels]
    rfl
  unfold joinAligned
  exact (Run.bind_apply_ok (Run.demand_apply_ok level)).trans
    (Run.bind_apply_ok (Run.ask_apply _ _))

/-- Joining a pair of objects whose layouts are aligned. -/
theorem joinAligned_ends (isPath : Path basis (pair :: path))
    (filling : Filling basis path waiting pair (here.1.left.fieldsOf pair.object1) here)
    {source1 source2 : Object} (ground1 : source1.level = .ground)
    (ground2 : source2.level = .ground)
    (enough : unmapped basis.left here.1.leftMap ≤ room)
    (descends : basis.Descends descend room (pair :: path) waiting) :
    basis.Ends (joinAligned basis.setting descend pair source1 source2) here
      (ContentsJoined basis path waiting pair here) := by
  refine Run.Ends.congr (Run.ends_bind _
    (joinFields_ends filling ground1 ground2 enough descends rfl ?_) ?_)
    (joinAligned_apply basis.setting descend filling.invariant.levels ground1 ground2)
  · intro fold member
    exact absurd member List.not_mem_nil
  intro last middle joined
  cases last with
  | none => exact Run.ends_pure joined
  | some last =>
      obtain ⟨complete, filled, fills, offers⟩ := joined
      have closed := filled.closed
      have first : Onward basis [pair] [pair] (path ++ waiting) here middle :=
        fills.weaken (by simp) (fun _ same => same) fun other member =>
          List.mem_cons_of_mem _ member
      simp only [finishFields, complete, if_true]
      refine (doFolds_ends isPath closed filled.ready offers).mono ?_ fun _ _ bad => bad
      rintro (_ | _) there outcome
      · exact fun still => absurd outcome still
      · obtain ⟨invariant, folds⟩ := outcome
        exact ⟨invariant, first.trans filling.invariant closed
            (folds.weaken (by simp) (by simp) fun _ same => same),
          folds.settled filled.settled filled.isOpen.relates.left filled.isOpen.relates.right
            (by simp) (by simp),
          folds.filled filled.filled filled.settled filled.isOpen.relates (by simp) (by simp)
            (by simp) (filled.isOpen.before folds)⟩

/-- To join the contents of two objects of one size is to align their layouts first. -/
theorem joinContents_of_align {setting : Setting} {source1 source2 : Object} {status : Status}
    {left right : Graph} {now : Supply} (found1 : here.1.left.object? pair.object1 = some source1)
    (found2 : here.1.right.object? pair.object2 = some source2) (size : source1.size = source2.size)
    (aligned : onSides (Alignment.align pair.object1 pair.object2) here =
      .ok status ({ here.1 with left := left, right := right }, now))
    (same : SameRanges left right pair.object1 pair.object2) :
    joinContents setting descend pair 0 here = joinAligned setting descend pair source1 source2
      ({ here.1 with left := left, right := right, status := here.1.status.meet status }, now) := by
  unfold joinContents
  refine Eq.trans (Run.bind_apply_ok (Run.demand_apply_ok ((Graph.object_eq_ok_iff _).2 found1))) ?_
  refine Eq.trans (Run.bind_apply_ok (Run.demand_apply_ok ((Graph.object_eq_ok_iff _).2 found2))) ?_
  rw [if_neg (by simpa using size)]
  refine (Run.bind_apply_ok aligned).trans ((Run.bind_apply_ok (lower_apply _ _)).trans ?_)
  cases verify : setting.options.verify with
  | true => exact Run.bind_apply_ok (Run.demand_apply_ok same.check)
  | false => rfl

/-- To join the contents of a waiting pair of objects is to align their layouts first. -/
theorem joinContents_apply (descend : Descend)
    (invariant : Invariant basis path (pair :: waiting) here)
    (apart : ∀ other ∈ waiting, other.dest ≠ pair.dest) :
    ∃ source1 source2 left right now, source1.level = .ground ∧ source2.level = .ground ∧
      Aligning basis path waiting here pair left right now ∧
      joinContents basis.setting descend pair 0 here =
        joinAligned basis.setting descend pair source1 source2
          (here.1.aligning pair left right, now) := by
  obtain ⟨source1, source2, found1, found2, size, ground1, ground2⟩ :=
    size_eq_of_waiting invariant
  obtain ⟨left, right, now, aligning, aligned⟩ := align_apply invariant apart
  refine ⟨source1, source2, left, right, now, ground1, ground2, aligning, ?_⟩
  exact joinContents_of_align found1 found2 size aligned aligning.realized.sameRanges

/-- Joining the contents of a waiting pair of objects. -/
theorem joinContents_ends (isPath : Path basis (pair :: path))
    (invariant : Invariant basis path (pair :: waiting) here)
    (apart : ∀ other ∈ waiting, other.dest ≠ pair.dest) (ready : Ready basis waiting here)
    (enough : unmapped basis.left here.1.leftMap ≤ room)
    (descends : basis.Descends descend room (pair :: path) waiting) :
    basis.Ends (joinContents basis.setting descend pair 0) here
      (ContentsJoined basis path waiting pair here) := by
  obtain ⟨source1, source2, left, right, now, ground1, ground2, aligning, same⟩ :=
    joinContents_apply descend invariant apart
  have filling := aligning.filling ready
  have lays : Onward basis [pair] [pair] (path ++ waiting) here
      (here.1.aligning pair left right, now) := aligning.onward List.mem_cons_self
  have ends : basis.Ends (joinAligned basis.setting descend pair source1 source2)
      (here.1.aligning pair left right, now)
      (ContentsJoined basis path waiting pair (here.1.aligning pair left right, now)) :=
    joinAligned_ends isPath filling ground1 ground2 enough descends
  refine Run.Ends.congr ?_ same
  refine ends.mono ?_ fun _ _ bad => bad
  rintro (_ | _) last outcome
  · exact outcome
  · exact ⟨outcome.1, lays.trans invariant filling.invariant outcome.2.1, outcome.2.2⟩

/-- Joining a waiting pair of objects, and all that it leads to. -/
theorem joinObjects_ends (depth : Nat) (isPath : Path basis (pair :: path))
    (invariant : Invariant basis path (pair :: waiting) here)
    (apart : ∀ other ∈ waiting, other.dest ≠ pair.dest) (ready : Ready basis waiting here)
    (enough : unmapped basis.left here.1.leftMap < depth) :
    basis.Ends (joinObjects basis.setting depth pair 0) here
      (ObjectsJoined basis path waiting pair here) := by
  induction depth generalizing pair path waiting here with
  | zero => exact absurd enough (Nat.not_lt_zero _)
  | succ depth ih =>
      have descends : basis.Descends (fun object1 object2 dest =>
          joinObjects basis.setting depth ⟨object1, object2, dest⟩) depth (pair :: path) waiting :=
        fun invariant next apart ready enough => ih (.down isPath next) invariant apart ready enough
      unfold joinObjects joinObjectsWith
      refine Run.ends_bind _ (joinContents_ends isPath invariant apart ready
        (Nat.le_of_lt_succ enough) descends) ?_
      rintro (_ | _) middle outcome
      · exact Run.ends_bind_of_ok (Run.modify_apply _ _) (Run.ends_pure ⟨rfl, outcome⟩)
      · exact Run.ends_pure outcome

end Join

end ShapeDomain
