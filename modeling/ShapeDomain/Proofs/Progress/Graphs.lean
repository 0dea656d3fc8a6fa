import ShapeDomain.Proofs.Join.Outcome
import ShapeDomain.Proofs.Progress.Variables

/-!
# The whole join

The join of two plain graphs joins the pairs of variables one after the other.  It only stops with a
fault where folding can harm, and without folding it only gives up where something does not fit.
-/

namespace ShapeDomain

namespace Join

variable {basis : Basis} {lays fills kept pairs : List ObjectPair} {pair : ObjectPair}
variable {here there : Progress × Supply}

/-! ### Pairs of variables -/

/-- A pair of variables is joined. -/
structure Rooted (basis : Basis) (here : Progress × Supply) (pair : ObjectPair) : Prop where
  /-- The left object has its counterpart. -/
  left : here.1.leftMap.object? pair.object1 = some pair.dest
  /-- So has the right object. -/
  right : here.1.rightMap.object? pair.object2 = some pair.dest
  /-- The counterpart is no list segment. -/
  region : here.1.dest.isList pair.dest = false
  /-- The objects are joined. -/
  settled : Settled basis here.1 pair.object1 pair.object2
  /-- The counterpart holds their joint values. -/
  filled : Filled here.1 pair

/-- The counterpart of a pair that waits stays, if it is not part of the heap. -/
theorem Rooted.of_waiting (waiting : Waiting basis here.1 pair) (outside : Outside here pair.dest)
    (onward : Onward basis lays fills kept here there)
    (settled : Settled basis there.1 pair.object1 pair.object2) (filled : Filled there.1 pair) :
    Rooted basis there pair := by
  have present := (onward.stays outside.1 outside.2).1
  refine ⟨(onward.leftMap waiting.left).2 present, (onward.rightMap waiting.right).2 present, ?_,
    settled, filled⟩
  have same : there.1.dest.object? pair.dest = here.1.dest.object? pair.dest := by
    rw [Graph.object?, onward.object outside.1 present, Graph.object?]
  exact (Graph.isList_congr same).trans waiting.region

/-- Pairs that wait for different left objects have different counterparts. -/
theorem Invariant.dest_ne (invariant : Invariant basis [] (pair :: pairs) here)
    (new : pair.object1 ∉ pairs.map ObjectPair.object1) {other : ObjectPair}
    (member : other ∈ pairs) :
    other.dest ≠ pair.dest := by
  intro same
  have waits := invariant.waits pair List.mem_cons_self
  have mapped := (invariant.waits other (List.mem_cons_of_mem _ member)).left
  rw [same] at mapped
  rcases invariant.leftMap.unique waits.left mapped with same | list
  · exact new (same ▸ List.mem_map_of_mem member)
  · rw [waits.region] at list
    simp at list

/-- Joining pairs of variables one after the other. -/
theorem joinPairs_ends {depth : Nat} (invariant : Invariant basis [] pairs here)
    (ready : Ready basis pairs here) (distinct1 : (pairs.map ObjectPair.object1).Nodup)
    (distinct2 : (pairs.map ObjectPair.object2).Nodup)
    (enough : unmapped basis.left here.1.leftMap < depth) :
    basis.Ends (joinPairs basis.setting depth pairs) here fun
      | true, there => Invariant basis [] [] there ∧ Onward basis pairs pairs [] here there ∧
          ∀ pair ∈ pairs, Rooted basis there pair
      | false, _ => ¬ basis.Folds → ¬ Cover basis.left basis.right := by
  induction pairs generalizing here with
  | nil => exact Run.ends_pure ⟨invariant, .refl .., by simp⟩
  | cons pair rest ih =>
      obtain ⟨new1, distinct1⟩ := List.nodup_cons.1 distinct1
      obtain ⟨new2, distinct2⟩ := List.nodup_cons.1 distinct2
      have readyRest : Ready basis rest here :=
        ⟨ready.named1, ready.named2, fun other member =>
          ready.outside other (List.mem_cons_of_mem _ member)⟩
      have waits := invariant.waits pair List.mem_cons_self
      have outside := ready.outside pair List.mem_cons_self
      unfold joinPairs
      refine Run.ends_bind _ (joinObjects_ends depth (.root pair) invariant
        (fun other member => invariant.dest_ne new1 member) readyRest enough) ?_
      intro outcome middle joined
      cases outcome with
      | false =>
          obtain ⟨status, unfit⟩ := joined
          refine Run.ends_bind_of_ok (Run.ask_apply _ _) ?_
          rw [if_pos status]
          exact Run.ends_pure unfit
      | true =>
          obtain ⟨invariant', first, settled, filled⟩ := joined
          have less : unmapped basis.left middle.1.leftMap < depth :=
            Nat.lt_of_le_of_lt (unmapped_le fun id isSome =>
              (first.leftMap (Option.isSome_iff_exists.1 isSome).choose_spec).1) enough
          refine (ih invariant' (readyRest.onward first) distinct1 distinct2 less).mono ?_
            fun _ _ bad => bad
          intro outcome there joined
          cases outcome with
          | false => exact joined
          | true =>
              obtain ⟨last, second, rooted⟩ := joined
              have wider : Onward basis (pair :: rest) (pair :: rest) [] here middle :=
                first.weaken (by simp) (by simp) (by simp)
              have onward : Onward basis (pair :: rest) (pair :: rest) [] here there :=
                wider.trans invariant invariant' (second.weaken
                  (fun _ => List.mem_cons_of_mem _) (fun _ => List.mem_cons_of_mem _) (by simp))
              refine ⟨last, onward, fun other member => ?_⟩
              rcases List.mem_cons.1 member with rfl | member
              · have relates := first.relates ⟨_, waits.left, waits.right⟩
                have apart1 (top : ObjectPair) (member : top ∈ rest) :
                  other.object1 ≠ top.object1 :=
                  fun same => new1 (same ▸ List.mem_map_of_mem member)
                have apart2 (top : ObjectPair) (member : top ∈ rest) :
                  other.object2 ≠ top.object2 :=
                  fun same => new2 (same ▸ List.mem_map_of_mem member)
                exact .of_waiting waits outside onward
                  (second.settled settled relates.left relates.right apart1 apart2)
                  (second.filled filled settled relates apart1 apart2
                    (fun top member same => invariant.dest_ne new1 member same.symm)
                    fun _ => (first.stays outside.1 outside.2).1)
              · exact rooted other member

/-! ### All variables -/

/-- Where no values are known to be unequal, there is nothing to keep. -/
theorem keepInequalities_of_unrelated (none1 : here.1.left.inequalities = ∅)
    (none2 : here.1.right.inequalities = ∅) : keepInequalities here = .ok () here := by
  have left : mappedInequalities here.1.left here.1.leftMap = ∅ := by
    rw [mappedInequalities, none1]
    rfl
  have right : mappedInequalities here.1.right here.1.rightMap = ∅ := by
    rw [mappedInequalities, none2]
    rfl
  unfold keepInequalities
  rw [Run.bind_apply_ok (Run.state_apply _)]
  simp only [left, right]
  rfl

/-- The join of two graphs is finished. -/
structure Finished (basis : Basis) (here : Progress × Supply) : Prop where
  /-- Nothing waits to be joined. -/
  invariant : Invariant basis [] [] here
  /-- The graphs have the same variables. -/
  scopes : basis.left.SameScopes basis.right
  /-- So has the destination. -/
  declared : basis.left.SameScopes here.1.dest
  /-- The variables are joined. -/
  rooted : ∀ {name id1 id2}, basis.left.named? name = some id1 →
    basis.right.named? name = some id2 → ∃ image, Rooted basis here ⟨id1, id2, image⟩
  /-- Their counterparts are the variables of the same names. -/
  named : ∀ {name id1 id2 image}, basis.left.named? name = some id1 →
    basis.right.named? name = some id2 → here.1.leftMap.object? id1 = some image →
    here.1.dest.named? name = some image

/-- Joining two graphs. -/
theorem joinAll_ends (basis : Basis) :
    basis.Ends (joinAll basis.setting) (.start basis.left basis.right, ⟨basis.start⟩) fun
      | true, there => Finished basis there
      | false, _ => ¬ basis.Folds → ¬ Cover basis.left basis.right := by
  unfold joinAll
  refine Run.ends_bind_of_ok (Run.ask_apply _ _) ?_
  refine Run.ends_bind _ (matchVariables_ends basis) ?_
  intro outcome middle paired
  cases outcome with
  | none => exact Run.ends_pure fun _ => paired
  | some pairs =>
      obtain ⟨matching, matched⟩ := paired
      refine Run.ends_bind _ (joinPairs_ends matching.invariant (matching.ready matched)
        (by simpa using matching.distinct1) (by simpa using matching.distinct2)
        (unmapped_lt_size basis.left _)) ?_
      intro outcome there joined
      cases outcome with
      | false => exact Run.ends_pure joined
      | true =>
          obtain ⟨invariant, onward, rooted⟩ := joined
          have finished : Finished basis there := by
            refine ⟨invariant, matched.scopes, matched.declared.congr onward.stack onward.globals,
              fun named1 named2 => ?_, fun named1 named2 isImage => ?_⟩
            · obtain ⟨pair, member, rfl, rfl, -⟩ := matched.paired named1 named2
              exact ⟨pair.dest, rooted pair member⟩
            · obtain ⟨pair, member, rfl, rfl, named⟩ := matched.paired named1 named2
              rw [(rooted pair member).left] at isImage
              rw [Graph.named?_congr onward.stack onward.globals, named, isImage]
          have none1 := invariant.left.relaid.inequalities.trans basis.leftPlain.unrelated
          have none2 := invariant.right.relaid.inequalities.trans basis.rightPlain.unrelated
          refine Run.ends_bind_of_ok (keepInequalities_of_unrelated none1 none2) ?_
          cases verify : basis.setting.options.verify with
          | true =>
              exact Run.ends_bind_of_ok (Run.demand_apply_ok invariant.dest.consistent)
                (Run.ends_pure finished)
          | false => exact Run.ends_pure finished

/-! ### Outcomes -/

/-- What joining two graphs leads to. -/
inductive Concluded (basis : Basis) : EStateM.Result Fault Supply Outcome → Prop where
  /-- There is a joint graph. -/
  | defined {there : Progress × Supply} : Finished basis there →
      Concluded basis (.ok (.defined there.1.dest there.1.status) there.2)
  /-- There is none, as something does not fit, unless list nodes were folded. -/
  | undefined {now : Supply} : (¬ basis.Folds → ¬ Cover basis.left basis.right) →
      Concluded basis (.ok .undefined now)
  /-- Folding did harm. -/
  | stopped {fault : Fault} {now : Supply} : ¬ basis.Safe → Concluded basis (.error fault now)

end Join

/-- What joining two plain graphs starts from. -/
def Graph.basis (options : Options) {left right : Graph} {supply : Supply}
    (leftPlain : left.Plain supply.next) (rightPlain : right.Plain supply.next) : Join.Basis :=
  ⟨left, right, ⟨options, left == right⟩, supply.next, leftPlain, rightPlain⟩

/-- What joining two plain graphs leads to. -/
theorem Graph.join_concluded (options : Options) {left right : Graph} {supply : Supply}
    (leftPlain : left.Plain supply.next) (rightPlain : right.Plain supply.next) :
    Join.Concluded (Graph.basis options leftPlain rightPlain) (left.join options right supply) := by
  have ends := Join.joinAll_ends (Graph.basis options leftPlain rightPlain)
  unfold Join.Basis.Ends Run.Ends at ends
  rw [join_apply]
  split at ends
  case h_1 joined there done =>
    replace done : Join.joinAll ⟨options, left == right⟩ (.start left right, supply) =
      .ok joined there := done
    rw [done]
    cases joined with
    | true => exact .defined ends
    | false => exact .undefined ends
  case h_2 fault there stopped =>
    replace stopped : Join.joinAll ⟨options, left == right⟩ (.start left right, supply) =
      .error fault there := stopped
    rw [stopped]
    exact .stopped ends

/-- Two plain graphs have a join or none, but no fault, if no list nodes are folded. -/
theorem Graph.Plain.exists_outcome {options : Options} {left right : Graph} {supply : Supply}
    (leftPlain : left.Plain supply.next) (rightPlain : right.Plain supply.next)
    (still : options.foldLists = false) :
    ∃ outcome now, left.join options right supply = .ok outcome now := by
  have safe : (Graph.basis options leftPlain rightPlain).Safe := by
    rintro ⟨folds, -⟩
    have folds : options.foldLists = true := folds
    simp [folds] at still
  have concluded := Graph.join_concluded options leftPlain rightPlain
  generalize left.join options right supply = result at concluded ⊢
  cases concluded with
  | defined _ => exact ⟨_, _, rfl⟩
  | undefined _ => exact ⟨_, _, rfl⟩
  | stopped harmful => exact absurd safe harmful

end ShapeDomain
