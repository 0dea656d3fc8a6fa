import ShapeDomain.Proofs.Join.Apart
import ShapeDomain.Proofs.Join.Relaying
import ShapeDomain.Proofs.Join.Scopes

/-!
# What the steps of a join retain

Of the left graph a join changes the layouts only.  And a left object that has a counterpart goes on
having one: a folding gives it another one, and nothing takes it away.
-/

namespace ShapeDomain

namespace Join

variable {α β : Type} {here : Progress × Supply} {setting : Setting}

/-- Nothing but layouts changed in the left graph, and the left objects with counterparts still have
one. -/
structure Retained (here there : Progress) : Prop where
  /-- The left graph differs in its layouts only. -/
  left : here.left.Relaid there.left
  /-- Left objects have counterparts if they had. -/
  copied : ∀ {id}, (here.leftMap.object? id).isSome = true →
    (there.leftMap.object? id).isSome = true

namespace Retained

variable {here middle there : Progress}

theorem refl (here : Progress) : Retained here here :=
  ⟨.refl _, fun isSome => isSome⟩

theorem trans (first : Retained here middle) (second : Retained middle there) :
    Retained here there :=
  ⟨first.left.trans second.left, fun isSome => second.copied (first.copied isSome)⟩

end Retained

theorem Untouched.retained {there : Progress × Supply} (untouched : Untouched here there) :
    Retained here.1 there.1 :=
  ⟨untouched.left ▸ .refl _, untouched.copied⟩

/-- A computation that retains this. -/
def Retains (computation : Run Progress α) : Prop :=
  ∀ here, Run.Passes computation here fun _ there => Retained here.1 there.1

theorem Apart.retains {computation : Run Progress α} (apart : Apart computation) :
    Retains computation :=
  fun here => (apart.untouched here).mono fun _ _ untouched => untouched.retained

theorem retains_pure (result : α) : Retains (pure result) :=
  (apart_pure result).retains

theorem Retains.bind {first : Run Progress β} {next : β → Run Progress α} (retains : Retains first)
    (rest : ∀ result, Retains (next result)) : Retains (first >>= next) :=
  fun here => (retains here).bind fun result middle first =>
    (rest result middle).mono fun _ _ second => first.trans second

theorem retains_ask (question : Progress → α) : Retains (Run.ask question) :=
  fun here => Run.ends_of_ok (Run.ask_apply _ _) (.refl here.1)

theorem retains_demand (question : Progress → Except Fault α) : Retains (Run.demand question) := by
  intro here
  cases given : question here.1 with
  | ok answer => exact Run.ends_of_ok (Run.demand_apply_ok given) (.refl here.1)
  | error fault => exact Run.passes_of_error (Run.demand_apply_error given)

theorem retains_state : Retains Run.state :=
  fun here => Run.ends_of_ok (Run.state_apply _) (.refl here.1)

/-! ### Values -/

theorem retains_pairValues (value1 value2 dest : ValueId) :
    Retains (pairValues value1 value2 dest) := by
  refine fun here => passes_pairValues ⟨.refl _, fun {id} isSome => ?_⟩
  rw [Correspondence.object?] at isSome ⊢
  rwa [Progress.withJoint, objects_setUnlessZero]

theorem retains_noJoin (value1 value2 : ValueId) : Retains (noJoin setting value1 value2) :=
  retains_state.bind fun _ => retains_pure _

theorem retains_joinNumbers (value1 value2 : ValueId) (size : Nat) (levelDiff : Int) :
    Retains (joinNumbers value1 value2 size levelDiff) := by
  refine retains_state.bind fun progress => ?_
  dsimp only
  split
  case h_1 a b _ _ =>
    split
    case isFalse => exact retains_pure _
    case isTrue =>
      refine (apart_numberName value1 value2 a size).retains.bind fun dest => ?_
      have rest := (retains_pairValues value1 value2 dest).bind fun _ =>
        retains_pure (ValueJoin.joined dest none)
      cases dest.isZero with
      | true => exact rest
      | false => exact (apart_modifyDest _).retains.bind fun _ => rest
  case h_2 =>
    refine (apart_valueName value1 value2).retains.bind fun dest => ?_
    refine (retains_pairValues value1 value2 dest).bind fun _ => ?_
    exact (apart_lower _).retains.bind fun _ => retains_pure _

theorem retains_align (object1 object2 : ObjectId) :
    Retains (onSides (Alignment.align object1 object2)) := by
  intro here
  have nothing : Alignment.Keeps fun _ => True := ⟨by simp, by simp, by simp, by simp⟩
  exact Run.Ends.within (Alignment.passes_align (Alignment.keeps_relaid here.1.left) nothing
    (.refl here.1.left) trivial object1 object2)
    (fun _ _ both => ⟨both.1, fun isSome => isSome⟩) fun _ _ bad => bad

/-! ### Objects that get counterparts -/

/-- A left object that had no counterpart got one. -/
structure Fresh (here there : Progress) (object : ObjectId) : Prop where
  /-- It is an object of the left graph. -/
  present : here.left.hasObject object = true
  /-- It had no counterpart. -/
  free : here.leftMap.object? object = none
  /-- It has one. -/
  mapped : (there.leftMap.object? object).isSome = true

theorem passes_joinTargets {target1 target2 : ObjectId}
    (free : here.1.leftMap.object? target1 = none) :
    Run.Passes (joinTargets target1 target2) here fun found there =>
      Retained here.1 there.1 ∧ ∀ id, found = some id → Fresh here.1 there.1 target1 := by
  unfold joinTargets
  refine Run.passes_demand fun object1 found1 => Run.passes_demand fun object2 _ =>
    Run.ends_bind_of_ok (Run.state_apply _) ?_
  have present : here.1.left.hasObject target1 = true :=
    (Graph.hasObject_iff _).2 ⟨object1, (Graph.object_eq_ok_iff _).1 found1⟩
  dsimp only
  split
  case isTrue => exact Run.ends_pure ⟨.refl _, by simp⟩
  case isFalse =>
    split
    case h_2 => exact Run.ends_pure ⟨.refl _, by simp⟩
    case h_1 kind status level _ _ =>
      have paired (id : ObjectId) {there : Progress × Supply} (before : Retained here.1 there.1) :
          Run.Passes (do
            attemptDest fun graph => graph.setValid id (here.1.left.isValid target1)
            pairObjects target1 target2 id
            lower status
            return some id) there fun found there =>
            Retained here.1 there.1 ∧ ∀ id, found = some id → Fresh here.1 there.1 target1 := by
        refine ((apart_attemptDest _).retains there).bind fun _ _ validated => ?_
        refine Run.ends_bind (fun _ there =>
          Retained here.1 there.1 ∧ (there.1.leftMap.object? target1).isSome = true)
          (passes_pairObjects ?_) fun _ _ mapped => ?_
        · exact ⟨before.trans (validated.trans
            ⟨.refl _, Progress.copied_withPair _ target1 target2 id⟩),
              Progress.mapped_withPair _ _ _ _⟩
        · refine ((apart_lower status).retains _).bind fun _ _ lowered => ?_
          exact Run.ends_pure ⟨mapped.1.trans lowered,
            fun _ _ => ⟨present, free, lowered.copied mapped.2⟩⟩
      refine ((apart_objectName target1 target2).retains here).bind fun id _ named => ?_
      split
      · exact ((apart_modifyDest _).retains _).bind fun _ _ added => paired id (named.trans added)
      · exact ((apart_modifyDest _).retains _).bind fun _ _ added => paired id (named.trans added)

/-- Where two addresses lead: an object is made only for a left object that had no counterpart. -/
theorem passes_destination (target1 target2 : ObjectId) (here : Progress × Supply) :
    Run.Passes (destination target1 target2) here fun found there =>
      Retained here.1 there.1 ∧ ∀ id, found = some (.made id) → Fresh here.1 there.1 target1 := by
  unfold destination
  refine Run.ends_bind_of_ok (Run.state_apply _) ?_
  split
  case isTrue => exact Run.ends_pure ⟨.refl _, by simp⟩
  case isFalse =>
    split
    case h_1 =>
      refine Run.ends_pure ⟨.refl _, ?_⟩
      split <;> simp
    case h_2 free _ =>
      split
      case isTrue => exact Run.ends_pure ⟨.refl _, by simp⟩
      case isFalse =>
        refine (passes_joinTargets free).bind fun found _ joined => ?_
        refine Run.ends_pure ⟨joined.1, fun id made => ?_⟩
        obtain ⟨object, isSome, -⟩ := Option.map_eq_some_iff.1 made
        exact joined.2 object isSome
    case h_3 => exact Run.ends_pure ⟨.refl _, by simp⟩

/-! ### Variables -/

/-- All variables of some links are paired, if there are pairs at all. -/
def PairsOf (links : List Link) (found : Option (List ObjectPair)) (there : Progress) : Prop :=
  ∀ pairs, found = some pairs →
    (pairs.map ObjectPair.object1 = links.map fun link => link.1.2) ∧
      ∀ pair ∈ pairs, (there.leftMap.object? pair.object1).isSome = true

theorem pairsOf_none {links : List Link} {there : Progress} : PairsOf links none there := by
  simp [PairsOf]

theorem PairsOf.append {links others : List Link} {pairs : List ObjectPair}
    {found : Option (List ObjectPair)} {middle there : Progress}
    (first : PairsOf links (some pairs) middle) (retained : Retained middle there)
    (second : PairsOf others found there) :
    PairsOf (links ++ others) (found.map (pairs ++ ·)) there := by
  intro all isAll
  obtain ⟨later, isLater, rfl⟩ := Option.map_eq_some_iff.1 isAll
  obtain ⟨same, mapped⟩ := first pairs rfl
  obtain ⟨sameLater, mappedLater⟩ := second later isLater
  refine ⟨by rw [List.map_append, List.map_append, same, sameLater], fun pair member => ?_⟩
  exact (List.mem_append.1 member).elim (fun member => retained.copied (mapped pair member))
    (mappedLater pair)

theorem passes_matchVariable (declare : Declare) (link : Link) (here : Progress × Supply) :
    Run.Passes (matchVariable declare link.1.1 link.1.2 link.2.2) here fun found there =>
      Retained here.1 there.1 ∧ PairsOf [link] (found.map ([·])) there.1 := by
  unfold matchVariable
  refine Run.passes_demand fun source1 _ => Run.passes_demand fun source2 _ =>
    Run.ends_bind_of_ok (Run.state_apply _) ?_
  dsimp only
  split
  case isTrue => exact Run.ends_pure ⟨.refl _, pairsOf_none⟩
  case isFalse =>
    refine ((apart_objectName link.1.2 link.2.2).retains here).bind fun id _ named => ?_
    refine ((apart_attemptDest _).retains _).bind fun _ _ declared => ?_
    refine ((apart_attemptDest _).retains _).bind fun _ there validated => ?_
    refine Run.ends_bind (fun _ there =>
      Retained here.1 there.1 ∧ (there.1.leftMap.object? link.1.2).isSome = true)
      (passes_pairObjects ?_) fun _ _ mapped => ?_
    · exact ⟨named.trans (declared.trans (validated.trans
        ⟨.refl _, Progress.copied_withPair _ link.1.2 link.2.2 id⟩)),
          Progress.mapped_withPair _ _ _ _⟩
    · refine Run.ends_pure ⟨mapped.1, ?_⟩
      rintro _ ⟨⟩
      simpa using mapped.2

theorem passes_matchEach (declare : Declare) (links : List Link) (here : Progress × Supply) :
    Run.Passes (matchEach declare links) here fun found there =>
      Retained here.1 there.1 ∧ PairsOf links found there.1 := by
  induction links generalizing here with
  | nil =>
      refine Run.ends_pure ⟨.refl _, ?_⟩
      rintro _ ⟨⟩
      simp
  | cons link rest ih =>
      unfold matchEach
      refine (passes_matchVariable declare link here).bind fun found middle first => ?_
      cases found with
      | none => exact Run.ends_pure ⟨first.1, pairsOf_none⟩
      | some pair =>
          refine (ih middle).bind fun later there second => ?_
          exact Run.ends_pure ⟨first.1.trans second.1, PairsOf.append first.2 second.1 second.2⟩

theorem passes_matchScopes (declare : Declare) (scope1 scope2 : Table String ObjectId)
    (here : Progress × Supply) :
    Run.Passes (matchScopes declare scope1 scope2) here fun found there =>
      Retained here.1 there.1 ∧ PairsOf (scope1.toList.zip scope2.toList) found there.1 := by
  unfold matchScopes
  split
  case isTrue => exact passes_matchEach declare _ here
  case isFalse => exact Run.ends_pure ⟨.refl _, pairsOf_none⟩

theorem passes_matchFrames (frames : List (Frame × Frame)) (here : Progress × Supply) :
    Run.Passes (matchFrames frames) here fun found there =>
      Retained here.1 there.1 ∧ PairsOf (frameLinks frames) found there.1 := by
  induction frames generalizing here with
  | nil =>
      refine Run.ends_pure ⟨.refl _, ?_⟩
      rintro _ ⟨⟩
      simp [frameLinks]
  | cons both rest ih =>
      obtain ⟨frame1, frame2⟩ := both
      unfold matchFrames
      split
      case isTrue => exact Run.ends_pure ⟨.refl _, pairsOf_none⟩
      case isFalse =>
        refine ((apart_modifyDest _).retains here).bind fun _ entered before => ?_
        refine (passes_matchScopes _ frame1.locals frame2.locals entered).bind
          fun found middle first => ?_
        cases found with
        | none => exact Run.ends_pure ⟨before.trans first.1, pairsOf_none⟩
        | some pairs =>
            refine (ih middle).bind fun later there second => ?_
            exact Run.ends_pure ⟨before.trans (first.1.trans second.1),
              PairsOf.append first.2 second.1 second.2⟩

/-- The variables of the links of two graphs are paired. -/
theorem passes_matchVariables (here : Progress × Supply) :
    Run.Passes matchVariables here fun found there =>
      Retained here.1 there.1 ∧ PairsOf (links here.1.left here.1.right) found there.1 := by
  unfold matchVariables
  refine Run.ends_bind_of_ok (Run.state_apply _) ?_
  refine (passes_matchScopes _ here.1.left.globals here.1.right.globals here).bind
    fun found middle first => ?_
  cases found with
  | none => exact Run.ends_pure ⟨first.1, pairsOf_none⟩
  | some globals =>
      dsimp only
      split
      case isTrue => exact Run.ends_pure ⟨first.1, pairsOf_none⟩
      case isFalse =>
        refine (passes_matchFrames _ middle).bind fun later there second => ?_
        exact Run.ends_pure ⟨first.1.trans second.1, PairsOf.append first.2 second.1 second.2⟩

end Join

end ShapeDomain
