import ShapeDomain.Proofs.Join.Outcome
import ShapeDomain.Proofs.Run

/-!
# Joins that check their work

A join may check the layouts that it aligned and the graph that it made.  The checks change nothing:
a join that passes them has the same outcome without them.
-/

namespace ShapeDomain

namespace Run

variable {σ α β : Type}

/-- Wherever one run goes through, another one does so as well, with the same result and end. -/
def Follows (second first : Run σ α) : Prop :=
  ∀ (here there : σ × Supply) (result : α),
    first here = .ok result there → second here = .ok result there

theorem follows_refl (run : Run σ α) : Follows run run := fun _ _ _ done => done

theorem Follows.bind {first1 first2 : Run σ β} {next1 next2 : β → Run σ α}
    (start : Follows first2 first1) (rest : ∀ result, Follows (next2 result) (next1 result)) :
    Follows (first2 >>= next2) (first1 >>= next1) := by
  intro here there result done
  obtain ⟨middle, between, done1, done2⟩ := bind_eq_ok_iff.1 done
  exact bind_eq_ok_iff.2 ⟨middle, between, start _ _ _ done1, rest middle _ _ _ done2⟩

/-- Two runs that start alike. -/
theorem follows_bind {first : Run σ β} {next1 next2 : β → Run σ α}
    (rest : ∀ result, Follows (next2 result) (next1 result)) :
    Follows (first >>= next2) (first >>= next1) :=
  (follows_refl first).bind rest

/-- A check that is left out changes nothing. -/
theorem follows_check {question : σ → Except Fault Unit} {verify : Bool} {next1 : Unit → Run σ α}
    {next2 : Run σ α} (rest : Follows next2 (next1 ())) :
    Follows next2 (if verify then demand question >>= next1 else next1 ()) := by
  intro here there result done
  cases verify with
  | false => exact rest _ _ _ done
  | true =>
      replace done : (demand question >>= next1) here = .ok result there := done
      cases given : question here.1 with
      | error fault => simp [bind_apply_error (demand_apply_error given)] at done
      | ok answer =>
          rw [bind_apply_ok (demand_apply_ok given)] at done
          exact rest _ _ _ done

end Run

namespace Join

open Run

variable {setting : Setting} {descend1 descend2 : Descend}

/-- The same setting without checks. -/
def Setting.unchecked (setting : Setting) : Setting :=
  { setting with options := { setting.options with verify := false } }

section Descend

variable (below : ∀ object1 object2 dest levelDiff,
  Follows (descend2 object1 object2 dest levelDiff) (descend1 object1 object2 dest levelDiff))

include below

theorem joinAddresses_follows (value1 value2 : ValueId) (target1 target2 : Target) (levelDiff : Int)
    (holderLevel : Level) :
    Follows (joinAddresses setting.unchecked descend2 value1 value2 target1 target2 levelDiff
        holderLevel)
      (joinAddresses setting descend1 value1 value2 target1 target2 levelDiff holderLevel) := by
  unfold joinAddresses
  split
  · exact follows_refl _
  · refine follows_bind fun place => ?_
    cases place with
    | none => exact follows_refl _
    | some place =>
        refine follows_bind fun object => follows_bind fun specifier => ?_
        dsimp only
        split
        · exact follows_refl _
        · refine follows_bind fun dest => follows_bind fun _ => ?_
          cases place with
          | known _ => exact follows_refl _
          | made id => exact (below _ _ _ _).bind fun _ => follows_refl _

theorem joinValuePair_follows (value1 value2 : ValueId) (size : Nat) (levelDiff : Int)
    (holderLevel : Level) :
    Follows (joinValuePair setting.unchecked descend2 value1 value2 size levelDiff holderLevel)
      (joinValuePair setting descend1 value1 value2 size levelDiff holderLevel) := by
  unfold joinValuePair
  refine follows_bind fun progress => ?_
  split
  · exact follows_refl _
  · split
    · exact follows_refl _
    · split
      · exact follows_refl _
      · exact joinAddresses_follows below _ _ _ _ _ _
      · exact follows_refl _

theorem joinField_follows (pair : ObjectPair) (source1 source2 : Object) (levelDiff : Int)
    (holderLevel : Level) (field : Field) :
    Follows (joinField setting.unchecked descend2 pair source1 source2 levelDiff holderLevel field)
      (joinField setting descend1 pair source1 source2 levelDiff holderLevel field) := by
  unfold joinField
  refine follows_bind fun value2 => follows_bind fun level1 =>
    follows_bind fun level2 => follows_bind fun mapped => ?_
  split
  · exact (joinValuePair_follows below _ _ _ _ _).bind fun joined => follows_refl _
  · exact follows_refl _

omit below in
theorem joinFields_follows {join1 join2 : Field → Run Progress FieldJoin}
    (each : ∀ field, Follows (join2 field) (join1 field)) (fields : List Field)
    (harvest : Harvest) :
    Follows (joinFields join2 fields harvest) (joinFields join1 fields harvest) := by
  induction fields generalizing harvest with
  | nil => exact follows_refl _
  | cons field rest ih =>
      unfold joinFields
      refine (each field).bind fun joined => ?_
      cases joined with
      | stored value fold => exact ih _
      | missing => exact ih _
      | refused => exact follows_refl _

theorem joinContents_follows (pair : ObjectPair) (levelDiff : Int) :
    Follows (joinContents setting.unchecked descend2 pair levelDiff)
      (joinContents setting descend1 pair levelDiff) := by
  unfold joinContents
  refine follows_bind fun source1 => follows_bind fun source2 => ?_
  split
  · exact follows_refl _
  · refine follows_bind fun status => follows_bind fun _ => ?_
    refine follows_check (follows_bind fun holderLevel => follows_bind fun fields => ?_)
    exact (joinFields_follows (joinField_follows below _ _ _ _ _) fields _).bind fun joined =>
      follows_refl _

end Descend

theorem joinObjects_follows (depth : Nat) (pair : ObjectPair) (levelDiff : Int) :
    Follows (joinObjects setting.unchecked depth pair levelDiff)
      (joinObjects setting depth pair levelDiff) := by
  induction depth generalizing pair levelDiff with
  | zero => exact follows_refl _
  | succ depth ih =>
      exact (joinContents_follows (fun _ _ _ _ => ih _ _) pair levelDiff).bind fun joined =>
        follows_refl _

theorem joinPairs_follows (depth : Nat) (pairs : List ObjectPair) :
    Follows (joinPairs setting.unchecked depth pairs) (joinPairs setting depth pairs) := by
  induction pairs with
  | nil => exact follows_refl _
  | cons pair rest ih =>
      refine (joinObjects_follows depth pair 0).bind fun joined => ?_
      cases joined with
      | true => exact ih
      | false => exact follows_refl _

theorem joinAll_follows (setting : Setting) :
    Follows (joinAll setting.unchecked) (joinAll setting) := by
  unfold joinAll
  refine follows_bind fun depth => follows_bind fun paired => ?_
  cases paired with
  | none => exact follows_refl _
  | some pairs =>
      refine (joinPairs_follows depth pairs).bind fun joined => ?_
      cases joined with
      | false => exact follows_refl _
      | true => exact follows_bind fun _ => follows_check (follows_refl _)

end Join

/-- A join that checks its work has the same outcome without the checks. -/
theorem Graph.join_unchecked (options : Options) {left right : Graph} {supply now : Supply}
    {outcome : Join.Outcome} (done : left.join options right supply = .ok outcome now) :
    left.join { options with verify := false } right supply = .ok outcome now := by
  rw [join_apply] at done ⊢
  cases joined : Join.joinAll ⟨options, left == right⟩ (.start left right, supply) with
  | error fault there => simp [joined] at done
  | ok answer there =>
      have same : Join.joinAll ⟨{ options with verify := false }, left == right⟩
          (.start left right, supply) = .ok answer there :=
        Join.joinAll_follows ⟨options, left == right⟩ _ _ _ joined
      rw [joined] at done
      rw [same]
      exact done

end ShapeDomain
