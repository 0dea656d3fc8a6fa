import ShapeDomain.Proofs.Unequal.Ledger

/-!
# Giving two values their joint value

A pair of values gets a joint value of its own, unless both may vanish and it gets zero, or both are
addresses and it gets the address that the destination has of their place.  A value that both graphs
hold keeps its name, and no other pair can have got that before.
-/

namespace ShapeDomain

namespace Join

variable {outset : Outset} {here : Progress × Supply} {progress : Progress} {dest next : Graph}
variable {value1 value2 value : ValueId} {size now : Nat}

/-! ### Joint values that a pair may get -/

/-- Two values have no counterparts yet, and the right graph holds the second one. -/
structure Unjoined (progress : Progress) (value1 value2 : ValueId) : Prop where
  /-- They have no joint value. -/
  new : progress.joined.get? (value1, value2) = none
  /-- They are not both zero. -/
  proper : ¬ (value1 = .zero ∧ value2 = .zero)
  /-- The left one has no counterpart. -/
  free1 : value1 = .zero ∨ progress.leftMap.value? value1 = none
  /-- Nor has the right one. -/
  free2 : value2 = .zero ∨ progress.rightMap.value? value2 = none
  /-- The right graph holds its value. -/
  held : ∃ object range, progress.right.valueAt? object range = some value2

/-- A name for a joint value that stands for no pair yet: it is that of both values, or nothing that
the joined graphs hold has it. -/
structure NewName (progress : Progress) (value1 value2 value : ValueId) (now : Nat) : Prop where
  /-- It was drawn. -/
  drawn : value.index < now
  /-- It is not that of zero. -/
  proper : value ≠ .zero
  /-- It is in use for no pair. -/
  unused : ∀ {values}, progress.joined.get? values ≠ some value
  /-- It is that of both values, or nothing has it. -/
  own : (value1 = value ∧ value2 = value) ∨ Unheld progress value

/-- At most the place that one value is the address of differs. -/
structure Repointed (value : ValueId) (dest next : Graph) : Prop where
  /-- Other addresses lead where they led. -/
  targets : ∀ {other}, other ≠ value → next.target? other = dest.target? other
  /-- The layouts are the same. -/
  layouts : next.layouts = dest.layouts
  /-- The same functions run. -/
  stack : next.stack = dest.stack
  /-- The global variables are the same. -/
  globals : next.globals = dest.globals
  /-- The inequalities are the same. -/
  inequalities : next.inequalities = dest.inequalities

theorem Repointed.refl (value : ValueId) (dest : Graph) : Repointed value dest dest :=
  ⟨fun _ => rfl, rfl, rfl, rfl, rfl⟩

theorem repointed_putPointer (dest : Graph) (pointer : Pointer) :
    Repointed pointer.value dest (dest.putPointer pointer) where
  targets different := by rw [Graph.target?_putPointer, if_neg different]
  layouts := rfl
  stack := rfl
  globals := rfl
  inequalities := rfl

/-- What the destination `next` says about a joint value fits a pair of values. -/
structure StandsFor (outset : Outset) (progress : Progress) (next : Graph)
    (value1 value2 value : ValueId) :
    Prop where
  /-- Nothing else that the joined graphs hold has its name. -/
  own : value = .zero ∨ (value1 = value ∧ value2 = value) ∨
    progress.joined.get? (value, value) = some value ∨ Unheld progress value
  /-- If it is zero, both values may vanish. -/
  zeros : value = .zero → outset.left.MayVanish value1 ∧ outset.right.MayVanish value2
  /-- If it is another address, both values are addresses. -/
  leads : ∀ {place}, value ≠ .zero → next.target? value = some place →
    outset.Leads progress value1 value2 place
  /-- It stands for other pairs only if it is the address of a place, and then of the same place as
  before. -/
  alone : value = .zero ∨ (∀ values, progress.joined.get? values ≠ some value) ∨
    ∃ place, progress.dest.target? value = some place ∧ next.target? value = some place

theorem NewName.standsFor (name : NewName progress value1 value2 value now)
    (leads : ∀ {place}, next.target? value = some place →
      outset.Leads progress value1 value2 place) :
    StandsFor outset progress next value1 value2 value where
  own := .inr (name.own.imp_right .inr)
  zeros zero := absurd zero name.proper
  leads _ isTarget := leads isTarget
  alone := .inr (.inl fun _ => name.unused)

namespace Ledger

/-- The name of a value that both graphs hold is in use for no pair. -/
theorem newName_own (ledger : Ledger outset here) (keeping : Keeping here)
    (unjoined : Unjoined here.1 value value) :
    NewName here.1 value value value here.2.next := by
  obtain ⟨object, range, held⟩ := unjoined.held
  have proper : value ≠ .zero := fun zero => unjoined.proper ⟨zero, zero⟩
  refine ⟨keeping.right.held held, proper, fun {values} isJoint => ?_, .inl ⟨rfl, rfl⟩⟩
  rcases ledger.own isJoint with zero | own | unheld
  · exact proper zero
  · simp [unjoined.new] at own
  · exact (unheld object range).2 held

/-- A name that is just being drawn is new. -/
theorem newName_drawn (ledger : Ledger outset here) (keeping : Keeping here)
    (value1 value2 : ValueId) :
    NewName here.1 value1 value2 ⟨here.2.next⟩ (here.2.next + 1) where
  drawn := Nat.lt_succ_self _
  proper zero := absurd (congrArg ValueId.index zero) (Nat.ne_of_gt keeping.positive)
  unused isJoint := absurd (ledger.drawn isJoint) (Nat.lt_irrefl _)
  own := .inr fun _ _ => ⟨fun held => absurd (keeping.left.held held) (Nat.lt_irrefl _),
    fun held => absurd (keeping.right.held held) (Nat.lt_irrefl _)⟩

/-- What stands for no pair is no address. -/
theorem target?_of_newName (ledger : Ledger outset here)
    (name : NewName here.1 value1 value2 value now) : here.1.dest.target? value = none := by
  refine Option.eq_none_iff_forall_ne_some.2 fun place isTarget => ?_
  rcases ledger.pointers isTarget with zero | ⟨values, isJoint⟩
  · exact name.proper zero
  · exact name.unused isJoint

end Ledger

/-! ### Giving a pair its joint value -/

/-- A pair has a joint value because it just got it or because it had it before. -/
theorem joint_of_withJoint {values : ValueId × ValueId} {found : ValueId}
    (isJoint : (progress.withJoint value1 value2 value).joined.get? values = some found) :
    (values = (value1, value2) ∧ found = value) ∨ progress.joined.get? values = some found := by
  replace isJoint : (progress.joined.insert (value1, value2) value).get? values =
    some found := isJoint
  rw [Table.get?_insert] at isJoint
  split at isJoint
  case isTrue same => exact .inl ⟨same, (Option.some.inj isJoint).symm⟩
  case isFalse => exact .inr isJoint

theorem joint_withJoint_self (progress : Progress) (value1 value2 value : ValueId) :
    (progress.withJoint value1 value2 value).joined.get? (value1, value2) = some value :=
  Table.get?_insert_self ..

theorem Unjoined.joint_withJoint (unjoined : Unjoined progress value1 value2)
    {values : ValueId × ValueId} {found : ValueId}
    (isJoint : progress.joined.get? values = some found)
    (value : ValueId) : (progress.withJoint value1 value2 value).joined.get? values =
      some found := by
  refine (Table.get?_insert_of_ne _ ?_ value).trans isJoint
  rintro rfl
  simp [unjoined.new] at isJoint

/-- A value has a counterpart because it just got it or because it had it before. -/
theorem of_counterpart_setUnlessZero {map : Correspondence} {source other found : ValueId}
    (bound : (setUnlessZero map source value).value? other = some found) :
    (other = source ∧ source ≠ .zero ∧ found = value) ∨ map.value? other = some found := by
  rw [value?_setUnlessZero] at bound
  split at bound
  case isTrue same =>
    exact .inl ⟨same.1, by simpa [ValueId.isZero] using same.2, (Option.some.inj bound).symm⟩
  case isFalse => exact .inr bound

namespace Ledger

/-- A pair that has a value already shares it with another one only if it is zero or both are
addresses of the same place. -/
theorem leads_of_shared (ledger : Ledger outset here)
    (stands : StandsFor outset here.1 next value1 value2 value) {values : ValueId × ValueId}
    (isJoint : here.1.joined.get? values = some value) :
    value = .zero ∨ ∃ place, next.target? value = some place ∧
      outset.Leads here.1 values.1 values.2 place ∧ outset.Leads here.1 value1 value2 place := by
  rcases stands.alone with zero | unused | ⟨place, before, after⟩
  · exact .inl zero
  · exact absurd isJoint (unused values)
  · refine (Classical.em _).imp_right fun proper => ?_
    exact ⟨place, after, ledger.leads isJoint proper before, stands.leads proper after⟩

/-- Addresses that lead to one place of the destination have the same place. -/
theorem samePlace (ledger : Ledger outset here) {other1 other2 : ValueId} {place : Target}
    (leads : outset.Leads here.1 value1 value2 place)
    (leads' : outset.Leads here.1 other1 other2 place) :
    outset.left.SamePlace outset.folds value1 other1 ∧
      outset.right.SamePlace outset.folds value2 other2 :=
  ⟨leads.1.samePlace leads'.1 ledger.distinct1 ledger.null1,
    leads.2.samePlace leads'.2 ledger.distinct2 ledger.null2⟩

/-- A pair of values gets a joint value. -/
theorem withJoint (ledger : Ledger outset here) (unjoined : Unjoined here.1 value1 value2)
    (drawn : value.index < here.2.next) (repointed : Repointed value here.1.dest next)
    (stands : StandsFor outset here.1 next value1 value2 value) :
    Ledger outset ({ here.1 with dest := next }.withJoint value1 value2 value, here.2) := by
  let made : Progress := { here.1 with dest := next }
  have isUnjoined : Unjoined made value1 value2 := { unjoined with }
  have remembers {values : ValueId × ValueId} {found : ValueId}
      (isJoint : here.1.joined.get? values = some found) :
      (made.withJoint value1 value2 value).joined.get? values = some found :=
    isUnjoined.joint_withJoint isJoint value
  have new := joint_withJoint_self made value1 value2 value
  have object? (map : Correspondence) (source : ValueId) (id : ObjectId) :
      (setUnlessZero map source value).object? id = map.object? id := object?_setUnlessZero ..
  have leads_mono {first second : ValueId} {place : Target}
      (leads : outset.Leads here.1 first second place) :
      outset.Leads (made.withJoint value1 value2 value) first second place :=
    leads.imp (.mono · rfl fun _ => ⟨rfl, fun mapped => (object? ..).trans mapped⟩)
      (.mono · rfl fun _ => ⟨rfl, fun mapped => (object? ..).trans mapped⟩)
  have target? (other : ValueId) :
      (made.withJoint value1 value2 value).dest.target? other = next.target? other :=
    Graph.target?_addValue _ _ other
  exact
    { started := ledger.started
      left := ledger.left
      right := ledger.right
      common := ledger.common
      accounts1 := ledger.accounts1
      accounts2 := ledger.accounts2
      mapped := fun anchor member => by
        obtain ⟨left, right, early⟩ := ledger.mapped anchor member
        exact ⟨(congrArg Option.isSome (object? ..)).trans left,
          (congrArg Option.isSome (object? ..)).trans right, early⟩
      null1 := fun mapped => ledger.null1 ((object? ..).symm.trans mapped)
      null2 := fun mapped => ledger.null2 ((object? ..).symm.trans mapped)
      counterparts := fun {first second found} isJoint => by
        rcases joint_of_withJoint isJoint with ⟨same, rfl⟩ | old
        · obtain ⟨rfl, rfl⟩ := Prod.mk.inj same
          exact ⟨value?_setUnlessZero_self .., value?_setUnlessZero_self ..⟩
        · exact (ledger.counterparts old).imp
            (Or.imp_right (value?_setUnlessZero_of_some unjoined.free1))
            (Or.imp_right (value?_setUnlessZero_of_some unjoined.free2))
      source1 := fun {source found} bound => by
        rcases of_counterpart_setUnlessZero bound with ⟨rfl, proper, rfl⟩ | old
        · exact ⟨proper, value2, new⟩
        · exact (ledger.source1 old).imp_right fun ⟨partner, isJoint⟩ =>
            ⟨partner, remembers isJoint⟩
      source2 := fun {source found} bound => by
        rcases of_counterpart_setUnlessZero bound with ⟨rfl, proper, rfl⟩ | old
        · exact ⟨proper, value1, new⟩
        · exact (ledger.source2 old).imp_right fun ⟨partner, isJoint⟩ =>
            ⟨partner, remembers isJoint⟩
      drawn := fun isJoint =>
        (joint_of_withJoint isJoint).elim (fun same => same.2 ▸ drawn) ledger.drawn
      own := fun {values found} isJoint => by
        rcases joint_of_withJoint isJoint with ⟨-, rfl⟩ | old
        · rcases stands.own with zero | ⟨rfl, rfl⟩ | own | unheld
          · exact .inl zero
          · exact .inr (.inl new)
          · exact .inr (.inl (remembers own))
          · exact .inr (.inr unheld)
        · exact (ledger.own old).imp_right (Or.imp_left remembers)
      zeros := fun {first second} isJoint => by
        rcases joint_of_withJoint isJoint with ⟨same, zero⟩ | old
        · obtain ⟨rfl, rfl⟩ := Prod.mk.inj same
          exact stands.zeros zero.symm
        · exact ledger.zeros old
      distinct1 := fun off => (ledger.distinct1 off).of_eq (object? _ _) (Nat.le_refl _)
      distinct2 := fun off => (ledger.distinct2 off).of_eq (object? _ _) (Nat.le_refl _)
      leads := fun {first second found place} isJoint proper isTarget => by
        rw [target?] at isTarget
        refine leads_mono ?_
        rcases joint_of_withJoint isJoint with ⟨same, rfl⟩ | old
        · obtain ⟨rfl, rfl⟩ := Prod.mk.inj same
          exact stands.leads proper isTarget
        · by_cases isNew : found = value
          · subst isNew
            obtain ⟨after, same, leads, -⟩ :=
              (ledger.leads_of_shared stands old).resolve_left proper
            obtain rfl := Option.some.inj (same.symm.trans isTarget)
            exact leads
          · exact ledger.leads old proper (repointed.targets isNew ▸ isTarget)
      pointers := fun {found place} isTarget => by
        rw [target?] at isTarget
        by_cases isNew : found = value
        · exact .inr ⟨(value1, value2), isNew.symm ▸ new⟩
        · exact (ledger.pointers (repointed.targets isNew ▸ isTarget)).imp_right
            fun ⟨values, old⟩ => ⟨values, remembers old⟩
      single := fun {first second other1 other2 found} isJoint isJoint' => by
        rcases joint_of_withJoint isJoint with ⟨same, isNew⟩ | old <;>
          rcases joint_of_withJoint isJoint' with ⟨same', isNew'⟩ | old'
        · exact .inr (.inl (Prod.mk.inj (same.trans same'.symm)))
        · subst isNew
          obtain ⟨rfl, rfl⟩ := Prod.mk.inj same
          exact (ledger.leads_of_shared stands old').imp_right fun ⟨_, _, other, this⟩ =>
            .inr (ledger.samePlace this other)
        · subst isNew'
          obtain ⟨rfl, rfl⟩ := Prod.mk.inj same'
          exact (ledger.leads_of_shared stands old).imp_right fun ⟨_, _, other, this⟩ =>
            .inr (ledger.samePlace other this)
        · exact ledger.single old old'
      fields := fun anchor member {range first second found} held held1 held2 => by
        have before : here.1.dest.valueAt? anchor.dest range = some found := by
          rw [Graph.valueAt?, Graph.layout, ← repointed.layouts]
          exact held
        have later : Remembers here (made.withJoint value1 value2 value, here.2) := ⟨remembers⟩
        exact later.jointValue? (ledger.fields anchor member before held1 held2)
      names := fun {name image} named => ledger.names <|
        @Graph.named?_congr here.1.dest _ repointed.stack repointed.globals name ▸ named
      related := repointed.inequalities.trans ledger.related }

end Ledger

end Join

end ShapeDomain
