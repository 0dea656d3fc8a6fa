import Mathlib
import ShapeDomain.Proofs.Coverage.Collected
import ShapeDomain.Proofs.Join.Outcome
import ShapeDomain.Proofs.Unequal.Objects
import ShapeDomain.Proofs.Unequal.Variables

/-!
# Inequalities common to both graphs

A join keeps an inequality between two values of the destination if both graphs know of one between
values that have them as counterparts.  What the variables of the destination hold are joint values
of what the variables of both graphs hold, so that this says which inequalities between the contents
of variables survive.
-/

namespace ShapeDomain

namespace Graph

variable {a b c d : ValueId}

theorem ordered_eq_or (a b : ValueId) : ordered a b = (a, b) ∨ ordered a b = (b, a) := by
  unfold ordered
  split
  · exact .inl rfl
  · exact .inr rfl

/-- Pairs are the same once they are ordered if they have the same values. -/
theorem ordered_eq_ordered_iff :
    ordered a b = ordered c d ↔ (a = c ∧ b = d) ∨ (a = d ∧ b = c) := by
  constructor
  · intro same
    rcases ordered_eq_or a b with first | first <;>
      rcases ordered_eq_or c d with second | second <;>
      rw [first, second, Prod.mk.injEq] at same
    · exact .inl same
    · exact .inr same
    · exact .inr ⟨same.2, same.1⟩
    · exact .inl ⟨same.2, same.1⟩
  · rintro (⟨rfl, rfl⟩ | ⟨rfl, rfl⟩)
    · rfl
    · exact ordered_comm _ _

/-- Where the smaller value is named first, an inequality is known if it is recorded in this
order. -/
theorem knowsUnequal_iff_of_increasing {graph : Graph}
    (increasing : ∀ pair, graph.inequalities.contains pair = true → pair.1.index < pair.2.index)
    (a b : ValueId) : graph.KnowsUnequal a b ↔ graph.isUnequal a b = true := by
  have wrong {c d : ValueId} (known : graph.inequalities.contains (c, d) = true) :
      ordered c d = (c, d) := by
    rw [ordered, if_pos (Nat.le_of_lt (increasing (c, d) known))]
  rw [isUnequal]
  constructor
  · rintro (known | known)
    · rwa [wrong known]
    · rwa [ordered_comm, wrong known]
  · intro known
    rcases ordered_eq_or a b with same | same <;> rw [same] at known
    · exact .inl known
    · exact .inr known

end Graph

namespace Join

variable {left right : Graph} {start : Nat} {pairs : List ObjectPair} {outset : Outset}
variable {here : Progress × Supply} {setting : Setting} {map : Correspondence} {graph dest : Graph}
variable {a b value1 value2 : ValueId}

/-! ### The start -/

theorem pairing_start {left right : Graph} {supply : Supply} :
    Pairing left right supply.next [] (.start left right, supply) where
  started := Nat.le_refl _
  same1 := rfl
  same2 := rfl
  distinct1 := ⟨fun mapped =>
    by simp [Progress.start, Correspondence.object?, Correspondence.empty] at mapped,
    fun mapped => by simp [Progress.start, Correspondence.object?, Correspondence.empty] at mapped⟩
  distinct2 := ⟨fun mapped =>
    by simp [Progress.start, Correspondence.object?, Correspondence.empty] at mapped,
    fun mapped => by simp [Progress.start, Correspondence.object?, Correspondence.empty] at mapped⟩
  paired := by simp
  names {name image} named := by
    cases name with
    | global name => simp [Progress.start, Graph.initial, Graph.named?] at named
    | inner depth name => simp [Progress.start, Graph.initial, Graph.named?, Graph.frames] at named
  values1 value := by simp [Progress.start, Correspondence.value?, Correspondence.empty]
  values2 value := by simp [Progress.start, Correspondence.value?, Correspondence.empty]
  joined := rfl
  pointers {value place} leads := by
    by_contra proper
    simp [Progress.start, Graph.initial, Graph.target?, Graph.knowledge, Table.get?_insert, proper,
      Knowledge.nothing] at leads
  related := rfl

/-- What is to be recorded once the variables of two graphs are paired. -/
def Pairing.toOutset (pairing : Pairing left right start pairs here) (setting : Setting)
    (positive : 0 < start) (objects : ∀ {id}, left.hasObject id = true → id.index < start)
    (numbers1 : ∀ {value}, start ≤ value.index → left.number? value = none)
    (numbers2 : ∀ {value}, start ≤ value.index → right.number? value = none) : Outset where
  setting := setting
  left := left
  right := right
  start := start
  anchors := pairs
  positive := positive
  objects := objects
  numbers1 := numbers1
  numbers2 := numbers2
  apart anchor member other member' common := by
    obtain ⟨mapped1, mapped2⟩ := pairing.paired anchor member
    obtain ⟨mapped1', mapped2'⟩ := pairing.paired other member'
    have dest : anchor.dest = other.dest := by
      rcases common with same | same | same
      · rw [same] at mapped1
        exact Option.some.inj (mapped1.symm.trans mapped1')
      · rw [same] at mapped2
        exact Option.some.inj (mapped2.symm.trans mapped2')
      · exact same
    rw [← dest] at mapped1' mapped2'
    have same1 := pairing.distinct1.unique mapped1 mapped1'
    have same2 := pairing.distinct2.unique mapped2 mapped2'
    cases anchor; cases other
    simp_all
  shared anchor member := (pairing.distinct1.tidy (pairing.paired anchor member).1).2

/-- Nothing is recorded when only variables are paired. -/
theorem Pairing.ledger (pairing : Pairing left right start pairs here) (starting : Starting here)
    (setting : Setting) (positive : 0 < start)
    (objects : ∀ {id}, left.hasObject id = true → id.index < start)
    (numbers1 : ∀ {value}, start ≤ value.index → left.number? value = none)
    (numbers2 : ∀ {value}, start ≤ value.index → right.number? value = none) :
    Ledger (pairing.toOutset setting positive objects numbers1 numbers2) here := by
  have none_joined {values : ValueId × ValueId} {dest : ValueId} :
      here.1.joined.get? values ≠ some dest := by simp [pairing.joined]
  have null {map : Correspondence} (distinct : Distinct start here.2.next map) {id : ObjectId}
      (mapped : map.object? id = some .null) : id = .null := by
    rcases (distinct.tidy mapped).2 with own | late
    · exact own.symm
    · exact absurd positive (Nat.not_lt_of_le late)
  exact
    { started := pairing.started
      left := show left.Relaid here.1.left by rw [pairing.same1]; exact .refl left
      right := show right.Relaid here.1.right by rw [pairing.same2]; exact .refl right
      common := fun anchor member {_ _ _} held1 held2 => by
        rw [pairing.same1, pairing.same2]
        exact ⟨held1, held2⟩
      accounts1 := fun {object range value} held =>
        .inr (.inr ⟨object, range, pairing.same1 ▸ held, rfl⟩)
      accounts2 := fun {object range value} held =>
        .inr (.inr ⟨object, range, pairing.same2 ▸ held, rfl⟩)
      mapped := fun anchor member => by
        obtain ⟨mapped1, mapped2⟩ := pairing.paired anchor member
        exact ⟨by rw [mapped1]; rfl, by rw [mapped2]; rfl, (pairing.distinct1.tidy mapped1).1⟩
      null1 := null pairing.distinct1
      null2 := null pairing.distinct2
      distinct1 := fun _ => pairing.distinct1
      distinct2 := fun _ => pairing.distinct2
      counterparts := fun isJoint => absurd isJoint none_joined
      source1 := fun {value _} bound => by simp [pairing.values1 value] at bound
      source2 := fun {value _} bound => by simp [pairing.values2 value] at bound
      drawn := fun isJoint => absurd isJoint none_joined
      own := fun isJoint => absurd isJoint none_joined
      zeros := fun isJoint => absurd isJoint none_joined
      leads := fun isJoint => absurd isJoint none_joined
      pointers := fun leads => .inl (pairing.pointers leads)
      single := fun isJoint => absurd isJoint none_joined
      fields := fun anchor _ {_ _ _ _} held => by
        simp [Graph.valueAt?, Graph.layout, starting.bare] at held
      names := pairing.names
      related := pairing.related }

/-! ### Keeping the inequalities -/

theorem contains_inequalities_addInequality {key : ValueId × ValueId} :
    (dest.addInequality a b).inequalities.contains key = true ↔
      dest.inequalities.contains key = true ∨ (a ≠ b ∧ Graph.ordered a b = key) := by
  unfold Graph.addInequality
  split
  case isTrue same => simp [same]
  case isFalse different =>
    rw [KeySet.contains_add, Bool.or_eq_true, decide_eq_true_eq, or_comm, eq_comm (a := key)]
    simp [different]

theorem contains_inequalities_addInequalities {pairs : List (ValueId × ValueId)}
    {key : ValueId × ValueId} : (addInequalities dest pairs).inequalities.contains key = true ↔
      dest.inequalities.contains key = true ∨
        ∃ pair ∈ pairs, pair.1 ≠ pair.2 ∧ Graph.ordered pair.1 pair.2 = key := by
  induction pairs generalizing dest with
  | nil => simp [addInequalities]
  | cons pair rest ih =>
      refine (@ih (dest.addInequality pair.1 pair.2)).trans ?_
      rw [contains_inequalities_addInequality, or_assoc, List.exists_mem_cons_iff]

/-- Inequalities change nothing about what variables hold. -/
theorem heldBy?_addInequalities (dest : Graph) (pairs : List (ValueId × ValueId)) (name : Variable)
    (range : BitRange) : (addInequalities dest pairs).heldBy? name range =
      dest.heldBy? name range := by
  induction pairs generalizing dest with
  | nil => rfl
  | cons pair rest ih =>
      refine (ih (dest.addInequality pair.1 pair.2)).trans ?_
      have same : (dest.addInequality pair.1 pair.2).layouts = dest.layouts ∧
          (dest.addInequality pair.1 pair.2).stack = dest.stack ∧
          (dest.addInequality pair.1 pair.2).globals = dest.globals := by
        unfold Graph.addInequality
        split <;> exact ⟨rfl, rfl, rfl⟩
      rw [Graph.heldBy?, Graph.heldBy?, Graph.named?_congr same.2.1 same.2.2]
      refine congrArg _ (funext fun object => ?_)
      rw [Graph.valueAt?, Graph.valueAt?, Graph.layout, Graph.layout, same.1]

/-- A graph knows of an inequality between values that have given counterparts. -/
def KnowsBetween (graph : Graph) (map : Correspondence) (a b : ValueId) : Prop :=
  ∃ p q, graph.KnowsUnequal p q ∧ counterpart? map p = some a ∧ counterpart? map q = some b

theorem contains_mappedInequalities_ordered (different : a ≠ b) :
    (mappedInequalities graph map).contains (Graph.ordered a b) = true ↔
      KnowsBetween graph map a b := by
  rw [contains_mappedInequalities_iff]
  constructor
  · rintro ⟨⟨p, q⟩, c, d, known, first, second, -, same⟩
    rcases Graph.ordered_eq_ordered_iff.1 same with ⟨rfl, rfl⟩ | ⟨rfl, rfl⟩
    · exact ⟨p, q, .inl known, first, second⟩
    · exact ⟨q, p, .inr known, second, first⟩
  · rintro ⟨p, q, known | known, first, second⟩
    · exact ⟨(p, q), a, b, known, first, second, different, rfl⟩
    · exact ⟨(q, p), b, a, known, second, first, different.symm, Graph.ordered_comm _ _⟩

/-- The pairs whose inequalities a join keeps. -/
def keptPairs (progress : Progress) : KeySet (ValueId × ValueId) :=
  (mappedInequalities progress.left progress.leftMap).inter
    (mappedInequalities progress.right progress.rightMap)

theorem contains_keptPairs {progress : Progress} {key : ValueId × ValueId} :
    (keptPairs progress).contains key = true ↔
      (mappedInequalities progress.left progress.leftMap).contains key = true ∧
        (mappedInequalities progress.right progress.rightMap).contains key = true := by
  simp only [keptPairs, Table.contains, KeySet.inter, Table.get?_filter, Option.filter]
  cases Table.get? (mappedInequalities progress.left progress.leftMap) key <;> simp

/-- The pairs are ordered, and their values are different. -/
theorem ordered_of_keptPairs {progress : Progress} {key : ValueId × ValueId}
    (kept : (keptPairs progress).contains key = true) :
    key.1 ≠ key.2 ∧ Graph.ordered key.1 key.2 = key := by
  obtain ⟨-, c, d, -, -, -, different, rfl⟩ :=
    contains_mappedInequalities_iff.1 (contains_keptPairs.1 kept).1
  rcases Graph.ordered_eq_or c d with same | same <;> rw [same]
  · exact ⟨different, same⟩
  · exact ⟨different.symm, (Graph.ordered_comm d c).trans same⟩

/-- The destination records the pairs that are kept. -/
theorem contains_addInequalities_keptPairs (related : here.1.dest.inequalities = ∅)
    {key : ValueId × ValueId} :
    (addInequalities here.1.dest (keptPairs here.1).keys).inequalities.contains key = true ↔
      (keptPairs here.1).contains key = true := by
  rw [contains_inequalities_addInequalities, related]
  constructor
  · rintro (none | ⟨pair, member, -, rfl⟩)
    · cases none
    · have kept := Table.mem_keys_iff.1 member
      rwa [(ordered_of_keptPairs kept).2]
  · intro kept
    obtain ⟨different, same⟩ := ordered_of_keptPairs kept
    exact .inr ⟨key, Table.mem_keys_iff.2 kept, different, same⟩

/-- What the destination is asked about inequalities, it answers from its record. -/
theorem isUnequal_addInequalities (related : here.1.dest.inequalities = ∅) (a b : ValueId) :
    (addInequalities here.1.dest (keptPairs here.1).keys).KnowsUnequal a b ↔
      (addInequalities here.1.dest (keptPairs here.1).keys).isUnequal a b = true := by
  refine Graph.knowsUnequal_iff_of_increasing (fun pair recorded => ?_) a b
  obtain ⟨different, same⟩ :=
    ordered_of_keptPairs ((contains_addInequalities_keptPairs related).1 recorded)
  unfold Graph.ordered at same
  split at same
  case isTrue le =>
    exact Nat.lt_of_le_of_ne le fun equal => different (congrArg ValueId.mk equal)
  case isFalse => exact absurd (congrArg Prod.snd same) different

/-- An inequality is in the destination if both graphs know of one between values with these
counterparts. -/
theorem knowsUnequal_addInequalities (related : here.1.dest.inequalities = ∅) (different : a ≠ b) :
    (addInequalities here.1.dest (keptPairs here.1).keys).KnowsUnequal a b ↔
      KnowsBetween here.1.left here.1.leftMap a b ∧
        KnowsBetween here.1.right here.1.rightMap a b := by
  rw [← contains_mappedInequalities_ordered different,
    ← contains_mappedInequalities_ordered different,
    ← contains_keptPairs, Graph.KnowsUnequal, contains_addInequalities_keptPairs related,
    contains_addInequalities_keptPairs related]
  constructor
  · rintro (kept | kept)
    · rwa [(ordered_of_keptPairs kept).2]
    · rwa [Graph.ordered_comm, (ordered_of_keptPairs kept).2]
  · intro kept
    rcases Graph.ordered_eq_or a b with same | same <;> rw [same] at kept
    · exact .inl kept
    · exact .inr kept

/-! ### What variables hold -/

namespace Ledger

/-- Variables hold joint values of what variables of both graphs hold in the same range. -/
theorem jointValue?_of_heldBy (ledger : Ledger outset here) {name : Variable} {range : BitRange}
    (held1 : outset.left.heldBy? name range = some value1)
    (held2 : outset.right.heldBy? name range = some value2)
    (held : here.1.dest.heldBy? name range = some a) :
    jointValue? here.1 value1 value2 = some a := by
  obtain ⟨image, named, isHeld⟩ := Graph.heldBy?_eq_some_iff.1 held
  obtain ⟨object1, named1, isHeld1⟩ := Graph.heldBy?_eq_some_iff.1 held1
  obtain ⟨object2, named2, isHeld2⟩ := Graph.heldBy?_eq_some_iff.1 held2
  obtain ⟨anchor, member, rfl, isNamed1, isNamed2⟩ := ledger.names named
  obtain rfl := Option.some.inj (isNamed1.symm.trans named1)
  obtain rfl := Option.some.inj (isNamed2.symm.trans named2)
  exact ledger.fields anchor member isHeld isHeld1 isHeld2

theorem counterpart?_of_proper {value : ValueId} (proper : value ≠ .zero) :
    counterpart? map value = map.value? value :=
  if_neg (by simpa [ValueId.isZero] using proper)

/-- Values have their joint value as counterpart, unless zero is joined into another value. -/
theorem counterparts_of_joint (ledger : Ledger outset here)
    (isJoint : jointValue? here.1 value1 value2 = some a)
    (zero : value1 = .zero ∨ value2 = .zero → a = .zero) :
    counterpart? here.1.leftMap value1 = some a ∧ counterpart? here.1.rightMap value2 = some a := by
  have counterpart {map : Correspondence} {value : ValueId} (zero : value = .zero → a = .zero)
      (mapped : value = .zero ∨ map.value? value = some a) : counterpart? map value = some a := by
    by_cases isZero : value = .zero
    · rw [zero isZero, isZero]
      rfl
    · rw [counterpart?_of_proper isZero]
      exact mapped.resolve_left isZero
  rcases jointValue?_eq_some_iff.1 isJoint with ⟨rfl, rfl, rfl⟩ | ⟨-, isJoint⟩
  · exact ⟨rfl, rfl⟩
  · obtain ⟨mapped1, mapped2⟩ := ledger.counterparts isJoint
    exact ⟨counterpart (fun isZero => zero (.inl isZero)) mapped1,
      counterpart (fun isZero => zero (.inr isZero)) mapped2⟩

/-- What is joined into zero may vanish. -/
theorem mayVanish_of_joint (ledger : Ledger outset here)
    (isJoint : jointValue? here.1 value1 value2 = some .zero) :
    outset.left.MayVanish value1 ∧ outset.right.MayVanish value2 := by
  rcases jointValue?_eq_some_iff.1 isJoint with ⟨rfl, rfl, -⟩ | ⟨-, isJoint⟩
  · exact ⟨.inl rfl, .inl rfl⟩
  · exact ledger.zeros isJoint

/-- Two pairs with the same joint value may be merged into it. -/
theorem mayMerge_of_joint (ledger : Ledger outset here) {other1 other2 : ValueId}
    (isJoint : jointValue? here.1 value1 value2 = some a)
    (isJoint' : jointValue? here.1 other1 other2 = some a) :
    outset.left.MayMerge outset.folds a value1 other1 ∧
      outset.right.MayMerge outset.folds a value2 other2 := by
  by_cases zero : a = .zero
  · subst zero
    obtain ⟨vanish1, vanish2⟩ := ledger.mayVanish_of_joint isJoint
    obtain ⟨vanish1', vanish2'⟩ := ledger.mayVanish_of_joint isJoint'
    exact ⟨.inr (.inl ⟨rfl, vanish1, vanish1'⟩), .inr (.inl ⟨rfl, vanish2, vanish2'⟩)⟩
  · have joined {value1 value2} (isJoint : jointValue? here.1 value1 value2 = some a) :
        here.1.joined.get? (value1, value2) = some a :=
      ((jointValue?_eq_some_iff.1 isJoint).resolve_left fun zeros => zero zeros.2.2).2
    rcases (ledger.single (joined isJoint) (joined isJoint')).resolve_left zero with
      ⟨rfl, rfl⟩ | ⟨same1, same2⟩
    · exact ⟨.inl rfl, .inl rfl⟩
    · exact ⟨.inr (.inr ⟨zero, same1⟩), .inr (.inr ⟨zero, same2⟩)⟩

/-- A left value whose counterpart is a joint value may be merged into it with the left value of the
pair. -/
theorem mayMerge_left (ledger : Ledger outset here) {p : ValueId}
    (isJoint : jointValue? here.1 value1 value2 = some a)
    (mapped : counterpart? here.1.leftMap p = some a) :
    outset.left.MayMerge outset.folds a p value1 := by
  by_cases isZero : p = .zero
  · subst isZero
    obtain rfl := Option.some.inj mapped
    exact .inr (.inl ⟨rfl, .inl rfl, (ledger.mayVanish_of_joint isJoint).1⟩)
  · rw [counterpart?_of_proper isZero] at mapped
    obtain ⟨proper, partner, isJoint'⟩ := ledger.source1 mapped
    exact (ledger.mayMerge_of_joint
      (jointValue?_eq_some_iff.2 (.inr ⟨fun zeros => proper zeros.1, isJoint'⟩)) isJoint).1

/-- So it is with right values. -/
theorem mayMerge_right (ledger : Ledger outset here) {p : ValueId}
    (isJoint : jointValue? here.1 value1 value2 = some a)
    (mapped : counterpart? here.1.rightMap p = some a) :
    outset.right.MayMerge outset.folds a p value2 := by
  by_cases isZero : p = .zero
  · subst isZero
    obtain rfl := Option.some.inj mapped
    exact .inr (.inl ⟨rfl, .inl rfl, (ledger.mayVanish_of_joint isJoint).2⟩)
  · rw [counterpart?_of_proper isZero] at mapped
    obtain ⟨proper, partner, isJoint'⟩ := ledger.source2 mapped
    exact (ledger.mayMerge_of_joint
      (jointValue?_eq_some_iff.2 (.inr ⟨fun zeros => proper zeros.2, isJoint'⟩)) isJoint).2

end Ledger

/-! ### The whole join -/

/-- Where all that the variables reach has a join, it is that of a record, with the inequalities
that both graphs know of. -/
theorem joinAll_records (pairing : Pairing left right start [] here) (starting : Starting here)
    (running : here.1.dest.stack.length = 0) (positive : 0 < start)
    (objects : ∀ {id}, left.hasObject id = true → id.index < start)
    (numbers1 : ∀ {value}, start ≤ value.index → left.number? value = none)
    (numbers2 : ∀ {value}, start ≤ value.index → right.number? value = none) :
    Run.Passes (joinAll setting) here fun joined there => joined = true →
      ∃ (outset : Outset) (last : Progress × Supply), outset.setting = setting ∧
        outset.left = left ∧
        outset.right = right ∧ Ledger outset last ∧ there.1.leftMap = last.1.leftMap ∧
        there.1.rightMap = last.1.rightMap ∧
        there.1.dest = addInequalities last.1.dest (keptPairs last.1).keys := by
  unfold joinAll
  refine Run.ends_bind_of_ok (Run.ask_apply _ _) ?_
  refine (pairing.matchVariables starting objects running).bind ?_
  rintro (_ | pairs) middle ⟨starting, matched⟩
  · exact Run.ends_pure (by simp)
  · have pairing := matched pairs rfl
    refine Run.Ends.bind
      ((pairing.ledger starting setting positive objects numbers1 numbers2).joinPairs
      starting.toKeeping _ fun _ member => member) ?_
    rintro joined last ⟨-, ledger, -, -⟩
    cases joined with
    | false => exact Run.ends_pure (by simp)
    | true =>
        refine Run.ends_bind_of_ok (keepInequalities_apply last) ?_
        split
        case isTrue =>
          exact Run.passes_demand fun _ _ =>
            Run.ends_pure fun _ => ⟨_, last, rfl, rfl, rfl, ledger, rfl, rfl, rfl⟩
        case isFalse => exact Run.ends_pure fun _ => ⟨_, last, rfl, rfl, rfl, ledger, rfl, rfl, rfl⟩

/-- Zero stays zero where two values get their joint value. -/
def KeepsZero (value1 value2 dest : ValueId) : Prop :=
  value1 = .zero ∨ value2 = .zero → dest = .zero

/-- Only what is joined into zero is merged with zero. -/
theorem eq_zero_of_mayMerge {folds : Bool} {p : ValueId} (merge : graph.MayMerge folds a p .zero)
    (mapped : counterpart? map p = some a) : a = .zero := by
  rcases merge with rfl | ⟨zero, -, -⟩ | ⟨-, _, _, -, isTarget, -⟩
  · exact (Option.some.inj mapped).symm
  · exact zero
  · cases isTarget

/-- Zero stays zero where both graphs have a value whose counterpart is the joint value. -/
theorem Ledger.keepsZero (ledger : Ledger outset here) {p q : ValueId}
    (isJoint : jointValue? here.1 value1 value2 = some a)
    (mapped1 : counterpart? here.1.leftMap p = some a)
    (mapped2 : counterpart? here.1.rightMap q = some a) : KeepsZero value1 value2 a := by
  rintro (rfl | rfl)
  · exact eq_zero_of_mayMerge (ledger.mayMerge_left isJoint mapped1) mapped1
  · exact eq_zero_of_mayMerge (ledger.mayMerge_right isJoint mapped2) mapped2

end Join

namespace Graph

open Join

/-- A value has the counterpart of another value; if it is not that value, both may be merged. -/
structure Merged (graph : Graph) (folds : Bool) (map : Correspondence)
    (dest other value : ValueId) :
    Prop where
  /-- It has the counterpart. -/
  counterpart : counterpart? map other = some dest
  /-- It is the value or may be merged with it. -/
  mayMerge : graph.MayMerge folds dest other value

/-- A graph knows of an inequality between two values, or between values merged with them. -/
def KnowsMerged (graph : Graph) (folds : Bool) (map : Correspondence) (a b value value' : ValueId) :
    Prop :=
  ∃ p q, graph.KnowsUnequal p q ∧ graph.Merged folds map a p value ∧
    graph.Merged folds map b q value'

variable {left right dest : Graph} {options : Options} {status : Status} {supply now : Supply}
variable {name name' : Variable} {range range' : BitRange} {u1 u2 w1 w2 a b : ValueId}

/-- Two variables hold values in ranges that are fields of them in both graphs.  The join knows that
what it holds there is different if and only if zero stays zero and both graphs know it of what they
hold, or of values that are merged with it: these are zero, or addresses of the same place.  So what
both graphs know to be different stays so, unless zero is joined into another value.  Whoever asks
the join whether the values are unequal is told so. -/
theorem join_unequal (consistent1 : left.Consistent) (consistent2 : right.Consistent)
    (exact1 : left.ExactFields) (exact2 : right.ExactFields) (drawn1 : left.DrawnBefore supply.next)
    (drawn2 : right.DrawnBefore supply.next)
    (defined : left.join options right supply = .ok (.defined dest status) now)
    (held1 : left.heldBy? name range = some u1) (held2 : right.heldBy? name range = some u2)
    (held : dest.heldBy? name range = some a) (held1' : left.heldBy? name' range' = some w1)
    (held2' : right.heldBy? name' range' = some w2) (held' : dest.heldBy? name' range' = some b)
    (different : a ≠ b) :
    ∃ progress, finish options left right supply = .ok (some progress) now ∧ progress.dest = dest ∧
      (dest.KnowsUnequal a b ↔ KeepsZero u1 u2 a ∧ KeepsZero w1 w2 b ∧
        left.KnowsMerged options.foldLists progress.leftMap a b u1 w1 ∧
        right.KnowsMerged options.foldLists progress.rightMap a b u2 w2) ∧
      (KeepsZero u1 u2 a → KeepsZero w1 w2 b → left.KnowsUnequal u1 w1 → right.KnowsUnequal u2 w2 →
        dest.KnowsUnequal a b) ∧
      (dest.KnowsUnequal a b ↔ dest.isUnequal a b = true) := by
  obtain ⟨there, done, rfl, -, rfl⟩ := join_eq_defined_iff.1 defined
  have starting := Keeping.start (drawn1.positive consistent1.checked)
    (drawn1.alignable consistent1 exact1) (drawn2.alignable consistent2 exact2)
  obtain ⟨outset, last, setting, rfl, rfl, ledger, leftMap, rightMap, isDest⟩ :=
    (joinAll_records pairing_start starting rfl (drawn1.positive consistent1.checked)
      (fun present => drawn1.1 _ (Table.mem_keys_iff.2 present))
      drawn1.number? drawn2.number?).of_eq_ok done rfl
  refine ⟨there.1, finish_eq_some_iff.2 done, rfl, ?_⟩
  rw [isDest, heldBy?_addInequalities] at held held'
  have isJoint := ledger.jointValue?_of_heldBy held1 held2 held
  have isJoint' := ledger.jointValue?_of_heldBy held1' held2' held'
  have folds : outset.folds = options.foldLists := by rw [Outset.folds, setting]
  have known1 {p q : ValueId} : last.1.left.KnowsUnequal p q ↔ outset.left.KnowsUnequal p q := by
    rw [KnowsUnequal, KnowsUnequal, ledger.left.inequalities]
  have known2 {p q : ValueId} : last.1.right.KnowsUnequal p q ↔ outset.right.KnowsUnequal p q := by
    rw [KnowsUnequal, KnowsUnequal, ledger.right.inequalities]
  rw [isDest, ← isUnequal_addInequalities ledger.related a b,
    knowsUnequal_addInequalities ledger.related different, leftMap, rightMap, ← folds]
  refine ⟨⟨?_, ?_⟩, fun zero zero' unequal1 unequal2 => ?_, Iff.rfl⟩
  · rintro ⟨⟨p1, q1, unequal1, mapped1, mapped1'⟩, ⟨p2, q2, unequal2, mapped2, mapped2'⟩⟩
    exact ⟨ledger.keepsZero isJoint mapped1 mapped2, ledger.keepsZero isJoint' mapped1' mapped2',
      ⟨p1, q1, known1.1 unequal1, ⟨mapped1, ledger.mayMerge_left isJoint mapped1⟩,
        ⟨mapped1', ledger.mayMerge_left isJoint' mapped1'⟩⟩,
      ⟨p2, q2, known2.1 unequal2, ⟨mapped2, ledger.mayMerge_right isJoint mapped2⟩,
        ⟨mapped2', ledger.mayMerge_right isJoint' mapped2'⟩⟩⟩
  · rintro ⟨-, -, ⟨p1, q1, unequal1, merged1, merged1'⟩, ⟨p2, q2, unequal2, merged2, merged2'⟩⟩
    exact ⟨⟨p1, q1, known1.2 unequal1, merged1.counterpart, merged1'.counterpart⟩,
      ⟨p2, q2, known2.2 unequal2, merged2.counterpart, merged2'.counterpart⟩⟩
  · obtain ⟨mapped1, mapped2⟩ := ledger.counterparts_of_joint isJoint zero
    obtain ⟨mapped1', mapped2'⟩ := ledger.counterparts_of_joint isJoint' zero'
    exact ⟨⟨u1, w1, known1.2 unequal1, mapped1, mapped1'⟩,
      ⟨u2, w2, known2.2 unequal2, mapped2, mapped2'⟩⟩

end Graph

/-- A variable of two fields, which hold values that are known to be different. -/
def differentHalves (value1 value2 : ValueId) : Graph :=
  ((((Graph.initial .linux64).declareGlobal "x" ⟨1⟩ (.region 64 "x")).putField
    ⟨⟨1⟩, ⟨0, 32⟩, value1⟩).putField ⟨⟨1⟩, ⟨32, 32⟩, value2⟩).addInequality value1 value2

/-- What a graph knows to be different from zero stays so. -/
theorem join_unequal_zeroAndUnknown : ∃ dest,
    (differentHalves .zero ⟨2⟩).join {} (differentHalves .zero ⟨3⟩) ⟨4⟩ =
      .ok (.defined dest .equal) ⟨5⟩ ∧
    dest.heldBy? (.global "x") ⟨0, 32⟩ = some .zero ∧
    dest.heldBy? (.global "x") ⟨32, 32⟩ = some ⟨4⟩ ∧ dest.KnowsUnequal .zero ⟨4⟩ ∧
    dest.isUnequal .zero ⟨4⟩ = true := by
  have joined : ∃ dest, (differentHalves .zero ⟨2⟩).join {} (differentHalves .zero ⟨3⟩) ⟨4⟩ =
      .ok (.defined dest .equal) ⟨5⟩ ∧ dest.heldBy? (.global "x") ⟨0, 32⟩ = some .zero ∧
      dest.heldBy? (.global "x") ⟨32, 32⟩ = some ⟨4⟩ := ⟨_, by cbv, by cbv, by cbv⟩
  obtain ⟨dest, defined, held, held'⟩ := joined
  have held1 : (differentHalves .zero ⟨2⟩).heldBy? (.global "x") ⟨0, 32⟩ = some .zero := by
    decide +kernel
  have held2 : (differentHalves .zero ⟨3⟩).heldBy? (.global "x") ⟨0, 32⟩ = some .zero := by
    decide +kernel
  have held1' : (differentHalves .zero ⟨2⟩).heldBy? (.global "x") ⟨32, 32⟩ = some ⟨2⟩ := by
    decide +kernel
  have held2' : (differentHalves .zero ⟨3⟩).heldBy? (.global "x") ⟨32, 32⟩ = some ⟨3⟩ := by
    decide +kernel
  obtain ⟨progress, -, -, -, survives, asked⟩ :=
    Graph.join_unequal (by decide +kernel) (by decide +kernel)
    (by decide +kernel) (by decide +kernel) (by decide +kernel)
    (by decide +kernel) defined held1 held2
    held held1' held2' held' (by decide +kernel)
  have known : dest.KnowsUnequal .zero ⟨4⟩ := by
    refine survives (fun _ => rfl) ?_ ?_ ?_
    · rintro (zero | zero) <;> cases zero
    · decide +kernel
    · decide +kernel
  exact ⟨dest, defined, held, held', known, asked.1 known⟩

/-- A variable of three fields, of which two hold values that are known to be the number zero.  One
of them is known to be different from what the third field holds. -/
def zerosAndThird (zero1 zero2 third known : ValueId) : Graph :=
  (((((((Graph.initial .linux64).declareGlobal "x" ⟨1⟩ (.region 96 "x")).setNumber
    zero1 0).setNumber zero2 0).putField ⟨⟨1⟩, ⟨0, 32⟩, zero1⟩).putField
    ⟨⟨1⟩, ⟨32, 32⟩, zero2⟩).putField ⟨⟨1⟩, ⟨64, 32⟩, third⟩).addInequality known third

/-- Where zero is joined into an unknown value, an inequality that both graphs know of is lost.
Where several values are joined into zero, one of them may bring an inequality that the left graph
does not know of the value that is held. -/
theorem unequal_differs_zeros :
    ((differentHalves .zero ⟨2⟩).Consistent ∧ (differentHalves ⟨3⟩ ⟨4⟩).Consistent ∧
      (differentHalves .zero ⟨2⟩).KnowsUnequal .zero ⟨2⟩ ∧
      (differentHalves ⟨3⟩ ⟨4⟩).KnowsUnequal ⟨3⟩ ⟨4⟩ ∧ ∃ dest status now,
        (differentHalves .zero ⟨2⟩).join {} (differentHalves ⟨3⟩ ⟨4⟩) ⟨5⟩ =
          .ok (.defined dest status) now ∧
        dest.heldBy? (.global "x") ⟨0, 32⟩ = some ⟨5⟩ ∧
        dest.heldBy? (.global "x") ⟨32, 32⟩ = some ⟨6⟩ ∧ ¬ dest.KnowsUnequal ⟨5⟩ ⟨6⟩) ∧
    ((zerosAndThird ⟨2⟩ ⟨3⟩ ⟨4⟩ ⟨2⟩).Consistent ∧ (zerosAndThird ⟨5⟩ ⟨6⟩ ⟨7⟩ ⟨6⟩).Consistent ∧
      ¬ (zerosAndThird ⟨2⟩ ⟨3⟩ ⟨4⟩ ⟨2⟩).KnowsUnequal ⟨3⟩ ⟨4⟩ ∧ ∃ dest status now,
        (zerosAndThird ⟨2⟩ ⟨3⟩ ⟨4⟩ ⟨2⟩).join {} (zerosAndThird ⟨5⟩ ⟨6⟩ ⟨7⟩ ⟨6⟩) ⟨8⟩ =
          .ok (.defined dest status) now ∧
        dest.heldBy? (.global "x") ⟨32, 32⟩ = some .zero ∧
        dest.heldBy? (.global "x") ⟨64, 32⟩ = some ⟨8⟩ ∧ dest.KnowsUnequal .zero ⟨8⟩) := by
  refine ⟨⟨?_, ?_, ?_, ?_, _, _, _, by cbv, by cbv, by cbv, ?_⟩,
    ⟨?_, ?_, ?_, _, _, _, by cbv, by cbv, by cbv, ?_⟩⟩
  all_goals decide +kernel

end ShapeDomain
