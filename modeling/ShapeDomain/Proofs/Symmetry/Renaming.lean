import Mathlib.Order.Interval.Finset.Nat
import ShapeDomain.Proofs.Join.Alignment
import ShapeDomain.Proofs.Symmetry.Mirror

/-!
# Renaming drawn values

Two mirrored alignments of a pair of objects draw as many values, and they draw them for the same
ranges.  So the renaming of two mirrored joins extends to the values that were drawn.
-/

namespace ShapeDomain

namespace Join

/-! ### Extending a renaming -/

variable {shift : Shift} {first last : Nat} {rename partnerOf : ValueId → ValueId} {value : ValueId}

/-- A renaming that sends the values of an interval to partners of theirs. -/
def extended (first last : Nat) (rename partnerOf : ValueId → ValueId)
    (value : ValueId) : ValueId :=
  if first ≤ value.index ∧ value.index < last then partnerOf value else rename value

theorem extended_inside (inside : first ≤ value.index ∧ value.index < last) :
    extended first last rename partnerOf value = partnerOf value := if_pos inside

theorem extended_outside (outside : ¬ (first ≤ value.index ∧ value.index < last)) :
    extended first last rename partnerOf value = rename value := if_neg outside

namespace Renames

variable (renames : Renames shift first rename)

include renames

/-- A value that has a partner and another one are not renamed to the same one. -/
theorem extended_ne (started : shift.start ≤ first) {partner : ValueId}
    (after : first + shift.distance ≤ partner.index)
    (before : partner.index < last + shift.distance)
    (outside : ¬ (first ≤ value.index ∧ value.index < last)) : partner ≠ rename value := by
  rintro rfl
  by_cases early : value.index < first
  · by_cases drawn : shift.start ≤ value.index
    · have moved := renames.moves value drawn early
      omega
    · rw [renames.fixes value (Nat.lt_of_not_le drawn)] at after
      omega
  · have moved := renames.index_of_le started (Nat.le_of_not_lt early)
    omega

/-- A renaming extends to values that are drawn, if they have partners of their own. -/
theorem extended (started : shift.start ≤ first) (ordered : first ≤ last)
    (into : ∀ value : ValueId, first ≤ value.index → value.index < last →
      first + shift.distance ≤ (partnerOf value).index ∧
        (partnerOf value).index < last + shift.distance)
    (injective : ∀ value value' : ValueId, first ≤ value.index ∧ value.index < last →
      first ≤ value'.index ∧ value'.index < last → partnerOf value = partnerOf value' →
        value = value') :
    Renames shift last (Join.extended first last rename partnerOf) where
  fixes value early := by
    rw [extended_outside (by omega), renames.fixes value early]
  moves value late early := by
    by_cases new : first ≤ value.index
    · obtain ⟨after, before⟩ := into value new early
      rw [extended_inside ⟨new, early⟩]
      omega
    · have moved := renames.moves value late (Nat.lt_of_not_le new)
      rw [extended_outside (by omega)]
      omega
  beyond value late := by
    rw [extended_outside (by omega)]
    exact renames.beyond value (Nat.le_trans ordered late)
  injective value value' same := by
    by_cases new : first ≤ value.index ∧ value.index < last
    · obtain ⟨after, before⟩ := into value new.1 new.2
      by_cases new' : first ≤ value'.index ∧ value'.index < last
      · rw [extended_inside new, extended_inside new'] at same
        exact injective value value' new new' same
      · rw [extended_inside new, extended_outside new'] at same
        exact absurd same (renames.extended_ne started after before new')
    · by_cases new' : first ≤ value'.index ∧ value'.index < last
      · obtain ⟨after, before⟩ := into value' new'.1 new'.2
        rw [extended_outside new, extended_inside new'] at same
        exact absurd same.symm (renames.extended_ne started after before new)
      · rw [extended_outside new, extended_outside new'] at same
        exact renames.injective value value' same

end Renames

end Join

namespace Alignment

variable {first first' : Nat} {object : ObjectId} {origin originOther graph other : Graph}
variable {slots slotsOther : BitRange → Slot} {drawn drawnOther : Nat → Prop}

/-- The slot in the other join. -/
def Slot.rename (rename : ValueId → ValueId) : Slot → Slot
  | kept value => kept (rename value)
  | slot => slot

/-- Only unknown slots hold values that were drawn. -/
theorem Laid.unknown_of_held (laid : Laid first object origin slots drawn graph)
    {range : BitRange} {value : ValueId} (held : graph.valueAt? object range = some value)
    (late : first ≤ value.index) : slots range = .unknown ∧ drawn value.index := by
  have holds := laid.holds range
  have positive := laid.positive
  rw [held] at holds
  cases slot : slots range with
  | empty =>
      rw [slot] at holds
      simp [Slot.Holds] at holds
  | kept old =>
      rw [slot] at holds
      obtain ⟨same, early⟩ := holds
      rw [← Option.some.inj same] at early
      omega
  | zero =>
      rw [slot] at holds
      have zero : value = .zero := Option.some.inj holds
      rw [zero] at late
      exact absurd (Nat.lt_of_lt_of_le positive late) (Nat.lt_irrefl 0)
  | unknown =>
      rw [slot] at holds
      obtain ⟨index, same, isDrawn⟩ := holds
      rw [Option.some.inj same]
      exact ⟨rfl, isDrawn⟩

/-- What was drawn for a range of an object has a partner in another graph where the same ranges of
the object are unknown. -/
theorem Laid.exists_partner (laid : Laid first object origin slots drawn graph)
    (laidOther : Laid first' object originOther slotsOther drawnOther other)
    (unknown : ∀ range, slots range = .unknown → slotsOther range = .unknown) {index : Nat}
    (isDrawn : drawn index) :
    ∃ range partner, graph.valueAt? object range = some ⟨index⟩ ∧
      other.valueAt? object range = some ⟨partner⟩ ∧ drawnOther partner := by
  obtain ⟨range, held⟩ := laid.onto index isDrawn
  have isUnknown := (laid.unknown_of_held held (laid.late index isDrawn)).1
  have holds := laidOther.holds range
  rw [unknown range isUnknown] at holds
  obtain ⟨partner, heldOther, isDrawnOther⟩ := holds
  exact ⟨range, partner, held, heldOther, isDrawnOther⟩

/-- Two values are held by the same range of an object in two graphs. -/
def Partners (object : ObjectId) (graph other : Graph) (value partner : ValueId) : Prop :=
  ∃ range, graph.valueAt? object range = some value ∧ other.valueAt? object range = some partner

theorem Partners.symm {value partner : ValueId}
    (partners : Partners object graph other value partner) :
    Partners object other graph partner value := by
  obtain ⟨range, held, heldOther⟩ := partners
  exact ⟨range, heldOther, held⟩

/-- A value that was drawn has one partner. -/
theorem Laid.partner_unique (laid : Laid first object origin slots drawn graph)
    {value partner partner' : ValueId} (late : first ≤ value.index)
    (partners : Partners object graph other value partner)
    (partners' : Partners object graph other value partner') : partner = partner' := by
  obtain ⟨range, held, heldOther⟩ := partners
  obtain ⟨range', held', heldOther'⟩ := partners'
  have same := laid.once range range' value.index (laid.unknown_of_held held late).2 held held'
  rw [same, heldOther', Option.some.injEq] at heldOther
  exact heldOther.symm

/-- Two values are matched only if they are drawn by the first and the second of two joins, and
every value that the first one draws is.  No value is matched with two, nor two with one. -/
structure Matches (first last first' last' : Nat) (related : ValueId → ValueId → Prop) : Prop where
  /-- What the first join drew is matched. -/
  total : ∀ value : ValueId, first ≤ value.index → value.index < last →
    ∃ partner : ValueId, first' ≤ partner.index ∧ partner.index < last' ∧ related value partner
  /-- Nothing that the second one drew is matched twice. -/
  injective : ∀ {value value' partner : ValueId}, first' ≤ partner.index → related value partner →
    related value' partner → value = value'

/-- Matched values are given by a function, so that the second join draws at least as many. -/
theorem Matches.exists_function {last last' : Nat} {related : ValueId → ValueId → Prop}
    (isMatch : Matches first last first' last' related) : last - first ≤ last' - first' ∧
      ∃ partnerOf : ValueId → ValueId, ∀ value, first ≤ value.index → value.index < last →
        first' ≤ (partnerOf value).index ∧ (partnerOf value).index < last' ∧
          related value (partnerOf value) := by
  have chosen : ∀ value : ValueId, ∃ partner : ValueId, first ≤ value.index → value.index < last →
      first' ≤ partner.index ∧ partner.index < last' ∧ related value partner := by
    intro value
    by_cases inside : first ≤ value.index ∧ value.index < last
    · obtain ⟨partner, facts⟩ := isMatch.total value inside.1 inside.2
      exact ⟨partner, fun _ _ => facts⟩
    · exact ⟨value, fun late early => absurd ⟨late, early⟩ inside⟩
  obtain ⟨partnerOf, isPartner⟩ := Classical.skolem.1 chosen
  refine ⟨?_, partnerOf, isPartner⟩
  let indexOf (index : Nat) : Nat := (partnerOf ⟨index⟩).index
  have smaller : (Finset.Ico first last).card ≤ (Finset.Ico first' last').card := by
    refine Finset.card_le_card_of_injOn indexOf ?_ ?_
    · intro index member
      have bounds := Finset.mem_Ico.1 member
      obtain ⟨after, before, -⟩ := isPartner ⟨index⟩ bounds.1 bounds.2
      exact Finset.mem_Ico.2 ⟨after, before⟩
    · intro one member1 two member2 same
      have bounds1 := Finset.mem_Ico.1 member1
      have bounds2 := Finset.mem_Ico.1 member2
      obtain ⟨after, -, related1⟩ := isPartner ⟨one⟩ bounds1.1 bounds1.2
      obtain ⟨-, -, related2⟩ := isPartner ⟨two⟩ bounds2.1 bounds2.2
      have equal : partnerOf ⟨one⟩ = partnerOf ⟨two⟩ := congrArg ValueId.mk same
      rw [← equal] at related2
      exact congrArg ValueId.index (isMatch.injective after related1 related2)
  rwa [Nat.card_Ico, Nat.card_Ico] at smaller

section Both

variable {left right leftOther rightOther left' right' leftOther' rightOther' : Graph}
variable {object1 object2 : ObjectId} {last last' : Nat}
    {drawn1 drawn2 drawn1' drawn2' : Nat → Prop}
variable {value partner partner' : ValueId}

/-- Two values are held by the same range of one of two objects, in the two alignments of these. -/
def Matched (object1 object2 : ObjectId) (left right leftOther rightOther : Graph)
    (value partner : ValueId) : Prop :=
  Partners object1 left rightOther value partner ∨ Partners object2 right leftOther value partner

theorem Matched.symm
    (isMatched : Matched object1 object2 left right leftOther rightOther value partner) :
    Matched object2 object1 leftOther rightOther left right partner value :=
  isMatched.elim (fun partners => .inr partners.symm) fun partners => .inl partners.symm

/-- What was drawn is matched with something that was drawn. -/
theorem Aligned.exists_matched
    (aligned : Aligned left right object1 object2 first last drawn1 drawn2 left' right')
    (other : Aligned leftOther rightOther object2 object1 first' last' drawn1' drawn2' leftOther'
      rightOther')
    (unknown1 : ∀ range, alignedSlots left object1 (right.fieldsOf object2) range = .unknown →
      alignedSlots rightOther object1 (leftOther.fieldsOf object2) range = .unknown)
    (unknown2 : ∀ range, alignedSlots right object2 (left.fieldsOf object1) range = .unknown →
      alignedSlots leftOther object2 (rightOther.fieldsOf object1) range = .unknown) {index : Nat}
    (late : first ≤ index) (early : index < last) :
    ∃ partner : ValueId, first' ≤ partner.index ∧ partner.index < last' ∧
      Matched object1 object2 left' right' leftOther' rightOther' ⟨index⟩ partner := by
  rcases (aligned.drawn index).2 ⟨late, early⟩ with isDrawn | isDrawn
  · obtain ⟨range, partner, held, heldOther, isDrawnOther⟩ :=
      aligned.layout1.exists_partner other.layout2 unknown1 isDrawn
    obtain ⟨late', early'⟩ := (other.drawn partner).1 (.inr isDrawnOther)
    exact ⟨⟨partner⟩, late', early', .inl ⟨range, held, heldOther⟩⟩
  · obtain ⟨range, partner, held, heldOther, isDrawnOther⟩ :=
      aligned.layout2.exists_partner other.layout1 unknown2 isDrawn
    obtain ⟨late', early'⟩ := (other.drawn partner).1 (.inl isDrawnOther)
    exact ⟨⟨partner⟩, late', early', .inr ⟨range, held, heldOther⟩⟩

/-- What was drawn is matched with one value only. -/
theorem Aligned.matched_unique
    (aligned : Aligned left right object1 object2 first last drawn1 drawn2 left' right')
    (late : first ≤ value.index)
    (isMatched : Matched object1 object2 left' right' leftOther' rightOther' value partner)
    (isMatched' : Matched object1 object2 left' right' leftOther' rightOther' value partner') :
    partner = partner' := by
  have apart (partners1 : Partners object1 left' rightOther' value partner ∨
        Partners object1 left' rightOther' value partner')
      (partners2 : Partners object2 right' leftOther' value partner ∨
        Partners object2 right' leftOther' value partner') : False := by
    have isDrawn1 : drawn1 value.index := by
      rcases partners1 with ⟨range, held, -⟩ | ⟨range, held, -⟩
      · exact (aligned.layout1.unknown_of_held held late).2
      · exact (aligned.layout1.unknown_of_held held late).2
    have isDrawn2 : drawn2 value.index := by
      rcases partners2 with ⟨range, held, -⟩ | ⟨range, held, -⟩
      · exact (aligned.layout2.unknown_of_held held late).2
      · exact (aligned.layout2.unknown_of_held held late).2
    exact aligned.separate _ isDrawn1 isDrawn2
  rcases isMatched with partners | partners <;> rcases isMatched' with partners' | partners'
  · exact aligned.layout1.partner_unique late partners partners'
  · exact (apart (.inl partners) (.inr partners')).elim
  · exact (apart (.inr partners') (.inl partners)).elim
  · exact aligned.layout2.partner_unique late partners partners'

theorem Slot.rename_eq_unknown_iff {rename : ValueId → ValueId} {slot : Slot} :
    slot.rename rename = .unknown ↔ slot = .unknown := by
  cases slot <;> simp [Slot.rename]

/-- The renaming of two mirrored joins extends to what was drawn to align two objects. -/
theorem Aligned.exists_renaming {shift : Shift} {rename : ValueId → ValueId}
    (started : shift.start ≤ first) (renames : Join.Renames shift first rename)
    (aligned : Aligned left right object1 object2 first last drawn1 drawn2 left' right')
    (other : Aligned leftOther rightOther object2 object1 (first + shift.distance) last' drawn1'
      drawn2' leftOther' rightOther')
    (slots1 : ∀ range, alignedSlots rightOther object1 (leftOther.fieldsOf object2) range =
      (alignedSlots left object1 (right.fieldsOf object2) range).rename rename)
    (slots2 : ∀ range, alignedSlots leftOther object2 (rightOther.fieldsOf object1) range =
      (alignedSlots right object2 (left.fieldsOf object1) range).rename rename) :
    last' = last + shift.distance ∧ ∃ rename',
      Join.Renames shift last rename' ∧
      (∀ value, value.index < first → rename' value = rename value) ∧
      (∀ value, first ≤ value.index → first + shift.distance ≤ (rename' value).index) ∧
      ∀ value partner, first ≤ value.index → value.index < last →
        Matched object1 object2 left' right' leftOther' rightOther' value partner →
        rename' value = partner := by
  have forward : Matches first last (first + shift.distance) last'
      (Matched object1 object2 left' right' leftOther' rightOther') :=
    ⟨fun value late early => aligned.exists_matched other
        (fun range isUnknown => by rw [slots1, isUnknown]; rfl)
        (fun range isUnknown => by rw [slots2, isUnknown]; rfl) late early,
      fun late isMatched isMatched' => other.matched_unique late isMatched.symm isMatched'.symm⟩
  have backward : Matches (first + shift.distance) last' first last
      (Matched object2 object1 leftOther' rightOther' left' right') :=
    ⟨fun value late early => other.exists_matched aligned
        (fun range isUnknown => Slot.rename_eq_unknown_iff.1 ((slots2 range).symm.trans isUnknown))
        (fun range isUnknown => Slot.rename_eq_unknown_iff.1 ((slots1 range).symm.trans isUnknown))
        late early,
      fun late isMatched isMatched' => aligned.matched_unique late isMatched.symm isMatched'.symm⟩
  obtain ⟨atMost, partnerOf, isPartner⟩ := forward.exists_function
  have atLeast := backward.exists_function.1
  have ordered := aligned.ordered
  have orderedOther := other.ordered
  have ends : last' = last + shift.distance := by omega
  subst ends
  have into (value : ValueId) (late : first ≤ value.index) (early : value.index < last) :=
    (isPartner value late early).imp_right And.left
  refine ⟨rfl, Join.extended first last rename partnerOf,
    renames.extended started ordered into fun value value' inside inside' same => ?_,
    fun value early => Join.extended_outside (by omega), fun value late => ?_,
    fun value partner late early isMatched => ?_⟩
  · obtain ⟨after, -, isMatched⟩ := isPartner value inside.1 inside.2
    obtain ⟨-, -, isMatched'⟩ := isPartner value' inside'.1 inside'.2
    rw [← same] at isMatched'
    exact forward.injective after isMatched isMatched'
  · by_cases early : value.index < last
    · rw [Join.extended_inside ⟨late, early⟩]
      exact (isPartner value late early).1
    · have moved := renames.index_of_le started late
      rw [Join.extended_outside (by omega)]
      omega
  · rw [Join.extended_inside ⟨late, early⟩]
    exact aligned.matched_unique late (isPartner value late early).2.2 isMatched

end Both

end Alignment

end ShapeDomain
