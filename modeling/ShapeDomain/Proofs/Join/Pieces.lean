import ShapeDomain.Join.Alignment
import ShapeDomain.Proofs.Graph.Layout

/-!
# The pieces of a range

The boundaries of two layouts cut the ranges of both into pieces that no boundary divides.  Two such
pieces are equal or apart, whichever layouts they come from, and the pieces of a range are all the
undivided ranges between cuts that lie within it.
-/

namespace ShapeDomain

namespace Alignment

/-- A range between two cuts that no cut divides. -/
structure Elementary (cuts : KeySet Nat) (range : BitRange) : Prop where
  /-- It has bits. -/
  positive : 0 < range.size
  /-- It starts at a cut. -/
  start : cuts.contains range.offset = true
  /-- It ends at a cut. -/
  finish : cuts.contains (range.offset + range.size) = true
  /-- No cut is strictly inside it. -/
  undivided : ∀ cut, cuts.contains cut = true →
    cut ≤ range.offset ∨ range.offset + range.size ≤ cut

/-- A range lies within another one. -/
def Within (range outer : BitRange) : Prop :=
  outer.offset ≤ range.offset ∧ range.offset + range.size ≤ outer.offset + outer.size

instance (range outer : BitRange) : Decidable (Within range outer) :=
  inferInstanceAs (Decidable (_ ∧ _))

variable {cuts : KeySet Nat} {range other outer : BitRange}

theorem Elementary.eq_or_apart (here : Elementary cuts range) (there : Elementary cuts other) :
    range = other ∨ range.Apart other := by
  have start := here.undivided _ there.start
  have finish := here.undivided _ there.finish
  have start' := there.undivided _ here.start
  have positive := here.positive
  have positive' := there.positive
  rcases start with before | after
  · rcases finish with early | late
    · right; right; omega
    · rcases start' with before' | after'
      · have finish' := there.undivided _ here.finish
        left
        apply BitRange.eq_of_offset_of_size <;> omega
      · right; right; omega
  · right; left; exact after

/-- An undivided range lies within a range between cuts or is apart from it. -/
theorem Elementary.within_or_apart (elementary : Elementary cuts range)
    (start : cuts.contains outer.offset = true)
    (finish : cuts.contains (outer.offset + outer.size) = true) :
    Within range outer ∨ range.Apart outer := by
  rcases elementary.undivided _ start with before | after
  · rcases elementary.undivided _ finish with early | late
    · right; right; exact early
    · left; exact ⟨before, late⟩
  · right; left; exact after

theorem Within.not_apart (within : Within range outer) (positive : 0 < range.size) :
    ¬ range.Apart outer := by
  rintro (before | after)
  · have := within.1
    omega
  · have := within.2
    omega

/-- What lies within a range is apart from all that the range is apart from. -/
theorem Within.apart (within : Within range outer) (apart : outer.Apart other) :
    range.Apart other := by
  have := within.1
  have := within.2
  rcases apart with before | after
  · left; omega
  · right; omega

/-! ### Ranges between bounds -/

theorem between_cons_cons (a b : Nat) (rest : List Nat) :
    between (a :: b :: rest) = BitRange.between a b :: between (b :: rest) := rfl

theorem offset_mem_of_mem_between {bounds : List Nat} (member : range ∈ between bounds) :
    range.offset ∈ bounds := by
  induction bounds with
  | nil => simp [between] at member
  | cons a rest ih =>
      cases rest with
      | nil => simp [between] at member
      | cons b rest =>
          rw [between_cons_cons, List.mem_cons] at member
          rcases member with rfl | later
          · simp [BitRange.between]
          · exact List.mem_cons_of_mem _ (ih later)

/-- The ranges between increasing bounds are those that start and end at a bound and have no bound
inside. -/
theorem mem_between_iff {bounds : List Nat} (increasing : bounds.Pairwise (· < ·)) :
    range ∈ between bounds ↔ 0 < range.size ∧ range.offset ∈ bounds ∧
      range.offset + range.size ∈ bounds ∧
      ∀ bound ∈ bounds, bound ≤ range.offset ∨ range.offset + range.size ≤ bound := by
  induction bounds with
  | nil => simp [between]
  | cons a rest ih =>
      obtain ⟨before, tail⟩ := List.pairwise_cons.1 increasing
      cases rest with
      | nil =>
          simp only [between, List.tail_cons, List.zipWith_nil_right, List.not_mem_nil,
            List.mem_singleton, false_iff]
          rintro ⟨positive, start, finish, -⟩
          omega
      | cons b rest =>
          rw [between_cons_cons, List.mem_cons, ih tail]
          have less : a < b := before b List.mem_cons_self
          constructor
          · rintro (rfl | ⟨positive, start, finish, undivided⟩)
            · simp only [BitRange.between]
              refine ⟨by omega, List.mem_cons_self, ?_, ?_⟩
              · have : a + (b - a) = b := by omega
                simp [this]
              · intro bound member
                rcases List.mem_cons.1 member with rfl | member
                · left; exact Nat.le_refl _
                · rcases List.mem_cons.1 member with rfl | member
                  · right; omega
                  · have := (List.pairwise_cons.1 tail).1 bound member
                    right; omega
            · refine ⟨positive, List.mem_cons_of_mem _ start, List.mem_cons_of_mem _ finish, ?_⟩
              intro bound member
              rcases List.mem_cons.1 member with rfl | member
              · have := before _ start
                left; omega
              · exact undivided bound member
          · rintro ⟨positive, start, finish, undivided⟩
            rcases List.mem_cons.1 start with same | start
            · left
              have past : range.offset + range.size ∈ b :: rest := by
                rcases List.mem_cons.1 finish with same' | past
                · omega
                · exact past
              have least : b ≤ range.offset + range.size := by
                rcases List.mem_cons.1 past with same' | past
                · omega
                · have := (List.pairwise_cons.1 tail).1 _ past
                  omega
              have greatest : range.offset + range.size ≤ b := by
                rcases undivided b (by simp) with early | late
                · omega
                · exact late
              apply BitRange.eq_of_offset_of_size <;> simp only [BitRange.between] <;> omega
            · right
              refine ⟨positive, start, ?_, fun bound member =>
                undivided bound (List.mem_cons_of_mem _ member)⟩
              rcases List.mem_cons.1 finish with same | finish
              · have := before _ start
                omega
              · exact finish

/-- The ranges between increasing bounds follow each other. -/
theorem pairwise_between {bounds : List Nat} (increasing : bounds.Pairwise (· < ·)) :
    (between bounds).Pairwise fun a b => a.offset + a.size ≤ b.offset := by
  induction bounds with
  | nil => exact .nil
  | cons a rest ih =>
      obtain ⟨before, tail⟩ := List.pairwise_cons.1 increasing
      cases rest with
      | nil => exact .nil
      | cons b rest =>
          rw [between_cons_cons]
          refine .cons ?_ (ih tail)
          intro later member
          have start := offset_mem_of_mem_between member
          have less : a < b := before b List.mem_cons_self
          simp only [BitRange.between]
          rcases List.mem_cons.1 start with same | start
          · omega
          · have := (List.pairwise_cons.1 tail).1 _ start
            omega

/-! ### Pieces -/

theorem pairwise_keys (cuts : KeySet Nat) : cuts.keys.Pairwise (· < ·) := by
  rw [Table.keys, List.pairwise_map]
  exact cuts.sorted.imp fun less => Nat.compare_eq_lt.1 less

theorem mem_inside_iff {cut : Nat} (exact : range.stop = range.offset + range.size) :
    cut ∈ inside cuts range ↔
      cuts.contains cut = true ∧ range.offset < cut ∧ cut < range.offset + range.size := by
  rw [inside, List.mem_filter, Table.mem_keys_iff, exact, decide_eq_true_iff]

/-- The bounds of the pieces of a range increase. -/
theorem pairwise_bounds (exact : range.stop = range.offset + range.size)
    (positive : 0 < range.size) :
    (range.offset :: inside cuts range ++ [range.stop]).Pairwise (· < ·) := by
  rw [List.cons_append, List.pairwise_cons, List.pairwise_append]
  refine ⟨?_, (pairwise_keys cuts).filter _, List.pairwise_singleton _ _, ?_⟩
  · intro bound member
    rcases List.mem_append.1 member with member | member
    · exact ((mem_inside_iff exact).1 member).2.1
    · rw [List.mem_singleton.1 member]
      omega
  · intro cut member stop last
    rw [List.mem_singleton.1 last, exact]
    exact ((mem_inside_iff exact).1 member).2.2

/-- The pieces of a range between cuts are the undivided ranges within it. -/
theorem mem_pieces_iff (exact : outer.stop = outer.offset + outer.size)
    (positive : 0 < outer.size) (start : cuts.contains outer.offset = true)
    (finish : cuts.contains (outer.offset + outer.size) = true) :
    range ∈ pieces cuts outer ↔ Elementary cuts range ∧ Within range outer := by
  have bound_iff (bound : Nat) : bound ∈ outer.offset :: inside cuts outer ++ [outer.stop] ↔
      cuts.contains bound = true ∧ outer.offset ≤ bound ∧
        bound ≤ outer.offset + outer.size := by
    rw [List.cons_append, List.mem_cons, List.mem_append, List.mem_singleton,
      mem_inside_iff exact, exact]
    constructor
    · rintro (rfl | ⟨cut, lower, upper⟩ | rfl)
      · exact ⟨start, by omega, by omega⟩
      · exact ⟨cut, by omega, by omega⟩
      · exact ⟨finish, by omega, by omega⟩
    · rintro ⟨cut, lower, upper⟩
      by_cases first : bound = outer.offset
      · exact .inl first
      · by_cases last : bound = outer.offset + outer.size
        · exact .inr (.inr last)
        · exact .inr (.inl ⟨cut, by omega, by omega⟩)
  rw [pieces, mem_between_iff (pairwise_bounds exact positive), bound_iff, bound_iff]
  constructor
  · rintro ⟨bits, ⟨first, lower, -⟩, ⟨last, -, upper⟩, undivided⟩
    refine ⟨⟨bits, first, last, fun cut isCut => ?_⟩, lower, upper⟩
    by_cases low : cut ≤ range.offset
    · exact .inl low
    · by_cases high : range.offset + range.size ≤ cut
      · exact .inr high
      · exact undivided cut ((bound_iff cut).2 ⟨isCut, by omega, by omega⟩)
  · rintro ⟨elementary, lower, upper⟩
    exact ⟨elementary.positive, ⟨elementary.start, lower, by omega⟩,
      ⟨elementary.finish, by omega, upper⟩,
      fun bound member => elementary.undivided bound ((bound_iff bound).1 member).1⟩

theorem pairwise_pieces (exact : outer.stop = outer.offset + outer.size)
    (positive : 0 < outer.size) : (pieces cuts outer).Pairwise BitRange.Apart :=
  (pairwise_between (pairwise_bounds exact positive)).imp fun follows => .inl follows

/-- A range without a cut inside is its only piece. -/
theorem pieces_of_inside_eq_nil (exact : outer.stop = outer.offset + outer.size)
    (whole : inside cuts outer = []) : pieces cuts outer = [outer] := by
  have size : outer.offset + outer.size - outer.offset = outer.size := by omega
  simp [pieces, whole, between, BitRange.between, exact, size]

end Alignment

end ShapeDomain
