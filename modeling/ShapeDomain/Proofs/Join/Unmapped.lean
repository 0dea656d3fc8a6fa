import ShapeDomain.Graph.Lemmas
import ShapeDomain.Join.Value

/-!
# Objects without counterparts

Going down to the objects that two addresses lead to gives counterparts to objects that had none, of
which there are finitely many.
-/

namespace ShapeDomain

namespace Join

theorem address?_eq_some_iff {graph : Graph} {value : ValueId} {target : Target} :
    address? graph value = some target ↔ value ≠ .zero ∧ graph.target? value = some target := by
  unfold address?
  split
  case isTrue zero => simp [show value = .zero by simpa [ValueId.isZero] using zero]
  case isFalse proper =>
    simp [show value ≠ .zero by simpa [ValueId.isZero] using proper]

/-- How many objects of a graph have no counterpart. -/
def unmapped (graph : Graph) (map : Correspondence) : Nat :=
  graph.objects.keys.countP fun id => (map.object? id).isNone

theorem countP_lt {α : Type} {fewer more : α → Bool} {list : List α}
    (within : ∀ item ∈ list, fewer item = true → more item = true) {item : α}
    (member : item ∈ list) (new : more item = true) (old : fewer item = false) :
    list.countP fewer < list.countP more := by
  induction list with
  | nil => simp at member
  | cons head rest ih =>
      have withinRest : ∀ item ∈ rest, fewer item = true → more item = true :=
        fun item member => within item (List.mem_cons_of_mem _ member)
      have rests := List.countP_mono_left withinRest
      rw [List.countP_cons, List.countP_cons]
      rcases List.mem_cons.1 member with rfl | later
      · rw [if_pos new, if_neg (by simp [old])]
        omega
      · have less := ih withinRest later
        have start := within head List.mem_cons_self
        by_cases counted : fewer head = true
        · rw [if_pos counted, if_pos (start counted)]
          omega
        · rw [if_neg counted]
          omega

theorem isNone_of_grows {map next : Correspondence}
    (grows : ∀ id, (map.object? id).isSome = true → (next.object? id).isSome = true)
    {id : ObjectId} (isNone : (next.object? id).isNone = true) :
    (map.object? id).isNone = true := by
  rw [Option.isNone_iff_eq_none] at isNone ⊢
  cases mapped : map.object? id with
  | none => rfl
  | some dest =>
      have still := grows id (by rw [mapped]; rfl)
      rw [isNone] at still
      simp at still

theorem unmapped_le {graph : Graph} {map next : Correspondence}
    (grows : ∀ id, (map.object? id).isSome = true → (next.object? id).isSome = true) :
    unmapped graph next ≤ unmapped graph map :=
  List.countP_mono_left fun _ _ => isNone_of_grows grows

/-- One object less has no counterpart. -/
theorem unmapped_lt {graph : Graph} {map next : Correspondence}
    (grows : ∀ id, (map.object? id).isSome = true → (next.object? id).isSome = true)
    {id : ObjectId} {object : Object} (found : graph.object? id = some object)
    (before : map.object? id = Option.none) (after : (next.object? id).isSome = true) :
    unmapped graph next < unmapped graph map := by
  have member : id ∈ graph.objects.keys := by
    rw [Table.mem_keys_iff]
    exact (graph.hasObject_iff).2 ⟨object, found⟩
  exact countP_lt (fun _ _ => isNone_of_grows grows) member (by simp [before])
    (by simpa using after)

theorem unmapped_lt_size (graph : Graph) (map : Correspondence) :
    unmapped graph map < graph.objects.size + 1 := by
  have most := List.countP_le_length (p := fun id => (map.object? id).isNone)
    (l := graph.objects.keys)
  rw [Table.keys, List.length_map] at most
  exact Nat.lt_succ_of_le most

end Join

end ShapeDomain
