/-!
# Finite tables

A table binds finitely many keys to payloads and keeps its bindings in increasing order of the keys.
The order is part of the type, so two tables that answer every lookup alike are equal
(`Table.ext_get?`), and a traversal visits the bindings in the order of their keys.
-/

namespace ShapeDomain

/-- Two bindings stand in the order of their keys. -/
def KeyLt {κ α : Type} [Ord κ] (a b : κ × α) : Prop :=
  compare a.1 b.1 = .lt

instance {κ α : Type} [Ord κ] (a b : κ × α) : Decidable (KeyLt a b) :=
  inferInstanceAs (Decidable (_ = _))

/-- A finite map from `κ` to `α` whose bindings are listed in increasing order of their keys. -/
structure Table (κ α : Type) [Ord κ] where
  /-- The bindings. -/
  toList : List (κ × α)
  /-- Their keys increase. -/
  sorted : toList.Pairwise KeyLt

namespace Table

variable {κ α β : Type} [Ord κ]

instance [DecidableEq κ] [DecidableEq α] : DecidableEq (Table κ α) := fun s t =>
  if equal : s.toList = t.toList then
    isTrue (by cases s; cases t; simp_all)
  else
    isFalse fun same => equal (congrArg toList same)

/-- The table without bindings. -/
def empty : Table κ α where
  toList := []
  sorted := .nil

instance : EmptyCollection (Table κ α) := ⟨empty⟩

instance : Inhabited (Table κ α) := ⟨empty⟩

/-- The payload of the first binding of `key` in a list of bindings. -/
def find? (key : κ) : List (κ × α) → Option α
  | [] => none
  | binding :: rest => if compare key binding.1 = .eq then some binding.2 else find? key rest

/-- The payload bound to `key`, if there is one. -/
def get? (table : Table κ α) (key : κ) : Option α :=
  find? key table.toList

/-- Whether `key` is bound. -/
def contains (table : Table κ α) (key : κ) : Bool :=
  (table.get? key).isSome

/-- The bound keys, in increasing order. -/
def keys (table : Table κ α) : List κ :=
  table.toList.map Prod.fst

/-- The payloads, in the order of their keys. -/
def payloads (table : Table κ α) : List α :=
  table.toList.map Prod.snd

/-- The number of bindings. -/
def size (table : Table κ α) : Nat :=
  table.toList.length

/-- Puts a binding at its place in an ordered list, replacing the binding of the same key. -/
def place (key : κ) (payload : α) : List (κ × α) → List (κ × α)
  | [] => [(key, payload)]
  | binding :: rest =>
      match compare key binding.1 with
      | .lt => (key, payload) :: binding :: rest
      | .eq => (key, payload) :: rest
      | .gt => binding :: place key payload rest

theorem mem_place
    {key : κ} {payload : α} {binding : κ × α} {list : List (κ × α)}
    (member : binding ∈ place key payload list) :
    binding = (key, payload) ∨ binding ∈ list := by
  induction list with
  | nil => simpa [place] using member
  | cons head rest ih =>
      simp only [place] at member
      split at member <;> grind

theorem pairwise_place [Std.TransOrd κ] [Std.LawfulEqOrd κ]
    (key : κ) (payload : α) {list : List (κ × α)}
    (ordered : list.Pairwise KeyLt) :
    (place key payload list).Pairwise KeyLt := by
  induction list with
  | nil => simp [place]
  | cons head rest ih =>
      obtain ⟨before, tail⟩ := List.pairwise_cons.1 ordered
      simp only [place]
      split
      case h_1 less =>
        refine .cons (fun other member => ?_) ordered
        rcases List.mem_cons.1 member with rfl | member
        · exact less
        · exact Std.TransCmp.lt_trans less (before other member)
      case h_2 same =>
        refine .cons (fun other member => ?_) tail
        have equal : key = head.1 := Std.LawfulEqCmp.eq_of_compare same
        subst equal
        exact before other member
      case h_3 greater =>
        refine .cons (fun other member => ?_) (ih tail)
        rcases mem_place member with rfl | member
        · exact Std.OrientedCmp.lt_of_gt greater
        · exact before other member

/-- Binds `key` to `payload`, whatever it was bound to. -/
def insert [Std.TransOrd κ] [Std.LawfulEqOrd κ]
    (table : Table κ α) (key : κ) (payload : α) : Table κ α where
  toList := place key payload table.toList
  sorted := pairwise_place key payload table.sorted

/-- Keeps the bindings that satisfy a test. -/
def filter (keep : κ → α → Bool) (table : Table κ α) : Table κ α where
  toList := table.toList.filter fun binding => keep binding.1 binding.2
  sorted := table.sorted.filter _

/-- Forgets the binding of `key`. -/
def erase (table : Table κ α) (key : κ) : Table κ α :=
  table.filter fun other _ => compare key other != .eq

/-- Replaces every payload, leaving the keys as they are. -/
def mapPayloads (f : α → β) (table : Table κ α) : Table κ β where
  toList := table.toList.map fun binding => (binding.1, f binding.2)
  sorted := by
    rw [List.pairwise_map]
    exact table.sorted

/-- Replaces every payload by what comes of it and its key, and forgets the bindings of which
nothing comes. -/
def filterMap (f : κ → α → Option β) (table : Table κ α) : Table κ β where
  toList := table.toList.filterMap fun binding => (f binding.1 binding.2).map (binding.1, ·)
  sorted := by
    refine List.Pairwise.filterMap _ (fun a b less a' here b' there => ?_) table.sorted
    obtain ⟨_, -, rfl⟩ := Option.map_eq_some_iff.1 here
    obtain ⟨_, -, rfl⟩ := Option.map_eq_some_iff.1 there
    exact less

/-- The binding with the greatest key below `bound`. -/
def lastBelow? (table : Table κ α) (bound : κ) : Option (κ × α) :=
  (table.toList.filter fun binding => compare binding.1 bound == .lt).getLast?

/-! ### Lookup through each operation -/

@[simp] theorem toList_empty : (∅ : Table κ α).toList = [] := rfl

@[simp] theorem get?_empty (key : κ) : (∅ : Table κ α).get? key = none := rfl

theorem find?_place_self [Std.TransOrd κ] (key : κ) (payload : α) (list : List (κ × α)) :
    find? key (place key payload list) = some payload := by
  induction list with
  | nil => simp [place, find?, Std.ReflCmp.compare_self]
  | cons head rest ih =>
      simp only [place]
      split <;> simp_all [find?, Std.ReflCmp.compare_self]

theorem find?_place_of_ne [Std.LawfulEqOrd κ]
    {key other : κ} (distinct : other ≠ key) (payload : α) (list : List (κ × α)) :
    find? other (place key payload list) = find? other list := by
  have unequal (k : κ) (same : k = key) : compare other k ≠ .eq := fun equal =>
    distinct ((Std.LawfulEqCmp.eq_of_compare equal).trans same)
  induction list with
  | nil => simp [place, find?, unequal key rfl]
  | cons head rest ih =>
      simp only [place]
      split
      case h_1 => simp [find?, unequal key rfl]
      case h_2 same =>
        have equal : head.1 = key := (Std.LawfulEqCmp.eq_of_compare same).symm
        simp [find?, unequal key rfl, unequal head.1 equal]
      case h_3 => simp [find?, ih]

@[simp] theorem get?_insert_self [Std.TransOrd κ] [Std.LawfulEqOrd κ]
    (table : Table κ α) (key : κ) (payload : α) :
    (table.insert key payload).get? key = some payload :=
  find?_place_self key payload table.toList

theorem get?_insert_of_ne [Std.TransOrd κ] [Std.LawfulEqOrd κ]
    (table : Table κ α) {key other : κ} (distinct : other ≠ key) (payload : α) :
    (table.insert key payload).get? other = table.get? other :=
  find?_place_of_ne distinct payload table.toList

theorem get?_insert [Std.TransOrd κ] [Std.LawfulEqOrd κ] [DecidableEq κ]
    (table : Table κ α) (key other : κ) (payload : α) :
    (table.insert key payload).get? other =
      if other = key then some payload else table.get? other := by
  split
  case isTrue same => subst same; exact get?_insert_self table other payload
  case isFalse distinct => exact get?_insert_of_ne table distinct payload

theorem mem_of_find? [Std.LawfulEqOrd κ] {key : κ} {payload : α} {list : List (κ × α)}
    (found : find? key list = some payload) : (key, payload) ∈ list := by
  induction list with
  | nil => simp [find?] at found
  | cons head rest ih =>
      simp only [find?] at found
      split at found
      case isTrue same =>
        have equal : key = head.1 := Std.LawfulEqCmp.eq_of_compare same
        simp only [Option.some.injEq] at found
        subst equal found
        exact List.mem_cons_self
      case isFalse => exact List.mem_cons_of_mem _ (ih found)

theorem find?_of_mem [Std.TransOrd κ] {key : κ} {payload : α} {list : List (κ × α)}
    (ordered : list.Pairwise KeyLt) (member : (key, payload) ∈ list) :
    find? key list = some payload := by
  induction list with
  | nil => simp at member
  | cons head rest ih =>
      obtain ⟨before, tail⟩ := List.pairwise_cons.1 ordered
      rcases List.mem_cons.1 member with rfl | member
      · simp [find?, Std.ReflCmp.compare_self]
      · have greater : compare key head.1 = .gt :=
          Std.OrientedCmp.gt_of_lt (before _ member)
        simp [find?, greater, ih tail member]

/-- The listed bindings are exactly those that lookup finds. -/
theorem mem_toList_iff [Std.TransOrd κ] [Std.LawfulEqOrd κ]
    {table : Table κ α} {key : κ} {payload : α} :
    (key, payload) ∈ table.toList ↔ table.get? key = some payload :=
  ⟨find?_of_mem table.sorted, mem_of_find?⟩

theorem eq_of_find?_eq [Std.TransOrd κ] [Std.LawfulEqOrd κ]
    {s t : List (κ × α)}
    (orderedS : s.Pairwise KeyLt) (orderedT : t.Pairwise KeyLt)
    (same : ∀ key, find? key s = find? key t) : s = t := by
  induction s generalizing t with
  | nil =>
      cases t with
      | nil => rfl
      | cons head rest =>
          have found := same head.1
          simp [find?, Std.ReflCmp.compare_self] at found
  | cons a s ih =>
      cases t with
      | nil =>
          have found := same a.1
          simp [find?, Std.ReflCmp.compare_self] at found
      | cons b t =>
          obtain ⟨beforeS, tailS⟩ := List.pairwise_cons.1 orderedS
          obtain ⟨beforeT, tailT⟩ := List.pairwise_cons.1 orderedT
          have inT : (a.1, a.2) ∈ b :: t := mem_of_find? <| by
            rw [← same a.1]; simp [find?, Std.ReflCmp.compare_self]
          have inS : (b.1, b.2) ∈ a :: s := mem_of_find? <| by
            rw [same b.1]; simp [find?, Std.ReflCmp.compare_self]
          have heads : a = b := by
            rcases List.mem_cons.1 inT with equal | later
            · exact equal
            · rcases List.mem_cons.1 inS with equal | later'
              · exact equal.symm
              · have forward : compare b.1 a.1 = .lt := beforeT _ later
                have backward : compare a.1 b.1 = .lt := beforeS _ later'
                have loop : compare a.1 a.1 = .lt := Std.TransCmp.lt_trans backward forward
                simp [Std.ReflCmp.compare_self] at loop
          subst heads
          have absent {list : List (κ × α)} (before : ∀ x ∈ list, KeyLt a x) :
              find? a.1 list = none := by
            cases found : find? a.1 list with
            | none => rfl
            | some payload =>
                have loop : KeyLt a (a.1, payload) := before _ (mem_of_find? found)
                rw [KeyLt] at loop
                simp [Std.ReflCmp.compare_self] at loop
          refine congrArg _ (ih tailS tailT fun key => ?_)
          by_cases equal : compare key a.1 = .eq
          · obtain rfl : key = a.1 := Std.LawfulEqCmp.eq_of_compare equal
            rw [absent beforeS, absent beforeT]
          · simpa [find?, equal] using same key

theorem mem_keys_iff [Std.TransOrd κ] [Std.LawfulEqOrd κ] {table : Table κ α} {key : κ} :
    key ∈ table.keys ↔ table.contains key = true := by
  simp only [keys, List.mem_map, Prod.exists, exists_and_right, exists_eq_right, mem_toList_iff,
    contains, Option.isSome_iff_exists]

/-- Two tables are equal when every key has the same payload in both. -/
theorem ext_get? [Std.TransOrd κ] [Std.LawfulEqOrd κ]
    {s t : Table κ α} (same : ∀ key, s.get? key = t.get? key) : s = t := by
  have lists : s.toList = t.toList := eq_of_find?_eq s.sorted t.sorted same
  cases s; cases t; simp_all

theorem insert_insert [Std.TransOrd κ] [Std.LawfulEqOrd κ] [DecidableEq κ] (table : Table κ α)
    (key : κ) (old new : α) : (table.insert key old).insert key new = table.insert key new := by
  refine ext_get? fun other => ?_
  simp only [get?_insert]
  split <;> rfl

theorem get?_filter [Std.TransOrd κ] [Std.LawfulEqOrd κ]
    (keep : κ → α → Bool) (table : Table κ α) (key : κ) :
    (table.filter keep).get? key = (table.get? key).filter (keep key) := by
  apply Option.ext
  intro payload
  rw [← mem_toList_iff, Option.filter_eq_some_iff, ← mem_toList_iff]
  simp [filter]

theorem get?_erase_self [Std.TransOrd κ] [Std.LawfulEqOrd κ] (table : Table κ α) (key : κ) :
    (table.erase key).get? key = none := by
  simp [erase, get?_filter, Std.ReflCmp.compare_self]

theorem get?_erase_of_ne [Std.TransOrd κ] [Std.LawfulEqOrd κ]
    (table : Table κ α) {key other : κ} (distinct : other ≠ key) :
    (table.erase key).get? other = table.get? other := by
  have unequal : compare key other ≠ .eq := fun equal =>
    distinct (Std.LawfulEqCmp.eq_of_compare equal).symm
  rw [erase, get?_filter]
  cases table.get? other <;> simp [Option.filter, unequal]

theorem get?_mapPayloads (f : α → β) (table : Table κ α) (key : κ) :
    (table.mapPayloads f).get? key = (table.get? key).map f := by
  obtain ⟨list, ordered⟩ := table
  simp only [get?, mapPayloads]
  clear ordered
  induction list with
  | nil => rfl
  | cons head rest ih =>
      simp only [List.map_cons, find?]
      split <;> simp_all

theorem get?_filterMap [Std.TransOrd κ] [Std.LawfulEqOrd κ]
    (f : κ → α → Option β) (table : Table κ α) (key : κ) :
    (table.filterMap f).get? key = (table.get? key).bind (f key) := by
  apply Option.ext
  intro payload
  rw [← mem_toList_iff, Option.bind_eq_some_iff]
  simp only [filterMap, List.mem_filterMap, Option.map_eq_some_iff, Prod.exists, Prod.mk.injEq,
    mem_toList_iff]
  constructor
  · rintro ⟨_, old, found, new, made, rfl, rfl⟩
    exact ⟨old, found, made⟩
  · rintro ⟨old, found, made⟩
    exact ⟨key, old, found, payload, made, rfl, rfl⟩

end Table

/-- A finite set of keys, listed in increasing order. -/
abbrev KeySet (κ : Type) [Ord κ] := Table κ Unit

namespace KeySet

variable {κ : Type} [Ord κ] [Std.TransOrd κ] [Std.LawfulEqOrd κ]

/-- Adds a key to a set. -/
def add (set : KeySet κ) (key : κ) : KeySet κ :=
  Table.insert set key ()

/-- Adds several keys to a set. -/
def addAll (set : KeySet κ) (keys : List κ) : KeySet κ :=
  keys.foldl add set

/-- The set of the keys in a list. -/
def ofList (keys : List κ) : KeySet κ :=
  addAll ∅ keys

/-- The keys of `set` that are not in `other`. -/
def diff (set other : KeySet κ) : KeySet κ :=
  Table.filter (fun key _ => !other.contains key) set

/-- The keys that are in both sets. -/
def inter (set other : KeySet κ) : KeySet κ :=
  Table.filter (fun key _ => other.contains key) set

theorem keys_diff_self (set : KeySet κ) : (set.diff set).keys = [] := by
  rw [List.eq_nil_iff_forall_not_mem]
  intro key member
  rw [Table.mem_keys_iff, Table.contains, diff, Table.get?_filter, Table.contains] at member
  cases found : Table.get? set key <;> simp [found] at member

theorem contains_add [DecidableEq κ] (set : KeySet κ) (key other : κ) :
    (set.add key).contains other = (decide (other = key) || set.contains other) := by
  rw [Table.contains, add, Table.get?_insert]
  split <;> simp_all [Table.contains]

theorem contains_addAll [DecidableEq κ] (set : KeySet κ) (keys : List κ) (key : κ) :
    (set.addAll keys).contains key = (decide (key ∈ keys) || set.contains key) := by
  induction keys generalizing set with
  | nil => simp [addAll]
  | cons head rest ih =>
      have step : (set.addAll (head :: rest)) = (set.add head).addAll rest := rfl
      rw [step, ih, contains_add]
      by_cases same : key = head <;> simp [same]

theorem contains_addAll_iff [DecidableEq κ] {set : KeySet κ} {keys : List κ} {key : κ} :
    (set.addAll keys).contains key = true ↔ key ∈ keys ∨ set.contains key = true := by
  simp [contains_addAll]

theorem contains_ofList [DecidableEq κ] (keys : List κ) (key : κ) :
    (ofList keys).contains key = decide (key ∈ keys) := by
  rw [ofList, contains_addAll]
  simp [Table.contains]

/-- Sets with the same keys are equal. -/
theorem ext_contains {set other : KeySet κ}
    (same : ∀ key, set.contains key = true ↔ other.contains key = true) : set = other := by
  refine Table.ext_get? fun key => ?_
  have keys := same key
  rw [Table.contains, Table.contains] at keys
  cases first : set.get? key <;> cases second : other.get? key <;> simp [first, second] at keys ⊢

end KeySet

end ShapeDomain
