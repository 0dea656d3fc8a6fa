import ShapeDomain.Table

/-!
# Translating tables

A translation replaces the keys of a table by others that are ordered alike, and the payloads along
with them.  Every operation on tables commutes with it.
-/

namespace ShapeDomain

/-- A map of keys that keeps how they compare. -/
structure KeepsOrder {κ κ' : Type} [Ord κ] [Ord κ'] (f : κ → κ') : Prop where
  /-- Images compare as the keys do. -/
  compare_eq : ∀ a b, compare (f a) (f b) = compare a b

theorem KeepsOrder.id {κ : Type} [Ord κ] : KeepsOrder (fun key : κ => key) :=
  ⟨fun _ _ => rfl⟩

theorem KeepsOrder.injective {κ κ' : Type} [Ord κ] [Ord κ'] [Std.LawfulEqOrd κ]
    [Std.TransOrd κ'] {f : κ → κ'} (keeps : KeepsOrder f) {a b : κ} (same : f a = f b) :
    a = b := by
  have equal : compare a b = .eq := by
    rw [← keeps.compare_eq, same]
    exact Std.ReflCmp.compare_self
  exact Std.LawfulEqCmp.eq_of_compare equal

namespace Table

variable {κ κ' α β γ : Type} [Ord κ] [Ord κ']

/-- The table with other keys and other payloads. -/
def translate (f : κ → κ') (keeps : KeepsOrder f) (g : α → β) (table : Table κ α) :
    Table κ' β where
  toList := table.toList.map fun binding => (f binding.1, g binding.2)
  sorted := by
    rw [List.pairwise_map]
    exact table.sorted.imp fun less => (keeps.compare_eq _ _).trans less

variable {f : κ → κ'} (keeps : KeepsOrder f) (g : α → β)

include keeps in
theorem find?_translate (key : κ) (list : List (κ × α)) :
    find? (f key) (list.map fun binding => (f binding.1, g binding.2)) =
      (find? key list).map g := by
  induction list with
  | nil => rfl
  | cons head rest ih =>
      simp only [List.map_cons, find?, keeps.compare_eq]
      split
      · rfl
      · exact ih

include keeps in
theorem place_translate (key : κ) (payload : α) (list : List (κ × α)) :
    place (f key) (g payload) (list.map fun binding => (f binding.1, g binding.2)) =
      (place key payload list).map fun binding => (f binding.1, g binding.2) := by
  induction list with
  | nil => rfl
  | cons head rest ih =>
      simp only [List.map_cons, place, keeps.compare_eq]
      cases compare key head.1 with
      | lt => rfl
      | eq => rfl
      | gt => simp only [List.map_cons, ih]

@[simp] theorem translate_empty : (∅ : Table κ α).translate f keeps g = ∅ := rfl

theorem get?_translate (table : Table κ α) (key : κ) :
    (table.translate f keeps g).get? (f key) = (table.get? key).map g :=
  find?_translate keeps g key table.toList

theorem contains_translate (table : Table κ α) (key : κ) :
    (table.translate f keeps g).contains (f key) = table.contains key := by
  rw [contains, contains, get?_translate, Option.isSome_map]

@[simp] theorem size_translate (table : Table κ α) :
    (table.translate f keeps g).size = table.size :=
  List.length_map _

theorem keys_translate (table : Table κ α) :
    (table.translate f keeps g).keys = table.keys.map f := by
  simp [keys, translate]

theorem toList_injective {s t : Table κ α} (same : s.toList = t.toList) : s = t := by
  cases s; cases t
  simp_all

theorem translate_insert [Std.TransOrd κ] [Std.LawfulEqOrd κ] [Std.TransOrd κ']
    [Std.LawfulEqOrd κ'] (table : Table κ α) (key : κ) (payload : α) :
    (table.insert key payload).translate f keeps g =
      (table.translate f keeps g).insert (f key) (g payload) :=
  toList_injective (place_translate keeps g key payload table.toList).symm

theorem translate_filter {keep : κ → α → Bool} {keep' : κ' → β → Bool} (table : Table κ α)
    (same : ∀ key payload, keep' (f key) (g payload) = keep key payload) :
    (table.filter keep).translate f keeps g = (table.translate f keeps g).filter keep' := by
  apply toList_injective
  simp only [translate, filter, List.filter_map]
  congr 1
  apply List.filter_congr
  intro binding _
  exact (same binding.1 binding.2).symm

theorem translate_erase (table : Table κ α) (key : κ) :
    (table.erase key).translate f keeps g = (table.translate f keeps g).erase (f key) := by
  refine translate_filter keeps g table fun other payload => ?_
  rw [keeps.compare_eq]

theorem translate_mapPayloads {δ : Type} {h : α → γ} {g' : γ → δ} {h' : β → δ}
    (table : Table κ α) (same : ∀ payload, g' (h payload) = h' (g payload)) :
    (table.mapPayloads h).translate f keeps g' = (table.translate f keeps g).mapPayloads h' := by
  apply toList_injective
  simp only [translate, mapPayloads, List.map_map]
  apply List.map_congr_left
  intro binding _
  exact congrArg (f binding.1, ·) (same binding.2)

/-- Binding a key to what it is bound to changes nothing. -/
theorem insert_of_get?_eq [Std.TransOrd κ] [Std.LawfulEqOrd κ] {table : Table κ α} {key : κ}
    {payload : α} (bound : table.get? key = some payload) : table.insert key payload = table := by
  refine ext_get? fun other => ?_
  by_cases same : other = key
  · rw [same, get?_insert_self, bound]
  · rw [get?_insert_of_ne _ same]

/-! ### Payloads alone -/

theorem mapPayloads_insert [Std.TransOrd κ] [Std.LawfulEqOrd κ] (h : α → β) (table : Table κ α)
    (key : κ) (payload : α) :
    (table.insert key payload).mapPayloads h = (table.mapPayloads h).insert key (h payload) :=
  translate_insert .id h table key payload

@[simp] theorem keys_mapPayloads (h : α → β) (table : Table κ α) :
    (table.mapPayloads h).keys = table.keys := by
  simp [keys, mapPayloads]

theorem lastBelow?_mapPayloads (h : α → β) (table : Table κ α) (bound : κ) :
    (table.mapPayloads h).lastBelow? bound =
      (table.lastBelow? bound).map fun binding => (binding.1, h binding.2) := by
  simp only [lastBelow?, mapPayloads, List.filter_map, List.getLast?_map]
  rfl

end Table

namespace KeySet

variable {κ κ' : Type} [Ord κ] [Ord κ'] {f : κ → κ'}

theorem ofList_map [Std.TransOrd κ] [Std.LawfulEqOrd κ] [Std.TransOrd κ'] [Std.LawfulEqOrd κ']
    (keeps : KeepsOrder f) (keys : List κ) :
    ofList (keys.map f) = (ofList keys).translate f keeps fun _ => () := by
  have all (set : KeySet κ) : addAll (set.translate f keeps fun _ => ()) (keys.map f) =
      (addAll set keys).translate f keeps fun _ => () := by
    induction keys generalizing set with
    | nil => rfl
    | cons key rest ih =>
        have step := ih (set.add key)
        rw [add, Table.translate_insert] at step
        exact step
  exact all ∅

theorem inter_comm [Std.TransOrd κ] [Std.LawfulEqOrd κ] (set other : KeySet κ) :
    set.inter other = other.inter set := by
  refine Table.ext_get? fun key => ?_
  rw [inter, inter, Table.get?_filter, Table.get?_filter, Table.contains, Table.contains]
  cases set.get? key <;> cases other.get? key <;> rfl

theorem inter_translate (keeps : KeepsOrder f) (set other : KeySet κ) :
    inter (set.translate f keeps fun _ => ()) (other.translate f keeps fun _ => ()) =
      (inter set other).translate f keeps fun _ => () :=
  (Table.translate_filter keeps (fun _ => ()) set fun key _ =>
    Table.contains_translate keeps (fun _ => ()) other key).symm

theorem diff_translate (keeps : KeepsOrder f) (set other : KeySet κ) :
    diff (set.translate f keeps fun _ => ()) (other.translate f keeps fun _ => ()) =
      (diff set other).translate f keeps fun _ => () :=
  (Table.translate_filter keeps (fun _ => ()) set fun key _ => congrArg not
    (Table.contains_translate keeps (fun _ => ()) other key)).symm

end KeySet

end ShapeDomain
