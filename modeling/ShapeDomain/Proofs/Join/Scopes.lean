import Mathlib.Data.List.Flatten
import Mathlib.Data.List.Zip
import ShapeDomain.Join.Variable
import ShapeDomain.Proofs.Translate

/-!
# Scopes with the same names

A join pairs the variables of two scopes by their positions.  Where the scopes have the same names,
these are the pairs of variables of the same name.
-/

namespace ShapeDomain

/-! ### Positions -/

namespace Table

variable {α β : Type} {scope1 : Table String α} {scope2 : Table String β}

/-- Bindings at the same position of tables with the same keys have the same key. -/
theorem fst_eq_of_mem_zip (same : scope1.keys = scope2.keys)
    {link : (String × α) × (String × β)} (member : link ∈ scope1.toList.zip scope2.toList) :
    link.1.1 = link.2.1 := by
  obtain ⟨position, found⟩ := List.mem_iff_getElem?.1 member
  rw [List.getElem?_zip_eq_some] at found
  have names : scope1.keys[position]? = scope2.keys[position]? := by rw [same]
  rw [keys, keys, List.getElem?_map, List.getElem?_map, found.1, found.2] at names
  exact Option.some.inj names

/-- Bindings of the same key are at the same position of tables with the same keys. -/
theorem mem_zip_of_get? (same : scope1.keys = scope2.keys) {name : String} {payload1 : α}
    {payload2 : β} (found1 : scope1.get? name = some payload1)
    (found2 : scope2.get? name = some payload2) :
    ((name, payload1), (name, payload2)) ∈ scope1.toList.zip scope2.toList := by
  obtain ⟨position, isAt1⟩ := List.mem_iff_getElem?.1 (mem_toList_iff.2 found1)
  have names : scope1.keys[position]? = scope2.keys[position]? := by rw [same]
  rw [keys, keys, List.getElem?_map, List.getElem?_map, isAt1, Option.map_some, eq_comm,
    Option.map_eq_some_iff] at names
  obtain ⟨⟨other, payload⟩, isAt2, rfl⟩ := names
  have found : scope2.get? other = some payload :=
    mem_toList_iff.1 (List.mem_iff_getElem?.2 ⟨position, isAt2⟩)
  obtain rfl := Option.some.inj (found2.symm.trans found)
  exact List.mem_iff_getElem?.2
    ⟨position, List.getElem?_zip_eq_some.2 ⟨isAt1, isAt2⟩⟩

/-- Tables with the same keys bind the same keys. -/
theorem isSome_get?_of_keys (same : scope1.keys = scope2.keys) (name : String) :
    (scope1.get? name).isSome = (scope2.get? name).isSome := by
  rw [Bool.eq_iff_iff]
  show scope1.contains name = true ↔ scope2.contains name = true
  rw [← mem_keys_iff, ← mem_keys_iff, same]

/-- Tables that bind the same keys have the same keys. -/
theorem keys_eq_of_isSome_get?
    (same : ∀ name, (scope1.get? name).isSome = (scope2.get? name).isSome) :
    scope1.keys = scope2.keys := by
  have unit : scope1.mapPayloads (fun _ => ()) = scope2.mapPayloads fun _ => () := by
    refine ext_get? fun name => ?_
    have bound := same name
    rw [get?_mapPayloads, get?_mapPayloads]
    cases first : scope1.get? name <;> cases second : scope2.get? name <;>
      simp [first, second] at bound ⊢
  simpa using congrArg keys unit

end Table

namespace Join

/-- Two variables, one of each graph. -/
abbrev Link := (String × ObjectId) × (String × ObjectId)

theorem map_fst_zip_sublist {α β : Type} (list1 : List α) (list2 : List β) :
    ((list1.zip list2).map Prod.fst).Sublist list1 := by
  induction list1 generalizing list2 with
  | nil => exact .slnil
  | cons head rest ih =>
      cases list2 with
      | nil => exact List.nil_sublist _
      | cons other others => exact (ih others).cons_cons head

theorem map_snd_zip_sublist {α β : Type} (list1 : List α) (list2 : List β) :
    ((list1.zip list2).map Prod.snd).Sublist list2 := by
  rw [← List.zip_swap, List.map_map]
  exact map_fst_zip_sublist list2 list1

/-- The variables of two lists of functions that are paired. -/
def frameLinks (frames : List (Frame × Frame)) : List Link :=
  frames.flatMap fun both => both.1.locals.toList.zip both.2.locals.toList

/-- The variables of two graphs that are paired. -/
def links (left right : Graph) : List Link :=
  left.globals.toList.zip right.globals.toList ++ frameLinks (left.frames.zip right.frames)

theorem map_fst_links_sublist (left right : Graph) :
    ((links left right).map Prod.fst).Sublist left.roots := by
  rw [links, frameLinks, List.map_append, List.map_flatMap, Graph.roots]
  refine (map_fst_zip_sublist _ _).append ?_
  refine (List.Sublist.flatMap_right _ fun both _ => map_fst_zip_sublist _ _).trans ?_
  rw [← List.flatMap_map Prod.fst fun frame : Frame => frame.locals.toList]
  exact (map_fst_zip_sublist _ _).flatMap _

theorem map_snd_links_sublist (left right : Graph) :
    ((links left right).map Prod.snd).Sublist right.roots := by
  rw [links, frameLinks, List.map_append, List.map_flatMap, Graph.roots]
  refine (map_snd_zip_sublist _ _).append ?_
  refine (List.Sublist.flatMap_right _ fun both _ => map_snd_zip_sublist _ _).trans ?_
  rw [← List.flatMap_map Prod.snd fun frame : Frame => frame.locals.toList]
  exact (map_snd_zip_sublist _ _).flatMap _

end Join

end ShapeDomain
