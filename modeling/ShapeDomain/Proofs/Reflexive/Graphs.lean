import ShapeDomain.Proofs.Join.Outcome
import ShapeDomain.Proofs.Reflexive.Variables

/-!
# The join of a graph with itself

Whatever the options are, a tame graph joined with itself gives an exact copy of what its variables
reach, says that the two are equal, and draws nothing.
-/

namespace ShapeDomain

namespace Graph

/-- An exact copy of what the variables of a graph reach, under the same names. -/
structure CopyOf (copy graph : Graph) : Prop where
  /-- It is in the memory of the same machine. -/
  machine : copy.machine = graph.machine
  /-- The running functions and their variables are the same. -/
  stack : copy.stack = graph.stack
  /-- So are the global variables. -/
  globals : copy.globals = graph.globals
  /-- NULL and the reachable objects have the same sizes, kinds and labels, are as valid and stand
  in the heap or not as before. -/
  objects : ∀ id, id = .null ∨ graph.Reaches id → copy.objects.get? id = graph.objects.get? id
  /-- There are no other objects. -/
  only : ∀ id, copy.hasObject id = true → id = .null ∨ graph.Reaches id
  /-- The fields are those of the reachable objects. -/
  fields : ∀ object range value, copy.valueAt? object range = some value ↔
    graph.Reaches object ∧ graph.valueAt? object range = some value
  /-- The values are those of the reachable fields and zero. -/
  values : ∀ value, copy.hasValue value = true ↔ value = .zero ∨ graph.Kept value
  /-- The zero value is the number 0 and the address of NULL. -/
  zero : copy.values.get? .zero = some .zero
  /-- Numbers are those of values that are no addresses. -/
  number : ∀ value, value ≠ .zero → ∀ number, copy.number? value = some number ↔
    graph.Kept value ∧ graph.target? value = none ∧ graph.number? value = some number
  /-- Addresses lead to the same places, but to the first nodes of list segments. -/
  target : ∀ value, value ≠ .zero → ∀ place, copy.target? value = some place ↔
    graph.Kept value ∧ ∃ target, graph.target? value = some target ∧
      place = graph.copiedTarget target
  /-- Inequalities are those between values of reachable fields. -/
  unequal : ∀ a b, copy.isUnequal a b = true ↔
    graph.isUnequal a b = true ∧ graph.Kept a ∧ graph.Kept b

/-- NULL has no fields. -/
theorem Sound.valueAt?_null {graph : Graph} (sound : graph.Sound) (range : BitRange) :
    graph.valueAt? .null range = none := by
  cases held : graph.valueAt? .null range with
  | none => rfl
  | some value =>
      obtain ⟨found, isObject, fits⟩ := sound.tiled.fits held
      obtain rfl := Option.some.inj (sound.object?_null.symm.trans isObject)
      have bits := sound.tiled.positive held
      have bound : range.offset + range.size ≤ 0 := (BitRange.fits_iff.1 fits).2
      omega

end Graph

namespace Join

variable {origin : Graph} {progress : Progress} {here : Progress × Supply} {start : Nat}
variable {setting : Setting}

namespace Copying

/-- Nothing has been copied when a join starts. -/
theorem initial (origin : Graph) : Copying origin [] (.start origin origin) where
  left := rfl
  right := rfl
  maps := rfl
  levels := rfl
  status := rfl
  sound := Graph.sound_initial origin.machine
  machine := rfl
  unrelated := rfl
  object mapped := by simp [Progress.start, Correspondence.empty, Correspondence.object?] at mapped
  objects id proper := by
    show (Table.insert ∅ ObjectId.null _).get? id = _
    rw [Table.get?_insert_of_ne _ proper]
    rfl
  value mapped := by simp [Progress.start, Correspondence.empty, Correspondence.value?] at mapped
  joined := by simp [Progress.start, Progress.CopiedValue, Correspondence.empty,
    Correspondence.value?]
  values value proper := by
    show (Table.insert ∅ ValueId.zero _).get? value = _
    rw [Table.get?_insert_of_ne _ proper]
    rfl
  zero := Table.get?_insert_self ..
  leads copied := by
    simp [Progress.start, Progress.CopiedValue, Correspondence.empty,
      Correspondence.value?] at copied
  held isHeld := by simp [Progress.start, Graph.valueAt?_initial] at isHeld
  filled copied := by
    simp [Progress.start, Progress.Copied, Correspondence.empty, Correspondence.object?] at copied

/-- All that is reachable has been copied, once no object waits. -/
theorem copied_of_reaches (copying : Copying origin [] progress) (sound : origin.Sound)
    (roots : ∀ id ∈ origin.roots.map Prod.snd, progress.Copied id) {id : ObjectId}
    (reaches : origin.Reaches id) : id = .null ∨ progress.Copied id := by
  induction reaches with
  | root named => exact .inr (roots _ named)
  | @step object next _ leads ih =>
      obtain ⟨field, member, target⟩ := List.mem_filterMap.1 leads
      obtain ⟨place, isPlace, rfl⟩ := Option.map_eq_some_iff.1 target
      have held := (Graph.mem_fieldsOf_iff.1 member).2
      rcases ih with rfl | copied
      · rw [sound.valueAt?_null] at held
        simp at held
      · rcases (copying.filled copied (by simp) held).2 with zero | isCopied
        · rw [zero, sound.zero, Option.some.injEq] at isPlace
          exact .inl (isPlace ▸ rfl)
        · exact copying.leads isCopied isPlace

/-- Once no object waits, the destination is a copy. -/
theorem copyOf (copying : Copying origin [] progress) (tame : origin.Tame start)
    (roots : ∀ id ∈ origin.roots.map Prod.snd, progress.Copied id)
    (stack : progress.dest.stack = origin.stack)
    (globals : progress.dest.globals = origin.globals) :
    progress.dest.CopyOf origin := by
  have reached {id : ObjectId} (reaches : origin.Reaches id) : id = .null ∨ progress.Copied id :=
    copying.copied_of_reaches tame.sound roots reaches
  have kept {value : ValueId} (proper : value ≠ .zero) :
      progress.CopiedValue value ↔ origin.Kept value := by
    refine ⟨copying.kept, fun ⟨object, range, reaches, held⟩ => ?_⟩
    rcases reached reaches with rfl | copied
    · simp [tame.sound.valueAt?_null] at held
    · exact (copying.filled copied (by simp) held).2.resolve_left proper
  have knowledge {value : ValueId} (proper : value ≠ .zero) : progress.dest.knowledge value =
      if progress.CopiedValue value then origin.copiedKnowledge value else .nothing := by
    rw [Graph.knowledge, copying.values value proper]
    split <;> rfl
  exact
    { machine := copying.machine
      stack := stack
      globals := globals
      objects := fun id reaches => by
        rcases reaches.elim .inl reached with rfl | copied
        · rw [copying.sound.null, tame.sound.null]
        · rw [copying.objects id (copying.proper copied), if_pos copied]
      only := fun id present => by
        by_cases null : id = .null
        · exact .inl null
        · rw [Graph.hasObject, Table.contains, copying.objects id null] at present
          split at present
          case isTrue copied => exact .inr (copying.reaches copied)
          case isFalse => simp at present
      fields := fun object range value => by
        constructor
        · intro held
          exact ⟨copying.reaches (copying.held held).1, (copying.held held).2⟩
        · rintro ⟨reaches, held⟩
          rcases reached reaches with rfl | copied
          · simp [tame.sound.valueAt?_null] at held
          · exact (copying.filled copied (by simp) held).1
      values := fun value => by
        by_cases zero : value = .zero
        · subst zero
          rw [Graph.hasValue, Table.contains, copying.zero]
          simp
        · rw [Graph.hasValue, Table.contains, copying.values value zero, ← kept zero]
          by_cases copied : progress.CopiedValue value <;> simp [copied, zero]
      zero := copying.zero
      number := fun value proper number => by
        rw [Graph.number?, knowledge proper, ← kept proper, Graph.copiedKnowledge]
        by_cases copied : progress.CopiedValue value
        · cases origin.target? value <;> simp [copied]
        · simp [copied, Knowledge.nothing]
      target := fun value proper place => by
        rw [Graph.target?, knowledge proper, ← kept proper, Graph.copiedKnowledge]
        by_cases copied : progress.CopiedValue value
        · cases origin.target? value <;> simp [copied, eq_comm]
        · simp [copied, Knowledge.nothing]
      unequal := fun a b => by
        rw [Graph.isUnequal, copying.unrelated, Graph.isUnequal, tame.unrelated]
        simp [Table.contains] }

/-- The whole join. -/
theorem joinAll (copying : Copying origin [] here.1) (tame : origin.Tame start)
    (identical : setting.identical = true) (free : ∀ id, ¬ here.1.Copied id)
    (stack : here.1.dest.stack = []) (globals : here.1.dest.globals = ∅) :
    Copies origin [] (Join.joinAll setting) here fun joined there => joined = true ∧
      there.dest.CopyOf origin := by
  have size : here.1.left.objects.size = origin.objects.size :=
    congrArg (fun graph => graph.objects.size) copying.left
  unfold Join.joinAll
  refine Run.ends_bind_of_ok (Run.ask_apply _ _) ?_
  refine (copying.matchVariables tame free stack globals).bind ?_
  rintro _ middle ⟨same, copying, rfl, scopes, copied⟩
  have roots (id : ObjectId) (named : id ∈ origin.roots.map Prod.snd) : middle.1.Copied id :=
    (copied id).2 (.inl named)
  have few : unmapped origin middle.1.leftMap < here.1.left.objects.size + 1 := by
    rw [size]
    exact unmapped_lt_size origin middle.1.leftMap
  refine (copying.joinPairs tame identical roots few).bind ?_
  rintro _ there ⟨same', copying, rfl, grows⟩
  obtain ⟨stack, globals⟩ := Prod.mk.inj scopes
  have isCopy := copying.copyOf tame (fun id named => grows.objects (roots id named))
    (grows.stack.trans stack) (grows.globals.trans globals)
  have unrelated1 : there.1.left.inequalities = ∅ := copying.left ▸ tame.unrelated
  have unrelated2 : there.1.right.inequalities = ∅ := copying.right ▸ tame.unrelated
  rw [if_pos rfl]
  refine Run.ends_bind_of_ok (keepInequalities_of_unrelated unrelated1 unrelated2) ?_
  split
  case isTrue =>
    have checked : there.1.dest.check = .ok () := copying.sound.consistent
    exact Run.ends_bind_of_ok (Run.demand_apply_ok checked)
      (Run.ends_pure ⟨same'.trans same, copying, rfl, isCopy⟩)
  case isFalse => exact Run.ends_pure ⟨same'.trans same, copying, rfl, isCopy⟩

end Copying

end Join

/-- A tame graph joined with itself gives a copy of what its variables reach, under the same names,
and draws nothing. -/
theorem Graph.Tame.join_copies {graph : Graph} {start : Nat} (tame : graph.Tame start)
    (options : Options) (supply : Supply) : ∃ copy,
      graph.join options graph supply = .ok (.defined copy .equal) supply ∧ copy.CopyOf graph := by
  have ends : Join.Copies graph [] (Join.joinAll ⟨options, graph == graph⟩)
      (.start graph graph, supply) fun joined there => joined = true ∧ there.dest.CopyOf graph :=
    Join.Copying.joinAll (Join.Copying.initial graph) tame (beq_self_eq_true graph)
      (fun id => by simp [Join.Progress.Copied, Join.Progress.start, Correspondence.empty,
        Correspondence.object?]) rfl rfl
  cases outcome : Join.joinAll ⟨options, graph == graph⟩ (.start graph graph, supply) with
  | ok joined there =>
      obtain ⟨same, copying, rfl, isCopy⟩ := ends.of_eq_ok outcome
      exact ⟨there.1.dest, Graph.join_eq_defined_iff.2 ⟨there, outcome, rfl, copying.status, same⟩,
        isCopy⟩
  | error fault there => exact (ends.of_eq_error outcome).elim

end ShapeDomain
