import ShapeDomain.Proofs.Reflexive.Objects

/-!
# Variables joined with themselves

Every variable is paired with itself: its object is put into the destination under its own name and
waits for its fields, and in the end the destination has the same functions with the same variables.
-/

namespace ShapeDomain

namespace Table

variable {κ α : Type} [Ord κ] [Std.TransOrd κ] [Std.LawfulEqOrd κ]

/-- A table with several bindings more. -/
def addAll (table : Table κ α) (list : List (κ × α)) : Table κ α :=
  list.foldl (fun table binding => table.insert binding.1 binding.2) table

theorem get?_addAll [DecidableEq κ] {list : List (κ × α)} (ordered : list.Pairwise KeyLt)
    (table : Table κ α) (key : κ) :
    (table.addAll list).get? key = (find? key list).or (table.get? key) := by
  induction list generalizing table with
  | nil => simp [addAll, find?]
  | cons head rest ih =>
      obtain ⟨before, tail⟩ := List.pairwise_cons.1 ordered
      have step : (table.addAll (head :: rest)) = (table.insert head.1 head.2).addAll rest := rfl
      rw [step, ih tail, get?_insert, find?]
      by_cases same : key = head.1
      · have later : find? key rest = none := by
          cases found : find? key rest with
          | none => rfl
          | some payload =>
              have loop : KeyLt head (key, payload) := before _ (mem_of_find? found)
              rw [KeyLt, same] at loop
              simp [Std.ReflCmp.compare_self] at loop
        rw [later, same]
        simp [Std.ReflCmp.compare_self]
      · have different : compare key head.1 ≠ .eq := fun equal =>
          same (Std.LawfulEqCmp.eq_of_compare equal)
        rw [if_neg same, if_neg different]

/-- A table is made of its bindings. -/
theorem addAll_toList [DecidableEq κ] (table : Table κ α) : addAll ∅ table.toList = table := by
  refine ext_get? fun key => ?_
  rw [get?_addAll table.sorted, get?_empty, Option.or_none]
  rfl

end Table

namespace Join

variable {origin : Graph} {waiting : List ObjectId} {here : Progress × Supply} {start : Nat}
variable {id : ObjectId} {names : Table String ObjectId} {declare : Declare}
variable {shape : Table String ObjectId → List Frame × Table String ObjectId}

/-- A way to put a variable into the destination binds it in one scope, where `shape` says which
functions and global variables there are with given variables in the scope. -/
def Binds (declare : Declare) (shape : Table String ObjectId → List Frame × Table String ObjectId) :
    Prop :=
  ∀ (dest : Graph) (names : Table String ObjectId) (name : String) (id : ObjectId)
    (object : Object),
    dest.Sound → dest.hasObject id = false → (dest.stack, dest.globals) = shape names →
    ∃ next, declare name id object dest = .ok next ∧ next.Sound ∧
      next = (dest.putPlacement id ⟨object, true, false⟩).withNames
        (shape (names.insert name id)).1 (shape (names.insert name id)).2

theorem binds_global (stack : List Frame) :
    Binds (fun name id object graph => .ok (graph.declareGlobal name id object))
      fun names => (stack, names) := by
  intro dest names name id object sound absent shaped
  refine ⟨_, rfl, sound.declareGlobal absent, ?_⟩
  obtain ⟨rfl, rfl⟩ := Prod.mk.inj shaped
  rw [Graph.declareGlobal, Graph.addObject_of_absent absent]
  rfl

theorem binds_local (function : String) (outer : List Frame) (globals : Table String ObjectId) :
    Binds (fun name id object graph => graph.declareLocal name id object)
      fun names => (⟨function, names⟩ :: outer, globals) := by
  intro dest names name id object sound absent shaped
  obtain ⟨stack, rfl⟩ := Prod.mk.inj shaped
  have done : dest.declareLocal name id object = .ok ((dest.addObject id object).withNames
      (⟨function, names.insert name id⟩ :: outer) dest.globals) := by
    rw [Graph.declareLocal, stack]
    rfl
  refine ⟨_, done, sound.declareLocal absent done, ?_⟩
  rw [Graph.addObject_of_absent absent]

/-- Variables are paired with themselves: their objects are the copied ones, other than before, and
`good` holds of the destination. -/
def Pairs (here : Progress) (ids : List ObjectId)
    (names : List Frame × Table String ObjectId) (found : Option (List ObjectPair))
    (there : Progress) : Prop :=
  found = some (ids.map fun id => ⟨id, id, id⟩) ∧ (there.dest.stack, there.dest.globals) = names ∧
    ∀ id, there.Copied id ↔ id ∈ ids ∨ here.Copied id

namespace Copying

variable (tame : origin.Tame start)

include tame

/-- A variable that is not copied is paired with itself. -/
theorem matchVariable (copying : Copying origin waiting here.1) (binds : Binds declare shape)
    (shaped : (here.1.dest.stack, here.1.dest.globals) = shape names) (name : String)
    (named : id ∈ origin.roots.map Prod.snd) (new : ¬ here.1.Copied id) :
    Copies origin (id :: waiting) (Join.matchVariable declare name id id) here fun found there =>
      found = some ⟨id, id, id⟩ ∧
        (there.dest.stack, there.dest.globals) = shape (names.insert name id) ∧
        ∀ other, there.Copied other ↔ other = id ∨ here.1.Copied other := by
  have nameable : origin.Nameable id := by
    obtain ⟨entry, member, rfl⟩ := List.mem_map.1 named
    exact tame.sound.nameables entry member
  obtain ⟨object, found⟩ := (origin.hasObject_iff).1 nameable.present
  have given : origin.object id = .ok object := (origin.object_eq_ok_iff).2 found
  have isRegion : Object.region object.size object.label = object := by
    have kind := tame.concrete named found
    have level := (tame.shapely found nameable.proper).ground
    obtain ⟨size, _, _, label⟩ := object
    obtain rfl := kind
    obtain rfl := level
    rfl
  have absent := copying.absent nameable.proper new
  have free : here.1.leftMap.object? id = none := by simpa [Progress.Copied] using new
  obtain ⟨next, declared, sound, rfl⟩ := binds _ names name id object copying.sound absent shaped
  rw [← isRegion] at declared
  have sound' := sound.setValid nameable.proper
    (Graph.setValid_withNames _ _ id object true (origin.isValid id) false)
  let dest : Graph := (here.1.dest.putPlacement id ⟨object, origin.isValid id, false⟩).withNames
    (shape (names.insert name id)).1 (shape (names.insert name id)).2
  have validated : dest.Sound := sound'
  have paired : pairObjects id id id ({ here.1 with dest := dest }, here.2) =
      .ok () ({ here.1 with dest := dest }.withPair id id id, here.2) :=
    pairObjects_ok (.inl free) (.inl ((congrArg (·.object? id) copying.maps).trans free))
  have placed : Copying origin (id :: waiting)
    ({ here.1 with dest := dest }.withPair id id id) := by
    refine copying.place (.root named) nameable.proper validated rfl (fun other => ?_) rfl rfl rfl
    show (here.1.dest.objects.insert id _).get? other = _
    rw [Table.get?_insert, Graph.get?_of_object? found, nameable.outside]
  unfold Join.matchVariable
  refine Run.ends_bind_of_ok (Run.demand_apply_ok ((congrArg (·.object id) copying.left).trans
    given)) ?_
  refine Run.ends_bind_of_ok (Run.demand_apply_ok ((congrArg (·.object id) copying.right).trans
    given)) ?_
  refine Run.ends_bind_of_ok (Run.state_apply _) ?_
  rw [copying.left, copying.right, if_neg (by simp), objectName, if_pos rfl, pure_bind]
  refine Run.ends_bind_of_ok (attemptDest_apply declared) ?_
  rw [isRegion]
  refine Run.ends_bind_of_ok (attemptDest_apply (Graph.setValid_withNames _ _ id object true
    (origin.isValid id) false)) ?_
  refine Run.ends_bind_of_ok paired (Run.ends_pure ⟨rfl, placed, rfl, rfl, fun other => ?_⟩)
  show ((here.1.leftMap.setObject id id).object? other).isSome = true ↔ _
  rw [Correspondence.object?_setObject]
  by_cases same : other = id <;> simp [same, Progress.Copied]

/-- Different variables of one scope are paired with themselves. -/
theorem matchEach {list : List (String × ObjectId)} (copying : Copying origin waiting here.1)
    (binds : Binds declare shape)
    (shaped : (here.1.dest.stack, here.1.dest.globals) = shape names)
    (named : ∀ entry ∈ list, entry.2 ∈ origin.roots.map Prod.snd)
    (distinct : (list.map Prod.snd).Nodup) (new : ∀ entry ∈ list, ¬ here.1.Copied entry.2) :
    Copies origin (list.map Prod.snd ++ waiting) (Join.matchEach declare (list.zip list)) here
      (Pairs here.1 (list.map Prod.snd) (shape (names.addAll list))) := by
  induction list generalizing here names waiting with
  | nil => exact Run.ends_pure ⟨rfl, copying, rfl, shaped, by simp⟩
  | cons entry rest ih =>
      rw [List.map_cons, List.nodup_cons] at distinct
      rw [List.zip_cons_cons]
      unfold Join.matchEach
      refine (copying.matchVariable tame binds shaped entry.1 (named entry List.mem_cons_self)
        (new entry List.mem_cons_self)).bind ?_
      rintro _ middle ⟨same, copying, rfl, shaped, copied⟩
      refine (ih copying shaped (fun other member => named other (List.mem_cons_of_mem _ member))
        distinct.2 fun other member isCopied => ?_).bind ?_
      · rcases (copied other.2).1 isCopied with same | old
        · exact distinct.1 (same ▸ List.mem_map_of_mem member)
        · exact new other (List.mem_cons_of_mem _ member) old
      · rintro _ there ⟨same', copying, rfl, shaped, copied'⟩
        refine Run.ends_pure ⟨same'.trans same, copying.weaken fun {id} member => ?_, rfl, shaped,
          fun id => ?_⟩
        · simp only [List.map_cons, List.cons_append, List.mem_cons, List.mem_append] at member ⊢
          tauto
        · rw [copied', copied, List.map_cons, List.mem_cons]
          tauto

theorem matchScopes (copying : Copying origin waiting here.1) (binds : Binds declare shape)
    {scope : Table String ObjectId}
    (shaped : (here.1.dest.stack, here.1.dest.globals) = shape ∅)
    (named : ∀ entry ∈ scope.toList, entry.2 ∈ origin.roots.map Prod.snd)
    (distinct : (scope.toList.map Prod.snd).Nodup)
    (new : ∀ entry ∈ scope.toList, ¬ here.1.Copied entry.2) :
    Copies origin (scope.toList.map Prod.snd ++ waiting) (Join.matchScopes declare scope scope) here
      (Pairs here.1 (scope.toList.map Prod.snd) (shape scope)) := by
  unfold Join.matchScopes
  rw [if_pos rfl]
  have matched := copying.matchEach tame binds shaped named distinct new
  rwa [Table.addAll_toList] at matched

/-- The variables of functions are paired with themselves. -/
theorem matchFrames {frames : List Frame} (copying : Copying origin waiting here.1)
    (named : ∀ entry ∈ frames.flatMap fun frame => frame.locals.toList,
      entry.2 ∈ origin.roots.map Prod.snd)
    (distinct : ((frames.flatMap fun frame => frame.locals.toList).map Prod.snd).Nodup)
    (new : ∀ entry ∈ frames.flatMap fun frame => frame.locals.toList, ¬ here.1.Copied entry.2) :
    Copies origin ((frames.flatMap fun frame => frame.locals.toList).map Prod.snd ++ waiting)
      (Join.matchFrames (frames.zip frames)) here
      (Pairs here.1 ((frames.flatMap fun frame => frame.locals.toList).map Prod.snd)
        (frames.reverse ++ here.1.dest.stack, here.1.dest.globals)) := by
  induction frames generalizing here waiting with
  | nil => exact Run.ends_pure ⟨rfl, copying, rfl, rfl, by simp⟩
  | cons frame rest ih =>
      simp only [List.flatMap_cons, List.map_append, List.nodup_append, List.mem_append]
        at named distinct new
      obtain ⟨distinct, distinctRest, apart⟩ := distinct
      rw [List.zip_cons_cons]
      unfold Join.matchFrames
      rw [if_neg (by simp)]
      let inside : Progress × Supply :=
        ({ here.1 with dest := here.1.dest.enter frame.function }, here.2)
      have entered : Copying origin waiting inside.1 :=
        { copying with sound := copying.sound.enter frame.function }
      have shaped : (inside.1.dest.stack, inside.1.dest.globals) =
          (fun names => (⟨frame.function, names⟩ :: here.1.dest.stack,
            here.1.dest.globals)) ∅ := rfl
      have scope := entered.matchScopes tame (binds_local frame.function _ _) shaped
        (fun entry member => named entry (.inl member)) distinct
        fun entry member => new entry (.inl member)
      refine Run.ends_bind_of_ok (modifyDest_apply _ _) (scope.bind ?_)
      rintro _ middle ⟨same, copying, rfl, shaped, copied⟩
      obtain ⟨stack, globals⟩ := Prod.mk.inj shaped
      refine (ih copying (fun entry member => named entry (.inr member)) distinctRest
        fun entry member isCopied => ?_).bind ?_
      · rcases (copied entry.2).1 isCopied with inFrame | old
        · exact apart _ inFrame _ (List.mem_map_of_mem member) rfl
        · exact new entry (.inr member) old
      · rintro _ there ⟨same', copying, rfl, shaped, copied'⟩
        refine Run.ends_pure ⟨same'.trans same, copying.weaken fun {id} member => ?_, ?_, ?_,
          fun id => ?_⟩
        · simp only [List.flatMap_cons, List.map_append, List.mem_append] at member ⊢
          tauto
        · simp
        · rw [shaped, stack, globals]
          simp
        · rw [copied', copied]
          simp only [List.flatMap_cons, List.map_append, List.mem_append]
          tauto

/-- All variables are paired with themselves. -/
theorem matchVariables (copying : Copying origin [] here.1) (free : ∀ id, ¬ here.1.Copied id)
    (stack : here.1.dest.stack = []) (globals : here.1.dest.globals = ∅) :
    Copies origin (origin.roots.map Prod.snd) Join.matchVariables here
      (Pairs here.1 (origin.roots.map Prod.snd) (origin.stack, origin.globals)) := by
  have distinct := tame.distinct
  have member {entry : String × ObjectId} (member : entry ∈ origin.roots) :
      entry.2 ∈ origin.roots.map Prod.snd := List.mem_map_of_mem member
  simp only [Graph.roots, List.map_append, List.nodup_append] at distinct
  obtain ⟨distinct, distinctLocals, apart⟩ := distinct
  unfold Join.matchVariables
  refine Run.ends_bind_of_ok (Run.state_apply _) ?_
  dsimp only
  rw [copying.left, copying.right]
  refine (copying.matchScopes tame (binds_global here.1.dest.stack) (by rw [globals])
    (fun entry isGlobal => member (List.mem_append_left _ isGlobal)) distinct
    fun entry _ => free entry.2).bind ?_
  rintro _ middle ⟨same, copying, rfl, shaped, copied⟩
  obtain ⟨stack', globals'⟩ := Prod.mk.inj shaped
  rw [stack] at stack'
  dsimp only
  rw [if_neg (by simp)]
  refine (copying.matchFrames tame (fun entry isLocal => member (List.mem_append_right _ isLocal))
    distinctLocals fun entry isLocal isCopied => ?_).bind ?_
  · rcases (copied entry.2).1 isCopied with inGlobals | old
    · exact apart _ inGlobals _ (List.mem_map_of_mem isLocal) rfl
    · exact free _ old
  · rintro _ there ⟨same', copying, rfl, shaped, copied'⟩
    refine Run.ends_pure ⟨same'.trans same, copying.weaken fun {id} waits => ?_, ?_, ?_,
      fun id => ?_⟩
    · simp only [Graph.roots, List.map_append, List.mem_append, List.append_nil] at waits ⊢
      tauto
    · simp [Graph.roots]
    · rw [shaped, stack', globals']
      simp [Graph.frames]
    · rw [copied', copied]
      simp only [Graph.roots, List.map_append, List.mem_append]
      tauto

end Copying

end Join

end ShapeDomain
