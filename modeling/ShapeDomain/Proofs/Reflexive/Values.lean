import ShapeDomain.Proofs.Join.Unmapped
import ShapeDomain.Proofs.Reflexive.Mirrored

/-!
# A value joined with itself

A value that is joined with itself keeps its name.  If it is the address of an object that has not
been copied, then this object is put into the destination, waits for its fields, and gets them
before the join goes on.
-/

namespace ShapeDomain

namespace Graph

variable {graph : Graph} {id : ObjectId} {object : Object}

/-- How an object stands in a graph. -/
theorem get?_of_object? (found : graph.object? id = some object) :
    graph.objects.get? id = some ⟨object, graph.isValid id, graph.isHeap id⟩ := by
  obtain ⟨placement, isPlacement, rfl⟩ := Option.map_eq_some_iff.1 found
  rw [isValid, isHeap, isPlacement]
  rfl

end Graph

namespace Join

variable {origin : Graph} {waiting : List ObjectId} {here : Progress × Supply} {start : Nat}
variable {value : ValueId} {target : ObjectId} {setting : Setting} {descend : Descend}
variable {levelDiff : Int} {holderLevel : Level}

/-- The outcome of joining a value with itself: the value. -/
def Takes (here : Progress) (value : ValueId) (result : ValueJoin) (there : Progress) : Prop :=
  result = .joined value none ∧ Grows here there ∧ (value = .zero ∨ there.CopiedValue value)

namespace Copying

/-- A value that is not copied becomes its own joint value. -/
theorem pairValues (copying : Copying origin waiting here.1) {dest : Graph}
    (proper : value ≠ .zero) (new : ¬ here.1.CopiedValue value) (kept : origin.Kept value)
    (same : dest.addValue value =
      here.1.dest.putKnowledge value (origin.copiedKnowledge value))
    (reaches : ∀ {target}, origin.target? value = some target →
      origin.hasObject target.object = true ∧
        (target.object = .null ∨ here.1.Copied target.object)) :
    Copies origin waiting (Join.pairValues value value value)
      ({ here.1 with dest := dest }, here.2) fun _ there =>
        Grows here.1 there ∧ there.CopiedValue value :=
  Run.ends_of_ok (copying.mirrored.pairValues_apply dest new)
    ⟨rfl, copying.settle proper kept same reaches⟩

/-! ### Numbers -/

/-- A number, or a value of which nothing is known. -/
theorem joinNumbers (copying : Copying origin waiting here.1) (proper : value ≠ .zero)
    (new : ¬ here.1.CopiedValue value) (kept : origin.Kept value)
    (plain : origin.target? value = none) (size : Nat) :
    Copies origin waiting (Join.joinNumbers value value size levelDiff) here
      (Takes here.1 value) := by
  have unknown := copying.knowledge_of_new proper new
  have leads {target : Target} (leads : origin.target? value = some target) :
      origin.hasObject target.object = true ∧
        (target.object = .null ∨ here.1.Copied target.object) := by
    rw [plain] at leads
    simp at leads
  have known : origin.copiedKnowledge value = ⟨origin.number? value, none⟩ := by
    rw [Graph.copiedKnowledge, plain]
  refine copying.mirrored.joinNumbers proper size
    ((copying.pairValues proper new kept ?_ leads).mono ?_ fun _ _ bad => bad)
  · rw [known]
    cases origin.number? value with
    | some number =>
        rw [Option.elim, Graph.setNumber, unknown]
        simp only [Graph.addValue, Graph.putKnowledge, Graph.knowledge, Table.get?_insert_self,
          Table.insert_insert, Option.getD_some, Knowledge.nothing]
    | none =>
        rw [Option.elim, Graph.addValue, unknown]
        rfl
  · rintro _ there ⟨same, copying, grows, copied⟩
    exact ⟨same, copying, rfl, grows, .inr copied⟩

/-! ### Objects that addresses lead to -/

/-- The kind of a region or a list segment joined with itself. -/
theorem kind_join_self {object : Object} (shapely : object.Shapely) :
    object.kind.join object.kind = some (object.kind, .equal) := by
  rcases shapely.kind with region | list
  · rw [region]
    rfl
  · cases isKind : object.kind <;> simp_all [Kind.isList, Kind.join, Kind.lengthStatus]

/-- An object that is not copied is put into the destination. -/
theorem joinTargets (copying : Copying origin waiting here.1) (tame : origin.Tame start)
    (reaches : origin.Reaches target) (proper : target ≠ .null) (new : ¬ here.1.Copied target) :
    Copies origin (target :: waiting) (Join.joinTargets target target) here fun made there =>
      made = some target ∧ Grows here.1 there ∧ there.leftMap.values = here.1.leftMap.values ∧
        there.Copied target ∧ unmapped origin there.leftMap < unmapped origin here.1.leftMap := by
  obtain ⟨object, found⟩ := (origin.hasObject_iff).1 (reaches.hasObject tame.sound)
  have shapely := tame.shapely found proper
  have absent := copying.absent proper new
  have free : here.1.leftMap.object? target = none := by simpa [Progress.Copied] using new
  let dest : Graph :=
    here.1.dest.putPlacement target ⟨object, origin.isValid target, origin.isHeap target⟩
  let last : Progress := { here.1 with dest := dest }.withPair target target target
  have paired : pairObjects target target target ({ here.1 with dest := dest }, here.2) =
      .ok () (last, here.2) :=
    pairObjects_ok (.inl free) (.inl ((congrArg (·.object? target) copying.maps).trans free))
  have rest : (do
      attemptDest fun graph => graph.setValid target (origin.isValid target)
      pairObjects target target target
      lower .equal
      return some target : Run Progress (Option ObjectId))
      ({ here.1 with
        dest := here.1.dest.putPlacement target ⟨object, true, origin.isHeap target⟩ }, here.2) =
      .ok (some target) (last, here.2) := by
    rw [Run.bind_apply_ok (attemptDest_apply (Graph.setValid_putPlacement target object true _ _)),
      Run.bind_apply_ok paired, Run.bind_apply_ok (lower_equal_apply _), Run.pure_apply]
  have sound : dest.Sound := copying.sound.putNew absent
  have placed := copying.place reaches proper sound rfl
    (fun other => by
      show (here.1.dest.objects.insert target _).get? other = _
      rw [Table.get?_insert, Graph.get?_of_object? found]) rfl rfl rfl
  have map (id : ObjectId) : (here.1.leftMap.setObject target target).object? id =
      if id = target then some target else here.1.leftMap.object? id :=
    Correspondence.object?_setObject ..
  have grown {id : ObjectId} (copied : (here.1.leftMap.object? id).isSome = true) :
      ((here.1.leftMap.setObject target target).object? id).isSome = true := by
    rw [map]
    split
    · rfl
    · exact copied
  have mapped : ((here.1.leftMap.setObject target target).object? target).isSome = true := by
    rw [map, if_pos rfl]
    rfl
  have all : Copying origin (target :: waiting) last ∧ some target = some target ∧
      Grows here.1 last ∧ last.leftMap.values = here.1.leftMap.values ∧ last.Copied target ∧
        unmapped origin last.leftMap < unmapped origin here.1.leftMap :=
    ⟨placed, rfl, ⟨grown, id, id, rfl, rfl⟩, rfl, mapped,
      unmapped_lt (fun _ => grown) found free mapped⟩
  refine copying.mirrored.joinTargets found shapely.ground (kind_join_self shapely) ?_
  have put : (if origin.isHeap target then here.1.dest.addHeapObject target object
      else here.1.dest.addObject target object) =
        here.1.dest.putPlacement target ⟨object, true, origin.isHeap target⟩ := by
    rw [Graph.addHeapObject_of_absent absent, Graph.addObject_of_absent absent]
    cases origin.isHeap target <;> rfl
  rw [put]
  exact Run.ends_of_ok rest ⟨rfl, all⟩

/-- Where an address leads in the destination: to NULL or to an object that has been copied before,
or to one that was just put there. -/
inductive Found (origin : Graph) (waiting : List ObjectId) (target : ObjectId) (here : Progress) :
    Option Destination → Progress → Prop where
  /-- The object has been copied before. -/
  | known : Copying origin waiting here → target = .null ∨ here.Copied target →
      Found origin waiting target here (some (.known target)) here
  /-- The object was put into the destination. -/
  | made {there : Progress} : Copying origin (target :: waiting) there → Grows here there →
      there.leftMap.values = here.leftMap.values → there.Copied target →
      unmapped origin there.leftMap < unmapped origin here.leftMap →
      Found origin waiting target here (some (.made target)) there

theorem destination (copying : Copying origin waiting here.1) (tame : origin.Tame start)
    (reaches : origin.Reaches target) :
    Run.Ends (Join.destination target target) here
      (fun found there => there.2 = here.2 ∧ Found origin waiting target here.1 found there.1)
      (fun _ _ => False) := by
  refine copying.mirrored.destination (fun mapped => (copying.object mapped).1)
    (fun copied => ⟨rfl, .known copying copied⟩) fun proper new => ?_
  refine (copying.joinTargets tame reaches proper new).mono ?_ fun _ _ bad => bad
  rintro _ there ⟨same, copying, rfl, grows, values, copied, fewer⟩
  exact ⟨same, .made copying grows values copied fewer⟩

/-! ### Addresses -/

/-- The specifier of an address that is joined with itself. -/
theorem specifier?_self {object : Object} {place : Target}
    (found : origin.object? place.object = some object)
    (leading : place.specifier.Leading) (holderLevel : Level) :
    specifier? holderLevel object place.specifier place.specifier =
      .ok (some (origin.copiedTarget place).specifier) := by
  have isList : origin.isList place.object = object.kind.isList := by rw [Graph.isList, found]; rfl
  unfold specifier? Graph.copiedTarget
  rw [isList]
  rcases leading with region | first
  · cases object.kind.isList <;> simp [region, Specifier.join]
  · cases object.kind.isList <;> simp [first, Specifier.join]

/-- A value that is no address yet becomes the address of a place. -/
theorem addressName_self {place : Target} (present : here.1.dest.hasObject place.object = true)
    (free : here.1.dest.target? value = none) :
    addressName value value place here =
      .ok value ({ here.1 with dest := here.1.dest.putPointer ⟨value, place⟩ }, here.2) := by
  have added : attemptDest (fun graph => graph.addPointer ⟨value, place⟩) here =
      .ok () ({ here.1 with dest := here.1.dest.putPointer ⟨value, place⟩ }, here.2) :=
    attemptDest_apply (Graph.addPointer_eq_ok_iff.2 ⟨present, .inl free, rfl⟩)
  unfold addressName
  rw [Run.bind_apply_ok (Run.ask_apply _ _)]
  cases here.1.dest.addressOf? place with
  | some existing =>
      simp only [ne_eq, not_true_eq_false, if_false]
      rw [Run.bind_apply_ok added, Run.pure_apply]
  | none =>
      simp only [valueName, if_true, pure_bind]
      rw [Run.bind_apply_ok added, Run.pure_apply]

end Copying

/-- A way to go down from an object to itself gives it its fields, if few enough objects are still
to be copied. -/
def Completes (origin : Graph) (descend : Descend) (depth : Nat) : Prop :=
  ∀ {waiting here} id levelDiff, Copying origin (id :: waiting) here.1 → here.1.Copied id →
    unmapped origin here.1.leftMap < depth →
    Copies origin waiting (descend id id id levelDiff) here fun joined there =>
      joined = true ∧ Grows here.1 there

namespace Copying

variable {depth : Nat} {place : Target}

/-- A value becomes an address in the destination, once the object that it leads to is there, and
then the join goes on. -/
theorem address (copying : Copying origin waiting here.1) (tame : origin.Tame start)
    (proper : value ≠ .zero) (new : ¬ here.1.CopiedValue value) (kept : origin.Kept value)
    (leads : origin.target? value = some place)
    (copied : place.object = .null ∨ here.1.Copied place.object)
    {next : ValueId → Run Progress ValueJoin} {good : ValueJoin → Progress × Supply → Prop}
    (rest : ∀ there : Progress × Supply, there.2 = here.2 → Copying origin waiting there.1 →
      Grows here.1 there.1 → there.1.CopiedValue value →
      Run.Ends (next value) there good fun _ _ => False) :
    Run.Ends (do
      let object ← Run.demand fun progress => progress.dest.object place.object
      match ← Run.demand fun _ =>
          specifier? holderLevel object place.specifier place.specifier with
      | none => Join.noJoin setting value value
      | some specifier => do
          let dest ← addressName value value ⟨place.object, place.offset, specifier⟩
          Join.pairValues value value dest
          next dest) here good fun _ _ => False := by
  have present := tame.sound.targets leads
  obtain ⟨object, found⟩ := (origin.hasObject_iff).1 present
  have given : here.1.dest.object place.object = .ok object :=
    (Graph.object_eq_ok_iff _).2 ((copying.object?_eq tame.sound copied).trans found)
  have placed : (⟨place.object, place.offset, (origin.copiedTarget place).specifier⟩ : Target) =
      origin.copiedTarget place := by
    rw [← Graph.object_copiedTarget place,
      ← Graph.offset_copiedTarget place]
  have unknown := copying.knowledge_of_new proper new
  have named : addressName value value (origin.copiedTarget place) here = .ok value
      ({ here.1 with dest := here.1.dest.putPointer ⟨value, origin.copiedTarget place⟩ },
        here.2) := by
    refine addressName_self ?_ (congrArg Knowledge.target unknown)
    rw [Graph.object_copiedTarget]
    exact copying.hasObject copied present
  refine Run.ends_bind_of_ok (Run.demand_apply_ok given) (Run.ends_bind_of_ok
    (Run.demand_apply_ok (specifier?_self found (tame.leading leads) holderLevel)) ?_)
  simp only [placed]
  refine Run.ends_bind_of_ok named
    ((copying.pairValues proper new kept ?_ fun leads' => ?_).bind ?_)
  · have known : origin.copiedKnowledge value = ⟨none, some (origin.copiedTarget place)⟩ := by
      rw [Graph.copiedKnowledge, leads]
    rw [known, Graph.putPointer, unknown]
    simp only [Graph.addValue, Graph.putKnowledge, Graph.knowledge, Table.get?_insert_self,
      Table.insert_insert, Option.getD_some, Knowledge.nothing]
  · obtain rfl := Option.some.inj (leads.symm.trans leads')
    exact ⟨present, copied⟩
  · rintro _ there ⟨same, copying, grows, isCopied⟩
    exact rest there same copying grows isCopied

/-- An address that has not been copied. -/
theorem joinAddresses (copying : Copying origin waiting here.1) (tame : origin.Tame start)
    (identical : setting.identical = true) (completes : Completes origin descend depth)
    (enough : unmapped origin here.1.leftMap ≤ depth) (proper : value ≠ .zero)
    (new : ¬ here.1.CopiedValue value) (kept : origin.Kept value)
    (leads : origin.target? value = some place) :
    Copies origin waiting (Join.joinAddresses setting descend value value place place levelDiff
      holderLevel) here (Takes here.1 value) := by
  unfold Join.joinAddresses
  rw [if_neg (by simp)]
  refine (copying.destination tame (kept.reaches leads)).bind ?_
  rintro _ ⟨progress, now⟩ ⟨same, found⟩
  replace same : now = here.2 := same
  subst same
  cases found with
  | known copying copied =>
      refine copying.address tame proper new kept leads copied
        fun there same copying grows isCopied => ?_
      exact Run.ends_pure ⟨same, copying, rfl, grows, .inr isCopied⟩
  | made copying grows values copied fewer =>
      have new' : ¬ progress.CopiedValue value := by
        rw [Progress.CopiedValue, Correspondence.value?,
          show progress.leftMap.values = _ from values]
        exact new
      refine copying.address tame proper new' kept leads (.inr copied)
        fun middle same copying grows' isCopied => ?_
      have left : unmapped origin middle.1.leftMap ≤ unmapped origin progress.leftMap :=
        unmapped_le fun _ => grows'.objects
      refine (completes place.object levelDiff copying (grows'.objects copied)
        (Nat.lt_of_le_of_lt left (Nat.lt_of_lt_of_le fewer enough))).bind ?_
      rintro _ there ⟨same', copying, rfl, grows''⟩
      have noFold : foldAt setting place.object = pure none := by
        simp [foldAt, identical]
      simp only [if_true]
      rw [noFold]
      exact Run.ends_pure ⟨same'.trans same, copying, rfl, (grows.trans grows').trans grows'',
        .inr (grows''.values isCopied)⟩

/-- A kept value. -/
theorem joinValuePair (copying : Copying origin waiting here.1) (tame : origin.Tame start)
    (identical : setting.identical = true) (completes : Completes origin descend depth)
    (enough : unmapped origin here.1.leftMap ≤ depth) (kept : origin.Kept value) (size : Nat) :
    Copies origin waiting (Join.joinValuePair setting descend value value size levelDiff
      holderLevel) here (Takes here.1 value) := by
  have joined : here.1.joined.get? (value, value) = here.1.leftMap.value? value := by
    cases mapped : here.1.leftMap.value? value with
    | some image =>
        obtain ⟨rfl, -⟩ := copying.value mapped
        exact copying.joined.2 ⟨rfl, rfl, by simp [Progress.CopiedValue, mapped]⟩
    | none =>
        rw [Option.eq_none_iff_forall_not_mem]
        intro result isJoint
        obtain ⟨rfl, -, isCopied⟩ := copying.joined.1 isJoint
        simp [Progress.CopiedValue, mapped] at isCopied
  refine copying.mirrored.joinValuePair (fun mapped => (copying.value mapped).1) joined size
    (fun known => ⟨rfl, copying, rfl, .refl _, known⟩) ?_ ?_
  · intro proper new plain
    exact copying.joinNumbers proper new kept plain size
  · intro proper new place leads
    exact copying.joinAddresses tame identical completes enough proper new kept leads

end Copying

end Join

end ShapeDomain
