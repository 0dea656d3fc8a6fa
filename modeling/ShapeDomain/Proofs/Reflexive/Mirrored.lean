import ShapeDomain.Proofs.Reflexive.Invariant
import ShapeDomain.Proofs.Steady.Objects

/-!
# What a join of a graph with itself does

While both sides of a join are one graph with the same counterparts, every value and every object is
joined with itself, and none of the comparisons on the way finds a difference.  This holds whatever
the destination contains; the lemmas of this module say what is left to be shown of it.
-/

namespace ShapeDomain

namespace Join

variable {origin : Graph} {here : Progress × Supply} {setting : Setting} {descend : Descend}
variable {id target : ObjectId} {value : ValueId} {object : Object} {field : Field}
variable {levelDiff : Int} {holderLevel : Level}

/-- Both sides of a join are one graph with the same counterparts, and only the ground level is
needed. -/
structure Mirrored (origin : Graph) (progress : Progress) : Prop where
  /-- The left graph is the graph. -/
  left : progress.left = origin
  /-- So is the right graph. -/
  right : progress.right = origin
  /-- Both sides have the same counterparts. -/
  maps : progress.rightMap = progress.leftMap
  /-- Only the ground level is needed. -/
  levels : progress.levels = .initial

theorem Copying.mirrored {waiting : List ObjectId} {progress : Progress}
    (copying : Copying origin waiting progress) : Mirrored origin progress :=
  ⟨copying.left, copying.right, copying.maps, copying.levels⟩

namespace Mirrored

/-! ### Values -/

theorem pairValues_apply (mirrored : Mirrored origin here.1) (dest : Graph)
    (new : ¬ here.1.CopiedValue value) :
    Join.pairValues value value value ({ here.1 with dest := dest }, here.2) =
      .ok () ({ here.1 with dest := dest }.withJoint value value value, here.2) := by
  have free : here.1.leftMap.value? value = none := by simpa [Progress.CopiedValue] using new
  have free' : here.1.rightMap.value? value = none :=
    (congrArg (·.value? value) mirrored.maps).trans free
  exact pairValues_ok (.inr (.inl free)) (.inr (.inl free'))

section

variable {good : ValueJoin → Progress × Supply → Prop} {bad : Fault → Progress × Supply → Prop}

/-- A value that is no address is its own joint value, with its number. -/
theorem joinNumbers (mirrored : Mirrored origin here.1) (proper : value ≠ .zero) (size : Nat)
    (paired : Run.Ends (pairValues value value value)
      ({ here.1 with
        dest := (origin.number? value).elim here.1.dest (here.1.dest.setNumber value) }, here.2)
      (fun _ there => good (.joined value none) there) bad) :
    Run.Ends (Join.joinNumbers value value size levelDiff) here good bad := by
  have notZero : ¬ value.isZero = true := by simpa [ValueId.isZero] using proper
  unfold Join.joinNumbers
  refine Run.ends_bind_of_ok (Run.state_apply _) ?_
  rw [mirrored.left, mirrored.right]
  cases isNumber : origin.number? value with
  | some number =>
      rw [isNumber] at paired
      dsimp only
      rw [if_pos (show Number.agreeIn number number size = true by simp [Number.agreeIn]),
        numberName, if_pos rfl, pure_bind, if_neg notZero]
      exact Run.ends_bind_of_ok (modifyDest_apply _ _)
        (paired.bind fun _ _ holds => Run.ends_pure holds)
  | none =>
      rw [isNumber] at paired
      dsimp only
      rw [valueName, if_pos rfl, pure_bind]
      refine paired.bind fun _ there holds => ?_
      have equal : lower (numberStatus (value == value) levelDiff none none) there =
          .ok () there := by
        rw [beq_self_eq_true]
        exact lower_equal_apply there
      exact Run.ends_bind_of_ok equal (Run.ends_pure holds)

/-- A value that is zero or copied is its own joint value already; another one becomes so as a
number or as an address. -/
theorem joinValuePair (mirrored : Mirrored origin here.1)
    (own : ∀ {image}, here.1.leftMap.value? value = some image → image = value)
    (joined : here.1.joined.get? (value, value) = here.1.leftMap.value? value) (size : Nat)
    (known : value = .zero ∨ here.1.CopiedValue value → good (.joined value none) here)
    (numbers : value ≠ .zero → ¬ here.1.CopiedValue value → origin.target? value = none →
      Run.Ends (Join.joinNumbers value value size levelDiff) here good bad)
    (addresses : value ≠ .zero → ¬ here.1.CopiedValue value → ∀ place,
      origin.target? value = some place →
      Run.Ends (joinAddresses setting descend value value place place levelDiff holderLevel) here
        good bad) :
    Run.Ends (Join.joinValuePair setting descend value value size levelDiff holderLevel) here
      good bad := by
  unfold Join.joinValuePair
  refine Run.ends_bind_of_ok (Run.state_apply _) ?_
  by_cases zero : value = .zero
  case pos =>
    subst zero
    exact Run.ends_pure (known (.inl rfl))
  case neg =>
    have notZero : value.isZero = false := by simpa [ValueId.isZero] using zero
    have joint : jointValue? here.1 value value = here.1.leftMap.value? value := by
      simp [jointValue?, notZero, joined]
    rw [joint]
    cases copied : here.1.leftMap.value? value with
    | some image =>
        obtain rfl := own copied
        exact Run.ends_pure (known (.inr (by simp [Progress.CopiedValue, copied])))
    | none =>
        have new : ¬ here.1.CopiedValue value := by simp [Progress.CopiedValue, copied]
        have free : hasCounterpart here.1.leftMap value = false := by
          simp [hasCounterpart, copied]
        have places : address? origin value = origin.target? value := by
          rw [address?, notZero, if_neg (by simp)]
        dsimp only
        rw [mirrored.maps, free, Bool.or_self, if_neg (by simp), mirrored.left, mirrored.right,
          places]
        cases leads : origin.target? value with
        | none => exact numbers zero new leads
        | some place => exact addresses zero new place leads

end

/-! ### Objects that addresses lead to -/

section

variable {bad : Fault → Progress × Supply → Prop}

/-- An object is put into the destination as it is. -/
theorem joinTargets (mirrored : Mirrored origin here.1)
    {good : Option ObjectId → Progress × Supply → Prop}
    (found : origin.object? target = some object) (ground : object.level = .ground)
    (kind : object.kind.join object.kind = some (object.kind, .equal))
    (rest : Run.Ends (do
      attemptDest fun graph => graph.setValid target (origin.isValid target)
      pairObjects target target target
      lower .equal
      return some target)
      ({ here.1 with
        dest := if origin.isHeap target then here.1.dest.addHeapObject target object
          else here.1.dest.addObject target object }, here.2) good bad) :
    Run.Ends (Join.joinTargets target target) here good bad := by
  have given : origin.object target = .ok object := (origin.object_eq_ok_iff).2 found
  have level : here.1.levels.get? object.level object.level = some .ground := by
    rw [mirrored.levels, ground]
    rfl
  have unchanged : ({ object with level := .ground, kind := object.kind } : Object) = object := by
    rw [← ground]
  unfold Join.joinTargets
  refine Run.ends_bind_of_ok (Run.demand_apply_ok
    ((congrArg (·.object target) mirrored.left).trans given)) ?_
  refine Run.ends_bind_of_ok (Run.demand_apply_ok
    ((congrArg (·.object target) mirrored.right).trans given)) ?_
  refine Run.ends_bind_of_ok (Run.state_apply _) ?_
  rw [mirrored.left, mirrored.right, if_neg (by simp)]
  simp only [kind, level]
  rw [objectName, if_pos rfl, pure_bind, unchanged, Bool.or_self]
  cases heap : origin.isHeap target with
  | true =>
      rw [heap] at rest
      exact Run.ends_bind_of_ok (modifyDest_apply _ _) rest
  | false =>
      rw [heap] at rest
      exact Run.ends_bind_of_ok (modifyDest_apply _ _) rest

/-- An object that is NULL or copied is its own counterpart already; another one becomes so. -/
theorem destination (mirrored : Mirrored origin here.1)
    {good : Option Destination → Progress × Supply → Prop}
    (own : ∀ {image}, here.1.leftMap.object? target = some image → image = target)
    (known : target = .null ∨ here.1.Copied target → good (some (.known target)) here)
    (made : target ≠ .null → ¬ here.1.Copied target → Run.Ends (Join.joinTargets target target) here
      (fun made there => good (made.map .made) there) bad) :
    Run.Ends (Join.destination target target) here good bad := by
  unfold Join.destination
  refine Run.ends_bind_of_ok (Run.state_apply _) ?_
  rw [Bool.and_self, Bool.or_self, mirrored.maps]
  split
  case isTrue null =>
    obtain rfl : target = .null := by simpa [ObjectId.isNull] using null
    exact Run.ends_pure (known (.inl rfl))
  case isFalse null =>
    have proper : target ≠ .null := by simpa [ObjectId.isNull] using null
    cases copied : here.1.leftMap.object? target with
    | some image =>
        obtain rfl := own copied
        dsimp only
        rw [if_pos rfl]
        exact Run.ends_pure (known (.inr (by simp [Progress.Copied, copied])))
    | none =>
        refine (made proper (by simp [Progress.Copied, copied])).bind fun _ _ holds => ?_
        exact Run.ends_pure holds

end

/-! ### Objects -/

section

variable {source : Object} {bad : Fault → Progress × Supply → Prop}

/-- A field has its counterpart, and its value has the level of its object. -/
theorem joinField (mirrored : Mirrored origin here.1)
    {good : FieldJoin → Progress × Supply → Prop} {middle : ValueJoin → Progress × Supply → Prop}
    (member : field ∈ origin.fieldsOf id)
    (below : levelBelow origin source field.value = .ok .ground)
    (value : ∀ levelDiff, Run.Ends (Join.joinValuePair setting descend field.value field.value
      field.range.size levelDiff holderLevel) here middle bad)
    (store : ∀ result there, middle result there → result = .joined field.value none ∧
      Run.Ends (store ⟨id, field.range, field.value⟩) there
        (fun _ last => good (.stored field.value none) last) bad) :
    Run.Ends (Join.joinField setting descend ⟨id, id, id⟩ source source levelDiff holderLevel
      field) here good bad := by
  have held := (Graph.mem_fieldsOf_iff.1 member).2
  unfold Join.joinField
  refine Run.ends_bind_of_ok (Run.demand_apply_ok (?_ : _ = Except.ok field.value)) ?_
  · rw [mirrored.right, held]
  refine Run.ends_bind_of_ok (Run.demand_apply_ok
    ((congrArg (levelBelow · source field.value) mirrored.left).trans below)) ?_
  refine Run.ends_bind_of_ok (Run.demand_apply_ok
    ((congrArg (levelBelow · source field.value) mirrored.right).trans below)) ?_
  refine Run.ends_bind_of_ok (mapLevels_initial mirrored.levels _) ?_
  rw [if_pos rfl]
  refine (value _).bind fun result there holds => ?_
  obtain ⟨rfl, stored⟩ := store result there holds
  exact stored.bind fun _ _ holds => Run.ends_pure holds

/-- The layouts are aligned already, so that only the fields are left. -/
theorem joinContents (mirrored : Mirrored origin here.1) {good : Bool → Progress × Supply → Prop}
    (tiled : origin.Tiled) (found : origin.object? id = some object)
    (ground : object.level = .ground)
    (fields : Run.Ends (joinFields
      (Join.joinField setting descend ⟨id, id, id⟩ object object levelDiff .ground)
      (origin.fieldsOf id) ⟨true, ∅⟩) here
      (fun result there => result = some ⟨true, ∅⟩ ∧ good true there) bad) :
    Run.Ends (Join.joinContents setting descend ⟨id, id, id⟩ levelDiff) here good bad := by
  have given : origin.object id = .ok object := (origin.object_eq_ok_iff).2 found
  have required : here.1.levels.require object.level object.level = .ok .ground := by
    rw [mirrored.levels, ground]
    rfl
  have aligned : onSides (Alignment.align id id) here = .ok .equal here := by
    rw [onSides, Run.within_apply, mirrored.left, mirrored.right,
      Alignment.align_self tiled (Graph.hasObject_of_object? found)]
    obtain ⟨progress, supply⟩ := here
    obtain ⟨left, right⟩ := progress
    obtain rfl : left = origin := mirrored.left
    obtain rfl : right = left := mirrored.right
    rfl
  have rest : Run.Ends (joinAlignedBy levelDiff setting descend ⟨id, id, id⟩ object object) here
      good bad := by
    unfold joinAlignedBy
    refine Run.ends_bind_of_ok (Run.demand_apply_ok required) ?_
    refine Run.ends_bind_of_ok (Run.ask_apply _ _) ?_
    rw [mirrored.left]
    refine fields.bind ?_
    rintro _ there ⟨rfl, holds⟩
    exact Run.ends_pure holds
  unfold Join.joinContents
  refine Run.ends_bind_of_ok (Run.demand_apply_ok
    ((congrArg (·.object id) mirrored.left).trans given)) ?_
  refine Run.ends_bind_of_ok (Run.demand_apply_ok
    ((congrArg (·.object id) mirrored.right).trans given)) ?_
  rw [if_neg (by simp)]
  refine Run.ends_bind_of_ok aligned (Run.ends_bind_of_ok (lower_equal_apply here) ?_)
  split
  case isTrue =>
    have checked : Alignment.check here.1.left here.1.right id id = .ok () := by
      rw [mirrored.left, mirrored.right, Alignment.check, if_pos rfl]
    exact Run.ends_bind_of_ok (Run.demand_apply_ok checked) rest
  case isFalse => exact rest

end

end Mirrored

end Join

end ShapeDomain
