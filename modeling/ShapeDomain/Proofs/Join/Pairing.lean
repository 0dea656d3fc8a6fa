import ShapeDomain.Join.Progress
import ShapeDomain.Proofs.Run
import ShapeDomain.Proofs.Translate

/-!
# Pairing during a join

To make something the counterpart of something else is to bind it in a table, unless it has a
different counterpart.  When a pair of objects or of values gets its counterpart, both maps have to
allow it; then both are changed, and otherwise the join stops.
-/

namespace ShapeDomain

namespace Correspondence

variable {map next : Correspondence}

/-- The map in which an object has a given counterpart. -/
def setObject (map : Correspondence) (source dest : ObjectId) : Correspondence :=
  { map with objects := map.objects.insert source dest }

/-- The map in which a value has a given counterpart. -/
def setValue (map : Correspondence) (source dest : ValueId) : Correspondence :=
  { map with values := map.values.insert source dest }

theorem object?_setObject (source dest other : ObjectId) :
    (map.setObject source dest).object? other =
      if other = source then some dest else map.object? other :=
  Table.get?_insert ..

theorem value?_setValue (source dest other : ValueId) :
    (map.setValue source dest).value? other =
      if other = source then some dest else map.value? other :=
  Table.get?_insert ..

@[simp] theorem value?_setObject (source dest : ObjectId) (value : ValueId) :
    (map.setObject source dest).value? value = map.value? value := rfl

@[simp] theorem object?_setValue (source dest : ValueId) (object : ObjectId) :
    (map.setValue source dest).object? object = map.object? object := rfl

/-- An object can be paired when it has no counterpart or the given one. -/
theorem pairObject_eq_ok_iff {source dest : ObjectId} :
    map.pairObject source dest = .ok next ↔
      (map.object? source = none ∨ map.object? source = some dest) ∧
        next = map.setObject source dest := by
  unfold pairObject
  cases bound : map.object? source with
  | none => simp [setObject, eq_comm]
  | some existing =>
      by_cases same : existing = dest
      · subst same
        have unchanged : map.setObject source existing = map := by
          rw [setObject, Table.insert_of_get?_eq bound]
        simp [unchanged, eq_comm]
      · simp [same]

/-- A value can be paired when it has no counterpart or the given one. -/
theorem pairValue_eq_ok_iff {source dest : ValueId} :
    map.pairValue source dest = .ok next ↔
      (map.value? source = none ∨ map.value? source = some dest) ∧
        next = map.setValue source dest := by
  unfold pairValue
  cases bound : map.value? source with
  | none => simp [setValue, eq_comm]
  | some existing =>
      by_cases same : existing = dest
      · subst same
        have unchanged : map.setValue source existing = map := by
          rw [setValue, Table.insert_of_get?_eq bound]
        simp [unchanged, eq_comm]
      · simp [same]

theorem object?_retarget (map : Correspondence) (old new id : ObjectId) :
    (map.retarget old new).object? id =
      (map.object? id).map fun dest => if dest = old then new else dest :=
  Table.get?_mapPayloads ..

@[simp] theorem value?_retarget (map : Correspondence) (old new : ObjectId) (value : ValueId) :
    (map.retarget old new).value? value = map.value? value := rfl

end Correspondence

namespace Join

variable {here : Progress × Supply}

/-- An object may get a counterpart: it has none yet, or this one. -/
def Allows {κ δ : Type} (map : κ → Option δ) (source : κ) (dest : δ) : Prop :=
  map source = none ∨ map source = some dest

/-- A join in which a pair of objects has a counterpart. -/
def Progress.withPair (progress : Progress) (object1 object2 dest : ObjectId) : Progress :=
  { progress with
    leftMap := progress.leftMap.setObject object1 dest
    rightMap := progress.rightMap.setObject object2 dest }

theorem pairObjects_ok {object1 object2 dest : ObjectId}
    (left : Allows here.1.leftMap.object? object1 dest)
    (right : Allows here.1.rightMap.object? object2 dest) :
    pairObjects object1 object2 dest here =
      .ok () (here.1.withPair object1 object2 dest, here.2) := by
  have first := Correspondence.pairObject_eq_ok_iff.2 ⟨left, rfl⟩
  have second := Correspondence.pairObject_eq_ok_iff.2 ⟨right, rfl⟩
  have step : (do
      return { here.1 with leftMap := ← here.1.leftMap.pairObject object1 dest } :
        Except Fault Progress) =
      .ok { here.1 with leftMap := here.1.leftMap.setObject object1 dest } := by
    simp only [first, bind, Except.bind]
    rfl
  unfold pairObjects
  rw [Run.bind_apply_ok (Run.attempt_apply_ok step)]
  refine Run.attempt_apply_ok ?_
  simp only [second, bind, Except.bind]
  rfl

theorem pairObjects_error {object1 object2 dest : ObjectId}
    (refused : ¬ (Allows here.1.leftMap.object? object1 dest ∧
      Allows here.1.rightMap.object? object2 dest)) :
    ∃ fault there, pairObjects object1 object2 dest here = .error fault there := by
  unfold pairObjects
  cases first : here.1.leftMap.pairObject object1 dest with
  | error fault =>
      refine ⟨fault, here, Run.bind_apply_error (Run.attempt_apply_error ?_)⟩
      simp only [first, bind, Except.bind]
  | ok leftMap =>
      cases second : here.1.rightMap.pairObject object2 dest with
      | ok rightMap =>
          exact absurd ⟨(Correspondence.pairObject_eq_ok_iff.1 first).1,
            (Correspondence.pairObject_eq_ok_iff.1 second).1⟩ refused
      | error fault =>
          have step : (do
              return { here.1 with leftMap := ← here.1.leftMap.pairObject object1 dest } :
                Except Fault Progress) = .ok { here.1 with leftMap := leftMap } := by
            simp only [first, bind, Except.bind]
            rfl
          refine ⟨fault, ({ here.1 with leftMap := leftMap }, here.2), ?_⟩
          rw [Run.bind_apply_ok (Run.attempt_apply_ok step)]
          refine Run.attempt_apply_error ?_
          simp only [second, bind, Except.bind]

/-- Where a pair of objects gets its counterpart, neither of them had another one. -/
theorem passes_pairObjects_of_allows {object1 object2 dest : ObjectId}
    {good : PUnit → Progress × Supply → Prop}
    (paired : Allows here.1.leftMap.object? object1 dest →
      Allows here.1.rightMap.object? object2 dest →
      good () (here.1.withPair object1 object2 dest, here.2)) :
    Run.Passes (pairObjects object1 object2 dest) here good := by
  by_cases allowed : Allows here.1.leftMap.object? object1 dest ∧
      Allows here.1.rightMap.object? object2 dest
  · exact Run.ends_of_ok (pairObjects_ok allowed.1 allowed.2) (paired allowed.1 allowed.2)
  · obtain ⟨fault, there, stopped⟩ := pairObjects_error allowed
    exact Run.passes_of_error stopped

/-- Where a pair of objects gets its counterpart, both maps have it. -/
theorem passes_pairObjects {object1 object2 dest : ObjectId}
    {good : PUnit → Progress × Supply → Prop}
    (paired : good () (here.1.withPair object1 object2 dest, here.2)) :
    Run.Passes (pairObjects object1 object2 dest) here good :=
  passes_pairObjects_of_allows fun _ _ => paired

/-- The map in which a value has a given counterpart, unless the value is zero. -/
def setUnlessZero (map : Correspondence) (source dest : ValueId) : Correspondence :=
  if source.isZero then map else map.setValue source dest

/-- A value may get a counterpart, or it is zero and needs none. -/
def AllowsValue (map : Correspondence) (source dest : ValueId) : Prop :=
  source.isZero = true ∨ Allows map.value? source dest

/-- A join in which a pair of values has a joint value. -/
def Progress.withJoint (progress : Progress) (value1 value2 dest : ValueId) : Progress :=
  { progress with
    leftMap := setUnlessZero progress.leftMap value1 dest
    rightMap := setUnlessZero progress.rightMap value2 dest
    joined := progress.joined.insert (value1, value2) dest
    dest := progress.dest.addValue dest }

/-- Proper values get their joint value as their counterpart. -/
theorem Progress.withJoint_of_proper (progress : Progress) {value1 value2 : ValueId}
    (proper1 : value1 ≠ .zero) (proper2 : value2 ≠ .zero) (dest : ValueId) :
    progress.withJoint value1 value2 dest =
      { progress with
        leftMap := progress.leftMap.setValue value1 dest
        rightMap := progress.rightMap.setValue value2 dest
        joined := progress.joined.insert (value1, value2) dest
        dest := progress.dest.addValue dest } := by
  have notZero1 : value1.isZero = false := beq_eq_false_iff_ne.2 proper1
  have notZero2 : value2.isZero = false := beq_eq_false_iff_ne.2 proper2
  simp only [withJoint, setUnlessZero, notZero1, notZero2, Bool.false_eq_true, if_false]

theorem value?_setUnlessZero (map : Correspondence) (source dest other : ValueId) :
    (setUnlessZero map source dest).value? other =
      if other = source ∧ source.isZero = false then some dest else map.value? other := by
  unfold setUnlessZero
  split
  case isTrue zero => simp [zero]
  case isFalse proper => simp [proper, Correspondence.value?_setValue]

@[simp] theorem objects_setUnlessZero (map : Correspondence) (source dest : ValueId) :
    (setUnlessZero map source dest).objects = map.objects := by
  unfold setUnlessZero
  split <;> rfl

/-- Gives a value of one graph a counterpart, unless it is zero. -/
def pairOne (get : Progress → Correspondence) (set : Progress → Correspondence → Progress)
    (source dest : ValueId) : Run Progress Unit := do
  unless source.isZero do
    Run.attempt fun progress => do
      return set progress (← (get progress).pairValue source dest)

theorem pairOne_ok (here : Progress × Supply) (get : Progress → Correspondence)
    (set : Progress → Correspondence → Progress) {source dest : ValueId}
    (keep : ∀ progress, set progress (get progress) = progress)
    (allows : AllowsValue (get here.1) source dest) :
    pairOne get set source dest here =
      .ok () (set here.1 (setUnlessZero (get here.1) source dest), here.2) := by
  unfold pairOne setUnlessZero
  split
  case isTrue => rw [keep]; rfl
  case isFalse proper =>
    have done := Correspondence.pairValue_eq_ok_iff.2
      ⟨allows.resolve_left proper, rfl⟩
    refine Run.attempt_apply_ok ?_
    simp only [done, bind, Except.bind]
    rfl

theorem pairOne_error (here : Progress × Supply) (get : Progress → Correspondence)
    (set : Progress → Correspondence → Progress) {source dest : ValueId}
    (refused : ¬ AllowsValue (get here.1) source dest) :
    ∃ fault, pairOne get set source dest here = .error fault here := by
  obtain ⟨proper, different⟩ := not_or.1 refused
  unfold pairOne
  rw [if_neg proper]
  cases verdict : (get here.1).pairValue source dest with
  | ok next => exact absurd (Correspondence.pairValue_eq_ok_iff.1 verdict).1 different
  | error fault =>
      refine ⟨fault, Run.attempt_apply_error ?_⟩
      simp only [verdict, bind, Except.bind]

/-- The step that gives a left value its counterpart. -/
def pairLeft (value dest : ValueId) : Run Progress Unit :=
  pairOne Progress.leftMap (fun progress map => { progress with leftMap := map }) value dest

/-- The step that gives a right value its counterpart. -/
def pairRight (value dest : ValueId) : Run Progress Unit :=
  pairOne Progress.rightMap (fun progress map => { progress with rightMap := map }) value dest

/-- The step that records a joint value. -/
def recordJoint (value1 value2 dest : ValueId) : Run Progress Unit :=
  Run.modify fun progress =>
    { progress with
      joined := progress.joined.insert (value1, value2) dest
      dest := progress.dest.addValue dest }

theorem pairValues_eq (value1 value2 dest : ValueId) :
    pairValues value1 value2 dest = (do
      pairLeft value1 dest
      pairRight value2 dest
      recordJoint value1 value2 dest) := by
  unfold pairValues pairLeft pairRight pairOne
  cases value1.isZero <;> cases value2.isZero <;> rfl

theorem pairValues_ok {value1 value2 dest : ValueId}
    (left : AllowsValue here.1.leftMap value1 dest)
    (right : AllowsValue here.1.rightMap value2 dest) :
    pairValues value1 value2 dest here =
      .ok () (here.1.withJoint value1 value2 dest, here.2) := by
  have first := pairOne_ok here Progress.leftMap
    (fun progress map => { progress with leftMap := map }) (fun _ => rfl) left
  have second := pairOne_ok
    ({ here.1 with leftMap := setUnlessZero here.1.leftMap value1 dest }, here.2)
    Progress.rightMap (fun progress map => { progress with rightMap := map }) (fun _ => rfl) right
  rw [pairValues_eq]
  exact (Run.bind_apply_ok first).trans ((Run.bind_apply_ok second).trans rfl)

theorem pairValues_error {value1 value2 dest : ValueId}
    (refused : ¬ (AllowsValue here.1.leftMap value1 dest ∧
      AllowsValue here.1.rightMap value2 dest)) :
    ∃ fault there, pairValues value1 value2 dest here = .error fault there := by
  rw [pairValues_eq]
  by_cases left : AllowsValue here.1.leftMap value1 dest
  case neg =>
    obtain ⟨fault, stopped⟩ := pairOne_error here Progress.leftMap
      (fun progress map => { progress with leftMap := map }) left
    exact ⟨fault, here, Run.bind_apply_error stopped⟩
  case pos =>
    have right : ¬ AllowsValue here.1.rightMap value2 dest := fun right => refused ⟨left, right⟩
    have first := pairOne_ok here Progress.leftMap
      (fun progress map => { progress with leftMap := map }) (fun _ => rfl) left
    obtain ⟨fault, stopped⟩ := pairOne_error
      ({ here.1 with leftMap := setUnlessZero here.1.leftMap value1 dest }, here.2)
      Progress.rightMap (fun progress map => { progress with rightMap := map }) right
    exact ⟨fault, _, (Run.bind_apply_ok first).trans (Run.bind_apply_error stopped)⟩

/-- Where a pair of values gets its joint value, both maps have it. -/
theorem passes_pairValues {value1 value2 dest : ValueId} {good : PUnit → Progress × Supply → Prop}
    (paired : good () (here.1.withJoint value1 value2 dest, here.2)) :
    Run.Passes (pairValues value1 value2 dest) here good := by
  by_cases allowed : AllowsValue here.1.leftMap value1 dest ∧
      AllowsValue here.1.rightMap value2 dest
  · exact Run.ends_of_ok (pairValues_ok allowed.1 allowed.2) paired
  · obtain ⟨fault, there, stopped⟩ := pairValues_error allowed
    exact Run.passes_of_error stopped

end Join

end ShapeDomain
