import ShapeDomain.Proofs.Join.Outcome
import ShapeDomain.Proofs.Steady.Objects

/-!
# Recording a join

The join of two graphs goes down from pair of objects to pair of objects.  Here it is run with a
record of the pairs that it goes down to and of what had counterparts on the way.  Each step that
does not lead down is the step of the join itself; and without the record, the recorded join is the
join.
-/

namespace ShapeDomain

namespace Join

/-- The moment when two addresses were met. -/
structure Moment where
  /-- The counterparts in the left graph. -/
  now : Correspondence
  /-- The counterparts after each step before. -/
  before : List Correspondence

/-- A pair of objects that a join went down to, to join their fields and all that these lead to. -/
structure Call where
  /-- The objects and their counterpart. -/
  pair : ObjectPair
  /-- How many pairs of objects deep the join might still go; with none left it would give up. -/
  depth : Nat
  /-- When the addresses were met that led to the objects.  Variables are not led to. -/
  met : Option Moment

/-- The record of a join. -/
structure Record where
  /-- The pairs that it went down to, with the newest one first. -/
  calls : List Call
  /-- The counterparts in the left graph after each step, with the newest ones first. -/
  past : List Correspondence

namespace Record

/-- Nothing happened. -/
def empty : Record := ⟨[], []⟩

/-- One more step, with the counterparts after it. -/
def pass (record : Record) (map : Correspondence) : Record :=
  { record with past := map :: record.past }

/-- The join goes down to one more pair. -/
def note (record : Record) (call : Call) : Record :=
  { record with calls := call :: record.calls }

end Record

/-- A computation of a join that keeps a record. -/
abbrev Recorded (α : Type) := Run (Progress × Record) α

namespace Recorded

variable {α β : Type}

/-- A step that does not lead down. -/
def silently (computation : Run Progress α) : Recorded α :=
  Run.within Prod.fst (fun here progress => (progress, here.2.pass progress.leftMap)) computation

/-- Records a pair. -/
def note (call : Call) : Recorded Unit :=
  Run.modify fun here => (here.1, here.2.note call)

/-- The moment when two addresses are met. -/
def moment : Recorded Moment :=
  Run.ask fun here => ⟨here.1.leftMap, here.2.past⟩

/-- How the join goes down from two addresses, which were just met, to the objects that they lead
to. -/
abbrev Descend :=
  (met : Moment) → (object1 object2 dest : ObjectId) → (levelDiff : Int) → Recorded Bool

@[simp] theorem silently_state_apply (here : (Progress × Record) × Supply) :
    silently Run.state here =
      .ok here.1.1 ((here.1.1, here.1.2.pass here.1.1.leftMap), here.2) := rfl

@[simp] theorem silently_ask_apply (question : Progress → α) (here : (Progress × Record) × Supply) :
    silently (Run.ask question) here =
      .ok (question here.1.1) ((here.1.1, here.1.2.pass here.1.1.leftMap), here.2) := rfl

/-! ### The recorded join -/

/-- Joins two values that are addresses of given places. -/
def joinAddresses (setting : Setting) (descend : Descend) (value1 value2 : ValueId)
    (target1 target2 : Target) (levelDiff : Int) (holderLevel : Level) : Recorded ValueJoin := do
  let met ← moment
  if target1.offset ≠ target2.offset then
    silently (noJoin setting value1 value2)
  else
    match ← silently (destination target1.object target2.object) with
    | none => silently (noJoin setting value1 value2)
    | some destination => do
        let object ← silently (Run.demand fun progress => progress.dest.object destination.object)
        match ← silently (Run.demand fun _ =>
            specifier? holderLevel object target1.specifier target2.specifier) with
        | none => silently (noJoin setting value1 value2)
        | some specifier => do
            let place : Target := ⟨destination.object, target1.offset, specifier⟩
            let dest ← silently (addressName value1 value2 place)
            silently (pairValues value1 value2 dest)
            match destination with
            | .known _ => return .joined dest none
            | .made id =>
                if ← descend met target1.object target2.object id levelDiff then
                  return .joined dest (← silently (foldAt setting id))
                else
                  return .undefined false

/-- Joins two values that are held by fields of `size` bits. -/
def joinValuePair (setting : Setting) (descend : Descend) (value1 value2 : ValueId) (size : Nat)
    (levelDiff : Int) (holderLevel : Level) : Recorded ValueJoin := do
  let progress ← silently Run.state
  match jointValue? progress value1 value2 with
  | some value => return .joined value none
  | none =>
      if hasCounterpart progress.leftMap value1 || hasCounterpart progress.rightMap value2 then
        return .undefined false
      else
        match address? progress.left value1, address? progress.right value2 with
        | none, none => silently (joinNumbers value1 value2 size levelDiff)
        | some target1, some target2 =>
            joinAddresses setting descend value1 value2 target1 target2 levelDiff holderLevel
        | _, _ => silently (noJoin setting value1 value2)

/-- Joins a field of the left object with the same range of the right one. -/
def joinField (setting : Setting) (descend : Descend) (pair : ObjectPair)
    (source1 source2 : Object) (levelDiff : Int) (holderLevel : Level) (field : Field) :
    Recorded FieldJoin := do
  let value2 ← silently <| Run.demand fun progress =>
    match progress.right.valueAt? pair.object2 field.range with
    | some value => .ok value
    | none => .error (.missingCounterpart pair.object2 field.range.offset)
  let level1 ← silently <| Run.demand fun progress => levelBelow progress.left source1 field.value
  let level2 ← silently <| Run.demand fun progress => levelBelow progress.right source2 value2
  let diff := levelDiff + level1.diff source1.level - level2.diff source2.level
  if ← silently (mapLevels (level1, level2) (source1.level, source2.level)) then
    match ← joinValuePair setting descend field.value value2 field.range.size diff holderLevel with
    | .joined value fold =>
        silently (store ⟨pair.dest, field.range, value⟩)
        return .stored value fold
    | .undefined true => return .missing
    | .undefined false => return .refused
  else
    return .refused

/-- Joins fields one after the other, until one of them is refused. -/
def joinFields (join : Field → Recorded FieldJoin) :
    List Field → Harvest → Recorded (Option Harvest)
  | [], harvest => return some harvest
  | field :: rest, harvest => do
      match ← join field with
      | .stored value fold => joinFields join rest (harvest.note value fold)
      | .missing => joinFields join rest { harvest with complete := false }
      | .refused => return none

/-- Joins the fields of two objects whose layouts are aligned, and does the foldings. -/
def joinAlignedBy (levelDiff : Int) (setting : Setting) (descend : Descend) (pair : ObjectPair)
    (source1 source2 : Object) : Recorded Bool := do
  let holderLevel ← silently <| Run.demand fun progress =>
    progress.levels.require source1.level source2.level
  let fields ← silently <| Run.ask fun progress => progress.left.fieldsOf pair.object1
  match ← joinFields (joinField setting descend pair source1 source2 levelDiff holderLevel) fields
      ⟨true, ∅⟩ with
  | some harvest =>
      if harvest.complete then silently (doFolds harvest.folds.payloads) else return false
  | none => return false

/-- Joins the fields of two objects into their counterpart, going down with `descend`. -/
def joinContents (setting : Setting) (descend : Descend) (pair : ObjectPair) (levelDiff : Int) :
    Recorded Bool := do
  let source1 ← silently <| Run.demand fun progress => progress.left.object pair.object1
  let source2 ← silently <| Run.demand fun progress => progress.right.object pair.object2
  if source1.size ≠ source2.size then
    return false
  else
    let status ← silently (onSides (Alignment.align pair.object1 pair.object2))
    silently (lower status)
    if setting.options.verify then
      silently <| Run.demand fun progress =>
        Alignment.check progress.left progress.right pair.object1 pair.object2
    joinAlignedBy levelDiff setting descend pair source1 source2

/-- Joins the fields of two objects; if that is not possible, the status is incomparable. -/
def joinObjectsWith (setting : Setting) (descend : Descend) (pair : ObjectPair)
    (levelDiff : Int) : Recorded Bool := do
  let joined ← joinContents setting descend pair levelDiff
  unless joined do
    silently <| Run.modify fun progress => { progress with status := .incomparable }
  return joined

/-- Records two objects, and joins them and all that they lead to. -/
def joinObjects (setting : Setting) :
    (depth : Nat) → (met : Option Moment) → ObjectPair → Int → Recorded Bool
  | 0, met, pair, _ => do
      note ⟨pair, 0, met⟩
      silently <| Run.modify fun progress => { progress with status := .incomparable }
      return false
  | depth + 1, met, pair, levelDiff => do
      note ⟨pair, depth + 1, met⟩
      joinObjectsWith setting
        (fun met object1 object2 dest =>
          joinObjects setting depth (some met) ⟨object1, object2, dest⟩)
        pair levelDiff

/-- Joins pairs of variables one after the other, until one has no join. -/
def joinPairs (setting : Setting) (depth : Nat) : List ObjectPair → Recorded Bool
  | [] => return true
  | pair :: rest => do
      if ← joinObjects setting depth none pair 0 then
        joinPairs setting depth rest
      else
        let status ← silently (Run.ask Progress.status)
        if status = .incomparable then
          return false
        else
          throw (.undefinedJoin status.text)

/-- Joins the graphs of a join that has just started. -/
def joinAll (setting : Setting) : Recorded Bool := do
  let depth ← silently <| Run.ask fun progress => progress.left.objects.size + 1
  match ← silently matchVariables with
  | none => return false
  | some pairs =>
      if ← joinPairs setting depth pairs then
        silently keepInequalities
        if setting.options.verify then
          silently <| Run.demand fun progress => progress.dest.check
        return true
      else
        return false

/-! ### Without the record -/

/-- How a recorded computation ends, without the record. -/
def forget : EStateM.Result Fault ((Progress × Record) × Supply) α →
    EStateM.Result Fault (Progress × Supply) α
  | .ok result there => .ok result (there.1.1, there.2)
  | .error fault there => .error fault (there.1.1, there.2)

/-- Without the record, a recorded computation is another one. -/
def Records (recorded : Recorded α) (computation : Run Progress α) : Prop :=
  ∀ here, forget (recorded here) = computation (here.1.1, here.2)

theorem records_pure (result : α) : Records (pure result) (pure result) := fun _ => rfl

theorem records_throw (fault : Fault) :
    Records (throw fault : Recorded α) (throw fault) := fun _ => rfl

theorem records_silently (computation : Run Progress α) :
    Records (silently computation) computation := by
  intro here
  rw [silently, Run.within_apply]
  cases computation (here.1.1, here.2) <;> rfl

theorem Records.bind {first : Recorded β} {first' : Run Progress β} {next : β → Recorded α}
    {next' : β → Run Progress α} (start : Records first first')
    (rest : ∀ result, Records (next result) (next' result)) :
    Records (first >>= next) (first' >>= next') := by
  intro here
  rw [Run.bind_apply, Run.bind_apply, ← start here]
  cases first here with
  | ok result there => exact rest result there
  | error fault there => rfl

/-- A step that is the same with the record comes first. -/
theorem records_bind (first : Run Progress β) {next : β → Recorded α} {next' : β → Run Progress α}
    (rest : ∀ result, Records (next result) (next' result)) :
    Records (silently first >>= next) (first >>= next') :=
  (records_silently first).bind rest

/-- That addresses are met does not matter without the record. -/
theorem records_moment {next : Moment → Recorded α} {computation : Run Progress α}
    (rest : ∀ met, Records (next met) computation) :
    Records (moment >>= next) computation :=
  fun here => rest ⟨here.1.1.leftMap, here.1.2.past⟩ here

section Descend

variable {setting : Setting} {descend : Descend} {descend' : Join.Descend}
variable (descends : ∀ met object1 object2 dest levelDiff,
  Records (descend met object1 object2 dest levelDiff) (descend' object1 object2 dest levelDiff))

include descends

theorem records_joinAddresses (value1 value2 : ValueId) (target1 target2 : Target) (levelDiff : Int)
    (holderLevel : Level) :
    Records (joinAddresses setting descend value1 value2 target1 target2 levelDiff holderLevel)
      (Join.joinAddresses setting
        descend' value1 value2 target1 target2 levelDiff holderLevel) := by
  unfold joinAddresses Join.joinAddresses
  refine records_moment fun met => ?_
  split
  case isTrue => exact records_silently _
  case isFalse =>
    refine records_bind _ fun found => ?_
    cases found with
    | none => exact records_silently _
    | some destination =>
        refine records_bind _ fun object => records_bind _ fun joint => ?_
        cases joint with
        | none => exact records_silently _
        | some specifier =>
            refine records_bind _ fun dest => records_bind _ fun _ => ?_
            cases destination with
            | known => exact records_pure _
            | made id =>
                refine (descends _ _ _ _ _).bind fun joined => ?_
                cases joined with
                | true => exact records_bind _ fun _ => records_pure _
                | false => exact records_pure _

theorem records_joinValuePair (value1 value2 : ValueId) (size : Nat) (levelDiff : Int)
    (holderLevel : Level) :
    Records (joinValuePair setting descend value1 value2 size levelDiff holderLevel)
      (Join.joinValuePair setting descend' value1 value2 size levelDiff holderLevel) := by
  unfold joinValuePair Join.joinValuePair
  refine records_bind _ fun progress => ?_
  cases jointValue? progress value1 value2 with
  | some value => exact records_pure _
  | none =>
      dsimp only
      split
      case isTrue => exact records_pure _
      case isFalse =>
        cases address? progress.left value1 <;> cases address? progress.right value2
        case none.none => exact records_silently _
        case some.some => exact records_joinAddresses descends _ _ _ _ _ _
        case none.some => exact records_silently _
        case some.none => exact records_silently _

theorem records_joinField (pair : ObjectPair) (source1 source2 : Object) (levelDiff : Int)
    (holderLevel : Level) (field : Field) :
    Records (joinField setting descend pair source1 source2 levelDiff holderLevel field)
      (Join.joinField setting descend' pair source1 source2 levelDiff holderLevel field) := by
  unfold joinField Join.joinField
  refine records_bind _ fun value2 => records_bind _ fun level1 => records_bind _ fun level2 =>
    records_bind _ fun mapped => ?_
  cases mapped with
  | false => exact records_pure _
  | true =>
      refine (records_joinValuePair descends _ _ _ _ _).bind fun joined => ?_
      cases joined with
      | joined value fold => exact records_bind _ fun _ => records_pure _
      | undefined missing =>
          cases missing with
          | true => exact records_pure _
          | false => exact records_pure _

omit descends in
theorem records_joinFields {join : Field → Recorded FieldJoin}
    {join' : Field → Run Progress FieldJoin}
    (each : ∀ field, Records (join field) (join' field)) (fields : List Field) (harvest : Harvest) :
    Records (joinFields join fields harvest) (Join.joinFields join' fields harvest) := by
  induction fields generalizing harvest with
  | nil => exact records_pure _
  | cons field rest ih =>
      unfold joinFields Join.joinFields
      refine (each field).bind fun joined => ?_
      cases joined with
      | stored value fold => exact ih _
      | missing => exact ih _
      | refused => exact records_pure _

theorem records_joinAlignedBy (levelDiff : Int) (pair : ObjectPair) (source1 source2 : Object) :
    Records (joinAlignedBy levelDiff setting descend pair source1 source2)
      (Join.joinAlignedBy levelDiff setting descend' pair source1 source2) := by
  refine records_bind _ fun holderLevel => records_bind _ fun fields => ?_
  refine (records_joinFields (fun field => records_joinField descends _ _ _ _ _ field) _ _).bind
    fun harvest => ?_
  cases harvest with
  | none => exact records_pure _
  | some harvest =>
      dsimp only
      split
      · exact records_silently _
      · exact records_pure _

theorem records_joinContents (pair : ObjectPair) (levelDiff : Int) :
    Records (joinContents setting descend pair levelDiff)
      (Join.joinContents setting descend' pair levelDiff) := by
  unfold joinContents Join.joinContents
  refine records_bind _ fun source1 => records_bind _ fun source2 => ?_
  split
  case isTrue => exact records_pure _
  case isFalse =>
    refine records_bind _ fun status => records_bind _ fun _ => ?_
    split
    · exact records_bind _ fun _ => records_joinAlignedBy descends levelDiff pair source1 source2
    · exact records_joinAlignedBy descends levelDiff pair source1 source2

theorem records_joinObjectsWith (pair : ObjectPair) (levelDiff : Int) :
    Records (joinObjectsWith setting descend pair levelDiff)
      (Join.joinObjectsWith setting descend' pair levelDiff) := by
  unfold joinObjectsWith Join.joinObjectsWith
  refine (records_joinContents descends pair levelDiff).bind fun joined => ?_
  cases joined with
  | true => exact records_pure _
  | false => exact records_bind _ fun _ => records_pure _

end Descend

/-- Recording a pair is all that the recorded computation does besides the join. -/
theorem records_note (call : Call) {recorded : Recorded α} {computation : Run Progress α}
    (rest : Records recorded computation) :
    Records (do note call; recorded) computation :=
  fun here => rest ((here.1.1, here.1.2.note call), here.2)

/-- By induction on how deep the join may go. -/
theorem records_joinObjects (setting : Setting) (depth : Nat) (met : Option Moment)
    (pair : ObjectPair) (levelDiff : Int) :
    Records (joinObjects setting depth met pair levelDiff)
      (Join.joinObjects setting depth pair levelDiff) := by
  induction depth generalizing met pair levelDiff with
  | zero =>
      unfold joinObjects Join.joinObjects
      exact records_note _ (records_bind _ fun _ => records_pure _)
  | succ depth ih =>
      unfold joinObjects Join.joinObjects
      refine records_note _ (records_joinObjectsWith ?_ pair levelDiff)
      exact fun met object1 object2 dest => ih (some met) ⟨object1, object2, dest⟩

theorem records_joinPairs (setting : Setting) (depth : Nat) (pairs : List ObjectPair) :
    Records (joinPairs setting depth pairs) (Join.joinPairs setting depth pairs) := by
  induction pairs with
  | nil => exact records_pure _
  | cons pair rest ih =>
      unfold joinPairs Join.joinPairs
      refine (records_joinObjects setting depth none pair 0).bind fun joined => ?_
      cases joined with
      | true => exact ih
      | false =>
          refine records_bind _ fun status => ?_
          split
          · exact records_pure _
          · exact records_throw _

/-- Without the record, the recorded join is the join. -/
theorem records_joinAll (setting : Setting) : Records (joinAll setting) (Join.joinAll setting) := by
  unfold joinAll Join.joinAll
  refine records_bind _ fun depth => records_bind _ fun found => ?_
  cases found with
  | none => exact records_pure _
  | some pairs =>
      refine (records_joinPairs setting depth pairs).bind fun joined => ?_
      cases joined with
      | false => exact records_pure _
      | true =>
          refine records_bind _ fun _ => ?_
          split
          · exact records_bind _ fun _ => records_pure _
          · exact records_pure _

end Recorded

/-- The end of the join of two graphs, with the pairs of objects that it went down to, the newest
one first. -/
def record (options : Options) (left right : Graph) (supply : Supply) :
    EStateM.Result Fault Supply (Option Progress) × List Call :=
  match Recorded.joinAll ⟨options, left == right⟩ ((.start left right, .empty), supply) with
  | .ok joined there => (.ok (if joined then some there.1.1 else none) there.2, there.1.2.calls)
  | .error fault there => (.error fault there.2, there.1.2.calls)

/-- Recording the join does not change it. -/
theorem record_fst (options : Options) (left right : Graph) (supply : Supply) :
    (record options left right supply).1 = finish options left right supply := by
  rw [record, finish_apply,
    ← Recorded.records_joinAll ⟨options, left == right⟩ ((.start left right, .empty), supply)]
  cases Recorded.joinAll ⟨options, left == right⟩ ((.start left right, .empty), supply) <;> rfl

end Join

end ShapeDomain
