import ShapeDomain.Proofs.Calls.Record
import ShapeDomain.Proofs.Calls.Retained
import ShapeDomain.Proofs.Join.Unmapped

/-!
# Joins go down to each object once

Below the pairs of variables, a join goes down only to left objects that have no counterpart when an
address of them is met, and then gives them one that they keep.  So it goes down to each left object
once at most, however the graphs are linked, and the bound on its depth is never used up.
-/

namespace ShapeDomain

namespace Join

/-- A left object that an address leads to, when it is met for the first time. -/
structure FirstMet (left : Graph) (moment : Moment) (object : ObjectId) (earlier : List Call) :
    Prop where
  /-- An address leads to it. -/
  target : ∃ value place, left.target? value = some place ∧ place.object = object
  /-- It is there. -/
  present : left.hasObject object = true
  /-- It has no counterpart. -/
  free : moment.now.object? object = none
  /-- Nor had it one after any step before. -/
  always : ∀ map ∈ moment.before, map.object? object = none
  /-- The join did not go down to it before. -/
  first : ∀ call ∈ earlier, call.pair.object1 ≠ object

/-- A record of going down to objects that were met for the first time, and to the pairs `tops` of
variables, the newest one first. -/
structure Sparing (left : Graph) (tops : List ObjectPair) (calls : List Call) : Prop where
  /-- These are the pairs of variables. -/
  started : (calls.filter fun call => call.met.isNone).map Call.pair = tops
  /-- The bound on the depth is not used up. -/
  deep : ∀ call ∈ calls, 0 < call.depth
  /-- Other objects were met for the first time. -/
  reached : ∀ later call earlier moment, calls = later ++ call :: earlier → call.met = some moment →
    FirstMet left moment call.pair.object1 earlier

variable {left : Graph} {start : Progress} {room : Nat} {tops : List ObjectPair} {calls : List Call}
variable {here : (Progress × Record) × Supply} {setting : Setting} {met : Moment}
variable {α β : Type}

namespace Sparing

theorem nil : Sparing left [] [] where
  started := rfl
  deep _ member := by cases member
  reached later _ _ _ split := by cases later <;> cases split

/-- The join goes down once more. -/
theorem cons (sparing : Sparing left tops calls) {call : Call} (deep : 0 < call.depth)
    (reached : ∀ moment, call.met = some moment → FirstMet left moment call.pair.object1 calls) :
    Sparing left (if call.met.isNone then call.pair :: tops else tops) (call :: calls) where
  started := by
    rw [← sparing.started, List.filter_cons]
    split <;> rfl
  deep other member := (List.mem_cons.1 member).elim (fun same => same ▸ deep) (sparing.deep other)
  reached later other earlier moment split isMet := by
    cases later with
    | nil =>
        obtain ⟨rfl, rfl⟩ := List.cons.inj split
        exact reached moment isMet
    | cons head later =>
        exact sparing.reached later other earlier moment (List.cons.inj split).2 isMet

end Sparing

/-! ### What is kept -/

/-- The progress of a join with a record, when few objects of the left graph have no
counterparts. -/
structure Recording (start : Progress) (room : Nat) (tops : List ObjectPair)
    (here : (Progress × Record) × Supply) : Prop where
  /-- What the join retains has been retained since `start`. -/
  since : Retained start here.1.1
  /-- The left objects that the join went down to have counterparts. -/
  called : ∀ call ∈ here.1.2.calls, (here.1.1.leftMap.object? call.pair.object1).isSome = true
  /-- So have those that had one after any step. -/
  grown : ∀ map ∈ here.1.2.past, ∀ {id}, (map.object? id).isSome = true →
    (here.1.1.leftMap.object? id).isSome = true
  /-- The number of left objects without counterparts is bounded. -/
  few : unmapped start.left here.1.1.leftMap ≤ room
  /-- The join went down sparingly. -/
  sparing : Sparing start.left tops here.1.2.calls

/-- An address was met that leads to a left object without a counterpart, and now the object has
one. -/
structure Arrival (start : Progress) (room : Nat) (tops : List ObjectPair) (met : Moment)
    (object : ObjectId) (here : (Progress × Record) × Supply) : Prop where
  /-- Fewer objects than before have no counterparts. -/
  recording : ∃ less < room, Recording start less tops here
  /-- The object has one. -/
  mapped : (here.1.1.leftMap.object? object).isSome = true
  /-- The object was met for the first time. -/
  firstMet : FirstMet start.left met object here.1.2.calls

/-- What holds where two addresses lead: if an object was made, then for an object met for the first
time. -/
def Found (start : Progress) (room : Nat) (tops : List ObjectPair) (met : Moment)
    (object : ObjectId) : Option Destination → (Progress × Record) × Supply → Prop
  | some (.made _) => Arrival start room tops met object
  | _ => Recording start room tops

/-- What holds where a recorded computation goes through; wherever it stops, the join went down
sparingly. -/
abbrev Follows (left : Graph) (tops : List ObjectPair) (computation : Recorded α)
    (here : (Progress × Record) × Supply) (good : α → (Progress × Record) × Supply → Prop) :
    Prop :=
  Run.Ends computation here good fun _ there => Sparing left tops there.1.2.calls

/-- What is kept by the steps that do not lead down. -/
structure Stable (left : Graph) (tops : List ObjectPair)
    (kept : (Progress × Record) × Supply → Prop) : Prop where
  /-- The join went down sparingly. -/
  sparing : ∀ {here}, kept here → Sparing left tops here.1.2.calls
  /-- It is kept. -/
  retained : ∀ {here progress}, kept here → Retained here.1.1 progress → ∀ now,
    kept ((progress, here.1.2.pass progress.leftMap), now)

theorem stable_recording : Stable start.left tops (Recording start room tops) where
  sparing recording := recording.sparing
  retained recording retained _ :=
    { since := recording.since.trans retained
      called := fun call member => retained.copied (recording.called call member)
      grown := fun map member _ isSome => (List.mem_cons.1 member).elim (fun now => now ▸ isSome)
        fun before => retained.copied (recording.grown map before isSome)
      few := Nat.le_trans (unmapped_le fun _ => retained.copied) recording.few
      sparing := recording.sparing }

theorem stable_arrival {object : ObjectId} :
    Stable start.left tops (Arrival start room tops met object) where
  sparing arrival := by
    obtain ⟨less, -, recording⟩ := arrival.recording
    exact recording.sparing
  retained arrival retained now := by
    obtain ⟨less, lt, recording⟩ := arrival.recording
    exact { arrival with
      recording := ⟨less, lt, stable_recording.retained recording retained now⟩
      mapped := retained.copied arrival.mapped }

theorem stable_found {object : ObjectId} :
    (found : Option Destination) → Stable start.left tops (Found start room tops met object found)
  | some (.made _) => stable_arrival
  | some (.known _) => stable_recording
  | none => stable_recording

theorem Recording.mono (recording : Recording start room tops here) {more : Nat}
    (le : room ≤ more) : Recording start more tops here :=
  { recording with few := Nat.le_trans recording.few le }

theorem Found.recording {object : ObjectId} {found : Option Destination}
    (holds : Found start room tops met object found here) : Recording start room tops here := by
  rcases found with _ | _ | _
  · exact holds
  · exact holds
  · obtain ⟨less, lt, recording⟩ := Arrival.recording holds
    exact recording.mono (Nat.le_of_lt lt)

/-! ### Steps that do not lead down -/

/-- A step that does not lead down. -/
theorem Stable.silently {kept : (Progress × Record) × Supply → Prop}
    (stable : Stable left tops kept) (holds : kept here) {computation : Run Progress α}
    (retains : Retains computation) :
    Follows left tops (Recorded.silently computation) here fun _ there => kept there := by
  have sparing := stable.sparing holds
  exact Run.Ends.within (retains (here.1.1, here.2))
    (fun _ there retained => stable.retained holds retained there.2) fun _ _ _ => sparing

/-- Steps that do not lead down come first. -/
theorem Stable.silently_bind {kept : (Progress × Record) × Supply → Prop}
    {good : α → (Progress × Record) × Supply → Prop} (stable : Stable left tops kept)
    (holds : kept here) {computation : Run Progress β} (retains : Retains computation)
    {next : β → Recorded α}
    (rest : ∀ result there, kept there → Follows left tops (next result) there good) :
    Follows left tops (Recorded.silently computation >>= next) here good :=
  (stable.silently holds retains).bind rest

namespace Recording

theorem silently (recording : Recording start room tops here) {computation : Run Progress α}
    (retains : Retains computation) :
    Follows start.left tops (Recorded.silently computation) here fun _ there =>
      Recording start room tops there :=
  stable_recording.silently recording retains

theorem silently_bind (recording : Recording start room tops here)
    {computation : Run Progress β} (retains : Retains computation) {next : β → Recorded α}
    {good : α → (Progress × Record) × Supply → Prop}
    (rest : ∀ result there, Recording start room tops there →
      Follows start.left tops (next result) there good) :
    Follows start.left tops (Recorded.silently computation >>= next) here good :=
  stable_recording.silently_bind recording retains rest

/-- A left object without a counterpart is met for the first time. -/
theorem firstMet (recording : Recording start room tops here) {value : ValueId} {target : Target}
    (leads : start.left.target? value = some target)
    (present : here.1.1.left.hasObject target.object = true)
    (free : here.1.1.leftMap.object? target.object = none) :
    FirstMet start.left ⟨here.1.1.leftMap, here.1.2.past⟩ target.object here.1.2.calls where
  target := ⟨value, target, leads, rfl⟩
  present := by rwa [Graph.hasObject, ← recording.since.left.objects]
  free := free
  always map member := by
    by_contra mapped
    have still := recording.grown map member (Option.isSome_iff_ne_none.2 mapped)
    rw [free] at still
    cases still
  first call member := by
    rintro same
    have still := recording.called call member
    rw [same, free] at still
    cases still

/-- The object that a left address leads to is looked for. -/
theorem destination (recording : Recording start room tops here) {value : ValueId}
    {target1 target2 : Target} (leads : start.left.target? value = some target1) :
    Follows start.left tops (Recorded.silently (destination target1.object target2.object)) here
      fun found there =>
        Found start room tops ⟨here.1.1.leftMap, here.1.2.past⟩ target1.object found there := by
  refine Run.Ends.within (passes_destination target1.object target2.object (here.1.1, here.2)) ?_
    fun _ _ _ => recording.sparing
  rintro found there ⟨retained, made⟩
  rcases found with _ | _ | id
  · exact stable_recording.retained recording retained there.2
  · exact stable_recording.retained recording retained there.2
  · -- the object loses its place among those without counterparts, so fewer of them are left
    obtain ⟨present, free, mapped⟩ := made id rfl
    have firstMet := recording.firstMet leads present free
    obtain ⟨object, isObject⟩ := (Graph.hasObject_iff _).1 firstMet.present
    have less := Nat.lt_of_lt_of_le
      (unmapped_lt (fun _ => retained.copied) isObject free mapped) recording.few
    have after := stable_recording.retained recording retained there.2
    exact
      { recording := ⟨_, less, { after with few := Nat.le_refl _ }⟩
        mapped := mapped
        firstMet := firstMet }

end Recording

/-! ### Going down -/

/-- A way of going down to objects that were just met. -/
abbrev Sparingly (start : Progress) (room : Nat) (tops : List ObjectPair)
    (descend : Recorded.Descend) : Prop :=
  ∀ {met object1 object2 dest levelDiff here}, Arrival start room tops met object1 here →
    Follows start.left tops (descend met object1 object2 dest levelDiff) here fun _ there =>
      Recording start room tops there

namespace Recording

section Descend

variable {descend : Recorded.Descend} {levelDiff : Int} {holderLevel : Level} {pair : ObjectPair}
variable (descends : Sparingly start room tops descend)

include descends

theorem joinAddresses (recording : Recording start room tops here) {value1 value2 : ValueId}
    {target1 target2 : Target} (leads : start.left.target? value1 = some target1) :
    Follows start.left tops (Recorded.joinAddresses setting descend value1 value2 target1 target2
      levelDiff holderLevel) here fun _ there => Recording start room tops there := by
  unfold Recorded.joinAddresses
  refine Run.ends_bind_of_ok (Run.ask_apply _ _) ?_
  split
  case isTrue => exact recording.silently (retains_noJoin _ _)
  case isFalse =>
    refine (recording.destination leads).bind fun found middle holds => ?_
    cases found with
    | none => exact holds.recording.silently (retains_noJoin _ _)
    | some destination =>
        have stable := @stable_found start room tops ⟨here.1.1.leftMap, here.1.2.past⟩
          target1.object (some destination)
        refine stable.silently_bind holds (retains_demand _) fun object there holds => ?_
        refine stable.silently_bind holds (retains_demand _) fun joint there holds => ?_
        cases joint with
        | none => exact holds.recording.silently (retains_noJoin _ _)
        | some specifier =>
            refine stable.silently_bind holds (apart_addressName _ _ _).retains
              fun dest there holds => ?_
            refine stable.silently_bind holds (retains_pairValues _ _ _) fun _ there holds => ?_
            cases destination with
            | known => exact Run.ends_pure holds
            | made id =>
                refine (descends holds).bind fun joined last recording => ?_
                cases joined with
                | false => exact Run.ends_pure recording
                | true =>
                    exact recording.silently_bind (apart_foldAt id).retains
                      fun _ _ recording => Run.ends_pure recording

theorem joinValuePair (recording : Recording start room tops here) (value1 value2 : ValueId)
    (size : Nat) :
    Follows start.left tops (Recorded.joinValuePair setting descend value1 value2 size levelDiff
      holderLevel) here fun _ there => Recording start room tops there := by
  unfold Recorded.joinValuePair
  refine Run.ends_bind_of_ok (Recorded.silently_state_apply here) ?_
  have recording := stable_recording.retained recording (.refl here.1.1) here.2
  cases jointValue? here.1.1 value1 value2 with
  | some value => exact Run.ends_pure recording
  | none =>
      dsimp only
      split
      case isTrue => exact Run.ends_pure recording
      case isFalse =>
        cases leads : address? here.1.1.left value1 <;> cases address? here.1.1.right value2
        case none.none => exact recording.silently (retains_joinNumbers _ _ _ _)
        case some.some target1 target2 =>
          refine recording.joinAddresses descends ?_
          rw [← recording.since.left.target?]
          exact (address?_eq_some_iff.1 leads).2
        case none.some => exact recording.silently (retains_noJoin _ _)
        case some.none => exact recording.silently (retains_noJoin _ _)

theorem joinField (recording : Recording start room tops here) {source1 source2 : Object}
    (field : Field) :
    Follows start.left tops (Recorded.joinField setting descend pair source1 source2 levelDiff
      holderLevel field) here fun _ there => Recording start room tops there := by
  unfold Recorded.joinField
  refine recording.silently_bind (retains_demand _) fun value2 _ recording => ?_
  refine recording.silently_bind (retains_demand _) fun level1 _ recording => ?_
  refine recording.silently_bind (retains_demand _) fun level2 _ recording => ?_
  refine recording.silently_bind (apart_mapLevels _ _).retains fun mapped _ recording => ?_
  cases mapped with
  | false => exact Run.ends_pure recording
  | true =>
      refine (recording.joinValuePair descends _ _ _).bind fun joined _ recording => ?_
      cases joined with
      | joined value fold =>
          exact recording.silently_bind (apart_store _).retains fun _ _ recording =>
            Run.ends_pure recording
      | undefined recoverable => cases recoverable <;> exact Run.ends_pure recording

omit descends in
theorem joinFields (recording : Recording start room tops here) {join : Field → Recorded FieldJoin}
    (each : ∀ field here, Recording start room tops here →
      Follows start.left tops (join field) here fun _ there => Recording start room tops there)
    (fields : List Field) (harvest : Harvest) :
    Follows start.left tops (Recorded.joinFields join fields harvest) here fun _ there =>
      Recording start room tops there := by
  induction fields generalizing here harvest with
  | nil => exact Run.ends_pure recording
  | cons field rest ih =>
      unfold Recorded.joinFields
      refine (each field here recording).bind fun joined _ recording => ?_
      cases joined with
      | stored value fold => exact ih recording _
      | missing => exact ih recording _
      | refused => exact Run.ends_pure recording

theorem joinAlignedBy (recording : Recording start room tops here) (source1 source2 : Object) :
    Follows start.left tops
      (Recorded.joinAlignedBy levelDiff setting descend pair source1 source2) here fun _ there =>
        Recording start room tops there := by
  unfold Recorded.joinAlignedBy
  refine recording.silently_bind (retains_demand _) fun holderLevel _ recording => ?_
  refine recording.silently_bind (retains_ask _) fun fields _ recording => ?_
  refine (recording.joinFields (fun field _ recording => recording.joinField descends field)
    fields _).bind fun harvest _ recording => ?_
  cases harvest with
  | none => exact Run.ends_pure recording
  | some harvest =>
      dsimp only
      split
      · exact recording.silently (apart_doFolds _).retains
      · exact Run.ends_pure recording

theorem joinContents (recording : Recording start room tops here) :
    Follows start.left tops (Recorded.joinContents setting descend pair levelDiff) here
      fun _ there => Recording start room tops there := by
  unfold Recorded.joinContents
  refine recording.silently_bind (retains_demand _) fun source1 _ recording => ?_
  refine recording.silently_bind (retains_demand _) fun source2 _ recording => ?_
  split
  case isTrue => exact Run.ends_pure recording
  case isFalse =>
    refine recording.silently_bind (retains_align _ _) fun status _ recording => ?_
    refine recording.silently_bind (apart_lower _).retains fun _ _ recording => ?_
    split
    · exact recording.silently_bind (retains_demand _) fun _ _ recording =>
        recording.joinAlignedBy descends source1 source2
    · exact recording.joinAlignedBy descends source1 source2

theorem joinObjectsWith (recording : Recording start room tops here) :
    Follows start.left tops (Recorded.joinObjectsWith setting descend pair levelDiff) here
      fun _ there => Recording start room tops there := by
  unfold Recorded.joinObjectsWith
  refine (recording.joinContents descends).bind fun joined _ recording => ?_
  cases joined with
  | true => exact Run.ends_pure recording
  | false =>
      exact recording.silently_bind apart_incomparable.retains fun _ _ recording =>
        Run.ends_pure recording

end Descend

/-- A pair with a counterpart is recorded. -/
theorem note (recording : Recording start room tops here) (call : Call) (deep : 0 < call.depth)
    (mapped : (here.1.1.leftMap.object? call.pair.object1).isSome = true)
    (reached : ∀ moment, call.met = some moment →
      FirstMet start.left moment call.pair.object1 here.1.2.calls) :
    Recording start room (if call.met.isNone then call.pair :: tops else tops)
      ((here.1.1, here.1.2.note call), here.2) where
  since := recording.since
  called other member :=
    (List.mem_cons.1 member).elim (fun same => same ▸ mapped) (recording.called other)
  grown := recording.grown
  few := recording.few
  sparing := recording.sparing.cons deep reached

/-- Once a pair is recorded, its objects are joined and all that they lead to.  By induction on the
depth: on the way down, always fewer left objects have no counterparts. -/
theorem joinObjects {depth : Nat} {call : Option Moment} {pair : ObjectPair}
    (few : room < depth) (levelDiff : Int)
    (recording : Recording start room tops
      ((here.1.1, here.1.2.note ⟨pair, depth, call⟩), here.2)) :
    Follows start.left tops (Recorded.joinObjects setting depth call pair levelDiff) here
      fun _ there =>
      Recording start room tops there := by
  induction depth generalizing room here call pair levelDiff with
  | zero => exact absurd few (Nat.not_lt_zero _)
  | succ depth ih =>
      unfold Recorded.joinObjects
      refine Run.ends_bind_of_ok (Run.modify_apply _ _) (recording.joinObjectsWith ?_)
      intro met object1 object2 dest levelDiff there arrival
      obtain ⟨less, lt, before⟩ := arrival.recording
      have lower : less < depth := Nat.lt_of_lt_of_le lt (Nat.le_of_lt_succ few)
      have noted := before.note ⟨⟨object1, object2, dest⟩, depth, some met⟩
        (Nat.zero_lt_of_lt lower) arrival.mapped (by rintro _ ⟨⟩; exact arrival.firstMet)
      exact (ih lower levelDiff noted).mono
        (fun _ _ after => after.mono (Nat.le_of_lt lt)) fun _ _ bad => bad

end Recording

end Join

end ShapeDomain
