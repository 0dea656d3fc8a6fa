import ShapeDomain.Proofs.Progress.Graphs
import ShapeDomain.Proofs.Steady.Addresses

/-!
# Joins of tame graphs are tame

Joining the fields of two objects, and from them all that the variables of two tame graphs reach,
keeps the graphs and the destination tame.  So the join of two tame graphs is tame, whatever the
options are.
-/

namespace ShapeDomain

namespace Join

variable {low : Nat} {here : Progress × Supply} {setting : Setting} {descend : Descend}
variable {pair : ObjectPair} {source1 source2 : Object} {levelDiff : Int} {holderLevel : Level}

/-! ### Fields -/

/-- What joining two objects does once their layouts are aligned: it joins their fields and does the
foldings. -/
def joinAlignedBy (levelDiff : Int) (setting : Setting) (descend : Descend) (pair : ObjectPair)
    (source1 source2 : Object) : Run Progress Bool := do
  let holderLevel ← Run.demand fun progress => progress.levels.require source1.level source2.level
  let fields ← Run.ask fun progress => progress.left.fieldsOf pair.object1
  match ← joinFields (joinField setting descend pair source1 source2 levelDiff holderLevel) fields
      ⟨true, ∅⟩ with
  | some harvest => if harvest.complete then doFolds harvest.folds.payloads else return false
  | none => return false

namespace Steady

theorem store (steady : Steady low here) {field : Field} (bits : 0 < field.range.size)
    (early : field.value.index < here.2.next) :
    Steadily low (Join.store field) here fun _ _ => True := by
  unfold Join.store
  refine Run.ends_bind_of_ok (Run.ask_apply _ _) ?_
  split
  case isTrue => exact Run.ends_pure ⟨steady, trivial⟩
  case isFalse =>
    refine passes_attemptDest fun dest done => ⟨?_, trivial⟩
    refine steady.withDest (steady.dest.addField bits early done) fun {id} present => ?_
    rwa [Graph.hasObject, Graph.objects_of_addField done] at present

/-- Joining two fields. -/
theorem joinField (steady : Steady low here) (descends : Descends descend) {field : Field}
    (bits : 0 < field.range.size) (early : field.value.index < low) :
    Steadily low (Join.joinField setting descend pair source1 source2 levelDiff holderLevel field)
      here fun _ _ => True := by
  unfold Join.joinField
  refine Run.passes_demand fun value2 _ => Run.passes_demand fun level1 below1 =>
    Run.passes_demand fun level2 below2 => ?_
  obtain rfl := Except.ok.inj ((levelBelow_of_tame steady.left (.refl _) _ _).symm.trans below1)
  obtain rfl := Except.ok.inj ((levelBelow_of_tame steady.right (.refl _) _ _).symm.trans below2)
  refine Run.ends_bind_of_ok (mapLevels_initial steady.levels _) ?_
  rw [if_pos rfl]
  refine (steady.joinValuePair descends early _).bind ?_
  rintro (⟨value, fold⟩ | recoverable) middle ⟨steady, drawn⟩
  · have stored : Steadily low (Join.store ⟨pair.dest, field.range, value⟩) middle fun _ _ =>
        True := steady.store bits drawn
    refine stored.bind ?_
    rintro _ there ⟨steady, -⟩
    exact Run.ends_pure ⟨steady, trivial⟩
  · cases recoverable <;> exact Run.ends_pure ⟨steady, trivial⟩

/-- Joining fields one after the other. -/
theorem joinFields (steady : Steady low here) (descends : Descends descend) {fields : List Field}
    (bits : ∀ field ∈ fields, 0 < field.range.size)
    (early : ∀ field ∈ fields, field.value.index < low) (harvest : Harvest) :
    Steadily low (Join.joinFields
      (Join.joinField setting descend pair source1 source2 levelDiff holderLevel) fields harvest)
      here fun _ _ => True := by
  induction fields generalizing here harvest with
  | nil => exact Run.ends_pure ⟨steady, trivial⟩
  | cons field rest ih =>
      have bitsRest := fun other member => bits other (List.mem_cons_of_mem field member)
      have earlyRest := fun other member => early other (List.mem_cons_of_mem field member)
      unfold Join.joinFields
      refine (steady.joinField descends (bits field List.mem_cons_self)
        (early field List.mem_cons_self)).bind ?_
      rintro (⟨value, fold⟩ | _ | _) middle ⟨steady, -⟩
      · exact ih steady bitsRest earlyRest _
      · exact ih steady bitsRest earlyRest _
      · exact Run.ends_pure ⟨steady, trivial⟩

/-! ### Folding -/

/-- After a folding other objects have counterparts, but no fewer. -/
theorem retarget (steady : Steady low here) (fold : Fold) (segment : ObjectId) :
    Steadily low (Join.retarget fold segment) here fun _ _ => True := by
  refine Run.ends_of_ok (Run.modify_apply _ _) ⟨?_, trivial⟩
  exact { steady with
    named := fun {id} present shared => (steady.named present shared).imp_right fun mapped => by
      show (((here.1.leftMap.retarget fold.head segment).retarget fold.successor segment).object?
        id).isSome = true
      rw [object?_refold, Option.isSome_map]
      exact mapped }

theorem doFolds (steady : Steady low here) (folds : List Fold) :
    Steadily low (Join.doFolds folds) here fun _ _ => True := by
  induction folds generalizing here with
  | nil => exact Run.ends_pure ⟨steady, trivial⟩
  | cons fold rest ih =>
      have performed : Steadily low (onDest fold.perform) here fun _ _ => True := by
        refine Run.Ends.within (Fold.perform_passes fold steady.dest) ?_ fun _ _ bad => bad
        rintro result ⟨dest, now⟩ ⟨after, tame, fewer⟩
        have moved := steady.later after here.1.status
        exact ⟨{ moved with
          dest := tame
          named := fun {id} present shared => (fewer present).elim
            (fun old => steady.named old shared) fun late => by
              have absent := steady.left.absent_of_late late
              rw [show here.1.left.hasObject id = true from shared] at absent
              simp at absent }, trivial⟩
      unfold Join.doFolds
      refine performed.bind ?_
      rintro (_ | segment) middle ⟨steady, -⟩
      · exact Run.ends_pure ⟨steady, trivial⟩
      · refine (steady.retarget fold segment).bind ?_
        rintro _ there ⟨steady, -⟩
        exact ih steady

/-! ### Objects -/

theorem align (steady : Steady low here) (object1 object2 : ObjectId) :
    Steadily low (onSides (Alignment.align object1 object2)) here fun _ _ => True := by
  refine Run.Ends.within (Alignment.align_resettles steady.left steady.right object1 object2) ?_
    fun _ _ bad => bad
  rintro status ⟨⟨left, right⟩, now⟩ ⟨settled1, settled2⟩
  have moved := steady.later settled1.time here.1.status
  refine ⟨{ moved with
    left := settled1.tame
    right := settled2.tame
    named := fun {id} present shared => steady.named present ?_ }, trivial⟩
  rw [← shared, Graph.hasObject, Graph.hasObject, ← settled1.objects]

/-- Joining the fields of objects whose layouts are aligned. -/
theorem joinAlignedBy (steady : Steady low here) (descends : Descends descend) :
    Steadily low (Join.joinAlignedBy levelDiff setting descend pair source1 source2) here
      fun _ _ => True := by
  unfold Join.joinAlignedBy
  refine Run.passes_demand fun holderLevel _ => Run.ends_bind_of_ok (Run.ask_apply _ _) ?_
  have held {field : Field} (member : field ∈ here.1.left.fieldsOf pair.object1) :=
    (Graph.mem_fieldsOf_iff.1 member).2
  refine (steady.now.joinFields descends
    (fun field member => steady.left.sound.tiled.positive (held member))
    (fun field member => steady.left.held_lt (held member)) _).bind ?_
  rintro harvest middle ⟨later, -⟩
  have steady : Steady low middle :=
    { later with started := Nat.le_trans steady.started later.started }
  cases harvest with
  | none => exact Run.ends_pure ⟨steady, trivial⟩
  | some harvest =>
      dsimp only
      split
      · exact steady.doFolds _
      · exact Run.ends_pure ⟨steady, trivial⟩

theorem joinContents (steady : Steady low here) (descends : Descends descend) :
    Steadily low (Join.joinContents setting descend pair levelDiff) here fun _ _ => True := by
  unfold Join.joinContents
  refine Run.passes_demand fun source1 _ => Run.passes_demand fun source2 _ => ?_
  split
  case isTrue => exact Run.ends_pure ⟨steady, trivial⟩
  case isFalse =>
    refine (steady.align pair.object1 pair.object2).bind ?_
    rintro status aligned ⟨steady, -⟩
    refine (steady.lower status).bind ?_
    rintro _ lowered ⟨steady, -⟩
    split
    case isTrue => exact Run.passes_demand fun _ _ => steady.joinAlignedBy descends
    case isFalse => exact steady.joinAlignedBy descends

theorem incomparable (steady : Steady low here) :
    Steady low ({ here.1 with status := .incomparable }, here.2) :=
  steady.later (Nat.le_refl _) _

theorem joinObjectsWith (steady : Steady low here) (descends : Descends descend) :
    Steadily low (Join.joinObjectsWith setting descend pair levelDiff) here fun _ _ => True := by
  unfold Join.joinObjectsWith
  refine (steady.joinContents descends).bind ?_
  rintro joined middle ⟨steady, -⟩
  cases joined with
  | true => exact Run.ends_pure ⟨steady, trivial⟩
  | false =>
      exact Run.ends_bind_of_ok (Run.modify_apply _ _)
        (Run.ends_pure ⟨steady.incomparable, trivial⟩)

/-- Joining two objects, by induction on how deep the join may go. -/
theorem joinObjects (steady : Steady low here) (depth : Nat) (pair : ObjectPair)
    (levelDiff : Int) :
    Steadily low (Join.joinObjects setting depth pair levelDiff) here fun _ _ => True := by
  induction depth generalizing low here pair levelDiff with
  | zero =>
      exact Run.ends_bind_of_ok (Run.modify_apply _ _)
        (Run.ends_pure ⟨steady.incomparable, trivial⟩)
  | succ depth ih =>
      unfold Join.joinObjects
      exact steady.joinObjectsWith fun _ _ _ _ steady => ih steady _ _

theorem joinPairs (steady : Steady low here) (depth : Nat) (pairs : List ObjectPair) :
    Steadily low (Join.joinPairs setting depth pairs) here fun _ _ => True := by
  induction pairs generalizing here with
  | nil => exact Run.ends_pure ⟨steady, trivial⟩
  | cons pair rest ih =>
      unfold Join.joinPairs
      refine (steady.joinObjects depth pair 0).bind ?_
      rintro joined middle ⟨steady, -⟩
      cases joined with
      | true => exact ih steady
      | false =>
          refine Run.ends_bind_of_ok (Run.ask_apply _ _) ?_
          dsimp only
          split
          · exact Run.ends_pure ⟨steady, trivial⟩
          · exact Run.passes_of_error (Run.throw_apply _ _)

end Steady

/-! ### Variables -/

/-- What puts a variable into a tame graph keeps it tame, if the name of its object is free. -/
def Tames (declare : Declare) : Prop :=
  ∀ {start dest next name id size label}, dest.Tame start → dest.hasObject id = false →
    id.index < start → declare name id (.region size label) dest = .ok next →
    next.Tame start ∧ ∀ {other}, next.hasObject other = true →
      other = id ∨ dest.hasObject other = true

theorem hasObject_addObject {graph : Graph} {id other : ObjectId} {object : Object}
    (present : (graph.addObject id object).hasObject other = true) :
    other = id ∨ graph.hasObject other = true := by
  obtain ⟨found, isObject⟩ := (Graph.hasObject_iff _).1 present
  rw [Graph.object?_addObject] at isObject
  split at isObject
  case isTrue same => exact .inl same
  case isFalse => exact .inr (Graph.hasObject_of_object? isObject)

theorem tames_global : Tames fun name id object graph =>
    .ok (graph.declareGlobal name id object) := by
  rintro start dest _ name id size label tame absent early ⟨⟩
  exact ⟨tame.declareGlobal absent early, fun present => hasObject_addObject present⟩

theorem tames_local : Tames fun name id object graph => graph.declareLocal name id object := by
  intro start dest next name id size label tame absent early done
  refine ⟨tame.declareLocal absent early done, fun present => ?_⟩
  obtain ⟨frame, outer, -, rfl⟩ := Graph.declareLocal_eq_ok done
  exact hasObject_addObject present

/-- Some variables are still to be paired: their left objects are different and have no counterparts
yet. -/
structure Unpaired (left : Graph) (later : List Link) (here : Progress × Supply) : Prop where
  /-- The left graph is still the same. -/
  same : here.1.left = left
  /-- The left objects are variables. -/
  named : ∀ link ∈ later, link.1.2 ∈ left.roots.map Prod.snd
  /-- They are different. -/
  distinct : (later.map fun link => link.1.2).Nodup
  /-- They have no counterparts. -/
  free : ∀ link ∈ later, here.1.leftMap.object? link.1.2 = none

namespace Steady

variable {left : Graph} {declare : Declare} {link : Link} {later links : List Link}

theorem matchVariable (steady : Steady low here) (tames : Tames declare)
    (unpaired : Unpaired left (link :: later) here) :
    Steadily low (Join.matchVariable declare link.1.1 link.1.2 link.2.2) here fun _ there =>
      Unpaired left later there := by
  have rest (there : Progress × Supply) (same : there.1.left = here.1.left)
      (map : ∀ id, id ≠ link.1.2 → there.1.leftMap.object? id = here.1.leftMap.object? id) :
      Unpaired left later there := by
    obtain ⟨new, distinct⟩ := List.nodup_cons.1 unpaired.distinct
    refine ⟨same.trans unpaired.same, fun other member => unpaired.named other
      (List.mem_cons_of_mem _ member), distinct, fun other member => ?_⟩
    rw [map]
    · exact unpaired.free other (List.mem_cons_of_mem _ member)
    · rintro same
      exact new (List.mem_map.2 ⟨other, member, same⟩)
  have nameable : here.1.left.Nameable link.1.2 := by
    obtain ⟨entry, member, same⟩ := List.mem_map.1 (unpaired.named link List.mem_cons_self)
    exact same ▸ steady.left.sound.nameables entry (unpaired.same ▸ member)
  unfold Join.matchVariable
  refine Run.passes_demand fun source1 _ => Run.passes_demand fun source2 _ =>
    Run.ends_bind_of_ok (Run.state_apply _) ?_
  dsimp only
  split
  case isTrue => exact Run.ends_pure ⟨steady, rest here rfl fun _ _ => rfl⟩
  case isFalse =>
    refine (steady.objectName nameable.present nameable.proper
      (unpaired.free link List.mem_cons_self)).bind ?_
    rintro id ⟨progress, now⟩ ⟨steady, rfl, early, absent, shared⟩
    have placing : Placing low (here.1, now) link.1.2 id := ⟨steady, early, absent, shared⟩
    refine Run.ends_bind (fun _ there => ∃ dest, there = ({ here.1 with dest := dest }, now) ∧
        dest.Tame now.next ∧ ∀ {other}, dest.hasObject other = true →
          other = id ∨ here.1.dest.hasObject other = true)
      (passes_attemptDest fun dest done => ⟨dest, rfl, tames steady.dest absent early done⟩) ?_
    rintro _ _ ⟨dest, rfl, tame, more⟩
    refine placing.finish tame more fun there steady same map => ?_
    refine Run.ends_pure ⟨steady, rest there same fun id different => ?_⟩
    rw [map, if_neg different]

theorem matchEach (steady : Steady low here) (tames : Tames declare)
    (unpaired : Unpaired left (links ++ later) here) :
    Steadily low (Join.matchEach declare links) here fun found there =>
      found.isSome = true → Unpaired left later there := by
  induction links generalizing here with
  | nil => exact Run.ends_pure ⟨steady, fun _ => unpaired⟩
  | cons link rest ih =>
      unfold Join.matchEach
      refine (steady.matchVariable tames unpaired).bind ?_
      rintro (_ | pair) middle ⟨steady, unpaired⟩
      · exact Run.ends_pure ⟨steady, by simp⟩
      · refine (ih steady unpaired).bind ?_
        rintro found there ⟨steady, unpaired⟩
        exact Run.ends_pure ⟨steady, by simpa using unpaired⟩

theorem matchScopes (steady : Steady low here) (tames : Tames declare)
    {scope1 scope2 : Table String ObjectId}
    (unpaired : Unpaired left (scope1.toList.zip scope2.toList ++ later) here) :
    Steadily low (Join.matchScopes declare scope1 scope2) here fun found there =>
      found.isSome = true → Unpaired left later there := by
  unfold Join.matchScopes
  split
  case isTrue => exact steady.matchEach tames unpaired
  case isFalse => exact Run.ends_pure ⟨steady, by simp⟩

theorem matchFrames (steady : Steady low here) {frames : List (Frame × Frame)}
    (unpaired : Unpaired left (frameLinks frames) here) :
    Steadily low (Join.matchFrames frames) here fun _ _ => True := by
  induction frames generalizing here with
  | nil => exact Run.ends_pure ⟨steady, trivial⟩
  | cons both rest ih =>
      obtain ⟨frame1, frame2⟩ := both
      unfold Join.matchFrames
      split
      case isTrue => exact Run.ends_pure ⟨steady, trivial⟩
      case isFalse =>
        refine Run.ends_bind_of_ok (modifyDest_apply _ _) ?_
        have entered : Steady low
            ({ here.1 with dest := here.1.dest.enter frame1.function }, here.2) :=
          steady.withDest (steady.dest.enter frame1.function) fun present => present
        have still : Unpaired left
            (frame1.locals.toList.zip frame2.locals.toList ++ frameLinks rest)
            ({ here.1 with dest := here.1.dest.enter frame1.function }, here.2) :=
          ⟨unpaired.same, unpaired.named, unpaired.distinct, unpaired.free⟩
        refine (entered.matchScopes tames_local still).bind ?_
        rintro (_ | pairs) middle ⟨steady, later⟩
        · exact Run.ends_pure ⟨steady, trivial⟩
        · refine (ih steady (later rfl)).bind ?_
          rintro found there ⟨steady, -⟩
          exact Run.ends_pure ⟨steady, trivial⟩

theorem matchVariables (steady : Steady low here)
    (free : ∀ id, here.1.leftMap.object? id = none) :
    Steadily low Join.matchVariables here fun _ _ => True := by
  have ids : ((links here.1.left here.1.right).map fun link => link.1.2).Sublist
      (here.1.left.roots.map Prod.snd) := by
    have listed := (map_fst_links_sublist here.1.left here.1.right).map Prod.snd
    rwa [List.map_map] at listed
  have unpaired : Unpaired here.1.left (links here.1.left here.1.right) here :=
    ⟨rfl, fun link member => ids.subset (List.mem_map_of_mem member),
      steady.left.distinct.sublist ids, fun _ _ => free _⟩
  unfold Join.matchVariables
  refine Run.ends_bind_of_ok (Run.state_apply _) ?_
  refine (steady.matchScopes tames_global unpaired).bind ?_
  rintro (_ | globals) middle ⟨steady, later⟩
  · exact Run.ends_pure ⟨steady, trivial⟩
  · dsimp only
    split
    · exact Run.ends_pure ⟨steady, trivial⟩
    · refine (steady.matchFrames (later rfl)).bind ?_
      rintro found there ⟨steady, -⟩
      exact Run.ends_pure ⟨steady, trivial⟩

/-! ### The whole join -/

theorem start {left right : Graph} {supply : Supply} (tame1 : left.Tame supply.next)
    (tame2 : right.Tame supply.next) : Steady supply.next (.start left right, supply) where
  started := Nat.le_refl _
  left := tame1
  right := tame2
  dest := (Graph.Tame.initial left.machine).later tame1.positive
  levels := rfl
  joined isJoint := by simp [Progress.start] at isJoint
  named {id} present _ := by
    refine .inl ?_
    rcases Table.mem_keys_insert.1 (Table.mem_keys_iff.2 present) with null | none
    · exact null
    · simp [Table.keys] at none

theorem joinAll (steady : Steady low here) (free : ∀ id, here.1.leftMap.object? id = none) :
    Steadily low (Join.joinAll setting) here fun _ _ => True := by
  unfold Join.joinAll
  refine Run.ends_bind_of_ok (Run.ask_apply _ _) ?_
  refine (steady.matchVariables free).bind ?_
  rintro (_ | pairs) middle ⟨steady, -⟩
  · exact Run.ends_pure ⟨steady, trivial⟩
  · refine (steady.joinPairs _ pairs).bind ?_
    rintro joined last ⟨steady, -⟩
    cases joined with
    | false => exact Run.ends_pure ⟨steady, trivial⟩
    | true =>
        refine Run.ends_bind_of_ok (keepInequalities_of_unrelated steady.left.unrelated
          steady.right.unrelated) ?_
        split
        · exact Run.passes_demand fun _ _ => Run.ends_pure ⟨steady, trivial⟩
        · exact Run.ends_pure ⟨steady, trivial⟩

end Steady

end Join

/-- The join of two tame graphs is tame. -/
theorem Graph.Tame.join {left right dest : Graph} {supply now : Supply} {options : Options}
    {status : Status} (tame1 : left.Tame supply.next) (tame2 : right.Tame supply.next)
    (defined : left.join options right supply = .ok (.defined dest status) now) :
    dest.Tame now.next ∧ supply.next ≤ now.next := by
  obtain ⟨there, done, rfl, -, rfl⟩ := Graph.join_eq_defined_iff.1 defined
  have steady := (((Join.Steady.start tame1 tame2).joinAll fun _ => rfl).of_eq_ok done).1
  exact ⟨steady.dest, steady.started⟩

end ShapeDomain
