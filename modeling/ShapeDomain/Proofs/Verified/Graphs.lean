import ShapeDomain.Proofs.Join.Checking
import ShapeDomain.Proofs.Steady.Objects
import ShapeDomain.Proofs.Symmetry.Graphs
import ShapeDomain.Proofs.Verified.Invariant

/-!
# Joins pass their checks

A join that checks its work compares the layouts of objects once they are aligned, and in the end it
checks the destination.  When two consistent graphs are joined, both checks succeed wherever they
are made, so a join has the same outcome with and without them.
-/

namespace ShapeDomain

/-! ### Folding -/

namespace Graph

variable {graph : Graph}

theorem hasObject_of_removeObject {id other : ObjectId}
    (present : (graph.removeObject id).hasObject other = true) : graph.hasObject other = true := by
  cases proper : id.isNull with
  | true => simpa [removeObject, proper] using present
  | false =>
      rw [hasObject_removeObject proper, Bool.and_eq_true] at present
      exact present.2

/-- A graph is orderly after a part of a run, and its new objects were drawn meanwhile. -/
structure Reshaped (here there : Graph × Supply) : Prop where
  /-- The graph is orderly. -/
  orderly : there.1.Orderly
  /-- The supply moves on. -/
  time : here.2.next ≤ there.2.next
  /-- New objects were drawn. -/
  objects : ∀ {id}, there.1.hasObject id = true →
    here.1.hasObject id = true ∨ here.2.next ≤ id.index ∧ id.index < there.2.next

namespace Reshaped

variable {here there : Graph × Supply}

/-- The graph may change without new objects. -/
theorem change (reshaped : Reshaped here there) {next : Graph} (orderly : next.Orderly)
    (fewer : ∀ {id}, next.hasObject id = true → there.1.hasObject id = true) :
    Reshaped here (next, there.2) :=
  ⟨orderly, reshaped.time, fun present => reshaped.objects (fewer present)⟩

theorem setValid (reshaped : Reshaped here there) (id : ObjectId) (valid : Bool) :
    Run.Passes (Run.attempt fun graph => graph.setValid id valid) there fun _ last =>
      Reshaped here last := by
  refine Run.passes_attempt fun next done => reshaped.change (reshaped.orderly.setValid done) ?_
  intro other present
  obtain ⟨object, found⟩ := (Graph.hasObject_iff _).1 present
  rw [object?_of_setValid _ done] at found
  exact hasObject_of_object? found

theorem addField (reshaped : Reshaped here there) (field : Field) :
    Run.Passes (Run.attempt fun graph => graph.addField field) there fun _ last =>
      Reshaped here last := by
  refine Run.passes_attempt fun next done => reshaped.change (reshaped.orderly.addField done) ?_
  intro other present
  rwa [Graph.hasObject, objects_of_addField done] at present

theorem addPointer (reshaped : Reshaped here there) (pointer : Pointer) :
    Run.Passes (Run.attempt fun graph => graph.addPointer pointer) there fun _ last =>
      Reshaped here last := by
  refine Run.passes_attempt fun next done => reshaped.change (reshaped.orderly.addPointer done) ?_
  intro other present
  obtain ⟨-, -, rfl⟩ := addPointer_eq_ok_iff.1 done
  exact present

end Reshaped

end Graph

/-- Folding two nodes of an orderly graph. -/
theorem Fold.perform_reshapes {here : Graph × Supply} (fold : Fold) (orderly : here.1.Orderly)
    (drawn : ∀ {id}, here.1.hasObject id = true → id.index < here.2.next) :
    Run.Passes fold.perform here fun _ there => Graph.Reshaped here there := by
  unfold perform
  refine Run.ends_bind_of_ok (Run.ask_apply _ _) ?_
  split
  case h_1 => exact Run.ends_pure ⟨orderly, Nat.le_refl _, .inl⟩
  case h_2 parts _ =>
    refine Run.ends_bind_of_ok (Run.draw_objectId_apply _) ?_
    refine Run.ends_bind_of_ok (Run.state_apply _) (Run.ends_bind_of_ok (Run.modify_apply _ _) ?_)
    let cleared := ((here.1.removePointer parts.link.value).removeObject fold.head).removeObject
      fold.successor
    have fewer {other : ObjectId} (present : cleared.hasObject other = true) :
        here.1.hasObject other = true := by
      have before := Graph.hasObject_of_removeObject (Graph.hasObject_of_removeObject present)
      rwa [Graph.hasObject, Graph.objects_removePointer] at before
    have absent : cleared.hasObject ⟨here.2.next⟩ = false :=
      Bool.eq_false_iff.2 fun present => absurd (drawn (fewer present)) (Nat.lt_irrefl _)
    have made : Graph.Reshaped here
        (cleared.addHeapObject ⟨here.2.next⟩ (segment parts), ⟨here.2.next + 1⟩) := by
      rw [Graph.addHeapObject_of_absent absent]
      refine ⟨(((orderly.removePointer _).removeObject _).removeObject _).putNew absent _,
        Nat.le_succ _, fun {other} present => ?_⟩
      rw [Graph.hasObject_putPlacement, Bool.or_eq_true, decide_eq_true_eq] at present
      rcases present with rfl | old
      · exact .inr ⟨Nat.le_refl _, Nat.lt_succ_self _⟩
      · exact .inl (fewer old)
    refine (made.setValid _ _).bind fun _ _ valid => ?_
    refine (Run.ends_forM (Graph.Reshaped here) valid fun field _ _ reshaped =>
      reshaped.addField _).bind fun _ _ filled => ?_
    refine (Run.ends_forM (Graph.Reshaped here) filled fun pointer _ _ reshaped =>
      reshaped.addPointer _).bind fun _ _ led => ?_
    exact Run.ends_pure led

namespace Join

variable {here : Progress × Supply}

namespace Keeping

theorem doFolds (keeping : Keeping here) (folds : List Fold) : Keeps (Join.doFolds folds) here := by
  induction folds generalizing here with
  | nil => exact Run.ends_pure keeping
  | cons fold rest ih =>
      have performed : Keeps (onDest fold.perform) here := by
        refine Run.Ends.within (Fold.perform_reshapes fold keeping.dest keeping.drawn) ?_
          fun _ _ bad => bad
        rintro result ⟨dest, now⟩ ⟨orderly, after, objects⟩
        exact { keeping.later after here.1.status with
          dest := orderly
          drawn := fun present => (objects present).elim
            (fun old => Nat.lt_of_lt_of_le (keeping.drawn old) after) And.right
          named := fun present shared => (objects present).elim
            (fun old => keeping.named old shared)
            fun late => absurd (keeping.left.objects shared) (Nat.not_lt_of_le late.1) }
      unfold Join.doFolds
      refine performed.bind ?_
      rintro (_ | segment) middle keeping
      · exact Run.ends_pure keeping
      · exact (keeping.retarget fold segment).bind fun _ _ keeping => ih keeping

end Keeping

/-! ### Layouts -/

/-- A graph can be aligned again after one of its objects was aligned. -/
theorem Alignable.aligned {origin graph : Graph} {first last : Nat} {object : ObjectId}
    {slots : BitRange → Alignment.Slot} {drawn : Nat → Prop} (alignable : Alignable origin first)
    (laid : Alignment.Laid first object origin slots drawn graph) (ordered : first ≤ last)
    (early : ∀ index, drawn index → index < last) : Alignable graph last where
  tiled := laid.tiled
  held {other range value} held := by
    by_cases same : other = object
    · exact laid.lt_of_held ordered early (same ▸ held)
    · rw [Graph.valueAt?_congr (laid.others other same)] at held
      exact Nat.lt_of_lt_of_le (alignable.held held) ordered
  objects present := by
    rw [Graph.hasObject, laid.relaid.objects] at present
    exact Nat.lt_of_lt_of_le (alignable.objects present) ordered

/-- Aligning two objects goes through, and then they have the same layout. -/
theorem Keeping.align (keeping : Keeping here) {object1 object2 : ObjectId}
    {source1 source2 : Object} (found1 : here.1.left.object? object1 = some source1)
    (found2 : here.1.right.object? object2 = some source2) (size : source1.size = source2.size) :
    Run.Ends (onSides (Alignment.align object1 object2)) here
      (fun _ there => Keeping there ∧ SameRanges there.1.left there.1.right object1 object2)
      (fun _ _ => False) := by
  refine Run.Ends.within (Alignment.align_ends keeping.positive found1 found2 size
    keeping.left.tiled keeping.right.tiled (fun _ _ => keeping.left.held)
    fun _ _ => keeping.right.held) ?_ fun _ _ none => none
  rintro status ⟨⟨left, right⟩, now⟩ ⟨-, drawn1, drawn2, aligned⟩
  have moved := keeping.later aligned.ordered here.1.status
  refine ⟨{ moved with
    left := keeping.left.aligned aligned.layout1 aligned.ordered fun index isDrawn =>
      ((aligned.drawn index).1 (.inl isDrawn)).2
    right := keeping.right.aligned aligned.layout2 aligned.ordered fun index isDrawn =>
      ((aligned.drawn index).1 (.inr isDrawn)).2
    named := fun {id} present shared => keeping.named present ?_ }, sameRanges_of_aligned aligned⟩
  rw [← shared, Graph.hasObject, Graph.hasObject, ← aligned.layout1.relaid.objects]

/-! ### With and without checks -/

/-- Two computations have the same outcome, and keep what a join keeps. -/
structure Tallies {α : Type} (checked unchecked : Run Progress α) (here : Progress × Supply) :
    Prop where
  /-- The outcome is the same. -/
  same : checked here = unchecked here
  /-- What a join keeps is kept. -/
  keeps : Keeps unchecked here

section Tallies

variable {α β : Type}

theorem tallies_of_keeps {computation : Run Progress α} (keeps : Keeps computation here) :
    Tallies computation computation here :=
  ⟨rfl, keeps⟩

theorem tallies_pure (keeping : Keeping here) (result : α) :
    Tallies (pure result) (pure result) here :=
  tallies_of_keeps (Run.ends_pure keeping)

theorem Tallies.bind {first1 first2 : Run Progress β} {next1 next2 : β → Run Progress α}
    (start : Tallies first1 first2 here)
    (rest : ∀ result there, Keeping there → Tallies (next1 result) (next2 result) there) :
    Tallies (first1 >>= next1) (first2 >>= next2) here := by
  have keeps := start.keeps
  cases done : first2 here with
  | error fault there =>
      have stopped : first1 here = .error fault there := start.same.trans done
      exact ⟨(Run.bind_apply_error stopped).trans (Run.bind_apply_error done).symm,
        Run.passes_of_error (Run.bind_apply_error done)⟩
  | ok result there =>
      have done1 : first1 here = .ok result there := start.same.trans done
      have later := rest result there (keeps.of_eq_ok done)
      exact ⟨(Run.bind_apply_ok done1).trans (later.same.trans (Run.bind_apply_ok done).symm),
        Run.ends_bind_of_ok done later.keeps⟩

/-- Two computations that start alike. -/
theorem tallies_bind {first : Run Progress β} {next1 next2 : β → Run Progress α}
    (keeps : Keeps first here)
    (rest : ∀ result there, Keeping there → Tallies (next1 result) (next2 result) there) :
    Tallies (first >>= next1) (first >>= next2) here :=
  (tallies_of_keeps keeps).bind rest

/-- A first step whose outcome is known is skipped. -/
theorem tallies_bind_of_ok {first : Run Progress β} {next1 next2 : β → Run Progress α} {result : β}
    {there : Progress × Supply} (done : first here = .ok result there)
    (rest : Tallies (next1 result) (next2 result) there) :
    Tallies (first >>= next1) (first >>= next2) here :=
  ⟨(Run.bind_apply_ok done).trans (rest.same.trans (Run.bind_apply_ok done).symm),
    Run.ends_bind_of_ok done rest.keeps⟩

/-- A question that is answered does not change the state. -/
theorem tallies_demand {question : Progress → Except Fault β} {next1 next2 : β → Run Progress α}
    (rest : ∀ answer, question here.1 = .ok answer → Tallies (next1 answer) (next2 answer) here) :
    Tallies (Run.demand question >>= next1) (Run.demand question >>= next2) here := by
  cases given : question here.1 with
  | ok answer => exact tallies_bind_of_ok (Run.demand_apply_ok given) (rest answer given)
  | error fault =>
      have refused : Run.demand question here = .error fault here := Run.demand_apply_error given
      have stopped1 : (Run.demand question >>= next1) here = .error fault here :=
        Run.bind_apply_error refused
      have stopped2 : (Run.demand question >>= next2) here = .error fault here :=
        Run.bind_apply_error refused
      exact ⟨stopped1.trans stopped2.symm, Run.passes_of_error stopped2⟩

/-- A check that succeeds may be left out. -/
theorem tallies_check {question : Progress → Except Fault Unit} {verify : Bool}
    {next1 : Unit → Run Progress α} {next2 : Run Progress α} (passed : question here.1 = .ok ())
    (rest : Tallies (next1 ()) next2 here) :
    Tallies (if verify then Run.demand question >>= next1 else next1 ()) next2 here := by
  cases verify with
  | false => exact rest
  | true =>
      exact ⟨(Run.bind_apply_ok (Run.demand_apply_ok passed)).trans rest.same, rest.keeps⟩

end Tallies

/-! ### Fields -/

variable {setting : Setting} {descend1 descend2 : Descend} {pair : ObjectPair}
variable {source1 source2 : Object} {levelDiff : Int} {holderLevel : Level}

/-- Going down from a pair of objects has the same outcome with and without checks. -/
def DescendsAlike (descend1 descend2 : Descend) : Prop :=
  ∀ {here} object1 object2 dest levelDiff, Keeping here →
    Tallies (descend1 object1 object2 dest levelDiff) (descend2 object1 object2 dest levelDiff) here

namespace Keeping

theorem joinAddresses (keeping : Keeping here) (alike : DescendsAlike descend1 descend2)
    (value1 value2 : ValueId) (target1 target2 : Target) :
    Tallies
      (Join.joinAddresses setting descend1 value1 value2 target1 target2 levelDiff holderLevel)
      (Join.joinAddresses setting.unchecked descend2 value1 value2 target1 target2 levelDiff
        holderLevel) here := by
  unfold Join.joinAddresses
  split
  case isTrue => exact tallies_of_keeps (keeping.noJoin setting)
  case isFalse =>
    refine tallies_bind (keeping.destination _ _) fun found middle keeping => ?_
    cases found with
    | none => exact tallies_of_keeps (keeping.noJoin setting)
    | some found =>
        refine tallies_demand fun object _ => tallies_demand fun joint _ => ?_
        cases joint with
        | none => exact tallies_of_keeps (keeping.noJoin setting)
        | some specifier =>
            refine tallies_bind (keeping.addressName _) fun dest _ keeping => ?_
            refine tallies_bind (keeping.pairValues dest) fun _ _ keeping => ?_
            cases found with
            | known => exact tallies_pure keeping _
            | made id =>
                refine (alike _ _ _ _ keeping).bind fun joined _ keeping => ?_
                cases joined with
                | false => exact tallies_pure keeping _
                | true =>
                    exact tallies_bind (keeping.foldAt setting id) fun _ _ keeping =>
                      tallies_pure keeping _

theorem joinValuePair (keeping : Keeping here) (alike : DescendsAlike descend1 descend2)
    (value1 value2 : ValueId) (size : Nat) :
    Tallies (Join.joinValuePair setting descend1 value1 value2 size levelDiff holderLevel)
      (Join.joinValuePair setting.unchecked descend2 value1 value2 size levelDiff holderLevel)
      here := by
  unfold Join.joinValuePair
  refine tallies_bind_of_ok (Run.state_apply _) ?_
  split
  · exact tallies_pure keeping _
  · split
    · exact tallies_pure keeping _
    · split
      · exact tallies_of_keeps (keeping.joinNumbers size levelDiff)
      · exact keeping.joinAddresses alike _ _ _ _
      · exact tallies_of_keeps (keeping.noJoin setting)

theorem joinField (keeping : Keeping here) (alike : DescendsAlike descend1 descend2)
    (field : Field) :
    Tallies (Join.joinField setting descend1 pair source1 source2 levelDiff holderLevel field)
      (Join.joinField setting.unchecked descend2 pair source1 source2 levelDiff holderLevel field)
      here := by
  unfold Join.joinField
  refine tallies_demand fun value2 _ => tallies_demand fun level1 _ =>
    tallies_demand fun level2 _ => ?_
  refine tallies_bind (keeping.mapLevels _ _) fun mapped _ keeping => ?_
  split
  case isTrue =>
    refine (keeping.joinValuePair alike _ _ _).bind fun joined _ keeping => ?_
    cases joined with
    | joined value fold =>
        exact tallies_bind (keeping.store _) fun _ _ keeping => tallies_pure keeping _
    | undefined recoverable => cases recoverable <;> exact tallies_pure keeping _
  case isFalse => exact tallies_pure keeping _

theorem joinFields (keeping : Keeping here) {join1 join2 : Field → Run Progress FieldJoin}
    (each : ∀ {here} field, Keeping here → Tallies (join1 field) (join2 field) here)
    (fields : List Field) (harvest : Harvest) :
    Tallies (Join.joinFields join1 fields harvest) (Join.joinFields join2 fields harvest) here := by
  induction fields generalizing here harvest with
  | nil => exact tallies_pure keeping _
  | cons field rest ih =>
      unfold Join.joinFields
      refine (each field keeping).bind fun joined _ keeping => ?_
      cases joined with
      | stored value fold => exact ih keeping _
      | missing => exact ih keeping _
      | refused => exact tallies_pure keeping _

/-! ### Objects -/

/-- Joining two objects: their layouts are checked when they are the same. -/
theorem joinContents (keeping : Keeping here) (alike : DescendsAlike descend1 descend2) :
    Tallies (Join.joinContents setting descend1 pair levelDiff)
      (Join.joinContents setting.unchecked descend2 pair levelDiff) here := by
  unfold Join.joinContents
  refine tallies_demand fun source1 found1 => tallies_demand fun source2 found2 => ?_
  rw [Graph.object_eq_ok_iff] at found1 found2
  split
  case isTrue => exact tallies_pure keeping _
  case isFalse size =>
    cases done : onSides (Alignment.align pair.object1 pair.object2) here with
    | error fault there =>
        exact ((keeping.align found1 found2 (by simpa using size)).of_eq_error done).elim
    | ok status aligned =>
        obtain ⟨keeping, ranges⟩ :=
          (keeping.align found1 found2 (by simpa using size)).of_eq_ok done
        refine tallies_bind_of_ok done (tallies_bind_of_ok (lower_apply status aligned) ?_)
        refine tallies_check (SameRanges.check ranges) ?_
        refine tallies_demand fun holderLevel _ => tallies_bind_of_ok (Run.ask_apply _ _) ?_
        refine ((keeping.later (Nat.le_refl _) _).joinFields
          (fun field keeping => keeping.joinField alike field) _ _).bind fun harvest _ keeping => ?_
        cases harvest with
        | none => exact tallies_pure keeping _
        | some harvest =>
            dsimp only
            split
            · exact tallies_of_keeps (keeping.doFolds _)
            · exact tallies_pure keeping _

theorem incomparable (keeping : Keeping here) :
    Keeps (Run.modify fun progress => { progress with status := Status.incomparable }) here :=
  Run.ends_of_ok (Run.modify_apply _ _) (keeping.later (Nat.le_refl _) _)

/-- Joining two objects and all that they lead to, by induction on how deep the join may go. -/
theorem joinObjects (keeping : Keeping here) (depth : Nat) (pair : ObjectPair) (levelDiff : Int) :
    Tallies (Join.joinObjects setting depth pair levelDiff)
      (Join.joinObjects setting.unchecked depth pair levelDiff) here := by
  induction depth generalizing here pair levelDiff with
  | zero => exact tallies_bind keeping.incomparable fun _ _ keeping => tallies_pure keeping _
  | succ depth ih =>
      unfold Join.joinObjects joinObjectsWith
      refine (keeping.joinContents fun _ _ _ _ keeping => ih keeping _ _).bind
        fun joined _ keeping => ?_
      cases joined with
      | true => exact tallies_pure keeping _
      | false => exact tallies_bind keeping.incomparable fun _ _ keeping => tallies_pure keeping _

theorem joinPairs (keeping : Keeping here) (depth : Nat) (pairs : List ObjectPair) :
    Tallies (Join.joinPairs setting depth pairs) (Join.joinPairs setting.unchecked depth pairs)
      here := by
  induction pairs generalizing here with
  | nil => exact tallies_pure keeping _
  | cons pair rest ih =>
      unfold Join.joinPairs
      refine (keeping.joinObjects depth pair 0).bind fun joined middle keeping => ?_
      cases joined with
      | true => exact ih keeping
      | false =>
          refine tallies_of_keeps (Run.ends_bind_of_ok (Run.ask_apply _ _) ?_)
          split
          · exact Run.ends_pure keeping
          · exact Run.passes_of_error (Run.throw_apply _ _)

end Keeping

/-! ### Variables -/

/-- What a join keeps while the variables are paired, when nothing has a field yet. -/
structure Starting (here : Progress × Supply) : Prop extends Keeping here where
  /-- There are no layouts. -/
  bare : here.1.dest.layouts = ∅

/-- What puts a variable into an orderly graph without fields keeps it orderly, even if the name of
its object is in use: two variables may name one object. -/
def Admits (declare : Declare) : Prop :=
  ∀ {dest next name id object}, dest.Orderly → dest.layouts = ∅ →
    declare name id object dest = .ok next → next.Orderly ∧ next.layouts = ∅ ∧
      ∀ {other}, next.hasObject other = true → other = id ∨ dest.hasObject other = true

theorem admits_global : Admits fun name id object graph =>
    .ok (graph.declareGlobal name id object) := by
  rintro dest _ name id object orderly bare ⟨⟩
  exact ⟨(orderly.addObject bare id object).declareGlobal, bare,
    fun present => hasObject_addObject present⟩

theorem admits_local : Admits fun name id object graph => graph.declareLocal name id object := by
  intro dest next name id object orderly bare done
  refine ⟨(orderly.addObject bare id object).declareLocal done, ?_⟩
  obtain ⟨frame, outer, -, rfl⟩ := Graph.declareLocal_eq_ok done
  exact ⟨bare, fun present => hasObject_addObject present⟩

namespace Starting

variable {declare : Declare}

theorem matchVariable (starting : Starting here) (admits : Admits declare) (name : String)
    (object1 object2 : ObjectId) :
    Run.Passes (Join.matchVariable declare name object1 object2) here fun _ there =>
      Starting there := by
  unfold Join.matchVariable
  refine Run.passes_demand fun source1 found1 => Run.passes_demand fun source2 _ =>
    Run.ends_bind_of_ok (Run.state_apply _) ?_
  have present := Graph.hasObject_of_object? ((Graph.object_eq_ok_iff _).1 found1)
  dsimp only
  split
  case isTrue => exact Run.ends_pure starting
  case isFalse =>
    refine (starting.objectName present).bind ?_
    rintro id ⟨progress, now⟩ ⟨keeping, rfl, early, shared, -⟩
    refine Run.ends_bind (fun _ there => ∃ dest, there = ({ here.1 with dest := dest }, now) ∧
        dest.Orderly ∧ dest.layouts = ∅ ∧ ∀ {other}, dest.hasObject other = true →
          other = id ∨ here.1.dest.hasObject other = true)
      (passes_attemptDest fun dest done => ⟨dest, rfl, admits starting.dest starting.bare done⟩) ?_
    rintro _ _ ⟨dest, rfl, orderly, bare, more⟩
    exact keeping.place orderly more early shared fun there keeping same =>
      Run.ends_pure { keeping with bare := same.trans bare }

theorem matchEach (starting : Starting here) (admits : Admits declare)
    (links : List ((String × ObjectId) × (String × ObjectId))) :
    Run.Passes (Join.matchEach declare links) here fun _ there => Starting there := by
  induction links generalizing here with
  | nil => exact Run.ends_pure starting
  | cons link rest ih =>
      unfold Join.matchEach
      refine (starting.matchVariable admits _ _ _).bind ?_
      rintro (_ | pair) middle starting
      · exact Run.ends_pure starting
      · exact (ih starting).bind fun _ _ starting => Run.ends_pure starting

theorem matchScopes (starting : Starting here) (admits : Admits declare)
    (scope1 scope2 : Table String ObjectId) :
    Run.Passes (Join.matchScopes declare scope1 scope2) here fun _ there => Starting there := by
  unfold Join.matchScopes
  split
  · exact starting.matchEach admits _
  · exact Run.ends_pure starting

theorem matchFrames (starting : Starting here) (frames : List (Frame × Frame)) :
    Run.Passes (Join.matchFrames frames) here fun _ there => Starting there := by
  induction frames generalizing here with
  | nil => exact Run.ends_pure starting
  | cons both rest ih =>
      obtain ⟨frame1, frame2⟩ := both
      unfold Join.matchFrames
      split
      case isTrue => exact Run.ends_pure starting
      case isFalse =>
        refine Run.ends_bind_of_ok (modifyDest_apply _ _) ?_
        have entered : Starting
            ({ here.1 with dest := here.1.dest.enter frame1.function }, here.2) :=
          { starting.withDest (starting.dest.enter _) fun present => present with
            bare := starting.bare }
        refine (entered.matchScopes admits_local _ _).bind ?_
        rintro (_ | pairs) middle starting
        · exact Run.ends_pure starting
        · exact (ih starting).bind fun _ _ starting => Run.ends_pure starting

theorem matchVariables (starting : Starting here) : Keeps Join.matchVariables here := by
  unfold Join.matchVariables
  refine Run.ends_bind_of_ok (Run.state_apply _) ?_
  refine (starting.matchScopes admits_global _ _).bind ?_
  rintro (_ | globals) middle starting
  · exact Run.ends_pure starting.toKeeping
  · dsimp only
    split
    · exact Run.ends_pure starting.toKeeping
    · exact (starting.matchFrames _).bind fun _ _ starting => Run.ends_pure starting.toKeeping

end Starting

/-! ### The whole join -/

namespace Keeping

theorem keepInequalities (keeping : Keeping here) : Keeps Join.keepInequalities here := by
  have lowered {there : Progress × Supply} (keeping : Keeping there) (skip : Bool)
      (status : Status) : Keeps (unless skip do Join.lower status) there := by
    cases skip with
    | true => exact Run.ends_pure keeping
    | false => exact keeping.lower status
  have related (pairs : List (ValueId × ValueId)) : Keeping ({ here.1 with
      dest := pairs.foldl (fun graph pair => graph.addInequality pair.1 pair.2) here.1.dest },
      here.2) := by
    obtain ⟨orderly, objects⟩ := keeping.dest.addInequalities pairs
    refine keeping.withDest orderly fun present => ?_
    rwa [Graph.hasObject, objects] at present
  unfold Join.keepInequalities
  refine Run.ends_bind_of_ok (Run.state_apply _) (Run.ends_bind_of_ok (modifyDest_apply _ _) ?_)
  dsimp only
  split
  · exact lowered (related _) _ _
  · exact ((related _).lower _).bind fun _ _ keeping => lowered keeping _ _

theorem start {left right : Graph} {supply : Supply} (positive : 0 < supply.next)
    (left_alignable : Alignable left supply.next) (right_alignable : Alignable right supply.next) :
    Starting (.start left right, supply) := by
  have null {id : ObjectId} (present : (Graph.initial left.machine).hasObject id = true) :
      id = .null := by
    rcases Table.mem_keys_insert.1 (Table.mem_keys_iff.2 present) with null | none
    · exact null
    · simp [Table.keys] at none
  exact
    { left := left_alignable
      right := right_alignable
      dest := Graph.orderly_initial left.machine
      drawn := fun present => null present ▸ positive
      named := fun present _ => .inl (null present)
      bare := rfl }

end Keeping

/-- Joining all that the variables reach: the destination is checked when it is orderly. -/
theorem Starting.joinAll (starting : Starting here) (setting : Setting) :
    Tallies (Join.joinAll setting) (Join.joinAll setting.unchecked) here := by
  unfold Join.joinAll
  refine tallies_bind_of_ok (Run.ask_apply _ _) ?_
  refine tallies_bind starting.matchVariables fun paired _ keeping => ?_
  cases paired with
  | none => exact tallies_pure keeping _
  | some pairs =>
      refine (keeping.joinPairs _ pairs).bind fun joined _ keeping => ?_
      cases joined with
      | false => exact tallies_pure keeping _
      | true =>
          refine tallies_bind keeping.keepInequalities fun _ _ keeping => ?_
          exact tallies_check keeping.dest.consistent (tallies_pure keeping _)

end Join

namespace Graph

variable {left right : Graph} {supply : Supply}

theorem DrawnBefore.alignable {graph : Graph} {position : Nat} (drawn : graph.DrawnBefore position)
    (consistent : graph.Consistent) (exact : graph.ExactFields) :
    Join.Alignable graph position where
  tiled := consistent.checked.tiled exact
  held held := drawn.held consistent.checked exact.inReach held
  objects present := drawn.1 _ (Table.mem_keys_iff.2 present)

/-- Two consistent graphs have the same join, drawn from the same supply, whether or not the join
checks its work, and the graph that it makes is consistent. -/
theorem join_consistent (options : Options) (consistent1 : left.Consistent)
    (consistent2 : right.Consistent) (exact1 : left.ExactFields) (exact2 : right.ExactFields)
    (drawn1 : left.DrawnBefore supply.next) (drawn2 : right.DrawnBefore supply.next) :
    left.join { options with verify := true } right supply =
        left.join { options with verify := false } right supply ∧
      ∀ dest status now, left.join options right supply = .ok (.defined dest status) now →
        dest.Consistent := by
  have positive : 0 < supply.next :=
    drawn1.2.1 .zero (Table.mem_keys_iff.2 (hasValue_of_target? consistent1.checked.zero))
  have starting := Join.Keeping.start positive (drawn1.alignable consistent1 exact1)
    (drawn2.alignable consistent2 exact2)
  have tallies (verify : Bool) :=
    starting.joinAll ⟨{ options with verify := verify }, left == right⟩
  constructor
  · rw [join_apply, join_apply, (tallies true).same]
    rfl
  · intro dest status now defined
    obtain ⟨there, done, rfl, -, -⟩ := join_eq_defined_iff.1 defined
    have same := (tallies options.verify).same
    exact ((tallies options.verify).keeps.of_eq_ok (same.symm.trans done)).dest.consistent

end Graph

theorem join_consistent_variable : ∃ dest now,
    unknownVariable.join { verify := true } numberVariable ⟨4⟩ =
        .ok (.defined dest .rightEntail) now ∧
      unknownVariable.join { verify := false } numberVariable ⟨4⟩ =
        .ok (.defined dest .rightEntail) now ∧ dest.Consistent := by
  obtain ⟨dest, now, joined⟩ : ∃ dest now, unknownVariable.join { verify := false }
      numberVariable ⟨4⟩ = .ok (.defined dest .rightEntail) now := ⟨_, _, by cbv⟩
  obtain ⟨same, consistent⟩ := @Graph.join_consistent unknownVariable numberVariable ⟨4⟩
    { verify := false } (by decide +kernel) (by decide +kernel) (by decide +kernel)
    (by decide +kernel) (by decide) (by decide)
  exact ⟨dest, now, same.trans joined, joined, consistent dest _ now joined⟩

end ShapeDomain
