import Mathlib.Data.List.Zip
import ShapeDomain.Join.Variable
import ShapeDomain.Proofs.Symmetry.Objects

/-!
# Mirrored pairing of variables

Two mirrored joins pair the same variables.
-/

namespace ShapeDomain

namespace Join

variable {scene : Scene} {rename : ValueId → ValueId} {pending : Pending}
variable {here there : Progress × Supply} {except1 except2 : ObjectId → Prop}

/-- A way of declaring a variable that does the same to alike graphs. -/
structure Declares (shift : Shift) (declare : Declare) : Prop where
  /-- Alike graphs stay alike, whatever the variable is labelled. -/
  tracks : ∀ (name : String) (id : ObjectId) (object object' : Object) (graph other : Graph),
    Graph.Alike shift graph other → object'.unlabelled = object.unlabelled →
    Graph.Tracks shift (declare name id object graph) (declare name (shift.object id) object' other)
  /-- Values stay as they are. -/
  values : ∀ (name : String) (id : ObjectId) (object : Object) (graph next : Graph),
    declare name id object graph = .ok next → next.values = graph.values
  /-- So do layouts. -/
  layouts : ∀ (name : String) (id : ObjectId) (object : Object) (graph next : Graph),
    declare name id object graph = .ok next → next.layouts = graph.layouts

theorem declares_global (shift : Shift) :
    Declares shift fun name id object graph => .ok (graph.declareGlobal name id object) where
  tracks name id object object' graph other alike same :=
    Graph.Tracks.ok (alike.declareGlobal name id same)
  values name id object graph next done := by
    rw [← Except.ok.inj done]
    rfl
  layouts name id object graph next done := by
    rw [← Except.ok.inj done]
    rfl

theorem declares_local (shift : Shift) :
    Declares shift fun name id object graph => graph.declareLocal name id object where
  tracks name id object object' graph other alike same := alike.declareLocal name id same
  values name id object graph next done := by
    unfold Graph.declareLocal at done
    split at done
    · simp at done
    · rw [← Except.ok.inj done]
      rfl
  layouts name id object graph next done := by
    unfold Graph.declareLocal at done
    split at done
    · simp at done
    · rw [← Except.ok.inj done]
      rfl

/-- Whether both objects of a pair have counterparts. -/
def Paired (progress : Progress) (pair : ObjectPair) : Prop :=
  (progress.leftMap.object? pair.object1).isSome = true ∧
    (progress.rightMap.object? pair.object2).isSome = true

theorem Paired.later {rename' : ValueId → ValueId} {pair : ObjectPair}
    (later : Later except1 except2 rename here rename' there) (paired : Paired here.1 pair) :
    Paired there.1 pair :=
  ⟨later.left _ paired.1, later.right _ paired.2⟩

/-- Two variables are paired in both joins, or in none. -/
theorem twin_matchVariable {declare : Declare} (declares : Declares scene.shift declare)
    (mirror : Mirror scene rename .nothing here there) (name : String)
    (object1 object2 : ObjectId) :
    Twin scene (matchVariable declare name object1 object2)
      (matchVariable declare name object2 object1) rename here there except1 except2
      (fun _ => .nothing) fun pair pair' end1 =>
        pair' = pair.map (ObjectPair.mirror scene.shift) ∧
          ∀ found, pair = some found → Paired end1.1 found := by
  unfold matchVariable
  refine twin_demands (mirror.left.object object1) (mirror.right.object object2) ?_
  intro source1 source2 found1 found2
  have early : object1.index < scene.shift.start := by
    rw [mirror.left.relaid.object] at found1
    exact scene.leftOrigin.objects object1 source1 ((Graph.object_eq_ok_iff _).1 found1)
  refine twin_bind_of_ok (Run.state_apply _) (Run.state_apply _) ?_
  simp only [mirror.left.isValid, mirror.right.isValid]
  by_cases alike : source1.size ≠ source2.size ∨
      here.1.left.isValid object1 ≠ here.1.right.isValid object2
  case pos =>
    rw [if_pos alike, if_pos (alike.imp Ne.symm Ne.symm)]
    exact twin_pure mirror ⟨rfl, fun found none => by simp at none⟩
  case neg =>
    have size : source1.size = source2.size :=
      Classical.not_not.1 fun different => alike (.inl different)
    have valid : here.1.left.isValid object1 = here.1.right.isValid object2 :=
      Classical.not_not.1 fun different => alike (.inr different)
    rw [if_neg alike, if_neg fun other => alike (other.imp Ne.symm Ne.symm), ← size, ← valid]
    refine (twin_objectName mirror early).bind ?_
    rintro id _ rename1 end1 end1' _ mirror1 ⟨rfl, -⟩
    refine (twin_attemptDest .nothing mirror1
      (declares.tracks name id (.region source1.size source1.label)
        (.region source1.size source2.label) _ _ mirror1.dest rfl) ?_).bind ?_
    · intro next nextOther done done'
      exact ⟨mirror1.numbers.of_eq (declares.values _ _ _ _ _ done)
          (declares.layouts _ _ _ _ _ done) (declares.values _ _ _ _ _ done'),
        mirror1.knows.of_eq (declares.values _ _ _ _ _ done) (declares.layouts _ _ _ _ _ done)⟩
    intro _ _ rename2 end2 end2' _ mirror2 _
    refine (twin_setValid mirror2 id _).bind ?_
    intro _ _ rename3 end3 end3' _ mirror3 _
    refine (twin_pairObjects mirror3 object1 object2 id).bind ?_
    intro _ _ rename4 end4 end4' _ mirror4 paired
    refine twin_pure mirror4 ⟨rfl, fun found isFound => ?_⟩
    rw [← Option.some.inj isFound, paired]
    constructor
    · show ((end3.1.leftMap.setObject object1 id).object? object1).isSome = true
      simp [Correspondence.object?_setObject]
    · show ((end3.1.rightMap.setObject object2 id).object? object2).isSome = true
      simp [Correspondence.object?_setObject]

/-- The pairs of objects that were found, in the other join. -/
def mirrorPairs (shift : Shift) (pairs : List ObjectPair) : List ObjectPair :=
  pairs.map (ObjectPair.mirror shift)

/-- The same pairs were found in both joins, and their objects have counterparts. -/
def SamePairs (shift : Shift) (found found' : Option (List ObjectPair))
    (end1 : Progress × Supply) : Prop :=
  found' = found.map (mirrorPairs shift) ∧
    ∀ pairs, found = some pairs → ∀ pair ∈ pairs, Paired end1.1 pair

theorem samePairs_none {shift : Shift} : SamePairs shift Option.none Option.none here :=
  ⟨rfl, fun pairs none => by simp at none⟩

/-- Pairs that were found and others that are found later. -/
theorem samePairs_append {shift : Shift} {rename' : ValueId → ValueId} (pairs : List ObjectPair)
    {others : Option (List ObjectPair)} (later : Later except1 except2 rename here rename' there)
    (paired : ∀ found, some pairs = some found → ∀ pair ∈ found, Paired here.1 pair)
    (pairedRest : ∀ found, others = some found → ∀ pair ∈ found, Paired there.1 pair) :
    SamePairs shift (others.map (pairs ++ ·))
      ((others.map (mirrorPairs shift)).map (mirrorPairs shift pairs ++ ·)) there := by
  cases others with
  | none => exact samePairs_none
  | some others =>
      refine ⟨by simp only [Option.map_some, mirrorPairs, List.map_append], ?_⟩
      intro all isAll pair member
      rw [← Option.some.inj isAll] at member
      rcases List.mem_append.1 member with early | late
      · exact (paired pairs rfl pair early).later later
      · exact pairedRest others rfl pair late

theorem twin_matchEach {declare : Declare} (declares : Declares scene.shift declare)
    (mirror : Mirror scene rename .nothing here there)
    {matching : List ((String × ObjectId) × (String × ObjectId))}
    (named : ∀ both ∈ matching, both.1.1 = both.2.1) :
    Twin scene (matchEach declare matching) (matchEach declare (matching.map Prod.swap)) rename
      here there except1 except2 (fun _ => .nothing) fun found found' end1 =>
        SamePairs scene.shift found found' end1 := by
  induction matching generalizing rename here there with
  | nil => exact twin_pure mirror ⟨rfl, fun pairs isNil pair member => by simp_all⟩
  | cons both rest ih =>
      obtain ⟨⟨name, object1⟩, ⟨name', object2⟩⟩ := both
      obtain rfl : name = name' := named _ List.mem_cons_self
      simp only [List.map_cons, Prod.swap_prod_mk, matchEach]
      refine (twin_matchVariable declares mirror name object1 object2).bind ?_
      rintro pair _ rename1 end1 end1' _ mirror1 ⟨rfl, paired⟩
      cases pair with
      | none => exact twin_pure mirror1 samePairs_none
      | some pair =>
          refine (ih mirror1 fun both member => named both (List.mem_cons_of_mem _ member)).bind ?_
          rintro pairs _ rename2 end2 end2' later2 mirror2 ⟨rfl, pairedRest⟩
          refine twin_pure mirror2 (samePairs_append [pair] later2 ?_ pairedRest)
          intro pairs isPairs found member
          rw [← Option.some.inj isPairs, List.mem_singleton] at member
          exact paired found (congrArg some member.symm)

theorem twin_matchScopes {declare : Declare} (declares : Declares scene.shift declare)
    (mirror : Mirror scene rename .nothing here there) (scope1 scope2 : Table String ObjectId) :
    Twin scene (matchScopes declare scope1 scope2) (matchScopes declare scope2 scope1) rename
      here there except1 except2 (fun _ => .nothing) fun found found' end1 =>
        SamePairs scene.shift found found' end1 := by
  unfold matchScopes
  by_cases same : scope1.keys = scope2.keys
  case neg =>
    rw [if_neg same, if_neg (Ne.symm same)]
    exact twin_pure mirror samePairs_none
  case pos =>
    rw [if_pos same, if_pos same.symm, ← List.zip_swap scope1.toList scope2.toList]
    refine twin_matchEach declares mirror fun both member => ?_
    obtain ⟨position, found⟩ := List.mem_iff_getElem?.1 member
    have first := congrArg (Option.map Prod.fst) found
    rw [List.getElem?_zip_eq_some] at found
    have names : scope1.keys[position]? = scope2.keys[position]? := by rw [same]
    rw [Table.keys, Table.keys, List.getElem?_map, List.getElem?_map, found.1, found.2] at names
    exact Option.some.inj names

theorem twin_enter (mirror : Mirror scene rename .nothing here there) (function : String) :
    Twin scene (modifyDest fun graph => graph.enter function)
      (modifyDest fun graph => graph.enter function) rename here there except1 except2
      (fun _ => .nothing) fun _ _ _ => True :=
  (twin_modifyDest mirror (mirror.dest.enter function) (mirror.numbers.of_eq rfl rfl rfl)
    (mirror.knows.of_eq rfl rfl)).mono (fun _ => rfl) fun _ _ _ _ => trivial

theorem twin_matchFrames (mirror : Mirror scene rename .nothing here there)
    (frames : List (Frame × Frame)) :
    Twin scene (matchFrames frames) (matchFrames (frames.map Prod.swap)) rename here there except1
      except2 (fun _ => .nothing) fun found found' end1 =>
        SamePairs scene.shift found found' end1 := by
  induction frames generalizing rename here there with
  | nil => exact twin_pure mirror ⟨rfl, fun pairs isNil pair member => by simp_all⟩
  | cons both rest ih =>
      obtain ⟨frame1, frame2⟩ := both
      simp only [List.map_cons, Prod.swap_prod_mk, matchFrames]
      by_cases differ : frame1.function ≠ frame2.function ∨ frame1.locals.keys ≠ frame2.locals.keys
      case pos =>
        rw [if_pos differ, if_pos (differ.imp Ne.symm Ne.symm)]
        exact twin_pure mirror samePairs_none
      case neg =>
        have function : frame1.function = frame2.function :=
          Classical.not_not.1 fun different => differ (.inl different)
        rw [if_neg differ, if_neg fun other => differ (other.imp Ne.symm Ne.symm), ← function]
        refine (twin_enter mirror frame1.function).bind ?_
        intro _ _ rename1 end1 end1' _ mirror1 _
        refine (twin_matchScopes (declares_local scene.shift) mirror1 frame1.locals
          frame2.locals).bind ?_
        rintro pairs _ rename2 end2 end2' _ mirror2 ⟨rfl, paired⟩
        cases pairs with
        | none => exact twin_pure mirror2 samePairs_none
        | some pairs =>
            refine (ih mirror2).bind ?_
            rintro others _ rename3 end3 end3' later3 mirror3 ⟨rfl, pairedRest⟩
            exact twin_pure mirror3 (samePairs_append pairs later3 paired pairedRest)

/-- The same variables are paired in both joins. -/
theorem twin_matchVariables (mirror : Mirror scene rename .nothing here there) :
    Twin scene matchVariables matchVariables rename here there except1 except2
      (fun _ => .nothing) fun found found' end1 => SamePairs scene.shift found found' end1 := by
  have globals1 : there.1.right.globals = here.1.left.globals := by
    rw [mirror.left.relaidOther.globals, mirror.left.relaid.globals]
  have globals2 : there.1.left.globals = here.1.right.globals := by
    rw [mirror.right.relaidOther.globals, mirror.right.relaid.globals]
  have frames1 : there.1.right.frames = here.1.left.frames := by
    rw [Graph.frames, mirror.left.relaidOther.stack, Graph.frames, mirror.left.relaid.stack]
  have frames2 : there.1.left.frames = here.1.right.frames := by
    rw [Graph.frames, mirror.right.relaidOther.stack, Graph.frames, mirror.right.relaid.stack]
  unfold matchVariables
  refine twin_bind_of_ok (Run.state_apply _) (Run.state_apply _) ?_
  simp only [globals1, globals2, frames1, frames2]
  refine (twin_matchScopes (declares_global scene.shift) mirror here.1.left.globals
    here.1.right.globals).bind ?_
  rintro pairs _ rename1 end1 end1' _ mirror1 ⟨rfl, paired⟩
  cases pairs with
  | none => exact twin_pure mirror1 samePairs_none
  | some pairs =>
      simp only [Option.map_some]
      by_cases length : here.1.left.frames.length = here.1.right.frames.length
      case neg =>
        rw [if_pos length, if_pos (Ne.symm length)]
        exact twin_pure mirror1 samePairs_none
      case pos =>
        rw [if_neg (Classical.not_not.2 length), if_neg (Classical.not_not.2 length.symm),
          ← List.zip_swap here.1.left.frames here.1.right.frames]
        refine (twin_matchFrames mirror1 _).bind ?_
        rintro others _ rename2 end2 end2' later2 mirror2 ⟨rfl, pairedRest⟩
        exact twin_pure mirror2 (samePairs_append pairs later2 paired pairedRest)

end Join

end ShapeDomain
