import ShapeDomain.Proofs.Reflexive.Tracing

/-!
# Objects and variables of a graph of regions

The fields of a copied object are joined with themselves and stored, and with them the objects that
they lead to, by induction on how deep the join may go.  Before that, the variables are paired with
themselves, where several of them may name one object.
-/

namespace ShapeDomain

namespace Join

variable {origin : Graph} {here : Progress × Supply} {progress : Progress} {id : ObjectId}
variable {setting : Setting} {descend : Descend} {source : Object} {field : Field}
variable {levelDiff : Int} {holderLevel : Level} {depth : Nat}

/-- What the values of a graph of regions lead to is at the ground level. -/
theorem levelBelow_of_regional (regional : origin.Regional) (holder : Object) (value : ValueId) :
    levelBelow origin holder value = .ok .ground := by
  unfold levelBelow
  cases leads : origin.target? value with
  | none => rfl
  | some target =>
      obtain ⟨object, found⟩ := regional.targets leads
      have given : origin.object target.object = .ok object := (origin.object_eq_ok_iff).2 found
      simp only [regional.singles leads, if_false, given, Except.map, regional.ground found]

namespace Tracing

/-! ### Fields -/

/-- The place of a field of a copied object is free until it is stored. -/
theorem vacant (tracing : Tracing origin progress) (tiled : origin.Tiled)
    (copied : progress.Copied id) (member : field ∈ origin.fieldsOf id)
    (absent : progress.dest.valueAt? id field.range = none) :
    progress.dest.Vacant id field.range := by
  have held := (Graph.mem_fieldsOf_iff.1 member).2
  obtain ⟨source, object, isSource, isObject, size, -⟩ := tracing.sizes copied
  obtain ⟨found, present, fits⟩ := tiled.fits held
  obtain rfl := Option.some.inj (isSource.symm.trans present)
  refine ⟨tiled.positive held, ⟨object, isObject, size ▸ fits⟩, fun {other value} there => ?_⟩
  rcases tiled.apart (tracing.held there).2 held with same | apart
  · rw [same, absent] at there
    simp at there
  · exact apart

/-- A field of a copied object is put into the destination. -/
theorem putField (tracing : Tracing origin progress) (tiled : origin.Tiled)
    (copied : progress.Copied id) (member : field ∈ origin.fieldsOf id)
    (vacant : progress.dest.Vacant id field.range) :
    Tracing origin
      { progress with dest := progress.dest.putField ⟨id, field.range, field.value⟩ } := by
  let part : Field := ⟨id, field.range, field.value⟩
  have holds (object : ObjectId) (range : BitRange) :
      (progress.dest.putField part).valueAt? object range =
        if object = id ∧ range = field.range then some field.value
        else progress.dest.valueAt? object range :=
    Graph.Vacant.valueAt?_putField vacant (fun held => tiled.positive (tracing.held held).2)
      object range
  exact
    { tracing with
      target := fun {value target} isTarget =>
        tracing.target ((Graph.target?_putField ..).symm.trans isTarget)
      free := fun proper new => (Graph.target?_putField ..).trans (tracing.free proper new)
      held := fun {object range value} isHeld => by
        rw [holds] at isHeld
        split at isHeld
        case isTrue same =>
          obtain ⟨rfl, rfl⟩ := same
          obtain rfl := Option.some.inj isHeld
          exact ⟨copied, (Graph.mem_fieldsOf_iff.1 member).2⟩
        case isFalse => exact tracing.held isHeld }

theorem store (tracing : Tracing origin here.1) (tiled : origin.Tiled) (copied : here.1.Copied id)
    (member : field ∈ origin.fieldsOf id) :
    Traces origin (Join.store ⟨id, field.range, field.value⟩) here fun _ _ => True := by
  unfold Join.store
  refine traces_bind_of_ok (Run.ask_apply _ _) ?_
  dsimp only
  cases stored : here.1.dest.valueAt? id field.range with
  | some other =>
      obtain rfl : other = field.value := Option.some.inj
        ((tracing.held stored).2.symm.trans (Graph.mem_fieldsOf_iff.1 member).2)
      rw [if_pos rfl]
      exact traces_pure tracing trivial
  | none =>
      have vacant := tracing.vacant tiled copied member stored
      rw [if_neg (by simp)]
      exact Run.ends_of_ok (attemptDest_apply (Graph.addField_of_vacant vacant))
        ⟨rfl, tracing.putField tiled copied member vacant, fun _ copied => copied, trivial⟩

section Traverse

variable (regional : origin.Regional) (quiet : Quiet setting origin)
variable (traverses : Traverses origin descend depth)

include regional quiet traverses

theorem joinField (tracing : Tracing origin here.1)
    (enough : unmapped origin here.1.leftMap ≤ depth) (copied : here.1.Copied id)
    (member : field ∈ origin.fieldsOf id) :
    Traces origin (Join.joinField setting descend ⟨id, id, id⟩ source source levelDiff holderLevel
      field) here fun result _ => result = .stored field.value none := by
  refine tracing.mirrored.joinField member (levelBelow_of_regional regional source field.value)
    (fun _ => tracing.joinValuePair regional quiet traverses enough field.range.size) ?_
  rintro _ middle ⟨same, tracing, more, rfl⟩
  refine ⟨rfl, (tracing.store regional.tiled (more id copied) member).mono ?_ fun _ _ bad => bad⟩
  rintro _ there ⟨same', tracing, more', -⟩
  exact ⟨same'.trans same, tracing, fun id copied => more' id (more id copied), rfl⟩

theorem joinFields (tracing : Tracing origin here.1)
    (enough : unmapped origin here.1.leftMap ≤ depth) (copied : here.1.Copied id)
    {fields : List Field} (within : ∀ field ∈ fields, field ∈ origin.fieldsOf id)
    (harvest : Harvest) :
    Traces origin (Join.joinFields
        (Join.joinField setting descend ⟨id, id, id⟩ source source levelDiff holderLevel) fields
        harvest)
      here fun result _ => result = some harvest := by
  induction fields generalizing here with
  | nil => exact traces_pure tracing rfl
  | cons field rest ih =>
      unfold Join.joinFields
      refine (tracing.joinField regional quiet traverses enough copied
        (within field List.mem_cons_self)).bind ?_
      rintro _ middle tracing more rfl
      exact ih tracing (Nat.le_trans (unmapped_le more) enough) (more id copied)
        fun other member => within other (List.mem_cons_of_mem _ member)

/-! ### Objects -/

theorem joinContents (tracing : Tracing origin here.1)
    (enough : unmapped origin here.1.leftMap ≤ depth) (copied : here.1.Copied id) :
    Traces origin (Join.joinContents setting descend ⟨id, id, id⟩ levelDiff) here
      fun joined _ => joined = true := by
  obtain ⟨object, -, found, -⟩ := tracing.sizes copied
  refine tracing.mirrored.joinContents regional.tiled found (regional.ground found) ?_
  refine (tracing.joinFields regional quiet traverses enough copied (fun _ member => member)
    ⟨true, ∅⟩).mono ?_ fun _ _ bad => bad
  rintro _ there ⟨same, tracing, more, rfl⟩
  exact ⟨rfl, same, tracing, more, rfl⟩

omit traverses in
/-- By induction on how deep the join may go, a copied object gets its fields, and so do all objects
that it leads to. -/
theorem traverses_joinObjects (depth : Nat) : Traverses origin
    (fun object1 object2 dest => joinObjects setting depth ⟨object1, object2, dest⟩) depth := by
  induction depth with
  | zero => exact fun _ _ _ _ few => absurd few (Nat.not_lt_zero _)
  | succ depth ih =>
      intro here id levelDiff tracing copied few
      show Traces origin (joinObjectsWith setting _ ⟨id, id, id⟩ levelDiff) here _
      unfold joinObjectsWith
      refine (tracing.joinContents regional quiet ih (Nat.le_of_lt_succ few) copied).bind ?_
      rintro _ there tracing - rfl
      exact traces_pure tracing rfl

omit traverses in
theorem joinPairs {ids : List ObjectId} (tracing : Tracing origin here.1)
    (copied : ∀ id ∈ ids, here.1.Copied id) (few : unmapped origin here.1.leftMap < depth) :
    Traces origin (Join.joinPairs setting depth (ids.map fun id => ⟨id, id, id⟩)) here
      fun joined _ => joined = true := by
  induction ids generalizing here with
  | nil => exact traces_pure tracing rfl
  | cons id rest ih =>
      rw [List.map_cons]
      unfold Join.joinPairs
      refine (traverses_joinObjects regional quiet depth id 0 tracing
        (copied id List.mem_cons_self) few).bind ?_
      rintro _ middle tracing more rfl
      rw [if_pos rfl]
      exact ih tracing (fun other member =>
        more other (copied other (List.mem_cons_of_mem _ member)))
        (Nat.lt_of_le_of_lt (unmapped_le more) few)

end Traverse

end Tracing

/-! ### Variables -/

/-- A way to put a variable into the destination goes through where the running functions are
`ready`, keeps them so, and adds nothing but the object and its name. -/
def Introduces (declare : Declare) (ready : List Frame → Prop) : Prop :=
  ∀ (dest : Graph) (name : String) (id : ObjectId) (object : Object), ready dest.stack →
    ∃ next, declare name id object dest = .ok next ∧ ready next.stack ∧
      next.objects = (dest.addObject id object).objects ∧ next.values = dest.values ∧
      next.layouts = dest.layouts

theorem introduces_global : Introduces
    (fun name id object graph => .ok (graph.declareGlobal name id object)) fun _ => True :=
  fun _ _ _ _ _ => ⟨_, rfl, trivial, rfl, rfl, rfl⟩

theorem introduces_local : Introduces
    (fun name id object graph => graph.declareLocal name id object) fun stack => stack ≠ [] := by
  intro dest name id object ready
  cases stack : dest.stack with
  | nil => exact absurd stack ready
  | cons frame outer =>
      simp only [Graph.declareLocal, stack]
      exact ⟨_, rfl, by simp, rfl, rfl, rfl⟩

/-- Copied objects are paired with themselves. -/
def Diagonal (here : Progress) (found : Option (List ObjectPair)) : Prop :=
  ∃ ids : List ObjectId, found = some (ids.map fun id => ⟨id, id, id⟩) ∧ ∀ id ∈ ids, here.Copied id

/-- Earlier pairs are put in front. -/
theorem Diagonal.append {here there : Progress} (more : Extends here there)
    {ids ids' : List ObjectId}
    (first : ∀ id ∈ ids, here.Copied id) (second : ∀ id ∈ ids', there.Copied id) :
    Diagonal there (some (ids.map (fun id => ⟨id, id, id⟩) ++ ids'.map fun id => ⟨id, id, id⟩)) :=
  ⟨ids ++ ids', by rw [List.map_append], fun id member =>
    (List.mem_append.1 member).elim (fun member => more id (first id member)) (second id)⟩

namespace Tracing

variable {declare : Declare} {ready : List Frame → Prop}

theorem matchVariable (tracing : Tracing origin here.1) (introduces : Introduces declare ready)
    (isReady : ready here.1.dest.stack) (name : String) (present : origin.hasObject id = true) :
    Traces origin (Join.matchVariable declare name id id) here fun found there =>
      found = some ⟨id, id, id⟩ ∧ there.Copied id ∧ ready there.dest.stack := by
  obtain ⟨source, found⟩ := (origin.hasObject_iff).1 present
  have given : origin.object id = .ok source := (origin.object_eq_ok_iff).2 found
  obtain ⟨next, declared, isReady', objects, values, layouts⟩ :=
    introduces here.1.dest name id (.region source.size source.label) isReady
  unfold Join.matchVariable
  refine traces_bind_of_ok (Run.demand_apply_ok ((congrArg (·.object id) tracing.left).trans
    given)) ?_
  refine traces_bind_of_ok (Run.demand_apply_ok ((congrArg (·.object id) tracing.right).trans
    given)) ?_
  refine traces_bind_of_ok (Run.state_apply _) ?_
  rw [tracing.left, tracing.right, if_neg (by simp), objectName, if_pos rfl, pure_bind]
  refine Run.ends_bind_of_ok (attemptDest_apply declared) ?_
  have lone := Object.lone_region source.size source.label
  refine tracing.settle found (by rfl) lone (fun other => ?_)
    (fun {other} isHeap => .inr ?_) values layouts
    (fun there same tracing more copied _ stack => ?_) _
  · rw [← Graph.object?_addObject, Graph.object?, objects, ← Graph.object?]
  · rw [← Graph.isHeap_addObject, Graph.isHeap, ← objects]
    exact isHeap
  · exact Run.ends_pure ⟨same, tracing, more, rfl, copied, stack ▸ isReady'⟩

theorem matchEach (introduces : Introduces declare ready) {list : List (String × ObjectId)}
    (tracing : Tracing origin here.1) (isReady : ready here.1.dest.stack)
    (present : ∀ entry ∈ list, origin.hasObject entry.2 = true) :
    Traces origin (Join.matchEach declare (list.zip list)) here fun found there =>
      Diagonal there found ∧ ready there.dest.stack := by
  induction list generalizing here with
  | nil => exact traces_pure tracing ⟨⟨[], rfl, by simp⟩, isReady⟩
  | cons entry rest ih =>
      rw [List.zip_cons_cons]
      unfold Join.matchEach
      refine (tracing.matchVariable introduces isReady entry.1
        (present entry List.mem_cons_self)).bind ?_
      rintro _ middle tracing more ⟨rfl, copied, isReady⟩
      refine (ih tracing isReady fun other member =>
        present other (List.mem_cons_of_mem _ member)).bind ?_
      rintro _ there tracing more ⟨⟨ids, rfl, all⟩, isReady⟩
      exact traces_pure tracing
        ⟨Diagonal.append more (List.forall_mem_singleton.2 copied) all, isReady⟩

theorem matchScopes (introduces : Introduces declare ready) (scope : Table String ObjectId)
    (tracing : Tracing origin here.1) (isReady : ready here.1.dest.stack)
    (present : ∀ entry ∈ scope.toList, origin.hasObject entry.2 = true) :
    Traces origin (Join.matchScopes declare scope scope) here fun found there =>
      Diagonal there found ∧ ready there.dest.stack := by
  unfold Join.matchScopes
  rw [if_pos rfl]
  exact tracing.matchEach introduces isReady present

theorem matchFrames {frames : List Frame} (tracing : Tracing origin here.1)
    (present : ∀ frame ∈ frames, ∀ entry ∈ frame.locals.toList,
      origin.hasObject entry.2 = true) :
    Traces origin (Join.matchFrames (frames.zip frames)) here fun found there =>
      Diagonal there found := by
  induction frames generalizing here with
  | nil => exact traces_pure tracing ⟨[], rfl, by simp⟩
  | cons frame rest ih =>
      rw [List.zip_cons_cons]
      unfold Join.matchFrames
      rw [if_neg (by simp)]
      let inside : Progress × Supply :=
        ({ here.1 with dest := here.1.dest.enter frame.function }, here.2)
      have entered : Tracing origin inside.1 := { tracing with }
      refine Run.ends_bind_of_ok (modifyDest_apply _ _) ?_
      show Traces origin _ inside fun found there => Diagonal there found
      refine (entered.matchScopes introduces_local frame.locals (by simp [inside, Graph.enter])
        (present frame List.mem_cons_self)).bind ?_
      rintro _ middle tracing more ⟨⟨ids, rfl, all⟩, -⟩
      refine (ih tracing fun other member => present other (List.mem_cons_of_mem _ member)).bind ?_
      rintro _ there tracing more ⟨ids', rfl, all'⟩
      exact traces_pure tracing (.append more all all')

theorem matchVariables (tracing : Tracing origin here.1)
    (roots : ∀ entry ∈ origin.roots, origin.hasObject entry.2 = true) :
    Traces origin Join.matchVariables here fun found there => Diagonal there found := by
  unfold Join.matchVariables
  refine traces_bind_of_ok (Run.state_apply _) ?_
  dsimp only
  rw [tracing.left, tracing.right]
  refine (tracing.matchScopes introduces_global origin.globals trivial fun entry member =>
    roots entry (List.mem_append_left _ member)).bind ?_
  rintro _ middle tracing more ⟨⟨ids, rfl, all⟩, -⟩
  dsimp only
  rw [if_neg (by simp)]
  refine (tracing.matchFrames fun frame isFrame entry member => roots entry
    (List.mem_append_right _ (List.mem_flatMap.2 ⟨frame, isFrame, member⟩))).bind ?_
  rintro _ there tracing more ⟨ids', rfl, all'⟩
  exact traces_pure tracing (.append more all all')

end Tracing

end Join

end ShapeDomain
