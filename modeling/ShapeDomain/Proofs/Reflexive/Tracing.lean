import ShapeDomain.Proofs.Reflexive.Objects

/-!
# Tracing a graph of regions

A consistent graph of regions need not be one that a program builds: its values may be known to be
unequal, several variables may name one object, and its addresses may have any specifier that means
a single node.  When such a graph is joined with itself, nothing that the join already did stands in
the way of its next step.  This module says what that takes, and follows the join from a value to
the objects behind it.
-/

namespace ShapeDomain

/-- An object that is neither a list segment nor part of one. -/
structure Object.Lone (object : Object) : Prop where
  /-- It is not part of a list segment. -/
  ground : object.level = .ground
  /-- It is no list segment. -/
  single : object.kind.isList = false

theorem Object.lone_region (size : Nat) (label : String) : (Object.region size label).Lone :=
  ⟨rfl, rfl⟩

namespace Graph

variable {graph : Graph}

/-- All objects are concrete: NULL, or regions that are not part of a list segment. -/
def OfRegions (graph : Graph) : Prop :=
  ∀ entry ∈ graph.objects.toList,
    entry.2.object.level = .ground ∧ (entry.1 = .null ∨ entry.2.object.kind = .region)

instance (graph : Graph) : Decidable graph.OfRegions :=
  inferInstanceAs (Decidable (∀ entry ∈ graph.objects.toList,
    entry.2.object.level = .ground ∧ (entry.1 = .null ∨ entry.2.object.kind = .region)))

/-- No address means every node of a list segment. -/
def SingleTargets (graph : Graph) : Prop :=
  ∀ pointer ∈ graph.pointers, pointer.target.specifier ≠ .all

instance (graph : Graph) : Decidable graph.SingleTargets :=
  inferInstanceAs (Decidable (∀ pointer ∈ graph.pointers, pointer.target.specifier ≠ .all))

/-- Whether a field of a heap object leads to another heap object of the same size, as the link of a
list node does. -/
def isLink (graph : Graph) (field : Field) : Bool :=
  (graph.target? field.value).any fun target =>
    graph.isHeap field.object && graph.isHeap target.object && field.object != target.object &&
      (graph.object? field.object).map Object.size == (graph.object? target.object).map Object.size

/-- No heap object leads to another one of its size. -/
def Unlinked (graph : Graph) : Prop :=
  ∀ field ∈ graph.fields, graph.isLink field = false

instance (graph : Graph) : Decidable graph.Unlinked :=
  inferInstanceAs (Decidable (∀ field ∈ graph.fields, graph.isLink field = false))

/-- A graph of regions, as a join with itself needs it. -/
structure Regional (graph : Graph) : Prop where
  /-- Its fields are tiled. -/
  tiled : graph.Tiled
  /-- Its objects are not part of list segments. -/
  ground : ∀ {id object}, graph.object? id = some object → object.level = .ground
  /-- They are regions. -/
  region : ∀ {id object}, graph.object? id = some object → id ≠ .null → object.kind = .region
  /-- Addresses lead to objects. -/
  targets : ∀ {value target}, graph.target? value = some target →
    ∃ object, graph.object? target.object = some object
  /-- They mean single nodes. -/
  singles : ∀ {value target}, graph.target? value = some target → target.specifier ≠ .all
  /-- The zero value is the address of NULL. -/
  zero : graph.target? .zero = some .null
  /-- Variables name objects. -/
  roots : ∀ entry ∈ graph.roots, graph.hasObject entry.2 = true

theorem Regional.of_consistent (consistent : graph.Consistent) (exact : graph.ExactFields)
    (regions : graph.OfRegions) (singles : graph.SingleTargets) : graph.Regional := by
  have entry {id : ObjectId} {object : Object} (found : graph.object? id = some object) :
      object.level = .ground ∧ (id = .null ∨ object.kind = .region) := by
    obtain ⟨placement, isPlacement, rfl⟩ := Option.map_eq_some_iff.1 found
    exact regions (id, placement) (Table.mem_toList_iff.2 isPlacement)
  exact
    { tiled := consistent.checked.tiled exact
      ground := fun found => (entry found).1
      region := fun found proper => (entry found).2.resolve_left proper
      targets := consistent.checked.object_of_target
      singles := fun {value target} leads => singles ⟨value, target⟩ (mem_pointers_iff.2 leads)
      zero := consistent.checked.zero
      roots := consistent.checked.roots }

end Graph

namespace Join

variable {origin : Graph} {here : Progress × Supply} {progress : Progress}
variable {id target : ObjectId} {value : ValueId} {setting : Setting} {descend : Descend}
variable {levelDiff : Int} {holderLevel : Level} {depth : Nat}

/-! ### What has been traced -/

/-- While a graph of regions is joined with itself, what has counterparts is its own one.  All that
the destination holds comes from the graph, and values without counterparts are no addresses yet. -/
structure Tracing (origin : Graph) (progress : Progress) : Prop where
  /-- The left graph is the graph. -/
  left : progress.left = origin
  /-- So is the right graph. -/
  right : progress.right = origin
  /-- Both sides have the same counterparts. -/
  maps : progress.rightMap = progress.leftMap
  /-- Only the ground level is needed. -/
  levels : progress.levels = .initial
  /-- No difference was found. -/
  status : progress.status = .equal
  /-- NULL is in the destination. -/
  null : ∃ object, progress.dest.object? .null = some object ∧ object.Lone
  /-- So are copied objects, under their own names and with their sizes. -/
  object : ∀ {id image}, progress.leftMap.object? id = some image →
    image = id ∧ ∃ source object, origin.object? id = some source ∧
      progress.dest.object? id = some object ∧ object.size = source.size ∧ object.Lone
  /-- The heap of the destination is that of the graph, as far as it is copied. -/
  heap : ∀ {id}, progress.dest.isHeap id = true → progress.Copied id ∧ origin.isHeap id = true
  /-- Copied values are their own counterparts. -/
  value : ∀ {value image}, progress.leftMap.value? value = some image → image = value
  /-- They are joined with themselves. -/
  joined : ∀ value, progress.joined.get? (value, value) = progress.leftMap.value? value
  /-- Addresses lead where they lead in the graph. -/
  target : ∀ {value target}, progress.dest.target? value = some target →
    ∃ place, origin.target? value = some place ∧ place.object = target.object
  /-- Values that are not copied are no addresses. -/
  free : ∀ {value}, value ≠ .zero → ¬ progress.CopiedValue value →
    progress.dest.target? value = none
  /-- The fields of the destination are those of copied objects. -/
  held : ∀ {object range value}, progress.dest.valueAt? object range = some value →
    progress.Copied object ∧ origin.valueAt? object range = some value

/-- Copied objects stay copied. -/
def Extends (here there : Progress) : Prop :=
  ∀ id, here.Copied id → there.Copied id

/-- A computation goes through, draws nothing and traces more of the graph, and then `good` holds of
its result and the end. -/
def Traces {α : Type} (origin : Graph) (computation : Run Progress α) (here : Progress × Supply)
    (good : α → Progress → Prop) : Prop :=
  Run.Ends computation here
    (fun result there => there.2 = here.2 ∧ Tracing origin there.1 ∧ Extends here.1 there.1 ∧
      good result there.1)
    (fun _ _ => False)

section Traces

variable {α β : Type} {good : α → Progress → Prop}

theorem traces_pure (tracing : Tracing origin here.1) {result : α} (holds : good result here.1) :
    Traces origin (pure result) here good :=
  Run.ends_pure ⟨rfl, tracing, fun _ copied => copied, holds⟩

/-- A joint value without a folding. -/
theorem traces_joined (tracing : Tracing origin here.1) (value : ValueId) :
    Traces origin (pure (ValueJoin.joined value none)) here fun result _ =>
      result = .joined value none :=
  traces_pure tracing rfl

/-- A first step that only looks is skipped. -/
theorem traces_bind_of_ok {first : Run Progress β} {next : β → Run Progress α} {result : β}
    (looks : first here = .ok result here) (rest : Traces origin (next result) here good) :
    Traces origin (first >>= next) here good :=
  Run.ends_bind_of_ok looks rest

theorem Traces.bind {first : Run Progress β} {next : β → Run Progress α}
    {middle : β → Progress → Prop} (start : Traces origin first here middle)
    (rest : ∀ result there, Tracing origin there.1 → Extends here.1 there.1 →
      middle result there.1 → Traces origin (next result) there good) :
    Traces origin (first >>= next) here good := by
  refine Run.Ends.bind start ?_
  rintro result there ⟨same, tracing, more, holds⟩
  refine Run.Ends.mono (rest result there tracing more holds) ?_ fun _ _ bad => bad
  rintro _ last ⟨same', tracing', more', holds'⟩
  exact ⟨same'.trans same, tracing', fun id copied => more' id (more id copied), holds'⟩

end Traces

namespace Tracing

theorem mirrored (tracing : Tracing origin progress) : Mirrored origin progress :=
  ⟨tracing.left, tracing.right, tracing.maps, tracing.levels⟩

theorem object?_of_copied (tracing : Tracing origin progress) (copied : progress.Copied id) :
    progress.leftMap.object? id = some id := by
  obtain ⟨image, found⟩ := Option.isSome_iff_exists.1 copied
  obtain ⟨rfl, -⟩ := tracing.object found
  exact found

/-- How a copied object stands in both graphs. -/
theorem sizes (tracing : Tracing origin progress) (copied : progress.Copied id) :
    ∃ source object, origin.object? id = some source ∧ progress.dest.object? id = some object ∧
      object.size = source.size ∧ object.Lone :=
  (tracing.object (tracing.object?_of_copied copied)).2

/-- NULL and the copied objects are in the destination. -/
theorem lone (tracing : Tracing origin progress) (copied : id = .null ∨ progress.Copied id) :
    ∃ object, progress.dest.object? id = some object ∧ object.Lone := by
  rcases copied with rfl | copied
  · exact tracing.null
  · obtain ⟨_, object, -, found, -, lone⟩ := tracing.sizes copied
    exact ⟨object, found, lone⟩

/-- An object may become its own counterpart, whether or not it is one already. -/
theorem allows (tracing : Tracing origin progress) (id : ObjectId) :
    Allows progress.leftMap.object? id id := by
  cases mapped : progress.leftMap.object? id with
  | none => exact .inl mapped
  | some image =>
      obtain ⟨rfl, -⟩ := tracing.object mapped
      exact .inr mapped

/-! ### More is traced -/

/-- An object is put into the destination, maybe as a variable and maybe once more. -/
theorem place (tracing : Tracing origin progress) {dest : Graph} {source object : Object}
    (found : origin.object? id = some source) (size : object.size = source.size)
    (lone : object.Lone)
    (objects : ∀ other, dest.object? other =
      if other = id then some object else progress.dest.object? other)
    (heap : ∀ {other}, dest.isHeap other = true →
      other = id ∧ origin.isHeap id = true ∨ progress.dest.isHeap other = true)
    (values : dest.values = progress.dest.values) (layouts : dest.layouts = progress.dest.layouts) :
    Tracing origin ({ progress with dest := dest }.withPair id id id) ∧
      Extends progress ({ progress with dest := dest }.withPair id id id) ∧
      ({ progress with dest := dest }.withPair id id id).Copied id := by
  have map (other : ObjectId) :
      ({ progress with dest := dest }.withPair id id id).leftMap.object? other =
        if other = id then some id else progress.leftMap.object? other :=
    Correspondence.object?_setObject ..
  have copied {other : ObjectId} :
      ({ progress with dest := dest }.withPair id id id).Copied other ↔
        other = id ∨ progress.Copied other := by
    rw [Progress.Copied, map]
    by_cases same : other = id <;> simp [same, Progress.Copied]
  have leads (other : ValueId) : dest.target? other = progress.dest.target? other := by
    rw [Graph.target?, Graph.knowledge, values, Graph.target?, Graph.knowledge]
  have held (object : ObjectId) (range : BitRange) :
      dest.valueAt? object range = progress.dest.valueAt? object range := by
    rw [Graph.valueAt?, Graph.layout, layouts, Graph.valueAt?, Graph.layout]
  refine ⟨?_, fun other isCopied => copied.2 (.inr isCopied), copied.2 (.inl rfl)⟩
  exact
    { left := tracing.left
      right := tracing.right
      maps := by rw [Progress.withPair]; exact congrArg (·.setObject id id) tracing.maps
      levels := tracing.levels
      status := tracing.status
      null := by
        show ∃ found, dest.object? .null = some found ∧ found.Lone
        rw [objects]
        split
        · exact ⟨object, rfl, lone⟩
        · exact tracing.null
      object := fun {other image} mapped => by
        rw [map] at mapped
        show image = other ∧ ∃ source' object', origin.object? other = some source' ∧
          dest.object? other = some object' ∧ object'.size = source'.size ∧ object'.Lone
        rw [objects]
        split at mapped
        case isTrue same =>
          obtain rfl := Option.some.inj mapped
          rw [same, if_pos rfl]
          exact ⟨rfl, source, object, found, rfl, size, lone⟩
        case isFalse different =>
          rw [if_neg different]
          exact tracing.object mapped
      heap := fun {other} isHeap => by
        rcases heap isHeap with ⟨rfl, isHeap⟩ | old
        · exact ⟨copied.2 (.inl rfl), isHeap⟩
        · exact ⟨copied.2 (.inr (tracing.heap old).1), (tracing.heap old).2⟩
      value := tracing.value
      joined := tracing.joined
      target := fun isTarget => tracing.target ((leads _).symm.trans isTarget)
      free := fun proper new => (leads _).trans (tracing.free proper new)
      held := fun {object range value} isHeld => by
        have old := tracing.held ((held object range).symm.trans isHeld)
        exact ⟨copied.2 (.inr old.1), old.2⟩ }

/-- An object that was just put into the destination becomes its own counterpart, and then the join
goes on. -/
theorem settle (tracing : Tracing origin here.1) {source object : Object} {dest : Graph}
    (found : origin.object? id = some source) (size : object.size = source.size)
    (lone : object.Lone)
    (objects : ∀ other, dest.object? other =
      if other = id then some object else here.1.dest.object? other)
    (heap : ∀ {other}, dest.isHeap other = true →
      other = id ∧ origin.isHeap id = true ∨ here.1.dest.isHeap other = true)
    (values : dest.values = here.1.dest.values) (layouts : dest.layouts = here.1.dest.layouts)
    {α : Type} {next : Run Progress α} {good : α → Progress × Supply → Prop}
    (rest : ∀ there : Progress × Supply, there.2 = here.2 → Tracing origin there.1 →
      Extends here.1 there.1 → there.1.Copied id →
      there.1.leftMap.values = here.1.leftMap.values → there.1.dest.stack = dest.stack →
      Run.Ends next there good fun _ _ => False) (valid : Bool) :
    Run.Ends (do
      attemptDest fun graph => graph.setValid id valid
      pairObjects id id id
      next) ({ here.1 with dest := dest }, here.2) good fun _ _ => False := by
  obtain ⟨validated, done⟩ : ∃ validated, dest.setValid id valid = .ok validated := by
    obtain ⟨placement, isPlacement⟩ := Graph.hasObject_iff_get?.1 (Graph.hasObject_of_object?
      ((objects id).trans (if_pos rfl)))
    exact ⟨_, (dest.setValid_eq_ok_iff).2 ⟨placement, isPlacement, rfl⟩⟩
  have same := dest.object?_of_setValid done
  have heaps := dest.isHeap_of_setValid done
  obtain ⟨old, -, rfl⟩ := (dest.setValid_eq_ok_iff).1 done
  obtain ⟨placed, more, copied⟩ := tracing.place found size lone
    (fun other => (same other).trans (objects other))
    (fun isHeap => heap ((heaps _).symm.trans isHeap)) values layouts
  have allows := tracing.allows id
  refine Run.ends_bind_of_ok (attemptDest_apply done) ?_
  refine Run.ends_bind_of_ok (pairObjects_ok allows ?_) ?_
  · rw [show here.1.rightMap = _ from tracing.maps]
    exact allows
  · exact rest _ rfl placed more copied rfl rfl

/-- A value is put into the destination. -/
theorem settleValue (tracing : Tracing origin progress) (proper : value ≠ .zero)
    (values : Table ValueId Knowledge)
    (others : ∀ other, other ≠ value →
      { progress.dest with values := values }.target? other = progress.dest.target? other)
    (leads : ∀ {target}, { progress.dest with values := values }.target? value = some target →
      ∃ place, origin.target? value = some place ∧ place.object = target.object) :
    let dest : Graph := { progress.dest with values := values }
    Tracing origin ({ progress with dest := dest }.withJoint value value value) ∧
      Extends progress ({ progress with dest := dest }.withJoint value value value) ∧
      ({ progress with dest := dest }.withJoint value value value).leftMap.objects =
        progress.leftMap.objects := by
  intro dest
  rw [Progress.withJoint_of_proper _ proper proper]
  have map (other : ValueId) : (progress.leftMap.setValue value value).value? other =
      if other = value then some value else progress.leftMap.value? other :=
    Correspondence.value?_setValue ..
  refine ⟨?_, fun _ isCopied => isCopied, rfl⟩
  exact
    { left := tracing.left
      right := tracing.right
      maps := congrArg (·.setValue value value) tracing.maps
      levels := tracing.levels
      status := tracing.status
      null := tracing.null
      object := tracing.object
      heap := tracing.heap
      value := fun {other image} isMapped => by
        replace isMapped : (progress.leftMap.setValue value value).value? other = some image :=
          isMapped
        rw [map] at isMapped
        split at isMapped
        case isTrue same => exact (Option.some.inj isMapped).symm.trans same.symm
        case isFalse => exact tracing.value isMapped
      joined := fun other => by
        show (progress.joined.insert (value, value) value).get? (other, other) =
          (progress.leftMap.setValue value value).value? other
        rw [map, Table.get?_insert]
        by_cases same : other = value
        · simp [same]
        · rw [if_neg same, if_neg (by simp [same])]
          exact tracing.joined other
      target := fun {other target} isTarget => by
        replace isTarget : (dest.addValue value).target? other = some target := isTarget
        rw [Graph.target?_addValue] at isTarget
        by_cases same : other = value
        · subst same
          exact leads isTarget
        · exact tracing.target ((others other same).symm.trans isTarget)
      free := fun {other} properOther newOther => by
        have isNew : ¬ ((progress.leftMap.setValue value value).value? other).isSome = true :=
          newOther
        rw [map] at isNew
        split at isNew
        case isTrue => simp at isNew
        case isFalse different =>
          show (dest.addValue value).target? other = none
          rw [Graph.target?_addValue, others other different]
          exact tracing.free properOther isNew
      held := tracing.held }

/-- A value that is not copied becomes its own joint value. -/
theorem pairValues (tracing : Tracing origin here.1) (dest : Graph) (proper : value ≠ .zero)
    (new : ¬ here.1.CopiedValue value) (same : dest = { here.1.dest with values := dest.values })
    (others : ∀ other, other ≠ value → dest.target? other = here.1.dest.target? other)
    (leads : ∀ {target}, dest.target? value = some target →
      ∃ place, origin.target? value = some place ∧ place.object = target.object) :
    Run.Ends (Join.pairValues value value value) ({ here.1 with dest := dest }, here.2)
      (fun _ there => there.2 = here.2 ∧ Tracing origin there.1 ∧ Extends here.1 there.1 ∧
        there.1.leftMap.objects = here.1.leftMap.objects)
      fun _ _ => False := by
  generalize dest.values = values at same
  subst same
  exact Run.ends_of_ok (tracing.mirrored.pairValues_apply _ new)
    ⟨rfl, tracing.settleValue proper values others leads⟩

/-! ### Numbers -/

/-- A value that is no address. -/
theorem joinNumbers (tracing : Tracing origin here.1) (proper : value ≠ .zero)
    (new : ¬ here.1.CopiedValue value) (size : Nat) :
    Traces origin (Join.joinNumbers value value size levelDiff) here fun result _ =>
      result = .joined value none := by
  have targets (other : ValueId) : ((origin.number? value).elim here.1.dest
      (here.1.dest.setNumber value)).target? other = here.1.dest.target? other := by
    cases origin.number? value with
    | some number => exact Graph.target?_setNumber ..
    | none => rfl
  refine tracing.mirrored.joinNumbers proper size ((tracing.pairValues _ proper new ?_
    (fun other _ => targets other) fun {target} leads => ?_).mono ?_ fun _ _ bad => bad)
  · cases origin.number? value <;> rfl
  · rw [targets, tracing.free proper new] at leads
    simp at leads
  · rintro _ there ⟨same, tracing, more, -⟩
    exact ⟨same, tracing, more, rfl⟩

/-! ### Objects that addresses lead to -/

/-- What is made of an object that was not copied: it is put into the destination, and fewer objects
are still to be copied. -/
def Makes (origin : Graph) (target : ObjectId) (here : Progress) (made : Option ObjectId)
    (there : Progress) : Prop :=
  made = some target ∧ there.leftMap.values = here.leftMap.values ∧ there.Copied target ∧
    unmapped origin there.leftMap < unmapped origin here.leftMap

/-- An object that is not copied is put into the destination. -/
theorem joinTargets (tracing : Tracing origin here.1) (regional : origin.Regional)
    (present : ∃ source, origin.object? target = some source) (proper : target ≠ .null)
    (new : ¬ here.1.Copied target) :
    Traces origin (Join.joinTargets target target) here (Makes origin target here.1) := by
  obtain ⟨source, found⟩ := present
  have region := regional.region found proper
  have lone : source.Lone := ⟨regional.ground found, by rw [region]; rfl⟩
  have kind : source.kind.join source.kind = some (source.kind, .equal) := by
    rw [region]
    rfl
  have free : here.1.leftMap.object? target = none := by simpa [Progress.Copied] using new
  refine tracing.mirrored.joinTargets found lone.ground kind
    (tracing.settle found rfl lone ?_ (fun {other} isHeap => ?_) ?_ ?_ ?_ _)
  · intro other
    cases origin.isHeap target with
    | true => exact Graph.object?_addHeapObject _ target other source
    | false => exact Graph.object?_addObject _ target other source
  · cases heap : origin.isHeap target with
    | true =>
        rw [heap, if_pos rfl, Graph.isHeap_addHeapObject, Bool.or_eq_true,
          decide_eq_true_iff] at isHeap
        exact isHeap.imp_left fun same => ⟨same, rfl⟩
    | false =>
        rw [heap, if_neg (by simp), Graph.isHeap_addObject] at isHeap
        exact .inr isHeap
  · cases origin.isHeap target <;> rfl
  · cases origin.isHeap target <;> rfl
  · intro there same tracing more copied values _
    exact Run.ends_bind_of_ok (lower_equal_apply _)
      (Run.ends_pure ⟨same, tracing, more, rfl, values, copied, unmapped_lt more found free copied⟩)

/-- Where an address leads in the destination: to NULL or to an object that has been copied before,
or to one that was just put there. -/
inductive Leads (origin : Graph) (target : ObjectId) (here : Progress) :
    Option Destination → Progress → Prop where
  /-- The object has been copied before. -/
  | known : target = .null ∨ here.Copied target →
      Leads origin target here (some (.known target)) here
  /-- The object was put into the destination. -/
  | made {there : Progress} : Makes origin target here (some target) there →
      Leads origin target here (some (.made target)) there

theorem destination (tracing : Tracing origin here.1) (regional : origin.Regional)
    (present : ∃ source, origin.object? target = some source) :
    Traces origin (Join.destination target target) here (Leads origin target here.1) := by
  refine tracing.mirrored.destination (fun mapped => (tracing.object mapped).1)
    (fun copied => ⟨rfl, tracing, fun _ copied => copied, .known copied⟩) fun proper new => ?_
  refine (tracing.joinTargets regional present proper new).mono ?_ fun _ _ bad => bad
  rintro _ there ⟨same, tracing, more, rfl, made⟩
  exact ⟨same, tracing, more, .made ⟨rfl, made⟩⟩

/-! ### Addresses -/

/-- The specifier of an address that means a single node and is joined with itself. -/
theorem specifier?_self {object : Object} (lone : object.Lone) {specifier : Specifier}
    (single : specifier ≠ .all) (holderLevel : Level) :
    specifier? holderLevel object specifier specifier = .ok (some specifier) := by
  unfold specifier?
  rw [lone.single]
  cases specifier with
  | all => exact absurd rfl single
  | _ => simp [Specifier.join]

/-- Nothing is folded: foldings are not asked for, the graphs are the same, or no node is linked to
another one. -/
def Quiet (setting : Setting) (origin : Graph) : Prop :=
  setting.options.foldLists = false ∨ setting.identical = true ∨ origin.Unlinked

/-- Nodes of the destination that can be folded are linked in the graph. -/
theorem isLink_of_possible (tracing : Tracing origin progress) {fold : Fold} {parts : Fold.Parts}
    (possible : Fold.Possible progress.dest fold parts) :
    parts.link ∈ origin.fields ∧ origin.isLink parts.link = true := by
  obtain ⟨isHead, isHeld⟩ := Graph.mem_fieldsOf_iff.1 possible.link.member
  obtain ⟨specifier, leads⟩ := possible.link.target
  obtain ⟨place, isTarget, successor⟩ := tracing.target leads
  replace successor : place.object = fold.successor := successor
  obtain ⟨copied1, heap1⟩ := tracing.heap possible.heapHead
  obtain ⟨copied2, heap2⟩ := tracing.heap possible.heapSuccessor
  obtain ⟨source1, object1, found1, same1, size1, -⟩ := tracing.sizes copied1
  obtain ⟨source2, object2, found2, same2, size2, -⟩ := tracing.sizes copied2
  obtain rfl := Option.some.inj (possible.head.symm.trans same1)
  obtain rfl := Option.some.inj (possible.successor.symm.trans same2)
  have sizes : parts.head.size = parts.successor.size := by
    have precedes := possible.precedes
    simp only [Fold.precedes, Bool.and_eq_true, beq_iff_eq] at precedes
    exact precedes.1.1.2
  refine ⟨Graph.mem_fields_iff.2 ?_, ?_⟩
  · rw [isHead]
    exact (tracing.held isHeld).2
  · rw [Graph.isLink, isTarget, isHead]
    simp [successor, heap1, heap2, possible.distinct, found1, found2, ← size1, ← size2, sizes]

/-- No folding starts at an object of the destination when no node is linked to another one. -/
theorem startingFrom_eq_nil (tracing : Tracing origin progress) (unlinked : origin.Unlinked)
    (id : ObjectId) : Fold.startingFrom progress.dest id = [] := by
  rw [Fold.startingFrom, List.filterMap_eq_nil_iff]
  intro field _
  cases progress.dest.target? field.value with
  | none => rfl
  | some target =>
      cases isFold : Fold.parts? progress.dest ⟨id, target.object, field.range.offset⟩ with
      | none => simp [isFold]
      | some parts =>
          obtain ⟨member, isLink⟩ := tracing.isLink_of_possible (Fold.possible_of_parts? isFold)
          rw [unlinked _ member] at isLink
          simp at isLink

theorem foldAt_apply (tracing : Tracing origin here.1) (quiet : Quiet setting origin)
    (id : ObjectId) : foldAt setting id here = .ok none here := by
  unfold foldAt
  split
  case isFalse => rfl
  case isTrue folds =>
    rcases quiet with off | same | unlinked
    · simp [off] at folds
    · simp [same] at folds
    · rw [Run.ask_apply, tracing.startingFrom_eq_nil unlinked]
      rfl

end Tracing

/-- A way to go down from a copied object to itself goes through, if few enough objects are still to
be copied. -/
def Traverses (origin : Graph) (descend : Descend) (depth : Nat) : Prop :=
  ∀ {here} id levelDiff, Tracing origin here.1 → here.1.Copied id →
    unmapped origin here.1.leftMap < depth →
    Traces origin (descend id id id levelDiff) here fun joined _ => joined = true

namespace Tracing

variable {place : Target}

/-- A value becomes an address in the destination, once the object that it leads to is there, and
then the join goes on. -/
theorem address (tracing : Tracing origin here.1) (regional : origin.Regional)
    (proper : value ≠ .zero) (new : ¬ here.1.CopiedValue value)
    (leads : origin.target? value = some place)
    (copied : place.object = .null ∨ here.1.Copied place.object)
    {next : ValueId → Run Progress ValueJoin}
    (rest : ∀ there : Progress × Supply, Tracing origin there.1 →
      there.1.leftMap.objects = here.1.leftMap.objects →
      Traces origin (next value) there fun result _ => result = .joined value none) :
    Traces origin (do
      let object ← Run.demand fun progress => progress.dest.object place.object
      match ← Run.demand fun _ =>
          specifier? holderLevel object place.specifier place.specifier with
      | none => Join.noJoin setting value value
      | some specifier => do
          let dest ← addressName value value ⟨place.object, place.offset, specifier⟩
          Join.pairValues value value dest
          next dest) here fun result _ => result = .joined value none := by
  obtain ⟨object, found, lone⟩ := tracing.lone copied
  have given : here.1.dest.object place.object = .ok object :=
    (Graph.object_eq_ok_iff _).2 found
  have free := tracing.free proper new
  have named := Copying.addressName_self (Graph.hasObject_of_object? found) free
  have target (other : ValueId) : (here.1.dest.putPointer ⟨value, place⟩).target? other =
      if other = value then some place else here.1.dest.target? other :=
    Graph.target?_putPointer other
  refine traces_bind_of_ok (Run.demand_apply_ok given) (traces_bind_of_ok
    (Run.demand_apply_ok (specifier?_self lone (regional.singles leads) holderLevel)) ?_)
  refine Run.ends_bind_of_ok named ?_
  refine Run.Ends.bind (tracing.pairValues (here.1.dest.putPointer ⟨value, place⟩) proper new rfl
    (fun other different => ?_) (fun {target'} isTarget => ?_)) ?_
  · rw [target, if_neg different]
  · rw [target, if_pos rfl] at isTarget
    obtain rfl := Option.some.inj isTarget
    exact ⟨place, leads, rfl⟩
  · rintro _ there ⟨same, tracing, more, objects⟩
    refine Run.Ends.mono (rest there tracing objects) ?_ fun _ _ bad => bad
    rintro _ last ⟨same', tracing', more', holds⟩
    exact ⟨same'.trans same, tracing', fun id copied => more' id (more id copied), holds⟩

/-- An address that is not copied. -/
theorem joinAddresses (tracing : Tracing origin here.1) (regional : origin.Regional)
    (quiet : Quiet setting origin) (traverses : Traverses origin descend depth)
    (enough : unmapped origin here.1.leftMap ≤ depth) (proper : value ≠ .zero)
    (new : ¬ here.1.CopiedValue value) (leads : origin.target? value = some place) :
    Traces origin (Join.joinAddresses setting descend value value place place levelDiff
      holderLevel) here fun result _ => result = .joined value none := by
  unfold Join.joinAddresses
  rw [if_neg (by simp)]
  refine (tracing.destination regional (regional.targets leads)).bind ?_
  rintro _ ⟨progress, now⟩ tracing more found
  cases found with
  | known copied =>
      exact tracing.address regional proper new leads copied fun there tracing _ =>
        traces_joined tracing value
  | made made =>
      obtain ⟨-, values, copied, fewer⟩ := made
      have new' : ¬ progress.CopiedValue value := by
        rw [Progress.CopiedValue, Correspondence.value?,
          show progress.leftMap.values = _ from values]
        exact new
      refine tracing.address regional proper new' leads (.inr copied) fun middle tracing same => ?_
      have copied' : middle.1.Copied place.object := by
        rw [Progress.Copied, Correspondence.object?, same]
        exact copied
      have left : unmapped origin middle.1.leftMap < depth := by
        have equal : unmapped origin middle.1.leftMap = unmapped origin progress.leftMap := by
          simp only [unmapped, Correspondence.object?, same]
        rw [equal]
        exact Nat.lt_of_lt_of_le fewer enough
      refine (traverses place.object levelDiff tracing copied' left).bind ?_
      rintro _ there tracing more rfl
      rw [if_pos rfl]
      exact traces_bind_of_ok (tracing.foldAt_apply quiet _) (traces_joined tracing value)

/-- A value joined with itself becomes its own joint value. -/
theorem joinValuePair (tracing : Tracing origin here.1) (regional : origin.Regional)
    (quiet : Quiet setting origin) (traverses : Traverses origin descend depth)
    (enough : unmapped origin here.1.leftMap ≤ depth) (size : Nat) :
    Traces origin (Join.joinValuePair setting descend value value size levelDiff holderLevel) here
      fun result _ => result = .joined value none := by
  refine tracing.mirrored.joinValuePair tracing.value (tracing.joined value) size
    (fun _ => ⟨rfl, tracing, fun _ copied => copied, rfl⟩) ?_ ?_
  · intro proper new _
    exact tracing.joinNumbers proper new size
  · intro proper new place leads
    exact tracing.joinAddresses regional quiet traverses enough proper new leads

end Tracing

end Join

end ShapeDomain
