import ShapeDomain.Proofs.Join.Clipping
import ShapeDomain.Proofs.Join.SameRanges

/-!
# Aligned layouts

Two objects of one size are aligned exactly if none of their fields is empty.  Then both have fields
in the ranges between neighbouring bounds that lie inside a field of either; a field that is not cut
keeps its value, the pieces of zero are zero, and every other range gets zero or a value of its own.
Nothing else changes in the two graphs, which stay consistent.  Fields of other objects may be
empty: the two objects are aligned as if they were alone.
-/

namespace ShapeDomain

namespace Graph

variable {origin graph : Graph} {object : ObjectId}

/-- A graph that differs from another one only in the layout of one object and in the values that
this object holds. -/
structure RelaidAt (origin : Graph) (object : ObjectId) (graph : Graph) : Prop extends
    origin.Relaid graph where
  /-- The other layouts stay as they are. -/
  others : ∀ other, other ≠ object → graph.layouts.get? other = origin.layouts.get? other
  /-- The object holds all new values. -/
  values : ∀ value, graph.hasValue value = true ↔
    origin.hasValue value = true ∨ ∃ range, graph.valueAt? object range = some value

theorem checkFields_mono {size least : Nat} {fields : List Field}
    (more : ∀ value, origin.hasValue value = true → graph.hasValue value = true)
    (passed : origin.checkFields size least fields = .ok ()) :
    graph.checkFields size least fields = .ok () := by
  induction fields generalizing least with
  | nil => rfl
  | cons field rest ih =>
      unfold checkFields at passed ⊢
      split at passed
      · cases passed
      · split at passed
        · cases passed
        · split at passed
          · cases passed
          · rename_i start within held
            rw [if_neg start, if_neg within, more field.value (by simpa using held)]
            exact ih passed

/-- If the new layout of the object is tiled, the graph passes the check. -/
theorem RelaidAt.checked (relaid : RelaidAt origin object graph) (checked : origin.Checked)
    {size : Nat} (tiled : graph.TiledAt object size) : graph.Checked where
  zero := (relaid.target? .zero).trans checked.zero
  layouts := by
    rintro ⟨id, layout⟩ member
    have present := Table.mem_toList_iff.1 member
    by_cases same : id = object
    case pos =>
      subst same
      obtain ⟨found, isObject, rfl⟩ := tiled.present
      have given : graph.object id = .ok found := (graph.object_eq_ok_iff).2 isObject
      simp only [checkLayout, given, bind, Except.bind, fields_of_layout present]
      refine checkFields_of_follow (follow_of_apart tiled.positive tiled.apart)
        (fun _ _ => Nat.zero_le _) (fun field inside => ?_) fun field inside => ?_
      · exact tiled.fits (mem_fieldsOf_iff.1 inside).2
      · exact (relaid.values _).2 (.inr ⟨field.range, (mem_fieldsOf_iff.1 inside).2⟩)
    case neg =>
      rw [relaid.others id same] at present
      have passed := checked.layouts (id, layout) (Table.mem_toList_iff.2 present)
      simp only [checkLayout, relaid.object] at passed ⊢
      cases given : origin.object id with
      | error fault =>
          rw [given] at passed
          cases passed
      | ok object =>
          rw [given] at passed
          exact checkFields_mono (fun value known => (relaid.values value).2 (.inl known)) passed
  pointers pointer member := by
    have leads := mem_pointers_iff.1 member
    rw [relaid.target?] at leads
    rw [hasObject, relaid.objects]
    exact checked.pointers pointer (mem_pointers_iff.2 leads)
  roots entry member := by
    rw [hasObject, relaid.objects]
    refine checked.roots entry ?_
    rwa [roots, frames, relaid.globals, relaid.stack] at member

theorem Clipped.relaid {keep : Nat → Bool} {part : Graph}
    (clipped : Clipped origin object keep part graph)
    (relaid : (origin.clip object keep).Relaid part) : origin.Relaid graph := by
  rw [clipped.same]
  exact ⟨relaid.objects, relaid.knowledge, relaid.inequalities, relaid.stack, relaid.globals,
    relaid.machine⟩

/-- The graph in which no other object has fields. -/
abbrev alone (graph : Graph) (object : ObjectId) : Graph :=
  graph.clip object fun _ => true

theorem fieldsOf_alone : (graph.alone object).fieldsOf object = graph.fieldsOf object := by
  rw [fieldsOf_clip, List.filter_true]

theorem valueAt?_alone (range : BitRange) :
    (graph.alone object).valueAt? object range = graph.valueAt? object range := by
  rw [valueAt?_clip, if_pos rfl]

end Graph

namespace Alignment

variable {first last : Nat} {object object1 object2 : ObjectId}
    {origin part graph left right : Graph}
variable {drawn : Nat → Prop} {others : List Field} {supply : Supply}

/-! ### One side -/

/-- What an object holds after it was aligned: `fields` are its former fields, `others` are those of
the other object, and the values with indices from `first` up to `last` were drawn. -/
structure Refilled (fields others : List Field) (valid : Bool) (first last : Nat)
    (held : BitRange → Option ValueId) : Prop where
  /-- The ranges are those between neighbouring bounds that lie inside a field of either object. -/
  ranges : ∀ range, (held range).isSome = true ↔
    Elementary (boundaries (fields ++ others)) range ∧
      ∃ field ∈ fields ++ others, Within range field.range
  /-- A field that is not cut keeps its value. -/
  whole : ∀ field ∈ fields, inside (boundaries (fields ++ others)) field.range = [] →
    held field.range = some field.value
  /-- The pieces of a field hold zero if the field did, and drawn values otherwise. -/
  pieces : ∀ field ∈ fields, inside (boundaries (fields ++ others)) field.range ≠ [] →
    ∀ range value, held range = some value → Within range field.range →
      if field.value = .zero then value = .zero else first ≤ value.index ∧ value.index < last
  /-- Elsewhere there is zero in a valid object and a drawn value in an invalid one. -/
  gaps : ∀ range value, held range = some value → (∀ field ∈ fields, ¬ Within range field.range) →
    if valid then value = .zero else first ≤ value.index ∧ value.index < last
  /-- No drawn value is held twice. -/
  distinct : ∀ range other value, held range = some value → held other = some value →
    first ≤ value.index → range = other

theorem Slot.of_holds_filled {zeroed : Bool} {value : ValueId}
    (holds : (filled zeroed).Holds first drawn (some value)) :
    if zeroed then value = .zero else drawn value.index := by
  cases zeroed with
  | true => exact Option.some.inj holds
  | false =>
      obtain ⟨index, same, isDrawn⟩ := holds
      obtain rfl := Option.some.inj same
      exact isDrawn

/-- An aligned object holds zero, values that it held before, and drawn ones. -/
theorem Laid.old_or_drawn
    (laid : Laid first object origin (alignedSlots left object others) drawn graph)
    {range : BitRange} {value : ValueId} (held : graph.valueAt? object range = some value) :
    value = .zero ∨ left.valueAt? object range = some value ∨ drawn value.index := by
  have holds := laid.holds range
  rw [held] at holds
  cases slot : alignedSlots left object others range with
  | empty =>
      rw [slot] at holds
      cases holds
  | kept old =>
      rw [slot] at holds
      obtain rfl := Option.some.inj holds.1
      exact .inr (.inl (valueAt?_of_alignedSlots slot))
  | zero =>
      rw [slot] at holds
      exact .inl (Option.some.inj holds)
  | unknown =>
      rw [slot] at holds
      obtain ⟨index, same, isDrawn⟩ := holds
      obtain rfl := Option.some.inj same
      exact .inr (.inr isDrawn)

/-- What an aligned layout says of the object. -/
theorem Laid.refilled (tiled : origin.Tiled)
    (cuttable : ∀ field ∈ origin.fieldsOf object ++ others,
      Cuttable (boundaries (origin.fieldsOf object ++ others)) field.object field)
    (laid : Laid first object origin (alignedSlots origin object others) drawn graph)
    (early : ∀ index, drawn index → index < last) :
    Refilled (origin.fieldsOf object) others (origin.isValid object) first last
      (graph.valueAt? object) := by
  have held_iff (range : BitRange) : (graph.valueAt? object range).isSome = true ↔
      range ∈ sharedRanges (origin.fieldsOf object) others :=
    (laid.holds range).isSome_iff.trans alignedSlots_ne_empty_iff
  have shared {range : BitRange} {value : ValueId}
      (held : graph.valueAt? object range = some value) :
      range ∈ sharedRanges (origin.fieldsOf object) others :=
    (held_iff range).1 (by rw [held]; rfl)
  have slot {range : BitRange} {value : ValueId} (held : graph.valueAt? object range = some value) :
      (slotAt origin object range).Holds first drawn (some value) := by
    have holds := laid.holds range
    rwa [held, alignedSlots, if_pos (shared held)] at holds
  have filled {zeroed : Bool} {value : ValueId}
      (holds : (Slot.filled zeroed).Holds first drawn (some value)) :
      if zeroed then value = .zero else first ≤ value.index ∧ value.index < last := by
    have known := Slot.of_holds_filled holds
    cases zeroed with
    | true => exact known
    | false => exact ⟨laid.late _ known, early _ known⟩
  refine ⟨fun range => (held_iff range).trans (mem_allPieces_iff cuttable), ?_, ?_, ?_, ?_⟩
  · intro field member whole
    have isCuttable := cuttable field (List.mem_append_left _ member)
    have piece := isCuttable.mem_pieces_self_iff.2 whole
    have isShared : field.range ∈ sharedRanges (origin.fieldsOf object) others :=
      List.mem_flatMap.2 ⟨field, List.mem_append_left _ member, piece⟩
    refine laid.valueAt?_of_kept ?_
    rw [alignedSlots, if_pos isShared,
      slotAt_of_within tiled member isCuttable.positive (isCuttable.mem_pieces_iff.1 piece).2,
      if_pos rfl]
  · intro field member cut range value held within
    have isCuttable := cuttable field (List.mem_append_left _ member)
    have elementary := ((mem_allPieces_iff cuttable).1 (shared held)).1
    have different : range ≠ field.range := by
      rintro rfl
      exact cut (isCuttable.mem_pieces_self_iff.1
        (isCuttable.mem_pieces_iff.2 ⟨elementary, within⟩))
    have holds := slot held
    rw [slotAt_of_within tiled member elementary.positive within, if_neg different] at holds
    simpa only [ValueId.isZero, beq_iff_eq] using filled holds
  · intro range value held outside
    have holds := slot held
    have none : (origin.fieldsOf object).find? (fun field => decide (Within range field.range)) =
        none := by
      rw [List.find?_eq_none]
      intro field member
      simpa using outside field member
    rw [slotAt, none] at holds
    exact filled holds
  · intro range other value held held' late
    exact laid.once range other value.index (laid.drawn_of_held held late) held held'

/-- An object of a consistent graph was aligned, and the graph is still consistent. -/
structure Realigned (origin : Graph) (object : ObjectId) (otherFields : List Field)
    (first last : Nat) (graph : Graph) : Prop extends origin.RelaidAt object graph where
  /-- The object holds what it should. -/
  refilled : Refilled (origin.fieldsOf object) otherFields (origin.isValid object) first last
    (graph.valueAt? object)
  /-- The graph is consistent. -/
  consistent : graph.Consistent

theorem alignedSlots_alone :
    alignedSlots (origin.alone object) object others = alignedSlots origin object others := by
  unfold alignedSlots slotAt
  rw [Graph.fieldsOf_alone]
  rfl

/-- The bounds of fields are cuts, so fields that have bits can be cut there. -/
theorem cuttable_of_bounds (reach : graph.InReach) {fields : List Field}
    {field : Field} (member : field ∈ graph.fieldsOf object) (among : field ∈ fields)
    (bits : 0 < field.range.size) : Cuttable (boundaries fields) object field := by
  obtain ⟨holder, held⟩ := Graph.mem_fieldsOf_iff.1 member
  have bound := reach.of_held held
  have exact : field.range.stop = field.range.offset + field.range.size := Nat.min_eq_left bound
  exact ⟨holder, bits, exact, contains_boundaries_iff.2 ⟨field, among, .inl rfl⟩,
    contains_boundaries_iff.2 ⟨field, among, .inr exact.symm⟩⟩

theorem cuttable_append {cuts : KeySet Nat} {fields1 fields2 : List Field}
    (cuttable1 : ∀ field ∈ fields1, Cuttable cuts object1 field)
    (cuttable2 : ∀ field ∈ fields2, Cuttable cuts object2 field) :
    ∀ field ∈ fields1 ++ fields2, Cuttable cuts field.object field := by
  intro field member
  rcases List.mem_append.1 member with here | there
  · exact { cuttable1 field here with holder := rfl }
  · exact { cuttable2 field there with holder := rfl }

section Realigned

variable
    (laid : Laid first object (origin.alone object) (alignedSlots origin object others) drawn part)
variable (clipped : Graph.Clipped origin object (fun _ => true) part graph)

include laid clipped

/-- An object that was aligned as if it were alone is tiled in its graph. -/
theorem Laid.tiledAt {source : Object} (found : origin.object? object = some source) :
    graph.TiledAt object source.size where
  present := ⟨source, ((clipped.relaid laid.relaid).object? object).trans found, rfl⟩
  positive held := laid.tiled.positive ((clipped.valueAt? rfl).symm.trans held)
  fits held := by
    obtain ⟨found', there, fit⟩ := laid.tiled.fits ((clipped.valueAt? rfl).symm.trans held)
    rw [laid.relaid.object?] at there
    obtain rfl := Option.some.inj (found.symm.trans there)
    exact fit
  apart here there := laid.tiled.apart ((clipped.valueAt? rfl).symm.trans here)
    ((clipped.valueAt? rfl).symm.trans there)

/-- Its graph has the values that it had, and those that the object holds now. -/
theorem Laid.hasValue_iff (checked : origin.Checked) (reach : origin.InReach) (value : ValueId) :
    graph.hasValue value = true ↔
      origin.hasValue value = true ∨ ∃ range, graph.valueAt? object range = some value := by
  have hasZero : origin.hasValue .zero = true := Graph.hasValue_of_target? checked.zero
  have same : graph.hasValue value = part.hasValue value := by
    rw [clipped.same]
    rfl
  rw [same]
  by_cases isZero : value = .zero
  case pos =>
    subst isZero
    exact ⟨fun _ => .inl hasZero, fun _ => laid.zero hasZero⟩
  case neg =>
    rw [laid.values value isZero]
    constructor
    · rintro (old | isDrawn)
      · exact .inl old
      · obtain ⟨range, held⟩ := laid.onto _ isDrawn
        exact .inr ⟨range, (clipped.valueAt? rfl).trans held⟩
    · rintro (old | ⟨range, held⟩)
      · exact .inl old
      · rcases laid.old_or_drawn ((clipped.valueAt? rfl).symm.trans held) with
          rfl | before | isDrawn
        · exact absurd rfl isZero
        · exact .inl (checked.of_held reach before).2.1
        · exact .inr isDrawn

/-- So the object was aligned in its graph. -/
theorem Laid.realigned {source : Object} (checked : origin.Checked) (reach : origin.InReach)
    (found : origin.object? object = some source)
    (bits : ∀ field ∈ origin.fieldsOf object, 0 < field.range.size)
    (cuttable : ∀ field ∈ origin.fieldsOf object ++ others,
      Cuttable (boundaries (origin.fieldsOf object ++ others)) field.object field)
    (early : ∀ index, drawn index → index < last) :
    Realigned origin object others first last graph ∧ graph.TiledAt object source.size := by
  have tiledAlone : (origin.alone object).Tiled := checked.tiled_clip reach fun held _ =>
    bits _ (Graph.mem_fieldsOf.2 held)
  have tiled := laid.tiledAt clipped found
  have relaidAt : origin.RelaidAt object graph :=
    ⟨clipped.relaid laid.relaid, clipped.others, laid.hasValue_iff clipped checked reach⟩
  refine ⟨⟨relaidAt, ?_, Graph.check_eq_ok_iff.2 (relaidAt.checked checked tiled)⟩, tiled⟩
  have same (range : BitRange) : graph.valueAt? object range = part.valueAt? object range :=
    clipped.valueAt? rfl
  rw [← alignedSlots_alone] at laid
  rw [← Graph.fieldsOf_alone] at cuttable ⊢
  rw [funext same]
  exact laid.refilled tiledAlone cuttable early

end Realigned

/-! ### Empty fields -/

section Empty

variable {cuts : KeySet Nat} {here there : Graph × Supply}

theorem cutField_of_empty {field : Field} (empty : field.range.size = 0) :
    cutField cuts field here = .error (.emptyField field.object field.range.offset) here := by
  have stop : field.range.stop ≤ field.range.offset := by
    have bound : field.range.stop ≤ field.range.offset + field.range.size := Nat.min_le_left _ _
    omega
  unfold cutField
  rw [if_pos stop]
  rfl

/-- Cutting stops at the first empty field. -/
theorem cutFields_stops {early later : List Field} {field : Field} {lost : Bool}
    (empty : field.range.size = 0) (done : cutFields cuts early here = .ok lost there) :
    cutFields cuts (early ++ field :: later) here =
      .error (.emptyField field.object field.range.offset) there := by
  induction early generalizing here lost with
  | nil =>
      cases done
      exact Run.bind_apply_error (cutField_of_empty empty)
  | cons first rest ih =>
      unfold cutFields at done
      obtain ⟨_, between, cut, after⟩ := Run.bind_eq_ok_iff.1 done
      obtain ⟨_, _, cutRest, last⟩ := Run.bind_eq_ok_iff.1 after
      cases last
      rw [List.cons_append, cutFields, Run.bind_apply_ok cut]
      exact Run.bind_apply_error (ih cutRest)

variable (checked : graph.Checked) (reach : graph.InReach) (prior : graph.DrawnBefore supply.next)

include checked reach prior

/-- What comes before an empty field can be cut. -/
theorem cutFields_of_bits {early later : List Field}
    (fields : graph.fieldsOf object = early ++ later)
    (cuttable : ∀ field ∈ early, Cuttable cuts object field) :
    ∃ lost graph' now, cutFields cuts early (graph, supply) = .ok lost (graph', now) ∧
      supply.next ≤ now.next := by
  -- The fields that start before all later ones are kept.
  let keep (offset : Nat) : Bool := later.all fun field => decide (offset < field.range.offset)
  have kept (field : Field) (member : field ∈ early) (offset : Nat)
      (before : offset < field.range.stop) : keep offset = true := by
    obtain ⟨-, held⟩ := Graph.mem_fieldsOf_iff.1 (fields ▸ List.mem_append_left later member)
    have follow := (checked.of_held reach held).2.2
    rw [fields, List.pairwise_append] at follow
    have exact := (cuttable field member).exact
    refine List.all_eq_true.2 fun next among => decide_eq_true ?_
    have bound := follow.2.2 field member next among
    omega
  have start (field : Field) (member : field ∈ early) : keep field.range.offset = true := by
    have bits := (cuttable field member).positive
    have exact := (cuttable field member).exact
    exact kept field member _ (by omega)
  have clipped : (graph.clip object keep).fieldsOf object = early := by
    rw [Graph.fieldsOf_clip, fields, List.filter_append, List.filter_eq_self.2 start,
      List.filter_eq_nil_iff.2, List.append_nil]
    intro field member isKept
    have before := List.all_eq_true.1 isKept field member
    simp at before
  have tiled : (graph.clip object keep).Tiled := checked.tiled_clip reach fun held isKept => by
    have clippedHeld := (Graph.valueAt?_clip _).trans ((if_pos isKept).trans held)
    exact (cuttable _ (clipped ▸ Graph.mem_fieldsOf.2 clippedHeld)).positive
  have old (range : BitRange) (value : ValueId)
      (held : (graph.clip object keep).valueAt? object range = some value) :
      value.index < supply.next :=
    prior.held checked reach (Graph.of_valueAt?_clip held).2.2
  have ends := cutFields_laysOut (clipped.symm ▸ cuttable) tiled (prior.positive checked) old
    (Nat.le_refl _)
  obtain ⟨lost, ⟨part, now⟩, done, after, -⟩ := ends.exists_ok
  rw [clipped] at done
  obtain ⟨graph', done', -⟩ :=
    lifts_cutFields (clipped_lasts graph object keep)
      (fun field member => (cuttable field member).holder)
      start (fun field member => (cuttable field member).visible (kept field member))
      _ _ _ _ _ _ (graph.clipped_clip object keep) done
  exact ⟨lost, graph', now, done', after⟩

/-- Cutting the fields of an object stops if one of them is empty. -/
theorem cutFields_of_empty {fields : List Field} (among : graph.fieldsOf object ⊆ fields)
    {field : Field} (member : field ∈ graph.fieldsOf object) (empty : field.range.size = 0) :
    ∃ holder offset there, cutFields (boundaries fields) (graph.fieldsOf object) (graph, supply) =
      .error (.emptyField holder offset) there := by
  obtain ⟨first, found⟩ := Option.isSome_iff_exists.1
    (List.find?_isSome.2 ⟨field, member, beq_iff_eq.2 empty⟩ :
      ((graph.fieldsOf object).find? fun field => field.range.size == 0).isSome = true)
  obtain ⟨isEmpty, early, later, split, bits⟩ := List.find?_eq_some_iff_append.1 found
  have cuttable (field : Field) (here : field ∈ early) :
      Cuttable (boundaries fields) object field := by
    have isField : field ∈ graph.fieldsOf object := split ▸ List.mem_append_left _ here
    have proper := bits field here
    exact cuttable_of_bounds reach isField (among isField) (by simp at proper; omega)
  obtain ⟨lost, graph', now, done, -⟩ := cutFields_of_bits checked reach prior split cuttable
  exact ⟨_, _, _, split ▸ cutFields_stops (beq_iff_eq.1 isEmpty) done⟩

end Empty

section Exact

variable {source1 source2 : Object}
variable (checked1 : left.Checked) (checked2 : right.Checked)
variable (reach1 : left.InReach) (reach2 : right.InReach)
variable (drawn1 : left.DrawnBefore supply.next) (drawn2 : right.DrawnBefore supply.next)
variable (found1 : left.object? object1 = some source1)
    (found2 : right.object? object2 = some source2)
variable (size : source1.size = source2.size)

include checked1 checked2 reach1 reach2 drawn1 drawn2 found1 found2 size

/-- Where no field is empty, aligning goes through, and once is enough. -/
theorem align_of_bits (bits1 : ∀ field ∈ left.fieldsOf object1, 0 < field.range.size)
    (bits2 : ∀ field ∈ right.fieldsOf object2, 0 < field.range.size) :
    ∃ left' right' now,
      align object1 object2 ((left, right), supply) =
          .ok (cutStatus (left.fieldsOf object1) (right.fieldsOf object2)) ((left', right'), now) ∧
        Realigned left object1 (right.fieldsOf object2) supply.next now.next left' ∧
        Realigned right object2 (left.fieldsOf object1) supply.next now.next right' ∧
        (∀ range other value, left'.valueAt? object1 range = some value →
          right'.valueAt? object2 other = some value → value.index < supply.next) ∧
        align object1 object2 ((left', right'), now) = .ok .equal ((left', right'), now) := by
  let fields1 := left.fieldsOf object1
  let fields2 := right.fieldsOf object2
  have tiled1 : (left.alone object1).Tiled := checked1.tiled_clip reach1 fun held _ =>
    bits1 _ (Graph.mem_fieldsOf.2 held)
  have tiled2 : (right.alone object2).Tiled := checked2.tiled_clip reach2 fun held _ =>
    bits2 _ (Graph.mem_fieldsOf.2 held)
  have old1 (range : BitRange) (value : ValueId)
      (held : (left.alone object1).valueAt? object1 range = some value) :
      value.index < supply.next :=
    drawn1.held checked1 reach1 ((Graph.valueAt?_alone range).symm.trans held)
  have old2 (range : BitRange) (value : ValueId)
      (held : (right.alone object2).valueAt? object2 range = some value) :
      value.index < supply.next :=
    drawn2.held checked2 reach2 ((Graph.valueAt?_alone range).symm.trans held)
  have cuttable1 (field : Field) (member : field ∈ fields1) :
      Cuttable (boundaries (fields1 ++ fields2)) object1 field :=
    cuttable_of_bounds reach1 member (List.mem_append_left _ member) (bits1 field member)
  have cuttable2 (field : Field) (member : field ∈ fields2) :
      Cuttable (boundaries (fields1 ++ fields2)) object2 field :=
    cuttable_of_bounds reach2 member (List.mem_append_right _ member) (bits2 field member)
  have found1' : (left.alone object1).object? object1 = some source1 := found1
  have found2' : (right.alone object2).object? object2 = some source2 := found2
  -- The two objects are aligned as if they were alone.
  obtain ⟨status, ⟨⟨part1, part2⟩, now⟩, alone, rfl, drawn1', drawn2', aligned⟩ :=
    (align_ends (drawn1.positive checked1) found1' found2' size tiled1 tiled2 old1 old2).exists_ok
  rw [align_apply found1' found2' size, Graph.fieldsOf_alone, Graph.fieldsOf_alone] at alone
  have lifts := lifts_alignFields (clipped_lasts left object1 fun _ => true)
    (clipped_lasts right object2 fun _ => true)
    (fun field member => (cuttable1 field member).holder)
    fun field member => (cuttable2 field member).holder
  obtain ⟨⟨left', right'⟩, done, clipped1, clipped2⟩ :=
    lifts (left.alone object1, right.alone object2) (left, right) _ _ _ _
      ⟨left.clipped_clip object1 _, right.clipped_clip object2 _⟩ alone
  simp only at clipped1 clipped2 aligned
  rw [← align_apply found1 found2 size] at done
  have layout1 := aligned.layout1
  have layout2 := aligned.layout2
  rw [Graph.fieldsOf_alone, alignedSlots_alone] at layout1 layout2
  obtain ⟨realigned1, tiled1'⟩ := layout1.realigned clipped1 checked1 reach1 found1 bits1
    (cuttable_append cuttable1 cuttable2)
    fun index isDrawn => ((aligned.drawn index).1 (.inl isDrawn)).2
  obtain ⟨realigned2, tiled2'⟩ := layout2.realigned clipped2 checked2 reach2 found2 bits2
    (boundaries_append_comm fields1 fields2 ▸ cuttable_append cuttable2 cuttable1)
    fun index isDrawn => ((aligned.drawn index).1 (.inr isDrawn)).2
  refine ⟨left', right', now, done, realigned1, realigned2, ?_, ?_⟩
  · intro range other value held1 held2
    refine Nat.lt_of_not_le fun late => ?_
    exact aligned.separate
      _ (aligned.layout1.drawn_of_held ((clipped1.valueAt? rfl).symm.trans held1) late)
      (aligned.layout2.drawn_of_held ((clipped2.valueAt? rfl).symm.trans held2) late)
  · refine align_of_sameRanges tiled1' ((realigned2.object? _).trans found2) size.symm ?_ now
    intro range
    rw [Bool.eq_iff_iff, realigned1.refilled.ranges, realigned2.refilled.ranges,
      boundaries_append_comm]
    exact and_congr_right fun _ => exists_congr fun field =>
      and_congr_left fun _ => List.perm_append_comm.mem_iff

/-- Where a field of one of the objects is empty, aligning them stops with a fault that says so. -/
theorem align_of_empty {field : Field}
    (member : field ∈ left.fieldsOf object1 ++ right.fieldsOf object2)
    (empty : field.range.size = 0) :
    ∃ holder offset there, align object1 object2 ((left, right), supply) =
      .error (.emptyField holder offset) there := by
  let fields1 := left.fieldsOf object1
  let fields2 := right.fieldsOf object2
  have among1 : fields1 ⊆ fields1 ++ fields2 := List.subset_append_left _ _
  have among2 : fields2 ⊆ fields1 ++ fields2 := List.subset_append_right _ _
  rw [align_apply found1 found2 size, alignFields]
  by_cases bits1 : ∀ field ∈ fields1, 0 < field.range.size
  case neg =>
    simp only [not_forall, Nat.pos_iff_ne_zero, Decidable.not_not] at bits1
    obtain ⟨first, here, isEmpty⟩ := bits1
    obtain ⟨holder, offset, there, stopped⟩ :=
      cutFields_of_empty checked1 reach1 drawn1 among1 here isEmpty
    refine ⟨holder, offset, ((there.1, right), there.2), Run.bind_apply_error ?_⟩
    rw [onLeft, Run.within_apply, stopped]
  case pos =>
    have there : field ∈ fields2 := (List.mem_append.1 member).resolve_left fun here =>
      absurd empty (Nat.ne_of_gt (bits1 field here))
    -- The left object is cut before the empty field of the right one is found.
    obtain ⟨lost, left', now, done, after⟩ :=
      cutFields_of_bits checked1 reach1 drawn1 (List.append_nil fields1).symm fun field here =>
        cuttable_of_bounds reach1 here (among1 here) (bits1 field here)
    obtain ⟨holder, offset, there, stopped⟩ :=
      cutFields_of_empty checked2 reach2 (drawn2.later after) among2 there empty
    have cut : onLeft (cutFields (boundaries (fields1 ++ fields2)) fields1)
      ((left, right), supply) =
        .ok lost ((left', right), now) := by
      rw [onLeft, Run.within_apply, done]
    refine ⟨holder, offset, ((left', there.1), there.2), ?_⟩
    rw [Run.bind_apply_ok cut]
    refine Run.bind_apply_error ?_
    rw [onRight, Run.within_apply, stopped]

end Exact

/-- Aligning two objects of one size in consistent graphs stops with a fault exactly if one of their
fields is empty.  Otherwise it goes through: both objects get the same ranges, nothing else changes,
the graphs stay consistent, no value is drawn twice, and aligning the objects once more changes
nothing. -/
theorem align_exact {source1 source2 : Object} (consistent1 : left.Consistent)
    (consistent2 : right.Consistent) (reach1 : left.InReach) (reach2 : right.InReach)
    (drawn1 : left.DrawnBefore supply.next) (drawn2 : right.DrawnBefore supply.next)
    (found1 : left.object? object1 = some source1) (found2 : right.object? object2 = some source2)
    (size : source1.size = source2.size) :
    ((∃ holder offset there, align object1 object2 ((left, right), supply) =
          .error (.emptyField holder offset) there) ↔
        ∃ field ∈ left.fieldsOf object1 ++ right.fieldsOf object2, field.range.size = 0) ∧
      ((∀ field ∈ left.fieldsOf object1 ++ right.fieldsOf object2, field.range.size ≠ 0) →
        ∃ left' right' now,
          align object1 object2 ((left, right), supply) =
              .ok (cutStatus (left.fieldsOf object1) (right.fieldsOf object2))
                ((left', right'), now) ∧
            Realigned left object1 (right.fieldsOf object2) supply.next now.next left' ∧
            Realigned right object2 (left.fieldsOf object1) supply.next now.next right' ∧
            (∀ range other value, left'.valueAt? object1 range = some value →
              right'.valueAt? object2 other = some value → value.index < supply.next) ∧
            align object1 object2 ((left', right'), now) = .ok .equal ((left', right'), now)) := by
  have bits (proper : ∀ field ∈ left.fieldsOf object1 ++ right.fieldsOf object2,
      field.range.size ≠ 0) :=
    align_of_bits consistent1.checked consistent2.checked reach1 reach2 drawn1 drawn2 found1 found2
      size (fun field here => Nat.pos_of_ne_zero (proper field (List.mem_append_left _ here)))
      fun field there => Nat.pos_of_ne_zero (proper field (List.mem_append_right _ there))
  refine ⟨⟨fun ⟨holder, offset, there, stopped⟩ => ?_, fun ⟨field, member, empty⟩ => ?_⟩, bits⟩
  · refine Classical.byContradiction fun none => ?_
    obtain ⟨left', right', now, done, -⟩ := bits fun field member empty =>
      none ⟨field, member, empty⟩
    rw [stopped] at done
    cases done
  · exact align_of_empty consistent1.checked consistent2.checked reach1 reach2 drawn1 drawn2 found1
      found2 size member empty

end Alignment

/-- A variable that holds an unknown value, beside a node with an empty field. -/
def wholeWord : Graph :=
  (((((Graph.initial .linux64).declareGlobal "x" ⟨1⟩ (.region 64 "x")).putField
    ⟨⟨1⟩, ⟨0, 64⟩, ⟨2⟩⟩).addHeapObject ⟨3⟩ (.region 8 "node")).putField ⟨⟨3⟩, ⟨4, 0⟩, ⟨2⟩⟩)

/-- The same variable, where only the first half is known to be zero. -/
def halfWord : Graph :=
  ((Graph.initial .linux64).declareGlobal "x" ⟨1⟩ (.region 64 "x")).putField
    ⟨⟨1⟩, ⟨0, 32⟩, .zero⟩

namespace Alignment

/-- The unknown value is cut in two, and the second half of the other variable is zero too. -/
theorem align_exact_word :
    ∃ left' right' now,
      align ⟨1⟩ ⟨1⟩ ((wholeWord, halfWord), ⟨4⟩) = .ok .rightEntail ((left', right'), now) ∧
        Realigned wholeWord ⟨1⟩ (halfWord.fieldsOf ⟨1⟩) 4 now.next left' ∧
        Realigned halfWord ⟨1⟩ (wholeWord.fieldsOf ⟨1⟩) 4 now.next right' ∧
        (∀ range other value, left'.valueAt? ⟨1⟩ range = some value →
          right'.valueAt? ⟨1⟩ other = some value → value.index < 4) ∧
        align ⟨1⟩ ⟨1⟩ ((left', right'), now) = .ok .equal ((left', right'), now) := by
  have status : cutStatus (wholeWord.fieldsOf ⟨1⟩) (halfWord.fieldsOf ⟨1⟩) = .rightEntail := by
    decide +kernel
  have drawn1 : wholeWord.DrawnBefore (Supply.mk 4).next := by decide +kernel
  have drawn2 : halfWord.DrawnBefore (Supply.mk 4).next := by decide +kernel
  rw [← status]
  exact (align_exact (by decide +kernel) (by decide +kernel) (by decide +kernel)
    (by decide +kernel) drawn1 drawn2 rfl rfl rfl).2 (by decide +kernel)

end Alignment

end ShapeDomain
