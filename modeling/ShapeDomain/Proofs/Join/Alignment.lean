import ShapeDomain.Proofs.Join.Laying

/-!
# What aligning two layouts leads to

Aligning two layouts never stops with a fault.  Afterwards both objects have fields in exactly the
pieces that the boundaries of both layouts cut out of the fields of either, and each of the two
layouts depends on its former fields and on the ranges of the other one only.
-/

namespace ShapeDomain

namespace Alignment

variable {first : Nat} {object : ObjectId} {origin graph : Graph} {slots : BitRange → Slot}
variable {drawn : Nat → Prop} {here : Graph × Supply}

/-! ### Both sides -/

/-- The ranges that both objects have after their layouts were aligned. -/
def sharedRanges (fields1 fields2 : List Field) : List BitRange :=
  (fields1 ++ fields2).flatMap fun field => pieces (boundaries (fields1 ++ fields2)) field.range

/-- What an aligned layout has in a range that both sides have. -/
def slotAt (graph : Graph) (object : ObjectId) (range : BitRange) : Slot :=
  match (graph.fieldsOf object).find? fun field => decide (Within range field.range) with
  | some field => if range = field.range then .kept field.value else .filled field.value.isZero
  | none => .filled (graph.isValid object)

/-- The layout of an object after it was aligned with an object that has given fields. -/
def alignedSlots (graph : Graph) (object : ObjectId) (otherFields : List Field)
    (range : BitRange) : Slot :=
  if range ∈ sharedRanges (graph.fieldsOf object) otherFields then slotAt graph object range
  else .empty

theorem contains_boundaries_iff {fields : List Field} {cut : Nat} :
    (boundaries fields).contains cut = true ↔
      ∃ field ∈ fields, cut = field.range.offset ∨ cut = field.range.stop := by
  simp [boundaries, KeySet.contains_ofList]

theorem boundaries_append_comm (fields1 fields2 : List Field) :
    boundaries (fields1 ++ fields2) = boundaries (fields2 ++ fields1) := by
  have same (cut : Nat) : (boundaries (fields1 ++ fields2)).contains cut =
      (boundaries (fields2 ++ fields1)).contains cut := by
    rw [Bool.eq_iff_iff, contains_boundaries_iff, contains_boundaries_iff]
    simp only [List.mem_append, or_comm]
  refine Table.ext_get? fun cut => ?_
  have agree := same cut
  simp only [Table.contains] at agree
  cases here : (boundaries (fields1 ++ fields2)).get? cut <;>
    cases there : (boundaries (fields2 ++ fields1)).get? cut <;> simp_all

theorem mem_sharedRanges_comm {fields1 fields2 : List Field} {range : BitRange} :
    range ∈ sharedRanges fields1 fields2 ↔ range ∈ sharedRanges fields2 fields1 := by
  simp only [sharedRanges, boundaries_append_comm fields2 fields1, List.mem_flatMap,
    List.mem_append, or_comm]

/-- The pieces of some fields. -/
def allPieces (cuts : KeySet Nat) (fields : List Field) : List BitRange :=
  fields.flatMap fun field => pieces cuts field.range

theorem mem_sharedRanges_iff {fields1 fields2 : List Field} {range : BitRange} :
    range ∈ sharedRanges fields1 fields2 ↔
      range ∈ allPieces (boundaries (fields1 ++ fields2)) fields1 ∨
        range ∈ allPieces (boundaries (fields1 ++ fields2)) fields2 := by
  rw [sharedRanges, List.flatMap_append, List.mem_append]
  rfl

theorem slotAt_ne_empty (graph : Graph) (object : ObjectId) (range : BitRange) :
    slotAt graph object range ≠ .empty := by
  unfold slotAt
  split
  · split
    · exact Slot.noConfusion
    · rename_i field _ _
      cases field.value.isZero <;> exact Slot.noConfusion
  · cases graph.isValid object <;> exact Slot.noConfusion

theorem alignedSlots_ne_empty_iff {otherFields : List Field} {range : BitRange} :
    alignedSlots graph object otherFields range ≠ .empty ↔
      range ∈ sharedRanges (graph.fieldsOf object) otherFields := by
  unfold alignedSlots
  split
  case isTrue member => exact ⟨fun _ => member, fun _ => slotAt_ne_empty graph object range⟩
  case isFalse outside =>
    exact ⟨fun filled => absurd rfl filled, fun member => absurd member outside⟩

theorem Slot.filled_ne_kept {zeroed : Bool} {value : ValueId} : filled zeroed ≠ kept value := by
  cases zeroed <;> exact Slot.noConfusion

/-- A kept value was held before. -/
theorem valueAt?_of_alignedSlots {otherFields : List Field} {range : BitRange} {value : ValueId}
    (kept : alignedSlots graph object otherFields range = .kept value) :
    graph.valueAt? object range = some value := by
  unfold alignedSlots at kept
  split at kept
  case isFalse => cases kept
  case isTrue =>
    unfold slotAt at kept
    split at kept
    case h_1 field found =>
      split at kept
      case isTrue same =>
        obtain rfl := Slot.kept.inj kept
        rw [same]
        exact (Graph.mem_fieldsOf_iff.1 (List.mem_of_find?_eq_some found)).2
      case isFalse => exact absurd kept Slot.filled_ne_kept
    case h_2 => exact absurd kept Slot.filled_ne_kept

/-! ### Cutting all fields of an object -/

section Cut

variable {cuts : KeySet Nat}

/-- The layout of an object after all its fields were cut. -/
def cutSlots (cuts : KeySet Nat) (graph : Graph) (object : ObjectId) (range : BitRange) : Slot :=
  if range ∈ allPieces cuts (graph.fieldsOf object) then slotAt graph object range else .empty

theorem cutSlots_ne_empty_iff {range : BitRange} :
    cutSlots cuts graph object range ≠ .empty ↔ range ∈ allPieces cuts (graph.fieldsOf object) := by
  unfold cutSlots
  split
  case isTrue member => exact ⟨fun _ => member, fun _ => slotAt_ne_empty graph object range⟩
  case isFalse outside => exact ⟨fun no => absurd rfl no, fun member => absurd member outside⟩

/-- The layout of an object that gets the ranges of some fields which it does not have. -/
def filledSlots (slots : BitRange → Slot) (fields : List Field) (valid : Bool) (range : BitRange) :
    Slot :=
  if (∃ field ∈ fields, field.range = range) ∧ slots range = .empty then .filled valid
  else slots range

theorem filledSlots_ne_empty_iff {fields : List Field} {valid : Bool} {range : BitRange} :
    filledSlots slots fields valid range ≠ .empty ↔
      (∃ field ∈ fields, field.range = range) ∨ slots range ≠ .empty := by
  unfold filledSlots
  cases valid <;> by_cases absent : slots range = .empty <;> simp [absent, Slot.filled]

theorem cuttable_of_tiled (tiled : graph.Tiled) {field : Field}
    (member : field ∈ graph.fieldsOf object)
    (start : cuts.contains field.range.offset = true)
    (finish : cuts.contains field.range.stop = true) : Cuttable cuts object field := by
  obtain ⟨holder, held⟩ := Graph.mem_fieldsOf_iff.1 member
  obtain ⟨found, -, fit⟩ := tiled.fits held
  have exact := BitRange.stop_of_fits fit
  exact ⟨holder, tiled.positive held, exact, start, exact ▸ finish⟩

theorem pairwise_apart_fieldsOf (tiled : graph.Tiled) (object : ObjectId) :
    (graph.fieldsOf object).Pairwise fun a b => a.range.Apart b.range := by
  refine (Graph.pairwise_fieldsOf object).imp_of_mem ?_
  intro a b memberA memberB less
  rcases tiled.apart (Graph.mem_fieldsOf_iff.1 memberA).2 (Graph.mem_fieldsOf_iff.1 memberB).2
    with same | apart
  · rw [same] at less
    exact absurd less (Nat.lt_irrefl _)
  · exact apart

/-- The field around a range is found. -/
theorem find_within (tiled : graph.Tiled) {field : Field} {range : BitRange}
    (member : field ∈ graph.fieldsOf object) (positive : 0 < range.size)
    (within : Within range field.range) :
    (graph.fieldsOf object).find? (fun field => decide (Within range field.range)) =
      some field := by
  cases found : (graph.fieldsOf object).find? fun field => decide (Within range field.range) with
  | none =>
      have none := List.find?_eq_none.1 found field member
      simp [within] at none
  | some other =>
      have memberOther := List.mem_of_find?_eq_some found
      have withinOther : Within range other.range := by simpa using List.find?_some found
      obtain ⟨holder, held⟩ := Graph.mem_fieldsOf_iff.1 member
      obtain ⟨holderOther, heldOther⟩ := Graph.mem_fieldsOf_iff.1 memberOther
      rcases tiled.apart heldOther held with same | apart
      · rw [same, held, Option.some.injEq] at heldOther
        cases other; cases field
        simp_all
      · exact absurd (withinOther.apart apart) (within.not_apart positive)

theorem slotAt_of_within (tiled : graph.Tiled) {field : Field} {range : BitRange}
    (member : field ∈ graph.fieldsOf object) (positive : 0 < range.size)
    (within : Within range field.range) :
    slotAt graph object range =
      if range = field.range then .kept field.value else .filled field.value.isZero := by
  rw [slotAt, find_within tiled member positive within]

/-- The pieces of some fields are the undivided ranges within them. -/
theorem mem_allPieces_iff {fields : List Field} {holder : Field → ObjectId}
    (cuttable : ∀ field ∈ fields, Cuttable cuts (holder field) field) {range : BitRange} :
    range ∈ allPieces cuts fields ↔
      Elementary cuts range ∧ ∃ field ∈ fields, Within range field.range := by
  simp only [allPieces, List.mem_flatMap]
  constructor
  · rintro ⟨field, member, piece⟩
    obtain ⟨elementary, within⟩ := (cuttable field member).mem_pieces_iff.1 piece
    exact ⟨elementary, field, member, within⟩
  · rintro ⟨elementary, field, member, within⟩
    exact ⟨field, member, (cuttable field member).mem_pieces_iff.2 ⟨elementary, within⟩⟩

variable (cuttable : ∀ field ∈ graph.fieldsOf object, Cuttable cuts object field)

include cuttable

/-- Where an object has no piece, an undivided range is filled. -/
theorem slotAt_of_not_mem {range : BitRange} (elementary : Elementary cuts range)
    (outside : range ∉ allPieces cuts (graph.fieldsOf object)) :
    slotAt graph object range = .filled (graph.isValid object) := by
  have none : (graph.fieldsOf object).find? (fun field => decide (Within range field.range)) =
      none := by
    rw [List.find?_eq_none]
    intro field member
    simp only [decide_eq_true_eq]
    intro within
    exact outside ((mem_allPieces_iff cuttable).2 ⟨elementary, field, member, within⟩)
  rw [slotAt, none]

/-- The layout of an object after all its fields were cut. -/
theorem cutFields_laysOut (tiled : graph.Tiled) (positive : 0 < first)
    (old : ∀ range value, graph.valueAt? object range = some value → value.index < first)
    {supply : Supply} (started : first ≤ supply.next) :
    LaysOut (cutFields cuts (graph.fieldsOf object)) (graph, supply) first object graph
      (fun _ => False) fun lost slots =>
        lost = (graph.fieldsOf object).any (losesValue cuts) ∧
          slots = cutSlots cuts graph object := by
  have laying : Laying first object graph (present graph object) (fun _ => False)
      (graph, supply) := ⟨laid_start positive tiled old, started, fun _ none => none.elim⟩
  have kept (field : Field) (member : field ∈ graph.fieldsOf object) :
      present graph object field.range = .kept field.value := by
    rw [present, (Graph.mem_fieldsOf_iff.1 member).2]
  refine (laying.cutFields cuttable (pairwise_apart_fieldsOf tiled object) kept).mono ?_
  rintro lost slots ⟨rfl, outside, within⟩
  refine ⟨rfl, ?_⟩
  funext range
  rw [cutSlots]
  by_cases elsewhere : ∀ field ∈ graph.fieldsOf object, range.Apart field.range
  case pos =>
    have notPiece : range ∉ allPieces cuts (graph.fieldsOf object) := by
      intro member
      obtain ⟨elementary, field, memberField, inside⟩ := (mem_allPieces_iff cuttable).1 member
      exact inside.not_apart elementary.positive (elsewhere field memberField)
    have absent : graph.valueAt? object range = none := by
      cases held : graph.valueAt? object range with
      | none => rfl
      | some value =>
          have apart := elsewhere ⟨object, range, value⟩ (Graph.mem_fieldsOf.2 held)
          exact absurd rfl (apart.ne (tiled.positive held))
    rw [outside range elsewhere, if_neg notPiece, present, absent]
  case neg =>
    simp only [Classical.not_forall] at elsewhere
    obtain ⟨field, member, meeting⟩ := elsewhere
    rw [within field member range meeting, pieceSlot]
    by_cases piece : range ∈ pieces cuts field.range
    · obtain ⟨elementary, inside⟩ := (cuttable field member).mem_pieces_iff.1 piece
      rw [if_pos piece, if_pos ((mem_allPieces_iff cuttable).2 ⟨elementary, field, member, inside⟩),
        slotAt_of_within tiled member elementary.positive inside]
    · rw [if_neg piece, if_neg]
      intro member'
      obtain ⟨elementary, other, memberOther, inside⟩ := (mem_allPieces_iff cuttable).1 member'
      rcases elementary.within_or_apart (cuttable field member).start (cuttable field member).finish
        with inside' | apart
      · exact piece ((cuttable field member).mem_pieces_iff.2 ⟨elementary, inside'⟩)
      · exact meeting apart

/-- An object that is cut and gets all ranges that it shares has an aligned layout. -/
theorem filledSlots_eq_alignedSlots {fields otherFields : List Field}
    (elementary : ∀ field ∈ fields, Elementary cuts field.range)
    (shared : ∀ range, (∃ field ∈ fields, field.range = range) ∨
      range ∈ allPieces cuts (graph.fieldsOf object) ↔
        range ∈ sharedRanges (graph.fieldsOf object) otherFields) :
    filledSlots (cutSlots cuts graph object) fields (graph.isValid object) =
      alignedSlots graph object otherFields := by
  funext range
  rw [filledSlots, alignedSlots]
  by_cases own : range ∈ allPieces cuts (graph.fieldsOf object)
  · rw [if_neg fun both => cutSlots_ne_empty_iff.2 own both.2, if_pos ((shared range).1 (.inr own)),
      cutSlots, if_pos own]
  · have empty : cutSlots cuts graph object range = .empty := if_neg own
    by_cases other : ∃ field ∈ fields, field.range = range
    · rw [if_pos ⟨other, empty⟩, if_pos ((shared range).1 (.inl other))]
      obtain ⟨field, member, rfl⟩ := other
      exact (slotAt_of_not_mem cuttable (elementary field member) own).symm
    · rw [if_neg fun both => other both.1,
        if_neg fun isShared => ((shared range).2 isShared).elim other own, empty]

end Cut

/-! ### Aligning -/

/-- The status of an alignment: a side whose field loses its value knows less than the other. -/
def cutStatus (fields1 fields2 : List Field) : Status :=
  Status.meet
    (if fields1.any (losesValue (boundaries (fields1 ++ fields2))) then .rightEntail else .equal)
    (if fields2.any (losesValue (boundaries (fields1 ++ fields2))) then .leftEntail else .equal)

/-- Two objects were aligned, and for that exactly the values from `first` up to `last` were drawn,
those that satisfy `drawn1` for the left object and those that satisfy `drawn2` for the right
one. -/
structure Aligned (left right : Graph) (object1 object2 : ObjectId) (first last : Nat)
    (drawn1 drawn2 : Nat → Prop) (left' right' : Graph) : Prop where
  /-- The left object has the layout that its fields and those of the right one ask for. -/
  layout1 : Laid first object1 left
    (alignedSlots left object1 (right.fieldsOf object2)) drawn1 left'
  /-- So has the right object. -/
  layout2 : Laid first object2 right (alignedSlots right object2 (left.fieldsOf object1)) drawn2
    right'
  /-- Nothing was drawn in vain. -/
  drawn : ∀ index, drawn1 index ∨ drawn2 index ↔ first ≤ index ∧ index < last
  /-- No value was drawn for both objects. -/
  separate : ∀ index, drawn1 index → ¬ drawn2 index
  /-- The supply moves on. -/
  ordered : first ≤ last

/-- A layout has the fields whose slots are not empty. -/
theorem Laid.exists_field_iff (laid : Laid first object origin slots drawn graph)
    {range : BitRange} :
    (∃ field ∈ graph.fieldsOf object, field.range = range) ↔ slots range ≠ .empty := by
  rw [← (laid.holds range).isSome_iff]
  constructor
  · rintro ⟨field, member, rfl⟩
    rw [(Graph.mem_fieldsOf_iff.1 member).2]
    rfl
  · intro present
    obtain ⟨value, held⟩ := Option.isSome_iff_exists.1 present
    exact ⟨⟨object, range, value⟩, Graph.mem_fieldsOf.2 held, rfl⟩

/-- The supply may move on while another graph is worked on. -/
theorem Laying.later {supply later : Supply}
    (laying : Laying first object origin slots drawn (graph, supply))
    (after : supply.next ≤ later.next) :
    Laying first object origin slots drawn (graph, later) :=
  ⟨laying.toLaid, Nat.le_trans laying.started after,
    fun index isDrawn => Nat.lt_of_lt_of_le (laying.early index isDrawn) after⟩

/-- Adding to an object the ranges of another one, where the ranges of both are undivided. -/
theorem Laying.addMissing {cuts : KeySet Nat}
    (laying : Laying first object origin slots drawn here) {fields : List Field}
    (separate : fields.Pairwise fun a b => a.range.Apart b.range)
    (fits : ∀ field ∈ fields,
      ∃ found, origin.object? object = some found ∧ field.range.fits found.size = true)
    (elementary : ∀ field ∈ fields, Elementary cuts field.range)
    (own : ∀ range, slots range ≠ .empty → Elementary cuts range) :
    LaysOut (addMissing object fields) here first object origin drawn fun _ slots' =>
      slots' = filledSlots slots fields (origin.isValid object) := by
  have apart (field : Field) (member : field ∈ fields) (absent : slots field.range = .empty)
      (other : BitRange) (filled : slots other ≠ .empty) : other.Apart field.range := by
    rcases (own other filled).eq_or_apart (elementary field member) with same | apart
    · rw [same] at filled
      exact absurd absent filled
    · exact apart
  have fill := (laying.fillMissingAll (here.1.isValid object) separate
    (fun field member => (elementary field member).positive) fits apart).mono
    fun _ _ filled => funext filled
  rw [laying.relaid.isValid] at fill
  unfold LaysOut Run.Ends at fill ⊢
  rw [addMissing_apply, laying.relaid.isValid]
  exact fill

variable {left right : Graph} {object1 object2 : ObjectId} {source1 source2 : Object}

/-- What aligning two objects of one size does to their fields. -/
def alignFields (object1 object2 : ObjectId) (fields1 fields2 : List Field) :
    Run (Graph × Graph) Status := do
  let cuts := boundaries (fields1 ++ fields2)
  let lostLeft ← onLeft (cutFields cuts fields1)
  let lostRight ← onRight (cutFields cuts fields2)
  let split2 ← Run.ask fun sides => sides.2.fieldsOf object2
  onLeft (addMissing object1 split2)
  let filled1 ← Run.ask fun sides => sides.1.fieldsOf object1
  onRight (addMissing object2 filled1)
  return Status.meet
    (if lostLeft then .rightEntail else .equal) (if lostRight then .leftEntail else .equal)

/-- Aligning two objects comes down to their fields. -/
theorem align_eq (object1 object2 : ObjectId) :
    align object1 object2 = (do
      let source1 ← Run.demand fun sides : Graph × Graph => sides.1.object object1
      let source2 ← Run.demand fun sides => sides.2.object object2
      if source1.size ≠ source2.size then
        return .incomparable
      else
        let fields1 ← Run.ask fun sides => sides.1.fieldsOf object1
        let fields2 ← Run.ask fun sides => sides.2.fieldsOf object2
        alignFields object1 object2 fields1 fields2) := rfl

theorem align_apply (found1 : left.object? object1 = some source1)
    (found2 : right.object? object2 = some source2) (size : source1.size = source2.size)
    (supply : Supply) :
    align object1 object2 ((left, right), supply) =
      alignFields object1 object2 (left.fieldsOf object1) (right.fieldsOf object2)
        ((left, right), supply) := by
  have given1 : Run.demand (fun sides : Graph × Graph => sides.1.object object1)
      ((left, right), supply) = .ok source1 ((left, right), supply) :=
    Run.demand_apply_ok ((left.object_eq_ok_iff).2 found1)
  have given2 : Run.demand (fun sides : Graph × Graph => sides.2.object object2)
      ((left, right), supply) = .ok source2 ((left, right), supply) :=
    Run.demand_apply_ok ((right.object_eq_ok_iff).2 found2)
  rw [align, Run.bind_apply_ok given1, Run.bind_apply_ok given2, if_neg (by simpa using size)]
  rfl

/-- What fits an object fits another one of the same size. -/
theorem Laid.fits_other (laid : Laid first object2 right slots drawn graph)
    (found1 : left.object? object1 = some source1) (found2 : right.object? object2 = some source2)
    (size : source1.size = source2.size) {field : Field}
    (member : field ∈ graph.fieldsOf object2) :
    ∃ found, left.object? object1 = some found ∧ field.range.fits found.size = true := by
  obtain ⟨found, there, fit⟩ := laid.tiled.fits (Graph.mem_fieldsOf_iff.1 member).2
  rw [laid.relaid.object?, found2, Option.some.injEq] at there
  subst there
  exact ⟨source1, found1, size ▸ fit⟩

section Sides

variable {α : Type} {computation : Run Graph α} {good : α → (BitRange → Slot) → Prop}
variable {supply : Supply}

/-- Laying out an object of the left graph leaves the right graph as it is. -/
theorem LaysOut.onLeft
    (laysOut : LaysOut computation (left, supply) first object origin drawn good) :
    Run.Ends (Alignment.onLeft computation) ((left, right), supply)
      (fun result there => supply.next ≤ there.2.next ∧ there.1.2 = right ∧ ∃ slots,
        good result slots ∧ Laying first object origin slots (upTo drawn supply.next there.2.next)
          (there.1.1, there.2))
      (fun _ _ => False) := by
  refine Run.Ends.within laysOut ?_ fun _ _ none => none
  rintro result there ⟨after, slots, holds, laying⟩
  exact ⟨after, rfl, slots, holds, laying⟩

/-- Laying out an object of the right graph leaves the left graph as it is. -/
theorem LaysOut.onRight
    (laysOut : LaysOut computation (right, supply) first object origin drawn good) :
    Run.Ends (Alignment.onRight computation) ((left, right), supply)
      (fun result there => supply.next ≤ there.2.next ∧ there.1.1 = left ∧ ∃ slots,
        good result slots ∧ Laying first object origin slots (upTo drawn supply.next there.2.next)
          (there.1.2, there.2))
      (fun _ _ => False) := by
  refine Run.Ends.within laysOut ?_ fun _ _ none => none
  rintro result there ⟨after, slots, holds, laying⟩
  exact ⟨after, rfl, slots, holds, laying⟩

end Sides

/-- Aligning two objects of the same size goes through. -/
theorem align_ends {supply : Supply} (positive : 0 < supply.next)
    (found1 : left.object? object1 = some source1) (found2 : right.object? object2 = some source2)
    (size : source1.size = source2.size) (tiled1 : left.Tiled) (tiled2 : right.Tiled)
    (old1 : ∀ range value, left.valueAt? object1 range = some value → value.index < supply.next)
    (old2 : ∀ range value, right.valueAt? object2 range = some value →
      value.index < supply.next) :
    Run.Ends (align object1 object2) ((left, right), supply)
      (fun status there =>
        status = cutStatus (left.fieldsOf object1) (right.fieldsOf object2) ∧
        ∃ drawn1 drawn2, Aligned left right object1 object2 supply.next there.2.next
          drawn1 drawn2 there.1.1 there.1.2)
      (fun _ _ => False) := by
  let fields1 := left.fieldsOf object1
  let fields2 := right.fieldsOf object2
  let cuts := boundaries (fields1 ++ fields2)
  have cuttable1 : ∀ field ∈ fields1, Cuttable cuts object1 field := fun field member =>
    cuttable_of_tiled tiled1 member
      (contains_boundaries_iff.2 ⟨field, List.mem_append_left _ member, .inl rfl⟩)
      (contains_boundaries_iff.2 ⟨field, List.mem_append_left _ member, .inr rfl⟩)
  have cuttable2 : ∀ field ∈ fields2, Cuttable cuts object2 field := fun field member =>
    cuttable_of_tiled tiled2 member
      (contains_boundaries_iff.2 ⟨field, List.mem_append_right _ member, .inl rfl⟩)
      (contains_boundaries_iff.2 ⟨field, List.mem_append_right _ member, .inr rfl⟩)
  have elementary1 (range : BitRange) (piece : range ∈ allPieces cuts fields1) :
      Elementary cuts range := ((mem_allPieces_iff cuttable1).1 piece).1
  have elementary2 (range : BitRange) (piece : range ∈ allPieces cuts fields2) :
      Elementary cuts range := ((mem_allPieces_iff cuttable2).1 piece).1
  unfold align
  refine Run.ends_bind_of_ok (Run.demand_apply_ok ((Graph.object_eq_ok_iff _).2 found1)) ?_
  refine Run.ends_bind_of_ok (Run.demand_apply_ok ((Graph.object_eq_ok_iff _).2 found2)) ?_
  rw [if_neg (by simpa using size)]
  refine Run.ends_bind_of_ok (Run.ask_apply _ _) ?_
  refine Run.ends_bind_of_ok (Run.ask_apply _ _) ?_
  -- Both objects are cut.
  refine Run.ends_bind _
    (cutFields_laysOut cuttable1 tiled1 positive old1 (Nat.le_refl _)).onLeft ?_
  rintro _ ⟨⟨left1, right1⟩, supply1⟩ ⟨after1, (rfl : right1 = right), _, ⟨rfl, rfl⟩, laying1⟩
  refine Run.ends_bind _ (cutFields_laysOut cuttable2 tiled2 positive old2 after1).onRight ?_
  rintro _ ⟨⟨left2, right2⟩, supply2⟩ ⟨after2, (rfl : left2 = left1), _, ⟨rfl, rfl⟩, laying2⟩
  refine Run.ends_bind_of_ok (Run.ask_apply _ _) ?_
  -- The left object gets the pieces of the right one.
  have has2 (range : BitRange) : (∃ field ∈ right2.fieldsOf object2, field.range = range) ↔
      range ∈ allPieces cuts fields2 :=
    laying2.toLaid.exists_field_iff.trans cutSlots_ne_empty_iff
  have piece2 (field : Field) (member : field ∈ right2.fieldsOf object2) :
      Elementary cuts field.range := elementary2 _ ((has2 _).1 ⟨field, member, rfl⟩)
  refine Run.ends_bind _ ((laying1.later after2).addMissing
    (pairwise_apart_fieldsOf laying2.tiled object2)
    (fun field member => laying2.toLaid.fits_other found1 found2 size member) piece2
    (fun range filled => elementary1 range (cutSlots_ne_empty_iff.1 filled))).onLeft ?_
  rintro _ ⟨⟨left3, right3⟩, supply3⟩ ⟨after3, (rfl : right3 = right2), _, rfl, laying3⟩
  refine Run.ends_bind_of_ok (Run.ask_apply _ _) ?_
  -- The right object gets all pieces that it does not have.
  have has1 (range : BitRange) : (∃ field ∈ left3.fieldsOf object1, field.range = range) ↔
      range ∈ allPieces cuts fields2 ∨ range ∈ allPieces cuts fields1 := by
    rw [laying3.toLaid.exists_field_iff, filledSlots_ne_empty_iff, cutSlots_ne_empty_iff, has2]
  have piece1 (field : Field) (member : field ∈ left3.fieldsOf object1) :
      Elementary cuts field.range :=
    ((has1 _).1 ⟨field, member, rfl⟩).elim (elementary2 _) (elementary1 _)
  refine Run.ends_bind _ ((laying2.later after3).addMissing
    (pairwise_apart_fieldsOf laying3.tiled object1)
    (fun field member => laying3.toLaid.fits_other found2 found1 size.symm member) piece1
    (fun range filled => elementary2 range (cutSlots_ne_empty_iff.1 filled))).onRight ?_
  rintro _ ⟨⟨left4, right4⟩, supply4⟩ ⟨after4, (rfl : left4 = left3), _, rfl, laying4⟩
  simp only at after1 after2 after3 after4
  have layout1 : filledSlots (cutSlots cuts left object1) (right3.fieldsOf object2)
      (left.isValid object1) = alignedSlots left object1 fields2 :=
    filledSlots_eq_alignedSlots cuttable1 piece2 fun range => by
      rw [has2, or_comm, mem_sharedRanges_iff]
  have layout2 : filledSlots (cutSlots cuts right1 object2) (left4.fieldsOf object1)
      (right1.isValid object2) = alignedSlots right1 object2 fields1 :=
    filledSlots_eq_alignedSlots cuttable2 piece1 fun range => by
      rw [has1, mem_sharedRanges_comm, mem_sharedRanges_iff]
      exact ⟨fun either => either.elim Or.symm .inr, fun either => .inl either.symm⟩
  refine Run.ends_pure ⟨rfl, _, _, layout1 ▸ laying3.toLaid, layout2 ▸ laying4.toLaid, ?_, ?_, ?_⟩
  · intro index
    simp only [upTo, false_or]
    omega
  · intro index drawn1 drawn2
    simp only [upTo, false_or] at drawn1 drawn2
    omega
  · show supply.next ≤ supply4.next
    omega

end Alignment

namespace Join

variable {left right : Graph} {object1 object2 : ObjectId}

/-- Two objects have fields in the same ranges. -/
def SameRanges (left right : Graph) (object1 object2 : ObjectId) : Prop :=
  ∀ range, (left.valueAt? object1 range).isSome = (right.valueAt? object2 range).isSome

theorem SameRanges.valueAt?_eq (same : SameRanges left right object1 object2) (range : BitRange) :
    right.valueAt? object2 range =
      (left.valueAt? object1 range).map fun _ => (right.valueAt? object2 range).getD .zero := by
  have both := same range
  cases held1 : left.valueAt? object1 range <;> cases held2 : right.valueAt? object2 range <;>
    simp_all

/-- Alignment passes its check. -/
theorem SameRanges.check (same : SameRanges left right object1 object2) :
    Alignment.check left right object1 object2 = .ok () := by
  have fields := Graph.fieldsOf_eq_map
    (fun range _ => (right.valueAt? object2 range).getD .zero) same.valueAt?_eq
  have ranges : Alignment.ranges left object1 = Alignment.ranges right object2 := by
    rw [Alignment.ranges, Alignment.ranges, fields, List.map_map]
    rfl
  rw [Alignment.check, if_pos ranges]

end Join

end ShapeDomain
