import ShapeDomain.Proofs.Graph.Relaid
import ShapeDomain.Proofs.Join.Pieces
import ShapeDomain.Proofs.Run

/-!
# Laying out an object anew

While two layouts are aligned, fields are cut and missing ranges are added.  What a range of an
object holds then is its slot: the value of a field that was there, zero, or a value that was drawn
for this range alone.  Each step of the alignment changes the slots as it is described here, and
none of them stops with a fault.
-/

namespace ShapeDomain

namespace Alignment

/-! ### Slots -/

/-- What a range of an object holds after its layout was aligned. -/
inductive Slot where
  /-- There is no such field. -/
  | empty
  /-- A value that was there before. -/
  | kept (value : ValueId)
  /-- Zero. -/
  | zero
  /-- A value that was drawn for this range. -/
  | unknown
  deriving DecidableEq

namespace Slot

/-- The slot of a range that got its value during alignment. -/
def filled (zeroed : Bool) : Slot :=
  if zeroed then zero else unknown

/-- Whether a lookup finds what the slot says, where the values with indices from `first` on that
satisfy `drawn` were drawn. -/
def Holds (first : Nat) (drawn : Nat → Prop) : Slot → Option ValueId → Prop
  | empty, held => held = none
  | kept value, held => held = some value ∧ value.index < first
  | zero, held => held = some .zero
  | unknown, held => ∃ index, held = some ⟨index⟩ ∧ drawn index

theorem Holds.mono {first : Nat} {drawn drawn' : Nat → Prop} {slot : Slot} {held : Option ValueId}
    (holds : slot.Holds first drawn held) (more : ∀ index, drawn index → drawn' index) :
    slot.Holds first drawn' held := by
  cases slot with
  | unknown =>
      obtain ⟨index, same, known⟩ := holds
      exact ⟨index, same, more index known⟩
  | _ => exact holds

theorem Holds.isSome_iff {first : Nat} {drawn : Nat → Prop} {slot : Slot}
    {held : Option ValueId} (holds : slot.Holds first drawn held) :
    held.isSome = true ↔ slot ≠ empty := by
  cases slot with
  | empty => simp [show held = none from holds]
  | kept value => simp [holds.1]
  | zero => simp [show held = some .zero from holds]
  | unknown =>
      obtain ⟨index, same, -⟩ := holds
      simp [same]

end Slot

/-- An object of a graph is being laid out anew: its ranges hold what `slots` says, where exactly
the values whose indices satisfy `drawn` were drawn, each one for a range of its own. -/
structure Laid (first : Nat) (object : ObjectId) (origin : Graph) (slots : BitRange → Slot)
    (drawn : Nat → Prop) (graph : Graph) : Prop where
  /-- Zero is not drawn. -/
  positive : 0 < first
  /-- Nothing but layouts changes. -/
  relaid : origin.Relaid graph
  /-- The other layouts stay as they are. -/
  others : ∀ other, other ≠ object → graph.layout other = origin.layout other
  /-- The graph stays tiled. -/
  tiled : graph.Tiled
  /-- The object holds what the slots say. -/
  holds : ∀ range, (slots range).Holds first drawn (graph.valueAt? object range)
  /-- Values are drawn from `first` on. -/
  late : ∀ index, drawn index → first ≤ index
  /-- Every drawn value is held. -/
  onto : ∀ index, drawn index → ∃ range, graph.valueAt? object range = some ⟨index⟩
  /-- A drawn value is held only once. -/
  once : ∀ range other index, drawn index → graph.valueAt? object range = some ⟨index⟩ →
    graph.valueAt? object other = some ⟨index⟩ → range = other
  /-- Apart from zero, the values of the graph are the former ones and the drawn ones. -/
  values : ∀ value, value ≠ .zero →
    (graph.hasValue value = true ↔ origin.hasValue value = true ∨ drawn value.index)
  /-- Zero does not get lost. -/
  zero : origin.hasValue .zero = true → graph.hasValue .zero = true

/-- The slots of a layout that is not changed yet. -/
def present (graph : Graph) (object : ObjectId) (range : BitRange) : Slot :=
  match graph.valueAt? object range with
  | some value => .kept value
  | none => .empty

/-- The values that were drawn so far and those from `start` up to `stop`. -/
def upTo (drawn : Nat → Prop) (start stop : Nat) (index : Nat) : Prop :=
  drawn index ∨ (start ≤ index ∧ index < stop)

variable {first : Nat} {object : ObjectId} {origin graph : Graph} {slots : BitRange → Slot}
variable {drawn : Nat → Prop} {supply : Supply}

theorem laid_start (positive : 0 < first) (tiled : graph.Tiled)
    (old : ∀ range value, graph.valueAt? object range = some value → value.index < first) :
    Laid first object graph (present graph object) (fun _ => False) graph where
  positive := positive
  relaid := .refl graph
  others _ _ := rfl
  tiled := tiled
  holds range := by
    unfold present
    split
    case h_1 value held => exact ⟨held, old range value held⟩
    case h_2 absent => exact absent
  late _ none := none.elim
  onto _ none := none.elim
  once _ _ _ none := none.elim
  values _ _ := by simp
  zero present := present

theorem Laid.valueAt?_of_kept (laid : Laid first object origin slots drawn graph)
    {range : BitRange} {value : ValueId} (kept : slots range = .kept value) :
    graph.valueAt? object range = some value := by
  have holds := laid.holds range
  rw [kept] at holds
  exact holds.1

/-- Where the slot is not empty, there is a field. -/
theorem Laid.exists_of_ne_empty (laid : Laid first object origin slots drawn graph)
    {range : BitRange} (filled : slots range ≠ .empty) :
    ∃ value, graph.valueAt? object range = some value :=
  Option.isSome_iff_exists.1 ((laid.holds range).isSome_iff.2 filled)

/-- A range that is not apart from a field and is not its range has no field. -/
theorem Laid.eq_empty (laid : Laid first object origin slots drawn graph)
    {range outer : BitRange} {value : ValueId} (held : graph.valueAt? object outer = some value)
    (different : range ≠ outer) (meeting : ¬ range.Apart outer) : slots range = .empty := by
  refine Classical.byContradiction fun filled => ?_
  obtain ⟨other, found⟩ := laid.exists_of_ne_empty filled
  rcases laid.tiled.apart found held with same | apart
  · exact different same
  · exact meeting apart

/-! ### Filling a range -/

/-- Zero or a new value. -/
def fillValue (zeroed : Bool) : Run Graph ValueId :=
  if zeroed then pure .zero else Graph.newValue

/-- Adds a field with zero or with a new value. -/
def fill (object : ObjectId) (zeroed : Bool) (range : BitRange) : Run Graph Unit := do
  let value ← fillValue zeroed
  Run.attempt fun graph => graph.addField ⟨object, range, value⟩

theorem newValue_apply (graph : Graph) (supply : Supply) :
    Graph.newValue (graph, supply) =
      .ok ⟨supply.next⟩ (graph.addValue ⟨supply.next⟩, ⟨supply.next + 1⟩) := rfl

theorem vacant_addValue {range : BitRange} (vacant : graph.Vacant object range) (value : ValueId) :
    (graph.addValue value).Vacant object range :=
  ⟨vacant.positive, vacant.fits, fun held => vacant.apart held⟩

theorem fill_apply_zero {range : BitRange} (vacant : graph.Vacant object range) :
    fill object true range (graph, supply) =
      .ok () (graph.putField ⟨object, range, .zero⟩, supply) := by
  have added : graph.addField ⟨object, range, .zero⟩ =
    .ok (graph.putField ⟨object, range, .zero⟩) :=
    Graph.addField_of_vacant vacant
  rw [fill, fillValue, if_pos rfl, Run.bind_apply_ok (Run.pure_apply _ _)]
  exact Run.attempt_apply_ok added

theorem fill_apply_unknown {range : BitRange} (vacant : graph.Vacant object range) :
    fill object false range (graph, supply) =
      .ok () ((graph.addValue ⟨supply.next⟩).putField ⟨object, range, ⟨supply.next⟩⟩,
        ⟨supply.next + 1⟩) := by
  have added : (graph.addValue ⟨supply.next⟩).addField ⟨object, range, ⟨supply.next⟩⟩ =
      .ok ((graph.addValue ⟨supply.next⟩).putField ⟨object, range, ⟨supply.next⟩⟩) :=
    Graph.addField_of_vacant (vacant_addValue vacant ⟨supply.next⟩)
  rw [fill, fillValue, if_neg Bool.false_ne_true, Run.bind_apply_ok (newValue_apply _ _)]
  exact Run.attempt_apply_ok added

theorem tiled_addValue (tiled : graph.Tiled) (value : ValueId) : (graph.addValue value).Tiled :=
  ⟨fun held => tiled.positive held, fun held => tiled.fits held,
    fun here there => tiled.apart here there⟩

/-- What is held with an index from `first` on was drawn. -/
theorem Laid.drawn_of_held (laid : Laid first object origin slots drawn graph)
    {range : BitRange} {index : Nat} (held : graph.valueAt? object range = some ⟨index⟩)
    (late : first ≤ index) : drawn index := by
  have holds := laid.holds range
  have positive := laid.positive
  rw [held] at holds
  cases slot : slots range with
  | empty => simp [slot, Slot.Holds] at holds
  | kept value =>
      simp only [slot, Slot.Holds, Option.some.injEq] at holds
      have early := holds.2
      rw [← holds.1] at early
      exact absurd late (Nat.not_le_of_lt early)
  | zero =>
      simp only [slot, Slot.Holds, Option.some.injEq, ValueId.zero, ValueId.mk.injEq] at holds
      omega
  | unknown =>
      simp only [slot, Slot.Holds, Option.some.injEq, ValueId.mk.injEq] at holds
      obtain ⟨_, rfl, isDrawn⟩ := holds
      exact isDrawn

/-- What an object that is laid out anew holds after one more field was put into it. -/
theorem Laid.valueAt?_put (laid : Laid first object origin slots drawn graph) {range : BitRange}
    (vacant : graph.Vacant object range) (value : ValueId) (other : BitRange) :
    (graph.putField ⟨object, range, value⟩).valueAt? object other =
      if other = range then some value else graph.valueAt? object other := by
  rw [laid.tiled.valueAt?_putField ⟨object, range, value⟩ vacant]
  simp

/-- Putting zero into a free range. -/
theorem Laid.putZero (laid : Laid first object origin slots drawn graph) {range : BitRange}
    (vacant : graph.Vacant object range) :
    Laid first object origin (fun other => if other = range then .zero else slots other) drawn
      (graph.putField ⟨object, range, .zero⟩) where
  positive := laid.positive
  relaid := laid.relaid.putField _
  others other distinct := by
    rw [Graph.layout_putField_of_ne (by exact distinct)]
    exact laid.others other distinct
  tiled := laid.tiled.putField vacant
  holds other := by
    rw [laid.valueAt?_put vacant]
    split
    · rfl
    · exact laid.holds other
  late := laid.late
  onto index isDrawn := by
    obtain ⟨other, held⟩ := laid.onto index isDrawn
    refine ⟨other, ?_⟩
    have different : other ≠ range := by
      rintro rfl
      rw [vacant.valueAt?_eq_none] at held
      simp at held
    rw [laid.valueAt?_put vacant, if_neg different, held]
  once here there index isDrawn := by
    have proper : index ≠ 0 := by
      have := laid.late index isDrawn
      have := laid.positive
      omega
    rw [laid.valueAt?_put vacant, laid.valueAt?_put vacant]
    have notZero : (ValueId.zero : ValueId) ≠ ⟨index⟩ := by
      simpa [ValueId.zero] using proper.symm
    split
    · simp [notZero]
    · split
      · simp [notZero]
      · exact laid.once here there index isDrawn
  values value proper := by
    rw [Graph.hasValue_putField, ← laid.values value proper]
    simp [proper]
  zero _ := by simp

/-- Putting a value that is drawn now into a free range. -/
theorem Laid.putNew (laid : Laid first object origin slots drawn graph) {range : BitRange}
    (vacant : graph.Vacant object range) {next : Nat} (late : first ≤ next)
    (fresh : ¬ drawn next) :
    Laid first object origin (fun other => if other = range then .unknown else slots other)
      (upTo drawn next (next + 1))
      ((graph.addValue ⟨next⟩).putField ⟨object, range, ⟨next⟩⟩) := by
  have lookup (other : BitRange) :
      ((graph.addValue ⟨next⟩).putField ⟨object, range, ⟨next⟩⟩).valueAt? object other =
        if other = range then some ⟨next⟩ else graph.valueAt? object other :=
    laid.valueAt?_put vacant ⟨next⟩ other
  have unheld (other : BitRange) : graph.valueAt? object other ≠ some ⟨next⟩ := fun held =>
    fresh (laid.drawn_of_held held late)
  refine ⟨laid.positive, (laid.relaid.addValue _).putField _, fun other distinct => ?_,
    (tiled_addValue laid.tiled _).putField (vacant_addValue vacant _), fun other => ?_,
    fun index isDrawn => ?_, fun index isDrawn => ?_, fun here there index isDrawn => ?_,
    fun value proper => ?_, fun present => ?_⟩
  · rw [Graph.layout_putField_of_ne (by exact distinct)]
    exact laid.others other distinct
  · rw [lookup]
    split
    · exact ⟨next, rfl, .inr ⟨Nat.le_refl _, Nat.lt_succ_self _⟩⟩
    · exact (laid.holds other).mono fun index earlier => .inl earlier
  · rcases isDrawn with earlier | now
    · exact laid.late index earlier
    · omega
  · rcases isDrawn with earlier | now
    · obtain ⟨other, held⟩ := laid.onto index earlier
      refine ⟨other, ?_⟩
      have different : other ≠ range := by
        rintro rfl
        rw [vacant.valueAt?_eq_none] at held
        simp at held
      rw [lookup, if_neg different, held]
    · obtain rfl : index = next := by omega
      exact ⟨range, by rw [lookup, if_pos rfl]⟩
  · rw [lookup, lookup]
    split <;> split
    case isTrue.isTrue same same' =>
      intro _ _
      exact same.trans same'.symm
    case isTrue.isFalse =>
      intro here there
      rw [← here] at there
      exact absurd there (unheld _)
    case isFalse.isTrue =>
      intro here there
      rw [← there] at here
      exact absurd here (unheld _)
    case isFalse.isFalse =>
      intro here there
      rcases isDrawn with earlier | now
      · exact laid.once _ _ index earlier here there
      · obtain rfl : index = next := by omega
        exact absurd here (unheld _)
  · have index_iff : value = ⟨next⟩ ↔ next ≤ value.index ∧ value.index < next + 1 := by
      obtain ⟨index⟩ := value
      rw [ValueId.mk.injEq]
      show index = next ↔ next ≤ index ∧ index < next + 1
      omega
    rw [Graph.hasValue_putField, Graph.hasValue_addValue, upTo, ← index_iff, ← or_assoc,
      ← laid.values value proper]
    simp [or_comm]
  · simp [Graph.hasValue_addValue, laid.zero present]

theorem upTo_self (drawn : Nat → Prop) (next : Nat) : upTo drawn next next = drawn := by
  funext index
  simp only [upTo, eq_iff_iff, or_iff_left_iff_imp]
  intro none
  omega

theorem upTo_upTo (drawn : Nat → Prop) {start middle stop : Nat} (first : start ≤ middle)
    (second : middle ≤ stop) :
    upTo (upTo drawn start middle) middle stop = upTo drawn start stop := by
  funext index
  simp only [upTo, or_assoc, eq_iff_iff]
  constructor
  · rintro (earlier | now | later)
    · exact .inl earlier
    · exact .inr (by omega)
    · exact .inr (by omega)
  · rintro (earlier | now)
    · exact .inl earlier
    · by_cases before : index < middle
      · exact .inr (.inl (by omega))
      · exact .inr (.inr (by omega))

/-- An object is being laid out anew with values from a supply that has drawn all of them. -/
structure Laying (first : Nat) (object : ObjectId) (origin : Graph) (slots : BitRange → Slot)
    (drawn : Nat → Prop) (here : Graph × Supply) : Prop extends
    Laid first object origin slots drawn here.1 where
  /-- The supply is past the start. -/
  started : first ≤ here.2.next
  /-- What was drawn is not drawn again. -/
  early : ∀ index, drawn index → index < here.2.next

/-- A computation lays out an object, with more values drawn for that, and does not stop. -/
def LaysOut {α : Type} (computation : Run Graph α) (here : Graph × Supply) (first : Nat)
    (object : ObjectId) (origin : Graph) (drawn : Nat → Prop)
    (good : α → (BitRange → Slot) → Prop) : Prop :=
  Run.Ends computation here
    (fun result there => here.2.next ≤ there.2.next ∧ ∃ slots, good result slots ∧
      Laying first object origin slots (upTo drawn here.2.next there.2.next) there)
    (fun _ _ => False)

variable {α β : Type} {here : Graph × Supply}

theorem Laying.laysOut_pure (laying : Laying first object origin slots drawn here) {result : α}
    {good : α → (BitRange → Slot) → Prop} (holds : good result slots) :
    LaysOut (pure result) here first object origin drawn good := by
  refine Run.ends_pure ⟨Nat.le_refl _, slots, holds, ?_⟩
  rw [upTo_self]
  exact laying

theorem LaysOut.bind {computation : Run Graph α} {next : α → Run Graph β}
    {middle : α → (BitRange → Slot) → Prop} {good : β → (BitRange → Slot) → Prop}
    (start : LaysOut computation here first object origin drawn middle)
    (rest : ∀ result there slots drawn, middle result slots →
      Laying first object origin slots drawn there →
      LaysOut (next result) there first object origin drawn good) :
    LaysOut (computation >>= next) here first object origin drawn good := by
  refine Run.Ends.bind start ?_
  rintro result there ⟨before, slots, holds, laying⟩
  refine (rest result there slots _ holds laying).mono ?_ (fun _ _ none => none)
  rintro final finish ⟨after, slots, holds, laying⟩
  rw [upTo_upTo _ before after] at laying
  exact ⟨Nat.le_trans before after, slots, holds, laying⟩

theorem LaysOut.mono {computation : Run Graph α} {good good' : α → (BitRange → Slot) → Prop}
    (lays : LaysOut computation here first object origin drawn good)
    (goods : ∀ result slots, good result slots → good' result slots) :
    LaysOut computation here first object origin drawn good' :=
  Run.Ends.mono lays
    (fun _ _ ⟨before, slots, holds, laying⟩ => ⟨before, slots, goods _ slots holds, laying⟩)
    (fun _ _ none => none)

/-- Filling a free range. -/
theorem Laying.fill (laying : Laying first object origin slots drawn here) {range : BitRange}
    (vacant : here.1.Vacant object range) (zeroed : Bool) :
    LaysOut (fill object zeroed range) here first object origin drawn fun _ slots' =>
      ∀ other, slots' other = if other = range then .filled zeroed else slots other := by
  obtain ⟨graph, supply⟩ := here
  cases zeroed with
  | true =>
      refine Run.ends_of_ok (fill_apply_zero vacant) ⟨Nat.le_refl _, _, fun _ => rfl, ?_⟩
      rw [upTo_self]
      exact ⟨laying.toLaid.putZero vacant, laying.started, laying.early⟩
  | false =>
      have started : first ≤ supply.next := laying.started
      have early : ∀ index, drawn index → index < supply.next := laying.early
      refine Run.ends_of_ok (fill_apply_unknown vacant)
        ⟨Nat.le_succ _, _, fun _ => rfl,
          laying.toLaid.putNew vacant started fun drawnNow => ?_, ?_, ?_⟩
      · exact Nat.lt_irrefl _ (early _ drawnNow)
      · exact Nat.le_succ_of_le started
      · rintro index (earlier | now)
        · exact Nat.lt_succ_of_lt (early index earlier)
        · exact now.2

/-- A free range stays free when a range apart from it is filled. -/
theorem Laying.vacant (laying : Laying first object origin slots drawn here) {range : BitRange}
    (positive : 0 < range.size)
    (fits : ∃ found, origin.object? object = some found ∧ range.fits found.size = true)
    (apart : ∀ other, slots other ≠ .empty → other.Apart range) :
    here.1.Vacant object range where
  positive := positive
  fits := by
    rw [laying.relaid.object?]
    exact fits
  apart held := by
    refine apart _ ((laying.holds _).isSome_iff.1 ?_)
    rw [held]
    rfl

/-- Filling several free ranges. -/
theorem Laying.fillAll (laying : Laying first object origin slots drawn here) (zeroed : Bool)
    {ranges : List BitRange} (separate : ranges.Pairwise BitRange.Apart)
    (positive : ∀ range ∈ ranges, 0 < range.size)
    (fits : ∀ range ∈ ranges,
      ∃ found, origin.object? object = some found ∧ range.fits found.size = true)
    (apart : ∀ range ∈ ranges, ∀ other, slots other ≠ .empty → other.Apart range) :
    LaysOut (ranges.forM (Alignment.fill object zeroed)) here first object origin drawn
      fun _ slots' =>
        ∀ other, slots' other = if other ∈ ranges then .filled zeroed else slots other := by
  induction ranges generalizing here slots drawn with
  | nil => exact laying.laysOut_pure fun other => by simp
  | cons range rest ih =>
      obtain ⟨before, separateRest⟩ := List.pairwise_cons.1 separate
      have vacant := laying.vacant (positive range List.mem_cons_self)
        (fits range List.mem_cons_self) (apart range List.mem_cons_self)
      refine (laying.fill vacant zeroed).bind ?_
      intro _ there slots' drawn' update laying'
      have apart' (later : BitRange) (member : later ∈ rest) (other : BitRange)
          (filled : slots' other ≠ .empty) : other.Apart later := by
        rw [update] at filled
        split at filled
        case isTrue same => exact same ▸ before later member
        case isFalse => exact apart later (List.mem_cons_of_mem _ member) other filled
      refine (ih laying' separateRest
        (fun later member => positive later (List.mem_cons_of_mem _ member))
        (fun later member => fits later (List.mem_cons_of_mem _ member)) apart').mono ?_
      intro _ final updateRest other
      rw [updateRest, update]
      by_cases same : other = range
      · simp [same]
      · simp [same]

/-! ### Cutting fields -/

/-- Removing a field that was there before. -/
theorem Laying.remove (laying : Laying first object origin slots drawn here) {range : BitRange}
    {value : ValueId} (kept : slots range = .kept value) :
    Laying first object origin (fun other => if other = range then .empty else slots other) drawn
      (here.1.removeField ⟨object, range, value⟩, here.2) := by
  have held : here.1.valueAt? object range = some value := laying.valueAt?_of_kept kept
  have present : here.1.hasField ⟨object, range, value⟩ = true := Graph.hasField_iff.2 held
  have lookup (other : BitRange) :
      (here.1.removeField ⟨object, range, value⟩).valueAt? object other =
        if other = range then none else here.1.valueAt? object other := by
    rw [Graph.valueAt?_removeField]
    simp [present]
  have early : value.index < first := by
    have holds := laying.holds range
    rw [kept] at holds
    exact holds.2
  refine ⟨⟨laying.positive, laying.relaid.removeField _, fun other distinct => ?_,
    laying.tiled.removeField _, fun other => ?_, laying.late, fun index isDrawn => ?_,
    fun one two index isDrawn => ?_, fun other proper => ?_, fun present => ?_⟩, laying.started,
    laying.early⟩
  · rw [Graph.layout_removeField_of_ne (by exact distinct)]
    exact laying.others other distinct
  · rw [lookup]
    split
    · rfl
    · exact laying.holds other
  · obtain ⟨other, found⟩ := laying.onto index isDrawn
    refine ⟨other, ?_⟩
    have different : other ≠ range := by
      rintro rfl
      have same := Option.some.inj (held.symm.trans found)
      rw [same] at early
      exact absurd (laying.late index isDrawn) (Nat.not_le_of_lt early)
    rw [lookup, if_neg different, found]
  · rw [lookup, lookup]
    intro found found'
    split at found
    · simp at found
    · split at found'
      · simp at found'
      · exact laying.once _ _ index isDrawn found found'
  · rw [Graph.hasValue, Graph.values_removeField]
    exact laying.values other proper
  · rw [Graph.hasValue, Graph.values_removeField]
    exact laying.zero present

/-- What an aligned layout has where a field was. -/
def pieceSlot (cuts : KeySet Nat) (field : Field) (range : BitRange) : Slot :=
  if range ∈ pieces cuts field.range then
    if range = field.range then .kept field.value else .filled field.value.isZero
  else
    .empty

/-- A field can be cut at the boundaries inside it: it has bits, it ends where its bits end, and it
is between two of the boundaries. -/
structure Cuttable (cuts : KeySet Nat) (object : ObjectId) (field : Field) : Prop where
  /-- It is a field of the object. -/
  holder : field.object = object
  /-- It has bits. -/
  positive : 0 < field.range.size
  /-- It ends where its bits end. -/
  exact : field.range.stop = field.range.offset + field.range.size
  /-- It starts at a boundary. -/
  start : cuts.contains field.range.offset = true
  /-- It ends at a boundary. -/
  finish : cuts.contains (field.range.offset + field.range.size) = true

section Cut

variable {cuts : KeySet Nat} {field : Field}

theorem Cuttable.mem_pieces_iff (cuttable : Cuttable cuts object field) {range : BitRange} :
    range ∈ pieces cuts field.range ↔ Elementary cuts range ∧ Within range field.range :=
  Alignment.mem_pieces_iff cuttable.exact cuttable.positive cuttable.start cuttable.finish

/-- A field is one of its own pieces when no boundary is inside it. -/
theorem Cuttable.mem_pieces_self_iff (cuttable : Cuttable cuts object field) :
    field.range ∈ pieces cuts field.range ↔ inside cuts field.range = [] := by
  constructor
  · intro member
    have elementary := (cuttable.mem_pieces_iff.1 member).1
    rw [List.eq_nil_iff_forall_not_mem]
    intro cut isInside
    obtain ⟨isCut, lower, upper⟩ := (mem_inside_iff cuttable.exact).1 isInside
    rcases elementary.undivided cut isCut with before | after <;> omega
  · intro whole
    simp [pieces_of_inside_eq_nil cuttable.exact whole]

theorem cutField_of_whole (cuttable : Cuttable cuts object field)
    (whole : inside cuts field.range = []) : cutField cuts field = pure false := by
  have positive := cuttable.positive
  have exact := cuttable.exact
  unfold cutField
  rw [if_neg (by omega), whole]
  rfl

theorem cutField_of_cut (cuttable : Cuttable cuts object field)
    (cut : inside cuts field.range ≠ []) :
    cutField cuts field = do
      Run.modify fun graph => graph.removeField field
      (pieces cuts field.range).forM (fill field.object field.value.isZero)
      return !field.value.isZero := by
  have positive := cuttable.positive
  have exact := cuttable.exact
  unfold cutField
  rw [if_neg (by omega), if_neg (by simpa using cut)]
  rfl

/-- Whether a field loses its value when it is cut. -/
def losesValue (cuts : KeySet Nat) (field : Field) : Bool :=
  !(inside cuts field.range).isEmpty && !field.value.isZero

/-- Cutting a field at the boundaries inside it. -/
theorem Laying.cutField (laying : Laying first object origin slots drawn here)
    (cuttable : Cuttable cuts object field) (kept : slots field.range = .kept field.value) :
    LaysOut (cutField cuts field) here first object origin drawn fun lost slots' =>
      lost = losesValue cuts field ∧
      (∀ range, range.Apart field.range → slots' range = slots range) ∧
      ∀ range, ¬ range.Apart field.range → slots' range = pieceSlot cuts field range := by
  have held : here.1.valueAt? object field.range = some field.value :=
    laying.valueAt?_of_kept kept
  by_cases whole : inside cuts field.range = []
  case pos =>
    rw [cutField_of_whole cuttable whole]
    refine laying.laysOut_pure ⟨by simp [losesValue, whole], fun _ _ => rfl, ?_⟩
    intro range meeting
    simp only [pieceSlot, pieces_of_inside_eq_nil cuttable.exact whole, List.mem_singleton]
    split
    case isTrue same => rw [same, kept]
    case isFalse different => exact laying.eq_empty held different meeting
  case neg =>
    rw [cutField_of_cut cuttable whole]
    obtain rfl : field.object = object := cuttable.holder
    have removed := laying.remove kept
    have separate : (pieces cuts field.range).Pairwise BitRange.Apart :=
      pairwise_pieces cuttable.exact cuttable.positive
    have facts (range : BitRange) (member : range ∈ pieces cuts field.range) :=
      cuttable.mem_pieces_iff.1 member
    have fits : ∀ range ∈ pieces cuts field.range,
        ∃ found, origin.object? field.object = some found ∧ range.fits found.size = true := by
      intro range member
      obtain ⟨found, there, fit⟩ := laying.tiled.fits held
      rw [laying.relaid.object?] at there
      refine ⟨found, there, ?_⟩
      rw [BitRange.fits_iff] at fit ⊢
      have := (facts range member).2.2
      omega
    have apart : ∀ range ∈ pieces cuts field.range, ∀ other,
        (if other = field.range then Slot.empty else slots other) ≠ .empty → other.Apart range := by
      intro range member other filled
      split at filled
      case isTrue => exact absurd rfl filled
      case isFalse different =>
        obtain ⟨_, found⟩ := laying.exists_of_ne_empty filled
        rcases laying.tiled.apart held found with same | apart
        · exact absurd same.symm different
        · exact ((facts range member).2.apart apart).symm
    refine Run.ends_bind_of_ok (Run.modify_apply _ _) ?_
    refine (removed.fillAll field.value.isZero separate
      (fun range member => (facts range member).1.positive) fits apart).bind ?_
    intro _ there slots' drawn' update laying'
    refine laying'.laysOut_pure ⟨by simp [losesValue, whole], ?_, ?_⟩
    · intro range isApart
      have notPiece : range ∉ pieces cuts field.range := fun member =>
        (facts range member).2.not_apart (facts range member).1.positive isApart
      have different : range ≠ field.range := by
        intro same
        have := cuttable.positive
        rw [same] at isApart
        rcases isApart with before | after <;> omega
      rw [update, if_neg notPiece, if_neg different]
    · intro range meeting
      rw [update, pieceSlot]
      split
      case isTrue member =>
        have different : range ≠ field.range := fun same =>
          whole (cuttable.mem_pieces_self_iff.1 (same ▸ member))
        rw [if_neg different]
      case isFalse =>
        split
        case isTrue => rfl
        case isFalse different => exact laying.eq_empty held different meeting

/-- Cutting several fields at the boundaries inside them. -/
theorem Laying.cutFields (laying : Laying first object origin slots drawn here)
    {fields : List Field} (cuttable : ∀ field ∈ fields, Cuttable cuts object field)
    (separate : fields.Pairwise fun a b => a.range.Apart b.range)
    (kept : ∀ field ∈ fields, slots field.range = .kept field.value) :
    LaysOut (cutFields cuts fields) here first object origin drawn fun lost slots' =>
      lost = fields.any (losesValue cuts) ∧
      (∀ range, (∀ field ∈ fields, range.Apart field.range) → slots' range = slots range) ∧
      ∀ field ∈ fields, ∀ range, ¬ range.Apart field.range →
        slots' range = pieceSlot cuts field range := by
  induction fields generalizing here slots drawn with
  | nil => exact laying.laysOut_pure ⟨rfl, fun _ _ => rfl, by simp⟩
  | cons field rest ih =>
      obtain ⟨before, separateRest⟩ := List.pairwise_cons.1 separate
      have cuttableField := cuttable field List.mem_cons_self
      refine (laying.cutField cuttableField (kept field List.mem_cons_self)).bind ?_
      rintro lost there slots' drawn' ⟨rfl, outside, within⟩ laying'
      have kept' : ∀ later ∈ rest, slots' later.range = .kept later.value := fun later member => by
        rw [outside _ (before later member).symm]
        exact kept later (List.mem_cons_of_mem _ member)
      refine (ih laying' (fun later member => cuttable later (List.mem_cons_of_mem _ member))
        separateRest kept').bind ?_
      rintro lostLater final slots'' drawn'' ⟨rfl, outsideRest, withinRest⟩ laying''
      refine laying''.laysOut_pure ⟨rfl, ?_, ?_⟩
      · intro range isApart
        rw [outsideRest range fun later member => isApart later (List.mem_cons_of_mem _ member),
          outside range (isApart field List.mem_cons_self)]
      · intro other member range meeting
        rcases List.mem_cons.1 member with rfl | member
        case inr => exact withinRest other member range meeting
        case inl =>
          by_cases elsewhere : ∀ later ∈ rest, range.Apart later.range
          · rw [outsideRest range elsewhere, within range meeting]
          · -- A range that meets two fields is a piece of neither.
            have notPiece {one two : Field} (isCuttable : Cuttable cuts object one)
                (apart : one.range.Apart two.range) (meets : ¬ range.Apart two.range) :
                pieceSlot cuts one range = .empty :=
              if_neg fun piece => meets ((isCuttable.mem_pieces_iff.1 piece).2.apart apart)
            simp only [Classical.not_forall] at elsewhere
            obtain ⟨later, memberLater, meets⟩ := elsewhere
            rw [withinRest later memberLater range meets,
              notPiece (cuttable later (List.mem_cons_of_mem _ memberLater))
                (before later memberLater).symm meeting,
              notPiece cuttableField (before later memberLater) meets]

end Cut

/-! ### Adding missing ranges -/

/-- Adds a range with zero or with a new value, unless it is there. -/
def fillMissing (object : ObjectId) (zeroed : Bool) (range : BitRange) : Run Graph Unit := do
  let present ← Run.ask fun graph => (graph.valueAt? object range).isSome
  if present then pure () else fill object zeroed range

theorem addMissing_apply (object : ObjectId) (fields : List Field) (here : Graph × Supply) :
    addMissing object fields here =
      fields.forM (fun field => fillMissing object (here.1.isValid object) field.range) here := by
  unfold addMissing
  rw [Run.bind_apply_ok (Run.ask_apply _ _)]
  refine congrFun (congrArg (List.forM fields) ?_) here
  funext field there
  unfold fillMissing
  rw [Run.bind_apply_ok (Run.ask_apply _ _), Run.bind_apply_ok (Run.ask_apply _ _)]
  cases here.1.isValid object <;> cases there.1.valueAt? object field.range <;> rfl

/-- Adding a range unless it is there. -/
theorem Laying.fillMissing (laying : Laying first object origin slots drawn here)
    {range : BitRange} (zeroed : Bool) (positive : 0 < range.size)
    (fits : ∃ found, origin.object? object = some found ∧ range.fits found.size = true)
    (apart : slots range = .empty → ∀ other, slots other ≠ .empty → other.Apart range) :
    LaysOut (fillMissing object zeroed range) here first object origin drawn fun _ slots' =>
      ∀ other, slots' other =
        if other = range ∧ slots other = .empty then .filled zeroed else slots other := by
  refine Run.ends_bind_of_ok (Run.ask_apply _ _) ?_
  have present := (laying.holds range).isSome_iff
  split
  case isTrue isPresent =>
    refine laying.laysOut_pure fun other => ?_
    rw [if_neg]
    rintro ⟨rfl, absent⟩
    exact present.1 isPresent absent
  case isFalse isAbsent =>
    have absent : slots range = .empty :=
      Classical.byContradiction fun filled => isAbsent (present.2 filled)
    refine (laying.fill (laying.vacant positive fits (apart absent)) zeroed).mono ?_
    intro _ slots' update other
    rw [update]
    by_cases same : other = range
    · simp [same, absent]
    · simp [same]

/-- Adding the ranges of several fields where they are not there. -/
theorem Laying.fillMissingAll (laying : Laying first object origin slots drawn here)
    (zeroed : Bool) {fields : List Field}
    (separate : fields.Pairwise fun a b => a.range.Apart b.range)
    (positive : ∀ field ∈ fields, 0 < field.range.size)
    (fits : ∀ field ∈ fields,
      ∃ found, origin.object? object = some found ∧ field.range.fits found.size = true)
    (apart : ∀ field ∈ fields, slots field.range = .empty →
      ∀ other, slots other ≠ .empty → other.Apart field.range) :
    LaysOut (fields.forM fun field => Alignment.fillMissing object zeroed field.range)
      here first object origin drawn fun _ slots' =>
        ∀ other, slots' other =
          if (∃ field ∈ fields, field.range = other) ∧ slots other = .empty then .filled zeroed
          else slots other := by
  induction fields generalizing here slots drawn with
  | nil => exact laying.laysOut_pure fun other => by simp
  | cons field rest ih =>
      obtain ⟨before, separateRest⟩ := List.pairwise_cons.1 separate
      refine (laying.fillMissing zeroed (positive field List.mem_cons_self)
        (fits field List.mem_cons_self) (apart field List.mem_cons_self)).bind ?_
      intro _ there slots' drawn' update laying'
      have apart' (later : Field) (member : later ∈ rest) (absent : slots' later.range = .empty)
          (other : BitRange) (filled : slots' other ≠ .empty) : other.Apart later.range := by
        rw [update] at filled absent
        have stillAbsent : slots later.range = .empty := by
          split at absent
          case isTrue same => exact same.2
          case isFalse => exact absent
        split at filled
        case isTrue same => exact same.1 ▸ before later member
        case isFalse =>
          exact apart later (List.mem_cons_of_mem _ member) stillAbsent other filled
      refine (ih laying' separateRest
        (fun later member => positive later (List.mem_cons_of_mem _ member))
        (fun later member => fits later (List.mem_cons_of_mem _ member)) apart').mono ?_
      intro _ final updateRest other
      rw [updateRest, update]
      by_cases absent : slots other = .empty
      · by_cases same : other = field.range
        · subst same
          cases zeroed <;> simp [absent, Slot.filled]
        · have same' : field.range ≠ other := fun equal => same equal.symm
          simp [absent, same, same']
      · simp [absent]

end Alignment

end ShapeDomain
