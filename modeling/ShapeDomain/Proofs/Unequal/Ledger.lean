import ShapeDomain.Proofs.Progress.Variables
import ShapeDomain.Proofs.Verified.Graphs

/-!
# Which values share their joint value

Most values of the destination stand for one pair of values.  Zero may stand for all that is zero
somewhere, and an address for all addresses of its place.  This module says what a join records of
the joint values, so that what is known of them can be traced back to the values that they stand
for.
-/

namespace ShapeDomain

namespace Graph

/-- An inequality between two values is recorded, whichever of them is named first. -/
def KnowsUnequal (graph : Graph) (a b : ValueId) : Prop :=
  graph.inequalities.contains (a, b) = true ∨ graph.inequalities.contains (b, a) = true

instance (graph : Graph) (a b : ValueId) : Decidable (graph.KnowsUnequal a b) :=
  inferInstanceAs (Decidable (_ ∨ _))

/-- A value that may be merged into zero: zero itself, an address of NULL, or a number that is zero
within the width of a field that holds it. -/
def MayVanish (graph : Graph) (value : ValueId) : Prop :=
  value = .zero ∨ graph.target? value = some .null ∨ ∃ number size,
    graph.number? value = some number ∧ graph.HoldsAt value size ∧
      Number.wrap number size false = 0

/-- Two values are addresses with the same offset: in one object, unless lists are folded. -/
def SamePlace (graph : Graph) (folds : Bool) (a b : ValueId) : Prop :=
  ∃ target1 target2, Join.address? graph a = some target1 ∧ Join.address? graph b = some target2 ∧
    target1.offset = target2.offset ∧ (folds = false → target1.object = target2.object)

/-- Two values of a graph that a join may merge into `dest`. -/
def MayMerge (graph : Graph) (folds : Bool) (dest a b : ValueId) : Prop :=
  a = b ∨ (dest = .zero ∧ graph.MayVanish a ∧ graph.MayVanish b) ∨
    (dest ≠ .zero ∧ graph.SamePlace folds a b)

/-- The numbers of values that fields of a given width may hold are those of values that they held
from the beginning. -/
def Accounts (graph : Graph) (value : ValueId) (size : Nat) : Prop :=
  value = .zero ∨ graph.number? value = none ∨ graph.HoldsAt value size

/-- A graph got smaller, objects from `first` on apart: what objects hold, where addresses lead and
what variables name was there before, and the inequalities are the same.  Where lists are folded,
addresses may lead to another object. -/
structure Shrunk (folds : Bool) (first : Nat) (graph next : Graph) : Prop where
  /-- Objects that are not new hold what they held. -/
  held : ∀ {object range value}, next.valueAt? object range = some value →
    object.index < first → graph.valueAt? object range = some value
  /-- Addresses were addresses with the same offset. -/
  targets : ∀ {value place}, next.target? value = some place →
    ∃ former, graph.target? value = some former ∧ former.offset = place.offset ∧
      (folds = false → former.object = place.object)
  /-- Variables name what they named. -/
  named : ∀ {name image}, next.named? name = some image → graph.named? name = some image
  /-- The inequalities are the same. -/
  inequalities : next.inequalities = graph.inequalities

namespace Shrunk

variable {folds : Bool} {first : Nat} {graph next last : Graph}

theorem refl (folds : Bool) (first : Nat) (graph : Graph) : Shrunk folds first graph graph :=
  ⟨fun held _ => held, fun leads => ⟨_, leads, rfl, fun _ => rfl⟩, fun named => named, rfl⟩

theorem trans (before : Shrunk folds first graph next) (after : Shrunk folds first next last) :
    Shrunk folds first graph last where
  held isHeld old := before.held (after.held isHeld old) old
  targets leads := by
    obtain ⟨former, leads, offset, object⟩ := after.targets leads
    obtain ⟨first, leads, offset', object'⟩ := before.targets leads
    exact ⟨first, leads, offset'.trans offset, fun off => (object' off).trans (object off)⟩
  named isNamed := before.named (after.named isNamed)
  inequalities := after.inequalities.trans before.inequalities

/-- Where layouts, addresses, names and inequalities are the same. -/
theorem of_same (layouts : next.layouts = graph.layouts)
    (targets : ∀ value, next.target? value = graph.target? value) (stack : next.stack = graph.stack)
    (globals : next.globals = graph.globals)
    (inequalities : next.inequalities = graph.inequalities) :
    Shrunk folds first graph next where
  held {object range value} held _ := by
    rwa [valueAt?, layout, layouts, ← layout, ← valueAt?] at held
  targets leads := ⟨_, targets _ ▸ leads, rfl, fun _ => rfl⟩
  named {name image} named := named?_congr stack globals name ▸ named
  inequalities := inequalities

theorem setValid {id : ObjectId} {valid : Bool} (done : graph.setValid id valid = .ok next) :
    Shrunk folds first graph next := by
  obtain ⟨old, -, rfl⟩ := (graph.setValid_eq_ok_iff).1 done
  exact of_same rfl (fun _ => rfl) rfl rfl rfl

end Shrunk

end Graph

namespace Join

/-! ### Counterparts of objects -/

/-- Objects have counterparts of their own, which have their names or were drawn from `start` on. -/
structure Distinct (start now : Nat) (map : Correspondence) : Prop where
  /-- A counterpart has the name of its object or was drawn. -/
  tidy : ∀ {id image}, map.object? id = some image →
    image.index < now ∧ (image = id ∨ start ≤ image.index)
  /-- No two objects have the same counterpart. -/
  unique : ∀ {id other image}, map.object? id = some image → map.object? other = some image →
    id = other

namespace Distinct

variable {start now later : Nat} {map map' : Correspondence} {source other dest : ObjectId}

theorem of_eq (distinct : Distinct start now map) (same : ∀ id, map'.object? id = map.object? id)
    (after : now ≤ later) : Distinct start later map' where
  tidy mapped := (distinct.tidy (same _ ▸ mapped)).imp_left (Nat.lt_of_lt_of_le · after)
  unique mapped mapped' := distinct.unique (same _ ▸ mapped) (same _ ▸ mapped')

/-- Only the object itself may have a counterpart under its own name or under one that was just
drawn. -/
theorem source_of_name (distinct : Distinct start now map)
    (name : (dest = source ∧ source.index < start) ∨ now ≤ dest.index)
    (mapped : map.object? other = some dest) : other = source := by
  obtain ⟨before, own | late⟩ := distinct.tidy mapped
  · rcases name with ⟨rfl, -⟩ | drawn
    · exact own.symm
    · exact absurd before (Nat.not_lt_of_le drawn)
  · rcases name with ⟨rfl, old⟩ | drawn
    · exact absurd old (Nat.not_lt_of_le late)
    · exact absurd before (Nat.not_lt_of_le drawn)

/-- An object gets a counterpart that no other object has. -/
theorem setObject (distinct : Distinct start now map) (after : now ≤ later)
    (early : dest.index < later) (name : dest = source ∨ start ≤ dest.index)
    (alone : ∀ {other}, map.object? other = some dest → other = source) :
    Distinct start later (map.setObject source dest) := by
  constructor
  · intro id image mapped
    rw [Correspondence.object?_setObject] at mapped
    split at mapped
    case isTrue same =>
      obtain rfl := Option.some.inj mapped
      exact ⟨early, name.imp_left fun own => own.trans same.symm⟩
    case isFalse => exact (distinct.tidy mapped).imp_left (Nat.lt_of_lt_of_le · after)
  · intro id other image mapped mapped'
    rw [Correspondence.object?_setObject] at mapped mapped'
    split at mapped <;> split at mapped'
    case isTrue.isTrue same same' => exact same.trans same'.symm
    case isTrue.isFalse same _ =>
      obtain rfl := Option.some.inj mapped
      exact same.trans (alone mapped').symm
    case isFalse.isTrue _ same =>
      obtain rfl := Option.some.inj mapped'
      exact (alone mapped).trans same.symm
    case isFalse.isFalse => exact distinct.unique mapped mapped'

end Distinct

/-- An object has a counterpart, where NULL has itself. -/
def IsCounterpart (map : Correspondence) (object image : ObjectId) : Prop :=
  map.object? object = some image ∨ (object = .null ∧ image = .null)

theorem IsCounterpart.eq_null {map : Correspondence} {id : ObjectId}
    (counterpart : IsCounterpart map id .null)
    (null : ∀ {id}, map.object? id = some .null → id = .null) : id = .null :=
  counterpart.elim null And.left

/-- A value of a joined graph is an address, and the address that stands for it leads to the same
offset of the counterpart, as long as no lists are folded. -/
def LeadsTo (folds : Bool) (graph : Graph) (map : Correspondence) (value : ValueId)
    (place : Target) :
    Prop :=
  ∃ target, address? graph value = some target ∧ target.offset = place.offset ∧
    (folds = false → IsCounterpart map target.object place.object)

section LeadsTo

variable {folds : Bool} {start now : Nat} {graph : Graph} {map map' : Correspondence}
variable {a b : ValueId} {place former : Target}

theorem LeadsTo.mono (leads : LeadsTo folds graph map a former)
    (offset : former.offset = place.offset) (kept : folds = false → former.object = place.object ∧
      ∀ {id image}, map.object? id = some image → map'.object? id = some image) :
    LeadsTo folds graph map' a place := by
  obtain ⟨target, isTarget, offset', counterpart⟩ := leads
  refine ⟨target, isTarget, offset'.trans offset, fun off => ?_⟩
  obtain ⟨same, kept⟩ := kept off
  exact same ▸ (counterpart off).imp_left kept

/-- Addresses with the same place in the destination have the same place. -/
theorem LeadsTo.samePlace (leads : LeadsTo folds graph map a place)
    (leads' : LeadsTo folds graph map b place) (distinct : folds = false → Distinct start now map)
    (null : ∀ {id}, map.object? id = some .null → id = .null) : graph.SamePlace folds a b := by
  obtain ⟨target, isTarget, offset, counterpart⟩ := leads
  obtain ⟨target', isTarget', offset', counterpart'⟩ := leads'
  refine ⟨target, target', isTarget, isTarget', offset.trans offset'.symm, fun off => ?_⟩
  rcases counterpart off with mapped | ⟨isNull, zero⟩ <;>
    rcases counterpart' off with mapped' | ⟨isNull', zero'⟩
  · exact (distinct off).unique mapped mapped'
  · exact (null (zero' ▸ mapped)).trans isNull'.symm
  · exact isNull.trans (null (zero ▸ mapped')).symm
  · exact isNull.trans isNull'.symm

end LeadsTo

/-! ### The record -/

/-- Two graphs that are joined, and the pairs of their variables. -/
structure Outset where
  /-- How they are joined. -/
  setting : Setting
  /-- The left graph. -/
  left : Graph
  /-- The right graph. -/
  right : Graph
  /-- Where the supply stood. -/
  start : Nat
  /-- The pairs of the objects of variables. -/
  anchors : List ObjectPair
  /-- Zero is not drawn. -/
  positive : 0 < start
  /-- Left objects were drawn. -/
  objects : ∀ {id}, left.hasObject id = true → id.index < start
  /-- Nothing is known of left values that were not drawn. -/
  numbers1 : ∀ {value}, start ≤ value.index → left.number? value = none
  /-- Nor of right ones. -/
  numbers2 : ∀ {value}, start ≤ value.index → right.number? value = none
  /-- Different pairs have nothing in common. -/
  apart : ∀ anchor ∈ anchors, ∀ other ∈ anchors, anchor.object1 = other.object1 ∨
    anchor.object2 = other.object2 ∨ anchor.dest = other.dest → anchor = other
  /-- A counterpart is the left object itself or was drawn. -/
  shared : ∀ anchor ∈ anchors, anchor.dest = anchor.object1 ∨ start ≤ anchor.dest.index

namespace Outset

/-- A pair of objects is a pair of variables or has nothing in common with any. -/
def Clear (outset : Outset) (pair : ObjectPair) : Prop :=
  ∀ anchor ∈ outset.anchors, anchor.object1 = pair.object1 ∨ anchor.object2 = pair.object2 ∨
    anchor.dest = pair.dest → anchor = pair

theorem clear_of_mem {outset : Outset} {pair : ObjectPair} (member : pair ∈ outset.anchors) :
    outset.Clear pair :=
  fun anchor isAnchor => outset.apart anchor isAnchor pair member

/-- Whether lists are folded. -/
def folds (outset : Outset) : Bool :=
  outset.setting.options.foldLists

/-- Two values are addresses that lead to a place of the destination. -/
def Leads (outset : Outset) (progress : Progress) (value1 value2 : ValueId)
    (place : Target) : Prop :=
  LeadsTo outset.folds outset.left progress.leftMap value1 place ∧
    LeadsTo outset.folds outset.right progress.rightMap value2 place

end Outset

/-- No object of the joined graphs holds a value. -/
def Unheld (progress : Progress) (value : ValueId) : Prop :=
  ∀ object range, progress.left.valueAt? object range ≠ some value ∧
    progress.right.valueAt? object range ≠ some value

/-- What a join records of the joint values. -/
structure Ledger (outset : Outset) (here : Progress × Supply) : Prop where
  /-- The supply moves on. -/
  started : outset.start ≤ here.2.next
  /-- Only the layouts of the left graph change. -/
  left : outset.left.Relaid here.1.left
  /-- So it is with the right graph. -/
  right : outset.right.Relaid here.1.right
  /-- Where both objects of a pair of variables had a field, they keep its value. -/
  common : ∀ anchor ∈ outset.anchors, ∀ {range value1 value2},
    outset.left.valueAt? anchor.object1 range = some value1 →
    outset.right.valueAt? anchor.object2 range = some value2 →
    here.1.left.valueAt? anchor.object1 range = some value1 ∧
      here.1.right.valueAt? anchor.object2 range = some value2
  /-- Left numbers are held by fields of the widths that held them. -/
  accounts1 : ∀ {object range value}, here.1.left.valueAt? object range = some value →
    outset.left.Accounts value range.size
  /-- So are right numbers. -/
  accounts2 : ∀ {object range value}, here.1.right.valueAt? object range = some value →
    outset.right.Accounts value range.size
  /-- The objects of variables have counterparts. -/
  mapped : ∀ anchor ∈ outset.anchors, (here.1.leftMap.object? anchor.object1).isSome = true ∧
    (here.1.rightMap.object? anchor.object2).isSome = true ∧ anchor.dest.index < here.2.next
  /-- NULL is the counterpart of NULL at most. -/
  null1 : ∀ {id}, here.1.leftMap.object? id = some .null → id = .null
  /-- So it is in the right graph. -/
  null2 : ∀ {id}, here.1.rightMap.object? id = some .null → id = .null
  /-- A joint value is the counterpart of both values. -/
  counterparts : ∀ {value1 value2 dest}, here.1.joined.get? (value1, value2) = some dest →
    (value1 = .zero ∨ here.1.leftMap.value? value1 = some dest) ∧
      (value2 = .zero ∨ here.1.rightMap.value? value2 = some dest)
  /-- Left values have their joint values as counterparts. -/
  source1 : ∀ {value dest}, here.1.leftMap.value? value = some dest →
    value ≠ .zero ∧ ∃ partner, here.1.joined.get? (value, partner) = some dest
  /-- So have right values. -/
  source2 : ∀ {value dest}, here.1.rightMap.value? value = some dest →
    value ≠ .zero ∧ ∃ partner, here.1.joined.get? (partner, value) = some dest
  /-- Joint values were drawn. -/
  drawn : ∀ {values dest}, here.1.joined.get? values = some dest → dest.index < here.2.next
  /-- A joint value that is held in the joined graphs is its own joint value. -/
  own : ∀ {values dest}, here.1.joined.get? values = some dest →
    dest = .zero ∨ here.1.joined.get? (dest, dest) = some dest ∨ Unheld here.1 dest
  /-- Only what may vanish is joined into zero. -/
  zeros : ∀ {value1 value2}, here.1.joined.get? (value1, value2) = some .zero →
    outset.left.MayVanish value1 ∧ outset.right.MayVanish value2
  /-- Left objects have counterparts of their own, unless lists are folded. -/
  distinct1 : outset.folds = false → Distinct outset.start here.2.next here.1.leftMap
  /-- So have right objects. -/
  distinct2 : outset.folds = false → Distinct outset.start here.2.next here.1.rightMap
  /-- Addresses in the destination stand for addresses of the same place. -/
  leads : ∀ {value1 value2 dest place}, here.1.joined.get? (value1, value2) = some dest →
    dest ≠ .zero → here.1.dest.target? dest = some place → outset.Leads here.1 value1 value2 place
  /-- Addresses in the destination are joint values. -/
  pointers : ∀ {dest place}, here.1.dest.target? dest = some place →
    dest = .zero ∨ ∃ values, here.1.joined.get? values = some dest
  /-- Two pairs share their joint value only if it is zero, or if they are addresses of the same
  place. -/
  single : ∀ {value1 value2 other1 other2 dest}, here.1.joined.get? (value1, value2) = some dest →
    here.1.joined.get? (other1, other2) = some dest →
    dest = .zero ∨ (value1 = other1 ∧ value2 = other2) ∨
      (outset.left.SamePlace outset.folds value1 other1 ∧
        outset.right.SamePlace outset.folds value2 other2)
  /-- The counterpart of two variables holds joint values of what they both held. -/
  fields : ∀ anchor ∈ outset.anchors, ∀ {range value1 value2 value},
    here.1.dest.valueAt? anchor.dest range = some value →
    outset.left.valueAt? anchor.object1 range = some value1 →
    outset.right.valueAt? anchor.object2 range = some value2 →
    jointValue? here.1 value1 value2 = some value
  /-- The variables of the destination name counterparts of those of the same name. -/
  names : ∀ {name image}, here.1.dest.named? name = some image → ∃ anchor ∈ outset.anchors,
    anchor.dest = image ∧ outset.left.named? name = some anchor.object1 ∧
      outset.right.named? name = some anchor.object2
  /-- No inequalities are recorded yet. -/
  related : here.1.dest.inequalities = ∅

/-- A counterpart that two objects may get. -/
structure NewPair (outset : Outset) (here : Progress × Supply)
    (object1 object2 dest : ObjectId) : Prop where
  /-- The left object has none. -/
  free1 : here.1.leftMap.object? object1 = none
  /-- Nor has the right one. -/
  free2 : here.1.rightMap.object? object2 = none
  /-- It is not NULL. -/
  proper : dest ≠ .null
  /-- It was drawn. -/
  drawn : dest.index < here.2.next
  /-- It is the left object itself or was drawn by the join. -/
  name1 : dest = object1 ∨ outset.start ≤ dest.index
  /-- So it is with the right object. -/
  name2 : dest = object2 ∨ outset.start ≤ dest.index
  /-- No left object has it, unless lists are folded. -/
  new1 : outset.folds = false → ∀ {other}, here.1.leftMap.object? other = some dest →
    other = object1
  /-- Nor has a right one. -/
  new2 : outset.folds = false → ∀ {other}, here.1.rightMap.object? other = some dest →
    other = object2

/-- Joint values stay. -/
structure Remembers (here there : Progress × Supply) : Prop where
  /-- What has a joint value keeps it. -/
  joint : ∀ {values dest}, here.1.joined.get? values = some dest →
    there.1.joined.get? values = some dest

namespace Remembers

variable {here middle there : Progress × Supply} {value1 value2 dest : ValueId}

theorem of_eq (same : there.1.joined = here.1.joined) : Remembers here there :=
  ⟨fun isJoint => by rwa [same]⟩

theorem trans (first : Remembers here middle) (second : Remembers middle there) :
    Remembers here there :=
  ⟨fun isJoint => second.joint (first.joint isJoint)⟩

theorem jointValue? (remembers : Remembers here there)
    (isJoint : Join.jointValue? here.1 value1 value2 = some dest) :
    Join.jointValue? there.1 value1 value2 = some dest := by
  unfold Join.jointValue? at isJoint ⊢
  split at isJoint
  case isTrue zeros => rwa [if_pos zeros]
  case isFalse proper => rw [if_neg proper]; exact remembers.joint isJoint

end Remembers

/-- Wherever a computation goes through, what a join keeps and records is kept, and joint values
stay. -/
abbrev Records {α : Type} (outset : Outset) (computation : Run Progress α)
    (here : Progress × Supply) (good : α → Progress × Supply → Prop) : Prop :=
  Run.Passes computation here fun result there =>
    Keeping there ∧ Ledger outset there ∧ Remembers here there ∧ good result there

section Records

variable {α β : Type} {outset : Outset} {here : Progress × Supply}
variable {good : α → Progress × Supply → Prop} {middle : β → Progress × Supply → Prop}

theorem records_pure (keeping : Keeping here) (ledger : Ledger outset here) {result : α}
    (holds : good result here) : Records outset (pure result) here good :=
  Run.ends_pure ⟨keeping, ledger, .of_eq rfl, holds⟩

theorem Records.bind {first : Run Progress β} {next : β → Run Progress α}
    (start : Records outset first here middle)
    (rest : ∀ result there, Keeping there → Ledger outset there → Remembers here there →
      middle result there → Records outset (next result) there good) :
    Records outset (first >>= next) here good := by
  refine Run.Ends.bind start ?_
  rintro result between ⟨keeping, ledger, remembers, holds⟩
  refine (rest result between keeping ledger remembers holds).mono ?_
  rintro last there ⟨keeping, ledger, remembers', holds⟩
  exact ⟨keeping, ledger, remembers.trans remembers', holds⟩

/-- Joint values are also those of an earlier state. -/
theorem Records.since {computation : Run Progress α} {former : Progress × Supply}
    (records : Records outset computation here good) (before : Remembers former here) :
    Run.Passes computation here fun result there =>
      Keeping there ∧ Ledger outset there ∧ Remembers former there ∧ good result there :=
  Run.Passes.mono records fun _ _ ⟨keeping, ledger, remembers, holds⟩ =>
    ⟨keeping, ledger, before.trans remembers, holds⟩

end Records

namespace Ledger

variable {outset : Outset} {here : Progress × Supply}

/-- The status and the levels may change, and the supply may move on. -/
theorem aside (ledger : Ledger outset here) {now : Supply} (after : here.2.next ≤ now.next)
    (status : Status) (levels : LevelMap) :
    Ledger outset ({ here.1 with status := status, levels := levels }, now) :=
  { ledger with
    started := Nat.le_trans ledger.started after
    mapped := fun anchor member =>
      have ⟨left, right, drawn⟩ := ledger.mapped anchor member
      ⟨left, right, Nat.lt_of_lt_of_le drawn after⟩
    distinct1 := fun off => (ledger.distinct1 off).of_eq (fun _ => rfl) after
    distinct2 := fun off => (ledger.distinct2 off).of_eq (fun _ => rfl) after
    drawn := fun isJoint => Nat.lt_of_lt_of_le (ledger.drawn isJoint) after }

/-- The destination may get smaller. -/
theorem withDest (ledger : Ledger outset here) {dest : Graph}
    (shrunk : Graph.Shrunk outset.folds here.2.next here.1.dest dest) :
    Ledger outset ({ here.1 with dest := dest }, here.2) :=
  { ledger with
    leads := fun isJoint proper leads => by
      obtain ⟨former, leads, offset, object⟩ := shrunk.targets leads
      exact (ledger.leads isJoint proper leads).imp (.mono · offset fun off => ⟨object off, id⟩)
        (.mono · offset fun off => ⟨object off, id⟩)
    pointers := fun leads => by
      obtain ⟨former, leads, -⟩ := shrunk.targets leads
      exact ledger.pointers leads
    fields := fun anchor member {_ _ _ _} held held1 held2 =>
      ledger.fields anchor member (shrunk.held held (ledger.mapped anchor member).2.2) held1 held2
    names := fun named => ledger.names (shrunk.named named)
    related := shrunk.inequalities.trans ledger.related }

/-- A pair of objects may get a counterpart. -/
theorem withPair (ledger : Ledger outset here) {object1 object2 dest : ObjectId}
    (new : NewPair outset here object1 object2 dest) :
    Ledger outset (here.1.withPair object1 object2 dest, here.2) := by
  have kept {map : Correspondence} {object id image : ObjectId} (free : map.object? object = none)
      (mapped : map.object? id = some image) :
      (map.setObject object dest).object? id = some image := by
    rw [Correspondence.object?_setObject, if_neg (by rintro rfl; simp [free] at mapped)]
    exact mapped
  have still {map : Correspondence} {object id : ObjectId} (free : map.object? object = none)
      (mapped : (map.object? id).isSome = true) :
      ((map.setObject object dest).object? id).isSome = true := by
    obtain ⟨image, mapped⟩ := Option.isSome_iff_exists.1 mapped
    exact Option.isSome_iff_exists.2 ⟨image, kept free mapped⟩
  have null {map : Correspondence} {object id : ObjectId}
      (former : ∀ {id}, map.object? id = some .null → id = .null)
      (mapped : (map.setObject object dest).object? id = some .null) : id = .null := by
    rw [Correspondence.object?_setObject] at mapped
    split at mapped
    · exact absurd (Option.some.inj mapped) new.proper
    · exact former mapped
  exact
    { ledger with
      mapped := fun anchor member => by
        obtain ⟨left, right, drawn⟩ := ledger.mapped anchor member
        exact ⟨still new.free1 left, still new.free2 right, drawn⟩
      null1 := null ledger.null1
      null2 := null ledger.null2
      distinct1 := fun off => (ledger.distinct1 off).setObject (Nat.le_refl _) new.drawn new.name1
        (new.new1 off)
      distinct2 := fun off => (ledger.distinct2 off).setObject (Nat.le_refl _) new.drawn new.name2
        (new.new2 off)
      leads := fun isJoint proper leads => (ledger.leads isJoint proper leads).imp
        (.mono · rfl fun _ => ⟨rfl, kept new.free1⟩) (.mono · rfl fun _ => ⟨rfl, kept new.free2⟩) }

end Ledger

end Join

end ShapeDomain
