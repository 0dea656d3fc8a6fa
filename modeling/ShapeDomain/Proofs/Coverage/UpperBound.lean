import ShapeDomain.Proofs.Coverage.Destination
import ShapeDomain.Proofs.Coverage.HeapPointers
import ShapeDomain.Proofs.Coverage.Transitivity
import ShapeDomain.Proofs.Progress.Verdicts
import ShapeDomain.Proofs.State.Collecting

/-!
# When a joint state covers what was joined

The joint memory cuts the fields of each of the two memories at the boundaries of the other one, and
of the pieces of a cut field nothing is known.  A comparison takes such pieces to be lost, so
without folding the joint state covers one of the two exactly if the other one cuts no field of it
that holds something.  With folding it may cover neither.
-/

namespace ShapeDomain

namespace Join

open ShapeDomain.Alignment

theorem Met.symm {left right : Graph} {object1 object2 : ObjectId}
    (met : Met left right object1 object2) : Met right left object2 object1 := by
  induction met with
  | named named1 named2 => exact .named named2 named1
  | address _ is1 is2 leads1 leads2 proper1 proper2 ih =>
      exact .address ih is2 is1 leads2 leads1 proper2 proper1

/-- No field of a graph that holds something other than zero is cut by an object that its object
meets. -/
def Whole (graph other : Graph) : Prop :=
  ∀ {object otherObject range value}, Met graph other object otherObject →
    graph.valueAt? object range = some value → value ≠ .zero → ¬ other.Cuts otherObject range

/-! ### A graph and one that stands for it -/

/-- A value stands for contents of a range: both are addresses of places that correspond or none is
one, and a number that the value is known to be is known of the contents. -/
structure Abstracted (graph dest : Graph) (map : Correspondence) (range : BitRange) (cell : Cell)
    (value : ValueId) : Prop where
  /-- The places correspond. -/
  place : (cell.address? graph = none ∧ address? dest value = none) ∨
    ∃ source target, cell.address? graph = some source ∧ address? dest value = some target ∧
      source.offset = target.offset ∧ image? map source.object = some target.object
  /-- The number is known and agrees within the width of the range. -/
  known : ∀ {number}, cell.address? graph = none → dest.number? value = some number →
    ∃ own, cell.number? graph = some own ∧ Number.agreeIn own number range.size = true

/-- A graph stands for another one whose objects have counterparts in it: it has the same variables,
and the counterparts hold values that stand for what the objects hold, in ranges that the objects do
not cut and that leave out no bit of their fields. -/
structure Abstracts (graph dest : Graph) (map : Correspondence) : Prop where
  /-- The fields of the graph are tiled. -/
  tiled : graph.Tiled
  /-- So are those of the other one. -/
  tiled_dest : dest.Tiled
  /-- They have the same variables. -/
  scopes : graph.SameScopes dest
  /-- Variables of the same name name counterparts. -/
  named : ∀ {name object image}, graph.named? name = some object → dest.named? name = some image →
    map.object? object = some image
  /-- Counterparts have the same size. -/
  size : ∀ {object image}, map.object? object = some image →
    (graph.object? object).map Object.size = (dest.object? image).map Object.size
  /-- Both may be accessed or none. -/
  valid : ∀ {object image}, map.object? object = some image →
    graph.isValid object = dest.isValid image
  /-- NULL is no counterpart. -/
  proper : ∀ {object image}, map.object? object = some image → image ≠ .null
  /-- Different objects have different counterparts. -/
  unique : ∀ {object other image}, map.object? object = some image →
    map.object? other = some image → object = other
  /-- No field of an object cuts a field of its counterpart. -/
  uncut : ∀ {object image range value}, map.object? object = some image →
    dest.valueAt? image range = some value → ¬ graph.Cuts object range
  /-- Each bit of a field of an object is in a field of its counterpart. -/
  filled : ∀ {object image range value bit}, map.object? object = some image →
    graph.valueAt? object range = some value → range.offset ≤ bit →
    bit < range.offset + range.size → ∃ inner held, dest.valueAt? image inner = some held ∧
      inner.offset ≤ bit ∧ bit < inner.offset + inner.size
  /-- The fields of the counterpart hold values that stand for what the object holds. -/
  contents : ∀ {object image range value}, map.object? object = some image →
    dest.valueAt? image range = some value →
    Abstracted graph dest map range (cellAt graph object range) value
  /-- The same contents other than zero have the same value. -/
  value_unique : ∀ {object image range value other otherImage otherRange otherValue},
    map.object? object = some image → dest.valueAt? image range = some value →
    map.object? other = some otherImage → dest.valueAt? otherImage otherRange = some otherValue →
    cellAt graph object range = cellAt graph other otherRange →
    cellAt graph object range = .zero ∨ value = otherValue
  /-- The same value other than zero stands for the same contents. -/
  cell_unique : ∀ {object image range value other otherImage otherRange},
    map.object? object = some image → dest.valueAt? image range = some value →
    map.object? other = some otherImage → dest.valueAt? otherImage otherRange = some value →
    value = .zero ∨ cellAt graph object range = cellAt graph other otherRange

namespace Abstracts

variable {graph dest : Graph} {map : Correspondence} {object image : ObjectId} {range : BitRange}
variable {value : ValueId} (abstracts : Abstracts graph dest map)

include abstracts

/-- An object and its counterpart share the ranges of the counterpart. -/
theorem shared_iff (isImage : map.object? object = some image) :
    Shared graph dest object image range ↔ ∃ value, dest.valueAt? image range = some value := by
  have tiled := abstracts.tiled
  have tiled' := abstracts.tiled_dest
  constructor
  · intro shared
    have elementary := shared.elementary tiled tiled'
    -- A range within a field of the counterpart is all of this field: the object does not cut it.
    have whole {outer : BitRange} {value : ValueId} (held : dest.valueAt? image outer = some value)
        (within : Within range outer) : ∃ value, dest.valueAt? image range = some value := by
      by_cases same : range = outer
      · exact ⟨value, same ▸ held⟩
      · exact absurd (shared.symm.cuts_outer tiled' tiled held within same)
          (abstracts.uncut isImage held)
    rcases shared.exists_outer tiled tiled' with ⟨outer, own, held, within⟩ |
      ⟨outer, _, held, within⟩
    · have := within.1
      have := within.2
      have := elementary.positive
      obtain ⟨inner, value, held', lower, upper⟩ :=
        abstracts.filled isImage held within.1 (by omega)
      have uncut : ¬ dest.Cuts image range := shared.symm.not_cuts1 tiled' tiled
      have inRange : Within ⟨range.offset, 1⟩ range :=
        ⟨Nat.le_refl _, Nat.add_le_add_left elementary.positive _⟩
      have inInner : Within ⟨range.offset, 1⟩ inner := ⟨lower, upper⟩
      exact whole held' (within_of_not_cuts uncut held' (by exact Nat.one_pos) inRange inInner)
    · exact whole held within
  · rintro ⟨value, held⟩
    exact (shared_of_held tiled' tiled held (abstracts.uncut isImage held)).symm

/-- What meets are objects and their counterparts. -/
theorem isImage_of_met (met : Met graph dest object image) : map.object? object = some image := by
  induction met with
  | named named1 named2 => exact abstracts.named named1 named2
  | address _ is1 is2 leads1 leads2 proper1 proper2 ih =>
      obtain ⟨shared, rfl⟩ := cell?_eq_some_iff.1 is1
      obtain ⟨-, rfl⟩ := cell?_eq_some_iff.1 is2
      obtain ⟨value, held⟩ := (abstracts.shared_iff ih).1 shared
      rw [cellAt_of_held abstracts.tiled_dest held] at leads2
      rcases (abstracts.contents ih held).place with
        ⟨none1, -⟩ | ⟨source, target, leads1', leads2', -, isImage⟩
      · simp [leads1] at none1
      · obtain rfl := Option.some.inj (leads1.symm.trans leads1')
        obtain rfl := Option.some.inj (leads2.symm.trans leads2')
        rwa [image?_of_proper proper1] at isImage

/-- Contents that are compared are those of an object and a value that stands for them. -/
theorem of_compared {cell1 cell2 : Cell} (compared : Compared graph dest range cell1 cell2) :
    ∃ object image value, map.object? object = some image ∧
      dest.valueAt? image range = some value ∧ cell1 = cellAt graph object range ∧
      cell2 = .value value := by
  obtain ⟨object, image, met, shared, is1, is2⟩ := compared_iff.1 compared
  have isImage := abstracts.isImage_of_met met
  obtain ⟨value, held⟩ := (abstracts.shared_iff isImage).1 shared
  exact ⟨object, image, value, isImage, held, is1,
    is2.trans (cellAt_of_held abstracts.tiled_dest held)⟩

/-- A graph covers one that it stands for, if it cuts no field that holds something. -/
theorem cover (whole : Whole graph dest) : Cover graph dest where
  fits :=
    { scopes := abstracts.scopes
      size := fun met => abstracts.size (abstracts.isImage_of_met met)
      valid := fun met => abstracts.valid (abstracts.isImage_of_met met)
      oneToOne := fun met met' => by
        have isImage := abstracts.isImage_of_met met
        have isImage' := abstracts.isImage_of_met met'
        constructor
        · rintro rfl
          exact Option.some.inj (isImage.symm.trans isImage')
        · rintro rfl
          exact abstracts.unique isImage isImage'
      whole := fun met field member => by
        refine (losesValue_eq_false_iff abstracts.tiled abstracts.tiled_dest member).2 ?_
        by_cases proper : field.value = .zero
        · exact .inl proper
        · exact .inr (whole met (Graph.mem_fieldsOf_iff.1 member).2 proper)
      leftOnce := fun compared compared' => by
        obtain ⟨_, _, value, isImage, held, rfl, rfl⟩ := abstracts.of_compared compared
        obtain ⟨_, _, other, isImage', held', same, rfl⟩ := abstracts.of_compared compared'
        exact (abstracts.value_unique isImage held isImage' held' same).imp_right
          (congrArg Cell.value)
      rightOnce := fun compared compared' => by
        obtain ⟨_, _, value, isImage, held, rfl, rfl⟩ := abstracts.of_compared compared
        obtain ⟨_, _, other, isImage', held', rfl, same⟩ := abstracts.of_compared compared'
        obtain rfl := Cell.value.inj same
        exact (abstracts.cell_unique isImage held isImage' held').imp_left (congrArg Cell.value)
      addresses := fun compared => by
        obtain ⟨_, _, value, isImage, held, rfl, rfl⟩ := abstracts.of_compared compared
        refine (abstracts.contents isImage held).place.imp_right ?_
        rintro ⟨source, target, leads1, leads2, offset, place⟩
        refine ⟨source, target, leads1, leads2, offset, fun null => ?_, fun null => ?_⟩
        · rw [null, image?_null, Option.some.injEq] at place
          exact place.symm
        · by_contra proper
          rw [image?_of_proper proper] at place
          exact abstracts.proper place null
      known := fun compared noAddress isNumber => by
        obtain ⟨_, _, value, isImage, held, rfl, rfl⟩ := abstracts.of_compared compared
        obtain ⟨own, isOwn, -⟩ := (abstracts.contents isImage held).known noAddress isNumber
        exact Option.isSome_iff_exists.2 ⟨own, isOwn⟩ }
  numbers := by
    intro range cell1 cell2 number1 number2 compared noAddress isNumber1 isNumber2
    obtain ⟨_, _, value, isImage, held, rfl, rfl⟩ := abstracts.of_compared compared
    obtain ⟨own, isOwn, agree⟩ := (abstracts.contents isImage held).known noAddress isNumber2
    rwa [Option.some.inj (isNumber1.symm.trans isOwn)]

end Abstracts

/-- A graph stands for two graphs at once: objects that meet have the same counterpart, and this has
fields in the ranges that they share. -/
structure AbstractsBoth (left right dest : Graph) (map1 map2 : Correspondence) : Prop where
  /-- It stands for the left graph. -/
  abstracts1 : Abstracts left dest map1
  /-- It stands for the right graph. -/
  abstracts2 : Abstracts right dest map2
  /-- Objects that meet have the same counterpart. -/
  image : ∀ {object1 object2}, Met left right object1 object2 →
    ∃ image, map1.object? object1 = some image ∧ map2.object? object2 = some image
  /-- Objects with the same counterpart meet. -/
  met : ∀ {object1 object2 image}, map1.object? object1 = some image →
    map2.object? object2 = some image → Met left right object1 object2
  /-- Counterparts of left objects are counterparts of right ones. -/
  partner1 : ∀ {object1 image}, map1.object? object1 = some image →
    ∃ object2, map2.object? object2 = some image
  /-- Counterparts of right objects are counterparts of left ones. -/
  partner2 : ∀ {object2 image}, map2.object? object2 = some image →
    ∃ object1, map1.object? object1 = some image
  /-- They have fields in shared ranges. -/
  held : ∀ {object1 object2 image range}, map1.object? object1 = some image →
    map2.object? object2 = some image → Shared left right object1 object2 range →
    ∃ value, dest.valueAt? image range = some value

namespace AbstractsBoth

variable {left right dest : Graph} {map1 map2 : Correspondence} {object1 object2 image : ObjectId}
variable (both : AbstractsBoth left right dest map1 map2)

include both

theorem symm : AbstractsBoth right left dest map2 map1 where
  abstracts1 := both.abstracts2
  abstracts2 := both.abstracts1
  image met := by
    obtain ⟨image, mapped1, mapped2⟩ := both.image met.symm
    exact ⟨image, mapped2, mapped1⟩
  met mapped2 mapped1 := (both.met mapped1 mapped2).symm
  partner1 := both.partner2
  partner2 := both.partner1
  held mapped2 mapped1 shared := both.held mapped1 mapped2 shared.symm

/-- Left objects that meet right ones meet their counterparts. -/
theorem met_left (met : Met left right object1 object2)
    (mapped1 : map1.object? object1 = some image) : Met left dest object1 image := by
  induction met generalizing image with
  | named named1 named2 =>
      obtain ⟨other, isNamed⟩ := Option.isSome_iff_exists.1
        ((both.abstracts1.scopes.isSome_named? _).symm.trans (by rw [named1]; rfl))
      obtain rfl := Option.some.inj (mapped1.symm.trans (both.abstracts1.named named1 isNamed))
      exact .named named1 isNamed
  | address before is1 is2 leads1 leads2 proper1 proper2 ih =>
      obtain ⟨holder, held1, held2⟩ := both.image before
      obtain ⟨shared, rfl⟩ := cell?_eq_some_iff.1 is1
      obtain ⟨value, held⟩ := both.held held1 held2 shared
      have shared' := (both.abstracts1.shared_iff held1).2 ⟨value, held⟩
      rcases (both.abstracts1.contents held1 held).place with
        ⟨none1, -⟩ | ⟨source, target, leads1', leads, -, isImage⟩
      · simp [leads1] at none1
      · obtain rfl := Option.some.inj (leads1.symm.trans leads1')
        rw [image?_of_proper proper1, mapped1, Option.some.injEq] at isImage
        rw [isImage]
        exact .address (ih held1) (cell?_eq_some_iff.2 ⟨shared', rfl⟩)
          (cell?_eq_some_iff.2
            ⟨shared'.symm, (cellAt_of_held both.abstracts1.tiled_dest held).symm⟩)
          leads1 leads proper1 (isImage ▸ both.abstracts1.proper mapped1)

/-- What cuts a field of the left graph cuts it in the graph that stands for both. -/
theorem cuts_dest {range : BitRange} {value : ValueId}
    (mapped1 : map1.object? object1 = some image) (mapped2 : map2.object? object2 = some image)
    (held : left.valueAt? object1 range = some value) (cuts : right.Cuts object2 range) :
    dest.Cuts image range := by
  obtain ⟨outer, other, held2, inside⟩ := cuts
  -- The bits on both sides of the cut are in different fields: the right object cuts none of these.
  have apart {inner : BitRange} {joint : ValueId} (held' : dest.valueAt? image inner = some joint) :
      ¬ ((inner.offset < outer.offset ∧ outer.offset < inner.offset + inner.size) ∨
        (inner.offset < outer.offset + outer.size ∧
          outer.offset + outer.size < inner.offset + inner.size)) :=
    fun within => both.abstracts2.uncut mapped2 held' ⟨outer, other, held2, within⟩
  rcases inside with ⟨lower, upper⟩ | ⟨lower, upper⟩
  · obtain ⟨inner, joint, held', before, after⟩ :=
      both.abstracts1.filled mapped1 held (Nat.le_of_lt lower) upper
    have := apart held'
    exact ⟨inner, joint, held', .inl ⟨by omega, by omega⟩⟩
  · obtain ⟨bit, isBit⟩ : ∃ bit, outer.offset + outer.size = bit + 1 :=
      ⟨outer.offset + outer.size - 1, by omega⟩
    rw [isBit] at lower upper apart
    obtain ⟨inner, joint, held', before, after⟩ :=
      both.abstracts1.filled mapped1 held (Nat.le_of_lt_succ lower) (by omega)
    have := apart held'
    exact ⟨inner, joint, held', .inr ⟨by omega, by omega⟩⟩

/-- A graph that stands for two graphs cuts fields of the left one exactly where the right one
does. -/
theorem whole_iff : Whole left dest ↔ Whole left right := by
  constructor
  · intro whole object1 object2 range value met held proper cuts
    obtain ⟨image, mapped1, mapped2⟩ := both.image met
    exact whole (both.met_left met mapped1) held proper (both.cuts_dest mapped1 mapped2 held cuts)
  · intro whole object1 image range value met held proper
    have mapped1 := both.abstracts1.isImage_of_met met
    obtain ⟨object2, mapped2⟩ := both.partner1 mapped1
    have uncut := whole (both.met mapped1 mapped2) held proper
    obtain ⟨joint, held'⟩ := both.held mapped1 mapped2
      (shared_of_held both.abstracts1.tiled both.abstracts2.tiled held uncut)
    exact not_cuts_of_held both.abstracts1.tiled_dest held'

end AbstractsBoth

/-! ### The destination stands for both graphs -/

theorem Mapped.size {start : Nat} {origin dest : Graph} {map : Correspondence} {id image : ObjectId}
    (mapped : Mapped start origin map dest) (isImage : map.object? id = some image) :
    (origin.object? id).map Object.size = (dest.object? image).map Object.size := by
  obtain ⟨-, -, object, joint, found, there, size⟩ := mapped.source isImage
  rw [found, there, Option.map_some, Option.map_some, size]

variable {basis : Basis} {path waiting : List ObjectPair} {here : Progress × Supply}
variable {object1 object2 image : ObjectId} {range : BitRange} {value1 value2 value : ValueId}

/-- A joint value stands for the contents of both objects. -/
theorem CellsJoined.abstracted (joined : CellsJoined basis here object1 object2 range
      (cellAt basis.left object1 range) (cellAt basis.right object2 range) value1 value2 value)
    (invariant : Invariant basis path waiting here) (still : ¬ basis.Folds)
    (shared : Shared basis.left basis.right object1 object2 range)
    (zero1 : basis.left.ZeroIsZero) (zero2 : basis.right.ZeroIsZero)
    (width1 : basis.left.OneWidth) (width2 : basis.right.OneWidth) :
    Abstracted basis.left here.1.dest here.1.leftMap range (cellAt basis.left object1 range) value ∧
      Abstracted basis.right here.1.dest here.1.rightMap range (cellAt basis.right object2 range)
        value := by
  have places := joined.address?_dest invariant still
  have numbers {number : Int}
      (noAddress : (cellAt basis.left object1 range).address? basis.left = none)
      (isNumber : here.1.dest.number? value = some number) :=
    joined.number?_dest invariant still shared rfl rfl zero1 zero2 width1 width2 noAddress isNumber
  refine ⟨⟨?_, fun noAddress isNumber => ?_⟩, ⟨?_, fun noAddress isNumber => ?_⟩⟩
  · refine places.imp (fun none => ⟨none.1, none.2.2⟩) ?_
    rintro ⟨target1, -, target, leads1, -, leads, offset, -, place, -⟩
    exact ⟨target1, target, leads1, leads, offset, place⟩
  · obtain ⟨number1, -, is1, -, agree, -⟩ := numbers noAddress isNumber
    exact ⟨number1, is1, agree⟩
  · refine places.imp (fun none => ⟨none.2.1, none.2.2⟩) ?_
    rintro ⟨-, target2, target, -, leads2, leads, -, offset, -, place⟩
    exact ⟨target2, target, leads2, leads, offset, place⟩
  · obtain ⟨-, number2, -, is2, -, agree⟩ :=
      numbers ((joined.sameAddress invariant).none_left noAddress) isNumber
    exact ⟨number2, is2, agree⟩

namespace Finished

variable (finished : Finished basis here) (still : ¬ basis.Folds)

include finished

theorem exists_right (mapped1 : here.1.leftMap.object? object1 = some image) :
    ∃ object2, here.1.rightMap.object? object2 = some image := by
  have invariant := finished.invariant
  exact ((invariant.objects (invariant.hasObject_of_left mapped1)).resolve_left
    (invariant.leftMap.source mapped1).2.1).2.2

theorem exists_left (mapped2 : here.1.rightMap.object? object2 = some image) :
    ∃ object1, here.1.leftMap.object? object1 = some image := by
  have invariant := finished.invariant
  exact ((invariant.objects (invariant.hasObject_of_right mapped2)).resolve_left
    (invariant.rightMap.source mapped2).2.1).2.1

include still

/-- A field of the counterpart of a left object holds a joint value of what it holds. -/
theorem exists_joined_left (mapped1 : here.1.leftMap.object? object1 = some image)
    (held : here.1.dest.valueAt? image range = some value) :
    ∃ object2 value1 value2, Shared basis.left basis.right object1 object2 range ∧
      CellsJoined basis here object1 object2 range (cellAt basis.left object1 range)
        (cellAt basis.right object2 range) value1 value2 value := by
  obtain ⟨object2, mapped2⟩ := finished.exists_right mapped1
  obtain ⟨shared, value1, value2, joined⟩ :=
    (finished.valueAt?_dest_iff still mapped1 mapped2).1 held
  exact ⟨object2, value1, value2, shared, joined⟩

/-- So does a field of the counterpart of a right object. -/
theorem exists_joined_right (mapped2 : here.1.rightMap.object? object2 = some image)
    (held : here.1.dest.valueAt? image range = some value) :
    ∃ object1 value1 value2, Shared basis.left basis.right object1 object2 range ∧
      CellsJoined basis here object1 object2 range (cellAt basis.left object1 range)
        (cellAt basis.right object2 range) value1 value2 value := by
  obtain ⟨object1, mapped1⟩ := finished.exists_left mapped2
  obtain ⟨shared, value1, value2, joined⟩ :=
    (finished.valueAt?_dest_iff still mapped1 mapped2).1 held
  exact ⟨object1, value1, value2, shared, joined⟩

/-- All objects of the heap of the destination are reachable. -/
theorem garbage_dest : here.1.dest.garbage = [] := by
  refine List.eq_nil_iff_forall_not_mem.2 fun image member => ?_
  obtain ⟨heap, unreached⟩ := Graph.mem_garbage_iff.1 member
  have present : here.1.dest.hasObject image = true := by
    obtain ⟨placement, found, -⟩ := (Option.any_eq_true _ _).1 heap
    exact Graph.hasObject_iff_get?.2 ⟨placement, found⟩
  have proper : image ≠ .null := by
    rintro rfl
    simp [finished.invariant.dest.isHeap_null] at heap
  obtain ⟨object1, object2, mapped1, mapped2⟩ := finished.exists_pair present proper
  exact unreached (finished.reaches_dest still
    ((finished.relates_iff_met still).1 ⟨image, mapped1, mapped2⟩) mapped1 mapped2)

variable (zero1 : basis.left.ZeroIsZero) (zero2 : basis.right.ZeroIsZero)
variable (width1 : basis.left.OneWidth) (width2 : basis.right.OneWidth)

include zero1 zero2 width1 width2

/-- The destination stands for the left graph. -/
theorem abstracts_left : Abstracts basis.left here.1.dest here.1.leftMap where
  tiled := basis.leftPlain.sound.tiled
  tiled_dest := finished.invariant.dest.tiled
  scopes := finished.declared
  named named1 isNamed := by
    obtain ⟨id2, named2⟩ := Option.isSome_iff_exists.1
      ((finished.scopes.isSome_named? _).symm.trans (by rw [named1]; rfl))
    obtain ⟨image, rooted⟩ := finished.rooted named1 named2
    exact rooted.left.trans ((finished.named named1 named2 rooted.left).symm.trans isNamed)
  size := finished.invariant.leftMap.size
  valid mapped1 := (finished.invariant.leftMap.valid mapped1).symm
  proper mapped1 := (finished.invariant.leftMap.source mapped1).2.1
  unique mapped1 mapped1' := (finished.invariant.leftMap.unique mapped1 mapped1').resolve_right
    (by simp [finished.invariant.isList_eq_false still])
  uncut mapped1 held := by
    obtain ⟨_, _, _, shared, -⟩ := finished.exists_joined_left still mapped1 held
    exact shared.not_cuts1 basis.leftPlain.sound.tiled basis.rightPlain.sound.tiled
  filled mapped1 held lower upper := by
    obtain ⟨object2, mapped2⟩ := finished.exists_right mapped1
    obtain ⟨inner, shared, lower', upper'⟩ :=
      exists_shared basis.right object2 basis.leftPlain.sound.tiled held lower upper
    obtain ⟨joint, held'⟩ := (finished.isSome_valueAt?_dest_iff still mapped1 mapped2).2 shared
    exact ⟨inner, joint, held', lower', upper'⟩
  contents mapped1 held := by
    obtain ⟨_, _, _, shared, joined⟩ := finished.exists_joined_left still mapped1 held
    exact (joined.abstracted finished.invariant still shared zero1 zero2 width1 width2).1
  value_unique mapped1 held mapped1' held' same := by
    obtain ⟨_, _, _, -, joined⟩ := finished.exists_joined_left still mapped1 held
    obtain ⟨_, _, _, -, joined'⟩ := finished.exists_joined_left still mapped1' held'
    exact joined.unique_left finished.invariant joined' same
  cell_unique mapped1 held mapped1' held' := by
    obtain ⟨_, _, _, -, joined⟩ := finished.exists_joined_left still mapped1 held
    obtain ⟨_, _, _, -, joined'⟩ := finished.exists_joined_left still mapped1' held'
    exact (joined.cells_unique finished.invariant joined' still rfl).imp_right And.left

/-- The destination stands for the right graph. -/
theorem abstracts_right : Abstracts basis.right here.1.dest here.1.rightMap where
  tiled := basis.rightPlain.sound.tiled
  tiled_dest := finished.invariant.dest.tiled
  scopes := finished.scopes.symm.trans finished.declared
  named named2 isNamed := by
    obtain ⟨id1, named1⟩ := Option.isSome_iff_exists.1
      ((finished.scopes.isSome_named? _).trans (by rw [named2]; rfl))
    obtain ⟨image, rooted⟩ := finished.rooted named1 named2
    exact rooted.right.trans ((finished.named named1 named2 rooted.left).symm.trans isNamed)
  size := finished.invariant.rightMap.size
  valid mapped2 := (finished.invariant.rightMap.valid mapped2).symm
  proper mapped2 := (finished.invariant.rightMap.source mapped2).2.1
  unique mapped2 mapped2' := (finished.invariant.rightMap.unique mapped2 mapped2').resolve_right
    (by simp [finished.invariant.isList_eq_false still])
  uncut mapped2 held := by
    obtain ⟨_, _, _, shared, -⟩ := finished.exists_joined_right still mapped2 held
    exact shared.symm.not_cuts1 basis.rightPlain.sound.tiled basis.leftPlain.sound.tiled
  filled mapped2 held lower upper := by
    obtain ⟨object1, mapped1⟩ := finished.exists_left mapped2
    obtain ⟨inner, shared, lower', upper'⟩ :=
      exists_shared basis.left object1 basis.rightPlain.sound.tiled held lower upper
    obtain ⟨joint, held'⟩ :=
      (finished.isSome_valueAt?_dest_iff still mapped1 mapped2).2 shared.symm
    exact ⟨inner, joint, held', lower', upper'⟩
  contents mapped2 held := by
    obtain ⟨_, _, _, shared, joined⟩ := finished.exists_joined_right still mapped2 held
    exact (joined.abstracted finished.invariant still shared zero1 zero2 width1 width2).2
  value_unique mapped2 held mapped2' held' same := by
    obtain ⟨_, _, _, -, joined⟩ := finished.exists_joined_right still mapped2 held
    obtain ⟨_, _, _, -, joined'⟩ := finished.exists_joined_right still mapped2' held'
    exact joined.unique_right finished.invariant joined' same
  cell_unique mapped2 held mapped2' held' := by
    obtain ⟨_, _, _, -, joined⟩ := finished.exists_joined_right still mapped2 held
    obtain ⟨_, _, _, -, joined'⟩ := finished.exists_joined_right still mapped2' held'
    exact (joined.cells_unique finished.invariant joined' still rfl).imp_right And.right

/-- The destination of a join without folding stands for both graphs. -/
theorem abstractsBoth :
    AbstractsBoth basis.left basis.right here.1.dest here.1.leftMap here.1.rightMap where
  abstracts1 := finished.abstracts_left still zero1 zero2 width1 width2
  abstracts2 := finished.abstracts_right still zero1 zero2 width1 width2
  image := finished.exists_image still
  met := (finished.invariant.exact still).met
  partner1 := finished.exists_right
  partner2 := finished.exists_left
  held mapped1 mapped2 := (finished.isSome_valueAt?_dest_iff still mapped1 mapped2).2

end Finished

end Join

namespace State

open Join

variable {options : Options} {state other reached joint : State} {states : List State}
variable {supply now later : Supply} {status : Status} {map : Correspondence}

/-- Without folding, a state that stands for another one covers it exactly if it cuts none of its
fields that hold something. -/
theorem coveredBy_iff_whole (plain1 : state.collect.graph.Plain supply.next)
    (plain2 : reached.collect.graph.Plain supply.next) (still : options.foldLists = false)
    (findings : state.collect.findings = reached.collect.findings)
    (abstracts : Abstracts state.collect.graph reached.collect.graph map) :
    CoveredBy options state reached supply ↔
      Whole state.collect.graph reached.collect.graph := by
  constructor
  · intro covered object image range value met held proper
    obtain ⟨basis, here, compares⟩ := exists_compares_of_plain plain1 plain2 covered
    have still' : ¬ basis.Folds := fun folds => by simp [compares.folds folds] at still
    rw [← compares.left, ← compares.right] at met
    rw [← compares.left] at held
    have member : ⟨object, range, value⟩ ∈ basis.left.fieldsOf object := Graph.mem_fieldsOf.2 held
    have kept := (compares.finished.settled_of_met still' met).whole compares.covered _ member
    rw [← compares.right]
    exact ((losesValue_eq_false_iff basis.leftPlain.sound.tiled basis.rightPlain.sound.tiled
      member).1 kept).resolve_left proper
  · intro whole
    exact coveredBy_of_cover plain1 plain2 still findings (abstracts.cover whole)

/-- If two states that exist side by side are joined without folding, zero is zero in both, and each
number is held at one width, then the joint state covers one of them exactly if the other one cuts
no field of it that holds something. -/
theorem Family.join_covers_iff (family : Family states supply) (inside1 : state ∈ states)
    (inside2 : other ∈ states) (still : options.foldLists = false)
    (zero1 : state.graph.ZeroIsZero) (zero2 : other.graph.ZeroIsZero)
    (width1 : state.graph.OneWidth) (width2 : other.graph.OneWidth)
    (joined : state.join options other supply = .ok (some (joint, status)) now)
    (after : now.next ≤ later.next) :
    (CoveredBy options state joint later ↔ Whole state.collect.graph other.collect.graph) ∧
      (CoveredBy options other joint later ↔ Whole other.collect.graph state.collect.graph) := by
  obtain ⟨findings, kept, defined⟩ := join_eq_some_iff.1 joined
  have plain1 := family.plain_collect inside1
  have plain2 := family.plain_collect inside2
  obtain ⟨tame, moved⟩ := Graph.Tame.join plain1.tame plain2.tame defined
  obtain ⟨there, done, isDest, -, rfl⟩ := Graph.join_eq_defined_iff.1 defined
  have finished := (joinAll_ends (Graph.basis options plain1 plain2)).of_eq_ok done
  have noFolds : ¬ (Graph.basis options plain1 plain2).Folds := by
    rintro ⟨folds, -⟩
    replace folds : options.foldLists = true := folds
    simp [still] at folds
  rw [← isDest] at tame
  have plain := finished.plain_dest noFolds tame
  have same : joint.collect = joint :=
    collect_of_garbage_eq_nil (isDest ▸ finished.garbage_dest noFolds)
  have both := finished.abstractsBoth noFolds (state.pruned_collect.zeroIsZero zero1)
    (other.pruned_collect.zeroIsZero zero2) (state.pruned_collect.oneWidth width1)
    (other.pruned_collect.oneWidth width2)
  rw [isDest] at plain both
  have late : supply.next ≤ later.next := Nat.le_trans moved after
  have plainJoint : joint.collect.graph.Plain later.next := same.symm ▸ plain.later after
  constructor
  · rw [coveredBy_iff_whole (plain1.later late) plainJoint still (by rw [same, kept])
      (same.symm ▸ both.abstracts1), same]
    exact both.whole_iff
  · rw [coveredBy_iff_whole (plain2.later late) plainJoint still (by rw [same, kept, findings])
      (same.symm ▸ both.abstracts2), same]
    exact both.symm.whole_iff

/-- The variable with the address of a node is cut by the one that is zero in both halves, and cuts
nothing but zero itself. -/
theorem whole_nodeAndHalves :
    ¬ Whole (built nodeAndHalves 1).collect.graph (built nodeAndHalves 0).collect.graph ∧
      Whole (built nodeAndHalves 0).collect.graph (built nodeAndHalves 1).collect.graph := by
  have zeros : ∀ field ∈ (built nodeAndHalves 0).collect.graph.fields, field.value = .zero := by
    decide +kernel
  refine ⟨fun whole => ?_, fun {object _ range value} _ held proper =>
    absurd (zeros ⟨object, range, value⟩ (Graph.mem_fields_iff.2 held)) proper⟩
  have meet : Met (built nodeAndHalves 1).collect.graph
    (built nodeAndHalves 0).collect.graph ⟨1⟩ ⟨4⟩ :=
    .named (show Graph.named? _ (.inner 0 "x") = some ⟨1⟩ by cbv) (by cbv)
  exact whole meet (show Graph.valueAt? _ _ ⟨0, 64⟩ = some ⟨3⟩ by cbv) (by decide)
    (by decide +kernel)

theorem join_covers_nodeAndHalves : ∃ joint status now,
    (built nodeAndHalves 1).join { foldLists := false } (built nodeAndHalves 0)
      (builtSupply nodeAndHalves) = .ok (some (joint, status)) now ∧
    ¬ CoveredBy { foldLists := false } (built nodeAndHalves 1) joint now ∧
    CoveredBy { foldLists := false } (built nodeAndHalves 0) joint now := by
  obtain ⟨admissible, two, -⟩ := admissible_nodeAndHalves
  obtain ⟨joint, status, now, joined, -⟩ := exists_join_nodeAndHalves
  obtain ⟨cut, whole⟩ := whole_nodeAndHalves
  obtain ⟨covers1, covers2⟩ := (family_built admissible).join_covers_iff
    (built_mem (by rw [two]; decide)) (built_mem (by rw [two]; decide)) rfl (by decide_cbv)
    (by decide_cbv) (by decide +kernel) (by decide +kernel) joined (Nat.le_refl _)
  exact ⟨joint, status, now, joined, fun covered => cut (covers1.1 covered), covers2.2 whole⟩

/-- With folding, the joint state of two lists of two nodes covers neither of them: it holds a list
segment of two nodes, and none of the nodes is one. -/
theorem join_covers_neither_apartNodes : AllAdmissible apartNodes ([], .full) ∧
    ∃ joint status now, (built apartNodes 1).join {} (built apartNodes 0) (builtSupply apartNodes) =
        .ok (some (joint, status)) now ∧
      ¬ CoveredBy {} (built apartNodes 1) joint now ∧
        ¬ CoveredBy {} (built apartNodes 0) joint now := by
  let coversNeither (joint : State) (now : Supply) : Bool :=
    !decide (CoveredBy {} (built apartNodes 1) joint now) &&
      !decide (CoveredBy {} (built apartNodes 0) joint now)
  have found : ∃ joint status now, (built apartNodes 1).join {} (built apartNodes 0)
      (builtSupply apartNodes) = .ok (some (joint, status)) now ∧ coversNeither joint now = true :=
    exists_join_iff.2 (by decide +kernel)
  obtain ⟨joint, status, now, joined, neither⟩ := found
  simp only [coversNeither, Bool.and_eq_true, Bool.not_eq_true', decide_eq_false_iff_not] at neither
  exact ⟨admissible_apartNodes.1, joint, status, now, joined, neither⟩

end State

end ShapeDomain
