import ShapeDomain.Proofs.Join.AlignedLayouts
import ShapeDomain.Proofs.Unequal.Folding
import ShapeDomain.Proofs.Unequal.Values

/-!
# What joining two objects records

When two objects are aligned, a range that is a field of both keeps its values.  So when their
fields are joined, their counterpart gets joint values of what both of them held, and what is
recorded is kept along all that they lead to.
-/

namespace ShapeDomain

namespace Alignment

variable {left right left' right' : Graph} {object1 object2 : ObjectId} {range : BitRange}
variable {value1 value2 : ValueId} {first last : Nat} {drawn1 drawn2 : Nat → Prop}

/-- A field is not divided by a field of a tiled graph that has its range. -/
theorem not_divided {graph : Graph} {object : ObjectId} {field : Field}
    {value : ValueId} {cut : Nat}
    (tiled : graph.Tiled) (held : graph.valueAt? object range = some value)
    (member : field ∈ graph.fieldsOf object)
    (bound : cut = field.range.offset ∨ cut = field.range.stop)
    (lower : range.offset < cut) (upper : cut < range.offset + range.size) : False := by
  have isHeld := (Graph.mem_fieldsOf_iff.1 member).2
  obtain ⟨_, -, fit⟩ := tiled.fits isHeld
  rw [BitRange.stop_of_fits fit] at bound
  rcases tiled.apart held isHeld with same | before | after
  · rw [same] at lower upper
    omega
  · omega
  · omega

/-- A range that is a field of both objects is not divided. -/
theorem inside_of_common (tiled1 : left.Tiled) (tiled2 : right.Tiled)
    (held1 : left.valueAt? object1 range = some value1)
    (held2 : right.valueAt? object2 range = some value2) :
    inside (boundaries (left.fieldsOf object1 ++ right.fieldsOf object2)) range = [] := by
  obtain ⟨_, -, fit⟩ := tiled1.fits held1
  rw [List.eq_nil_iff_forall_not_mem]
  intro cut isInside
  obtain ⟨isCut, lower, upper⟩ := (mem_inside_iff (BitRange.stop_of_fits fit)).1 isInside
  obtain ⟨field, among, bound⟩ := contains_boundaries_iff.1 isCut
  rcases List.mem_append.1 among with member | member
  · exact not_divided tiled1 held1 member bound lower upper
  · exact not_divided tiled2 held2 member bound lower upper

/-- A range that is a field of both objects keeps its values when they are aligned. -/
theorem Aligned.common (tiled1 : left.Tiled) (tiled2 : right.Tiled)
    (aligned : Aligned left right object1 object2 first last drawn1 drawn2 left' right')
    (held1 : left.valueAt? object1 range = some value1)
    (held2 : right.valueAt? object2 range = some value2) :
    left'.valueAt? object1 range = some value1 ∧ right'.valueAt? object2 range = some value2 := by
  let fields1 := left.fieldsOf object1
  let fields2 := right.fieldsOf object2
  have bounded {field : Field} (member : field ∈ fields1 ++ fields2) :
      (boundaries (fields1 ++ fields2)).contains field.range.offset = true ∧
        (boundaries (fields1 ++ fields2)).contains field.range.stop = true :=
    ⟨contains_boundaries_iff.2 ⟨field, member, .inl rfl⟩,
      contains_boundaries_iff.2 ⟨field, member, .inr rfl⟩⟩
  have cuttable1 (field : Field) (member : field ∈ fields1) :
      Cuttable (boundaries (fields1 ++ fields2)) object1 field :=
    have ⟨start, finish⟩ := bounded (List.mem_append_left fields2 member)
    cuttable_of_tiled tiled1 member start finish
  have cuttable2 (field : Field) (member : field ∈ fields2) :
      Cuttable (boundaries (fields1 ++ fields2)) object2 field :=
    have ⟨start, finish⟩ := bounded (List.mem_append_right fields1 member)
    cuttable_of_tiled tiled2 member start finish
  have whole := inside_of_common tiled1 tiled2 held1 held2
  have refilled1 := aligned.layout1.refilled tiled1 (cuttable_append cuttable1 cuttable2)
    fun index isDrawn => ((aligned.drawn index).1 (.inl isDrawn)).2
  have refilled2 := aligned.layout2.refilled tiled2
    (boundaries_append_comm fields1 fields2 ▸ cuttable_append cuttable2 cuttable1)
    fun index isDrawn => ((aligned.drawn index).1 (.inr isDrawn)).2
  refine ⟨refilled1.whole ⟨object1, range, value1⟩ (Graph.mem_fieldsOf.2 held1) whole,
    refilled2.whole ⟨object2, range, value2⟩ (Graph.mem_fieldsOf.2 held2) ?_⟩
  rwa [boundaries_append_comm]

end Alignment

namespace Join

variable {outset : Outset} {here : Progress × Supply} {descend : Descend}
variable {pair : ObjectPair} {source1 source2 : Object} {levelDiff : Int} {holderLevel : Level}

namespace Ledger

/-! ### Alignment -/

/-- Two objects are aligned that are those of two variables or of none. -/
theorem aligned {left right : Graph} {now : Supply} {drawn1 drawn2 : Nat → Prop}
    (ledger : Ledger outset here) (keeping : Keeping here) (clear : outset.Clear pair)
    (aligned : Alignment.Aligned
      here.1.left here.1.right pair.object1 pair.object2 here.2.next now.next
      drawn1 drawn2 left right) :
    Ledger outset ({ here.1 with left := left, right := right }, now) := by
  have moved := ledger.later aligned.ordered
  have held1 {object : ObjectId} {range : BitRange} {value : ValueId}
      (held : left.valueAt? object range = some value) : value = .zero ∨
        here.1.left.valueAt? object range = some value ∨ here.2.next ≤ value.index := by
    by_cases same : object = pair.object1
    · subst same
      exact (aligned.layout1.old_or_drawn held).imp_right (Or.imp_right (aligned.layout1.late _))
    · exact .inr
        (.inl ((Graph.valueAt?_congr (aligned.layout1.others object same) range).symm.trans held))
  have held2 {object : ObjectId} {range : BitRange} {value : ValueId}
      (held : right.valueAt? object range = some value) : value = .zero ∨
        here.1.right.valueAt? object range = some value ∨ here.2.next ≤ value.index := by
    by_cases same : object = pair.object2
    · subst same
      exact (aligned.layout2.old_or_drawn held).imp_right (Or.imp_right (aligned.layout2.late _))
    · exact .inr
        (.inl ((Graph.valueAt?_congr (aligned.layout2.others object same) range).symm.trans held))
  exact
    { moved with
      left := ledger.left.trans aligned.layout1.relaid
      right := ledger.right.trans aligned.layout2.relaid
      common := fun anchor member {range value1 value2} isHeld1 isHeld2 => by
        obtain ⟨now1, now2⟩ := ledger.common anchor member isHeld1 isHeld2
        by_cases same : anchor = pair
        · subst same
          exact aligned.common keeping.left.tiled keeping.right.tiled now1 now2
        · have other1 : anchor.object1 ≠ pair.object1 :=
            fun shared => same (clear anchor member (.inl shared))
          have other2 : anchor.object2 ≠ pair.object2 :=
            fun shared => same (clear anchor member (.inr (.inl shared)))
          exact ⟨(Graph.valueAt?_congr (aligned.layout1.others _ other1) range).trans now1,
            (Graph.valueAt?_congr (aligned.layout2.others _ other2) range).trans now2⟩
      accounts1 := fun held => by
        rcases held1 held with zero | old | late
        · exact .inl zero
        · exact ledger.accounts1 old
        · exact .inr (.inl (outset.numbers1 (Nat.le_trans ledger.started late)))
      accounts2 := fun held => by
        rcases held2 held with zero | old | late
        · exact .inl zero
        · exact ledger.accounts2 old
        · exact .inr (.inl (outset.numbers2 (Nat.le_trans ledger.started late)))
      own := fun {values dest} isJoint => by
        rcases ledger.own isJoint with zero | own | unheld
        · exact .inl zero
        · exact .inr (.inl own)
        · refine (Classical.em (dest = .zero)).imp_right fun proper => .inr fun object range => ?_
          have early := ledger.drawn isJoint
          constructor
          · intro held
            rcases held1 held with zero | old | late
            · exact proper zero
            · exact (unheld object range).1 old
            · exact absurd early (Nat.not_lt_of_le late)
          · intro held
            rcases held2 held with zero | old | late
            · exact proper zero
            · exact (unheld object range).2 old
            · exact absurd early (Nat.not_lt_of_le late) }

theorem align (ledger : Ledger outset here) (keeping : Keeping here) (clear : outset.Clear pair)
    (found1 : here.1.left.object? pair.object1 = some source1)
    (found2 : here.1.right.object? pair.object2 = some source2)
    (size : source1.size = source2.size) :
    Records outset (onSides (Alignment.align pair.object1 pair.object2)) here fun _ _ => True := by
  refine Run.Passes.and ((keeping.align found1 found2 size).passes.mono fun _ _ both => both.1) ?_
  refine Run.Ends.within (Alignment.align_ends keeping.positive found1 found2 size
    keeping.left.tiled keeping.right.tiled (fun _ _ => keeping.left.held)
    fun _ _ => keeping.right.held) ?_ fun _ _ none => none.elim
  rintro status ⟨⟨left, right⟩, now⟩ ⟨-, drawn1, drawn2, aligned⟩
  exact ⟨ledger.aligned keeping clear aligned, .of_eq rfl, trivial⟩

/-! ### Fields -/

theorem mapLevels (ledger : Ledger outset here) (keeping : Keeping here)
    (values objects : Level × Level) :
    Records outset (Join.mapLevels values objects) here fun _ there =>
      there.1.right = here.1.right := by
  refine Run.Passes.and (keeping.mapLevels values objects) ?_
  unfold Join.mapLevels
  refine Run.passes_demand fun answer _ => ?_
  exact Run.ends_bind_of_ok (Run.modify_apply _ _) (Run.ends_pure
    ⟨ledger.aside (Nat.le_refl _) _ _, .of_eq rfl, rfl⟩)

/-- A joint value of what two variables held may be stored in their counterpart. -/
theorem store (ledger : Ledger outset here) (keeping : Keeping here) {field : Field}
    (joint : ∀ anchor ∈ outset.anchors, anchor.dest = field.object → ∀ {value1 value2},
      outset.left.valueAt? anchor.object1 field.range = some value1 →
      outset.right.valueAt? anchor.object2 field.range = some value2 →
      jointValue? here.1 value1 value2 = some field.value) :
    Records outset (Join.store field) here fun _ _ => True := by
  refine Run.Passes.and (keeping.store field) ?_
  unfold Join.store
  refine Run.ends_bind_of_ok (Run.ask_apply _ _) ?_
  split
  case isTrue => exact Run.ends_pure ⟨ledger, .of_eq rfl, trivial⟩
  case isFalse =>
    refine passes_attemptDest fun dest done => ⟨?_, .of_eq rfl, trivial⟩
    rcases Graph.addField_eq_ok done with ⟨-, rfl⟩ | ⟨-, rfl, -⟩
    · exact ledger
    · exact
        { ledger with
          leads := fun isJoint proper leads =>
            ledger.leads isJoint proper ((Graph.target?_putField ..).symm.trans leads)
          pointers := fun leads => ledger.pointers ((Graph.target?_putField ..).symm.trans leads)
          fields := fun anchor member {range value1 value2 value} held held1 held2 => by
            rcases Graph.valueAt?_putField_iff.1 held with ⟨same, rfl, rfl⟩ | ⟨old, -⟩
            · exact joint anchor member same held1 held2
            · exact ledger.fields anchor member old held1 held2
          names := fun {name _} named =>
            ledger.names (@Graph.named?_congr here.1.dest _ rfl rfl name ▸ named) }

end Ledger

/-- A field of the left object of a pair holds what its variable held in its range, if both
variables held something there. -/
structure Faithful (outset : Outset) (pair : ObjectPair) (field : Field) : Prop where
  /-- A number is held at its width. -/
  accounts : outset.left.Accounts field.value field.range.size
  /-- The value is that of the variable. -/
  held : pair ∈ outset.anchors → ∀ {value1 value2},
    outset.left.valueAt? pair.object1 field.range = some value1 →
    outset.right.valueAt? pair.object2 field.range = some value2 → field.value = value1

theorem Ledger.faithful (ledger : Ledger outset here) {field : Field}
    (member : field ∈ here.1.left.fieldsOf pair.object1) : Faithful outset pair field := by
  have held := (Graph.mem_fieldsOf_iff.1 member).2
  refine ⟨ledger.accounts1 held, fun isAnchor {_ _} held1 held2 => ?_⟩
  exact Option.some.inj (held.symm.trans (ledger.common pair isAnchor held1 held2).1)

/-- Foldings are noted only if lists are folded. -/
def Harvest.Allowed (harvest : Harvest) (outset : Outset) : Prop :=
  harvest.folds = ∅ ∨ outset.folds = true

namespace Harvest.Allowed

variable {harvest : Harvest}

theorem note (allowed : harvest.Allowed outset) {fold : Option Fold} {value : ValueId}
    (folding : fold = none ∨ outset.folds = true) : (harvest.note value fold).Allowed outset := by
  rcases folding with rfl | folds
  · exact allowed
  · exact .inr folds

theorem payloads (allowed : harvest.Allowed outset) :
    harvest.folds.payloads = [] ∨ outset.folds = true :=
  allowed.imp_left fun empty => by rw [empty]; rfl

end Harvest.Allowed

namespace Ledger

/-- Joining a field of a pair of objects. -/
theorem joinField (ledger : Ledger outset here) (keeping : Keeping here)
    (descends : DescendsRecording outset descend) (clear : outset.Clear pair) {field : Field}
    (faithful : Faithful outset pair field) :
    Records outset (Join.joinField
      outset.setting descend pair source1 source2 levelDiff holderLevel field) here
      fun joined _ => ∀ value fold, joined = .stored value fold → fold = none ∨
        outset.folds = true := by
  unfold Join.joinField
  refine Run.passes_demand fun value2 given => Run.passes_demand fun level1 _ =>
    Run.passes_demand fun level2 _ => ?_
  have held2 : here.1.right.valueAt? pair.object2 field.range = some value2 := by
    split at given
    case h_1 value held => exact Except.ok.inj given ▸ held
    case h_2 => cases given
  refine (ledger.mapLevels keeping _ _).bind fun mapped middle keeping ledger _ same => ?_
  rw [← same] at held2
  split
  case isFalse => exact records_pure keeping ledger (by simp)
  case isTrue =>
    -- What both variables held in this range is what is joined.
    have pairs {value1 value2'} (isAnchor : pair ∈ outset.anchors)
        (held1 : outset.left.valueAt? pair.object1 field.range = some value1)
        (held2' : outset.right.valueAt? pair.object2 field.range = some value2') :
        field.value = value1 ∧ value2 = value2' :=
      ⟨faithful.held isAnchor held1 held2', Option.some.inj
        (held2.symm.trans (ledger.common pair isAnchor held1 held2').2)⟩
    refine (ledger.joinValuePair keeping descends faithful.accounts (ledger.accounts2 held2)
      ⟨_, _, held2⟩).bind fun joined there keeping ledger _ isJoint => ?_
    cases joined with
    | undefined recoverable => cases recoverable <;> exact records_pure keeping ledger (by simp)
    | joined value fold =>
        obtain ⟨isJoint, allowed⟩ := isJoint
        refine Records.bind
          (ledger.store keeping fun anchor member same {value1 value2'} held1 held2' => ?_)
          fun _ _ keeping ledger _ _ => records_pure keeping ledger ?_
        · obtain rfl := clear anchor member (.inr (.inr same))
          obtain ⟨rfl, rfl⟩ := pairs member held1 held2'
          exact isJoint
        · rintro _ _ ⟨⟩
          exact allowed

theorem joinFields (ledger : Ledger outset here) (keeping : Keeping here)
    (descends : DescendsRecording outset descend) (clear : outset.Clear pair) {fields : List Field}
    (faithful : ∀ field ∈ fields, Faithful outset pair field) {harvest : Harvest}
    (allowed : harvest.Allowed outset) :
    Records outset (Join.joinFields
        (Join.joinField outset.setting descend pair source1 source2 levelDiff holderLevel) fields
        harvest) here
      fun harvest _ => ∀ last, harvest = some last → last.Allowed outset := by
  induction fields generalizing here harvest with
  | nil => exact records_pure keeping ledger (by rintro _ ⟨⟩; exact allowed)
  | cons field rest ih =>
      have later := fun other member => faithful other (List.mem_cons_of_mem field member)
      unfold Join.joinFields
      refine (ledger.joinField keeping descends clear (faithful field List.mem_cons_self)).bind ?_
      rintro (⟨value, fold⟩ | _ | _) middle keeping ledger - folding
      · exact ih ledger keeping later (allowed.note (folding value fold rfl))
      · exact ih ledger keeping later allowed
      · exact records_pure keeping ledger (by simp)

/-! ### Objects -/

/-- Joining the fields of objects whose layouts are aligned. -/
theorem joinAlignedBy (ledger : Ledger outset here) (keeping : Keeping here)
    (descends : DescendsRecording outset descend) (clear : outset.Clear pair) :
    Records outset (Join.joinAlignedBy levelDiff outset.setting descend pair source1 source2) here
      fun _ _ => True := by
  unfold Join.joinAlignedBy
  refine Run.passes_demand fun holderLevel _ => Run.ends_bind_of_ok (Run.ask_apply _ _) ?_
  refine (ledger.joinFields keeping descends clear (fun field member => ledger.faithful member)
    (.inl rfl)).bind
    fun harvest middle keeping ledger _ allowed => ?_
  cases harvest with
  | none => exact records_pure keeping ledger trivial
  | some harvest =>
      dsimp only
      split
      · exact Run.Passes.and (keeping.doFolds _)
          ((ledger.doFolds (allowed harvest rfl).payloads).mono
          fun _ _ both => ⟨both.1, both.2, trivial⟩)
      · exact records_pure keeping ledger trivial

theorem joinContents (ledger : Ledger outset here) (keeping : Keeping here)
    (descends : DescendsRecording outset descend) (clear : outset.Clear pair) :
    Records outset (Join.joinContents outset.setting descend pair levelDiff) here
      fun _ _ => True := by
  unfold Join.joinContents
  refine Run.passes_demand fun source1 found1 => Run.passes_demand fun source2 found2 => ?_
  rw [Graph.object_eq_ok_iff] at found1 found2
  split
  case isTrue => exact records_pure keeping ledger trivial
  case isFalse size =>
    refine (ledger.align keeping clear found1 found2 (not_ne_iff.1 size)).bind
      fun status _ keeping ledger _ _ => ?_
    refine (ledger.lower keeping status).bind fun _ _ keeping ledger _ _ => ?_
    split
    case isTrue => exact Run.passes_demand fun _ _ => ledger.joinAlignedBy keeping descends clear
    case isFalse => exact ledger.joinAlignedBy keeping descends clear

theorem incomparable (ledger : Ledger outset here) (keeping : Keeping here) :
    Records outset (Run.modify fun progress => { progress with status := Status.incomparable }) here
      fun _ _ => True :=
  Run.Passes.and keeping.incomparable (Run.ends_of_ok (Run.modify_apply _ _)
    ⟨ledger.aside (Nat.le_refl _) _ _, .of_eq rfl, trivial⟩)

/-- Joining two objects and all that they lead to, by induction on how deep the join may go. -/
theorem joinObjects (ledger : Ledger outset here) (keeping : Keeping here)
    (clear : outset.Clear pair) (depth : Nat) (levelDiff : Int) :
    Records outset (Join.joinObjects outset.setting depth pair levelDiff) here fun _ _ => True := by
  induction depth generalizing here pair levelDiff with
  | zero =>
      exact (ledger.incomparable keeping).bind fun _ _ keeping ledger _ _ =>
        records_pure keeping ledger trivial
  | succ depth ih =>
      unfold Join.joinObjects joinObjectsWith
      refine (ledger.joinContents keeping
        (fun _ _ _ _ keeping ledger clear => ih ledger keeping clear _)
        clear).bind fun joined _ keeping ledger _ _ => ?_
      cases joined with
      | true => exact records_pure keeping ledger trivial
      | false =>
          exact (ledger.incomparable keeping).bind fun _ _ keeping ledger _ _ =>
            records_pure keeping ledger trivial

/-- Joining the objects of all variables. -/
theorem joinPairs (ledger : Ledger outset here) (keeping : Keeping here) (depth : Nat)
    {pairs : List ObjectPair} (anchors : ∀ pair ∈ pairs, pair ∈ outset.anchors) :
    Records outset (Join.joinPairs outset.setting depth pairs) here fun _ _ => True := by
  induction pairs generalizing here with
  | nil => exact records_pure keeping ledger trivial
  | cons pair rest ih =>
      unfold Join.joinPairs
      refine (ledger.joinObjects keeping
        (outset.clear_of_mem (anchors pair List.mem_cons_self)) depth
        0).bind fun joined _ keeping ledger _ _ => ?_
      cases joined with
      | true =>
          exact ih ledger keeping fun later member => anchors later (List.mem_cons_of_mem _ member)
      | false =>
          refine Run.ends_bind_of_ok (Run.ask_apply _ _) ?_
          split
          · exact records_pure keeping ledger trivial
          · exact Run.passes_of_error (Run.throw_apply _ _)

end Ledger

end Join

end ShapeDomain
