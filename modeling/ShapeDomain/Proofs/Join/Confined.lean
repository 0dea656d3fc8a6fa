import ShapeDomain.Proofs.Join.Enclosed
import ShapeDomain.Proofs.Join.Outcome
import ShapeDomain.Proofs.Join.Scopes

/-!
# Joins are confined

The whole join stays inside the enclosed parts that it starts in: the values it joins, the fields
and the objects that hold them, the variables and the inequalities that it keeps.  In particular it
reads what its graphs contain and not how they are represented.
-/

namespace ShapeDomain

open ShapeDomain.Graph (Part AgreeOn Encloses)

namespace Join

variable {stage : Stage} {room room' : Nat} {here : Progress × Supply} {setting : Setting}
variable {value1 value2 : ValueId} {levelDiff : Int} {holderLevel : Level}
variable {descend1 descend2 : Descend} {pair : ObjectPair} {source1 source2 : Object}

/-- Two ways down that do not leave the parts, as long as an object was made before. -/
def Confining (stage : Stage) (room room' : Nat) (descend1 descend2 : Descend) : Prop :=
  ∀ {less less' : Nat} {here : Progress × Supply} {object1 object2 : ObjectId} (dest : ObjectId)
    (levelDiff : Int), less < room → less' < room' → Inside stage less less' here →
    stage.leftPart.objects object1 → stage.rightPart.objects object2 →
    Confined stage less less' (descend1 object1 object2 dest levelDiff)
      (descend2 object1 object2 dest levelDiff) here fun _ => True

/-- The join from the variables on, at most `depth` pairs of objects deep. -/
def joinFrom (setting : Setting) (depth : Nat) : Run Progress Bool := do
  match ← matchVariables with
  | none => return false
  | some pairs =>
      if ← joinPairs setting depth pairs then
        keepInequalities
        if setting.options.verify then
          Run.demand fun progress => progress.dest.check
        return true
      else
        return false

theorem joinAll_apply (setting : Setting) (here : Progress × Supply) :
    joinAll setting here = joinFrom setting (here.1.left.objects.size + 1) here := rfl

namespace Inside

/-! ### Addresses -/

theorem destination (inside : Inside stage room room' here) {target1 target2 : ObjectId}
    (part1 : stage.leftPart.objects target1) (part2 : stage.rightPart.objects target2) :
    Run.Carries stage.Related (destination target1 target2) (Join.destination target1 target2) here
      fun found there => Found stage room room' found there := by
  unfold Join.destination
  refine Run.carries_state ?_ ?_
  · rintro _ ⟨-, -⟩
    rfl
  · split
    case isTrue => exact Run.carries_pure inside
    case isFalse =>
      split
      case h_1 =>
        refine Run.carries_pure ?_
        split <;> exact inside
      case h_2 free _ =>
        split
        case isTrue => exact Run.carries_pure inside
        case isFalse =>
          exact (inside.joinTargets part1 part2 free).bind fun _ _ found => Run.carries_pure found
      case h_3 => exact Run.carries_pure inside

/-- Where addresses lead, fewer objects have no counterparts if one was made. -/
theorem of_found {found : Destination} (inside : Found stage room room' (some found) here) :
    ∃ less less', less ≤ room ∧ less' ≤ room' ∧ Inside stage less less' here ∧
      ∀ id, found = .made id → less < room ∧ less' < room' := by
  cases found with
  | known object =>
      exact ⟨room, room', Nat.le_refl _, Nat.le_refl _, inside, fun _ made => by cases made⟩
  | made object =>
      obtain ⟨less, less', lt, lt', inside⟩ := inside
      exact ⟨less, less', Nat.le_of_lt lt, Nat.le_of_lt lt', inside, fun _ _ => ⟨lt, lt'⟩⟩

section Descend

variable (descends : Confining stage room room' descend1 descend2)

include descends

theorem joinAddresses (inside : Inside stage room room' here) (part1 : stage.leftPart.values value1)
    (part2 : stage.rightPart.values value2) {target1 target2 : Target}
    (inner1 : stage.leftPart.objects target1.object)
    (inner2 : stage.rightPart.objects target2.object) :
    Confined stage room room'
      (joinAddresses setting descend1 value1 value2 target1 target2 levelDiff holderLevel)
      (Join.joinAddresses setting descend2 value1 value2 target1 target2 levelDiff holderLevel)
      here fun _ => True := by
  unfold Join.joinAddresses
  split
  case isTrue => exact inside.noJoin part1 part2
  case isFalse =>
    refine (inside.destination inner1 inner2).bind fun found middle inside => ?_
    cases found with
    | none => exact noJoin inside part1 part2
    | some found =>
        obtain ⟨less, less', le, le', inside, deeper⟩ := of_found inside
        refine @Run.Carries.mono _ _ _ _ (fun _ there => Inside stage less less' there ∧
          True) _ _ _ ?_
          fun _ _ both => ⟨both.1.mono le le', trivial⟩
        dsimp only
        refine Run.carries_demand ?_ fun object _ => ?_
        · rintro _ ⟨-, -⟩
          rfl
        refine Run.carries_demand (fun _ => rfl) fun joint _ => ?_
        cases joint with
        | none => exact inside.noJoin part1 part2
        | some specifier =>
            refine inside.apart_bind (apart_addressName value1 value2 _) fun dest _ inside => ?_
            refine (inside.pairValues part1 part2 dest).bind fun _ there both => ?_
            split
            case h_1 => exact both.1.pure trivial
            case h_2 id _ =>
              obtain ⟨lt, lt'⟩ := deeper id rfl
              refine (descends id levelDiff lt lt' both.1 inner1 inner2).bind
                fun joined _ both => ?_
              cases joined with
              | true =>
                  exact both.1.apart_bind (apart_foldAt id) fun _ _ inside => inside.pure trivial
              | false => exact both.1.pure trivial

/-- Joining two values of the parts. -/
theorem joinValuePair (inside : Inside stage room room' here)
    (part1 : stage.leftPart.values value1) (part2 : stage.rightPart.values value2) (size : Nat) :
    Confined stage room room'
      (joinValuePair setting descend1 value1 value2 size levelDiff holderLevel)
      (Join.joinValuePair setting descend2 value1 value2 size levelDiff holderLevel) here
      fun _ => True := by
  unfold Join.joinValuePair
  refine Run.carries_state ?_ ?_
  · rintro _ ⟨left, right⟩
    simp only [jointValue?, address?, left.target? part1, right.target? part2]
  · split
    case h_1 => exact inside.pure trivial
    case h_2 =>
      split
      case isTrue => exact inside.pure trivial
      case isFalse =>
        split
        case h_1 => exact inside.joinNumbers part1 part2 size
        case h_2 target1 target2 leads1 leads2 =>
          obtain ⟨proper1, leads1⟩ := address?_eq_some_iff.1 leads1
          obtain ⟨proper2, leads2⟩ := address?_eq_some_iff.1 leads2
          exact inside.joinAddresses descends part1 part2
            (inside.left.leads_of_proper part1 proper1 leads1)
            (inside.right.leads_of_proper part2 proper2 leads2)
        case h_3 => exact inside.noJoin part1 part2

/-! ### Fields -/

omit descends in
/-- The level below a value of a part. -/
theorem levelBelow {part : Part} {start : Nat} {graph other : Graph} {value : ValueId}
    (encloses : Encloses part start graph) (agree : AgreeOn part graph other)
    (inside : part.values value) (holder : Object) :
    levelBelow other holder value = Join.levelBelow graph holder value := by
  unfold Join.levelBelow
  rw [agree.target? inside]
  cases leads : graph.target? value with
  | none => rfl
  | some target =>
      dsimp only
      rw [agree.object (encloses.sees inside leads)]

/-- Joining two fields of objects of the parts. -/
theorem joinField (inside : Inside stage room room' here)
    (part2 : stage.rightPart.objects pair.object2) {field : Field}
    (part1 : stage.leftPart.values field.value) :
    Confined stage room room'
      (joinField setting descend1 pair source1 source2 levelDiff holderLevel field)
      (Join.joinField setting descend2 pair source1 source2 levelDiff holderLevel field) here
      fun _ => True := by
  unfold Join.joinField
  refine Run.carries_demand ?_ fun value2 held2 => ?_
  · rintro _ ⟨-, right⟩
    simp only [right.valueAt? part2]
  have inner2 : stage.rightPart.values value2 := by
    split at held2
    case h_1 value held => exact Except.ok.inj held2 ▸ inside.right.held part2 held
    case h_2 => cases held2
  refine Run.carries_demand ?_ fun level1 _ => Run.carries_demand ?_ fun level2 _ => ?_
  · rintro _ ⟨left, -⟩
    exact levelBelow inside.left left part1 source1
  · rintro _ ⟨-, right⟩
    exact levelBelow inside.right right inner2 source2
  refine inside.apart_bind (apart_mapLevels _ _) fun mapped _ inside => ?_
  cases mapped with
  | false => exact inside.pure trivial
  | true =>
      refine (inside.joinValuePair descends part1 inner2 _).bind fun joined _ both => ?_
      split
      case h_1 => exact both.1.apart_bind (apart_store _) fun _ _ inside => inside.pure trivial
      case h_2 => exact both.1.pure trivial
      case h_3 => exact both.1.pure trivial

omit descends in
/-- Joining fields one after the other. -/
theorem joinFields (inside : Inside stage room room' here)
    {join1 join2 : Field → Run Progress FieldJoin} {fields : List Field}
    (each : ∀ field ∈ fields, ∀ here, Inside stage room room' here →
      Confined stage room room' (join1 field) (join2 field) here fun _ => True)
    (harvest : Harvest) :
    Confined stage room room' (joinFields join1 fields harvest)
      (Join.joinFields join2 fields harvest) here fun _ => True := by
  induction fields generalizing here harvest with
  | nil => exact inside.pure trivial
  | cons field rest ih =>
      have later := fun field member => each field (List.mem_cons_of_mem _ member)
      unfold Join.joinFields
      refine (each field List.mem_cons_self here inside).bind fun joined _ both => ?_
      cases joined with
      | stored value fold => exact ih both.1 later _
      | missing => exact ih both.1 later _
      | refused => exact both.1.pure trivial

/-! ### Objects -/

omit descends in
theorem align (inside : Inside stage room room' here)
    (part1 : stage.leftPart.objects pair.object1) (part2 : stage.rightPart.objects pair.object2) :
    Confined stage room room' (onSides (Alignment.align pair.object1 pair.object2))
      (onSides (Alignment.align pair.object1 pair.object2)) here fun _ => True := by
  refine Run.Lifts.carries ?_ ?_
  · refine (Alignment.lifts_align part1 part2).within ?_ ?_
    · rintro here _ ⟨left, right⟩
      exact ⟨left, right⟩
    · rintro here _ next next' ⟨-, -⟩ ⟨left, right⟩
      exact .replaced left right
  · have enclosed1 : Alignment.Enclosed stage.leftPart stage.start stage.left
      (here.1.left, here.2) :=
      ⟨inside.left, inside.objects, inside.time⟩
    have enclosed2 :
        Alignment.Enclosed stage.rightPart stage.start here.1.right (here.1.right, here.2) :=
      ⟨inside.right, rfl, inside.time⟩
    refine Run.Ends.within (Alignment.passes_align Alignment.keeps_enclosed Alignment.keeps_enclosed
      enclosed1 enclosed2 pair.object1 pair.object2) (fun _ there both => ⟨?_, trivial⟩)
        fun _ _ bad => bad
    exact { inside with
      left := both.1.encloses
      right := both.2.encloses
      objects := both.1.objects
      time := both.1.time }

theorem joinAlignedBy (inside : Inside stage room room' here)
    (part1 : stage.leftPart.objects pair.object1) (part2 : stage.rightPart.objects pair.object2) :
    Confined stage room room' (joinAlignedBy levelDiff setting descend1 pair source1 source2)
      (Join.joinAlignedBy levelDiff setting descend2 pair source1 source2) here fun _ => True := by
  refine inside.apart_bind (apart_demand fun _ _ _ => rfl) fun holderLevel there inside =>
    Run.carries_ask ?_ ?_
  · rintro _ ⟨left, -⟩
    simp only [left.fieldsOf part1]
  · refine (inside.joinFields (fun field member _ later =>
      later.joinField descends part2 ?_) _).bind fun harvest _ both => ?_
    · exact inside.left.held part1 (Graph.mem_fieldsOf_iff.1 member).2
    split
    case h_2 => exact both.1.pure trivial
    case h_1 harvest =>
      split
      case isTrue => exact both.1.apart (apart_doFolds _)
      case isFalse => exact both.1.pure trivial

theorem joinContents (inside : Inside stage room room' here)
    (part1 : stage.leftPart.objects pair.object1) (part2 : stage.rightPart.objects pair.object2) :
    Confined stage room room' (joinContents setting descend1 pair levelDiff)
      (Join.joinContents setting descend2 pair levelDiff) here fun _ => True := by
  unfold Join.joinContents
  refine Run.carries_demand ?_ fun source1 _ => Run.carries_demand ?_ fun source2 _ => ?_
  · rintro _ ⟨left, -⟩
    exact left.object (.inl part1)
  · rintro _ ⟨-, right⟩
    exact right.object (.inl part2)
  split
  case isTrue => exact inside.pure trivial
  case isFalse =>
    refine (inside.align part1 part2).bind fun status _ both => ?_
    refine both.1.apart_bind (apart_lower status) fun _ there inside => ?_
    split
    case isFalse => exact inside.joinAlignedBy descends part1 part2
    case isTrue =>
      refine Run.carries_demand ?_ fun _ _ => inside.joinAlignedBy descends part1 part2
      rintro _ ⟨left, right⟩
      unfold Alignment.check Alignment.ranges
      dsimp only
      rw [left.fieldsOf part1, right.fieldsOf part2]

end Descend

/-- By induction on how deep the join may go: there are always fewer objects without
counterparts. -/
theorem joinObjects {depth depth' : Nat} (inside : Inside stage room room' here)
    (few : room < depth) (few' : room' < depth')
    (part1 : stage.leftPart.objects pair.object1) (part2 : stage.rightPart.objects pair.object2) :
    Confined stage room room' (joinObjects setting depth pair levelDiff)
      (Join.joinObjects setting depth' pair levelDiff) here fun _ => True := by
  induction depth generalizing depth' room room' here pair levelDiff with
  | zero => exact absurd few (Nat.not_lt_zero _)
  | succ depth ih =>
      cases depth' with
      | zero => exact absurd few' (Nat.not_lt_zero _)
      | succ depth' =>
          unfold Join.joinObjects joinObjectsWith
          refine (inside.joinContents (fun dest levelDiff less less' inside part1 part2 =>
            ih inside ?_ ?_ part1 part2) part1 part2).bind fun joined _ both => ?_
          · exact Nat.lt_of_lt_of_le less (Nat.le_of_lt_succ few)
          · exact Nat.lt_of_lt_of_le less' (Nat.le_of_lt_succ few')
          cases joined with
          | true => exact both.1.pure trivial
          | false =>
              exact both.1.apart_bind apart_incomparable fun _ _ inside => inside.pure trivial

/-! ### Variables -/

/-- A pair of objects is in the parts. -/
def Placed (stage : Stage) (object1 object2 : ObjectId) : Prop :=
  stage.leftPart.objects object1 ∧ stage.rightPart.objects object2

theorem joinPairs {depth depth' : Nat} (inside : Inside stage room room' here)
    (few : room < depth) (few' : room' < depth') {pairs : List ObjectPair}
    (placed : ∀ pair ∈ pairs, Placed stage pair.object1 pair.object2) :
    Confined stage room room' (joinPairs setting depth pairs) (Join.joinPairs setting depth' pairs)
      here fun _ => True := by
  induction pairs generalizing here with
  | nil => exact inside.pure trivial
  | cons pair rest ih =>
      obtain ⟨part1, part2⟩ := placed pair List.mem_cons_self
      unfold Join.joinPairs
      refine (inside.joinObjects few few' part1 part2).bind fun joined _ both => ?_
      cases joined with
      | true => exact ih both.1 fun pair member => placed pair (List.mem_cons_of_mem _ member)
      | false =>
          refine both.1.apart_bind (apart_ask fun _ _ _ => rfl) fun status _ inside => ?_
          dsimp only
          split
          case isTrue => exact inside.pure trivial
          case isFalse => exact trivial

theorem matchVariable (inside : Inside stage room room' here) (declare : Declare) (name : String)
    {object1 object2 : ObjectId} (placed : Placed stage object1 object2) :
    Confined stage room room' (matchVariable declare name object1 object2)
      (Join.matchVariable declare name object1 object2) here fun found =>
        ∀ pair ∈ found, Placed stage pair.object1 pair.object2 := by
  obtain ⟨part1, part2⟩ := placed
  unfold Join.matchVariable
  refine Run.carries_demand ?_ fun source1 _ => Run.carries_demand ?_ fun source2 _ =>
    Run.carries_state ?_ ?_
  · rintro _ ⟨left, -⟩
    exact left.object (.inl part1)
  · rintro _ ⟨-, right⟩
    exact right.object (.inl part2)
  · rintro _ ⟨left, right⟩
    simp only [left.isValid part1, right.isValid part2]
  · dsimp only
    split
    case isTrue => exact inside.pure (by simp)
    case isFalse =>
      refine inside.apart_bind (apart_objectName object1 object2) fun id _ inside => ?_
      refine inside.apart_bind (apart_attemptDest _) fun _ _ inside => ?_
      refine inside.apart_bind (apart_attemptDest _) fun _ _ inside => ?_
      refine inside.apart_bind (apart_pairObjects object1 object2 id) fun _ _ inside => ?_
      exact inside.pure (by simpa using ⟨part1, part2⟩)

theorem matchEach (inside : Inside stage room room' here) (declare : Declare) {links : List Link}
    (placed : ∀ link ∈ links, Placed stage link.1.2 link.2.2) :
    Confined stage room room' (matchEach declare links) (Join.matchEach declare links) here
      fun found => ∀ pairs ∈ found, ∀ pair ∈ pairs, Placed stage pair.object1 pair.object2 := by
  induction links generalizing here with
  | nil => exact inside.pure (by simp)
  | cons link rest ih =>
      unfold Join.matchEach
      refine (inside.matchVariable declare _ (placed link List.mem_cons_self)).bind
        fun found _ both => ?_
      cases found with
      | none => exact both.1.pure (by simp)
      | some pair =>
          refine (ih both.1 fun link member => placed link (List.mem_cons_of_mem _ member)).bind
            fun later _ rests => ?_
          refine rests.1.pure ?_
          cases later with
          | none => simp
          | some pairs =>
              simp only [Option.map_some, Option.mem_def, Option.some.injEq, forall_eq',
                List.mem_cons, forall_eq_or_imp]
              exact ⟨both.2 pair rfl, rests.2 pairs rfl⟩

theorem matchScopes (inside : Inside stage room room' here) (declare : Declare)
    {scope1 scope2 : Table String ObjectId}
    (placed : ∀ link ∈ scope1.toList.zip scope2.toList, Placed stage link.1.2 link.2.2) :
    Confined stage room room' (matchScopes declare scope1 scope2)
      (Join.matchScopes declare scope1 scope2) here
      fun found => ∀ pairs ∈ found, ∀ pair ∈ pairs, Placed stage pair.object1 pair.object2 := by
  unfold Join.matchScopes
  split
  case isTrue => exact inside.matchEach declare placed
  case isFalse => exact inside.pure (by simp)

/-- Pairs of objects that are in the parts are followed by others. -/
theorem placed_append {pairs : List ObjectPair} {later : Option (List ObjectPair)}
    (first : ∀ pair ∈ pairs, Placed stage pair.object1 pair.object2)
    (second : ∀ pairs ∈ later, ∀ pair ∈ pairs, Placed stage pair.object1 pair.object2) :
    ∀ all ∈ later.map (pairs ++ ·), ∀ pair ∈ all, Placed stage pair.object1 pair.object2 := by
  intro all isAll pair member
  obtain ⟨rest, isLater, rfl⟩ := Option.map_eq_some_iff.1 isAll
  exact (List.mem_append.1 member).elim (first pair) (second rest isLater pair)

theorem matchFrames (inside : Inside stage room room' here) {frames : List (Frame × Frame)}
    (placed : ∀ link ∈ frameLinks frames, Placed stage link.1.2 link.2.2) :
    Confined stage room room' (matchFrames frames) (Join.matchFrames frames) here
      fun found => ∀ pairs ∈ found, ∀ pair ∈ pairs, Placed stage pair.object1 pair.object2 := by
  induction frames generalizing here with
  | nil => exact inside.pure (by simp)
  | cons both rest ih =>
      rw [frameLinks, List.flatMap_cons] at placed
      unfold Join.matchFrames
      split
      case isTrue => exact inside.pure (by simp)
      case isFalse =>
        refine inside.apart_bind (apart_modifyDest _) fun _ _ inside => ?_
        refine (inside.matchScopes _ fun link member =>
          placed link (List.mem_append_left _ member)).bind fun found _ both => ?_
        cases found with
        | none => exact both.1.pure (by simp)
        | some pairs =>
            refine (ih both.1 fun link member => placed link (List.mem_append_right _ member)).bind
              fun later _ rests => ?_
            exact rests.1.pure (placed_append (both.2 pairs rfl) rests.2)

/-- The variables that are paired are in the parts. -/
theorem placed_of_links {left right : Graph} {start : Nat}
    (leftInside : Encloses stage.leftPart start left)
    (rightInside : Encloses stage.rightPart start right) :
    ∀ link ∈ links left right, Placed stage link.1.2 link.2.2 := fun _ member =>
  ⟨leftInside.named (List.mem_map_of_mem
      ((map_fst_links_sublist left right).subset (List.mem_map_of_mem member))),
    rightInside.named (List.mem_map_of_mem
      ((map_snd_links_sublist left right).subset (List.mem_map_of_mem member)))⟩

theorem matchVariables (inside : Inside stage room room' here) :
    Confined stage room room' matchVariables Join.matchVariables here
      fun found => ∀ pairs ∈ found, ∀ pair ∈ pairs, Placed stage pair.object1 pair.object2 := by
  have placed := placed_of_links inside.left inside.right
  unfold Join.matchVariables
  refine Run.carries_state ?_ ?_
  · rintro _ ⟨left, right⟩
    simp only [left.globals, right.globals, left.frames, right.frames]
  · refine (inside.matchScopes _ fun link member =>
      placed link (List.mem_append_left _ member)).bind fun found _ both => ?_
    cases found with
    | none => exact both.1.pure (by simp)
    | some globals =>
        dsimp only
        split
        case isTrue => exact both.1.pure (by simp)
        case isFalse =>
          refine (both.1.matchFrames fun link member =>
            placed link (List.mem_append_right _ member)).bind fun later _ rests => ?_
          exact rests.1.pure (placed_append (both.2 globals rfl) rests.2)

/-! ### Graphs -/

/-- Only inequalities between values of a part are carried over from it. -/
theorem mappedInequalities {part : Part} {graph other : Graph} {map : Correspondence}
    (agree : AgreeOn part graph other) (zero : part.values .zero)
    (mapped : ∀ {value}, (map.value? value).isSome = true → part.values value) :
    mappedInequalities other map = Join.mappedInequalities graph map := by
  have within {value dest : ValueId} (found : counterpart? map value = some dest) :
      part.values value := by
    unfold counterpart? at found
    split at found
    case isTrue isZero => exact (show value = .zero by simpa [ValueId.isZero] using isZero) ▸ zero
    case isFalse => exact mapped (Option.isSome_of_eq_some found)
  refine KeySet.ext_contains fun key => ?_
  rw [contains_mappedInequalities_iff, contains_mappedInequalities_iff]
  refine exists_congr fun pair => exists_congr fun a => exists_congr fun b => ?_
  refine and_congr_left fun found => ?_
  obtain ⟨isFirst, isSecond, -⟩ := found
  rw [Table.contains, Table.contains, agree.inequalities (within isFirst) (within isSecond)]

theorem keepInequalities (inside : Inside stage room room' here) :
    Confined stage room room' keepInequalities Join.keepInequalities here fun _ => True := by
  have lowered {there : Progress × Supply} (inside : Inside stage room room' there) (differ : Bool)
      (status : Status) {next : Run Progress Unit}
      (rest : ∀ there, Inside stage room room' there →
        Confined stage room room' next next there fun _ => True) :
      Confined stage room room' (do
        unless differ do lower status
        next) (do
        unless differ do lower status
        next) there fun _ => True := by
    cases differ with
    | true => exact rest there inside
    | false => exact inside.apart_bind (apart_lower status) fun _ there inside => rest there inside
  unfold Join.keepInequalities
  refine Run.carries_state ?_ ?_
  · rintro _ ⟨left, right⟩
    simp only [mappedInequalities left inside.left.zero inside.leftValues,
      mappedInequalities right inside.right.zero inside.rightValues]
  · refine inside.apart_bind (apart_modifyDest _) fun _ _ inside => ?_
    exact lowered inside _ _ fun _ inside => lowered inside _ _ fun _ inside => inside.pure trivial

/-- The join from the variables on. -/
theorem joinFrom {depth depth' : Nat} (inside : Inside stage room room' here) (few : room < depth)
    (few' : room' < depth') :
    Confined stage room room' (joinFrom setting depth) (Join.joinFrom setting depth') here
      fun _ => True := by
  unfold Join.joinFrom
  refine inside.matchVariables.bind fun found _ both => ?_
  cases found with
  | none => exact both.1.pure trivial
  | some pairs =>
      refine (both.1.joinPairs few few' (both.2 pairs rfl)).bind fun joined _ both => ?_
      cases joined with
      | false => exact both.1.pure trivial
      | true =>
          refine both.1.keepInequalities.bind fun _ _ both => ?_
          dsimp only
          split
          case isFalse => exact both.1.pure trivial
          case isTrue =>
            exact both.1.apart_bind (apart_demand fun _ _ _ => rfl) fun _ _ inside =>
              inside.pure trivial

end Inside

end Join

namespace Graph

variable {part1 part2 : Part} {left left' right right' : Graph} {supply now : Supply}
variable {setting : Join.Setting} {joined : Bool} {there : Join.Progress}

/-- A join that starts inside enclosed parts goes through in the same way on graphs that say the
same of these parts. -/
theorem AgreeOn.joinAll (lefts : AgreeOn part1 left left') (rights : AgreeOn part2 right right')
    (enclosed1 : Encloses part1 supply.next left) (enclosed2 : Encloses part2 supply.next right)
    (done : Join.joinAll setting (.start left right, supply) = .ok joined (there, now)) :
    ∃ last, Join.joinAll setting (.start left' right', supply) = .ok joined (last, now) ∧
      Join.SameInputs (AgreeOn part1) (AgreeOn part2) there last := by
  let stage : Join.Stage := ⟨left, left', part1, part2, supply.next, lefts⟩
  have inside : Join.Inside stage (Join.unmapped left .empty) (Join.unmapped left' .empty)
      (.start left right, supply) :=
    { left := enclosed1
      right := enclosed2
      objects := rfl
      leftValues := fun mapped => by cases mapped
      rightValues := fun mapped => by cases mapped
      time := Nat.le_refl _
      few := Nat.le_refl _
      few' := Nat.le_refl _ }
  have related : stage.Related (.start left right) (.start left' right') := by
    have same : Join.Progress.start left' right' =
        { Join.Progress.start left right with left := left', right := right' } := by
      rw [Join.Progress.start, lefts.machine]
      rfl
    rw [same]
    exact .replaced lefts rights
  have carried := @Join.Inside.joinFrom _ _ _ _ setting _ _ inside
    (Join.unmapped_lt_size left .empty) (Join.unmapped_lt_size left' .empty)
  rw [Join.joinAll_apply] at done
  exact (Run.Ends.of_eq_ok carried done).2 related

/-- Without folding, the outcome of a join depends on nothing outside of enclosed parts. -/
theorem AgreeOn.join_iff {options : Options} {outcome : Join.Outcome}
    (lefts : AgreeOn part1 left left') (rights : AgreeOn part2 right right')
    (enclosed1 : Encloses part1 supply.next left) (enclosed2 : Encloses part2 supply.next right)
    (off : options.foldLists = false) :
    left'.join options right' supply = .ok outcome now ↔
      left.join options right supply = .ok outcome now := by
  have forward {left left' right right' : Graph} (lefts : AgreeOn part1 left left')
      (rights : AgreeOn part2 right right') (enclosed1 : Encloses part1 supply.next left)
      (enclosed2 : Encloses part2 supply.next right)
      (done : left.join options right supply = .ok outcome now) :
      left'.join options right' supply = .ok outcome now := by
    rw [join_apply, Join.joinAll_unfolded off] at done ⊢
    cases joined : Join.joinAll ⟨options, false⟩ (.start left right, supply) with
    | error fault there => simp [joined] at done
    | ok answer there =>
        obtain ⟨_, joined', ⟨-, -⟩⟩ := lefts.joinAll rights enclosed1 enclosed2 joined
        rw [joined] at done
        rw [joined']
        cases answer <;> exact done
  exact ⟨forward lefts.symm rights.symm (enclosed1.of_agreeOn lefts) (enclosed2.of_agreeOn rights),
    forward lefts rights enclosed1 enclosed2⟩

/-! ### Contents -/

/-- Graphs with the same contents agree on the whole, so a join of one goes through with the
other. -/
theorem SameContents.joinAll (lefts : left.SameContents left') (rights : right.SameContents right')
    {setting : Join.Setting} {joined : Bool} {there : Join.Progress}
    (done : Join.joinAll setting (.start left right, supply) = .ok joined (there, now)) :
    ∃ last, Join.joinAll setting (.start left' right', supply) = .ok joined (last, now) ∧
      Join.SameInputs (AgreeOn .whole) (AgreeOn .whole) there last :=
  (lefts.agreeOn .whole).joinAll (rights.agreeOn .whole) (encloses_whole left _)
    (encloses_whole right _) done

/-- Without folding, the outcome of a join depends on nothing but the contents of the graphs. -/
theorem SameContents.join_iff (lefts : left.SameContents left')
    (rights : right.SameContents right') {options : Options} (off : options.foldLists = false)
    {outcome : Join.Outcome} : left'.join options right' supply = .ok outcome now ↔
      left.join options right supply = .ok outcome now :=
  (lefts.agreeOn .whole).join_iff (rights.agreeOn .whole) (encloses_whole left _)
    (encloses_whole right _) off

end Graph

end ShapeDomain
