import Mathlib
import ShapeDomain.Proofs.Graph.Sound
import ShapeDomain.Proofs.Join.Outcome
import ShapeDomain.Proofs.Symmetry.Variables

/-!
# The symmetry of the join

When the joined graphs are exchanged, the join goes through or stops as before, and has an outcome
or none as before.  The status is mirrored, and the joint graphs are alike.
-/

namespace ShapeDomain

namespace Join

variable {scene : Scene} {rename : ValueId → ValueId} {pending : Pending}
variable {here there : Progress × Supply} {except1 except2 : ObjectId → Prop}

/-! ### Inequalities -/

theorem counterpart?_mirror {shift : Shift} {now : Nat} {map other : Correspondence}
    (renames : Renames shift now rename)
    (values : SameValues shift rename now map.value? other.value?) {value : ValueId}
    (early : value.index < shift.start) :
    counterpart? other value = (counterpart? map value).map shift.value := by
  have same := values.same value
  rw [renames.fixes value early] at same
  unfold counterpart?
  split
  · rw [Option.map_some, Shift.value_zero]
  · exact same

theorem mappedInequalities_mirror {shift : Shift} {now : Nat} {origin graph other : Graph}
    {map otherMap : Correspondence} (origins : Origin shift.start origin)
    (same : SameSide origin rename now graph other) (renames : Renames shift now rename)
    (values : SameValues shift rename now map.value? otherMap.value?) :
    mappedInequalities other otherMap =
      (mappedInequalities graph map).translate shift.pair shift.keepsPairs fun _ => () := by
  unfold mappedInequalities
  rw [same.relaidOther.inequalities, same.relaid.inequalities, ← KeySet.ofList_map,
    List.map_filterMap]
  congr 1
  refine List.filterMap_congr fun pair member => ?_
  obtain ⟨early1, early2⟩ := origins.inequalities pair (Table.mem_keys_iff.1 member)
  simp only [counterpart?_mirror renames values early1, counterpart?_mirror renames values early2]
  cases counterpart? map pair.1 with
  | none => rfl
  | some a =>
      cases counterpart? map pair.2 with
      | none => rfl
      | some b =>
          simp only [Option.map_some, bind, Option.bind_some, shift.value_inj,
            Graph.ordered_outline]
          split <;> rfl

/-- Adds inequalities between the values of pairs. -/
def addInequalities (dest : Graph) (pairs : List (ValueId × ValueId)) : Graph :=
  pairs.foldl (fun graph pair => graph.addInequality pair.1 pair.2) dest

theorem values_addInequalities (dest : Graph) (pairs : List (ValueId × ValueId)) :
    (addInequalities dest pairs).values = dest.values ∧
      (addInequalities dest pairs).layouts = dest.layouts := by
  induction pairs generalizing dest with
  | nil => exact ⟨rfl, rfl⟩
  | cons pair rest ih =>
      have added : (dest.addInequality pair.1 pair.2).values = dest.values ∧
          (dest.addInequality pair.1 pair.2).layouts = dest.layouts := by
        unfold Graph.addInequality
        split <;> exact ⟨rfl, rfl⟩
      have later := ih (dest.addInequality pair.1 pair.2)
      exact ⟨later.1.trans added.1, later.2.trans added.2⟩

theorem alike_addInequalities {shift : Shift} {dest other : Graph}
    (alike : Graph.Alike shift dest other) (pairs : List (ValueId × ValueId)) :
    Graph.Alike shift (addInequalities dest pairs)
      (addInequalities other (pairs.map shift.pair)) := by
  induction pairs generalizing dest other with
  | nil => exact alike
  | cons pair rest ih => exact ih (alike.addInequality pair.1 pair.2)

/-- What a graph that knows of more inequalities means for the status. -/
def inequalityStatus (more : KeySet (ValueId × ValueId)) (status : Status) : Status :=
  if more.keys.isEmpty then .equal else status

theorem keepInequalities_apply (here : Progress × Supply) :
    keepInequalities here = .ok ()
      (let left := mappedInequalities here.1.left here.1.leftMap
       let right := mappedInequalities here.1.right here.1.rightMap
       { here.1 with
         dest := addInequalities here.1.dest (left.inter right).keys
         status := (here.1.status.meet (inequalityStatus (left.diff right) .leftEntail)).meet
           (inequalityStatus (right.diff left) .rightEntail) }, here.2) := by
  obtain ⟨progress, supply⟩ := here
  unfold keepInequalities
  rw [Run.bind_apply_ok (Run.state_apply _)]
  unfold inequalityStatus
  simp only
  cases left : ((mappedInequalities progress.left progress.leftMap).diff
    (mappedInequalities progress.right progress.rightMap)).keys.isEmpty <;>
  cases right : ((mappedInequalities progress.right progress.rightMap).diff
    (mappedInequalities progress.left progress.leftMap)).keys.isEmpty
  all_goals
    simp only [if_true, Bool.false_eq_true, if_false, Status.meet_equal]
    rfl

theorem inequalityStatus_translate (shift : Shift) (more : KeySet (ValueId × ValueId))
    (status : Status) :
    inequalityStatus (more.translate shift.pair shift.keepsPairs fun _ => ()) status =
      inequalityStatus more status := by
  rw [inequalityStatus, Table.keys_translate, List.isEmpty_map, inequalityStatus]

/-- Both joins keep the same inequalities. -/
theorem twin_keepInequalities (mirror : Mirror scene rename .nothing here there) :
    Twin scene keepInequalities keepInequalities rename here there except1 except2
      (fun _ => .nothing) fun _ _ _ => True := by
  have left := mappedInequalities_mirror scene.leftOrigin mirror.left mirror.renames
    mirror.leftValues
  have right := mappedInequalities_mirror scene.rightOrigin mirror.right mirror.renames
    mirror.rightValues
  refine twin_of_ok rename (keepInequalities_apply here) (keepInequalities_apply there)
    (.of_eq (Nat.le_refl _) rfl rfl rfl rfl) ?_ trivial
  have kept := values_addInequalities here.1.dest
    ((mappedInequalities here.1.left here.1.leftMap).inter
      (mappedInequalities here.1.right here.1.rightMap)).keys
  have keptOther := values_addInequalities there.1.dest
    ((mappedInequalities there.1.left there.1.leftMap).inter
      (mappedInequalities there.1.right there.1.rightMap)).keys
  exact { mirror with
    status := by
      simp only [left, right, KeySet.diff_translate, inequalityStatus_translate, mirror.status]
      unfold inequalityStatus
      split <;> split <;> cases here.1.status <;> rfl
    dest := by
      have alike := alike_addInequalities mirror.dest
        ((mappedInequalities here.1.left here.1.leftMap).inter
          (mappedInequalities here.1.right here.1.rightMap)).keys
      simp only [left, right, KeySet.inter_translate, Table.keys_translate]
      rw [KeySet.inter_comm (mappedInequalities here.1.right here.1.rightMap)]
      exact alike
    numbers := mirror.numbers.of_eq kept.1 kept.2 keptOther.1
    knows := mirror.knows.of_eq kept.1 kept.2 }

/-! ### Joining graphs -/

theorem twin_joinPairs (setting : Setting) {depth1 depth2 : Nat} {pairs : List ObjectPair}
    (mirror : Mirror scene rename .nothing here there)
    (paired : ∀ pair ∈ pairs, Paired here.1 pair)
    (room1 : unmapped scene.left here.1.leftMap < depth1)
    (room2 : unmapped scene.right here.1.rightMap < depth2) :
    Twin scene (joinPairs setting depth1 pairs)
      (joinPairs setting depth2 (mirrorPairs scene.shift pairs)) rename here there
      (fun _ => True) (fun _ => True) (fun _ => .nothing) fun joined joined' _ =>
        joined' = joined := by
  induction pairs generalizing rename here there with
  | nil => exact twin_pure mirror rfl
  | cons pair rest ih =>
      obtain ⟨mapped1, mapped2⟩ := paired pair List.mem_cons_self
      have pairJoin := descends_joinObjects setting depth1 depth2 rename here there pair.object1
        pair.object2 pair.dest 0 mirror mapped1 mapped2 room1 room2
      simp only [mirrorPairs, List.map_cons, joinPairs]
      refine Twin.bind (Twin.except (fun _ _ => trivial) (fun _ _ => trivial) pairJoin) ?_
      intro joined joined' rename1 end1 end1' later mirror1 same
      subst same
      cases joined' with
      | true =>
          exact ih mirror1
            (fun pair member => (paired pair (List.mem_cons_of_mem _ member)).later later)
            (Nat.lt_of_le_of_lt (unmapped_le later.left) room1)
            (Nat.lt_of_le_of_lt (unmapped_le later.right) room2)
      | false =>
          refine twin_bind_of_ok (Run.ask_apply _ _) (Run.ask_apply _ _) ?_
          rw [mirror1.status]
          by_cases incomparable : end1.1.status = .incomparable
          · rw [incomparable]
            exact twin_pure mirror1 rfl
          · have other : end1.1.status.mirror ≠ .incomparable := by
              cases status : end1.1.status <;> simp_all [Status.mirror]
            rw [if_neg incomparable, if_neg other]
            exact twin_of_error (Run.throw_apply _ _) (Run.throw_apply _ _)

/-- The whole join. -/
theorem twin_joinAll (mirror : Mirror scene rename .nothing here there) (setting : Setting) :
    Twin scene (joinAll setting) (joinAll setting) rename here there (fun _ => True)
      (fun _ => True) (fun _ => .nothing) fun joined joined' _ => joined' = joined := by
  unfold joinAll
  refine twin_bind_of_ok (Run.ask_apply _ _) (Run.ask_apply _ _) ?_
  rw [mirror.left.relaid.objects, mirror.right.relaidOther.objects]
  refine (twin_matchVariables mirror).bind ?_
  rintro pairs _ rename1 end1 end1' _ mirror1 ⟨rfl, paired⟩
  cases pairs with
  | none => exact twin_pure mirror1 rfl
  | some pairs =>
      refine (twin_joinPairs setting mirror1 (paired pairs rfl) (unmapped_lt_size _ _)
        (unmapped_lt_size _ _)).bind ?_
      intro joined joined' rename2 end2 end2' _ mirror2 same
      subst same
      cases joined' with
      | false => exact twin_pure mirror2 rfl
      | true =>
          refine (twin_keepInequalities mirror2).bind ?_
          intro _ _ rename3 end3 end3' _ mirror3 _
          have passes := mirror3.dest.check_iff
          split
          case isFalse => exact twin_pure mirror3 rfl
          case isTrue =>
            cases verdict : end3.1.dest.check with
            | ok =>
                exact twin_bind_of_ok (Run.demand_apply_ok verdict)
                  (Run.demand_apply_ok (passes.2 verdict)) (twin_pure mirror3 rfl)
            | error fault =>
                cases verdict' : end3'.1.dest.check with
                | ok => simp [verdict] at passes; exact absurd verdict' passes
                | error fault' =>
                    exact twin_of_error (Run.bind_apply_error (Run.demand_apply_error verdict))
                      (Run.bind_apply_error (Run.demand_apply_error verdict'))

end Join

namespace Graph

theorem DrawnBefore.origin {graph : Graph} {start : Nat} (drawn : graph.DrawnBefore start)
    (consistent : graph.Consistent) : Join.Origin start graph where
  checked := consistent.checked
  objects id object found :=
    drawn.1 id (Table.mem_keys_iff.2 ((graph.hasObject_iff).2 ⟨object, found⟩))
  values value late := by
    cases known : graph.values.get? value with
    | none => rw [knowledge, known]; rfl
    | some known' =>
        have early := drawn.2.1 value
          (Table.mem_keys_iff.2 (by rw [Table.contains, known]; rfl))
        omega
  inequalities pair recorded := drawn.2.2 pair (Table.mem_keys_iff.2 recorded)

/-- Two graphs are the same up to names, labels, the machine and the choice of numbers: where their
numbers differ, these agree in a field that holds the value. -/
def Equivalent (shift : Shift) (graph other : Graph) : Prop :=
  Alike shift graph other ∧ ∀ value a b, graph.number? value = some a →
    other.number? (shift.value value) = some b →
    a = b ∨ ∃ object range, graph.valueAt? object range = some value ∧
      Number.agreeIn a b range.size = true

end Graph

namespace Join

theorem renames_shift (shift : Shift) (now : Nat) : Renames shift now shift.value where
  fixes value early := shift.value_of_lt early
  moves value late early := by
    rw [Shift.value, shift.index_of_le late]
    exact ⟨Nat.add_le_add_right late _, Nat.add_lt_add_right early _⟩
  beyond value _ := rfl
  injective value other same := shift.value_injective same

theorem sameSide_start {shift : Shift} {now : Nat} {graph : Graph} (started : shift.start ≤ now)
    (tiled : graph.Tiled) (held : ∀ object range value, graph.valueAt? object range = some value →
      value.index < shift.start) : SameSide graph shift.value now graph graph where
  relaid := .refl graph
  relaidOther := .refl graph
  tiled := tiled
  layouts object range := by
    cases found : graph.valueAt? object range with
    | none => rfl
    | some value => rw [Option.map_some, shift.value_of_lt (held object range value found)]
  held object range value found := Nat.lt_of_lt_of_le (held object range value found) started

theorem alike_initial (shift : Shift) (machine other : Machine) :
    Graph.Alike shift (.initial machine) (.initial other) := by
  unfold Graph.Alike Graph.outline Graph.initial
  simp only [Table.translate_insert, Table.translate_empty, Shift.object_null, Shift.value_zero,
    Shift.knowledge, Knowledge.zero, Option.map_some, Shift.target_null]
  rfl

theorem knowledge_initial (machine : Machine) (value : ValueId) :
    (Graph.initial machine).knowledge value = if value = .zero then .zero else .nothing := by
  rw [Graph.knowledge, Graph.initial, Table.get?_insert]
  split <;> rfl

theorem congruent_initial (shift : Shift) (machine other : Machine) :
    Congruent shift (fun _ _ => False) (.initial machine) (.initial other) where
  zero := by rw [Graph.number?, knowledge_initial, Graph.number?, knowledge_initial]
  agree value a b first second := by
    rw [Graph.number?, knowledge_initial] at first second
    split at first
    case isTrue zero =>
      rw [if_pos (by rw [zero, Shift.value_zero])] at second
      rw [first] at second
      exact .inl (Option.some.inj second)
    case isFalse => simp [Knowledge.nothing] at first

theorem destKnows_initial (start now : Nat) (map : Correspondence) (machine : Machine) :
    DestKnows start map (fun _ => False) now (.initial machine) where
  plain value isNumber := by
    rw [Graph.number?, knowledge_initial] at isNumber
    split at isNumber
    case isTrue zero => exact .inr zero
    case isFalse => simp [Knowledge.nothing] at isNumber
  known value something := by
    rw [knowledge_initial] at something
    split at something
    case isTrue zero => exact .inl zero
    case isFalse => exact absurd rfl something
  positive object range value held := by
    simp [Graph.valueAt?, Graph.layout, Graph.initial] at held

/-- Two joins that have just started are in step. -/
theorem mirror_start (scene : Scene) {supply later : Supply}
    (supplies : scene.shift.Supplies supply later) (tiled1 : scene.left.Tiled)
    (tiled2 : scene.right.Tiled)
    (held1 : ∀ object range value, scene.left.valueAt? object range = some value →
      value.index < scene.shift.start)
    (held2 : ∀ object range value, scene.right.valueAt? object range = some value →
      value.index < scene.shift.start) :
    Mirror scene scene.shift.value .nothing (.start scene.left scene.right, supply)
      (.start scene.right scene.left, later) where
  supplies := supplies
  renames := renames_shift scene.shift supply.next
  left := sameSide_start supplies.started tiled1 held1
  right := sameSide_start supplies.started tiled2 held2
  separate _ _ _ _ _ found _ := held1 _ _ _ found
  leftObjects _ := rfl
  rightObjects _ := rfl
  leftValues := ⟨fun _ => rfl, fun _ _ => rfl, fun _ _ => rfl⟩
  rightValues := ⟨fun _ => rfl, fun _ _ => rfl, fun _ _ => rfl⟩
  joined := ⟨fun _ _ => rfl, fun _ _ _ => rfl, fun _ _ _ => rfl⟩
  levels level1 level2 := by
    show LevelMap.initial.get? level2 level1 = LevelMap.initial.get? level1 level2
    simp only [LevelMap.initial, LevelMap.get?, Table.get?_insert, Prod.mk.injEq,
      and_comm (a := level2 = .ground), Table.get?_empty]
  status := rfl
  dest := alike_initial scene.shift _ _
  numbers := congruent_initial scene.shift _ _
  knows := destKnows_initial scene.shift.start supply.next _ _

/-- Two outcomes of joins of the same graphs, in the second one exchanged: both are undefined, or
the statuses are mirrored and the joint graphs are equivalent. -/
def Outcome.Mirrors (shift : Shift) : Outcome → Outcome → Prop
  | undefined, undefined => True
  | defined dest status, defined dest' status' =>
      status' = status.mirror ∧ dest.Equivalent shift dest'
  | _, _ => False

end Join

/-- Two computations go through together, with related results, or stop together. -/
inductive Draw.Together {α β : Type} (related : α → β → Prop) (first : Draw α) (second : Draw β)
    (supply later : Supply) : Prop where
  /-- Both go through. -/
  | through {result : α} {result' : β} {finish finish' : Supply} :
      first supply = .ok result finish → second later = .ok result' finish' →
      related result result' → Together related first second supply later
  /-- Both stop with a fault. -/
  | stop {fault fault' : Fault} {finish finish' : Supply} :
      first supply = .error fault finish → second later = .error fault' finish' →
      Together related first second supply later

/-- How the names drawn from a later supply differ from those drawn from an earlier one. -/
def Shift.between (supply later : Supply) (positive : 0 < supply.next) : Shift :=
  ⟨supply.next, later.next - supply.next, positive⟩

/-- Two joins of all variables, the later one with the graphs exchanged, go through together or stop
together.  When they go through, both find joints or none does, and the two are mirrored as far as
they got. -/
theorem Join.joinAll_mirrored (options : Options) {left right : Graph} {supply later : Supply}
    (positive : 0 < supply.next) (after : supply.next ≤ later.next)
    (consistent1 : left.Consistent) (consistent2 : right.Consistent)
    (exact1 : left.ExactFields) (exact2 : right.ExactFields)
    (shallow1 : left.Shallow) (shallow2 : right.Shallow)
    (drawn1 : left.DrawnBefore supply.next) (drawn2 : right.DrawnBefore supply.next) :
    Run.Matches (joinAll ⟨options, left == right⟩) (joinAll ⟨options, right == left⟩)
      (.start left right, supply) (.start right left, later) fun joined end1 joined' end2 =>
        joined' = joined ∧ end2.1.status = end1.1.status.mirror ∧
          end1.1.dest.Equivalent (.between supply later positive) end2.1.dest := by
  let shift := Shift.between supply later positive
  let scene : Scene :=
    ⟨left, right, shift, drawn1.origin consistent1, drawn2.origin consistent2, shallow1, shallow2⟩
  have supplies : shift.Supplies supply later :=
    ⟨Nat.le_refl _, (Nat.add_sub_cancel' after).symm⟩
  have mirror := mirror_start scene supplies (consistent1.checked.tiled exact1)
    (consistent2.checked.tiled exact2)
    (fun _ _ _ held => drawn1.held consistent1.checked exact1.inReach held)
    (fun _ _ _ held => drawn2.held consistent2.checked exact2.inReach held)
  have identical : (right == left) = (left == right) := by
    rw [Bool.eq_iff_iff, beq_iff_eq, beq_iff_eq, eq_comm]
  rw [identical]
  refine Run.Matches.mono (twin_joinAll mirror ⟨options, left == right⟩) ?_
  rintro joined end1 joined' end2 ⟨rename, -, ends, same⟩
  refine ⟨same, ends.status, ends.dest, fun value a b isA isB => ?_⟩
  rcases ends.numbers.agree value a b isA isB with equal | held | ⟨_, no, _⟩
  · exact .inl equal
  · exact .inr held
  · exact no.elim

/-- The join is symmetric: of two joins, the later one with the graphs exchanged, both stop with a
fault or none does, both have an outcome or none has, and then the statuses are mirrored and the
joint graphs are the same up to the names drawn for them, labels, the machine and the choice of
numbers that agree where they are held.  There has to be a level below every object, as one join may
ask for that level where the other one does not. -/
theorem Graph.join_symmetric (options : Options) {left right : Graph} {supply later : Supply}
    (positive : 0 < supply.next) (after : supply.next ≤ later.next)
    (consistent1 : left.Consistent) (consistent2 : right.Consistent)
    (exact1 : left.ExactFields) (exact2 : right.ExactFields)
    (shallow1 : left.Shallow) (shallow2 : right.Shallow)
    (drawn1 : left.DrawnBefore supply.next) (drawn2 : right.DrawnBefore supply.next) :
    Draw.Together (Join.Outcome.Mirrors (.between supply later positive))
      (left.join options right) (right.join options left) supply later := by
  have first := join_apply options left right supply
  have second := join_apply options right left later
  rcases (Join.joinAll_mirrored options positive after consistent1 consistent2 exact1 exact2
    shallow1 shallow2 drawn1 drawn2).cases with
    ⟨joined, end1, joined', end2, done1, done2, same, status, equivalent⟩ |
    ⟨fault, end1, fault', end2, stopped1, stopped2⟩
  case inr =>
    rw [stopped1] at first
    rw [stopped2] at second
    exact .stop first second
  case inl =>
    rw [done1] at first
    rw [done2, same] at second
    cases joined with
    | false => exact .through first second trivial
    | true => exact .through first second ⟨status, equivalent⟩

/-- Whether two graphs have a join, and how they then relate, does not depend on the names that are
drawn for it.  Two joins of the same graphs are both mirrored by a third one that comes after
them. -/
theorem Graph.exists_status_iff (options : Options) {left right : Graph} {supply later : Supply}
    (consistent1 : left.Consistent) (consistent2 : right.Consistent)
    (exact1 : left.ExactFields) (exact2 : right.ExactFields)
    (shallow1 : left.Shallow) (shallow2 : right.Shallow)
    (drawn1 : left.DrawnBefore supply.next) (drawn2 : right.DrawnBefore supply.next)
    (drawn1' : left.DrawnBefore later.next) (drawn2' : right.DrawnBefore later.next)
    (status : Status) :
    (∃ dest now, left.join options right supply = .ok (.defined dest status) now) ↔
      ∃ dest now, left.join options right later = .ok (.defined dest status) now := by
  let last : Supply := ⟨max supply.next later.next⟩
  have mirrored {first : Supply} (before : first.next ≤ last.next)
      (drawn1 : left.DrawnBefore first.next) (drawn2 : right.DrawnBefore first.next) :
      (∃ dest now, left.join options right first = .ok (.defined dest status) now) ↔
        ∃ there, Join.joinAll ⟨options, right == left⟩ (.start right left, last) = .ok true there ∧
          there.1.status = status.mirror := by
    simp only [join_eq_defined_iff]
    rcases (Join.joinAll_mirrored options (drawn1.positive consistent1.checked) before consistent1
      consistent2 exact1 exact2 shallow1 shallow2 drawn1 drawn2).cases with
      ⟨joined, end1, joined', end2, done1, done2, same, mirror, -⟩ |
      ⟨fault, end1, fault', end2, stopped1, stopped2⟩
    case inr => simp [stopped1, stopped2]
    case inl =>
      subst same
      simp only [done1, done2, EStateM.Result.ok.injEq]
      constructor
      · rintro ⟨dest, now, there, ⟨rfl, rfl⟩, rfl, rfl, rfl⟩
        exact ⟨end2, ⟨rfl, rfl⟩, mirror⟩
      · rintro ⟨there, ⟨rfl, rfl⟩, same⟩
        exact ⟨_, _, end1, ⟨rfl, rfl⟩, rfl, Status.mirror_injective (mirror.symm.trans same), rfl⟩
  exact (mirrored (Nat.le_max_left _ _) drawn1 drawn2).trans
    (mirrored (Nat.le_max_right _ _) drawn1' drawn2').symm

/-- A variable that holds an unknown value. -/
def unknownVariable : Graph :=
  ((Graph.initial .linux64).declareGlobal "x" ⟨1⟩ (.region 64 "x")).putField ⟨⟨1⟩, ⟨0, 64⟩, ⟨2⟩⟩

/-- The same variable, which holds a number. -/
def numberVariable : Graph :=
  (((Graph.initial .linux32).declareGlobal "x" ⟨1⟩ (.region 64 "x")).setNumber ⟨3⟩ 5).putField
    ⟨⟨1⟩, ⟨0, 64⟩, ⟨3⟩⟩

theorem join_symmetric_variable : ∃ dest dest' now now',
    unknownVariable.join {} numberVariable ⟨4⟩ = .ok (.defined dest .rightEntail) now ∧
      numberVariable.join {} unknownVariable ⟨9⟩ = .ok (.defined dest' .leftEntail) now' ∧
      dest.Equivalent (.between ⟨4⟩ ⟨9⟩ (by decide)) dest' := by
  have together : Draw.Together (Join.Outcome.Mirrors (.between ⟨4⟩ ⟨9⟩ (by decide)))
      (unknownVariable.join {} numberVariable) (numberVariable.join {} unknownVariable) ⟨4⟩ ⟨9⟩ :=
    Graph.join_symmetric {} (by decide) (by decide) (by decide +kernel) (by decide +kernel)
      (by decide +kernel) (by decide +kernel) (by decide +kernel) (by decide +kernel)
      (by decide +kernel) (by decide +kernel)
  obtain ⟨dest, now, joined⟩ : ∃ dest now, unknownVariable.join {} numberVariable ⟨4⟩ =
      .ok (.defined dest .rightEntail) now := ⟨_, _, by cbv⟩
  obtain ⟨dest', now', joined'⟩ : ∃ dest now, numberVariable.join {} unknownVariable ⟨9⟩ =
      .ok (.defined dest .leftEntail) now := ⟨_, _, by cbv⟩
  cases together with
  | stop stopped => exact absurd (joined.symm.trans stopped) (by simp)
  | through done done' mirrors =>
      cases joined.symm.trans done
      cases joined'.symm.trans done'
      exact ⟨dest, dest', now, now', joined, joined', mirrors.2⟩

/-- A variable that holds the address of a node, which holds that of another one.  The nodes are at
given levels. -/
def nestedNodes (level1 level2 : Level) : Graph :=
  (((((((Graph.initial .linux64).declareGlobal "x" ⟨1⟩ (.region 64 "x")).addHeapObject ⟨2⟩
    { Object.region 64 "node" with level := level1 }).addHeapObject ⟨3⟩
    { Object.region 64 "node" with level := level2 }).putPointer
    ⟨⟨4⟩, ⟨⟨2⟩, 0, .region⟩⟩).putPointer ⟨⟨5⟩, ⟨⟨3⟩, 0, .region⟩⟩).putField
    ⟨⟨1⟩, ⟨0, 64⟩, ⟨4⟩⟩).putField ⟨⟨2⟩, ⟨0, 64⟩, ⟨5⟩⟩

/-- The level below the deepest one is asked for in one order only. -/
theorem not_symmetric_nestedNodes :
    (nestedNodes ⟨1⟩ ⟨2⟩).Consistent ∧ (nestedNodes .deepest .deepest).Consistent ∧
      (∃ dest status now, (nestedNodes ⟨1⟩ ⟨2⟩).join {} (nestedNodes .deepest .deepest) ⟨6⟩ =
        .ok (.defined dest status) now) ∧
      ∃ now, (nestedNodes .deepest .deepest).join {} (nestedNodes ⟨1⟩ ⟨2⟩) ⟨6⟩ =
        .error (.levelOverflow .deepest) now :=
  ⟨by decide +kernel, by decide +kernel, ⟨_, _, _, by cbv⟩, _, by cbv⟩

end ShapeDomain
