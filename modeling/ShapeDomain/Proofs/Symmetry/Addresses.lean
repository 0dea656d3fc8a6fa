import ShapeDomain.Proofs.Symmetry.Numbers

/-!
# Mirrored joins of addresses

Two addresses lead to the same place of the destination in two mirrored joins, and make the same new
objects there.  What is below a new object is joined by `Descends`, which the caller supplies.
-/

namespace ShapeDomain

theorem Kind.join_comm (kind1 kind2 : Kind) :
    kind2.join kind1 = (kind1.join kind2).map fun joined => (joined.1, joined.2.mirror) := by
  have length (least1 least2 : Nat) :
      lengthStatus least2 least1 = (lengthStatus least1 least2).mirror := by
    unfold lengthStatus
    rcases Nat.lt_trichotomy least1 least2 with less | same | greater
    · rw [if_pos less, if_neg (by omega), if_pos less]
      rfl
    · rw [if_neg (by omega), if_neg (by omega), if_neg (by omega), if_neg (by omega)]
      rfl
    · rw [if_pos greater, if_neg (by omega), if_pos greater]
      rfl
  cases kind1 <;> cases kind2 <;> simp only [join] <;> try rfl
  case list.list head1 next1 prev1 least1 head2 next2 prev2 least2 =>
    by_cases same : head1 = head2 ∧ next1 = next2 ∧ prev1 = prev2
    · obtain ⟨rfl, rfl, rfl⟩ := same
      simp [Nat.min_comm least2, length least1]
    · rw [if_neg same, if_neg fun other => same ⟨other.1.symm, other.2.1.symm, other.2.2.symm⟩]
      rfl
  case region.list => split <;> rfl
  case list.region => split <;> rfl
  case abstraction.abstraction number1 number2 =>
    by_cases same : number1 = number2
    · rw [if_pos same, if_pos same.symm, same]
      rfl
    · rw [if_neg same, if_neg (Ne.symm same)]
      rfl

theorem Specifier.join_comm (toList : Bool) (specifier1 specifier2 : Specifier) :
    join toList specifier2 specifier1 = join toList specifier1 specifier2 := by
  cases toList <;> cases specifier1 <;> cases specifier2 <;> rfl

namespace Join

/-- Where two addresses lead in the destination of the other join. -/
def Destination.shift (shift : Shift) : Destination → Destination
  | known object => known (shift.object object)
  | made object => made (shift.object object)

theorem Destination.object_shift (shift : Shift) (destination : Destination) :
    (destination.shift shift).object = shift.object destination.object := by
  cases destination <;> rfl

variable {scene : Scene} {rename : ValueId → ValueId} {pending pending' : Pending}
variable {here there : Progress × Supply} {except1 except2 : ObjectId → Prop}

/-! ### Objects of the destination -/

section Placed

variable {start now : Nat} {map : Correspondence} {unpaired : ValueId → Prop} {dest next : Graph}
variable {shift : Shift} {width : ValueId → Nat → Prop} {other nextOther : Graph}

/-- A change of the objects keeps what a destination knows of values. -/
theorem DestKnows.of_eq (knows : DestKnows start map unpaired now dest)
    (values : next.values = dest.values) (layouts : next.layouts = dest.layouts) :
    DestKnows start map unpaired now next := by
  refine knows.of_knowledge (fun value => by rw [Graph.knowledge, values, Graph.knowledge]) ?_
  intro object range value held
  refine knows.positive object range value ?_
  rwa [Graph.valueAt?, Graph.layout, layouts] at held

/-- A change of the objects keeps the numbers. -/
theorem Congruent.of_eq (congruent : Congruent shift width dest other)
    (values : next.values = dest.values) (layouts : next.layouts = dest.layouts)
    (valuesOther : nextOther.values = other.values) : Congruent shift width next nextOther := by
  refine congruent.transfer (fun value => ?_) (fun value => ?_)
    fun object range value _ _ held => ?_
  · rw [Graph.number?, Graph.knowledge, values, Graph.number?, Graph.knowledge]
  · rw [Graph.number?, Graph.knowledge, valuesOther, Graph.number?, Graph.knowledge]
  · refine ⟨object, ?_⟩
    rw [Graph.valueAt?, Graph.layout, layouts]
    exact held

end Placed

theorem twin_setValid (mirror : Mirror scene rename pending here there) (id : ObjectId)
    (valid : Bool) :
    Twin scene (attemptDest fun graph => graph.setValid id valid)
      (attemptDest fun graph => graph.setValid (scene.shift.object id) valid) rename here there
      except1 except2 (fun _ => pending) fun _ _ end1 => end1.1.leftMap = here.1.leftMap := by
  have kept {graph next : Graph} {id : ObjectId} (done : graph.setValid id valid = .ok next) :
      next.values = graph.values ∧ next.layouts = graph.layouts := by
    unfold Graph.setValid at done
    split at done
    · simp only [Except.ok.injEq] at done
      subst done
      exact ⟨rfl, rfl⟩
    · simp at done
  refine (twin_attemptDest _ mirror (mirror.dest.setValid id valid) ?_).mono (fun _ => rfl) ?_
  case refine_2 =>
    rintro _ _ _ ⟨_, -, rfl⟩
    rfl
  intro next nextOther done done'
  exact ⟨mirror.numbers.of_eq (kept done).1 (kept done).2 (kept done').1,
    mirror.knows.of_eq (kept done).1 (kept done).2⟩

/-- Objects that were just put into the destinations become counterparts. -/
theorem twin_placed (mirror : Mirror scene rename .nothing here there)
    (target1 target2 id : ObjectId) (valid : Bool) (status : Status) :
    Twin scene
      (do
        attemptDest fun graph => graph.setValid id valid
        pairObjects target1 target2 id
        lower status
        return some id)
      (do
        attemptDest fun graph => graph.setValid (scene.shift.object id) valid
        pairObjects target2 target1 (scene.shift.object id)
        lower status.mirror
        return some (scene.shift.object id))
      rename here there except1 except2 (fun _ => .nothing) fun made made' end1 =>
        made' = made.map scene.shift.object ∧
          end1.1.leftMap.values = here.1.leftMap.values ∧ (made.isSome = true →
            (end1.1.leftMap.object? target1).isSome = true ∧
              (end1.1.rightMap.object? target2).isSome = true) := by
  refine (twin_setValid mirror id valid).bind ?_
  intro _ _ rename1 end1 end1' _ mirror1 unchanged
  refine (twin_pairObjects mirror1 target1 target2 id).bind ?_
  intro _ _ rename2 end2 end2' _ mirror2 paired
  refine (twin_lower mirror2 status).bind ?_
  intro _ _ rename3 end3 end3' later mirror3 lowered
  refine twin_pure mirror3 ⟨rfl, ?_, fun _ => ⟨later.left _ ?_, later.right _ ?_⟩⟩
  · rw [lowered, paired]
    show end1.1.leftMap.values = here.1.leftMap.values
    rw [unchanged]
  · rw [paired]
    show ((end1.1.leftMap.setObject target1 id).object? target1).isSome = true
    simp [Correspondence.object?_setObject]
  · rw [paired]
    show ((end1.1.rightMap.setObject target2 id).object? target2).isSome = true
    simp [Correspondence.object?_setObject]

/-- Both graphs' objects are joined into new ones. -/
theorem twin_joinTargets (mirror : Mirror scene rename .nothing here there)
    (target1 target2 : ObjectId) :
    Twin scene (joinTargets target1 target2) (joinTargets target2 target1) rename here there
      except1 except2 (fun _ => .nothing) fun made made' end1 =>
        made' = made.map scene.shift.object ∧
          end1.1.leftMap.values = here.1.leftMap.values ∧ (made.isSome = true →
            (end1.1.leftMap.object? target1).isSome = true ∧
              (end1.1.rightMap.object? target2).isSome = true) := by
  have refused : Twin scene (pure Option.none) (pure Option.none) rename here there except1 except2
      (fun _ => .nothing) fun (made made' : Option ObjectId) end1 =>
        made' = made.map scene.shift.object ∧
          end1.1.leftMap.values = here.1.leftMap.values ∧ (made.isSome = true →
            (end1.1.leftMap.object? target1).isSome = true ∧
              (end1.1.rightMap.object? target2).isSome = true) :=
    twin_pure mirror ⟨rfl, rfl, fun none => by simp at none⟩
  unfold joinTargets
  refine twin_demands (mirror.left.object target1) (mirror.right.object target2) ?_
  intro object1 object2 found1 found2
  have early : target1.index < scene.shift.start := by
    rw [mirror.left.relaid.object] at found1
    exact scene.leftOrigin.objects target1 object1 ((Graph.object_eq_ok_iff _).1 found1)
  refine twin_bind_of_ok (Run.state_apply _) (Run.state_apply _) ?_
  simp only [mirror.left.isValid, mirror.right.isValid, mirror.left.isHeap, mirror.right.isHeap]
  by_cases alike : object1.size ≠ object2.size ∨
      here.1.left.isValid target1 ≠ here.1.right.isValid target2
  case pos =>
    rw [if_pos alike, if_pos (by rwa [ne_comm, ne_comm (a := here.1.right.isValid target2)])]
    exact refused
  case neg =>
    rw [if_neg alike, if_neg (by rwa [ne_comm, ne_comm (a := here.1.right.isValid target2)])]
    rw [Kind.join_comm object1.kind object2.kind, mirror.levels]
    cases object1.kind.join object2.kind with
    | none => exact refused
    | some joined =>
        obtain ⟨kind, status⟩ := joined
        cases here.1.levels.get? object1.level object2.level with
        | none => exact refused
        | some level =>
            simp only [Option.map_some]
            refine (twin_objectName mirror early).bind ?_
            rintro id _ rename' end1 end2 _ mirror' ⟨rfl, unchanged⟩
            rw [Bool.or_comm (here.1.right.isHeap target2)]
            have size : object1.size = object2.size :=
              Classical.not_not.1 fun different => alike (.inl different)
            have valid : here.1.left.isValid target1 = here.1.right.isValid target2 :=
              Classical.not_not.1 fun different => alike (.inr different)
            rw [← valid, ← size]
            have unlabelled : ({ object2 with size := object1.size, level := level, kind := kind } :
                Object).unlabelled =
                ({ object1 with level := level, kind := kind } : Object).unlabelled := rfl
            split
            · refine (twin_modifyDest mirror' (mirror'.dest.addHeapObject id unlabelled)
                (mirror'.numbers.of_eq rfl rfl rfl) (mirror'.knows.of_eq rfl rfl)).bind ?_
              intro _ _ rename'' end1' end2' _ mirror'' changed
              refine (twin_placed mirror'' target1 target2 id _ status).mono (fun _ => rfl) ?_
              rintro _ _ _ ⟨made, values, paired⟩
              refine ⟨made, values.trans ?_, paired⟩
              rw [changed, ← unchanged]
              rfl
            · refine (twin_modifyDest mirror' (mirror'.dest.addObject id unlabelled)
                (mirror'.numbers.of_eq rfl rfl rfl) (mirror'.knows.of_eq rfl rfl)).bind ?_
              intro _ _ rename'' end1' end2' _ mirror'' changed
              refine (twin_placed mirror'' target1 target2 id _ status).mono (fun _ => rfl) ?_
              rintro _ _ _ ⟨made, values, paired⟩
              refine ⟨made, values.trans ?_, paired⟩
              rw [changed, ← unchanged]
              rfl

/-- Where two addresses lead. -/
theorem twin_destination (mirror : Mirror scene rename .nothing here there)
    (target1 target2 : ObjectId) :
    Twin scene (destination target1 target2) (destination target2 target1) rename here there
      except1 except2 (fun _ => .nothing) fun found found' end1 =>
        found' = found.map (Destination.shift scene.shift) ∧
          end1.1.leftMap.values = here.1.leftMap.values ∧ ∀ id, found = some (.made id) →
            (here.1.leftMap.object? target1 = Option.none ∧
              here.1.rightMap.object? target2 = Option.none) ∧
            (end1.1.leftMap.object? target1).isSome = true ∧
              (end1.1.rightMap.object? target2).isSome = true := by
  have nowhere : Twin scene (pure Option.none) (pure Option.none) rename here there except1 except2
      (fun _ => .nothing) fun (found found' : Option Destination) end1 =>
        found' = found.map (Destination.shift scene.shift) ∧
          end1.1.leftMap.values = here.1.leftMap.values ∧ ∀ id, found = some (.made id) →
            (here.1.leftMap.object? target1 = Option.none ∧
              here.1.rightMap.object? target2 = Option.none) ∧
            (end1.1.leftMap.object? target1).isSome = true ∧
              (end1.1.rightMap.object? target2).isSome = true :=
    twin_pure mirror ⟨rfl, rfl, fun id made => by simp at made⟩
  unfold destination
  refine twin_bind_of_ok (Run.state_apply _) (Run.state_apply _) ?_
  rw [mirror.leftObjects, mirror.rightObjects, Bool.and_comm target2.isNull]
  split
  case isTrue =>
    refine twin_pure mirror ⟨?_, rfl, fun id made => by simp at made⟩
    rw [Option.map_some, Destination.shift, Shift.object_null]
  case isFalse =>
    cases mapped1 : here.1.leftMap.object? target1 with
    | some dest1 =>
        cases mapped2 : here.1.rightMap.object? target2 with
        | some dest2 =>
            simp only [Option.map_some, scene.shift.object_inj]
            refine twin_pure mirror ⟨?_, rfl, fun id made => ?_⟩
            · by_cases same : dest1 = dest2
              · rw [if_pos same, if_pos same.symm, same]
                rfl
              · rw [if_neg same, if_neg (Ne.symm same)]
                rfl
            · split at made <;> simp at made
        | none =>
            rw [mapped1, mapped2] at nowhere
            exact nowhere
    | none =>
        cases mapped2 : here.1.rightMap.object? target2 with
        | some dest2 =>
            rw [mapped1, mapped2] at nowhere
            exact nowhere
        | none =>
            simp only [mapped1, mapped2] at nowhere
            simp only [Option.map_none, Bool.or_comm target2.isNull]
            split
            · exact nowhere
            · refine (twin_joinTargets mirror target1 target2).bind ?_
              rintro made _ rename' end1 end2 _ mirror' ⟨rfl, values, paired⟩
              refine twin_pure mirror' ⟨?_, values, fun id isMade =>
                ⟨⟨trivial, trivial⟩, paired ?_⟩⟩
              · cases made <;> rfl
              · cases made with
                | none => simp at isMade
                | some => rfl

/-- A value becomes an address in both joins, or in none. -/
theorem twin_addPointer (mirror : Mirror scene rename .nothing here there) {value : ValueId}
    (nothing : here.1.dest.knowledge value = .nothing)
    (drawn : scene.shift.start ≤ value.index → value.index < here.2.next) (place : Target) :
    Twin scene (attemptDest fun graph => graph.addPointer ⟨value, place⟩)
      (attemptDest fun graph =>
        graph.addPointer ⟨scene.shift.value value, scene.shift.target place⟩)
      rename here there except1 except2
      (fun _ => ⟨fun _ _ => False, fun other => other = value ∧ other.index < scene.shift.start⟩)
      fun _ _ _ => True := by
  refine (twin_attemptDest _ mirror (mirror.dest.addPointer ⟨value, place⟩) ?_).mono (fun _ => rfl)
    fun _ _ _ _ => trivial
  intro next nextOther done done'
  obtain ⟨-, -, rfl⟩ := Graph.addPointer_eq_ok_iff.1 done
  obtain ⟨-, -, rfl⟩ := Graph.addPointer_eq_ok_iff.1 done'
  refine ⟨?_, mirror.knows.putPointer ⟨value, place⟩ nothing drawn⟩
  exact mirror.numbers.transfer (fun held => Graph.number?_putPointer held)
    (fun held => Graph.number?_putPointer held) fun object range held _ _ there => ⟨object, there⟩

/-- The name of the joint address of two values. -/
theorem twin_addressName (mirror : Mirror scene rename .nothing here there)
    {value1 value2 : ValueId} (early1 : value1.index < here.2.next)
    (shared : value1 = value2 → value1.index < scene.shift.start) (proper : value1 ≠ .zero)
    (free : hasCounterpart here.1.leftMap value1 = false) (place : Target) :
    Twin scene (addressName value1 value2 place)
      (addressName (rename value2) (rename value1) (scene.shift.target place)) rename here there
      except1 except2 (fun _ => ⟨fun _ _ => False, fun other => other = value1⟩)
      fun id id' _ => id' = scene.shift.value id := by
  unfold addressName
  refine twin_bind_of_ok (Run.ask_apply _ _) (Run.ask_apply _ _) ?_
  rw [mirror.dest.addressOf?]
  cases here.1.dest.addressOf? place with
  | some existing =>
      simp only [Option.map_some]
      by_cases same : value1 = value2
      · have early := shared same
        have name : rename value2 = scene.shift.value value1 := by
          rw [← same, mirror.renames.fixes value1 early, scene.shift.value_of_lt early]
        have other : rename value1 = scene.shift.value value1 := by
          rw [mirror.renames.fixes value1 early, scene.shift.value_of_lt early]
        rw [if_neg (Classical.not_not.2 same),
          if_neg (Classical.not_not.2 (congrArg rename same.symm)), name]
        have nothing := mirror.nothing_of_name shared proper free (.inl ⟨same, rfl⟩)
        refine (twin_addPointer mirror nothing (fun _ => early1) place).bind ?_
        intro _ _ _ _ _ _ mirror' _
        exact twin_pure (mirror'.await _ (fun _ _ => id) fun _ both => both.1) rfl
      · have different : rename value2 ≠ rename value1 := fun equal =>
          same (mirror.renames.injective _ _ equal).symm
        rw [if_pos same, if_pos different]
        exact twin_pure (mirror.await _ (fun _ _ no => no.elim) fun _ no => no.elim) rfl
  | none =>
      refine (twin_valueName mirror shared).bind ?_
      rintro id _ rename' end1 end2 later mirror' ⟨rfl, unchanged, name⟩
      have nothing : end1.1.dest.knowledge id = .nothing := by
        rw [unchanged]
        by_cases zero : id = .zero
        · rcases name with ⟨-, rfl⟩ | ⟨-, drawn, -⟩
          · exact absurd zero proper
          · have := mirror.supplies.started
            have := scene.shift.positive
            rw [zero] at drawn
            have : (0 : Nat) = here.2.next := drawn
            omega
        · exact mirror.nothing_of_name shared zero free
            (name.imp_right fun drawn => Nat.le_of_eq drawn.2.1.symm)
      have drawn : id.index < end1.2.next := by
        rcases name with ⟨-, rfl⟩ | ⟨-, drawn, moved⟩
        · exact Nat.lt_of_lt_of_le early1 later.time
        · omega
      refine (twin_addPointer mirror' nothing (fun _ => drawn) place).bind ?_
      intro _ _ _ _ _ _ mirror'' _
      refine twin_pure (mirror''.await _ (fun _ _ => fun no => no) ?_) rfl
      rintro other ⟨rfl, early⟩
      rcases name with ⟨-, same⟩ | ⟨-, drawn, -⟩
      · exact same
      · have := mirror.supplies.started
        omega

/-- The folding that a destination offers. -/
theorem twin_foldAt (mirror : Mirror scene rename pending here there) (setting : Setting)
    (id : ObjectId) :
    Twin scene (foldAt setting id) (foldAt setting (scene.shift.object id)) rename here there
      except1 except2 (fun _ => pending) fun fold fold' _ =>
        fold' = fold.map scene.shift.fold := by
  unfold foldAt
  split
  · refine twin_of_ok rename (Run.ask_apply _ _) (Run.ask_apply _ _) (.refl _ _) mirror ?_
    rw [mirror.dest.startingFrom, List.head?_map]
  · exact twin_pure mirror rfl

end Join

end ShapeDomain
