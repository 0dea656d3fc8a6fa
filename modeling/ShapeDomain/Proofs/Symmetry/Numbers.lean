import ShapeDomain.Proofs.Symmetry.Dest

/-!
# Mirrored joins of numbers

What is known of the values of the joined graphs does not depend on the order of these.  So two
mirrored joins both refuse a pair of values that has no join, and both find the joint value of two
numbers, which then agree in the width of the field.
-/

namespace ShapeDomain

/-- The outcome of joining two values in the other join. -/
def Shift.valueJoin (shift : Shift) : Join.ValueJoin → Join.ValueJoin
  | .joined value fold => .joined (shift.value value) (fold.map shift.fold)
  | .undefined recoverable => .undefined recoverable

namespace Join

variable {scene : Scene} {rename : ValueId → ValueId} {pending pending' : Pending}
variable {here there : Progress × Supply} {except1 except2 : ObjectId → Prop}

/-! ### What is known of the joined values -/

section Sides

variable {shift : Shift} {now : Nat} {origin graph other : Graph}

theorem SameSide.knowledge (same : SameSide origin rename now graph other)
    (origins : Origin shift.start origin) (renames : Renames shift now rename)
    (started : shift.start ≤ now) (value : ValueId) :
    other.knowledge (rename value) = graph.knowledge value := by
  rw [same.relaidOther.knowledge, same.relaid.knowledge]
  by_cases early : value.index < shift.start
  · rw [renames.fixes value early]
  · have late := Nat.le_of_not_lt early
    rw [origins.values value late, origins.values _ (renames.start_le started late)]

theorem SameSide.number? (same : SameSide origin rename now graph other)
    (origins : Origin shift.start origin) (renames : Renames shift now rename)
    (started : shift.start ≤ now) (value : ValueId) :
    other.number? (rename value) = graph.number? value := by
  rw [Graph.number?, same.knowledge origins renames started, Graph.number?]

theorem SameSide.target? (same : SameSide origin rename now graph other)
    (origins : Origin shift.start origin) (renames : Renames shift now rename)
    (started : shift.start ≤ now) (value : ValueId) :
    other.target? (rename value) = graph.target? value := by
  rw [Graph.target?, same.knowledge origins renames started, Graph.target?]

theorem SameSide.object? (same : SameSide origin rename now graph other) (id : ObjectId) :
    other.object? id = graph.object? id := by
  rw [same.relaidOther.object?, same.relaid.object?]

theorem SameSide.object (same : SameSide origin rename now graph other) (id : ObjectId) :
    other.object id = graph.object id := by
  rw [same.relaidOther.object, same.relaid.object]

theorem SameSide.isValid (same : SameSide origin rename now graph other) (id : ObjectId) :
    other.isValid id = graph.isValid id := by
  rw [same.relaidOther.isValid, same.relaid.isValid]

theorem SameSide.isHeap (same : SameSide origin rename now graph other) (id : ObjectId) :
    other.isHeap id = graph.isHeap id := by
  rw [same.relaidOther.isHeap, same.relaid.isHeap]

end Sides

namespace Mirror

theorem leftNumber (mirror : Mirror scene rename pending here there) (value : ValueId) :
    there.1.right.number? (rename value) = here.1.left.number? value :=
  mirror.left.number? scene.leftOrigin mirror.renames mirror.supplies.started value

theorem rightNumber (mirror : Mirror scene rename pending here there) (value : ValueId) :
    there.1.left.number? (rename value) = here.1.right.number? value :=
  mirror.right.number? scene.rightOrigin mirror.renames mirror.supplies.started value

theorem leftTarget (mirror : Mirror scene rename pending here there) (value : ValueId) :
    there.1.right.target? (rename value) = here.1.left.target? value :=
  mirror.left.target? scene.leftOrigin mirror.renames mirror.supplies.started value

theorem rightTarget (mirror : Mirror scene rename pending here there) (value : ValueId) :
    there.1.left.target? (rename value) = here.1.right.target? value :=
  mirror.right.target? scene.rightOrigin mirror.renames mirror.supplies.started value

theorem leftAddress (mirror : Mirror scene rename pending here there) (value : ValueId) :
    address? there.1.right (rename value) = address? here.1.left value := by
  rw [address?, address?, mirror.renames.isZero, mirror.leftTarget]

theorem rightAddress (mirror : Mirror scene rename pending here there) (value : ValueId) :
    address? there.1.left (rename value) = address? here.1.right value := by
  rw [address?, address?, mirror.renames.isZero, mirror.rightTarget]

theorem leftPointsToList (mirror : Mirror scene rename pending here there) (value : ValueId) :
    pointsToList there.1.right (rename value) = pointsToList here.1.left value := by
  simp only [pointsToList, mirror.leftTarget, mirror.left.object?]

theorem rightPointsToList (mirror : Mirror scene rename pending here there) (value : ValueId) :
    pointsToList there.1.left (rename value) = pointsToList here.1.right value := by
  simp only [pointsToList, mirror.rightTarget, mirror.right.object?]

/-- Of a joint value whose name is shared by two values without a counterpart, or was just drawn,
nothing is known in the destination. -/
theorem nothing_of_name (mirror : Mirror scene rename .nothing here there)
    {value1 value2 id : ValueId} (shared : value1 = value2 → value1.index < scene.shift.start)
    (proper : id ≠ .zero) (free : hasCounterpart here.1.leftMap value1 = false)
    (name : value1 = value2 ∧ id = value1 ∨ here.2.next ≤ id.index) :
    here.1.dest.knowledge id = .nothing := by
  refine mirror.knows.nothing_of proper (fun early => ?_) fun late => ?_
  · rcases name with ⟨-, rfl⟩ | drawn
    · have isProper : id.isZero = false := by simpa [ValueId.isZero] using proper
      exact ⟨by simpa [hasCounterpart, isProper] using free, fun no => no⟩
    · have := mirror.supplies.started
      omega
  · rcases name with ⟨same, rfl⟩ | drawn
    · exact absurd (shared same) (Nat.not_lt_of_le late)
    · exact drawn

end Mirror

/-- What is to be done with a joint value: it is to be held in a width. -/
def Pending.hold (size : Nat) : ValueJoin → Pending
  | .joined value _ => ⟨fun held width => held = value ∧ width = size, fun _ => False⟩
  | .undefined _ => .nothing

/-! ### Pairs without a join -/

theorem twin_noJoin (mirror : Mirror scene rename .nothing here there) (setting : Setting)
    (value1 value2 : ValueId) (size : Nat) :
    Twin scene (noJoin setting value1 value2) (noJoin setting (rename value2) (rename value1))
      rename here there except1 except2 (Pending.hold size) fun result1 result2 _ =>
        result2 = scene.shift.valueJoin result1 := by
  unfold noJoin
  refine twin_bind_of_ok (Run.state_apply _) (Run.state_apply _) ?_
  refine twin_pure mirror ?_
  rw [mirror.leftPointsToList, mirror.rightPointsToList, Bool.or_comm]
  rfl

/-! ### Numbers -/

theorem numberStatus_mirror (shared : Bool) (levelDiff : Int) (number1 number2 : Option Int) :
    numberStatus shared (-levelDiff) number2 number1 =
      (numberStatus shared levelDiff number1 number2).mirror := by
  rcases number1 with _ | a <;> rcases number2 with _ | b
  case none.some => rfl
  case some.none => rfl
  all_goals
    cases shared
    case true => rfl
    case false =>
      simp only [numberStatus, Bool.false_eq_true, if_false]
      rcases Int.lt_trichotomy levelDiff 0 with less | same | greater
      · rw [if_neg (by omega), if_pos (by omega), if_pos less]
        rfl
      · rw [if_neg (by omega), if_neg (by omega), if_neg (by omega), if_neg (by omega)]
        rfl
      · rw [if_pos (by omega), if_neg (by omega), if_pos greater]
        rfl

theorem agreeIn_comm (a b : Int) (size : Nat) :
    Number.agreeIn b a size = Number.agreeIn a b size := by
  rw [Number.agreeIn, Number.agreeIn, Bool.beq_comm]

theorem wrap_eq_of_agreeIn {a b : Int} {size : Nat} (agree : Number.agreeIn a b size = true) :
    Number.wrap b size false = Number.wrap a size false := by
  simp only [Number.agreeIn, beq_iff_eq] at agree
  exact agree.symm

/-- The name of the joint value of two numbers. -/
theorem twin_numberName (mirror : Mirror scene rename pending here there)
    {value1 value2 : ValueId} (shared : value1 = value2 → value1.index < scene.shift.start)
    {a b : Int} {size : Nat} (agree : Number.agreeIn a b size = true) :
    Twin scene (numberName value1 value2 a size) (numberName (rename value2) (rename value1) b size)
      rename here there except1 except2 (fun _ => pending) fun id id' end1 =>
        id' = scene.shift.value id ∧ end1.1 = here.1 ∧
          (value1 = value2 ∧ id = value1 ∧ end1.2 = here.2 ∨ id = .zero ∨
            id.index = here.2.next ∧ end1.2.next = here.2.next + 1) := by
  have wrapped := wrap_eq_of_agreeIn agree
  unfold numberName
  by_cases same : value1 = value2
  · rw [if_pos same, if_pos (congrArg rename same.symm)]
    refine twin_pure mirror ⟨?_, rfl, .inl ⟨same, rfl, rfl⟩⟩
    rw [← same, mirror.renames.fixes value1 (shared same),
      scene.shift.value_of_lt (shared same)]
  · have different : rename value2 ≠ rename value1 := fun equal =>
      same (mirror.renames.injective _ _ equal).symm
    rw [if_neg same, if_neg different, wrapped]
    split
    · exact twin_pure mirror ⟨scene.shift.value_zero.symm, rfl, .inr (.inl rfl)⟩
    · exact twin_of_ok rename (Run.draw_valueId_apply _) (Run.draw_valueId_apply _)
        (Later.of_eq (Nat.le_succ _) rfl rfl rfl rfl) mirror.draw
        ⟨mirror.supplies.value, rfl, .inr (.inr ⟨rfl, rfl⟩)⟩

/-- A joint value that is a number, which is about to be held and to become a counterpart. -/
theorem twin_setNumber (mirror : Mirror scene rename .nothing here there) {value : ValueId}
    (proper : value ≠ .zero) (nothing : here.1.dest.knowledge value = .nothing)
    (drawn : scene.shift.start ≤ value.index → value.index < here.2.next) {a b : Int} {size : Nat}
    (agree : Number.agreeIn a b size = true) :
    Twin scene (modifyDest fun graph => graph.setNumber value a)
      (modifyDest fun graph => graph.setNumber (scene.shift.value value) b) rename here there
      except1 except2
      (fun _ => ⟨fun held width => held = value ∧ width = size,
        fun other => other = value ∧ other.index < scene.shift.start⟩)
      fun _ _ end1 => end1.2 = here.2 := by
  refine (twin_modifyDest mirror (mirror.dest.setNumber value a b)
    (mirror.numbers.setNumber proper agree) (mirror.knows.setNumber nothing drawn a)).mono
    (fun _ => rfl) ?_
  rintro _ _ _ rfl
  rfl

/-- The last step of joining two values: they get their joint value. -/
theorem twin_pairJoined (mirror : Mirror scene rename pending here there)
    {value1 value2 : ValueId} (early1 : value1.index < here.2.next)
    (early2 : value2.index < here.2.next) {dest : ValueId} {size : Nat}
    (width : ∀ held wide, pending.width held wide → held = dest ∧ wide = size)
    (paired : ∀ value, pending.unpaired value → value = value1) :
    Twin scene
      (do
        pairValues value1 value2 dest
        return .joined dest Option.none)
      (do
        pairValues (rename value2) (rename value1) (scene.shift.value dest)
        return .joined (scene.shift.value dest) Option.none)
      rename here there except1 except2 (Pending.hold size) fun result1 result2 _ =>
        result2 = scene.shift.valueJoin result1 := by
  refine (twin_pairValues mirror early1 early2 dest paired).bind ?_
  intro _ _ rename' end1 end2 _ mirror' _
  exact twin_pure (mirror'.await (.hold size (.joined dest _)) width
    fun _ no => no) rfl

section Joined

variable (mirror : Mirror scene rename .nothing here there) {value1 value2 : ValueId}
variable (early1 : value1.index < here.2.next) (early2 : value2.index < here.2.next)
variable (shared : value1 = value2 → value1.index < scene.shift.start)

include mirror early1 early2 shared

/-- Two values whose numbers are not both known get a joint value, and the numbers are compared. -/
theorem twin_joinUnknown (size : Nat) (levelDiff : Int) (number1 number2 : Option Int) :
    Twin scene
      (do
        let dest ← valueName value1 value2
        pairValues value1 value2 dest
        lower (numberStatus (value1 == value2) levelDiff number1 number2)
        return .joined dest Option.none)
      (do
        let dest ← valueName (rename value2) (rename value1)
        pairValues (rename value2) (rename value1) dest
        lower (numberStatus (rename value2 == rename value1) (-levelDiff) number2 number1)
        return .joined dest Option.none)
      rename here there except1 except2 (Pending.hold size) fun result1 result2 _ =>
        result2 = scene.shift.valueJoin result1 := by
  refine (twin_valueName mirror shared).bind ?_
  rintro dest _ rename' end1 end2 later mirror' ⟨rfl, -, -⟩
  have same1 := later.extends_ value1 early1
  have same2 := later.extends_ value2 early2
  rw [← same1, ← same2]
  refine (twin_pairValues mirror' (Nat.lt_of_lt_of_le early1 later.time)
    (Nat.lt_of_lt_of_le early2 later.time) dest fun _ no => no.elim).bind ?_
  intro _ _ rename'' end1' end2' later' mirror'' _
  have beq : (rename' value2 == rename' value1) = (value1 == value2) := by
    rw [Bool.eq_iff_iff, beq_iff_eq, beq_iff_eq, mirror'.renames.eq_iff, eq_comm]
  rw [beq, numberStatus_mirror]
  refine (twin_lower mirror'' _).bind ?_
  intro _ _ _ _ _ _ mirrorHeld _
  exact twin_pure (mirrorHeld.await (.hold size (.joined dest _))
    (fun _ _ no => no.elim) fun _ no => no) rfl

/-- Two numbers that agree get a joint value that is the left number. -/
theorem twin_joinAgreeing (free : hasCounterpart here.1.leftMap value1 = false) {a b : Int}
    {size : Nat} (agree : Number.agreeIn a b size = true) :
    Twin scene
      (do
        let dest ← numberName value1 value2 a size
        unless dest.isZero do
          modifyDest fun graph => graph.setNumber dest a
        pairValues value1 value2 dest
        return .joined dest Option.none)
      (do
        let dest ← numberName (rename value2) (rename value1) b size
        unless dest.isZero do
          modifyDest fun graph => graph.setNumber dest b
        pairValues (rename value2) (rename value1) dest
        return .joined dest Option.none)
      rename here there except1 except2 (Pending.hold size) fun result1 result2 _ =>
        result2 = scene.shift.valueJoin result1 := by
  have started := mirror.supplies.started
  refine (twin_numberName mirror shared agree).bind ?_
  rintro dest _ rename' end1 end2 later mirror' ⟨rfl, unchanged, name⟩
  have early1' := Nat.lt_of_lt_of_le early1 later.time
  have early2' := Nat.lt_of_lt_of_le early2 later.time
  rw [scene.shift.isZero_value, ← later.extends_ value1 early1, ← later.extends_ value2 early2]
  by_cases zero : dest.isZero
  · rw [if_pos zero, if_pos zero]
    exact twin_pairJoined mirror' early1' early2' (fun _ _ no => no.elim) fun _ no => no.elim
  · rw [if_neg zero, if_neg zero]
    have proper : dest ≠ .zero := by simpa [ValueId.isZero] using zero
    have nothing : end1.1.dest.knowledge dest = .nothing := by
      rw [unchanged]
      refine mirror.nothing_of_name shared proper free ?_
      rcases name with ⟨same, rfl, -⟩ | none | ⟨drawn, -⟩
      · exact .inl ⟨same, rfl⟩
      · exact absurd none proper
      · exact .inr (Nat.le_of_eq drawn.symm)
    have drawn : dest.index < end1.2.next := by
      rcases name with ⟨-, rfl, -⟩ | none | ⟨drawn, moved⟩
      · exact early1'
      · exact absurd none proper
      · omega
    refine (twin_setNumber mirror' proper nothing (fun _ => drawn) agree).bind ?_
    intro _ _ rename'' end1' end2' later' mirror'' supply
    rw [← later'.extends_ value1 early1', ← later'.extends_ value2 early2']
    refine twin_pairJoined mirror'' (by rw [supply]; exact early1')
      (by rw [supply]; exact early2') (fun _ _ => id) ?_
    rintro value ⟨rfl, early⟩
    rcases name with ⟨-, rfl, -⟩ | none | ⟨drawn, -⟩
    · rfl
    · exact absurd none proper
    · omega

/-- Two values that are not addresses. -/
theorem twin_joinNumbers (free : hasCounterpart here.1.leftMap value1 = false) (size : Nat)
    (levelDiff : Int) :
    Twin scene (joinNumbers value1 value2 size levelDiff)
      (joinNumbers (rename value2) (rename value1) size (-levelDiff)) rename here there except1
      except2 (Pending.hold size) fun result1 result2 _ =>
        result2 = scene.shift.valueJoin result1 := by
  unfold joinNumbers
  refine twin_bind_of_ok (Run.state_apply _) (Run.state_apply _) ?_
  rw [mirror.leftNumber, mirror.rightNumber]
  cases number1 : here.1.left.number? value1 with
  | none =>
      cases number2 : here.1.right.number? value2 with
      | none => exact twin_joinUnknown mirror early1 early2 shared size levelDiff none none
      | some b => exact twin_joinUnknown mirror early1 early2 shared size levelDiff none (some b)
  | some a =>
      cases number2 : here.1.right.number? value2 with
      | none => exact twin_joinUnknown mirror early1 early2 shared size levelDiff (some a) none
      | some b =>
          simp only [agreeIn_comm a b size]
          split
          case isTrue agree => exact twin_joinAgreeing mirror early1 early2 shared free agree
          case isFalse => exact twin_pure mirror rfl

end Joined

end Join

end ShapeDomain
