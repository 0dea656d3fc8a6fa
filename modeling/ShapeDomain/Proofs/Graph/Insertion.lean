import ShapeDomain.Graph.Operation
import ShapeDomain.Proofs.Graph.Consistent
import ShapeDomain.Proofs.Graph.AddField
import ShapeDomain.Proofs.Run

/-!
# When a field may be added

One neighbour decides.  In a consistent graph whose fields have bits, the last field that starts
before the end of a new one overlaps it as soon as any field of the object does, and so a field is
added exactly if it fits its object and is there already or apart from all fields of the object.

A consistent graph may hold fields that run past the largest position: their ends are compared where
they are cut off.  No field that fits comes near such an end.
-/

namespace ShapeDomain

namespace BitRange

theorem stop_le_limit (range : BitRange) : range.stop ≤ limit :=
  Nat.min_le_right _ _

/-- To overlap a range that ends at a position is to have a bit in common with it, also for a range
that runs past the largest position. -/
theorem overlaps_eq_true_iff {range other : BitRange} (bits : 0 < range.size)
    (reach : range.offset + range.size ≤ limit) :
    other.overlaps range = true ↔ ¬ other.Apart range := by
  rw [overlaps_iff, Apart, stop, stop]
  omega

end BitRange

namespace Graph

variable {graph : Graph} {field : Field}

theorem positiveFields_iff :
    graph.PositiveFields ↔ ∀ field ∈ graph.fields, 0 < field.range.size :=
  ⟨fun positive _ member => positive _ _ _ (mem_fields_iff.1 member),
    fun positive object range value held =>
      positive ⟨object, range, value⟩ (mem_fields_iff.2 held)⟩

instance (graph : Graph) : Decidable graph.PositiveFields :=
  decidable_of_iff _ positiveFields_iff.symm

/-- Of the fields that pass the check, each stops before the later ones start. -/
theorem pairwise_of_checkFields {size least : Nat} {fields : List Field}
    (low : least ≤ BitRange.limit) (passed : graph.checkFields size least fields = .ok ()) :
    (∀ field ∈ fields, least ≤ field.range.offset) ∧
      fields.Pairwise fun a b => a.range.stop ≤ b.range.offset := by
  induction fields generalizing least with
  | nil => exact ⟨by simp, .nil⟩
  | cons field rest ih =>
      simp only [checkFields] at passed
      split at passed
      · cases passed
      · split at passed
        · cases passed
        · split at passed
          · cases passed
          · rename_i start _ _
            obtain ⟨after, follow⟩ := ih field.range.stop_le_limit passed
            refine ⟨fun later member => ?_, List.pairwise_cons.2 ⟨after, follow⟩⟩
            rcases List.mem_cons.1 member with rfl | member
            · omega
            · have := after later member
              simp only [BitRange.stop] at this
              omega

/-- Of two fields of an object of a consistent graph, the one that starts first stops before the
other one starts. -/
theorem Checked.stop_le (checked : graph.Checked) {object : ObjectId} {range later : BitRange}
    {value held : ValueId} (first : graph.valueAt? object range = some value)
    (second : graph.valueAt? object later = some held) (order : range.offset < later.offset) :
    range.stop ≤ later.offset := by
  obtain ⟨source, -, passed⟩ := checked.checkFields_of_held first
  have follow := (pairwise_of_checkFields (Nat.zero_le _) passed).2
  let Follows (a b : Field) : Prop :=
    a.range.offset < b.range.offset → a.range.stop ≤ b.range.offset
  have forward : (graph.fieldsOf object).Pairwise Follows := 
    follow.imp (S := Follows) fun stops _ => stops
  have backward : (graph.fieldsOf object).Pairwise (flip Follows) :=
    (pairwise_fieldsOf object).imp (S := flip Follows) fun less reverse =>
      absurd less (Nat.lt_asymm reverse)
  exact forward.forall_of_forall_of_flip (fun _ _ less => absurd less (Nat.lt_irrefl _)) backward
    (mem_fieldsOf.2 first) (mem_fieldsOf.2 second) order

/-- The last field that starts before the end of a new one overlaps it exactly if some field of the
object has a bit in common with it. -/
theorem Checked.collides_iff (checked : graph.Checked) (positive : graph.PositiveFields)
    (bits : 0 < field.range.size) (reach : field.range.offset + field.range.size ≤ BitRange.limit) :
    graph.collides field = true ↔
      ∃ other value, graph.valueAt? field.object other = some value ∧
        ¬ other.Apart field.range := by
  have stop : field.range.stop = field.range.offset + field.range.size := Nat.min_eq_left reach
  constructor
  · intro collision
    unfold collides at collision
    split at collision
    case h_1 offset content last =>
      exact ⟨⟨offset, content.size⟩, content.value, valueAt?_eq_some_iff.2 (lastBelow?_mem last),
        (BitRange.overlaps_eq_true_iff bits reach).1 collision⟩
    case h_2 => cases collision
  · rintro ⟨other, value, held, meets⟩
    have early : other.offset < field.range.stop := by
      rw [BitRange.Apart] at meets
      omega
    -- What meets the new field is the last field before its end, or stops before that one starts.
    obtain ⟨⟨offset, content⟩, last, order, before⟩ :=
      exists_lastBelow? (valueAt?_eq_some_iff.1 held) early
    have heldLast : graph.valueAt? field.object ⟨offset, content.size⟩ = some content.value :=
      valueAt?_eq_some_iff.2 (lastBelow?_mem last)
    simp only [collides, last]
    rw [BitRange.overlaps_eq_true_iff bits reach]
    rcases Nat.lt_or_eq_of_le order with less | same
    · have ends := checked.stop_le held heldLast less
      have some := positive _ _ _ heldLast
      simp only [BitRange.Apart, BitRange.stop] at meets ends before some ⊢
      omega
    · obtain rfl := range_unique held heldLast same
      exact meets

/-- When a field is put, it takes the place of no other one. -/
theorem mem_fields_putField_iff (positive : graph.PositiveFields) (bits : 0 < field.range.size)
    (apart : ∀ other ∈ graph.fields, other.object = field.object → other.range.Apart field.range)
    {other : Field} :
    other ∈ (graph.putField field).fields ↔ other ∈ graph.fields ∨ other = field := by
  rw [mem_fields_iff, mem_fields_iff, valueAt?_putField_iff]
  constructor
  · rintro (⟨object, range, value⟩ | ⟨old, -⟩)
    · exact .inr (by cases other; cases field; simp_all)
    · exact .inl old
  · rintro (old | rfl)
    · refine .inr ⟨old, fun same => ?_⟩
      exact (apart other (mem_fields_iff.2 old) same).offset_ne (positive _ _ _ old) bits
    · exact .inl ⟨rfl, rfl, rfl⟩

/-- A field may be added: it fits its object, and it is there already or has no bit in common with a
field of the object. -/
def MayAdd (graph : Graph) (field : Field) : Prop :=
  ∃ object, graph.object? field.object = some object ∧
    field.range.offset + field.range.size ≤ BitRange.limit ∧
    field.range.offset + field.range.size ≤ object.size ∧
    (field ∈ graph.fields ∨
      ∀ other ∈ graph.fields, other.object = field.object → other.range.Apart field.range)

/-- What decides about a new field is whether the last field before its end overlaps it. -/
theorem mayAdd_iff (consistent : graph.Consistent) (positive : graph.PositiveFields)
    (bits : 0 < field.range.size) :
    graph.MayAdd field ↔ ∃ object, graph.object? field.object = some object ∧
      field.range.fits object.size = true ∧
      (graph.hasField field = true ∨ graph.collides field = false) := by
  refine exists_congr fun object => and_congr_right fun _ => ?_
  rw [BitRange.fits_iff, and_assoc]
  refine and_congr_right fun reach => and_congr_right fun _ => ?_
  rw [mem_fields_iff, hasField_iff, Bool.eq_false_iff, Ne,
    consistent.checked.collides_iff positive bits reach]
  refine or_congr_right ⟨fun apart => ?_, fun free other member same => ?_⟩
  · rintro ⟨other, value, held, meets⟩
    exact meets (apart ⟨field.object, other, value⟩ (mem_fields_iff.2 held) rfl)
  · rw [mem_fields_iff, same] at member
    exact not_not.1 fun meets => free ⟨other.range, other.value, member, meets⟩

/-- A field is added exactly if it may be, and then it is the one that is put if it is not there
yet. -/
theorem addField_eq_ok_iff (consistent : graph.Consistent) (positive : graph.PositiveFields)
    (bits : 0 < field.range.size) {next : Graph} :
    graph.addField field = .ok next ↔ graph.MayAdd field ∧
      next = if graph.hasField field then graph else graph.putField field := by
  have decided : graph.addField field = .ok next ↔ (graph.addField field).toOption = some next := by
    cases graph.addField field <;> simp [Except.toOption]
  rw [decided, toOption_addField, mayAdd_iff consistent positive bits]
  cases graph.object? field.object with
  | none => simp
  | some object =>
      simp only [Option.bind_some, Option.some.injEq, exists_eq_left', Bool.not_eq_true']
      generalize field.range.fits object.size = fit
      cases fit <;> cases graph.hasField field <;> cases graph.collides field <;> simp [eq_comm]

/-- A field that is added joins the fields that there are. -/
theorem mem_fields_of_addField (consistent : graph.Consistent) (positive : graph.PositiveFields)
    (bits : 0 < field.range.size) {next : Graph} (done : graph.addField field = .ok next)
    {other : Field} : other ∈ next.fields ↔ other ∈ graph.fields ∨ other = field := by
  obtain ⟨⟨-, -, -, -, may⟩, rfl⟩ := (addField_eq_ok_iff consistent positive bits).1 done
  split
  case isTrue present =>
    have member := mem_fields_iff.2 (hasField_iff.1 present)
    exact ⟨.inl, fun one => one.elim id fun same => same ▸ member⟩
  case isFalse absent =>
    refine mem_fields_putField_iff positive bits (may.resolve_left fun member => absent ?_)
    exact hasField_iff.2 (mem_fields_iff.1 member)

/-- Whether a field is added is a matter of all fields of its object, although only one of them is
looked at.  If it is added, the fields are the old ones and the new one; if it is refused, the graph
is as before. -/
theorem perform_addField_iff_apart (graph : Graph) (supply : Supply) (field : Field)
    (consistent : graph.Consistent) (positive : graph.PositiveFields)
    (bits : 0 < field.range.size) :
    ((∃ there, (Operation.addField field).perform (graph, supply) = .ok () there) ↔
      ∃ object, graph.object? field.object = some object ∧
        field.range.offset + field.range.size ≤ BitRange.limit ∧
        field.range.offset + field.range.size ≤ object.size ∧
        (field ∈ graph.fields ∨
          ∀ other ∈ graph.fields, other.object = field.object → other.range.Apart field.range)) ∧
      (∀ there, (Operation.addField field).perform (graph, supply) = .ok () there →
        ∀ other, other ∈ there.1.fields ↔ other ∈ graph.fields ∨ other = field) ∧
      ∀ fault there, (Operation.addField field).perform (graph, supply) = .error fault there →
        there = (graph, supply) := by
  have added := @addField_eq_ok_iff graph field consistent positive bits
  simp only [Operation.perform, Run.attempt, Operation.apply]
  cases done : graph.addField field with
  | error fault =>
      refine ⟨iff_of_false (by simp) fun may => ?_, by simp, by rintro _ _ ⟨⟩; rfl⟩
      simpa [done] using added.2 ⟨may, rfl⟩
  | ok next =>
      refine ⟨iff_of_true ⟨_, rfl⟩ (added.1 done).1, ?_, by simp⟩
      rintro _ ⟨⟩ other
      exact mem_fields_of_addField consistent positive bits done

/-- An object that ends at the largest position, with two fields that leave a gap and one that runs
past the largest position. -/
def gapped : Graph :=
  ((((initial .linux64).addHeapObject ⟨1⟩ (.region BitRange.limit "block")).putField
    ⟨⟨1⟩, ⟨0, 16⟩, ⟨2⟩⟩).putField ⟨⟨1⟩, ⟨32, 16⟩, ⟨2⟩⟩).putField
      ⟨⟨1⟩, ⟨BitRange.limit - 8, 32⟩, ⟨3⟩⟩

/-- The gap can be filled, and its neighbours stay; a field that reaches into the last one is
refused. -/
theorem perform_addField_gapped :
    (∃ there, (Operation.addField ⟨⟨1⟩, ⟨16, 16⟩, ⟨4⟩⟩).perform (gapped, .full) = .ok () there ∧
        ⟨⟨1⟩, ⟨32, 16⟩, ⟨2⟩⟩ ∈ there.1.fields) ∧
      ¬ ∃ there, (Operation.addField ⟨⟨1⟩, ⟨48, BitRange.limit - 48⟩, ⟨4⟩⟩).perform
        (gapped, .full) =
        .ok () there := by
  have consistent : gapped.Consistent := by decide +kernel
  have positive : gapped.PositiveFields := by decide +kernel
  constructor
  · obtain ⟨goesThrough, keeps, -⟩ :=
      perform_addField_iff_apart gapped .full ⟨⟨1⟩, ⟨16, 16⟩, ⟨4⟩⟩ consistent positive (by decide)
    have apart : ∀ other ∈ gapped.fields, other.object = ⟨1⟩ →
        other.range.Apart ⟨16, 16⟩ := by unfold BitRange.Apart; decide +kernel
    obtain ⟨there, done⟩ := goesThrough.2
      ⟨.region BitRange.limit "block", by decide +kernel, by decide, by decide, .inr apart⟩
    exact ⟨there, done, (keeps there done _).2 (.inl (by decide +kernel))⟩
  · rw [(perform_addField_iff_apart gapped .full _ consistent positive (by decide)).1]
    rintro ⟨-, -, -, -, member | apart⟩
    · exact absurd member (by decide +kernel)
    · have last := apart ⟨⟨1⟩, ⟨BitRange.limit - 8, 32⟩, ⟨3⟩⟩ (by decide +kernel) rfl
      rw [BitRange.Apart] at last
      exact absurd last (by decide)

end Graph

end ShapeDomain
