import Mathlib.Data.List.Perm.Subperm
import ShapeDomain.Proofs.Calls.Sparing

/-!
# How often a join goes down

A join goes down once for each pair of variables that it starts from, and otherwise only to objects
that are met for the first time.  So it goes down no more often than the left graph has variables
and objects.
-/

namespace ShapeDomain

namespace Join

variable {origin left right : Graph} {start : Progress} {room : Nat} {tops : List ObjectPair}
variable {calls : List Call} {here : (Progress × Record) × Supply} {setting : Setting}

/-! ### Counting -/

namespace Sparing

/-- Objects are met for the first time once. -/
theorem nodup (sparing : Sparing left tops calls) :
    ((calls.filter fun call => call.met.isSome).map fun call => call.pair.object1).Nodup := by
  obtain ⟨-, -, reached⟩ := sparing
  induction calls with
  | nil => exact List.nodup_nil
  | cons call rest ih =>
      have distinct := ih fun later other earlier moment split isMet =>
        reached (call :: later) other earlier moment (congrArg (call :: ·) split) isMet
      rw [List.filter_cons]
      split
      case isFalse => exact distinct
      case isTrue isSome =>
        obtain ⟨moment, isMet⟩ := Option.isSome_iff_exists.1 isSome
        refine List.nodup_cons.2 ⟨fun member => ?_, distinct⟩
        obtain ⟨other, isOther, same⟩ := List.mem_map.1 member
        exact (reached [] call rest moment rfl isMet).first other (List.mem_filter.1 isOther).1 same

/-- They are objects of the left graph. -/
theorem subset (sparing : Sparing left tops calls) :
    (calls.filter fun call => call.met.isSome).map (fun call => call.pair.object1) ⊆
      left.objects.keys := by
  intro object member
  obtain ⟨call, isCall, rfl⟩ := List.mem_map.1 member
  obtain ⟨isCall, isSome⟩ := List.mem_filter.1 isCall
  obtain ⟨moment, isMet⟩ := Option.isSome_iff_exists.1 isSome
  obtain ⟨later, earlier, split⟩ := List.append_of_mem isCall
  exact Table.mem_keys_iff.2 (sparing.reached later call earlier moment split isMet).present

theorem length_le (sparing : Sparing left tops calls) :
    calls.length ≤ tops.length + left.objects.size := by
  have met : (calls.filter fun call => call.met.isSome).length ≤ left.objects.size := by
    have fits := (List.Nodup.subperm sparing.nodup sparing.subset).length_le
    rwa [List.length_map, Table.keys, List.length_map] at fits
  have started : (calls.filter fun call => !call.met.isSome).length = tops.length := by
    rw [← sparing.started, List.length_map]
    simp
  rw [List.length_eq_length_filter_add fun call => call.met.isSome, started]
  omega

/-- Layouts do not matter. -/
theorem of_relaid (sparing : Sparing left tops calls) (relaid : origin.Relaid left) :
    Sparing origin tops calls where
  started := sparing.started
  deep := sparing.deep
  reached later call earlier moment split isMet := by
    have firstMet := sparing.reached later call earlier moment split isMet
    obtain ⟨value, place, leads, same⟩ := firstMet.target
    exact { firstMet with
      target := ⟨value, place, relaid.target? value ▸ leads, same⟩
      present := by rw [← firstMet.present, Graph.hasObject, Graph.hasObject, relaid.objects] }

end Sparing

/-! ### Whole joins -/

/-- The record of a join that went down sparingly from the first ones of the linked variables. -/
def Economical (left right : Graph) (calls : List Call) : Prop :=
  ∃ begun : List ObjectPair,
    (begun.map ObjectPair.object1 <+: (links left right).map fun link => link.1.2) ∧
      Sparing left begun.reverse calls

theorem economical_nil : Economical left right [] :=
  ⟨[], List.nil_prefix, .nil⟩

/-- What holds of the record holds after a step that does not lead down, wherever the step ends. -/
theorem ends_silently {α : Type} {holds : List Call → Prop} (before : holds here.1.2.calls)
    (computation : Run Progress α) :
    Run.Ends (Recorded.silently computation) here (fun _ there => holds there.1.2.calls)
      fun _ there => holds there.1.2.calls :=
  Run.Ends.within (Run.passes_any computation) (fun _ _ _ => before) fun _ _ _ => before

/-- Going down from pairs of variables that have counterparts.  The join may stop at any of them, so
the pairs that it came to are the first ones. -/
theorem Recording.joinPairs (recording : Recording start room tops here) {depth : Nat}
    (few : room < depth) {pairs : List ObjectPair}
    (mapped : ∀ pair ∈ pairs, (start.leftMap.object? pair.object1).isSome = true) :
    Run.Ends (Recorded.joinPairs setting depth pairs) here
      (fun _ there => ∃ begun, begun <+: pairs ∧
        Sparing start.left (begun.reverse ++ tops) there.1.2.calls)
      fun _ there => ∃ begun, begun <+: pairs ∧
        Sparing start.left (begun.reverse ++ tops) there.1.2.calls := by
  induction pairs generalizing here tops with
  | nil => exact Run.ends_pure ⟨[], List.nil_prefix, recording.sparing⟩
  | cons pair rest ih =>
      have onlyFirst {calls : List Call} (sparing : Sparing start.left (pair :: tops) calls) :
          ∃ begun, begun <+: pair :: rest ∧ Sparing start.left (begun.reverse ++ tops) calls :=
        ⟨[pair], ⟨rest, rfl⟩, sparing⟩
      have andLater {calls : List Call} (later : ∃ begun, begun <+: rest ∧
          Sparing start.left (begun.reverse ++ pair :: tops) calls) :
          ∃ begun, begun <+: pair :: rest ∧ Sparing start.left (begun.reverse ++ tops) calls := by
        obtain ⟨begun, isPrefix, sparing⟩ := later
        exact ⟨pair :: begun, (List.prefix_cons_inj pair).2 isPrefix, by simpa using sparing⟩
      have noted := recording.note ⟨pair, depth, none⟩ (Nat.zero_lt_of_lt few)
        (recording.since.copied (mapped pair List.mem_cons_self)) (by simp)
      unfold Recorded.joinPairs
      refine Run.Ends.bind ((noted.joinObjects few 0).mono (fun _ _ after => after)
        fun _ _ sparing => onlyFirst sparing) fun joined there recording => ?_
      cases joined with
      | true =>
          exact (ih recording fun pair member => mapped pair (List.mem_cons_of_mem _ member)).mono
            (fun _ _ later => andLater later) fun _ _ later => andLater later
      | false =>
          refine Run.ends_bind_of_ok (Recorded.silently_ask_apply _ _) ?_
          split
          case isTrue => exact Run.ends_pure (onlyFirst recording.sparing)
          case isFalse =>
            exact Run.ends_of_error (Run.throw_apply _ _) (onlyFirst recording.sparing)

theorem ends_joinAll (setting : Setting) (left right : Graph) (supply : Supply) :
    Run.Ends (Recorded.joinAll setting) ((.start left right, .empty), supply)
      (fun _ there => Economical left right there.1.2.calls)
      fun _ there => Economical left right there.1.2.calls := by
  have started : Recording (.start left right) (unmapped left .empty) []
      ((.start left right, .empty), supply) :=
    ⟨.refl _, by simp [Record.empty], by simp [Record.empty], Nat.le_refl _, .nil⟩
  have asked := stable_recording.retained started (.refl _) supply
  unfold Recorded.joinAll
  refine Run.ends_bind_of_ok (Recorded.silently_ask_apply _ _) ?_
  refine Run.ends_bind (fun found there => there.1.2.calls = [] ∧
      Recording (.start left right) (unmapped left .empty) [] there ∧
      PairsOf (links left right) found there.1.1)
    (Run.Ends.within (passes_matchVariables (.start left right, supply))
      (fun _ there matched =>
        ⟨rfl, stable_recording.retained asked matched.1 there.2, matched.2⟩)
      fun _ _ _ => economical_nil) ?_
  rintro found ⟨⟨progress, ⟨_, past⟩⟩, now⟩ ⟨rfl, recording, matched⟩
  cases found with
  | none => exact Run.ends_pure economical_nil
  | some pairs =>
      obtain ⟨same, mapped⟩ := matched pairs rfl
      have relaid : left.Relaid progress.left := recording.since.left
      -- the variables have their counterparts by now, so what is retained is counted from here
      have recording : Recording progress (unmapped progress.left progress.leftMap) []
          ((progress, ⟨[], past⟩), now) :=
        ⟨.refl progress, recording.called, recording.grown, Nat.le_refl _, .nil⟩
      have few : unmapped progress.left progress.leftMap < left.objects.size + 1 := by
        rw [← relaid.objects]
        exact unmapped_lt_size _ _
      have economical {calls : List Call} (began : ∃ begun, begun <+: pairs ∧
          Sparing progress.left (begun.reverse ++ []) calls) : Economical left right calls := by
        obtain ⟨begun, isPrefix, sparing⟩ := began
        rw [List.append_nil] at sparing
        exact ⟨begun, same ▸ isPrefix.map _, sparing.of_relaid relaid⟩
      refine Run.ends_bind (fun _ there => Economical left right there.1.2.calls)
        ((recording.joinPairs few mapped).mono (fun _ _ began => economical began)
          fun _ _ began => economical began)
        fun joined there before => ?_
      cases joined with
      | false => exact Run.ends_pure before
      | true =>
          refine (ends_silently before keepInequalities).bind fun _ last kept => ?_
          split
          · exact (ends_silently kept _).bind fun _ _ kept => Run.ends_pure kept
          · exact Run.ends_pure kept

theorem economical_record (options : Options) (left right : Graph) (supply : Supply) :
    Economical left right (record options left right supply).2 := by
  have ends := ends_joinAll ⟨options, left == right⟩ left right supply
  rw [Run.Ends] at ends
  rw [record]
  split <;> simp_all

/-- A join goes down once for each of the linked variables that it comes to, and otherwise only to
left objects that are met for the first time.  So it goes down no more often than there are
variables and objects in the left graph, and it never gives up for being too deep. -/
theorem record_sparing (options : Options) (left right : Graph) (supply : Supply) :
    (record options left right supply).1 = finish options left right supply ∧
      ((((record options left right supply).2.filter fun call => call.met.isNone).map
          fun call => call.pair.object1).reverse <+: (links left right).map fun link => link.1.2) ∧
      (∀ call ∈ (record options left right supply).2, 0 < call.depth) ∧
      (∀ later call earlier moment,
        (record options left right supply).2 = later ++ call :: earlier →
        call.met = some moment → FirstMet left moment call.pair.object1 earlier) ∧
      (record options left right supply).2.length ≤ left.roots.length + left.objects.size := by
  obtain ⟨begun, isPrefix, sparing⟩ := economical_record options left right supply
  refine ⟨record_fst options left right supply, ?_, sparing.deep, sparing.reached, ?_⟩
  · have started := congrArg (List.map ObjectPair.object1) sparing.started
    rw [List.map_map] at started
    rw [show (fun call : Call => call.pair.object1)
      = ObjectPair.object1 ∘ Call.pair from rfl, started, List.map_reverse, List.reverse_reverse]
    exact isPrefix
  · have roots : begun.length ≤ left.roots.length := by
      have fewer := isPrefix.length_le
      have linked := (map_fst_links_sublist left right).length_le
      rw [List.length_map] at fewer linked
      rw [List.length_map] at fewer
      exact Nat.le_trans fewer linked
    have counted := sparing.length_le
    rw [List.length_reverse] at counted
    omega

/-- A variable that holds the address of an object, which holds its own address. -/
def selfLinked (node address : Nat) : Graph :=
  { ((((Graph.initial .linux64).declareGlobal "x" ⟨1⟩ (.region 64 "x")).addHeapObject ⟨node⟩
        (.region 64 "node")).putField ⟨⟨1⟩, ⟨0, 64⟩, ⟨address⟩⟩).putField
          ⟨⟨node⟩, ⟨0, 64⟩, ⟨address⟩⟩ with
    values := Table.insert (Table.insert ∅ .zero .zero) ⟨address⟩
      ⟨none, some ⟨⟨node⟩, 0, .region⟩⟩ }

/-- The cycle is entered once. -/
example : (record {} (selfLinked 2 3) (selfLinked 4 5) ⟨6⟩).2.map Call.pair =
    [⟨⟨2⟩, ⟨4⟩, ⟨6⟩⟩, ⟨⟨1⟩, ⟨1⟩, ⟨1⟩⟩] := by decide +kernel

end Join

end ShapeDomain
