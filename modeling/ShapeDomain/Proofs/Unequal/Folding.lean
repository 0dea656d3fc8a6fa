import ShapeDomain.Proofs.Fold.Numbers
import ShapeDomain.Proofs.Unequal.Ledger

/-!
# Folding keeps what is recorded of joint values

Folding two nodes of the destination removes them with their fields and names, and makes a new
object.  What pointed to the first node keeps its offset, so that the destination says of joint
values and of the counterparts of variables at most what it said before.
-/

namespace ShapeDomain

namespace Graph

variable {first : Nat} {graph next : Graph}

theorem named?_of_removeObject {id image : ObjectId} {name : Variable}
    (named : (graph.removeObject id).named? name = some image) :
    graph.named? name = some image := by
  unfold removeObject at named
  split at named
  · exact named
  · cases name with
    | global name => exact (get?_unname.1 named).1
    | inner depth name =>
        obtain ⟨frame, found, isNamed⟩ := Option.bind_eq_some_iff.1 named
        rw [frames, ← List.map_reverse, List.getElem?_map] at found
        obtain ⟨former, isFormer, rfl⟩ := Option.map_eq_some_iff.1 found
        exact Option.bind_eq_some_iff.2 ⟨former, isFormer, (get?_unname.1 isNamed).1⟩

theorem target?_of_removeObject {id : ObjectId} {value : ValueId} {place : Target}
    (leads : (graph.removeObject id).target? value = some place) :
    graph.target? value = some place := by
  cases proper : id.isNull with
  | true => simpa [removeObject, proper] using leads
  | false =>
      rw [target?_removeObject graph proper, Option.filter_eq_some_iff] at leads
      exact leads.1

namespace Shrunk

variable {folds : Bool}

theorem removeObject (graph : Graph) (id : ObjectId) :
    Shrunk folds first graph (graph.removeObject id) where
  held held _ := valueAt?_of_removeObject held
  targets leads := ⟨_, target?_of_removeObject leads, rfl, fun _ => rfl⟩
  named named := named?_of_removeObject named
  inequalities := by unfold Graph.removeObject; split <;> rfl

theorem removePointer (graph : Graph) (value : ValueId) :
    Shrunk folds first graph (graph.removePointer value) where
  held {object range found} held _ := by
    rwa [valueAt?, Fold.layout_removePointer, ← valueAt?] at held
  targets {other place} leads := by
    rw [target?_removePointer] at leads
    split at leads
    · cases leads
    · exact ⟨place, leads, rfl, fun _ => rfl⟩
  named {name image} named := by
    obtain ⟨stack, globals⟩ := @names_removePointer graph value
    exact named?_congr stack globals name ▸ named
  inequalities := by unfold Graph.removePointer; split <;> rfl

/-- A new object may get fields. -/
theorem addField {field : Field} (new : first ≤ field.object.index)
    (done : graph.addField field = .ok next) : Shrunk folds first graph next := by
  rcases addField_eq_ok done with ⟨-, rfl⟩ | ⟨-, rfl, -⟩
  · exact .refl folds first _
  · refine ⟨fun held old => ?_, fun {value place} leads => ⟨place, ?_, rfl, fun _ => rfl⟩,
      fun {name _} named => ?_, rfl⟩
    · rcases valueAt?_putField_iff.1 held with ⟨rfl, -, -⟩ | ⟨before, -⟩
      · exact absurd old (Nat.not_lt_of_le new)
      · exact before
    · rwa [target?_putField] at leads
    · exact @named?_congr graph _ rfl rfl name ▸ named

/-- Where lists are folded, a value that was an address may become one with the same offset. -/
theorem addPointer {origin : Graph} {pointer : Pointer} {former : Target}
    (shrunk : Shrunk true first origin graph) (led : origin.target? pointer.value = some former)
    (offset : former.offset = pointer.target.offset) (done : graph.addPointer pointer = .ok next) :
    Shrunk true first origin next := by
  obtain ⟨-, -, rfl⟩ := addPointer_eq_ok_iff.1 done
  refine { shrunk with targets := fun {value place} leads => ?_ }
  rw [target?_putPointer] at leads
  split at leads
  case isTrue same =>
    subst same
    obtain rfl := Option.some.inj leads
    exact ⟨former, led, offset, by simp⟩
  case isFalse => exact shrunk.targets leads

end Shrunk

end Graph

/-- Folding two nodes leaves a smaller graph, apart from the segment, whose name is new. -/
theorem Fold.perform_shrinks {here : Graph × Supply} (fold : Fold) :
    Run.Passes fold.perform here fun segment there =>
      Graph.Shrunk true here.2.next here.1 there.1 ∧ here.2.next ≤ there.2.next ∧
        ∀ id, segment = some id → here.2.next ≤ id.index := by
  unfold perform
  refine Run.ends_bind_of_ok (Run.ask_apply _ _) ?_
  split
  case h_1 => exact Run.ends_pure ⟨.refl _ _ _, Nat.le_refl _, by simp⟩
  case h_2 parts _ =>
    refine Run.ends_bind_of_ok (Run.draw_objectId_apply _) ?_
    refine Run.ends_bind_of_ok (Run.state_apply _) (Run.ends_bind_of_ok (Run.modify_apply _ _) ?_)
    let Kept (there : Graph × Supply) : Prop :=
      Graph.Shrunk true here.2.next here.1 there.1 ∧ here.2.next ≤ there.2.next
    have made : Kept (cleared here.1 fold parts ⟨here.2.next⟩, ⟨here.2.next + 1⟩) := by
      refine ⟨?_, Nat.le_succ _⟩
      refine .trans (.removePointer here.1 parts.link.value) (.trans (.removeObject _ fold.head) ?_)
      exact .trans (.removeObject _ fold.successor) (.of_same rfl (fun _ => rfl) rfl rfl rfl)
    refine Run.ends_bind (fun _ => Kept) (Run.passes_attempt fun next done =>
      ⟨made.1.trans (.setValid done), made.2⟩) ?_
    rintro _ _ valid
    refine (Run.ends_forM Kept valid fun field _ there kept => Run.passes_attempt fun next done =>
      ⟨kept.1.trans (.addField (Nat.le_refl _) done), kept.2⟩).bind fun _ _ filled => ?_
    refine (Run.ends_forM Kept filled fun pointer member there kept =>
      Run.passes_attempt fun next done => ⟨?_, kept.2⟩).bind fun _ _ led => ?_
    · have led : here.1.target? (redirect ⟨here.2.next⟩ pointer).value = some pointer.target :=
        Graph.mem_pointers_iff.1 (List.mem_filter.1 member).1
      exact kept.1.addPointer led rfl done
    · refine Run.ends_pure ⟨led.1, led.2, ?_⟩
      rintro _ ⟨⟩
      exact Nat.le_refl _

namespace Join

variable {outset : Outset} {here : Progress × Supply}

namespace Ledger

/-- After a folding other objects have counterparts, but no fewer, and none has NULL. -/
theorem retarget (ledger : Ledger outset here) (folds : outset.folds = true) (fold : Fold)
    {segment : ObjectId} (proper : segment ≠ .null) : Ledger outset
      ({ here.1 with
        leftMap := (here.1.leftMap.retarget fold.head segment).retarget fold.successor segment
        rightMap := (here.1.rightMap.retarget fold.head segment).retarget fold.successor segment },
        here.2) := by
  have off {p : Prop} (off : outset.folds = false) : p := by simp [folds] at off
  have null_of {map : Correspondence} {id : ObjectId}
      (mapped : ((map.retarget fold.head segment).retarget fold.successor segment).object? id =
        some .null) : map.object? id = some .null := by
    rw [object?_refold] at mapped
    obtain ⟨image, isImage, isNull⟩ := Option.map_eq_some_iff.1 mapped
    unfold replace at isNull
    split at isNull
    · exact absurd isNull proper
    · exact isNull ▸ isImage
  have mapped_of {map : Correspondence} {id : ObjectId} (mapped : (map.object? id).isSome = true) :
      (((map.retarget fold.head segment).retarget fold.successor segment).object? id).isSome =
        true := by
    rw [object?_refold, Option.isSome_map]
    exact mapped
  exact
    { ledger with
      mapped := fun anchor member =>
        have ⟨left, right, drawn⟩ := ledger.mapped anchor member
        ⟨mapped_of left, mapped_of right, drawn⟩
      null1 := fun mapped => ledger.null1 (null_of mapped)
      null2 := fun mapped => ledger.null2 (null_of mapped)
      distinct1 := off
      distinct2 := off
      leads := fun isJoint proper leads =>
        (ledger.leads isJoint proper leads).imp (.mono · rfl off) (.mono · rfl off) }

/-- Doing list foldings in the destination. -/
theorem doFolds (ledger : Ledger outset here) {folds : List Fold}
    (allowed : folds = [] ∨ outset.folds = true) :
    Run.Passes (Join.doFolds folds) here fun _ there => Ledger outset there ∧
      Remembers here there := by
  induction folds generalizing here with
  | nil => exact Run.ends_pure ⟨ledger, .of_eq rfl⟩
  | cons fold rest ih =>
      have allowed := allowed.resolve_left (List.cons_ne_nil fold rest)
      have performed : Run.Passes (onDest fold.perform) here fun segment there =>
          Ledger outset there ∧ Remembers here there ∧
            ∀ id, segment = some id → here.2.next ≤ id.index := by
        refine Run.Ends.within fold.perform_shrinks ?_ fun _ _ bad => bad
        rintro segment ⟨dest, now⟩ ⟨shrunk, after, new⟩
        exact ⟨(ledger.withDest (allowed.symm ▸ shrunk)).aside after _ _, .of_eq rfl, new⟩
      unfold Join.doFolds
      refine performed.bind ?_
      rintro (_ | segment) middle ⟨ledger', remembers, new⟩
      · exact Run.ends_pure ⟨ledger', remembers⟩
      · have proper : segment ≠ .null := by
          rintro rfl
          exact absurd (Nat.lt_of_lt_of_le outset.positive ledger.started)
            (Nat.not_lt_of_le (new _ rfl))
        refine Run.ends_bind_of_ok (Run.modify_apply _ _) ?_
        refine Run.Passes.mono (ih (ledger'.retarget allowed fold proper) (.inr allowed)) ?_
        rintro _ there ⟨ledger, later⟩
        exact ⟨ledger, remembers.trans ⟨later.joint⟩⟩

end Ledger

end Join

end ShapeDomain
