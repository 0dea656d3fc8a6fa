import Mathlib
import ShapeDomain.Proofs.Coverage.Variables
import ShapeDomain.Proofs.Join.Checking
import ShapeDomain.Proofs.Progress.Outcome

/-!
# Joins without folding

A join that folds no list nodes never stops with a fault, whether or not it checks its work.  If it
is defined, then having the same counterpart is a correspondence between the shapes of the two
memories: it relates the variables of the same names, and the addresses that related objects hold
lead to related objects.
-/

namespace ShapeDomain

namespace Graph

/-- A relation between the objects of two graphs is a correspondence between their shapes. -/
structure SameShape (left right : Graph) (relates : ObjectId → ObjectId → Prop) : Prop where
  /-- No object is related to two. -/
  oneToOne : ∀ {object1 object2 other1 other2}, relates object1 object2 → relates other1 other2 →
    (object1 = other1 ↔ object2 = other2)
  /-- The graphs have the same variables. -/
  scopes : left.SameScopes right
  /-- Variables of the same name are related. -/
  named : ∀ {name object1 object2}, left.named? name = some object1 →
    right.named? name = some object2 → relates object1 object2
  /-- Related objects have the same size. -/
  size : ∀ {object1 object2}, relates object1 object2 → ∃ source1 source2,
    left.object? object1 = some source1 ∧ right.object? object2 = some source2 ∧
      source1.size = source2.size
  /-- Either both of them may be accessed or none of them. -/
  valid : ∀ {object1 object2}, relates object1 object2 →
    left.isValid object1 = right.isValid object2
  /-- What they hold in the same range are no addresses, or addresses of the same place in NULL or
  in related objects. -/
  addresses : ∀ {object1 object2 range value1 value2}, relates object1 object2 →
    left.valueAt? object1 range = some value1 → right.valueAt? object2 range = some value2 →
    (Join.address? left value1 = none ∧ Join.address? right value2 = none) ∨
    ∃ target1 target2, Join.address? left value1 = some target1 ∧
      Join.address? right value2 = some target2 ∧ target1.offset = target2.offset ∧
      ((target1.object = .null ∧ target2.object = .null) ∨
        relates target1.object target2.object)

end Graph

namespace Join

variable {basis : Basis} {path waiting : List ObjectPair} {here : Progress × Supply}
variable {object1 object2 other1 other2 : ObjectId} {range : BitRange} {value1 value2 : ValueId}

/-! ### Counterparts -/

namespace Invariant

variable (invariant : Invariant basis path waiting here)

include invariant

/-- Objects that both have the counterpart NULL or some other one. -/
theorem relates_of_image? {image : ObjectId} (left : image? here.1.leftMap object1 = some image)
    (right : image? here.1.rightMap object2 = some image) :
    (object1 = .null ∧ object2 = .null) ∨ here.1.Relates object1 object2 := by
  by_cases null : image = .null
  · subst null
    exact .inl ⟨eq_null_of_image? invariant.leftMap left,
      eq_null_of_image? invariant.rightMap right⟩
  · have proper {map : Correspondence} {id : ObjectId} (isImage : image? map id = some image) :
        id ≠ .null := by
      rintro rfl
      exact null (Option.some.inj isImage).symm
    rw [image?_of_proper (proper left)] at left
    rw [image?_of_proper (proper right)] at right
    exact .inr ⟨image, left, right⟩

/-- What joined objects hold in the same range are no addresses, or addresses of the same place of
objects with the same counterpart. -/
theorem addresses_of_settled (settled : Settled basis here.1 object1 object2)
    (held1 : basis.left.valueAt? object1 range = some value1)
    (held2 : basis.right.valueAt? object2 range = some value2) :
    (address? basis.left value1 = none ∧ address? basis.right value2 = none) ∨
    ∃ target1 target2, address? basis.left value1 = some target1 ∧
      address? basis.right value2 = some target2 ∧ target1.offset = target2.offset ∧
      ((target1.object = .null ∧ target2.object = .null) ∨
        here.1.Relates target1.object target2.object) := by
  obtain ⟨_, _, _, joined⟩ := settled.exists_joined_of_held held1 held2
  rcases joined.address_cases invariant with nones | ⟨target1, target2, image, leads1, leads2, same⟩
  · exact .inl nones
  · exact .inr ⟨target1, target2, leads1, leads2, same.1,
      invariant.relates_of_image? same.2.1 same.2.2⟩

end Invariant

/-- Without folding the finished join of two graphs relates their shapes. -/
theorem Finished.shape_relates (finished : Finished basis here) (still : ¬ basis.Folds) :
    basis.left.SameShape basis.right here.1.Relates where
  oneToOne relates relates' := finished.invariant.relates_iff still relates relates'
  scopes := finished.scopes
  named named1 named2 := by
    obtain ⟨image, rooted⟩ := finished.rooted named1 named2
    exact ⟨image, rooted.left, rooted.right⟩
  size relates := finished.invariant.size_of_relates relates
  valid relates := finished.invariant.valid_of_relates relates
  addresses relates held1 held2 := by
    obtain ⟨image, left, right⟩ := relates
    exact finished.invariant.addresses_of_settled
      ((finished.invariant.exact still).settled left right (by simp)) held1 held2

end Join

theorem Join.exists_finish_iff {options : Options} {left right : Graph} {supply : Supply} :
    (∃ progress now, Join.finish options left right supply = .ok (some progress) now) ↔
      (match Join.finish options left right supply with
        | .ok progress _ => progress.isSome
        | .error .. => false) = true := by
  cases Join.finish options left right supply with
  | error fault now => simp
  | ok progress now => cases progress <;> simp

/-- The end of a defined join. -/
theorem Graph.finished_of_finish {options : Options} {left right : Graph} {supply now : Supply}
    {progress : Join.Progress} (leftPlain : left.Plain supply.next)
    (rightPlain : right.Plain supply.next)
    (defined : Join.finish options left right supply = .ok (some progress) now) :
    Join.Finished (Graph.basis options leftPlain rightPlain) (progress, now) := by
  have ends := Join.joinAll_ends (Graph.basis options leftPlain rightPlain)
  exact ends.of_eq_ok (Join.finish_eq_some_iff.1 defined)

namespace State

variable {options : Options} {state other : State} {supply now : Supply} {states : List State}

/-- The memories of two states that exist side by side have a join or none, but no fault, if no list
nodes are folded, and checking changes nothing about it. -/
theorem Family.join_without_fault (family : Family states supply) (inside1 : state ∈ states)
    (inside2 : other ∈ states) (still : options.foldLists = false) : ∃ outcome now, ∀ verify,
      state.graph.join { options with verify := verify } other.graph supply = .ok outcome now := by
  let checked : Options := { options with verify := true }
  have plain1 := family.plain.2 state inside1
  have plain2 := family.plain.2 other inside2
  have safe : (Graph.basis checked plain1 plain2).Safe := by
    rintro ⟨folds, -⟩
    replace folds : options.foldLists = true := folds
    simp [still] at folds
  have through : ∃ outcome now, state.graph.join checked other.graph supply = .ok outcome now := by
    have concluded := Graph.join_concluded checked plain1 plain2
    generalize state.graph.join checked other.graph supply = result at concluded ⊢
    cases concluded with
    | defined _ => exact ⟨_, _, rfl⟩
    | undefined _ => exact ⟨_, _, rfl⟩
    | stopped harmful => exact absurd safe harmful
  obtain ⟨outcome, now, done⟩ := through
  refine ⟨outcome, now, fun verify => ?_⟩
  cases verify with
  | true => exact done
  | false => exact Graph.join_unchecked checked done

theorem twoRings_without_fault : ∃ outcome now, ∀ verify,
    (built twoRings 1).graph.join { foldLists := false, verify := verify }
      (built twoRings 0).graph (builtSupply twoRings) = .ok outcome now := by
  obtain ⟨admissible, two⟩ := admissible_twoRings
  exact @Family.join_without_fault { foldLists := false } _ _ _ _ (family_built admissible)
    (built_mem (by rw [two]; decide)) (built_mem (by rw [two]; decide)) rfl

/-- If the memories of two states that exist side by side have a join, and no list nodes are folded,
then having the same counterpart is a correspondence between their shapes. -/
theorem Family.sameShape (family : Family states supply) (inside1 : state ∈ states)
    (inside2 : other ∈ states) (still : options.foldLists = false) {progress : Join.Progress}
    (defined : Join.finish options state.graph other.graph supply = .ok (some progress) now) :
    state.graph.SameShape other.graph progress.Relates := by
  have finished := Graph.finished_of_finish (family.plain.2 state inside1)
    (family.plain.2 other inside2) defined
  refine finished.shape_relates ?_
  rintro ⟨folds, -⟩
  replace folds : options.foldLists = true := folds
  simp [still] at folds

theorem sameShape_twoRings : ∃ progress now,
    Join.finish { foldLists := false } (built twoRings 1).graph (built twoRings 0).graph
      (builtSupply twoRings) = .ok (some progress) now ∧
    (built twoRings 1).graph.SameShape (built twoRings 0).graph progress.Relates := by
  obtain ⟨admissible, two⟩ := admissible_twoRings
  have defined : ∃ progress now, Join.finish { foldLists := false } (built twoRings 1).graph
      (built twoRings 0).graph (builtSupply twoRings) = .ok (some progress) now :=
    Join.exists_finish_iff.2 (by cbv)
  obtain ⟨progress, now, defined⟩ := defined
  exact ⟨progress, now, defined, (family_built admissible).sameShape
    (built_mem (by rw [two]; decide)) (built_mem (by rw [two]; decide)) rfl defined⟩

end State

end ShapeDomain
