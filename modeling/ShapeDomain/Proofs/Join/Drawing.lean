import ShapeDomain.Coverage
import ShapeDomain.Proofs.Join.Outcome
import ShapeDomain.Proofs.Join.Pairing

/-!
# The names that a join draws

A join draws the names of what it makes, and gives none back, whether or not it stops with a fault.
Neither does the comparison of states.
-/

namespace ShapeDomain

open Run (Forward forward_forM)

/-! ## Graphs -/

theorem Graph.forward_newValue : Forward Graph.newValue :=
  Run.forward_draw_valueId.bind fun _ => (Run.forward_modify _).bind fun _ => Run.forward_pure _

theorem Fold.forward_perform (fold : Fold) : Forward fold.perform := by
  refine (Run.forward_ask _).bind fun found => ?_
  cases found with
  | none => exact Run.forward_pure _
  | some parts =>
      refine Run.forward_draw_objectId.bind fun id => Run.forward_state.bind fun before => ?_
      refine (Run.forward_modify _).bind fun _ => (Run.forward_attempt _).bind fun _ => ?_
      refine (forward_forM fun _ _ => Run.forward_attempt _).bind fun _ => ?_
      exact (forward_forM fun _ _ => Run.forward_attempt _).bind fun _ => Run.forward_pure _

namespace Alignment

theorem forward_pieceValue (field : Field) : Forward (pieceValue field) := by
  unfold pieceValue
  split
  · exact Run.forward_pure _
  · exact Graph.forward_newValue

theorem forward_cutField (cuts : KeySet Nat) (field : Field) : Forward (cutField cuts field) := by
  have cut : Forward (do
      Run.modify fun graph : Graph => graph.removeField field
      (pieces cuts field.range).forM fun piece => do
        let value ← pieceValue field
        Run.attempt fun graph => graph.addField ⟨field.object, piece, value⟩
      return !field.value.isZero) := by
    refine (Run.forward_modify _).bind fun _ => ?_
    refine (forward_forM fun piece _ => ?_).bind fun _ => Run.forward_pure _
    exact (forward_pieceValue field).bind fun _ => Run.forward_attempt _
  unfold cutField
  cases empty : decide (field.range.stop ≤ field.range.offset) with
  | true =>
      rw [if_pos (of_decide_eq_true empty)]
      refine (Run.forward_throw _).bind fun _ => ?_
      split
      · exact Run.forward_pure _
      · exact cut
  | false =>
      rw [if_neg (of_decide_eq_false empty)]
      split
      · exact Run.forward_pure _
      · exact cut

theorem forward_cutFields (cuts : KeySet Nat) (fields : List Field) :
    Forward (cutFields cuts fields) := by
  induction fields with
  | nil => exact Run.forward_pure _
  | cons field rest ih =>
      exact (forward_cutField cuts field).bind fun _ => ih.bind fun _ => Run.forward_pure _

theorem forward_addMissing (object : ObjectId) (fields : List Field) :
    Forward (addMissing object fields) := by
  refine (Run.forward_ask _).bind fun valid => forward_forM fun field _ => ?_
  refine (Run.forward_ask _).bind fun present => ?_
  split
  case isTrue => exact Run.forward_pure _
  case isFalse =>
    dsimp only
    split
    · exact (Run.forward_pure _).bind fun _ => Run.forward_attempt _
    · exact Graph.forward_newValue.bind fun _ => Run.forward_attempt _

theorem forward_align (object1 object2 : ObjectId) : Forward (align object1 object2) := by
  refine (Run.forward_demand _).bind fun left => (Run.forward_demand _).bind fun right => ?_
  split
  case isTrue => exact Run.forward_pure _
  case isFalse =>
    refine (Run.forward_ask _).bind fun fields1 => (Run.forward_ask _).bind fun fields2 => ?_
    refine (forward_cutFields _ fields1).within.bind fun _ => ?_
    refine (forward_cutFields _ fields2).within.bind fun _ => ?_
    refine (Run.forward_ask _).bind fun split2 => (forward_addMissing _ _).within.bind fun _ => ?_
    refine (Run.forward_ask _).bind fun filled1 => (forward_addMissing _ _).within.bind fun _ => ?_
    exact Run.forward_pure _

end Alignment

namespace Join

variable {setting : Setting} {descend : Descend}

/-! ## Values -/

theorem forward_onDest {α : Type} {computation : Run Graph α} (forward : Forward computation) :
    Forward (onDest computation) := by
  unfold onDest
  exact forward.within

@[simp] theorem forward_modifyDest (change : Graph → Graph) : Forward (modifyDest change) :=
  forward_onDest (Run.forward_modify change)

@[simp] theorem forward_attemptDest (change : Graph → Except Fault Graph) :
    Forward (attemptDest change) :=
  forward_onDest (Run.forward_attempt change)

theorem forward_pairObjects (object1 object2 dest : ObjectId) :
    Forward (pairObjects object1 object2 dest) :=
  (Run.forward_attempt _).bind fun _ => Run.forward_attempt _

theorem forward_pairValues (value1 value2 dest : ValueId) :
    Forward (pairValues value1 value2 dest) := by
  rw [pairValues_eq]
  refine Forward.bind ?_ fun _ => Forward.bind ?_ fun _ => Run.forward_modify _
  · unfold pairLeft pairOne
    split <;> simp
  · unfold pairRight pairOne
    split <;> simp

theorem forward_objectName (object1 object2 : ObjectId) : Forward (objectName object1 object2) := by
  unfold objectName
  split <;> simp

theorem forward_valueName (value1 value2 : ValueId) : Forward (valueName value1 value2) := by
  unfold valueName
  split <;> simp

theorem forward_numberName (value1 value2 : ValueId) (number : Int) (size : Nat) :
    Forward (numberName value1 value2 number size) := by
  unfold numberName
  split
  · exact Run.forward_pure _
  · split <;> simp

theorem forward_noJoin (value1 value2 : ValueId) : Forward (noJoin setting value1 value2) :=
  Run.forward_state.bind fun _ => Run.forward_pure _

theorem forward_joinNumbers (value1 value2 : ValueId) (size : Nat) (levelDiff : Int) :
    Forward (joinNumbers value1 value2 size levelDiff) := by
  refine Run.forward_state.bind fun progress => ?_
  dsimp only
  split
  case h_1 a b _ _ =>
    split
    case isTrue =>
      refine (forward_numberName value1 value2 a size).bind fun dest => ?_
      have paired : Forward (do
          pairValues value1 value2 dest
          return ValueJoin.joined dest none) :=
        (forward_pairValues _ _ _).bind fun _ => Run.forward_pure _
      split
      · exact paired
      · exact (forward_modifyDest _).bind fun _ => paired
    case isFalse => exact Run.forward_pure _
  case h_2 =>
    refine (forward_valueName value1 value2).bind fun dest => ?_
    exact (forward_pairValues _ _ _).bind fun _ => (Run.forward_modify _).bind fun _ =>
      Run.forward_pure _

theorem forward_joinTargets (target1 target2 : ObjectId) :
    Forward (joinTargets target1 target2) := by
  refine (Run.forward_demand _).bind fun object1 => (Run.forward_demand _).bind fun object2 => ?_
  refine Run.forward_state.bind fun progress => ?_
  dsimp only
  split
  case isTrue => exact Run.forward_pure _
  case isFalse =>
    split
    case h_1 =>
      refine (forward_objectName target1 target2).bind fun id => ?_
      split
      all_goals
        refine (forward_modifyDest _).bind fun _ => (forward_attemptDest _).bind fun _ => ?_
        refine (forward_pairObjects _ _ _).bind fun _ => (Run.forward_modify _).bind fun _ => ?_
        exact Run.forward_pure _
    case h_2 => exact Run.forward_pure _

theorem forward_destination (target1 target2 : ObjectId) :
    Forward (destination target1 target2) := by
  refine Run.forward_state.bind fun progress => ?_
  split
  case isTrue => exact Run.forward_pure _
  case isFalse =>
    split
    case h_1 => exact Run.forward_pure _
    case h_2 =>
      split
      case isTrue => exact Run.forward_pure _
      case isFalse => exact (forward_joinTargets target1 target2).bind fun _ => Run.forward_pure _
    case h_3 => exact Run.forward_pure _

theorem forward_addressName (value1 value2 : ValueId) (place : Target) :
    Forward (addressName value1 value2 place) := by
  refine (Run.forward_ask _).bind fun found => ?_
  cases found with
  | some existing =>
      simp only
      split
      · exact Run.forward_pure _
      · exact (forward_attemptDest _).bind fun _ => Run.forward_pure _
  | none =>
      exact (forward_valueName value1 value2).bind fun _ => (forward_attemptDest _).bind fun _ =>
        Run.forward_pure _

theorem forward_foldAt (object : ObjectId) : Forward (foldAt setting object) := by
  unfold foldAt
  split <;> simp

/-- Where going down gives no names back, joining addresses gives none back. -/
theorem forward_joinAddresses (down : ∀ object1 object2 dest diff,
    Forward (descend object1 object2 dest diff)) (value1 value2 : ValueId)
    (target1 target2 : Target) (levelDiff : Int) (holderLevel : Level) :
    Forward
      (joinAddresses setting descend value1 value2 target1 target2 levelDiff holderLevel) := by
  unfold joinAddresses
  split
  case isTrue => exact forward_noJoin _ _
  case isFalse =>
    refine (forward_destination _ _).bind fun destination => ?_
    cases destination with
    | none => exact forward_noJoin _ _
    | some destination =>
        refine (Run.forward_demand _).bind fun object =>
          (Run.forward_demand _).bind fun specifier => ?_
        cases specifier with
        | none => exact forward_noJoin _ _
        | some specifier =>
            refine (forward_addressName _ _ _).bind fun dest =>
              (forward_pairValues _ _ _).bind fun _ => ?_
            cases destination with
            | known object => exact Run.forward_pure _
            | made id =>
                refine (down _ _ _ _).bind fun joined => ?_
                split
                · exact (forward_foldAt id).bind fun _ => Run.forward_pure _
                · exact Run.forward_pure _

theorem forward_joinValuePair (down : ∀ object1 object2 dest diff,
    Forward (descend object1 object2 dest diff)) (value1 value2 : ValueId) (size : Nat)
    (levelDiff : Int) (holderLevel : Level) :
    Forward (joinValuePair setting descend value1 value2 size levelDiff holderLevel) := by
  refine Run.forward_state.bind fun progress => ?_
  split
  case h_1 => exact Run.forward_pure _
  case h_2 =>
    split
    case isTrue => exact Run.forward_pure _
    case isFalse =>
      split
      case h_1 => exact forward_joinNumbers _ _ _ _
      case h_2 => exact forward_joinAddresses down _ _ _ _ _ _
      case h_3 => exact forward_noJoin _ _

/-! ## Objects -/

theorem forward_store (field : Field) : Forward (store field) := by
  refine (Run.forward_ask _).bind fun present => ?_
  split <;> simp

theorem forward_mapLevels (values objects : Level × Level) : Forward (mapLevels values objects) :=
  (Run.forward_demand _).bind fun _ => (Run.forward_modify _).bind fun _ => Run.forward_pure _

theorem forward_joinField (down : ∀ object1 object2 dest diff,
    Forward (descend object1 object2 dest diff)) (pair : ObjectPair) (source1 source2 : Object)
    (levelDiff : Int) (holderLevel : Level) (field : Field) :
    Forward (joinField setting descend pair source1 source2 levelDiff holderLevel field) := by
  refine (Run.forward_demand _).bind fun value2 => (Run.forward_demand _).bind fun level1 => ?_
  refine (Run.forward_demand _).bind fun level2 => (forward_mapLevels _ _).bind fun mapped => ?_
  split
  case isTrue =>
    refine (forward_joinValuePair down _ _ _ _ _).bind fun joined => ?_
    split
    case h_1 => exact (forward_store _).bind fun _ => Run.forward_pure _
    case h_2 => exact Run.forward_pure _
    case h_3 => exact Run.forward_pure _
  case isFalse => exact Run.forward_pure _

theorem forward_joinFields {join : Field → Run Progress FieldJoin}
    (each : ∀ field, Forward (join field))
    (fields : List Field) (harvest : Harvest) : Forward (joinFields join fields harvest) := by
  induction fields generalizing harvest with
  | nil => exact Run.forward_pure _
  | cons field rest ih =>
      refine (each field).bind fun joined => ?_
      cases joined with
      | stored value fold => exact ih _
      | missing => exact ih _
      | refused => exact Run.forward_pure _

theorem forward_doFolds (folds : List Fold) : Forward (doFolds folds) := by
  induction folds with
  | nil => exact Run.forward_pure _
  | cons fold rest ih =>
      refine fold.forward_perform.within.bind fun folded => ?_
      cases folded with
      | some segment => exact (Run.forward_modify _).bind fun _ => ih
      | none => exact Run.forward_pure _

theorem forward_joinContents (down : ∀ object1 object2 dest diff,
    Forward (descend object1 object2 dest diff)) (pair : ObjectPair) (levelDiff : Int) :
    Forward (joinContents setting descend pair levelDiff) := by
  refine (Run.forward_demand _).bind fun source1 => (Run.forward_demand _).bind fun source2 => ?_
  split
  case isTrue => exact Run.forward_pure _
  case isFalse =>
    refine (Alignment.forward_align _ _).within.bind fun status =>
      (Run.forward_modify _).bind fun _ => ?_
    -- With the layouts checked or not, what is left is the same.
    split
    case' isTrue => refine (Run.forward_demand _).bind fun _ => ?_
    all_goals
      refine (Run.forward_demand _).bind fun holderLevel =>
        (Run.forward_ask _).bind fun fields => ?_
      refine (forward_joinFields (fun _ => forward_joinField down _ _ _ _ _ _) _ _).bind
        fun harvest => ?_
      cases harvest with
      | none => exact Run.forward_pure _
      | some harvest =>
          simp only
          split
          · exact forward_doFolds _
          · exact Run.forward_pure _

theorem forward_joinObjectsWith (down : ∀ object1 object2 dest diff,
    Forward (descend object1 object2 dest diff)) (pair : ObjectPair) (levelDiff : Int) :
    Forward (joinObjectsWith setting descend pair levelDiff) := by
  refine (forward_joinContents down pair levelDiff).bind fun joined => ?_
  split
  · exact Run.forward_pure _
  · exact (Run.forward_modify _).bind fun _ => Run.forward_pure _

theorem forward_joinObjects (depth : Nat) (pair : ObjectPair) (levelDiff : Int) :
    Forward (joinObjects setting depth pair levelDiff) := by
  induction depth generalizing pair levelDiff with
  | zero => exact (Run.forward_modify _).bind fun _ => Run.forward_pure _
  | succ depth ih => exact forward_joinObjectsWith (fun _ _ _ diff => ih _ diff) pair levelDiff

/-! ## Graphs and states -/

theorem forward_matchVariable (declare : Declare) (name : String) (object1 object2 : ObjectId) :
    Forward (matchVariable declare name object1 object2) := by
  refine (Run.forward_demand _).bind fun source1 => (Run.forward_demand _).bind fun source2 => ?_
  refine Run.forward_state.bind fun progress => ?_
  dsimp only
  split
  case isTrue => exact Run.forward_pure _
  case isFalse =>
    refine (forward_objectName object1 object2).bind fun id =>
      (forward_attemptDest _).bind fun _ => ?_
    refine (forward_attemptDest _).bind fun _ => (forward_pairObjects _ _ _).bind fun _ => ?_
    exact Run.forward_pure _

theorem forward_matchScopes (declare : Declare) (scope1 scope2 : Table String ObjectId) :
    Forward (matchScopes declare scope1 scope2) := by
  have each (pairs : List ((String × ObjectId) × (String × ObjectId))) :
      Forward (matchEach declare pairs) := by
    induction pairs with
    | nil => exact Run.forward_pure _
    | cons pair rest ih =>
        refine (forward_matchVariable declare _ _ _).bind fun matched => ?_
        cases matched with
        | none => exact Run.forward_pure _
        | some pair => exact ih.bind fun _ => Run.forward_pure _
  unfold matchScopes
  split
  · exact each _
  · exact Run.forward_pure _

theorem forward_matchFrames (frames : List (Frame × Frame)) : Forward (matchFrames frames) := by
  induction frames with
  | nil => exact Run.forward_pure _
  | cons frame rest ih =>
      unfold matchFrames
      split
      case isTrue => exact Run.forward_pure _
      case isFalse =>
        refine (forward_modifyDest _).bind fun _ =>
          (forward_matchScopes _ _ _).bind fun matched => ?_
        cases matched with
        | none => exact Run.forward_pure _
        | some pairs => exact ih.bind fun _ => Run.forward_pure _

theorem forward_matchVariables : Forward matchVariables := by
  refine Run.forward_state.bind fun progress => (forward_matchScopes _ _ _).bind fun matched => ?_
  cases matched with
  | none => exact Run.forward_pure _
  | some globals =>
      simp only
      split
      · exact Run.forward_pure _
      · exact (forward_matchFrames _).bind fun _ => Run.forward_pure _

theorem forward_keepInequalities : Forward keepInequalities := by
  refine Run.forward_state.bind fun progress => (forward_modifyDest _).bind fun _ => ?_
  have lowered (status : Status) : Forward (lower status) := Run.forward_modify _
  dsimp only
  split
  · split <;> simp [lowered]
  · refine (lowered _).bind fun _ => ?_
    split <;> simp [lowered]

theorem forward_joinPairs (depth : Nat) (pairs : List ObjectPair) :
    Forward (joinPairs setting depth pairs) := by
  induction pairs with
  | nil => exact Run.forward_pure _
  | cons pair rest ih =>
      refine (forward_joinObjects depth pair 0).bind fun joined => ?_
      split
      case isTrue => exact ih
      case isFalse => exact (Run.forward_ask _).bind fun _ => by split <;> simp

theorem forward_joinAll : Forward (joinAll setting) := by
  refine (Run.forward_ask _).bind fun depth => forward_matchVariables.bind fun matched => ?_
  cases matched with
  | none => exact Run.forward_pure _
  | some pairs =>
      refine (forward_joinPairs depth pairs).bind fun joined => ?_
      split
      case isTrue =>
        refine forward_keepInequalities.bind fun _ => ?_
        split
        · exact (Run.forward_demand _).bind fun _ => Run.forward_pure _
        · exact Run.forward_pure _
      case isFalse => exact Run.forward_pure _

end Join

/-! ## Comparing states -/

namespace Draw

variable {α : Type}

/-- The computation gives no identifier back, whether or not it stops with a fault. -/
def Forward (computation : Draw α) : Prop :=
  ∀ supply, supply.next ≤ (computation.left supply).next

end Draw

theorem Graph.forward_join (options : Options) (left right : Graph) :
    (left.join options right).Forward := by
  intro supply
  have forward := @Join.forward_joinAll ⟨options, left == right⟩ (.start left right, supply)
  unfold Run.finish at forward
  unfold Draw.left
  rw [join_apply]
  split at forward
  case h_1 joined there done =>
    rw [done]
    cases joined with
    | true => exact forward
    | false => exact forward
  case h_2 fault there stopped =>
    rw [stopped]
    exact forward

theorem State.forward_isSubsumedBy (options : Options) (state reached : State) :
    (state.isSubsumedBy options reached).Forward := by
  intro supply
  have forward := Graph.forward_join options state.collect.graph reached.collect.graph supply
  unfold Draw.left at forward ⊢
  rw [isSubsumedBy_apply]
  by_cases differ : state.collect.findings ≠ reached.collect.findings
  case pos => simp [differ]
  case neg =>
    rw [if_neg differ]
    cases joined : state.collect.graph.join options reached.collect.graph supply with
    | ok outcome now => rwa [joined] at forward
    | error fault now => rwa [joined] at forward

namespace StopOperator

variable {options : Options}

theorem subsumedByAny_apply (state covering : State) (rest : List State) (supply : Supply) :
    subsumedByAny options state (covering :: rest) supply =
      match state.isSubsumedBy options covering supply with
      | .ok true now => .ok true now
      | .ok false now => subsumedByAny options state rest now
      | .error fault now => .error fault now := by
  show EStateM.bind (state.isSubsumedBy options covering) _ supply = _
  unfold EStateM.bind
  cases state.isSubsumedBy options covering supply with
  | error fault now => rfl
  | ok verdict now => cases verdict <;> rfl

theorem forward_subsumedByAny (state : State) (reached : List State) :
    (subsumedByAny options state reached).Forward := by
  induction reached with
  | nil => exact fun supply => Nat.le_refl _
  | cons covering rest ih =>
      intro supply
      have first := state.forward_isSubsumedBy options covering supply
      unfold Draw.left at first ⊢
      rw [subsumedByAny_apply]
      cases asked : state.isSubsumedBy options covering supply with
      | error fault now => rwa [asked] at first
      | ok verdict now =>
          rw [asked] at first
          cases verdict with
          | true => exact first
          | false => exact Nat.le_trans first (ih now)

end StopOperator

end ShapeDomain
