import Mathlib.Data.List.Forall2
import ShapeDomain.Run

/-!
# Reasoning about runs

The first part unfolds a run one step at a time.  The second part follows a single run: `Run.Ends`
says what holds where it goes through and what holds where it stops, and `Run.Forward` that it gives
no identifier back.  The third part follows two runs at once: `Run.Matches` says that they go
through together or stop together, and `Run.Agrees` says what holds where both are known to go
through.  `Run.Lifts` says that what goes through from a state goes through from related ones, and
`Run.Carries` says so of two runs from one state on.
-/

namespace ShapeDomain

/-! ## Single steps -/

namespace Draw

@[simp] theorem objectId_apply (supply : Supply) :
    objectId supply = .ok ⟨supply.next⟩ ⟨supply.next + 1⟩ := rfl

@[simp] theorem valueId_apply (supply : Supply) :
    valueId supply = .ok ⟨supply.next⟩ ⟨supply.next + 1⟩ := rfl

/-- The supply that a computation leaves, whether or not it stops with a fault. -/
def left {α : Type} (computation : Draw α) (supply : Supply) : Supply :=
  match computation supply with
  | .ok _ now => now
  | .error _ now => now

end Draw

namespace Run

variable {σ τ α β γ : Type}

theorem bind_apply (first : Run σ α) (next : α → Run σ β) (here : σ × Supply) :
    (first >>= next) here =
      match first here with
      | .ok result there => next result there
      | .error fault there => .error fault there := by
  show EStateM.bind first next here = _
  unfold EStateM.bind
  cases first here <;> rfl

@[simp] theorem pure_apply (result : α) (here : σ × Supply) :
    (pure result : Run σ α) here = .ok result here := rfl

@[simp] theorem throw_apply (fault : Fault) (here : σ × Supply) :
    (throw fault : Run σ α) here = .error fault here := rfl

@[simp] theorem state_apply (here : σ × Supply) :
    (state : Run σ σ) here = .ok here.1 here := rfl

@[simp] theorem ask_apply (question : σ → α) (here : σ × Supply) :
    ask question here = .ok (question here.1) here := rfl

@[simp] theorem modify_apply (change : σ → σ) (here : σ × Supply) :
    modify change here = .ok () (change here.1, here.2) := rfl

theorem demand_apply_ok {question : σ → Except Fault α} {here : σ × Supply} {answer : α}
    (given : question here.1 = .ok answer) :
    demand question here = .ok answer here := by
  simp [demand, given]

theorem demand_apply_error {question : σ → Except Fault α} {here : σ × Supply} {fault : Fault}
    (refused : question here.1 = .error fault) :
    demand question here = .error fault here := by
  simp [demand, refused]

theorem attempt_apply_ok {change : σ → Except Fault σ} {here : σ × Supply} {next : σ}
    (done : change here.1 = .ok next) :
    attempt change here = .ok () (next, here.2) := by
  simp [attempt, done]

theorem attempt_apply_error {change : σ → Except Fault σ} {here : σ × Supply} {fault : Fault}
    (refused : change here.1 = .error fault) :
    attempt change here = .error fault here := by
  simp [attempt, refused]

theorem draw_apply_ok {computation : Draw α} {here : σ × Supply} {result : α} {supply : Supply}
    (done : computation here.2 = .ok result supply) :
    draw computation here = .ok result (here.1, supply) := by
  simp [draw, done]

theorem draw_apply_error {computation : Draw α} {here : σ × Supply} {fault : Fault}
    {supply : Supply} (stopped : computation here.2 = .error fault supply) :
    draw computation here = .error fault (here.1, supply) := by
  simp [draw, stopped]

@[simp] theorem draw_objectId_apply (here : σ × Supply) :
    draw Draw.objectId here = .ok ⟨here.2.next⟩ (here.1, ⟨here.2.next + 1⟩) := rfl

@[simp] theorem draw_valueId_apply (here : σ × Supply) :
    draw Draw.valueId here = .ok ⟨here.2.next⟩ (here.1, ⟨here.2.next + 1⟩) := rfl

theorem within_apply (part : σ → τ) (replace : σ → τ → σ) (computation : Run τ α)
    (here : σ × Supply) :
    within part replace computation here =
      match computation (part here.1, here.2) with
      | .ok result there => .ok result (replace here.1 there.1, there.2)
      | .error fault there => .error fault (replace here.1 there.1, there.2) := by
  unfold within
  split <;> rename_i outcome <;> simp [outcome]

theorem bind_apply_ok {first : Run σ α} {next : α → Run σ β} {here there : σ × Supply}
    {result : α} (done : first here = .ok result there) :
    (first >>= next) here = next result there := by
  rw [bind_apply, done]

theorem bind_apply_error {first : Run σ α} {next : α → Run σ β} {here there : σ × Supply}
    {fault : Fault} (stopped : first here = .error fault there) :
    (first >>= next) here = .error fault there := by
  rw [bind_apply, stopped]

/-- A run in two steps goes through when both steps do. -/
theorem bind_eq_ok_iff {first : Run σ α} {next : α → Run σ β} {here there : σ × Supply}
    {result : β} :
    (first >>= next) here = .ok result there ↔
      ∃ middle between, first here = .ok middle between ∧
        next middle between = .ok result there := by
  rw [bind_apply]
  cases first here with
  | ok middle between =>
      constructor
      · intro done
        exact ⟨middle, between, rfl, done⟩
      · rintro ⟨_, _, same, done⟩
        cases same
        exact done
  | error => simp

/-- A run in two steps stops when the first step does, or when the second one does after the first
one went through. -/
theorem bind_eq_error_iff {first : Run σ α} {next : α → Run σ β} {here there : σ × Supply}
    {fault : Fault} :
    (first >>= next) here = .error fault there ↔
      first here = .error fault there ∨
        ∃ middle between, first here = .ok middle between ∧
          next middle between = .error fault there := by
  rw [bind_apply]
  cases first here with
  | error => simp
  | ok middle between =>
      constructor
      · intro stopped
        exact .inr ⟨middle, between, rfl, stopped⟩
      · rintro (stopped | ⟨_, _, same, stopped⟩)
        · cases stopped
        · cases same
          exact stopped

/-- What is made of the result does not matter for where a run ends. -/
theorem finish_bind_pure (computation : Run σ α) (f : α → β)
    (here : σ × Supply) :
    (computation >>= fun result => pure (f result)).finish here = computation.finish here := by
  unfold finish
  rw [bind_apply]
  cases computation here <;> rfl

/-- Nor does it matter for whether the run stops. -/
theorem bind_pure_eq_error_iff {computation : Run σ α} {f : α → β} {here there : σ × Supply}
    {fault : Fault} :
    (computation >>= fun result => pure (f result)) here = .error fault there ↔
      computation here = .error fault there := by
  rw [bind_apply]
  cases computation here <;> simp

/-- A first step that goes through leads to where the second one starts. -/
theorem finish_bind_of_ok {first : Run σ α} {next : α → Run σ β}
    {here there : σ × Supply} {result : α} (done : first here = .ok result there) :
    (first >>= next).finish here = (next result).finish there := by
  rw [finish, bind_apply_ok done, finish]

/-! ## One run -/

/-- Where a run goes through, `good` holds of its result and its end; where it stops, `bad` holds of
the fault and the end. -/
def Ends (computation : Run σ α) (here : σ × Supply)
    (good : α → σ × Supply → Prop) (bad : Fault → σ × Supply → Prop) : Prop :=
  match computation here with
  | .ok result there => good result there
  | .error fault there => bad fault there

section Ends

variable {good good' : α → σ × Supply → Prop} {bad bad' : Fault → σ × Supply → Prop}
variable {here : σ × Supply}

theorem ends_of_ok {computation : Run σ α} {result : α} {there : σ × Supply}
    (done : computation here = .ok result there) (holds : good result there) :
    Ends computation here good bad := by
  rw [Ends, done]
  exact holds

theorem ends_of_error {computation : Run σ α} {fault : Fault} {there : σ × Supply}
    (stopped : computation here = .error fault there) (holds : bad fault there) :
    Ends computation here good bad := by
  rw [Ends, stopped]
  exact holds

/-- A computation ends as another one that comes to the same here. -/
theorem Ends.congr {computation other : Run σ α} {there : σ × Supply}
    (ends : Ends other there good bad) (same : computation here = other there) :
    Ends computation here good bad := by
  rwa [Ends, same]

theorem Ends.of_eq_ok {computation : Run σ α} {result : α} {there : σ × Supply}
    (ends : Ends computation here good bad) (done : computation here = .ok result there) :
    good result there := by
  rw [Ends, done] at ends
  exact ends

theorem Ends.of_eq_error {computation : Run σ α} {fault : Fault} {there : σ × Supply}
    (ends : Ends computation here good bad) (stopped : computation here = .error fault there) :
    bad fault there := by
  rw [Ends, stopped] at ends
  exact ends

/-- What cannot stop goes through. -/
theorem Ends.exists_ok {computation : Run σ α}
    (ends : Ends computation here good fun _ _ => False) :
    ∃ result there, computation here = .ok result there ∧ good result there := by
  cases outcome : computation here with
  | ok result there => exact ⟨result, there, rfl, ends.of_eq_ok outcome⟩
  | error fault there => exact (ends.of_eq_error outcome).elim

theorem Ends.mono {computation : Run σ α}
    (ends : Ends computation here good bad)
    (goods : ∀ result there, good result there → good' result there)
    (bads : ∀ fault there, bad fault there → bad' fault there) :
    Ends computation here good' bad' := by
  unfold Ends at *
  split at ends
  · exact goods _ _ ends
  · exact bads _ _ ends

theorem Ends.and {computation : Run σ α}
    (first : Ends computation here good bad) (second : Ends computation here good' bad') :
    Ends computation here (fun result there => good result there ∧ good' result there)
      (fun fault there => bad fault there ∧ bad' fault there) := by
  unfold Ends at *
  split at first
  · rename_i outcome
    rw [outcome] at second
    exact ⟨first, second⟩
  · rename_i outcome
    rw [outcome] at second
    exact ⟨first, second⟩

theorem ends_pure {result : α} (holds : good result here) :
    Ends (pure result) here good bad := holds

theorem Ends.bind {first : Run σ β} {next : β → Run σ α} {middle : β → σ × Supply → Prop}
    (start : Ends first here middle bad)
    (rest : ∀ result there, middle result there → Ends (next result) there good bad) :
    Ends (first >>= next) here good bad := by
  unfold Ends at start
  split at start
  case h_1 result there done =>
    rw [Ends, bind_apply_ok done]
    exact rest result there start
  case h_2 fault there stopped =>
    exact ends_of_error (bind_apply_error stopped) start

/-- What holds in between is said first. -/
theorem ends_bind {first : Run σ β} {next : β → Run σ α} (middle : β → σ × Supply → Prop)
    (start : Ends first here middle bad)
    (rest : ∀ result there, middle result there → Ends (next result) there good bad) :
    Ends (first >>= next) here good bad :=
  start.bind rest

/-- A first step whose outcome is known is skipped. -/
theorem ends_bind_of_ok {first : Run σ β} {next : β → Run σ α} {result : β}
    {there : σ × Supply} (done : first here = .ok result there)
    (rest : Ends (next result) there good bad) :
    Ends (first >>= next) here good bad := by
  rw [Ends, bind_apply_ok done]
  exact rest

theorem Ends.within {part : σ → τ} {replace : σ → τ → σ} {computation : Run τ α}
    {goodPart : α → τ × Supply → Prop} {badPart : Fault → τ × Supply → Prop}
    (ends : Ends computation (part here.1, here.2) goodPart badPart)
    (goods : ∀ result there, goodPart result there →
      good result (replace here.1 there.1, there.2))
    (bads : ∀ fault there, badPart fault there → bad fault (replace here.1 there.1, there.2)) :
    Ends (Run.within part replace computation) here good bad := by
  unfold Ends at ends
  split at ends
  case h_1 result there done =>
    exact ends_of_ok (by rw [within_apply, done]) (goods result there ends)
  case h_2 fault there stopped =>
    exact ends_of_error (by rw [within_apply, stopped]) (bads fault there ends)

/-- What each step of a loop keeps holds at its end. -/
theorem ends_forM {ε : Type} (kept : σ × Supply → Prop) {step : ε → Run σ PUnit}
    {badEnd : Fault → σ × Supply → Prop} {list : List ε} (start : kept here)
    (keeps : ∀ item ∈ list, ∀ here, kept here →
      Ends (step item) here (fun _ there => kept there) badEnd) :
    Ends (list.forM step) here (fun _ there => kept there) badEnd := by
  induction list generalizing here with
  | nil => exact ends_pure start
  | cons item rest ih =>
      refine (keeps item List.mem_cons_self here start).bind ?_
      intro _ there holds
      exact ih holds fun later member => keeps later (List.mem_cons_of_mem _ member)

/-- Where a run goes through, `good` holds of its result and its end. -/
abbrev Passes (computation : Run σ α) (here : σ × Supply) (good : α → σ × Supply → Prop) : Prop :=
  Ends computation here good fun _ _ => True

/-- Of a run that goes through nothing is known. -/
theorem passes_any (computation : Run σ α) : Passes computation here fun _ _ => True := by
  unfold Passes Ends
  split <;> trivial

theorem passes_of_error {computation : Run σ α} {fault : Fault} {there : σ × Supply}
    (stopped : computation here = .error fault there) : Passes computation here good :=
  ends_of_error stopped trivial

theorem Passes.mono {computation : Run σ α} (passes : Passes computation here good)
    (goods : ∀ result there, good result there → good' result there) :
    Passes computation here good' :=
  Ends.mono passes goods fun _ _ bad => bad

theorem Passes.and {computation : Run σ α} (first : Passes computation here good)
    (second : Passes computation here good') :
    Passes computation here fun result there => good result there ∧ good' result there :=
  (Ends.and first second).mono (fun _ _ both => both) fun _ _ _ => trivial

/-- Where the run stops does not matter. -/
theorem Ends.passes {computation : Run σ α} (ends : Ends computation here good bad) :
    Passes computation here good :=
  ends.mono (fun _ _ holds => holds) fun _ _ _ => trivial

/-- A question that is answered does not change the state. -/
theorem passes_demand {question : σ → Except Fault β} {next : β → Run σ α}
    (rest : ∀ answer, question here.1 = .ok answer → Passes (next answer) here good) :
    Passes (demand question >>= next) here good := by
  cases given : question here.1 with
  | ok answer => exact ends_bind_of_ok (demand_apply_ok given) (rest answer given)
  | error fault => exact passes_of_error (bind_apply_error (demand_apply_error given))

/-- A change that is not refused. -/
theorem passes_attempt {change : σ → Except Fault σ} {good : PUnit → σ × Supply → Prop}
    (done : ∀ next, change here.1 = .ok next → good () (next, here.2)) :
    Passes (attempt change) here good := by
  cases made : change here.1 with
  | ok next => exact ends_of_ok (attempt_apply_ok made) (done next made)
  | error fault => exact passes_of_error (attempt_apply_error made)

/-- What holds wherever a run ends, whether or not it stops. -/
theorem Ends.finish {computation : Run σ α} (kept : σ × Supply → Prop)
    (ends : Ends computation here (fun _ there => kept there) fun _ there => kept there) :
    kept (computation.finish here) := by
  unfold Ends at ends
  unfold Run.finish
  cases ended : computation here with
  | ok result there =>
      rw [ended] at ends
      exact ends
  | error fault there =>
      rw [ended] at ends
      exact ends

end Ends

/-! ## Identifiers that were drawn -/

/-- The run gives no identifier back, whether or not it stops with a fault. -/
def Forward (computation : Run σ α) : Prop :=
  ∀ here, here.2.next ≤ (computation.finish here).2.next

section Forward

variable {computation : Run σ α}

theorem forward_of_still (still : ∀ here, (computation.finish here).2 = here.2) :
    Forward computation := fun here => Nat.le_of_eq (congrArg Supply.next (still here)).symm

@[simp] theorem forward_pure (result : α) : Forward (pure result : Run σ α) :=
  forward_of_still fun _ => rfl

@[simp] theorem forward_throw (fault : Fault) : Forward (throw fault : Run σ α) :=
  forward_of_still fun _ => rfl

@[simp] theorem forward_state : Forward (state : Run σ σ) := forward_of_still fun _ => rfl

@[simp] theorem forward_ask (question : σ → α) : Forward (ask question) :=
  forward_of_still fun _ => rfl

@[simp] theorem forward_modify (change : σ → σ) : Forward (modify change) :=
  forward_of_still fun _ => rfl

@[simp] theorem forward_demand (question : σ → Except Fault α) : Forward (demand question) := by
  refine forward_of_still fun here => ?_
  unfold finish
  cases given : question here.1 with
  | ok answer => rw [demand_apply_ok given]
  | error fault => rw [demand_apply_error given]

@[simp] theorem forward_attempt (change : σ → Except Fault σ) : Forward (attempt change) := by
  refine forward_of_still fun here => ?_
  unfold finish
  cases changed : change here.1 with
  | ok next => rw [attempt_apply_ok changed]
  | error fault => rw [attempt_apply_error changed]

theorem Forward.bind {next : α → Run σ β} (forward : Forward computation)
    (rest : ∀ result, Forward (next result)) : Forward (computation >>= next) := by
  intro here
  have start := forward here
  unfold finish at start ⊢
  cases ended : computation here with
  | ok result there =>
      rw [ended] at start
      rw [bind_apply_ok ended]
      exact Nat.le_trans start (rest result there)
  | error fault there =>
      rw [ended] at start
      rw [bind_apply_error ended]
      exact start

theorem Forward.within {part : σ → τ} {replace : σ → τ → σ} {inner : Run τ α}
    (forward : Forward inner) : Forward (within part replace inner) := by
  intro here
  have start := forward (part here.1, here.2)
  unfold finish at start ⊢
  rw [within_apply]
  cases ended : inner (part here.1, here.2) with
  | ok result there =>
      rw [ended] at start
      exact start
  | error fault there =>
      rw [ended] at start
      exact start

theorem forward_forM {ε : Type} {step : ε → Run σ PUnit} {list : List ε}
    (forward : ∀ item ∈ list, Forward (step item)) : Forward (list.forM step) := by
  induction list with
  | nil => exact forward_pure _
  | cons item rest ih =>
      exact (forward item List.mem_cons_self).bind fun _ =>
        ih fun later member => forward later (List.mem_cons_of_mem _ member)

@[simp] theorem forward_draw_objectId : Forward (draw Draw.objectId : Run σ ObjectId) :=
  fun _ => Nat.le_succ _

@[simp] theorem forward_draw_valueId : Forward (draw Draw.valueId : Run σ ValueId) :=
  fun _ => Nat.le_succ _

theorem Forward.passes (forward : Forward computation) (here : σ × Supply) :
    Passes computation here fun _ there => here.2.next ≤ there.2.next := by
  have start := forward here
  unfold finish at start
  unfold Passes Ends
  split
  case h_1 result there done => rwa [done] at start
  case h_2 => trivial

end Forward

/-! ## Histories -/

section History

variable {ω : Type} {perform : ω → Run σ α} {allowed : ω → σ × Supply → Prop}

/-- Each operation of a history is performed where it is allowed. -/
def Permits (perform : ω → Run σ α) (allowed : ω → σ × Supply → Prop) :
    List ω → σ × Supply → Prop
  | [], _ => True
  | operation :: rest, here =>
      allowed operation here ∧ Permits perform allowed rest ((perform operation).finish here)

theorem permits_of_forall {operations : List ω} {here : σ × Supply}
    (always : ∀ operation ∈ operations, ∀ here, allowed operation here) :
    Permits perform allowed operations here := by
  induction operations generalizing here with
  | nil => trivial
  | cons operation rest ih =>
      exact ⟨always operation List.mem_cons_self here,
        ih fun other member => always other (List.mem_cons_of_mem _ member)⟩

theorem Permits.and {also : ω → σ × Supply → Prop} {operations : List ω} {here : σ × Supply}
    (permits : Permits perform allowed operations here)
    (permits' : Permits perform also operations here) :
    Permits perform (fun operation here => allowed operation here ∧ also operation here) operations
      here := by
  induction operations generalizing here with
  | nil => trivial
  | cons operation rest ih => exact ⟨⟨permits.1, permits'.1⟩, ih permits.2 permits'.2⟩

/-- What each allowed operation keeps holds at the end of a history. -/
theorem Permits.keeps (kept : σ × Supply → Prop) {operations : List ω} {here : σ × Supply}
    (permits : Permits perform allowed operations here) (start : kept here)
    (keeps : ∀ operation here, allowed operation here → kept here →
      kept ((perform operation).finish here)) :
    kept (history perform operations here) := by
  induction operations generalizing here with
  | nil => exact start
  | cons operation rest ih =>
      rw [history_cons]
      exact ih permits.2 (keeps operation here permits.1 start)

end History

/-! ## Two runs -/

/-- Two runs go through together, and then `good` holds of both results and ends, or they stop
together. -/
def Matches (first : Run σ α) (second : Run τ β) (here : σ × Supply) (there : τ × Supply)
    (good : α → σ × Supply → β → τ × Supply → Prop) : Prop :=
  match first here, second there with
  | .ok result1 end1, .ok result2 end2 => good result1 end1 result2 end2
  | .error _ _, .error _ _ => True
  | _, _ => False

section Matches

variable {good good' : α → σ × Supply → β → τ × Supply → Prop}
variable {here : σ × Supply} {there : τ × Supply}

theorem matches_of_ok {first : Run σ α} {second : Run τ β} {result1 : α} {result2 : β}
    {end1 : σ × Supply} {end2 : τ × Supply}
    (done1 : first here = .ok result1 end1) (done2 : second there = .ok result2 end2)
    (holds : good result1 end1 result2 end2) :
    Matches first second here there good := by
  rw [Matches, done1, done2]
  exact holds

theorem matches_of_error {first : Run σ α} {second : Run τ β} {fault1 fault2 : Fault}
    {end1 : σ × Supply} {end2 : τ × Supply}
    (stopped1 : first here = .error fault1 end1) (stopped2 : second there = .error fault2 end2) :
    Matches first second here there good := by
  rw [Matches, stopped1, stopped2]
  trivial

theorem matches_pure {result1 : α} {result2 : β} (holds : good result1 here result2 there) :
    Matches (pure result1) (pure result2) here there good := holds

/-- The two ways in which matching runs end. -/
theorem Matches.cases {first : Run σ α} {second : Run τ β}
    (matching : Matches first second here there good) :
    (∃ result1 end1 result2 end2, first here = .ok result1 end1 ∧
      second there = .ok result2 end2 ∧ good result1 end1 result2 end2) ∨
    (∃ fault1 end1 fault2 end2, first here = .error fault1 end1 ∧
      second there = .error fault2 end2) := by
  unfold Matches at matching
  split at matching
  case h_1 result1 end1 result2 end2 done1 done2 =>
    exact .inl ⟨result1, end1, result2, end2, done1, done2, matching⟩
  case h_2 fault1 end1 fault2 end2 stopped1 stopped2 =>
    exact .inr ⟨fault1, end1, fault2, end2, stopped1, stopped2⟩
  case h_3 => exact matching.elim

theorem Matches.mono {first : Run σ α} {second : Run τ β}
    (matching : Matches first second here there good)
    (goods : ∀ result1 end1 result2 end2, good result1 end1 result2 end2 →
      good' result1 end1 result2 end2) :
    Matches first second here there good' := by
  rcases matching.cases with ⟨_, _, _, _, done1, done2, holds⟩ | ⟨_, _, _, _, stopped1, stopped2⟩
  · exact matches_of_ok done1 done2 (goods _ _ _ _ holds)
  · exact matches_of_error stopped1 stopped2

theorem Matches.bind {α' β' : Type} {first : Run σ α} {second : Run τ β}
    {next1 : α → Run σ α'} {next2 : β → Run τ β'}
    {goodEnd : α' → σ × Supply → β' → τ × Supply → Prop}
    (start : Matches first second here there good)
    (rest : ∀ result1 end1 result2 end2, good result1 end1 result2 end2 →
      Matches (next1 result1) (next2 result2) end1 end2 goodEnd) :
    Matches (first >>= next1) (second >>= next2) here there goodEnd := by
  rcases start.cases with
    ⟨result1, end1, result2, end2, done1, done2, holds⟩ | ⟨_, _, _, _, stopped1, stopped2⟩
  · rw [Matches, bind_apply_ok done1, bind_apply_ok done2]
    exact rest result1 end1 result2 end2 holds
  · exact matches_of_error (bind_apply_error stopped1) (bind_apply_error stopped2)

/-- First steps whose outcomes are known are skipped. -/
theorem matches_bind_of_ok {α' β' : Type} {first : Run σ α} {second : Run τ β}
    {next1 : α → Run σ α'} {next2 : β → Run τ β'} {result1 : α} {result2 : β}
    {end1 : σ × Supply} {end2 : τ × Supply}
    {goodEnd : α' → σ × Supply → β' → τ × Supply → Prop}
    (done1 : first here = .ok result1 end1) (done2 : second there = .ok result2 end2)
    (rest : Matches (next1 result1) (next2 result2) end1 end2 goodEnd) :
    Matches (first >>= next1) (second >>= next2) here there goodEnd := by
  rw [Matches, bind_apply_ok done1, bind_apply_ok done2]
  exact rest

theorem matches_attempt {first : σ → Except Fault σ} {second : τ → Except Fault τ}
    {good : PUnit → σ × Supply → PUnit → τ × Supply → Prop}
    (together : (first here.1).toOption.isSome = (second there.1).toOption.isSome)
    (goods : ∀ next1 next2, first here.1 = .ok next1 → second there.1 = .ok next2 →
      good () (next1, here.2) () (next2, there.2)) :
    Matches (attempt first) (attempt second) here there good := by
  cases done1 : first here.1 with
  | ok next1 =>
      cases done2 : second there.1 with
      | ok next2 =>
          exact matches_of_ok (attempt_apply_ok done1) (attempt_apply_ok done2)
            (goods next1 next2 done1 done2)
      | error fault => simp [done1, done2, Except.toOption] at together
  | error fault1 =>
      cases done2 : second there.1 with
      | ok next2 => simp [done1, done2, Except.toOption] at together
      | error fault2 =>
          exact matches_of_error (attempt_apply_error done1) (attempt_apply_error done2)

/-- What each step of two matching loops keeps holds at their ends. -/
theorem matches_forM {ε ε' : Type} (kept : σ × Supply → τ × Supply → Prop)
    {step : ε → Run σ PUnit} {step' : ε' → Run τ PUnit} {translate : ε → ε'} {list : List ε}
    (start : kept here there)
    (keeps : ∀ item ∈ list, ∀ here there, kept here there →
      Matches (step item) (step' (translate item)) here there fun _ end1 _ end2 =>
        kept end1 end2) :
    Matches (list.forM step) ((list.map translate).forM step') here there fun _ end1 _ end2 =>
      kept end1 end2 := by
  induction list generalizing here there with
  | nil => exact matches_pure start
  | cons item rest ih =>
      refine (keeps item List.mem_cons_self here there start).bind ?_
      intro _ end1 _ end2 holds
      exact ih holds fun later member => keeps later (List.mem_cons_of_mem _ member)

end Matches

/-! ## Two runs that go through -/

/-- Where two runs both go through, `good` holds of their results and ends. -/
def Agrees (first : Run σ α) (second : Run τ β) (here : σ × Supply) (there : τ × Supply)
    (good : α → σ × Supply → β → τ × Supply → Prop) : Prop :=
  ∀ (result1 : α) (end1 : σ × Supply) (result2 : β) (end2 : τ × Supply),
    first here = .ok result1 end1 → second there = .ok result2 end2 → good result1 end1 result2 end2

section Agrees

variable {σ' τ' α' β' : Type} {here : σ × Supply} {there : τ × Supply}
variable {good good' : α → σ × Supply → β → τ × Supply → Prop}
variable {goodEnd : α' → σ × Supply → β' → τ × Supply → Prop}

theorem agrees_of_ok {first : Run σ α} {second : Run τ β} {result1 : α} {result2 : β}
    {end1 : σ × Supply} {end2 : τ × Supply} (done1 : first here = .ok result1 end1)
    (done2 : second there = .ok result2 end2) (holds : good result1 end1 result2 end2) :
    Agrees first second here there good := by
  intro _ _ _ _ same1 same2
  rw [done1] at same1
  rw [done2] at same2
  cases same1
  cases same2
  exact holds

theorem agrees_pure {result1 : α} {result2 : β} (holds : good result1 here result2 there) :
    Agrees (pure result1) (pure result2) here there good :=
  agrees_of_ok rfl rfl holds

/-- A first run that stops agrees with everything. -/
theorem agrees_of_error {first : Run σ α} {second : Run τ β} {fault : Fault} {end1 : σ × Supply}
    (stopped : first here = .error fault end1) : Agrees first second here there good := by
  intro _ _ _ _ done
  rw [stopped] at done
  cases done

/-- So does a second run that stops. -/
theorem agrees_of_error_right {first : Run σ α} {second : Run τ β} {fault : Fault}
    {end2 : τ × Supply} (stopped : second there = .error fault end2) :
    Agrees first second here there good := by
  intro _ _ _ _ _ done
  rw [stopped] at done
  cases done

theorem Agrees.mono {first : Run σ α} {second : Run τ β}
    (agrees : Agrees first second here there good)
    (goods : ∀ result1 end1 result2 end2, good result1 end1 result2 end2 →
      good' result1 end1 result2 end2) : Agrees first second here there good' :=
  fun _ _ _ _ done1 done2 => goods _ _ _ _ (agrees _ _ _ _ done1 done2)

theorem Agrees.bind {first : Run σ α} {second : Run τ β} {next1 : α → Run σ α'}
    {next2 : β → Run τ β'} (start : Agrees first second here there good)
    (rest : ∀ result1 end1 result2 end2, good result1 end1 result2 end2 →
      Agrees (next1 result1) (next2 result2) end1 end2 goodEnd) :
    Agrees (first >>= next1) (second >>= next2) here there goodEnd := by
  intro result1 end1 result2 end2 done1 done2
  obtain ⟨_, _, before1, after1⟩ := bind_eq_ok_iff.1 done1
  obtain ⟨_, _, before2, after2⟩ := bind_eq_ok_iff.1 done2
  exact rest _ _ _ _ (start _ _ _ _ before1 before2) _ _ _ _ after1 after2

/-- First steps whose outcomes are known are skipped. -/
theorem agrees_bind_of_ok {first : Run σ α} {second : Run τ β} {next1 : α → Run σ α'}
    {next2 : β → Run τ β'} {result1 : α} {result2 : β} {end1 : σ × Supply} {end2 : τ × Supply}
    (done1 : first here = .ok result1 end1) (done2 : second there = .ok result2 end2)
    (rest : Agrees (next1 result1) (next2 result2) end1 end2 goodEnd) :
    Agrees (first >>= next1) (second >>= next2) here there goodEnd := by
  intro last1 final1 last2 final2 done1' done2'
  rw [bind_apply_ok done1] at done1'
  rw [bind_apply_ok done2] at done2'
  exact rest _ _ _ _ done1' done2'

/-- Questions that are answered do not change the states. -/
theorem agrees_demand {question1 : σ → Except Fault α} {question2 : τ → Except Fault β}
    {next1 : α → Run σ α'} {next2 : β → Run τ β'}
    (rest : ∀ answer1 answer2, question1 here.1 = .ok answer1 → question2 there.1 = .ok answer2 →
      Agrees (next1 answer1) (next2 answer2) here there goodEnd) :
    Agrees (demand question1 >>= next1) (demand question2 >>= next2) here there goodEnd := by
  intro result1 end1 result2 end2 done1 done2
  cases given1 : question1 here.1 with
  | error fault => simp [bind_apply_error (demand_apply_error given1)] at done1
  | ok answer1 =>
      cases given2 : question2 there.1 with
      | error fault => simp [bind_apply_error (demand_apply_error given2)] at done2
      | ok answer2 =>
          rw [bind_apply_ok (demand_apply_ok given1)] at done1
          rw [bind_apply_ok (demand_apply_ok given2)] at done2
          exact rest answer1 answer2 given1 given2 _ _ _ _ done1 done2

/-- Changes that are not refused. -/
theorem agrees_attempt {change1 : σ → Except Fault σ} {change2 : τ → Except Fault τ}
    {good : PUnit → σ × Supply → PUnit → τ × Supply → Prop}
    (goods : ∀ next1 next2, change1 here.1 = .ok next1 → change2 there.1 = .ok next2 →
      good () (next1, here.2) () (next2, there.2)) :
    Agrees (attempt change1) (attempt change2) here there good := by
  intro _ _ _ _ done1 done2
  cases made1 : change1 here.1 with
  | error fault => simp [attempt_apply_error made1] at done1
  | ok next1 =>
      cases made2 : change2 there.1 with
      | error fault => simp [attempt_apply_error made2] at done2
      | ok next2 =>
          exact agrees_of_ok (attempt_apply_ok made1) (attempt_apply_ok made2)
            (goods next1 next2 made1 made2) _ _ _ _ done1 done2

theorem Agrees.within {part1 : σ → σ'} {replace1 : σ → σ' → σ} {part2 : τ → τ'}
    {replace2 : τ → τ' → τ} {first : Run σ' α} {second : Run τ' β}
    {goodPart : α → σ' × Supply → β → τ' × Supply → Prop}
    (agrees : Agrees first second (part1 here.1, here.2) (part2 there.1, there.2) goodPart)
    (goods : ∀ result1 end1 result2 end2, goodPart result1 end1 result2 end2 →
      good result1 (replace1 here.1 end1.1, end1.2) result2 (replace2 there.1 end2.1, end2.2)) :
    Agrees (Run.within part1 replace1 first)
      (Run.within part2 replace2 second) here there good := by
  intro _ _ _ _ done1 done2
  rw [within_apply] at done1 done2
  split at done1
  case h_2 => cases done1
  case h_1 middle1 between1 before1 =>
    split at done2
    case h_2 => cases done2
    case h_1 middle2 between2 before2 =>
      cases done1
      cases done2
      exact goods _ _ _ _ (agrees _ _ _ _ before1 before2)

/-- What each step of two loops over matching lists keeps holds at their ends. -/
theorem agrees_forM {ε ε' : Type} (kept : σ × Supply → τ × Supply → Prop) {alike : ε → ε' → Prop}
    {step : ε → Run σ PUnit} {step' : ε' → Run τ PUnit} {list : List ε} {list' : List ε'}
    (all : List.Forall₂ alike list list') (start : kept here there)
    (keeps : ∀ item item', alike item item' → ∀ here there, kept here there →
      Agrees (step item) (step' item') here there fun _ end1 _ end2 => kept end1 end2) :
    Agrees (list.forM step) (list'.forM step') here there fun _ end1 _ end2 => kept end1 end2 := by
  induction all generalizing here there with
  | nil => exact agrees_pure start
  | cons alike _ ih =>
      refine (keeps _ _ alike here there start).bind ?_
      intro _ end1 _ end2 holds
      exact ih holds

end Agrees

/-! ## A run from related states -/

/-- Where a computation goes through from a state, it goes through from every related one, with the
same result and the same supply, and it ends in related states. -/
def Lifts (related : σ → σ → Prop) (computation : Run σ α) : Prop :=
  ∀ (here there end1 : σ) (supply now : Supply) (result : α), related here there →
    computation (here, supply) = .ok result (end1, now) →
    ∃ end2, computation (there, supply) = .ok result (end2, now) ∧ related end1 end2

section Lifts

variable {related : σ → σ → Prop}

theorem lifts_pure (result : α) : Lifts related (pure result) := by
  intro here there end1 supply now _ known done
  cases done
  exact ⟨there, rfl, known⟩

theorem Lifts.bind {first : Run σ α} {next : α → Run σ β} (lifts : Lifts related first)
    (rest : ∀ result, Lifts related (next result)) : Lifts related (first >>= next) := by
  intro here there end1 supply now last known done
  obtain ⟨result, ⟨middle, between⟩, before, after⟩ := bind_eq_ok_iff.1 done
  obtain ⟨middle', done, known⟩ := lifts _ _ _ _ _ _ known before
  obtain ⟨end2, done', known⟩ := rest result _ _ _ _ _ _ known after
  exact ⟨end2, (bind_apply_ok done).trans done', known⟩

/-- From a single state there is only one run. -/
theorem lifts_eq (computation : Run σ α) : Lifts Eq computation := by
  rintro here _ end1 supply now result rfl done
  exact ⟨end1, done, rfl⟩

theorem lifts_draw (computation : Draw α) : Lifts related (draw computation) := by
  intro here there end1 supply now result known done
  unfold draw at done ⊢
  split at done
  case h_1 =>
    cases done
    exact ⟨there, by simp_all, known⟩
  case h_2 => cases done

theorem Lifts.forM {list : List α} {step : α → Run σ PUnit}
    (lifts : ∀ item ∈ list, Lifts related (step item)) : Lifts related (list.forM step) := by
  induction list with
  | nil => exact lifts_pure ()
  | cons item rest ih =>
      exact (lifts item List.mem_cons_self).bind fun _ =>
        ih fun later member => lifts later (List.mem_cons_of_mem _ member)

theorem lifts_ask {question : σ → α}
    (agrees : ∀ {here there}, related here there → question there = question here) :
    Lifts related (ask question) := by
  intro here there end1 supply now result known done
  cases done
  exact ⟨there, by rw [ask_apply, agrees known], known⟩

/-- A step that is lifted whichever answer it starts from, if related states lead to the same
step. -/
theorem Lifts.ask_bind {question : σ → α} {next : α → Run σ β}
    (rest : ∀ here, Lifts related (next (question here)))
    (agrees : ∀ {here there}, related here there → next (question there) = next (question here)) :
    Lifts related (ask question >>= next) := by
  intro here there end1 supply now result known done
  obtain ⟨end2, done', known'⟩ := rest here _ _ _ _ _ _ known done
  exact ⟨end2, by rw [bind_apply_ok (ask_apply _ _), agrees known, done'], known'⟩

theorem lifts_demand {question : σ → Except Fault α}
    (agrees : ∀ {here there}, related here there → question there = question here) :
    Lifts related (demand question) := by
  intro here there end1 supply now result known done
  cases given : question here with
  | error fault =>
      rw [demand_apply_error given] at done
      cases done
  | ok answer =>
      rw [demand_apply_ok given] at done
      cases done
      exact ⟨there, demand_apply_ok ((agrees known).trans given), known⟩

theorem lifts_modify {change : σ → σ}
    (keeps : ∀ {here there}, related here there → related (change here) (change there)) :
    Lifts related (modify change) := by
  intro here there end1 supply now result known done
  cases done
  exact ⟨change there, rfl, keeps known⟩

theorem lifts_attempt {change : σ → Except Fault σ}
    (keeps : ∀ {here there next}, related here there → change here = .ok next →
      ∃ next', change there = .ok next' ∧ related next next') : Lifts related (attempt change) := by
  intro here there end1 supply now result known done
  cases changed : change here with
  | error fault =>
      rw [attempt_apply_error changed] at done
      cases done
  | ok next =>
      rw [attempt_apply_ok changed] at done
      cases done
      obtain ⟨next', changed', known⟩ := keeps known changed
      exact ⟨next', attempt_apply_ok changed', known⟩

theorem Lifts.within {part : σ → τ} {replace : σ → τ → σ} {inner : τ → τ → Prop}
    {computation : Run τ α} (lifts : Lifts inner computation)
    (parts : ∀ {here there}, related here there → inner (part here) (part there))
    (replaces : ∀ {here there next next'}, related here there → inner next next' →
      related (replace here next) (replace there next')) :
    Lifts related (within part replace computation) := by
  intro here there end1 supply now result known done
  rw [within_apply] at done
  split at done
  case h_2 => cases done
  case h_1 result next went =>
    cases done
    obtain ⟨next', went', known'⟩ := lifts _ _ _ _ _ _ (parts known) went
    exact ⟨replace there next', by rw [within_apply, went'], replaces known known'⟩

end Lifts

/-- Where the first of two runs goes through, `good` holds of its result and its end, and the second
one goes through from every state related to its start, with the same result and the same supply,
and it ends in a related state. -/
def Carries (related : σ → σ → Prop) (first second : Run σ α) (here : σ × Supply)
    (good : α → σ × Supply → Prop) : Prop :=
  Passes first here fun result there => good result there ∧ ∀ {other}, related here.1 other →
    ∃ last, second (other, here.2) = .ok result (last, there.2) ∧ related there.1 last

section Carries

variable {related : σ → σ → Prop} {here : σ × Supply} {good good' : α → σ × Supply → Prop}

theorem carries_pure {result : α} (holds : good result here) :
    Carries related (pure result) (pure result) here good :=
  ⟨holds, fun {other} known => ⟨other, rfl, known⟩⟩

theorem Carries.mono {first second : Run σ α} (carries : Carries related first second here good)
    (goods : ∀ result there, good result there → good' result there) :
    Carries related first second here good' :=
  Passes.mono carries fun result there both => ⟨goods result there both.1, both.2⟩

theorem Carries.bind {first1 first2 : Run σ β} {next1 next2 : β → Run σ α}
    {middle : β → σ × Supply → Prop} (start : Carries related first1 first2 here middle)
    (rest : ∀ result there, middle result there →
      Carries related (next1 result) (next2 result) there good) :
    Carries related (first1 >>= next1) (first2 >>= next2) here good := by
  refine Ends.bind start fun result between both => ?_
  refine Passes.mono (rest result between both.1) fun last there later =>
    ⟨later.1, fun known => ?_⟩
  obtain ⟨middle', done, known⟩ := both.2 known
  obtain ⟨last', done', known⟩ := later.2 known
  exact ⟨last', (bind_apply_ok done).trans done', known⟩

/-- What goes through from all related states goes through from these. -/
theorem Lifts.carries {computation : Run σ α} (lifts : Lifts related computation)
    (passes : Passes computation here good) :
    Carries related computation computation here good := by
  unfold Carries Passes Ends
  unfold Passes Ends at passes
  cases done : computation here with
  | error fault there => trivial
  | ok result there =>
      rw [done] at passes
      exact ⟨passes, fun known => lifts _ _ _ _ _ _ known done⟩

/-- A question to which related states give the same answer. -/
theorem carries_demand {question : σ → Except Fault β} {next1 next2 : β → Run σ α}
    (agrees : ∀ {other}, related here.1 other → question other = question here.1)
    (rest : ∀ answer, question here.1 = .ok answer →
      Carries related (next1 answer) (next2 answer) here good) :
    Carries related (demand question >>= next1) (demand question >>= next2) here good := by
  refine passes_demand fun answer given => Passes.mono (rest answer given) fun last there later =>
    ⟨later.1, fun known => ?_⟩
  obtain ⟨last', done, known'⟩ := later.2 known
  exact ⟨last', (bind_apply_ok (demand_apply_ok ((agrees known).trans given))).trans done, known'⟩

/-- What is done next may depend on the state, if related states lead to the same step. -/
theorem carries_ask {question : σ → β} {next1 next2 : β → Run σ α}
    (agrees : ∀ {other}, related here.1 other → next2 (question other) = next2 (question here.1))
    (rest : Carries related (next1 (question here.1)) (next2 (question here.1)) here good) :
    Carries related (ask question >>= next1) (ask question >>= next2) here good := by
  refine ends_bind_of_ok (ask_apply _ _) (Passes.mono rest fun last there later =>
    ⟨later.1, fun known => ?_⟩)
  obtain ⟨last', done, known'⟩ := later.2 known
  exact ⟨last', by rw [bind_apply_ok (ask_apply _ _), agrees known, done], known'⟩

theorem carries_state {next1 next2 : σ → Run σ α}
    (agrees : ∀ {other}, related here.1 other → next2 other = next2 here.1)
    (rest : Carries related (next1 here.1) (next2 here.1) here good) :
    Carries related (state >>= next1) (state >>= next2) here good := by
  refine ends_bind_of_ok (state_apply _) (Passes.mono rest fun last there later =>
    ⟨later.1, fun known => ?_⟩)
  obtain ⟨last', done, known'⟩ := later.2 known
  exact ⟨last', by rw [bind_apply_ok (state_apply _), agrees known, done], known'⟩

end Carries

end Run

end ShapeDomain
