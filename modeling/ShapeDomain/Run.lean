import ShapeDomain.Fault

/-!
# Runs

A run changes a state, draws identifiers and may stop with a fault.  What it changed and drew before
the fault stays changed and drawn, so a run always ends in a state and a supply.
-/

namespace ShapeDomain

/-- A computation that draws identifiers and may stop with a fault. -/
abbrev Draw := EStateM Fault Supply

/-- A computation that moreover changes a state of type `σ`. -/
abbrev Run (σ : Type) := EStateM Fault (σ × Supply)

namespace Draw

/-- Draws an identifier that was never drawn before, which there always is: fewer than `2 ^ 32` are
drawn. -/
def index : Draw Nat := fun supply =>
  .ok supply.next ⟨supply.next + 1⟩

/-- Draws the name of an object. -/
def objectId : Draw ObjectId := do
  return ⟨← index⟩

/-- Draws the name of a value. -/
def valueId : Draw ValueId := do
  return ⟨← index⟩

end Draw

namespace Run

variable {σ τ α : Type}

/-- The current state. -/
def state : Run σ σ := fun here =>
  .ok here.1 here

/-- What the current state says. -/
def ask (question : σ → α) : Run σ α := fun here =>
  .ok (question here.1) here

/-- What the current state says, if it does not refuse to. -/
def demand (question : σ → Except Fault α) : Run σ α := fun here =>
  match question here.1 with
  | .ok answer => .ok answer here
  | .error fault => .error fault here

/-- Changes the state. -/
def modify (change : σ → σ) : Run σ Unit := fun here =>
  .ok () (change here.1, here.2)

/-- Changes the state, or leaves it as it is and stops. -/
def attempt (change : σ → Except Fault σ) : Run σ Unit := fun here =>
  match change here.1 with
  | .ok next => .ok () (next, here.2)
  | .error fault => .error fault here

/-- Draws identifiers without touching the state. -/
def draw (computation : Draw α) : Run σ α := fun here =>
  match computation here.2 with
  | .ok result supply => .ok result (here.1, supply)
  | .error fault supply => .error fault (here.1, supply)

/-- Runs a computation on a part of the state. -/
def within (part : σ → τ) (replace : σ → τ → σ) (computation : Run τ α) : Run σ α := fun here =>
  match computation (part here.1, here.2) with
  | .ok result (inner, supply) => .ok result (replace here.1 inner, supply)
  | .error fault (inner, supply) => .error fault (replace here.1 inner, supply)

/-- Runs a computation from a state, which is forgotten when the computation stops with a fault. -/
def startingAt (start : σ) (computation : Run σ α) : Draw (α × σ) := fun supply =>
  match computation (start, supply) with
  | .ok result (finish, supply) => .ok (result, finish) supply
  | .error fault (_, supply) => .error fault supply

/-- What a run ends in, whether or not it stops with a fault. -/
def finish (computation : Run σ α) (here : σ × Supply) : σ × Supply :=
  match computation here with
  | .ok _ there => there
  | .error _ there => there

/-- What a history of operations ends in.  An operation that stops with a fault does not keep the
later ones from being performed. -/
def history {ω : Type} (perform : ω → Run σ α) (operations : List ω) (here : σ × Supply) :
    σ × Supply :=
  operations.foldl (fun here operation => (perform operation).finish here) here

@[simp] theorem history_nil {ω : Type} (perform : ω → Run σ α) (here : σ × Supply) :
    history perform [] here = here := rfl

@[simp] theorem history_cons {ω : Type} (perform : ω → Run σ α) (operation : ω)
    (rest : List ω) (here : σ × Supply) :
    history perform (operation :: rest) here =
      history perform rest ((perform operation).finish here) := rfl

theorem history_append {ω : Type} (perform : ω → Run σ α) (first second : List ω)
    (here : σ × Supply) :
    history perform (first ++ second) here =
      history perform second (history perform first here) := by
  simp [history]

end Run

end ShapeDomain
