import ShapeDomain.Graph.Consistency
import ShapeDomain.Graph.Reachable
import ShapeDomain.Run

/-!
# States

A state of the shape domain is a memory graph together with the memory errors that were found on the
way to it.  A finding is a result of the analysis and not a fault.
-/

namespace ShapeDomain

/-- Which memory errors were found. -/
structure Findings where
  /-- Memory was read that may not be read. -/
  invalidRead : Bool := false
  /-- Memory was written that may not be written. -/
  invalidWrite : Bool := false
  /-- Something was freed that cannot be freed. -/
  invalidFree : Bool := false
  /-- Memory was lost before it was freed. -/
  memoryLeak : Bool := false
  deriving DecidableEq, Repr, Inhabited

namespace Findings

/-- Whether there are any. -/
def any (findings : Findings) : Bool :=
  findings.invalidRead || findings.invalidWrite || findings.invalidFree || findings.memoryLeak

/-- The way findings are written in messages. -/
def text (findings : Findings) : String :=
  let found := [(findings.invalidRead, "invalid-read"), (findings.invalidWrite, "invalid-write"),
    (findings.invalidFree, "invalid-free"), (findings.memoryLeak, "memory-leak")]
  match (found.filter Prod.fst).map Prod.snd with
  | [] => "none"
  | names => String.intercalate ", " names

end Findings

/-- A memory graph and the findings on the way to it. -/
structure State where
  /-- The memory. -/
  graph : Graph
  /-- The findings. -/
  findings : Findings
  deriving DecidableEq

namespace State

/-- A graph without findings. -/
def ofGraph (graph : Graph) : State := ⟨graph, {}⟩

/-- The memory of a program that has no variables. -/
def initial (machine : Machine) : State :=
  ofGraph (.initial machine)

/-- A target is a state in which a memory error was found. -/
def isTarget (state : State) : Bool :=
  state.findings.any

/-- The way a state is written in messages. -/
def text (state : State) : String :=
  "SmgState(" ++ toString state.graph.objects.size ++ " objects, " ++
    toString state.graph.values.size ++ " values, errors: " ++ state.findings.text ++ ")"

/-- Runs a computation on the memory. -/
def onGraph {α : Type} (computation : Run Graph α) : Run State α :=
  Run.within State.graph (fun state graph => { state with graph := graph }) computation

/-- Changes the memory. -/
def modifyGraph (change : Graph → Graph) : Run State Unit :=
  onGraph (Run.modify change)

/-- Changes the memory, or leaves it as it is and stops. -/
def attemptGraph (change : Graph → Except Fault Graph) : Run State Unit :=
  onGraph (Run.attempt change)

/-- Records findings. -/
def report (change : Findings → Findings) : Run State Unit :=
  Run.modify fun state => { state with findings := change state.findings }

/-- Enters a function. -/
def enter (state : State) (function : String) : State :=
  { state with graph := state.graph.enter function }

/-! ### Garbage

Heap objects that are not reachable are garbage.  To remove one that was not freed is a memory leak.
-/

/-- Removes the garbage, and finds a leak if some of it was valid. -/
def collect (state : State) : State :=
  let garbage := state.graph.garbage
  let leak := garbage.any state.graph.isValid
  { graph := state.graph.removeObjects garbage
    findings := { state.findings with memoryLeak := state.findings.memoryLeak || leak } }

/-- Leaves the innermost function and removes what has become garbage. -/
def leave (state : State) : Option (Frame × State) :=
  state.graph.leave.map fun left => (left.1, { state with graph := left.2 }.collect)

end State

end ShapeDomain
