import ShapeDomain.State.Memory

/-!
# Programs that build lists

A program with one variable, `head`, which builds a singly linked list: each node holds a value of
its own and the address of the node that was there before it.
-/

namespace ShapeDomain

namespace State

/-- Where the variable holds the address of the first node. -/
def headRange : BitRange := ⟨0, 64⟩

/-- Where a node holds its data. -/
def dataRange : BitRange := ⟨0, 64⟩

/-- Where a node holds the address of its successor. -/
def nextRange : BitRange := ⟨64, 64⟩

/-- Allocates a node and puts it in front of the list that a variable holds.  The data of the node
is a number, or nothing is known of it. -/
def pushNode (head : ObjectId) (data : Option Int64) : Run State Unit := do
  let node ← allocate 128 "node"
  match ← Run.ask fun state => placeOf state node with
  | none => throw (.unsupported "malloc returned a non-pointer")
  | some (object, _) => do
      let value ← Run.draw Draw.valueId
      if let some number := data then
        Run.modify fun state => state.assign value number.toInt
      write object dataRange value
      let next ← read head headRange
      write object nextRange next
      write head headRange node

/-- Puts several nodes in front of the list that a variable holds. -/
def pushNodes (head : ObjectId) (data : Option Int64) : (length : Nat) → Run State Unit
  | 0 => return ()
  | length + 1 => do
      pushNode head data
      pushNodes head data length

/-- Builds a list of a given length, whose nodes all have the same data. -/
def buildList (length : Nat) (data : Option Int64) : Run State Unit := do
  Run.modify fun state => state.enter "main"
  let head ← declareLocal "head" 64
  write head headRange .zero
  pushNodes head data length

/-- The state of a program that has built a list. -/
def listOf (machine : Machine) (length : Nat) (data : Option Int64) : Draw State := do
  let ((), state) ← Run.startingAt (.initial machine) (buildList length data)
  return state

end State

end ShapeDomain
