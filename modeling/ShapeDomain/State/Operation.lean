import ShapeDomain.State.Memory

/-!
# Operations on states

Everything that a program does to a state, as data, so that the states of an analysis are those at
the ends of histories of operations.
-/

namespace ShapeDomain

namespace State

/-- What a program does to a state. -/
inductive Operation where
  /-- Enters a function. -/
  | enter (function : String)
  /-- Leaves the innermost function, if there is one. -/
  | leave
  /-- Declares a global variable. -/
  | declareGlobal (name : String) (size : Nat)
  /-- Declares a variable of the innermost function. -/
  | declareLocal (name : String) (size : Nat)
  /-- Allocates a heap region. -/
  | allocate (size : Nat) (label : String)
  /-- Frees the heap object at an address. -/
  | free (address : ValueId)
  /-- Takes the address of a place in an object. -/
  | takeAddress (object : ObjectId) (offset : Nat)
  /-- Reads a range of an object. -/
  | read (object : ObjectId) (range : BitRange)
  /-- Writes a value to a range of an object. -/
  | write (object : ObjectId) (range : BitRange) (value : ValueId)
  /-- Says which number a value is. -/
  | assign (value : ValueId) (number : Int)
  /-- Removes the garbage. -/
  | collect

/-- What an operation answers. -/
inductive Answer where
  /-- Nothing. -/
  | done
  /-- The object that was declared. -/
  | object (id : ObjectId)
  /-- The value that was made or found. -/
  | value (id : ValueId)
  /-- The function that was left, if there was one. -/
  | left (frame : Option Frame)

namespace Operation

/-- Performs an operation. -/
def perform : Operation → Run State Answer
  | enter function => do
      Run.modify fun state => state.enter function
      return .done
  | leave => do
      match ← Run.ask State.leave with
      | some (frame, state) =>
          Run.modify fun _ => state
          return .left (some frame)
      | none => return .left none
  | declareGlobal name size => return .object (← State.declareGlobal name size)
  | declareLocal name size => return .object (← State.declareLocal name size)
  | allocate size label => return .value (← State.allocate size label)
  | free address => do
      State.free address
      return .done
  | takeAddress object offset => return .value (← State.takeAddress object offset)
  | read object range => return .value (← State.read object range)
  | write object range value => do
      State.write object range value
      return .done
  | assign value number => do
      Run.modify fun state => state.assign value number
      return .done
  | collect => do
      Run.modify State.collect
      return .done

end Operation

end State

end ShapeDomain
