import ShapeDomain.Graph.Consistency
import ShapeDomain.Join.Variable

/-!
# Joining graphs

The join of two graphs is a graph that stands for the memory of both, as far as variables reach it,
and says how the two relate.  The graphs are not changed.
-/

namespace ShapeDomain

namespace Join

/-- The counterpart of a value; zero is its own one. -/
def counterpart? (map : Correspondence) (value : ValueId) : Option ValueId :=
  if value.isZero then some .zero else map.value? value

/-- The inequalities of a graph between the counterparts of its values. -/
def mappedInequalities (graph : Graph) (map : Correspondence) : KeySet (ValueId × ValueId) :=
  KeySet.ofList <| graph.inequalities.keys.filterMap fun pair => do
    let a ← counterpart? map pair.1
    let b ← counterpart? map pair.2
    if a = b then none else some (Graph.ordered a b)

/-- Keeps the inequalities on which both graphs agree; the graph that knows of others is the more
specific one. -/
def keepInequalities : Run Progress Unit := do
  let progress ← Run.state
  let left := mappedInequalities progress.left progress.leftMap
  let right := mappedInequalities progress.right progress.rightMap
  modifyDest fun dest =>
    (left.inter right).keys.foldl (fun graph pair => graph.addInequality pair.1 pair.2) dest
  unless (left.diff right).keys.isEmpty do
    lower .leftEntail
  unless (right.diff left).keys.isEmpty do
    lower .rightEntail

/-- Joins pairs of objects one after the other, until one has no join.  Says whether all have. -/
def joinPairs (setting : Setting) (depth : Nat) : List ObjectPair → Run Progress Bool
  | [] => return true
  | pair :: rest => do
      if ← joinObjects setting depth pair 0 then
        joinPairs setting depth rest
      else
        let status ← Run.ask Progress.status
        if status = .incomparable then
          return false
        else
          throw (.undefinedJoin status.text)

/-- Joins the graphs of a join that has just started.  Says whether they have a join. -/
def joinAll (setting : Setting) : Run Progress Bool := do
  let depth ← Run.ask fun progress => progress.left.objects.size + 1
  match ← matchVariables with
  | none => return false
  | some pairs =>
      if ← joinPairs setting depth pairs then
        keepInequalities
        if setting.options.verify then
          Run.demand fun progress => progress.dest.check
        return true
      else
        return false

/-- The end of the join of two graphs, if they have a join. -/
def finish (options : Options) (left right : Graph) : Draw (Option Progress) := do
  let setting : Setting := ⟨options, left == right⟩
  let (joined, progress) ← Run.startingAt (.start left right) (joinAll setting)
  return if joined then some progress else none

/-- The outcome of joining two graphs. -/
inductive Outcome where
  /-- No graph stands for both. -/
  | undefined
  /-- A graph that stands for both, and how they relate. -/
  | defined (dest : Graph) (status : Status)
  deriving DecidableEq

namespace Outcome

/-- How the joined graphs relate; graphs without a join are incomparable. -/
def status : Outcome → Status
  | undefined => .incomparable
  | defined _ status => status

/-- The joint graph. -/
def dest? : Outcome → Option Graph
  | undefined => none
  | defined dest _ => some dest

/-- Whether there is a joint graph. -/
def isDefined : Outcome → Bool
  | undefined => false
  | defined .. => true

end Outcome

end Join

/-- Joins two graphs. -/
def Graph.join (options : Options) (left right : Graph) : Draw Join.Outcome := do
  match ← Join.finish options left right with
  | some progress => return .defined progress.dest progress.status
  | none => return .undefined

end ShapeDomain
