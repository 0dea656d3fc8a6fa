import ShapeDomain.Machine

/-!
# Options

The choices that the shape domain and its coverage operators leave open.
-/

namespace ShapeDomain

/-- How states are found to be covered. -/
inductive StopRule where
  /-- A state is covered when some single reached state subsumes it. -/
  | separate
  /-- No state is ever covered. -/
  | never
  deriving DecidableEq, Repr, Inhabited

/-- How a new state and a reached state are combined. -/
inductive MergeRule where
  /-- They never are. -/
  | separate
  /-- They are joined. -/
  | joining
  deriving DecidableEq, Repr, Inhabited

/-- The options of the shape domain. -/
structure Options where
  /-- Check the results of aligning layouts and of joining. -/
  verify : Bool := false
  /-- Fold list nodes into list segments while joining. -/
  foldLists : Bool := true
  /-- How states are covered. -/
  stop : StopRule := .separate
  /-- How states are merged. -/
  merge : MergeRule := .separate
  /-- Keep covered states among the reached ones. -/
  keepCovered : Bool := false
  /-- Let target states be covered. -/
  coverTargets : Bool := false
  /-- Mark a state covered by the one it was merged into, instead of removing it. -/
  markMerged : Bool := false
  /-- The machine whose programs are analysed. -/
  machine : Machine := .linux64
  deriving DecidableEq, Repr, Inhabited

end ShapeDomain
