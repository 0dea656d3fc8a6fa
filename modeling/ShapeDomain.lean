import ShapeDomain.Exploration.Operation
import ShapeDomain.Graph.Lemmas
import ShapeDomain.Graph.Operation
import ShapeDomain.Graph.ReachableLemmas
import ShapeDomain.Interval
import ShapeDomain.Proofs.Calls.Counting
import ShapeDomain.Proofs.Coverage.Layouts
import ShapeDomain.Proofs.Coverage.UpperBound
import ShapeDomain.Proofs.Exploration.Linked
import ShapeDomain.Proofs.Exploration.Refusals
import ShapeDomain.Proofs.Exploration.Subsumption
import ShapeDomain.Proofs.Exploration.Targets
import ShapeDomain.Proofs.Fold.Exact
import ShapeDomain.Proofs.Graph.Insertion
import ShapeDomain.Proofs.Join.AlignedLayouts
import ShapeDomain.Proofs.Join.KindOrder
import ShapeDomain.Proofs.Join.Levels
import ShapeDomain.Proofs.Join.Unreachable
import ShapeDomain.Proofs.Lists.Coverage
import ShapeDomain.Proofs.Lists.Segment
import ShapeDomain.Proofs.Names.States
import ShapeDomain.Proofs.Progress.Pointers
import ShapeDomain.Proofs.Progress.Shapes
import ShapeDomain.Proofs.Reflexive.SameContents
import ShapeDomain.Proofs.Reflexive.States
import ShapeDomain.Proofs.Report.Hidden
import ShapeDomain.Proofs.State.Refusals
import ShapeDomain.Proofs.State.ZeroMemory
import ShapeDomain.Proofs.Store.WellKept
import ShapeDomain.Proofs.Symmetry.Graphs
import ShapeDomain.Proofs.TwosComplement
import ShapeDomain.Proofs.Unequal.Graphs
import ShapeDomain.Proofs.Verified.Graphs
import ShapeDomain.Report.Listing
import ShapeDomain.State.Operation
