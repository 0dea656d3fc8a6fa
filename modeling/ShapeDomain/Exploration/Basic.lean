import ShapeDomain.Fault
import ShapeDomain.Table

/-!
# Explorations

An exploration records the states that an analysis found: which one was derived from which, which
ones are covered by others, and into which ones they were merged.  Its nodes are numbered in the
order in which they were made; a removed node keeps its number and loses its links.
-/

namespace ShapeDomain

/-- The number of a node; older nodes have smaller numbers. -/
abbrev NodeId := Nat

/-- The way a node is written in messages. -/
def NodeId.text (id : NodeId) : String :=
  "@" ++ toString id

/-- A state that was found, and how it is linked to others. -/
structure Node (S : Type) where
  /-- The state. -/
  state : S
  /-- The nodes it was derived from, in the order in which that was found. -/
  parents : List NodeId := []
  /-- The nodes derived from it, in the order in which that was found. -/
  children : List NodeId := []
  /-- The node that covers it. -/
  coveredBy : Option NodeId := none
  /-- The nodes that it covers. -/
  covers : KeySet NodeId := ∅
  /-- The node that it was merged into. -/
  mergedInto : Option NodeId := none
  /-- Whether it is allowed to cover others. -/
  eligible : Bool := true
  /-- Whether it was removed. -/
  removed : Bool := false

namespace Node

variable {S : Type}

/-- Whether some node covers this one. -/
def isCovered (node : Node S) : Bool :=
  node.coveredBy.isSome

/-- Whether this node may cover others: it is allowed to, is not covered and was not removed. -/
def canCover (node : Node S) : Bool :=
  node.eligible && !node.isCovered && !node.removed

/-- The nodes that a node covers, from the oldest one on. -/
def covered (node : Node S) : List NodeId :=
  node.covers.keys

/-- The node that covers a node, if there is one. -/
def covering (node : Node S) : List NodeId :=
  node.coveredBy.toList

end Node

/-- The states that an analysis found. -/
structure Exploration (S : Type) where
  /-- The nodes, by number. -/
  nodes : List (Node S)

namespace Exploration

variable {S : Type}

/-- Nothing was found. -/
def empty : Exploration S := ⟨[]⟩

/-- The number of nodes, removed ones included. -/
def size (exploration : Exploration S) : Nat :=
  exploration.nodes.length

/-- The node of a number. -/
def node? (exploration : Exploration S) (id : NodeId) : Option (Node S) :=
  exploration.nodes[id]?

/-- The numbers of the nodes that were not removed. -/
def live (exploration : Exploration S) : List NodeId :=
  (List.range exploration.size).filter fun id =>
    (exploration.node? id).any fun node => !node.removed

/-- Changes a node. -/
def update (exploration : Exploration S) (id : NodeId) (change : Node S → Node S) :
    Exploration S :=
  ⟨exploration.nodes.modify id change⟩

/-- Adds a state that was derived from no other. -/
def addRoot (exploration : Exploration S) (state : S) : NodeId × Exploration S :=
  (exploration.size, ⟨exploration.nodes ++ [{ state := state }]⟩)

/-- Records that `child` was derived from `parent`. -/
def addParent (exploration : Exploration S) (child parent : NodeId) : Exploration S :=
  if (exploration.node? child).any fun node => node.parents.contains parent then
    exploration
  else
    let linked := exploration.update child fun node =>
      { node with parents := node.parents ++ [parent] }
    linked.update parent fun node => { node with children := node.children ++ [child] }

/-- Adds a state that was derived from `parent`. -/
def addChild (exploration : Exploration S) (parent : NodeId) (state : S) :
    NodeId × Exploration S :=
  let (id, exploration) := exploration.addRoot state
  (id, exploration.addParent id parent)

/-- Records that a node was merged into another one. -/
def setMergedInto (exploration : Exploration S) (id mergedInto : NodeId) : Exploration S :=
  exploration.update id fun node => { node with mergedInto := some mergedInto }

/-- Says whether a node is allowed to cover others. -/
def setEligible (exploration : Exploration S) (id : NodeId) (eligible : Bool) : Exploration S :=
  exploration.update id fun node => { node with eligible := eligible }

/-- Whether some node covers the node of a number. -/
def isCovered (exploration : Exploration S) (id : NodeId) : Bool :=
  (exploration.node? id).any Node.isCovered

/-- Records that a node is covered by another one.  Neither may be covered already. -/
def setCovered (exploration : Exploration S) (id covering : NodeId) :
    Except Fault (Exploration S) :=
  if exploration.isCovered id || exploration.isCovered covering then
    .error (.invalidCoverage
      ("cannot cover " ++ id.text ++ " by " ++ covering.text ++ ": already covered"))
  else
    let marked := exploration.update id fun node => { node with coveredBy := some covering }
    .ok (marked.update covering fun node => { node with covers := node.covers.add id })

/-- The nodes that a node lists as its links of one kind. -/
def linksOf (exploration : Exploration S) (links : Node S → List NodeId) (id : NodeId) :
    List NodeId :=
  (exploration.node? id).elim [] links

/-- Cuts the links of one kind of a node: `clear` takes them from the node, and `drop` takes the
links back from the nodes that were listed. -/
def cut (exploration : Exploration S) (id : NodeId) (links : Node S → List NodeId)
    (clear drop : Node S → Node S) : Exploration S :=
  (exploration.linksOf links id).foldl (fun exploration other => exploration.update other drop)
    (exploration.update id clear)

/-- Cuts the links to the parents of a node. -/
def cutParents (exploration : Exploration S) (id : NodeId) : Exploration S :=
  exploration.cut id Node.parents (fun node => { node with parents := [] })
    fun parent => { parent with children := parent.children.filter (· != id) }

/-- Cuts the links to the children of a node. -/
def cutChildren (exploration : Exploration S) (id : NodeId) : Exploration S :=
  exploration.cut id Node.children (fun node => { node with children := [] })
    fun child => { child with parents := child.parents.filter (· != id) }

/-- Cuts the links to the nodes that a node covers. -/
def cutCovered (exploration : Exploration S) (id : NodeId) : Exploration S :=
  exploration.cut id Node.covered (fun node => { node with covers := ∅ })
    fun covered => { covered with coveredBy := none }

/-- Cuts the link to the node that covers a node. -/
def cutCovering (exploration : Exploration S) (id : NodeId) : Exploration S :=
  exploration.cut id Node.covering (fun node => { node with coveredBy := none })
    fun covering => { covering with covers := covering.covers.erase id }

/-- Removes a node: its links are cut, one kind after the other, so what it covered is covered no
longer. -/
def remove (exploration : Exploration S) (id : NodeId) : Exploration S :=
  let apart := (((exploration.cutParents id).cutChildren id).cutCovered id).cutCovering id
  apart.update id fun node => { node with removed := true }

end Exploration

end ShapeDomain
