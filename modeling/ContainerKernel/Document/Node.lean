import ContainerKernel.Document.Scalar.Meaning
import ContainerKernel.Document.Token

/-!
# The nodes of a document

A document is a tree of scalars, sequences and mappings. An alias stands for the node that an
anchor names; since that node may contain the alias, an alias holds the number of the anchored
node and not the node.
-/

namespace ContainerKernel.Document

/-- Comments of a node. -/
structure Remarks where
  /-- On lines before it. -/
  head : List Char := []
  /-- Behind it on its line. -/
  behind : List Char := []
  /-- On lines after it. -/
  foot : List Char := []
deriving DecidableEq, Repr, Inhabited

/-- What every node has. -/
structure NodeInfo where
  /-- The line on which it starts, counted from one. -/
  line : Nat
  tag : Tag
  /-- Whether the tag is written. -/
  tagged : Bool := false
  /-- The name that aliases use for it. -/
  anchor : Option (List Char) := none
  remarks : Remarks := {}
deriving DecidableEq, Repr, Inhabited

/-- A node of a document. -/
inductive Node where
  | scalar (info : NodeInfo) (style : ScalarStyle) (value : List Char)
  | sequence (info : NodeInfo) (bracketed : Bool) (items : List Node)
  | mapping (info : NodeInfo) (bracketed : Bool) (entries : List (Node × Node))
  /-- An alias at an index of the text, and the number of the anchored node. -/
  | reference (info : NodeInfo) (name : List Char) (index : Nat) (target : Nat)
deriving Repr, Inhabited

namespace Node

/-- What every node has. -/
def info : Node → NodeInfo
  | scalar info _ _ => info
  | sequence info _ _ => info
  | mapping info _ _ => info
  | reference info _ _ _ => info

/-- Change what every node has. -/
def mapInfo (change : NodeInfo → NodeInfo) : Node → Node
  | scalar info style value => scalar (change info) style value
  | sequence info bracketed items => sequence (change info) bracketed items
  | mapping info bracketed entries => mapping (change info) bracketed entries
  | reference info name index target => reference (change info) name index target

/-- The comment on the lines after a node. -/
def foot (node : Node) : List Char :=
  node.info.remarks.foot

/-- Replace the comment on the lines after a node. -/
def withFoot (node : Node) (foot : List Char) : Node :=
  node.mapInfo fun info => { info with remarks := { info.remarks with foot } }

end Node

/-- A document: its root, and the nodes that anchors name, with their numbers. -/
structure Tree where
  root : Node
  anchored : List (Nat × Node) := []
  /-- A bound on the number of nodes. -/
  size : Nat := 0
deriving Repr, Inhabited

namespace Tree

/-- The node that a node stands for: itself, or what an alias names. -/
def resolve (tree : Tree) (node : Node) : Node :=
  match node with
  | .reference _ _ _ target => (tree.anchored.lookup target).getD node
  | _ => node

end Tree

end ContainerKernel.Document
