/-
# Documents

A document is a rooted graph: nodes with numbers, of which lists and mappings
refer to others. A node may stand in several places (an alias) and even inside
itself. `value` unfolds a node into a tree, where a collection that stands inside
itself is replaced by how many levels up it is.
-/

import SuiteForge.Value

namespace SuiteForge

namespace Document

/-- A node of a document. -/
inductive Node where
  | scalar (s : Scalar)
  | list (items : List Nat)
  | map (entries : Entries Nat)
  | tuple (items : List Nat)
  | set (members : List Scalar)
  deriving Inhabited, DecidableEq

end Document

/-- A graph of nodes with a root. -/
structure Document where
  nodes : Array Document.Node
  root : Nat
  deriving DecidableEq

namespace Document

/-- The node with a number; numbers without a node stand for null. -/
def node (d : Document) (id : Nat) : Node := d.nodes[id]?.getD (.scalar .null)

/-- The node as a tree, below the collections of `path` (the innermost first). The path holds no
collection twice, so the number of nodes bounds the depth. -/
def unfold (d : Document) : Nat → List (Nat × Shape) → Nat → Value
  | 0, _, _ => .scalar .null
  | fuel + 1, path, id =>
    match path.findIdx? (·.1 == id) with
    | some i => .enclosing (i + 1) ((path.map (·.2)).getD i .list)
    | none =>
      match d.node id with
      | .scalar s => .scalar s
      | .list items => .list (items.map (d.unfold fuel ((id, .list) :: path)))
      | .map entries => .map (entries.map fun e => (e.1, d.unfold fuel ((id, .map) :: path) e.2))
      | .tuple items => .tuple (items.map (d.unfold fuel ((id, .tuple) :: path)))
      | .set members => .set members

/-- The tree below a node. -/
def value (d : Document) (id : Nat) : Value := d.unfold (d.nodes.size + 1) [] id

/-- The tree of the whole document. -/
def rootValue (d : Document) : Value := d.value d.root

mutual

/-- The nodes of a tree added after those that are there; the tree's own node comes last. -/
def addValue (nodes : Array Node) : Value → Array Node
  | .scalar s => nodes.push (.scalar s)
  | .list items =>
    let (nodes, ids) := addItems nodes items
    nodes.push (.list ids)
  | .map entries =>
    let (nodes, entries) := addEntries nodes entries
    nodes.push (.map entries)
  | .tuple items =>
    let (nodes, ids) := addItems nodes items
    nodes.push (.tuple ids)
  | .set members => nodes.push (.set members)
  | .enclosing _ _ => nodes.push (.scalar .null)

/-- The nodes of several trees added, and the numbers of the trees' own nodes. -/
def addItems (nodes : Array Node) : List Value → Array Node × List Nat
  | [] => (nodes, [])
  | v :: rest =>
    let nodes := addValue nodes v
    let id := nodes.size - 1
    let (nodes, ids) := addItems nodes rest
    (nodes, id :: ids)

/-- The nodes of a mapping's values added, and its entries by their numbers. -/
def addEntries (nodes : Array Node) : List (Scalar × Value) → Array Node × Entries Nat
  | [] => (nodes, [])
  | (k, v) :: rest =>
    let nodes := addValue nodes v
    let id := nodes.size - 1
    let (nodes, ids) := addEntries nodes rest
    (nodes, (k, id) :: ids)

end

/-- The document of a tree: nothing in it is shared. -/
def ofValue (v : Value) : Document :=
  let nodes := addValue #[] v
  ⟨nodes, nodes.size - 1⟩

end Document

end SuiteForge
