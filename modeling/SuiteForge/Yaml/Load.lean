/-
# From nodes to a document

Scalars become values, and collections become nodes of the document that refer to
their parts. A collection is made empty at first and filled later, in the order in
which collections are met, so that it may contain itself.

| collection | becomes |
| --- | --- |
| mapping | a mapping, entries under `<<` merged in front of its own |
| set | the set of a mapping's keys |
| ordered mapping, pairs | a list of tuples |
-/

import SuiteForge.Document
import SuiteForge.Yaml.Typed

namespace SuiteForge.Yaml

/-- A collection to be filled: its node, and its number in the document. -/
structure Job where
  source : Nat
  target : Nat

/-- A document in the making. -/
structure Builder where
  nodes : Array Node
  out : Array Document.Node
  /-- The numbers in the document of the nodes that are made. -/
  made : Array (Option Nat)
  /-- What is to be filled, the newest first. -/
  jobs : List Job

namespace Builder

/-- A builder of the graph's nodes. -/
def start (nodes : Array Node) : Builder := ⟨nodes, #[], Array.replicate nodes.size none, []⟩

/-- The node with a number. -/
def node (b : Builder) (id : Nat) : Node := b.nodes[id]?.getD ⟨.null, .scalar []⟩

/-- A new node of the document. -/
def add (b : Builder) (n : Document.Node) : Nat × Builder :=
  (b.out.size, { b with out := b.out.push n })

/-- A node of the document set. -/
def put (b : Builder) (id : Nat) (n : Document.Node) : Builder :=
  { b with out := b.out.setIfInBounds id n }

/-- A node known as made. -/
def remember (b : Builder) (id target : Nat) : Builder :=
  { b with made := b.made.setIfInBounds id (some target) }

/-- A mapping's entries set. -/
def setEntries (b : Builder) (id : Nat) (entries : List (Nat × Nat)) : Builder :=
  { b with nodes := b.nodes.modify id fun n => { n with content := .mapping entries } }

/-- The entries of a mapping. -/
def entries? (b : Builder) (id : Nat) : Option (List (Nat × Nat)) :=
  match (b.node id).content with
  | .mapping entries => some entries
  | _ => none

/-- Merging takes at most this many steps for one mapping. -/
def maxMergeSteps : Nat := 1000000

/-- The merge keys of a mapping from its `i`-th entry on replaced by the entries that they merge;
`merged` holds those found so far. Of a list of mappings the last one comes first, so that earlier
ones win. The mappings merged are flattened before. -/
def flatten : Nat → Nat → Nat → List (Nat × Nat) → Builder → Except Fault Builder
  | 0, _, _, _, _ => .error .tooDeep
  | fuel + 1, id, i, merged, b =>
    let entries := (b.entries? id).getD []
    match entries[i]? with
    | none => .ok (if merged.isEmpty then b else b.setEntries id (merged ++ entries))
    | some (key, value) =>
      match (b.node key).tag with
      | .merge =>
        let b := b.setEntries id (entries.eraseIdx i)
        match (b.node value).content with
        | .mapping _ => do
          let b ← flatten fuel value 0 [] b
          flatten fuel id i (merged ++ (b.entries? value).getD []) b
        | .sequence items => do
          let b ← flattenAll fuel items b
          let more := (items.reverse.map fun v => (b.entries? v).getD []).flatten
          flatten fuel id i (merged ++ more) b
        | .scalar _ => .error (.malformed "expected a mapping or list of mappings for merging")
      | .default =>
        let b := { b with nodes := b.nodes.modify key fun n => { n with tag := .str } }
        flatten fuel id (i + 1) merged b
      | _ => flatten fuel id (i + 1) merged b
where
  /-- All mappings of a list flattened. -/
  flattenAll : Nat → List Nat → Builder → Except Fault Builder
    | 0, _, _ => .error .tooDeep
    | _, [], b => .ok b
    | fuel + 1, v :: rest, b =>
      match (b.node v).content with
      | .mapping _ => do
        let b ← flatten fuel v 0 [] b
        flattenAll fuel rest b
      | _ => .error (.malformed "expected a mapping for merging")

/-- The text of a scalar; a mapping with a default value has that value's text. -/
def scalarText (b : Builder) : Nat → Nat → Except Fault Text
  | 0, _ => .error .tooDeep
  | fuel + 1, id =>
    match (b.node id).content with
    | .scalar content => .ok content
    | .mapping entries =>
      match entries.find? fun e => (b.node e.1).tag == .default with
      | some e => b.scalarText fuel e.2
      | none => .error (.malformed "expected a scalar node")
    | .sequence _ => .error (.malformed "expected a scalar node")

/-- The value of a node under a type for scalars. -/
def scalarValue? (b : Builder) (id : Nat) : Option (Except Fault Scalar) :=
  let n := b.node id
  (typedScalar? n.tag []).map fun _ => do
    let content ← b.scalarText (b.nodes.size + 1) id
    match n.tag, n.content with
    | .timestamp, .mapping _ => .error (.value .timestampMapping)
    | _, _ => (typedScalar? n.tag content).getD (.ok .null)

/-- The empty collection of a type for collections. -/
def emptyOf? : Tag → Option Document.Node
  | .seq | .omap | .pairs => some (.list [])
  | .map => some (.map [])
  | .set => some (.set [])
  | _ => none

/-- The document's node for a node of the graph; a collection is to be filled. -/
def make (id : Nat) (b : Builder) : Except Fault (Nat × Builder) :=
  match (b.made[id]?).join with
  | some target => .ok (target, b)
  | none => match b.scalarValue? id with
    | some value => do
      let (target, b) := b.add (.scalar (← value))
      .ok (target, b.remember id target)
    | none => match emptyOf? (b.node id).tag with
      | none => .error (.malformed "could not determine a constructor for the tag")
      | some empty =>
        let (target, b) := b.add empty
        let b := b.remember id target
        .ok (target, { b with jobs := ⟨id, target⟩ :: b.jobs })

/-- The document's nodes for the items of a list. -/
def makeItems : List Nat → Builder → Except Fault (List Nat × Builder)
  | [], b => .ok ([], b)
  | id :: rest, b => do
    let (here, b) ← make id b
    let (after, b) ← makeItems rest b
    .ok (here :: after, b)

/-- The entries of a mapping: each key, then its value. A collection is no key. -/
def makeEntries : List (Nat × Nat) → Builder → Except Fault (List (Scalar × Nat) × Builder)
  | [], b => .ok ([], b)
  | (key, value) :: rest, b => do
    let (k, b) ← make key b
    match b.out[k]? with
    | some (.scalar s) => do
      let (v, b) ← make value b
      let (after, b) ← makeEntries rest b
      .ok ((s, v) :: after, b)
    | _ => .error (.malformed "found unhashable key")

/-- The tuples of a list of mappings with one entry each. -/
def makePairs : List Nat → Builder → Except Fault (List Nat × Builder)
  | [], b => .ok ([], b)
  | id :: rest, b =>
    match b.entries? id with
    | some [(key, value)] => do
      let (k, b) ← make key b
      let (v, b) ← make value b
      let (here, b) := b.add (.tuple [k, v])
      let (after, b) ← makePairs rest b
      .ok (here :: after, b)
    | _ => .error (.malformed "expected a mapping of length 1")

/-- The entries of a mapping, merges done. -/
def mergedEntries (id : Nat) (b : Builder) : Except Fault (Entries Nat × Builder) := do
  let b ← flatten maxMergeSteps id 0 [] b
  let (pairs, b) ← makeEntries ((b.entries? id).getD []) b
  .ok (Entries.ofPairs pairs, b)

/-- A collection filled. -/
def fill (b : Builder) (job : Job) : Except Fault Builder :=
  let n := b.node job.source
  match n.tag, n.content with
  | .seq, .sequence items => do
    let (ids, b) ← makeItems items b
    .ok (b.put job.target (.list ids))
  | .map, .mapping _ => do
    let (entries, b) ← mergedEntries job.source b
    .ok (b.put job.target (.map entries))
  | .set, .mapping _ => do
    let (entries, b) ← mergedEntries job.source b
    .ok (b.put job.target (.set (entries.map (·.1))))
  | .omap, .sequence items => do
    let (ids, b) ← makePairs items b
    .ok (b.put job.target (.list ids))
  | .pairs, .sequence items => do
    let (ids, b) ← makePairs items b
    .ok (b.put job.target (.list ids))
  | _, _ => .error (.malformed "expected a node of another kind")

/-- All collections filled, in the order in which they were met. Each node is met once, so their
number bounds the rounds. -/
def drain : Nat → Builder → Except Fault Builder
  | 0, _ => .error .tooDeep
  | fuel + 1, b =>
    if b.jobs.isEmpty then .ok b
    else do
      let b ← b.jobs.reverse.foldlM fill { b with jobs := [] }
      drain fuel b

end Builder

/-- The document of a text, `none` of a text without a node. -/
def load (text : List Char) : Except Fault (Option Document) := do
  let graph ← Nodes.ofEvents (Events.ofTokens (Tokens.ofChars text))
  match graph.root with
  | none => .ok none
  | some root => do
    let (target, b) ← Builder.make root (Builder.start graph.nodes)
    let b ← Builder.drain (graph.nodes.size + 2) b
    .ok (some ⟨b.out, target⟩)

end SuiteForge.Yaml
