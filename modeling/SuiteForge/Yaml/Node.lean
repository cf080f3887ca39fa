/-
# Nodes

A document as a graph: every scalar, list and mapping of the text is one node, and
an alias is the node of its anchor, so that a node may stand in several places and
even inside itself.

| tag | given by |
| --- | --- |
| of a collection without a tag | its kind |
| of a plain scalar without a tag | its content (`Tag.ofContent`) |
| of a quoted scalar without a tag | text |
-/

import SuiteForge.Yaml.Event
import SuiteForge.Yaml.Tag

namespace SuiteForge.Yaml

/-- What a node holds; parts are given by their numbers. -/
inductive Content where
  | scalar (content : Text)
  | sequence (items : List Nat)
  | mapping (entries : List (Nat × Nat))
  deriving Inhabited

structure Node where
  tag : Tag
  content : Content
  deriving Inhabited

/-- A collection whose end has not come yet, its parts in reverse. -/
inductive Frame where
  | sequence (id : Nat) (items : List Nat)
  | mapping (id : Nat) (entries : List (Nat × Nat)) (key : Option Nat)

/-- The nodes read so far. -/
structure Composition where
  nodes : Array Node
  anchors : List (List Char × Nat)
  frames : List Frame
  /-- The document's own node. -/
  root : Option Nat
  ended : Bool

namespace Composition

/-- Collections may be nested this deep. -/
def maxNesting : Nat := 480

def start : Composition := ⟨#[], [], [], none, false⟩

/-- A node put where the next one belongs. -/
def place (id : Nat) (c : Composition) : Composition :=
  match c.frames with
  | [] => { c with root := some id }
  | .sequence s items :: outer => { c with frames := .sequence s (id :: items) :: outer }
  | .mapping m entries none :: outer => { c with frames := .mapping m entries (some id) :: outer }
  | .mapping m entries (some k) :: outer =>
    { c with frames := .mapping m ((k, id) :: entries) none :: outer }

/-- A new node, known by its anchor. -/
def add (anchor : Option (List Char)) (n : Node) (c : Composition) :
    Except Fault (Nat × Composition) :=
  let id := c.nodes.size
  if maxNesting < c.frames.length then .error .tooDeep
  else match anchor with
    | none => .ok (id, { c with nodes := c.nodes.push n })
    | some a =>
      if (c.anchors.lookup a).isSome then .error (.malformed "found duplicate anchor")
      else .ok (id, { c with nodes := c.nodes.push n, anchors := (a, id) :: c.anchors })

/-- A node's content set. -/
def fill (id : Nat) (content : Content) (c : Composition) : Composition :=
  { c with nodes := c.nodes.modify id fun n => { n with content := content } }

/-- One event taken in. -/
def step (c : Composition) : Event → Except Fault Composition
  | .documentStart =>
    if c.ended then .error (.malformed "expected a single document in the stream") else .ok c
  | .documentEnd => .ok { c with ended := true }
  | .streamEnd => .ok c
  | .alias name => match c.anchors.lookup name with
    | some id => .ok (c.place id)
    | none => .error (.malformed "found undefined alias")
  | .scalar anchor tag typed content => do
    let tag := match tag with
      | some t => if t == "!" then Tag.ofContent typed content else Tag.ofName t
      | none => Tag.ofContent typed content
    let (id, c) ← c.add anchor ⟨tag, .scalar content⟩
    .ok (c.place id)
  | .sequenceStart anchor tag => do
    let (id, c) ← c.add anchor ⟨Tag.ofCollection .seq tag, .sequence []⟩
    let c := c.place id
    .ok { c with frames := .sequence id [] :: c.frames }
  | .mappingStart anchor tag => do
    let (id, c) ← c.add anchor ⟨Tag.ofCollection .map tag, .mapping []⟩
    let c := c.place id
    .ok { c with frames := .mapping id [] none :: c.frames }
  | .sequenceEnd | .mappingEnd => match c.frames with
    | [] => .ok c
    | .sequence id items :: outer =>
      .ok ({ c with frames := outer }.fill id (.sequence items.reverse))
    | .mapping id entries _ :: outer =>
      .ok ({ c with frames := outer }.fill id (.mapping entries.reverse))

end Composition

/-- The nodes of a document and the number of its own node, `none` of an empty text. -/
structure Nodes where
  nodes : Array Node
  root : Option Nat

/-- The nodes of a text's events. -/
def Nodes.ofEvents (e : Events) : Except Fault Nodes := do
  let c ← e.events.foldlM Composition.step Composition.start
  match e.fault with
  | some f => .error f
  | none => .ok ⟨c.nodes, c.root⟩

end SuiteForge.Yaml
