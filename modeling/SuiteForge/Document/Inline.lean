/-
# Inlining references

A mapping whose entry `$ref` is a text is replaced by what the reference points to;
its other entries are laid over the target if that is a mapping, and dropped
otherwise. What has been inlined once, a node or a reference, is not inlined
again: the memo keeps the tree with its size.

| limit | fault |
| --- | --- |
| a node inside itself | `aliasCycle` |
| a reference inside its own target | `circularReference` |
| more than 200 levels of containers and references | `nestedTooDeep` |
| more than 500 000 mappings and lists in one tree | `tooManyNodes` |
-/

import SuiteForge.Document.Pointer
import SuiteForge.Log

namespace SuiteForge

/-- A tree without references and its size: mappings and lists, each as often as it stands there. -/
structure Inlined where
  value : Value
  size : Nat

/-- What has been inlined so far. -/
structure Memo where
  byNode : List (Nat × Inlined)
  byRef : List (Text × Inlined)

namespace Memo

def empty : Memo := ⟨[], []⟩

/-- The memo with a node's tree. -/
def addNode (m : Memo) (id : Nat) (r : Inlined) : Memo := { m with byNode := (id, r) :: m.byNode }

/-- The memo with the tree of a reference's target. -/
def addRef (m : Memo) (ref : Text) (r : Inlined) : Memo := { m with byRef := (ref, r) :: m.byRef }

end Memo

namespace Document

/-- A list or a mapping. Tuples and sets are left as they are. -/
def Node.isContainer : Node → Bool
  | .list _ => true
  | .map _ => true
  | _ => false

/-- The reference that a mapping stands for. -/
def reference? (d : Document) (entries : Entries Nat) : Option Text :=
  match (Entries.find? (.text "$ref") entries).map d.node with
  | some (.scalar (.text ref)) => some ref
  | _ => none

/-- The entries of a mapping beside its reference. -/
def siblings (entries : Entries Nat) : Entries Nat := entries.filter fun e => e.1 != .text "$ref"

/-- A step of inlining: the tree of a node, and what is remembered after it. -/
abbrev InlineStep := Nat → Memo → Logged Fault (Inlined × Memo)

/-- The trees of a list's items. -/
def inlineItems (step : InlineStep) : List Nat → Memo → Logged Fault (List Inlined × Memo)
  | [], memo => pure ([], memo)
  | id :: rest, memo => do
    let (here, memo) ← step id memo
    let (after, memo) ← inlineItems step rest memo
    pure (here :: after, memo)

/-- The trees of a mapping's values, with their keys. -/
def inlineEntries (step : InlineStep) :
    Entries Nat → Memo → Logged Fault (Entries Inlined × Memo)
  | [], memo => pure ([], memo)
  | (key, id) :: rest, memo => do
    let (here, memo) ← step id memo
    let (after, memo) ← inlineEntries step rest memo
    pure ((key, here) :: after, memo)

/-- The sizes of all trees together. -/
def totalSize (trees : List Inlined) : Nat := trees.foldr (fun t total => t.size + total) 0

/-- A reference's target with the entries beside the reference laid over it. -/
def overlay (ref : Text) (target : Inlined) (beside : Entries Inlined) : Logged Fault Inlined :=
  if beside.isEmpty then pure target
  else match target.value with
    | .map entries =>
      pure ⟨.map (Entries.overlay entries (beside.map fun e => (e.1, e.2.value))),
        target.size + totalSize (beside.map (·.2))⟩
    | _ => do
      Logged.record .debug .references ("Ignoring siblings of non-object reference " ++ ref)
      pure target

/-- The tree of a container from the trees of its parts, which `inside` gives below a chain of
references and the active nodes. -/
def expand (d : Document) (inside : List Text → List Nat → InlineStep) (chain : List Text)
    (active : List Nat) (id : Nat) (memo : Memo) : Logged Fault (Inlined × Memo) :=
  match d.node id with
  | .list items => do
    let (trees, memo) ← inlineItems (inside chain active) items memo
    pure (⟨.list (trees.map (·.value)), 1 + totalSize trees⟩, memo)
  | .map entries =>
    match d.reference? entries with
    | none => do
      let (trees, memo) ← inlineEntries (inside chain active) entries memo
      pure (⟨.map (trees.map fun e => (e.1, e.2.value)), 1 + totalSize (trees.map (·.2))⟩, memo)
    | some ref =>
      if chain.contains ref then
        .fail (.parse (.circularReference (chain.dropWhile (· != ref) ++ [ref])))
      else do
        let (target, memo) ← match memo.byRef.lookup ref with
          | some r => pure (r, memo)
          | none => do
            let id ← Logged.ofExcept (d.find ref)
            let (r, memo) ← inside (chain ++ [ref]) [] id memo
            pure (r, memo.addRef ref r)
        let (beside, memo) ← inlineEntries (inside chain active) (siblings entries) memo
        let r ← overlay ref target beside
        pure (r, memo)
  | _ => pure (⟨d.value id, 0⟩, memo)

/-- The tree of a node. `levels` is how much deeper the walk may go, `chain` holds the references
being inlined, the outermost first, and `active` the nodes around this one since the last of
them. -/
def inlineNode (d : Document) (levels : Nat) (chain : List Text) (active : List Nat) : InlineStep :=
  fun id memo =>
    if !(d.node id).isContainer then pure (⟨d.value id, 0⟩, memo)
    else match memo.byNode.lookup id with
      | some r => pure (r, memo)
      | none =>
        if active.contains id then .fail (.parse .aliasCycle)
        else match levels with
          | 0 => .fail (.parse .nestedTooDeep)
          | n + 1 => do
            let (r, memo) ← d.expand (inlineNode d n) chain (id :: active) id memo
            if maxExpandedNodes < r.size then .fail (.parse .tooManyNodes)
            else pure (r, memo.addNode id r)

/-- The document as a tree without references. -/
def inline (d : Document) : Logged Fault Value := do
  let (r, _) ← d.inlineNode (maxDocumentDepth + 1) [] [] d.root Memo.empty
  pure r.value

end Document

end SuiteForge
