/-
# How deep the inlined document is nested

A walk counts how deep it stands, but what the memo knows is taken over at any depth.
So the depth of an inlined document is no matter of the walk: a list or a mapping
stands in it inside `k` others just when the document itself, references followed and
aliases shared, has such a chain of collections (`Document.Deep`), and inlining returns
documents deeper than `maxDocumentDepth`.
-/

import SuiteForge.Proofs.Entries
import SuiteForge.Proofs.Inline.Complete

namespace SuiteForge

/-- In the tree some list or mapping stands inside so many others. What stands inside itself stands
at every depth; a tuple is not counted. -/
inductive Value.Deep : Value → Nat → Prop
  | list {items : List Value} : Deep (.list items) 0
  | map {entries : List (Scalar × Value)} : Deep (.map entries) 0
  | item {items : List Value} {v : Value} {k : Nat} (mem : v ∈ items) (inside : Deep v k) :
      Deep (.list items) (k + 1)
  | entry {entries : List (Scalar × Value)} {e : Scalar × Value} {k : Nat} (mem : e ∈ entries)
      (inside : Deep e.2 k) : Deep (.map entries) (k + 1)
  | member {items : List Value} {v : Value} {k : Nat} (mem : v ∈ items) (inside : Deep v k) :
      Deep (.tuple items) k
  | enclosing {levels : Nat} {shape : Shape} {k : Nat} : Deep (.enclosing levels shape) k

namespace Document

variable {d : Document}

/-! ## What a node comes down to -/

namespace Node

/-- The nodes that a list or a mapping holds. -/
def held : Node → List Nat
  | .list items => items
  | .map entries => entries.map (·.2)
  | _ => []

/-- A mapping with entries laid over it; anything else drops them. -/
def overlaid : Node → Entries Nat → Node
  | .map entries, beside => .map (Entries.overlay entries beside)
  | n, _ => n

/-- A node with trees in place of the nodes it holds; what is no list or mapping has a tree of its
own. -/
def filled (trees : Nat → Value) (kept : Value) : Node → Value
  | .list items => .list (items.map trees)
  | .map entries => .map (entries.map fun e => (e.1, trees e.2))
  | _ => kept

theorem isContainer_overlaid (n : Node) (beside : Entries Nat) :
    (n.overlaid beside).isContainer = n.isContainer := by
  cases n <;> rfl

theorem mem_held_overlaid {n : Node} {beside : Entries Nat} {j : Nat}
    (h : j ∈ (n.overlaid beside).held) : j ∈ n.held ∨ j ∈ beside.map (·.2) := by
  cases n with
  | map entries => exact Entries.mem_overlay h
  | _ => exact .inl h

theorem deep_filled_iff {trees : Nat → Value} {kept : Value} {n : Node} {k : Nat} :
    (n.filled trees kept).Deep k ↔
      (n.isContainer = true ∧ k = 0) ∨
      (∃ j ∈ n.held, ∃ m, k = m + 1 ∧ (trees j).Deep m) ∨
      (n.isContainer = false ∧ kept.Deep k) := by
  cases n with
  | list items =>
    simp only [filled, isContainer, held, true_and, Bool.true_eq_false, false_and, or_false]
    constructor
    · intro h
      cases h with
      | list => exact .inl rfl
      | item mem inside =>
        obtain ⟨j, hj, rfl⟩ := List.mem_map.1 mem
        exact .inr ⟨j, hj, _, rfl, inside⟩
    · rintro (rfl | ⟨j, hj, m, rfl, h⟩)
      · exact .list
      · exact .item (List.mem_map_of_mem hj) h
  | map entries =>
    simp only [filled, isContainer, held, true_and, Bool.true_eq_false, false_and, or_false]
    constructor
    · intro h
      cases h with
      | map => exact .inl rfl
      | entry mem inside =>
        obtain ⟨e, he, rfl⟩ := List.mem_map.1 mem
        exact .inr ⟨e.2, List.mem_map_of_mem he, _, rfl, inside⟩
    · rintro (rfl | ⟨j, hj, m, rfl, h⟩)
      · exact .map
      · obtain ⟨e, he, rfl⟩ := List.mem_map.1 hj
        exact .entry (e := (e.1, trees e.2)) (List.mem_map_of_mem he) h
  | scalar _ => simp [filled, isContainer, held]
  | tuple _ => simp [filled, isContainer, held]
  | set _ => simp [filled, isContainer, held]

end Node

/-- The reference that a node stands for. -/
def referenceAt? (d : Document) (id : Nat) : Option Text :=
  match d.node id with
  | .map entries => d.reference? entries
  | _ => none

theorem referenceAt?_of_map {id : Nat} {entries : Entries Nat} (node : d.node id = .map entries) :
    d.referenceAt? id = d.reference? entries := by
  rw [referenceAt?, node]

/-- Following references leads from a node to a last one, which is no reference; on the way back
the entries beside each reference are laid over it. -/
inductive Becomes (d : Document) : Nat → Nat → Node → Prop
  | self {id : Nat} (plain : d.referenceAt? id = none) : Becomes d id id (d.node id)
  | target {id : Nat} {entries : Entries Nat} {ref : Text} {target last : Nat} {n : Node}
      (node : d.node id = .map entries) (names : d.reference? entries = some ref)
      (found : d.find ref = .ok target) (inside : Becomes d target last n) :
      Becomes d id last (n.overlaid (siblings entries))

theorem Becomes.unique {id last last' : Nat} {n n' : Node} (h : d.Becomes id last n)
    (h' : d.Becomes id last' n') : last = last' ∧ n = n' := by
  induction h generalizing last' n' with
  | self plain =>
    cases h' with
    | self => exact ⟨rfl, rfl⟩
    | target node names => cases plain.symm.trans ((referenceAt?_of_map node).trans names)
  | target node names found _ ih =>
    cases h' with
    | self plain => cases plain.symm.trans ((referenceAt?_of_map node).trans names)
    | target node' names' found' inside' =>
      obtain rfl := Node.map.inj (node.symm.trans node')
      obtain rfl := Option.some.inj (names.symm.trans names')
      obtain rfl := Except.ok.inj (found.symm.trans found')
      obtain ⟨rfl, rfl⟩ := ih inside'
      exact ⟨rfl, rfl⟩

/-- What is laid over a node changes nothing of whether it is a collection. -/
theorem Becomes.isContainer {id last : Nat} {n : Node} (h : d.Becomes id last n) :
    (d.node last).isContainer = n.isContainer := by
  induction h with
  | self => rfl
  | target _ _ _ _ ih => rw [ih, Node.isContainer_overlaid]

/-- A node that is no collection has a tree that is no mapping. -/
theorem value_ne_map {id : Nat} (leaf : (d.node id).isContainer = false)
    (entries : List (Scalar × Value)) : d.value id ≠ .map entries := by
  unfold value unfold
  cases node : d.node id <;> simp_all [Node.isContainer]

/-- **The tree of a node is what the node comes down to, filled with the trees of its parts.** -/
theorem Inlines.filled {id : Nat} {r : Inlined} (h : d.Inlines id r) :
    ∃ last n, d.Becomes id last n ∧ r.value = n.filled (fun j => (d.tree j).value) (d.value last) ∧
      ∀ j ∈ n.held, d.Inlines j (d.tree j) := by
  induction h with
  | @kept id leaf =>
    have hplain : d.referenceAt? id = none := by
      unfold referenceAt?
      split
      · next node => simp [node, Node.isContainer] at leaf
      · rfl
    refine ⟨id, d.node id, .self hplain, ?_, ?_⟩ <;>
      cases node : d.node id <;> simp_all [Node.isContainer, Node.filled, Node.held]
  | @list id items trees node inside =>
    have htrees : items.map trees = items.map d.tree :=
      List.map_congr_left fun j hj => (inside j hj).tree_eq.symm
    refine ⟨id, _, .self (by simp [referenceAt?, node]), ?_, fun j hj => ?_⟩
    · simp [Inlined.ofItems, htrees, node, Node.filled]
    · rw [node] at hj
      exact (inside j hj).inlines_tree
  | @map id entries trees node plain inside =>
    have htrees : (entries.map fun e => (e.1, trees e.2)) =
        entries.map fun e => (e.1, d.tree e.2) :=
      List.map_congr_left fun e he => by rw [(inside e he).tree_eq]
    refine ⟨id, _, .self ((referenceAt?_of_map node).trans plain), ?_, fun j hj => ?_⟩
    · simp [Inlined.ofEntries, htrees, node, Node.filled]
    · rw [node] at hj
      obtain ⟨e, he, rfl⟩ := List.mem_map.1 hj
      exact (inside e he).inlines_tree
  | @reference id entries ref target r trees node names found _ beside ih =>
    obtain ⟨last, n, hbecomes, hvalue, hheld⟩ := ih
    have htrees : ((siblings entries).map fun e => (e.1, (trees e.2).value)) =
        (siblings entries).map fun e => (e.1, (d.tree e.2).value) :=
      List.map_congr_left fun e he => by rw [(beside e he).tree_eq]
    refine ⟨last, _, .target node names found hbecomes, ?_, fun j hj => ?_⟩
    · cases n with
      | map lower =>
        have hoverlay := Entries.overlay_map (fun j => (d.tree j).value) lower (siblings entries)
        simp only [Inlined.overlaid, hvalue, Node.filled, Node.overlaid, List.map_map, ← hoverlay]
        rw [← htrees]
        rfl
      | list _ => simp [Inlined.overlaid, hvalue, Node.filled, Node.overlaid]
      | _ =>
        have hne := value_ne_map hbecomes.isContainer
        simp only [Node.filled] at hvalue
        simp only [Inlined.overlaid, Node.filled, Node.overlaid]
        split
        · next h => exact absurd (hvalue.symm.trans h) (hne _)
        · exact hvalue
    · rcases Node.mem_held_overlaid hj with hj | hj
      · exact hheld j hj
      · obtain ⟨e, he, rfl⟩ := List.mem_map.1 hj
        exact (beside e he).inlines_tree

/-- In the tree of a node some list or mapping stands inside so many others. What a node holds is
counted once the node's references are followed. -/
inductive Deep (d : Document) : Nat → Nat → Prop
  | here {id last : Nat} {n : Node} (becomes : d.Becomes id last n)
      (container : n.isContainer = true) : Deep d id 0
  | inside {id last j k : Nat} {n : Node} (becomes : d.Becomes id last n) (held : j ∈ n.held)
      (inside : Deep d j k) : Deep d id (k + 1)
  | kept {id last k : Nat} {n : Node} (becomes : d.Becomes id last n)
      (leaf : n.isContainer = false) (deep : (d.value last).Deep k) : Deep d id k

theorem deep_iff_of_becomes {id last k : Nat} {n : Node} (h : d.Becomes id last n) :
    d.Deep id k ↔
      (n.isContainer = true ∧ k = 0) ∨
      (∃ j ∈ n.held, ∃ m, k = m + 1 ∧ d.Deep j m) ∨
      (n.isContainer = false ∧ (d.value last).Deep k) := by
  constructor
  · intro hdeep
    cases hdeep with
    | here h' container =>
      obtain ⟨rfl, rfl⟩ := h.unique h'
      exact .inl ⟨container, rfl⟩
    | inside h' held inside =>
      obtain ⟨rfl, rfl⟩ := h.unique h'
      exact .inr (.inl ⟨_, held, _, rfl, inside⟩)
    | kept h' leaf deep =>
      obtain ⟨rfl, rfl⟩ := h.unique h'
      exact .inr (.inr ⟨leaf, deep⟩)
  · rintro (⟨container, rfl⟩ | ⟨j, held, m, rfl, inside⟩ | ⟨leaf, deep⟩)
    · exact .here h container
    · exact .inside h held inside
    · exact .kept h leaf deep

/-- **The tree of a node is as deep as the node.** -/
theorem Inlines.deep_iff {id k : Nat} {r : Inlined} (h : d.Inlines id r) :
    r.value.Deep k ↔ d.Deep id k := by
  induction k using Nat.strongRecOn generalizing id r with
  | ind k ih =>
    obtain ⟨last, n, hbecomes, hvalue, hheld⟩ := h.filled
    rw [hvalue, Node.deep_filled_iff, deep_iff_of_becomes hbecomes]
    refine or_congr_right (or_congr_left (exists_congr fun j => and_congr_right fun hj =>
      exists_congr fun m => and_congr_right fun hm => ?_))
    exact ih m (by omega) (hheld j hj)

/-! ## Depth and the steps below the root -/

theorem Becomes.container {id last : Nat} {n : Node} (h : d.Becomes id last n)
    (hn : n.isContainer = true) : (d.node id).isContainer = true := by
  cases h with
  | self => exact hn
  | target node => simp [node, Node.isContainer]

/-- What a node holds is visited further below the root than the node. -/
theorem Becomes.visits {id last k j : Nat} {n : Node} (h : d.Becomes id last n)
    (visits : d.Visits k id) (hj : j ∈ n.held) : ∃ k', k < k' ∧ d.Visits k' j := by
  induction h generalizing k with
  | @self id plain =>
    refine ⟨k + 1, Nat.lt_succ_self k, visits.part ?_⟩
    cases node : d.node id with
    | list items =>
      rw [node] at hj
      exact part_of_list node hj
    | map entries =>
      rw [node] at hj
      obtain ⟨e, he, rfl⟩ := List.mem_map.1 hj
      exact part_of_map node ((referenceAt?_of_map node).symm.trans plain) he
    | _ => simp [node, Node.held] at hj
  | target node names found _ ih =>
    rcases Node.mem_held_overlaid hj with hj | hj
    · obtain ⟨k', hk, hvisits⟩ := ih (visits.part (part_of_target node names found)) hj
      exact ⟨k', by omega, hvisits⟩
    · obtain ⟨e, he, rfl⟩ := List.mem_map.1 hj
      exact ⟨k + 1, Nat.lt_succ_self k, visits.part (part_of_sibling node names he)⟩

/-- Where all paths are as short as the limit says, and not only those that a walk takes, nothing is
nested deeper. -/
theorem Deep.add_le (within : ∀ k id, d.Visits k id → (d.node id).isContainer = true →
      k ≤ maxDocumentDepth)
    (leaves : ∀ id, (d.node id).isContainer = false → ∀ k, ¬ (d.value id).Deep k)
    {id k m : Nat} (h : d.Deep id k) (visits : d.Visits m id) : m + k ≤ maxDocumentDepth := by
  induction h generalizing m with
  | here becomes container => exact within m _ visits (becomes.container container)
  | inside becomes held _ ih =>
    obtain ⟨m', hm, hvisits⟩ := becomes.visits visits held
    have := ih hvisits
    omega
  | kept becomes leaf deep => exact absurd deep (leaves _ (becomes.isContainer.trans leaf) _)

/-! ## The whole document -/

/-- **Inlining bounds the depth of no document.** Of the documents that are inlined, those stay
within the limit in which no chain of collections, references followed, is longer. For this it is
enough that the limit holds on every path, were nothing known from elsewhere, and that no tuple
holds a collection. -/
theorem inline_deep_le_iff {v : Value} (h : d.inline.result = .ok v) :
    ((∀ k, v.Deep k → k ≤ maxDocumentDepth) ↔ ∀ k, d.Deep d.root k → k ≤ maxDocumentDepth) ∧
    ((∀ k id, d.Visits k id → (d.node id).isContainer = true → k ≤ maxDocumentDepth) →
      (∀ id, (d.node id).isContainer = false → ∀ k, ¬ (d.value id).Deep k) →
      ∀ k, v.Deep k → k ≤ maxDocumentDepth) := by
  obtain ⟨size, hplain⟩ := inlines_of_inline h
  have hdeep : ∀ k, v.Deep k ↔ d.Deep d.root k := fun k => hplain.deep_iff
  constructor
  · exact forall_congr' fun k => imp_congr_left (hdeep k)
  · intro within leaves k hk
    have := ((hdeep k).1 hk).add_le within leaves .root
    omega

theorem value_of_scalar {id : Nat} {s : Scalar} (node : d.node id = .scalar s) :
    d.value id = .scalar s := by
  simp [value, unfold, node]

theorem scalar_of_leaf_sharedDocument {id : Nat}
    (leaf : (sharedDocument.node id).isContainer = false) :
    ∃ s, sharedDocument.node id = .scalar s := by
  match id with
  | 0 => exact ⟨_, rfl⟩
  | 1 => cases leaf
  | 2 => exact ⟨_, rfl⟩
  | 3 => cases leaf
  | 4 => cases leaf
  | _ + 5 => exact ⟨.null, rfl⟩

theorem value_sharedDocument_not_deep (id : Nat)
    (leaf : (sharedDocument.node id).isContainer = false) (k : Nat) :
    ¬ (sharedDocument.value id).Deep k := by
  obtain ⟨s, hs⟩ := scalar_of_leaf_sharedDocument leaf
  rw [value_of_scalar hs]
  intro h
  cases h

theorem inline_deep_le_sharedDocument :
    sharedDocument.inline.result = .ok sharedTree ∧
      ∀ k, sharedTree.Deep k → k ≤ maxDocumentDepth := by
  have hres : sharedDocument.inline.result = .ok sharedTree := by cbv
  exact ⟨hres, (inline_deep_le_iff hres).2 withinLimits_sharedDocument.depth
    value_sharedDocument_not_deep⟩

/-- Lists in one another, two hundred and forty, of which `a` is the list at half the depth and `b`
the outermost one: `a` is known when the walk over `b` comes to it. -/
def stackedDocument : Document :=
  ⟨((List.range 240).map fun i => Node.list (if i = 0 then [] else [i - 1])).toArray.push
    (.map [(.text "a", 119), (.text "b", 239)]), 240⟩

theorem node_stackedDocument {i : Nat} (hi : i < 240) :
    stackedDocument.node i = .list (if i = 0 then [] else [i - 1]) := by
  have hlen :
      i < ((List.range 240).map fun i => Node.list (if i = 0 then [] else [i - 1])).length := by
    simpa using hi
  simp [stackedDocument, node, List.getElem?_append_left hlen, hi]

theorem root_stackedDocument :
    stackedDocument.node 240 = .map [(.text "a", 119), (.text "b", 239)] := by
  simp [stackedDocument, node]

theorem deep_stackedDocument {i : Nat} (hi : i < 240) : stackedDocument.Deep i i := by
  have hself : ∀ j < 240, stackedDocument.Becomes j j (stackedDocument.node j) := fun j hj =>
    .self (by simp [referenceAt?, node_stackedDocument hj])
  induction i with
  | zero => exact .here (hself 0 hi) (by rw [node_stackedDocument hi]; rfl)
  | succ i ih =>
    refine .inside (hself _ hi) ?_ (ih (by omega))
    simp [node_stackedDocument hi, Node.held]

/-- **A document is inlined that is nested deeper than the limit.** -/
theorem inline_stackedDocument :
    ∃ v, stackedDocument.inline.result = .ok v ∧ v.Deep 240 ∧ maxDocumentDepth < 240 := by
  have hok : stackedDocument.inline.result.isOk = true := by decide +kernel
  cases hres : stackedDocument.inline.result with
  | error _ => cases hres ▸ hok
  | ok v =>
    obtain ⟨size, hplain⟩ := inlines_of_inline hres
    have hself : stackedDocument.referenceAt? 240 = none := by
      rw [referenceAt?_of_map root_stackedDocument]
      rfl
    have hb : 239 ∈ (stackedDocument.node 240).held := by
      rw [root_stackedDocument]
      exact List.mem_cons_of_mem _ (List.mem_singleton.2 rfl)
    have hdeep : stackedDocument.Deep 240 240 :=
      .inside (.self hself) hb (deep_stackedDocument (by omega))
    exact ⟨v, rfl, hplain.deep_iff.2 hdeep, by decide⟩

end Document

end SuiteForge
