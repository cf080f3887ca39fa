/-
# Plain inlining

Inlining without a memo, as rules: what tree a node becomes, and how many mappings
and lists are counted in it.

| node | becomes | counted |
| --- | --- | --- |
| scalar, tuple, set | itself | nothing |
| list, mapping | the trees of its parts | one, and its parts |
| reference to a mapping | the target's tree, other entries laid over it | target and other entries |
| reference to anything else | the target's tree | target |

A tree is given for a node by at most one derivation (`Inlines.unique`), and a node that has
one is not below itself (`Inlines.not_below_self`). `Visits` says which nodes plain inlining
of a document comes to, and how far below the root.
-/

import Mathlib
import SuiteForge.Document.Inline

namespace SuiteForge

namespace Inlined

instance : Inhabited Inlined := ⟨⟨default, 0⟩⟩

/-- The tree of a list. -/
def ofItems (trees : List Inlined) : Inlined :=
  ⟨.list (trees.map (·.value)), 1 + Document.totalSize trees⟩

/-- The tree of a mapping. -/
def ofEntries (trees : Entries Inlined) : Inlined :=
  ⟨.map (trees.map fun e => (e.1, e.2.value)), 1 + Document.totalSize (trees.map (·.2))⟩

/-- A reference's target with the entries beside the reference: they are laid over a mapping, and
dropped otherwise. -/
def overlaid (target : Inlined) (beside : Entries Inlined) : Inlined :=
  match target.value with
  | .map entries =>
    ⟨.map (Entries.overlay entries (beside.map fun e => (e.1, e.2.value))),
      target.size + Document.totalSize (beside.map (·.2))⟩
  | _ => target

end Inlined

namespace Document

variable {d : Document}

/-- **Plain inlining.** `trees` names the trees of the nodes that a node refers to. -/
inductive Inlines (d : Document) : Nat → Inlined → Prop
  | kept {id : Nat} (leaf : (d.node id).isContainer = false) : Inlines d id ⟨d.value id, 0⟩
  | list {id : Nat} {items : List Nat} (trees : Nat → Inlined) (node : d.node id = .list items)
      (inside : ∀ j ∈ items, Inlines d j (trees j)) :
      Inlines d id (.ofItems (items.map trees))
  | map {id : Nat} {entries : Entries Nat} (trees : Nat → Inlined)
      (node : d.node id = .map entries) (plain : d.reference? entries = none)
      (inside : ∀ e ∈ entries, Inlines d e.2 (trees e.2)) :
      Inlines d id (.ofEntries (entries.map fun e => (e.1, trees e.2)))
  | reference {id : Nat} {entries : Entries Nat} {ref : Text} {target : Nat} {r : Inlined}
      (trees : Nat → Inlined) (node : d.node id = .map entries)
      (names : d.reference? entries = some ref) (found : d.find ref = .ok target)
      (inside : Inlines d target r) (beside : ∀ e ∈ siblings entries, Inlines d e.2 (trees e.2)) :
      Inlines d id (r.overlaid ((siblings entries).map fun e => (e.1, trees e.2)))

/-- The nodes that inlining of a node goes on to. -/
def parts (d : Document) (id : Nat) : List Nat :=
  match d.node id with
  | .list items => items
  | .map entries => match d.reference? entries with
    | none => entries.map (·.2)
    | some ref => (d.find ref).toOption.toList ++ (siblings entries).map (·.2)
  | _ => []

/-- A node stands directly below another one when that one is inlined. -/
def Part (d : Document) (j id : Nat) : Prop := j ∈ d.parts id

/-- Plain inlining of the document comes to a node that many steps below the root. -/
inductive Visits (d : Document) : Nat → Nat → Prop
  | root : Visits d 0 d.root
  | part {k id j : Nat} (above : Visits d k id) (part : d.Part j id) : Visits d (k + 1) j

/-- A number without a node stands for a scalar. -/
theorem lt_size_of_node {id : Nat} (h : ∀ s, d.node id ≠ .scalar s) : id < d.nodes.size := by
  by_contra hge
  have hnone : d.nodes[id]? = none := Array.getElem?_eq_none (not_lt.1 hge)
  exact h .null (by rw [node, hnone]; rfl)

/-- Such a number has no parts. -/
theorem lt_size_of_part {id j : Nat} (h : d.Part j id) : id < d.nodes.size := by
  refine lt_size_of_node fun s hs => ?_
  rw [Part, parts, hs] at h
  exact List.not_mem_nil h

theorem part_of_list {id j : Nat} {items : List Nat} (node : d.node id = .list items)
    (h : j ∈ items) : d.Part j id := by
  simpa [Part, parts, node] using h

theorem part_of_map {id : Nat} {entries : Entries Nat} {e : Scalar × Nat}
    (node : d.node id = .map entries) (plain : d.reference? entries = none) (h : e ∈ entries) :
    d.Part e.2 id := by
  simpa [Part, parts, node, plain] using ⟨e.1, h⟩

theorem part_of_target {id target : Nat} {entries : Entries Nat} {ref : Text}
    (node : d.node id = .map entries) (names : d.reference? entries = some ref)
    (found : d.find ref = .ok target) : d.Part target id := by
  simp [Part, parts, node, names, found, Except.toOption]

theorem part_of_sibling {id : Nat} {entries : Entries Nat} {ref : Text} {e : Scalar × Nat}
    (node : d.node id = .map entries) (names : d.reference? entries = some ref)
    (h : e ∈ siblings entries) : d.Part e.2 id := by
  have : e.2 ∈ (siblings entries).map (·.2) := List.mem_map_of_mem h
  simp only [Part, parts, node, names]
  exact List.mem_append_right _ this

namespace Inlines

/-- **A node has at most one tree.** -/
theorem unique {id : Nat} {r s : Inlined} (hr : d.Inlines id r) (hs : d.Inlines id s) : r = s := by
  induction hr generalizing s with
  | kept leaf =>
    cases hs with
    | kept => rfl
    | list _ node => simp [node, Node.isContainer] at leaf
    | map _ node => simp [node, Node.isContainer] at leaf
    | reference _ node => simp [node, Node.isContainer] at leaf
  | list trees node _ ih =>
    cases hs with
    | kept leaf => simp [node, Node.isContainer] at leaf
    | list trees' node' inside' =>
      obtain rfl := Node.list.inj (node.symm.trans node')
      rw [List.map_congr_left fun j hj => ih j hj (inside' j hj)]
    | map _ node' => simp [node] at node'
    | reference _ node' => simp [node] at node'
  | map trees node plain _ ih =>
    cases hs with
    | kept leaf => simp [node, Node.isContainer] at leaf
    | list _ node' => simp [node] at node'
    | map trees' node' _ inside' =>
      obtain rfl := Node.map.inj (node.symm.trans node')
      rw [List.map_congr_left fun e he => by rw [ih e he (inside' e he)]]
    | reference _ node' names' =>
      obtain rfl := Node.map.inj (node.symm.trans node')
      simp [plain] at names'
  | reference trees node names found _ _ ih ihBeside =>
    cases hs with
    | kept leaf => simp [node, Node.isContainer] at leaf
    | list _ node' => simp [node] at node'
    | map _ node' plain' =>
      obtain rfl := Node.map.inj (node.symm.trans node')
      simp [names] at plain'
    | reference trees' node' names' found' inside' beside' =>
      obtain rfl := Node.map.inj (node.symm.trans node')
      obtain rfl := Option.some.inj (names.symm.trans names')
      obtain rfl := Except.ok.inj (found.symm.trans found')
      rw [ih inside', List.map_congr_left fun e he => by rw [ihBeside e he (beside' e he)]]

/-- Below a node that has a tree there is no endless descent. -/
theorem acc {id : Nat} {r : Inlined} (h : d.Inlines id r) : Acc d.Part id := by
  induction h with
  | kept leaf =>
    refine ⟨_, fun j hj => ?_⟩
    simp only [Part, parts] at hj
    split at hj <;> simp_all [Node.isContainer]
  | list _ node _ ih =>
    refine ⟨_, fun j hj => ih j ?_⟩
    simpa [Part, parts, node] using hj
  | map _ node plain _ ih =>
    refine ⟨_, fun j hj => ?_⟩
    simp only [Part, parts, node, plain, List.mem_map] at hj
    obtain ⟨e, he, rfl⟩ := hj
    exact ih e he
  | reference _ node names found _ _ ih ihBeside =>
    refine ⟨_, fun j hj => ?_⟩
    simp only [Part, parts, node, names, found, List.mem_append, List.mem_map] at hj
    rcases hj with hj | ⟨e, he, rfl⟩
    · obtain rfl : j = _ := by simpa [Except.toOption] using hj
      exact ih
    · exact ihBeside e he

/-- **A node that has a tree does not stand below itself.** -/
theorem not_below_self {id : Nat} {r : Inlined} (h : d.Inlines id r) :
    ¬ Relation.TransGen d.Part id id := by
  intro hself
  have hacc := h.acc.transGen
  clear h
  induction hacc with
  | intro a _ ih => exact ih a hself hself

end Inlines

open Classical in
/-- The tree of a node that has one. -/
noncomputable def tree (d : Document) (id : Nat) : Inlined :=
  if h : ∃ r, d.Inlines id r then h.choose else default

namespace Inlines

theorem tree_eq {id : Nat} {r : Inlined} (h : d.Inlines id r) : d.tree id = r := by
  have hex : ∃ r, d.Inlines id r := ⟨r, h⟩
  rw [tree, dif_pos hex]
  exact hex.choose_spec.unique h

theorem inlines_tree {id : Nat} {r : Inlined} (h : d.Inlines id r) : d.Inlines id (d.tree id) :=
  h.tree_eq.symm ▸ h

/-- Trees given position by position are given node by node. -/
theorem eq_map_tree {items : List Nat} {rs : List Inlined} (h : List.Forall₂ d.Inlines items rs) :
    rs = items.map d.tree ∧ ∀ j ∈ items, d.Inlines j (d.tree j) := by
  induction h with
  | nil => simp
  | cons hr _ ih =>
    obtain ⟨hrs, hitems⟩ := ih
    refine ⟨by rw [List.map_cons, ← hrs, hr.tree_eq], fun j hj => ?_⟩
    rcases List.mem_cons.1 hj with rfl | hj
    · exact hr.inlines_tree
    · exact hitems j hj

end Inlines

/-- Where every node refers to nodes before it, a descent takes no more steps than there are nodes
before the root. -/
theorem Visits.add_le (hbefore : ∀ id, ∀ j ∈ d.parts id, j < id) {k id : Nat}
    (h : d.Visits k id) : k + id ≤ d.root := by
  induction h with
  | root => simp
  | part _ hj ih =>
    have := hbefore _ _ hj
    omega

end Document

end SuiteForge
