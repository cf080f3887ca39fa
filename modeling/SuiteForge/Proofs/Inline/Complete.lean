/-
# Inlining with a memo is plain inlining

A walk over a node that has a plain tree returns, within the limits
(`inlineNode_complete`). An active node, and the target of a reference of the chain,
lead down to the node at hand (`Reached`), so that meeting one of them again would
put a node with a tree below itself. With the memo's invariant this makes the walk
and plain inlining agree.
-/

import SuiteForge.Proofs.Inline.Memo

namespace SuiteForge

namespace Document

variable {d : Document}

/-- The limits of inlining, for every node that plain inlining comes to. -/
structure WithinLimits (d : Document) : Prop where
  depth : ∀ k id, d.Visits k id → (d.node id).isContainer = true → k ≤ maxDocumentDepth
  size : ∀ k id r, d.Visits k id → d.Inlines id r → r.size ≤ maxExpandedNodes

/-- The walk is at a node: the node is visited, every active node leads down to it, and so does the
target of every reference of the chain. -/
structure Reached (d : Document) (k : Nat) (chain : List Text) (active : List Nat) (id : Nat) :
    Prop where
  visits : d.Visits k id
  active : ∀ a ∈ active, Relation.TransGen d.Part id a
  chain : ∀ ref ∈ chain, ∀ t, d.find ref = .ok t → Relation.ReflTransGen d.Part id t

namespace Reached

variable {k : Nat} {chain : List Text} {active : List Nat} {id j : Nat}

theorem root : d.Reached 0 [] [] d.root :=
  ⟨.root, fun _ h => absurd h List.not_mem_nil, fun _ h => absurd h List.not_mem_nil⟩

theorem part (h : d.Reached k chain active id) (hj : d.Part j id) :
    d.Reached (k + 1) chain (id :: active) j := by
  refine ⟨h.visits.part hj, fun a ha => ?_, fun ref hr t ht => .head hj (h.chain ref hr t ht)⟩
  rcases List.mem_cons.1 ha with rfl | ha
  · exact .single hj
  · exact .head hj (h.active a ha)

theorem target {ref : Text} (h : d.Reached k chain active id) (found : d.find ref = .ok j)
    (hj : d.Part j id) : d.Reached (k + 1) (chain ++ [ref]) [] j := by
  refine ⟨h.visits.part hj, fun _ ha => absurd ha List.not_mem_nil, fun ref' hr t ht => ?_⟩
  rcases List.mem_append.1 hr with hr | hr
  · exact .head hj (h.chain ref' hr t ht)
  · obtain rfl := List.mem_singleton.1 hr
    obtain rfl := Except.ok.inj (found.symm.trans ht)
    exact .refl

/-- A node with a tree is not active. -/
theorem not_active {r : Inlined} (h : d.Reached k chain active id) (hr : d.Inlines id r) :
    id ∉ active :=
  fun ha => hr.not_below_self (h.active id ha)

/-- A reference of the chain does not stand at a node below whose target there is a tree. -/
theorem not_in_chain {ref : Text} {s : Inlined} (h : d.Reached k chain active id)
    (found : d.find ref = .ok j) (hj : d.Part j id) (hs : d.Inlines j s) : ref ∉ chain :=
  fun hc => hs.not_below_self (.head' hj (h.chain ref hc j found))

end Reached

/-- A step returns the plain tree of every node so many steps below the root. -/
def Complete (d : Document) (k : Nat) (inside : List Text → List Nat → InlineStep) : Prop :=
  ∀ chain active j m r, d.Reached k chain active j → d.Inlines j r → m.Sound d →
    ∃ m', (inside chain active j m).result = .ok (r, m') ∧ m'.Sound d

section Complete

variable {inside : List Text → List Nat → InlineStep} {k : Nat} {chain : List Text}
  {active : List Nat} {id : Nat} {m : Memo}

theorem inlineEntries_complete {entries : Entries Nat} {trees : Nat → Inlined}
    (hinside : d.Complete (k + 1) inside) (h : d.Reached k chain active id)
    (hparts : ∀ e ∈ entries, d.Part e.2 id) (htrees : ∀ e ∈ entries, d.Inlines e.2 (trees e.2))
    (hm : m.Sound d) :
    ∃ m', (inlineEntries (inside chain (id :: active)) entries m).result =
      .ok (entries.map fun e => (e.1, trees e.2), m') ∧ m'.Sound d := by
  have hstep : ∀ j ∈ entries.map (·.2), ∀ m, m.Sound d →
      ∃ m', (inside chain (id :: active) j m).result = .ok (trees j, m') ∧ m'.Sound d := by
    intro j hj m hm
    obtain ⟨e, he, rfl⟩ := List.mem_map.1 hj
    exact hinside _ _ _ m _ (h.part (hparts e he)) (htrees e he) hm
  obtain ⟨m', hitems, hm'⟩ := inlineItems_eq_ok hstep hm
  refine ⟨m', ?_, hm'⟩
  rw [inlineEntries_result, hitems, List.map_map, Except.map, List.zip_map']
  rfl

theorem inlineTarget_complete {ref : Text} {target : Nat} {r : Inlined}
    (hinside : d.Complete (k + 1) inside) (h : d.Reached k chain active id)
    (found : d.find ref = .ok target) (hpart : d.Part target id) (hr : d.Inlines target r)
    (hm : m.Sound d) :
    ∃ m', d.inlineTarget inside chain ref m = .ok (r, m') ∧ m'.Sound d := by
  unfold inlineTarget
  cases hl : m.byRef.lookup ref with
  | some s =>
    obtain ⟨target', found', hs⟩ := hm.byRef hl
    obtain rfl := Except.ok.inj (found.symm.trans found')
    exact ⟨m, by rw [hr.unique hs], hm⟩
  | none =>
    obtain ⟨m₁, hres, hm₁⟩ := hinside _ _ target m r (h.target found hpart) hr hm
    exact ⟨m₁.addRef ref r, by simp [found, hres], hm₁.addRef found hr⟩

theorem expand_complete {r : Inlined} (hinside : d.Complete (k + 1) inside)
    (h : d.Reached k chain active id) (hr : d.Inlines id r)
    (hc : (d.node id).isContainer = true) (hm : m.Sound d) :
    ∃ m', (d.expand inside chain (id :: active) id m).result = .ok (r, m') ∧ m'.Sound d := by
  cases hr with
  | kept leaf => simp [leaf] at hc
  | @list _ items trees node hitems =>
    have hstep : ∀ j ∈ items, ∀ m, m.Sound d →
        ∃ m', (inside chain (id :: active) j m).result = .ok (trees j, m') ∧ m'.Sound d :=
      fun j hj m hm => hinside _ _ j m _ (h.part (part_of_list node hj)) (hitems j hj) hm
    obtain ⟨m', hres, hm'⟩ := inlineItems_eq_ok hstep hm
    exact ⟨m', by rw [expand_list node, hres]; rfl, hm'⟩
  | map trees node plain hentries =>
    obtain ⟨m', hres, hm'⟩ := inlineEntries_complete hinside h
      (fun e he => part_of_map node plain he) hentries hm
    exact ⟨m', by rw [expand_map node plain, hres]; rfl, hm'⟩
  | reference trees node names found htarget hbeside =>
    have hpart := part_of_target node names found
    obtain ⟨m₁, hres, hm₁⟩ := inlineTarget_complete hinside h found hpart htarget hm
    obtain ⟨m₂, hrest, hm₂⟩ := inlineEntries_complete hinside h
      (fun e he => part_of_sibling node names he) hbeside hm₁
    refine ⟨m₂, ?_, hm₂⟩
    rw [expand_reference node names (h.not_in_chain found hpart htarget), hres, ok_bind, hrest]
    rfl

end Complete

theorem inlineNode_complete_of_below (within : d.WithinLimits) {levels k : Nat}
    (hk : k + levels = maxDocumentDepth + 1)
    (below : ∀ n, levels = n + 1 → d.Complete (k + 1) (d.inlineNode n)) :
    d.Complete k (d.inlineNode levels) := by
  intro chain active id m r h hr hm
  cases hc : (d.node id).isContainer with
  | false =>
    have hkept : r = ⟨d.value id, 0⟩ := hr.unique (.kept hc)
    exact ⟨m, inlineNode_eq_ok.2 (.inl ⟨hc, hkept, rfl⟩), hm⟩
  | true =>
    cases hl : m.byNode.lookup id with
    | some s =>
      have hknown : m.byNode.lookup id = some r := by rw [hl, hr.unique (hm.byNode hl)]
      exact ⟨m, inlineNode_eq_ok.2 (.inr (.inl ⟨hc, hknown, rfl⟩)), hm⟩
    | none =>
      have hdepth : k ≤ maxDocumentDepth := within.depth k id h.visits hc
      obtain ⟨n, rfl⟩ : ∃ n, levels = n + 1 := ⟨levels - 1, by omega⟩
      obtain ⟨m₁, hres, hm₁⟩ := expand_complete (below n rfl) h hr hc hm
      exact ⟨m₁.addNode id r, inlineNode_eq_ok.2 (.inr (.inr ⟨hc, hl, h.not_active hr, n, m₁, rfl,
        within.size k id r h.visits hr, rfl, hres⟩)), hm₁.addNode hr⟩

/-- **A walk over a node with a plain tree returns it,** within the limits. -/
theorem inlineNode_complete (within : d.WithinLimits) {levels k : Nat}
    (hk : k + levels = maxDocumentDepth + 1) : d.Complete k (d.inlineNode levels) := by
  induction levels generalizing k with
  | zero => exact inlineNode_complete_of_below within hk fun n hn => by cases hn
  | succ n ih =>
    refine inlineNode_complete_of_below within hk fun n' hn => ?_
    obtain rfl := Nat.succ.inj hn
    exact ih (by omega)

/-! ## The whole document -/

/-- The plain tree of the root is returned, within the limits. -/
theorem inline_of_inlines {v : Value} {size : Nat} (hplain : d.Inlines d.root ⟨v, size⟩)
    (within : d.WithinLimits) : d.inline.result = .ok v := by
  obtain ⟨m, hres, -⟩ := inlineNode_complete within (Nat.zero_add _) [] [] d.root Memo.empty
    ⟨v, size⟩ .root hplain Memo.sound_empty
  simp [inline, hres]

/-- **Inlining with a memo is plain inlining.** What is returned is the tree that plain inlining
gives, and no other; and the tree that plain inlining gives is returned, if no container stands
deeper below the root and no tree is larger than the limits admit. -/
theorem inline_eq_plain (d : Document) (v : Value) :
    (d.inline.result = .ok v →
      (∃ size, d.Inlines d.root ⟨v, size⟩) ∧ ∀ r, d.Inlines d.root r → r.value = v) ∧
    (∀ size, d.Inlines d.root ⟨v, size⟩ → d.WithinLimits → d.inline.result = .ok v) := by
  constructor
  · intro h
    obtain ⟨size, hplain⟩ := inlines_of_inline h
    exact ⟨⟨size, hplain⟩, fun r hr => by rw [hr.unique hplain]⟩
  · exact fun size hplain within => inline_of_inlines hplain within

/-- `{a: &x {k: 1}, b: {$ref: "#/a", m: *x}}` -/
def sharedDocument : Document :=
  ⟨#[.scalar (.int 1), .map [(.text "k", 0)], .scalar (.text "#/a"),
    .map [(.text "$ref", 2), (.text "m", 1)], .map [(.text "a", 1), (.text "b", 3)]], 4⟩

/-- The tree of `sharedDocument`, in which the node `x` stands three times. -/
def sharedTree : Value :=
  let x : Value := .map [(.text "k", .scalar (.int 1))]
  .map [(.text "a", x), (.text "b", .map [(.text "k", .scalar (.int 1)), (.text "m", x)])]

theorem node_sharedDocument {id : Nat} (h : ¬ id < 5) :
    sharedDocument.node id = .scalar .null := by
  have hnone : sharedDocument.nodes[id]? = none :=
    Array.getElem?_eq_none (by simpa [sharedDocument] using h)
  simp [node, hnone]

theorem parts_sharedDocument_lt (id : Nat) : ∀ j ∈ sharedDocument.parts id, j < id := by
  have hsmall : (List.range 5).all fun i => (sharedDocument.parts i).all (· < i) := by
    decide +kernel
  by_cases hid : id < 5
  · simpa using List.all_eq_true.1 hsmall id (List.mem_range.2 hid)
  · simp [parts, node_sharedDocument hid]

theorem withinLimits_sharedDocument : sharedDocument.WithinLimits := by
  have hle : ∀ {k id}, sharedDocument.Visits k id → k + id ≤ 4 := fun h =>
    h.add_le parts_sharedDocument_lt
  refine ⟨fun k id h _ => ?_, fun k id r h hr => ?_⟩
  · have := hle h
    simp only [maxDocumentDepth]
    omega
  · have hsizes : (List.range 5).all fun i =>
        match (sharedDocument.inlineNode 9 [] [] i Memo.empty).result with
        | .ok p => p.1.size ≤ 9
        | .error _ => false := by
      decide +kernel
    have hsize := List.all_eq_true.1 hsizes id (List.mem_range.2 (by have := hle h; omega))
    split at hsize
    · next p hp =>
      obtain rfl := hr.unique (inlineNode_sound _ _ _ _ _ _ _ Memo.sound_empty hp).1
      exact Nat.le_trans (of_decide_eq_true hsize) (by decide)
    · cases hsize

theorem inline_eq_plain_sharedDocument :
    (∃ size, sharedDocument.Inlines sharedDocument.root ⟨sharedTree, size⟩) ∧
      sharedDocument.WithinLimits ∧ sharedDocument.inline.result = .ok sharedTree := by
  have hres : sharedDocument.inline.result = .ok sharedTree := by cbv
  obtain ⟨size, hplain⟩ := ((inline_eq_plain sharedDocument sharedTree).1 hres).1
  exact ⟨⟨size, hplain⟩, withinLimits_sharedDocument,
    (inline_eq_plain sharedDocument sharedTree).2 size hplain withinLimits_sharedDocument⟩

end Document

end SuiteForge
