/-
# What the memo holds

What is in the memo was inlined under some chain of references, some active nodes
and some depth. Its tree depends on none of them: it is the tree of plain inlining,
and that is all that the invariant of the memo says (`Memo.Sound`). Every walk that
returns keeps it, and gives the plain tree (`inlineNode_sound`).
-/

import SuiteForge.Proofs.Inline.Walk

namespace SuiteForge

/-- What the memo holds are plain trees: of its nodes, and of the targets of its references. -/
structure Memo.Sound (d : Document) (m : Memo) : Prop where
  byNode : ∀ {id r}, m.byNode.lookup id = some r → d.Inlines id r
  byRef : ∀ {ref r}, m.byRef.lookup ref = some r →
    ∃ target, d.find ref = .ok target ∧ d.Inlines target r

namespace Memo

variable {d : Document} {m : Memo}

theorem sound_empty : empty.Sound d := ⟨by simp [empty], by simp [empty]⟩

theorem Sound.addNode {id : Nat} {r : Inlined} (h : m.Sound d) (hr : d.Inlines id r) :
    (m.addNode id r).Sound d := by
  refine ⟨fun {j s} hs => ?_, fun hs => h.byRef hs⟩
  rw [Memo.addNode, List.lookup_cons] at hs
  split at hs
  · next hj =>
    obtain rfl := Option.some.inj hs
    exact (beq_iff_eq.1 hj) ▸ hr
  · exact h.byNode hs

theorem Sound.addRef {ref : Text} {target : Nat} {r : Inlined} (h : m.Sound d)
    (found : d.find ref = .ok target) (hr : d.Inlines target r) : (m.addRef ref r).Sound d := by
  refine ⟨fun hs => h.byNode hs, fun {ref' s} hs => ?_⟩
  rw [Memo.addRef, List.lookup_cons] at hs
  split at hs
  · next hj =>
    obtain rfl := Option.some.inj hs
    exact ⟨target, (beq_iff_eq.1 hj) ▸ found, hr⟩
  · exact h.byRef hs

end Memo

namespace Document

variable {d : Document}

/-- What a step gives below any chain of references and any active nodes is the plain tree. -/
def Sound (d : Document) (inside : List Text → List Nat → InlineStep) : Prop :=
  ∀ chain active j m r m', m.Sound d → (inside chain active j m).result = .ok (r, m') →
    d.Inlines j r ∧ m'.Sound d

section Sound

variable {inside : List Text → List Nat → InlineStep} {chain : List Text} {active : List Nat}
  {m m' : Memo}

theorem Sound.items {items : List Nat} {rs : List Inlined} (hinside : d.Sound inside)
    (hm : m.Sound d) (h : (inlineItems (inside chain active) items m).result = .ok (rs, m')) :
    rs = items.map d.tree ∧ (∀ j ∈ items, d.Inlines j (d.tree j)) ∧ m'.Sound d := by
  obtain ⟨hrs, hm'⟩ := forall₂_inlineItems (fun j _ => hinside chain active j) hm h
  obtain ⟨heq, hitems⟩ := Inlines.eq_map_tree hrs
  exact ⟨heq, hitems, hm'⟩

theorem Sound.entries {entries : Entries Nat} {rs : Entries Inlined} (hinside : d.Sound inside)
    (hm : m.Sound d) (h : (inlineEntries (inside chain active) entries m).result = .ok (rs, m')) :
    rs = entries.map (fun e => (e.1, d.tree e.2)) ∧ (∀ e ∈ entries, d.Inlines e.2 (d.tree e.2)) ∧
      m'.Sound d := by
  rw [inlineEntries_result, map_eq_ok] at h
  obtain ⟨⟨rs', m₁⟩, h, heq⟩ := h
  obtain ⟨rfl, rfl⟩ := Prod.mk.inj heq
  obtain ⟨rfl, hitems, hm'⟩ := hinside.items hm h
  refine ⟨?_, fun e he => hitems _ (List.mem_map_of_mem he), hm'⟩
  rw [List.map_map, List.zip_map', Function.comp_def]

end Sound

theorem inlineTarget_sound {inside : List Text → List Nat → InlineStep} (hinside : d.Sound inside)
    {chain : List Text} {ref : Text} {m m' : Memo} {r : Inlined} (hm : m.Sound d)
    (h : d.inlineTarget inside chain ref m = .ok (r, m')) :
    ∃ target, d.find ref = .ok target ∧ d.Inlines target r ∧ m'.Sound d := by
  unfold inlineTarget at h
  split at h
  · next hl =>
    obtain ⟨rfl, rfl⟩ := Prod.mk.inj (Except.ok.inj h)
    obtain ⟨target, found, hr⟩ := hm.byRef hl
    exact ⟨target, found, hr, hm⟩
  · simp only [bind_eq_ok] at h
    obtain ⟨target, found, ⟨s, m₁⟩, hs, heq⟩ := h
    obtain ⟨rfl, rfl⟩ := Prod.mk.inj (Except.ok.inj heq)
    obtain ⟨hr, hm₁⟩ := hinside _ _ target m s m₁ hm hs
    exact ⟨target, found, hr, hm₁.addRef found hr⟩

theorem expand_sound {inside : List Text → List Nat → InlineStep} (hinside : d.Sound inside)
    {chain : List Text} {active : List Nat} {id : Nat} {m m' : Memo} {r : Inlined}
    (hc : (d.node id).isContainer = true) (hm : m.Sound d)
    (h : (d.expand inside chain active id m).result = .ok (r, m')) :
    d.Inlines id r ∧ m'.Sound d := by
  cases node : d.node id with
  | list items =>
    rw [expand_list node, map_eq_ok] at h
    obtain ⟨⟨rs, m₁⟩, hrs, heq⟩ := h
    obtain ⟨rfl, rfl⟩ := Prod.mk.inj heq
    obtain ⟨rfl, hitems, hm₁⟩ := hinside.items hm hrs
    exact ⟨.list d.tree node hitems, hm₁⟩
  | map entries =>
    cases names : d.reference? entries with
    | none =>
      rw [expand_map node names, map_eq_ok] at h
      obtain ⟨⟨rs, m₁⟩, hrs, heq⟩ := h
      obtain ⟨rfl, rfl⟩ := Prod.mk.inj heq
      obtain ⟨rfl, hentries, hm₁⟩ := hinside.entries hm hrs
      exact ⟨.map d.tree node names hentries, hm₁⟩
    | some ref =>
      by_cases hchain : ref ∈ chain
      · rw [expand_cycle node names hchain] at h
        cases h
      · rw [expand_reference node names hchain, bind_eq_ok] at h
        obtain ⟨⟨s, m₁⟩, hs, h⟩ := h
        obtain ⟨⟨rs, m₂⟩, hrs, heq⟩ := map_eq_ok.1 h
        obtain ⟨rfl, rfl⟩ := Prod.mk.inj heq
        obtain ⟨target, found, hr, hm₁⟩ := inlineTarget_sound hinside hm hs
        obtain ⟨rfl, hbeside, hm₂⟩ := hinside.entries hm₁ hrs
        exact ⟨.reference d.tree node names found hr hbeside, hm₂⟩
  | scalar _ => simp [node, Node.isContainer] at hc
  | tuple _ => simp [node, Node.isContainer] at hc
  | set _ => simp [node, Node.isContainer] at hc

/-- **A walk that returns gives the plain tree,** whatever the memo has learnt elsewhere. -/
theorem inlineNode_sound (levels : Nat) : d.Sound (d.inlineNode levels) := by
  induction levels with
  | zero =>
    intro chain active id m r m' hm h
    rcases inlineNode_eq_ok.1 h with ⟨leaf, rfl, rfl⟩ | ⟨-, hl, rfl⟩ | ⟨-, -, -, n, -, hn, -⟩
    · exact ⟨.kept leaf, hm⟩
    · exact ⟨hm.byNode hl, hm⟩
    · cases hn
  | succ n ih =>
    intro chain active id m r m' hm h
    rcases inlineNode_eq_ok.1 h with
      ⟨leaf, rfl, rfl⟩ | ⟨-, hl, rfl⟩ | ⟨hc, -, -, _, m₁, hn, -, rfl, he⟩
    · exact ⟨.kept leaf, hm⟩
    · exact ⟨hm.byNode hl, hm⟩
    · obtain rfl := Nat.succ.inj hn
      obtain ⟨hr, hm₁⟩ := expand_sound ih hc hm he
      exact ⟨hr, hm₁.addNode hr⟩

/-- What inlining gives is what the walk from the root gives. -/
theorem exists_walk_of_inline {v : Value} (h : d.inline.result = .ok v) :
    ∃ r m, (d.inlineNode (maxDocumentDepth + 1) [] [] d.root Memo.empty).result = .ok (r, m) ∧
      r.value = v := by
  simp only [inline, Logged.result_bind, bind_eq_ok, Logged.result_pure] at h
  obtain ⟨⟨r, m⟩, hwalk, heq⟩ := h
  exact ⟨r, m, hwalk, Except.ok.inj heq⟩

/-- What inlining gives is the plain tree of the root. -/
theorem inlines_of_inline {v : Value} (h : d.inline.result = .ok v) :
    ∃ size, d.Inlines d.root ⟨v, size⟩ := by
  obtain ⟨r, m, hwalk, rfl⟩ := exists_walk_of_inline h
  exact ⟨r.size, (inlineNode_sound _ _ _ _ _ _ _ Memo.sound_empty hwalk).1⟩

end Document

end SuiteForge
