/-
# Steps of the walk

What the walk with a memo does at one node, as equations on its results: a list's
items and a mapping's values are walked in order with the memo handed on, a
reference's target comes from the memo or from a walk below a longer chain
(`inlineTarget`), and a node is kept, known or expanded (`inlineNode_eq_ok`).
Nothing is said here about what the memo holds.
-/

import SuiteForge.Proofs.Inline.Plain
import SuiteForge.Proofs.Outcome

namespace SuiteForge

namespace Document

variable {d : Document}

/-! ## Parts in order -/

/-- A mapping's values are inlined as the items of a list are. -/
theorem inlineEntries_result (step : InlineStep) (entries : Entries Nat) (m : Memo) :
    (inlineEntries step entries m).result =
      (inlineItems step (entries.map (·.2)) m).result.map
        fun p => ((entries.map (·.1)).zip p.1, p.2) := by
  induction entries generalizing m with
  | nil => rfl
  | cons e rest ih =>
    obtain ⟨key, id⟩ := e
    simp only [inlineEntries, inlineItems, List.map_cons, Logged.result_bind, ih]
    cases (step id m).result with
    | error e => rfl
    | ok p => cases h : (inlineItems step (rest.map (·.2)) p.2).result <;> simp [h, Except.map]

/-- What every step keeps and gives, all steps in a row keep and give. -/
theorem forall₂_inlineItems {step : InlineStep} {P : Memo → Prop} {Q : Nat → Inlined → Prop}
    {items : List Nat} {m m' : Memo} {trees : List Inlined}
    (hstep : ∀ j ∈ items, ∀ m r m', P m → (step j m).result = .ok (r, m') → Q j r ∧ P m')
    (hm : P m) (h : (inlineItems step items m).result = .ok (trees, m')) :
    List.Forall₂ Q items trees ∧ P m' := by
  induction items generalizing m trees with
  | nil =>
    obtain ⟨rfl, rfl⟩ : [] = trees ∧ m = m' := by simpa [inlineItems] using h
    exact ⟨.nil, hm⟩
  | cons j rest ih =>
    simp only [inlineItems, Logged.result_bind, bind_eq_ok, Logged.result_pure] at h
    obtain ⟨⟨r, m₁⟩, hr, ⟨rs, m₂⟩, hrs, heq⟩ := h
    obtain ⟨rfl, rfl⟩ : r :: rs = trees ∧ m₂ = m' := by simpa using heq
    obtain ⟨hq, hm₁⟩ := hstep j List.mem_cons_self m r m₁ hm hr
    obtain ⟨hqs, hm₂⟩ := ih (fun i hi => hstep i (List.mem_cons_of_mem _ hi)) hm₁ hrs
    exact ⟨.cons hq hqs, hm₂⟩

/-- Where every step returns, all steps in a row return. -/
theorem inlineItems_eq_ok {step : InlineStep} {P : Memo → Prop} {trees : Nat → Inlined}
    {items : List Nat} {m : Memo}
    (hstep : ∀ j ∈ items, ∀ m, P m → ∃ m', (step j m).result = .ok (trees j, m') ∧ P m')
    (hm : P m) :
    ∃ m', (inlineItems step items m).result = .ok (items.map trees, m') ∧ P m' := by
  induction items generalizing m with
  | nil => exact ⟨m, rfl, hm⟩
  | cons j rest ih =>
    obtain ⟨m₁, hj, hm₁⟩ := hstep j List.mem_cons_self m hm
    obtain ⟨m₂, hrest, hm₂⟩ := ih (fun i hi => hstep i (List.mem_cons_of_mem _ hi)) hm₁
    refine ⟨m₂, ?_, hm₂⟩
    simp [inlineItems, hj, hrest]

/-! ## One node -/

theorem overlay_result (ref : Text) (target : Inlined) (beside : Entries Inlined) :
    (overlay ref target beside).result = .ok (target.overlaid beside) := by
  unfold overlay Inlined.overlaid
  split
  · next h =>
    obtain rfl := List.isEmpty_iff.1 h
    obtain ⟨value, size⟩ := target
    cases value <;> rfl
  · cases target.value <;> rfl

/-- The tree of a reference's target: the memo's, or else that of the node that the reference
points to, below a chain that ends in the reference. -/
def inlineTarget (d : Document) (inside : List Text → List Nat → InlineStep) (chain : List Text)
    (ref : Text) (m : Memo) : Except Fault (Inlined × Memo) :=
  match m.byRef.lookup ref with
  | some r => .ok (r, m)
  | none => do
    let target ← d.find ref
    let (r, m) ← (inside (chain ++ [ref]) [] target m).result
    .ok (r, m.addRef ref r)

section Expand

variable {inside : List Text → List Nat → InlineStep} {chain : List Text} {active : List Nat}
  {id : Nat} {entries : Entries Nat} {m : Memo}

theorem expand_list {items : List Nat} (node : d.node id = .list items) :
    (d.expand inside chain active id m).result =
      (inlineItems (inside chain active) items m).result.map fun p => (.ofItems p.1, p.2) := by
  simp only [expand, node, Logged.result_bind]
  cases (inlineItems (inside chain active) items m).result <;> rfl

theorem expand_map (node : d.node id = .map entries) (plain : d.reference? entries = none) :
    (d.expand inside chain active id m).result =
      (inlineEntries (inside chain active) entries m).result.map
        fun p => (.ofEntries p.1, p.2) := by
  simp only [expand, node, plain, Logged.result_bind]
  cases (inlineEntries (inside chain active) entries m).result <;> rfl

theorem expand_cycle {ref : Text} (node : d.node id = .map entries)
    (names : d.reference? entries = some ref) (hchain : ref ∈ chain) :
    (d.expand inside chain active id m).result =
      .error (.parse (.circularReference (chain.dropWhile (· != ref) ++ [ref]))) := by
  simp [expand, node, names, hchain]

theorem expand_reference {ref : Text} (node : d.node id = .map entries)
    (names : d.reference? entries = some ref) (hchain : ref ∉ chain) :
    (d.expand inside chain active id m).result =
      (d.inlineTarget inside chain ref m >>= fun p =>
        (inlineEntries (inside chain active) (siblings entries) p.2).result.map
          fun q => (p.1.overlaid q.1, q.2)) := by
  simp only [expand, node, names, List.contains_eq_mem, hchain, decide_false, Bool.false_eq_true,
    if_false, inlineTarget]
  have hrest : ∀ p : Inlined × Memo,
      (inlineEntries (inside chain active) (siblings entries) p.2 >>= fun q => do
        let r ← overlay ref p.1 q.1
        pure (r, q.2)).result =
      (inlineEntries (inside chain active) (siblings entries) p.2).result.map
        fun q => (p.1.overlaid q.1, q.2) := by
    intro p
    simp only [Logged.result_bind, overlay_result]
    cases (inlineEntries (inside chain active) (siblings entries) p.2).result <;> rfl
  cases m.byRef.lookup ref with
  | some r => simpa using hrest (r, m)
  | none =>
    cases hfind : d.find ref with
    | error f => rfl
    | ok target =>
      simp only [Logged.result_bind, Logged.result_ofExcept, ok_bind]
      cases (inside (chain ++ [ref]) [] target m).result with
      | error f => rfl
      | ok p => simpa using hrest (p.1, p.2.addRef ref p.1)

end Expand

/-- **How a walk over a node ends well:** the node is kept, or known, or its parts are inlined. -/
theorem inlineNode_eq_ok {levels : Nat} {chain : List Text} {active : List Nat} {id : Nat}
    {m m' : Memo} {r : Inlined} :
    (d.inlineNode levels chain active id m).result = .ok (r, m') ↔
      ((d.node id).isContainer = false ∧ r = ⟨d.value id, 0⟩ ∧ m' = m) ∨
      ((d.node id).isContainer = true ∧ m.byNode.lookup id = some r ∧ m' = m) ∨
      ((d.node id).isContainer = true ∧ m.byNode.lookup id = none ∧ id ∉ active ∧
        ∃ n m₁, levels = n + 1 ∧ r.size ≤ maxExpandedNodes ∧ m' = m₁.addNode id r ∧
          (d.expand (d.inlineNode n) chain (id :: active) id m).result = .ok (r, m₁)) := by
  unfold inlineNode
  cases hc : (d.node id).isContainer with
  | false =>
    simp only [Bool.not_false, if_true, Logged.result_pure, Except.ok.injEq, Prod.mk.injEq,
      true_and, Bool.false_eq_true, false_and, or_false]
    exact and_congr eq_comm eq_comm
  | true =>
    cases hl : m.byNode.lookup id with
    | some s =>
      simp only [Bool.not_true, Bool.false_eq_true, if_false, Logged.result_pure, Except.ok.injEq,
        Prod.mk.injEq, Bool.true_eq_false, false_and, true_and, false_or, Option.some.injEq,
        reduceCtorEq, or_false]
      exact and_congr_right fun _ => eq_comm
    | none =>
      by_cases ha : id ∈ active
      · simp [ha]
      · simp only [Bool.not_true, Bool.false_eq_true, if_false, List.contains_eq_mem, ha,
          decide_false, false_and, false_or, true_and, not_false_eq_true, reduceCtorEq]
        cases levels with
        | zero => exact iff_of_false (by simp) (by rintro ⟨_, _, h, _⟩; cases h)
        | succ n =>
          simp only [Logged.result_bind, bind_eq_ok]
          constructor
          · rintro ⟨⟨s, m₁⟩, he, hs⟩
            split at hs
            · cases hs
            · next hsize =>
              obtain ⟨rfl, rfl⟩ : s = r ∧ m₁.addNode id s = m' := by simpa using hs
              exact ⟨n, m₁, rfl, Nat.not_lt.1 hsize, rfl, he⟩
          · rintro ⟨_, m₁, hn, hsize, rfl, he⟩
            obtain rfl := Nat.succ.inj hn
            exact ⟨(r, m₁), he, by rw [if_neg (Nat.not_lt.2 hsize), Logged.result_pure]⟩

end Document

end SuiteForge
