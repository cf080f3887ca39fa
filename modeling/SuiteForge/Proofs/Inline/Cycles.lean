/-
# Reported cycles

Two detectors stop a walk: the chain of the references being inlined, and the active nodes
since the last of them.

| fault | reports |
| --- | --- |
| `circularReference` | references, of which each next one occurs inside the target of the one before |
| `aliasCycle` | a mapping or a list that contains itself, no reference being followed |

What the chain and the active nodes say of a position is kept along the walk (`Traced`), so
either report is genuine, and the document is endless (`inline_cycle_genuine`). A document in
which nothing stands below itself is not reported, however its nodes are shared.
-/

import SuiteForge.Proofs.Inline.Complete
import SuiteForge.Proofs.Inline.Rule

namespace SuiteForge

namespace Document

variable {d : Document}

/-! ## Endless documents -/

/-- Plain inlining of the document does not end: some descent from the root has no last node. -/
def Endless (d : Document) : Prop :=
  ∃ path : ℕ → ℕ, path 0 = d.root ∧ ∀ n, d.Part (path (n + 1)) (path n)

theorem endless_iff_not_acc : d.Endless ↔ ¬ Acc d.Part d.root :=
  not_acc_iff_exists_descending_chain.symm

theorem acc_of_visits {k id : ℕ} (h : Acc d.Part d.root) (visits : d.Visits k id) :
    Acc d.Part id := by
  induction visits with
  | root => exact h
  | part _ hpart ih => exact ih.inv hpart

theorem transGen_of_lt {path : ℕ → ℕ} (hpath : ∀ n, d.Part (path (n + 1)) (path n)) {m n : ℕ}
    (h : m < n) : Relation.TransGen d.Part (path n) (path m) := by
  induction n, h using Nat.le_induction with
  | base => exact .single (hpath m)
  | succ n _ ih => exact .head (hpath n) ih

theorem visits_of_path {path : ℕ → ℕ} (hroot : path 0 = d.root)
    (hpath : ∀ n, d.Part (path (n + 1)) (path n)) (n : ℕ) : d.Visits n (path n) := by
  induction n with
  | zero => exact hroot ▸ .root
  | succ n ih => exact ih.part (hpath n)

/-- **A document is endless just when a node that is visited stands below itself.** -/
theorem endless_iff :
    d.Endless ↔ ∃ k id, d.Visits k id ∧ Relation.TransGen d.Part id id := by
  constructor
  · rintro ⟨path, hroot, hpath⟩
    -- The path stays among finitely many nodes, so it comes to one of them twice.
    let place : ℕ → Fin d.nodes.size := fun n => ⟨path n, lt_size_of_part (hpath n)⟩
    obtain ⟨m, n, hne, heq⟩ := Finite.exists_ne_map_eq_of_infinite place
    have hsame : path m = path n := Fin.mk.inj heq
    have hvisits : ∀ i, d.Visits i (path i) := visits_of_path hroot hpath
    rcases Nat.lt_or_gt_of_ne hne with hlt | hlt
    · have hbelow := transGen_of_lt hpath hlt
      rw [← hsame] at hbelow
      exact ⟨m, path m, hvisits m, hbelow⟩
    · have hbelow := transGen_of_lt hpath hlt
      rw [hsame] at hbelow
      exact ⟨n, path n, hvisits n, hbelow⟩
  · rintro ⟨k, id, visits, hself⟩
    rw [endless_iff_not_acc]
    intro hroot
    have hacc := (acc_of_visits hroot visits).transGen
    clear visits
    induction hacc with
    | intro a _ ih => exact ih a hself hself

/-- An endless document has no tree. -/
theorem Endless.not_inlines (h : d.Endless) (r : Inlined) : ¬ d.Inlines d.root r :=
  fun hr => endless_iff_not_acc.1 h hr.acc

/-! ## Reports -/

/-- One reference occurs inside the target of another: it is that of a mapping which is the target,
or which lies in it, reached through values and items alone. -/
def Follows (d : Document) (ref next : Text) : Prop :=
  ∃ target id entries, d.find ref = .ok target ∧ Relation.ReflTransGen d.Holds id target ∧
    d.node id = .map entries ∧ d.reference? entries = some next

/-- A cycle of references as it is reported: it ends with the reference that it begins with. -/
structure ReferenceCycle (d : Document) (cycle : List Text) : Prop where
  closed : ∃ ref between, cycle = ref :: (between ++ [ref])
  resolves : ∀ ref ∈ cycle, ∃ target, d.find ref = .ok target
  follows : cycle.IsChain d.Follows

/-- A mapping or a list contains itself, reached through values and items alone. -/
def ContainsItself (d : Document) (id : ℕ) : Prop :=
  (d.node id).isContainer = true ∧ Relation.TransGen d.Holds id id

/-- The faults of inlining by what they report. -/
inductive CycleReport (d : Document) : Fault → Prop
  | references {cycle : List Text} (genuine : d.ReferenceCycle cycle) (endless : d.Endless) :
      CycleReport d (.parse (.circularReference cycle))
  | nodes {id : ℕ} (genuine : d.ContainsItself id) (endless : d.Endless) :
      CycleReport d (.parse .aliasCycle)
  | other {f : Fault} (references : ∀ cycle, f ≠ .parse (.circularReference cycle))
      (nodes : f ≠ .parse .aliasCycle) : CycleReport d f

theorem Holds.isContainer {j id : ℕ} (h : d.Holds j id) : (d.node id).isContainer = true := by
  cases h with
  | item node _ => rw [node]; rfl
  | entry node _ => rw [node]; rfl

theorem isContainer_of_transGen {j id : ℕ} (h : Relation.TransGen d.Holds j id) :
    (d.node id).isContainer = true := by
  cases h with
  | single h => exact h.isContainer
  | tail _ h => exact h.isContainer

/-! ## Positions of the walk -/

/-- What the chain and the active nodes say of a position: every active node holds it, and it lies
inside the target of the chain's last reference. -/
structure Traced (d : Document) (chain : List Text) (active : List ℕ) (id : ℕ) : Prop where
  active : ∀ a ∈ active, Relation.TransGen d.Holds id a
  resolves : ∀ ref ∈ chain, ∃ target, d.find ref = .ok target
  follows : chain.IsChain d.Follows
  last : ∀ ref ∈ chain.getLast?, ∀ target, d.find ref = .ok target →
    Relation.ReflTransGen d.Holds id target

namespace Traced

variable {chain : List Text} {active : List ℕ} {id j : ℕ} {entries : Entries ℕ} {ref : Text}

theorem root : d.Traced [] [] d.root where
  active := fun _ h => absurd h List.not_mem_nil
  resolves := fun _ h => absurd h List.not_mem_nil
  follows := .nil
  last := fun _ h => by cases h

theorem held (h : d.Traced chain active id) (hj : d.Holds j id) :
    d.Traced chain (id :: active) j where
  active := by
    intro a ha
    rcases List.mem_cons.1 ha with rfl | ha
    · exact .single hj
    · exact .head hj (h.active a ha)
  resolves := h.resolves
  follows := h.follows
  last := fun ref hr target found => .head hj (h.last ref hr target found)

/-- The reference of the node at hand follows the last one of the chain. -/
theorem isChain_append (h : d.Traced chain active id) (node : d.node id = .map entries)
    (names : d.reference? entries = some ref) : (chain ++ [ref]).IsChain d.Follows := by
  refine List.isChain_append.2 ⟨h.follows, .singleton ref, fun last hlast next hnext => ?_⟩
  obtain rfl : ref = next := by simpa using hnext
  obtain ⟨target, found⟩ := h.resolves last (List.mem_of_mem_getLast? hlast)
  exact ⟨target, id, entries, found, h.last last hlast target found, node, names⟩

theorem target (h : d.Traced chain active id) (node : d.node id = .map entries)
    (names : d.reference? entries = some ref) (found : d.find ref = .ok j) :
    d.Traced (chain ++ [ref]) [] j where
  active := fun _ ha => absurd ha List.not_mem_nil
  resolves := by
    intro ref' hr
    rcases List.mem_append.1 hr with hr | hr
    · exact h.resolves ref' hr
    · exact ⟨j, List.mem_singleton.1 hr ▸ found⟩
  follows := h.isChain_append node names
  last := by
    intro ref' hr target found'
    obtain rfl : ref = ref' := by simpa using hr
    obtain rfl := Except.ok.inj (found.symm.trans found')
    exact .refl

/-- **The chain from a reference on, and that reference again, are a cycle.** -/
theorem referenceCycle (h : d.Traced chain active id) (node : d.node id = .map entries)
    (names : d.reference? entries = some ref) (hchain : ref ∈ chain) :
    d.ReferenceCycle (chain.dropWhile (· != ref) ++ [ref]) where
  closed := by
    have hne : chain.dropWhile (· != ref) ≠ [] := by
      intro hnil
      have := List.dropWhile_eq_nil_iff.1 hnil ref hchain
      simp at this
    obtain ⟨first, between, hdrop⟩ := List.exists_cons_of_ne_nil hne
    have hfirst : ¬ (first != ref) = true := by
      have := List.head_dropWhile_not (· != ref) hne
      simpa [hdrop] using this
    obtain rfl : first = ref := by simpa using hfirst
    exact ⟨first, between, by rw [hdrop, List.cons_append]⟩
  resolves := by
    intro ref' hr
    rcases List.mem_append.1 hr with hr | hr
    · exact h.resolves ref' ((List.dropWhile_sublist _).subset hr)
    · exact h.resolves ref' (List.mem_singleton.1 hr ▸ hchain)
  follows := by
    have hsuffix : chain.dropWhile (· != ref) ++ [ref] <:+ chain ++ [ref] := by
      obtain ⟨front, hfront⟩ := List.dropWhile_suffix (l := chain) (· != ref)
      exact ⟨front, by rw [← List.append_assoc, hfront]⟩
    exact (h.isChain_append node names).suffix hsuffix

end Traced

/-! ## The walk -/

/-- Following a reference reports no cycle. -/
theorem find_reports (d : Document) (ref : Text) : FailsOnly d.CycleReport (d.find ref) := by
  have hparse : ∀ f, (∀ cycle, f ≠ ParseFault.circularReference cycle) → f ≠ .aliasCycle →
      d.CycleReport (.parse f) := by
    intro f hreferences hnodes
    exact .other (fun cycle h => hreferences cycle (Fault.parse.inj h))
      fun h => hnodes (Fault.parse.inj h)
  have hstray : ∀ s, d.CycleReport (.stray s) := fun s =>
    .other (fun _ h => by cases h) fun h => by cases h
  refine find_failsOnly_of (hparse _ (fun _ h => by cases h) fun h => by cases h) ?_
  intro parts _ part _ id
  exact child_failsOnly_of (hparse _ (fun _ h => by cases h) fun h => by cases h)
    (fun _ _ _ => hstray _) id

/-- A walk stays at positions that its chain and its active nodes lead down to. -/
theorem walkRule_traced (d : Document) :
    d.WalkRule (fun chain active id => (∃ k, d.Reached k chain active id) ∧
      d.Traced chain active id) d.CycleReport where
  held := fun ⟨⟨k, hreached⟩, htraced⟩ hpart hholds =>
    ⟨⟨k + 1, hreached.part hpart⟩, htraced.held hholds⟩
  target := fun ⟨⟨k, hreached⟩, htraced⟩ node names found =>
    ⟨⟨k + 1, hreached.target found (part_of_target node names found)⟩,
      htraced.target node names found⟩
  find := fun _ _ _ => find_reports d _
  circular := by
    rintro chain active id entries ref ⟨⟨k, hreached⟩, htraced⟩ node names hchain
    obtain ⟨target, found⟩ := htraced.resolves ref hchain
    have hpart : d.Part target id := part_of_target node names found
    -- The target is below the node at hand, which is below the target.
    have hself : Relation.TransGen d.Part target target :=
      .head' hpart (hreached.chain ref hchain target found)
    have hendless : d.Endless := endless_iff.2 ⟨k + 1, target, hreached.visits.part hpart, hself⟩
    exact .references (htraced.referenceCycle node names hchain) hendless
  again := by
    rintro chain active id ⟨⟨k, hreached⟩, htraced⟩ hactive
    have hself : Relation.TransGen d.Holds id id := htraced.active id hactive
    have hendless : d.Endless :=
      endless_iff.2 ⟨k, id, hreached.visits, hreached.active id hactive⟩
    exact .nodes ⟨isContainer_of_transGen hself, hself⟩ hendless
  deep := .other (fun _ h => by cases h) fun h => by cases h
  large := .other (fun _ h => by cases h) fun h => by cases h

theorem inline_reports (d : Document) : FailsOnly d.CycleReport d.inline.result :=
  d.walkRule_traced.inline ⟨⟨0, .root⟩, .root⟩

/-- **Reported cycles are genuine, and endless documents are not inlined.** A circular reference
that is reported is a cycle of references of the document, and a self-reference that is reported
is that of a list or a mapping; in either case plain inlining does not end. Where no visited node
stands below itself, neither is reported; and what is inlined is not endless. -/
theorem inline_cycle_genuine (d : Document) :
    (∀ cycle, d.inline.result = .error (.parse (.circularReference cycle)) →
      d.ReferenceCycle cycle ∧ d.Endless) ∧
    (d.inline.result = .error (.parse .aliasCycle) →
      (∃ id, d.ContainsItself id) ∧ d.Endless) ∧
    ((∀ k id, d.Visits k id → ¬ Relation.TransGen d.Part id id) →
      (∀ cycle, d.inline.result ≠ .error (.parse (.circularReference cycle))) ∧
        d.inline.result ≠ .error (.parse .aliasCycle)) ∧
    (d.Endless → ∀ v, d.inline.result ≠ .ok v) := by
  have hreferences : ∀ cycle, d.inline.result = .error (.parse (.circularReference cycle)) →
      d.ReferenceCycle cycle ∧ d.Endless := by
    intro cycle h
    cases inline_reports d _ h with
    | references genuine endless => exact ⟨genuine, endless⟩
    | other references _ => exact absurd rfl (references cycle)
  have hnodes : d.inline.result = .error (.parse .aliasCycle) →
      (∃ id, d.ContainsItself id) ∧ d.Endless := by
    intro h
    cases inline_reports d _ h with
    | nodes genuine endless => exact ⟨⟨_, genuine⟩, endless⟩
    | other _ nodes => exact absurd rfl nodes
  refine ⟨hreferences, hnodes, fun hshared => ?_, fun hendless v h => ?_⟩
  · have hends : ¬ d.Endless := by
      rw [endless_iff]
      rintro ⟨k, id, visits, hself⟩
      exact hshared k id visits hself
    exact ⟨fun cycle h => hends (hreferences cycle h).2, fun h => hends (hnodes h).2⟩
  · obtain ⟨size, hplain⟩ := inlines_of_inline h
    exact hendless.not_inlines _ hplain

/-- `{a: {$ref: "#/b"}, b: {x: {$ref: "#/a"}}}` -/
def mutualDocument : Document :=
  ⟨#[.scalar (.text "#/b"), .map [(.text "$ref", 0)], .scalar (.text "#/a"),
    .map [(.text "$ref", 2)], .map [(.text "x", 3)], .map [(.text "a", 1), (.text "b", 4)]], 5⟩

/-- `{a: &x [*x]}` -/
def selfDocument : Document := ⟨#[.list [0], .map [(.text "a", 0)]], 1⟩

theorem not_below_self_sharedDocument (id : ℕ) :
    ¬ Relation.TransGen sharedDocument.Part id id := by
  intro h
  have hlt : ∀ {j i}, Relation.TransGen sharedDocument.Part j i → j < i := by
    intro j i hji
    induction hji with
    | single hpart => exact parts_sharedDocument_lt _ _ hpart
    | tail _ hpart ih => exact ih.trans (parts_sharedDocument_lt _ _ hpart)
  exact Nat.lt_irrefl id (hlt h)

theorem inline_cycle_genuine_mutualDocument :
    (mutualDocument.ReferenceCycle ["#/b", "#/a", "#/b"] ∧ mutualDocument.Endless) ∧
      ((∃ id, selfDocument.ContainsItself id) ∧ selfDocument.Endless) ∧
      sharedDocument.inline.result ≠ .error (.parse .aliasCycle) ∧
      ∀ v, selfDocument.inline.result ≠ .ok v := by
  have hmutual : mutualDocument.inline.result =
      .error (.parse (.circularReference ["#/b", "#/a", "#/b"])) := by cbv
  have hself : selfDocument.inline.result = .error (.parse .aliasCycle) := by cbv
  have hshared := (inline_cycle_genuine sharedDocument).2.2.1 fun _ id _ =>
    not_below_self_sharedDocument id
  obtain ⟨hcontains, hendless⟩ := (inline_cycle_genuine selfDocument).2.1 hself
  exact ⟨(inline_cycle_genuine mutualDocument).1 _ hmutual, ⟨hcontains, hendless⟩, hshared.2,
    (inline_cycle_genuine selfDocument).2.2.2 hendless⟩

end Document

end SuiteForge
