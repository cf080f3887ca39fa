/-
# What holds along a walk

A walk goes on from a node in two ways: to what the node holds, under the same chain of
references, and to the target of its reference, under a longer chain and with no active
nodes. So what is to be shown of every fault of a walk is shown once for each kind of
fault, at the positions that these two ways lead to (`WalkRule`, `WalkRule.inlineNode`).
-/

import SuiteForge.Proofs.Inline.Walk

namespace SuiteForge

namespace Document

variable {d : Document}

/-! ## Pointers -/

/-- What holds of a part that leads nowhere, and of digits that are not read, holds of every fault
of one part of a pointer. -/
theorem child_failsOnly_of {P : Fault → Prop} {ref part : Text}
    (dangling : P (.parse (.danglingReference ref)))
    (index : ∀ f, part.isDigits = true → Numeral.read 10 part = .error f →
      P (.stray (.numeral f))) (id : Nat) : FailsOnly P (d.child ref id part) := by
  unfold child
  split
  · split
    · exact failsOnly_ok _
    · exact failsOnly_error dangling
  · split
    · next digits =>
      split
      · next f read => exact failsOnly_error (index f digits read)
      · split
        · exact failsOnly_ok _
        · exact failsOnly_error dangling
    · exact failsOnly_error dangling
  · exact failsOnly_error dangling

/-- The faults of following parts are those of one of them. -/
theorem foldlM_child_failsOnly_of {P : Fault → Prop} {ref : Text} {parts : List Text}
    (h : ∀ part ∈ parts, ∀ id, FailsOnly P (d.child ref id part)) (id : Nat) :
    FailsOnly P (parts.foldlM (d.child ref) id) := by
  induction parts generalizing id with
  | nil => exact failsOnly_ok id
  | cons part rest ih =>
    obtain ⟨hpart, hrest⟩ := List.forall_mem_cons.1 h
    rw [List.foldlM_cons]
    exact (hpart id).bind fun j _ => ih hrest j

/-- The faults of following a reference are those of its parts, unless it is no pointer into the
document. -/
theorem find_failsOnly_of {P : Fault → Prop} {ref : Text}
    (external : P (.parse (.externalReference ref)))
    (parts : ∀ parts, pointerParts? ref = some parts → ∀ part ∈ parts, ∀ id,
      FailsOnly P (d.child ref id part)) : FailsOnly P (d.find ref) := by
  unfold find
  split
  · exact failsOnly_error external
  · next all split => exact foldlM_child_failsOnly_of (parts all split) d.root

/-! ## Parts in order -/

theorem inlineItems_failsOnly {P : Fault → Prop} {step : InlineStep} {items : List Nat}
    (hstep : ∀ j ∈ items, ∀ m, FailsOnly P (step j m).result) (m : Memo) :
    FailsOnly P (inlineItems step items m).result := by
  induction items generalizing m with
  | nil => exact failsOnly_ok _
  | cons j rest ih =>
    obtain ⟨hj, hrest⟩ := List.forall_mem_cons.1 hstep
    refine (hj m).bind_result fun p _ => ?_
    exact (ih hrest p.2).bind_result fun _ _ => failsOnly_ok _

theorem inlineEntries_failsOnly {P : Fault → Prop} {step : InlineStep} {entries : Entries Nat}
    (hstep : ∀ e ∈ entries, ∀ m, FailsOnly P (step e.2 m).result) (m : Memo) :
    FailsOnly P (inlineEntries step entries m).result := by
  rw [inlineEntries_result]
  refine (inlineItems_failsOnly (fun j hj m => ?_) m).map _
  obtain ⟨e, he, rfl⟩ := List.mem_map.1 hj
  exact hstep e he m

/-! ## Positions -/

/-- A list or a mapping holds a node: as an item, or as the value of an entry. -/
inductive Holds (d : Document) : Nat → Nat → Prop
  | item {id j : Nat} {items : List Nat} (node : d.node id = .list items) (mem : j ∈ items) :
      Holds d j id
  | entry {id : Nat} {entries : Entries Nat} {e : Scalar × Nat} (node : d.node id = .map entries)
      (mem : e ∈ entries) : Holds d e.2 id

theorem mem_of_mem_siblings {entries : Entries Nat} {e : Scalar × Nat} (h : e ∈ siblings entries) :
    e ∈ entries :=
  (List.mem_filter.1 h).1

/-- **A rule for walks.** `At chain active id` is kept on both ways from a node, and each fault that
a walk can have at a node has `P`. -/
structure WalkRule (d : Document) (At : List Text → List Nat → Nat → Prop) (P : Fault → Prop) :
    Prop where
  held : ∀ {chain active id j}, At chain active id → d.Part j id → d.Holds j id →
    At chain (id :: active) j
  target : ∀ {chain active id entries ref j}, At chain active id → d.node id = .map entries →
    d.reference? entries = some ref → d.find ref = .ok j → At (chain ++ [ref]) [] j
  find : ∀ {chain active id entries ref}, At chain active id → d.node id = .map entries →
    d.reference? entries = some ref → FailsOnly P (d.find ref)
  circular : ∀ {chain active id entries ref}, At chain active id → d.node id = .map entries →
    d.reference? entries = some ref → ref ∈ chain →
    P (.parse (.circularReference (chain.dropWhile (· != ref) ++ [ref])))
  again : ∀ {chain active id}, At chain active id → id ∈ active → P (.parse .aliasCycle)
  deep : P (.parse .nestedTooDeep)
  large : P (.parse .tooManyNodes)

namespace WalkRule

variable {At : List Text → List Nat → Nat → Prop} {P : Fault → Prop}

/-- One node: what is inside it stands at positions that the rule speaks of. -/
theorem expand (rule : d.WalkRule At P) {inside : List Text → List Nat → InlineStep}
    (hinside : ∀ chain active j m, At chain active j →
      FailsOnly P (inside chain active j m).result)
    {chain : List Text} {active : List Nat} {id : Nat} (h : At chain active id) (m : Memo) :
    FailsOnly P (d.expand inside chain (id :: active) id m).result := by
  cases node : d.node id with
  | list items =>
    rw [expand_list node]
    exact (inlineItems_failsOnly (fun j hj m => hinside _ _ j m
      (rule.held h (part_of_list node hj) (.item node hj))) m).map _
  | map entries =>
    cases names : d.reference? entries with
    | none =>
      rw [expand_map node names]
      exact (inlineEntries_failsOnly (fun e he m => hinside _ _ e.2 m
        (rule.held h (part_of_map node names he) (.entry node he))) m).map _
    | some ref =>
      by_cases hchain : ref ∈ chain
      · rw [expand_cycle node names hchain]
        exact failsOnly_error (rule.circular h node names hchain)
      · rw [expand_reference node names hchain]
        have hbeside : ∀ e ∈ siblings entries, At chain (id :: active) e.2 := fun e he =>
          rule.held h (part_of_sibling node names he) (.entry node (mem_of_mem_siblings he))
        refine FailsOnly.bind ?_ fun p _ => (inlineEntries_failsOnly
          (fun e he m => hinside _ _ e.2 m (hbeside e he)) p.2).map _
        unfold inlineTarget
        split
        · exact failsOnly_ok _
        · refine (rule.find h node names).bind fun target found => ?_
          exact (hinside _ _ target m (rule.target h node names found)).bind fun _ _ =>
            failsOnly_ok _
  | scalar _ | tuple _ | set _ =>
    simp only [Document.expand, node]
    exact failsOnly_ok _

/-- One step of the walk, where the rule covers what is walked below it. -/
theorem step (rule : d.WalkRule At P) {levels : Nat}
    (below : ∀ n, levels = n + 1 → ∀ chain active j m, At chain active j →
      FailsOnly P (d.inlineNode n chain active j m).result)
    {chain : List Text} {active : List Nat} {id : Nat} (h : At chain active id) (m : Memo) :
    FailsOnly P (d.inlineNode levels chain active id m).result := by
  unfold Document.inlineNode
  split
  · exact failsOnly_ok _
  · split
    · exact failsOnly_ok _
    · split
      · next ha => exact failsOnly_error (rule.again h (by simpa using ha))
      · cases levels with
        | zero => exact failsOnly_error rule.deep
        | succ n =>
          refine (rule.expand (below n rfl) h m).bind_result fun ⟨r, _⟩ _ => ?_
          by_cases hsize : maxExpandedNodes < r.size
          all_goals simp only [hsize, if_true, if_false]
          · exact failsOnly_error rule.large
          · exact failsOnly_ok _

/-- **Every fault of a walk has what the rule says of faults.** -/
theorem inlineNode (rule : d.WalkRule At P) (levels : Nat) {chain : List Text} {active : List Nat}
    {id : Nat} (h : At chain active id) (m : Memo) :
    FailsOnly P (d.inlineNode levels chain active id m).result := by
  induction levels generalizing chain active id m with
  | zero => exact rule.step (fun n hn => by cases hn) h m
  | succ n ih =>
    refine rule.step (fun n' hn chain active j m hj => ?_) h m
    obtain rfl := Nat.succ.inj hn
    exact ih hj m

/-- The whole document, where the rule speaks of its root. -/
theorem inline (rule : d.WalkRule At P) (root : At [] [] d.root) :
    FailsOnly P d.inline.result :=
  (rule.inlineNode _ root Memo.empty).bind_result fun _ _ => failsOnly_ok _

end WalkRule

end Document

end SuiteForge
