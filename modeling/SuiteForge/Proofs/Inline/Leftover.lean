/-
# References that are left

A mapping is a reference if its entry `$ref` is a text, and inlining replaces it. But an entry
`$ref` that is no text is an entry like any other; if it is a reference itself, and that one points
to a text, a mapping comes out whose entry `$ref` is a text. Nothing else leaves a reference
(`Inlines.refers_iff`): what is laid over a target has no entry `$ref`, so a mapping has the one
that it came down to.
-/

import SuiteForge.Proofs.Inline.Nesting

namespace SuiteForge

/-- The key of references. -/
def referenceKey : Scalar := .text "$ref"

/-- In the tree, reached through values of mappings and items of lists, a mapping has a text as its
entry `$ref`. -/
inductive Value.Refers : Value → Prop
  | here {entries : List (Scalar × Value)} {ref : Text}
      (names : Entries.find? referenceKey entries = some (.scalar (.text ref))) :
      Refers (.map entries)
  | item {items : List Value} {v : Value} (mem : v ∈ items) (inside : Refers v) :
      Refers (.list items)
  | entry {entries : List (Scalar × Value)} {e : Scalar × Value} (mem : e ∈ entries)
      (inside : Refers e.2) : Refers (.map entries)

/-! ## Keys of entries laid over entries -/

namespace Entries

variable {α β : Type} {key : Scalar}

theorem find?_map (f : α → β) (entries : Entries α) :
    find? key (entries.map fun e => (e.1, f e.2)) = (find? key entries).map f := by
  induction entries with
  | nil => rfl
  | cons e rest ih =>
    cases h : e.1.sameKey key with
    | true => simp [find?, h]
    | false =>
      have hskip : ∀ a : α, find? key ((e.1, a) :: rest) = find? key rest := fun a => by
        simp [find?, h]
      have hskip' : ∀ b : β, find? key ((e.1, b) :: rest.map fun e => (e.1, f e.2)) =
          find? key (rest.map fun e => (e.1, f e.2)) := fun b => by
        simp [find?, h]
      rw [List.map_cons, hskip', ih, hskip e.2]

theorem mem_of_find? {entries : Entries α} {a : α} (h : find? key entries = some a) :
    a ∈ entries.map (·.2) := by
  obtain ⟨e, he, rfl⟩ := Option.map_eq_some_iff.1 h
  exact List.mem_map_of_mem (List.mem_of_find?_eq_some he)

/-- A value at another key changes nothing at a key. -/
theorem find?_insert_of_ne {other : Scalar} (h : other.sameKey key = false) (value : α)
    (entries : Entries α) : find? key (insert other value entries) = find? key entries := by
  induction entries with
  | nil => simp [insert, find?, h]
  | cons e rest ih =>
    obtain ⟨k, v⟩ := e
    simp only [insert]
    split
    · next hsame =>
      have hk : k.sameKey key = false := by
        rw [Scalar.sameKey, of_decide_eq_true hsame]
        exact h
      simp [find?, hk]
    · simp only [find?] at ih
      cases hk : k.sameKey key <;> simp [find?, hk, ih]

/-- Entries laid over others change nothing at a key that they have not. -/
theorem find?_overlay_of_ne {lower upper : Entries α}
    (h : ∀ u ∈ upper, u.1.sameKey key = false) :
    find? key (overlay lower upper) = find? key lower := by
  induction upper generalizing lower with
  | nil => rfl
  | cons u rest ih =>
    obtain ⟨hu, hrest⟩ := List.forall_mem_cons.1 h
    exact (ih hrest).trans (find?_insert_of_ne hu u.2 lower)

end Entries

namespace Document

variable {d : Document}

theorem sameKey_siblings {entries : Entries Nat} :
    ∀ u ∈ siblings entries, u.1.sameKey referenceKey = false := by
  intro u hu
  have hne : u.1 ≠ referenceKey := bne_iff_ne.1 (List.mem_filter.1 hu).2
  rw [Bool.eq_false_iff]
  exact fun hsame => hne (Scalar.sameKey_text_iff.1 hsame)

/-- A mapping is a reference if its entry `$ref` is a text. -/
theorem reference?_eq_some_iff {entries : Entries Nat} {ref : Text} :
    d.reference? entries = some ref ↔
      ∃ j, Entries.find? referenceKey entries = some j ∧ d.node j = .scalar (.text ref) := by
  unfold Document.reference?
  rw [show Scalar.text "$ref" = referenceKey from rfl]
  cases Entries.find? referenceKey entries with
  | none => simp
  | some j =>
    rw [Option.map_some]
    constructor
    · intro h
      split at h
      · next htext =>
        obtain rfl := Option.some.inj h
        exact ⟨j, rfl, Option.some.inj htext⟩
      · cases h
    · rintro ⟨i, hi, hnode⟩
      rw [Option.some.inj hi, hnode]

/-! ## What a node comes down to -/

/-- What is no collection has nothing laid over it. -/
theorem Becomes.node_last {id last : Nat} {n : Node} (h : d.Becomes id last n)
    (leaf : n.isContainer = false) : n = d.node last := by
  induction h with
  | self => rfl
  | @target _ _ _ _ _ n _ _ _ _ ih =>
    rw [Node.isContainer_overlaid] at leaf
    rw [← ih leaf]
    cases n with
    | map _ => cases leaf
    | _ => rfl

/-- The last node is no reference. -/
theorem Becomes.referenceAt?_last {id last : Nat} {n : Node} (h : d.Becomes id last n) :
    d.referenceAt? last = none := by
  induction h with
  | self plain => exact plain
  | target _ _ _ _ ih => exact ih

/-- A mapping has the entry `$ref` that it came down to. -/
theorem Becomes.find?_referenceKey {id last : Nat} {n : Node} {entries : Entries Nat}
    (h : d.Becomes id last n) (hn : n = .map entries) :
    ∃ lower, d.node last = .map lower ∧
      Entries.find? referenceKey entries = Entries.find? referenceKey lower := by
  induction h generalizing entries with
  | self => exact ⟨entries, hn, rfl⟩
  | @target _ beside _ _ _ n _ _ _ _ ih =>
    cases n with
    | map upper =>
      obtain rfl := Node.map.inj hn
      obtain ⟨lower, hlower, hfind⟩ := ih rfl
      exact ⟨lower, hlower, (Entries.find?_overlay_of_ne sameKey_siblings).trans hfind⟩
    | _ => cases hn

/-- What a node comes down to holds nodes below it. -/
theorem Becomes.transGen_part {id last j : Nat} {n : Node} (h : d.Becomes id last n)
    (hj : j ∈ n.held) : Relation.TransGen d.Part j id := by
  induction h with
  | @self id plain =>
    refine .single ?_
    cases node : d.node id with
    | list items =>
      rw [node] at hj
      exact part_of_list node hj
    | map entries =>
      rw [node] at hj
      obtain ⟨e, he, rfl⟩ := List.mem_map.1 hj
      exact part_of_map node ((referenceAt?_of_map node).symm.trans plain) he
    | _ => simp [node, Node.held] at hj
  | target node names found _ ih =>
    rcases Node.mem_held_overlaid hj with hj | hj
    · exact (ih hj).tail (part_of_target node names found)
    · obtain ⟨e, he, rfl⟩ := List.mem_map.1 hj
      exact .single (part_of_sibling node names he)

/-! ## What is left -/

/-- Below a node a reference is left: some node comes down to a mapping whose entry `$ref` comes
down to a text. -/
inductive Leaves (d : Document) : Nat → Prop
  | here {id last j last' : Nat} {entries : Entries Nat} {ref : Text}
      (becomes : d.Becomes id last (.map entries))
      (key : Entries.find? referenceKey entries = some j)
      (text : d.Becomes j last' (.scalar (.text ref))) : Leaves d id
  | held {id last j : Nat} {n : Node} (becomes : d.Becomes id last n) (held : j ∈ n.held)
      (inside : Leaves d j) : Leaves d id

theorem leaves_iff_of_becomes {id last : Nat} {n : Node} (h : d.Becomes id last n) :
    d.Leaves id ↔
      (∃ entries j last' ref, n = .map entries ∧ Entries.find? referenceKey entries = some j ∧
        d.Becomes j last' (.scalar (.text ref))) ∨
      ∃ j ∈ n.held, d.Leaves j := by
  constructor
  · intro hleaves
    cases hleaves with
    | here becomes key text =>
      obtain ⟨rfl, rfl⟩ := h.unique becomes
      exact .inl ⟨_, _, _, _, rfl, key, text⟩
    | held becomes held inside =>
      obtain ⟨rfl, rfl⟩ := h.unique becomes
      exact .inr ⟨_, held, inside⟩
  · rintro (⟨entries, j, last', ref, rfl, key, text⟩ | ⟨j, held, inside⟩)
    · exact .here h key text
    · exact .held h held inside

/-- What is no list and no mapping refers to nothing. -/
theorem not_refers_value {id : Nat} (leaf : (d.node id).isContainer = false) :
    ¬(d.value id).Refers := by
  unfold value unfold
  intro h
  cases node : d.node id with
  | list _ => simp [node, Node.isContainer] at leaf
  | map _ => simp [node, Node.isContainer] at leaf
  | _ =>
    simp [node] at h
    cases h

theorem Node.refers_filled_iff {trees : Nat → Value} {kept : Value} {n : Node} :
    (n.filled trees kept).Refers ↔
      (∃ entries j ref, n = .map entries ∧ Entries.find? referenceKey entries = some j ∧
        trees j = .scalar (.text ref)) ∨
      (∃ j ∈ n.held, (trees j).Refers) ∨
      (n.isContainer = false ∧ kept.Refers) := by
  cases n with
  | list items =>
    simp only [filled, held, isContainer, Bool.true_eq_false, false_and, or_false]
    constructor
    · intro h
      cases h with
      | item mem inside =>
        obtain ⟨j, hj, rfl⟩ := List.mem_map.1 mem
        exact .inr ⟨j, hj, inside⟩
    · rintro (⟨_, _, _, h, -⟩ | ⟨j, hj, h⟩)
      · cases h
      · exact .item (List.mem_map_of_mem hj) h
  | map entries =>
    simp only [filled, held, isContainer, Bool.true_eq_false, false_and, or_false]
    constructor
    · intro h
      cases h with
      | here names =>
        rw [Entries.find?_map] at names
        obtain ⟨j, hj, htext⟩ := Option.map_eq_some_iff.1 names
        exact .inl ⟨entries, j, _, rfl, hj, htext⟩
      | entry mem inside =>
        obtain ⟨e, he, rfl⟩ := List.mem_map.1 mem
        exact .inr ⟨e.2, List.mem_map_of_mem he, inside⟩
    · rintro (⟨_, j, ref, heq, hj, htext⟩ | ⟨j, hj, h⟩)
      · obtain rfl := Node.map.inj heq
        have hnames : Entries.find? referenceKey (entries.map fun e => (e.1, trees e.2)) =
            some (.scalar (.text ref)) := by
          rw [Entries.find?_map, hj, Option.map_some, htext]
        exact .here hnames
      · obtain ⟨e, he, rfl⟩ := List.mem_map.1 hj
        exact .entry (e := (e.1, trees e.2)) (List.mem_map_of_mem he) h
  | scalar _ => simp [filled, held, isContainer]
  | tuple _ => simp [filled, held, isContainer]
  | set _ => simp [filled, held, isContainer]

/-- What has a text for its tree is that text. -/
theorem value_eq_text_iff {id : Nat} {ref : Text} :
    d.value id = .scalar (.text ref) ↔ d.node id = .scalar (.text ref) := by
  refine ⟨fun h => ?_, value_of_scalar⟩
  unfold value unfold at h
  cases node : d.node id <;> simp_all

theorem Node.filled_eq_text {trees : Nat → Value} {kept : Value} {n : Node} {ref : Text}
    (h : n.filled trees kept = .scalar (.text ref)) :
    n.isContainer = false ∧ kept = .scalar (.text ref) := by
  cases n with
  | list _ => cases h
  | map _ => cases h
  | _ => exact ⟨rfl, h⟩

/-- The tree of a node is a text just when the node comes down to it. -/
theorem Inlines.value_eq_text_iff {id : Nat} {r : Inlined} {ref : Text} (h : d.Inlines id r) :
    r.value = .scalar (.text ref) ↔ ∃ last, d.Becomes id last (.scalar (.text ref)) := by
  obtain ⟨last, n, hbecomes, hvalue, -⟩ := h.filled
  constructor
  · intro htext
    obtain ⟨hleaf, hkept⟩ := Node.filled_eq_text (hvalue.symm.trans htext)
    refine ⟨last, ?_⟩
    rwa [hbecomes.node_last hleaf, Document.value_eq_text_iff.1 hkept] at hbecomes
  · rintro ⟨last', htext⟩
    obtain ⟨rfl, rfl⟩ := hbecomes.unique htext
    rw [hvalue]
    exact value_of_scalar (hbecomes.node_last rfl).symm

/-- **A tree has a reference left just when its node has.** -/
theorem Inlines.refers_iff {id : Nat} {r : Inlined} (h : d.Inlines id r) :
    r.value.Refers ↔ d.Leaves id := by
  induction h.acc.transGen generalizing r with
  | intro id _ ih =>
    obtain ⟨last, n, hbecomes, hvalue, hheld⟩ := h.filled
    have htext : ∀ j ∈ n.held, ∀ ref, (d.tree j).value = .scalar (.text ref) ↔
        ∃ last', d.Becomes j last' (.scalar (.text ref)) := fun j hj ref =>
      (hheld j hj).value_eq_text_iff
    have hinside : ∀ j ∈ n.held, (d.tree j).value.Refers ↔ d.Leaves j := fun j hj =>
      ih j (hbecomes.transGen_part hj) (hheld j hj)
    have hkept : ¬(n.isContainer = false ∧ (d.value last).Refers) := fun hleaf =>
      not_refers_value (hbecomes.isContainer.trans hleaf.1) hleaf.2
    rw [hvalue, Node.refers_filled_iff, leaves_iff_of_becomes hbecomes, or_iff_left hkept]
    refine or_congr ?_ (exists_congr fun j => and_congr_right fun hj => hinside j hj)
    constructor
    · rintro ⟨entries, j, ref, rfl, hkey, hvalue⟩
      have hj : j ∈ (Node.map entries).held := Entries.mem_of_find? hkey
      obtain ⟨last', hbecomes'⟩ := (htext j hj ref).1 hvalue
      exact ⟨entries, j, last', ref, rfl, hkey, hbecomes'⟩
    · rintro ⟨entries, j, last', ref, rfl, hkey, hbecomes'⟩
      have hj : j ∈ (Node.map entries).held := Entries.mem_of_find? hkey
      exact ⟨entries, j, ref, rfl, hkey, (htext j hj ref).2 ⟨last', hbecomes'⟩⟩

/-- **Where a reference is left, some mapping has a reference as its entry `$ref`.** -/
theorem Leaves.exists_reference {id : Nat} (h : d.Leaves id) :
    ∃ i entries j, d.node i = .map entries ∧ Entries.find? referenceKey entries = some j ∧
      (d.referenceAt? j).isSome = true := by
  induction h with
  | @here id last j last' entries ref becomes key text =>
    obtain ⟨lower, node, hfind⟩ := becomes.find?_referenceKey rfl
    have hkey : Entries.find? referenceKey lower = some j := hfind.symm.trans key
    refine ⟨last, lower, j, node, hkey, ?_⟩
    rw [Option.isSome_iff_ne_none]
    intro hplain
    -- The entry is no reference, so it is a text, and the mapping that has it was one.
    have htext : d.node j = .scalar (.text ref) := ((Becomes.self hplain).unique text).2
    have hlast : d.referenceAt? last = some ref :=
      (referenceAt?_of_map node).trans (reference?_eq_some_iff.2 ⟨j, hkey, htext⟩)
    cases hlast.symm.trans becomes.referenceAt?_last
  | held _ _ _ ih => exact ih

end Document

end SuiteForge
