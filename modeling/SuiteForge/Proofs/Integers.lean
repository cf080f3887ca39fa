/-
# Integers that are not written

An integer of too many digits is not written out (`Oversized`), and where one stands in a value,
among its keys too, the value has no text (`Value.HoldsLarge`). An integer of a tree without
references stands at a node of its document (`Document.Inlines.exists_node_holds`).
-/

import SuiteForge.Proofs.Entries
import SuiteForge.Proofs.Inline.Plain
import SuiteForge.Proofs.Outcome

namespace SuiteForge

/-! ## Integers of values -/

/-- An integer of more digits than are written. -/
def Oversized (n : Int) : Prop := Nat.pow 10 maxDecimalDigits ≤ n.natAbs

theorem not_oversized {n : Int} (h : n.natAbs < 10) : ¬ Oversized n := by
  unfold Oversized
  generalize hd : maxDecimalDigits = digits
  have hten : 10 ≤ Nat.pow 10 digits := Nat.le_self_pow (by rw [← hd]; decide) 10
  exact fun hlarge => absurd (Nat.le_trans hten hlarge) (Nat.not_le.2 h)

theorem Numeral.fails_write (n : Int) :
    Fails (fun f => f = .tooLarge ∧ Oversized n) (Numeral.write n) := by
  unfold Numeral.write Oversized
  split
  · next h => exact fails_ok.congr fun _ => iff_of_false id fun ⟨_, hn⟩ => Nat.not_lt.2 hn h
  · next h => exact fails_error ⟨rfl, Nat.not_lt.1 h⟩

namespace Scalar

/-- The scalar is an integer that is not written. -/
def Large (s : Scalar) : Prop := ∃ n, s = .int n ∧ Oversized n

theorem fails_quoted (s : Scalar) : Fails (fun f => f = .tooLarge ∧ s.Large) s.quoted := by
  cases s with
  | int n => exact (Numeral.fails_write n).congr (by simp [Large])
  | _ => exact fails_ok.congr (by simp [Large])

theorem fails_display (s : Scalar) : Fails (fun f => f = .tooLarge ∧ s.Large) s.display := by
  cases s with
  | text _ | date _ | moment _ => exact fails_ok.congr (by simp [Large])
  | _ => exact fails_quoted _

end Scalar

namespace Value

/-- An integer stands in a tree, among its keys too. -/
inductive Holds (n : Int) : Value → Prop
  | scalar : Holds n (.scalar (.int n))
  | item {items : List Value} {v : Value} (mem : v ∈ items) (inside : Holds n v) :
      Holds n (.list items)
  | key {entries : List (Scalar × Value)} {e : Scalar × Value} (mem : e ∈ entries)
      (key : e.1 = .int n) : Holds n (.map entries)
  | entry {entries : List (Scalar × Value)} {e : Scalar × Value} (mem : e ∈ entries)
      (inside : Holds n e.2) : Holds n (.map entries)
  | part {items : List Value} {v : Value} (mem : v ∈ items) (inside : Holds n v) :
      Holds n (.tuple items)
  | member {members : List Scalar} (mem : .int n ∈ members) : Holds n (.set members)

/-- Some integer of the tree is not written. -/
def HoldsLarge (v : Value) : Prop := ∃ n, v.Holds n ∧ Oversized n

theorem holdsLarge_scalar {s : Scalar} : (scalar s).HoldsLarge ↔ s.Large := by
  constructor
  · rintro ⟨n, h, hn⟩
    cases h
    exact ⟨n, rfl, hn⟩
  · rintro ⟨n, rfl, hn⟩
    exact ⟨n, .scalar, hn⟩

theorem holdsLarge_list {items : List Value} :
    (list items).HoldsLarge ↔ ∃ v ∈ items, v.HoldsLarge := by
  constructor
  · rintro ⟨n, h, hn⟩
    cases h with
    | item mem inside => exact ⟨_, mem, n, inside, hn⟩
  · rintro ⟨v, hv, n, h, hn⟩
    exact ⟨n, .item hv h, hn⟩

theorem holdsLarge_tuple {items : List Value} :
    (tuple items).HoldsLarge ↔ ∃ v ∈ items, v.HoldsLarge := by
  constructor
  · rintro ⟨n, h, hn⟩
    cases h with
    | part mem inside => exact ⟨_, mem, n, inside, hn⟩
  · rintro ⟨v, hv, n, h, hn⟩
    exact ⟨n, .part hv h, hn⟩

theorem holdsLarge_map {entries : List (Scalar × Value)} :
    (map entries).HoldsLarge ↔ ∃ e ∈ entries, e.1.Large ∨ e.2.HoldsLarge := by
  constructor
  · rintro ⟨n, h, hn⟩
    cases h with
    | key mem key => exact ⟨_, mem, .inl ⟨n, key, hn⟩⟩
    | entry mem inside => exact ⟨_, mem, .inr ⟨n, inside, hn⟩⟩
  · rintro ⟨e, he, ⟨n, h, hn⟩ | ⟨n, h, hn⟩⟩
    · exact ⟨n, .key he h, hn⟩
    · exact ⟨n, .entry he h, hn⟩

theorem holdsLarge_set {members : List Scalar} :
    (set members).HoldsLarge ↔ ∃ s ∈ members, s.Large := by
  constructor
  · rintro ⟨n, h, hn⟩
    cases h with
    | member mem => exact ⟨_, mem, n, rfl, hn⟩
  · rintro ⟨_, hs, n, rfl, hn⟩
    exact ⟨n, .member hs, hn⟩

theorem not_holdsLarge_enclosing {levels : Nat} {shape : Shape} :
    ¬ (enclosing levels shape).HoldsLarge := by
  rintro ⟨n, h, -⟩
  cases h

end Value

/-! ## Integers of documents -/

namespace Document

variable {d : Document}

/-- An integer stands at a node itself: as the node, a key or a member. -/
inductive Node.Holds (n : Int) : Node → Prop
  | scalar : Holds n (.scalar (.int n))
  | key {entries : Entries Nat} {e : Scalar × Nat} (mem : e ∈ entries) (key : e.1 = .int n) :
      Holds n (.map entries)
  | member {members : List Scalar} (mem : .int n ∈ members) : Holds n (.set members)

@[simp] theorem Node.holds_scalar {n : Int} {s : Scalar} :
    (Node.scalar s).Holds n ↔ s = .int n := by
  constructor
  · rintro ⟨⟩
    rfl
  · rintro rfl
    exact .scalar

@[simp] theorem Node.not_holds_list {n : Int} {items : List Nat} : ¬ (Node.list items).Holds n :=
  nofun

@[simp] theorem Node.holds_map {n : Int} {entries : Entries Nat} :
    (Node.map entries).Holds n ↔ ∃ e ∈ entries, e.1 = .int n := by
  constructor
  · rintro (_ | ⟨mem, key⟩)
    exact ⟨_, mem, key⟩
  · rintro ⟨e, mem, key⟩
    exact .key mem key

theorem exists_node_holds_of_unfold {n : Int} {fuel id : Nat} {path : List (Nat × Shape)}
    (h : (d.unfold fuel path id).Holds n) : ∃ j, (d.node j).Holds n := by
  induction fuel generalizing path id with
  | zero => cases h
  | succ fuel ih =>
    unfold unfold at h
    split at h
    · cases h
    · cases node : d.node id with
      | scalar s =>
        simp only [node] at h
        cases h
        exact ⟨id, node ▸ .scalar⟩
      | list items =>
        simp only [node] at h
        cases h with
        | item mem inside =>
          obtain ⟨j, -, rfl⟩ := List.mem_map.1 mem
          exact ih inside
      | map entries =>
        simp only [node] at h
        cases h with
        | key mem key =>
          obtain ⟨e, he, rfl⟩ := List.mem_map.1 mem
          exact ⟨id, node ▸ .key he key⟩
        | entry mem inside =>
          obtain ⟨e, -, rfl⟩ := List.mem_map.1 mem
          exact ih inside
      | tuple items =>
        simp only [node] at h
        cases h with
        | part mem inside =>
          obtain ⟨j, -, rfl⟩ := List.mem_map.1 mem
          exact ih inside
      | set members =>
        simp only [node] at h
        cases h with
        | member mem => exact ⟨id, node ▸ .member mem⟩

/-- **An integer of a tree without references stands at a node of the document.** -/
theorem Inlines.exists_node_holds {n : Int} {id : Nat} {r : Inlined} (h : d.Inlines id r)
    (hn : r.value.Holds n) : ∃ j, (d.node j).Holds n := by
  induction h with
  | kept leaf => exact exists_node_holds_of_unfold hn
  | list trees node _ ih =>
    cases hn with
    | item mem inside =>
      simp only [List.map_map, List.mem_map] at mem
      obtain ⟨j, hj, rfl⟩ := mem
      exact ih j hj inside
  | @map id entries trees node plain _ ih =>
    simp only [Inlined.ofEntries, List.map_map] at hn
    cases hn with
    | key mem key =>
      obtain ⟨e, he, rfl⟩ := List.mem_map.1 mem
      exact ⟨id, node ▸ .key he key⟩
    | entry mem inside =>
      obtain ⟨e, he, rfl⟩ := List.mem_map.1 mem
      exact ih e he inside
  | @reference id entries ref target r trees node names found _ _ ih ihBeside =>
    unfold Inlined.overlaid at hn
    split at hn
    · next lower hlower =>
      rw [hlower] at ih
      have hupper : ∀ e ∈ ((siblings entries).map fun e => (e.1, trees e.2)).map
          fun e => (e.1, e.2.value),
          (e.1 = .int n → ∃ j, (d.node j).Holds n) ∧ (e.2.Holds n → ∃ j, (d.node j).Holds n) := by
        intro e he
        simp only [List.map_map, List.mem_map] at he
        obtain ⟨e, he, rfl⟩ := he
        have hmem : e ∈ entries := List.mem_of_mem_filter he
        exact ⟨fun hk => ⟨id, node ▸ .key hmem hk⟩, ihBeside e he⟩
      have hall := Entries.forall_overlay (P := fun k => k = .int n → ∃ j, (d.node j).Holds n)
        (Q := fun v => v.Holds n → ∃ j, (d.node j).Holds n)
        (fun e he => ⟨fun hk => ih (.key he hk), fun hv => ih (.entry he hv)⟩) hupper
      cases hn with
      | key mem key => exact (hall _ mem).1 key
      | entry mem inside => exact (hall _ mem).2 inside
    · exact ih hn

end Document

end SuiteForge
