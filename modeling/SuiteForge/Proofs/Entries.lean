/-
# Entries laid over entries

Laying entries over others looks at keys only: it commutes with a change of the
values (`Entries.overlay_map`), and every key and every value of the outcome was in one
of the two (`Entries.forall_overlay`). What the values weigh together does not grow
(`Entries.sum_overlay_le`); where no key is there already, nothing is lost
(`Entries.overlay_eq_append`).
-/

import Mathlib
import SuiteForge.Value

namespace SuiteForge

namespace Entries

variable {α β : Type}

theorem insert_map (f : α → β) (key : Scalar) (value : α) (entries : Entries α) :
    insert key (f value) (entries.map fun e => (e.1, f e.2)) =
      (insert key value entries).map fun e => (e.1, f e.2) := by
  induction entries with
  | nil => rfl
  | cons e rest ih =>
    obtain ⟨k, v⟩ := e
    cases h : k.sameKey key <;> simp [insert, h, ih]

theorem overlay_map (f : α → β) (lower upper : Entries α) :
    overlay (lower.map fun e => (e.1, f e.2)) (upper.map fun e => (e.1, f e.2)) =
      (overlay lower upper).map fun e => (e.1, f e.2) := by
  induction upper generalizing lower with
  | nil => rfl
  | cons e rest ih =>
    have := ih (insert e.1 e.2 lower)
    rwa [← insert_map] at this

theorem forall_insert {P : Scalar → Prop} {Q : α → Prop} {key : Scalar} {value : α}
    {entries : Entries α} (hkey : P key) (hvalue : Q value) (h : ∀ e ∈ entries, P e.1 ∧ Q e.2) :
    ∀ e ∈ insert key value entries, P e.1 ∧ Q e.2 := by
  induction entries with
  | nil =>
    intro e he
    obtain rfl := List.mem_singleton.1 he
    exact ⟨hkey, hvalue⟩
  | cons first rest ih =>
    obtain ⟨hfirst, hrest⟩ := List.forall_mem_cons.1 h
    obtain ⟨k, w⟩ := first
    simp only [insert]
    split
    · exact List.forall_mem_cons.2 ⟨⟨hfirst.1, hvalue⟩, hrest⟩
    · exact List.forall_mem_cons.2 ⟨hfirst, ih hrest⟩

/-- What holds of the keys and of the values of both holds of those of the outcome. -/
theorem forall_overlay {P : Scalar → Prop} {Q : α → Prop} {lower upper : Entries α}
    (hlower : ∀ e ∈ lower, P e.1 ∧ Q e.2) (hupper : ∀ e ∈ upper, P e.1 ∧ Q e.2) :
    ∀ e ∈ overlay lower upper, P e.1 ∧ Q e.2 := by
  induction upper generalizing lower with
  | nil => exact hlower
  | cons e rest ih =>
    obtain ⟨he, hrest⟩ := List.forall_mem_cons.1 hupper
    exact ih (forall_insert he.1 he.2 hlower) hrest

theorem mem_overlay {v : α} {lower upper : Entries α}
    (h : v ∈ (overlay lower upper).map (·.2)) :
    v ∈ lower.map (·.2) ∨ v ∈ upper.map (·.2) := by
  obtain ⟨e, he, rfl⟩ := List.mem_map.1 h
  exact (forall_overlay (P := fun _ => True)
    (Q := fun w => w ∈ lower.map (·.2) ∨ w ∈ upper.map (·.2))
    (fun _ he => ⟨trivial, .inl (List.mem_map_of_mem he)⟩)
    (fun _ he => ⟨trivial, .inr (List.mem_map_of_mem he)⟩) e he).2

/-! ## What is lost -/

theorem sum_insert_le (weight : α → Nat) (key : Scalar) (value : α) (entries : Entries α) :
    ((insert key value entries).map fun e => weight e.2).sum ≤
      (entries.map fun e => weight e.2).sum + weight value := by
  induction entries with
  | nil => simp [insert]
  | cons e rest ih =>
    obtain ⟨k, v⟩ := e
    simp only [insert]
    split
    · simp only [List.map_cons, List.sum_cons]
      omega
    · simp only [List.map_cons, List.sum_cons]
      omega

/-- **The values of the outcome weigh no more than those of both together.** -/
theorem sum_overlay_le (weight : α → Nat) (lower upper : Entries α) :
    ((overlay lower upper).map fun e => weight e.2).sum ≤
      (lower.map fun e => weight e.2).sum + (upper.map fun e => weight e.2).sum := by
  induction upper generalizing lower with
  | nil => simp [overlay]
  | cons e rest ih =>
    have hrest := ih (insert e.1 e.2 lower)
    have hfirst := sum_insert_le weight e.1 e.2 lower
    rw [List.map_cons, List.sum_cons]
    show ((overlay (insert e.1 e.2 lower) rest).map fun e => weight e.2).sum ≤ _
    omega

theorem insert_eq_append {key : Scalar} {value : α} {entries : Entries α}
    (h : ∀ e ∈ entries, e.1.sameKey key = false) :
    insert key value entries = entries ++ [(key, value)] := by
  induction entries with
  | nil => rfl
  | cons e rest ih =>
    obtain ⟨he, hrest⟩ := List.forall_mem_cons.1 h
    rw [insert, he, if_neg Bool.false_ne_true, ih hrest, List.cons_append]

/-- **Entries with new keys, each once, come behind those that are there.** -/
theorem overlay_eq_append {lower upper : Entries α}
    (new : ∀ l ∈ lower, ∀ u ∈ upper, l.1.sameKey u.1 = false)
    (once : upper.Pairwise fun a b => a.1.sameKey b.1 = false) :
    overlay lower upper = lower ++ upper := by
  induction upper generalizing lower with
  | nil => rw [List.append_nil]; rfl
  | cons e rest ih =>
    obtain ⟨hfirst, hrest⟩ := List.pairwise_cons.1 once
    have hinsert : insert e.1 e.2 lower = lower ++ [e] :=
      insert_eq_append fun l hl => new l hl e List.mem_cons_self
    have hnew : ∀ l ∈ lower ++ [e], ∀ u ∈ rest, l.1.sameKey u.1 = false := by
      intro l hl u hu
      rcases List.mem_append.1 hl with hl | hl
      · exact new l hl u (List.mem_cons_of_mem _ hu)
      · rw [List.mem_singleton.1 hl]
        exact hfirst u hu
    show overlay (insert e.1 e.2 lower) rest = _
    rw [hinsert, ih hnew hrest, List.append_assoc, List.singleton_append]

end Entries

end SuiteForge
