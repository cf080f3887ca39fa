/-
# Tables that are made by altering

A table is often made by altering, for each item in turn, the entry of the item's key. It
then has the keys in the order in which they come first, each with what its own items come
to (`Assoc.foldl_alter`). A table made from pairs has their keys in that order too, each with
the value of its last pair (`Assoc.mem_ofPairs`).
-/

import Mathlib
import SuiteForge.Assoc

namespace SuiteForge

section EraseDups

variable {κ : Type} [BEq κ] [LawfulBEq κ]

theorem eraseDups_append_of_mem {keys : List κ} {key : κ} (h : key ∈ keys) :
    (keys ++ [key]).eraseDups = keys.eraseDups := by
  rw [List.eraseDups_append]
  simp [List.removeAll, h]

theorem eraseDups_append_of_not_mem {keys : List κ} {key : κ} (h : key ∉ keys) :
    (keys ++ [key]).eraseDups = keys.eraseDups ++ [key] := by
  rw [List.eraseDups_append]
  simp [List.removeAll, h, List.eraseDups_cons]

theorem nodup_eraseDups (keys : List κ) : keys.eraseDups.Nodup := by
  induction keys using List.reverseRecOn with
  | nil => exact List.nodup_nil
  | append_singleton keys key ih =>
    by_cases h : key ∈ keys
    · rwa [eraseDups_append_of_mem h]
    · rw [eraseDups_append_of_not_mem h, List.nodup_append]
      refine ⟨ih, List.nodup_singleton key, fun k hk k' hk' => ?_⟩
      rintro rfl
      rw [List.mem_singleton.1 hk', List.mem_eraseDups] at hk
      exact h hk

end EraseDups

variable {κ α β : Type} [DecidableEq κ]

/-- **Items that are gathered by their keys are the items in another order.** -/
theorem flatMap_filter_perm (key : β → κ) {keys : List κ} {xs : List β} (once : keys.Nodup)
    (all : ∀ x ∈ xs, key x ∈ keys) :
    (keys.flatMap fun k => xs.filter fun x => key x = k).Perm xs := by
  induction keys generalizing xs with
  | nil =>
    cases xs with
    | nil => exact .nil
    | cons x xs => exact absurd (all x List.mem_cons_self) List.not_mem_nil
  | cons k keys ih =>
    obtain ⟨hk, hkeys⟩ := List.nodup_cons.1 once
    have hother : keys.flatMap (fun j => xs.filter fun x => key x = j) =
        keys.flatMap fun j => (xs.filter fun x => !decide (key x = k)).filter fun x => key x = j := by
      rw [List.flatMap_def, List.flatMap_def]
      refine congrArg _ (List.map_congr_left fun j hj => ?_)
      rw [List.filter_filter]
      refine List.filter_congr fun x _ => ?_
      have hjk : j ≠ k := fun h => hk (h ▸ hj)
      by_cases hx : key x = j <;> simp [hx, hjk]
    have hrest : ∀ x ∈ xs.filter fun x => !decide (key x = k), key x ∈ keys := by
      intro x hx
      obtain ⟨hmem, hne⟩ := List.mem_filter.1 hx
      exact (List.mem_cons.1 (all x hmem)).resolve_left (by simpa using hne)
    rw [List.flatMap_cons, hother]
    exact ((ih hkeys hrest).append_left _).trans (List.filter_append_perm _ xs)

namespace Assoc

theorem alter_map_of_mem {keys : List κ} {key : κ} {f : Option α → α} {v w : κ → α}
    (once : keys.Nodup) (h : key ∈ keys) (here : f (some (v key)) = w key)
    (elsewhere : ∀ k, k ≠ key → v k = w k) :
    alter key f (keys.map fun k => (k, v k)) = keys.map fun k => (k, w k) := by
  induction keys with
  | nil => cases h
  | cons k rest ih =>
    obtain ⟨hk, hrest⟩ := List.nodup_cons.1 once
    rw [List.map_cons, List.map_cons, alter]
    by_cases heq : k = key
    · subst heq
      rw [if_pos rfl, here]
      refine congrArg _ (List.map_congr_left fun j hj => ?_)
      rw [elsewhere j fun hjk => hk (hjk ▸ hj)]
    · have hmem : key ∈ rest := (List.mem_cons.1 h).resolve_left (Ne.symm heq)
      rw [if_neg heq, ih hrest hmem, elsewhere k heq]

theorem alter_map_of_not_mem {keys : List κ} {key : κ} {f : Option α → α} {v : κ → α}
    (h : key ∉ keys) : alter key f (keys.map fun k => (k, v k)) =
      (keys.map fun k => (k, v k)) ++ [(key, f none)] := by
  induction keys with
  | nil => rfl
  | cons k rest ih =>
    rw [List.mem_cons, not_or] at h
    rw [List.map_cons, alter, if_neg (Ne.symm h.1), ih h.2, List.cons_append]

/-- **A table made by altering has each key once, in the order in which the keys come first,** with
the total of the items that have it. -/
theorem foldl_alter [BEq κ] [LawfulBEq κ] (key : β → κ) (f : β → Option α → α) (total : List β → α)
    (first : ∀ x, f x none = total [x]) (more : ∀ x ys, f x (some (total ys)) = total (ys ++ [x]))
    (xs : List β) :
    xs.foldl (fun a x => alter (key x) (f x) a) [] =
      (xs.map key).eraseDups.map fun k => (k, total (xs.filter fun x => key x = k)) := by
  induction xs using List.reverseRecOn with
  | nil => rfl
  | append_singleton xs x ih =>
    have hother : ∀ k, k ≠ key x →
        total (xs.filter fun y => key y = k) = total ((xs ++ [x]).filter fun y => key y = k) := by
      intro k hk
      simp [List.filter_append, hk.symm]
    rw [List.foldl_append, ih, List.foldl_cons, List.foldl_nil, List.map_append, List.map_singleton]
    by_cases h : key x ∈ xs.map key
    · rw [eraseDups_append_of_mem h]
      refine alter_map_of_mem (nodup_eraseDups _) (List.mem_eraseDups.2 h) ?_ hother
      rw [more]
      simp [List.filter_append]
    · have hnone : xs.filter (fun y => key y = key x) = [] := by
        rw [List.filter_eq_nil_iff]
        intro y hy heq
        exact h (of_decide_eq_true heq ▸ List.mem_map_of_mem hy)
      rw [eraseDups_append_of_not_mem h, List.map_append, List.map_singleton,
        alter_map_of_not_mem fun hmem => h (List.mem_eraseDups.1 hmem)]
      congr 1
      · refine List.map_congr_left fun k hk => ?_
        rw [hother k fun heq => h (heq ▸ List.mem_eraseDups.1 hk)]
      · rw [first, List.filter_append, hnone]
        simp

theorem insert_of_not_mem {key : κ} {value : α} {a : Assoc κ α} (h : key ∉ a.map (·.1)) :
    insert key value a = a ++ [(key, value)] := by
  induction a with
  | nil => rfl
  | cons e rest ih =>
    rw [List.map_cons, List.mem_cons, not_or] at h
    rw [insert, if_neg (Ne.symm h.1), ih h.2, List.cons_append]

/-- Pairs with new keys that come once each are set at the end of a table. -/
theorem foldl_insert_of_nodup {pairs : List (κ × α)} {a : Assoc κ α}
    (once : ((a ++ pairs).map (·.1)).Nodup) :
    pairs.foldl (fun a e => insert e.1 e.2 a) a = a ++ pairs := by
  induction pairs generalizing a with
  | nil => exact (List.append_nil a).symm
  | cons e rest ih =>
    have hnew : e.1 ∉ a.map (·.1) := by
      rw [List.map_append, List.nodup_append] at once
      exact fun hmem => once.2.2 e.1 hmem e.1 List.mem_cons_self rfl
    rw [List.foldl_cons, insert_of_not_mem hnew, ih, List.append_assoc, List.singleton_append]
    rwa [List.append_assoc, List.singleton_append]

/-- Pairs with keys that come once each are a table already. -/
theorem ofPairs_of_nodup {pairs : List (κ × α)} (once : (pairs.map (·.1)).Nodup) :
    ofPairs pairs = pairs :=
  foldl_insert_of_nodup (a := []) once

theorem insert_ne_nil (key : κ) (value : α) (a : Assoc κ α) : insert key value a ≠ [] := by
  cases a with
  | nil => exact List.cons_ne_nil _ _
  | cons e rest =>
    rw [insert]
    split
    · exact List.cons_ne_nil _ _
    · exact List.cons_ne_nil _ _

theorem mem_insert_self (key : κ) (value : α) (a : Assoc κ α) :
    (key, value) ∈ insert key value a := by
  induction a with
  | nil => exact List.mem_cons_self
  | cons e rest ih =>
    rw [insert]
    split
    · next hkey => exact hkey ▸ List.mem_cons_self
    · exact List.mem_cons_of_mem _ ih

theorem mem_insert_of_ne {key : κ} {value : α} {a : Assoc κ α} {e : κ × α} (he : e ∈ a)
    (hne : e.1 ≠ key) : e ∈ insert key value a := by
  induction a with
  | nil => cases he
  | cons first rest ih =>
    rw [insert]
    rcases List.mem_cons.1 he with rfl | he
    · rw [if_neg hne]
      exact List.mem_cons_self
    · split
      · exact List.mem_cons_of_mem _ he
      · exact List.mem_cons_of_mem _ (ih he)

/-- Pairs with keys that come once each are in a table into which they are set. -/
theorem mem_foldl_insert {pairs : List (κ × α)} {a : Assoc κ α} {e : κ × α} (he : e ∈ pairs)
    (once : (pairs.map (·.1)).Nodup) : e ∈ pairs.foldl (fun a e => insert e.1 e.2 a) a := by
  have hkept : ∀ (pairs : List (κ × α)) (a : Assoc κ α), e ∈ a → e.1 ∉ pairs.map (·.1) →
      e ∈ pairs.foldl (fun a e => insert e.1 e.2 a) a := by
    intro pairs
    induction pairs with
    | nil => exact fun _ ha _ => ha
    | cons first rest ih =>
      intro a ha hnew
      rw [List.map_cons, List.mem_cons, not_or] at hnew
      exact ih _ (mem_insert_of_ne ha hnew.1) hnew.2
  induction pairs generalizing a with
  | nil => cases he
  | cons first rest ih =>
    rw [List.map_cons, List.nodup_cons] at once
    rcases List.mem_cons.1 he with rfl | he
    · exact hkept rest _ (mem_insert_self _ _ _) once.1
    · exact ih he once.2

theorem foldl_insert_eq_nil {pairs : List (κ × α)} {a : Assoc κ α} :
    pairs.foldl (fun a e => insert e.1 e.2 a) a = [] ↔ a = [] ∧ pairs = [] := by
  induction pairs generalizing a with
  | nil => simp
  | cons e rest ih =>
    rw [List.foldl_cons, ih]
    simp [insert_ne_nil]

/-! ### Tables made from pairs -/

/-- A pair is the last of its key. -/
def LastOf (pairs : List (κ × α)) (e : κ × α) : Prop :=
  ∃ before after, pairs = before ++ e :: after ∧ e.1 ∉ after.map (·.1)

omit [DecidableEq κ] in
theorem lastOf_append_singleton {pairs : List (κ × α)} {x e : κ × α} :
    LastOf (pairs ++ [x]) e ↔ e = x ∨ LastOf pairs e ∧ e.1 ≠ x.1 := by
  constructor
  · rintro ⟨before, after, heq, hlast⟩
    induction after using List.reverseRecOn with
    | nil => exact .inl (List.append_inj_right' heq rfl |> List.singleton_inj.1).symm
    | append_singleton after y _ =>
      rw [← List.cons_append, ← List.append_assoc] at heq
      obtain ⟨hpairs, hx⟩ := List.append_inj' heq rfl
      obtain rfl := List.singleton_inj.1 hx
      rw [List.map_append, List.mem_append, not_or] at hlast
      exact .inr ⟨⟨before, after, hpairs, hlast.1⟩, by simpa using hlast.2⟩
  · rintro (rfl | ⟨⟨before, after, rfl, hlast⟩, hne⟩)
    · exact ⟨pairs, [], rfl, List.not_mem_nil⟩
    · exact ⟨before, after ++ [x], by simp, by simpa using ⟨by simpa using hlast, hne⟩⟩

omit [DecidableEq κ] in
/-- The last pair of a key is among the later pairs, unless the key is not there. -/
theorem lastOf_append {xs ys : List (κ × α)} {e : κ × α} :
    LastOf (xs ++ ys) e ↔ LastOf ys e ∨ LastOf xs e ∧ e.1 ∉ ys.map (·.1) := by
  induction ys using List.reverseRecOn with
  | nil =>
    have hnil : ¬ LastOf ([] : List (κ × α)) e := fun ⟨before, after, h, _⟩ => by simp at h
    simp [hnil]
  | append_singleton ys y ih =>
    rw [← List.append_assoc, lastOf_append_singleton, ih, lastOf_append_singleton, List.map_append,
      List.mem_append, List.map_singleton, List.mem_singleton]
    tauto

theorem mem_insert {key : κ} {value : α} {a : Assoc κ α} (once : (a.map (·.1)).Nodup) {e : κ × α} :
    e ∈ insert key value a ↔ e = (key, value) ∨ e ∈ a ∧ e.1 ≠ key := by
  induction a with
  | nil => simp [insert]
  | cons first rest ih =>
    rw [List.map_cons, List.nodup_cons] at once
    rw [insert]
    split
    · next hkey =>
      subst hkey
      have hrest : ∀ e ∈ rest, e.1 ≠ first.1 := fun e he heq =>
        once.1 (heq ▸ List.mem_map_of_mem he)
      grind
    · next hkey =>
      rw [List.mem_cons, List.mem_cons, ih once.2]
      grind

/-- **What a table made from pairs holds is the last pair of each key.** -/
theorem mem_ofPairs {pairs : List (κ × α)} {e : κ × α} : e ∈ ofPairs pairs ↔ LastOf pairs e := by
  induction pairs using List.reverseRecOn with
  | nil => exact iff_of_false List.not_mem_nil fun ⟨before, after, h, _⟩ => by simp at h
  | append_singleton pairs x ih =>
    rw [lastOf_append_singleton, ← ih, ofPairs, List.foldl_append]
    exact mem_insert (keys_ofPairs pairs).1

theorem keys_ofPairs_eq [BEq κ] [LawfulBEq κ] (pairs : List (κ × α)) :
    (ofPairs pairs).map (·.1) = (pairs.map (·.1)).eraseDups := by
  induction pairs using List.reverseRecOn with
  | nil => rfl
  | append_singleton pairs x ih =>
    have hstep : ofPairs (pairs ++ [x]) = insert x.1 x.2 (ofPairs pairs) := by
      rw [ofPairs, List.foldl_append]
      rfl
    have hmem := (keys_ofPairs pairs).2 x.1
    rw [hstep, List.map_append, List.map_singleton]
    by_cases h : x.1 ∈ pairs.map (·.1)
    · rw [eraseDups_append_of_mem h, keys_insert_of_mem (hmem.2 h), ih]
    · rw [eraseDups_append_of_not_mem h, keys_insert_of_not_mem (mt hmem.1 h), ih]

end Assoc

end SuiteForge
