/-
# Texts in pieces

A text that is put together with a mark between its parts is cut at the marks into these parts, if
there are any and the mark stands in none of them (`splitOn_join`). What is exchanged in a text is
exchanged from the front: the pattern where it stands (`replace_pattern_append`), and nothing where
it does not (`replace_cons_of_unmatched`).
-/

import Mathlib
import SuiteForge.Text

namespace SuiteForge

variable {mark : Symbol} {t : Text}

/-! ## Cutting -/

theorem splitOn_append_cons (mark : Symbol) (t u : Text) :
    Text.splitOn mark (t ++ mark :: u) = Text.splitOn mark t ++ Text.splitOn mark u := by
  induction t with
  | nil => simp [Text.splitOn]
  | cons s t ih =>
    rw [List.cons_append, Text.splitOn, Text.splitOn, ih]
    split
    · rfl
    · cases hpieces : Text.splitOn mark t with
      | nil => exact absurd hpieces (Text.splitOn_ne_nil mark t)
      | cons piece pieces => rfl

theorem splitOn_of_not_mem (h : mark ∉ t) : Text.splitOn mark t = [t] := by
  induction t with
  | nil => rfl
  | cons s t ih =>
    obtain ⟨hs, ht⟩ := not_or.1 (mt List.mem_cons.2 h)
    rw [Text.splitOn, if_neg (Ne.symm hs), ih ht]

/-- **Parts with a mark between them are the pieces between the marks.** -/
theorem splitOn_join {parts : List Text} (hne : parts ≠ []) (h : ∀ part ∈ parts, mark ∉ part) :
    Text.splitOn mark (Text.join [mark] parts) = parts := by
  fun_induction Text.join [mark] parts with
  | case1 => exact absurd rfl hne
  | case2 t => exact splitOn_of_not_mem (h t (List.mem_singleton_self t))
  | case3 t u rest ih =>
    obtain ⟨ht, hrest⟩ := List.forall_mem_cons.1 h
    rw [List.append_assoc, List.singleton_append, splitOn_append_cons, splitOn_of_not_mem ht,
      ih (List.cons_ne_nil u rest) hrest, List.singleton_append]

/-- What is joined begins as its first part does. -/
theorem exists_join_cons (separator first : Text) (rest : List Text) :
    ∃ more, Text.join separator (first :: rest) = first ++ more := by
  cases rest with
  | nil => exact ⟨[], (List.append_nil first).symm⟩
  | cons u rest => exact ⟨_, List.append_assoc first separator _⟩

/-! ## Exchanging -/

theorem replace_nil (old new : Text) : Text.replace old new [] = [] := by
  rw [Text.replace]

/-- An occurrence in front is exchanged. -/
theorem replace_pattern_append {old : Text} (hne : old ≠ []) (new t : Text) :
    Text.replace old new (old ++ t) = new ++ Text.replace old new t := by
  obtain ⟨first, rest, rfl⟩ := List.exists_cons_of_ne_nil hne
  have hprefix : (first :: rest).isPrefixOf (first :: (rest ++ t)) = true :=
    List.isPrefixOf_iff_prefix.2 (List.prefix_append (first :: rest) t)
  rw [List.cons_append, Text.replace, if_pos ⟨hne, hprefix⟩, List.length_cons, Nat.add_sub_cancel,
    List.drop_left]

/-- Where a pattern does not stand, nothing is exchanged. -/
theorem replace_cons_of_unmatched {old : Text} {s : Symbol} (new : Text)
    (h : ¬old <+: s :: t) : Text.replace old new (s :: t) = s :: Text.replace old new t := by
  rw [Text.replace, if_neg]
  rintro ⟨-, hprefix⟩
  exact h (List.isPrefixOf_iff_prefix.1 hprefix)

theorem replace_cons_of_ne {first s : Symbol} (h : first ≠ s) (rest new t : Text) :
    Text.replace (first :: rest) new (s :: t) = s :: Text.replace (first :: rest) new t :=
  replace_cons_of_unmatched new fun hprefix => h (List.cons_prefix_cons.1 hprefix).1

end SuiteForge
