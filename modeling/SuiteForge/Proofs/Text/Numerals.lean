/-
# Digits and the numbers that they denote

Digits that are decimal, in whatever script, denote a number (`Text.decimal?`); others, such as `²`,
pass for digits and denote none. A text of digits is read as a numeral if and only if it denotes a
number and is no longer than a numeral may be (`read_eq_ok_iff`). A number in decimal is made of
decimal digits, denotes itself (`decimal?_ofNat`), and has as many as its size allows
(`length_ofNat_le_iff`).
-/

import Mathlib
import SuiteForge.Text.Numeral

namespace SuiteForge

/-! ## Numbers in decimal -/

theorem toList_ofNat (n : ℕ) : Text.ofNat n = (Nat.toDigits 10 n).map .char := by
  rw [Text.ofNat, Text.ofString, Nat.toString_eq_ofList_toDigits, String.toList_ofList]

theorem ofNat_injective : Function.Injective Text.ofNat := by
  intro m n h
  have hchars : (toString m).toList = (toString n).toList :=
    List.map_injective_iff.2 (fun _ _ h => Symbol.char.inj h) h
  exact Nat.repr_injective (String.toList_injective hchars)

theorem ofNat_ne_nil (n : ℕ) : Text.ofNat n ≠ [] := by
  rw [toList_ofNat, ne_eq, List.map_eq_nil_iff]
  exact Nat.toDigits_ne_nil

theorem length_ofNat_le_iff {n k : ℕ} (hk : 0 < k) : (Text.ofNat n).length ≤ k ↔ n < 10 ^ k := by
  rw [toList_ofNat, List.length_map]
  exact Nat.length_toDigits_le_iff (by decide) hk

theorem isAsciiDigit_ofNat (n : ℕ) : ∀ s ∈ Text.ofNat n, s.isAsciiDigit = true := by
  intro s hs
  rw [toList_ofNat] at hs
  obtain ⟨c, hc, rfl⟩ := List.mem_map.1 hs
  have hdigit : c.isDigit = true := Nat.isDigit_of_mem_toDigits (by decide) (by decide) hc
  rw [Char.isDigit, Bool.and_eq_true, decide_eq_true_iff, decide_eq_true_iff] at hdigit
  rw [Symbol.isAsciiDigit, Bool.and_eq_true, decide_eq_true_iff, decide_eq_true_iff]
  exact hdigit

theorem isAsciiAlnum_ofNat (n : ℕ) : ∀ s ∈ Text.ofNat n, s.isAsciiAlnum = true := by
  intro s hs
  rw [Symbol.isAsciiAlnum, isAsciiDigit_ofNat n s hs, Bool.or_true]

/-! ## Numbers that digits denote -/

/-- A number with one more digit behind it. -/
def Symbol.decimalAfter? (n : ℕ) (s : Symbol) : Option ℕ := s.decimalValue?.map (10 * n + ·)

/-- The number that decimal digits of any script denote; `none` for no digits, and where a symbol is
no decimal digit. -/
def Text.decimal? (t : Text) : Option ℕ :=
  if t.isEmpty then none else t.foldlM Symbol.decimalAfter? 0

theorem decimalValue?_of_isAsciiDigit {s : Symbol} (h : s.isAsciiDigit = true) :
    s.decimalValue? = some (s.code - 48) := by
  rw [Symbol.isAsciiDigit, Bool.and_eq_true, decide_eq_true_iff, decide_eq_true_iff] at h
  have hfirst : 48 ≤ s.code ∧ s.code < 48 + 10 := by omega
  rw [Symbol.decimalValue?, decimalZeros, List.findSome?_cons, if_pos hfirst]

/-- **A number in decimal denotes the number.** -/
theorem decimal?_ofNat (n : ℕ) : (Text.ofNat n).decimal? = some n := by
  have hfold : ∀ (cs : List Char) (value : ℕ),
      (∀ s ∈ cs.map Symbol.char, s.isAsciiDigit = true) →
      (cs.map Symbol.char).foldlM Symbol.decimalAfter? value =
        some (Nat.ofDigitChars 10 cs value) := by
    intro cs
    induction cs with
    | nil => exact fun value _ => rfl
    | cons c cs ih =>
      intro value h
      obtain ⟨hc, hcs⟩ := List.forall_mem_cons.1 (List.map_cons ▸ h)
      rw [List.map_cons, List.foldlM_cons, Symbol.decimalAfter?, decimalValue?_of_isAsciiDigit hc,
        Nat.ofDigitChars_cons]
      exact ih _ hcs
  have hempty : (Text.ofNat n).isEmpty = false := by simp [ofNat_ne_nil n]
  rw [Text.decimal?, hempty, if_neg Bool.false_ne_true, toList_ofNat,
    hfold _ 0 (toList_ofNat n ▸ isAsciiDigit_ofNat n), Nat.ofDigitChars_ten_toDigits]

theorem exists_foldlM_decimalAfter?_iff {t : Text} {value : ℕ} :
    (∃ n, t.foldlM Symbol.decimalAfter? value = some n) ↔
      ∀ s ∈ t, s.decimalValue?.isSome = true := by
  induction t generalizing value with
  | nil => exact iff_of_true ⟨value, rfl⟩ fun s hs => absurd hs List.not_mem_nil
  | cons s t ih =>
    rw [List.foldlM_cons, List.forall_mem_cons, Symbol.decimalAfter?]
    cases hs : s.decimalValue? with
    | none => exact iff_of_false nofun fun h => Bool.false_ne_true h.1
    | some digit => exact ih.trans (and_iff_right rfl).symm

/-- What denotes a number consists of digits. -/
theorem isDigits_of_decimal? {t : Text} {n : ℕ} (h : t.decimal? = some n) : t.isDigits = true := by
  rw [Text.decimal?] at h
  split at h
  · cases h
  · next hne =>
    rw [Text.isDigits, Bool.and_eq_true, List.all_eq_true]
    refine ⟨by simpa using hne, fun s hs => ?_⟩
    rw [Symbol.isDigit, exists_foldlM_decimalAfter?_iff.1 ⟨n, h⟩ s hs, Bool.true_or]

/-- Digits denote no number if one of them is not decimal. -/
theorem decimal?_eq_none_iff {t : Text} (h : t.isDigits = true) :
    t.decimal? = none ↔ ∃ s ∈ t, s.decimalValue? = none := by
  rw [Text.isDigits, Bool.and_eq_true, Bool.not_eq_true'] at h
  have hsome := @exists_foldlM_decimalAfter?_iff t 0
  rw [← Option.ne_none_iff_exists'] at hsome
  rw [Text.decimal?, h.1, if_neg Bool.false_ne_true, ← not_iff_not, ← ne_eq, hsome]
  simp [Option.isSome_iff_ne_none]

/-! ## What digits are not -/

theorem not_inRanges_of_apart {a b : List (ℕ × ℕ)} {n : ℕ}
    (apart : (a.all fun r => b.all fun q => decide (r.2 < q.1 ∨ q.2 < r.1)) = true)
    (h : inRanges a n = true) : inRanges b n = false := by
  obtain ⟨r, hr, hn⟩ := List.any_eq_true.1 h
  rw [decide_eq_true_iff] at hn
  refine Bool.eq_false_iff.2 fun hb => ?_
  obtain ⟨q, hq, hqn⟩ := List.any_eq_true.1 hb
  rw [decide_eq_true_iff] at hqn
  have hrq := of_decide_eq_true (List.all_eq_true.1 (List.all_eq_true.1 apart r hr) q hq)
  omega

/-- The ranges of the digits, decimal or not. -/
def digitRanges : List (ℕ × ℕ) := decimalZeros.map (fun n => (n, n + 9)) ++ otherDigitRanges

/-- What may stand in a numeral beside digits, or around it: signs, letters, underscores, blanks. -/
def besideDigits : List (ℕ × ℕ) :=
  [(0x2B, 0x2B), (0x2D, 0x2D), (0x41, 0x5A), (0x5F, 0x5F), (0x61, 0x7A)] ++ blankRanges

namespace Symbol

variable {s : Symbol}

theorem inRanges_of_isDigit (h : s.isDigit = true) : inRanges digitRanges s.code = true := by
  rw [digitRanges, inRanges, List.any_append, Bool.or_eq_true]
  rw [isDigit, Bool.or_eq_true] at h
  refine h.imp (fun hdecimal => ?_) id
  obtain ⟨v, hv⟩ := Option.isSome_iff_exists.1 hdecimal
  obtain ⟨origin, hmem, hif⟩ := List.exists_of_findSome?_eq_some hv
  split at hif
  · next hrange =>
    exact List.any_eq_true.2 ⟨_, List.mem_map_of_mem hmem, by simp only [decide_eq_true_iff]; omega⟩
  · cases hif

theorem not_besideDigits (h : s.isDigit = true) : inRanges besideDigits s.code = false :=
  not_inRanges_of_apart (by decide +kernel) (inRanges_of_isDigit h)

theorem isBlank_of_isDigit (h : s.isDigit = true) : s.isBlank = false := by
  have hbeside := not_besideDigits h
  rw [besideDigits, inRanges, List.any_append, Bool.or_eq_false_iff] at hbeside
  exact hbeside.2

theorem ne_char_of_isDigit (h : s.isDigit = true) {c : Char}
    (hc : inRanges besideDigits c.toNat = true) : s ≠ .char c := by
  rintro rfl
  rw [← code_char, not_besideDigits h] at hc
  cases hc

/-- A digit has a value as a letter has only if it is decimal. -/
theorem digitValue?_of_isDigit (h : s.isDigit = true) : s.digitValue? = s.decimalValue? := by
  have hbeside := not_besideDigits h
  rw [digitValue?]
  cases s.decimalValue? with
  | some v => rfl
  | none =>
    simp only [besideDigits, inRanges, List.cons_append, List.any_cons, Bool.or_eq_false_iff,
      decide_eq_false_iff_not] at hbeside
    obtain ⟨-, -, hcapital, -, hsmall, -⟩ := hbeside
    rw [if_neg hcapital, if_neg hsmall]

end Symbol

/-! ## Reading digits -/

theorem trim_eq_self {p : Symbol → Bool} {t : Text} (h : ∀ s ∈ t, p s = false) : t.trim p = t := by
  have hdrop : ∀ u : Text, (∀ s ∈ u, p s = false) → u.dropWhile p = u := by
    intro u hu
    cases u with
    | nil => rfl
    | cons s rest => exact List.dropWhile_cons_of_neg (by simp [hu s List.mem_cons_self])
  rw [Text.trim, Text.dropLeading, Text.dropTrailing, hdrop t h,
    hdrop t.reverse fun s hs => h s (List.mem_reverse.1 hs), List.reverse_reverse]

namespace Numeral

variable {t : Text} {n : ℕ}

theorem dropBase_ten (t : Text) : dropBase 10 t = t := by
  unfold dropBase
  split
  · exact if_neg (by simp [baseLetter])
  · rfl

/-- Digits have nothing around them and no sign. -/
theorem read_of_forall_isDigit (h : ∀ s ∈ t, s.isDigit = true) :
    read 10 t = match digits? 10 0 0 false t with
      | none => .error (.malformed 10 t)
      | some d =>
        if maxDecimalDigits < d.count then .error (.tooManyDigits d.count)
        else if d.count == 0 || !d.rest.isEmpty then .error (.malformed 10 t)
        else .ok d.value := by
  have hsign : ∀ c rest, inRanges besideDigits c.toNat = true → t ≠ .char c :: rest := by
    rintro c rest hc rfl
    exact Symbol.ne_char_of_isDigit (h _ List.mem_cons_self) hc rfl
  unfold read
  extract_lets body
  have hbody : body = t := by
    refine trim_eq_self fun s hs => ?_
    rw [isMargin, Symbol.isBlank_of_isDigit (h s hs), Bool.false_and]
  clear_value body
  subst hbody
  split
  next negative magnitude hsigned =>
  split at hsigned
  · exact absurd rfl (hsign '-' _ (by decide))
  · exact absurd rfl (hsign '+' _ (by decide))
  · cases hsigned
    rw [dropBase_ten]
    cases digits? 10 0 0 false body with
    | none => rfl
    | some d => simp [isBinaryBase]

theorem digits?_cons {s : Symbol} (h : s.isDigit = true) (value count : ℕ) (last : Bool) :
    digits? 10 value count last (s :: t) = match s.decimalValue? with
      | some d => digits? 10 (10 * value + d) (count + 1) true t
      | none => if last || count == 0 then some ⟨value, count, s :: t⟩ else none := by
  rw [digits?, if_neg (Symbol.ne_char_of_isDigit h (by decide)), Symbol.digitValue?_of_isDigit h]
  cases hs : s.decimalValue? with
  | none => rfl
  | some d =>
    simp only [if_pos (Symbol.decimalValue?_lt hs), Nat.mul_comm value]

/-- Decimal digits are read to their end. -/
theorem digits?_of_foldlM (h : ∀ s ∈ t, s.isDigit = true) {value count : ℕ} {last : Bool}
    (hlast : (last || count == 0) = true)
    (hvalue : t.foldlM Symbol.decimalAfter? value = some n) :
    digits? 10 value count last t = some ⟨n, count + t.length, []⟩ := by
  induction t generalizing value count last with
  | nil =>
    cases hvalue
    rw [digits?, if_pos hlast]
    rfl
  | cons s t ih =>
    obtain ⟨hs, ht⟩ := List.forall_mem_cons.1 h
    rw [List.foldlM_cons] at hvalue
    obtain ⟨v, hv, hvalue⟩ := Option.bind_eq_some_iff.1 hvalue
    obtain ⟨d, hd, rfl⟩ := Option.map_eq_some_iff.1 hv
    rw [digits?_cons hs, hd]
    simp only
    rw [ih ht (Bool.true_or _) hvalue, List.length_cons, Nat.add_assoc, Nat.add_comm 1]

/-- A digit that is not decimal is where reading stops. -/
theorem exists_digits?_of_foldlM (h : ∀ s ∈ t, s.isDigit = true) {value count : ℕ} {last : Bool}
    (hlast : (last || count == 0) = true) (hvalue : t.foldlM Symbol.decimalAfter? value = none) :
    ∃ d, digits? 10 value count last t = some d ∧ d.rest ≠ [] := by
  induction t generalizing value count last with
  | nil => cases hvalue
  | cons s t ih =>
    obtain ⟨hs, ht⟩ := List.forall_mem_cons.1 h
    rw [digits?_cons hs]
    cases hd : s.decimalValue? with
    | none => exact ⟨_, if_pos hlast, List.cons_ne_nil s t⟩
    | some d =>
      rw [List.foldlM_cons, Symbol.decimalAfter?, hd] at hvalue
      exact ih ht (Bool.true_or _) hvalue

/-- **Digits are read** if they denote a number and are not too many. -/
theorem read_eq_ok_iff (h : t.isDigits = true) {i : ℤ} :
    read 10 t = .ok i ↔ ∃ n : ℕ, t.decimal? = some n ∧ t.length ≤ maxDecimalDigits ∧ i = n := by
  rw [Text.isDigits, Bool.and_eq_true, List.all_eq_true, Bool.not_eq_true'] at h
  obtain ⟨hempty, hdigits⟩ := h
  have hstart : (false || (0 : ℕ) == 0) = true := rfl
  rw [read_of_forall_isDigit hdigits, Text.decimal?, hempty, if_neg Bool.false_ne_true]
  cases hvalue : t.foldlM Symbol.decimalAfter? 0 with
  | none =>
    obtain ⟨d, hd, hrest⟩ := exists_digits?_of_foldlM hdigits hstart hvalue
    have hmalformed : (d.count == 0 || !d.rest.isEmpty) = true := by simp [hrest]
    simp only [hd, hmalformed, if_true]
    split <;> simp
  | some n =>
    have hwell : (t.length == 0 || !([] : Text).isEmpty) = false := by simpa using hempty
    rw [digits?_of_foldlM hdigits hstart hvalue]
    simp only [Nat.zero_add, hwell, Bool.false_eq_true, if_false, Option.some.injEq,
      exists_eq_left']
    split
    · next hlong => exact iff_of_false nofun fun hshort => absurd hshort.1 (Nat.not_le.2 hlong)
    · next hshort => rw [Except.ok.injEq, and_iff_right (Nat.not_lt.1 hshort), eq_comm]

end Numeral

/-- Digits that are not read: one is not decimal, or there are too many. -/
structure Unreadable (t : Text) : Prop where
  digits : t.isDigits = true
  unread : (∃ s ∈ t, s.decimalValue? = none) ∨ maxDecimalDigits < t.length

theorem exists_read_eq_error_iff {t : Text} (h : t.isDigits = true) :
    (∃ f, Numeral.read 10 t = .error f) ↔ Unreadable t := by
  have hok : (∃ i, Numeral.read 10 t = .ok i) ↔ ¬Unreadable t := by
    simp only [Numeral.read_eq_ok_iff h]
    constructor
    · rintro ⟨_, n, hn, hshort, rfl⟩ ⟨-, hnone | hlong⟩
      · rw [(decimal?_eq_none_iff h).2 hnone] at hn
        cases hn
      · exact absurd hshort (Nat.not_le.2 hlong)
    · intro hread
      obtain ⟨hdecimal, hshort⟩ := not_or.1 fun hunread => hread ⟨h, hunread⟩
      rw [← decimal?_eq_none_iff h] at hdecimal
      obtain ⟨n, hn⟩ := Option.ne_none_iff_exists'.1 hdecimal
      exact ⟨n, n, hn, Nat.not_lt.1 hshort, rfl⟩
  rw [← not_iff_not, ← hok]
  cases Numeral.read 10 t <;> simp

end SuiteForge
