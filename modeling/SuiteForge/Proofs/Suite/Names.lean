/-
# What names are like

Names that are made unique differ from one another (`nodup_deduplicate`): a repeat gets a
counter that gives a new name, and as there are fewer names in use than counters to try,
one is found (`freeCounter_not_mem`).

The names of classes and packages are made of few symbols, whatever they are made from.

| name | symbols |
| --- | --- |
| class | ASCII letters and digits, a capital first |
| test method | `test`, and ASCII letters and digits, a capital or a digit first |
| field | ASCII letters and digits, underscores and dollar signs |
| package | ASCII letters, digits, underscores and dots, no digit and no dot first |
| project | small ASCII letters, digits and hyphens, not blank, and the suffix |
-/

import SuiteForge.Proofs.Text.Numerals
import SuiteForge.Proofs.Text.Pieces
import SuiteForge.Suite.JavaSource
import SuiteForge.Suite.Plan

namespace SuiteForge

/-! ## Repeated names -/

/-- The search goes forward, and only over counters whose names are in use. -/
theorem freeCounter_passes (name : Text) (taken : List Text) (tries k : ℕ) :
    k ≤ freeCounter name taken tries k ∧
      ∀ j, k ≤ j → j < freeCounter name taken tries k → name ++ Text.ofNat j ∈ taken := by
  induction tries generalizing k with
  | zero => exact ⟨le_rfl, fun j hk hj => absurd hj (Nat.not_lt.2 hk)⟩
  | succ tries ih =>
    rw [freeCounter]
    split
    · next hk =>
      obtain ⟨hle, hpassed⟩ := ih (k + 1)
      refine ⟨by omega, fun j hj hlt => ?_⟩
      rcases Nat.eq_or_lt_of_le hj with rfl | hj
      · exact List.contains_iff_mem.1 hk
      · exact hpassed j hj hlt
    · exact ⟨le_rfl, fun j hk hj => absurd hj (Nat.not_lt.2 hk)⟩

/-- The search ends at a counter that gives a new name, or with the last one. -/
theorem freeCounter_cases (name : Text) (taken : List Text) (tries k : ℕ) :
    name ++ Text.ofNat (freeCounter name taken tries k) ∉ taken ∨
      freeCounter name taken tries k = k + tries := by
  induction tries generalizing k with
  | zero => exact .inr rfl
  | succ tries ih =>
    rw [freeCounter]
    split
    · exact (ih (k + 1)).imp_right fun hend => by omega
    · next hk => exact .inl fun h => hk (List.contains_iff_mem.2 h)

/-- **The counter that is found gives a new name:** there are more counters than names in use. -/
theorem freeCounter_not_mem (name : Text) (taken : List Text) (k : ℕ) :
    name ++ Text.ofNat (freeCounter name taken taken.length k) ∉ taken := by
  rcases freeCounter_cases name taken taken.length k with hnew | hend
  · exact hnew
  · intro hlast
    have hpassed := (freeCounter_passes name taken taken.length k).2
    rw [hend] at hlast hpassed
    let tried := (List.range' k (taken.length + 1)).map fun j => name ++ Text.ofNat j
    have hnodup : tried.Nodup := by
      refine List.Nodup.map (fun i j h => ?_) List.nodup_range'
      exact ofNat_injective (List.append_cancel_left h)
    have htaken : tried ⊆ taken := by
      intro n hn
      obtain ⟨j, hj, rfl⟩ := List.mem_map.1 hn
      have hbounds := List.mem_range'_1.1 hj
      rcases Nat.lt_or_ge j (k + taken.length) with hlt | hge
      · exact hpassed j hbounds.1 hlt
      · have hj : j = k + taken.length := by omega
        rw [hj]
        exact hlast
    have hlength := (hnodup.subperm htaken).length_le
    rw [List.length_map, List.length_range'] at hlength
    omega

theorem lookup_of_cons_eq_none {n name : Text} {count : ℕ} {seen : List (Text × ℕ)}
    (h : List.lookup n ((name, count) :: seen) = none) : n ≠ name ∧ seen.lookup n = none := by
  rw [List.lookup_eq_none_iff, List.forall_mem_cons] at h
  exact ⟨by simpa using h.1, List.lookup_eq_none_iff.2 h.2⟩

/-- Names made unique differ; one that is in use was not there before, and is among the names that
are made unique. -/
theorem nodup_numberRepeats {names : List Text} (seen : List (Text × ℕ)) (taken : List Text)
    (h : ∀ n ∈ names, n ∈ taken) :
    (numberRepeats names seen taken).Nodup ∧
      ∀ n ∈ numberRepeats names seen taken, n ∈ taken → n ∈ names ∧ seen.lookup n = none := by
  induction names generalizing seen taken with
  | nil => exact ⟨List.nodup_nil, fun n hn => absurd hn List.not_mem_nil⟩
  | cons name rest ih =>
    obtain ⟨hname, hrest⟩ := List.forall_mem_cons.1 h
    rw [numberRepeats]
    cases known : seen.lookup name with
    | none =>
      obtain ⟨hnodup, hold⟩ := ih ((name, 1) :: seen) taken hrest
      refine ⟨List.nodup_cons.2 ⟨fun hmem => ?_, hnodup⟩, ?_⟩
      · exact (lookup_of_cons_eq_none (hold name hmem hname).2).1 rfl
      · rintro n (_ | ⟨_, hn⟩) htaken
        · exact ⟨List.mem_cons_self, known⟩
        · obtain ⟨hmem, hlookup⟩ := hold n hn htaken
          exact ⟨List.mem_cons_of_mem _ hmem, (lookup_of_cons_eq_none hlookup).2⟩
    | some count =>
      have hnew := freeCounter_not_mem name taken (count + 1)
      set k := freeCounter name taken taken.length (count + 1)
      set fresh := name ++ Text.ofNat k
      obtain ⟨hnodup, hold⟩ := ih ((name, k) :: seen) (fresh :: taken) fun n hn =>
        List.mem_cons_of_mem _ (hrest n hn)
      refine ⟨List.nodup_cons.2 ⟨fun hmem => ?_, hnodup⟩, ?_⟩
      · exact hnew (hrest _ (hold fresh hmem List.mem_cons_self).1)
      · rintro n (_ | ⟨_, hn⟩) htaken
        · exact absurd htaken hnew
        · obtain ⟨hmem, hlookup⟩ := hold n hn (List.mem_cons_of_mem _ htaken)
          exact ⟨List.mem_cons_of_mem _ hmem, (lookup_of_cons_eq_none hlookup).2⟩

/-- **Names that are made unique differ.** -/
theorem nodup_deduplicate (names : List Text) : (deduplicate names).Nodup :=
  (nodup_numberRepeats [] names fun _ hn => hn).1

theorem length_numberRepeats (names : List Text) (seen : List (Text × ℕ)) (taken : List Text) :
    (numberRepeats names seen taken).length = names.length := by
  induction names generalizing seen taken with
  | nil => rfl
  | cons name rest ih =>
    rw [numberRepeats]
    split
    · rw [List.length_cons, ih, List.length_cons]
    · rw [List.length_cons, ih, List.length_cons]

theorem length_deduplicate (names : List Text) : (deduplicate names).length = names.length :=
  length_numberRepeats names [] names

/-- What is made of items and their unique names goes with the items one by one. -/
theorem forall₂_zip_deduplicate {α β : Type} {R : β → α → Prop} {make : α × Text → β}
    (h : ∀ x name, R (make (x, name)) x) (name : α → Text) (xs : List α) :
    List.Forall₂ R ((xs.zip (deduplicate (xs.map name))).map make) xs := by
  have hlength := length_deduplicate (xs.map name)
  rw [List.length_map] at hlength
  generalize deduplicate (xs.map name) = names at hlength ⊢
  induction xs generalizing names with
  | nil => exact .nil
  | cons x rest ih =>
    cases names with
    | nil => cases hlength
    | cons n names => exact .cons (h x n) (ih names (Nat.succ.inj hlength))

/-- **The fields of a model class go with the properties one by one.** -/
theorem forall₂_modelFields (properties : List (Text × Schema)) :
    List.Forall₂ (fun f p => f.name = p.1 ∧ f.type = p.2.type.javaType ∧
      f.description = p.2.description) (modelFields properties) properties :=
  forall₂_zip_deduplicate (fun _ _ => ⟨rfl, rfl, rfl⟩) _ properties

/-! ## Parts -/

/-- A run is not empty, and all its symbols are of the class. -/
theorem mem_runs {p : Symbol → Bool} {t run : Text} (h : run ∈ Text.runs p t) :
    run ≠ [] ∧ ∀ s ∈ run, p s = true := by
  have hgo : ∀ (t held : Text), (∀ s ∈ held, p s = true) → ∀ run ∈ Text.runs.go p held t,
      run ≠ [] ∧ ∀ s ∈ run, p s = true := by
    intro t
    induction t with
    | nil =>
      intro held hheld run hrun
      rw [Text.runs.go] at hrun
      split at hrun
      · cases hrun
      · obtain rfl := List.mem_singleton.1 hrun
        exact ⟨by simpa using ‹¬held.isEmpty = true›, fun s hs => hheld s (List.mem_reverse.1 hs)⟩
    | cons s rest ih =>
      intro held hheld run hrun
      rw [Text.runs.go] at hrun
      split at hrun
      · exact ih (s :: held) (List.forall_mem_cons.2 ⟨‹_›, hheld⟩) run hrun
      · split at hrun
        · exact ih [] (fun _ h => absurd h List.not_mem_nil) run hrun
        · rcases List.mem_cons.1 hrun with rfl | hrun
          · exact ⟨by simpa using ‹¬held.isEmpty = true›,
              fun s hs => hheld s (List.mem_reverse.1 hs)⟩
          · exact ih [] (fun _ h => absurd h List.not_mem_nil) run hrun
  exact hgo t [] (fun _ h => absurd h List.not_mem_nil) run h

/-- A text that is all of the class is one run. -/
theorem runs_of_forall_mem {p : Symbol → Bool} {t : Text} (hne : t ≠ [])
    (h : ∀ s ∈ t, p s = true) : Text.runs p t = [t] := by
  have hgo : ∀ t held : Text, (∀ s ∈ t, p s = true) → held.reverse ++ t ≠ [] →
      Text.runs.go p held t = [held.reverse ++ t] := by
    intro t
    induction t with
    | nil =>
      intro held _ hne
      rw [List.append_nil] at hne ⊢
      rw [Text.runs.go, if_neg (by simpa using hne)]
    | cons s rest ih =>
      intro held hall _
      obtain ⟨hs, hrest⟩ := List.forall_mem_cons.1 hall
      rw [Text.runs.go, if_pos hs, ih (s :: held) hrest (by simp)]
      simp
  exact hgo t [] h hne

/-- A run stands in its text. -/
theorem infix_of_mem_runs {p : Symbol → Bool} {t run : Text} (h : run ∈ Text.runs p t) :
    run <:+: t := by
  have hgo : ∀ t held : Text, run ∈ Text.runs.go p held t → run <:+: held.reverse ++ t := by
    intro t
    induction t with
    | nil =>
      intro held hrun
      rw [Text.runs.go] at hrun
      split at hrun
      · cases hrun
      · rw [List.mem_singleton.1 hrun, List.append_nil]
    | cons s rest ih =>
      intro held hrun
      have hrest : run ∈ Text.runs.go p [] rest → run <:+: held.reverse ++ s :: rest := fun hrun =>
        (ih [] hrun).trans ⟨held.reverse ++ [s], [], by simp⟩
      rw [Text.runs.go] at hrun
      split_ifs at hrun
      · simpa using ih (s :: held) hrun
      · exact hrest hrun
      · rcases List.mem_cons.1 hrun with rfl | hrun
        · exact (List.prefix_append _ _).isInfix
        · exact hrest hrun
  exact hgo t [] h

theorem mem_replace {old new t : Text} {s : Symbol} (h : s ∈ Text.replace old new t) :
    s ∈ t ∨ s ∈ new := by
  fun_induction Text.replace old new t with
  | case1 => exact .inl h
  | case2 first rest hmatch ih =>
    rcases List.mem_append.1 h with h | h
    · exact .inr h
    · exact (ih h).imp_left fun hdrop => List.mem_cons_of_mem _ (List.mem_of_mem_drop hdrop)
  | case3 first rest hmatch ih =>
    rcases List.mem_cons.1 h with rfl | h
    · exact .inl List.mem_cons_self
    · exact (ih h).imp_left (List.mem_cons_of_mem _)

theorem mem_join {separator : Text} {parts : List Text} {s : Symbol}
    (h : s ∈ Text.join separator parts) : s ∈ separator ∨ ∃ part ∈ parts, s ∈ part := by
  fun_induction Text.join separator parts with
  | case1 => cases h
  | case2 t => exact .inr ⟨t, List.mem_singleton_self t, h⟩
  | case3 t u rest ih =>
    rcases List.mem_append.1 h with h | h
    · rcases List.mem_append.1 h with h | h
      · exact .inr ⟨t, List.mem_cons_self, h⟩
      · exact .inl h
    · rcases ih h with h | ⟨part, hpart, hs⟩
      · exact .inl h
      · exact .inr ⟨part, List.mem_cons_of_mem _ hpart, hs⟩

/-! ## Classes -/

theorem isAsciiLetter_iff {s : Symbol} : s.isAsciiLetter = true ↔
    (0x41 ≤ s.code ∧ s.code ≤ 0x5A) ∨ (0x61 ≤ s.code ∧ s.code ≤ 0x7A) := by
  simp [Symbol.isAsciiLetter]

theorem isAsciiAlnum_iff {s : Symbol} :
    s.isAsciiAlnum = true ↔ s.isAsciiLetter = true ∨ (0x30 ≤ s.code ∧ s.code ≤ 0x39) := by
  simp [Symbol.isAsciiAlnum, Symbol.isAsciiDigit]

theorem isBlank_of_isAsciiAlnum {s : Symbol} (h : s.isAsciiAlnum = true) : s.isBlank = false := by
  rw [isAsciiAlnum_iff, isAsciiLetter_iff] at h
  simp only [Symbol.isBlank, inRanges, blankRanges, List.any_cons, List.any_nil,
    Bool.or_eq_false_iff, decide_eq_false_iff_not, and_true]
  omega

/-- A symbol of ASCII is its own capital, or a small letter. -/
theorem upper_cases {s : Symbol} (hascii : s.code < 0x80) :
    (s.upper = [s] ∧ ¬(0x61 ≤ s.code ∧ s.code ≤ 0x7A)) ∨
      ∃ u, s.upper = [u] ∧ u.upper = [u] ∧ s.code = u.code + 0x20 ∧
        0x41 ≤ u.code ∧ u.code ≤ 0x5A := by
  by_cases hsmall : 0x61 ≤ s.code ∧ s.code ≤ 0x7A
  · let u : Symbol := .char (Char.ofNat (s.code - 0x20))
    have hcode : u.code = s.code - 0x20 := by
      have hvalid : (s.code - 0x20).isValidChar := .inl (by omega)
      rw [Symbol.code_char, Char.toNat_ofNat, if_pos hvalid]
    have hof : Symbol.ofCode? (s.code - 0x20) = some u := by
      rw [Symbol.ofCode?, dif_neg (by omega), if_pos (by omega)]
    refine .inr ⟨u, by simp [Symbol.upper, hascii, hsmall, Symbol.ofCodes, hof], ?_, by omega,
      by omega, by omega⟩
    have hcapital : ¬(0x61 ≤ u.code ∧ u.code ≤ 0x7A) := by omega
    have hlow : u.code < 0x80 := by omega
    simp only [Symbol.upper, if_pos hlow, if_neg hcapital]
  · exact .inl ⟨by simp only [Symbol.upper, if_pos hascii, if_neg hsmall], hsmall⟩

/-- A capital of ASCII. -/
def Symbol.isAsciiCapital (s : Symbol) : Bool := 0x41 ≤ s.code && s.code ≤ 0x5A

theorem isAsciiCapital_iff {s : Symbol} :
    s.isAsciiCapital = true ↔ 0x41 ≤ s.code ∧ s.code ≤ 0x5A := by
  simp [Symbol.isAsciiCapital]

theorem isAsciiLetter_of_isAsciiCapital {s : Symbol} (h : s.isAsciiCapital = true) :
    s.isAsciiLetter = true :=
  isAsciiLetter_iff.2 (.inl (isAsciiCapital_iff.1 h))

theorem isDigit_of_isAsciiLetter {s : Symbol} (h : s.isAsciiLetter = true) :
    s.isDigit = false := by
  refine Bool.eq_false_iff.2 fun hdigit => ?_
  have hbeside := Symbol.not_besideDigits hdigit
  rw [isAsciiLetter_iff] at h
  simp only [besideDigits, inRanges, List.cons_append, List.any_cons, Bool.or_eq_false_iff,
    decide_eq_false_iff_not] at hbeside
  omega

theorem upper_of_isAsciiCapital {s : Symbol} (h : s.isAsciiCapital = true) : s.upper = [s] := by
  rw [isAsciiCapital_iff] at h
  rcases upper_cases (s := s) (by omega) with ⟨hself, -⟩ | ⟨u, -, -, hsmall, hcapital⟩
  · exact hself
  · omega

/-- The capital of an ASCII letter or digit is one symbol, a capital or a digit. -/
theorem upper_of_isAsciiAlnum {s : Symbol} (h : s.isAsciiAlnum = true) :
    ∃ u : Symbol, s.upper = [u] ∧ (u.isAsciiCapital || u.isAsciiDigit) = true := by
  simp only [Bool.or_eq_true, isAsciiCapital_iff, Symbol.isAsciiDigit, Bool.and_eq_true,
    decide_eq_true_iff]
  rw [isAsciiAlnum_iff, isAsciiLetter_iff] at h
  rcases upper_cases (s := s) (by omega) with ⟨hself, hsmall⟩ | ⟨u, hu, -, -, hcapital⟩
  · exact ⟨s, hself, by omega⟩
  · exact ⟨u, hu, .inl hcapital⟩

theorem isAsciiAlnum_of_isAsciiCapital_or {s : Symbol}
    (h : (s.isAsciiCapital || s.isAsciiDigit) = true) : s.isAsciiAlnum = true := by
  rw [Bool.or_eq_true] at h
  rw [Symbol.isAsciiAlnum, Bool.or_eq_true]
  exact h.imp_left isAsciiLetter_of_isAsciiCapital

/-- A symbol that is no digit of any script is no ASCII digit. -/
theorem isAsciiLetter_of_not_isDigit {s : Symbol} (h : s.isAsciiAlnum = true)
    (hdigit : s.isDigit = false) : s.isAsciiLetter = true := by
  rcases isAsciiAlnum_iff.1 h with hletter | hrange
  · exact hletter
  · have hvalue : s.decimalValue? = some (s.code - 48) := by
      have hbounds : 48 ≤ s.code ∧ s.code < 48 + 10 := by omega
      simp only [Symbol.decimalValue?, decimalZeros, List.findSome?_cons, if_pos hbounds]
    simp [Symbol.isDigit, hvalue] at hdigit

/-- ASCII letters and digits, a letter first. -/
def IsClassName (t : Text) : Prop :=
  ∃ first rest, t = first :: rest ∧ first.isAsciiLetter = true ∧ ∀ s ∈ rest, s.isAsciiAlnum = true

theorem IsClassName.alnum {t : Text} (h : IsClassName t) : ∀ s ∈ t, s.isAsciiAlnum = true := by
  obtain ⟨first, rest, rfl, hfirst, hrest⟩ := h
  exact List.forall_mem_cons.2 ⟨isAsciiAlnum_iff.2 (.inl hfirst), hrest⟩

/-- A symbol of a class, and ASCII letters and digits behind it. -/
def IsWordFrom (start : Symbol → Bool) (t : Text) : Prop :=
  ∃ first rest, t = first :: rest ∧ start first = true ∧ ∀ s ∈ rest, s.isAsciiAlnum = true

theorem IsWordFrom.append {start : Symbol → Bool} {t u : Text} (h : IsWordFrom start t)
    (hu : ∀ s ∈ u, s.isAsciiAlnum = true) : IsWordFrom start (t ++ u) := by
  obtain ⟨first, rest, rfl, hfirst, hrest⟩ := h
  exact ⟨first, rest ++ u, rfl, hfirst, List.forall_mem_append.2 ⟨hrest, hu⟩⟩

/-- A capital, and ASCII letters and digits behind it. -/
def IsPascalWord (t : Text) : Prop := IsWordFrom Symbol.isAsciiCapital t

theorem IsPascalWord.append {t u : Text} (h : IsPascalWord t)
    (hu : ∀ s ∈ u, s.isAsciiAlnum = true) : IsPascalWord (t ++ u) :=
  IsWordFrom.append h hu

theorem IsPascalWord.isClassName {t : Text} (h : IsPascalWord t) : IsClassName t := by
  obtain ⟨first, rest, rfl, hfirst, hrest⟩ := h
  exact ⟨first, rest, rfl, isAsciiLetter_of_isAsciiCapital hfirst, hrest⟩

/-- A capital or a digit, and ASCII letters and digits behind it. -/
def IsToken (t : Text) : Prop := IsWordFrom (fun s => s.isAsciiCapital || s.isAsciiDigit) t

theorem IsToken.alnum {t : Text} (h : IsToken t) : ∀ s ∈ t, s.isAsciiAlnum = true := by
  obtain ⟨first, rest, rfl, hfirst, hrest⟩ := h
  exact List.forall_mem_cons.2 ⟨isAsciiAlnum_of_isAsciiCapital_or hfirst, hrest⟩

/-- A token with a capital, if it has no digit first, or behind a capital. -/
theorem IsToken.isPascalWord_guardDigit {t pre : Text} (h : IsToken t) (hpre : IsPascalWord pre) :
    IsPascalWord (guardDigit pre t) := by
  have halnum := h.alnum
  obtain ⟨first, rest, rfl, hfirst, hrest⟩ := h
  rw [guardDigit]
  cases hdigit : first.isDigit with
  | true =>
    rw [if_pos rfl]
    exact hpre.append halnum
  | false =>
    have hletter := isAsciiLetter_of_not_isDigit (halnum first List.mem_cons_self) hdigit
    rw [Bool.or_eq_true] at hfirst
    refine ⟨first, rest, if_neg Bool.false_ne_true, hfirst.resolve_right fun hnumber => ?_, hrest⟩
    simp only [Symbol.isAsciiDigit, Bool.and_eq_true, decide_eq_true_iff] at hnumber
    rw [isAsciiLetter_iff] at hletter
    omega

section Pascal

variable {p : Symbol → Bool}

/-- A class that has the capitals of its symbols has those of its texts. -/
theorem forall_mem_capitalise (hp : ∀ s, p s = true → ∀ u ∈ s.upper, p u = true) {t : Text}
    (h : ∀ s ∈ t, p s = true) : ∀ s ∈ t.capitalise, p s = true := by
  cases t with
  | nil => exact h
  | cons first rest =>
    obtain ⟨hfirst, hrest⟩ := List.forall_mem_cons.1 h
    exact List.forall_mem_append.2 ⟨hp first hfirst, hrest⟩

theorem forall_mem_pascal (hp : ∀ s, p s = true → ∀ u ∈ s.upper, p u = true) {parts : List Text}
    (h : ∀ part ∈ parts, ∀ s ∈ part, p s = true) : ∀ s ∈ pascal parts, p s = true := by
  intro s hs
  obtain ⟨_, hmem, hs⟩ := List.mem_flatten.1 hs
  obtain ⟨part, hpart, rfl⟩ := List.mem_map.1 hmem
  exact forall_mem_capitalise hp (h part hpart) s hs

end Pascal

theorem isAsciiAlnum_of_mem_upper {s : Symbol} (h : s.isAsciiAlnum = true) :
    ∀ u ∈ s.upper, u.isAsciiAlnum = true := by
  obtain ⟨u, hu, hcapital⟩ := upper_of_isAsciiAlnum h
  rw [hu]
  exact List.forall_mem_singleton.2 (isAsciiAlnum_of_isAsciiCapital_or hcapital)

/-- The parts of a name are a token together. -/
theorem isToken_pascal {name : Text} (h : nameParts name ≠ []) :
    IsToken (pascal (nameParts name)) := by
  have hruns : ∀ part ∈ nameParts name, part ≠ [] ∧ ∀ s ∈ part, s.isAsciiAlnum = true :=
    fun _ h => mem_runs h
  obtain ⟨part, parts, hparts⟩ := List.exists_cons_of_ne_nil h
  rw [hparts] at hruns ⊢
  have halnum := forall_mem_pascal (fun _ => isAsciiAlnum_of_mem_upper)
    fun part hpart => (hruns part hpart).2
  obtain ⟨hne, hpart⟩ := hruns part List.mem_cons_self
  obtain ⟨s, more, rfl⟩ := List.exists_cons_of_ne_nil hne
  obtain ⟨u, hu, hcapital⟩ := upper_of_isAsciiAlnum (hpart s List.mem_cons_self)
  have hpascal : pascal ((s :: more) :: parts) = u :: (more ++ pascal parts) := by
    simp [pascal, Text.capitalise, hu]
  rw [hpascal] at halnum ⊢
  exact ⟨u, _, rfl, hcapital, (List.forall_mem_cons.1 halnum).2⟩

/-- **A class has a name of ASCII letters and digits, with a capital first.** -/
theorem isPascalWord_className (name : Text) : IsPascalWord (className name) := by
  unfold className
  dsimp only
  split
  · exact ⟨_, _, rfl, by decide, by decide⟩
  · next hparts =>
    have hapi : IsPascalWord (Text.ofString "Api") := ⟨_, _, rfl, by decide, by decide⟩
    exact (isToken_pascal (by simpa using hparts)).isPascalWord_guardDigit hapi

/-- **A name that a class can have is the name of its class.** -/
theorem className_of_isPascalWord {t : Text} (h : IsPascalWord t) : className t = t := by
  have halnum := h.isClassName.alnum
  obtain ⟨first, rest, rfl, hfirst, hrest⟩ := h
  have hparts : nameParts (first :: rest) = [first :: rest] :=
    runs_of_forall_mem (List.cons_ne_nil _ _) halnum
  have hpascal : pascal [first :: rest] = first :: rest := by
    simp [pascal, Text.capitalise, upper_of_isAsciiCapital hfirst]
  have hdigit := isDigit_of_isAsciiLetter (isAsciiLetter_of_isAsciiCapital hfirst)
  simp only [className, hparts, List.isEmpty_cons, hpascal, guardDigit, hdigit,
    Bool.false_eq_true, if_false]

theorem isClassName_className (name : Text) : IsClassName (className name) :=
  (isPascalWord_className name).isClassName

theorem isPascalWord_testClassName (resource : Text) : IsPascalWord (testClassName resource) :=
  (isPascalWord_className resource).append (by decide)

theorem isClassName_testClassName (resource : Text) : IsClassName (testClassName resource) :=
  (isPascalWord_testClassName resource).isClassName

/-! ## Methods and fields -/

theorem isFieldSymbol_of_isAsciiAlnum {s : Symbol} (h : s.isAsciiAlnum = true) :
    isFieldSymbol s = true := by
  rw [isFieldSymbol, h]
  rfl

theorem isFieldSymbol_of_mem_upper {s : Symbol} (h : isFieldSymbol s = true) :
    ∀ u ∈ s.upper, isFieldSymbol u = true := by
  simp only [isFieldSymbol, Bool.or_eq_true, beq_iff_eq] at h
  rcases h with (h | rfl) | rfl
  · exact fun u hu => isFieldSymbol_of_isAsciiAlnum (isAsciiAlnum_of_mem_upper h u hu)
  · decide
  · decide

theorem mem_guardDigit {pre t : Text} {s : Symbol} (h : s ∈ guardDigit pre t) :
    s ∈ pre ∨ s ∈ t := by
  cases t with
  | nil => exact .inr h
  | cons first rest =>
    rw [guardDigit] at h
    split at h
    · exact List.mem_append.1 h
    · exact .inr h

/-- **A field has a name of ASCII letters, digits, underscores and dollar signs.** -/
theorem isFieldSymbol_fieldName (property : Text) :
    ∀ s ∈ fieldName property, isFieldSymbol s = true := by
  have hruns : ∀ run ∈ Text.runs isFieldSymbol property, ∀ s ∈ run, isFieldSymbol s = true :=
    fun run hrun => (mem_runs hrun).2
  unfold fieldName
  split
  · decide
  · next first rest heq =>
    rw [heq] at hruns
    obtain ⟨hfirst, hrest⟩ := List.forall_mem_cons.1 hruns
    have hfield : ∀ s ∈ guardDigit (Text.ofString "_") (first ++ pascal rest),
        isFieldSymbol s = true := by
      intro s hs
      rcases mem_guardDigit hs with hs | hs
      · exact (show ∀ s ∈ Text.ofString "_", isFieldSymbol s = true by decide) s hs
      · exact List.forall_mem_append.2 ⟨hfirst, forall_mem_pascal
          (fun _ => isFieldSymbol_of_mem_upper) hrest⟩ s hs
    dsimp only
    split
    · exact List.forall_mem_append.2 ⟨hfield, by decide⟩
    · exact hfield

/-- An operation id is a token as a part of a method's name. -/
theorem isToken_operationToken (operationId : Text) : IsToken (operationToken operationId) := by
  unfold operationToken
  dsimp only
  split
  · exact ⟨_, _, rfl, by decide, by decide⟩
  · next hparts => exact isToken_pascal (by simpa using hparts)

/-- A test method has a name of ASCII letters and digits. -/
theorem isAsciiAlnum_testMethodName (operationId : Text) :
    ∀ s ∈ testMethodName operationId, s.isAsciiAlnum = true :=
  List.forall_mem_append.2 ⟨by decide, (isToken_operationToken operationId).alnum⟩

/-! ## Packages -/

/-- ASCII letters, digits, underscores and dots, a letter or an underscore first. -/
def IsPackageName (t : Text) : Prop :=
  ∃ first rest, t = first :: rest ∧ JavaSource.isNameStart first = true ∧
    ∀ s ∈ rest, (s.isWord || s == .char '.') = true

theorem isNameStart_of_isIdentifierStart {s : Symbol} (hascii : s.code < 0x80)
    (h : s.isIdentifierStart = true) : JavaSource.isNameStart s = true := by
  rw [Symbol.isIdentifierStart, if_pos hascii, Bool.or_eq_true] at h
  rw [JavaSource.isNameStart, Bool.or_eq_true]
  refine h.imp_right fun hcode => ?_
  cases s with
  | surrogate n =>
    simp only [Symbol.code, beq_iff_eq] at hcode
    omega
  | char c =>
    have hc : c.toNat = '_'.toNat := by simpa [Symbol.code_char] using hcode
    rw [Char.toNat_inj.1 hc]
    rfl

theorem isWord_of_isIdentifierContinue {s : Symbol} (hascii : s.code < 0x80)
    (h : s.isIdentifierContinue = true) : s.isWord = true := by
  rw [Symbol.isIdentifierContinue, if_pos hascii] at h
  rw [Symbol.isWord, if_pos hascii, h]

theorem isWord_of_isNameStart {s : Symbol} (h : JavaSource.isNameStart s = true) :
    s.isWord = true := by
  rw [JavaSource.isNameStart, Bool.or_eq_true, beq_iff_eq] at h
  rcases h with hletter | rfl
  · exact Symbol.isWord_of_isAsciiAlnum (isAsciiAlnum_iff.2 (.inl hletter))
  · decide

theorem IsPackageName.symbols {t : Text} (h : IsPackageName t) :
    ∀ s ∈ t, (s.isWord || s == .char '.') = true := by
  obtain ⟨first, rest, rfl, hfirst, hrest⟩ := h
  refine List.forall_mem_cons.2 ⟨?_, hrest⟩
  rw [isWord_of_isNameStart hfirst, Bool.true_or]

theorem IsPackageName.append {t u : Text} (h : IsPackageName t)
    (hu : ∀ s ∈ u, (s.isWord || s == .char '.') = true) : IsPackageName (t ++ u) := by
  obtain ⟨first, rest, rfl, hfirst, hrest⟩ := h
  exact ⟨first, rest ++ u, rfl, hfirst, List.forall_mem_append.2 ⟨hrest, hu⟩⟩

/-- Of ASCII, only word symbols and dots stand in a text. -/
def IsDotted (t : Text) : Prop := ∀ s ∈ t, s.code < 0x80 → (s.isWord || s == .char '.') = true

instance (t : Text) : Decidable (IsDotted t) :=
  inferInstanceAs (Decidable (∀ s ∈ t, s.code < 0x80 → (s.isWord || s == .char '.') = true))

theorem IsDotted.not_mem {t : Text} (h : IsDotted t) {s : Symbol} (hascii : s.code < 0x80)
    (hs : (s.isWord || s == .char '.') = false) : s ∉ t := fun hmem => by
  rw [h s hmem hascii] at hs
  cases hs

theorem IsDotted.append {t u : Text} (ht : IsDotted t) (hu : IsDotted u) : IsDotted (t ++ u) :=
  fun s hs => (List.mem_append.1 hs).elim (ht s) (hu s)

theorem IsClassName.isDotted {t : Text} (h : IsClassName t) : IsDotted t := fun s hs _ => by
  rw [Symbol.isWord_of_isAsciiAlnum (h.alnum s hs), Bool.true_or]

theorem IsPackageName.isDotted {t : Text} (h : IsPackageName t) : IsDotted t :=
  fun s hs _ => h.symbols s hs

theorem isWord_of_mem_identifier {part : Text} {s : Symbol} (h : part.isIdentifier = true)
    (hs : s ∈ part) (hascii : s.code < 0x80) : s.isWord = true := by
  cases part with
  | nil => cases hs
  | cons first rest =>
    rw [Text.isIdentifier, Bool.and_eq_true, List.all_eq_true] at h
    rcases List.mem_cons.1 hs with rfl | hs
    · exact isWord_of_isNameStart (isNameStart_of_isIdentifierStart hascii h.1)
    · exact isWord_of_isIdentifierContinue hascii (h.2 s hs)

/-- **The name of a package that is accepted**, in whatever script. -/
theorem isDotted_of_isPackage {t : Text} (h : Settings.isPackage t = true) : IsDotted t := by
  intro s hs hascii
  rw [Bool.or_eq_true, beq_iff_eq]
  rw [← Text.join_splitOn (.char '.') t] at hs
  rcases mem_join hs with hdot | ⟨part, hpart, hmem⟩
  · exact .inr (List.mem_singleton.1 hdot)
  · exact .inl (isWord_of_mem_identifier (List.all_eq_true.1 h part hpart) hmem hascii)

/-- **The name of a package that is accepted, if it is ASCII.** -/
theorem isPackageName_of_isPackage {t : Text} (h : Settings.isPackage t = true)
    (hascii : t.isAscii = true) : IsPackageName t := by
  have hcode : ∀ s ∈ t, s.code < 0x80 := by simpa [Text.isAscii] using hascii
  have hjoin := Text.join_splitOn (.char '.') t
  have hparts : ∀ part ∈ Text.splitOn (.char '.') t, part.isIdentifier = true :=
    List.all_eq_true.1 h
  have hsymbols : ∀ s ∈ t, (s.isWord || s == .char '.') = true := fun s hs =>
    isDotted_of_isPackage h s hs (hcode s hs)
  cases hsplit : Text.splitOn (.char '.') t with
  | nil => exact absurd hsplit (Text.splitOn_ne_nil _ _)
  | cons part parts =>
    rw [hsplit] at hparts hjoin
    have hpart := hparts part List.mem_cons_self
    cases part with
    | nil => cases hpart
    | cons first rest =>
      obtain ⟨more, hmore⟩ := exists_join_cons [.char '.'] (first :: rest) parts
      obtain rfl : t = first :: (rest ++ more) := hjoin.symm.trans hmore
      rw [Text.isIdentifier, Bool.and_eq_true] at hpart
      have hstart := isNameStart_of_isIdentifierStart (hcode first List.mem_cons_self) hpart.1
      exact ⟨first, rest ++ more, rfl, hstart, (List.forall_mem_cons.1 hsymbols).2⟩

/-! ## Projects -/

theorem isAsciiAlnum_of_isSlugSymbol {s : Symbol} (h : isSlugSymbol s = true) :
    s.isAsciiAlnum = true := by
  rw [isSlugSymbol, Symbol.isAsciiDigit] at h
  simp only [Bool.or_eq_true, Bool.and_eq_true, decide_eq_true_eq] at h
  rw [isAsciiAlnum_iff, isAsciiLetter_iff]
  omega

/-- **A project's name has a small ASCII letter or a digit first, and others and hyphens up to the
suffix.** -/
theorem projectName_eq (title suffix : Text) :
    ∃ first rest, projectName title suffix = first :: (rest ++ suffix) ∧
      isSlugSymbol first = true ∧ ∀ s ∈ rest, (isSlugSymbol s || s == .char '-') = true := by
  unfold projectName
  cases hwords : Text.runs isSlugSymbol title.lower with
  | nil => exact ⟨_, _, rfl, by decide, by decide⟩
  | cons word words =>
    have hruns : ∀ word ∈ Text.runs isSlugSymbol title.lower,
        word ≠ [] ∧ ∀ s ∈ word, isSlugSymbol s = true := fun _ h => mem_runs h
    rw [hwords] at hruns
    obtain ⟨hne, hword⟩ := hruns word List.mem_cons_self
    obtain ⟨first, rest, rfl⟩ := List.exists_cons_of_ne_nil hne
    obtain ⟨more, hmore⟩ := exists_join_cons (Text.ofString "-") (first :: rest) words
    refine ⟨first, rest ++ more, ?_, hword first List.mem_cons_self, fun s hs => ?_⟩
    · show Text.join (Text.ofString "-") ((first :: rest) :: words) ++ suffix = _
      rw [hmore]
      rfl
    · have hs : s ∈ Text.join (Text.ofString "-") ((first :: rest) :: words) := by
        rw [hmore]
        exact List.mem_cons_of_mem _ hs
      rw [Bool.or_eq_true, beq_iff_eq]
      rcases mem_join hs with hyphen | ⟨part, hpart, hmem⟩
      · exact .inr (List.mem_singleton.1 hyphen)
      · exact .inl ((hruns part hpart).2 s hmem)

end SuiteForge
