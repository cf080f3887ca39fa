/-
# Repeated names

Names are made unique one by one. A name that comes for the first time stays, and a repeat gets a
counter behind it: the least from 2 on that gives a name which is none of the names, wherever it
stands among them, and which no repeat in front was given.

| names | made unique |
| --- | --- |
| `a`, `a`, `a` | `a`, `a2`, `a3` |
| `x`, `x`, `x2` | `x`, `x3`, `x2` |
| `b`, `b2`, `b2`, `b` | `b`, `b2`, `b22`, `b3` |

The search for a counter does not begin with 2, but behind the last one that the name was given, and
it looks at the names in use only. That all counters in front are in use is what makes it find the
least (`Counted`): a name keeps this up, both one that comes for the first time (`Counted.first`)
and one that comes again (`Counted.again`), so it holds of all (`renamed_of_counted`).
-/

import SuiteForge.Proofs.Suite.Names

namespace SuiteForge

/-! ## The search for a counter -/

/-- **The search ends, and at the first counter that gives a new name.** The number of names in use
bounds the tries without cutting a search short. -/
theorem isLeast_freeCounter (name : Text) (taken : List Text) (k : ℕ) :
    IsLeast {j | k ≤ j ∧ name ++ Text.ofNat j ∉ taken}
      (freeCounter name taken taken.length k) := by
  obtain ⟨hle, hpassed⟩ := freeCounter_passes name taken taken.length k
  refine ⟨⟨hle, freeCounter_not_mem name taken k⟩, ?_⟩
  rintro j ⟨hk, hnew⟩
  exact Nat.not_lt.1 fun hlt => hnew (hpassed j hk hlt)

/-! ## What repeats are given -/

/-- The names that the repeats in front of a position are given in a result. -/
def givenBefore (names result : List Text) (i : ℕ) : Set Text :=
  {new | ∃ j < i, ∃ n, names[j]? = some n ∧ n ∈ names.take j ∧ result[j]? = some new}

/-- The counters from 2 on that give a name which is neither among the names nor given to a repeat
in front of a position. -/
def freeCounters (names result : List Text) (i : ℕ) (name : Text) : Set ℕ :=
  {k | 2 ≤ k ∧ name ++ Text.ofNat k ∉ names ∧ name ++ Text.ofNat k ∉ givenBefore names result i}

/-- What a result has at the position of a name: the name, if it comes for the first time, and
otherwise the name with the least counter that is free. -/
structure Renamed (names result : List Text) (i : ℕ) (name : Text) : Prop where
  first : name ∉ names.take i → result[i]? = some name
  again : name ∈ names.take i →
    ∃ k, IsLeast (freeCounters names result i name) k ∧ result[i]? = some (name ++ Text.ofNat k)

section Positions

variable {names result : List Text} {i : ℕ} {name : Text}

theorem mem_take_succ_iff (hi : names[i]? = some name) {n : Text} :
    n ∈ names.take (i + 1) ↔ n ∈ names.take i ∨ n = name := by
  rw [List.take_add_one, hi, List.mem_append, Option.toList_some, List.mem_singleton]

theorem mem_givenBefore_succ_iff (hi : names[i]? = some name) {new : Text} :
    new ∈ givenBefore names result (i + 1) ↔
      new ∈ givenBefore names result i ∨ (name ∈ names.take i ∧ result[i]? = some new) := by
  constructor
  · rintro ⟨j, hj, n, hn, hmem, hnew⟩
    rcases Nat.lt_succ_iff_lt_or_eq.1 hj with hj | rfl
    · exact .inl ⟨j, hj, n, hn, hmem, hnew⟩
    · obtain rfl := Option.some.inj (hi.symm.trans hn)
      exact .inr ⟨hmem, hnew⟩
  · rintro (⟨j, hj, n, hn, hmem, hnew⟩ | ⟨hmem, hnew⟩)
    · exact ⟨j, by omega, n, hn, hmem, hnew⟩
    · exact ⟨i, i.lt_succ_self, name, hi, hmem, hnew⟩

end Positions

/-! ## Counters and names in use -/

/-- What the counters and the names in use tell at a position: the names in use are the names and
those that repeats in front were given, the names that have come are those with a counter, and all
counters from 2 to the one of a name are in use for it. -/
structure Counted (names result : List Text) (i : ℕ) (seen : List (Text × ℕ)) (taken : List Text) :
    Prop where
  inUse : ∀ n, n ∈ taken ↔ n ∈ names ∨ n ∈ givenBefore names result i
  known : ∀ n, seen.lookup n = none ↔ n ∉ names.take i
  positive : ∀ n count, seen.lookup n = some count → 1 ≤ count
  counters : ∀ n count, seen.lookup n = some count →
    ∀ k, 2 ≤ k → k ≤ count → n ++ Text.ofNat k ∈ taken

theorem lookup_cons_eq (n name : Text) (count : ℕ) (seen : List (Text × ℕ)) :
    List.lookup n ((name, count) :: seen) = if n = name then some count else seen.lookup n := by
  rcases eq_or_ne n name with rfl | h
  · rw [List.lookup_cons_self, if_pos rfl]
  · rw [List.lookup_cons, beq_false_of_ne h, if_neg h]

theorem counted_start (names result : List Text) : Counted names result 0 [] names where
  inUse n := ⟨.inl, fun h => h.resolve_right fun ⟨j, hj, _⟩ => Nat.not_lt_zero j hj⟩
  known n := by simp
  positive n count h := by cases h
  counters n count h := by cases h

namespace Counted

variable {names result : List Text} {i : ℕ} {seen : List (Text × ℕ)} {taken : List Text}
  {name : Text}

/-- Up to the next counter that gives a new name, all are in use. -/
theorem mem_of_lt (h : Counted names result i seen taken) {count k : ℕ}
    (hcount : seen.lookup name = some count)
    (hk : IsLeast {j | count + 1 ≤ j ∧ name ++ Text.ofNat j ∉ taken} k) {j : ℕ} (htwo : 2 ≤ j)
    (hj : j < k) : name ++ Text.ofNat j ∈ taken := by
  rcases Nat.lt_or_ge count j with hlt | hle
  · by_contra hnew
    have hleast := hk.2 ⟨hlt, hnew⟩
    omega
  · exact h.counters name count hcount j htwo hle

/-- The next counter that gives a new name is the least of those that are free. -/
theorem isLeast (h : Counted names result i seen taken) {count k : ℕ}
    (hcount : seen.lookup name = some count)
    (hk : IsLeast {j | count + 1 ≤ j ∧ name ++ Text.ofNat j ∉ taken} k) :
    IsLeast (freeCounters names result i name) k := by
  obtain ⟨hle, hnew⟩ := hk.1
  have hpositive := h.positive name count hcount
  rw [h.inUse, not_or] at hnew
  refine ⟨⟨by omega, hnew⟩, ?_⟩
  rintro j ⟨htwo, hnames, hgiven⟩
  refine Nat.not_lt.1 fun hj => ?_
  have hmem := h.mem_of_lt hcount hk htwo hj
  rw [h.inUse] at hmem
  exact hmem.elim hnames hgiven

/-- A name that comes for the first time. -/
theorem first (h : Counted names result i seen taken) (hi : names[i]? = some name)
    (hnew : name ∉ names.take i) : Counted names result (i + 1) ((name, 1) :: seen) taken where
  inUse n := by
    rw [h.inUse, mem_givenBefore_succ_iff hi]
    simp [hnew]
  known n := by
    rw [lookup_cons_eq, mem_take_succ_iff hi, not_or, ← h.known]
    split_ifs with hn <;> simp [hn]
  positive n count := by
    rw [lookup_cons_eq]
    split_ifs with hn
    · rintro ⟨⟩
      exact le_rfl
    · exact h.positive n count
  counters n count := by
    rw [lookup_cons_eq]
    split_ifs with hn
    · rintro ⟨⟩ k htwo hk
      omega
    · exact h.counters n count

/-- A name that comes again. -/
theorem again (h : Counted names result i seen taken) (hi : names[i]? = some name) {count k : ℕ}
    (hcount : seen.lookup name = some count)
    (hk : IsLeast {j | count + 1 ≤ j ∧ name ++ Text.ofNat j ∉ taken} k)
    (hresult : result[i]? = some (name ++ Text.ofNat k)) :
    Counted names result (i + 1) ((name, k) :: seen) ((name ++ Text.ofNat k) :: taken) where
  inUse n := by
    have hmem : name ∈ names.take i := not_not.1 fun hnew => by
      rw [← h.known, hcount] at hnew
      cases hnew
    rw [List.mem_cons, h.inUse, mem_givenBefore_succ_iff hi, hresult]
    simp only [hmem, true_and, Option.some.injEq, eq_comm (a := n)]
    tauto
  known n := by
    rw [lookup_cons_eq, mem_take_succ_iff hi, not_or, ← h.known]
    split_ifs with hn <;> simp [hn]
  positive n c := by
    rw [lookup_cons_eq]
    split_ifs with hn
    · rintro ⟨⟩
      exact (Nat.le_add_left 1 count).trans hk.1.1
    · exact h.positive n c
  counters n c := by
    rw [lookup_cons_eq]
    split_ifs with hn
    · rintro ⟨⟩ j htwo hj
      subst hn
      rcases Nat.eq_or_lt_of_le hj with rfl | hlt
      · exact List.mem_cons_self
      · exact List.mem_cons_of_mem _ (h.mem_of_lt hcount hk htwo hlt)
    · exact fun hc j htwo hj => List.mem_cons_of_mem _ (h.counters n c hc j htwo hj)

end Counted

/-! ## All names -/

theorem drop_eq_cons {α : Type} {xs rest : List α} {i : ℕ} {x : α} (h : xs.drop i = x :: rest) :
    xs[i]? = some x ∧ xs.drop (i + 1) = rest := by
  refine ⟨?_, ?_⟩
  · rw [← List.head?_drop, h, List.head?_cons]
  · rw [← List.tail_drop, h, List.tail_cons]

/-- **From a position on at which counters and names in use are right, names are made to what they
should be.** -/
theorem renamed_of_counted {names result rest : List Text} {i : ℕ} {seen : List (Text × ℕ)}
    {taken : List Text} (h : Counted names result i seen taken) (hnames : names.drop i = rest)
    (hresult : result.drop i = numberRepeats rest seen taken) :
    ∀ j name, i ≤ j → names[j]? = some name → Renamed names result j name := by
  induction rest generalizing i seen taken with
  | nil =>
    intro j name hij hj
    have hlength := List.drop_eq_nil_iff.1 hnames
    obtain ⟨hlt, -⟩ := List.getElem?_eq_some_iff.1 hj
    omega
  | cons first rest ih =>
    intro j name hij hj
    obtain ⟨hi, hrest⟩ := drop_eq_cons hnames
    rw [numberRepeats] at hresult
    cases known : seen.lookup first with
    | none =>
      rw [known] at hresult
      obtain ⟨hhere, hmore⟩ := drop_eq_cons hresult
      have hnew := (h.known first).1 known
      rcases Nat.eq_or_lt_of_le hij with rfl | hij
      · obtain rfl := Option.some.inj (hi.symm.trans hj)
        exact ⟨fun _ => hhere, fun hmem => absurd hmem hnew⟩
      · exact ih (h.first hi hnew) hrest hmore j name hij hj
    | some count =>
      rw [known] at hresult
      obtain ⟨hhere, hmore⟩ := drop_eq_cons hresult
      have hk := isLeast_freeCounter first taken (count + 1)
      rcases Nat.eq_or_lt_of_le hij with rfl | hij
      · obtain rfl := Option.some.inj (hi.symm.trans hj)
        refine ⟨fun hnew => ?_, fun _ => ⟨_, h.isLeast known hk, hhere⟩⟩
        rw [← h.known, known] at hnew
        cases hnew
      · exact ih (h.again hi known hk hhere) hrest hmore j name hij hj

theorem renamed_deduplicate {names : List Text} {i : ℕ} {name : Text}
    (hi : names[i]? = some name) : Renamed names (deduplicate names) i name :=
  renamed_of_counted (counted_start names _) List.drop_zero List.drop_zero i name i.zero_le hi

/-! ## Names that are made -/

/-- **What names are made to, position by position.** A name that does not come before stays; one
that does gets a counter, and what it becomes is none of the names. -/
theorem getElem?_deduplicate {names : List Text} {i : ℕ} {name : Text}
    (hi : names[i]? = some name) :
    ∃ new, (deduplicate names)[i]? = some new ∧ (name ∉ names.take i → new = name) ∧
      (name ∈ names.take i → ∃ k, new = name ++ Text.ofNat k ∧ new ∉ names) := by
  have hrenamed := renamed_deduplicate hi
  by_cases hmem : name ∈ names.take i
  · obtain ⟨k, ⟨⟨-, hnew, -⟩, -⟩, hk⟩ := hrenamed.again hmem
    exact ⟨_, hk, fun hfirst => absurd hmem hfirst, fun _ => ⟨k, rfl, hnew⟩⟩
  · exact ⟨name, hrenamed.first hmem, fun _ => rfl, fun hagain => absurd hagain hmem⟩

theorem mem_deduplicate_of_mem {names : List Text} {name : Text} (h : name ∈ names) :
    name ∈ deduplicate names := by
  obtain ⟨before, after, rfl, hbefore⟩ := List.eq_append_cons_of_mem h
  obtain ⟨new, hnew, hfirst, -⟩ := getElem?_deduplicate
    (List.getElem?_append_right (le_refl before.length) |>.trans (by simp) :
      (before ++ name :: after)[before.length]? = some name)
  obtain rfl := hfirst (by rwa [List.take_left])
  exact List.mem_of_getElem? hnew

/-- A name that is made unique is one of the names, or one of them with a counter. -/
theorem mem_deduplicate_cases {names : List Text} {new : Text} (h : new ∈ deduplicate names) :
    new ∈ names ∨ ∃ name ∈ names, ∃ k, new = name ++ Text.ofNat k := by
  obtain ⟨i, hi⟩ := List.mem_iff_getElem?.1 h
  obtain ⟨hlt, -⟩ := List.getElem?_eq_some_iff.1 hi
  rw [length_deduplicate] at hlt
  have hname : names[i]? = some names[i] := List.getElem?_eq_getElem hlt
  obtain ⟨new', hnew, hfirst, hagain⟩ := getElem?_deduplicate hname
  obtain rfl := Option.some.inj (hi.symm.trans hnew)
  by_cases hmem : names[i] ∈ names.take i
  · obtain ⟨k, hk, -⟩ := hagain hmem
    exact .inr ⟨_, List.getElem_mem hlt, k, hk⟩
  · rw [hfirst hmem]
    exact .inl (List.getElem_mem hlt)

/-- What holds of names, and stays so with a counter behind them, holds of names made unique. -/
theorem forall_mem_deduplicate {P : Text → Prop}
    (hcounter : ∀ name k, P name → P (name ++ Text.ofNat k)) {names : List Text}
    (h : ∀ name ∈ names, P name) : ∀ name ∈ deduplicate names, P name := by
  intro new hnew
  rcases mem_deduplicate_cases hnew with hmem | ⟨name, hmem, k, rfl⟩
  · exact h new hmem
  · exact hcounter name k (h name hmem)

/-- A name with a counter ends with a digit. -/
theorem getLast?_append_ofNat (name : Text) (n : ℕ) :
    ∃ s, (name ++ Text.ofNat n).getLast? = some s ∧ s.isAsciiDigit = true := by
  obtain ⟨s, hs⟩ := Option.isSome_iff_exists.1 (List.getLast?_isSome.2 (ofNat_ne_nil n))
  refine ⟨s, ?_, isAsciiDigit_ofNat n s (List.mem_of_getLast? hs)⟩
  rw [List.getLast?_append, hs]
  rfl

/-- **Made unique, names hold the same names as before,** but for those that end with a digit. -/
theorem mem_deduplicate_iff {names : List Text} {name : Text}
    (h : name.getLast?.all (fun s => !s.isAsciiDigit) = true) :
    name ∈ deduplicate names ↔ name ∈ names := by
  refine ⟨fun hmem => ?_, mem_deduplicate_of_mem⟩
  rcases mem_deduplicate_cases hmem with hmem | ⟨first, -, k, rfl⟩
  · exact hmem
  · obtain ⟨s, hlast, hdigit⟩ := getLast?_append_ofNat first k
    rw [hlast, Option.all_some, hdigit] at h
    cases h

/-- **Names that differ stay as they are.** -/
theorem deduplicate_of_nodup {names : List Text} (h : names.Nodup) : deduplicate names = names := by
  refine List.ext_getElem? fun i => ?_
  cases hi : names[i]? with
  | none =>
    rw [List.getElem?_eq_none_iff] at hi ⊢
    rwa [length_deduplicate]
  | some name =>
    refine (renamed_deduplicate hi).first fun hmem => ?_
    have hdrop : name ∈ names.drop i := by
      rw [← Option.mem_def, ← List.head?_drop] at hi
      exact List.mem_of_mem_head? hi
    exact List.disjoint_take_drop h le_rfl hmem hdrop

/-- **Names are made unique by the least counters.** There are as many names as before, and they
differ. A name that comes for the first time stays in place, and one that comes again gets the least
counter from 2 on that gives a name which is neither among the names nor given to a repeat in front;
there always is one, as every search for a counter ends at the first that gives a new name. Names
made unique stay as they are. -/
theorem deduplicate_exact (names : List Text) :
    (deduplicate names).length = names.length ∧
    (deduplicate names).Nodup ∧
    (∀ i name, names[i]? = some name →
      (name ∉ names.take i → (deduplicate names)[i]? = some name) ∧
      (name ∈ names.take i →
        ∃ k, IsLeast (freeCounters names (deduplicate names) i name) k ∧
          (deduplicate names)[i]? = some (name ++ Text.ofNat k))) ∧
    (∀ (name : Text) (taken : List Text) (k : ℕ),
      IsLeast {j | k ≤ j ∧ name ++ Text.ofNat j ∉ taken}
        (freeCounter name taken taken.length k)) ∧
    deduplicate (deduplicate names) = deduplicate names := by
  refine ⟨length_deduplicate names, nodup_deduplicate names, fun i name hi => ?_,
    isLeast_freeCounter, deduplicate_of_nodup (nodup_deduplicate names)⟩
  have hrenamed := renamed_deduplicate hi
  exact ⟨hrenamed.first, hrenamed.again⟩

example : deduplicate ["x", "x", "x2"] = ["x", "x3", "x2"] := by decide

end SuiteForge
