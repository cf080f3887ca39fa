/-
# String literals

A text that is written into a string literal of a Java source is read from it as it was: between
double quotes it is one literal with the text as its value (`read_quoted`), and so it is wherever
code is read (`scan_quoted`).

| symbols of the text | in the literal | read |
| --- | --- | --- |
| backslash | two | the first begins no Unicode escape, as another follows; the second may not |
| double quote, line feed, carriage return, tab | behind a backslash | an escape of the literal |
| any other | itself | itself |
-/

import SuiteForge.Proofs.Java.Reading
import SuiteForge.Suite.JavaText

namespace SuiteForge

namespace Java

open JavaText (escape literal)

theorem literal_cons (s : Symbol) (t : Text) : literal (s :: t) = escape s ++ literal t := by
  rw [literal, List.flatMap_cons]
  rfl

/-- Exchanging the occurrences of one symbol. -/
theorem replace_singleton (old : Symbol) (new t : Text) :
    Text.replace [old] new t = Text.replaceSymbol old new t := by
  induction t with
  | nil => rw [Text.replace]; rfl
  | cons s t ih =>
    rw [Text.replace, Text.replaceSymbol, List.flatMap_cons]
    by_cases h : s = old
    · simp [h, ih, Text.replaceSymbol]
    · simp [h, Ne.symm h, ih, Text.replaceSymbol]

/-- **The five replacements may be made one after the other,** that of backslashes first: none of
the others finds what one before it has written. -/
theorem literal_eq_replace (t : Text) :
    literal t = Text.replace "\t" "\\t" (Text.replace "\r" "\\r" (Text.replace "\n" "\\n"
      (Text.replace "\"" "\\\"" (Text.replace "\\" "\\\\" t)))) := by
  have hone : ∀ s, escape s = ((((if s = .char '\\' then Text.ofString "\\\\" else [s]).flatMap
      fun s => if s = .char '"' then Text.ofString "\\\"" else [s]).flatMap
      fun s => if s = .char '\n' then Text.ofString "\\n" else [s]).flatMap
      fun s => if s = .char '\r' then Text.ofString "\\r" else [s]).flatMap
      fun s => if s = .char '\t' then Text.ofString "\\t" else [s] := by
    intro s
    unfold escape
    split_ifs with h1 h2 h3 h4 h5
    · rfl
    · subst h2; rfl
    · subst h3; rfl
    · subst h4; rfl
    · subst h5; rfl
    · simp [h2, h3, h4, h5]
  show literal t = Text.replace [.char '\t'] _ (Text.replace [.char '\r'] _
    (Text.replace [.char '\n'] _ (Text.replace [.char '"'] _ (Text.replace [.char '\\'] _ t))))
  simp only [replace_singleton, Text.replaceSymbol, List.flatMap_assoc]
  exact List.flatMap_congr fun s _ => (hone s).trans (by simp only [List.flatMap_assoc])

/-! ## Reading literals -/

/-- One symbol is read from a literal as it was. -/
theorem scan_escape (value : Text) (s : Symbol) :
    scan advance (.none, .literal value) (escape s) =
      some ([], (.none, .literal (value ++ [s]))) := by
  unfold escape
  split
  · next h => subst h; rfl
  split
  · next h => subst h; rfl
  split
  · next h => subst h; rfl
  split
  · next h => subst h; rfl
  split
  · next h => subst h; rfl
  next hbackslash hquote hfeed hreturn _ =>
  simp [scan, advance, cascade, unescape, lex, hbackslash, hquote, hfeed, hreturn]

/-- **A text is read from a literal as it was.** -/
theorem scan_literal (value t : Text) :
    scan advance (.none, .literal value) (literal t) =
      some ([], (.none, .literal (value ++ t))) := by
  induction t generalizing value with
  | nil => simp [literal, scan]
  | cons s t ih =>
    rw [literal_cons, scan_append_of_eq (scan_escape value s), ih]
    simp

/-- A text between double quotes. -/
def quoted (t : Text) : Text := .char '"' :: (literal t ++ [.char '"'])

theorem scan_opened (t rest : Text) :
    scan advance (.none, .code) (.char '"' :: (literal t ++ rest)) =
      scan advance (.none, .literal t) rest := by
  have hopen : advance (.none, .code) (.char '"') = some ([], (.none, .literal [])) := rfl
  rw [scan_cons hopen, scan_append_of_eq (scan_literal [] t)]
  simp

/-- **Between double quotes a text is one literal with the text as its value.** -/
theorem read_quoted (t : Text) : read (quoted t) = some [.literal t] := by
  unfold quoted
  cases t with
  | nil => rfl
  | cons s t =>
    have hclose : scan advance (.none, .literal (s :: t)) [.char '"'] =
        some ([.literal (s :: t)], (.none, .code)) := rfl
    exact read_of_scan ((scan_opened _ _).trans hclose) rfl

/-- A literal ends at a double quote, and what follows is read as code; it does not begin with
another double quote or a backslash. -/
theorem scan_closed (t : Text) {s : Symbol} (rest : Text) (hquote : s ≠ .char '"')
    (hbackslash : s ≠ .char '\\') :
    scan advance (.none, .literal t) (.char '"' :: s :: rest) =
      (scan advance (.none, .code) (s :: rest)).map fun x => (.literal t :: x.1, x.2) := by
  cases t with
  | nil =>
    have hclose : advance (.none, .literal []) (.char '"') = some ([], (.none, .quotes)) := rfl
    have hquotes : lex .quotes (.raw s) =
        (lexCode s).map fun x => (.literal [] :: x.1, x.2) := if_neg hquote
    have hcode : lex .code (.raw s) = lexCode s := rfl
    rw [scan_cons hclose, scan, scan, advance_raw _ hbackslash, advance_raw _ hbackslash, hquotes,
      hcode]
    cases lexCode s <;> simp [Function.comp_def]
  | cons x t =>
    have hclose : advance (.none, .literal (x :: t)) (.char '"') =
        some ([.literal (x :: t)], (.none, .code)) := rfl
    rw [scan_cons hclose]
    rfl

/-- **Wherever code is read, a text between double quotes is one literal** with the text as its
value, and what follows is read as code; it does not begin with another double quote or a
backslash. -/
theorem scan_quoted (t : Text) {s : Symbol} (rest : Text) (hquote : s ≠ .char '"')
    (hbackslash : s ≠ .char '\\') :
    scan advance (.none, .code) (quoted t ++ s :: rest) =
      (scan advance (.none, .code) (s :: rest)).map fun x => (.literal t :: x.1, x.2) := by
  have hquoted : quoted t ++ s :: rest = .char '"' :: (literal t ++ .char '"' :: s :: rest) := by
    simp [quoted]
  rw [hquoted, scan_opened, scan_closed t rest hquote hbackslash]

/-! ## Values -/

/-- **Different texts are written differently.** -/
theorem literal_injective : Function.Injective literal := by
  intro t u h
  have hread : read (quoted t) = read (quoted u) := by rw [quoted, quoted, h]
  rw [read_quoted, read_quoted] at hread
  simpa using hread

/-- **A text is written on one line.** -/
theorem not_mem_literal {s : Symbol} (h : s = .char '\n' ∨ s = .char '\r') (t : Text) :
    s ∉ literal t := by
  intro hs
  obtain ⟨x, -, hx⟩ := List.mem_flatMap.1 hs
  unfold escape at hx
  split_ifs at hx with hbackslash hquote hfeed hreturn htab
  case neg =>
    obtain rfl := List.mem_singleton.1 hx
    exact h.elim hfeed hreturn
  all_goals
    rcases h with rfl | rfl <;> exact absurd hx (by decide)

/-- A double quote is written for a double quote only, behind a backslash. -/
theorem eq_of_escape {s : Symbol} {before after : Text}
    (h : escape s = before ++ .char '"' :: after) :
    s = .char '"' ∧ before = [.char '\\'] ∧ after = [] := by
  by_cases hs : s = .char '"'
  · subst hs
    have hescape : escape (.char '"') = [.char '\\', .char '"'] := by decide
    rw [hescape] at h
    obtain _ | ⟨x, _ | ⟨y, before⟩⟩ := before
    · exact absurd (List.cons.inj h).1 (by decide)
    · simp_all
    · simp at h
  · have hmem : .char '"' ∈ escape s := h ▸ List.mem_append_right _ List.mem_cons_self
    refine absurd hmem ?_
    unfold escape
    split_ifs
    all_goals first | decide | exact fun hmem => hs (List.mem_singleton.1 hmem).symm

/-- **A literal has double quotes only where its text has them,** each behind a backslash that is
written for it. -/
theorem exists_of_literal {t before after : Text} (h : literal t = before ++ .char '"' :: after) :
    ∃ u v, t = u ++ .char '"' :: v ∧ before = literal u ++ [.char '\\'] ∧ after = literal v := by
  induction t generalizing before with
  | nil => simp [literal] at h
  | cons s t ih =>
    rw [literal_cons] at h
    have hlater : ∀ more, before = escape s ++ more → literal t = more ++ .char '"' :: after →
        ∃ u v, s :: t = u ++ .char '"' :: v ∧ before = literal u ++ [.char '\\'] ∧
          after = literal v := by
      rintro more rfl hmore
      obtain ⟨u, v, rfl, rfl, rfl⟩ := ih hmore
      exact ⟨s :: u, v, rfl, by rw [literal_cons, List.append_assoc], rfl⟩
    obtain ⟨more, hbefore, hmore⟩ | ⟨more, hescape, hmore⟩ := List.append_eq_append_iff.1 h
    · exact hlater more hbefore hmore
    · cases more with
      | nil => exact hlater [] (by simpa using hescape.symm) hmore.symm
      | cons x more =>
        obtain ⟨rfl, rfl⟩ := List.cons.inj hmore
        obtain ⟨rfl, rfl, rfl⟩ := eq_of_escape hescape
        exact ⟨[], t, rfl, rfl, rfl⟩

end Java

end SuiteForge
