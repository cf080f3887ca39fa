/-
# Escaped text in documents

A text that is escaped stands for itself wherever it is put: read in content it leaves the
reader in content (`read_escapeXml_content`), read in the value of an attribute it is added to
the value (`read_escapeXml_value`). It must not hold a symbol that no document may hold;
escaping leaves those as they are, and no document that holds one is well-formed
(`isLegal_of_isWellFormed`).
-/

import Mathlib
import SuiteForge.Template
import SuiteForge.Xml.Document

namespace SuiteForge

namespace Xml

namespace Reader

variable {fits : Reader → Text → Bool} {r r' : Reader}

/-! ## Legal symbols -/

theorem isLegal_of_step {s : Symbol} (h : step fits r s = some r') : isLegal s = true := by
  by_contra hs
  rw [step, if_pos (by simpa using hs)] at h
  cases h

/-- **What is read is legal.** -/
theorem isLegal_of_read {t : Text} (h : read fits r t = some r') : ∀ s ∈ t, isLegal s = true := by
  induction t generalizing r with
  | nil => exact fun _ hs => absurd hs List.not_mem_nil
  | cons s rest ih =>
    rw [read, List.foldlM_cons] at h
    obtain ⟨r₁, hstep, hrest⟩ := Option.bind_eq_some_iff.1 h
    exact List.forall_mem_cons.2 ⟨isLegal_of_step hstep, ih hrest⟩

/-! ## References -/

/-- What follows the ampersand of a reference that stands for a symbol. -/
structure RefersTo (name : Text) (s : Symbol) : Prop where
  /-- In content it is read over. -/
  content : ∀ (fits : Reader → Text → Bool) (r : Reader),
    read fits { r with mode := .reference [] } name = some { r with mode := .text 0 }
  /-- In the value of an attribute it is the symbol. -/
  value : ∀ (fits : Reader → Text → Bool) (r : Reader) (t : Tag) (key : Text) (mark : Symbol)
    (held : Text),
    read fits { r with mode := .tag { t with part := .reference key mark held [] } } name =
      some { r with mode := .tag { t with part := .value key mark (s :: held) } }

/-- A symbol is escaped by a reference to it, or is none that needs to be escaped. -/
theorem escapeXmlSymbol_cases (s : Symbol) :
    (∃ name, escapeXmlSymbol s = .char '&' :: name ∧ RefersTo name s) ∨
      (escapeXmlSymbol s = [s] ∧ s ≠ .char '&' ∧ s ≠ .char '<' ∧ s ≠ .char '>' ∧
        s ≠ .char '"') := by
  unfold escapeXmlSymbol
  split
  · next h => exact .inl ⟨_, rfl, fun _ _ => rfl, fun _ _ _ _ _ _ => h ▸ rfl⟩
  split
  · next h => exact .inl ⟨_, rfl, fun _ _ => rfl, fun _ _ _ _ _ _ => h ▸ rfl⟩
  split
  · next h => exact .inl ⟨_, rfl, fun _ _ => rfl, fun _ _ _ _ _ _ => h ▸ rfl⟩
  split
  · next h => exact .inl ⟨_, rfl, fun _ _ => rfl, fun _ _ _ _ _ _ => h ▸ rfl⟩
  split
  · next h => exact .inl ⟨_, rfl, fun _ _ => rfl, fun _ _ _ _ _ _ => h ▸ rfl⟩
  · exact .inr ⟨rfl, ‹_›, ‹_›, ‹_›, ‹_›⟩

theorem read_cons (s : Symbol) (t : Text) :
    read fits r (s :: t) = (step fits r s).bind fun r => read fits r t := by
  rw [read, List.foldlM_cons]
  rfl

theorem read_singleton (s : Symbol) : read fits r [s] = step fits r s := by
  rw [read_cons]
  exact Option.bind_fun_some _

/-! ## Content -/

/-- Content may stand here. -/
def IsContent (r : Reader) : Prop := r.isInside = true ∧ r.place ≠ .subset

theorem read_escapeXmlSymbol_content (hr : r.IsContent) (brackets : ℕ) {s : Symbol}
    (hs : isLegal s = true) :
    ∃ b, read fits { r with mode := .text brackets } (escapeXmlSymbol s) =
      some { r with mode := .text b } := by
  have hinside : Reader.isInside { r with mode := .text brackets } = true := hr.1
  rcases escapeXmlSymbol_cases s with ⟨name, hescape, hname⟩ | ⟨hescape, hand, hless, hmore, -⟩
  · have hstep : step fits { r with mode := .text brackets } (.char '&') =
        some { r with mode := .reference [] } := by
      have hlegal : isLegal (.char '&') = true := by decide
      simp [step, hlegal, hr.2, hinside]
    rw [hescape, read_cons, hstep]
    exact ⟨0, hname.content fits r⟩
  · rw [hescape, read_singleton]
    by_cases hbracket : s = .char ']'
    · refine ⟨brackets + 1, ?_⟩
      subst hbracket
      simp [step, hs, hr.2, hinside]
    · exact ⟨0, by simp [step, hs, hr.2, hinside, hand, hless, hmore, hbracket]⟩

/-- **Escaped text leaves the reader in content.** -/
theorem read_escapeXml_content (hr : r.IsContent) (brackets : ℕ) {t : Text}
    (ht : ∀ s ∈ t, isLegal s = true) :
    ∃ b, read fits { r with mode := .text brackets } (escapeXml t) =
      some { r with mode := .text b } := by
  induction t generalizing brackets with
  | nil => exact ⟨brackets, rfl⟩
  | cons s rest ih =>
    obtain ⟨hs, hrest⟩ := List.forall_mem_cons.1 ht
    obtain ⟨b, hb⟩ : ∃ b, read fits { r with mode := .text brackets } (escapeXmlSymbol s) =
        some { r with mode := .text b } := read_escapeXmlSymbol_content hr brackets hs
    obtain ⟨b', hb'⟩ := ih b hrest
    refine ⟨b', ?_⟩
    rw [escapeXml, List.flatMap_cons, read_append, hb]
    exact hb'

/-- A symbol that ends a row of brackets is read whatever their number. -/
theorem read_text_eq (hr : r.IsContent) (brackets : ℕ) {s : Symbol} (t : Text)
    (hbracket : s ≠ .char ']') (hmore : s ≠ .char '>') :
    read fits { r with mode := .text brackets } (s :: t) =
      read fits { r with mode := .text 0 } (s :: t) := by
  have hinside : ∀ b, Reader.isInside { r with mode := .text b } = true := fun _ => hr.1
  rw [read_cons, read_cons]
  congr 1
  simp [step, hr.2, hinside, hbracket, hmore]

/-! ## Values of attributes -/

/-- The reader in the value of an attribute, within double quotes. -/
def inValue (r : Reader) (t : Tag) (key held : Text) : Reader :=
  { r with mode := .tag { t with part := .value key (.char '"') held } }

theorem read_escapeXmlSymbol_value (t : Tag) (key held : Text) {s : Symbol}
    (hs : isLegal s = true) :
    read fits (r.inValue t key held) (escapeXmlSymbol s) =
      some (r.inValue t key (s :: held)) := by
  rcases escapeXmlSymbol_cases s with ⟨name, hescape, hname⟩ | ⟨hescape, hand, hless, -, hquote⟩
  · rw [hescape, read_cons]
    exact hname.value fits r t key (.char '"') held
  · rw [hescape, read_singleton]
    simp [inValue, step, stepTag, hs, hand, hless, hquote]

/-- **Escaped text is added to the value of an attribute.** -/
theorem read_escapeXml_value (t : Tag) (key held : Text) {u : Text}
    (hu : ∀ s ∈ u, isLegal s = true) :
    read fits (r.inValue t key held) (escapeXml u) =
      some (r.inValue t key (u.reverse ++ held)) := by
  induction u generalizing held with
  | nil => rfl
  | cons s rest ih =>
    obtain ⟨hs, hrest⟩ := List.forall_mem_cons.1 hu
    rw [escapeXml, List.flatMap_cons, read_append, read_escapeXmlSymbol_value t key held hs,
      Option.bind_some, ← escapeXml, ih (s :: held) hrest, List.reverse_cons, List.append_assoc,
      List.singleton_append]

end Reader

/-! ## Whole documents -/

/-- Escaping leaves a symbol that is not legal as it is. -/
theorem isLegal_of_escapeXml {t : Text} (h : ∀ s ∈ escapeXml t, isLegal s = true) :
    ∀ s ∈ t, isLegal s = true := by
  intro s hs
  by_contra hlegal
  have hne : ∀ c : Char, isLegal (.char c) = true → s ≠ .char c := by
    rintro c hc rfl
    exact hlegal hc
  have hescape : escapeXmlSymbol s = [s] := by
    simp [escapeXmlSymbol, hne '&' (by decide), hne '<' (by decide), hne '>' (by decide),
      hne '\'' (by decide), hne '"' (by decide)]
  refine hlegal (h s (List.mem_flatMap.2 ⟨s, hs, ?_⟩))
  rw [hescape]
  exact List.mem_singleton_self s

/-- The byte order mark begins no document by itself. -/
theorem isWellFormed_of_read {t : Text} {r : Reader} (h : Reader.start.read Reader.fits t = some r)
    (hr : r.isFinished = true) : isWellFormed t = true := by
  have hread : (Reader.start.read Reader.fits t).any Reader.isFinished = true := by
    rw [h, Option.any_some, hr]
  unfold isWellFormed
  cases t with
  | nil => exact hread
  | cons s rest =>
    have hmark : s.code ≠ 0xFEFF := by
      intro hcode
      have hne : ∀ c : Char, c.toNat ≠ 0xFEFF → s ≠ .char c := by
        rintro c hc rfl
        exact hc hcode
      have hstep : Reader.step Reader.fits Reader.start s = none := by
        simp [Reader.step, Reader.start, Reader.isInside, isSpace, hne '<' (by decide),
          hne ' ' (by decide), hne '\t' (by decide), hne '\n' (by decide), hne '\r' (by decide)]
      rw [Reader.read_cons, hstep] at h
      cases h
    simp only [if_neg hmark]
    exact hread

/-- **A document that is well-formed has legal symbols only.** -/
theorem isLegal_of_isWellFormed {t : Text} (h : isWellFormed t = true) :
    ∀ s ∈ t, isLegal s = true := by
  unfold isWellFormed at h
  obtain ⟨r, hr, -⟩ := (Option.any_eq_true _ _).1 h
  cases t with
  | nil => exact fun _ hs => absurd hs List.not_mem_nil
  | cons s rest =>
    have hbody := Reader.isLegal_of_read hr
    by_cases hmark : s.code = 0xFEFF
    · simp only [if_pos hmark] at hbody
      refine List.forall_mem_cons.2 ⟨?_, hbody⟩
      rw [isLegal, hmark]
      decide
    · simpa only [if_neg hmark] using hbody

end Xml

end SuiteForge
