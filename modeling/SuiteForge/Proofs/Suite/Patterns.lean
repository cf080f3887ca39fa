/-
# Patterns

A pattern is a list of parts that stand one behind another in a text.

| part | what stands there |
| --- | --- |
| `lineStart` | nothing, at the beginning of a line |
| `wordEdge` | nothing, with a symbol of a word on one side of it only |
| `oneOf words` | one of the words |
| `one p` | a symbol of a class |
| `many p` | any number of symbols of a class |

A part may match more or less of a text, and a pattern is in a text if it matches for some such
choice. The declarations in a Java source are looked for without any choice: all blanks behind a
keyword are passed over, then all symbols of a name. They are found exactly where the patterns match
(`hasPackage_iff`, `hasType_iff`), since no symbol of a class that is passed over can be what has to
stand behind it.
-/

import SuiteForge.Proofs.Suite.Sources

namespace SuiteForge

/-! ## Patterns in texts -/

/-- A part of a pattern. -/
inductive PatternPart where
  | lineStart
  | wordEdge
  | oneOf (words : List Text)
  | one (p : Symbol → Bool)
  | many (p : Symbol → Bool)

abbrev Pattern := List PatternPart

/-- A part matches what stands between two texts. -/
def PatternPart.Matches (before after : Text) : PatternPart → Text → Prop
  | lineStart, t => t = [] ∧ ∀ s ∈ before.getLast?, s = .char '\n'
  | wordEdge, t => t = [] ∧ before.getLast?.any Symbol.isWord ≠ after.head?.any Symbol.isWord
  | oneOf words, t => t ∈ words
  | one p, t => ∃ s, t = [s] ∧ p s = true
  | many p, t => ∀ s ∈ t, p s = true

namespace Pattern

/-- The parts of a pattern match, one behind another, at the place between two texts. -/
def MatchesAt : Pattern → Text → Text → Prop
  | [], _, _ => True
  | part :: parts, before, after => ∃ t rest, after = t ++ rest ∧ part.Matches before rest t ∧
      MatchesAt parts (before ++ t) rest

/-- A pattern matches at some place of a text. -/
def IsIn (pattern : Pattern) (t : Text) : Prop :=
  ∃ before after, t = before ++ after ∧ pattern.MatchesAt before after

variable {parts : Pattern} {before after : Text}

theorem matchesAt_lineStart : MatchesAt (.lineStart :: parts) before after ↔
    (∀ s ∈ before.getLast?, s = .char '\n') ∧ MatchesAt parts before after := by
  constructor
  · rintro ⟨t, rest, rfl, ⟨rfl, hline⟩, hrest⟩
    exact ⟨hline, by simpa using hrest⟩
  · rintro ⟨hline, hrest⟩
    exact ⟨[], after, rfl, ⟨rfl, hline⟩, by simpa using hrest⟩

theorem matchesAt_wordEdge : MatchesAt (.wordEdge :: parts) before after ↔
    before.getLast?.any Symbol.isWord ≠ after.head?.any Symbol.isWord ∧
      MatchesAt parts before after := by
  constructor
  · rintro ⟨t, rest, rfl, ⟨rfl, hedge⟩, hrest⟩
    exact ⟨hedge, by simpa using hrest⟩
  · rintro ⟨hedge, hrest⟩
    exact ⟨[], after, rfl, ⟨rfl, hedge⟩, by simpa using hrest⟩

theorem matchesAt_one {p : Symbol → Bool} : MatchesAt (.one p :: parts) before after ↔
    ∃ s rest, after = s :: rest ∧ p s = true ∧ MatchesAt parts (before ++ [s]) rest := by
  constructor
  · rintro ⟨_, rest, rfl, ⟨s, rfl, hs⟩, hrest⟩
    exact ⟨s, rest, rfl, hs, hrest⟩
  · rintro ⟨s, rest, rfl, hs, hrest⟩
    exact ⟨[s], rest, rfl, ⟨s, rfl, hs⟩, hrest⟩

end Pattern

/-! ## Without a choice -/

/-- A mark that is not of a class stands behind some symbols of the class just when it is the first
that is not passed over. -/
theorem head?_dropWhile_eq_some_iff {p : Symbol → Bool} {mark : Symbol} {t : Text}
    (hp : p mark = false) : (t.dropWhile p).head? = some mark ↔
      ∃ run rest, t = run ++ mark :: rest ∧ ∀ s ∈ run, p s = true := by
  constructor
  · intro h
    obtain ⟨rest, hrest⟩ := List.head?_eq_some_iff.1 h
    refine ⟨t.takeWhile p, rest, ?_, fun s hs => List.mem_takeWhile_imp hs⟩
    rw [← hrest, List.takeWhile_append_dropWhile]
  · rintro ⟨run, rest, rfl, hrun⟩
    rw [List.dropWhile_append_of_pos hrun, List.dropWhile_cons_of_neg (by simp [hp]),
      List.head?_cons]

namespace JavaSource

open Pattern

/-- What stands at a place is found there or further on, if the symbol in front counts. -/
theorem anywhere_iff {edge : Symbol → Bool} {p : Text → Bool} {here : Bool} {t : Text} :
    anywhere edge p here t = true ↔ ∃ before after, t = before ++ after ∧
      (before.getLast?.map edge).getD here = true ∧ p after = true := by
  induction t generalizing here with
  | nil =>
    rw [anywhere, Bool.and_eq_true]
    constructor
    · exact fun h => ⟨[], [], rfl, h⟩
    · rintro ⟨before, after, heq, h⟩
      obtain ⟨rfl, rfl⟩ := List.append_eq_nil_iff.1 heq.symm
      exact h
  | cons s rest ih =>
    have hlast (before : Text) : ((s :: before).getLast?.map edge).getD here =
        (before.getLast?.map edge).getD (edge s) := by
      rw [List.getLast?_cons]
      cases before.getLast? <;> rfl
    rw [anywhere, Bool.or_eq_true, Bool.and_eq_true, ih]
    constructor
    · rintro (h | ⟨before, after, rfl, hedge, hp⟩)
      · exact ⟨[], s :: rest, rfl, h⟩
      · exact ⟨s :: before, after, rfl, (hlast before).trans hedge, hp⟩
    · rintro ⟨before, after, heq, hedge, hp⟩
      cases before with
      | nil => exact .inl ⟨hedge, heq ▸ hp⟩
      | cons first before =>
        obtain ⟨rfl, rfl⟩ := List.cons.inj heq
        exact .inr ⟨before, after, rfl, (hlast before).symm.trans hedge, hp⟩

/-- **A keyword is followed by a name** behind all blanks if it is behind some. -/
theorem afterKeyword?_eq_some_iff {keyword t name : Text} :
    afterKeyword? keyword t = some name ↔ ∃ blank blanks first more,
      t = keyword ++ blank :: (blanks ++ name) ∧ name = first :: more ∧ blank.isBlank = true ∧
        (∀ s ∈ blanks, s.isBlank = true) ∧ isNameStart first = true := by
  constructor
  · intro h
    unfold afterKeyword? at h
    split at h
    · next hstarts =>
      obtain ⟨rest, rfl⟩ := List.isPrefixOf_iff_prefix.1 hstarts
      simp only [List.drop_left] at h
      split at h
      · next hname =>
        rw [Option.some.injEq] at h
        rw [h, Bool.and_eq_true] at hname
        obtain ⟨blank, rest', hrest⟩ : ∃ blank rest', rest = blank :: rest' := by
          cases rest with
          | nil => simp at hname
          | cons blank rest' => exact ⟨blank, rest', rfl⟩
        obtain ⟨first, more, hfirst⟩ : ∃ first more, name = first :: more := by
          cases name with
          | nil => simp at hname
          | cons first more => exact ⟨first, more, rfl⟩
        subst hrest hfirst
        obtain ⟨hblank, hstart⟩ := hname
        rw [List.head?_cons, Option.any_some] at hblank hstart
        rw [List.dropWhile_cons_of_pos hblank] at h
        refine ⟨blank, rest'.takeWhile Symbol.isBlank, first, more, ?_, rfl, hblank,
          fun s hs => List.mem_takeWhile_imp hs, hstart⟩
        rw [← h, List.takeWhile_append_dropWhile]
      · cases h
    · cases h
  · rintro ⟨blank, blanks, first, more, rfl, rfl, hblank, hblanks, hstart⟩
    have hstarts : Text.startsWith (keyword ++ blank :: (blanks ++ first :: more)) keyword = true :=
      List.isPrefixOf_iff_prefix.2 (List.prefix_append _ _)
    have hname : (blank :: (blanks ++ first :: more)).dropWhile Symbol.isBlank = first :: more := by
      rw [List.dropWhile_cons_of_pos hblank, List.dropWhile_append_of_pos hblanks,
        List.dropWhile_cons_of_neg (by simp [isBlank_of_isNameStart hstart])]
    rw [afterKeyword?, if_pos hstarts]
    simp only [List.drop_left, hname, List.head?_cons, Option.any_some, hblank, hstart,
      Bool.and_self, if_true]

/-- **A keyword, blanks and a name match** where the name is found behind a keyword. What follows in
the pattern must not look back. -/
theorem matchesAt_keyword {keywords : List Text} {parts : Pattern} {q : Text → Prop}
    (hparts : ∀ before after, MatchesAt parts before after ↔ q after) {before after : Text} :
    MatchesAt (.oneOf keywords :: .one Symbol.isBlank :: .many Symbol.isBlank ::
        .one isNameStart :: parts) before after ↔
      ∃ keyword ∈ keywords, ∃ first more,
        afterKeyword? keyword after = some (first :: more) ∧ q more := by
  constructor
  · rintro ⟨keyword, _, rfl, hkeyword, hrest⟩
    obtain ⟨blank, _, rfl, hblank, blanks, _, rfl, hblanks, hrest⟩ := matchesAt_one.1 hrest
    obtain ⟨first, more, rfl, hfirst, hmore⟩ := matchesAt_one.1 hrest
    exact ⟨keyword, hkeyword, first, more, afterKeyword?_eq_some_iff.2 ⟨blank, blanks, first, more,
      rfl, rfl, hblank, hblanks, hfirst⟩, (hparts _ _).1 hmore⟩
  · rintro ⟨keyword, hkeyword, first, more, hafter, hmore⟩
    obtain ⟨blank, blanks, _, _, rfl, hname, hblank, hblanks, hfirst⟩ :=
      afterKeyword?_eq_some_iff.1 hafter
    obtain ⟨rfl, rfl⟩ := List.cons.inj hname
    refine ⟨keyword, _, rfl, hkeyword, matchesAt_one.2 ⟨blank, _, rfl, hblank, blanks, _, rfl,
      hblanks, matchesAt_one.2 ⟨first, more, rfl, hfirst, (hparts _ _).2 hmore⟩⟩⟩

/-! ## Packages -/

/-- A symbol of a dotted name. -/
def isNameSymbol (s : Symbol) : Bool := s.isWord || s == .char '.'

/-- At the beginning of a line, the keyword, blanks, a dotted name and a semicolon. -/
def packagePattern : Pattern :=
  [.lineStart, .oneOf ["package"], .one Symbol.isBlank, .many Symbol.isBlank, .one isNameStart,
    .many isNameSymbol, .one (· == .char ';')]

/-- The rest of a dotted name and a semicolon, wherever they stand. -/
theorem matchesAt_nameSymbols (before after : Text) :
    MatchesAt [.many isNameSymbol, .one (· == .char ';')] before after ↔
      (after.dropWhile isNameSymbol).head? = some (.char ';') := by
  rw [head?_dropWhile_eq_some_iff (by decide)]
  constructor
  · rintro ⟨run, _, rfl, hrun, hrest⟩
    obtain ⟨mark, rest, rfl, hmark, -⟩ := matchesAt_one.1 hrest
    exact ⟨run, rest, by rw [beq_iff_eq.1 hmark], hrun⟩
  · rintro ⟨run, rest, rfl, hrun⟩
    exact ⟨run, _, rfl, hrun, matchesAt_one.2 ⟨_, rest, rfl, beq_self_eq_true _, trivial⟩⟩

theorem isNameSymbol_of_isNameStart {s : Symbol} (h : isNameStart s = true) :
    isNameSymbol s = true := by
  rw [isNameSymbol, isWord_of_isNameStart h, Bool.true_or]

theorem beginsPackage_iff_matchesAt (before after : Text) :
    beginsPackage after = true ↔ MatchesAt packagePattern.tail before after := by
  refine Iff.trans ?_ (matchesAt_keyword matchesAt_nameSymbols).symm
  simp only [List.mem_singleton, exists_eq_left]
  rw [beginsPackage]
  cases hafter : afterKeyword? "package" after with
  | none => simp
  | some name =>
    obtain ⟨-, -, first, more, -, rfl, -, -, hfirst⟩ := afterKeyword?_eq_some_iff.1 hafter
    have hpass := List.dropWhile_cons_of_pos (l := more) (isNameSymbol_of_isNameStart hfirst)
    show ((first :: more).dropWhile isNameSymbol).head? == _ ↔ _
    rw [hpass]
    simp

/-- **A line with a package declaration is found** exactly if there is one. -/
theorem hasPackage_iff {t : Text} : hasPackage t = true ↔ packagePattern.IsIn t := by
  rw [hasPackage, anywhere_iff]
  refine exists₂_congr fun before after => and_congr_right fun _ => ?_
  rw [beginsPackage_iff_matchesAt before, packagePattern, matchesAt_lineStart]
  refine and_congr_left fun _ => ?_
  cases before.getLast? <;> simp

instance (t : Text) : Decidable (packagePattern.IsIn t) := decidable_of_iff _ hasPackage_iff

/-! ## Types -/

/-- At the edge of a word, one of the keywords, blanks and a name. -/
def typePattern : Pattern :=
  [.wordEdge, .oneOf ["class", "interface", "enum", "record"], .one Symbol.isBlank,
    .many Symbol.isBlank, .one isNameStart, .many Symbol.isWord]

theorem beginsType_iff_matchesAt (before after : Text) :
    beginsType after = true ↔ MatchesAt typePattern.tail before after := by
  have hparts (before after : Text) : MatchesAt [.many Symbol.isWord] before after ↔ True :=
    iff_true_intro ⟨[], after, rfl, by simp [PatternPart.Matches], trivial⟩
  refine Iff.trans ?_ (matchesAt_keyword hparts).symm
  rw [beginsType, List.any_eq_true]
  refine exists_congr fun keyword => and_congr_right fun _ => ?_
  rw [Option.isSome_iff_exists]
  constructor
  · rintro ⟨name, hname⟩
    obtain ⟨-, -, first, more, -, rfl, -⟩ := afterKeyword?_eq_some_iff.1 hname
    exact ⟨first, more, hname, trivial⟩
  · rintro ⟨first, more, hname, -⟩
    exact ⟨first :: more, hname⟩

/-- A keyword begins with a symbol of a word. -/
theorem isWord_of_beginsType {t : Text} (h : beginsType t = true) :
    t.head?.any Symbol.isWord = true := by
  obtain ⟨keyword, hkeyword, hafter⟩ := List.any_eq_true.1 h
  obtain ⟨name, hname⟩ := Option.isSome_iff_exists.1 hafter
  obtain ⟨-, -, -, -, rfl, -⟩ := afterKeyword?_eq_some_iff.1 hname
  have hhead : ∀ keyword ∈ typeKeywords, keyword ≠ [] ∧ keyword.head?.any Symbol.isWord = true := by
    decide +kernel
  obtain ⟨hne, hword⟩ := hhead keyword hkeyword
  rwa [List.head?_append_of_ne_nil _ hne]

/-- **The declaration of a type is found** exactly if there is one. -/
theorem hasType_iff {t : Text} : hasType t = true ↔ typePattern.IsIn t := by
  rw [hasType, anywhere_iff]
  refine exists₂_congr fun before after => and_congr_right fun _ => ?_
  rw [beginsType_iff_matchesAt before, typePattern, matchesAt_wordEdge]
  refine and_congr_left fun htype => ?_
  rw [isWord_of_beginsType ((beginsType_iff_matchesAt before after).2 htype)]
  cases before.getLast? <;> simp

instance (t : Text) : Decidable (typePattern.IsIn t) := decidable_of_iff _ hasType_iff

end JavaSource

end SuiteForge
