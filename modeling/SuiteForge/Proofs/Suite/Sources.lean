/-
# Declarations in Java sources

A source declares a package and a type (`JavaSource.Declares`). A declaration is found wherever it
stands (`anywhere_append`), so nothing needs to be known of the text around it
(`hasPackage_append`, `hasType_of_infix`). What stands in a text of a template stands in what the
template is rendered to (`infix_of_holds`).
-/

import SuiteForge.Proofs.Suite.Names
import SuiteForge.Proofs.Suite.Session

namespace SuiteForge

namespace JavaSource

/-! ## Declarations -/

section Anywhere

variable {edge : Symbol → Bool} {p : Text → Bool}

theorem anywhere_of_here {t : Text} (h : p t = true) : anywhere edge p true t = true := by
  cases t with
  | nil => rw [anywhere, h, Bool.true_and]
  | cons s rest => rw [anywhere, h, Bool.true_and, Bool.true_or]

/-- What stands behind an edge is found, whatever stands in front of the edge. -/
theorem anywhere_append (here : Bool) (before : Text) {s : Symbol} {t : Text}
    (hedge : edge s = true) (h : p t = true) :
    anywhere edge p here (before ++ s :: t) = true := by
  induction before generalizing here with
  | nil => rw [List.nil_append, anywhere, hedge, anywhere_of_here h, Bool.or_true]
  | cons x before ih => rw [List.cons_append, anywhere, ih, Bool.or_true]

end Anywhere

theorem isBlank_of_isNameStart {s : Symbol} (h : isNameStart s = true) : s.isBlank = false := by
  rw [isNameStart, Bool.or_eq_true, beq_iff_eq] at h
  rcases h with hletter | rfl
  · exact isBlank_of_isAsciiAlnum (isAsciiAlnum_iff.2 (.inl hletter))
  · decide

theorem afterKeyword?_of_not_isBlank (keyword : Text) {first : Symbol} (rest : Text)
    (h : first.isBlank = false) : afterKeyword? keyword (keyword ++ .char ' ' :: first :: rest) =
      if isNameStart first then some (first :: rest) else none := by
  have hstarts : Text.startsWith (keyword ++ .char ' ' :: first :: rest) keyword = true :=
    List.isPrefixOf_iff_prefix.2 (List.prefix_append _ _)
  have hname : (.char ' ' :: first :: rest : Text).dropWhile Symbol.isBlank = first :: rest := by
    rw [List.dropWhile_cons_of_pos Symbol.isBlank_space,
      List.dropWhile_cons_of_neg (by simp [h])]
  rw [afterKeyword?, if_pos hstarts]
  simp only [List.drop_left, hname, List.head?_cons, Option.any_some, Symbol.isBlank_space,
    Bool.true_and]

theorem afterKeyword?_append (keyword : Text) {first : Symbol} (rest : Text)
    (h : isNameStart first = true) :
    afterKeyword? keyword (keyword ++ .char ' ' :: first :: rest) = some (first :: rest) := by
  rw [afterKeyword?_of_not_isBlank keyword rest (isBlank_of_isNameStart h), if_pos h]

/-- A mark is the first symbol behind those of a class if all in front of it are of that class. -/
theorem head?_dropWhile_append {p : Symbol → Bool} {mark : Symbol} {t : Text} (rest : Text)
    (hp : p mark = false) (hmark : mark ∉ t) :
    ((t ++ mark :: rest).dropWhile p).head? = some mark ↔ ∀ s ∈ t, p s = true := by
  induction t with
  | nil => simp [hp]
  | cons s t ih =>
    obtain ⟨hs, ht⟩ := not_or.1 (mt List.mem_cons.2 hmark)
    rw [List.cons_append, List.dropWhile_cons, List.forall_mem_cons]
    cases hps : p s with
    | true => simpa using ih ht
    | false => simpa using Ne.symm hs

/-- **Which names a package may be declared with**, of those that have no semicolon in them and no
blank in front. -/
theorem beginsPackage_iff {first : Symbol} {more : Text} (rest : Text)
    (hblank : first.isBlank = false) (hmark : .char ';' ∉ first :: more) :
    beginsPackage (Text.ofString "package " ++ (first :: more ++ .char ';' :: rest)) = true ↔
      IsPackageName (first :: more) := by
  have hafter := afterKeyword?_of_not_isBlank (Text.ofString "package")
    (more ++ .char ';' :: rest) hblank
  show beginsPackage (Text.ofString "package" ++ .char ' ' :: first :: (more ++ .char ';' :: rest)) =
    true ↔ _
  rw [beginsPackage, hafter]
  cases hstart : isNameStart first with
  | false =>
    refine iff_of_false (by simp) ?_
    rintro ⟨_, _, heq, hfirst, -⟩
    rw [(List.cons.inj heq).1, hfirst] at hstart
    cases hstart
  | true =>
    have hhead := head?_dropWhile_append (p := fun s => s.isWord || s == .char '.') rest (by decide)
      hmark
    rw [if_pos rfl]
    refine Iff.trans beq_iff_eq (hhead.trans ⟨fun h => ?_, IsPackageName.symbols⟩)
    exact ⟨first, more, rfl, hstart, (List.forall_mem_cons.1 h).2⟩

/-- **A text that begins with a package declaration has one.** -/
theorem hasPackage_append {package : Text} (rest : Text) (h : IsPackageName package) :
    hasPackage (Text.ofString "package " ++ (package ++ .char ';' :: rest)) = true := by
  have hmark := h.isDotted.not_mem (s := .char ';') (by decide) (by decide)
  obtain ⟨first, more, rfl, hfirst, -⟩ := id h
  exact anywhere_of_here ((beginsPackage_iff rest (isBlank_of_isNameStart hfirst) hmark).2 h)

/-- **A text in which a class is declared has a type.** -/
theorem hasType_of_infix {name t : Text} (h : IsClassName name)
    (declared : Text.ofString " class " ++ name <:+: t) : hasType t = true := by
  obtain ⟨first, more, rfl, hfirst, -⟩ := h
  obtain ⟨before, after, rfl⟩ := declared
  have hstart : isNameStart first = true := by rw [isNameStart, hfirst, Bool.true_or]
  have hafter := afterKeyword?_append (Text.ofString "class") (more ++ after) hstart
  have hbegins : beginsType (Text.ofString "class" ++ .char ' ' :: first :: (more ++ after)) =
      true := by
    refine List.any_eq_true.2 ⟨Text.ofString "class", by simp [typeKeywords], ?_⟩
    rw [hafter, Option.isSome_some]
  have hedge : (!Symbol.isWord (.char ' ')) = true := by decide
  have hfound : anywhere (fun s => !s.isWord) beginsType true (before ++ .char ' ' ::
      (Text.ofString "class" ++ .char ' ' :: first :: (more ++ after))) = true :=
    anywhere_append true before hedge hbegins
  have htext : before ++ (Text.ofString " class " ++ first :: more) ++ after =
      before ++ .char ' ' :: (Text.ofString "class" ++ .char ' ' :: first :: (more ++ after)) := by
    rw [List.append_assoc]
    rfl
  rw [hasType, htext]
  exact hfound

/-! ## Texts of templates -/

section Templates

variable {xml : Bool} {scope : Scope} {ps : List Piece} {t : Text}

theorem exists_of_text {u : Text}
    (ht : Template.renderPieces xml scope (.text u :: ps) = .ok t) :
    ∃ rest, Template.renderPieces xml scope ps = .ok rest ∧ t = u ++ rest := by
  rw [Template.renderPieces, Template.renderPiece, ok_bind] at ht
  obtain ⟨rest, hrest, ht⟩ := bind_eq_ok.1 ht
  exact ⟨rest, hrest, (Except.ok.inj ht).symm⟩

theorem exists_of_output {d : Datum} {ref : Ref} {filters : List Filter}
    (found : ref.find scope = .ok d)
    (ht : Template.renderPieces xml scope (.output ref filters :: ps) = .ok t) :
    ∃ rest, Template.renderPieces xml scope ps = .ok rest ∧
      t = Template.emit xml filters d ++ rest := by
  rw [Template.renderPieces, Template.renderPiece, found] at ht
  obtain ⟨here, hhere, ht⟩ := bind_eq_ok.1 ht
  obtain ⟨rest, hrest, ht⟩ := bind_eq_ok.1 ht
  cases hhere
  cases ht
  exact ⟨rest, hrest, rfl⟩

theorem exists_of_text_output {u value : Text} {ref : Ref}
    (found : ref.find scope = .ok (.text value))
    (ht : Template.renderPieces false scope (.text u :: .output ref [] :: ps) = .ok t) :
    ∃ rest, Template.renderPieces false scope ps = .ok rest ∧ t = u ++ (value ++ rest) := by
  obtain ⟨tail, htail, rfl⟩ := exists_of_text ht
  obtain ⟨rest, hrest, rfl⟩ := exists_of_output found htail
  exact ⟨rest, hrest, rfl⟩

/-- A piece is a text in which another stands. -/
def holds (u : Text) : Piece → Bool
  | .text t => decide (u <:+: t)
  | _ => false

/-- What stands in a text of a template stands in what it is rendered to. -/
theorem infix_of_holds {u : Text} (h : ps.any (holds u) = true)
    (ht : Template.renderPieces xml scope ps = .ok t) : u <:+: t := by
  obtain ⟨p, hp, hholds⟩ := List.any_eq_true.1 h
  cases p with
  | text v =>
    have hinfix : u <:+: v := of_decide_eq_true hholds
    obtain ⟨before, after, rfl⟩ := List.append_of_mem hp
    obtain ⟨b, rest, -, hrest, rfl⟩ := Template.renderPieces_append_eq_ok.1 ht
    obtain ⟨a, -, rfl⟩ := exists_of_text hrest
    exact hinfix.trans ⟨b, a, List.append_assoc b v a⟩
  | output ref filters => cases hholds
  | each item list body => cases hholds
  | cond ref yes no => cases hholds

end Templates

/-- A source declares a package and a type. -/
structure Declares (t : Text) : Prop where
  package : hasPackage t = true
  type : hasType t = true

end JavaSource

end SuiteForge
