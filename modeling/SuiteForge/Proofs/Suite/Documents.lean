/-
# The XML files of a suite

The build file and the list of test classes are well-formed, whatever they are filled with
(`isWellFormed_descriptor`, `isWellFormed_suite`). Each text of their templates leads from
one output to the next: the reader is then in content, or in the value of an attribute, and an
output leaves it there. The rules of `Reads` put these steps together.
-/

import SuiteForge.Proofs.Suite.Session
import SuiteForge.Proofs.Xml.Escaping

namespace SuiteForge

namespace Xml

/-! ## Literals -/

/-- The strings whose characters are these. A string's characters are found by unification, and
need not be computed. -/
inductive Spells : List String → List (List Char) → Prop
  | nil : Spells [] []
  | cons (cs : List Char) {ss : List String} {css : List (List Char)} (rest : Spells ss css) :
      Spells (String.ofList cs :: ss) (cs :: css)

theorem ofString_ofList (cs : List Char) : Text.ofString (String.ofList cs) = Text.ofChars cs := by
  rw [Text.ofString, String.toList_ofList, Text.ofChars]

/-- The text of lines with these characters. -/
def spelledLines (css : List (List Char)) : Text :=
  css.flatMap fun cs => Text.ofChars (cs ++ ['\n'])

theorem lines_of_spells {ss : List String} {css : List (List Char)} (h : Spells ss css) :
    Template.lines ss = .text (spelledLines css) := by
  have hflat : (ss.flatMap fun l => Text.ofString l ++ Text.ofString "\n") = spelledLines css := by
    induction h with
    | nil => rfl
    | cons cs rest ih =>
      rw [spelledLines, List.flatMap_cons, ih, ofString_ofList, List.flatMap_cons]
      have hend : Text.ofString "\n" = Text.ofChars ['\n'] := by decide
      rw [hend, Text.ofChars, Text.ofChars, ← List.map_append]
      rfl
  rw [Template.lines, hflat]

/-- The first pieces are the second, whose texts are given by their characters. -/
inductive SpelledAs : List Piece → List Piece → Prop
  | nil : SpelledAs [] []
  | plain (cs : List Char) {ps qs : List Piece} (rest : SpelledAs ps qs) :
      SpelledAs (Template.plain (String.ofList cs) :: ps) (.text (Text.ofChars cs) :: qs)
  | lines {ss : List String} {css : List (List Char)} {ps qs : List Piece} (spelled : Spells ss css)
      (rest : SpelledAs ps qs) : SpelledAs (Template.lines ss :: ps) (.text (spelledLines css) :: qs)
  | output (ref : Ref) (filters : List Filter) {ps qs : List Piece} (rest : SpelledAs ps qs) :
      SpelledAs (.output ref filters :: ps) (.output ref filters :: qs)
  | each (item : Text) (list : Ref) {body body' ps qs : List Piece} (round : SpelledAs body body')
      (rest : SpelledAs ps qs) : SpelledAs (.each item list body :: ps) (.each item list body' :: qs)
  | cond (ref : Ref) {yes yes' no no' ps qs : List Piece} (first : SpelledAs yes yes')
      (second : SpelledAs no no') (rest : SpelledAs ps qs) :
      SpelledAs (.cond ref yes no :: ps) (.cond ref yes' no' :: qs)

theorem eq_of_spelledAs {ps qs : List Piece} (h : SpelledAs ps qs) : ps = qs := by
  induction h with
  | nil => rfl
  | plain cs _ ih => rw [Template.plain, ofString_ofList, ih]
  | lines spelled _ ih => rw [lines_of_spells spelled, ih]
  | output _ _ _ ih => rw [ih]
  | each _ _ _ _ hround ih => rw [hround, ih]
  | cond _ _ _ _ hyes hno ih => rw [hyes, hno, ih]

/-- A template with the characters of its texts. What is computed of a template is computed of these
pieces in a fraction of the time. -/
structure Spelling (ps : List Piece) where
  pieces : List Piece
  spelled : SpelledAs ps pieces

theorem Spelling.eq_pieces {ps : List Piece} (s : Spelling ps) : ps = s.pieces :=
  eq_of_spelledAs s.spelled

/-! ## Reading what a template gives -/

/-- What pieces are rendered to leads from one reader to another. -/
def Reads (scope : Scope) (r : Reader) (ps : List Piece) (r' : Reader) : Prop :=
  ∀ t, Template.renderPieces true scope ps = .ok t → r.read Reader.fits t = some r'

/-- The pieces begin with a text that no bracket in front of it makes illegal. -/
def BeginsPlainly (ps : List Piece) : Prop :=
  ∃ s t rest, ps = .text (s :: t) :: rest ∧ s ≠ .char ']' ∧ s ≠ .char '>'

theorem beginsPlainly_plain {c : Char} {cs : List Char} {ps : List Piece} (hbracket : c ≠ ']')
    (hmore : c ≠ '>') : BeginsPlainly (Template.plain (String.ofList (c :: cs)) :: ps) := by
  refine ⟨.char c, Text.ofChars cs, ps, ?_, by simpa using hbracket, by simpa using hmore⟩
  rw [Template.plain, ofString_ofList]
  rfl

theorem beginsPlainly_lines {c : Char} {cs : List Char} {ss : List String} {ps : List Piece}
    (hbracket : c ≠ ']') (hmore : c ≠ '>') :
    BeginsPlainly (Template.lines (String.ofList (c :: cs) :: ss) :: ps) := by
  refine ⟨.char c, (Text.ofChars cs ++ Text.ofString "\n") ++
    ss.flatMap fun l => Text.ofString l ++ Text.ofString "\n", ps, ?_, by simpa using hbracket,
    by simpa using hmore⟩
  rw [Template.lines, List.flatMap_cons, ofString_ofList]
  rfl

namespace Reads

variable {scope : Scope} {r r' : Reader} {ps : List Piece}

theorem nil : Reads scope r [] r := by
  intro t ht
  rw [Template.renderPieces] at ht
  cases ht
  rfl

theorem cons (r₁ : Reader) {p : Piece}
    (first : ∀ t, Template.renderPiece true scope p = .ok t → r.read Reader.fits t = some r₁)
    (rest : Reads scope r₁ ps r') : Reads scope r (p :: ps) r' := by
  intro t ht
  rw [Template.renderPieces] at ht
  obtain ⟨here, hhere, ht⟩ := bind_eq_ok.1 ht
  obtain ⟨after, hafter, ht⟩ := bind_eq_ok.1 ht
  cases ht
  rw [Reader.read_append, first here hhere]
  exact rest after hafter

theorem text (r₁ : Reader) {t : Text} (first : r.read Reader.fits t = some r₁)
    (rest : Reads scope r₁ ps r') : Reads scope r (.text t :: ps) r' := by
  refine cons _ (fun u hu => ?_) rest
  rw [Template.renderPiece] at hu
  cases hu
  exact first

theorem plain (r₁ : Reader) {cs : List Char}
    (first : r.read Reader.fits (Text.ofChars cs) = some r₁) (rest : Reads scope r₁ ps r') :
    Reads scope r (Template.plain (String.ofList cs) :: ps) r' := by
  refine text r₁ ?_ rest
  rw [ofString_ofList]
  exact first

theorem lines (r₁ : Reader) {ss : List String} {css : List (List Char)} (spelled : Spells ss css)
    (first : r.read Reader.fits (spelledLines css) = some r₁) (rest : Reads scope r₁ ps r') :
    Reads scope r (Template.lines ss :: ps) r' := by
  rw [lines_of_spells spelled]
  exact text r₁ first rest

/-- The number of brackets in front of pieces that begin plainly makes no difference. -/
theorem brackets (hr : r.IsContent) (b : ℕ) (plainly : BeginsPlainly ps)
    (h : Reads scope { r with mode := .text 0 } ps r') :
    Reads scope { r with mode := .text b } ps r' := by
  obtain ⟨s, t, rest, rfl, hbracket, hmore⟩ := plainly
  intro u hu
  have hread := h u hu
  rw [Template.renderPieces] at hu
  obtain ⟨here, hhere, hu⟩ := bind_eq_ok.1 hu
  obtain ⟨after, -, hu⟩ := bind_eq_ok.1 hu
  rw [Template.renderPiece] at hhere
  cases hhere
  cases hu
  rwa [List.cons_append, Reader.read_text_eq hr b _ hbracket hmore]

/-- An output in content. -/
theorem content {ref : Ref} {value : Text} (hr : r.IsContent) (hmode : r.mode = .text 0)
    (found : ref.find scope = .ok (.text value)) (legal : ∀ s ∈ value, isLegal s = true)
    (plainly : BeginsPlainly ps) (rest : Reads scope r ps r') :
    Reads scope r (.output ref [] :: ps) r' := by
  have hsame : { r with mode := .text 0 } = r := by rw [← hmode]
  obtain ⟨b, hb⟩ := Reader.read_escapeXml_content hr 0 legal
  rw [hsame] at hb
  rw [← hsame] at rest
  refine cons _ (fun u hu => ?_) (brackets hr b plainly rest)
  rw [Template.renderPiece, found] at hu
  cases hu
  exact hb

/-- An output in the value of an attribute. -/
theorem value {ref : Ref} {value : Text} {t : Tag} {key : Text}
    (found : ref.find scope = .ok (.text value)) (legal : ∀ s ∈ value, isLegal s = true)
    (rest : Reads scope (r.inValue t key value.reverse) ps r') :
    Reads scope (r.inValue t key []) (.output ref [] :: ps) r' := by
  have hread : (r.inValue t key []).read Reader.fits (escapeXml value) =
      some (r.inValue t key (value.reverse ++ [])) := Reader.read_escapeXml_value t key [] legal
  rw [List.append_nil] at hread
  refine cons _ (fun u hu => ?_) rest
  rw [Template.renderPiece, found] at hu
  cases hu
  exact hread

/-- A loop each of whose rounds leads back to where it began. -/
theorem each {item : Text} {list : Ref} {body : List Piece} {items : List Datum}
    (found : list.find scope = .ok (.list items))
    (round : ∀ d ∈ items, Reads ((item, d) :: scope) r body r) (rest : Reads scope r ps r') :
    Reads scope r (.each item list body :: ps) r' := by
  refine cons _ (fun u hu => ?_) rest
  rw [Template.renderPiece, found] at hu
  replace hu : Template.renderEach
    (fun d => Template.renderPieces true ((item, d) :: scope) body) items = .ok u := hu
  clear found
  induction items generalizing u with
  | nil =>
    cases hu
    rfl
  | cons d items ih =>
    obtain ⟨hd, hitems⟩ := List.forall_mem_cons.1 round
    rw [Template.renderEach] at hu
    obtain ⟨here, hhere, hu⟩ := bind_eq_ok.1 hu
    obtain ⟨after, hafter, hu⟩ := bind_eq_ok.1 hu
    cases hu
    rw [Reader.read_append, hd here hhere]
    exact ih hitems after hafter

end Reads

deriving instance DecidableEq for Element, Doctype, Reader

/-! ## The build file -/

/-- The prefixes in the build file. -/
def descriptorBindings : Bindings :=
  [("xsi", "http://www.w3.org/2001/XMLSchema-instance"), ("xml", xmlNamespace)]

/-- The reader in content of the build file, within these elements. -/
def inDescriptor (names : List Text) : Reader where
  mode := .text 0
  place := .prolog
  elements := names.map fun name => ⟨name, descriptorBindings⟩
  doctype := .empty
  opened := []

theorem isContent_inDescriptor (name : Text) (names : List Text) :
    (inDescriptor (name :: names)).IsContent :=
  ⟨rfl, Place.noConfusion⟩

/-- The end of a document. -/
def endOfDescriptor : Reader := { inDescriptor [] with place := .epilog }

theorem reads_descriptor {c : DescriptorContext} (hgroup : ∀ s ∈ c.groupId, isLegal s = true)
    (hartifact : ∀ s ∈ c.artifactId, isLegal s = true)
    (hname : ∀ s ∈ c.projectName, isLegal s = true)
    (htitle : ∀ s ∈ c.apiTitle, isLegal s = true)
    (hversion : ∀ s ∈ c.apiVersion, isLegal s = true) :
    Reads c.scope Reader.start Bundled.descriptor endOfDescriptor := by
  refine .lines (inDescriptor ["project"]) (by repeat constructor) (by decide +kernel) ?_
  refine .plain (inDescriptor ["groupId", "project"]) (by decide +kernel) ?_
  refine .content (isContent_inDescriptor _ _) rfl rfl hgroup
    (beginsPlainly_lines (by decide) (by decide)) ?_
  refine .lines (inDescriptor ["project"]) (by repeat constructor) (by decide +kernel) ?_
  refine .plain (inDescriptor ["artifactId", "project"]) (by decide +kernel) ?_
  refine .content (isContent_inDescriptor _ _) rfl rfl hartifact
    (beginsPlainly_lines (by decide) (by decide)) ?_
  refine .lines (inDescriptor ["project"]) (by repeat constructor) (by decide +kernel) ?_
  refine .plain (inDescriptor ["name", "project"]) (by decide +kernel) ?_
  refine .content (isContent_inDescriptor _ _) rfl rfl hname
    (beginsPlainly_lines (by decide) (by decide)) ?_
  refine .lines (inDescriptor ["project"]) (by repeat constructor) (by decide +kernel) ?_
  refine .plain (inDescriptor ["description", "project"]) (by decide +kernel) ?_
  refine .content (isContent_inDescriptor _ _) rfl rfl htitle
    (beginsPlainly_plain (by decide) (by decide)) ?_
  refine .plain (inDescriptor ["description", "project"]) (by decide +kernel) ?_
  refine .content (isContent_inDescriptor _ _) rfl rfl hversion
    (beginsPlainly_lines (by decide) (by decide)) ?_
  exact .lines endOfDescriptor (by repeat constructor) (by decide +kernel) .nil

/-! ## The list of the test classes -/

/-- The reader in content of the list, within these elements. -/
def inSuite (names : List Text) : Reader where
  mode := .text 0
  place := .afterDoctype
  elements := names.map fun name => ⟨name, initialBindings⟩
  doctype := { Doctype.empty with hasExternal := true }
  opened := []

/-- The reader in the name of an element of the list, within these elements. -/
def inNameOf (element : Text) (names : List Text) (held : Text) : Reader :=
  (inSuite names).inValue ⟨element, [], .gap⟩ "name" held

/-- The end of the list. -/
def endOfSuite : Reader := { inSuite [] with place := .epilog }

theorem reads_suite {c : SuiteContext} (hsuite : ∀ s ∈ c.suiteName, isLegal s = true)
    (htest : ∀ s ∈ c.testName, isLegal s = true)
    (hclasses : ∀ name ∈ c.testClasses, ∀ s ∈ name, isLegal s = true) :
    Reads c.scope Reader.start Bundled.suite endOfSuite := by
  refine .lines (inSuite []) (by repeat constructor) (by decide +kernel) ?_
  refine .plain (inNameOf "suite" [] []) (by decide +kernel) ?_
  refine .value rfl hsuite ?_
  refine .lines (inSuite ["suite"]) (by repeat constructor) rfl ?_
  refine .plain (inNameOf "test" ["suite"] []) (by decide +kernel) ?_
  refine .value rfl htest ?_
  refine .lines (inSuite ["classes", "test", "suite"]) (by repeat constructor) rfl ?_
  refine .each rfl (fun d hd => ?_) ?_
  · obtain ⟨name, hname, rfl⟩ := List.mem_map.1 hd
    refine .plain (inNameOf "class" ["classes", "test", "suite"] []) (by decide +kernel) ?_
    refine .value rfl (hclasses name hname) ?_
    exact .lines _ (by repeat constructor) rfl .nil
  · exact .lines endOfSuite (by repeat constructor) (by decide +kernel) .nil

/-! ## Encoding -/

/-- No lone surrogate stands in the text. -/
def Encodable (t : Text) : Prop := ∀ s ∈ t, s.char?.isSome = true

theorem isSome_chars? {t : Text} (h : Encodable t) : t.chars?.isSome = true := by
  induction t with
  | nil => rfl
  | cons s rest ih =>
    obtain ⟨hs, hrest⟩ := List.forall_mem_cons.1 h
    obtain ⟨c, hc⟩ := Option.isSome_iff_exists.1 hs
    obtain ⟨cs, hcs⟩ := Option.isSome_iff_exists.1 (ih hrest)
    rw [Text.chars?] at hcs ⊢
    simp [List.mapM_cons, hc, hcs]

theorem encodable_of_isLegal {t : Text} (h : ∀ s ∈ t, isLegal s = true) : Encodable t := by
  intro s hs
  cases s with
  | char c => rfl
  | surrogate n =>
    have hlegal : isLegalCode (0xD800 + n) = true := h _ hs
    have hn := n.isLt
    simp only [isLegalCode, Bool.or_eq_true, Bool.and_eq_true, beq_iff_eq, decide_eq_true_eq]
      at hlegal
    omega

theorem encodable_ofString (s : String) : Encodable (Text.ofString s) := by
  intro x hx
  obtain ⟨c, -, rfl⟩ := List.mem_map.1 hx
  rfl

theorem Encodable.append {t u : Text} (ht : Encodable t) (hu : Encodable u) : Encodable (t ++ u) :=
  List.forall_mem_append.2 ⟨ht, hu⟩

theorem Encodable.escapeXml {t : Text} (h : Encodable t) : Encodable (escapeXml t) := by
  intro s hs
  obtain ⟨x, hx, hs⟩ := List.mem_flatMap.1 hs
  have hsymbol : Encodable (escapeXmlSymbol x) := by
    unfold escapeXmlSymbol
    split_ifs
    · exact encodable_ofString _
    · exact encodable_ofString _
    · exact encodable_ofString _
    · exact encodable_ofString _
    · exact encodable_ofString _
    · exact List.forall_mem_singleton.2 (h x hx)
  exact hsymbol s hs

/-- What pieces are rendered to can be encoded. -/
def Writes (scope : Scope) (ps : List Piece) : Prop :=
  ∀ t, Template.renderPieces true scope ps = .ok t → Encodable t

namespace Writes

variable {scope : Scope} {ps : List Piece}

theorem nil : Writes scope [] := by
  intro t ht
  rw [Template.renderPieces] at ht
  cases ht
  exact fun _ hs => absurd hs List.not_mem_nil

theorem cons {p : Piece}
    (first : ∀ u, Template.renderPiece true scope p = .ok u → Encodable u)
    (rest : Writes scope ps) : Writes scope (p :: ps) := by
  intro t ht
  rw [Template.renderPieces] at ht
  obtain ⟨here, hhere, ht⟩ := bind_eq_ok.1 ht
  obtain ⟨after, hafter, ht⟩ := bind_eq_ok.1 ht
  cases ht
  exact (first here hhere).append (rest after hafter)

theorem text {t : Text} (h : Encodable t) (rest : Writes scope ps) :
    Writes scope (.text t :: ps) := by
  refine cons (fun u hu => ?_) rest
  rw [Template.renderPiece] at hu
  cases hu
  exact h

theorem plain {s : String} (rest : Writes scope ps) : Writes scope (Template.plain s :: ps) :=
  text (encodable_ofString s) rest

theorem lines {ss : List String} (rest : Writes scope ps) :
    Writes scope (Template.lines ss :: ps) := by
  refine text (fun x hx => ?_) rest
  obtain ⟨l, -, hx⟩ := List.mem_flatMap.1 hx
  exact ((encodable_ofString l).append (encodable_ofString "\n")) x hx

theorem output {ref : Ref} {value : Text} (found : ref.find scope = .ok (.text value))
    (h : Encodable value) (rest : Writes scope ps) : Writes scope (.output ref [] :: ps) := by
  refine cons (fun u hu => ?_) rest
  rw [Template.renderPiece, found] at hu
  cases hu
  exact h.escapeXml

theorem each {item : Text} {list : Ref} {body : List Piece} {items : List Datum}
    (found : list.find scope = .ok (.list items))
    (round : ∀ d ∈ items, Writes ((item, d) :: scope) body) (rest : Writes scope ps) :
    Writes scope (.each item list body :: ps) := by
  refine cons (fun u hu => ?_) rest
  rw [Template.renderPiece, found] at hu
  replace hu : Template.renderEach
    (fun d => Template.renderPieces true ((item, d) :: scope) body) items = .ok u := hu
  intro s hs
  obtain ⟨d, hd, t, ht, hst⟩ := (Template.mem_renderEach hu).1 hs
  exact round d hd t ht s hst

end Writes

/-! ## The files -/

theorem renderPieces_descriptor (c : DescriptorContext) :
    Template.renderPieces true c.scope Bundled.descriptor = .ok (Context.descriptor c).text := by
  have hxml : isXmlTemplate (Context.descriptor c).template.name = true := by
    show isXmlTemplate TemplateId.descriptor.name = true
    decide +kernel
  have h := (Context.descriptor c).render_eq_text
  rwa [hxml] at h

theorem renderPieces_suite (c : SuiteContext) :
    Template.renderPieces true c.scope Bundled.suite = .ok (Context.suite c).text := by
  have hxml : isXmlTemplate (Context.suite c).template.name = true := by
    show isXmlTemplate TemplateId.suite.name = true
    decide +kernel
  have h := (Context.suite c).render_eq_text
  rwa [hxml] at h

/-- What the build file outputs is legal where the file is well-formed. -/
theorem isLegal_of_output {c : DescriptorContext} {ref : Ref} {value : Text}
    (h : isWellFormed (Context.descriptor c).text = true)
    (piece : .output ref [] ∈ Bundled.descriptor)
    (found : ref.find c.scope = .ok (.text value)) : ∀ s ∈ value, isLegal s = true := by
  refine isLegal_of_escapeXml fun s hs => isLegal_of_isWellFormed h s ?_
  refine (Template.mem_renderPieces (renderPieces_descriptor c)).2 ⟨_, piece, _, ?_, hs⟩
  rw [Template.renderPiece, found]
  rfl

/-- **The build file is well-formed if and only if title and version have legal symbols only,** as
long as the other data have. -/
theorem isWellFormed_descriptor {c : DescriptorContext} (hgroup : ∀ s ∈ c.groupId, isLegal s = true)
    (hartifact : ∀ s ∈ c.artifactId, isLegal s = true)
    (hname : ∀ s ∈ c.projectName, isLegal s = true) :
    isWellFormed (Context.descriptor c).text = true ↔
      (∀ s ∈ c.apiTitle, isLegal s = true) ∧ ∀ s ∈ c.apiVersion, isLegal s = true := by
  constructor
  · intro h
    have htitle : Template.var "api_title" [] ∈ Bundled.descriptor := by simp [Bundled.descriptor]
    have hversion : Template.var "api_version" [] ∈ Bundled.descriptor := by
      simp [Bundled.descriptor]
    exact ⟨isLegal_of_output h htitle rfl, isLegal_of_output h hversion rfl⟩
  · rintro ⟨htitle, hversion⟩
    have hreads := reads_descriptor hgroup hartifact hname htitle hversion
    exact isWellFormed_of_read (hreads _ (renderPieces_descriptor c)) rfl

/-- **The list of the test classes is well-formed if its data have legal symbols only.** -/
theorem isWellFormed_suite {c : SuiteContext} (hsuite : ∀ s ∈ c.suiteName, isLegal s = true)
    (htest : ∀ s ∈ c.testName, isLegal s = true)
    (hclasses : ∀ name ∈ c.testClasses, ∀ s ∈ name, isLegal s = true) :
    isWellFormed (Context.suite c).text = true :=
  isWellFormed_of_read (reads_suite hsuite htest hclasses _ (renderPieces_suite c)) rfl

theorem encodable_descriptor {c : DescriptorContext} (hgroup : Encodable c.groupId)
    (hartifact : Encodable c.artifactId) (hname : Encodable c.projectName)
    (htitle : Encodable c.apiTitle) (hversion : Encodable c.apiVersion) :
    Encodable (Context.descriptor c).text := by
  have hwrites : Writes c.scope Bundled.descriptor :=
    .lines <| .plain <| .output rfl hgroup <| .lines <| .plain <| .output rfl hartifact <|
    .lines <| .plain <| .output rfl hname <| .lines <| .plain <| .output rfl htitle <|
    .plain <| .output rfl hversion <| .lines .nil
  exact hwrites _ (renderPieces_descriptor c)

theorem encodable_suite {c : SuiteContext} (hsuite : Encodable c.suiteName)
    (htest : Encodable c.testName) (hclasses : ∀ name ∈ c.testClasses, Encodable name) :
    Encodable (Context.suite c).text := by
  have hwrites : Writes c.scope Bundled.suite := by
    refine .lines <| .plain <| .output rfl hsuite <| .lines <| .plain <| .output rfl htest <|
      .lines <| .each rfl (fun d hd => ?_) <| .lines .nil
    obtain ⟨name, hname, rfl⟩ := List.mem_map.1 hd
    exact .plain <| .output rfl (hclasses name hname) <| .lines .nil
  exact hwrites _ (renderPieces_suite c)

end Xml

end SuiteForge
