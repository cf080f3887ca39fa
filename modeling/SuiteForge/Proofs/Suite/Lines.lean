/-
# The lines of sources

The first line of a source declares its package, and another one its class; a test class has a line
that imports the class that all test classes extend. What an accepted package is named has no line
end in it (`IsDotted`), so these are whole lines of what the templates are rendered to. Such a source
passes the check of sources if its names are ASCII (`DeclaresClass.declares`).

| template | first line | line of the class |
| --- | --- | --- |
| `fixture` | `package p;` | `public abstract class BaseTest` and a brace |
| `model` | `package p;` | `public class c` and a brace |
| `testClass` | `package p;` | `public class c extends BaseTest` and a brace |
-/

import SuiteForge.Proofs.Suite.Documents
import SuiteForge.Proofs.Suite.Sources
import SuiteForge.Proofs.Text.Pieces

namespace SuiteForge

/-! ## Lines -/

/-- The lines of a text. -/
def Text.lines (t : Text) : List Text := Text.splitOn (.char '\n') t

section Lines

variable {t line : Text}

theorem head?_lines (h : .char '\n' ∉ line) (rest : Text) :
    (Text.lines (line ++ .char '\n' :: rest)).head? = some line := by
  rw [Text.lines, splitOn_append_cons, splitOn_of_not_mem h]
  rfl

/-- What stands between two line ends is a line. -/
theorem mem_lines_of_infix (h : .char '\n' ∉ line)
    (hline : .char '\n' :: (line ++ [.char '\n']) <:+: t) : line ∈ Text.lines t := by
  obtain ⟨before, after, rfl⟩ := hline
  have htext : before ++ .char '\n' :: (line ++ [.char '\n']) ++ after =
      before ++ .char '\n' :: (line ++ .char '\n' :: after) := by simp
  rw [Text.lines, htext, splitOn_append_cons, splitOn_append_cons, splitOn_of_not_mem h]
  simp

theorem infix_join {separator : Text} {parts : List Text} (h : t ∈ parts) :
    t <:+: Text.join separator parts := by
  fun_induction Text.join separator parts with
  | case1 => cases h
  | case2 u => exact (List.mem_singleton.1 h) ▸ List.infix_rfl
  | case3 u v rest ih =>
    rcases List.mem_cons.1 h with rfl | h
    · exact ⟨[], separator ++ Text.join separator (v :: rest), by simp⟩
    · exact (ih h).trans (List.suffix_append _ _).isInfix

theorem infix_of_mem_lines (h : line ∈ Text.lines t) : line <:+: t := by
  have hjoin : line <:+: Text.join [.char '\n'] (Text.lines t) := infix_join h
  rwa [Text.lines, Text.join_splitOn] at hjoin

theorem exists_of_head?_lines (h : (Text.lines t).head? = some line) : ∃ rest, t = line ++ rest := by
  obtain ⟨rest, hlines⟩ := List.head?_eq_some_iff.1 h
  obtain ⟨more, hmore⟩ := exists_join_cons [.char '\n'] line rest
  exact ⟨more, by rw [← hmore, ← hlines, Text.lines, Text.join_splitOn]⟩

end Lines

/-- The name of a package stands for itself in XML. -/
theorem escapeXml_of_isDotted {t : Text} (h : IsDotted t) : escapeXml t = t := by
  have hsymbol : ∀ s ∈ t, escapeXmlSymbol s = [s] := by
    intro s hs
    have hne : ∀ c : Symbol, c.code < 0x80 → (c.isWord || c == .char '.') = false → s ≠ c :=
      fun c hascii hc heq => h.not_mem hascii hc (heq ▸ hs)
    rw [escapeXmlSymbol, if_neg (hne _ (by decide) (by decide)),
      if_neg (hne _ (by decide) (by decide)), if_neg (hne _ (by decide) (by decide)),
      if_neg (hne _ (by decide) (by decide)), if_neg (hne _ (by decide) (by decide))]
  rw [escapeXml, List.flatMap_congr hsymbol]
  simp

/-! ## Lines of templates -/

section Templates

variable {scope : Scope} {ps : List Piece} {t u v front value back : Text} {ref : Ref}

/-- A template that begins with a line in which a name is output. -/
theorem head?_lines_of_template (found : ref.find scope = .ok (.text value)) (hvalue : IsDotted value)
    (hfront : .char '\n' ∉ front) (hback : .char '\n' ∉ back) (hv : back ++ [.char '\n'] <+: v)
    (ht : Template.renderPieces false scope (.text front :: .output ref [] :: .text v :: ps) = .ok t) :
    (Text.lines t).head? = some (front ++ value ++ back) := by
  obtain ⟨_, hrest, rfl⟩ := JavaSource.exists_of_text_output found ht
  obtain ⟨rest, -, rfl⟩ := JavaSource.exists_of_text hrest
  obtain ⟨more, rfl⟩ := hv
  have hline : .char '\n' ∉ front ++ value ++ back := by
    simp [hfront, hback, hvalue.not_mem (s := .char '\n') (by decide) (by decide)]
  simpa using head?_lines hline (more ++ rest)

/-- A template in which a name is output within a line. -/
theorem mem_lines_of_template (before : List Piece) (found : ref.find scope = .ok (.text value))
    (hvalue : IsDotted value) (hfront : .char '\n' ∉ front) (hback : .char '\n' ∉ back)
    (hu : [.char '\n'] <:+ u) (hv : back ++ [.char '\n'] <+: v)
    (ht : Template.renderPieces false scope
      (before ++ .text u :: .text front :: .output ref [] :: .text v :: ps) = .ok t) :
    front ++ value ++ back ∈ Text.lines t := by
  obtain ⟨b, _, -, hfirst, rfl⟩ := Template.renderPieces_append_eq_ok.1 ht
  obtain ⟨_, hsecond, rfl⟩ := JavaSource.exists_of_text hfirst
  obtain ⟨_, hthird, rfl⟩ := JavaSource.exists_of_text_output found hsecond
  obtain ⟨rest, -, rfl⟩ := JavaSource.exists_of_text hthird
  obtain ⟨start, rfl⟩ := hu
  obtain ⟨more, rfl⟩ := hv
  have hline : .char '\n' ∉ front ++ value ++ back := by
    simp [hfront, hback, hvalue.not_mem (s := .char '\n') (by decide) (by decide)]
  exact mem_lines_of_infix hline ⟨b ++ start, more ++ rest, by simp⟩

end Templates

/-! ## The sources of a suite -/

/-- A text is the source of a class of a package: its first line declares the package, and a line
declares the class. -/
structure DeclaresClass (t package name : Text) : Prop where
  package : (Text.lines t).head? = some (Text.ofString "package " ++ package ++ Text.ofString ";")
  type : ∃ modifiers heritage : String, modifiers ∈ ["public ", "public abstract "] ∧
    heritage ∈ [" \x7b", " extends BaseTest \x7b"] ∧
      Text.ofString modifiers ++ Text.ofString "class " ++ name ++ Text.ofString heritage ∈ Text.lines t

/-- A source of a class declares a package and a type. -/
theorem DeclaresClass.declares {t package name : Text} (h : DeclaresClass t package name)
    (hpackage : IsPackageName package) (hname : IsClassName name) : JavaSource.Declares t := by
  refine ⟨?_, ?_⟩
  · obtain ⟨rest, rfl⟩ := exists_of_head?_lines h.package
    simpa [Text.ofString] using JavaSource.hasPackage_append rest hpackage
  · obtain ⟨modifiers, heritage, hmodifiers, -, hline⟩ := h.type
    obtain ⟨front, hfront⟩ : [.char ' '] <:+ Text.ofString modifiers := by
      revert hmodifiers
      simp only [List.mem_cons, List.not_mem_nil, or_false]
      rintro (rfl | rfl) <;> decide
    refine JavaSource.hasType_of_infix hname (List.IsInfix.trans ?_ (infix_of_mem_lines hline))
    refine ⟨front, Text.ofString heritage, ?_⟩
    rw [← hfront]
    simp [Text.ofString]

theorem isXmlTemplate_name (i : TemplateId) :
    isXmlTemplate i.name = (i == .descriptor || i == .suite) := by
  cases i <;> decide +kernel

theorem Context.render_template (c : Context) :
    Template.renderPieces (c.template == .descriptor || c.template == .suite) c.scope
      c.template.template = .ok c.text := by
  rw [← isXmlTemplate_name]
  exact c.render_eq_text

theorem declaresClass_model {m : ModelContext} (hpackage : IsDotted m.package)
    (hclass : IsDotted m.className) :
    DeclaresClass (Context.model m).text m.package m.className := by
  have hrender : Template.renderPieces false m.scope Bundled.model = .ok (Context.model m).text :=
    (Context.model m).render_template
  refine ⟨?_, "public ", " \x7b", by simp, by simp, ?_⟩
  · exact head?_lines_of_template rfl hpackage (by decide) (by decide) (by decide +kernel) hrender
  · exact mem_lines_of_template (Bundled.model.take 6) rfl hclass (by decide) (by decide)
      (by decide +kernel) (by decide +kernel) hrender

theorem declaresClass_testClass {k : TestClassContext} (hpackage : IsDotted k.package)
    (hclass : IsDotted k.className) :
    DeclaresClass (Context.testClass k).text k.package k.className := by
  have hrender : Template.renderPieces false k.scope Bundled.testClass =
      .ok (Context.testClass k).text := (Context.testClass k).render_template
  refine ⟨?_, "public ", " extends BaseTest \x7b", by simp, by simp, ?_⟩
  · exact head?_lines_of_template rfl hpackage (by decide) (by decide) (by decide +kernel) hrender
  · exact mem_lines_of_template (Bundled.testClass.take 10) rfl hclass (by decide) (by decide)
      (by decide +kernel) (by decide +kernel) hrender

/-- **A test class imports the class that all test classes extend.** -/
theorem imports_testClass {k : TestClassContext} (h : IsDotted k.basePackage) :
    Text.ofString "import " ++ k.basePackage ++ Text.ofString ".BaseTest;" ∈
      Text.lines (Context.testClass k).text := by
  have hrender : Template.renderPieces false k.scope Bundled.testClass =
      .ok (Context.testClass k).text := (Context.testClass k).render_template
  exact mem_lines_of_template (Bundled.testClass.take 2) rfl h (by decide) (by decide)
    (by decide +kernel) (by decide +kernel) hrender

/-- The characters of the class that all test classes extend. -/
def spelledFixture : Xml.Spelling Bundled.fixture where
  pieces := _
  spelled :=
    .plain _ <| .output _ _ <| .lines (by repeat constructor) <|
    .plain _ <| .output _ _ <| .plain _ <| .output _ _ <| .lines (by repeat constructor) <|
    .plain _ <| .output _ _ <| .lines (by repeat constructor) .nil

theorem declaresClass_fixture {b : FixtureContext} (hpackage : IsDotted b.package) :
    DeclaresClass (Context.fixture b).text b.package fixtureName := by
  have hrender : Template.renderPieces false b.scope Bundled.fixture = .ok (Context.fixture b).text :=
    (Context.fixture b).render_template
  have hline : .char '\n' :: (Text.ofString "public abstract class BaseTest \x7b" ++
      [.char '\n']) <:+: (Context.fixture b).text := by
    rw [spelledFixture.eq_pieces] at hrender
    exact JavaSource.infix_of_holds (by decide +kernel) hrender
  refine ⟨?_, "public abstract ", " \x7b", by simp, by simp, ?_⟩
  · exact head?_lines_of_template rfl hpackage (by decide) (by decide) (by decide +kernel) hrender
  · exact mem_lines_of_infix (by decide) hline

/-! ## The list of the test classes -/

/-- The line of a test class in the list. -/
def suiteLine (q : Text) : Text :=
  Text.ofString "            <class name=\"" ++ q ++ Text.ofString "\"/>\n"

theorem renderEach_map {α : Type} {body : Datum → Except Text Text} {datum : α → Datum}
    {f : α → Text} {items : List α} (h : ∀ a ∈ items, body (datum a) = .ok (f a)) :
    Template.renderEach body (items.map datum) = .ok (items.flatMap f) := by
  induction items with
  | nil => rfl
  | cons a rest ih =>
    obtain ⟨ha, hrest⟩ := List.forall_mem_cons.1 h
    rw [List.map_cons, Template.renderEach, ha, ih hrest]
    rfl

/-- **The list of the test classes has a line for each, in order.** -/
theorem classes_suite {c : SuiteContext} (h : ∀ q ∈ c.testClasses, IsDotted q) :
    Text.ofString "        <classes>\n" ++ c.testClasses.flatMap suiteLine ++
      Text.ofString "        </classes>\n" <:+: (Context.suite c).text := by
  have hrender : Template.renderPieces true c.scope Bundled.suite = .ok (Context.suite c).text :=
    (Context.suite c).render_template
  have hitem : ∀ q ∈ c.testClasses, Template.renderPieces true
      ((Text.ofString "test_class", .text q) :: c.scope)
      [Template.plain "            <class name=\"", Template.var "test_class" [],
        Template.lines ["\"/>"]] = .ok (suiteLine q) := by
    intro q hq
    have hfind : Ref.find ⟨Text.ofString "test_class", none⟩
        ((Text.ofString "test_class", .text q) :: c.scope) = .ok (.text q) := by
      rw [Ref.find, List.lookup_cons_self]
    have hemit : Template.emit true [] (.text q) = q := escapeXml_of_isDotted (h q hq)
    simp only [Template.renderPieces, Template.renderPiece, Template.plain, Template.var,
      Template.lines, hfind, Except.map, ok_bind, hemit]
    simp [suiteLine]
    rfl
  have hlist : Ref.find ⟨Text.ofString "test_classes", none⟩ c.scope =
      .ok (.list (c.testClasses.map .text)) := rfl
  obtain ⟨b, _, -, hfirst, htext⟩ := Template.renderPieces_append_eq_ok.1
    (show Template.renderPieces true c.scope (Bundled.suite.take 6 ++ Bundled.suite.drop 6) =
      .ok (Context.suite c).text from hrender)
  obtain ⟨_, hsecond, rfl⟩ := JavaSource.exists_of_text hfirst
  rw [Template.renderPieces, Template.renderPiece, hlist, ok_bind, Datum.items,
    renderEach_map hitem, ok_bind] at hsecond
  obtain ⟨_, hthird, hsecond⟩ := bind_eq_ok.1 hsecond
  obtain ⟨rest, -, rfl⟩ := JavaSource.exists_of_text hthird
  cases hsecond
  obtain ⟨front, hfront⟩ : Text.ofString "        <classes>\n" <:+
      ["\">", "        <classes>"].flatMap fun l => Text.ofString l ++ Text.ofString "\n" := by
    decide +kernel
  obtain ⟨back, hback⟩ : Text.ofString "        </classes>\n" <+:
      ["        </classes>", "    </test>", "</suite>"].flatMap fun l =>
        Text.ofString l ++ Text.ofString "\n" := by
    decide +kernel
  refine ⟨b ++ front, back ++ rest, ?_⟩
  rw [htext, ← hfront, ← hback]
  simp only [List.append_assoc]

end SuiteForge
