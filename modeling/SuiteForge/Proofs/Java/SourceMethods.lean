/-
# The methods of a test class

The sources of a suite have each method on a line of its own, so the methods that one declares are
read off its lines (`methodNames`). Each line of a source either declares a public method without
parameters, or does not begin as the line of a public member does, whatever is written into it: so
what the lines declare together is put together line by line (`DeclareMethods`).

| source | methods |
| --- | --- |
| `BaseTest`, which all test classes extend | `setUp` |
| a test class | those of its context, in order |

The texts of both are lists of lines (`FixtureContext.text_eq`, `TestClassContext.text_eq`).
-/

import SuiteForge.Proofs.Java.Declarations

namespace SuiteForge

open Java

/-! ## Reading methods -/

namespace Java

namespace Declaration

/-- The name of a method. -/
def method? : Declaration → Option Text
  | .method _ name _ => some name
  | _ => none

end Declaration

open Declaration

/-- The method that a line declares. -/
def methodOfLine? (line : Text) : Option Text := (ofLine? line).bind method?

/-- **The methods that a source declares,** in order. -/
def methodNames (t : Text) : List Text := (declarations t).filterMap method?

theorem bind_orElse_eq_none {α β : Type} {a b : Option α} {f : α → Option β}
    (ha : a.bind f = none) (hb : b.bind f = none) : (a <|> b).bind f = none := by
  cases a with
  | none => exact hb
  | some x => exact ha

theorem bind_field?_eq_none (t : Text) : (field? t).bind method? = none := by
  rw [field?]
  split <;> rfl

theorem bind_annotated?_eq_none (t : Text) : (annotated? t).bind method? = none := by
  rw [annotated?]
  split <;> rfl

/-- What a line begins with that declares a public member. -/
def memberFront : List Char := [' ', ' ', ' ', ' ', 'p', 'u', 'b', 'l', 'i', 'c', ' ']

/-- A line that does not begin as one of a public member declares no method. -/
theorem methodOfLine?_eq_none {line : Text} (h : ¬Text.ofChars memberFront <+: line) :
    methodOfLine? line = none := by
  have hfront : Text.ofString "    public " = Text.ofChars memberFront := by
    rw [Xml.ofString_ofList]
    rfl
  have hmember : between? "    public " ") \x7b" line = none := by
    rw [between?, if_neg fun hcond => h ?_]
    rw [Bool.and_eq_true, hfront] at hcond
    exact List.isPrefixOf_iff_prefix.1 hcond.1
  rw [methodOfLine?, ofLine?, hmember]
  refine bind_orElse_eq_none ?_ (bind_orElse_eq_none ?_ (bind_orElse_eq_none ?_
    (bind_orElse_eq_none ?_ (bind_orElse_eq_none rfl ?_))))
  · cases between? "package " ";" line <;> rfl
  · cases between? "import " ";" line <;> rfl
  · cases between? "public class " " \x7b" line <;> rfl
  · cases between? "    private " ";" line with
    | none => rfl
    | some t => exact bind_field?_eq_none t
  · cases between? "@" ")" (line.dropWhile (· == .char ' ')) with
    | none => rfl
    | some t => exact bind_annotated?_eq_none t

/-- A method without parameters that gives nothing. -/
theorem methodOfLine?_method {t : Text} (h : IsSolid t) :
    methodOfLine? (Text.ofString "    public " ++
      (Text.ofString "void" ++ Text.ofString " " ++ t ++ Text.ofString "(") ++
        Text.ofString ") \x7b") = some t := by
  rw [methodOfLine?, ofLine?_member, member?_getter (by decide) h]
  rfl

theorem prefix_of_ofChars {cs ds : List Char} (h : Text.ofChars cs <+: Text.ofChars ds) :
    cs <+: ds := by
  obtain ⟨es, hes, heq⟩ := List.prefix_map_iff.1 h
  rwa [List.map_injective_iff.2 (fun _ _ => Symbol.char.inj) heq]

/-- There is no line end in the characters, and they begin as no public member does. -/
def isPlainLine (cs : List Char) : Bool := cs.all (· != '\n') && !memberFront.isPrefixOf cs

theorem newline_not_mem_of_isPlainLine {cs : List Char} (h : isPlainLine cs = true) :
    .char '\n' ∉ Text.ofChars cs := by
  rw [isPlainLine, Bool.and_eq_true] at h
  intro hmem
  obtain ⟨c, hc, heq⟩ := List.mem_map.1 hmem
  obtain rfl := Symbol.char.inj heq
  simpa using List.all_eq_true.1 h.1 _ hc

theorem not_prefix_of_isPlainLine {cs : List Char} (h : isPlainLine cs = true) :
    ¬Text.ofChars memberFront <+: Text.ofChars cs := by
  intro hprefix
  rw [isPlainLine, List.isPrefixOf_iff_prefix.2 (prefix_of_ofChars hprefix), Bool.not_true,
    Bool.and_false] at h
  cases h

/-! ## Lines that declare methods -/

/-- None of the lines has a line end in it, and together they declare methods of these names. -/
structure DeclareMethods (ls names : List Text) : Prop where
  newlines : ∀ l ∈ ls, .char '\n' ∉ l
  names : ls.filterMap methodOfLine? = names

namespace DeclareMethods

variable {ls ms names more : List Text}

/-- What lines declare is read off their text. -/
theorem methodNames_unlines (h : DeclareMethods ls names) : methodNames (unlines ls) = names := by
  have hlast : [[]].filterMap ofLine? = [] := rfl
  rw [methodNames, declarations, lines_unlines h.newlines, List.filterMap_append, hlast,
    List.append_nil, List.filterMap_filterMap]
  exact h.names

theorem nil : DeclareMethods [] [] := ⟨fun _ h => absurd h List.not_mem_nil, rfl⟩

theorem append (h : DeclareMethods ls names) (h' : DeclareMethods ms more) :
    DeclareMethods (ls ++ ms) (names ++ more) where
  newlines := List.forall_mem_append.2 ⟨h.newlines, h'.newlines⟩
  names := by rw [List.filterMap_append, h.names, h'.names]

theorem flatMap {α : Type} {xs : List α} {lines name : α → List Text}
    (h : ∀ x ∈ xs, DeclareMethods (lines x) (name x)) :
    DeclareMethods (xs.flatMap lines) (xs.flatMap name) where
  newlines l hl := by
    obtain ⟨x, hx, hl⟩ := List.mem_flatMap.1 hl
    exact (h x hx).newlines l hl
  names := by
    rw [List.filterMap_flatMap]
    exact List.flatMap_congr fun x hx => (h x hx).names

/-- A line of a method, and others behind it. -/
theorem method {t : Text} (h : IsSolid t) (rest : DeclareMethods ls names) :
    DeclareMethods ((Text.ofString "    public " ++
      (Text.ofString "void" ++ Text.ofString " " ++ t ++ Text.ofString "(") ++
        Text.ofString ") \x7b") :: ls) (t :: names) where
  newlines := by
    refine List.forall_mem_cons.2 ⟨?_, rest.newlines⟩
    simp [Text.ofString, h.2.2]
  names := by rw [List.filterMap_cons_some (methodOfLine?_method h), rest.names]

/-- A line of these characters, and others behind it. The characters of a string are found by
unification, and need not be computed. -/
theorem plain {cs : List Char} (h : isPlainLine cs = true) (rest : DeclareMethods ls names) :
    DeclareMethods (Text.ofString (String.ofList cs) :: ls) names := by
  rw [Xml.ofString_ofList]
  refine ⟨List.forall_mem_cons.2 ⟨newline_not_mem_of_isPlainLine h, rest.newlines⟩, ?_⟩
  rw [List.filterMap_cons_none (methodOfLine?_eq_none (not_prefix_of_isPlainLine h)), rest.names]

/-- Lines of these characters, and others behind them. -/
theorem plains {ss : List String} {css : List (List Char)} (spelled : Xml.Spells ss css)
    (h : css.all isPlainLine = true) (rest : DeclareMethods ls names) :
    DeclareMethods (ss.map Text.ofString ++ ls) names := by
  induction spelled with
  | nil => exact rest
  | cons cs _ ih =>
    rw [List.all_cons, Bool.and_eq_true] at h
    exact plain h.1 (ih h.2)

/-- A line that begins with these characters, and others behind it. -/
theorem opened {cs : List Char} {t : Text} (h : isPlainLine cs = true)
    (hshort : cs.isPrefixOf memberFront = false) (ht : .char '\n' ∉ t)
    (rest : DeclareMethods ls names) :
    DeclareMethods ((Text.ofString (String.ofList cs) ++ t) :: ls) names := by
  rw [Xml.ofString_ofList]
  refine ⟨List.forall_mem_cons.2 ⟨?_, rest.newlines⟩, ?_⟩
  · exact fun hmem => (List.mem_append.1 hmem).elim (newline_not_mem_of_isPlainLine h) ht
  · rw [List.filterMap_cons_none (methodOfLine?_eq_none fun hfront => ?_), rest.names]
    rcases List.prefix_or_prefix_of_prefix hfront (List.prefix_append _ _) with hfront | hfront
    · exact not_prefix_of_isPlainLine h hfront
    · rw [List.isPrefixOf_iff_prefix.2 (prefix_of_ofChars hfront)] at hshort
      cases hshort

end DeclareMethods

end Java

theorem newline_not_mem_quoted (t : Text) : .char '\n' ∉ quoted t := by
  simp [quoted, not_mem_literal (.inl rfl)]

/-! ## The class that all test classes extend -/

namespace FixtureContext

/-- The lines of the class that all test classes extend. -/
def sourceLines (b : FixtureContext) : List Text :=
  (Text.ofString "package " ++ (b.package ++ Text.ofString ";")) ::
  ([
    "",
    "import io.restassured.RestAssured;",
    "import io.restassured.builder.RequestSpecBuilder;",
    "import io.restassured.http.ContentType;",
    "import io.restassured.specification.RequestSpecification;",
    "import org.testng.annotations.BeforeClass;",
    "",
    "/**"].map Text.ofString ++
  (Text.ofString " * Shared setup for the " ++ (JavaText.comment b.apiTitle ++
    (Text.ofString " (" ++ (JavaText.comment b.apiVersion ++ Text.ofString ") API tests.")))) ::
  ([
    " *",
    " * The base URL can be overridden with -Dapi.baseUrl=...",
    " */",
    "public abstract class BaseTest \x7b",
    "",
    "    protected static final String BASE_URL ="].map Text.ofString ++
  (Text.ofString "            System.getProperty(\"api.baseUrl\", " ++
    (quoted b.baseUrl ++ Text.ofString ");")) ::
  ([
    "",
    "    protected RequestSpecification requestSpec;",
    "",
    "    @BeforeClass"].map Text.ofString ++
  (Text.ofString "    public " ++ (Text.ofString "void" ++ Text.ofString " " ++
    Text.ofString "setUp" ++ Text.ofString "(") ++ Text.ofString ") \x7b") ::
  ([
    "        RestAssured.enableLoggingOfRequestAndResponseIfValidationFails();",
    "        requestSpec = new RequestSpecBuilder()",
    "                .setBaseUri(BASE_URL)",
    "                .setAccept(ContentType.JSON)",
    "                .build();",
    "    \x7d"].map Text.ofString ++ [Text.ofString "\x7d"]))))

theorem declareMethods_sourceLines {b : FixtureContext} (h : .char '\n' ∉ b.package) :
    DeclareMethods b.sourceLines [Text.ofString "setUp"] := by
  refine .opened rfl rfl (by simp [Text.ofString, h]) ?_
  refine .plains (by repeat constructor) rfl ?_
  refine .opened rfl rfl (by simp [Text.ofString, newline_not_mem_comment]) ?_
  refine .plains (by repeat constructor) rfl ?_
  refine .opened rfl rfl (by simp [Text.ofString, newline_not_mem_quoted]) ?_
  refine .plains (by repeat constructor) rfl ?_
  refine .method (by decide) ?_
  exact .plains (by repeat constructor) rfl (.plain rfl .nil)

section Data

open Template

variable (b : FixtureContext)

theorem piecesText_fixture : piecesText b.scope Bundled.fixture = unlines b.sourceLines := by
  have hopen : Text.ofString "            System.getProperty(\"api.baseUrl\", \"" =
      Text.ofString "            System.getProperty(\"api.baseUrl\", " ++ [.char '"'] :=
    ofString_append "            System.getProperty(\"api.baseUrl\", " "\""
  have hclose : Text.ofString "\");" = [.char '"'] ++ Text.ofString ");" :=
    ofString_append "\"" ");"
  have hsetUp : Text.ofString "    public void setUp() \x7b" = Text.ofString "    public " ++
      (Text.ofString "void" ++ (Text.ofString " " ++ (Text.ofString "setUp" ++
        (Text.ofString "(" ++ Text.ofString ") \x7b")))) := by
    simp only [← ofString_append]
    rfl
  simp only [Bundled.fixture, sourceLines]
  simp [piecesText, unlines, FixtureContext.scope, quoted, hopen, hclose, hsetUp]

end Data

/-- **The text of the class that all test classes extend is that of its lines.** -/
theorem text_eq (b : FixtureContext) : (Context.fixture b).text = unlines b.sourceLines := by
  rw [← piecesText_fixture]
  exact Template.piecesText_of_renderPieces _ (Context.render_template (.fixture b))

/-- **The class that all test classes extend declares one method,** `setUp`. -/
theorem methodNames_text {b : FixtureContext} (h : .char '\n' ∉ b.package) :
    methodNames (Context.fixture b).text = [Text.ofString "setUp"] := by
  rw [text_eq]
  exact (declareMethods_sourceLines h).methodNames_unlines

end FixtureContext

/-! ## Test classes -/

/-- The line that sends a parameter with a call. -/
def ParameterContext.line (call : String) (p : ParameterContext) : Text :=
  Text.ofString call ++ (quoted p.name ++ (Text.ofString ", " ++ (p.placeholder ++
    Text.ofString ")")))

/-- The call that sends a parameter of a path. -/
abbrev pathCall : String := "                .pathParam("

/-- The call that sends a parameter of a query. -/
abbrev queryCall : String := "                .queryParam("

namespace MethodContext

/-- The lines of a test method in front of what it sends. -/
def headLines (x : MethodContext) : List Text := [
  Text.ofString "",
  Text.ofString "    /**",
  Text.ofString "     * " ++ (x.httpMethod.upper ++ (Text.ofString " " ++
    (JavaText.comment x.path ++
      if x.summary = [] then [] else Text.ofString " - " ++ JavaText.comment x.summary))),
  Text.ofString "     */",
  Text.ofString "    @Test",
  Text.ofString "    public " ++ (Text.ofString "void" ++ Text.ofString " " ++ x.name ++
    Text.ofString "(") ++ Text.ofString ") \x7b",
  Text.ofString "        given()",
  Text.ofString "                .spec(requestSpec)"]

/-- The lines that send a body. -/
def bodyLines (x : MethodContext) : List Text :=
  if x.hasBody then [
    Text.ofString "                .contentType(ContentType.JSON)",
    Text.ofString "                .body(\"\x7b\x7d\")"]
  else []

/-- The lines of a test method behind what it sends. -/
def tailLines (x : MethodContext) : List Text := [
  Text.ofString "        .when()",
  Text.ofString "                ." ++ (x.httpMethod ++ (Text.ofString "(" ++ (quoted x.path ++
    Text.ofString ")"))),
  Text.ofString "        .then()",
  Text.ofString "                .statusCode(" ++ (x.expectedStatus ++ Text.ofString ");"),
  Text.ofString "    \x7d"]

/-- The lines of a test method. -/
def sourceLines (x : MethodContext) : List Text :=
  x.headLines ++ (x.pathParameters.map (ParameterContext.line pathCall) ++
    (x.queryParameters.map (ParameterContext.line queryCall) ++ (x.bodyLines ++ x.tailLines)))

end MethodContext

namespace TestClassContext

/-- The lines in front of the methods of a test class. -/
def headLines (k : TestClassContext) : List Text := [
  Text.ofString "package " ++ (k.package ++ Text.ofString ";"),
  Text.ofString "",
  Text.ofString "import " ++ (k.basePackage ++ Text.ofString ".BaseTest;"),
  Text.ofString "import io.restassured.http.ContentType;",
  Text.ofString "import org.testng.annotations.Test;",
  Text.ofString "",
  Text.ofString "import static io.restassured.RestAssured.given;",
  Text.ofString "",
  Text.ofString "/**",
  Text.ofString " * Tests for the /" ++ (JavaText.comment k.resource ++
    (Text.ofString " resource of " ++ (JavaText.comment k.baseUrl ++ Text.ofString "."))),
  Text.ofString " */",
  Text.ofString "public class " ++ (k.className ++ Text.ofString " extends BaseTest \x7b")]

/-- The lines of a test class. -/
def sourceLines (k : TestClassContext) : List Text :=
  k.headLines ++ (k.methods.flatMap MethodContext.sourceLines ++ [Text.ofString "\x7d"])

end TestClassContext

/-! ## The text of a test class -/

section Data

open Template

@[simp] theorem emit_upper (t : Text) : emit false [.upper] (.text t) = t.upper := rfl

/-- The part of the template that sends a parameter. -/
def parameterPieces (call : String) : List Piece := [
  plain (call ++ "\""),
  field "param" "name" [.javaString],
  plain "\", ",
  field "param" "placeholder" [],
  lines [")"]]

theorem text_parameter (scope : Scope) (call : String) (p : ParameterContext) :
    piecesText ((Text.ofString "param", p.datum) :: scope) (parameterPieces call) =
      unlines [p.line call] := by
  have hclose : Text.ofString "\", " = [.char '"'] ++ Text.ofString ", " :=
    ofString_append "\"" ", "
  have hquote : Text.ofString "\"" = [.char '"'] := rfl
  simp [parameterPieces, piecesText, unlines, ParameterContext.datum, ParameterContext.line, quoted,
    ofString_append, hclose, hquote]

/-- The text for all parameters is that of their lines. -/
theorem text_parameters (scope : Scope) (call : String) (ps : List ParameterContext) :
    ((Datum.list (ps.map ParameterContext.datum)).items.flatMap fun d =>
      piecesText ((Text.ofString "param", d) :: scope) (parameterPieces call)) =
        unlines (ps.map (ParameterContext.line call)) := by
  rw [text_items (text_parameter scope call), List.map_eq_flatMap]

/-- The part of the template that makes a test method. -/
def methodPieces : List Piece := (Bundled.testClass[14]?.map Piece.body).getD []

/-- The parts of a test method, as they are told of. -/
theorem methodPieces_eq : methodPieces =
    methodPieces.take 10 ++
      .each "param" ⟨"method", some "path_params"⟩ (parameterPieces pathCall) ::
      .each "param" ⟨"method", some "query_params"⟩ (parameterPieces queryCall) ::
      methodPieces.drop 12 := rfl

section

variable (scope : Scope) (x : MethodContext)

theorem text_methodHead :
    piecesText ((Text.ofString "method", x.datum) :: scope) (methodPieces.take 10) =
      unlines x.headLines := by
  have hvoid : Text.ofString "    public void " =
      Text.ofString "    public " ++ (Text.ofString "void" ++ Text.ofString " ") := by
    simp only [← ofString_append]
    rfl
  have hnone : Text.ofString "() \x7b" = Text.ofString "(" ++ Text.ofString ") \x7b" :=
    ofString_append "(" ") \x7b"
  have hempty : Text.ofString "" = [] := rfl
  simp only [methodPieces, Bundled.testClass, List.getElem?_cons_succ, List.getElem?_cons_zero,
    Option.map_some, Option.getD_some, Piece.body, List.take_succ_cons, List.take_zero,
    MethodContext.headLines]
  simp [piecesText, pieceText, ite_isTruthy, unlines, MethodContext.datum, hvoid, hnone, hempty]

theorem text_methodTail :
    piecesText ((Text.ofString "method", x.datum) :: scope) (methodPieces.drop 12) =
      unlines (x.bodyLines ++ x.tailLines) := by
  have hopen : Text.ofString "(\"" = Text.ofString "(" ++ [.char '"'] := ofString_append "(" "\""
  have hclose : Text.ofString "\")" = [.char '"'] ++ Text.ofString ")" := ofString_append "\"" ")"
  simp only [methodPieces, Bundled.testClass, List.getElem?_cons_succ, List.getElem?_cons_zero,
    Option.map_some, Option.getD_some, Piece.body, List.drop_succ_cons, List.drop_zero,
    MethodContext.bodyLines, MethodContext.tailLines]
  simp [piecesText, pieceText, unlines, MethodContext.datum, quoted, hopen, hclose]
  split <;> simp

/-- The text of a test method is that of its lines. -/
theorem text_method : piecesText ((Text.ofString "method", x.datum) :: scope) methodPieces =
    unlines x.sourceLines := by
  have hpath : (⟨Text.ofString "method", some (Text.ofString "path_params")⟩ : Ref).datum
      ((Text.ofString "method", x.datum) :: scope) =
        .list (x.pathParameters.map ParameterContext.datum) := rfl
  have hquery : (⟨Text.ofString "method", some (Text.ofString "query_params")⟩ : Ref).datum
      ((Text.ofString "method", x.datum) :: scope) =
        .list (x.queryParameters.map ParameterContext.datum) := rfl
  rw [methodPieces_eq, MethodContext.sourceLines]
  simp only [piecesText_append, piecesText, pieceText, unlines_append, text_methodHead,
    text_methodTail, hpath, hquery, text_parameters]

end

namespace TestClassContext

variable (k : TestClassContext)

/-- The parts of the template, as they are told of. -/
theorem testClass_eq : Bundled.testClass = Bundled.testClass.take 14 ++
    .each "method" ⟨"methods", none⟩ methodPieces :: Bundled.testClass.drop 15 := rfl

theorem text_head : piecesText k.scope (Bundled.testClass.take 14) = unlines k.headLines := by
  simp only [Bundled.testClass, List.take_succ_cons, List.take_zero, headLines]
  simp [piecesText, unlines, TestClassContext.scope]

theorem piecesText_testClass : piecesText k.scope Bundled.testClass = unlines k.sourceLines := by
  have hlist : (⟨Text.ofString "methods", none⟩ : Ref).datum k.scope =
      .list (k.methods.map MethodContext.datum) := rfl
  have hmethods := text_items (text_method k.scope) k.methods
  have hend : piecesText k.scope (Bundled.testClass.drop 15) = unlines [Text.ofString "\x7d"] := rfl
  rw [testClass_eq, sourceLines]
  simp only [piecesText_append, piecesText, pieceText, unlines_append, text_head, hlist, hmethods,
    hend]

/-- **The text of a test class is that of its lines.** -/
theorem text_eq : (Context.testClass k).text = unlines k.sourceLines := by
  rw [← piecesText_testClass]
  exact Template.piecesText_of_renderPieces _ (Context.render_template (.testClass k))

end TestClassContext

end Data

/-! ## What test classes declare -/

/-- The name of a test method is solid, and what is written as it is has no line end in it. -/
structure MethodContext.IsSpelt (x : MethodContext) : Prop where
  name : IsSolid x.name
  httpMethod : .char '\n' ∉ x.httpMethod
  upper : .char '\n' ∉ x.httpMethod.upper
  expectedStatus : .char '\n' ∉ x.expectedStatus
  pathParameters : ∀ p ∈ x.pathParameters, .char '\n' ∉ p.placeholder
  queryParameters : ∀ p ∈ x.queryParameters, .char '\n' ∉ p.placeholder

/-- What is written as it is in a test class has no line end in it. -/
structure TestClassContext.IsSpelt (k : TestClassContext) : Prop where
  package : .char '\n' ∉ k.package
  basePackage : .char '\n' ∉ k.basePackage
  className : .char '\n' ∉ k.className
  methods : ∀ x ∈ k.methods, x.IsSpelt

namespace MethodContext

variable {x : MethodContext}

/-- The lines that send parameters declare nothing. -/
theorem declareMethods_parameters {cs : List Char} (hcall : isPlainLine cs = true)
    (hshort : cs.isPrefixOf memberFront = false) {ps : List ParameterContext}
    (h : ∀ p ∈ ps, .char '\n' ∉ p.placeholder) :
    DeclareMethods (ps.map (ParameterContext.line (String.ofList cs))) [] := by
  induction ps with
  | nil => exact .nil
  | cons p ps ih =>
    obtain ⟨hp, hps⟩ := List.forall_mem_cons.1 h
    exact .opened hcall hshort (by simp [Text.ofString, newline_not_mem_quoted, hp]) (ih hps)

theorem declareMethods_headLines (h : x.IsSpelt) : DeclareMethods x.headLines [x.name] := by
  refine .plain rfl (.plain rfl (.opened rfl rfl ?_ (.plain rfl (.plain rfl (.method h.name
    (.plain rfl (.plain rfl .nil)))))))
  split <;> simp [Text.ofString, newline_not_mem_comment, h.upper]

theorem declareMethods_bodyLines (x : MethodContext) : DeclareMethods x.bodyLines [] := by
  rw [bodyLines]
  split
  · exact .plain rfl (.plain rfl .nil)
  · exact .nil

theorem declareMethods_tailLines (h : x.IsSpelt) : DeclareMethods x.tailLines [] := by
  refine .plain rfl (.opened rfl rfl ?_ (.plain rfl (.opened rfl rfl ?_ (.plain rfl .nil))))
  · simp [Text.ofString, newline_not_mem_quoted, h.httpMethod]
  · simp [Text.ofString, h.expectedStatus]

/-- **The lines of a test method declare it,** and no other. -/
theorem declareMethods_sourceLines (h : x.IsSpelt) : DeclareMethods x.sourceLines [x.name] := by
  have hpath : DeclareMethods (x.pathParameters.map (ParameterContext.line pathCall)) [] :=
    declareMethods_parameters rfl rfl h.pathParameters
  have hquery : DeclareMethods (x.queryParameters.map (ParameterContext.line queryCall)) [] :=
    declareMethods_parameters rfl rfl h.queryParameters
  exact (declareMethods_headLines h).append (hpath.append (hquery.append
    ((declareMethods_bodyLines x).append (declareMethods_tailLines h))))

end MethodContext

namespace TestClassContext

variable {k : TestClassContext}

theorem declareMethods_headLines (h : k.IsSpelt) : DeclareMethods k.headLines [] := by
  refine .opened rfl rfl ?_ (.plain rfl (.opened rfl rfl ?_ (.plain rfl (.plain rfl (.plain rfl
    (.plain rfl (.plain rfl (.plain rfl (.opened rfl rfl ?_ (.plain rfl (.opened rfl rfl ?_
      .nil)))))))))))
  · simp [Text.ofString, h.package]
  · simp [Text.ofString, h.basePackage]
  · simp [Text.ofString, newline_not_mem_comment]
  · simp [Text.ofString, h.className]

theorem declareMethods_sourceLines (h : k.IsSpelt) :
    DeclareMethods k.sourceLines (k.methods.map (·.name)) := by
  have hmethods := DeclareMethods.flatMap fun x hx =>
    MethodContext.declareMethods_sourceLines (h.methods x hx)
  rw [← List.map_eq_flatMap] at hmethods
  have hend : DeclareMethods [Text.ofString "\x7d"] [] := .plain rfl .nil
  have hlines := (declareMethods_headLines h).append (hmethods.append hend)
  rwa [List.nil_append, List.append_nil] at hlines

/-- **A test class declares its methods,** in order, and no other. -/
theorem methodNames_text (h : k.IsSpelt) :
    methodNames (Context.testClass k).text = k.methods.map (·.name) := by
  rw [text_eq]
  exact (declareMethods_sourceLines h).methodNames_unlines

end TestClassContext

end SuiteForge
