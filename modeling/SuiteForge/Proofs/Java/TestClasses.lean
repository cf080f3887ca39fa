/-
# Test classes

A resource has a test class, and each endpoint of the resource a test method. Both are named with
what is left of a name when only ASCII letters and digits are kept, whatever the name is.

| from | name | form |
| --- | --- | --- |
| `line items` | class `LineItems` | `IsPascalWord`: a capital first |
| `3d`, `@` | classes `Api3d`, `Unknown` | the same |
| `line items` | test class `LineItemsApiTest` | the same |
| `list-pets`, `3d` | methods `testListPets`, `test3d` | `IsTestWord`: `test`, capital or digit |
| `list-pets`, again | method `testListPets2` | the same |

Names of these forms are legal (`IsLegalName`), and a class named for the name of a class has that
name (`className_of_isPascalWord`). A test class declares the methods of its endpoints and no other,
and the class that it extends declares `setUp`, which is no name of a test method: so no test method
hides it (`classes_and_methods_legal`).
-/

import SuiteForge.Proofs.Java.SourceMethods
import SuiteForge.Proofs.Suite.Layout

namespace SuiteForge

open Java

/-! ## Names of methods -/

/-- The name of a test method: `test` with a token behind it. -/
def IsTestWord (t : Text) : Prop := ∃ token, t = Text.ofString "test" ++ token ∧ IsToken token

theorem isTestWord_testMethodName (operationId : Text) : IsTestWord (testMethodName operationId) :=
  ⟨_, rfl, isToken_operationToken operationId⟩

theorem IsTestWord.append {t u : Text} (h : IsTestWord t) (hu : ∀ s ∈ u, s.isAsciiAlnum = true) :
    IsTestWord (t ++ u) := by
  obtain ⟨token, rfl, htoken⟩ := h
  exact ⟨token ++ u, List.append_assoc _ _ _, IsWordFrom.append htoken hu⟩

theorem IsTestWord.isClassName {t : Text} (h : IsTestWord t) : IsClassName t := by
  obtain ⟨token, rfl, htoken⟩ := h
  exact ⟨_, _, rfl, by decide, List.forall_mem_append.2
    ⟨(show ∀ s ∈ Text.ofString "est", s.isAsciiAlnum = true by decide), htoken.alnum⟩⟩

/-! ## Legal names -/

/-- A name that a class or a method can have: an identifier with no digit first, and none of the
reserved words. -/
structure IsLegalName (t : Text) : Prop where
  start : ∃ first rest, t = first :: rest ∧ first.isDigit = false
  identifier : IsIdentifier t
  unreserved : ∀ w ∈ reservedWords, t ≠ Text.ofString w

/-- A name of ASCII letters and digits with a letter first is legal if it is no word of Java. -/
theorem IsClassName.isLegalName {t : Text} (h : IsClassName t)
    (hfree : ∀ w ∈ keywords ++ reservedWords, t ≠ Text.ofString w) : IsLegalName t := by
  have hsymbols : ∀ s ∈ t, isFieldSymbol s = true := fun s hs =>
    isFieldSymbol_of_isAsciiAlnum (h.alnum s hs)
  obtain ⟨first, rest, rfl, hfirst, -⟩ := h
  have hword : IsFieldWord (first :: rest) :=
    ⟨⟨first, rest, rfl, by rw [startsIdentifier, hfirst]; rfl⟩, hsymbols⟩
  exact ⟨⟨first, rest, rfl, isDigit_of_isAsciiLetter hfirst⟩,
    hword.isIdentifier fun w hw => hfree w (List.mem_append_left _ hw),
    fun w hw => hfree w (List.mem_append_right _ hw)⟩

/-- No word of Java has a capital first. -/
theorem IsPascalWord.isLegalName {t : Text} (h : IsPascalWord t) : IsLegalName t := by
  refine h.isClassName.isLegalName fun w hw heq => ?_
  have hsmall : ∀ w ∈ keywords ++ reservedWords,
      (Text.ofString w).head?.all (fun s => !s.isAsciiCapital) = true := by
    decide +kernel
  obtain ⟨first, rest, rfl, hfirst, -⟩ := h
  have hhead := hsmall w hw
  rw [← heq, List.head?_cons, Option.all_some, hfirst] at hhead
  cases hhead

/-- No word of Java has `test` in front. -/
theorem IsTestWord.isLegalName {t : Text} (h : IsTestWord t) : IsLegalName t := by
  refine h.isClassName.isLegalName fun w hw heq => ?_
  have hfront : ∀ w ∈ keywords ++ reservedWords,
      (Text.ofString "test").isPrefixOf (Text.ofString w) = false := by
    decide +kernel
  obtain ⟨token, rfl, -⟩ := h
  have hnone := hfront w hw
  rw [← heq, List.isPrefixOf_iff_prefix.2 (List.prefix_append _ _)] at hnone
  cases hnone

/-! ## Test classes of groups -/

theorem isTestWord_groupMethods {endpoints : List Endpoint} {x : MethodContext}
    (h : x ∈ groupMethods endpoints) : IsTestWord x.name := by
  have hname : x.name ∈ (groupMethods endpoints).map (·.name) := List.mem_map_of_mem h
  rw [names_groupMethods] at hname
  refine forall_mem_deduplicate (fun name k hword => ?_) (List.forall_mem_map.2 fun e _ => ?_) _
    hname
  · exact hword.append (isAsciiAlnum_ofNat k)
  · exact isTestWord_testMethodName e.operationId

theorem isSpelt_groupMethods {endpoints : List Endpoint} {x : MethodContext}
    (h : x ∈ groupMethods endpoints) : x.IsSpelt := by
  have hname := (isTestWord_groupMethods h).isClassName.alnum
  have hparameters : ∀ (ps : List Parameter), ∀ p ∈ ps.map ParameterContext.ofParameter,
      .char '\n' ∉ p.placeholder := by
    refine fun ps => List.forall_mem_map.2 fun p _ => ?_
    show .char '\n' ∉ p.type.placeholder
    cases p.type <;> decide
  obtain ⟨⟨e, name⟩, -, rfl⟩ := List.mem_map.1 h
  constructor
  case name =>
    exact isSolid_of_isFieldSymbol fun s hs => isFieldSymbol_of_isAsciiAlnum (hname s hs)
  case httpMethod =>
    show .char '\n' ∉ e.method.key
    cases e.method <;> decide
  case upper =>
    show .char '\n' ∉ e.method.key.upper
    cases e.method <;> decide
  case expectedStatus =>
    show .char '\n' ∉ e.expectedStatus
    unfold Endpoint.expectedStatus
    dsimp only
    split <;> decide
  case pathParameters => exact hparameters e.pathParameters
  case queryParameters => exact hparameters e.queryParameters

theorem isSpelt_ofGroup {settings : Settings} (h : settings.check = .ok settings)
    (baseUrl resource : Text) (endpoints : List Endpoint) :
    (TestClassContext.ofGroup settings baseUrl resource endpoints).IsSpelt where
  package := newline_not_mem_subpackage h (by decide)
  basePackage := newline_not_mem_subpackage h (by decide)
  className :=
    (isClassName_testClassName resource).isDotted.not_mem (by decide) (by decide)
  methods _ hx := isSpelt_groupMethods hx

theorem not_isTestWord_setUp : ¬IsTestWord (Text.ofString "setUp") := by
  rintro ⟨token, heq, -⟩
  have hfront : (Text.ofString "test").isPrefixOf (Text.ofString "setUp") = true :=
    List.isPrefixOf_iff_prefix.2 ⟨token, heq.symm⟩
  exact absurd hfront (by decide)

/-- **The names of classes and methods are legal, and stay as they are.** Whatever a class is named
for, its name has a capital first, and ASCII letters and digits behind it; so has a test class, and
a class that is named for such a name has that name. The test methods of a group, named for the
operation ids of its endpoints and made unique, have names of `test`, a capital or a digit, and
ASCII letters and digits. All of these are identifiers with no digit first, and none is a reserved
word. What is rendered declares these test methods and no other methods; the class that a test class
extends declares `setUp` only, and no test method has this name. -/
theorem classes_and_methods_legal :
    (∀ name, IsPascalWord (className name) ∧ className (className name) = className name ∧
      IsLegalName (className name)) ∧
    (∀ t, IsPascalWord t → className t = t) ∧
    (∀ resource, testClassName resource = className resource ++ Text.ofString "ApiTest" ∧
      IsPascalWord (testClassName resource) ∧ IsLegalName (testClassName resource)) ∧
    (∀ endpoints : List Endpoint,
      (groupMethods endpoints).map (·.name) =
          deduplicate (endpoints.map fun e => testMethodName e.operationId) ∧
        ∀ x ∈ groupMethods endpoints,
          IsTestWord x.name ∧ IsLegalName x.name ∧ x.name ≠ Text.ofString "setUp") ∧
    ∀ settings : Settings, settings.check = .ok settings →
      ∀ (c : Contract) (resource : Text) (endpoints : List Endpoint), ∃ test base,
        Template.renderPieces false
            (TestClassContext.ofGroup settings c.baseUrl resource endpoints).scope
            Bundled.testClass = .ok test ∧
          Template.renderPieces false (c.fixture settings).scope Bundled.fixture = .ok base ∧
          methodNames test = (groupMethods endpoints).map (·.name) ∧
          methodNames base = [Text.ofString "setUp"] ∧
          ∀ n ∈ methodNames base, n ∉ methodNames test := by
  have hset : ∀ {endpoints : List Endpoint}, ∀ x ∈ groupMethods endpoints,
      x.name ≠ Text.ofString "setUp" := fun x hx heq =>
    not_isTestWord_setUp (heq ▸ isTestWord_groupMethods hx)
  refine ⟨fun name => ?_, fun t => className_of_isPascalWord, fun resource => ?_,
    fun endpoints => ⟨names_groupMethods endpoints, fun x hx => ?_⟩, ?_⟩
  · have hword := isPascalWord_className name
    exact ⟨hword, className_of_isPascalWord hword, hword.isLegalName⟩
  · have hword := isPascalWord_testClassName resource
    exact ⟨rfl, hword, hword.isLegalName⟩
  · have hword := isTestWord_groupMethods hx
    exact ⟨hword, hword.isLegalName, hset x hx⟩
  · intro settings h c resource endpoints
    have hmethods := TestClassContext.methodNames_text
      (isSpelt_ofGroup h c.baseUrl resource endpoints)
    have hbase := FixtureContext.methodNames_text (b := c.fixture settings)
      (newline_not_mem_subpackage h (by decide))
    refine ⟨_, _, Context.render_template (.testClass _), Context.render_template (.fixture _),
      hmethods, hbase, ?_⟩
    rw [hmethods, hbase, List.forall_mem_singleton]
    intro hmem
    obtain ⟨x, hx, hname⟩ := List.mem_map.1 hmem
    exact hset x hx hname

/-- Endpoints of one resource. The operation ids of two differ in a symbol that names drop, and one
has such a symbol only. -/
def petEndpoints : List Endpoint :=
  ["list-pets", "list pets", "3d", "@"].map fun id =>
    ⟨Text.ofString "/pets", .get, [], Text.ofString id, [], none, [], ["200"]⟩

theorem classes_and_methods_legal_petEndpoints :
    Settings.default.check = .ok Settings.default ∧
    ∃ test base,
      Template.renderPieces false
          (TestClassContext.ofGroup .default petContract.baseUrl "pets" petEndpoints).scope
          Bundled.testClass = .ok test ∧
        Template.renderPieces false (petContract.fixture .default).scope Bundled.fixture =
          .ok base ∧
        methodNames test = [Text.ofString "testListPets", Text.ofString "testListPets2",
          Text.ofString "test3d", Text.ofString "testUnknownOperation"] ∧
        methodNames base = [Text.ofString "setUp"] ∧
        IsPascalWord (className "line items") ∧
        className "LineItems" = Text.ofString "LineItems" := by
  have haccepted := suits_default.accepted
  obtain ⟨hclass, hstable, -, -, hrendered⟩ := classes_and_methods_legal
  obtain ⟨test, base, htest, hbase, hmethods, hsetUp, -⟩ :=
    hrendered .default haccepted petContract "pets" petEndpoints
  have hnames : (groupMethods petEndpoints).map (·.name) =
      [Text.ofString "testListPets", Text.ofString "testListPets2", Text.ofString "test3d",
        Text.ofString "testUnknownOperation"] := by
    decide +kernel
  have hitems : className "line items" = Text.ofString "LineItems" := by decide +kernel
  refine ⟨haccepted, test, base, htest, hbase, hmethods.trans hnames, hsetUp,
    (hclass "line items").1, hstable _ ?_⟩
  rw [← hitems]
  exact (hclass "line items").1

end SuiteForge
