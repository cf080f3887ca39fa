/-
# The sources of a suite, as they are read
-/

import SuiteForge.Proofs.Java.FieldNames
import SuiteForge.Proofs.Java.Outlines
import SuiteForge.Proofs.Suite.Packages

namespace SuiteForge

namespace Java

/-! ## Outlines of the templates -/

section Table

/-- A name. -/
def ref (name : String) : Ref := ⟨name, none⟩

/-- A field of what a name stands for. -/
def fieldRef (name field : String) : Ref := ⟨name, some (Text.ofString field)⟩

/-- The outline of the class that all test classes extend. -/
def fixtureOutline : Outline :=
  .datum .code (ref "package_name") <|
  .datum .remark (ref "api_title") <|
  .datum .remark (ref "api_version") <|
  .tokens [.comment] <|
  .tokens [.literal "api.baseUrl"] <|
  .datum .value (ref "base_url") .done

/-- The outline of the declaration of a field. -/
def declarationOutline : Outline :=
  .cond (fieldRef "field" "description")
    (.datum .remark (fieldRef "field" "description") <| .tokens [.comment] .done) .done <|
  .datum .value (fieldRef "field" "name") <|
  .datum .code (fieldRef "field" "type") <|
  .datum .code (fieldRef "field" "field_name") .done

/-- The outline of the accessors of a field. -/
def accessorsOutline : Outline :=
  .datum .code (fieldRef "field" "type") <|
  .datum .code (fieldRef "field" "capitalised") <|
  .datum .code (fieldRef "field" "field_name") <|
  .datum .code (fieldRef "field" "capitalised") <|
  .datum .code (fieldRef "field" "type") <|
  .datum .code (fieldRef "field" "field_name") <|
  .datum .code (fieldRef "field" "field_name") <|
  .datum .code (fieldRef "field" "field_name") .done

/-- The outline of a model class. -/
def modelOutline : Outline :=
  .datum .code (ref "package_name") <|
  .cond (ref "description")
    (.datum .remark (ref "description") .done) (.datum .remark (ref "schema_name") .done) <|
  .tokens [.comment] <|
  .datum .code (ref "class_name") <|
  .each "field" (ref "fields") declarationOutline <|
  .datum .code (ref "class_name") <|
  .each "field" (ref "fields") accessorsOutline .done

/-- The outline of a parameter of a test method. -/
def parameterOutline : Outline :=
  .datum .value (fieldRef "param" "name") <|
  .datum .code (fieldRef "param" "placeholder") .done

/-- The outline of a test method. -/
def methodOutline : Outline :=
  .datum .word (fieldRef "method" "http_method") <|
  .datum .remark (fieldRef "method" "path") <|
  .cond (fieldRef "method" "summary")
    (.datum .remark (fieldRef "method" "summary") .done) .done <|
  .tokens [.comment] <|
  .datum .code (fieldRef "method" "method_name") <|
  .each "param" (fieldRef "method" "path_params") parameterOutline <|
  .each "param" (fieldRef "method" "query_params") parameterOutline <|
  .cond (fieldRef "method" "has_body") (.tokens [.literal "\x7b\x7d"] .done) .done <|
  .datum .code (fieldRef "method" "http_method") <|
  .datum .value (fieldRef "method" "path") <|
  .datum .code (fieldRef "method" "expected_status") .done

/-- The outline of a test class. -/
def testClassOutline : Outline :=
  .datum .code (ref "package_name") <|
  .datum .code (ref "base_package") <|
  .datum .remark (ref "resource_name") <|
  .datum .remark (ref "base_url") <|
  .tokens [.comment] <|
  .datum .code (ref "class_name") <|
  .each "method" (ref "methods") methodOutline .done

end Table

theorem outline_fixture : (outlinePieces .code Bundled.fixture).map (fun x => (x.1.bare, x.2)) =
    some (fixtureOutline, .code) := by
  rw [spelledFixture.eq_pieces]
  exact eq_of_beq (by decide +kernel)

/-- The characters of a model class. -/
def spelledModel : Xml.Spelling Bundled.model where
  pieces := _
  spelled :=
    .plain _ <| .output _ _ <| .lines (by repeat constructor) <|
    .cond _ (.lines (by repeat constructor) .nil) .nil <| .lines (by repeat constructor) <|
    .cond _ (.plain _ <| .output _ _ <| .lines (by repeat constructor) .nil)
      (.plain _ <| .output _ _ <| .lines (by repeat constructor) .nil) <|
    .lines (by repeat constructor) <| .plain _ <| .output _ _ <| .lines (by repeat constructor) <|
    .each _ _ (
      .lines (by repeat constructor) <|
      .cond _ (.plain _ <| .output _ _ <| .lines (by repeat constructor) .nil) .nil <|
      .plain _ <| .output _ _ <| .lines (by repeat constructor) <|
      .plain _ <| .output _ _ <| .plain _ <| .output _ _ <| .lines (by repeat constructor) .nil) <|
    .lines (by repeat constructor) <| .plain _ <| .output _ _ <| .lines (by repeat constructor) <|
    .each _ _ (
      .lines (by repeat constructor) <|
      .plain _ <| .output _ _ <| .plain _ <| .output _ _ <| .lines (by repeat constructor) <|
      .plain _ <| .output _ _ <| .lines (by repeat constructor) <|
      .plain _ <| .output _ _ <| .plain _ <| .output _ _ <| .plain _ <| .output _ _ <|
        .lines (by repeat constructor) <|
      .plain _ <| .output _ _ <| .plain _ <| .output _ _ <| .lines (by repeat constructor) .nil) <|
    .lines (by repeat constructor) .nil

theorem outline_model : (outlinePieces .code Bundled.model).map (fun x => (x.1.bare, x.2)) =
    some (modelOutline, .code) := by
  rw [spelledModel.eq_pieces]
  exact eq_of_beq (by decide +kernel)

/-- The characters of a test class. -/
def spelledTestClass : Xml.Spelling Bundled.testClass where
  pieces := _
  spelled :=
    .plain _ <| .output _ _ <| .lines (by repeat constructor) <|
    .plain _ <| .output _ _ <| .lines (by repeat constructor) <|
    .plain _ <| .output _ _ <| .plain _ <| .output _ _ <| .lines (by repeat constructor) <|
    .plain _ <| .output _ _ <| .lines (by repeat constructor) <|
    .each _ _ (
      .lines (by repeat constructor) <| .plain _ <| .output _ _ <| .plain _ <| .output _ _ <|
      .cond _ (.plain _ <| .output _ _ .nil) .nil <| .lines (by repeat constructor) <|
      .plain _ <| .output _ _ <| .lines (by repeat constructor) <|
      .each _ _ (.plain _ <| .output _ _ <| .plain _ <| .output _ _ <|
        .lines (by repeat constructor) .nil) <|
      .each _ _ (.plain _ <| .output _ _ <| .plain _ <| .output _ _ <|
        .lines (by repeat constructor) .nil) <|
      .cond _ (.lines (by repeat constructor) .nil) .nil <|
      .lines (by repeat constructor) <|
      .plain _ <| .output _ _ <| .plain _ <| .output _ _ <| .lines (by repeat constructor) <|
      .plain _ <| .output _ _ <| .lines (by repeat constructor) .nil) <|
    .lines (by repeat constructor) .nil

theorem outline_testClass :
    (outlinePieces .code Bundled.testClass).map (fun x => (x.1.bare, x.2)) =
      some (testClassOutline, .code) := by
  rw [spelledTestClass.eq_pieces]
  exact eq_of_beq (by decide +kernel)

/-! ## Names -/

/-- A symbol that is code where code is read. -/
def isPlain (s : Symbol) : Bool :=
  s != .char '"' && s != .char '\'' && s != .char '/' && s != .char '\\'

/-- A text of symbols that are code. -/
def IsName (t : Text) : Prop := ∀ s ∈ t, isPlain s = true

instance (t : Text) : Decidable (IsName t) :=
  inferInstanceAs (Decidable (∀ s ∈ t, isPlain s = true))

theorem scan_of_isName {t : Text} (h : IsName t) :
    scan advance (.none, .code) t = some (t.map .code, (.none, .code)) := by
  induction t with
  | nil => rfl
  | cons s t ih =>
    obtain ⟨hs, ht⟩ := List.forall_mem_cons.1 h
    simp only [isPlain, Bool.and_eq_true, bne_iff_ne, ne_eq] at hs
    have hlex : lex .code (.raw s) = some ([.code s], .code) := by
      simp [lex, lexCode, hs]
    have hstep : advance (.none, .code) s = some ([.code s], (.none, .code)) := by
      rw [advance_raw _ hs.2, hlex]
      rfl
    rw [scan_cons hstep, ih ht]
    rfl

theorem codeTokens_of_isName {t : Text} (h : IsName t) : codeTokens t = t.map .code := by
  rw [codeTokens, scan_of_isName h]
  rfl

theorem isCode_of_isName {t : Text} (h : IsName t) : IsCode t := by
  rw [IsCode, codeTokens_of_isName h]
  exact scan_of_isName h

theorem isName_of_isFieldSymbol {t : Text} (h : ∀ s ∈ t, isFieldSymbol s = true) : IsName t := by
  intro s hs
  have hne : ∀ x, isFieldSymbol x = false → s ≠ x := by
    rintro x hx rfl
    rw [h s hs] at hx
    cases hx
  simp only [isPlain, Bool.and_eq_true, bne_iff_ne]
  exact ⟨⟨⟨hne _ (by decide), hne _ (by decide)⟩, hne _ (by decide)⟩, hne _ (by decide)⟩

theorem isName_of_isDotted {t : Text} (h : IsDotted t) : IsName t := by
  intro s hs
  have hne : ∀ x : Symbol, x.code < 0x80 → (x.isWord || x == .char '.') = false → s ≠ x := by
    rintro x hascii hx rfl
    exact h.not_mem hascii hx hs
  simp only [isPlain, Bool.and_eq_true, bne_iff_ne]
  exact ⟨⟨⟨hne _ (by decide) (by decide), hne _ (by decide) (by decide)⟩,
    hne _ (by decide) (by decide)⟩, hne _ (by decide) (by decide)⟩

/-! ## Parts of the sources -/

end Java

open Java

/-- What is read of the declaration of a field. -/
def FieldContext.declared (f : FieldContext) : List Part :=
  (if f.description = [] then [] else [Part.datum .remark f.description, .tokens [.comment]]) ++
    [Part.datum .value f.name, .datum .code f.type, .datum .code f.fieldName]

/-- What is read of the accessors of a field. -/
def FieldContext.accessed (f : FieldContext) : List Part :=
  [.datum .code f.type, .datum .code f.capitalised, .datum .code f.fieldName,
    .datum .code f.capitalised, .datum .code f.type, .datum .code f.fieldName,
    .datum .code f.fieldName, .datum .code f.fieldName]

/-- What is read of a parameter that a test sends. -/
def ParameterContext.parts (p : ParameterContext) : List Part :=
  [.datum .value p.name, .datum .code p.placeholder]

/-- What is read of a test method. -/
def MethodContext.parts (x : MethodContext) : List Part :=
  [Part.datum .word x.httpMethod, .datum .remark x.path] ++
    (if x.summary = [] then [] else [Part.datum .remark x.summary]) ++
    [Part.tokens [.comment], .datum .code x.name] ++
    x.pathParameters.flatMap ParameterContext.parts ++
    x.queryParameters.flatMap ParameterContext.parts ++
    (if x.hasBody then [Part.tokens [.literal "\x7b\x7d"]] else []) ++
    [Part.datum .code x.httpMethod, .datum .value x.path, .datum .code x.expectedStatus]

/-- What is read of a Java source, without the code of its template. -/
def Context.parts : Context → List Part
  | .fixture b =>
    [.datum .code b.package, .datum .remark b.apiTitle, .datum .remark b.apiVersion,
      .tokens [.comment], .tokens [.literal "api.baseUrl"], .datum .value b.baseUrl]
  | .model m =>
    [.datum .code m.package,
      .datum .remark (if m.description = [] then m.schemaName else m.description),
      .tokens [.comment], .datum .code m.className] ++ m.fields.flatMap FieldContext.declared ++
      .datum .code m.className :: m.fields.flatMap FieldContext.accessed
  | .testClass k =>
    [.datum .code k.package, .datum .code k.basePackage, .datum .remark k.resource,
      .datum .remark k.baseUrl, .tokens [.comment], .datum .code k.className] ++
      k.methods.flatMap MethodContext.parts
  | .descriptor _ | .suite _ => []

namespace Java

theorem parts_fixture (b : FixtureContext) :
    fixtureOutline.parts b.scope = (Context.fixture b).parts := rfl

theorem ite_isTruthy {α : Type} (t : Text) (a b : α) :
    (if (Datum.text t).isTruthy then a else b) = if t = [] then b else a := by
  cases t <;> rfl

/-- The parts of items that are turned into data. -/
theorem parts_items {α : Type} {datum : α → Datum} {o : Outline} {item : Text}
    {parts : α → List Part} {scope : Scope}
    (h : ∀ a, o.parts ((item, datum a) :: scope) = parts a) (xs : List α) :
    ((Datum.list (xs.map datum)).items.flatMap fun d => o.parts ((item, d) :: scope)) =
      xs.flatMap parts := by
  rw [Datum.items, List.flatMap_map]
  exact List.flatMap_congr fun a _ => h a

section Items

variable (scope : Scope)

theorem parts_declaration (f : FieldContext) :
    declarationOutline.parts ((Text.ofString "field", f.datum) :: scope) = f.declared :=
  congrArg (· ++ _) (ite_isTruthy f.description [_, _] [])

theorem parts_accessors (f : FieldContext) :
    accessorsOutline.parts ((Text.ofString "field", f.datum) :: scope) = f.accessed := rfl

theorem parts_parameter (p : ParameterContext) :
    parameterOutline.parts ((Text.ofString "param", p.datum) :: scope) = p.parts := rfl

theorem parts_method (x : MethodContext) :
    methodOutline.parts ((Text.ofString "method", x.datum) :: scope) = x.parts := by
  have hparameters := parts_items
    (parts_parameter ((Text.ofString "method", x.datum) :: scope))
  rw [MethodContext.parts, ← hparameters, ← hparameters, ← ite_isTruthy]
  simp only [List.append_assoc, List.cons_append, List.nil_append]
  rfl

end Items

theorem parts_model (m : ModelContext) :
    modelOutline.parts m.scope = (Context.model m).parts := by
  obtain ⟨package, className, schemaName, description, fields, usesList⟩ := m
  rw [Context.parts, ← parts_items (parts_declaration _), ← parts_items (parts_accessors _),
    ← List.append_nil (List.flatMap (fun d => accessorsOutline.parts _) _)]
  cases description <;> rfl

theorem parts_testClass (k : TestClassContext) :
    testClassOutline.parts k.scope = (Context.testClass k).parts := by
  rw [Context.parts, ← parts_items (parts_method k.scope),
    ← List.append_nil (List.flatMap (fun d => methodOutline.parts _) _)]
  rfl

end Java

/-! ## Names of the sources -/

/-- The names of a field are code. -/
structure FieldContext.IsNamed (f : FieldContext) : Prop where
  type : IsName f.type
  fieldName : IsName f.fieldName
  capitalised : IsName f.capitalised

/-- The value of a parameter is that of a type. -/
def ParameterContext.IsNamed (p : ParameterContext) : Prop :=
  ∃ r : ResolvedType, p.placeholder = r.placeholder

/-- The names of a test method are code. -/
structure MethodContext.IsNamed (x : MethodContext) : Prop where
  name : IsName x.name
  httpMethod : ∃ m : Method, x.httpMethod = m.key
  expectedStatus : IsName x.expectedStatus
  pathParameters : ∀ p ∈ x.pathParameters, p.IsNamed
  queryParameters : ∀ p ∈ x.queryParameters, p.IsNamed

/-- The names of a source are code. -/
inductive Context.IsNamed : Context → Prop
  | fixture {b : FixtureContext} (package : IsName b.package) : IsNamed (.fixture b)
  | model {m : ModelContext} (package : IsName m.package) (className : IsName m.className)
      (fields : ∀ f ∈ m.fields, f.IsNamed) : IsNamed (.model m)
  | testClass {k : TestClassContext} (package : IsName k.package)
      (basePackage : IsName k.basePackage) (className : IsName k.className)
      (methods : ∀ x ∈ k.methods, x.IsNamed) : IsNamed (.testClass k)

namespace Java

theorem isName_of_isAsciiAlnum {t : Text} (h : ∀ s ∈ t, s.isAsciiAlnum = true) : IsName t :=
  isName_of_isFieldSymbol fun s hs => isFieldSymbol_of_isAsciiAlnum (h s hs)

theorem isName_javaType (r : ResolvedType) : IsName r.javaType := by cases r <;> decide

theorem isCode_placeholder (r : ResolvedType) : IsCode r.placeholder := by cases r <;> decide

theorem isName_key (m : Method) : IsName m.key := by cases m <;> decide

theorem fits_word_key (m : Method) : Use.word.Fits m.key := by
  cases m <;> exact (show scan advance _ _ = _ by decide)

theorem isName_expectedStatus (e : Endpoint) : IsName e.expectedStatus := by
  unfold Endpoint.expectedStatus
  dsimp only
  split <;> decide

theorem isNamed_modelFields {properties : List (Text × Schema)} {f : FieldContext}
    (h : f ∈ modelFields properties) : f.IsNamed := by
  have hsymbols := (isFieldWord_fields h).symbols
  obtain ⟨⟨p, name⟩, -, rfl⟩ := List.mem_map.1 h
  exact ⟨isName_javaType _, isName_of_isFieldSymbol hsymbols, isName_of_isFieldSymbol
    (forall_mem_capitalise (fun _ => isFieldSymbol_of_mem_upper) hsymbols)⟩

theorem isNamed_ofParameter (ps : List Parameter) :
    ∀ p ∈ ps.map ParameterContext.ofParameter, p.IsNamed :=
  List.forall_mem_map.2 fun p _ => ⟨p.type, rfl⟩

theorem isNamed_groupMethods {endpoints : List Endpoint} {x : MethodContext}
    (h : x ∈ groupMethods endpoints) : x.IsNamed := by
  obtain ⟨⟨e, name⟩, hmem, rfl⟩ := List.mem_map.1 h
  have hsymbols : ∀ s ∈ name, s.isAsciiAlnum = true := by
    refine forall_mem_deduplicate (P := fun t => ∀ s ∈ t, s.isAsciiAlnum = true)
      (fun name k hname => List.forall_mem_append.2 ⟨hname, isAsciiAlnum_ofNat k⟩) ?_ name
      (List.of_mem_zip hmem).2
    exact List.forall_mem_map.2 fun e _ => isAsciiAlnum_testMethodName e.operationId
  exact ⟨isName_of_isAsciiAlnum hsymbols, ⟨e.method, rfl⟩, isName_expectedStatus e,
    isNamed_ofParameter _, isNamed_ofParameter _⟩

end Java

/-- The data of the sources of a suite, in the order of their files. -/
def Contract.sources (c : Contract) (s : Settings) : List Context :=
  .fixture (c.fixture s) :: (c.models s).map .model ++ (c.testClasses s).map .testClass

/-- **The names of the sources of a suite are code.** -/
theorem Contract.isNamed_sources {c : Contract} {s : Settings} (h : s.check = .ok s) {x : Context}
    (hx : x ∈ c.sources s) : x.IsNamed := by
  have hbase : IsDotted s.basePackage := isDotted_of_isPackage (Settings.check_eq_ok.1 h).1
  have hpackage : ∀ {name : Text}, IsDotted name → IsName (s.subpackage name) := fun hname =>
    isName_of_isDotted (hbase.subpackage hname)
  rcases List.mem_append.1 hx with hx | hx
  · rcases List.mem_cons.1 hx with rfl | hx
    · exact .fixture (hpackage (by decide))
    · obtain ⟨m, hm, rfl⟩ := List.mem_map.1 hx
      obtain ⟨p, -, rfl⟩ := List.mem_map.1 hm
      exact .model (hpackage (by decide)) (isName_of_isAsciiAlnum (isClassName_className p.1).alnum)
        fun f hf => isNamed_modelFields hf
  · obtain ⟨k, hk, rfl⟩ := List.mem_map.1 hx
    obtain ⟨g, -, rfl⟩ := List.mem_map.1 hk
    exact .testClass (hpackage (by decide)) (hpackage (by decide))
      (isName_of_isAsciiAlnum (isClassName_testClassName g.1).alnum)
      fun m hm => isNamed_groupMethods hm

end SuiteForge
