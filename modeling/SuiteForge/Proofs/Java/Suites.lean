/-
# How the sources of a suite are read

Each source is read as its template is, with its data put in (`Context.tokens`): no name, no value
and, if it is harmless, no remark changes what is read of the text around it. Of comments and
literals a source has those of its data, in order (`Context.marks`).

| source | read between the tokens of its code |
| --- | --- |
| class that test classes extend | a comment, two literals: the name of a property, the base URL |
| model class | a comment; for each field a comment if it is described, and its name |
| test class | a comment; for each method a comment, and its parameters, its body and its path |
-/

import SuiteForge.Proofs.Java.Contexts

namespace SuiteForge

open Java

/-! ## Comments and literals of a source -/

/-- The texts that are written into the comments of a source. -/
def Context.remarks : Context → List Text
  | .fixture b => [b.apiTitle, b.apiVersion]
  | .model m =>
    (if m.description = [] then m.schemaName else m.description) :: m.fields.map (·.description)
  | .testClass k => k.resource :: k.baseUrl :: k.methods.flatMap fun x => [x.path, x.summary]
  | .descriptor _ | .suite _ => []

/-- The comment of a field, if it is described, and its name. -/
def FieldContext.marks (f : FieldContext) : List Token :=
  (if f.description = [] then [] else [.comment]) ++ [.literal f.name]

/-- The name of a parameter, and its value if that is a literal. -/
def ParameterContext.marks (p : ParameterContext) : List Token :=
  .literal p.name ::
    if p.placeholder = ResolvedType.string.placeholder then [.literal "test-value"] else []

/-- The comment of a test method, the literals of its parameters and of its body, and its path. -/
def MethodContext.marks (x : MethodContext) : List Token :=
  .comment :: (x.pathParameters.flatMap ParameterContext.marks ++
    x.queryParameters.flatMap ParameterContext.marks ++
      (if x.hasBody then [.literal "\x7b\x7d"] else []) ++ [.literal x.path])

/-- The comments and literals of a source, in order. -/
def Context.marks : Context → List Token
  | .fixture b => [.comment, .literal "api.baseUrl", .literal b.baseUrl]
  | .model m => .comment :: m.fields.flatMap FieldContext.marks
  | .testClass k => .comment :: k.methods.flatMap MethodContext.marks
  | .descriptor _ | .suite _ => []

/-- The tokens of a source: those of the text of its template outside comments, of the names that
are put in, and one literal for each value. -/
def Context.tokens (x : Context) : List Token :=
  match outlinePieces .code x.template.template with
  | some (o, _) => (o.parts x.scope).flatMap Part.read
  | none => []

namespace Java

/-! ## Data that fit -/

/-- A part fits, with a condition of its own for remarks. -/
def Part.FitsWith (remark : Text → Prop) : Part → Prop
  | .datum .remark t => remark t
  | x => x.Fits

section FitsWith

variable {remark : Text → Prop} {t : Text}

@[simp] theorem fitsWith_tokens (toks : List Token) : Part.FitsWith remark (.tokens toks) := trivial

@[simp] theorem fitsWith_code : Part.FitsWith remark (.datum .code t) ↔ IsCode t := .rfl

@[simp] theorem fitsWith_remark : Part.FitsWith remark (.datum .remark t) ↔ remark t := .rfl

@[simp] theorem fitsWith_word : Part.FitsWith remark (.datum .word t) ↔ Use.word.Fits t := .rfl

@[simp] theorem fitsWith_value : Part.FitsWith remark (.datum .value t) := trivial

theorem fitsWith_declared {f : FieldContext} (hf : f.IsNamed) (h : remark f.description) :
    ∀ y ∈ f.declared, y.FitsWith remark := by
  have htype := isCode_of_isName hf.type
  have hname := isCode_of_isName hf.fieldName
  unfold FieldContext.declared
  split <;> simp [htype, hname, h]

theorem fitsWith_accessed {f : FieldContext} (hf : f.IsNamed) :
    ∀ y ∈ f.accessed, y.FitsWith remark := by
  have htype := isCode_of_isName hf.type
  have hname := isCode_of_isName hf.fieldName
  have hcapitalised := isCode_of_isName hf.capitalised
  simp [FieldContext.accessed, htype, hname, hcapitalised]

theorem fitsWith_parameters {ps : List ParameterContext} (hps : ∀ p ∈ ps, p.IsNamed) :
    ∀ y ∈ ps.flatMap ParameterContext.parts, y.FitsWith remark := by
  intro y hy
  obtain ⟨p, hp, hy⟩ := List.mem_flatMap.1 hy
  obtain ⟨r, hr⟩ := hps p hp
  have hparts : ∀ y ∈ p.parts, y.FitsWith remark := by
    simp [ParameterContext.parts, hr, isCode_placeholder]
  exact hparts y hy

theorem fitsWith_method {x : MethodContext} (hx : x.IsNamed) (hpath : remark x.path)
    (hsummary : remark x.summary) : ∀ y ∈ x.parts, y.FitsWith remark := by
  obtain ⟨m, hm⟩ := hx.httpMethod
  have hname := isCode_of_isName hx.name
  have hkey := isCode_of_isName (isName_key m)
  have hstatus := isCode_of_isName hx.expectedStatus
  have hword := fits_word_key m
  simp only [MethodContext.parts, List.forall_mem_append]
  refine ⟨⟨⟨⟨⟨⟨?_, ?_⟩, ?_⟩, fitsWith_parameters hx.pathParameters⟩,
    fitsWith_parameters hx.queryParameters⟩, ?_⟩, ?_⟩
  · simp [hm, hword, hpath]
  · split <;> simp [hsummary]
  · simp [hname]
  · split <;> simp
  · simp [hm, hkey, hstatus]

/-- **The data of a source fit** if its remarks do. -/
theorem fitsWith_parts (remark : Text → Prop) {x : Context} (hx : x.IsNamed)
    (h : ∀ t ∈ x.remarks, remark t) : ∀ y ∈ x.parts, y.FitsWith remark := by
  cases hx with
  | fixture package =>
    simpa [Context.parts, Context.remarks, isCode_of_isName package] using h
  | @model m package className fields =>
    obtain ⟨hfirst, hfields⟩ := List.forall_mem_cons.1 h
    have hclass := isCode_of_isName className
    simp only [Context.parts, List.forall_mem_append, List.forall_mem_cons, List.mem_flatMap]
    refine ⟨⟨⟨isCode_of_isName package, hfirst, trivial, hclass, List.forall_mem_nil _⟩, ?_⟩,
      hclass, ?_⟩
    · rintro y ⟨f, hf, hy⟩
      exact fitsWith_declared (fields f hf) (hfields _ (List.mem_map_of_mem hf)) y hy
    · rintro y ⟨f, hf, hy⟩
      exact fitsWith_accessed (fields f hf) y hy
  | @testClass k package basePackage className methods =>
    obtain ⟨hresource, hrest⟩ := List.forall_mem_cons.1 h
    obtain ⟨hurl, hmethods⟩ := List.forall_mem_cons.1 hrest
    simp only [Context.parts, List.forall_mem_append, List.forall_mem_cons, List.mem_flatMap]
    refine ⟨⟨isCode_of_isName package, isCode_of_isName basePackage, hresource, hurl, trivial,
      isCode_of_isName className, List.forall_mem_nil _⟩, ?_⟩
    rintro y ⟨x, hx, hy⟩
    have hmem : ∀ t ∈ [x.path, x.summary], remark t := fun t ht =>
      hmethods t (List.mem_flatMap.2 ⟨x, hx, ht⟩)
    obtain ⟨hpath, hsummary⟩ := List.forall_mem_cons.1 hmem
    exact fitsWith_method (methods x hx) hpath (hsummary _ List.mem_cons_self) y hy

end FitsWith

/-! ## Comments and literals among the tokens -/

/-- The comments and literals of a part. -/
def Part.marks (y : Part) : List Token := y.read.filter Token.isMark

theorem marks_code {t : Text} (h : IsName t) : Part.marks (.datum .code t) = [] := by
  rw [Part.marks, Part.read, Use.tokens, codeTokens_of_isName h, List.filter_eq_nil_iff]
  intro token htoken
  obtain ⟨s, -, rfl⟩ := List.mem_map.1 htoken
  exact Bool.false_ne_true

theorem marks_placeholder (r : ResolvedType) : Part.marks (.datum .code r.placeholder) =
    if r.placeholder = ResolvedType.string.placeholder then [.literal "test-value"] else [] := by
  cases r <;> decide

theorem marks_remark (t : Text) : Part.marks (.datum .remark t) = [] := rfl

theorem marks_word (t : Text) : Part.marks (.datum .word t) = [] := rfl

theorem marks_value (t : Text) : Part.marks (.datum .value t) = [.literal t] := rfl

theorem marks_comment : Part.marks (.tokens [.comment]) = [.comment] := rfl

theorem marks_literal (t : Text) : Part.marks (.tokens [.literal t]) = [.literal t] := rfl

theorem marks_declared {f : FieldContext} (hf : f.IsNamed) :
    f.declared.flatMap Part.marks = f.marks := by
  unfold FieldContext.declared FieldContext.marks
  split <;>
    simp [marks_code hf.type, marks_code hf.fieldName, marks_remark, marks_comment, marks_value]

theorem marks_accessed {f : FieldContext} (hf : f.IsNamed) :
    f.accessed.flatMap Part.marks = [] := by
  simp [FieldContext.accessed, marks_code hf.type, marks_code hf.fieldName,
    marks_code hf.capitalised]

theorem marks_parameters {ps : List ParameterContext} (hps : ∀ p ∈ ps, p.IsNamed) :
    (ps.flatMap ParameterContext.parts).flatMap Part.marks = ps.flatMap ParameterContext.marks := by
  rw [List.flatMap_assoc]
  refine List.flatMap_congr fun p hp => ?_
  obtain ⟨r, hr⟩ := hps p hp
  simp [ParameterContext.parts, ParameterContext.marks, hr, marks_value, marks_placeholder]

theorem marks_method {x : MethodContext} (hx : x.IsNamed) :
    x.parts.flatMap Part.marks = x.marks := by
  obtain ⟨m, hm⟩ := hx.httpMethod
  have hkey : Part.marks (.datum .code x.httpMethod) = [] := hm ▸ marks_code (isName_key m)
  simp only [MethodContext.parts, MethodContext.marks, List.flatMap_append,
    marks_parameters hx.pathParameters, marks_parameters hx.queryParameters]
  have hsummary : (if x.summary = [] then [] else [Part.datum .remark x.summary]).flatMap
      Part.marks = [] := by
    split <;> rfl
  have hbody : (if x.hasBody then [Part.tokens [.literal "\x7b\x7d"]] else []).flatMap Part.marks =
      if x.hasBody then [.literal "\x7b\x7d"] else [] := by
    split <;> rfl
  rw [hsummary, hbody]
  simp [marks_word, marks_remark, marks_comment, marks_value, hkey, marks_code hx.name,
    marks_code hx.expectedStatus]

/-- **The comments and literals of a source are those of its data, in order.** -/
theorem marks_parts {x : Context} (hx : x.IsNamed) :
    (x.parts.flatMap Part.read).filter Token.isMark = x.marks := by
  rw [List.filter_flatMap]
  show x.parts.flatMap Part.marks = x.marks
  cases hx with
  | fixture package =>
    simp [Context.parts, Context.marks, marks_code package, marks_remark, marks_comment,
      marks_literal, marks_value]
  | @model m package className fields =>
    have hdeclared : (m.fields.flatMap FieldContext.declared).flatMap Part.marks =
        m.fields.flatMap FieldContext.marks := by
      rw [List.flatMap_assoc]
      exact List.flatMap_congr fun f hf => marks_declared (fields f hf)
    have haccessed : (m.fields.flatMap FieldContext.accessed).flatMap Part.marks = [] := by
      rw [List.flatMap_assoc, List.flatMap_eq_nil_iff]
      exact fun f hf => marks_accessed (fields f hf)
    simp only [Context.parts, Context.marks, List.flatMap_append, List.flatMap_cons, hdeclared,
      haccessed, marks_code package, marks_code className, marks_remark, marks_comment]
    simp
  | @testClass k package basePackage className methods =>
    have hmethods : (k.methods.flatMap MethodContext.parts).flatMap Part.marks =
        k.methods.flatMap MethodContext.marks := by
      rw [List.flatMap_assoc]
      exact List.flatMap_congr fun x hx => marks_method (methods x hx)
    simp only [Context.parts, Context.marks, List.flatMap_append, List.flatMap_cons, hmethods,
      marks_code package, marks_code basePackage, marks_code className, marks_remark, marks_comment]
    simp

/-! ## Reading a source -/

/-- The outline of a source without the code of its template gives its parts. -/
theorem exists_outline {x : Context} (hx : x.IsNamed) :
    ∃ o, outlinePieces .code x.template.template = some (o, .code) ∧
      o.bare.parts x.scope = x.parts := by
  have hsplit : ∀ {ps : List Piece} {b : Outline},
      (outlinePieces .code ps).map (fun y => (y.1.bare, y.2)) = some (b, .code) →
        ∃ o, outlinePieces .code ps = some (o, .code) ∧ o.bare = b := by
    intro ps b h
    obtain ⟨⟨o, q⟩, houtline, heq⟩ := Option.map_eq_some_iff.1 h
    obtain ⟨rfl, rfl⟩ := Prod.mk.inj heq
    exact ⟨o, houtline, rfl⟩
  cases hx with
  | @fixture b package =>
    obtain ⟨o, houtline, hbare⟩ := hsplit outline_fixture
    exact ⟨o, houtline, by rw [hbare]; exact parts_fixture b⟩
  | @model m package className fields =>
    obtain ⟨o, houtline, hbare⟩ := hsplit outline_model
    exact ⟨o, houtline, by rw [hbare]; exact parts_model m⟩
  | @testClass k package basePackage className methods =>
    obtain ⟨o, houtline, hbare⟩ := hsplit outline_testClass
    exact ⟨o, houtline, by rw [hbare]; exact parts_testClass k⟩

theorem fits_silence (i : TemplateId) : Template.piecesFit i.kinds (silence i.template) = true := by
  cases i <;> decide +kernel

section Source

variable {x : Context}

/-- The text of a source is what its template is rendered to. -/
theorem render_source (hx : x.IsNamed) :
    Template.renderPieces false x.scope x.template.template = .ok x.text := by
  have hrender := x.render_template
  cases hx <;> exact hrender

/-- **A source is read to its tokens** if its remarks are intact. -/
theorem read_source (hx : x.IsNamed) (h : ∀ t ∈ x.remarks, Intact t.flatten) :
    read x.text = some x.tokens := by
  obtain ⟨o, houtline, hparts⟩ := exists_outline hx
  have hfits : ∀ y ∈ o.parts x.scope, y.Fits := by
    intro y hy
    cases y with
    | tokens toks => trivial
    | datum use t =>
      have hmem : .datum use t ∈ x.parts := hparts ▸ Outline.datum_mem_bare.2 hy
      have hy := fitsWith_parts _ hx (fun t ht => (harmless_comment_iff t).2 (h t ht)) _ hmem
      cases use <;> exact hy
  rw [Context.tokens, houtline]
  exact read_render houtline hfits (render_source hx)

/-- **Without its remarks a source is read to its tokens,** whatever the remarks are. -/
theorem read_silence (hx : x.IsNamed) :
    ∃ t, Template.renderPieces false x.scope (silence x.template.template) = .ok t ∧
      read t = some x.tokens := by
  obtain ⟨o, houtline, hparts⟩ := exists_outline hx
  obtain ⟨t, ht⟩ : ∃ t, Template.renderPieces false x.scope (silence x.template.template) = .ok t :=
    Template.renderPieces_ok x.hasKinds _ (fits_silence x.template)
  have hfits : ∀ use u, .datum use u ∈ o.parts x.scope → use ≠ .remark → use.Fits u := by
    intro use u hy hne
    have hmem : .datum use u ∈ x.parts := hparts ▸ Outline.datum_mem_bare.2 hy
    have hy := fitsWith_parts (fun _ => True) hx (fun _ _ => trivial) _ hmem
    cases use with
    | remark => exact absurd rfl hne
    | code => exact hy
    | word => exact hy
    | value => exact hy
  rw [Context.tokens, houtline]
  exact ⟨t, ht, read_render_silence houtline hfits ht⟩

/-- **Of comments and literals the tokens of a source have those of its data.** -/
theorem filter_tokens (hx : x.IsNamed) : x.tokens.filter Token.isMark = x.marks := by
  obtain ⟨o, houtline, hparts⟩ := exists_outline hx
  rw [← marks_parts hx, ← hparts, Outline.filter_read_bare, Context.tokens, houtline]

end Source

end Java

/-! ## Suites -/

section Suites

variable {settings : Settings} {trace : TraceId} {c : Contract} {s : Session} {p : Project}

/-- **The Java files of a suite are its sources, in order.** -/
theorem sources_of_generate (hs : s.IsBundled)
    (h : (generate TemplateDirectory.bundled settings trace c).outcome s = .ok p) :
    List.Forall₂ (fun x f => x.Fills f ∧ f.content = x.text) (c.sources settings)
      (p.files.filter (·.path.endsWith (Text.ofString ".java"))) := by
  rw [(files_of_generate hs h).1, filter_sources]
  refine .cons ⟨Context.render_eq_text _, rfl⟩ (List.rel_append ?_ ?_)
  · rw [List.forall₂_map_left_iff, List.forall₂_map_right_iff, List.forall₂_same]
    exact fun m _ => ⟨Context.render_eq_text _, rfl⟩
  · rw [List.forall₂_map_left_iff, List.forall₂_map_right_iff, List.forall₂_same]
    exact fun k _ => ⟨Context.render_eq_text _, rfl⟩

/-- The sources of a suite with their files, and that their names are code. -/
theorem named_sources_of_generate (haccepted : settings.check = .ok settings) (hs : s.IsBundled)
    (h : (generate TemplateDirectory.bundled settings trace c).outcome s = .ok p) :
    List.Forall₂ (fun x f => x.IsNamed ∧ x.Fills f ∧ f.content = x.text) (c.sources settings)
      (p.files.filter (·.path.endsWith (Text.ofString ".java"))) :=
  (List.forall₂_and_left _ _).2
    ⟨fun _ hx => Contract.isNamed_sources haccepted hx, sources_of_generate hs h⟩

/-- **What is written into comments stays there.** What is written of a text is one line without a
comment's end, and harmless if and only if the text is intact; a text without Unicode escapes is. In
a project that is generated with accepted settings, each source whose remarks are intact is read to
its tokens, with the comments of its data and no others. -/
theorem remarks_stay_in_comments (t : Text) :
    ((∀ s ∈ JavaText.comment t, s.isBlank = true → s = .char ' ') ∧
      ¬Text.ofString "*/" <:+: JavaText.comment t ∧
      (Harmless (JavaText.comment t) ↔ Intact t.flatten) ∧
      (¬Text.ofString "\\u" <:+: t → Harmless (JavaText.comment t))) ∧
    (settings.check = .ok settings → s.IsBundled →
      (generate TemplateDirectory.bundled settings trace c).outcome s = .ok p →
        List.Forall₂ (fun x f => x.Fills f ∧ x.tokens.filter Token.isMark = x.marks ∧
            ((∀ t ∈ x.remarks, Intact t.flatten) → read f.content = some x.tokens))
          (c.sources settings) (p.files.filter (·.path.endsWith (Text.ofString ".java")))) := by
  refine ⟨⟨fun s hs => eq_space_of_mem_comment hs, not_infix_comment t,
    harmless_comment_iff t, harmless_comment_of_no_escape⟩, ?_⟩
  intro haccepted hs h
  refine (named_sources_of_generate haccepted hs h).imp fun x f hx => ?_
  obtain ⟨hnamed, hfills, hcontent⟩ := hx
  exact ⟨hfills, filter_tokens hnamed, fun hintact => hcontent ▸ read_source hnamed hintact⟩

theorem remarks_stay_in_comments_petContract :
    ∃ p f rest,
      (generate TemplateDirectory.bundled .default "t" petContract).outcome .fresh = .ok p ∧
      p.files.filter (·.path.endsWith (Text.ofString ".java")) = f :: rest ∧
      ∃ toks, read f.content = some toks ∧ toks.filter Token.isMark =
        [.comment, .literal "api.baseUrl", .literal defaultBaseUrl] := by
  have hmade := outcome_generate_petContract
  obtain ⟨f, rest, ⟨-, hmarks, hread⟩, -, hfiles⟩ := List.forall₂_cons_left_iff.1
    ((remarks_stay_in_comments []).2 suits_default.accepted isBundled_fresh hmade)
  have hintact : ∀ t ∈ (Context.fixture (petContract.fixture .default)).remarks,
      Intact t.flatten := by
    refine List.forall_mem_cons.2 ⟨?_, List.forall_mem_singleton.2 ?_⟩
    all_goals exact (harmless_comment_iff _).1 (harmless_comment_of_no_escape (by decide))
  exact ⟨_, f, rest, hmade, hfiles, _, hread hintact, hmarks⟩

/-- Unicode escapes are written into comments as they are. One that stands for an asterisk ends the
comment, so that what follows is read as code, and one that is malformed breaks the source. -/
theorem comment_keeps_escapes :
    ¬Harmless (JavaText.comment "\\u002a/") ∧
    read (Text.ofString "/* " ++ JavaText.comment "\\u002a/" ++ Text.ofString " */") =
      some [.comment, .code (.char ' '), .code (.char '*'), .code (.char '/')] ∧
    read (Text.ofString "/* " ++ JavaText.comment "C:\\users" ++ Text.ofString " */") = none := by
  refine ⟨?_, by decide +kernel, by decide +kernel⟩
  rintro ⟨us, hus, hend⟩
  have hinputs : inputs (JavaText.comment "\\u002a/") =
      some [⟨.char '*', true⟩, .raw (.char '/')] := by
    decide +kernel
  rw [hinputs] at hus
  obtain rfl := Option.some.inj hus
  exact hend (by decide)

/-- **What is written into literals keeps its value.** The text of a literal is what five
replacements make of its value, and different values have different texts. Between double quotes it
is read as one literal with this value, alone and wherever code is read; it has no line break, and
each double quote in it stands behind a backslash that is written for it. In a project that is
generated with accepted settings, the literals of each source are those of its data, whatever is
written into its comments; if that is intact, they are read from the file. -/
theorem values_stay_in_literals :
    Function.Injective JavaText.literal ∧
    (∀ t : Text, JavaText.literal t = Text.replace "\t" "\\t" (Text.replace "\r" "\\r"
        (Text.replace "\n" "\\n" (Text.replace "\"" "\\\"" (Text.replace "\\" "\\\\" t)))) ∧
      read (quoted t) = some [.literal t] ∧
      (∀ before toks s rest, scan advance (.none, .code) before = some (toks, (.none, .code)) →
        s ≠ .char '"' → s ≠ .char '\\' →
          scan advance (.none, .code) (before ++ quoted t ++ s :: rest) =
            (scan advance (.none, .code) (s :: rest)).map fun x =>
              (toks ++ .literal t :: x.1, x.2)) ∧
      .char '\n' ∉ JavaText.literal t ∧ .char '\r' ∉ JavaText.literal t ∧
      (∀ before after, JavaText.literal t = before ++ .char '"' :: after →
        ∃ u v, t = u ++ .char '"' :: v ∧ before = JavaText.literal u ++ [.char '\\'] ∧
          after = JavaText.literal v)) ∧
    ∀ {settings : Settings} {trace : TraceId} {c : Contract} {s : Session} {p : Project},
      settings.check = .ok settings → s.IsBundled →
      (generate TemplateDirectory.bundled settings trace c).outcome s = .ok p →
        List.Forall₂ (fun x f => x.Fills f ∧ x.tokens.filter Token.isMark = x.marks ∧
            (∃ t, Template.renderPieces false x.scope (silence x.template.template) = .ok t ∧
              read t = some x.tokens) ∧
            ((∀ t ∈ x.remarks, Intact t.flatten) → read f.content = some x.tokens))
          (c.sources settings) (p.files.filter (·.path.endsWith (Text.ofString ".java"))) := by
  refine ⟨literal_injective, fun t => ⟨literal_eq_replace t, read_quoted t, ?_,
    not_mem_literal (.inl rfl) t, not_mem_literal (.inr rfl) t,
    fun before after h => exists_of_literal h⟩, ?_⟩
  · intro before toks s rest hbefore hquote hbackslash
    rw [List.append_assoc, scan_append_of_eq hbefore, scan_quoted t rest hquote hbackslash,
      Option.map_map]
    rfl
  · intro settings trace c s p haccepted hs h
    refine (named_sources_of_generate haccepted hs h).imp fun x f hx => ?_
    obtain ⟨hnamed, hfills, hcontent⟩ := hx
    exact ⟨hfills, filter_tokens hnamed, read_silence hnamed,
      fun hintact => hcontent ▸ read_source hnamed hintact⟩

/-- A contract with one endpoint, whose path has a double quote in it. -/
def quotedContract : Contract := listContract "Pets" ["/a\"b"]

/-- The test class of its endpoint. -/
def quotedClass : TestClassContext :=
  .ofGroup .default defaultBaseUrl "a\"b" (endpointsOf quotedContract.endpoints "a\"b")

theorem sources_quotedContract : quotedContract.sources .default =
    [.fixture (quotedContract.fixture .default), .testClass quotedClass] := by
  have hgroups : groupsOf quotedContract.endpoints = [Text.ofString "a\"b"] := by decide +kernel
  rw [Contract.sources, Contract.testClasses_eq, hgroups]
  rfl

theorem values_stay_in_literals_quotedContract :
    ∃ p fixture test,
      (generate TemplateDirectory.bundled .default "t" quotedContract).outcome .fresh = .ok p ∧
      p.files.filter (·.path.endsWith (Text.ofString ".java")) = [fixture, test] ∧
      ∃ toks, read test.content = some toks ∧
        toks.filter Token.isMark = [.comment, .comment, .literal "/a\"b"] := by
  have hmade : (generate TemplateDirectory.bundled .default "t" quotedContract).outcome .fresh =
      .ok _ :=
    outcome_generate_listContract _ _ (by decide +kernel) (by decide)
  have hforall := values_stay_in_literals.2.2 suits_default.accepted isBundled_fresh hmade
  rw [sources_quotedContract] at hforall
  obtain ⟨fixture, _, -, hrest, hfiles⟩ := List.forall₂_cons_left_iff.1 hforall
  obtain ⟨test, _, ⟨-, hmarks, -, hread⟩, hnone, rfl⟩ := List.forall₂_cons_left_iff.1 hrest
  obtain rfl := List.forall₂_nil_left_iff.1 hnone
  have hremarks : ∀ t ∈ (Context.testClass quotedClass).remarks, ¬Text.ofString "\\u" <:+: t := by
    decide +kernel
  have hintact := fun t ht =>
    (harmless_comment_iff t).1 (harmless_comment_of_no_escape (hremarks t ht))
  have hvalues : (Context.testClass quotedClass).marks =
      [.comment, .comment, .literal "/a\"b"] := by
    decide +kernel
  exact ⟨_, fixture, test, hmade, hfiles, _, hread hintact, hmarks.trans hvalues⟩

end Suites

end SuiteForge
