/-
# When a suite is not made

Generating a suite comes to putting together the files of its plan (`outcome_generate`), and
these are in order if and only if the classes do not clash and title and version may stand in a
document (`clean_files`). The other texts of a contract cannot harm: those that reach an XML file
are made of symbols that may stand there, and of a source only its first lines count.
-/

import SuiteForge.Proofs.Suite.Clashes
import SuiteForge.Proofs.Suite.Documents
import SuiteForge.Proofs.Suite.Paths
import SuiteForge.Proofs.Suite.Reports

namespace SuiteForge

/-! ## Symbols of names -/

theorem isLegalCode_of_wordRanges : ∀ r ∈ wordRanges, 0x20 ≤ r.1 ∧
    (r.2 < 0xD800 ∨ (0xE000 ≤ r.1 ∧ r.2 < 0xFFFE) ∨ (0x10000 ≤ r.1 ∧ r.2 < 0x110000)) := by
  decide +kernel

theorem isLegal_iff {s : Symbol} : Xml.isLegal s = true ↔
    s.code = 0x9 ∨ s.code = 0xA ∨ s.code = 0xD ∨ (0x20 ≤ s.code ∧ s.code < 0xD800) ∨
      (0xE000 ≤ s.code ∧ s.code < 0xFFFE) ∨ (0x10000 ≤ s.code ∧ s.code < 0x110000) := by
  simp [Xml.isLegal, Xml.isLegalCode, or_assoc]

theorem isLegal_of_isWord {s : Symbol} (h : s.isWord = true) : Xml.isLegal s = true := by
  rw [isLegal_iff]
  rw [Symbol.isWord] at h
  split at h
  · rw [Bool.or_eq_true, isAsciiAlnum_iff, isAsciiLetter_iff, beq_iff_eq] at h
    omega
  · obtain ⟨r, hr, hin⟩ := List.any_eq_true.1 h
    have hbounds := isLegalCode_of_wordRanges r hr
    have hrange : r.1 ≤ s.code ∧ s.code ≤ r.2 := of_decide_eq_true hin
    omega

theorem isLegal_of_isSlugSymbol {s : Symbol} (h : isSlugSymbol s = true) :
    Xml.isLegal s = true :=
  isLegal_of_isWord (Symbol.isWord_of_isAsciiAlnum (isAsciiAlnum_of_isSlugSymbol h))

theorem isLegal_className {name : Text} (h : IsClassName name) :
    ∀ x ∈ name, Xml.isLegal x = true :=
  fun x hx => isLegal_of_isWord (Symbol.isWord_of_isAsciiAlnum (h.alnum x hx))

theorem isLegal_package {package : Text} (h : IsPackageName package) :
    ∀ x ∈ package, Xml.isLegal x = true := by
  intro x hx
  have hsymbol := h.symbols x hx
  rw [Bool.or_eq_true, beq_iff_eq] at hsymbol
  rcases hsymbol with hword | rfl
  · exact isLegal_of_isWord hword
  · decide

/-! ## Settings and contracts -/

/-- Accepted settings whose texts may stand in every file. -/
structure Settings.Suits (settings : Settings) : Prop where
  accepted : settings.check = .ok settings
  ascii : settings.basePackage.isAscii = true
  groupId : ∀ x ∈ settings.groupId, Xml.isLegal x = true
  projectSuffix : ∀ x ∈ settings.projectSuffix, Xml.isLegal x = true

theorem Settings.Suits.isPackageName {settings : Settings} (h : settings.Suits) :
    IsPackageName settings.basePackage :=
  isPackageName_of_isPackage (Settings.check_eq_ok.1 h.accepted).1 h.ascii

/-- Title and version may stand in a document. -/
structure Contract.IsLegal (c : Contract) : Prop where
  title : ∀ x ∈ c.title, Xml.isLegal x = true
  version : ∀ x ∈ c.version, Xml.isLegal x = true

/-- No lone surrogate stands in title and version. -/
structure Contract.IsEncodable (c : Contract) : Prop where
  title : Xml.Encodable c.title
  version : Xml.Encodable c.version

section Files

variable {c : Contract} {settings : Settings}

theorem isLegal_projectName (h : settings.Suits) :
    ∀ x ∈ c.projectName settings, Xml.isLegal x = true := by
  obtain ⟨first, rest, heq, hfirst, hrest⟩ := projectName_eq c.title settings.projectSuffix
  rw [Contract.projectName, heq]
  refine List.forall_mem_cons.2 ⟨isLegal_of_isSlugSymbol hfirst,
    List.forall_mem_append.2 ⟨fun x hx => ?_, h.projectSuffix⟩⟩
  have hsymbol := hrest x hx
  rw [Bool.or_eq_true, beq_iff_eq] at hsymbol
  rcases hsymbol with hslug | rfl
  · exact isLegal_of_isSlugSymbol hslug
  · decide

theorem isBlank_projectName (c : Contract) (settings : Settings) :
    (c.projectName settings).isBlank = false := by
  obtain ⟨first, rest, heq, hfirst, -⟩ := projectName_eq c.title settings.projectSuffix
  rw [Contract.projectName, heq, Text.isBlank, List.all_cons,
    isBlank_of_isAsciiAlnum (isAsciiAlnum_of_isSlugSymbol hfirst), Bool.false_and]

theorem isLegal_testClasses (h : settings.Suits) :
    ∀ name ∈ (c.suite settings).testClasses, ∀ x ∈ name, Xml.isLegal x = true := by
  intro name hname
  obtain ⟨g, -, rfl⟩ := List.mem_map.1 hname
  have hpackage : IsPackageName settings.testPackage := h.isPackageName.subpackage (by decide)
  have hdot : ∀ x ∈ Text.ofString ".", Xml.isLegal x = true := by decide
  exact List.forall_mem_append.2 ⟨List.forall_mem_append.2 ⟨isLegal_package hpackage, hdot⟩,
    isLegal_className (isClassName_testClassName g.1)⟩

/-! ## Files -/

theorem isXmlFile_sourcePath {package name content : Text} :
    Report.isXmlFile ⟨sourcePath package name, content⟩ = false := by
  rw [Bool.eq_false_iff]
  intro h
  have hxml : Text.ofString ".xml" <:+ sourcePath package name := List.isSuffixOf_iff_suffix.1 h
  have hjava : Text.ofString ".java" <:+ sourcePath package name := List.suffix_append _ _
  exact absurd (List.suffix_of_suffix_length_le hxml hjava (by decide)) (by decide)

theorem isXmlFile_descriptor (d : DescriptorContext) :
    Report.isXmlFile (Task.ofDescriptor d).file = true := by
  show Text.endsWith (Text.ofString "pom.xml") (Text.ofString ".xml") = true
  decide

theorem isJavaFile_descriptor (d : DescriptorContext) :
    Report.isJavaFile (Task.ofDescriptor d).file = false := by
  have hpath : Text.endsWith (Text.ofString "pom.xml") (Text.ofString ".java") = false := by decide
  show (Text.endsWith (Text.ofString "pom.xml") (Text.ofString ".java") && _) = false
  rw [hpath, Bool.false_and]

theorem isJavaFile_suite (d : SuiteContext) :
    Report.isJavaFile (Task.ofSuite d).file = false := by
  have hpath : Text.endsWith (Text.ofString "testng.xml") (Text.ofString ".java") = false := by
    decide
  show (Text.endsWith (Text.ofString "testng.xml") (Text.ofString ".java") && _) = false
  rw [hpath, Bool.false_and]

theorem isXmlFile_of_isSource {t : Task} (h : t.IsSource) : Report.isXmlFile t.file = false := by
  obtain ⟨package, name, -, -, hpath⟩ := h.path
  rw [Task.file, hpath]
  exact isXmlFile_sourcePath

theorem javaFault?_of_isSource {t : Task} (h : t.IsSource) : Report.javaFault? t.file = none := by
  have hpackage : JavaSource.hasPackage t.file.content = true := h.declares.package
  have htype : JavaSource.hasType t.file.content = true := h.declares.type
  simp [Report.javaFault?, hpackage, htype]

/-- **The files of a suite are in order if and only if classes do not clash and title and version
may stand in a document.** -/
theorem clean_files (h : settings.Suits) (c : Contract) :
    Report.Clean ((c.tasks settings).map Task.file) ↔
      ¬c.GroupsClash ∧ ¬c.SchemasClash ∧ c.IsLegal := by
  have hpaths : ((c.tasks settings).map Task.file).map (·.path) =
      (c.tasks settings).map (·.path) := by
    rw [List.map_map]
    rfl
  have hdescriptor : Xml.isWellFormed (Context.descriptor (c.descriptor settings)).text = true ↔
      (∀ x ∈ c.title, Xml.isLegal x = true) ∧ ∀ x ∈ c.version, Xml.isLegal x = true :=
    Xml.isWellFormed_descriptor h.groupId (isLegal_projectName h) (isLegal_projectName h)
  constructor
  · intro hclean
    have hnodup := hclean.paths
    rw [hpaths, nodup_paths, Contract.nodup_models, Contract.nodup_testClasses] at hnodup
    have hmem : Task.ofDescriptor (c.descriptor settings) ∈ c.tasks settings := by
      simp [Contract.tasks, Contract.fixedTasks]
    have hwell : Xml.isWellFormed (Context.descriptor (c.descriptor settings)).text = true :=
      hclean.xml (Task.ofDescriptor (c.descriptor settings)).file (List.mem_map_of_mem hmem)
        (isXmlFile_descriptor _)
    have hlegal := hdescriptor.1 hwell
    exact ⟨hnodup.2, hnodup.1, hlegal.1, hlegal.2⟩
  · rintro ⟨hgroups, hschemas, hlegal⟩
    have hwell := hdescriptor.2 ⟨hlegal.title, hlegal.version⟩
    have hsuite : Xml.isWellFormed (Context.suite (c.suite settings)).text = true :=
      Xml.isWellFormed_suite (List.forall_mem_append.2 ⟨hlegal.title, by decide⟩)
        (List.forall_mem_append.2 ⟨hlegal.title, by decide⟩) (isLegal_testClasses h)
    refine ⟨?_, List.forall_mem_map.2 fun t ht => ?_, List.forall_mem_map.2 fun t ht => ?_⟩
    · rw [hpaths, nodup_paths, Contract.nodup_models, Contract.nodup_testClasses]
      exact ⟨hschemas, hgroups⟩
    · intro hxml
      rcases task_cases h.isPackageName ht with rfl | rfl | hsource
      · exact hwell
      · exact hsuite
      · rw [isXmlFile_of_isSource hsource] at hxml
        cases hxml
    · intro hjava
      rcases task_cases h.isPackageName ht with rfl | rfl | hsource
      · rw [isJavaFile_descriptor] at hjava
        cases hjava
      · rw [isJavaFile_suite] at hjava
        cases hjava
      · exact javaFault?_of_isSource hsource

theorem isSome_chars?_files (h : settings.Suits) (hc : c.IsEncodable) :
    ∀ f ∈ (c.tasks settings).map Task.file, Report.isXmlFile f = true →
      f.content.chars?.isSome = true := by
  refine List.forall_mem_map.2 fun t ht hxml => Xml.isSome_chars? ?_
  have hname : Xml.Encodable (c.projectName settings) :=
    Xml.encodable_of_isLegal (isLegal_projectName h)
  rcases task_cases h.isPackageName ht with rfl | rfl | hsource
  · exact Xml.encodable_descriptor (Xml.encodable_of_isLegal h.groupId) hname hname hc.title
      hc.version
  · exact Xml.encodable_suite (hc.title.append (Xml.encodable_ofString _))
      (hc.title.append (Xml.encodable_ofString _))
      fun name hmem => Xml.encodable_of_isLegal (isLegal_testClasses h name hmem)
  · rw [isXmlFile_of_isSource hsource] at hxml
    cases hxml

/-! ## Outcomes -/

variable {s : Session}

/-- Generating a suite comes to putting together the files of its plan. -/
theorem outcome_generate (trace : TraceId) (h : settings.check = .ok settings)
    (hs : s.IsBundled) :
    (generate TemplateDirectory.bundled settings trace c).outcome s =
      Project.assemble (c.projectName settings) ((c.tasks settings).map Task.file) := by
  have hbase : IsDotted settings.basePackage := isDotted_of_isPackage (Settings.check_eq_ok.1 h).1
  rw [(yields_generate settings trace c s hs).1, mapM_checked hbase]
  rfl

theorem files_ne_nil (c : Contract) (settings : Settings) :
    (c.tasks settings).map Task.file ≠ [] := by
  simp [Contract.tasks, Contract.fixedTasks]

/-- **A suite is made** where nothing stands against it. -/
theorem outcome_generate_of_clean (trace : TraceId) (h : settings.Suits) (hs : s.IsBundled)
    (hgroups : ¬c.GroupsClash) (hschemas : ¬c.SchemasClash) (hlegal : c.IsLegal) :
    (generate TemplateDirectory.bundled settings trace c).outcome s =
      .ok ⟨c.projectName settings, (c.tasks settings).map Task.file⟩ := by
  have hencodable : c.IsEncodable :=
    ⟨Xml.encodable_of_isLegal hlegal.title, Xml.encodable_of_isLegal hlegal.version⟩
  rw [outcome_generate trace h.accepted hs]
  exact assemble_of_clean (isBlank_projectName c settings) (files_ne_nil c settings)
    (isSome_chars?_files h hencodable) ((clean_files h c).2 ⟨hgroups, hschemas, hlegal⟩)

/-- A suite is not made where classes clash, or title or version may not stand in a document. -/
theorem outcome_generate_of_not_clean (trace : TraceId) (h : settings.Suits) (hs : s.IsBundled)
    (hc : c.IsEncodable) (hclean : ¬(¬c.GroupsClash ∧ ¬c.SchemasClash ∧ c.IsLegal)) :
    ∃ report, (generate TemplateDirectory.bundled settings trace c).outcome s =
      .error (.generation (.inconsistent (c.projectName settings) report)) := by
  rw [outcome_generate trace h.accepted hs]
  rw [← clean_files h c] at hclean
  exact assemble_of_not_clean (files_ne_nil c settings) (isSome_chars?_files h hc) hclean

theorem not_isLegal_iff : ¬c.IsLegal ↔
    (∃ x ∈ c.title, Xml.isLegal x = false) ∨ ∃ x ∈ c.version, Xml.isLegal x = false := by
  constructor
  · intro h
    by_contra hno
    rw [not_or] at hno
    refine h ⟨fun x hx => ?_, fun x hx => ?_⟩
    · by_contra hillegal
      exact hno.1 ⟨x, hx, Bool.eq_false_iff.2 hillegal⟩
    · by_contra hillegal
      exact hno.2 ⟨x, hx, Bool.eq_false_iff.2 hillegal⟩
  · rintro (⟨x, hx, hillegal⟩ | ⟨x, hx, hillegal⟩) hlegal
    · rw [hlegal.title x hx] at hillegal
      cases hillegal
    · rw [hlegal.version x hx] at hillegal
      cases hillegal

/-- **Exactly when a suite is not made.** With accepted settings whose texts may stand in every file,
generating fails with a fault of generation if and only if two groups of endpoints or two object
schemas have the same class, or title or version holds a symbol that no document may hold. In every
other case it makes a project; it never ends with a fault of a template. Of the contract's texts
only title and version must be free of lone surrogates. -/
theorem generate_fails_iff (trace : TraceId) (h : settings.Suits) (hs : s.IsBundled)
    (hc : c.IsEncodable) :
    ((∃ f, (generate TemplateDirectory.bundled settings trace c).outcome s =
        .error (.generation f)) ↔
      c.GroupsClash ∨ c.SchemasClash ∨
        (∃ x ∈ c.title, Xml.isLegal x = false) ∨ ∃ x ∈ c.version, Xml.isLegal x = false) ∧
    ((¬∃ f, (generate TemplateDirectory.bundled settings trace c).outcome s =
        .error (.generation f)) →
      ∃ p, (generate TemplateDirectory.bundled settings trace c).outcome s = .ok p) ∧
    ∀ f, (generate TemplateDirectory.bundled settings trace c).outcome s ≠ .error (.template f) := by
  have hfaulty : (c.GroupsClash ∨ c.SchemasClash ∨
      (∃ x ∈ c.title, Xml.isLegal x = false) ∨ ∃ x ∈ c.version, Xml.isLegal x = false) ↔
        ¬(¬c.GroupsClash ∧ ¬c.SchemasClash ∧ c.IsLegal) := by
    rw [← not_isLegal_iff]
    tauto
  rw [hfaulty]
  by_cases hclean : ¬c.GroupsClash ∧ ¬c.SchemasClash ∧ c.IsLegal
  · have hmade := outcome_generate_of_clean trace h hs hclean.1 hclean.2.1 hclean.2.2
    rw [hmade]
    refine ⟨iff_of_false ?_ (not_not_intro hclean), fun _ => ⟨_, rfl⟩, ?_⟩
    · rintro ⟨f, hf⟩
      cases hf
    · intro f hf
      cases hf
  · obtain ⟨report, hfailed⟩ := outcome_generate_of_not_clean trace h hs hc hclean
    rw [hfailed]
    refine ⟨iff_of_true ⟨_, rfl⟩ hclean, fun hno => absurd ⟨_, rfl⟩ hno, ?_⟩
    intro f hf
    cases hf

end Files

/-- A contract with a title, and an endpoint that lists what is below each of some paths. -/
def listContract (title : Text) (paths : List Text) : Contract where
  title := title
  version := "1.0.0"
  description := []
  baseUrl := defaultBaseUrl
  endpoints := paths.map fun path => ⟨path, .get, [], "list", [], none, [], ["200"]⟩
  schemas := []

theorem suits_default : Settings.default.Suits where
  accepted := Settings.check_eq_ok.2 ⟨by decide +kernel, rfl⟩
  ascii := by decide
  groupId := by decide
  projectSuffix := by decide

theorem isEncodable_listContract {title : Text} (h : Xml.Encodable title) (paths : List Text) :
    (listContract title paths).IsEncodable :=
  ⟨h, Xml.encodable_ofString "1.0.0"⟩

theorem not_schemasClash_listContract (title : Text) (paths : List Text) :
    ¬(listContract title paths).SchemasClash :=
  ((listContract title paths).nodup_models .default).1 List.nodup_nil

/-- A suite is made of such a contract if its classes differ and its title may stand in a
document. -/
theorem outcome_generate_listContract (title : Text) (paths : List Text)
    (hclasses : (((listContract title paths).testClasses .default).map (·.className)).Nodup)
    (htitle : ∀ x ∈ title, Xml.isLegal x = true) :
    (generate TemplateDirectory.bundled .default "t" (listContract title paths)).outcome .fresh =
      .ok ⟨(listContract title paths).projectName .default,
        ((listContract title paths).tasks .default).map Task.file⟩ := by
  have hgroups : ¬(listContract title paths).GroupsClash :=
    (Contract.nodup_testClasses _ .default).1 hclasses
  have hversion : ∀ x ∈ Text.ofString "1.0.0", Xml.isLegal x = true := by decide
  exact outcome_generate_of_clean "t" suits_default isBundled_fresh hgroups
    (not_schemasClash_listContract title paths) ⟨htitle, hversion⟩

theorem generate_fails_iff_listContract :
    (∃ f, (generate TemplateDirectory.bundled .default "t" (listContract "Pets" ["/pets", "/pets-"])
      ).outcome .fresh = .error (.generation f)) ∧
    (∃ f, (generate TemplateDirectory.bundled .default "t" (listContract "\x00" ["/pets"])
      ).outcome .fresh = .error (.generation f)) ∧
    ∃ p, (generate TemplateDirectory.bundled .default "t" (listContract "Pets" ["/pets", "/orders"])
      ).outcome .fresh = .ok p := by
  have hpets : ∀ paths, (listContract "Pets" paths).IsEncodable :=
    isEncodable_listContract (Xml.encodable_ofString "Pets")
  have hcontrol : (listContract "\x00" ["/pets"]).IsEncodable :=
    isEncodable_listContract (Xml.encodable_ofString "\x00") _
  have hclash : (listContract "Pets" ["/pets", "/pets-"]).GroupsClash :=
    ⟨_, List.mem_cons_self, _, List.mem_cons_of_mem _ List.mem_cons_self, by decide +kernel,
      by decide +kernel⟩
  refine ⟨(generate_fails_iff "t" suits_default isBundled_fresh (hpets _)).1.2 (.inl hclash),
    (generate_fails_iff "t" suits_default isBundled_fresh hcontrol).1.2
      (.inr (.inr (.inl ⟨_, List.mem_cons_self, by decide⟩))), ?_⟩
  obtain ⟨hfails, hmade, -⟩ := generate_fails_iff "t" suits_default isBundled_fresh
    (hpets ["/pets", "/orders"])
  refine hmade fun hfailed => ?_
  rcases hfails.1 hfailed with hgroups | hschemas | ⟨x, hx, hillegal⟩ | ⟨x, hx, hillegal⟩
  · have hnodup : (((listContract "Pets" ["/pets", "/orders"]).testClasses .default).map
        (·.className)).Nodup := by decide +kernel
    exact (Contract.nodup_testClasses _ _).1 hnodup hgroups
  · exact not_schemasClash_listContract _ _ hschemas
  · have hlegal : ∀ x ∈ Text.ofString "Pets", Xml.isLegal x = true := by decide
    rw [hlegal x hx] at hillegal
    cases hillegal
  · have hlegal : ∀ x ∈ Text.ofString "1.0.0", Xml.isLegal x = true := by decide
    rw [hlegal x hx] at hillegal
    cases hillegal

end SuiteForge
