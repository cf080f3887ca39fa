/-
# Packages that are declared

The class that all test classes extend declares its package on its first line and nothing like it on
any other (`hasPackage_fixture`), whatever the texts of the contract. The check of sources wants an
ASCII letter or an underscore first and word symbols and dots behind it (`IsPackageName`), while
settings accept identifiers of every script. So a suite of some settings passes this check for every
contract, or for none.
-/

import SuiteForge.Proofs.Java.Comments
import SuiteForge.Proofs.Java.Literals
import SuiteForge.Proofs.Suite.Containment

namespace SuiteForge

/-! ## Declarations of packages -/

namespace JavaSource

/-- A text that begins with the keyword of a package, or may be continued to one that does. -/
def mayBeginPackage (t : Text) : Bool :=
  t.isPrefixOf (Text.ofString "package") || (Text.ofString "package").isPrefixOf t

theorem startsWith_of_beginsPackage {t : Text} (h : beginsPackage t = true) :
    Text.ofString "package" <+: t := by
  unfold beginsPackage afterKeyword? at h
  by_cases hstarts : t.startsWith (Text.ofString "package") = true
  · exact List.isPrefixOf_iff_prefix.1 hstarts
  · simp [hstarts] at h

theorem beginsPackage_append_eq_false {t : Text} (h : mayBeginPackage t = false) (rest : Text) :
    beginsPackage (t ++ rest) = false := by
  rw [mayBeginPackage, Bool.or_eq_false_iff] at h
  refine Bool.eq_false_iff.2 fun hbegins => ?_
  rcases List.prefix_or_prefix_of_prefix (startsWith_of_beginsPackage hbegins)
    (List.prefix_append t rest) with hkeyword | ht
  · rw [List.isPrefixOf_iff_prefix.2 hkeyword] at h
    cases h.2
  · rw [List.isPrefixOf_iff_prefix.2 ht] at h
    cases h.1

section Edges

variable {here : Bool} {t rest : Text}

/-- Nothing is found in a text no line of which may begin with the keyword, its last line included,
which is continued by what follows. -/
theorem anywhere_append_of_quiet
    (h : anywhere (· == .char '\n') mayBeginPackage here t = false) :
    anywhere (· == .char '\n') beginsPackage here (t ++ rest) =
      anywhere (· == .char '\n') beginsPackage false rest := by
  induction t generalizing here with
  | nil =>
    obtain rfl : here = false := by simpa [anywhere, mayBeginPackage] using h
    rfl
  | cons s t ih =>
    rw [anywhere, Bool.or_eq_false_iff] at h
    rw [List.cons_append, anywhere, ih h.2]
    cases here with
    | false => rw [Bool.false_and, Bool.false_or]
    | true =>
      rw [Bool.true_and] at h
      have hbegins := beginsPackage_append_eq_false h.1 rest
      rw [List.cons_append] at hbegins
      rw [hbegins, Bool.and_false, Bool.false_or]

/-- Nothing is found in the rest of a line. -/
theorem anywhere_append_of_not_mem {p : Text → Bool} (h : .char '\n' ∉ t) :
    anywhere (· == .char '\n') p false (t ++ rest) =
      anywhere (· == .char '\n') p false rest := by
  induction t with
  | nil => rfl
  | cons s t ih =>
    obtain ⟨hs, ht⟩ := not_or.1 (mt List.mem_cons.2 h)
    rw [List.cons_append, anywhere, Bool.false_and, Bool.false_or,
      beq_false_of_ne (Ne.symm hs), ih ht]

end Edges

end JavaSource

/-! ## Names of packages -/

/-- The name of a package that is accepted is not empty, and begins with no blank. -/
theorem exists_first_of_isPackage {t : Text} (h : Settings.isPackage t = true) :
    ∃ first rest, t = first :: rest ∧ first.isBlank = false := by
  cases t with
  | nil => exact absurd h (by decide)
  | cons first rest =>
    exact ⟨first, rest, rfl, (isPlain_of_isPackage h first List.mem_cons_self).isBlank_eq_false⟩

/-- A subpackage is as its package. -/
theorem isPackageName_subpackage_iff {s : Settings} (h : s.basePackage ≠ []) {name : Text}
    (hname : ∀ x ∈ name, (x.isWord || x == .char '.') = true) :
    IsPackageName (s.subpackage name) ↔ IsPackageName s.basePackage := by
  refine ⟨fun hsub => ?_, fun hbase => hbase.subpackage hname⟩
  obtain ⟨first, more, hbase⟩ := List.exists_cons_of_ne_nil h
  obtain ⟨start, rest, heq, hstart, hrest⟩ := hsub
  rw [Settings.subpackage, hbase, List.cons_append, List.cons_append, List.cons.injEq] at heq
  obtain ⟨rfl, rfl⟩ := heq
  exact ⟨first, more, hbase, hstart, fun x hx => hrest x (by simp [hx])⟩

/-! ## The class that all test classes extend -/

/-- The text of the class begins with the declaration of its package, and no later line begins with
one. -/
theorem exists_text_fixture (b : FixtureContext) : ∃ rest, (Context.fixture b).text =
      Text.ofString "package " ++ (b.package ++ rest) ∧ [.char ';'] <+: rest ∧
    JavaSource.anywhere (· == .char '\n') JavaSource.beginsPackage false rest = false := by
  have hrender : Template.renderPieces false b.scope Bundled.fixture = .ok (Context.fixture b).text :=
    (Context.fixture b).render_template
  rw [spelledFixture.eq_pieces] at hrender
  -- Piece by piece: the package, then the title, the version and the URL between fixed texts.
  obtain ⟨t₁, h₁, htext⟩ := JavaSource.exists_of_text_output rfl hrender
  obtain ⟨t₂, h₂, rfl⟩ := JavaSource.exists_of_text h₁
  obtain ⟨t₃, h₃, rfl⟩ := JavaSource.exists_of_text h₂
  obtain ⟨t₄, h₄, rfl⟩ := JavaSource.exists_of_output rfl h₃
  obtain ⟨t₅, h₅, rfl⟩ := JavaSource.exists_of_text h₄
  obtain ⟨t₆, h₆, rfl⟩ := JavaSource.exists_of_output rfl h₅
  obtain ⟨t₇, h₇, rfl⟩ := JavaSource.exists_of_text h₆
  obtain ⟨t₈, h₈, rfl⟩ := JavaSource.exists_of_text h₇
  obtain ⟨t₉, h₉, rfl⟩ := JavaSource.exists_of_output rfl h₈
  cases h₉
  have htitle : .char '\n' ∉ Template.emit false [.javadoc] (.text b.apiTitle) :=
    Java.newline_not_mem_comment b.apiTitle
  have hversion : .char '\n' ∉ Template.emit false [.javadoc] (.text b.apiVersion) :=
    Java.newline_not_mem_comment b.apiVersion
  have hurl : .char '\n' ∉ Template.emit false [.javaString] (.text b.baseUrl) :=
    Java.not_mem_literal (.inl rfl) b.baseUrl
  refine ⟨_, htext, List.IsPrefix.trans (by decide) (List.prefix_append _ _), ?_⟩
  -- A text that ends with a line is taken with the one behind it, which tells how the next begins.
  rw [← List.append_assoc, JavaSource.anywhere_append_of_quiet (by decide +kernel),
    JavaSource.anywhere_append_of_not_mem htitle, JavaSource.anywhere_append_of_not_mem (by decide),
    JavaSource.anywhere_append_of_not_mem hversion, ← List.append_assoc,
    JavaSource.anywhere_append_of_quiet (by decide +kernel),
    JavaSource.anywhere_append_of_not_mem hurl]
  decide +kernel

/-- **The class declares its package** where its name is one that may be declared. -/
theorem hasPackage_fixture {b : FixtureContext} (h : Settings.isPackage b.package = true) :
    JavaSource.hasPackage (Context.fixture b).text = true ↔ IsPackageName b.package := by
  obtain ⟨_, htext, ⟨rest, rfl⟩, hrest⟩ := exists_text_fixture b
  obtain ⟨first, more, hpackage, hblank⟩ := exists_first_of_isPackage h
  have hdotted : IsDotted b.package := isDotted_of_isPackage h
  have hline : .char '\n' ∉ b.package := hdotted.not_mem (by decide) (by decide)
  have hmark : .char ';' ∉ first :: more := hpackage ▸ hdotted.not_mem (by decide) (by decide)
  have hlater : JavaSource.anywhere (· == .char '\n') JavaSource.beginsPackage false
      (Text.ofString "ackage " ++ (b.package ++ ([Symbol.char ';'] ++ rest))) = false := by
    rw [JavaSource.anywhere_append_of_not_mem (by decide),
      JavaSource.anywhere_append_of_not_mem hline, hrest]
  have hfirst : JavaSource.hasPackage (Context.fixture b).text =
      (JavaSource.beginsPackage (Text.ofString "package " ++
        (b.package ++ ([Symbol.char ';'] ++ rest))) || JavaSource.anywhere (· == .char '\n')
          JavaSource.beginsPackage false
            (Text.ofString "ackage " ++ (b.package ++ ([Symbol.char ';'] ++ rest)))) := by
    have hkeyword : Text.ofString "package " = .char 'p' :: Text.ofString "ackage " := by decide
    rw [JavaSource.hasPackage, htext, hkeyword, List.cons_append, JavaSource.anywhere,
      Bool.true_and]
    rfl
  rw [hfirst, hlater, Bool.or_false, hpackage]
  exact JavaSource.beginsPackage_iff rest hblank hmark

/-! ## Suites -/

section Suites

variable {settings : Settings} {c : Contract}

theorem hasPackage_baseFile (h : settings.check = .ok settings) (c : Contract) :
    JavaSource.hasPackage (c.baseFile settings).content = true ↔
      IsPackageName settings.basePackage := by
  have hbase : Settings.isPackage settings.basePackage = true := (Settings.check_eq_ok.1 h).1
  obtain ⟨first, more, hcons, -⟩ := exists_first_of_isPackage hbase
  exact (hasPackage_fixture (b := c.fixture settings) (isPackage_subpackage hbase (by decide))).trans
    (isPackageName_subpackage_iff (by simp [hcons]) (by decide))

theorem isJavaFile_baseFile (c : Contract) (settings : Settings) :
    Report.isJavaFile (c.baseFile settings) = true := by
  obtain ⟨rest, htext, -⟩ := exists_text_fixture (c.fixture settings)
  have hblank : (c.baseFile settings).content.isBlank = false := by
    rw [Contract.baseFile, htext]
    rfl
  have hpath : (c.baseFile settings).path.endsWith (Text.ofString ".java") = true :=
    endsWith_sourcePath _ _
  simp [Report.isJavaFile, hpath, hblank]

theorem baseFile_mem (c : Contract) (settings : Settings) :
    c.baseFile settings ∈ (c.tasks settings).map Task.file := by
  simp [map_file_tasks]

/-- The class that all test classes extend is reported where the name may not be declared. -/
theorem javaFault?_baseFile (h : settings.check = .ok settings)
    (hname : ¬IsPackageName settings.basePackage) (c : Contract) :
    Report.javaFault? (c.baseFile settings) = some .noPackage := by
  rw [← hasPackage_baseFile h c, Bool.not_eq_true] at hname
  rw [Report.javaFault?, hname]
  rfl

/-- **No source of a suite is reported** if and only if the name of the base package may be
declared. -/
theorem ofJava_tasks_eq_nil (h : settings.check = .ok settings) (c : Contract) :
    Report.ofJava ((c.tasks settings).map Task.file) = [] ↔ IsPackageName settings.basePackage := by
  rw [Report.ofJava_eq_nil]
  constructor
  · intro hnone
    by_contra hname
    have hfault := hnone _ (baseFile_mem c settings) (isJavaFile_baseFile c settings)
    rw [javaFault?_baseFile h hname c] at hfault
    cases hfault
  · intro hname
    refine List.forall_mem_map.2 fun t ht hjava => ?_
    rcases task_cases hname ht with rfl | rfl | hsource
    · rw [isJavaFile_descriptor] at hjava
      cases hjava
    · rw [isJavaFile_suite] at hjava
      cases hjava
    · exact javaFault?_of_isSource hsource

/-- No suite is made where the name may not be declared. -/
theorem generate_ne_ok (trace : TraceId) (h : settings.check = .ok settings) {s : Session}
    (hs : s.IsBundled) (hname : ¬IsPackageName settings.basePackage) (c : Contract) (p : Project) :
    (generate TemplateDirectory.bundled settings trace c).outcome s ≠ .ok p := by
  intro hmade
  rw [outcome_generate trace h hs] at hmade
  exact hname ((ofJava_tasks_eq_nil h c).1 (Report.nil_of_ofFiles (ofFiles_of_assemble hmade)).2)

/-- The fault of the class that all test classes extend is among those that the generation ends
with, unless paths clash or an XML file cannot be encoded. -/
theorem generate_reports (trace : TraceId) (h : settings.check = .ok settings) {s : Session}
    (hs : s.IsBundled) (hname : ¬IsPackageName settings.basePackage) (hgroups : ¬c.GroupsClash)
    (hschemas : ¬c.SchemasClash) (hencodes : c.Encodes settings) :
    ∃ report, (generate TemplateDirectory.bundled settings trace c).outcome s =
        .error (.generation (.inconsistent (c.projectName settings) report)) ∧
      ((c.baseFile settings).path, .noPackage) ∈ report := by
  have hnodup : ((c.tasks settings).map (·.path)).Nodup := (nodup_paths c settings).2
    ⟨(Contract.nodup_models c settings).2 hschemas, (Contract.nodup_testClasses c settings).2 hgroups⟩
  have hpaths : (((c.tasks settings).map Task.file).map (·.path)).Nodup := by rwa [List.map_map]
  obtain ⟨report, hreport, -⟩ := Report.exists_ofFiles (isSome_chars?_of_encodes h hencodes)
  have hmem := Report.mem_of_ofFiles hpaths (baseFile_mem c settings)
    (isJavaFile_baseFile c settings) (javaFault?_baseFile h hname c) hreport
  rw [outcome_generate trace h hs]
  exact ⟨report, assemble_of_report (files_ne_nil c settings) hreport (List.ne_nil_of_mem hmem), hmem⟩

/-- **Which settings pass the check of sources.** Settings with an accepted base package pass it for
every contract if the package's name begins with an ASCII letter or an underscore and goes on with
word symbols and dots. With any other accepted name they pass it for none: no suite is made,
whatever the contract, and the class that all test classes extend is reported to have no package. -/
theorem sources_pass_iff (trace : TraceId) (h : settings.check = .ok settings) {s : Session}
    (hs : s.IsBundled) (c : Contract) :
    (Report.ofJava ((c.tasks settings).map Task.file) = [] ↔ IsPackageName settings.basePackage) ∧
    (¬IsPackageName settings.basePackage →
      (∀ p, (generate TemplateDirectory.bundled settings trace c).outcome s ≠ .ok p) ∧
      (¬c.GroupsClash → ¬c.SchemasClash → c.Encodes settings →
        ∃ report, (generate TemplateDirectory.bundled settings trace c).outcome s =
            .error (.generation (.inconsistent (c.projectName settings) report)) ∧
          ((c.baseFile settings).path, .noPackage) ∈ report)) :=
  ⟨ofJava_tasks_eq_nil h c, fun hname => ⟨generate_ne_ok trace h hs hname c,
    fun hgroups hschemas hencodes => generate_reports trace h hs hname hgroups hschemas hencodes⟩⟩

end Suites

/-- Default settings, but for the base package, which begins with a letter of another script. -/
def accentedSettings : Settings := { Settings.default with basePackage := "été" }

theorem check_accentedSettings : accentedSettings.check = .ok accentedSettings :=
  Settings.check_eq_ok.2 ⟨by decide +kernel, rfl⟩

theorem not_isPackageName_accentedSettings : ¬IsPackageName accentedSettings.basePackage := by
  rintro ⟨first, rest, heq, hfirst, -⟩
  obtain rfl : first = .char 'é' := (List.cons.inj heq).1.symm
  cases hfirst

theorem sources_pass_iff_listContract :
    Report.ofJava (((listContract "Pets" ["/pets"]).tasks .default).map Task.file) = [] ∧
    ∃ report, (generate TemplateDirectory.bundled accentedSettings "t"
        (listContract "Pets" ["/pets"])).outcome .fresh =
          .error (.generation (.inconsistent "pets-tests" report)) ∧
      (Text.ofString "src/test/java/été/base/BaseTest.java", .noPackage) ∈ report := by
  obtain ⟨hpass, -⟩ := sources_pass_iff "t" suits_default.accepted isBundled_fresh
    (listContract "Pets" ["/pets"])
  obtain ⟨-, hfail⟩ := sources_pass_iff "t" check_accentedSettings isBundled_fresh
    (listContract "Pets" ["/pets"])
  obtain ⟨-, hreports⟩ := hfail not_isPackageName_accentedSettings
  have hgroups : ¬(listContract "Pets" ["/pets"]).GroupsClash :=
    (Contract.nodup_testClasses _ .default).1 (by decide +kernel)
  have hencodes : (listContract "Pets" ["/pets"]).Encodes accentedSettings :=
    ⟨Xml.encodable_ofString "Pets", Xml.encodable_ofString "1.0.0",
      Xml.encodable_ofString "com.automation", Xml.encodable_ofString "-tests"⟩
  obtain ⟨report, hreport, hmem⟩ :=
    hreports hgroups (not_schemasClash_listContract _ _) hencodes
  have hname : (listContract "Pets" ["/pets"]).projectName accentedSettings =
      Text.ofString "pets-tests" := by
    decide +kernel
  have hpath : ((listContract "Pets" ["/pets"]).baseFile accentedSettings).path =
      Text.ofString "src/test/java/été/base/BaseTest.java" := by
    show sourcePath _ _ = _
    decide +kernel
  rw [hname] at hreport
  rw [hpath] at hmem
  exact ⟨hpass.2 suits_default.isPackageName, report, hreport, hmem⟩

/-- An accepted package of another script: no suite is made with it, of no contract. -/
theorem sources_not_pass :
    accentedSettings.check = .ok accentedSettings ∧
    (∀ trace c p, (generate TemplateDirectory.bundled accentedSettings trace c).outcome .fresh ≠
      .ok p) ∧
    ¬∀ settings : Settings, settings.check = .ok settings → ∀ c : Contract,
      Report.ofJava ((c.tasks settings).map Task.file) = [] := by
  refine ⟨check_accentedSettings, fun trace => generate_ne_ok trace check_accentedSettings
    isBundled_fresh not_isPackageName_accentedSettings, fun hall => ?_⟩
  have hpass := hall _ check_accentedSettings (listContract "Pets" ["/pets"])
  exact not_isPackageName_accentedSettings ((ofJava_tasks_eq_nil check_accentedSettings _).1 hpass)

end SuiteForge
