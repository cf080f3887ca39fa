/-
# Where the files of a suite stand

The names of a suite are made in several places: in paths, in what templates are rendered with, and
in the templates themselves. In a project that is generated they agree (`generate_layout`): every
source stands where its package and its class say, every test class imports the class that is there
to be extended, and the list of the test classes names the files of the test classes.

| files, in this order | path |
| --- | --- |
| build file | `pom.xml` |
| list of the test classes | `testng.xml` |
| class that all test classes extend | below `base` |
| model classes | below `model` |
| test classes | below `tests` |
-/

import SuiteForge.Proofs.Suite.Lines
import SuiteForge.Proofs.Suite.Methods

namespace SuiteForge

/-! ## Sources in their places -/

/-- A file is the source of a class of a package: it stands in the directory of the package under
the name of the class, and declares both. -/
structure ProjectFile.IsSourceOf (f : ProjectFile) (package name : Text) : Prop where
  path : f.path = Text.ofString "src/test/java/" ++
    Text.replaceSymbol (.char '.') (Text.ofString "/") package ++ Text.ofString "/" ++ name ++
      Text.ofString ".java"
  declares : DeclaresClass f.content package name

/-- A file is the source of a class whose qualified name this is. -/
def ProjectFile.IsSourceOfQualified (f : ProjectFile) (q : Text) : Prop :=
  ∃ package name, q = package ++ Text.ofString "." ++ name ∧ f.IsSourceOf package name

/-- A file stands in the directory of a package, or below it. -/
def ProjectFile.isBelow (package : Text) (f : ProjectFile) : Bool :=
  f.path.startsWith (Text.ofString "src/test/java/" ++
    Text.replaceSymbol (.char '.') (Text.ofString "/") package ++ Text.ofString "/")

theorem isBelow_sourcePath (package name content : Text) :
    ProjectFile.isBelow package ⟨sourcePath package name, content⟩ = true :=
  List.isPrefixOf_iff_prefix.2 ⟨name ++ Text.ofString ".java", by
    simp [sourcePath, Settings.packagePath]⟩

/-- A source of a subpackage is not below another one that begins differently. -/
theorem isBelow_sourcePath_eq_false {s : Settings} {sub sub' rest rest' : Text} {x y : Symbol}
    (hsub : Settings.packagePath sub = x :: rest) (hsub' : Settings.packagePath sub' = y :: rest')
    (hne : x ≠ y) (name content : Text) :
    ProjectFile.isBelow (s.subpackage sub) ⟨sourcePath (s.subpackage sub') name, content⟩ =
      false := by
  rw [Bool.eq_false_iff]
  intro h
  obtain ⟨tail, htail⟩ := List.isPrefixOf_iff_prefix.1 h
  rw [← Settings.packagePath] at htail
  simp only [sourcePath, Settings.subpackage, packagePath_append, hsub, hsub', List.append_assoc,
    List.append_cancel_left_eq, List.cons_append, List.cons.injEq] at htail
  exact hne htail.1

theorem endsWith_sourcePath (package name : Text) :
    (sourcePath package name).endsWith (Text.ofString ".java") = true :=
  List.isSuffixOf_iff_suffix.2 (List.suffix_append _ _)

/-! ## Files of tasks -/

/-- **The files of a suite are those of its tasks, and their paths differ.** -/
theorem files_of_generate {settings : Settings} {trace : TraceId} {c : Contract} {s : Session}
    {p : Project} (hs : s.IsBundled)
    (h : (generate TemplateDirectory.bundled settings trace c).outcome s = .ok p) :
    p.files = (c.tasks settings).map Task.file ∧ p.paths.Nodup := by
  rw [(yields_generate settings trace c s hs).1] at h
  obtain ⟨files, hfiles, hproject⟩ := bind_eq_ok.1 h
  obtain rfl := assemble_eq_ok hproject
  have hsame : List.Forall₂ (fun f t => f = t.file) files (c.tasks settings) :=
    List.Forall₂.flip ((mapM_eq_ok.1 hfiles).imp fun t f hf =>
      (ProjectFile.check_eq_ok.1 (mapError_eq_ok.1 hf)).2.symm)
  refine ⟨?_, nodup_of_assemble hproject⟩
  show files = (c.tasks settings).map Task.file
  rwa [← List.forall₂_eq_eq_eq, List.forall₂_map_right_iff]

/-- The list of the test classes. -/
def Contract.listFile (c : Contract) (s : Settings) : ProjectFile :=
  ⟨Text.ofString "testng.xml", (Context.suite (c.suite s)).text⟩

/-- The class that all test classes extend. -/
def Contract.baseFile (c : Contract) (s : Settings) : ProjectFile :=
  ⟨sourcePath s.fixturePackage fixtureName, (Context.fixture (c.fixture s)).text⟩

/-- The file of a model class. -/
def ModelContext.file (m : ModelContext) : ProjectFile :=
  ⟨sourcePath m.package m.className, (Context.model m).text⟩

/-- The file of a test class. -/
def TestClassContext.file (k : TestClassContext) : ProjectFile :=
  ⟨sourcePath k.package k.className, (Context.testClass k).text⟩

section Files

variable {c : Contract} {s : Settings} {m : ModelContext} {k : TestClassContext}

/-- The files of a suite, in order. -/
theorem map_file_tasks (c : Contract) (s : Settings) : (c.tasks s).map Task.file =
    [⟨Text.ofString "pom.xml", (Context.descriptor (c.descriptor s)).text⟩, c.listFile s,
      c.baseFile s] ++
    (c.models s).map ModelContext.file ++ (c.testClasses s).map TestClassContext.file := by
  have hmodels : ∀ ms : List ModelContext,
      (Task.ofModels ms).map Task.file = ms.map ModelContext.file := by
    intro ms
    cases ms with
    | nil => rfl
    | cons m rest => simp [Task.ofModels, Task.ofModel, Task.file, ModelContext.file]
  simp only [Contract.tasks, Contract.fixedTasks, List.map_append, hmodels, List.map_map]
  rfl

theorem package_model (hm : m ∈ c.models s) : m.package = s.modelPackage := by
  obtain ⟨p, -, rfl⟩ := List.mem_map.1 hm
  rfl

theorem package_testClass (hk : k ∈ c.testClasses s) :
    k.package = s.testPackage ∧ k.basePackage = s.fixturePackage := by
  obtain ⟨g, -, rfl⟩ := List.mem_map.1 hk
  exact ⟨rfl, rfl⟩

/-- **The sources** are all files but the two in XML. -/
theorem filter_sources (c : Contract) (s : Settings) :
    ((c.tasks s).map Task.file).filter (·.path.endsWith (Text.ofString ".java")) =
      c.baseFile s :: (c.models s).map ModelContext.file ++
        (c.testClasses s).map TestClassContext.file := by
  have hpom : Text.endsWith (Text.ofString "pom.xml") (Text.ofString ".java") = false := by decide
  have hlist : Text.endsWith (Text.ofString "testng.xml") (Text.ofString ".java") = false := by
    decide
  simp [map_file_tasks, List.filter_append, List.filter_map, Function.comp_def, Contract.listFile,
    Contract.baseFile, ModelContext.file, TestClassContext.file, endsWith_sourcePath, hpom, hlist]

theorem isBelow_model (hm : m ∈ c.models s) : m.file.isBelow s.testPackage = false := by
  rw [ModelContext.file, package_model hm]
  exact isBelow_sourcePath_eq_false rfl rfl (by decide) _ _

theorem isBelow_testClass (hk : k ∈ c.testClasses s) : k.file.isBelow s.testPackage = true := by
  rw [TestClassContext.file, (package_testClass hk).1]
  exact isBelow_sourcePath _ _ _

/-- **The files of the test classes** are those in their package. -/
theorem filter_isBelow (c : Contract) (s : Settings) :
    ((c.tasks s).map Task.file).filter (ProjectFile.isBelow s.testPackage) =
      (c.testClasses s).map TestClassContext.file := by
  have hpom : ∀ content, ProjectFile.isBelow s.testPackage
      ⟨Text.ofString "pom.xml", content⟩ = false := fun _ => rfl
  have hlist : (c.listFile s).isBelow s.testPackage = false := rfl
  have hbase : (c.baseFile s).isBelow s.testPackage = false :=
    isBelow_sourcePath_eq_false rfl rfl (by decide) _ _
  have hmodels : ((c.models s).map ModelContext.file).filter (ProjectFile.isBelow s.testPackage) =
      [] := by
    simpa [List.filter_eq_nil_iff] using fun m hm => isBelow_model (c := c) (m := m) hm
  have htests : ((c.testClasses s).map TestClassContext.file).filter
      (ProjectFile.isBelow s.testPackage) = (c.testClasses s).map TestClassContext.file := by
    simpa [List.filter_eq_self] using fun k hk => isBelow_testClass (c := c) (k := k) hk
  rw [map_file_tasks, List.filter_append, List.filter_append, hmodels, htests]
  simp [hpom, hlist, hbase]

/-! ## What the sources declare -/

theorem IsDotted.subpackage (h : IsDotted s.basePackage) {name : Text} (hname : IsDotted name) :
    IsDotted (s.subpackage name) :=
  (h.append (by decide)).append hname

theorem newline_not_mem_subpackage (h : s.check = .ok s) {name : Text} (hname : IsDotted name) :
    .char '\n' ∉ s.subpackage name := by
  have hbase : IsDotted s.basePackage := isDotted_of_isPackage (Settings.check_eq_ok.1 h).1
  exact (hbase.subpackage hname).not_mem (by decide) (by decide)

theorem isSourceOf_base (h : IsDotted s.basePackage) :
    (c.baseFile s).IsSourceOf (c.fixture s).package fixtureName :=
  ⟨rfl, declaresClass_fixture (b := c.fixture s) (h.subpackage (by decide))⟩

theorem isSourceOf_model (h : IsDotted s.basePackage) (hm : m ∈ c.models s) :
    m.file.IsSourceOf m.package m.className := by
  obtain ⟨p, -, rfl⟩ := List.mem_map.1 hm
  exact ⟨rfl, declaresClass_model (h.subpackage (by decide)) (isClassName_className p.1).isDotted⟩

theorem isSourceOf_testClass (h : IsDotted s.basePackage) (hk : k ∈ c.testClasses s) :
    k.file.IsSourceOf k.package k.className := by
  obtain ⟨g, -, rfl⟩ := List.mem_map.1 hk
  exact ⟨rfl,
    declaresClass_testClass (h.subpackage (by decide)) (isClassName_testClassName g.1).isDotted⟩

/-- **A test class imports the class that is there to be extended.** -/
theorem imports_base (h : IsDotted s.basePackage) (hk : k ∈ c.testClasses s) :
    Text.ofString "import " ++ (c.fixture s).package ++ Text.ofString "." ++ fixtureName ++
      Text.ofString ";" ∈ Text.lines k.file.content := by
  have hpackage := (package_testClass hk).2
  have himport := imports_testClass (k := k) (hpackage ▸ h.subpackage (by decide))
  have hname : Text.ofString ".BaseTest;" = Text.ofString "." ++ fixtureName ++ Text.ofString ";" :=
    rfl
  rw [hname, ← List.append_assoc, ← List.append_assoc, hpackage] at himport
  exact himport

/-! ## The list of the test classes -/

theorem testClasses_suite (c : Contract) (s : Settings) : (c.suite s).testClasses =
    (c.testClasses s).map fun k => s.testPackage ++ Text.ofString "." ++ k.className := by
  rw [Contract.testClasses, List.map_map]
  rfl

theorem isDotted_of_mem_suite (h : IsDotted s.basePackage) {q : Text}
    (hq : q ∈ (c.suite s).testClasses) : IsDotted q := by
  obtain ⟨g, -, rfl⟩ := List.mem_map.1 hq
  exact ((h.subpackage (by decide)).append (by decide)).append
    (isClassName_testClassName g.1).isDotted

/-- The names in the list differ if the paths do. -/
theorem nodup_suite (h : ((c.tasks s).map (·.path)).Nodup) : (c.suite s).testClasses.Nodup := by
  have hnames : (c.suite s).testClasses = ((c.testClasses s).map (·.className)).map
      (s.testPackage ++ Text.ofString "." ++ ·) := by
    rw [testClasses_suite, List.map_map]
    rfl
  rw [hnames]
  exact ((nodup_paths c s).1 h).2.map fun _ _ => List.append_cancel_left

/-- **The list names the files of the test classes**, one by one and in order. -/
theorem suite_lists (h : IsDotted s.basePackage) :
    List.Forall₂ (fun q f => f.IsSourceOfQualified q) (c.suite s).testClasses
      ((c.testClasses s).map TestClassContext.file) := by
  rw [testClasses_suite, List.forall₂_map_left_iff, List.forall₂_map_right_iff, List.forall₂_same]
  exact fun k hk => ⟨k.package, k.className, by rw [(package_testClass hk).1],
    isSourceOf_testClass h hk⟩

end Files

/-! ## Layout -/

/-- The files of a project are those of a suite, and each stands where its names say. -/
structure Layout (c : Contract) (s : Settings) (p : Project) (list base : ProjectFile)
    (models tests : List ProjectFile) : Prop where
  /-- The paths of all files differ. -/
  paths : p.paths.Nodup
  /-- The sources, in the order of the files. -/
  sources : p.files.filter (·.path.endsWith (Text.ofString ".java")) = base :: models ++ tests
  /-- The files of the test classes are those in their package. -/
  below : p.files.filter (ProjectFile.isBelow s.testPackage) = tests
  list_mem : list ∈ p.files
  list_path : list.path = Text.ofString "testng.xml"
  list_fills : (Context.suite (c.suite s)).Fills list
  /-- The list of the test classes has a line for each of its classes. -/
  list_classes : Text.ofString "        <classes>\n" ++ (c.suite s).testClasses.flatMap suiteLine ++
    Text.ofString "        </classes>\n" <:+: list.content
  /-- The list of the test classes names each once. -/
  listed_nodup : (c.suite s).testClasses.Nodup
  /-- The list of the test classes names the files of the test classes, in order. -/
  listed : List.Forall₂ (fun q f => f.IsSourceOfQualified q) (c.suite s).testClasses tests
  base_fills : (Context.fixture (c.fixture s)).Fills base
  base_source : base.IsSourceOf (c.fixture s).package fixtureName
  models_source : List.Forall₂ (fun m f => (Context.model m).Fills f ∧
    f.IsSourceOf m.package m.className) (c.models s) models
  tests_source : List.Forall₂ (fun k f => (Context.testClass k).Fills f ∧
    f.IsSourceOf k.package k.className) (c.testClasses s) tests
  /-- Every test class imports the class of `base`. -/
  imports : ∀ f ∈ tests, Text.ofString "import " ++ (c.fixture s).package ++ Text.ofString "." ++
    fixtureName ++ Text.ofString ";" ∈ Text.lines f.content

/-- **Paths, packages, classes and the list of the test classes agree.** In a project that is
generated with accepted settings, each source stands where its package and its class say, which are
those that it declares; each test class imports the class that is there to be extended; and the list
of the test classes names their files, in order and each once. -/
theorem generate_layout {settings : Settings} {trace : TraceId} {c : Contract} {s : Session}
    {p : Project} (haccepted : settings.check = .ok settings) (hs : s.IsBundled)
    (h : (generate TemplateDirectory.bundled settings trace c).outcome s = .ok p) :
    ∃ list base models tests, Layout c settings p list base models tests := by
  obtain ⟨hfiles, hpaths⟩ := files_of_generate hs h
  have hbase : IsDotted settings.basePackage :=
    isDotted_of_isPackage (Settings.check_eq_ok.1 haccepted).1
  refine ⟨c.listFile settings, c.baseFile settings, (c.models settings).map ModelContext.file,
    (c.testClasses settings).map TestClassContext.file, ?_⟩
  constructor
  case paths => exact hpaths
  case sources => rw [hfiles, filter_sources]
  case below => rw [hfiles, filter_isBelow]
  case list_mem => simp [hfiles, map_file_tasks]
  case list_path => rfl
  case list_fills => exact Context.render_eq_text _
  case list_classes => exact classes_suite fun q hq => isDotted_of_mem_suite hbase hq
  case listed_nodup =>
    rw [Project.paths, hfiles, List.map_map] at hpaths
    exact nodup_suite hpaths
  case listed => exact suite_lists hbase
  case base_fills => exact Context.render_eq_text _
  case base_source => exact isSourceOf_base hbase
  case models_source =>
    rw [List.forall₂_map_right_iff, List.forall₂_same]
    exact fun m hm => ⟨Context.render_eq_text _, isSourceOf_model hbase hm⟩
  case tests_source =>
    rw [List.forall₂_map_right_iff, List.forall₂_same]
    exact fun k hk => ⟨Context.render_eq_text _, isSourceOf_testClass hbase hk⟩
  case imports =>
    intro f hf
    obtain ⟨k, hk, rfl⟩ := List.mem_map.1 hf
    exact imports_base hbase hk

theorem generate_layout_petContract :
    ∃ p, (generate TemplateDirectory.bundled .default "t" petContract).outcome .fresh = .ok p ∧
      ∃ list base models pets orders, Layout petContract .default p list base models [pets, orders] ∧
        pets.IsSourceOfQualified "com.automation.tests.tests.PetsApiTest" ∧
        orders.IsSourceOfQualified "com.automation.tests.tests.OrdersApiTest" := by
  have hmade := outcome_generate_petContract
  obtain ⟨list, base, models, tests, hlayout⟩ :=
    generate_layout suits_default.accepted isBundled_fresh hmade
  have hlisted := hlayout.listed
  have hnames : (petContract.suite .default).testClasses =
      [Text.ofString "com.automation.tests.tests.PetsApiTest",
        Text.ofString "com.automation.tests.tests.OrdersApiTest"] := by
    decide +kernel
  rw [hnames] at hlisted
  obtain ⟨pets, rest, hpets, hrest, rfl⟩ := List.forall₂_cons_left_iff.1 hlisted
  obtain ⟨orders, none, horders, hnone, rfl⟩ := List.forall₂_cons_left_iff.1 hrest
  obtain rfl := List.forall₂_nil_left_iff.1 hnone
  exact ⟨_, hmade, list, base, models, pets, orders, hlayout, hpets, horders⟩

end SuiteForge
