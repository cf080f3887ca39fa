/-
# A project stays in its directory

Texts of a contract reach the paths of a project in four ways: as slug, as group, as class and, with
the settings, as package. Whatever they hold, a project that is generated stays below the one
directory that is named for it (`generate_confined`): its name is a segment, its paths lead
downwards (`isPath_of_mem_tasks`), and so do the names in an archive of it, which differ.
-/

import SuiteForge.Proofs.Archive.StoredNames
import SuiteForge.Proofs.Suite.Layout
import SuiteForge.Proofs.Suite.Segments

namespace SuiteForge

/-! ## Paths -/

/-- **The paths of a suite lead downwards,** with accepted settings. -/
theorem isPath_of_mem_tasks {settings : Settings} (h : settings.check = .ok settings)
    {c : Contract} {task : Task} (htask : task ∈ c.tasks settings) : IsPath task.path := by
  have hbase : Settings.isPackage settings.basePackage = true := (Settings.check_eq_ok.1 h).1
  have hsource : ∀ sub name : Text, Settings.isPackage sub = true → IsClassName name →
      IsPath (sourcePath (settings.subpackage sub) name) := fun sub name hsub hname =>
    isPath_sourcePath (isPackage_subpackage hbase hsub) hname
  have hxml : ∀ name ∈ [Text.ofString "pom.xml", Text.ofString "testng.xml"],
      (∀ s ∈ name, s.IsPlain) ∧ ∃ s ∈ name, s ≠ .char '.' := by
    decide
  have hpath : task.path ∈ (c.tasks settings).map (·.path) := List.mem_map_of_mem htask
  simp only [paths_tasks, List.mem_append, List.mem_cons, List.not_mem_nil, or_false, ← or_assoc,
    List.map_map, List.mem_map, Contract.models, Contract.testClasses] at hpath
  rcases hpath with (((hname | hname) | hpath) | ⟨p, -, hpath⟩) | ⟨g, -, hpath⟩
  case inl.inl.inl.inl | inl.inl.inl.inr =>
    obtain ⟨hplain, hdot⟩ := hxml task.path (by simp [hname])
    exact (isSegment_of_isPlain hplain hdot).isPath
  case inl.inl.inr =>
    rw [hpath]
    exact hsource _ _ (by decide) ⟨_, _, rfl, by decide, by decide⟩
  case inl.inr =>
    rw [← hpath]
    exact hsource _ _ (by decide) (isClassName_className p.1)
  case inr =>
    rw [← hpath]
    exact hsource _ _ (by decide) (isClassName_testClassName g.1)

/-! ## Archives -/

namespace Archive

variable {project name : Text}

theorem entryName_eq (project path : Text) :
    entryName project path = project ++ .char '/' :: path := by
  rw [entryName, List.append_assoc]
  rfl

/-- Below the directory of a project, a path is cut as by itself. -/
theorem splitOn_entryName (h : .char '/' ∉ project) (path : Text) :
    Text.splitOn (.char '/') (entryName project path) =
      project :: Text.splitOn (.char '/') path := by
  rw [entryName_eq, splitOn_append_cons, splitOn_of_not_mem h, List.singleton_append]

/-- A path that leads downwards is kept whole. -/
theorem storedName_of_isPath (h : IsPath name) : storedName name = name :=
  storedName_of_not_mem fun hnul => h.not_isControl hnul (.inl (by decide))

end Archive

/-! ## Projects -/

/-- A project with all its files in one directory, which is named for words and a suffix. -/
structure Project.Confined (suffix : Text) (p : Project) : Prop where
  /-- The name is made of words in small letters and digits with one hyphen between them. -/
  words : ∃ words, words ≠ [] ∧ (∀ word ∈ words, word ≠ [] ∧ ∀ s ∈ word, isSlugSymbol s = true) ∧
    p.name = Text.join (Text.ofString "-") words ++ suffix
  name : IsSegment p.name
  /-- What stands between the slashes of a path are segments. -/
  paths : ∀ f ∈ p.files, IsPath f.path
  /-- Every entry is below the directory: its first segment is the name of the project, and at least
  one more follows. -/
  entries : ∀ f ∈ p.files, Text.splitOn (.char '/') (Archive.entryName p.name f.path) =
    p.name :: Text.splitOn (.char '/') f.path ∧ Text.splitOn (.char '/') f.path ≠ []
  distinct : (p.files.map fun f => Archive.entryName p.name f.path).Nodup
  /-- An archive of the project has exactly these entries. -/
  archived : ∀ trace level a, (Archive.pack trace level p).result = .ok a →
    a.entries.map (·.name) = p.files.map fun f => Archive.entryName p.name f.path

/-- **A contract cannot put a file outside the directory of its project.** With accepted settings
whose suffix has letters, digits and hyphens, a project that is generated from any contract is
confined to the directory that it names. -/
theorem generate_confined {settings : Settings} {trace : TraceId} {c : Contract} {s : Session}
    {p : Project} (haccepted : settings.check = .ok settings)
    (hsuffix : ∀ x ∈ settings.projectSuffix, (x.isWord || x == .char '-') = true)
    (hs : s.IsBundled)
    (h : (generate TemplateDirectory.bundled settings trace c).outcome s = .ok p) :
    p.Confined settings.projectSuffix := by
  obtain ⟨hfiles, hpaths⟩ := files_of_generate hs h
  have hname : p.name = projectName c.title settings.projectSuffix := by
    rw [(yields_generate settings trace c s hs).1] at h
    obtain ⟨files, -, hproject⟩ := bind_eq_ok.1 h
    rw [assemble_eq_ok hproject]
    rfl
  have hplain : ∀ x ∈ settings.projectSuffix, x.IsPlain := by
    intro x hx
    have hsymbol := hsuffix x hx
    rw [Bool.or_eq_true, beq_iff_eq] at hsymbol
    rcases hsymbol with hword | rfl
    · exact .of_isWord hword
    · decide
  have hsegment : IsSegment p.name := hname ▸ isSegment_projectName hplain
  have hfile : ∀ f ∈ p.files, IsPath f.path := by
    rw [hfiles, List.forall_mem_map]
    exact fun task htask => isPath_of_mem_tasks haccepted htask
  constructor
  case words => exact hname ▸ exists_words_projectName c.title settings.projectSuffix
  case name => exact hsegment
  case paths => exact hfile
  case entries =>
    exact fun f _ => ⟨Archive.splitOn_entryName hsegment.slash f.path, Text.splitOn_ne_nil _ _⟩
  case distinct =>
    rw [p.map_paths (Archive.entryName p.name), List.nodup_map_iff Archive.entryName_injective]
    exact hpaths
  case archived =>
    intro trace' level a ha
    rw [(Archive.meets_pack.gives a ha).2, Archive.storedNames, ← p.map_paths]
    refine List.map_congr_left fun f hf => Archive.storedName_of_isPath ?_
    rw [Archive.entryName_eq]
    exact hsegment.isPath.append (hfile f hf)

/-- A title and paths that name places outside a directory lead to none. -/
theorem generate_confined_listContract :
    ∃ p, (generate TemplateDirectory.bundled .default "t"
        (listContract "../../etc" ["/../..\\x", "/c:/y"])).outcome .fresh = .ok p ∧
      p.Confined "-tests" ∧ p.name = Text.ofString "etc-tests" := by
  have hmade := outcome_generate_listContract "../../etc" ["/../..\\x", "/c:/y"] (by decide +kernel)
    (by decide)
  exact ⟨_, hmade, generate_confined suits_default.accepted (by decide) isBundled_fresh hmade,
    by decide +kernel⟩

end SuiteForge
