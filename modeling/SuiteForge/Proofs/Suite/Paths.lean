/-
# The files of a suite

A suite has two XML files, and sources (`task_cases`). The paths of sources keep the rules
(`brokenRule?_sourcePath`), so each task makes its file (`mapM_checked`). The sources of the three
subpackages stand in three directories, and within one they are told apart by their classes: so
the paths differ if and only if the model classes do and the test classes do (`nodup_paths`).
-/

import SuiteForge.Proofs.Suite.Lines

namespace SuiteForge

/-! ## Paths of sources -/

theorem IsPackageName.subpackage {s : Settings} (h : IsPackageName s.basePackage) {name : Text}
    (hname : ∀ x ∈ name, (x.isWord || x == .char '.') = true) :
    IsPackageName (s.subpackage name) := by
  have hdot : ∀ x ∈ Text.ofString ".", (x.isWord || x == .char '.') = true := by decide
  exact (h.append hdot).append hname

theorem mem_packagePath {package : Text} {x : Symbol} (h : x ∈ Settings.packagePath package) :
    x ∈ package ∨ x = .char '/' := by
  obtain ⟨y, hy, hx⟩ := List.mem_flatMap.1 h
  split at hx
  · exact .inr (List.mem_singleton.1 hx)
  · exact .inl (List.mem_singleton.1 hx ▸ hy)

/-- **The path of a source keeps the rules.** -/
theorem brokenRule?_sourcePath {package name : Text} (hpackage : IsDotted package)
    (hname : IsClassName name) : ProjectFile.brokenRule? (sourcePath package name) = none := by
  have hblank : (sourcePath package name).isBlank = false := rfl
  have hslash : (sourcePath package name).startsWith (Text.ofString "/") = false := rfl
  have hbackslash : ¬(sourcePath package name).contains (.char '\\') = true := by
    rw [List.contains_iff_mem]
    intro h
    simp only [sourcePath, List.mem_append] at h
    rcases h with (((h | h) | h) | h) | h
    · revert h
      decide
    · rcases mem_packagePath h with h | h
      · exact hpackage.not_mem (by decide) (by decide) h
      · exact absurd h (by decide)
    · revert h
      decide
    · exact absurd (hname.alnum _ h) (by decide)
    · revert h
      decide
  rw [ProjectFile.brokenRule?, hblank, if_neg Bool.false_ne_true, if_neg hbackslash, hslash,
    if_neg Bool.false_ne_true]

theorem sourcePath_inj {package name name' : Text} :
    sourcePath package name = sourcePath package name' ↔ name = name' := by
  rw [sourcePath, sourcePath, List.append_left_inj, List.append_right_inj]

/-- A path that begins otherwise is none of a source. -/
theorem ne_sourcePath {path : Text} (h : path.head? ≠ some (.char 's')) (package name : Text) :
    path ≠ sourcePath package name := by
  rintro rfl
  exact h rfl

theorem packagePath_append (t u : Text) :
    Settings.packagePath (t ++ u) = Settings.packagePath t ++ Settings.packagePath u :=
  List.flatMap_append

/-- Sources of subpackages that begin differently have different paths. -/
theorem sourcePath_ne (s : Settings) {sub sub' rest rest' : Text} {x y : Symbol}
    (hsub : Settings.packagePath sub = x :: rest) (hsub' : Settings.packagePath sub' = y :: rest')
    (hne : x ≠ y) (name name' : Text) :
    sourcePath (s.subpackage sub) name ≠ sourcePath (s.subpackage sub') name' := by
  intro h
  simp only [sourcePath, Settings.subpackage, packagePath_append, hsub, hsub', List.append_assoc,
    List.append_cancel_left_eq, List.cons_append, List.cons.injEq] at h
  exact hne h.1

/-! ## Tasks -/

section Tasks

variable {c : Contract} {s : Settings}

/-- A task that makes a source: it is named after its package and its class, and declares both. -/
structure Task.IsSource (t : Task) : Prop where
  path : ∃ package name, IsPackageName package ∧ IsClassName name ∧ t.path = sourcePath package name
  declares : JavaSource.Declares t.context.text

theorem isSource_ofFixture (h : IsPackageName s.basePackage) :
    (Task.ofFixture (c.fixture s)).IsSource := by
  have hpackage : IsPackageName s.fixturePackage := h.subpackage (by decide)
  have hname : IsClassName fixtureName := ⟨_, _, rfl, by decide, by decide⟩
  exact ⟨⟨_, _, hpackage, hname, rfl⟩, (declaresClass_fixture hpackage.isDotted).declares hpackage hname⟩

theorem isSource_ofModel (h : IsPackageName s.basePackage) (note : Option Text) {m : ModelContext}
    (hm : m ∈ c.models s) : (Task.ofModel note m).IsSource := by
  obtain ⟨p, -, rfl⟩ := List.mem_map.1 hm
  have hpackage : IsPackageName s.modelPackage := h.subpackage (by decide)
  have hname : IsClassName (className p.1) := isClassName_className p.1
  exact ⟨⟨_, _, hpackage, hname, rfl⟩,
    (declaresClass_model hpackage.isDotted hname.isDotted).declares hpackage hname⟩

theorem isSource_ofTestClass (h : IsPackageName s.basePackage) {k : TestClassContext}
    (hk : k ∈ c.testClasses s) : (Task.ofTestClass k).IsSource := by
  obtain ⟨g, -, rfl⟩ := List.mem_map.1 hk
  have hpackage : IsPackageName s.testPackage := h.subpackage (by decide)
  have hname : IsClassName (testClassName g.1) := isClassName_testClassName g.1
  exact ⟨⟨_, _, hpackage, hname, rfl⟩,
    (declaresClass_testClass hpackage.isDotted hname.isDotted).declares hpackage hname⟩

theorem mem_ofModels {models : List ModelContext} {t : Task} (h : t ∈ Task.ofModels models) :
    ∃ note, ∃ m ∈ models, t = .ofModel note m := by
  cases models with
  | nil => exact absurd h List.not_mem_nil
  | cons m rest =>
    rcases List.mem_cons.1 h with rfl | h
    · exact ⟨_, m, List.mem_cons_self, rfl⟩
    · obtain ⟨m', hm', rfl⟩ := List.mem_map.1 h
      exact ⟨none, m', List.mem_cons_of_mem m hm', rfl⟩

/-- **A task makes the build file, the list of the test classes or a source.** -/
theorem task_cases (h : IsPackageName s.basePackage) {t : Task} (ht : t ∈ c.tasks s) :
    t = .ofDescriptor (c.descriptor s) ∨ t = .ofSuite (c.suite s) ∨ t.IsSource := by
  rw [Contract.tasks, List.mem_append, List.mem_append, Contract.fixedTasks, List.mem_cons,
    List.mem_cons, List.mem_singleton] at ht
  rcases ht with ((rfl | rfl | rfl) | ht) | ht
  · exact .inl rfl
  · exact .inr (.inl rfl)
  · exact .inr (.inr (isSource_ofFixture h))
  · obtain ⟨note, m, hm, rfl⟩ := mem_ofModels ht
    exact .inr (.inr (isSource_ofModel h note hm))
  · obtain ⟨k, hk, rfl⟩ := List.mem_map.1 ht
    exact .inr (.inr (isSource_ofTestClass h hk))

/-! ## Paths of a suite -/

theorem paths_tasks (c : Contract) (s : Settings) : (c.tasks s).map (·.path) =
    [Text.ofString "pom.xml", Text.ofString "testng.xml", sourcePath s.fixturePackage fixtureName] ++
      ((c.models s).map (·.className)).map (sourcePath s.modelPackage) ++
      ((c.testClasses s).map (·.className)).map (sourcePath s.testPackage) := by
  have hmodels : (c.models s).map (fun m => sourcePath m.package m.className) =
      ((c.models s).map (·.className)).map (sourcePath s.modelPackage) := by
    rw [Contract.models, List.map_map, List.map_map, List.map_map]
    rfl
  have htests : ((c.testClasses s).map Task.ofTestClass).map (·.path) =
      ((c.testClasses s).map (·.className)).map (sourcePath s.testPackage) := by
    rw [Contract.testClasses, List.map_map, List.map_map, List.map_map, List.map_map]
    rfl
  rw [Contract.tasks, List.map_append, List.map_append, Task.path_ofModels, hmodels, htests]
  rfl

/-- **The paths differ if and only if the model classes do and the test classes do.** -/
theorem nodup_paths (c : Contract) (s : Settings) : ((c.tasks s).map (·.path)).Nodup ↔
    ((c.models s).map (·.className)).Nodup ∧ ((c.testClasses s).map (·.className)).Nodup := by
  have hinj : ∀ package, Function.Injective (sourcePath package) := fun _ _ _ => sourcePath_inj.1
  have hfixture : ∀ name, sourcePath s.fixturePackage fixtureName ≠ sourcePath s.modelPackage name ∧
      sourcePath s.fixturePackage fixtureName ≠ sourcePath s.testPackage name := fun name =>
    ⟨sourcePath_ne s rfl rfl (by decide) _ _, sourcePath_ne s rfl rfl (by decide) _ _⟩
  have hmodel : ∀ name name', sourcePath s.modelPackage name ≠ sourcePath s.testPackage name' :=
    sourcePath_ne s rfl rfl (by decide)
  have hxml : Text.ofString "pom.xml" ≠ Text.ofString "testng.xml" := by decide
  have hpom : ∀ package name, Text.ofString "pom.xml" ≠ sourcePath package name :=
    ne_sourcePath (by decide)
  have htestng : ∀ package name, Text.ofString "testng.xml" ≠ sourcePath package name :=
    ne_sourcePath (by decide)
  rw [paths_tasks, List.nodup_append, List.nodup_append, List.nodup_map_iff (hinj _),
    List.nodup_map_iff (hinj _)]
  constructor
  · rintro ⟨⟨-, hmodels, -⟩, htests, -⟩
    exact ⟨hmodels, htests⟩
  · rintro ⟨hmodels, htests⟩
    refine ⟨⟨?_, hmodels, ?_⟩, htests, ?_⟩
    · simp [hxml, hpom, htestng]
    · simp [hpom, htestng, hfixture]
    · simp [or_imp, forall_and, hpom, htestng, hfixture, hmodel]

/-- The paths of all tasks keep the rules. -/
theorem brokenRule?_of_mem_tasks (h : IsDotted s.basePackage) {t : Task} (ht : t ∈ c.tasks s) :
    ProjectFile.brokenRule? t.path = none := by
  have hsource : ∀ sub name : Text, IsDotted sub → IsClassName name →
      ProjectFile.brokenRule? (sourcePath (s.subpackage sub) name) = none := fun sub name hsub hname =>
    brokenRule?_sourcePath ((h.append (by decide)).append hsub) hname
  have hpath : t.path ∈ (c.tasks s).map (·.path) := List.mem_map_of_mem ht
  simp only [paths_tasks, List.mem_append, List.mem_cons, List.not_mem_nil, or_false,
    List.map_map, List.mem_map, Contract.models, Contract.testClasses] at hpath
  rcases hpath with ((hpom | hlist | hfixture) | ⟨p, -, hmodel⟩) | ⟨g, -, htest⟩
  · rw [hpom]
    decide
  · rw [hlist]
    decide
  · rw [hfixture]
    exact hsource _ _ (by decide) ⟨_, _, rfl, by decide, by decide⟩
  · rw [← hmodel]
    exact hsource _ _ (by decide) (isClassName_className p.1)
  · rw [← htest]
    exact hsource _ _ (by decide) (isClassName_testClassName g.1)

/-- **Each task makes its file.** -/
theorem mapM_checked (h : IsDotted s.basePackage) :
    (c.tasks s).mapM Task.checked = .ok ((c.tasks s).map Task.file) := by
  rw [mapM_eq_ok, List.forall₂_map_right_iff, List.forall₂_same]
  intro t ht
  rw [Task.checked, ProjectFile.check_eq_ok.2 ⟨brokenRule?_of_mem_tasks h ht, rfl⟩]
  rfl

end Tasks

end SuiteForge
