/-
# Which files are faulty

A report is empty exactly where the files are in order (`Report.Clean`): their paths differ, the
XML files are well-formed, and the Java files declare a package and a type. The report on paths
counts how often each occurs (`ofPaths_eq_nil`); the report on contents can be made as long as the
XML files can be encoded (`exists_ofFiles`). Files are put together to a project exactly if they
are in order (`assemble_of_clean`, `assemble_of_not_clean`).
-/

import SuiteForge.Proofs.Outcome
import SuiteForge.Proofs.Tables
import SuiteForge.Suite.Report

namespace SuiteForge

namespace Report

variable {files : List ProjectFile}

/-- Files in order. -/
structure Clean (files : List ProjectFile) : Prop where
  paths : (files.map (·.path)).Nodup
  xml : ∀ f ∈ files, isXmlFile f = true → Xml.isWellFormed f.content = true
  java : ∀ f ∈ files, isJavaFile f = true → javaFault? f = none

/-! ## Paths -/

theorem pathCounts_eq (files : List ProjectFile) :
    pathCounts files = (files.map (·.path)).eraseDups.map fun path =>
      (path, (files.map (·.path)).count path) := by
  have htotal := Assoc.foldl_alter (fun f : ProjectFile => f.path)
    (fun _ n => n.getD 0 + 1) List.length (fun _ => rfl) (fun _ _ => by simp) files
  rw [pathCounts, htotal]
  refine List.map_congr_left fun path _ => ?_
  have hsame : files.filter (fun f => decide (f.path = path)) =
      files.filter ((· == path) ∘ fun f => f.path) :=
    List.filter_congr fun f _ => (beq_eq_decide f.path path).symm
  rw [List.count, List.countP_map, List.countP_eq_length_filter, hsame]

/-- **The report on paths is empty if and only if the paths differ.** -/
theorem ofPaths_eq_nil : ofPaths files = [] ↔ (files.map (·.path)).Nodup := by
  rw [ofPaths, pathCounts_eq, List.filterMap_map, List.filterMap_eq_nil_iff,
    List.nodup_iff_count_le_one]
  constructor
  · intro h path
    by_cases hmem : path ∈ files.map (·.path)
    · have hnone := h path (List.mem_eraseDups.2 hmem)
      by_contra hcount
      simp [Nat.not_le.1 hcount] at hnone
    · rw [List.count_eq_zero_of_not_mem hmem]
      exact Nat.zero_le 1
  · intro h path _
    exact if_neg (Nat.not_lt.2 (h path))

/-! ## Contents -/

theorem xmlFault?_eq {f : ProjectFile} (h : f.content.chars?.isSome = true) :
    xmlFault? f =
      .ok (if Xml.isWellFormed f.content then none else some (.malformedXml "not well-formed")) := by
  obtain ⟨cs, hcs⟩ := Option.isSome_iff_exists.1 h
  rw [xmlFault?, hcs]

/-- The faults of the XML files that are not well-formed. -/
def xmlFaults (files : List ProjectFile) : List (Text × FileFault) :=
  ((files.filter isXmlFile).filter fun f => !Xml.isWellFormed f.content).map fun f =>
    (f.path, .malformedXml "not well-formed")

theorem ofXml_go_eq (report : Report) (h : ∀ f ∈ files, f.content.chars?.isSome = true) :
    ofXml.go report files = .ok (((files.filter fun f => !Xml.isWellFormed f.content).map fun f =>
      (f.path, FileFault.malformedXml "not well-formed")).foldl
        (fun report e => Assoc.insert e.1 e.2 report) report) := by
  induction files generalizing report with
  | nil => rfl
  | cons f rest ih =>
    obtain ⟨hf, hrest⟩ := List.forall_mem_cons.1 h
    rw [ofXml.go, xmlFault?_eq hf, ok_bind, List.filter_cons]
    cases Xml.isWellFormed f.content with
    | true => exact ih report hrest
    | false => exact ih (Assoc.insert f.path (.malformedXml "not well-formed") report) hrest

/-- **The report on XML files can be made** as long as they can be encoded. -/
theorem ofXml_eq (h : ∀ f ∈ files, isXmlFile f = true → f.content.chars?.isSome = true) :
    ofXml files = .ok (Assoc.ofPairs (xmlFaults files)) := by
  refine ofXml_go_eq [] fun f hf => ?_
  obtain ⟨hmem, hxml⟩ := List.mem_filter.1 hf
  exact h f hmem hxml

theorem exists_ofXml (h : ∀ f ∈ files, isXmlFile f = true → f.content.chars?.isSome = true) :
    ∃ r, ofXml files = .ok r ∧
      (r = [] ↔ ∀ f ∈ files, isXmlFile f = true → Xml.isWellFormed f.content = true) := by
  refine ⟨_, ofXml_eq h, ?_⟩
  rw [Assoc.ofPairs, Assoc.foldl_insert_eq_nil, xmlFaults, List.map_eq_nil_iff,
    List.filter_eq_nil_iff]
  simp only [List.mem_filter, and_imp, Bool.not_eq_true', Bool.not_eq_false, true_and]

/-- Pairs made of some items have the keys of these items. -/
theorem keys_filterMap {α β κ : Type} (key : β → κ) (f : β → Option α) (xs : List β) :
    (xs.filterMap fun x => (f x).map fun a => (key x, a)).map (·.1) =
      (xs.filter fun x => (f x).isSome).map key := by
  induction xs with
  | nil => rfl
  | cons x xs ih => cases hx : f x <;> simp [hx, ih]

/-- The faults of the Java files that have one. -/
def javaFaults (files : List ProjectFile) : List (Text × FileFault) :=
  (files.filter isJavaFile).filterMap fun f => (javaFault? f).map fun e => (f.path, e)

theorem keys_javaFaults (files : List ProjectFile) : (javaFaults files).map (·.1) =
    ((files.filter isJavaFile).filter fun f => (javaFault? f).isSome).map (·.path) :=
  keys_filterMap (·.path) javaFault? _

theorem ofJava_eq_nil :
    ofJava files = [] ↔ ∀ f ∈ files, isJavaFile f = true → javaFault? f = none := by
  rw [ofJava, Assoc.ofPairs, Assoc.foldl_insert_eq_nil]
  simp [List.filterMap_eq_nil_iff, List.mem_filter]

/-- **A report can be made, and is empty if and only if the files are in order.** -/
theorem exists_ofFiles (h : ∀ f ∈ files, isXmlFile f = true → f.content.chars?.isSome = true) :
    ∃ r, ofFiles files = .ok r ∧ (r = [] ↔ Clean files) := by
  unfold ofFiles
  cases hpaths : ofPaths files with
  | nil =>
    obtain ⟨xml, hxml, hempty⟩ := exists_ofXml h
    refine ⟨_, by rw [hxml]; rfl, ?_⟩
    rw [Assoc.foldl_insert_eq_nil, hempty, ofJava_eq_nil]
    constructor
    · rintro ⟨hwell, hjava⟩
      exact ⟨ofPaths_eq_nil.1 hpaths, hwell, hjava⟩
    · intro hclean
      exact ⟨hclean.xml, hclean.java⟩
  | cons e rest =>
    refine ⟨e :: rest, rfl, iff_of_false (List.cons_ne_nil _ _) fun hclean => ?_⟩
    rw [ofPaths_eq_nil.2 hclean.paths] at hpaths
    cases hpaths

theorem nil_of_ofFiles (h : ofFiles files = .ok []) :
    (files.map (·.path)).Nodup ∧ ofJava files = [] := by
  unfold ofFiles at h
  split at h
  · next hpaths =>
    obtain ⟨xml, -, h⟩ := bind_eq_ok.1 h
    exact ⟨ofPaths_eq_nil.1 hpaths, (Assoc.foldl_insert_eq_nil.1 (Except.ok.inj h)).2⟩
  · next hpaths => exact absurd (Except.ok.inj h) hpaths

/-- The fault of a source is reported, unless paths clash. -/
theorem mem_of_ofFiles {f : ProjectFile} {e : FileFault} {report : Report}
    (hpaths : (files.map (·.path)).Nodup) (hf : f ∈ files) (hjava : isJavaFile f = true)
    (he : javaFault? f = some e) (h : ofFiles files = .ok report) : (f.path, e) ∈ report := by
  have hofJava : (f.path, e) ∈ ofJava files := by
    have hkeys : ((javaFaults files).map (·.1)).Sublist (files.map (·.path)) :=
      keys_javaFaults files ▸ (List.filter_sublist.trans List.filter_sublist).map _
    refine Assoc.mem_foldl_insert (List.mem_filterMap.2 ⟨f, List.mem_filter.2 ⟨hf, hjava⟩, ?_⟩)
      (hpaths.sublist hkeys)
    rw [he]
    rfl
  unfold ofFiles at h
  rw [ofPaths_eq_nil.2 hpaths] at h
  obtain ⟨xml, -, h⟩ := bind_eq_ok.1 h
  obtain rfl := Except.ok.inj h
  exact Assoc.mem_foldl_insert hofJava (Assoc.keys_ofPairs _).1

end Report

/-! ## Projects -/

theorem assemble_eq_ok {name : Text} {files : List ProjectFile} {p : Project}
    (h : Project.assemble name files = .ok p) : p = ⟨name, files⟩ := by
  unfold Project.assemble at h
  split at h
  · cases h
  · obtain ⟨report, -, h⟩ := bind_eq_ok.1 h
    split at h
    · exact (Project.check_eq_ok.1 (mapError_eq_ok.1 h)).2.2.symm
    · cases h

theorem ofFiles_of_assemble {name : Text} {files : List ProjectFile} {p : Project}
    (h : Project.assemble name files = .ok p) : Report.ofFiles files = .ok [] := by
  unfold Project.assemble at h
  split at h
  · cases h
  · obtain ⟨report, hreport, h⟩ := bind_eq_ok.1 h
    split at h
    · next hempty => rw [hreport, List.isEmpty_iff.1 hempty]
    · cases h

theorem nodup_of_assemble {name : Text} {files : List ProjectFile} {p : Project}
    (h : Project.assemble name files = .ok p) : (files.map (·.path)).Nodup :=
  (Report.nil_of_ofFiles (ofFiles_of_assemble h)).1

/-- **Files in order are put together to a project.** -/
theorem assemble_of_clean {name : Text} {files : List ProjectFile} (hname : name.isBlank = false)
    (hfiles : files ≠ [])
    (hxml : ∀ f ∈ files, Report.isXmlFile f = true → f.content.chars?.isSome = true)
    (hclean : Report.Clean files) : Project.assemble name files = .ok ⟨name, files⟩ := by
  obtain ⟨r, hr, hempty⟩ := Report.exists_ofFiles hxml
  have hcheck : Project.check ⟨name, files⟩ = .ok ⟨name, files⟩ :=
    Project.check_eq_ok.2 ⟨hname, hfiles, rfl⟩
  rw [Project.assemble, if_neg (by simpa using hfiles), hr, ok_bind, hempty.2 hclean,
    if_pos List.isEmpty_nil, hcheck]
  rfl

theorem assemble_of_report {name : Text} {files : List ProjectFile} {report : Report}
    (hfiles : files ≠ []) (hreport : Report.ofFiles files = .ok report) (hne : report ≠ []) :
    Project.assemble name files = .error (.generation (.inconsistent name report)) := by
  rw [Project.assemble, if_neg (by simpa using hfiles), hreport, ok_bind,
    if_neg (mt List.isEmpty_iff.1 hne)]

/-- **Files that are not in order are reported.** -/
theorem assemble_of_not_clean {name : Text} {files : List ProjectFile} (hfiles : files ≠ [])
    (hxml : ∀ f ∈ files, Report.isXmlFile f = true → f.content.chars?.isSome = true)
    (hclean : ¬Report.Clean files) :
    ∃ report, Project.assemble name files = .error (.generation (.inconsistent name report)) := by
  obtain ⟨r, hr, hempty⟩ := Report.exists_ofFiles hxml
  exact ⟨r, assemble_of_report hfiles hr (mt hempty.1 hclean)⟩

end SuiteForge
