/-
# What validation reports

Files are looked at in two rounds. The first reports each path that several files have, with their
number (`ofPaths_eq`). If it reports none, the second reports the XML files that are not well-formed
and then the Java files that are not blank and declare no package or no type (`ofFiles_of_nodup`).
Files are put together to a project if nothing is reported (`ofFiles_exact`).
-/

import SuiteForge.Proofs.Suite.Documents
import SuiteForge.Proofs.Suite.Patterns
import SuiteForge.Proofs.Suite.Reports

namespace SuiteForge

namespace Report

variable {files : List ProjectFile} {f : ProjectFile}

/-! ## Paths -/

/-- The paths that several files have, in the order in which they come first. -/
def repeatedPaths (files : List ProjectFile) : List Text :=
  (files.map (·.path)).eraseDups.filter fun path => 1 < (files.map (·.path)).count path

theorem ofPaths_eq (files : List ProjectFile) :
    ofPaths files = (repeatedPaths files).map fun path =>
      (path, .duplicatePath ((files.map (·.path)).count path)) := by
  rw [ofPaths, pathCounts_eq, List.filterMap_map, repeatedPaths, ← List.filterMap_eq_filter,
    List.map_filterMap]
  refine List.filterMap_congr fun path _ => ?_
  by_cases h : 1 < (files.map (·.path)).count path <;> simp [h, Option.guard]

/-! ## Contents -/

/-- An XML file that is not well-formed. -/
def FaultyXml (f : ProjectFile) : Prop :=
  Text.ofString ".xml" <:+ f.path ∧ Xml.isWellFormed f.content = false

/-- A Java file that is not blank and in which no package or no type is declared. -/
def FaultyJava (f : ProjectFile) : Prop :=
  Text.ofString ".java" <:+ f.path ∧ f.content.isBlank = false ∧
    ¬(JavaSource.packagePattern.IsIn f.content ∧ JavaSource.typePattern.IsIn f.content)

theorem faultyXml_iff :
    FaultyXml f ↔ isXmlFile f = true ∧ Xml.isWellFormed f.content = false :=
  and_congr_left' List.isSuffixOf_iff_suffix.symm

theorem faultyJava_iff : FaultyJava f ↔ isJavaFile f = true ∧ (javaFault? f).isSome = true := by
  rw [FaultyJava, ← JavaSource.hasPackage_iff, ← JavaSource.hasType_iff, isJavaFile, javaFault?,
    Bool.and_eq_true, Bool.not_eq_true', and_assoc, Text.endsWith, List.isSuffixOf_iff_suffix]
  cases JavaSource.hasPackage f.content <;> cases JavaSource.hasType f.content <;> simp

instance : DecidablePred FaultyXml := fun _ => decidable_of_iff' _ faultyXml_iff

instance : DecidablePred FaultyJava := fun _ => decidable_of_iff' _ faultyJava_iff

theorem keys_xmlFaults_eq (files : List ProjectFile) :
    (xmlFaults files).map (·.1) = (files.filter fun f => FaultyXml f).map (·.path) := by
  rw [xmlFaults, List.map_map, List.filter_filter]
  refine congrArg _ (List.filter_congr fun f _ => ?_)
  simp [faultyXml_iff, Bool.and_comm]

theorem keys_javaFaults_eq (files : List ProjectFile) :
    (javaFaults files).map (·.1) = (files.filter fun f => FaultyJava f).map (·.path) := by
  rw [keys_javaFaults, List.filter_filter]
  refine congrArg _ (List.filter_congr fun f _ => ?_)
  simp [faultyJava_iff, Bool.and_comm]

/-- No path is that of an XML file and that of a Java file. -/
theorem not_suffix_of_suffix {path : Text} (hxml : Text.ofString ".xml" <:+ path) :
    ¬Text.ofString ".java" <:+ path := fun hjava =>
  absurd (List.suffix_of_suffix_length_le hxml hjava (by decide)) (by decide +kernel)

/-- **Where paths differ, the report lists the faults of contents.** -/
theorem ofFiles_of_nodup (once : (files.map (·.path)).Nodup)
    (encodable : ∀ f ∈ files, isXmlFile f = true → f.content.chars?.isSome = true) :
    ofFiles files = .ok (xmlFaults files ++ javaFaults files) := by
  have hkeys : ((xmlFaults files ++ javaFaults files).map (·.1)).Nodup := by
    rw [List.map_append, keys_xmlFaults_eq, keys_javaFaults_eq, List.nodup_append]
    refine ⟨once.sublist (List.filter_sublist.map _), once.sublist (List.filter_sublist.map _), ?_⟩
    intro path hxml path' hjava heq
    obtain ⟨f, hf, rfl⟩ := List.mem_map.1 hxml
    obtain ⟨g, hg, rfl⟩ := List.mem_map.1 hjava
    have hfaulty := of_decide_eq_true (List.mem_filter.1 hf).2
    have hfaulty' := of_decide_eq_true (List.mem_filter.1 hg).2
    exact not_suffix_of_suffix hfaulty.1 (heq ▸ hfaulty'.1)
  have hxml : Assoc.ofPairs (xmlFaults files) = xmlFaults files :=
    Assoc.ofPairs_of_nodup (List.Nodup.of_append_left (List.map_append ▸ hkeys))
  have hjava : ofJava files = javaFaults files :=
    Assoc.ofPairs_of_nodup (List.Nodup.of_append_right (List.map_append ▸ hkeys))
  rw [ofFiles, ofPaths_eq_nil.2 once, ofXml_eq encodable, hxml, hjava]
  exact congrArg Except.ok (Assoc.foldl_insert_of_nodup hkeys)

/-- Where paths do not differ, the report lists those that several files have. -/
theorem ofFiles_of_not_nodup (h : ¬(files.map (·.path)).Nodup) :
    ofFiles files = .ok (ofPaths files) := by
  rw [ofFiles]
  cases hpaths : ofPaths files with
  | nil => exact absurd (ofPaths_eq_nil.1 hpaths) h
  | cons e rest => rfl

theorem clean_iff : Clean files ↔
    (files.map (·.path)).Nodup ∧ ∀ f ∈ files, ¬FaultyXml f ∧ ¬FaultyJava f := by
  have hfile (f : ProjectFile) : ¬FaultyXml f ∧ ¬FaultyJava f ↔
      (isXmlFile f = true → Xml.isWellFormed f.content = true) ∧
        (isJavaFile f = true → javaFault? f = none) := by
    rw [faultyXml_iff, faultyJava_iff]
    simp
  simp only [hfile]
  exact ⟨fun h => ⟨h.paths, fun f hf => ⟨h.xml f hf, h.java f hf⟩⟩, fun h =>
    ⟨h.1, fun f hf => (h.2 f hf).1, fun f hf => (h.2 f hf).2⟩⟩

/-! ## Reports and projects -/

/-- Files of which some are faulty. -/
def mixedFiles : List ProjectFile :=
  [⟨"a.xml", "<a/>"⟩, ⟨"C.java", "package p;"⟩, ⟨"b.xml", "<b"⟩,
    ⟨"D.java", "// no\npackage\n p.q;\nenum\tD"⟩, ⟨"E.java", "\n"⟩]

end Report

end SuiteForge
