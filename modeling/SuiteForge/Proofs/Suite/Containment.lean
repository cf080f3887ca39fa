/-
# How a generation ends without a project

A suite that is not made ends with a fault of generation, or its XML files hold a lone surrogate
(`generate_contained_iff`). A document can spell one, and it passes every stage as data; only the
check of the XML files has to encode it.

| paths | lone surrogate in an XML file | end |
| --- | --- | --- |
| clash | | a fault of generation |
| differ | | `.stray .unencodable` |
| differ | none | a project, or a fault of generation |

The texts that reach an XML file are title and version of the contract, and group and suffix of the
settings (`Contract.Encodes`).
-/

import SuiteForge.Proofs.Suite.Failure
import SuiteForge.Proofs.Suite.Layout
import SuiteForge.Proofs.Suite.Segments
import SuiteForge.Proofs.Translate.Endpoints

namespace SuiteForge

/-! ## Encoding -/

namespace Xml

theorem encodable_of_isSome_chars? {t : Text} (h : t.chars?.isSome = true) : Encodable t := by
  induction t with
  | nil => exact fun _ hs => absurd hs List.not_mem_nil
  | cons s rest ih =>
    rw [Text.chars?, List.mapM_cons] at h
    obtain ⟨c, hc⟩ : ∃ c, s.char? = some c := by
      cases hs : s.char? with
      | none => simp [hs] at h
      | some c => exact ⟨c, rfl⟩
    have hrest : (Text.chars? rest).isSome = true := by
      cases hmore : Text.chars? rest with
      | none =>
        rw [Text.chars?] at hmore
        simp [hc, hmore] at h
      | some cs => rfl
    exact List.forall_mem_cons.2 ⟨by rw [hc]; rfl, ih hrest⟩

/-- Escaping leaves a surrogate as it is. -/
theorem encodable_of_escapeXml {t : Text} (h : Encodable (escapeXml t)) : Encodable t := by
  intro s hs
  cases s with
  | char c => rfl
  | surrogate n =>
    have hescape : escapeXmlSymbol (.surrogate n) = [.surrogate n] := by simp [escapeXmlSymbol]
    refine h _ (List.mem_flatMap.2 ⟨_, hs, ?_⟩)
    rw [hescape]
    exact List.mem_singleton_self _

/-- What the build file outputs can be encoded where the file can. -/
theorem encodable_of_output {c : DescriptorContext} {ref : Ref} {value : Text}
    (h : Encodable (Context.descriptor c).text) (piece : .output ref [] ∈ Bundled.descriptor)
    (found : ref.find c.scope = .ok (.text value)) : Encodable value := by
  refine encodable_of_escapeXml fun s hs => h s ?_
  refine (Template.mem_renderPieces (renderPieces_descriptor c)).2 ⟨_, piece, _, ?_, hs⟩
  rw [Template.renderPiece, found]
  rfl

end Xml

/-- No lone surrogate stands in the texts of a contract and settings that reach an XML file. -/
structure Contract.Encodes (c : Contract) (settings : Settings) : Prop where
  title : Xml.Encodable c.title
  version : Xml.Encodable c.version
  groupId : Xml.Encodable settings.groupId
  projectSuffix : Xml.Encodable settings.projectSuffix

section Files

variable {c : Contract} {settings : Settings}

/-- A project's name can be encoded where its suffix can. -/
theorem encodable_projectName :
    Xml.Encodable (c.projectName settings) ↔ Xml.Encodable settings.projectSuffix := by
  obtain ⟨first, rest, heq, hfirst, hrest⟩ := projectName_eq c.title settings.projectSuffix
  have hslug : ∀ {s : Symbol}, isSlugSymbol s = true → s.char?.isSome = true := fun hs =>
    (Symbol.IsPlain.of_isAsciiAlnum (isAsciiAlnum_of_isSlugSymbol hs)).isSome_char?
  have hwords : Xml.Encodable (first :: rest) := by
    refine List.forall_mem_cons.2 ⟨hslug hfirst, fun s hs => ?_⟩
    have hsymbol := hrest s hs
    rw [Bool.or_eq_true, beq_iff_eq] at hsymbol
    rcases hsymbol with hs | rfl
    · exact hslug hs
    · rfl
  rw [Contract.projectName, heq, ← List.cons_append]
  exact ⟨fun h s hs => h s (List.mem_append_right _ hs), hwords.append⟩

/-- The names in the list of the test classes can be encoded, with accepted settings. -/
theorem encodable_testClasses (h : settings.check = .ok settings) :
    ∀ name ∈ (c.suite settings).testClasses, Xml.Encodable name := by
  intro name hname
  obtain ⟨g, -, rfl⟩ := List.mem_map.1 hname
  have hpackage : Settings.isPackage settings.testPackage = true :=
    isPackage_subpackage (Settings.check_eq_ok.1 h).1 (by decide)
  have hencodable : Xml.Encodable settings.testPackage := fun s hs =>
    (isPlain_of_isPackage hpackage s hs).isSome_char?
  have hclass : Xml.Encodable (testClassName g.1) := fun s hs =>
    (isPlain_className (isClassName_testClassName g.1) s hs).isSome_char?
  exact (hencodable.append (Xml.encodable_ofString ".")).append hclass

/-- **The build file can be encoded if and only if the texts that reach an XML file can.** -/
theorem encodable_descriptor_iff :
    Xml.Encodable (Context.descriptor (c.descriptor settings)).text ↔ c.Encodes settings := by
  constructor
  · intro h
    have hgroup : Template.var "group_id" [] ∈ Bundled.descriptor := by simp [Bundled.descriptor]
    have hname : Template.var "project_name" [] ∈ Bundled.descriptor := by
      simp [Bundled.descriptor]
    have htitle : Template.var "api_title" [] ∈ Bundled.descriptor := by simp [Bundled.descriptor]
    have hversion : Template.var "api_version" [] ∈ Bundled.descriptor := by
      simp [Bundled.descriptor]
    exact ⟨Xml.encodable_of_output h htitle rfl, Xml.encodable_of_output h hversion rfl,
      Xml.encodable_of_output h hgroup rfl,
      encodable_projectName.1 (Xml.encodable_of_output h hname rfl)⟩
  · intro h
    have hname : Xml.Encodable (c.projectName settings) := encodable_projectName.2 h.projectSuffix
    exact Xml.encodable_descriptor h.groupId hname hname h.title h.version

/-- The XML files of a suite are two. -/
theorem xml_cases {f : ProjectFile} (hf : f ∈ (c.tasks settings).map Task.file)
    (hxml : Report.isXmlFile f = true) :
    f = (Task.ofDescriptor (c.descriptor settings)).file ∨ f = c.listFile settings := by
  have hsource : ∀ package name content : Text,
      f = ⟨sourcePath package name, content⟩ → False := by
    rintro package name content rfl
    rw [isXmlFile_sourcePath] at hxml
    cases hxml
  simp only [map_file_tasks, List.mem_append, List.mem_cons, List.not_mem_nil, or_false,
    List.mem_map] at hf
  rcases hf with ((hf | hf | hf) | ⟨m, -, hf⟩) | ⟨k, -, hf⟩
  · exact .inl hf
  · exact .inr hf
  · exact (hsource _ _ _ hf).elim
  · exact (hsource _ _ _ hf.symm).elim
  · exact (hsource _ _ _ hf.symm).elim

/-- **The XML files of a suite can be encoded if the texts that reach them can.** -/
theorem isSome_chars?_of_encodes (h : settings.check = .ok settings) (hc : c.Encodes settings) :
    ∀ f ∈ (c.tasks settings).map Task.file, Report.isXmlFile f = true →
      f.content.chars?.isSome = true := by
  intro f hf hxml
  rcases xml_cases hf hxml with rfl | rfl
  · exact Xml.isSome_chars? (encodable_descriptor_iff.2 hc)
  · exact Xml.isSome_chars? (Xml.encodable_suite (hc.title.append (Xml.encodable_ofString _))
      (hc.title.append (Xml.encodable_ofString _)) (encodable_testClasses h))

theorem exists_unencodable (hc : ¬c.Encodes settings) :
    ∃ f ∈ (c.tasks settings).map Task.file,
      Report.isXmlFile f = true ∧ f.content.chars? = none := by
  have hmem : Task.ofDescriptor (c.descriptor settings) ∈ c.tasks settings := by
    simp [Contract.tasks, Contract.fixedTasks]
  refine ⟨_, List.mem_map_of_mem hmem, isXmlFile_descriptor _, ?_⟩
  rw [← Option.not_isSome_iff_eq_none]
  exact fun hsome => hc (encodable_descriptor_iff.1 (Xml.encodable_of_isSome_chars? hsome))

end Files

/-! ## Putting files together -/

namespace Report

variable {files : List ProjectFile}

theorem ofXml_go_eq_error (report : Report) (h : ∃ f ∈ files, f.content.chars? = none) :
    ofXml.go report files = .error (.stray .unencodable) := by
  induction files generalizing report with
  | nil =>
    obtain ⟨f, hf, -⟩ := h
    cases hf
  | cons f rest ih =>
    rw [ofXml.go]
    cases hf : f.content.chars? with
    | none =>
      rw [xmlFault?, hf]
      rfl
    | some cs =>
      have hrest : ∃ f ∈ rest, f.content.chars? = none := by
        obtain ⟨g, hg, hnone⟩ := h
        rcases List.mem_cons.1 hg with rfl | hg
        · cases hf.symm.trans hnone
        · exact ⟨g, hg, hnone⟩
      rw [xmlFault?, hf, ok_bind]
      split
      · exact ih _ hrest
      · exact ih _ hrest

/-- An XML file that cannot be encoded ends the report. -/
theorem ofXml_eq_error (h : ∃ f ∈ files, isXmlFile f = true ∧ f.content.chars? = none) :
    ofXml files = .error (.stray .unencodable) := by
  obtain ⟨f, hf, hxml, hnone⟩ := h
  exact ofXml_go_eq_error [] ⟨f, List.mem_filter.2 ⟨hf, hxml⟩, hnone⟩

end Report

section Assemble

variable {name : Text} {files : List ProjectFile}

/-- Files with equal paths are reported, and their contents not looked at. -/
theorem assemble_of_duplicate (name : Text) (hfiles : files ≠ [])
    (h : ¬(files.map (·.path)).Nodup) :
    ∃ report, Project.assemble name files = .error (.generation (.inconsistent name report)) := by
  rw [← Report.ofPaths_eq_nil] at h
  obtain ⟨e, rest, hpaths⟩ := List.exists_cons_of_ne_nil h
  refine ⟨e :: rest, ?_⟩
  rw [Project.assemble, if_neg (by simpa using hfiles), Report.ofFiles, hpaths]
  rfl

/-- An XML file that cannot be encoded gets through. -/
theorem assemble_of_unencodable (hfiles : files ≠ []) (hpaths : (files.map (·.path)).Nodup)
    (h : ∃ f ∈ files, Report.isXmlFile f = true ∧ f.content.chars? = none) :
    Project.assemble name files = .error (.stray .unencodable) := by
  rw [Project.assemble, if_neg (by simpa using hfiles), Report.ofFiles,
    Report.ofPaths_eq_nil.2 hpaths, Report.ofXml_eq_error h]
  rfl

/-- Files whose XML can be encoded are put together or reported. -/
theorem assemble_of_encodable (hname : name.isBlank = false) (hfiles : files ≠ [])
    (h : ∀ f ∈ files, Report.isXmlFile f = true → f.content.chars?.isSome = true) :
    Project.assemble name files = .ok ⟨name, files⟩ ∨
      ∃ report, Project.assemble name files = .error (.generation (.inconsistent name report)) := by
  by_cases hclean : Report.Clean files
  · exact .inl (assemble_of_clean hname hfiles h hclean)
  · exact .inr (assemble_of_not_clean hfiles h hclean)

end Assemble

/-! ## Outcomes -/

/-- Generating ended with a project, or with a fault of generation or of a template. -/
def GenerationContained (result : Except Fault Project) : Prop :=
  (∃ p, result = .ok p) ∨ (∃ f, result = .error (.generation f)) ∨
    ∃ f, result = .error (.template f)

theorem not_contained_unencodable :
    ¬GenerationContained (.error (.stray .unencodable)) := by
  rintro (⟨p, h⟩ | ⟨f, h⟩ | ⟨f, h⟩) <;> cases h

/-- **What a generation ends with.** With accepted settings it is a project, or a fault of
generation or of a template, if and only if classes clash or no lone surrogate stands in the texts
that reach an XML file. Otherwise the check of the XML files fails to encode one, and nothing else
gets through. -/
theorem generate_contained_iff {settings : Settings} {s : Session} (trace : TraceId)
    (haccepted : settings.check = .ok settings) (hs : s.IsBundled) (c : Contract) :
    (GenerationContained ((generate TemplateDirectory.bundled settings trace c).outcome s) ↔
      c.GroupsClash ∨ c.SchemasClash ∨ c.Encodes settings) ∧
    (¬GenerationContained ((generate TemplateDirectory.bundled settings trace c).outcome s) →
      (generate TemplateDirectory.bundled settings trace c).outcome s =
        .error (.stray .unencodable)) := by
  rw [outcome_generate trace haccepted hs]
  have hfiles := files_ne_nil c settings
  have hpaths : (((c.tasks settings).map Task.file).map (·.path)).Nodup ↔
      ¬c.SchemasClash ∧ ¬c.GroupsClash := by
    rw [List.map_map, show ((c.tasks settings).map ((·.path) ∘ Task.file)) =
      (c.tasks settings).map (·.path) from rfl, nodup_paths, Contract.nodup_models,
      Contract.nodup_testClasses]
  by_cases hnodup : (((c.tasks settings).map Task.file).map (·.path)).Nodup
  · obtain ⟨hschemas, hgroups⟩ := hpaths.1 hnodup
    by_cases hc : c.Encodes settings
    · have hcontained : GenerationContained
          (Project.assemble (c.projectName settings) ((c.tasks settings).map Task.file)) := by
        rcases assemble_of_encodable (isBlank_projectName c settings) hfiles
          (isSome_chars?_of_encodes haccepted hc) with h | ⟨report, h⟩
        · exact .inl ⟨_, h⟩
        · exact .inr (.inl ⟨_, h⟩)
      exact ⟨iff_of_true hcontained (.inr (.inr hc)), fun hno => absurd hcontained hno⟩
    · rw [assemble_of_unencodable hfiles hnodup (exists_unencodable hc)]
      refine ⟨iff_of_false not_contained_unencodable ?_, fun _ => rfl⟩
      rintro (hclash | hclash | hencodes)
      · exact hgroups hclash
      · exact hschemas hclash
      · exact hc hencodes
  · obtain ⟨report, hreport⟩ := assemble_of_duplicate (c.projectName settings) hfiles hnodup
    have hclash : c.GroupsClash ∨ c.SchemasClash := by tauto
    have hcontained : GenerationContained
        (Project.assemble (c.projectName settings) ((c.tasks settings).map Task.file)) :=
      .inr (.inl ⟨_, hreport⟩)
    exact ⟨iff_of_true hcontained (hclash.elim .inl (.inr ∘ .inl)),
      fun hno => absurd hcontained hno⟩

/-- Half of a surrogate pair as a title gets through, unless two classes have one name. -/
theorem generate_contained_iff_listContract :
    (generate TemplateDirectory.bundled .default "t" (listContract [.surrogate 0] ["/pets"])
      ).outcome .fresh = .error (.stray .unencodable) ∧
    GenerationContained ((generate TemplateDirectory.bundled .default "t"
      (listContract [.surrogate 0] ["/pets", "/pets-"])).outcome .fresh) ∧
    GenerationContained ((generate TemplateDirectory.bundled .default "t"
      (listContract "Pets" ["/pets"])).outcome .fresh) := by
  have hends := fun c => generate_contained_iff "t" suits_default.accepted isBundled_fresh c
  have hlone : ¬(listContract [.surrogate 0] ["/pets"]).Encodes .default := fun h =>
    absurd (h.title _ List.mem_cons_self) (by decide)
  have hgroups : ¬(listContract [.surrogate 0] ["/pets"]).GroupsClash :=
    (Contract.nodup_testClasses _ .default).1 (by decide +kernel)
  refine ⟨(hends _).2 fun hcontained => ?_, (hends _).1.2 (.inl ?_), (hends _).1.2 (.inr (.inr ?_))⟩
  · rcases (hends _).1.1 hcontained with hclash | hclash | hencodes
    · exact hgroups hclash
    · exact not_schemasClash_listContract _ _ hclash
    · exact hlone hencodes
  · exact ⟨_, List.mem_cons_self, _, List.mem_cons_of_mem _ List.mem_cons_self, by decide +kernel,
      by decide +kernel⟩
  · exact ⟨Xml.encodable_ofString _, Xml.encodable_ofString _, Xml.encodable_ofString _,
      Xml.encodable_ofString _⟩

/-- A document whose title is half of a surrogate pair. -/
def surrogateText : List Char :=
  ("openapi: 3.0.0\ninfo:\n title: \"\\ud800\"\npaths:\n /a:\n  get:\n   a: b\n").toList

/-- The document is translated, and then half of a surrogate pair gets through. -/
theorem generate_not_contained :
    (∃ c, (translate "trace" defaultBaseUrl surrogateText).result = .ok c ∧
      (generate TemplateDirectory.bundled .default "trace" c).outcome .fresh =
        .error (.stray .unencodable)) ∧
    ¬∀ text c, (translate "trace" defaultBaseUrl text).result = .ok c →
      GenerationContained
        ((generate TemplateDirectory.bundled .default "trace" c).outcome .fresh) := by
  have hparts : ((translate "trace" defaultBaseUrl surrogateText).result.toOption.map fun c =>
      (c.title, c.endpoints.map (·.path), c.schemas.map (·.1))) =
        some ([.surrogate 0], [Text.ofString "/a"], []) := by
    decide +kernel
  obtain ⟨c, hc⟩ : ∃ c, (translate "trace" defaultBaseUrl surrogateText).result = .ok c := by
    cases h : (translate "trace" defaultBaseUrl surrogateText).result with
    | error f =>
      rw [h] at hparts
      cases hparts
    | ok c => exact ⟨c, rfl⟩
  rw [hc] at hparts
  obtain ⟨htitle, hrest⟩ := Prod.mk.inj (Option.some.inj hparts)
  obtain ⟨hpaths, hschemas⟩ := Prod.mk.inj hrest
  have hgroups : ¬c.GroupsClash := by
    rintro ⟨e, he, e', he', hne, -⟩
    have hpath : ∀ e ∈ c.endpoints, e.path = Text.ofString "/a" := fun e he =>
      List.mem_singleton.1 (hpaths ▸ List.mem_map_of_mem he)
    exact hne (by rw [hpath e he, hpath e' he'])
  have hclash : ¬c.SchemasClash := by
    rintro ⟨p, q, hsub, -⟩
    rw [List.map_eq_nil_iff.1 hschemas] at hsub
    cases hsub
  have hlone : ¬c.Encodes .default := fun h =>
    absurd (h.title (.surrogate 0) (by rw [htitle]; exact List.mem_singleton_self _)) (by decide)
  have hends : (generate TemplateDirectory.bundled .default "trace" c).outcome .fresh =
      .error (.stray .unencodable) := by
    have hiff := generate_contained_iff "trace" suits_default.accepted isBundled_fresh c
    refine hiff.2 fun hcontained => ?_
    rcases hiff.1.1 hcontained with h | h | h
    · exact hgroups h
    · exact hclash h
    · exact hlone h
  refine ⟨⟨c, hc, hends⟩, fun hall => not_contained_unencodable ?_⟩
  have hcontained := hall surrogateText c hc
  rwa [hends] at hcontained

end SuiteForge
