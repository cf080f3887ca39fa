/-
# The names in an archive

The entries of an archive have the names of the files as far as an archive keeps names: up to the
first NUL (`meets_pack`). Names are compared before they are cut. So the paths of a packed project
differ, and its entries have different names unless two of these paths are merged
(`pack_names_spec`), which happens to paths that differ behind a NUL only (`pack_merges`).
-/

import SuiteForge.Archive
import SuiteForge.Proofs.Outcome

namespace SuiteForge

theorem Project.map_paths {β : Type} (p : Project) (g : Text → β) :
    p.files.map (g ·.path) = p.paths.map g := by
  rw [Project.paths, List.map_map]
  rfl

namespace Archive

variable {trace : TraceId} {level : Option Int} {project : Text} {written : List Text}
  {f : ProjectFile} {files : List ProjectFile} {p : Project} {a : Archive}

theorem entryName_injective : Function.Injective (entryName project) :=
  fun _ _ h => List.append_cancel_left h

/-- A name without a NUL is kept whole. -/
theorem storedName_of_not_mem {name : Text} (h : Symbol.char '\x00' ∉ name) :
    storedName name = name :=
  List.takeWhile_eq_self_iff.2 fun s hs => by
    have : s ≠ .char '\x00' := fun heq => h (heq ▸ hs)
    simpa using this

/-! ## Packing -/

/-- What keeps a file from being packed: a fault of the archive, or a name that takes more bytes
than an archive has room for. -/
inductive Obstacle (project : Text) (f : ProjectFile) : Fault → Prop
  | archive (fault : ArchiveFault) : Obstacle project f (.archive fault)
  | longName {bytes : List UInt8}
      (name : (storedName (entryName project f.path)).utf8? = some bytes)
      (long : maxNameBytes < bytes.length) : Obstacle project f (.stray .longName)

/-- The entry of a file has the name of the file, which is new. -/
theorem meets_entryOf : Meets (Obstacle project f)
    (fun e => entryName project f.path ∉ written ∧ e.name = storedName (entryName project f.path))
    (entryOf trace level project written f).result := by
  simp only [entryOf, failLogged, List.contains_iff_mem]
  split
  · exact meets_error (.archive _)
  · next hnew =>
    split
    · exact meets_error (.archive _)
    · split
      · exact meets_error (.archive _)
      · next hname =>
        split_ifs with hlong hlevel
        · exact meets_error (.longName hname hlong)
        · exact meets_error (.archive _)
        · exact meets_ok ⟨hnew, rfl⟩

/-- The entries have the names of the files, which are new and differ. -/
theorem meets_entriesOf : Meets (fun fault => ∃ f ∈ files, Obstacle project f fault)
    (fun entries => (files.map (entryName project ·.path)).Nodup ∧
      (∀ f ∈ files, entryName project f.path ∉ written) ∧
      entries.map (·.name) = files.map fun f => storedName (entryName project f.path))
    (entriesOf trace level project written files).result := by
  induction files generalizing written with
  | nil => exact meets_ok ⟨List.nodup_nil, fun f hf => absurd hf List.not_mem_nil, rfl⟩
  | cons f rest ih =>
    refine (meets_entryOf.mono (fun _ h => ⟨f, List.mem_cons_self, h⟩) fun _ => id).bind_result
      fun e he => ?_
    refine (ih.mono (fun _ ⟨g, hg, h⟩ => ⟨g, List.mem_cons_of_mem f hg, h⟩) fun _ => id).bind_result
      fun more hmore => meets_ok ?_
    obtain ⟨hnew, hname⟩ := he
    obtain ⟨honce, hnews, hnames⟩ := hmore
    refine ⟨List.nodup_cons.2 ⟨fun hmem => ?_, honce⟩,
      List.forall_mem_cons.2 ⟨hnew, fun g hg => ?_⟩,
      by rw [List.map_cons, List.map_cons, hname, hnames]⟩
    · obtain ⟨g, hg, heq⟩ := List.mem_map.1 hmem
      exact hnews g hg (heq ▸ List.mem_cons_self)
    · exact fun hmem => hnews g hg (List.mem_cons_of_mem _ hmem)

/-- The names of the files of a project, as an archive keeps them. -/
def storedNames (p : Project) : List Text :=
  p.paths.map fun path => storedName (entryName p.name path)

/-- **A packed project** has paths that differ, and its entries have the names of its files. -/
theorem meets_pack : Meets (fun fault => ∃ f ∈ p.files, Obstacle p.name f fault)
    (fun a => p.paths.Nodup ∧ a.entries.map (·.name) = storedNames p)
    (pack trace level p).result := by
  refine (meets_ok trivial : Meets _ (fun _ => True) _).bind_result fun _ _ => ?_
  refine meets_entriesOf.bind_result fun entries ⟨honce, _, hnames⟩ => ?_
  refine (meets_ok trivial : Meets _ (fun _ => True) _).bind_result fun _ _ => meets_ok ⟨?_, ?_⟩
  · rwa [p.map_paths (entryName p.name), List.nodup_map_iff entryName_injective] at honce
  · exact hnames.trans (p.map_paths fun path => storedName (entryName p.name path))

/-! ## Merged paths -/

/-- Two different paths of a project have names of which an archive keeps the same. -/
def Merges (p : Project) : Prop := ∃ a ∈ p.paths, ∃ b ∈ p.paths,
  a ≠ b ∧ storedName (entryName p.name a) = storedName (entryName p.name b)

theorem nodup_storedNames_iff (once : p.paths.Nodup) : (storedNames p).Nodup ↔ ¬Merges p := by
  rw [storedNames, List.nodup_map_iff_inj_on once, Merges]
  simp only [not_exists, not_and, ne_eq, not_imp_not]

/-- Without a NUL in their names, no paths are merged. -/
theorem not_merges (h : ∀ path ∈ p.paths, Symbol.char '\x00' ∉ entryName p.name path) :
    ¬Merges p := by
  rintro ⟨a, ha, b, hb, hne, heq⟩
  rw [storedName_of_not_mem (h a ha), storedName_of_not_mem (h b hb)] at heq
  exact hne (entryName_injective heq)

/-- **Which names the entries of an archive have.** A packed project has an entry for each file,
and their names differ exactly if no two different paths are merged. Where stored names do not
differ although no paths are merged, the project is not packed, for a fault of the archive or a name
that is too long. Only with a NUL in a name are paths merged. -/
theorem pack_names_spec (trace : TraceId) (level : Option Int) (p : Project) :
    (∀ a, (pack trace level p).result = .ok a → a.entries.length = p.files.length ∧
      a.entries.map (·.name) = storedNames p ∧
      ((a.entries.map (·.name)).Nodup ↔ ¬Merges p)) ∧
    (¬(storedNames p).Nodup → ¬Merges p → ∃ fault, (pack trace level p).result = .error fault ∧
      ∃ f ∈ p.files, Obstacle p.name f fault) ∧
    ((∀ path ∈ p.paths, Symbol.char '\x00' ∉ entryName p.name path) → ¬Merges p) := by
  refine ⟨fun a ha => ?_, fun hsame hmerges => ?_, not_merges⟩
  · obtain ⟨honce, hnames⟩ := meets_pack.gives a ha
    refine ⟨?_, hnames, hnames ▸ nodup_storedNames_iff honce⟩
    simpa [storedNames, ← p.map_paths] using congrArg List.length hnames
  · cases hresult : (pack trace level p).result with
    | ok a =>
      exact absurd ((nodup_storedNames_iff (meets_pack.gives a hresult).1).2 hmerges) hsame
    | error fault => exact ⟨fault, rfl, meets_pack.fails fault hresult⟩

/-- A project with two paths that differ behind a NUL only. -/
def nulProject : Project where
  name := "demo"
  files := [⟨"a\x00b", "1"⟩, ⟨"a\x00c", "2"⟩]

/-- **Paths that are merged do not keep a project from being packed.** -/
theorem pack_merges :
    (pack "t" none nulProject).result = .ok ⟨[⟨"demo/a", [0x31]⟩, ⟨"demo/a", [0x32]⟩]⟩ ∧
      ¬∀ trace level p a, (pack trace level p).result = .ok a →
        (a.entries.map (·.name)).Nodup := by
  have hpack : (pack "t" none nulProject).result =
      .ok ⟨[⟨"demo/a", [0x31]⟩, ⟨"demo/a", [0x32]⟩]⟩ := by decide +kernel
  refine ⟨hpack, fun h => ?_⟩
  have hnodup := h _ _ _ _ hpack
  revert hnodup
  decide +kernel

end Archive

end SuiteForge
