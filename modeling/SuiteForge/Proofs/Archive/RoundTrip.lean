/-
# Packing a project and reading it back

An archive has an entry for each file, in order, whose name and content are those of the file
(`pack_round_trip`). What keeps a project from being packed:

| obstacle | where it is met |
| --- | --- |
| two files have one path | at the second one |
| a lone surrogate in a content | at its file, before the name is looked at |
| a lone surrogate in a name | at its file |

Names with a NUL, which are cut, names that are too long for an archive, and levels that are none are
left out.
-/

import SuiteForge.Proofs.Archive.StoredNames
import SuiteForge.Proofs.Text.Utf8

namespace SuiteForge

namespace Archive

/-- A name that an archive takes as it is: it holds no NUL, and is not too long. -/
structure Fits (name : Text) : Prop where
  noNul : Symbol.char '\x00' ∉ name
  short : ∀ bytes, name.utf8? = some bytes → bytes.length ≤ maxNameBytes

/-- An entry that holds a file of a project: under its name, with its content. -/
structure Holds (project : Text) (f : ProjectFile) (e : Entry) : Prop where
  name : e.name = entryName project f.path
  writable : ¬ (entryName project f.path).HasSurrogate
  bytes : f.content.utf8? = some e.bytes

variable {trace : TraceId} {level : Option Int} {project : Text} {written : List Text}
  {f : ProjectFile} {files : List ProjectFile} {e : Entry} {entries : List Entry} {p : Project}

theorem Fits.storedName {name : Text} (h : Fits name) : storedName name = name :=
  storedName_of_not_mem h.noNul

/-- **The content of an entry is read as the content of its file.** -/
theorem Holds.content? (h : Holds project f e) : e.content?.map Text.ofChars = some f.content :=
  Utf8.decode?_utf8? h.bytes

/-- What becomes of a file whose name an archive takes. -/
theorem result_entryOf (hlevel : level.all isLevel = true) (hf : Fits (entryName project f.path)) :
    (entryOf trace level project written f).result =
      if entryName project f.path ∈ written then
        .error (.archive (.duplicateEntry (entryName project f.path)))
      else match f.content.utf8?, (entryName project f.path).utf8? with
        | none, _ => .error (.archive (.unencodable project (Utf8.problem f.content)))
        | some _, none =>
          .error (.archive (.unencodable project (Utf8.problem (entryName project f.path))))
        | some bytes, some _ => .ok ⟨entryName project f.path, bytes⟩ := by
  simp only [entryOf, hf.storedName, List.contains_iff_mem]
  split
  · rfl
  · cases f.content.utf8? with
    | none => rfl
    | some bytes =>
      cases hname : (entryName project f.path).utf8? with
      | none => rfl
      | some nameBytes =>
        simp only [hlevel, if_neg (not_lt.2 (hf.short nameBytes hname))]
        rfl

/-- **A file has an entry** if its name is new, and both its name and its content have bytes. -/
theorem entryOf_eq_ok (hlevel : level.all isLevel = true) (hf : Fits (entryName project f.path)) :
    (entryOf trace level project written f).result = .ok e ↔
      entryName project f.path ∉ written ∧ Holds project f e := by
  rw [result_entryOf hlevel hf]
  split
  case isTrue hold => simp [hold]
  case isFalse hnew =>
    rw [and_iff_right hnew]
    cases hcontent : f.content.utf8? with
    | none => exact iff_of_false nofun fun h => by cases hcontent.symm.trans h.bytes
    | some bytes =>
      cases hname : (entryName project f.path).utf8? with
      | none => exact iff_of_false nofun fun h => h.writable (Text.utf8?_eq_none_iff.1 hname)
      | some nameBytes =>
        constructor
        · rintro ⟨⟩
          refine ⟨rfl, fun h => ?_, hcontent⟩
          cases hname.symm.trans (Text.utf8?_eq_none_iff.2 h)
        · intro h
          obtain ⟨name, bytes'⟩ := e
          obtain ⟨rfl, -, hbytes⟩ := h
          obtain rfl : bytes = bytes' := Option.some.inj (hcontent.symm.trans hbytes)
          rfl

/-- **Files have entries** if their names are new and differ, and each can be written. -/
theorem entriesOf_eq_ok (hlevel : level.all isLevel = true)
    (hf : ∀ f ∈ files, Fits (entryName project f.path)) :
    (entriesOf trace level project written files).result = .ok entries ↔
      (files.map (entryName project ·.path)).Nodup ∧
        (∀ f ∈ files, entryName project f.path ∉ written) ∧
        List.Forall₂ (Holds project) files entries := by
  induction files generalizing written entries with
  | nil => simp [entriesOf, eq_comm]
  | cons f rest ih =>
    rw [List.forall_mem_cons] at hf
    simp only [entriesOf, Logged.result_bind, bind_eq_ok, Logged.result_pure,
      entryOf_eq_ok hlevel hf.1, ih hf.2, List.forall₂_cons_left_iff, List.map_cons,
      List.nodup_cons, List.mem_map, List.mem_cons, not_or, forall_eq_or_imp]
    constructor
    · rintro ⟨e, ⟨hnew, he⟩, more, ⟨hnodup, hnews, hmore⟩, h⟩
      exact ⟨⟨fun ⟨g, hg, heq⟩ => (hnews g hg).1 heq, hnodup⟩,
        ⟨hnew, fun g hg => (hnews g hg).2⟩, e, more, he, hmore, (Except.ok.inj h).symm⟩
    · rintro ⟨⟨hfirst, hnodup⟩, ⟨hnew, hnews⟩, e, more, he, hmore, rfl⟩
      exact ⟨e, ⟨hnew, he⟩, more, ⟨hnodup, fun g hg => ⟨fun heq => hfirst ⟨g, hg, heq⟩, hnews g hg⟩,
        hmore⟩, rfl⟩

/-- Files that can all be written have entries. -/
theorem exists_forall₂_holds :
    (∃ entries, List.Forall₂ (Holds project) files entries) ↔
      ∀ f ∈ files, ¬ (entryName project f.path).HasSurrogate ∧ ¬ f.content.HasSurrogate := by
  induction files with
  | nil => simp
  | cons f rest ih =>
    simp only [List.forall₂_cons_left_iff, List.forall_mem_cons, ← ih]
    constructor
    · rintro ⟨_, e, more, he, hmore, rfl⟩
      refine ⟨⟨he.writable, fun h => ?_⟩, more, hmore⟩
      cases he.bytes.symm.trans (Text.utf8?_eq_none_iff.2 h)
    · rintro ⟨⟨hname, hcontent⟩, more, hmore⟩
      obtain ⟨bytes, hbytes⟩ := Option.ne_none_iff_exists'.1 (mt Text.utf8?_eq_none_iff.1 hcontent)
      exact ⟨_, ⟨entryName project f.path, bytes⟩, more, ⟨rfl, hname, hbytes⟩, hmore, rfl⟩

/-- **A project has an archive** if the paths of its files differ and each can be written. -/
theorem pack_eq_ok {a : Archive} (hlevel : level.all isLevel = true)
    (hf : ∀ f ∈ p.files, Fits (entryName p.name f.path)) :
    (pack trace level p).result = .ok a ↔
      p.paths.Nodup ∧ List.Forall₂ (Holds p.name) p.files a.entries := by
  have hnames : (p.files.map (entryName p.name ·.path)).Nodup ↔ p.paths.Nodup := by
    rw [p.map_paths (entryName p.name), List.nodup_map_iff entryName_injective]
  simp only [pack, note, Logged.result_bind, Logged.result_record, ok_bind, bind_eq_ok,
    entriesOf_eq_ok hlevel hf, hnames, Logged.result_pure, List.not_mem_nil]
  constructor
  · rintro ⟨entries, ⟨hnodup, -, h⟩, ha⟩
    exact ⟨hnodup, Except.ok.inj ha ▸ h⟩
  · rintro ⟨hnodup, h⟩
    exact ⟨a.entries, ⟨hnodup, fun _ _ => id, h⟩, rfl⟩

theorem failsOnly_pack (hf : ∀ f ∈ p.files, Fits (entryName p.name f.path)) :
    FailsOnly (fun fault => ∃ a, fault = .archive a) (pack trace level p).result := by
  refine meets_pack.fails.mono fun fault ⟨f, hmem, hfault⟩ => ?_
  cases hfault with
  | archive a => exact ⟨a, rfl⟩
  | longName hname hlong =>
    rw [(hf f hmem).storedName] at hname
    exact absurd ((hf f hmem).short _ hname) (Nat.not_le.2 hlong)

/-- **Packing round-trips or fails cleanly.** It fails with a fault of the archive exactly if two
files have one path, or a lone surrogate stands in a name or a content; without these there is an
archive, with one entry for each file, in order, under the project's name and the file's path, whose
bytes are read as the content of the file; and there is no other fault. -/
theorem pack_round_trip (trace : TraceId) (hlevel : level.all isLevel = true)
    (hf : ∀ f ∈ p.files, Fits (entryName p.name f.path)) :
    ((∃ fault, (pack trace level p).result = .error (.archive fault)) ↔
      ¬ p.paths.Nodup ∨
        ∃ f ∈ p.files, (entryName p.name f.path).HasSurrogate ∨ f.content.HasSurrogate) ∧
    (¬ (∃ fault, (pack trace level p).result = .error (.archive fault)) →
      ∃ a, (pack trace level p).result = .ok a ∧
        List.Forall₂ (fun f e => e.name = entryName p.name f.path ∧
          e.content?.map Text.ofChars = some f.content) p.files a.entries) ∧
    ∀ fault, (pack trace level p).result = .error fault → ∃ a, fault = .archive a := by
  have hfails : FailsOnly (fun fault => ∃ a, fault = .archive a) (pack trace level p).result :=
    failsOnly_pack hf
  have hok : (∃ a, (pack trace level p).result = .ok a) ↔ p.paths.Nodup ∧
      ∀ f ∈ p.files, ¬ (entryName p.name f.path).HasSurrogate ∧ ¬ f.content.HasSurrogate := by
    simp only [pack_eq_ok hlevel hf, exists_and_left, ← exists_forall₂_holds]
    exact and_congr_right fun _ => ⟨fun ⟨a, h⟩ => ⟨a.entries, h⟩, fun ⟨es, h⟩ => ⟨⟨es⟩, h⟩⟩
  have hiff : (∃ fault, (pack trace level p).result = .error (.archive fault)) ↔
      ¬ ∃ a, (pack trace level p).result = .ok a := by
    cases hr : (pack trace level p).result with
    | ok a => simp
    | error fault =>
      obtain ⟨a, rfl⟩ := hfails fault hr
      simp
  refine ⟨?_, ?_, hfails⟩
  · simp only [hiff, hok, not_and_or, not_forall, not_not, exists_prop]
  · rw [hiff, not_not]
    rintro ⟨a, ha⟩
    exact ⟨a, ha, ((pack_eq_ok hlevel hf).1 ha).2.imp fun f e h => ⟨h.name, h.content?⟩⟩

/-- A project of two files, one of them in Greek. -/
def greetingProject : Project where
  name := "demo"
  files := [⟨"a/greeting.txt", "γειά\n"⟩, ⟨"empty.txt", []⟩]

/-- The two files are packed, and read back as they are. -/
theorem pack_round_trip_greetingProject :
    ∃ a, (pack "t" (some 9) greetingProject).result = .ok a ∧
      List.Forall₂ (fun f e => e.name = entryName "demo" f.path ∧
        e.content?.map Text.ofChars = some f.content) greetingProject.files a.entries := by
  have hfits : ∀ f ∈ greetingProject.files, Fits (entryName greetingProject.name f.path) := by
    have hnames : ∀ f ∈ greetingProject.files,
        Symbol.char '\x00' ∉ entryName greetingProject.name f.path ∧
          (entryName greetingProject.name f.path).utf8?.all (·.length ≤ maxNameBytes) = true := by
      decide +kernel
    refine fun f hf => ⟨(hnames f hf).1, fun bytes hbytes => ?_⟩
    simpa [hbytes] using (hnames f hf).2
  have hlevel : (some 9 : Option Int).all isLevel = true := rfl
  obtain ⟨hiff, hok, -⟩ := pack_round_trip "t" hlevel hfits
  refine hok (mt hiff.1 ?_)
  simp only [← Text.utf8?_eq_none_iff]
  decide +kernel

end Archive

end SuiteForge
