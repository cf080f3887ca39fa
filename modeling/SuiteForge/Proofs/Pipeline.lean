/-
# Requests one after the other

All requests of a pipeline share its session, and with it the templates that earlier ones have
compiled. What a request comes to does not depend on them (`Pipeline.serve_carries_nothing`), whatever
they were and however they ended.

| part of the session | after some requests |
| --- | --- |
| templates | those that the requests have reached in rendering, under their names |
| log | the records of all requests, which nothing reads |
-/

import SuiteForge.Pipeline
import SuiteForge.Proofs.Suite.Kept
import SuiteForge.Proofs.Trace

namespace SuiteForge

namespace Rendering

variable {α : Type}

theorem yields_ofLogged (x : Logged Fault α) : (ofLogged x).Yields x.result :=
  fun s hs => yields_ofExcept x.result { s with log := s.log ++ x.log } hs

theorem keeps_ofLogged (x : Logged Fault α) : (ofLogged x).Keeps [] :=
  fun s hs => keeps_ofExcept x.result { s with log := s.log ++ x.log } hs

end Rendering

namespace Pipeline

/-- A request: its trace, and the text that it brings. -/
structure Request where
  trace : TraceId
  text : List Char

section Machine

variable [Machine]

/-- What a request is to do. -/
def Request.run (settings : Settings) (r : Request) : Rendering Archive :=
  Pipeline.run TemplateDirectory.bundled settings r.trace r.text

/-- The session after some requests, one after the other, with a session to begin with. -/
def serve (settings : Settings) (s : Session) (requests : List Request) : Session :=
  requests.foldl (fun s r => (r.run settings).after s) s

/-- What a contract comes to: the files of its tasks, put together. -/
def project (settings : Settings) (contract : Contract) : Except Fault Project := do
  let files ← (contract.tasks settings).mapM Task.checked
  Project.assemble (contract.projectName settings) files

/-- What a text comes to: the project of its contract, packed. -/
def answer (settings : Settings) (text : List Char) : Except Fault Archive := do
  let contract ← (translate [] settings.defaultUrl text).result
  let project ← project settings contract
  (Archive.pack [] none project).result

/-- The templates that a text reaches in rendering: none unless it has a contract, and otherwise
those of the contract's tasks, up to the first task whose path breaks a rule. -/
def reached (settings : Settings) (text : List Char) : List TemplateId :=
  (translate [] settings.defaultUrl text).result.toOption.elim [] fun contract =>
    (Task.started (contract.tasks settings)).map (·.context.template)

/-- **A request comes to what its text comes to.** -/
theorem yields_run (settings : Settings) (r : Request) :
    (r.run settings).Yields (answer settings r.text) := by
  refine (Rendering.yields_record _ _ _).next ((Rendering.yields_record _ _ _).next ?_)
  have htranslate := Rendering.yields_ofLogged (translate r.trace settings.defaultUrl r.text)
  rw [result_translate r.trace [] settings.defaultUrl r.text] at htranslate
  refine htranslate.bind fun contract => (Rendering.yields_record _ _ _).next ?_
  refine (yields_generate settings r.trace contract).bind fun project => ?_
  have hpack := Rendering.yields_ofLogged (Archive.pack r.trace none project)
  rw [Archive.result_pack r.trace [] none project] at hpack
  refine (Rendering.yields_record _ _ _).next (hpack.also fun archive => ?_)
  exact (Rendering.yields_record _ _ _).next (Rendering.yields_pure archive)

/-- **A request keeps the templates that its text reaches.** -/
theorem keeps_run (settings : Settings) (r : Request) :
    (r.run settings).Keeps (reached settings r.text) := by
  refine .next (Rendering.yields_record _ _ _) (Rendering.keeps_record _ _ _) ?_
  refine .next (Rendering.yields_record _ _ _) (Rendering.keeps_record _ _ _) ?_
  have htranslate := Rendering.yields_ofLogged (translate r.trace settings.defaultUrl r.text)
  rw [result_translate r.trace [] settings.defaultUrl r.text] at htranslate
  refine (Rendering.keeps_ofLogged _).bind htranslate fun contract _ => ?_
  refine .next (Rendering.yields_record _ _ _) (Rendering.keeps_record _ _ _) ?_
  refine (keeps_generate settings r.trace contract).before
    (yields_generate settings r.trace contract) fun project => ?_
  refine .next (Rendering.yields_record _ _ _) (Rendering.keeps_record _ _ _) ?_
  refine (Rendering.keeps_ofLogged _).before (Rendering.yields_ofLogged _) fun archive => ?_
  exact .next (Rendering.yields_record _ _ _) (Rendering.keeps_record _ _ _)
    (Rendering.keeps_pure archive)

/-! ## Serving -/

theorem isBundled_serve (settings : Settings) {s : Session} (hs : s.IsBundled)
    (requests : List Request) : (serve settings s requests).IsBundled := by
  induction requests generalizing s with
  | nil => exact hs
  | cons r rest ih => exact ih ((yields_run settings r) s hs).2

/-- **The templates after some requests** are those that they have reached, in this order. -/
theorem cache_serve (settings : Settings) {s : Session} (hs : s.IsBundled)
    (requests : List Request) : (serve settings s requests).cache =
      s.cache.keep (requests.flatMap fun r => reached settings r.text) := by
  induction requests generalizing s with
  | nil => rfl
  | cons r rest ih =>
    show (serve settings ((r.run settings).after s) rest).cache = _
    rw [ih ((yields_run settings r) s hs).2, keeps_run settings r s hs, List.flatMap_cons,
      TemplateCache.keep_append]

omit [Machine] in
/-- A cache has no more than the five templates of a suite. -/
theorem size_keep_le (ids : List TemplateId) : (TemplateCache.empty.keep ids).size ≤ 5 := by
  have hnames : (TemplateCache.empty.keep ids).entries.map (·.1) ⊆
      TemplateId.all.map TemplateId.name := by
    intro name hname
    obtain ⟨e, he, rfl⟩ := List.mem_map.1 hname
    cases hlookup : (TemplateCache.empty.keep ids).entries.lookup e.1 with
    | none => simpa using List.lookup_eq_none_iff.1 hlookup e he
    | some t =>
      rcases TemplateCache.lookup_keep.1 hlookup with h | ⟨-, i, -, hi, -⟩
      · cases h
      · rw [hi]
        cases i <;> simp [TemplateId.all]
  have hnodup := TemplateCache.nodup_keys_keep (c := .empty) List.nodup_nil ids
  simpa [TemplateCache.size, TemplateId.all] using (hnodup.subperm hnames).length_le

/-- **A pipeline carries nothing from one request to the next.** After any requests, whatever texts
they brought and however they ended, a text comes to what it comes to in a fresh session, for any
trace. The templates that are kept are those that one of the requests has reached; they stay, and
there are five at most. -/
theorem serve_carries_nothing (settings : Settings) (requests : List Request) :
    (∀ (trace trace' : TraceId) (text : List Char),
      (Pipeline.run TemplateDirectory.bundled settings trace text).outcome
          (serve settings .fresh requests) =
        (Pipeline.run TemplateDirectory.bundled settings trace' text).outcome .fresh) ∧
    (∀ (name : Text) (t : Option Template),
      (serve settings .fresh requests).cache.entries.lookup name = some t ↔
        ∃ i, name = i.name ∧ t = some i.template ∧ ∃ r ∈ requests, i ∈ reached settings r.text) ∧
    (∀ more, (serve settings .fresh requests).cache.entries <+:
      (serve settings .fresh (requests ++ more)).cache.entries) ∧
    (serve settings .fresh requests).cache.size ≤ 5 := by
  have hbundled := isBundled_serve settings isBundled_fresh requests
  have hcache := cache_serve settings isBundled_fresh requests
  refine ⟨fun trace trace' text => ?_, fun name t => ?_, fun more => ?_, ?_⟩
  · exact ((yields_run settings ⟨trace, text⟩) _ hbundled).1.trans
      ((yields_run settings ⟨trace', text⟩) _ isBundled_fresh).1.symm
  · rw [hcache, TemplateCache.lookup_keep]
    constructor
    · rintro (h | ⟨-, i, hi, hname, ht⟩)
      · cases h
      · obtain ⟨r, hr, hi⟩ := List.mem_flatMap.1 hi
        exact ⟨i, hname, ht, r, hr, hi⟩
    · rintro ⟨i, hname, ht, r, hr, hi⟩
      exact .inr ⟨rfl, i, List.mem_flatMap.2 ⟨r, hr, hi⟩, hname, ht⟩
  · rw [hcache, cache_serve settings isBundled_fresh, List.flatMap_append,
      TemplateCache.keep_append]
    exact TemplateCache.entries_prefix_keep _ _
  · rw [hcache]
    exact size_keep_le _

end Machine

end Pipeline

end SuiteForge
