/-
# What a rendering keeps

A session keeps the templates that a rendering has reached, and no others (`Rendering.Keeps`): one
rule for each step, as for what the rendering comes to. A suite reaches the templates of its tasks,
up to the first task whose path breaks a rule (`Task.started`).
-/

import SuiteForge.Proofs.Suite.Paths
import SuiteForge.Proofs.Template.Store

namespace SuiteForge

/-! ## Templates of a suite in a cache -/

/-- The cache with templates of a suite stored in it, one after the other. -/
def TemplateCache.keep (c : TemplateCache Template) (ids : List TemplateId) :
    TemplateCache Template :=
  ids.foldl (fun c i => (c.store i.name (some i.template)).2) c

namespace TemplateCache

variable {c : TemplateCache Template} {ids : List TemplateId} {name : Text} {t : Option Template}

theorem keep_append (c : TemplateCache Template) (ids more : List TemplateId) :
    c.keep (ids ++ more) = (c.keep ids).keep more :=
  List.foldl_append

theorem entries_prefix_keep (c : TemplateCache Template) (ids : List TemplateId) :
    c.entries <+: (c.keep ids).entries := by
  induction ids generalizing c with
  | nil => exact List.prefix_rfl
  | cons i rest ih => exact entries_prefix_store.trans (ih _)

theorem nodup_keys_keep (h : (c.entries.map (·.1)).Nodup) (ids : List TemplateId) :
    ((c.keep ids).entries.map (·.1)).Nodup := by
  induction ids generalizing c with
  | nil => exact h
  | cons i rest ih => exact ih (nodup_keys_store h)

/-- **A cache has what it had before**, and under a name that was free the template of that name, if
it was stored. -/
theorem lookup_keep : (c.keep ids).entries.lookup name = some t ↔
    c.entries.lookup name = some t ∨
      (c.entries.lookup name = none ∧ ∃ i ∈ ids, name = i.name ∧ t = some i.template) := by
  induction ids generalizing c with
  | nil => simp [keep]
  | cons i rest ih =>
    rw [keep, List.foldl_cons, ← keep, ih]
    by_cases hname : name = i.name
    · subst hname
      have hsame : ∀ j : TemplateId, i.name = j.name ↔ i = j := fun j => name_injective.eq_iff
      rw [lookup_store_self]
      cases hlookup : c.entries.lookup i.name with
      | some kept => simp [store_of_lookup_eq_some hlookup]
      | none => simp [store_of_lookup_eq_none hlookup, hsame, eq_comm]
    · simp [lookup_store_of_ne hname, hname]

end TemplateCache

namespace Rendering

variable {α β : Type}

/-- In every session that keeps the templates of the suite, a computation adds these templates. -/
def Keeps (x : Rendering α) (ids : List TemplateId) : Prop :=
  ∀ s : Session, s.IsBundled → (x.after s).cache = s.cache.keep ids

variable {x : Rendering α} {f : α → Rendering β} {r : Except Fault α} {a : α}
  {ids more : List TemplateId}

theorem keeps_pure (a : α) : (pure a : Rendering α).Keeps [] := fun _ _ => rfl

theorem keeps_ofExcept (r : Except Fault α) : (ofExcept r).Keeps [] := by
  cases r <;> exact fun _ _ => rfl

theorem keeps_fail (e : Fault) : (fail e : Rendering α).Keeps [] := fun _ _ => rfl

theorem keeps_record (level : Level) (channel : Channel) (text : Text) :
    (record level channel text).Keeps [] := fun _ _ => rfl

theorem Keeps.bind {g : α → List TemplateId} (hx : x.Yields r) (hkeeps : x.Keeps ids)
    (hf : ∀ a, r = .ok a → (f a).Keeps (g a)) : (x >>= f).Keeps (ids ++ r.toOption.elim [] g) := by
  intro s hs
  obtain ⟨houtcome, hafter⟩ := hx s hs
  unfold after
  rw [run_bind, houtcome]
  cases r with
  | ok a =>
    show ((f a).after (x.after s)).cache = s.cache.keep (ids ++ g a)
    rw [hf a rfl _ hafter, hkeeps s hs, TemplateCache.keep_append]
  | error e =>
    show (x.after s).cache = s.cache.keep (ids ++ [])
    rw [hkeeps s hs, List.append_nil]

/-- A step whose value is known and that reaches no template. -/
theorem Keeps.next (hx : x.Yields (.ok a)) (hkeeps : x.Keeps []) (hf : (f a).Keeps ids) :
    (x >>= f).Keeps ids :=
  hkeeps.bind (g := fun _ => ids) hx fun _ h => Except.ok.inj h ▸ hf

/-- Steps that reach no template after one that does. -/
theorem Keeps.before (hx : x.Yields r) (hkeeps : x.Keeps ids) (hf : ∀ a, (f a).Keeps []) :
    (x >>= f).Keeps ids := by
  have h := hkeeps.bind (g := fun _ => []) hx fun a _ => hf a
  cases r <;> simpa [Except.toOption] using h

theorem Keeps.get {f : TemplateCache Template → Rendering β}
    (h : ∀ s : Session, s.IsBundled → ((f s.cache).after s).cache = s.cache.keep ids) :
    (getThe (TemplateCache Template) >>= f : Rendering β).Keeps ids :=
  fun s hs => h s hs

end Rendering

/-! ## Tasks -/

theorem keeps_compile (i : TemplateId) :
    (compileTemplate TemplateDirectory.bundled i.name).Keeps [] := by
  unfold compileTemplate
  refine Rendering.Keeps.next (Rendering.yields_record _ _ _) (Rendering.keeps_record _ _ _) ?_
  rw [compile_bundled]
  exact Rendering.keeps_pure _

/-- **A template that is asked for is kept.** -/
theorem keeps_getOrCompile (i : TemplateId) :
    (TemplateCache.getOrCompile (compileTemplate TemplateDirectory.bundled) i.name :
      Rendering (Option Template)).Keeps [i] := by
  refine Rendering.Keeps.get fun s hs => ?_
  cases hlookup : s.cache.entries.lookup i.name with
  | some kept =>
    obtain rfl := hs i kept hlookup
    have hkeep : s.cache.keep [i] = s.cache :=
      congrArg Prod.snd (TemplateCache.store_of_lookup_eq_some hlookup)
    simp only [TemplateCache.find?, hlookup, Option.join_some, hkeep]
    rfl
  | none =>
    have hstore : (modifyGetThe (TemplateCache Template) (TemplateCache.store i.name
        (some i.template)) : Rendering (Option Template)).Keeps [i] := fun _ _ => rfl
    simp only [TemplateCache.find?, hlookup, Option.join_none]
    exact Rendering.Keeps.next (yields_compile i) (keeps_compile i) hstore s hs

theorem keeps_renderNamed (i : TemplateId) (scope : Scope) :
    (renderNamed TemplateDirectory.bundled i.name scope).Keeps [i] := by
  unfold renderNamed
  refine Rendering.Keeps.next (Rendering.yields_record _ _ _) (Rendering.keeps_record _ _ _) ?_
  refine (keeps_getOrCompile i).before (yields_getOrCompile i) fun template => ?_
  split
  · exact .next (Rendering.yields_record _ _ _) (Rendering.keeps_record _ _ _)
      (Rendering.keeps_pure _)
  · exact .next (Rendering.yields_record _ _ _) (Rendering.keeps_record _ _ _)
      (Rendering.keeps_fail _)

namespace Task

theorem keeps_run (t : Task) (trace : TraceId) :
    (t.run TemplateDirectory.bundled trace).Keeps [t.context.template] := by
  unfold Task.run
  have hfile := (keeps_renderNamed t.context.template t.context.scope).before
    (yields_renderNamed t.context.render_eq_text) fun content => Rendering.keeps_ofExcept
      ((ProjectFile.check ⟨t.path, content⟩).mapError .invalid)
  cases t.note with
  | none => exact hfile
  | some note =>
    exact .next (f := fun _ => _) (Rendering.yields_record .debug .generation (trace.mark note))
      (Rendering.keeps_record _ _ _) hfile

/-- The tasks that are begun: all up to the first one whose path breaks a rule. -/
def started : List Task → List Task
  | [] => []
  | t :: rest => t :: t.checked.toOption.elim [] fun _ => started rest

end Task

theorem keeps_runTasks (trace : TraceId) (ts : List Task) :
    (runTasks TemplateDirectory.bundled trace ts).Keeps
      ((Task.started ts).map (·.context.template)) := by
  induction ts with
  | nil => exact Rendering.keeps_pure []
  | cons t rest ih =>
    have h := (t.keeps_run trace).bind (t.yields_run trace) fun f _ =>
      ih.before (yields_runTasks trace rest) fun more => Rendering.keeps_pure (f :: more)
    have hstarted : (Task.started (t :: rest)).map (·.context.template) = [t.context.template] ++
        t.checked.toOption.elim [] fun _ => (Task.started rest).map (·.context.template) := by
      rw [Task.started]
      cases t.checked <;> rfl
    rw [hstarted]
    exact h

/-- **Generating a suite keeps the templates of the tasks that are begun.** -/
theorem keeps_generate (settings : Settings) (trace : TraceId) (c : Contract) :
    (generate TemplateDirectory.bundled settings trace c).Keeps
      ((Task.started (c.tasks settings)).map (·.context.template)) := by
  refine .next (Rendering.yields_record _ _ _) (Rendering.keeps_record _ _ _) ?_
  refine .next (Rendering.yields_record _ _ _) (Rendering.keeps_record _ _ _) ?_
  refine (keeps_runTasks trace _).before (yields_runTasks trace _) fun files => ?_
  refine .before (Rendering.yields_ofExcept _) (Rendering.keeps_ofExcept _) fun p => ?_
  exact .next (Rendering.yields_record _ _ _) (Rendering.keeps_record _ _ _)
    (Rendering.keeps_pure p)

end SuiteForge
