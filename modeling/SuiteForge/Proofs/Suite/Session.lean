/-
# Rendering in a session

A session keeps the templates that it has compiled. As long as it keeps those of the suite
under their names (`Session.IsBundled`), what a rendering comes to does not depend on it
(`Rendering.Yields`): one rule for each step, and from them that generating a suite is
rendering the contexts of its plan and putting the files together (`generate_yields`).
-/

import SuiteForge.Proofs.Suite.Pieces
import SuiteForge.Suite.Generate

namespace SuiteForge

/-- What is kept under the names of the templates of a suite are these templates. -/
def Session.IsBundled (s : Session) : Prop :=
  ∀ (i : TemplateId) (t : Option Template),
    s.cache.entries.lookup i.name = some t → t = some i.template

theorem isBundled_fresh : Session.fresh.IsBundled := by
  intro i t h
  cases h

namespace Rendering

variable {α β : Type}

/-- What a computation comes to in a session. -/
def outcome (x : Rendering α) (s : Session) : Except Fault α := (x.run.run s).1

/-- The session that a computation leaves. -/
def after (x : Rendering α) (s : Session) : Session := (x.run.run s).2

/-- A computation comes to this in every session that keeps the templates of the suite, and the
session keeps them. -/
def Yields (x : Rendering α) (r : Except Fault α) : Prop :=
  ∀ s : Session, s.IsBundled → x.outcome s = r ∧ (x.after s).IsBundled

theorem yields_pure (a : α) : (pure a : Rendering α).Yields (.ok a) := fun _ h => ⟨rfl, h⟩

theorem yields_ofExcept (r : Except Fault α) : (ofExcept r).Yields r := by
  cases r with
  | ok a => exact yields_pure a
  | error e => exact fun _ h => ⟨rfl, h⟩

theorem yields_record (level : Level) (channel : Channel) (text : Text) :
    (record level channel text).Yields (.ok ()) :=
  fun _ h => ⟨rfl, h⟩

theorem run_bind (x : Rendering α) (f : α → Rendering β) (s : Session) :
    (x >>= f).run.run s = match x.outcome s with
      | .ok a => (f a).run.run (x.after s)
      | .error e => (.error e, x.after s) := by
  rw [ExceptT.run_bind, StateT.run_bind]
  unfold outcome after
  obtain ⟨r, s'⟩ := x.run.run s
  cases r <;> rfl

theorem Yields.bind {x : Rendering α} {f : α → Rendering β} {r : Except Fault α}
    {g : α → Except Fault β} (hx : x.Yields r) (hf : ∀ a, (f a).Yields (g a)) :
    (x >>= f).Yields (r >>= g) := by
  intro s hs
  obtain ⟨houtcome, hafter⟩ := hx s hs
  unfold outcome after
  rw [run_bind, houtcome]
  cases r with
  | ok a => exact hf a _ hafter
  | error e => exact ⟨rfl, hafter⟩

/-- A step whose value is known. -/
theorem Yields.next {x : Rendering α} {f : α → Rendering β} {a : α} {r : Except Fault β}
    (hx : x.Yields (.ok a)) (hf : (f a).Yields r) : (x >>= f).Yields r := by
  intro s hs
  obtain ⟨houtcome, hafter⟩ := hx s hs
  have hnext := hf _ hafter
  unfold outcome after at hnext ⊢
  rw [run_bind, houtcome]
  exact hnext

/-- A last step that keeps the value. -/
theorem Yields.also {x : Rendering α} {f : α → Rendering α} {r : Except Fault α} (hx : x.Yields r)
    (hf : ∀ a, (f a).Yields (.ok a)) : (x >>= f).Yields r := by
  have h := hx.bind hf
  rwa [show (r >>= fun a => .ok a) = r from bind_pure r] at h

theorem Yields.get {f : TemplateCache Template → Rendering β} {r : Except Fault β}
    (h : ∀ s : Session, s.IsBundled → (f s.cache).Yields r) :
    (getThe (TemplateCache Template) >>= f : Rendering β).Yields r :=
  fun s hs => h s hs s hs

end Rendering

/-! ## Rendering by name -/

theorem name_injective : Function.Injective TemplateId.name := by
  intro i j h
  have hj := TemplateId.ofName?_name j
  rw [← h, TemplateId.ofName?_name i] at hj
  exact Option.some.inj hj

/-- Keeping a template of the suite gives it back, and keeps the others. -/
theorem Session.IsBundled.store {s : Session} (h : s.IsBundled) (i : TemplateId) :
    (s.cache.store i.name (some i.template)).1 = some i.template ∧
      ∀ j t, (s.cache.store i.name (some i.template)).2.entries.lookup (TemplateId.name j) = some t →
        t = some j.template := by
  unfold TemplateCache.store
  cases hlookup : s.cache.entries.lookup i.name with
  | some kept => exact ⟨h i kept hlookup, h⟩
  | none =>
    refine ⟨rfl, fun j t ht => ?_⟩
    rw [List.lookup_append, Option.or_eq_some_iff] at ht
    rcases ht with ht | ⟨-, ht⟩
    · exact h j t ht
    · rw [List.lookup_cons] at ht
      split at ht
      · next heq =>
        rw [name_injective (eq_of_beq heq)]
        exact (Option.some.inj ht).symm
      · cases ht

theorem yields_compile (i : TemplateId) :
    (compileTemplate TemplateDirectory.bundled i.name).Yields (.ok (some i.template)) := by
  unfold compileTemplate
  refine (Rendering.yields_record _ _ _).next ?_
  rw [compile_bundled]
  exact Rendering.yields_pure _

theorem yields_store (i : TemplateId) :
    (modifyGetThe (TemplateCache Template) (TemplateCache.store i.name (some i.template)) :
      Rendering (Option Template)).Yields (.ok (some i.template)) := by
  intro s hs
  obtain ⟨hvalue, hkept⟩ := hs.store i
  exact ⟨congrArg Except.ok hvalue, hkept⟩

/-- **A template of the suite comes from the cache or the directory, and is kept.** -/
theorem yields_getOrCompile (i : TemplateId) :
    (TemplateCache.getOrCompile (compileTemplate TemplateDirectory.bundled) i.name :
      Rendering (Option Template)).Yields (.ok (some i.template)) := by
  refine Rendering.Yields.get fun s hs => ?_
  cases hlookup : s.cache.entries.lookup i.name with
  | some kept =>
    obtain rfl := hs i kept hlookup
    simp only [TemplateCache.find?, hlookup, Option.join_some]
    exact Rendering.yields_pure _
  | none =>
    simp only [TemplateCache.find?, hlookup, Option.join_none]
    exact (yields_compile i).next (yields_store i)

/-- **A template of the suite is rendered as it is, whatever has been rendered before.** -/
theorem yields_renderNamed {i : TemplateId} {scope : Scope} {t : Text}
    (h : Template.renderPieces (isXmlTemplate i.name) scope i.template = .ok t) :
    (renderNamed TemplateDirectory.bundled i.name scope).Yields (.ok t) := by
  unfold renderNamed
  refine (Rendering.yields_record _ _ _).next ((yields_getOrCompile i).next ?_)
  rw [Option.getD_some, h]
  exact (Rendering.yields_record _ _ _).next (Rendering.yields_pure t)

/-! ## Tasks -/

/-- The text of a context in its template. -/
def Context.text (c : Context) : Text :=
  (Template.renderPieces (isXmlTemplate c.template.name) c.scope c.template.template).toOption.getD []

/-- **A context is rendered.** -/
theorem Context.render_eq_text (c : Context) :
    Template.renderPieces (isXmlTemplate c.template.name) c.scope c.template.template =
      .ok c.text := by
  obtain ⟨t, ht⟩ := c.renders (isXmlTemplate c.template.name)
  rw [Context.text, ht]
  rfl

namespace Task

/-- The file that a task makes. -/
def file (t : Task) : ProjectFile := ⟨t.path, t.context.text⟩

/-- What becomes of a task: its file, if the path keeps the rules. -/
def checked (t : Task) : Except Fault ProjectFile := t.file.check.mapError .invalid

theorem yields_run (t : Task) (trace : TraceId) :
    (t.run TemplateDirectory.bundled trace).Yields t.checked := by
  unfold Task.run
  have hrender := yields_renderNamed t.context.render_eq_text
  have hfile := hrender.next (f := fun content =>
    Rendering.ofExcept ((ProjectFile.check ⟨t.path, content⟩).mapError .invalid))
      (Rendering.yields_ofExcept t.checked)
  cases t.note with
  | none => exact (Rendering.yields_pure _).next hfile
  | some note => exact (Rendering.yields_record _ _ _).next hfile

end Task

theorem yields_runTasks (trace : TraceId) (ts : List Task) :
    (runTasks TemplateDirectory.bundled trace ts).Yields (ts.mapM Task.checked) := by
  induction ts with
  | nil => exact Rendering.yields_pure []
  | cons t rest ih =>
    rw [List.mapM_cons]
    exact (t.yields_run trace).bind fun f => ih.bind fun more => Rendering.yields_pure (f :: more)

/-- **Generating a suite is putting together the files of its plan.** -/
theorem yields_generate (settings : Settings) (trace : TraceId) (c : Contract) :
    (generate TemplateDirectory.bundled settings trace c).Yields (do
      let files ← (c.tasks settings).mapM Task.checked
      Project.assemble (c.projectName settings) files) := by
  refine (Rendering.yields_record _ _ _).next ((Rendering.yields_record _ _ _).next ?_)
  refine (yields_runTasks trace _).bind fun files => ?_
  refine (Rendering.yields_ofExcept _).also fun p => ?_
  exact (Rendering.yields_record _ _ _).next (Rendering.yields_pure p)

end SuiteForge
