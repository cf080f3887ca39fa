/-
# Callers that share a template cache

A call for a template looks into the cache, has the template compiled if it is not there, and
stores it. A `Course` is what a call does in these steps: the call itself
(`TemplateCache.getOrCompile`), with the cache left to others between them.

| a call that is | does next | and is then |
| --- | --- | --- |
| `call name` | looks into the cache | done, or `compiling name` if there is no template |
| `compiling name` | ends the compilation | `storing name t`, or failed |
| `storing name t` | stores, unless the name is taken | done |

Any number of callers take these steps in any order (`Callers.Step`). A compilation may give
anything, fail, or make calls of its own, also for the name that it is for. What is stored stays, all
calls for a name yield what is stored under it, and calls that do not overlap compile a name once
(`Callers.first_stored_wins`).
-/

import SuiteForge.Proofs.Template.Store

namespace SuiteForge

/-! ## The steps of a call -/

/-- What is still to be done with a cache that others use in between: each reading and each writing
is one step, and what a compilation gives is not known before. -/
inductive Course (α β : Type) where
  | done (value : β)
  | failed
  | read (next : TemplateCache α → Course α β)
  | write (change : TemplateCache α → TemplateCache α) (next : TemplateCache α → Course α β)
  | compile (name : Text) (next : Option α → Course α β)

/-- What a step of a call was. -/
inductive Happening (α : Type) where
  | looked
  | compiled (t : Option α)
  | failed
  | stored

/-- A compilation that ends with a template. -/
def Happening.gives {α : Type} : Happening α → Bool
  | .compiled (some _) => true
  | .compiled none | .looked | .failed | .stored => false

namespace Course

variable {α β γ : Type}

/-- One course after another. -/
def andThen : Course α β → (β → Course α γ) → Course α γ
  | .done b, f => f b
  | .failed, _ => .failed
  | .read next, f => .read fun c => andThen (next c) f
  | .write change next, f => .write change fun c => andThen (next c) f
  | .compile name next, f => .compile name fun t => andThen (next t) f

instance : Monad (Course α) where
  pure := .done
  bind := andThen

instance : MonadStateOf (TemplateCache α) (Course α) where
  get := .read .done
  set c := .write (fun _ => c) fun _ => .done ()
  modifyGet f := .write (fun c => (f c).2) fun c => .done (f c).1

/-- A call for the template of a name. -/
def call (name : Text) : Course α (Option α) :=
  TemplateCache.getOrCompile (fun n => .compile n .done) name

/-- A call that has its template and stores it. -/
def storing (name : Text) (t : Option α) : Course α (Option α) :=
  .write (fun c => (c.store name t).2) fun c => .done (c.store name t).1

/-- A call that has found no template and waits for the compilation. -/
def compiling (name : Text) : Course α (Option α) := .compile name (storing name)

/-- Nothing is left to be done. -/
def Ended : Course α β → Prop
  | .done _ | .failed => True
  | .read _ | .write _ _ | .compile _ _ => False

/-- A step of a course that begins with a cache: what happens, what is then still to be done, and the
cache after it. -/
inductive Step : TemplateCache α → Course α β → Happening α → Course α β → TemplateCache α → Prop
  | read (c : TemplateCache α) (next : TemplateCache α → Course α β) :
      Step c (.read next) .looked (next c) c
  | write (c : TemplateCache α) (change : TemplateCache α → TemplateCache α)
      (next : TemplateCache α → Course α β) : Step c (.write change next) .stored (next c) (change c)
  | compiled (c : TemplateCache α) (name : Text) (next : Option α → Course α β) (t : Option α) :
      Step c (.compile name next) (.compiled t) (next t) c
  | failed (c : TemplateCache α) (name : Text) (next : Option α → Course α β) :
      Step c (.compile name next) .failed .failed c

variable {c c' : TemplateCache α} {name : Text} {t : Option α} {what : Happening α}
  {rest rest' : Course α (Option α)}

theorem call_eq : (call name : Course α (Option α)) =
    .read fun c => match c.find? name with
      | some t => .done (some t)
      | none => compiling name :=
  rfl

theorem Step.not_ended (h : Step c rest what rest' c') : ¬ rest.Ended := by
  cases h <;> exact id

theorem storing_injective : Function.Injective (storing name : Option α → Course α (Option α)) := by
  intro t t' h
  injection h with _ h
  simpa [TemplateCache.store, TemplateCache.empty] using congrFun h .empty

/-- What is still to be done in a call for a name. -/
inductive OfCall (name : Text) : Course α (Option α) → Prop
  | looking : OfCall name (call name)
  | compiling : OfCall name (compiling name)
  | storing (t : Option α) : OfCall name (storing name t)
  | failed : OfCall name .failed
  | done (t : Option α) : OfCall name (.done t)

/-- The steps of a call for a name, in a cache. -/
inductive CallStep (c : TemplateCache α) (name : Text) : Course α (Option α) → Happening α →
    Course α (Option α) → TemplateCache α → Prop
  | found (t : α) (h : c.find? name = some t) :
      CallStep c name (call name) .looked (.done (some t)) c
  | missed (h : c.find? name = none) : CallStep c name (call name) .looked (compiling name) c
  | compiled (t : Option α) : CallStep c name (compiling name) (.compiled t) (storing name t) c
  | failed : CallStep c name (compiling name) .failed .failed c
  | stored (t : Option α) :
      CallStep c name (storing name t) .stored (.done (c.store name t).1) (c.store name t).2

/-- **A call takes the steps of a call**, and no others. -/
theorem OfCall.step (hr : OfCall name rest) (h : Step c rest what rest' c') :
    CallStep c name rest what rest' c' := by
  cases hr with
  | looking =>
    rw [call_eq] at h
    cases h
    cases hfind : c.find? name with
    | some t => simpa only [hfind] using CallStep.found t hfind
    | none => simpa only [hfind] using CallStep.missed hfind
  | compiling =>
    cases h with
    | compiled _ _ t => exact .compiled t
    | failed => exact .failed
  | storing t =>
    cases h
    exact .stored t
  | failed => cases h
  | done t => cases h

theorem CallStep.rest_of_gives (h : CallStep c name rest what rest' c') (hgives : what.gives = true) :
    rest = compiling name ∧ ∃ t, rest' = storing name t := by
  cases h with
  | compiled t => exact ⟨rfl, t, rfl⟩
  | found | missed | failed | stored => cases hgives

theorem CallStep.rest_of_compiling (h : CallStep c name rest what rest' c')
    (hrest : rest' = compiling name) :
    rest = call name ∧ what.gives = false ∧ c.find? name = none := by
  cases h with
  | missed hfind => exact ⟨rfl, rfl, hfind⟩
  | found | compiled | failed | stored => cases hrest

theorem CallStep.what_of_storing (h : CallStep c name rest what rest' c')
    (hrest : rest = storing name t) : what = .stored := by
  cases h with
  | stored => rfl
  | found | missed | compiled | failed => cases hrest

end Course

/-! ## The steps of all callers -/

/-- A call: whose it is, the name it is for, and what is still to be done. -/
structure Call (ι α : Type) where
  caller : ι
  name : Text
  rest : Course α (Option α)

/-- A step that was taken: by which of the calls, for which name, and what it was. -/
structure Taken (α : Type) where
  call : Nat
  name : Text
  what : Happening α

/-- Callers at work: the cache, all calls in the order in which they began, and the steps taken so
far. -/
structure Callers (ι α : Type) where
  cache : TemplateCache α
  calls : List (Call ι α)
  history : List (Taken α)

namespace Callers

variable {ι α : Type}

/-- Before any call. -/
def initial : Callers ι α := ⟨.empty, [], []⟩

/-- A call waits while calls that its caller began later are open: they are made by its
compilation. -/
def Waits (s : Callers ι α) (i : Nat) (k : Call ι α) : Prop :=
  ∃ j k', i < j ∧ s.calls[j]? = some k' ∧ k'.caller = k.caller ∧ ¬ k'.rest.Ended

/-- One step of one of the callers. It begins a call, if all its open calls are being compiled; or it
goes on with a call that does not wait. -/
inductive Step : Callers ι α → Callers ι α → Prop
  | call (s : Callers ι α) (caller : ι) (name : Text)
      (free : ∀ k ∈ s.calls, k.caller = caller → k.rest.Ended ∨ ∃ n next, k.rest = .compile n next) :
      Step s { s with calls := s.calls ++ [⟨caller, name, Course.call name⟩] }
  | move (s : Callers ι α) (i : Nat) (k : Call ι α) (what : Happening α)
      (rest' : Course α (Option α)) (cache' : TemplateCache α)
      (current : s.calls[i]? = some k) (turn : ¬ s.Waits i k)
      (step : Course.Step s.cache k.rest what rest' cache') :
      Step s ⟨cache', s.calls.set i { k with rest := rest' }, s.history ++ [⟨i, k.name, what⟩]⟩

/-- Steps one after the other. -/
def Reaches : Callers ι α → Callers ι α → Prop := Relation.ReflTransGen Step

/-- A step that begins a call only when all others have ended. -/
def TurnStep (s s' : Callers ι α) : Prop :=
  s.Step s' ∧ (s'.calls.length = s.calls.length ∨ ∀ k ∈ s.calls, k.rest.Ended)

/-- Some run without calls that overlap or nest ends here. -/
def InTurn (s : Callers ι α) : Prop := Relation.ReflTransGen TurnStep initial s

/-- How many compilations for a name have ended with a template. -/
def compilations (s : Callers ι α) (name : Text) : Nat :=
  s.history.countP fun e => e.name == name && e.what.gives

/-! ## What every step keeps -/

/-- What holds of a call for a name, by how far it is: it stores in its last step only, and what it
gives is what is stored. -/
inductive Stage (c : TemplateCache α) (history : List (Taken α)) (i : Nat) (name : Text) :
    Course α (Option α) → Prop
  | looking (fresh : ∀ n, ⟨i, n, .stored⟩ ∉ history) : Stage c history i name (.call name)
  | compiling (fresh : ∀ n, ⟨i, n, .stored⟩ ∉ history) : Stage c history i name (.compiling name)
  | storing (t : Option α) (fresh : ∀ n, ⟨i, n, .stored⟩ ∉ history)
      (given : ∃ j, ⟨j, name, .compiled t⟩ ∈ history) : Stage c history i name (.storing name t)
  | failed (fresh : ∀ n, ⟨i, n, .stored⟩ ∉ history) : Stage c history i name .failed
  | done (t : Option α) (kept : c.entries.lookup name = some t) : Stage c history i name (.done t)

/-- What holds of callers at work. -/
structure Sound (s : Callers ι α) : Prop where
  staged : ∀ i k, s.calls[i]? = some k → Stage s.cache s.history i k.name k.rest
  begun : ∀ i n what, ⟨i, n, what⟩ ∈ s.history → i < s.calls.length
  failed : ∀ i n, ⟨i, n, .failed⟩ ∈ s.history → ∃ k, s.calls[i]? = some k ∧ k.rest = .failed
  taken : ∀ n, s.cache.contains n = true ↔ ∃ i, ⟨i, n, .stored⟩ ∈ s.history
  given : ∀ n t, s.cache.entries.lookup n = some t → ∃ i, ⟨i, n, .compiled t⟩ ∈ s.history

variable {s s' : Callers ι α} {c c' : TemplateCache α} {history : List (Taken α)} {i j : Nat}
  {name n : Text} {rest rest' : Course α (Option α)} {what : Happening α}

theorem Stage.ofCall (h : Stage c history i name rest) : rest.OfCall name := by
  cases h with
  | looking => exact .looking
  | compiling => exact .compiling
  | storing t => exact .storing t
  | failed => exact .failed
  | done t => exact .done t

/-- A call that is not done has not stored. -/
theorem Stage.fresh (h : Stage c history i name rest) (hr : ∀ t, rest ≠ .done t) :
    ∀ n, ⟨i, n, .stored⟩ ∉ history := by
  cases h with
  | looking fresh | compiling fresh | storing _ fresh _ | failed fresh => exact fresh
  | done t => exact absurd rfl (hr t)

theorem fresh_append (h : ∀ n, ⟨i, n, .stored⟩ ∉ history) (hne : i = j → what ≠ .stored) (n : Text) :
    ⟨i, n, .stored⟩ ∉ history ++ [⟨j, name, what⟩] := by
  simp only [List.mem_append, List.mem_singleton, Taken.mk.injEq, not_or, not_and]
  exact ⟨h n, fun hij _ hwhat => hne hij hwhat.symm⟩

theorem given_append {t : Option α} {e : Taken α} (h : ∃ j, ⟨j, name, .compiled t⟩ ∈ history) :
    ∃ j, ⟨j, name, .compiled t⟩ ∈ history ++ [e] :=
  h.imp fun _ hj => List.mem_append_left _ hj

/-- The steps of the other calls leave a call where it is. -/
theorem Stage.other (h : Stage c history i name rest) (hij : i ≠ j)
    (hc : c.entries <+: c'.entries) : Stage c' (history ++ [⟨j, n, what⟩]) i name rest := by
  have hne : i = j → what ≠ .stored := fun heq => absurd heq hij
  cases h with
  | looking fresh => exact .looking (fresh_append fresh hne)
  | compiling fresh => exact .compiling (fresh_append fresh hne)
  | storing t fresh given => exact .storing t (fresh_append fresh hne) (given_append given)
  | failed fresh => exact .failed (fresh_append fresh hne)
  | done t kept => exact .done t (TemplateCache.lookup_of_prefix hc kept)

/-- A step of a call takes it to its next stage. -/
theorem Stage.step (h : Stage c history i name rest) (hs : Course.Step c rest what rest' c') :
    Stage c' (history ++ [⟨i, name, what⟩]) i name rest' := by
  have fresh : what ≠ .stored → ∀ n, ⟨i, n, .stored⟩ ∉ history ++ [⟨i, name, what⟩] := fun hwhat =>
    fresh_append (h.fresh (by rintro t rfl; exact hs.not_ended trivial)) fun _ => hwhat
  cases h.ofCall.step hs with
  | found t hfind => exact .done _ (Option.join_eq_some_iff.1 hfind)
  | missed => exact .compiling (fresh nofun)
  | compiled t => exact .storing t (fresh nofun) ⟨i, by simp⟩
  | failed => exact .failed (fresh nofun)
  | stored t => exact .done _ TemplateCache.lookup_store_self

/-- The cache keeps its entries in each step of a call. -/
theorem entries_prefix_of_step (hr : rest.OfCall name) (hs : Course.Step c rest what rest' c') :
    c.entries <+: c'.entries := by
  cases hr.step hs with
  | found | missed | compiled | failed => exact List.prefix_rfl
  | stored t => exact TemplateCache.entries_prefix_store

/-- The names that are taken after a step of a call. -/
theorem contains_of_step (hr : rest.OfCall name) (hs : Course.Step c rest what rest' c') :
    c'.contains n = true ↔ c.contains n = true ∨ (n = name ∧ what = .stored) := by
  cases hr.step hs with
  | found | missed | compiled | failed => simp
  | stored t => simpa [or_comm] using TemplateCache.contains_store

/-- What is found after a step of a call was found before, or is what the call has stored. -/
theorem lookup_of_step {t : Option α} (hr : rest.OfCall name) (hs : Course.Step c rest what rest' c')
    (hn : c'.entries.lookup n = some t) :
    c.entries.lookup n = some t ∨ (n = name ∧ rest = .storing name t) := by
  cases hr.step hs with
  | found | missed | compiled | failed => exact .inl hn
  | stored t' =>
    refine (TemplateCache.lookup_of_lookup_store hn).imp_right ?_
    rintro ⟨rfl, rfl⟩
    exact ⟨rfl, rfl⟩

theorem rest_of_failed (hr : rest.OfCall name) (hs : Course.Step c rest .failed rest' c') :
    rest' = .failed := by
  generalize hwhat : Happening.failed = what at hs
  cases hr.step hs with
  | failed => rfl
  | found | missed | compiled | stored => cases hwhat

theorem Stage.given {t : Option α} (h : Stage c history i name (.storing name t)) :
    ∃ j, ⟨j, name, .compiled t⟩ ∈ history := by
  generalize hrest : Course.storing name t = rest at h
  cases h with
  | storing t' _ given => rwa [Course.storing_injective hrest]
  | looking | compiling | failed | done => cases hrest

theorem Sound.initial : (initial : Callers ι α).Sound := by
  constructor <;> simp [Callers.initial, TemplateCache.empty, TemplateCache.contains]

theorem Sound.call (h : s.Sound) (caller : ι) (name : Text) :
    Sound { s with calls := s.calls ++ [⟨caller, name, Course.call name⟩] } where
  staged i k hk := by
    rcases Nat.lt_trichotomy i s.calls.length with hi | rfl | hi
    · exact h.staged i k (by rwa [List.getElem?_append_left hi] at hk)
    · obtain rfl : _ = k := by simpa using hk
      exact .looking fun n hn => absurd (h.begun _ _ _ hn) (lt_irrefl _)
    · rw [List.getElem?_eq_none (by simpa using hi)] at hk
      cases hk
  begun i n what hn := by
    simpa using Nat.lt_succ_of_lt (h.begun i n what hn)
  failed i n hn := by
    obtain ⟨k, hk, hfailed⟩ := h.failed i n hn
    exact ⟨k, by rw [List.getElem?_append_left (h.begun _ _ _ hn)]; exact hk, hfailed⟩
  taken := h.taken
  given := h.given

theorem Sound.move {k : Call ι α} (h : s.Sound) (hk : s.calls[i]? = some k)
    (hs : Course.Step s.cache k.rest what rest' c') :
    Sound ⟨c', s.calls.set i { k with rest := rest' }, s.history ++ [⟨i, k.name, what⟩]⟩ := by
  have hcall := (h.staged i k hk).ofCall
  have hi : i < s.calls.length := (List.getElem?_eq_some_iff.1 hk).1
  constructor
  case staged =>
    intro j k' hk'
    by_cases hij : i = j
    · subst hij
      obtain rfl : _ = k' := by simpa [hi] using hk'
      exact (h.staged i k hk).step hs
    · rw [List.getElem?_set_ne hij] at hk'
      exact (h.staged j k' hk').other (Ne.symm hij) (entries_prefix_of_step hcall hs)
  case begun =>
    intro j n what' hn
    rcases List.mem_append.1 hn with hn | hn
    · simpa using h.begun j n what' hn
    · obtain ⟨rfl, -, -⟩ : j = i ∧ n = k.name ∧ what' = what := by simpa using hn
      simpa using hi
  case failed =>
    intro j n hn
    rcases List.mem_append.1 hn with hn | hn
    · obtain ⟨k', hk', hfailed⟩ := h.failed j n hn
      have hij : i ≠ j := by
        rintro rfl
        obtain rfl : k = k' := by simpa [hk] using hk'
        exact hs.not_ended (by rw [hfailed]; trivial)
      exact ⟨k', by rwa [List.getElem?_set_ne hij], hfailed⟩
    · obtain ⟨rfl, -, rfl⟩ : j = i ∧ n = k.name ∧ .failed = what := by simpa using hn
      exact ⟨_, List.getElem?_set_self hi, rest_of_failed hcall hs⟩
  case taken =>
    intro n
    rw [contains_of_step hcall hs, h.taken n]
    simp only [List.mem_append, List.mem_singleton, Taken.mk.injEq, exists_or]
    simp [eq_comm]
  case given =>
    intro n t hn
    rcases lookup_of_step hcall hs hn with hn | ⟨rfl, hrest⟩
    · exact given_append (h.given n t hn)
    · exact given_append (hrest ▸ h.staged i k hk).given

/-- **Every step keeps what holds of callers at work.** -/
theorem Sound.step (h : s.Sound) (hs : s.Step s') : s'.Sound := by
  cases hs with
  | call caller name => exact h.call caller name
  | move i k what rest' cache' hk _ hs => exact h.move hk hs

theorem Sound.reaches (h : s.Sound) (hs : s.Reaches s') : s'.Sound := by
  induction hs with
  | refl => exact h
  | tail _ hs ih => exact ih.step hs

/-- **What is stored stays where it is** in every step. -/
theorem Sound.entries_prefix (h : s.Sound) (hs : s.Reaches s') :
    s.cache.entries <+: s'.cache.entries := by
  induction hs with
  | refl => exact List.prefix_rfl
  | tail hrun hs ih =>
    refine ih.trans ?_
    cases hs with
    | call => exact List.prefix_rfl
    | move i k _ _ _ hk _ hs =>
      exact entries_prefix_of_step ((h.reaches hrun).staged i k hk).ofCall hs

/-- **What a call gives is what is stored under its name.** -/
theorem Sound.lookup_of_done {k : Call ι α} {t : Option α} (h : s.Sound) (hk : k ∈ s.calls)
    (hdone : k.rest = .done t) : s.cache.entries.lookup k.name = some t := by
  obtain ⟨i, hi⟩ := List.mem_iff_getElem?.1 hk
  have hstage := hdone ▸ h.staged i k hi
  generalize hrest : Course.done t = rest at hstage
  cases hstage with
  | done _ kept => rwa [Course.done.inj hrest]
  | looking | compiling | storing | failed => cases hrest

/-- **A call whose compilation fails stores nothing.** -/
theorem Sound.not_stored_of_failed {n' : Text} (h : s.Sound)
    (hfailed : ⟨i, n, .failed⟩ ∈ s.history) : ⟨i, n', .stored⟩ ∉ s.history := by
  obtain ⟨k, hk, hrest⟩ := h.failed i n hfailed
  exact (h.staged i k hk).fresh (by simp [hrest]) n'

/-! ## Calls one after the other -/

/-- What holds of callers at work while no two calls overlap. -/
structure InOrder (s : Callers ι α) : Prop where
  alone : ∃ i : Nat, ∀ (j : Nat) (k : Call ι α), s.calls[j]? = some k → ¬ k.rest.Ended → j = i
  once : ∀ n, s.compilations n ≤ 1
  awaited : ∀ k ∈ s.calls, k.rest = .compiling k.name → s.compilations k.name = 0
  settled : ∀ n, s.compilations n ≠ 0 →
    s.cache.contains n = true ∨ ∃ k ∈ s.calls, k.name = n ∧ ∃ t, k.rest = .storing n t

/-- No compilation gives nothing. -/
def Gives (s : Callers ι α) : Prop := ∀ i n, ⟨i, n, .compiled none⟩ ∉ s.history

theorem Sound.find?_ne_none (h : s.Sound) (hg : s.Gives) (hn : s.cache.contains n = true) :
    s.cache.find? n ≠ none := by
  obtain ⟨t, ht⟩ := Option.isSome_iff_exists.1 hn
  obtain ⟨i, hi⟩ := h.given n t ht
  cases t with
  | none => exact absurd hi (hg i n)
  | some t => simp [TemplateCache.find?, ht]

theorem compilations_move {calls : List (Call ι α)} :
    compilations ⟨c', calls, s.history ++ [⟨i, name, what⟩]⟩ n =
      s.compilations n + if name = n ∧ what.gives = true then 1 else 0 := by
  simp [compilations, List.countP_append, List.countP_singleton]

theorem InOrder.initial : (initial : Callers ι α).InOrder := by
  constructor <;> simp [Callers.initial, compilations]

theorem InOrder.call (h : s.InOrder) (hended : ∀ k ∈ s.calls, k.rest.Ended) (caller : ι)
    (name : Text) : InOrder { s with calls := s.calls ++ [⟨caller, name, Course.call name⟩] } where
  alone := by
    refine ⟨s.calls.length, fun j k hk hopen => ?_⟩
    rcases Nat.lt_trichotomy j s.calls.length with hj | hj | hj
    · rw [List.getElem?_append_left hj] at hk
      exact absurd (hended k (List.mem_of_getElem? hk)) hopen
    · exact hj
    · rw [List.getElem?_eq_none (by simpa using hj)] at hk
      cases hk
  once := h.once
  awaited k hk hrest := by
    rcases List.mem_append.1 hk with hk | hk
    · exact (hrest ▸ hended k hk : Course.Ended (.compiling k.name)).elim
    · obtain rfl := List.mem_singleton.1 hk
      cases hrest
  settled n hn := (h.settled n hn).imp_right fun ⟨k, hk, hrest⟩ =>
    ⟨k, List.mem_append_left _ hk, hrest⟩

/-- While no two calls overlap, a step is one of the only call that is open. -/
theorem InOrder.move {k : Call ι α} (h : s.InOrder) (hsound : s.Sound) (hg : s.Gives)
    (hk : s.calls[i]? = some k) (hs : Course.Step s.cache k.rest what rest' c') :
    InOrder ⟨c', s.calls.set i { k with rest := rest' }, s.history ++ [⟨i, k.name, what⟩]⟩ := by
  have hstep := (hsound.staged i k hk).ofCall.step hs
  have hi : i < s.calls.length := (List.getElem?_eq_some_iff.1 hk).1
  have alone : ∀ (j : Nat) k', s.calls[j]? = some k' → ¬ k'.rest.Ended → j = i := by
    obtain ⟨i₀, h₀⟩ := h.alone
    intro j k' hk' hopen
    rw [h₀ j k' hk' hopen, h₀ i k hk hs.not_ended]
  -- the call that moves is the only one that a template can be about to be stored by
  have settled : ∀ n, s.compilations n ≠ 0 →
      s.cache.contains n = true ∨ (n = k.name ∧ ∃ t, k.rest = .storing n t) := by
    intro n hn
    refine (h.settled n hn).imp_right ?_
    rintro ⟨k', hk', rfl, t, hrest⟩
    obtain ⟨j, hj⟩ := List.mem_iff_getElem?.1 hk'
    obtain rfl := alone j k' hj (by rw [hrest]; exact id)
    obtain rfl := Option.some.inj (hj.symm.trans hk)
    exact ⟨rfl, t, hrest⟩
  constructor
  case alone =>
    refine ⟨i, fun j k' hk' hopen => by_contra fun hj => hj (alone j k' ?_ hopen)⟩
    rwa [List.getElem?_set_ne (Ne.symm hj)] at hk'
  case once =>
    intro n
    rw [compilations_move]
    split
    case isTrue hgives =>
      obtain ⟨rfl, hgives⟩ := hgives
      rw [h.awaited k (List.mem_of_getElem? hk) (hstep.rest_of_gives hgives).1]
    case isFalse => exact h.once n
  case awaited =>
    intro k' hk' hrest
    obtain ⟨j, hj⟩ := List.mem_iff_getElem?.1 hk'
    by_cases hij : i = j
    · subst hij
      obtain rfl : _ = k' := by simpa [hi] using hj
      obtain ⟨hlooking, hgives, hmissed⟩ := hstep.rest_of_compiling hrest
      rw [compilations_move, if_neg (by simp [hgives])]
      by_contra hn
      rcases settled k.name hn with hkept | ⟨-, t, hstoring⟩
      · exact hsound.find?_ne_none hg hkept hmissed
      · cases hlooking.symm.trans hstoring
    · rw [List.getElem?_set_ne hij] at hj
      exact absurd (alone j k' hj (by rw [hrest]; exact id)) (Ne.symm hij)
  case settled =>
    intro n hn
    by_cases hgives : k.name = n ∧ what.gives = true
    · obtain ⟨rfl, hgives⟩ := hgives
      exact .inr ⟨{ k with rest := rest' }, List.mem_set hi _, rfl, (hstep.rest_of_gives hgives).2⟩
    · rw [compilations_move, if_neg hgives] at hn
      refine .inl ((contains_of_step (hsound.staged i k hk).ofCall hs).2 ?_)
      refine (settled n hn).imp_right ?_
      rintro ⟨rfl, t, hrest⟩
      exact ⟨rfl, hstep.what_of_storing hrest⟩

theorem Gives.of_step (hg : s'.Gives) (hs : s.Step s') : s.Gives := by
  cases hs with
  | call => exact hg
  | move => exact fun i n hn => hg i n (List.mem_append_left _ hn)

theorem InTurn.reaches (h : s.InTurn) : initial.Reaches s :=
  Relation.ReflTransGen.mono (fun _ _ hs => hs.1) _ _ h

/-- **Calls that do not overlap compile a name at most once.** -/
theorem InTurn.inOrder (h : s.InTurn) (hg : s.Gives) : s.InOrder := by
  induction h with
  | refl => exact .initial
  | tail hrun hs ih =>
    obtain ⟨hs, hturn⟩ := hs
    replace hg := hg.of_step hs
    have hsound := Sound.initial.reaches (InTurn.reaches hrun)
    cases hs with
    | call caller name => exact (ih hg).call (hturn.resolve_left (by simp)) caller name
    | move i k _ _ _ hk _ hs => exact (ih hg).move hsound hg hk hs

/-- **The first template that is stored for a name wins**, however the steps of all callers are
mixed: what is stored is never replaced or removed; each call that gives a template gives the one
stored for its name, so all calls for a name agree; a call whose compilation fails stores nothing;
the names that are taken are those for which some call has stored; and while no two calls overlap
and every compilation gives something, a name is compiled once at most. -/
theorem first_stored_wins (h : initial.Reaches s) :
    (∀ s', s.Reaches s' → ∀ name t, s.cache.entries.lookup name = some t →
      s'.cache.entries.lookup name = some t) ∧
    (∀ k ∈ s.calls, ∀ t, k.rest = .done t → s.cache.entries.lookup k.name = some t) ∧
    (∀ k ∈ s.calls, ∀ k' ∈ s.calls, k.name = k'.name → ∀ t t', k.rest = .done t →
      k'.rest = .done t' → t = t') ∧
    (∀ i name name', ⟨i, name, .failed⟩ ∈ s.history → ⟨i, name', .stored⟩ ∉ s.history) ∧
    (∀ name, s.cache.contains name = true ↔ ∃ i, ⟨i, name, .stored⟩ ∈ s.history) ∧
    (s.InTurn → s.Gives → ∀ name, s.compilations name ≤ 1) := by
  have hsound := Sound.initial.reaches h
  refine ⟨?_, ?_, ?_, ?_, hsound.taken, fun hturn hg => (hturn.inOrder hg).once⟩
  · exact fun s' hs name t => TemplateCache.lookup_of_prefix (hsound.entries_prefix hs)
  · exact fun k hk t => hsound.lookup_of_done hk
  · intro k hk k' hk' hname t t' hdone hdone'
    have hkept := hsound.lookup_of_done hk hdone
    rw [hname, hsound.lookup_of_done hk' hdone'] at hkept
    exact (Option.some.inj hkept).symm
  · exact fun i name name' => hsound.not_stored_of_failed

/-- A call of a caller that makes only one does not wait. -/
theorem not_waits {k : Call ι α} (h : (s.calls.map (·.caller)).Nodup) (hk : s.calls[i]? = some k) :
    ¬ s.Waits i k := by
  rintro ⟨j, k', hij, hk', hcaller, -⟩
  have hi : i < (s.calls.map (·.caller)).length := by
    simpa using (List.getElem?_eq_some_iff.1 hk).1
  exact hij.ne ((List.getElem?_inj hi h).1 (by simp [hk, hk', hcaller]))

/-- Two callers have both compiled the template of a name, the first one `10`, the other one `20`,
before either has stored it. -/
def raced : Callers Nat Nat where
  cache := ⟨[(['a'], some 10)]⟩
  calls := [⟨0, ['a'], .done (some 10)⟩, ⟨1, ['a'], .done (some 10)⟩]
  history := [⟨0, ['a'], .looked⟩, ⟨1, ['a'], .looked⟩, ⟨1, ['a'], .compiled (some 20)⟩,
    ⟨0, ['a'], .compiled (some 10)⟩, ⟨0, ['a'], .stored⟩, ⟨1, ['a'], .stored⟩]

/-- One caller after the other has asked for the template of a name. -/
def served : Callers Nat Nat where
  cache := ⟨[(['a'], some 10)]⟩
  calls := [⟨0, ['a'], .done (some 10)⟩, ⟨1, ['a'], .done (some 10)⟩]
  history := [⟨0, ['a'], .looked⟩, ⟨0, ['a'], .compiled (some 10)⟩, ⟨0, ['a'], .stored⟩,
    ⟨1, ['a'], .looked⟩]

theorem reaches_raced : initial.Reaches raced := by
  refine .head (.call _ 0 ['a'] (by simp [initial])) ?_
  refine .head (.call _ 1 ['a'] (by simp [initial])) ?_
  refine .head (.move _ 0 _ _ _ _ rfl (not_waits (by decide) rfl) (.read _ _)) ?_
  refine .head (.move _ 1 _ _ _ _ rfl (not_waits (by decide) rfl) (.read _ _)) ?_
  refine .head (.move _ 1 _ _ _ _ rfl (not_waits (by decide) rfl) (.compiled _ _ _ (some 20))) ?_
  refine .head (.move _ 0 _ _ _ _ rfl (not_waits (by decide) rfl) (.compiled _ _ _ (some 10))) ?_
  refine .head (.move _ 0 _ _ _ _ rfl (not_waits (by decide) rfl) (.write _ _ _)) ?_
  refine .head (.move _ 1 _ _ _ _ rfl (not_waits (by decide) rfl) (.write _ _ _)) ?_
  exact .refl

theorem inTurn_served : served.InTurn := by
  refine .head ⟨.call _ 0 ['a'] (by simp [initial]), .inr (by simp [initial])⟩ ?_
  refine .head ⟨.move _ 0 _ _ _ _ rfl (not_waits (by decide) rfl) (.read _ _), .inl rfl⟩ ?_
  refine .head ⟨.move _ 0 _ _ _ _ rfl (not_waits (by decide) rfl)
    (.compiled _ _ _ (some 10)), .inl rfl⟩ ?_
  refine .head ⟨.move _ 0 _ _ _ _ rfl (not_waits (by decide) rfl) (.write _ _ _), .inl rfl⟩ ?_
  refine .head ⟨.call _ 1 ['a'] (by simp [initial]), .inr ?_⟩ ?_
  · rintro k hk
    obtain rfl := List.mem_singleton.1 hk
    trivial
  refine .head ⟨.move _ 1 _ _ _ _ rfl (not_waits (by decide) rfl) (.read _ _), .inl rfl⟩ ?_
  exact .refl

/-- Of two callers that have both compiled a template, the second one gets what the first one has
stored; and callers one after the other compile it once. -/
theorem first_stored_wins_raced :
    (⟨1, ['a'], .compiled (some 20)⟩ ∈ raced.history ∧
      raced.calls[1]? = some ⟨1, ['a'], .done (some 10)⟩ ∧
      raced.cache.entries.lookup [.char 'a'] = some (some 10)) ∧
    served.compilations ['a'] = 1 := by
  obtain ⟨-, hdone, -, -, -, -⟩ := first_stored_wins reaches_raced
  obtain ⟨-, -, -, -, -, honce⟩ := first_stored_wins inTurn_served.reaches
  have hgives : served.Gives := by simp [Gives, served]
  exact ⟨⟨by simp [raced], rfl, hdone ⟨1, ['a'], .done (some 10)⟩ (by simp [raced]) _ rfl⟩,
    le_antisymm (honce inTurn_served hgives ['a']) (by decide)⟩

end Callers

end SuiteForge
