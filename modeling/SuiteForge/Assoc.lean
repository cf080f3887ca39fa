/-
# Association lists

Keys with values, in the order in which the keys came first; each key once.
-/

namespace SuiteForge

/-- Values by their keys. -/
abbrev Assoc (κ α : Type) := List (κ × α)

namespace Assoc

variable {κ α : Type} [DecidableEq κ]

/-- The value at a key set: a key that is there keeps its place. -/
def insert (key : κ) (value : α) : Assoc κ α → Assoc κ α
  | [] => [(key, value)]
  | (k, v) :: rest => if k = key then (k, value) :: rest else (k, v) :: insert key value rest

/-- The value at a key changed, or made from nothing. -/
def alter (key : κ) (f : Option α → α) : Assoc κ α → Assoc κ α
  | [] => [(key, f none)]
  | (k, v) :: rest => if k = key then (k, f (some v)) :: rest else (k, v) :: alter key f rest

/-- The values of a list of pairs, the last of a key counting. -/
def ofPairs (pairs : List (κ × α)) : Assoc κ α :=
  pairs.foldl (fun a e => insert e.1 e.2 a) []

theorem keys_insert_of_mem {key : κ} {value : α} {a : Assoc κ α} (h : key ∈ a.map (·.1)) :
    (insert key value a).map (·.1) = a.map (·.1) := by
  induction a with
  | nil => simp at h
  | cons e rest ih =>
    obtain ⟨k, v⟩ := e
    by_cases hk : k = key
    · simp [insert, hk]
    · have : key ∈ rest.map (·.1) := by simpa [Ne.symm hk] using h
      simpa [insert, hk] using ih this

theorem keys_insert_of_not_mem {key : κ} {value : α} {a : Assoc κ α} (h : key ∉ a.map (·.1)) :
    (insert key value a).map (·.1) = a.map (·.1) ++ [key] := by
  induction a with
  | nil => rfl
  | cons e rest ih =>
    obtain ⟨k, v⟩ := e
    have hk : k ≠ key := fun hk => h (by simp [hk])
    have : key ∉ rest.map (·.1) := fun hm => h (by simp [hm])
    simpa [insert, hk] using ih this

theorem mem_keys_insert {key k : κ} {value : α} {a : Assoc κ α} :
    k ∈ (insert key value a).map (·.1) ↔ k = key ∨ k ∈ a.map (·.1) := by
  by_cases h : key ∈ a.map (·.1)
  · rw [keys_insert_of_mem h]
    exact ⟨.inr, fun hk => hk.elim (fun he => he ▸ h) id⟩
  · rw [keys_insert_of_not_mem h, List.mem_append, List.mem_singleton, or_comm]

theorem nodup_keys_insert {key : κ} {value : α} {a : Assoc κ α} (h : (a.map (·.1)).Nodup) :
    ((insert key value a).map (·.1)).Nodup := by
  by_cases hk : key ∈ a.map (·.1)
  · rwa [keys_insert_of_mem hk]
  · rw [keys_insert_of_not_mem hk, List.nodup_append]
    refine ⟨h, List.nodup_cons.2 ⟨List.not_mem_nil, List.nodup_nil⟩, fun k hm k' hs => ?_⟩
    rw [List.mem_singleton.1 hs]
    exact fun he => hk (he ▸ hm)

theorem keys_foldl_insert (pairs : List (κ × α)) {a : Assoc κ α} (h : (a.map (·.1)).Nodup) :
    ((pairs.foldl (fun a e => insert e.1 e.2 a) a).map (·.1)).Nodup ∧
      ∀ k, k ∈ (pairs.foldl (fun a e => insert e.1 e.2 a) a).map (·.1) ↔
        k ∈ a.map (·.1) ∨ k ∈ pairs.map (·.1) := by
  induction pairs generalizing a with
  | nil => exact ⟨h, fun k => by simp⟩
  | cons e rest ih =>
    obtain ⟨hnodup, hmem⟩ := ih (nodup_keys_insert h)
    refine ⟨hnodup, fun k => ?_⟩
    rw [List.foldl_cons, hmem, mem_keys_insert, List.map_cons, List.mem_cons]
    rw [or_comm (a := k = e.1), or_assoc]

theorem forall_insert {P : α → Prop} {key : κ} {value : α} {a : Assoc κ α} (hvalue : P value)
    (h : ∀ e ∈ a, P e.2) : ∀ e ∈ insert key value a, P e.2 := by
  induction a with
  | nil =>
    intro e he
    obtain rfl := List.mem_singleton.1 he
    exact hvalue
  | cons first rest ih =>
    obtain ⟨hfirst, hrest⟩ := List.forall_mem_cons.1 h
    obtain ⟨k, v⟩ := first
    simp only [insert]
    split
    · exact List.forall_mem_cons.2 ⟨hvalue, hrest⟩
    · exact List.forall_mem_cons.2 ⟨hfirst, ih hrest⟩

theorem forall_ofPairs {P : α → Prop} {pairs : List (κ × α)} (h : ∀ e ∈ pairs, P e.2) :
    ∀ e ∈ ofPairs pairs, P e.2 := by
  have hfold : ∀ a : Assoc κ α, (∀ e ∈ a, P e.2) →
      ∀ e ∈ pairs.foldl (fun a e => insert e.1 e.2 a) a, P e.2 := by
    induction pairs with
    | nil => exact fun _ ha => ha
    | cons first rest ih =>
      obtain ⟨hfirst, hrest⟩ := List.forall_mem_cons.1 h
      exact fun a ha => ih hrest (insert first.1 first.2 a) (forall_insert hfirst ha)
  exact hfold [] fun _ he => absurd he List.not_mem_nil

/-- The keys of a table made from pairs are those of the pairs, each once. -/
theorem keys_ofPairs (pairs : List (κ × α)) :
    ((ofPairs pairs).map (·.1)).Nodup ∧
      ∀ k, k ∈ (ofPairs pairs).map (·.1) ↔ k ∈ pairs.map (·.1) := by
  obtain ⟨hnodup, hmem⟩ := keys_foldl_insert pairs (a := []) List.nodup_nil
  refine ⟨hnodup, fun k => ?_⟩
  rw [ofPairs, hmem]
  exact or_iff_right List.not_mem_nil

end Assoc

end SuiteForge
