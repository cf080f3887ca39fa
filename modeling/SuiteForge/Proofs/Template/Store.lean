/-
# What storing does to the template cache

Storing puts a template behind the others if its name is free, and otherwise changes nothing; so
what is stored stays (`entries_prefix_store`), and what a store yields is what the name has from
then on (`lookup_store_self`).
-/

import Mathlib
import SuiteForge.Template.Cache

namespace SuiteForge

namespace TemplateCache

variable {α : Type} {c : TemplateCache α} {name n : Text} {compiled t : Option α}

theorem store_of_lookup_eq_some {kept : Option α} (h : c.entries.lookup name = some kept) :
    c.store name compiled = (kept, c) := by
  rw [store, h]

theorem store_of_lookup_eq_none (h : c.entries.lookup name = none) :
    c.store name compiled = (compiled, ⟨c.entries ++ [(name, compiled)]⟩) := by
  rw [store, h]

/-- **What is stored stays where it is.** -/
theorem entries_prefix_store : c.entries <+: (c.store name compiled).2.entries := by
  cases h : c.entries.lookup name with
  | some kept => rw [store_of_lookup_eq_some h]
  | none =>
    rw [store_of_lookup_eq_none h]
    exact List.prefix_append _ _

theorem lookup_of_prefix {c' : TemplateCache α} (h : c.entries <+: c'.entries)
    (hn : c.entries.lookup n = some t) : c'.entries.lookup n = some t := by
  obtain ⟨more, hmore⟩ := h
  rw [← hmore, List.lookup_append, hn, Option.some_or]

/-- **A store yields what its name has from then on.** -/
theorem lookup_store_self :
    (c.store name compiled).2.entries.lookup name = some (c.store name compiled).1 := by
  cases h : c.entries.lookup name with
  | some kept => rw [store_of_lookup_eq_some h, h]
  | none => simp [store_of_lookup_eq_none h, List.lookup_append, h]

theorem lookup_store_of_ne (h : n ≠ name) :
    (c.store name compiled).2.entries.lookup n = c.entries.lookup n := by
  cases hname : c.entries.lookup name with
  | some kept => rw [store_of_lookup_eq_some hname]
  | none => simp [store_of_lookup_eq_none hname, List.lookup_append, List.lookup_cons,
      beq_false_of_ne h]

/-- Only what is stored is found. -/
theorem lookup_of_lookup_store (h : (c.store name compiled).2.entries.lookup n = some t) :
    c.entries.lookup n = some t ∨ (n = name ∧ t = compiled) := by
  by_cases hn : n = name
  · subst hn
    cases hname : c.entries.lookup n with
    | some kept => exact .inl (by rwa [store_of_lookup_eq_some hname, hname] at h)
    | none =>
      rw [lookup_store_self, store_of_lookup_eq_none hname] at h
      exact .inr ⟨rfl, (Option.some.inj h).symm⟩
  · exact .inl (by rwa [lookup_store_of_ne hn] at h)

/-- The names that are taken after a store. -/
theorem contains_store :
    (c.store name compiled).2.contains n = true ↔ n = name ∨ c.contains n = true := by
  by_cases h : n = name
  · subst h
    simp [contains, lookup_store_self]
  · simp [contains, lookup_store_of_ne h, h]

theorem nodup_keys_store (h : (c.entries.map (·.1)).Nodup) :
    ((c.store name compiled).2.entries.map (·.1)).Nodup := by
  cases hname : c.entries.lookup name with
  | some kept => rwa [store_of_lookup_eq_some hname]
  | none =>
    have hfree : ∀ e ∈ c.entries, e.1 ≠ name := fun e he heq =>
      absurd heq.symm (by simpa using List.lookup_eq_none_iff.1 hname e he)
    rw [store_of_lookup_eq_none hname, List.map_append, List.nodup_append]
    refine ⟨h, List.nodup_singleton _, ?_⟩
    rintro key hkey _ hlast rfl
    obtain ⟨e, he, rfl⟩ := List.mem_map.1 hkey
    exact hfree e he (List.mem_singleton.1 hlast)

end TemplateCache

end SuiteForge
