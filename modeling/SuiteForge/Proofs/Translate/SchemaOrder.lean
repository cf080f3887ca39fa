/-
# Schemas of reordered trees

The schema of a part of a tree is the same as that of the part that it stands for in a reordered
tree, up to the order of properties, and there is one in both or in neither (`convertWithin_agree`).
Properties are converted one by one, so that all of them have schemas just when each of them has
(`convertProperties_ok_iff`), whichever is the first that has none.
-/

import SuiteForge.Contract.Same
import SuiteForge.Proofs.Translate.Faults
import SuiteForge.Proofs.Translate.Reordering

namespace SuiteForge

/-! ## Tables -/

theorem lookup_of_mem {κ α : Type} [BEq κ] [LawfulBEq κ] {pairs : List (κ × α)}
    (once : (pairs.map (·.1)).Nodup) {key : κ} {value : α} (h : (key, value) ∈ pairs) :
    pairs.lookup key = some value := by
  induction pairs with
  | nil => cases h
  | cons e rest ih =>
    obtain ⟨k, v⟩ := e
    obtain ⟨hfirst, hrest⟩ := List.nodup_cons.1 once
    rcases List.mem_cons.1 h with heq | hmem
    · obtain ⟨rfl, rfl⟩ := Prod.mk.inj heq
      exact List.lookup_cons_self
    · have hne : key ≠ k := by
        rintro rfl
        exact hfirst (List.mem_map.2 ⟨_, hmem, rfl⟩)
      rw [List.lookup_cons, beq_false_of_ne hne]
      exact ih hrest hmem

namespace Assoc

variable {κ α β : Type} [DecidableEq κ]

theorem rows_insert {R : α → β → Prop} {a : Assoc κ α} {b : Assoc κ β} (h : Rows R a b) (key : κ)
    {v : α} {w : β} (new : R v w) : Rows R (insert key v a) (insert key w b) := by
  induction h with
  | nil => exact .cons ⟨rfl, new⟩ .nil
  | @cons e f _ _ hef hrest ih =>
    obtain ⟨k, v'⟩ := e
    obtain ⟨_, w'⟩ := f
    obtain ⟨rfl, hvalues⟩ := hef
    rw [insert, insert]
    split
    · exact .cons ⟨rfl, new⟩ hrest
    · exact .cons ⟨rfl, hvalues⟩ ih

theorem rows_ofPairs {R : α → β → Prop} {ps : List (κ × α)} {qs : List (κ × β)} (h : Rows R ps qs) :
    Rows R (ofPairs ps) (ofPairs qs) := by
  refine List.rel_foldl (P := Rows R) (fun a b hab e f hef => ?_) .nil h
  rw [hef.1]
  exact rows_insert hab _ hef.2

end Assoc

/-! ## Schemas by their names -/

/-- Two tables have the same names, and under each the same schemas. -/
def SameNamed (ps qs : List (Text × Schema)) : Prop :=
  ps.length = qs.length ∧ sameNamed ps qs = true

theorem sameNamed_iff {ps qs : List (Text × Schema)} :
    sameNamed ps qs = true ↔ ∀ p ∈ ps, ∃ t, qs.lookup p.1 = some t ∧ p.2.same t = true := by
  induction ps with
  | nil => simp [sameNamed]
  | cons p rest ih =>
    obtain ⟨name, s⟩ := p
    rw [sameNamed, Bool.and_eq_true, ih, List.forall_mem_cons]
    cases qs.lookup name <;> simp

theorem sameNamed_of_rows {ps qs : List (Text × Schema)} (once : (qs.map (·.1)).Nodup)
    (h : Rows (fun s t => s.same t = true) ps qs) : SameNamed ps qs := by
  refine ⟨h.length_eq, sameNamed_iff.2 fun p hp => ?_⟩
  obtain ⟨q, hq, hkey, hsame⟩ := exists_right_of_forall₂ h hp
  rw [hkey]
  exact ⟨q.2, lookup_of_mem once hq, hsame⟩

/-! ## Properties -/

/-- Converting properties with texts as keys has a schema for each of them, under its key. -/
theorem convertProperties_text_keys {convert : Text → Value → Except Fault Schema}
    {entries : Entries Value} (texts : ∀ e ∈ entries, ∃ t, e.1 = .text t)
    {ps : List (Text × Schema)} (h : convertProperties convert entries = .ok ps) :
    List.Forall₂ (fun e p => e.1 = .text p.1 ∧ convert p.1 e.2 = .ok p.2) entries ps := by
  refine ((List.forall₂_and_left _ _).2 ⟨texts, convertProperties_eq_ok.1 h⟩).imp ?_
  rintro ⟨_, v⟩ p ⟨⟨t, rfl⟩, hname, hs⟩
  exact ⟨congrArg Scalar.text (Except.ok.inj hname), hs⟩

theorem convertProperties_ok_iff {convert : Text → Value → Except Fault Schema}
    {entries : Entries Value} (texts : ∀ e ∈ entries, ∃ t, e.1 = .text t) :
    (∃ ps, convertProperties convert entries = .ok ps) ↔
      ∀ t v, (.text t, v) ∈ entries → ∃ s, convert t v = .ok s := by
  constructor
  · rintro ⟨ps, h⟩ t v hmem
    obtain ⟨p, -, hkey, hs⟩ := exists_right_of_forall₂ (convertProperties_text_keys texts h) hmem
    obtain rfl := Scalar.text.inj hkey
    exact ⟨p.2, hs⟩
  · intro h
    induction entries with
    | nil => exact ⟨[], rfl⟩
    | cons e rest ih =>
      obtain ⟨⟨t, hkey⟩, hrest⟩ := List.forall_mem_cons.1 texts
      obtain ⟨key, v⟩ := e
      subst hkey
      obtain ⟨s, hs⟩ := h t v List.mem_cons_self
      obtain ⟨more, hmore⟩ := ih hrest fun t v hmem => h t v (List.mem_cons_of_mem _ hmem)
      have hname : keyText (.text t) = .ok t := rfl
      exact ⟨(t, s) :: more, by rw [convertProperties, hname, ok_bind, hs, ok_bind, hmore, ok_bind]⟩

/-- **Properties that are alike are converted to the same ones,** or in both cases some property has
no schema. -/
theorem convertProperties_agree {convert : Text → Value → Except Fault Schema}
    {es fs : Entries Value} (alike : (Value.map es).Alike (.map fs))
    (h : ∀ {key v w}, (key, v) ∈ es → (key, w) ∈ fs → ∀ name,
      Agree (fun s t => s.same t = true) (convert name v) (convert name w)) :
    Agree (fun ps qs => SameNamed (Assoc.ofPairs ps) (Assoc.ofPairs qs))
      (convertProperties convert es) (convertProperties convert fs) := by
  cases alike with
  | map texts once keys _ =>
    have texts' : ∀ f ∈ fs, ∃ t, f.1 = .text t := fun f hf => by
      obtain ⟨v, hv⟩ := Entries.exists_mem_of_keys keys.symm hf
      obtain ⟨t, ht⟩ := texts _ hv
      exact ⟨t, ht⟩
    -- The first property without a schema may be another one; but there is one in both or in none.
    refine .of_ok_iff ?_ fun ps qs hps hqs => ?_
    · rw [convertProperties_ok_iff texts, convertProperties_ok_iff texts']
      constructor
      · intro hok t w hw
        obtain ⟨v, hv⟩ := Entries.exists_mem_of_keys keys.symm hw
        exact (h hv hw t).ok_iff.1 (hok t v hv)
      · intro hok t v hv
        obtain ⟨w, hw⟩ := Entries.exists_mem_of_keys keys hv
        exact (h hv hw t).ok_iff.2 (hok t w hw)
    · have hleft := convertProperties_text_keys texts hps
      have hright := convertProperties_text_keys texts' hqs
      have honce := nodup_map_of_forall₂ (hright.imp fun _ _ h => h.1) (keys.nodup_iff.1 once)
      rw [Assoc.ofPairs_of_nodup (nodup_map_of_forall₂ (hleft.imp fun _ _ h => h.1) once),
        Assoc.ofPairs_of_nodup honce]
      refine ⟨?_, sameNamed_iff.2 fun p hp => ?_⟩
      · have hlength := keys.length_eq
        rw [List.length_map, List.length_map, hleft.length_eq, hright.length_eq] at hlength
        exact hlength
      · obtain ⟨⟨key, v⟩, hv, rfl, hs⟩ := exists_left_of_forall₂ hleft hp
        obtain ⟨w, hw⟩ := Entries.exists_mem_of_keys keys hv
        obtain ⟨q, hq, hkey, ht⟩ := exists_right_of_forall₂ hright hw
        obtain hkey := Scalar.text.inj hkey
        rw [← hkey] at ht
        rw [hkey]
        exact ⟨q.2, lookup_of_mem honce hq, (h hv hw p.1).of_eq_ok hs ht⟩

/-! ## Whole schemas -/

theorem same_leaf (name : Text) (kind : Kind) (type : ResolvedType) (description : Text) :
    Schema.same ⟨name, kind, type, [], none, description⟩
      ⟨name, kind, type, [], none, description⟩ = true := by
  simp [Schema.same, sameNamed, sameItem]

variable {a b v w : Value}

/-- The entries of a part that is missing, null or a mapping, both of alike ones or of none. -/
theorem mappingOf_agree {x y : Option Value} (h : Option.Rel Value.Alike x y) (place : Section) :
    Agree (fun es fs => es = [] ∧ fs = [] ∨ x = some (.map es) ∧ y = some (.map fs))
      (mappingOf place x) (mappingOf place y) := by
  cases h with
  | none => exact .ok (.inl ⟨rfl, rfl⟩)
  | some h =>
    cases h with
    | scalar s =>
      cases s with
      | null => exact .ok (.inl ⟨rfl, rfl⟩)
      | _ => exact .error _ _
    | map => exact .ok (.inr ⟨rfl, rfl⟩)
    | _ => exact .error _ _

section Machine

variable [Machine]

theorem opening_agree {α : Type} {R : α → α → Prop} {x y : Except Fault α} (h : Agree R x y)
    (calls : Nat) : Agree R (opening calls x) (opening calls y) := by
  unfold opening
  split
  · exact h
  · exact .error _ _

theorem convertWithin_null_agree (levels calls : Nat) (name : Text) :
    Agree (fun s t => s.same t = true) (convertWithin levels calls name (.scalar .null))
      (convertWithin levels calls name (.scalar .null)) := by
  cases levels with
  | zero => exact opening_agree (.error _ _) calls
  | succ levels =>
    rw [convertWithin_null]
    refine opening_agree ?_ calls
    exact .ok (same_leaf ..)

section Inside

/- What is known one level further in. -/
variable {levels calls : Nat} (r : Reordered a b) (h : Stands a b (.schema (levels + 1)) v w)
  (inside : ∀ {x y}, Stands a b (.schema levels) x y → ∀ name,
    Agree (fun s t => s.same t = true) (convertWithin levels calls name x)
      (convertWithin levels calls name y))

include r h inside

theorem items_agree (array : Kind.ofSchema v = .array) (name : Text) :
    Agree (fun s t => s.same t = true)
      (convertWithin levels calls name ((v.get? "items").getD (.scalar .null)))
      (convertWithin levels calls name ((w.get? "items").getD (.scalar .null))) := by
  have hreads : (Text.ofString "items", Part.schema levels) ∈
      (Part.schema (levels + 1)).fields v := by
    simp [Part.fields, array]
  obtain ⟨hx, hy⟩ | ⟨x, y, hx, hy, hxy⟩ := rel_cases (r.field? h hreads)
  · rw [hx, hy]
    exact convertWithin_null_agree levels calls name
  · rw [hx, hy]
    exact inside hxy name

theorem properties_agree (other : Kind.ofSchema v ≠ .array) (place : Section) :
    Agree (fun es fs => Agree (fun ps qs => SameNamed (Assoc.ofPairs ps) (Assoc.ofPairs qs))
        (convertProperties (convertWithin levels calls) es)
        (convertProperties (convertWithin levels calls) fs))
      (mappingOf place (v.get? "properties")) (mappingOf place (w.get? "properties")) := by
  have hreads : (Text.ofString "properties", Part.properties levels) ∈
      (Part.schema (levels + 1)).fields v := by
    simp [Part.fields, other]
  have halike := (r.alike_of_stands h).get? "properties"
  refine (mappingOf_agree halike place).mono fun es fs hes => ?_
  rcases hes with ⟨rfl, rfl⟩ | ⟨hx, hy⟩
  · exact .ok ⟨rfl, rfl⟩
  · have hproperties := h.field hreads hx hy
    exact convertProperties_agree (r.alike_of_stands hproperties) fun hv hw =>
      inside (hproperties.value rfl hv hw)

end Inside

/-- **The same schemas of reordered trees have the same meaning,** or none in both. -/
theorem convertWithin_agree (r : Reordered a b) {levels : Nat}
    (h : Stands a b (.schema levels) v w) (calls : Nat) (name : Text) :
    Agree (fun s t => s.same t = true) (convertWithin levels calls name v)
      (convertWithin levels calls name w) := by
  induction levels generalizing calls name v w with
  | zero => exact opening_agree (.error _ _) calls
  | succ levels ih =>
    cases r.alike_of_stands h with
    | scalar s =>
      cases s with
      | null => exact convertWithin_null_agree _ _ _
      | _ => exact opening_agree (.error _ _) calls
    | map =>
      have halike := r.alike_of_stands h
      have inside : ∀ {x y}, Stands a b (.schema levels) x y → ∀ name,
          Agree (fun s t => s.same t = true) (convertWithin levels (calls + 1) name x)
            (convertWithin levels (calls + 1) name y) := fun h => ih h (calls + 1)
      rw [convertWithin_map, convertWithin_map]
      rw [← kind_alike halike, r.text_eq h _ (List.mem_singleton_self _)]
      refine opening_agree ((ofSchema_agree halike _).bind fun type _ htype => ?_) calls
      subst htype
      refine (Agree.refl _).bind fun description _ hdescription => ?_
      subst hdescription
      split
      · next hkind =>
        refine (items_agree r h inside hkind _).bind fun s t hsame => ?_
        exact .ok (by simp [Schema.same, sameNamed, sameItem, hsame])
      · next hkind =>
        rw [rel_any (halike.get? "properties") fun _ _ h => h.isTruthy_eq]
        split
        · refine (properties_agree r h inside hkind _).bind fun es fs hconverted => ?_
          refine hconverted.bind fun ps qs hsame => ?_
          exact .ok (by simp [Schema.same, sameItem, hsame.1, hsame.2])
        · exact .ok (same_leaf ..)
    | _ => exact opening_agree (.error _ _) calls

end Machine

end SuiteForge
