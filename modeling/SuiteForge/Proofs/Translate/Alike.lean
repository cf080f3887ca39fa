/-
# Trees that are alike

Two trees are alike if they differ at most in the order of the entries of their mappings, the keys
of which are texts (`Value.Alike`). At a key of two such trees stands nothing, or what is alike
(`Value.Alike.get?`); what is in the way of the text of one is in the way of that of the other
(`Value.Alike.untold_iff`); and their types are the same whatever is shown on the way
(`ofSchema_alike`).
-/

import SuiteForge.Proofs.Translate.Texts

namespace SuiteForge

/-! ## Lists -/

section Lists

variable {α β : Type} {xs : List α} {ys : List β}

theorem isEmpty_eq_of_length_eq (h : xs.length = ys.length) : xs.isEmpty = ys.isEmpty := by
  cases xs <;> cases ys <;> simp_all

/-- Of items that go together one by one, some is of a sort on the left if some is on the right. -/
theorem exists_mem_iff {P : α → Prop} {Q : β → Prop}
    (h : List.Forall₂ (fun x y => P x ↔ Q y) xs ys) : (∃ x ∈ xs, P x) ↔ ∃ y ∈ ys, Q y := by
  induction h with
  | nil => simp
  | cons hhere _ ih => simp [hhere, ih]

/-- Two lists of pairs have the same keys in the same order, and values that are related. -/
abbrev Rows {κ : Type} (R : α → β → Prop) : List (κ × α) → List (κ × β) → Prop :=
  List.Forall₂ fun e f => e.1 = f.1 ∧ R e.2 f.2

end Lists

/-! ## Optional values -/

section Rel

variable {α β γ δ : Type} {R : α → β → Prop} {S : γ → δ → Prop} {x : Option α} {y : Option β}

theorem rel_cases (h : Option.Rel R x y) :
    x = none ∧ y = none ∨ ∃ a b, x = some a ∧ y = some b ∧ R a b := by
  cases h with
  | none => exact .inl ⟨rfl, rfl⟩
  | some h => exact .inr ⟨_, _, rfl, rfl, h⟩

theorem rel_bind {f : α → Option γ} {g : β → Option δ} (h : Option.Rel R x y)
    (hf : ∀ a b, R a b → Option.Rel S (f a) (g b)) : Option.Rel S (x.bind f) (y.bind g) := by
  cases h with
  | none => exact .none
  | some h => exact hf _ _ h

theorem rel_any {p : α → Bool} {q : β → Bool} (h : Option.Rel R x y)
    (hp : ∀ a b, R a b → p a = q b) : x.any p = y.any q := by
  cases h with
  | none => rfl
  | some h => exact hp _ _ h

theorem rel_filter {p : α → Bool} {q : β → Bool} (h : Option.Rel R x y)
    (hp : ∀ a b, R a b → p a = q b) : Option.Rel R (x.filter p) (y.filter q) := by
  cases h with
  | none => exact .none
  | @some a b h =>
    rw [Option.filter_some, Option.filter_some, hp a b h]
    split
    · exact .some h
    · exact .none

end Rel

/-! ## Keys of entries -/

namespace Entries

variable {α β : Type} {entries : Entries α} {key : Text}

theorem find?_text_eq_none : find? (.text key) entries = none ↔ .text key ∉ entries.map (·.1) := by
  rw [find?, Option.map_eq_none_iff, List.find?_eq_none, List.mem_map, not_exists]
  exact forall_congr' fun e => by rw [Scalar.sameKey_text_iff, not_and]

theorem mem_of_find?_text {a : α} (h : find? (.text key) entries = some a) :
    (.text key, a) ∈ entries := by
  obtain ⟨e, he, rfl⟩ := Option.map_eq_some_iff.1 h
  have hsame := List.find?_some he
  have hkey : e.1 = .text key := Scalar.sameKey_text_iff.1 hsame
  rw [← hkey]
  exact List.mem_of_find?_eq_some he

/-- Where no key stands twice, a key has the value that stands there. -/
theorem find?_text_eq_some (once : (entries.map (·.1)).Nodup) {a : α}
    (h : (.text key, a) ∈ entries) : find? (.text key) entries = some a := by
  cases hfound : find? (.text key) entries with
  | none => exact absurd (List.mem_map_of_mem h) (find?_text_eq_none.1 hfound)
  | some b =>
    have hsame := List.inj_on_of_nodup_map once h (mem_of_find?_text hfound) rfl
    rw [(Prod.mk.inj hsame).2]

theorem exists_mem_of_keys {es : Entries α} {fs : Entries β}
    (keys : (es.map (·.1)).Perm (fs.map (·.1))) {k : Scalar} {a : α} (h : (k, a) ∈ es) :
    ∃ b, (k, b) ∈ fs := by
  obtain ⟨⟨_, b⟩, hb, rfl⟩ := List.mem_map.1 (keys.mem_iff.1 (List.mem_map_of_mem h))
  exact ⟨b, hb⟩

/-- Of entries with the same keys, some is of a sort on the left if some is on the right. -/
theorem exists_entry_iff {P : Scalar × α → Prop} {Q : Scalar × β → Prop} {es : Entries α}
    {fs : Entries β} (keys : (es.map (·.1)).Perm (fs.map (·.1)))
    (h : ∀ {k a b}, (k, a) ∈ es → (k, b) ∈ fs → (P (k, a) ↔ Q (k, b))) :
    (∃ e ∈ es, P e) ↔ ∃ f ∈ fs, Q f := by
  constructor
  · rintro ⟨⟨k, a⟩, ha, hp⟩
    obtain ⟨b, hb⟩ := exists_mem_of_keys keys ha
    exact ⟨(k, b), hb, (h ha hb).1 hp⟩
  · rintro ⟨⟨k, b⟩, hb, hq⟩
    obtain ⟨a, ha⟩ := exists_mem_of_keys keys.symm hb
    exact ⟨(k, a), ha, (h ha hb).2 hq⟩

/-- Entries with the same keys in the same order go together one by one. -/
theorem rows_of_keys {R : α → β → Prop} {es : Entries α} {fs : Entries β}
    (order : es.map (·.1) = fs.map (·.1))
    (h : ∀ {key a b}, (key, a) ∈ es → (key, b) ∈ fs → R a b) : Rows R es fs := by
  induction es generalizing fs with
  | nil =>
    obtain rfl := List.map_eq_nil_iff.1 order.symm
    exact .nil
  | cons e es ih =>
    obtain ⟨f, fs, rfl, hkey, hrest⟩ := List.map_eq_cons_iff.1 order.symm
    refine .cons ⟨hkey.symm, h List.mem_cons_self ?_⟩ (ih hrest.symm fun he hf =>
      h (List.mem_cons_of_mem _ he) (List.mem_cons_of_mem _ hf))
    change f.1 = e.1 at hkey
    rw [← hkey]
    exact List.mem_cons_self

end Entries

/-! ## Trees that are alike -/

namespace Value

/-- Two trees are equal up to the order of entries and of members; keys of mappings are texts, and
no mapping has a key twice. -/
inductive Alike : Value → Value → Prop
  | scalar (s : Scalar) : Alike (.scalar s) (.scalar s)
  | list {vs ws : List Value} (length : vs.length = ws.length)
      (items : ∀ {v w}, (v, w) ∈ vs.zip ws → Alike v w) : Alike (.list vs) (.list ws)
  | map {es fs : List (Scalar × Value)} (texts : ∀ e ∈ es, ∃ t, e.1 = .text t)
      (once : (es.map (·.1)).Nodup) (keys : (es.map (·.1)).Perm (fs.map (·.1)))
      (values : ∀ {key v w}, (key, v) ∈ es → (key, w) ∈ fs → Alike v w) :
      Alike (.map es) (.map fs)
  | tuple {vs ws : List Value} (length : vs.length = ws.length)
      (items : ∀ {v w}, (v, w) ∈ vs.zip ws → Alike v w) : Alike (.tuple vs) (.tuple ws)
  | set {ms ns : List Scalar} (members : ms.Perm ns) : Alike (.set ms) (.set ns)
  | enclosing (levels : Nat) (shape : Shape) :
      Alike (.enclosing levels shape) (.enclosing levels shape)

namespace Alike

variable {v w : Value}

theorem isMap_eq (h : v.Alike w) : v.isMap = w.isMap := by
  cases h <;> rfl

theorem isNull_eq (h : v.Alike w) : v.isNull = w.isNull := by
  cases h <;> rfl

theorem isTruthy_eq (h : v.Alike w) : v.isTruthy = w.isTruthy := by
  cases h with
  | scalar _ | enclosing _ _ => rfl
  | list length _ | tuple length _ => rw [isTruthy, isTruthy, isEmpty_eq_of_length_eq length]
  | map _ _ keys _ =>
    have length := keys.length_eq
    rw [List.length_map, List.length_map] at length
    rw [isTruthy, isTruthy, isEmpty_eq_of_length_eq length]
  | set members => rw [isTruthy, isTruthy, members.isEmpty_eq]

/-- What stands at a key is missing in both or alike. -/
theorem get? (h : v.Alike w) (key : Text) : Option.Rel Alike (v.get? key) (w.get? key) := by
  cases h with
  | map texts once keys values =>
    simp only [Value.get?]
    cases hfound : Entries.find? (.text key) _ with
    | none =>
      have hmissing := Entries.find?_text_eq_none.1 hfound
      rw [Entries.find?_text_eq_none.2 fun hmem => hmissing (keys.mem_iff.2 hmem)]
      exact .none
    | some x =>
      have hx := Entries.mem_of_find?_text hfound
      obtain ⟨y, hy⟩ := Entries.exists_mem_of_keys keys hx
      rw [Entries.find?_text_eq_some (keys.nodup_iff.1 once) hy]
      exact .some (values hx hy)
  | _ => exact .none

theorem holdsLarge_iff (h : v.Alike w) : v.HoldsLarge ↔ w.HoldsLarge := by
  induction h with
  | scalar _ | enclosing _ _ => rfl
  | list length _ ih =>
    rw [holdsLarge_list, holdsLarge_list]
    exact exists_mem_iff (List.forall₂_iff_zip.2 ⟨length, ih⟩)
  | tuple length _ ih =>
    rw [holdsLarge_tuple, holdsLarge_tuple]
    exact exists_mem_iff (List.forall₂_iff_zip.2 ⟨length, ih⟩)
  | set members =>
    rw [holdsLarge_set, holdsLarge_set]
    exact exists_congr fun s => and_congr_left' members.mem_iff
  | map _ _ keys _ ih =>
    rw [holdsLarge_map, holdsLarge_map]
    exact Entries.exists_entry_iff keys fun hx hy => or_congr_right (ih hx hy)

theorem itemsLevels_eq {vs ws : List Value}
    (h : List.Forall₂ (fun v w : Value => v.levels = w.levels) vs ws) :
    itemsLevels vs = itemsLevels ws := by
  induction h with
  | nil => rfl
  | cons hhere _ ih => rw [itemsLevels, itemsLevels, hhere, ih]

theorem levels_eq (h : v.Alike w) : v.levels = w.levels := by
  induction h with
  | scalar _ | enclosing _ _ => rfl
  | list length _ ih =>
    rw [levels, levels, itemsLevels_eq (List.forall₂_iff_zip.2 ⟨length, ih⟩)]
  | tuple length _ ih =>
    rw [levels, levels, itemsLevels_eq (List.forall₂_iff_zip.2 ⟨length, ih⟩)]
  | @set ms ns members =>
    have hmost : mostLevels ms = mostLevels ns := eq_of_forall_lt_iff fun n => by
      rw [lt_mostLevels, lt_mostLevels]
      exact exists_congr fun s => and_congr_left' members.mem_iff
    rw [levels, levels, members.isEmpty_eq, hmost]
  | @map es fs _ _ keys _ ih =>
    have hentries : entriesLevels es = entriesLevels fs := eq_of_forall_lt_iff fun n => by
      rw [lt_entriesLevels, lt_entriesLevels]
      exact Entries.exists_entry_iff keys fun hx hy => by rw [ih hx hy]
    rw [levels, levels, hentries]

theorem overdeep_iff {room : Nat} (h : v.Alike w) : v.Overdeep room ↔ w.Overdeep room := by
  have hlevels := h.levels_eq
  cases h with
  | scalar _ => rfl
  | _ => exact iff_of_eq (congrArg (room < ·) hlevels)

theorem untold_iff {room : Nat} (h : v.Alike w) (f : Fault) :
    v.Untold room f ↔ w.Untold room f := by
  constructor
  · rintro (large | deep)
    · exact .number (h.holdsLarge_iff.1 large)
    · exact .depth (h.overdeep_iff.1 deep)
  · rintro (large | deep)
    · exact .number (h.holdsLarge_iff.2 large)
    · exact .depth (h.overdeep_iff.2 deep)

theorem unwritable_iff {room : Nat} (h : v.Alike w) : v.Unwritable room ↔ w.Unwritable room :=
  exists_congr h.untold_iff

theorem forall₂_items {vs ws : List Value} (h : (Value.list vs).Alike (.list ws)) :
    List.Forall₂ Alike vs ws := by
  cases h with
  | list length items => exact List.forall₂_iff_zip.2 ⟨length, items⟩

end Alike

end Value

open Value (Alike)

/-- The preferred media types of contents that list them in the same order. -/
theorem preferredMedia?_alike {es fs : Entries Value} (h : Alike (.map es) (.map fs))
    (order : es.map (·.1) = fs.map (·.1)) :
    Option.Rel Alike (preferredMedia? (some (.map es))) (preferredMedia? (some (.map fs))) := by
  have hfirst : Option.Rel Alike (es.head?.map Prod.snd) (fs.head?.map Prod.snd) := by
    cases h with
    | map _ _ _ values =>
      cases Entries.rows_of_keys order values with
      | nil => exact .none
      | cons hhead _ => exact .some hhead.2
  simp only [preferredMedia?]
  refine rel_filter ?_ fun _ _ h => h.isMap_eq
  obtain ⟨hx, hy⟩ | ⟨x, y, hx, hy, hxy⟩ := rel_cases (h.get? preferredMediaType)
  · rw [Value.get?] at hx hy
    rw [hx, hy]
    exact hfirst
  · rw [Value.get?] at hx hy
    rw [hx, hy]
    dsimp only
    rw [hxy.isNull_eq]
    split
    · exact hfirst
    · exact .some hxy

/-! ## Types -/

theorem firstType_alike {vs ws : List Value} (h : List.Forall₂ Alike vs ws) :
    Option.Rel Alike (firstType vs) (firstType ws) := by
  induction h with
  | nil => exact .none
  | @cons v w vs ws hvw _ ih =>
    have hsame : ∀ p : Value → Bool, p v = p w →
        Option.Rel Alike (vs.find? p) (ws.find? p) →
        Option.Rel Alike ((v :: vs).find? p) ((w :: ws).find? p) := by
      intro p hp hrest
      rw [List.find?_cons, List.find?_cons, hp]
      split
      · exact .some hvw
      · exact hrest
    exact hsame _ (by cases hvw <;> rfl) ih

theorem declaredType?_alike {v w : Value} (h : v.Alike w) : declaredType? v = declaredType? w := by
  unfold declaredType?
  obtain ⟨hx, hy⟩ | ⟨x, y, hx, hy, hxy⟩ := rel_cases (h.get? "type")
  · rw [hx, hy]
  · rw [hx, hy]
    cases hxy with
    | list length items =>
      dsimp only
      have hfirst := firstType_alike (Alike.list length items).forall₂_items
      obtain ⟨hs, ht⟩ | ⟨s, t, hs, ht, hst⟩ := rel_cases hfirst
      · rw [hs, ht]
      · rw [hs, ht]
        cases hst <;> rfl
    | _ => rfl

theorem kind_alike {v w : Value} (h : v.Alike w) : Kind.ofSchema v = Kind.ofSchema w := by
  rw [Kind.ofSchema, Kind.ofSchema, declaredType?_alike h]

/-- What is shown of a collection begins with a bracket, or with the word for the empty set. -/
theorem Value.display_collection {v : Value} {room : Nat} {t : Text} (h : v.display room = .ok t)
    (collection : ∀ s, v ≠ .scalar s) :
    ∃ c rest, t = .char c :: rest ∧ (c = '[' ∨ c = '\x7b' ∨ c = '(' ∨ c = 's') := by
  have hquoted : v.quoted room = .ok t := by
    cases v with
    | scalar s => exact absurd rfl (collection s)
    | _ => exact h
  cases v with
  | scalar s => exact absurd rfl (collection s)
  | list items =>
    simp only [quoted, bind_eq_ok] at hquoted
    obtain ⟨room, -, parts, -, hparts⟩ := hquoted
    obtain rfl := Except.ok.inj hparts
    exact ⟨'[', _, rfl, by decide⟩
  | map entries =>
    simp only [quoted, bind_eq_ok] at hquoted
    obtain ⟨room, -, parts, -, hparts⟩ := hquoted
    obtain rfl := Except.ok.inj hparts
    exact ⟨'\x7b', _, rfl, by decide⟩
  | tuple items =>
    simp only [quoted, bind_eq_ok] at hquoted
    obtain ⟨room, -, parts, -, hparts⟩ := hquoted
    obtain rfl := Except.ok.inj hparts
    refine ⟨'(', ?_⟩
    split <;> exact ⟨_, rfl, by decide⟩
  | set members =>
    rw [quoted, bind_eq_ok] at hquoted
    obtain ⟨room, -, hset⟩ := hquoted
    split at hset
    · exact ⟨'s', _, (Except.ok.inj hset).symm, by decide⟩
    · simp only [bind_eq_ok] at hset
      obtain ⟨_, -, parts, -, hparts⟩ := hset
      exact ⟨'\x7b', _, (Except.ok.inj hparts).symm, by decide⟩
  | enclosing levels shape =>
    simp only [quoted, bind_eq_ok] at hquoted
    obtain ⟨_, -, hshape⟩ := hquoted
    cases shape <;> exact ⟨_, _, (Except.ok.inj hshape).symm, by decide⟩

theorem Text.lower_cons {s : Symbol} {t : Text} (h : s.code ≠ 0x3A3) :
    ∃ rest, Text.lower (s :: t) = s.lower ++ rest := by
  refine ⟨Text.lower.go [s] t, ?_⟩
  rw [Text.lower, Text.lower.go, if_neg h]

/-- What is shown of a collection is no format that narrows a type. -/
theorem ofDeclared_of_collection {v : Value} {room : Nat} {t : Text} (h : v.display room = .ok t)
    (collection : ∀ s, v ≠ .scalar s) (type : Text) :
    ResolvedType.ofDeclared type t.lower = ResolvedType.ofDeclared type [] := by
  obtain ⟨c, rest, rfl, hc⟩ := v.display_collection h collection
  obtain ⟨low, hlow⟩ : ∃ low, Text.lower (.char c :: rest) = .char c :: low := by
    rcases hc with rfl | rfl | rfl | rfl <;> exact Text.lower_cons (by decide)
  have hother : ∀ {d : Char} {word : Text}, d = 'i' ∨ d = 'f' →
      (.char c :: low : Text) ≠ .char d :: word := by
    rintro d word hd h
    obtain rfl := Symbol.char.inj (List.cons.inj h).1
    revert hd
    rcases hc with rfl | rfl | rfl | rfl <;> decide
  have hlong : (.char c :: low : Text) ≠ Text.ofString "int64" := hother (.inl rfl)
  have hfloat : (.char c :: low : Text) ≠ Text.ofString "float" := hother (.inr rfl)
  rw [hlow, ResolvedType.ofDeclared, ResolvedType.ofDeclared, if_neg hlong, if_neg hfloat]
  rfl

section Machine

variable [Machine]

theorem shown_agree {v w : Value} (h : v.Alike w) (calls : Nat) :
    Agree (fun t u => ∀ type, ResolvedType.ofDeclared type t.lower =
      ResolvedType.ofDeclared type u.lower) (shown v calls) (shown w calls) := by
  by_cases hscalar : ∃ s, v = .scalar s
  · obtain ⟨s, rfl⟩ := hscalar
    cases h
    exact (Agree.refl _).mono fun t u h type => by rw [h]
  · have hleft : ∀ s, v ≠ .scalar s := not_exists.1 hscalar
    have hright : ∀ s, w ≠ .scalar s := by
      rintro s rfl
      cases h
      exact hleft s rfl
    refine .of_ok_iff ?_ fun t u ht hu type => ?_
    · rw [shown_ok_iff, shown_ok_iff, h.unwritable_iff]
    · rw [ofDeclared_of_collection (mapError_eq_ok.1 ht) hleft,
        ofDeclared_of_collection (mapError_eq_ok.1 hu) hright]

/-- **The type of a schema does not depend on the order of entries,** although a format is read as a
text whatever it is. -/
theorem ofSchema_agree {v w : Value} (h : v.Alike w) (calls : Nat) :
    Agree Eq (ResolvedType.ofSchema v calls) (ResolvedType.ofSchema w calls) := by
  unfold ResolvedType.ofSchema
  rw [declaredType?_alike h]
  split
  · exact .refl _
  · next type _ =>
    have hformat : Agree (fun t u => ∀ type, ResolvedType.ofDeclared type t =
        ResolvedType.ofDeclared type u) (formatOf v (calls + 1)) (formatOf w (calls + 1)) := by
      unfold formatOf
      obtain ⟨hx, hy⟩ | ⟨x, y, hx, hy, hxy⟩ := rel_cases (h.get? "format")
      · rw [hx, hy]
        exact .ok fun _ => rfl
      · rw [hx, hy]
        dsimp only
        rw [hxy.isTruthy_eq]
        split
        · exact (shown_agree hxy _).map fun _ _ h => h
        · exact .ok fun _ => rfl
    exact hformat.map fun t u h => h type

end Machine

end SuiteForge
