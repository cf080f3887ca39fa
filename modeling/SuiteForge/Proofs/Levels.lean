/-
# Values without a text

There are two reasons why a value has no text: an integer in it is not written, or it is a
collection that goes deeper than there is room for (`Value.Lacks`). Which of them is met first
depends on the order of its parts; that one is met does not (`Value.fails_quoted`).
-/

import SuiteForge.Proofs.Integers

namespace SuiteForge

/-! ## Levels -/

theorem Scalar.levels_pos (s : Scalar) : 0 < s.levels := by
  unfold levels
  split
  · split <;> decide
  · decide

theorem Scalar.levels_le (s : Scalar) : s.levels ≤ 3 := by
  unfold levels
  split
  · split <;> decide
  · decide

namespace Value

theorem levels_pos (v : Value) : 0 < v.levels := by
  cases v with
  | scalar s => exact s.levels_pos
  | set members =>
    rw [levels]
    split <;> omega
  | _ => simp [levels]

theorem lt_mostLevels {n : Nat} {members : List Scalar} :
    n < mostLevels members ↔ ∃ s ∈ members, n < s.levels := by
  induction members with
  | nil => simp [mostLevels]
  | cons s rest ih =>
    rw [mostLevels] at ih
    simp [mostLevels, ih]

theorem lt_itemsLevels {n : Nat} {items : List Value} :
    n < itemsLevels items ↔ ∃ v ∈ items, n < v.levels := by
  induction items with
  | nil => simp [itemsLevels]
  | cons v rest ih => simp [itemsLevels, ih]

theorem lt_entriesLevels {n : Nat} {entries : List (Scalar × Value)} :
    n < entriesLevels entries ↔ ∃ e ∈ entries, n < e.1.levels ∨ n < e.2.levels := by
  induction entries with
  | nil => simp [entriesLevels]
  | cons e rest ih => simp [entriesLevels, ih, or_assoc]

/-! ## Values inside collections -/

/-- What is in the way of showing a value inside a collection, with room for some levels. -/
def Lacks (room : Nat) (v : Value) (f : TextFault) : Prop :=
  f = .numeral .tooLarge ∧ v.HoldsLarge ∨ f = .tooDeep ∧ room < v.levels

variable {room : Nat} {f : TextFault}

theorem lacks_list {items : List Value} :
    (list items).Lacks (room + 1) f ↔ ∃ v ∈ items, v.Lacks room f := by
  simp only [Lacks, holdsLarge_list, levels, Nat.add_lt_add_iff_right, lt_itemsLevels]
  grind

theorem lacks_tuple {items : List Value} :
    (tuple items).Lacks (room + 1) f ↔ ∃ v ∈ items, v.Lacks room f := by
  simp only [Lacks, holdsLarge_tuple, levels, Nat.add_lt_add_iff_right, lt_itemsLevels]
  grind

theorem lacks_map {entries : List (Scalar × Value)} :
    (map entries).Lacks (room + 1) f ↔
      ∃ e ∈ entries, (scalar e.1).Lacks room f ∨ e.2.Lacks room f := by
  simp only [Lacks, holdsLarge_map, holdsLarge_scalar, levels, Nat.add_lt_add_iff_right,
    lt_entriesLevels]
  grind

theorem lacks_set {members : List Scalar} (some : members ≠ []) :
    (set members).Lacks (room + 2) f ↔ ∃ s ∈ members, (scalar s).Lacks room f := by
  have hempty : ¬ members.isEmpty = true := by simpa using some
  simp only [Lacks, holdsLarge_set, holdsLarge_scalar, levels, if_neg hempty,
    Nat.add_lt_add_iff_right, lt_mostLevels]
  grind

theorem fails_quotedWithin (room : Nat) (s : Scalar) :
    Fails ((scalar s).Lacks room) (s.quotedWithin room) := by
  unfold Scalar.quotedWithin
  split
  · next hroom =>
    have hdeep : ¬ room < (scalar s).levels := Nat.not_lt.2 hroom
    refine (s.fails_quoted.mapError TextFault.numeral).congr fun f => ?_
    simp only [Lacks, hdeep, holdsLarge_scalar]
    grind
  · next hroom => exact fails_error (.inr ⟨rfl, Nat.not_le.1 hroom⟩)

theorem fails_quotedAll (room : Nat) (members : List Scalar) :
    Fails (fun f => ∃ s ∈ members, (scalar s).Lacks room f) (quotedAll room members) := by
  induction members with
  | nil => exact fails_ok.congr (by simp)
  | cons s rest ih =>
    rw [quotedAll]
    exact ((fails_quotedWithin room s).bind fun _ => ih.last).congr (by simp)

theorem fails_quotedItems {items : List Value}
    (h : ∀ v ∈ items, Fails (v.Lacks room) (v.quoted room)) :
    Fails (fun f => ∃ v ∈ items, v.Lacks room f) (quotedItems room items) := by
  induction items with
  | nil => exact fails_ok.congr (by simp)
  | cons v rest ih =>
    rw [quotedItems]
    refine ((h v List.mem_cons_self).bind fun _ =>
      (ih fun w hw => h w (List.mem_cons_of_mem _ hw)).last).congr ?_
    simp

theorem fails_quotedEntries {entries : List (Scalar × Value)}
    (h : ∀ e ∈ entries, Fails (e.2.Lacks room) (e.2.quoted room)) :
    Fails (fun f => ∃ e ∈ entries, (scalar e.1).Lacks room f ∨ e.2.Lacks room f)
      (quotedEntries room entries) := by
  induction entries with
  | nil => exact fails_ok.congr (by simp)
  | cons e rest ih =>
    obtain ⟨k, v⟩ := e
    rw [quotedEntries]
    refine ((fails_quotedWithin room k).bind fun _ => (h (k, v) List.mem_cons_self).bind fun _ =>
      (ih fun w hw => h w (List.mem_cons_of_mem _ hw)).last).congr ?_
    simp [or_assoc]

/-- What is shown one level further in decides over the whole. -/
theorem fails_inner {α : Type} {v : Value} {step : Nat → Except TextFault α}
    (h : ∀ room, Fails (v.Lacks (room + 1)) (step room)) (room : Nat) :
    Fails (v.Lacks room) (inner room >>= step) := by
  cases room with
  | zero => exact fails_error (.inr ⟨rfl, v.levels_pos⟩)
  | succ room => exact h room

/-- **A value is shown inside a collection unless something is in the way.** -/
theorem fails_quoted (room : Nat) (v : Value) : Fails (v.Lacks room) (v.quoted room) := by
  match v with
  | .scalar s =>
    rw [quoted]
    exact fails_quotedWithin room s
  | .list items =>
    rw [quoted]
    exact fails_inner (fun room => (fails_quotedItems fun v _ => fails_quoted room v).last.congr
      fun _ => lacks_list.symm) room
  | .map entries =>
    rw [quoted]
    exact fails_inner (fun room => (fails_quotedEntries fun e _ => fails_quoted room e.2).last.congr
      fun _ => lacks_map.symm) room
  | .tuple items =>
    rw [quoted]
    exact fails_inner (fun room => (fails_quotedItems fun v _ => fails_quoted room v).last.congr
      fun _ => lacks_tuple.symm) room
  | .set members =>
    rw [quoted]
    refine fails_inner (fun room => ?_) room
    by_cases hempty : members = []
    · subst hempty
      exact fails_ok.congr fun f => by simp [Lacks, holdsLarge_set, levels]
    · rw [if_neg (by simpa using hempty)]
      cases room with
      | zero => exact fails_error (.inr ⟨rfl, by simp [levels, hempty]⟩)
      | succ room =>
        exact (fails_quotedAll room members).last.congr fun _ => (lacks_set hempty).symm
  | .enclosing levels shape =>
    unfold quoted
    refine fails_inner (fun room => fails_ok.congr fun f => ?_) room
    simp [Lacks, not_holdsLarge_enclosing, Value.levels]
termination_by v
decreasing_by
  · have := List.sizeOf_lt_of_mem ‹v ∈ items›
    simp only [list.sizeOf_spec]
    omega
  · have := List.sizeOf_lt_of_mem ‹e ∈ entries›
    obtain ⟨key, w⟩ := e
    simp only [Prod.mk.sizeOf_spec, map.sizeOf_spec] at this ⊢
    omega
  · have := List.sizeOf_lt_of_mem ‹v ∈ items›
    simp only [tuple.sizeOf_spec]
    omega

/-! ## Values on their own -/

/-- A collection with more levels than there is room for. -/
def Overdeep (room : Nat) : Value → Prop
  | scalar _ => False
  | v => room < v.levels

theorem not_overdeep {v : Value} (h : v.levels ≤ room) : ¬ v.Overdeep room := by
  cases v with
  | scalar s => exact id
  | _ => exact Nat.not_lt.2 h

/-- A value has no text, with room for some levels, but this fault. -/
inductive Untold (room : Nat) (v : Value) : Fault → Prop
  | number (large : v.HoldsLarge) : Untold room v (.stray (.numeral .tooLarge))
  | depth (deep : v.Overdeep room) : Untold room v (.recursion .value)

/-- A value has no text, with room for some levels. -/
def Unwritable (room : Nat) (v : Value) : Prop := ∃ f, v.Untold room f

theorem unwritable_iff {v : Value} : v.Unwritable room ↔ v.HoldsLarge ∨ v.Overdeep room := by
  constructor
  · rintro ⟨_, large | deep⟩
    · exact .inl large
    · exact .inr deep
  · rintro (large | deep)
    · exact ⟨_, .number large⟩
    · exact ⟨_, .depth deep⟩

theorem not_unwritable_null : ¬ (scalar .null).Unwritable room := by
  rw [unwritable_iff, holdsLarge_scalar]
  simp [Scalar.Large, Overdeep]

/-- **A value has a text unless an integer in it is not written, or it goes too deep.** -/
theorem fails_display (room : Nat) (v : Value) :
    Fails (fun f => v.Untold room (.ofText f)) (v.display room) := by
  have hfault : ∀ f, v.Untold room (.ofText f) ↔
      f = .numeral .tooLarge ∧ v.HoldsLarge ∨ f = .tooDeep ∧ v.Overdeep room := by
    intro f
    constructor
    · intro h
      cases f with
      | numeral g => cases h with
        | number large => exact .inl ⟨rfl, large⟩
      | tooDeep => cases h with
        | depth deep => exact .inr ⟨rfl, deep⟩
    · rintro (⟨rfl, large⟩ | ⟨rfl, deep⟩)
      · exact .number large
      · exact .depth deep
  refine Fails.congr ?_ fun f => (hfault f).symm
  cases v with
  | scalar s =>
    refine (s.fails_display.mapError TextFault.numeral).congr fun f => ?_
    simp only [Overdeep, holdsLarge_scalar]
    grind
  | _ => exact fails_quoted room _

/-- What is in the way in a part of a collection is in the way in the whole. -/
theorem Untold.of_part {v w : Value} {f : Fault} (h : w.Untold room f)
    (large : w.HoldsLarge → v.HoldsLarge) (deep : room < w.levels → room < v.levels)
    (collection : ∀ s, v ≠ scalar s) : v.Untold room f := by
  cases h with
  | number hlarge => exact .number (large hlarge)
  | depth hdeep =>
    have hroom : room < v.levels := by
      cases w with
      | scalar s => exact hdeep.elim
      | _ => exact deep hdeep
    refine .depth ?_
    cases v with
    | scalar s => exact absurd rfl (collection s)
    | _ => exact hroom

/-- Less room is in the way of more values. -/
theorem Untold.mono {v : Value} {f : Fault} {more less : Nat} (h : v.Untold more f)
    (hle : less ≤ more) : v.Untold less f := by
  cases h with
  | number large => exact .number large
  | depth deep =>
    refine .depth ?_
    cases v with
    | scalar s => exact deep.elim
    | _ => exact Nat.lt_of_le_of_lt hle deep

variable {v : Value} {fault : Fault}

theorem untold_of_item {items : List Value} (mem : v ∈ items) (h : v.Untold room fault) :
    (list items).Untold room fault :=
  h.of_part (fun hlarge => holdsLarge_list.2 ⟨v, mem, hlarge⟩)
    (fun hdeep => Nat.lt_succ_of_lt (lt_itemsLevels.2 ⟨v, mem, hdeep⟩)) nofun

theorem untold_of_entry {entries : List (Scalar × Value)} {e : Scalar × Value} (mem : e ∈ entries)
    (h : e.2.Untold room fault) : (map entries).Untold room fault :=
  h.of_part (fun hlarge => holdsLarge_map.2 ⟨e, mem, .inr hlarge⟩)
    (fun hdeep => Nat.lt_succ_of_lt (lt_entriesLevels.2 ⟨e, mem, .inr hdeep⟩)) nofun

theorem untold_of_key {entries : List (Scalar × Value)} {e : Scalar × Value} (mem : e ∈ entries)
    (h : e.1.Large) : (map entries).Untold room (.stray (.numeral .tooLarge)) :=
  .number (holdsLarge_map.2 ⟨e, mem, .inl h⟩)

end Value

end SuiteForge
