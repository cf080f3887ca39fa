/-
# Checking that trees are reordered

Whether two given trees are alike (`Value.alikeWithin`), and whether they keep the orders and the
texts that show (`Part.keepsWithin`), is computed, going down a bounded number of levels. Both
checks are sound (`reordered_of_checks`).
-/

import SuiteForge.Proofs.Translate.Reordering

namespace SuiteForge

namespace Value

/-- A check that two trees are alike, going down some levels at most. -/
def alikeWithin : Nat → Value → Value → Bool
  | 0, _, _ => false
  | _ + 1, scalar s, scalar t => decide (s = t)
  | levels + 1, list vs, list ws =>
    vs.length == ws.length && (vs.zip ws).all fun e => alikeWithin levels e.1 e.2
  | levels + 1, map es, map fs =>
    (es.all fun e => match e.1 with | .text _ => true | _ => false) &&
      (decide (es.map (·.1)).Nodup && (decide ((es.map (·.1)).Perm (fs.map (·.1))) &&
        es.all fun e => fs.all fun f => decide (e.1 ≠ f.1) || alikeWithin levels e.2 f.2))
  | levels + 1, tuple vs, tuple ws =>
    vs.length == ws.length && (vs.zip ws).all fun e => alikeWithin levels e.1 e.2
  | _ + 1, set ms, set ns => decide (ms.Perm ns)
  | _ + 1, enclosing m s, enclosing n t => decide (m = n ∧ s = t)
  | _ + 1, _, _ => false

theorem alike_of_alikeWithin {levels : Nat} {v w : Value} (h : alikeWithin levels v w = true) :
    v.Alike w := by
  induction levels generalizing v w with
  | zero => cases h
  | succ levels ih =>
    unfold alikeWithin at h
    split at h
    · next hlevels => cases hlevels
    · obtain rfl := of_decide_eq_true h
      exact .scalar _
    · next hlevels =>
      obtain rfl := Nat.succ.inj hlevels
      simp only [Bool.and_eq_true, beq_iff_eq, List.all_eq_true] at h
      exact .list h.1 fun hmem => ih (h.2 _ hmem)
    · next hlevels =>
      obtain rfl := Nat.succ.inj hlevels
      simp only [Bool.and_eq_true, Bool.or_eq_true, decide_eq_true_eq, List.all_eq_true] at h
      obtain ⟨texts, once, keys, values⟩ := h
      refine .map (fun e he => ?_) once keys fun hv hw => ?_
      · have htext := texts e he
        split at htext
        · next t hkey => exact ⟨t, hkey⟩
        · cases htext
      · exact ih ((values _ hv _ hw).resolve_left fun hne => hne rfl)
    · next hlevels =>
      obtain rfl := Nat.succ.inj hlevels
      simp only [Bool.and_eq_true, beq_iff_eq, List.all_eq_true] at h
      exact .tuple h.1 fun hmem => ih (h.2 _ hmem)
    · exact .set (of_decide_eq_true h)
    · obtain ⟨rfl, rfl⟩ := of_decide_eq_true h
      exact .enclosing _ _
    · cases h

end Value

namespace Part

/-- What a part goes on to in both of two trees. -/
def inside (p : Part) (v w : Value) : List (Part × Value × Value) :=
  let ofFields := (p.fields v).filterMap fun e => match v.get? e.1, w.get? e.1 with
    | some x, some y => some (e.2, x, y)
    | _, _ => none
  let ofValues := match p.values, v, w with
    | some q, .map es, .map fs =>
      es.flatMap fun e => (fs.filter fun f => f.1 = e.1).map fun f => (q, e.2, f.2)
    | _, _, _ => []
  let ofItems := match v, w with
    | .list vs, .list ws => (vs.zip ws).zipIdx.filterMap fun e => (p.item e.2).map fun q => (q, e.1)
    | _, _ => []
  let ofContent := match p, preferredMedia? (some v), preferredMedia? (some w) with
    | content c, some x, some y => [(media c, x, y)]
    | _, _, _ => []
  ofFields ++ ofValues ++ ofItems ++ ofContent

/-- In a part itself, texts are read from scalars, and an order that shows is the same. -/
def keeps (p : Part) (v w : Value) : Bool :=
  (p.texts.all fun key => match v.get? key with
    | none => true
    | some (.scalar _) => true
    | some _ => false) &&
  match v, w with
  | .map es, .map fs => !p.ordered || decide (es.map (·.1) = fs.map (·.1))
  | _, _ => true

/-- The same in everything inside, going down some levels at most. -/
def keepsWithin : Nat → Part → Value → Value → Bool
  | 0, _, _, _ => false
  | levels + 1, p, v, w =>
    p.keeps v w && (p.inside v w).all fun e => keepsWithin levels e.1 e.2.1 e.2.2

theorem keepsWithin_iff {levels : Nat} {p : Part} {v w : Value} :
    p.keepsWithin levels v w = true ↔ ∃ rest, levels = rest + 1 ∧ p.keeps v w = true ∧
      ∀ e ∈ p.inside v w, e.1.keepsWithin rest e.2.1 e.2.2 = true := by
  cases levels with
  | zero => simp [keepsWithin]
  | succ levels => simp [keepsWithin]

end Part

theorem Stands.keepsWithin {a b : Value} {levels : Nat}
    (check : Part.document.keepsWithin levels a b = true) {p : Part} {v w : Value}
    (h : Stands a b p v w) : ∃ rest, p.keepsWithin rest v w = true := by
  have hinside : ∀ {p q : Part} {v w x y : Value}, (q, x, y) ∈ p.inside v w →
      (∃ rest, p.keepsWithin rest v w = true) → ∃ rest, q.keepsWithin rest x y = true := by
    rintro p q v w x y hmem ⟨_, h⟩
    obtain ⟨rest, -, -, h⟩ := Part.keepsWithin_iff.1 h
    exact ⟨rest, h _ hmem⟩
  induction h with
  | root => exact ⟨levels, check⟩
  | @field _ q v w x y key _ reads left right ih =>
    refine hinside ?_ ih
    simp only [Part.inside, List.mem_append, List.mem_filterMap]
    exact .inl (.inl (.inl ⟨(key, q), reads, by simp only [left, right]⟩))
  | @value _ q es fs x y key _ reads left right ih =>
    refine hinside ?_ ih
    simp only [Part.inside, List.mem_append, reads, List.mem_flatMap, List.mem_map, List.mem_filter]
    exact .inl (.inl (.inr ⟨(key, x), left, (key, y), ⟨right, by simp⟩, rfl⟩))
  | @item _ q vs ws x y i _ reads both ih =>
    refine hinside ?_ ih
    simp only [Part.inside, List.mem_append, List.mem_filterMap]
    refine .inl (.inr ⟨((x, y), i), ?_, by simp only [reads, Option.map_some]⟩)
    exact List.mem_zipIdx_iff_getElem?.2 both
  | media _ left right ih =>
    refine hinside ?_ ih
    simp only [Part.inside, List.mem_append, left, right]
    exact .inr (List.mem_singleton_self _)

/-- **Trees that pass both checks are reordered.** -/
theorem reordered_of_checks {a b : Value} {levels : Nat} (alike : a.alikeWithin levels b = true)
    (keeps : Part.document.keepsWithin levels a b = true) : Reordered a b where
  alike := Value.alike_of_alikeWithin alike
  texts := by
    intro p v w key x h hreads hx
    obtain ⟨_, hcheck⟩ := h.keepsWithin keeps
    obtain ⟨-, -, hhere, -⟩ := Part.keepsWithin_iff.1 hcheck
    unfold Part.keeps at hhere
    rw [Bool.and_eq_true, List.all_eq_true] at hhere
    have hkey := hhere.1 key hreads
    rw [hx] at hkey
    cases x with
    | scalar s => exact ⟨s, rfl⟩
    | _ => cases hkey
  order := by
    intro p es fs h ordered
    obtain ⟨_, hcheck⟩ := h.keepsWithin keeps
    obtain ⟨-, -, hhere, -⟩ := Part.keepsWithin_iff.1 hcheck
    unfold Part.keeps at hhere
    rw [Bool.and_eq_true, ordered] at hhere
    exact of_decide_eq_true hhere.2

end SuiteForge
