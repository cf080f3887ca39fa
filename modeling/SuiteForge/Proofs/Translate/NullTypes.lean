/-
# Null among the types of a schema

A schema may declare a list of types, and the first that is not `null` counts. An entry that is
spelled `null` is neutral: wherever such entries are put in or taken out, the declared type, the
meaning and the kind of the schema stay. An entry that denotes null otherwise is not, as the search
for the first type looks at spellings.

| types | counts | declared type |
| --- | --- | --- |
| `["null", string]` | `string` | `string` |
| `[string, null]`, `[string, "NULL"]` | `string` | `string` |
| `[null, string]` | null | none |
| `["NULL", string]` | `NULL` | `null` |

So the first entry that does not denote null decides unless a null in another spelling comes first
(`Misread`). This is the exact condition (`nullTypes_neutral_iff`).
-/

import SuiteForge.Proofs.Outcome
import SuiteForge.OpenApi.SchemaType

namespace SuiteForge

/-! ## Lists that differ by some entries -/

section Differ

variable {α : Type} {p : α → Bool} {xs ys : List α}

/-- One entry of a class is put in. -/
inductive PutIn (p : α → Bool) : List α → List α → Prop
  | at (before after : List α) {x : α} (hx : p x = true) :
      PutIn p (before ++ after) (before ++ x :: after)

/-- Entries of a class are put in and taken out, anywhere and any number of times. -/
def DifferBy (p : α → Bool) : List α → List α → Prop := Relation.EqvGen (PutIn p)

theorem PutIn.cons (h : PutIn p xs ys) (x : α) : PutIn p (x :: xs) (x :: ys) := by
  obtain ⟨before, after, hx⟩ := h
  exact .at (x :: before) after hx

theorem DifferBy.cons (h : DifferBy p xs ys) (x : α) : DifferBy p (x :: xs) (x :: ys) := by
  induction h with
  | rel _ _ h => exact .rel _ _ (h.cons x)
  | refl _ => exact .refl _
  | symm _ _ _ ih => exact .symm _ _ ih
  | trans _ _ _ _ _ ih₁ ih₂ => exact .trans _ _ _ ih₁ ih₂

theorem differBy_filter (p : α → Bool) (xs : List α) :
    DifferBy p (xs.filter fun x => !p x) xs := by
  induction xs with
  | nil => exact .refl _
  | cons x xs ih =>
    rw [List.filter_cons]
    cases hx : p x with
    | false => exact ih.cons x
    | true => exact .trans _ _ _ ih (.rel _ _ (.at [] xs hx))

/-- **Lists differ by entries of a class if and only if** they have the same others, in the same
order. -/
theorem differBy_iff :
    DifferBy p xs ys ↔ (xs.filter fun x => !p x) = ys.filter fun x => !p x := by
  constructor
  · intro h
    induction h with
    | rel _ _ h =>
      obtain ⟨before, after, hx⟩ := h
      simp [hx]
    | refl _ => rfl
    | symm _ _ _ ih => exact ih.symm
    | trans _ _ _ _ _ ih₁ ih₂ => exact ih₁.trans ih₂
  · intro h
    exact .trans _ _ _ (.symm _ _ (differBy_filter p xs)) (h ▸ differBy_filter p ys)

end Differ

/-! ## Entries that denote null -/

namespace Value

/-- The text `null`, spelled so. -/
def isNullName : Value → Bool
  | scalar (.text t) => t == Text.ofString "null"
  | _ => false

/-- What denotes the null type: null itself, and the text `null` in whatever case. -/
def denotesNull : Value → Bool
  | scalar .null => true
  | scalar (.text t) => t.lower == Text.ofString "null"
  | _ => false

theorem denotesNull_of_isNullName {v : Value} (h : v.isNullName = true) : v.denotesNull = true := by
  cases v with
  | scalar s =>
    cases s with
    | text t =>
      obtain rfl := beq_iff_eq.1 h
      decide
    | _ => cases h
  | _ => cases h

/-- What denotes null is null itself or a text. -/
theorem denotesNull_iff {v : Value} : v.denotesNull = true ↔
    v = .scalar .null ∨ ∃ t, v = .scalar (.text t) ∧ t.lower = Text.ofString "null" := by
  cases v with
  | scalar s => cases s <;> simp [denotesNull]
  | _ => simp [denotesNull]

end Value

/-- What an entry declares, if it is a text. -/
def declaredBy : Option Value → Option Text
  | some (.scalar (.text t)) => some t.lower
  | _ => none

theorem declaredBy_eq_none_iff {v? : Option Value} :
    declaredBy v? = none ↔ ∀ t, v? ≠ some (.scalar (.text t)) := by
  constructor
  · rintro h t rfl
    cases h
  · intro h
    unfold declaredBy
    split
    · next t => exact absurd rfl (h t)
    · rfl

/-- The first of several types that does not denote null. -/
def decidingType (types : List Value) : Option Value := types.find? fun t => !t.denotesNull

/-- A null in another spelling comes before all types, and it is read: as a text, or instead of
one. -/
def Misread (types : List Value) : Prop :=
  ∃ lead, firstType types = some lead ∧ lead.denotesNull = true ∧
    (lead ≠ .scalar .null ∨ ∃ t, decidingType types = some (.scalar (.text t)))

theorem firstType_eq (types : List Value) :
    firstType types = (types.filter fun t => !t.isNullName).head? := by
  rw [List.head?_filter, firstType]
  congr 1
  funext t
  cases t with
  | scalar s => cases s <;> rfl
  | _ => rfl

theorem decidingType_eq (types : List Value) :
    decidingType types = (types.filter fun t => !t.isNullName).find? fun t => !t.denotesNull := by
  rw [List.find?_filter, decidingType]
  congr 1
  funext t
  cases hname : t.isNullName with
  | false => simp
  | true => simp [Value.denotesNull_of_isNullName hname]

/-- Nothing declares the type null but what denotes it. -/
theorem declaredBy_decidingType_ne_null (types : List Value) :
    declaredBy (decidingType types) ≠ some (Text.ofString "null") := by
  intro h
  unfold declaredBy at h
  split at h
  · next t hdeciding =>
    have hnot := List.find?_some hdeciding
    rw [Value.denotesNull, Option.some.inj h] at hnot
    cases hnot
  · cases h

/-- **The type that counts declares what the deciding one does, unless a null is misread.** -/
theorem declaredBy_firstType_iff (types : List Value) :
    declaredBy (firstType types) = declaredBy (decidingType types) ↔ ¬Misread types := by
  have hdeciding := decidingType_eq types
  rw [Misread, firstType_eq]
  cases hrest : types.filter fun t => !t.isNullName with
  | nil =>
    rw [hrest] at hdeciding
    rw [hdeciding]
    simp
  | cons lead rest =>
    rw [hrest, List.find?_cons] at hdeciding
    rw [List.head?_cons]
    cases hlead : lead.denotesNull with
    | false =>
      rw [hlead] at hdeciding
      rw [hdeciding]
      simp [hlead]
    | true =>
      rcases Value.denotesNull_iff.1 hlead with rfl | ⟨t, rfl, ht⟩
      · have hnone : declaredBy (some (.scalar .null)) = none := rfl
        rw [hnone, eq_comm, declaredBy_eq_none_iff]
        simp [hlead]
      · have hnull : declaredBy (some (.scalar (.text t))) = some (Text.ofString "null") :=
          congrArg some ht
        rw [hnull]
        refine iff_of_false (declaredBy_decidingType_ne_null types).symm (not_not.2 ?_)
        exact ⟨_, rfl, hlead, .inl (by simp)⟩

/-! ## Schemas -/

theorem declaredType?_of_list {v : Value} {types : List Value}
    (h : v.get? "type" = some (.list types)) : declaredType? v = declaredBy (firstType types) := by
  rw [declaredType?, h]
  rfl

/-- Two schemas declare lists of types and are alike otherwise, as far as what they mean goes. -/
structure Retyped (v w : Value) (xs ys : List Value) : Prop where
  left : v.get? "type" = some (.list xs)
  right : w.get? "type" = some (.list ys)
  format : w.get? "format" = v.get? "format"

section Machine

variable [Machine]

/-- Two schemas have the same declared type, the same meaning and the same kind. -/
structure SameTyping (v w : Value) : Prop where
  declared : declaredType? v = declaredType? w
  type : ∀ calls, ResolvedType.ofSchema v calls = ResolvedType.ofSchema w calls
  kind : Kind.ofSchema v = Kind.ofSchema w

/-- Meaning and kind go with the declared type. -/
theorem Retyped.sameTyping_iff {v w : Value} {xs ys : List Value} (h : Retyped v w xs ys) :
    SameTyping v w ↔ declaredType? v = declaredType? w := by
  refine ⟨SameTyping.declared, fun hdeclared => ⟨hdeclared, fun calls => ?_, ?_⟩⟩
  · have hformat : formatOf v (calls + 1) = formatOf w (calls + 1) := by
      rw [formatOf, formatOf, h.format]
    rw [ResolvedType.ofSchema, ResolvedType.ofSchema, hdeclared, hformat]
  · rw [Kind.ofSchema, Kind.ofSchema, hdeclared]

omit [Machine] in
/-- What a schema whose types are misread is taken for. -/
theorem Misread.kind {v : Value} {types : List Value} (h : v.get? "type" = some (.list types))
    (hmisread : Misread types) : Kind.ofSchema v = .object := by
  obtain ⟨lead, hlead, hnull, -⟩ := hmisread
  rw [Kind.ofSchema, declaredType?_of_list h, hlead]
  rcases Value.denotesNull_iff.1 hnull with rfl | ⟨t, rfl, ht⟩
  · rfl
  · rw [declaredBy, ht]
    decide

/-- **Null among the types of a schema is neutral where it is spelled so,** wherever such entries
are put in or taken out. Other entries that denote null are neutral exactly as long as none is
misread: put in and taken out of a list that is not misread, they change neither the declared type
nor the meaning nor the kind if and only if the list they lead to is not misread either. The first
entry that does not denote null decides if and only if the list is not misread, and a schema whose
list is misread counts as an object. -/
theorem nullTypes_neutral_iff {v w : Value} {xs ys : List Value} (h : Retyped v w xs ys) :
    (DifferBy Value.isNullName xs ys → SameTyping v w) ∧
    (DifferBy Value.denotesNull xs ys → ¬Misread xs → (SameTyping v w ↔ ¬Misread ys)) ∧
    (declaredType? v = declaredBy (decidingType xs) ↔ ¬Misread xs) ∧
    (Misread xs → Kind.ofSchema v = .object) := by
  have hv := declaredType?_of_list h.left
  have hw := declaredType?_of_list h.right
  refine ⟨fun hdiffer => ?_, fun hdiffer hxs => ?_, ?_, Misread.kind h.left⟩
  · rw [h.sameTyping_iff, hv, hw, firstType_eq, firstType_eq, differBy_iff.1 hdiffer]
  · have hdeciding : decidingType xs = decidingType ys := by
      rw [decidingType, decidingType, ← List.head?_filter, ← List.head?_filter,
        differBy_iff.1 hdiffer]
    rw [h.sameTyping_iff, hv, hw, (declaredBy_firstType_iff xs).2 hxs, hdeciding, eq_comm]
    exact declaredBy_firstType_iff ys
  · rw [hv]
    exact declaredBy_firstType_iff xs

end Machine

/-- A schema of some types, with the format `int64`. -/
def typedSchema (types : List Value) : Value := .map [
  (.text "type", .list types),
  (.text "format", .scalar (.text "int64"))]

/-- Integers, with a null in front. -/
def integerTypes : List Value := [.scalar (.text "null"), .scalar (.text "integer")]

/-- Integers, with two nulls behind that are spelled otherwise. -/
def nullableTypes : List Value :=
  [.scalar (.text "integer"), .scalar (.text "NULL"), .scalar .null]

theorem nullTypes_neutral_integerTypes :
    Retyped (typedSchema integerTypes) (typedSchema nullableTypes) integerTypes nullableTypes ∧
      DifferBy Value.denotesNull integerTypes nullableTypes ∧
      SameTyping (typedSchema integerTypes) (typedSchema nullableTypes) ∧
      declaredType? (typedSchema integerTypes) = some (Text.ofString "integer") := by
  have hretyped : Retyped (typedSchema integerTypes) (typedSchema nullableTypes) integerTypes
    nullableTypes := ⟨rfl, rfl, rfl⟩
  have hdiffer : DifferBy Value.denotesNull integerTypes nullableTypes := differBy_iff.2 rfl
  have hread : ∀ types, firstType types = some (.scalar (.text "integer")) → ¬Misread types := by
    rintro types hfirst ⟨lead, hlead, hnull, -⟩
    obtain rfl := Option.some.inj (hfirst.symm.trans hlead)
    exact absurd hnull (by decide)
  obtain ⟨-, hneutral, hdecides, -⟩ := nullTypes_neutral_iff hretyped
  exact ⟨hretyped, hdiffer, (hneutral hdiffer (hread _ rfl)).2 (hread _ rfl),
    hdecides.2 (hread _ rfl)⟩

/-- **A null in front of a type is not neutral** if it is not spelled `null`: it leaves the schema
without a declared type, or with the type `null`. -/
theorem nullTypes_not_neutral :
    declaredType? (typedSchema [.scalar (.text "string")]) = some (Text.ofString "string") ∧
    declaredType? (typedSchema [.scalar .null, .scalar (.text "string")]) = none ∧
    declaredType? (typedSchema [.scalar (.text "NULL"), .scalar (.text "string")]) =
      some (Text.ofString "null") ∧
    ¬ ∀ v w xs ys, Retyped v w xs ys → DifferBy Value.denotesNull xs ys → SameTyping v w := by
  have hstring : declaredType? (typedSchema [.scalar (.text "string")]) =
      some (Text.ofString "string") := by decide
  have hnone : declaredType? (typedSchema [.scalar .null, .scalar (.text "string")]) = none := rfl
  refine ⟨hstring, hnone, by decide, fun h => ?_⟩
  have hsame := h _ _ _ _
    (⟨rfl, rfl, rfl⟩ : Retyped (typedSchema [.scalar (.text "string")])
      (typedSchema [.scalar .null, .scalar (.text "string")]) _ _) (differBy_iff.2 rfl)
  rw [hsame.declared, hnone] at hstring
  cases hstring

end SuiteForge
