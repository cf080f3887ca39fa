/-
# Reordered trees

Most orders of entries have no influence on a contract, but some show in it: the order of path
items, of responses and of media types; and so does the order inside a collection whose text is
read. `Reordered` says that two trees are alike, list their entries in the same order where that
shows, and have no collection where a text is read.

Where that is depends on the part of a tree that a translation is at:

| part | goes on at | reads the texts |
| --- | --- | --- |
| document | `info`, `servers`, `paths`, `components` | |
| info | | `title`, `version`, `description` |
| first server | | `url` |
| path item | `parameters`, the methods | |
| operation | `parameters`, `responses`, `requestBody` if it has a meaning | `summary` |
| parameter | `content` | `name`, `in`, `description` |
| body, response | `content` | |
| preferred media type of a body or a response | `schema` | |
| schema | `items` of an array, else each of `properties` | `description` |
-/

import SuiteForge.Proofs.Translate.Alike

namespace SuiteForge

/-- What has a content. -/
inductive Carrier where
  | parameter
  | body
  | response

/-- The parts of a tree that a translation reads. `levels` says how many levels of a schema are
looked at. -/
inductive Part where
  | document
  | info
  | servers
  | server
  | components
  | schemas
  | paths
  | pathItem
  | parameters
  | operation (method : Method)
  | responses
  | carrier (c : Carrier)
  | content (c : Carrier)
  | media (c : Carrier)
  | properties (levels : Nat)
  | schema (levels : Nat)

namespace Part

/-- The keys at which a part goes on, and what stands there. -/
def fields (v : Value) : Part → List (Text × Part)
  | document =>
    [("info", info), ("servers", servers), ("paths", paths), ("components", components)]
  | components => [("schemas", schemas)]
  | pathItem => ("parameters", parameters) :: Method.all.map fun m => (m.key, operation m)
  | operation m =>
    ("parameters", parameters) :: ("responses", responses) ::
      if m.hasBody then [("requestBody", carrier .body)] else []
  | carrier c => [("content", content c)]
  | media .body => [("schema", schema (maxSchemaDepth + 1))]
  | media .response => [("schema", schema (maxSchemaDepth + 1))]
  | schema (levels + 1) =>
    if Kind.ofSchema v = .array then [("items", schema levels)]
    else [("properties", properties levels)]
  | _ => []

/-- What stands at every key of a part. -/
def values : Part → Option Part
  | schemas => some (schema (maxSchemaDepth + 1))
  | paths => some pathItem
  | responses => some (carrier .response)
  | properties levels => some (schema levels)
  | _ => none

/-- What stands at a place of a part. -/
def item : Part → Nat → Option Part
  | servers, 0 => some server
  | parameters, _ => some (carrier .parameter)
  | _, _ => none

/-- The keys at which a part has a text that is read. -/
def texts : Part → List Text
  | info => ["title", "version", "description"]
  | server => ["url"]
  | operation _ => ["summary"]
  | carrier .parameter => ["name", "in", "description"]
  | schema (_ + 1) => ["description"]
  | _ => []

/-- The order of a part's entries shows in a contract. -/
def ordered : Part → Bool
  | paths => true
  | responses => true
  | content _ => true
  | _ => false

end Part

/-- The two values are the same part of two trees, at the same place. -/
inductive Stands (a b : Value) : Part → Value → Value → Prop
  | root : Stands a b .document a b
  | field {p q : Part} {v w x y : Value} {key : Text} (outer : Stands a b p v w)
      (reads : (key, q) ∈ p.fields v) (left : v.get? key = some x) (right : w.get? key = some y) :
      Stands a b q x y
  | value {p q : Part} {es fs : Entries Value} {x y : Value} {key : Scalar}
      (outer : Stands a b p (.map es) (.map fs)) (reads : p.values = some q)
      (left : (key, x) ∈ es) (right : (key, y) ∈ fs) : Stands a b q x y
  | item {p q : Part} {vs ws : List Value} {x y : Value} {i : Nat}
      (outer : Stands a b p (.list vs) (.list ws)) (reads : p.item i = some q)
      (both : (vs.zip ws)[i]? = some (x, y)) : Stands a b q x y
  | media {c : Carrier} {v w x y : Value} (outer : Stands a b (.content c) v w)
      (left : preferredMedia? (some v) = some x) (right : preferredMedia? (some w) = some y) :
      Stands a b (.media c) x y

/-- Two trees differ at most in orders that do not show. -/
structure Reordered (a b : Value) : Prop where
  alike : a.Alike b
  /-- A text is read from a scalar, if there is anything. -/
  texts : ∀ {p v w key x}, Stands a b p v w → key ∈ p.texts → v.get? key = some x →
    ∃ s, x = .scalar s
  /-- Path items, responses and media types come in the same order. -/
  order : ∀ {p es fs}, Stands a b p (.map es) (.map fs) → p.ordered = true →
    es.map (·.1) = fs.map (·.1)

namespace Reordered

variable {a b v w : Value} {p q : Part}

open Value (Alike)

theorem preferredMedia?_alike (r : Reordered a b) {c : Carrier} (h : Stands a b (.content c) v w)
    (alike : v.Alike w) :
    Option.Rel Alike (preferredMedia? (some v)) (preferredMedia? (some w)) := by
  cases alike with
  | map texts once keys values =>
    exact SuiteForge.preferredMedia?_alike (.map texts once keys values) (r.order h rfl)
  | _ => exact .none

/-- **The same parts of reordered trees are alike.** -/
theorem alike_of_stands (r : Reordered a b) (h : Stands a b p v w) : v.Alike w := by
  induction h with
  | root => exact r.alike
  | @field _ _ _ _ _ _ key _ _ left right ih =>
    have hkey := ih.get? key
    rw [left, right] at hkey
    cases hkey with
    | some h => exact h
  | value _ _ left right ih =>
    cases ih with
    | map _ _ _ values => exact values left right
  | item _ _ both ih =>
    cases ih with
    | list _ items => exact items (List.mem_of_getElem? both)
  | media outer left right ih =>
    have hmedia := r.preferredMedia?_alike outer ih
    rw [left, right] at hmedia
    cases hmedia with
    | some h => exact h

section

variable (r : Reordered a b) (h : Stands a b p v w)

include r h

/-- What is read as a text is the same. -/
theorem text_eq (key : Text) (reads : key ∈ p.texts) : v.get? key = w.get? key := by
  obtain ⟨hx, hy⟩ | ⟨x, y, hx, hy, hxy⟩ := rel_cases ((r.alike_of_stands h).get? key)
  · rw [hx, hy]
  · obtain ⟨s, rfl⟩ := r.texts h reads hx
    cases hxy
    rw [hx, hy]

/-- What stands at a key where a part goes on. -/
theorem field? {key : Text} (reads : (key, q) ∈ p.fields v) :
    Option.Rel (Stands a b q) (v.get? key) (w.get? key) := by
  obtain ⟨hx, hy⟩ | ⟨x, y, hx, hy, -⟩ := rel_cases ((r.alike_of_stands h).get? key)
  · rw [hx, hy]
    exact .none
  · rw [hx, hy]
    exact .some (h.field reads hx hy)

end

/-- The entries of a part whose order shows, one by one. -/
theorem rows (r : Reordered a b) {es fs : Entries Value}
    (h : Stands a b p (.map es) (.map fs)) (ordered : p.ordered = true)
    (reads : p.values = some q) : Rows (Stands a b q) es fs :=
  Entries.rows_of_keys (r.order h ordered) fun hx hy => h.value reads hx hy

theorem forall₂_parameters (r : Reordered a b) {vs ws : List Value}
    (h : Stands a b .parameters (.list vs) (.list ws)) :
    List.Forall₂ (Stands a b (.carrier .parameter)) vs ws := by
  cases r.alike_of_stands h with
  | list length _ =>
    refine List.forall₂_iff_zip.2 ⟨length, fun hmem => ?_⟩
    obtain ⟨i, hi⟩ := List.mem_iff_getElem?.1 hmem
    exact h.item rfl hi

/-! ## Contents -/

theorem media? (r : Reordered a b) {c : Carrier} (h : Stands a b (.carrier c) v w) :
    Option.Rel (Stands a b (.media c)) (preferredMedia? (v.get? "content"))
      (preferredMedia? (w.get? "content")) := by
  have hreads : (Text.ofString "content", Part.content c) ∈ (Part.carrier c).fields v :=
    List.mem_singleton_self _
  obtain ⟨hx, hy⟩ | ⟨x, y, hx, hy, hxy⟩ := rel_cases (r.field? h hreads)
  · rw [hx, hy]
    exact .none
  · rw [hx, hy]
    have hmedia := r.preferredMedia?_alike hxy (r.alike_of_stands hxy)
    obtain ⟨hm, hn⟩ | ⟨m, n, hm, hn, -⟩ := rel_cases hmedia
    · rw [hm, hn]
      exact .none
    · rw [hm, hn]
      exact .some (hxy.media hm hn)

/-- The schemas of the contents of bodies and of responses. -/
theorem contentSchema? (r : Reordered a b) {c : Carrier} (h : Stands a b (.carrier c) v w)
    (reads : ∀ m, (Text.ofString "schema", Part.schema (maxSchemaDepth + 1)) ∈
      (Part.media c).fields m) :
    Option.Rel (Stands a b (.schema (maxSchemaDepth + 1)))
      (SuiteForge.contentSchema? (v.get? "content"))
      (SuiteForge.contentSchema? (w.get? "content")) :=
  rel_bind (r.media? h) fun m _ hmedia => rel_filter (r.field? hmedia (reads m)) fun _ _ hschema =>
    congrArg _ (r.alike_of_stands hschema).isNull_eq

theorem parameterSchema_alike (r : Reordered a b) (h : Stands a b (.carrier .parameter) v w) :
    (parameterSchema v).Alike (parameterSchema w) := by
  have hown : ∀ {x y : Value}, x.Alike y → Option.Rel Alike
      ((x.get? "schema").filter Value.isMap) ((y.get? "schema").filter Value.isMap) := fun h =>
    rel_filter (h.get? _) fun _ _ h => h.isMap_eq
  have hcontent := rel_bind (r.media? h) fun _ _ hmedia => hown (r.alike_of_stands hmedia)
  unfold parameterSchema
  obtain ⟨hx, hy⟩ | ⟨x, y, hx, hy, hxy⟩ := rel_cases (hown (r.alike_of_stands h))
  · rw [hx, hy]
    obtain ⟨hx, hy⟩ | ⟨x, y, hx, hy, hxy⟩ := rel_cases hcontent
    · rw [hx, hy]
      exact .scalar _
    · rw [hx, hy]
      exact hxy
  · rw [hx, hy]
    exact hxy

end Reordered

end SuiteForge
