/-
# Which endpoints a document has

The endpoints of a contract are the operations that the resolved document declares,
one for one and in order (`operations`): no operation is lost, made up, repeated or
moved. `Operation.Becomes` says what an endpoint keeps of its operation. Both are
read off the document alone, where

| part | is read from |
| --- | --- |
| path | the key of the path item, shown as a text |
| operation id | the declared one, unless it is blank or no text |
| status codes | the keys of `responses`, shown as texts, in order |
| responses | those of them whose content carries a schema |
| body | the content of `requestBody`, under a method whose body has a meaning |
-/

import SuiteForge.OpenApi.Translate
import SuiteForge.Proofs.Contract.Accepted

namespace SuiteForge

/-! ## Contents -/

/-- The entry of a content that counts: that of JSON unless it is missing or null, and else the
first one. -/
inductive Preferred (entries : Entries Value) : Value → Prop
  | json {media : Value} (found : Entries.find? (.text preferredMediaType) entries = some media)
      (present : media.isNull = false) : Preferred entries media
  | first {key : Scalar} {media : Value} {rest : Entries Value}
      (absent : ∀ v, Entries.find? (.text preferredMediaType) entries = some v → v.isNull = true)
      (head : entries = (key, media) :: rest) : Preferred entries media

/-- A content is a mapping whose preferred entry has a schema that is not null. -/
def Carries (content : Option Value) (schema : Value) : Prop :=
  ∃ entries media, content = some (.map entries) ∧ Preferred entries media ∧
    media.get? "schema" = some schema ∧ schema.isNull = false

theorem preferred_iff_head {entries : Entries Value} {media : Value}
    (absent : ∀ v, Entries.find? (.text preferredMediaType) entries = some v → v.isNull = true) :
    Preferred entries media ↔ entries.head?.map Prod.snd = some media := by
  constructor
  · intro h
    cases h with
    | json found present => simp [absent _ found] at present
    | first _ head => simp [head]
  · intro h
    cases entries with
    | nil => simp at h
    | cons e rest => exact .first absent (by rw [← Option.some.inj h])

theorem preferred_iff_found {entries : Entries Value} {media v : Value}
    (found : Entries.find? (.text preferredMediaType) entries = some v)
    (present : v.isNull = false) : Preferred entries media ↔ v = media := by
  constructor
  · intro h
    cases h with
    | json found' _ => exact Option.some.inj (found.symm.trans found')
    | first absent _ => simp [absent _ found] at present
  · rintro rfl
    exact .json found present

theorem preferredMedia?_eq_some {entries : Entries Value} {media : Value} :
    preferredMedia? (some (.map entries)) = some media ↔
      Preferred entries media ∧ media.isMap = true := by
  unfold preferredMedia?
  cases found : Entries.find? (.text preferredMediaType) entries with
  | none =>
    rw [preferred_iff_head (by simp [found])]
    simp [found, Option.filter_eq_some_iff, -Option.map_eq_some_iff]
  | some v =>
    cases present : v.isNull with
    | false =>
      rw [preferred_iff_found found present]
      simp [found, present, Option.filter_eq_some_iff]
    | true =>
      rw [preferred_iff_head (by simp [found, present])]
      simp [found, present, Option.filter_eq_some_iff, -Option.map_eq_some_iff]

theorem preferredMedia?_isMap {content : Option Value} {media : Value}
    (h : preferredMedia? content = some media) : ∃ entries, content = some (.map entries) := by
  unfold preferredMedia? at h
  split at h
  · exact ⟨_, rfl⟩
  · cases h

theorem isMap_of_get? {v w : Value} {key : Text} (h : v.get? key = some w) : v.isMap = true := by
  cases v with
  | map _ => rfl
  | _ => simp [Value.get?] at h

theorem contentSchema?_eq_some {content : Option Value} {schema : Value} :
    contentSchema? content = some schema ↔ Carries content schema := by
  simp only [contentSchema?, Option.bind_eq_some_iff, Option.filter_eq_some_iff]
  constructor
  · rintro ⟨media, hmedia, hschema, hnull⟩
    obtain ⟨entries, rfl⟩ := preferredMedia?_isMap hmedia
    obtain ⟨hpreferred, -⟩ := preferredMedia?_eq_some.1 hmedia
    exact ⟨entries, media, rfl, hpreferred, hschema, by simpa using hnull⟩
  · rintro ⟨entries, media, rfl, hmedia, hschema, hnull⟩
    have hmap : media.isMap = true := isMap_of_get? hschema
    exact ⟨media, preferredMedia?_eq_some.2 ⟨hmedia, hmap⟩, hschema, by simp [hnull]⟩

/-! ## Operations -/

/-- An operation of a document: the key of its path item, its method, and what is declared. -/
structure Operation where
  key : Scalar
  method : Method
  declared : Value

/-- The operations of a path item, for some methods in order. -/
def operationsOf (key : Scalar) (item : Value) (methods : List Method) : List Operation :=
  methods.filterMap fun m =>
    ((item.get? m.name.lower).filter fun v => !v.isNull).map fun v => ⟨key, m, v⟩

/-- The operations of a document with these path items. -/
def operations (paths : Entries Value) : List Operation :=
  paths.flatMap fun e => operationsOf e.1 e.2 methodOrder

namespace Operation

/-- The entries of the declared responses. -/
def responses (o : Operation) : Entries Value :=
  match o.declared.get? "responses" with
  | some (.map entries) => entries
  | _ => []

theorem responses_of_map {o : Operation} {entries : Entries Value}
    (h : o.declared.get? "responses" = some (.map entries)) : o.responses = entries := by
  rw [responses, h]

theorem responses_of_not_map {o : Operation}
    (h : ∀ entries, o.declared.get? "responses" ≠ some (.map entries)) : o.responses = [] := by
  unfold responses
  split
  · next entries hentries => exact absurd hentries (h entries)
  · rfl

/-- The content of the declared body. -/
def bodyContent (o : Operation) : Option Value :=
  (o.declared.get? "requestBody").bind (·.get? "content")

/-- An endpoint that keeps an operation. -/
structure Becomes (o : Operation) (e : Endpoint) : Prop where
  path : o.key.display = .ok e.path
  method : e.method = o.method
  operationId :
    (∃ t, o.declared.get? "operationId" = some (.scalar (.text t)) ∧ t.isBlank = false ∧
      e.operationId = t) ∨
    ((∀ t, o.declared.get? "operationId" = some (.scalar (.text t)) → t.isBlank = true) ∧
      e.operationId = synthesizeOperationId o.method.name e.path)
  statusCodes : List.Forall₂ (fun r code => r.1.display = .ok code) o.responses e.statusCodes
  responses : (e.responses.map (·.1)).Nodup ∧ ∀ code, code ∈ e.responses.map (·.1) ↔
    ∃ r ∈ o.responses, r.1.display = .ok code ∧ ∃ schema, Carries (r.2.get? "content") schema
  body : e.body.isSome = true ↔
    (o.method = .post ∨ o.method = .put ∨ o.method = .patch) ∧
      ∃ schema, Carries o.bodyContent schema

end Operation

theorem keyText_eq_ok {key : Scalar} {t : Text} :
    keyText key = .ok t ↔ key.display = .ok t := mapError_eq_ok

theorem operationIdOf_spec (method : Method) (path : Text) (operation : Value) :
    (∃ t, operation.get? "operationId" = some (.scalar (.text t)) ∧ t.isBlank = false ∧
      operationIdOf method path operation = t) ∨
    ((∀ t, operation.get? "operationId" = some (.scalar (.text t)) → t.isBlank = true) ∧
      operationIdOf method path operation = synthesizeOperationId method.name path) := by
  unfold operationIdOf
  split
  · next t ht =>
    cases hb : t.isBlank with
    | false => exact .inl ⟨t, ht, hb, by simp⟩
    | true =>
      refine .inr ⟨fun t' ht' => ?_, by simp⟩
      obtain rfl : t = t' := by simpa using ht.symm.trans ht'
      exact hb
  · next h => exact .inr ⟨fun t ht => absurd ht (h t), rfl⟩

theorem display_of_mapM_keyText {entries : Entries Value} {codes : List Text}
    (h : (entries.mapM fun e => keyText e.1) = .ok codes) :
    List.Forall₂ (fun r code => r.1.display = .ok code) entries codes := by
  induction entries generalizing codes with
  | nil =>
    obtain rfl : [] = codes := by simpa [pure, Except.pure] using h
    exact .nil
  | cons r rest ih =>
    rw [List.mapM_cons, bind_eq_ok] at h
    obtain ⟨code, hcode, h⟩ := h
    obtain ⟨more, hmore, h⟩ := bind_eq_ok.1 h
    obtain rfl := Except.ok.inj h
    exact .cons (keyText_eq_ok.1 hcode) (ih hmore)

theorem statusCodes_eq_ok {o : Operation} {codes : List Text}
    (h : statusCodes o.declared = .ok codes) :
    List.Forall₂ (fun r code => r.1.display = .ok code) o.responses codes := by
  unfold statusCodes at h
  split at h
  · next entries hentries =>
    rw [Operation.responses_of_map hentries]
    exact display_of_mapM_keyText h
  · next hno =>
    obtain rfl := Except.ok.inj h
    rw [Operation.responses_of_not_map hno]
    exact .nil

/-- The codes with a schema are those of the responses whose content carries one. -/
theorem responseSchemas_eq_ok [Machine] {trace : TraceId} {entries : Entries Value}
    {pairs : List (Text × Schema)} (h : (responseSchemas trace entries).result = .ok pairs)
    (code : Text) :
    code ∈ pairs.map (·.1) ↔
      ∃ r ∈ entries, r.1.display = .ok code ∧ ∃ schema, Carries (r.2.get? "content") schema := by
  induction entries generalizing pairs with
  | nil =>
    obtain rfl := Except.ok.inj h
    simp
  | cons r rest ih =>
    obtain ⟨key, response⟩ := r
    rw [responseSchemas, Logged.result_bind, bind_eq_ok] at h
    obtain ⟨status, hstatus, h⟩ := h
    have hkey : key.display = .ok status := keyText_eq_ok.1 hstatus
    have hhere : key.display = .ok code ↔ code = status := by
      rw [hkey]
      exact ⟨fun he => (Except.ok.inj he).symm, fun he => he ▸ rfl⟩
    cases hschema : contentSchema? (response.get? "content") with
    | none =>
      -- The response is passed over, and no schema of another one can stand for it here.
      have hnone : ∀ schema, ¬ Carries (response.get? "content") schema := fun schema hs => by
        rw [← contentSchema?_eq_some, hschema] at hs
        cases hs
      simp only [hschema, Logged.result_bind, bind_eq_ok] at h
      obtain ⟨-, -, h⟩ := h
      simp [ih h, hnone]
    | some raw =>
      have hcarries : ∃ schema, Carries (response.get? "content") schema :=
        ⟨raw, contentSchema?_eq_some.1 hschema⟩
      simp only [hschema, Logged.result_bind, bind_eq_ok] at h
      obtain ⟨schema, -, more, hmore, h⟩ := h
      obtain rfl := Except.ok.inj h
      simp [ih hmore, hhere, hcarries]

theorem Method.hasBody_iff {m : Method} :
    m.hasBody = true ↔ m = .post ∨ m = .put ∨ m = .patch := by
  cases m <;> decide

/-- There is a body under three methods only, and just when the declared one carries a schema. -/
theorem extractBody_eq_ok [Machine] {trace : TraceId} {method : Method} {path : Text}
    {operation : Value} {body : Option Schema}
    (h : (extractBody trace method path operation).result = .ok body) :
    body.isSome = true ↔ (method = .post ∨ method = .put ∨ method = .patch) ∧
      ∃ schema, Carries ((operation.get? "requestBody").bind (·.get? "content")) schema := by
  rw [← Method.hasBody_iff]
  simp only [← contentSchema?_eq_some, ← Option.isSome_iff_exists]
  unfold extractBody at h
  split at h
  · next entries hbody =>
    rw [hbody, Option.bind_some]
    cases hmethod : method.hasBody with
    | false =>
      simp only [hmethod, Bool.not_false, if_true, Logged.result_bind, bind_eq_ok] at h
      obtain ⟨-, -, h⟩ := h
      obtain rfl := Except.ok.inj h
      simp
    | true =>
      simp only [hmethod, Bool.not_true, Bool.false_eq_true, if_false] at h
      split at h
      · next hnone =>
        obtain rfl := Except.ok.inj h
        simp [hnone]
      · next raw hraw =>
        simp only [Logged.result_bind, bind_eq_ok] at h
        obtain ⟨schema, -, -, -, h⟩ := h
        obtain rfl := Except.ok.inj h
        simp [hraw]
  · next hno =>
    obtain rfl := Except.ok.inj h
    have hnone : (operation.get? "requestBody").bind (·.get? "content") = none := by
      cases hbody : operation.get? "requestBody" with
      | none => rfl
      | some v =>
        cases v with
        | map entries => exact absurd hbody (hno entries)
        | _ => rfl
    simp [hnone, contentSchema?, preferredMedia?]

theorem extractResponses_eq_ok [Machine] {trace : TraceId} {o : Operation}
    {responses : List (Text × Schema)}
    (h : (extractResponses trace o.declared).result = .ok responses) :
    (responses.map (·.1)).Nodup ∧ ∀ code, code ∈ responses.map (·.1) ↔
      ∃ r ∈ o.responses, r.1.display = .ok code ∧
        ∃ schema, Carries (r.2.get? "content") schema := by
  unfold extractResponses at h
  split at h
  · next entries hentries =>
    rw [Logged.result_bind, bind_eq_ok] at h
    obtain ⟨pairs, hpairs, h⟩ := h
    obtain rfl := Except.ok.inj h
    obtain ⟨hnodup, hmem⟩ := Assoc.keys_ofPairs pairs
    refine ⟨hnodup, fun code => ?_⟩
    rw [hmem, responseSchemas_eq_ok hpairs, Operation.responses_of_map hentries]
  · next hno =>
    obtain rfl := Except.ok.inj h
    simp [Operation.responses_of_not_map hno]

/-- **The endpoint of an operation keeps it.** -/
theorem buildEndpoint_eq_ok [Machine] {trace : TraceId} {o : Operation} {path : Text}
    {shared : List Value} {e : Endpoint} (hkey : o.key.display = .ok path)
    (h : (buildEndpoint trace path o.method o.declared shared).result = .ok e) : o.Becomes e := by
  unfold buildEndpoint at h
  simp only [Logged.mapError, mapError_eq_ok, Logged.result_bind, Logged.result_ofExcept,
    bind_eq_ok, valid] at h
  obtain ⟨summary, -, parameters, -, body, hbody, responses, hresponses, codes, hcodes, hcheck⟩ := h
  obtain ⟨rfl, -⟩ := Endpoint.check_eq_ok.1 hcheck
  exact ⟨hkey, rfl, operationIdOf_spec o.method path o.declared, statusCodes_eq_ok hcodes,
    extractResponses_eq_ok hresponses, extractBody_eq_ok hbody⟩

/-! ## Path items -/

theorem Method.key_eq_lower (m : Method) : m.key = m.name.lower := by
  cases m <;> cbv

theorem mappingOf_eq_ok {place : Section} {v : Value} {entries : Entries Value}
    (h : mappingOf place (some v) = .ok entries) :
    v = .scalar .null ∧ entries = [] ∨ v = .map entries := by
  unfold mappingOf at h
  split at h
  · next hnone => cases hnone
  · next hnull => exact .inl ⟨Option.some.inj hnull, (Except.ok.inj h).symm⟩
  · next hmap => exact .inr (Except.ok.inj h ▸ Option.some.inj hmap)
  · cases h

theorem get?_of_mappingOf {place : Section} {v : Value} {entries : Entries Value}
    (h : mappingOf place (some v) = .ok entries) (key : Text) :
    v.get? key = Entries.find? (.text key) entries := by
  rcases mappingOf_eq_ok h with ⟨rfl, rfl⟩ | rfl <;> rfl

/-- One step of a path item: a method without an operation is passed over, and every other one
becomes an endpoint. -/
theorem pathEndpoints_eq_ok [Machine] {trace : TraceId} {key : Scalar} {path : Text} {item : Value}
    {entries : Entries Value} {shared : List Value} {methods : List Method} {es : List Endpoint}
    (hkey : key.display = .ok path) (hitem : ∀ k, item.get? k = Entries.find? (.text k) entries)
    (h : (pathEndpoints trace path entries shared methods).result = .ok es) :
    List.Forall₂ Operation.Becomes (operationsOf key item methods) es := by
  induction methods generalizing es with
  | nil =>
    obtain rfl := Except.ok.inj h
    exact .nil
  | cons m rest ih =>
    unfold pathEndpoints at h
    rw [Method.key_eq_lower, ← hitem] at h
    rw [operationsOf, List.filterMap_cons]
    cases hfound : (item.get? m.name.lower).filter fun v => !v.isNull with
    | none =>
      simp only [hfound] at h
      exact ih h
    | some raw =>
      simp only [hfound, Logged.result_bind, Logged.result_ofExcept, bind_eq_ok] at h
      obtain ⟨operation, hoperation, e, he, -, -, more, hmore, h⟩ := h
      obtain rfl := Except.ok.inj h
      obtain rfl : raw = .map operation := by
        rcases mappingOf_eq_ok hoperation with ⟨rfl, -⟩ | rfl
        · simp [Option.filter_eq_some_iff, Value.isNull] at hfound
        · rfl
      exact .cons (buildEndpoint_eq_ok (o := ⟨key, m, .map operation⟩) hkey he) (ih hmore)

/-- **The endpoints of path items are their operations, one for one and in order.** -/
theorem extractEndpoints_eq_ok [Machine] {trace : TraceId} {paths : Entries Value}
    {es : List Endpoint} (h : (extractEndpoints trace paths).result = .ok es) :
    List.Forall₂ Operation.Becomes (operations paths) es := by
  induction paths generalizing es with
  | nil =>
    obtain rfl := Except.ok.inj h
    exact .nil
  | cons entry rest ih =>
    obtain ⟨key, raw⟩ := entry
    simp only [extractEndpoints, Logged.result_bind, Logged.result_ofExcept, bind_eq_ok] at h
    obtain ⟨path, hpath, item, hitem, -, -, shared, -, here, hhere, more, hmore, h⟩ := h
    obtain rfl := Except.ok.inj h
    exact List.rel_append
      (pathEndpoints_eq_ok (keyText_eq_ok.1 hpath) (get?_of_mappingOf hitem) hhere) (ih hmore)

/-! ## The whole document -/

theorem requiredParts_eq_ok {trace : TraceId} {tree : Value} {info paths : Entries Value}
    (h : (requiredParts trace tree).result = .ok (info, paths)) :
    tree.get? "info" = some (.map info) ∧ tree.get? "paths" = some (.map paths) := by
  unfold requiredParts at h
  split at h
  · split at h
    · next hinfo =>
      split at h
      · next hpaths =>
        simp only [Logged.result_bind, bind_eq_ok] at h
        obtain ⟨-, -, h⟩ := h
        obtain ⟨rfl, rfl⟩ := Prod.mk.inj (Except.ok.inj h)
        exact ⟨hinfo, hpaths⟩
      · cases h
    · cases h
  · cases h

theorem translateTree_eq_ok [Machine] {trace : TraceId} {url : Text} {tree : Value} {c : Contract}
    (h : (translateTree trace url tree).result = .ok c) :
    ∃ paths, tree.get? "paths" = some (.map paths) ∧
      List.Forall₂ Operation.Becomes (operations paths) c.endpoints := by
  simp only [translateTree, Logged.result_bind, bind_eq_ok] at h
  obtain ⟨⟨info, paths⟩, hparts, title, -, version, -, description, -, baseUrl, -, -, -,
    endpoints, hendpoints, h⟩ := h
  refine ⟨paths, (requiredParts_eq_ok hparts).2, ?_⟩
  split at h
  · cases h
  · simp only [Logged.result_bind, bind_eq_ok] at h
    obtain ⟨-, -, schemas, -, -, -, h⟩ := h
    split at h
    · cases h
    · next hcheck =>
      obtain ⟨rfl, -⟩ := Contract.check_eq_ok.1 hcheck
      simp only [Logged.result_bind, bind_eq_ok] at h
      obtain ⟨-, -, h⟩ := h
      obtain rfl := Except.ok.inj h
      exact extractEndpoints_eq_ok hendpoints

/-- **The endpoints of a contract are the operations of its document.** The text of the contract is
a document; it is resolved, and has path items; and the operations of these, in order, become the
endpoints one for one. -/
theorem translate_endpoints [Machine] {trace : TraceId} {url : Text} {text : List Char}
    {c : Contract} (h : (translate trace url text).result = .ok c) :
    ∃ d tree paths, Document.read text = .ok d ∧ d.inline.result = .ok tree ∧
      tree.get? "paths" = some (.map paths) ∧
      List.Forall₂ Operation.Becomes (operations paths) c.endpoints := by
  simp only [translate, Logged.result_bind, Logged.result_ofExcept, bind_eq_ok] at h
  obtain ⟨-, -, d, hread, -, -, tree, htree, h⟩ := h
  obtain ⟨paths, hpaths, hendpoints⟩ := translateTree_eq_ok h
  exact ⟨d, tree, paths, hread, htree, hpaths, hendpoints⟩

/-- A document with two operations, of which one has two responses, one with a schema; a third
method is null. -/
def petsText : List Char :=
  ("openapi: 3.0.0\ninfo:\n a: b\npaths:\n /pets:\n  get:\n   responses:\n    200:\n" ++
    "     content:\n      a:\n       schema:\n        a: b\n    404:\n  put:\n /:\n  head:\n" ++
    "   a: b\n").toList

theorem translate_endpoints_petsText :
    ∃ c, (translate "trace" defaultBaseUrl petsText).result = .ok c ∧
      (c.endpoints.map fun e => (e.method, e.statusCodes.length, e.responses.length)) =
        [(.get, 2, 1), (.head, 0, 0)] ∧
      ∃ d tree paths, Document.read petsText = .ok d ∧ d.inline.result = .ok tree ∧
        tree.get? "paths" = some (.map paths) ∧
        List.Forall₂ Operation.Becomes (operations paths) c.endpoints := by
  have hends : ((translate "trace" defaultBaseUrl petsText).result.toOption.map fun c =>
      c.endpoints.map fun e => (e.method, e.statusCodes.length, e.responses.length)) =
      some [(.get, 2, 1), (.head, 0, 0)] := by
    decide +kernel
  cases h : (translate "trace" defaultBaseUrl petsText).result with
  | error f =>
    rw [h] at hends
    cases hends
  | ok c =>
    rw [h] at hends
    exact ⟨c, rfl, Option.some.inj hends, translate_endpoints h⟩

end SuiteForge
