/-
# The order of entries has no influence

Reordered trees have contracts that say the same, or none in both (`translateTree_reordered`). There
is one lemma for each step of a translation, in two runs at once: what it comes to is the same, or
related in the way that the next step asks for. Which fault is met first does depend on the order,
and two faults are not of parsing: where a text is read that holds an integer of too many digits,
and where one is read of a collection that goes too deep. The latter can even be all that is in the
way of a contract in one run and be missing in the other: a declaration that is passed over is shown
in a record, which is dropped where an integer of too many digits comes first.
-/

import SuiteForge.Proofs.Translate.ReorderingCheck
import SuiteForge.Proofs.Translate.SchemaOrder

namespace SuiteForge

variable {a b v w : Value} {trace : TraceId}

section Notes

variable {α β : Type} {R : α → β → Prop} {level level' : Level} {message message' : Text}
  {x : Translating α} {y : Translating β}

theorem note_agree (h : Agree R x.result y.result) :
    Agree R (noteTranslation trace level message >>= fun _ => x).result
      (noteTranslation trace level' message' >>= fun _ => y).result :=
  .next fun _ => h

theorem note_agreeBut {bad : Fault → Prop} (h : AgreeBut bad R x.result y.result) :
    AgreeBut bad R (noteTranslation trace level message >>= fun _ => x).result
      (noteTranslation trace level' message' >>= fun _ => y).result :=
  AgreeBut.bind_eq (x := noteTranslation trace level message)
    (y := noteTranslation trace level' message') (.agree (.ok rfl)) fun _ => h

end Notes

/-- The fault of a value that goes deeper than there is room for. -/
def Overrun (f : Fault) : Prop := f = .recursion .value

section Machine

variable [Machine]

/-! ## Parameters -/

omit [Machine] in
theorem listOf_agree (r : Reordered a b) {x y : Option Value}
    (h : Option.Rel (Stands a b .parameters) x y) (place : Section) :
    Agree (List.Forall₂ (Stands a b (.carrier .parameter))) (listOf place x) (listOf place y) := by
  cases h with
  | none => exact .ok .nil
  | some h =>
    cases r.alike_of_stands h with
    | scalar s =>
      cases s with
      | null => exact .ok .nil
      | _ => exact .error _ _
    | list => exact .ok (r.forall₂_parameters h)
    | _ => exact .error _ _

/-- Passing over a declaration comes to nothing, or the declaration goes too deep for the record. -/
theorem noteSkipped_result (trace : TraceId) (raw : Value) :
    (noteSkipped trace raw).result = .ok () ∨
      (noteSkipped trace raw).result = .error (.recursion .value) := by
  unfold noteSkipped
  split
  · exact .inr rfl
  · exact .inl rfl

theorem noteSkipped_agree (trace : TraceId) (v w : Value) :
    AgreeBut Overrun Eq (noteSkipped trace v).result (noteSkipped trace w).result := by
  have hdeep : Overrun (.recursion .value) := rfl
  rcases noteSkipped_result trace v with hv | hv
  · rcases noteSkipped_result trace w with hw | hw
    · rw [hv, hw]
      exact .agree (.refl _)
    · exact hw ▸ .right hdeep _
  · exact hv ▸ .left hdeep _

theorem mergeParameters_agree (r : Reordered a b) {vs ws : List Value}
    (h : List.Forall₂ (Stands a b (.carrier .parameter)) vs ws)
    {merged merged' : Assoc (Text × Text) Value}
    (hmerged : Rows (Stands a b (.carrier .parameter)) merged merged') :
    AgreeBut Overrun (Rows (Stands a b (.carrier .parameter)))
      (mergeParameters trace vs merged).result (mergeParameters trace ws merged').result := by
  induction h generalizing merged merged' with
  | nil => exact .agree (.ok hmerged)
  | cons hhere _ ih =>
    simp only [mergeParameters]
    rw [(r.alike_of_stands hhere).isMap_eq]
    split
    · exact (noteSkipped_agree trace _ _).bind_eq fun _ => ih hmerged
    · rw [r.text_eq hhere "name" (by simp [Part.texts]),
        r.text_eq hhere "in" (by simp [Part.texts])]
      refine .next fun name => ?_
      split
      · exact note_agreeBut (ih hmerged)
      · refine .next fun place => ?_
        exact ih (Assoc.rows_insert hmerged _ hhere)

theorem buildParameters_agree (r : Reordered a b) {merged merged' : Assoc (Text × Text) Value}
    (h : Rows (Stands a b (.carrier .parameter)) merged merged') :
    Agree Eq (buildParameters trace merged).result (buildParameters trace merged').result := by
  induction h with
  | nil => exact .refl _
  | @cons e f _ _ hef _ ih =>
    obtain ⟨⟨name, place⟩, raw⟩ := e
    obtain ⟨_, raw'⟩ := f
    obtain ⟨rfl, hraw⟩ := hef
    simp only [buildParameters]
    split
    · exact note_agree ih
    · rw [r.text_eq hraw "description" (by simp [Part.texts])]
      refine (ofSchema_agree (r.parameterSchema_alike hraw) _).bind_eq fun type => ?_
      refine .next fun description => ?_
      refine Agree.bind_eq ?_ fun p => ?_
      · obtain ⟨hx, hy⟩ | ⟨x, y, hx, hy, hxy⟩ :=
          rel_cases ((r.alike_of_stands hraw).get? "required")
        · rw [hx, hy]
          exact .refl _
        · rw [hx, hy]
          cases hxy <;> exact .refl _
      · exact note_agree (ih.bind_eq fun more => .refl _)

theorem extractParameters_agree (r : Reordered a b) {m : Method}
    (h : Stands a b (.operation m) v w) {shared shared' : List Value}
    (hshared : List.Forall₂ (Stands a b (.carrier .parameter)) shared shared') :
    AgreeBut Overrun Eq (extractParameters trace shared v).result
      (extractParameters trace shared' w).result := by
  refine AgreeBut.bind_result (.agree (listOf_agree r (r.field? h List.mem_cons_self) _))
    fun own own' hown => ?_
  refine (mergeParameters_agree r (List.rel_append hshared hown) .nil).bind_result ?_
  exact fun _ _ hmerged => .agree (buildParameters_agree r hmerged)

/-! ## Bodies and responses -/

theorem extractBody_agree (r : Reordered a b) {m : Method} (h : Stands a b (.operation m) v w)
    (path : Text) :
    Agree (fun x y => sameItem x y = true) (extractBody trace m path v).result
      (extractBody trace m path w).result := by
  -- Where a body has no meaning nothing inside it is read, and that the bodies are alike is enough.
  unfold extractBody
  obtain ⟨hx, hy⟩ | ⟨x, y, hx, hy, hxy⟩ := rel_cases ((r.alike_of_stands h).get? "requestBody")
  · rw [hx, hy]
    exact .ok rfl
  · rw [hx, hy]
    cases hxy with
    | map =>
      dsimp only
      split
      · exact note_agree (.ok rfl)
      · next hbody =>
        have hreads : (Text.ofString "requestBody", Part.carrier .body) ∈
            (Part.operation m).fields v := by
          simp [Part.fields, show m.hasBody = true by simpa using hbody]
        have hschema := r.contentSchema? (h.field hreads hx hy) fun _ => List.mem_singleton_self _
        obtain ⟨hs, ht⟩ | ⟨s, t, hs, ht, hst⟩ := rel_cases hschema
        · rw [hs, ht]
          exact .ok rfl
        · rw [hs, ht]
          refine (convertWithin_agree r hst _ _).bind_result fun s t hsame => note_agree ?_
          exact .ok hsame
    | _ => exact .ok rfl

theorem responseSchemas_agree (r : Reordered a b) {es fs : Entries Value}
    (h : Rows (Stands a b (.carrier .response)) es fs) :
    Agree (Rows fun s t => s.same t = true) (responseSchemas trace es).result
      (responseSchemas trace fs).result := by
  induction h with
  | nil => exact .ok .nil
  | @cons e f _ _ hef _ ih =>
    obtain ⟨key, response⟩ := e
    obtain ⟨_, response'⟩ := f
    obtain ⟨rfl, hresponse⟩ := hef
    simp only [responseSchemas]
    refine .next fun status => ?_
    obtain ⟨hx, hy⟩ | ⟨x, y, hx, hy, hxy⟩ :=
      rel_cases (r.contentSchema? hresponse fun _ => List.mem_singleton_self _)
    · rw [hx, hy]
      exact note_agree ih
    · rw [hx, hy]
      refine (convertWithin_agree r hxy _ _).bind_result fun s t hsame => ?_
      exact ih.bind_result fun _ _ hmore => .ok (.cons ⟨rfl, hsame⟩ hmore)

theorem extractResponses_agree (r : Reordered a b) {m : Method}
    (h : Stands a b (.operation m) v w) :
    Agree SameNamed (extractResponses trace v).result (extractResponses trace w).result := by
  have hresponses := r.field? h (List.mem_cons_of_mem _ List.mem_cons_self)
  unfold extractResponses
  obtain ⟨hx, hy⟩ | ⟨x, y, hx, hy, hxy⟩ := rel_cases hresponses
  · rw [hx, hy]
    exact .ok ⟨rfl, rfl⟩
  · rw [hx, hy]
    cases r.alike_of_stands hxy with
    | map =>
      refine (responseSchemas_agree r (r.rows hxy rfl rfl)).bind_result fun ps qs hrows => ?_
      exact .ok (sameNamed_of_rows (Assoc.keys_ofPairs qs).1 (Assoc.rows_ofPairs hrows))
    | _ => exact .ok ⟨rfl, rfl⟩

omit [Machine] in
theorem statusCodes_eq (r : Reordered a b) {m : Method} (h : Stands a b (.operation m) v w) :
    statusCodes v = statusCodes w := by
  have hresponses := r.field? h (List.mem_cons_of_mem _ List.mem_cons_self)
  have hkeys : ∀ es : Entries Value, (es.mapM fun e => keyText e.1) =
      (es.map (·.1)).mapM keyText := fun es => by
    rw [List.mapM_map]
    rfl
  unfold statusCodes
  obtain ⟨hx, hy⟩ | ⟨x, y, hx, hy, hxy⟩ := rel_cases hresponses
  · rw [hx, hy]
  · rw [hx, hy]
    cases r.alike_of_stands hxy with
    | map =>
      dsimp only
      rw [hkeys, hkeys, r.order hxy rfl]
    | _ => rfl

/-! ## Endpoints -/

omit [Machine] in
theorem operationIdOf_eq (h : v.Alike w) (m : Method) (path : Text) :
    operationIdOf m path v = operationIdOf m path w := by
  unfold operationIdOf
  obtain ⟨hx, hy⟩ | ⟨x, y, hx, hy, hxy⟩ := rel_cases (h.get? "operationId")
  · rw [hx, hy]
  · rw [hx, hy]
    cases hxy <;> rfl

omit [Machine] in
theorem sameItem_isNone {x y : Option Schema} (h : sameItem x y = true) : x.isNone = y.isNone := by
  cases x <;> cases y <;> first | rfl | simp [sameItem] at h

omit [Machine] in
/-- Endpoints that are the same keep their rules both or not. -/
theorem Endpoint.check_agree {e f : Endpoint} (h : e.same f = true) :
    Agree (fun e f => e.same f = true) (valid e.check) (valid f.check) := by
  have hsame := h
  simp only [Endpoint.same, Bool.and_eq_true, beq_iff_eq] at hsame
  obtain ⟨⟨⟨⟨⟨⟨⟨⟨-, hmethod⟩, -⟩, hid⟩, -⟩, hbody⟩, -⟩, -⟩, -⟩ := hsame
  have hrule : e.bodyRule = f.bodyRule := by
    rw [bodyRule, bodyRule, hmethod, sameItem_isNone hbody]
  refine Agree.mapError ?_
  rw [check, check, hid, hrule]
  split
  · exact .error _ _
  · simp only [Checked.rules]
    split
    · exact .ok h
    · exact .error _ _

theorem buildEndpoint_agree (r : Reordered a b) {m : Method} (h : Stands a b (.operation m) v w)
    {shared shared' : List Value}
    (hshared : List.Forall₂ (Stands a b (.carrier .parameter)) shared shared') (path : Text) :
    AgreeBut Overrun (fun e f => e.same f = true) (buildEndpoint trace path m v shared).result
      (buildEndpoint trace path m w shared').result := by
  unfold buildEndpoint
  refine AgreeBut.mapError (fun f hf => by rw [hf]; rfl) ?_
  rw [r.text_eq h _ (List.mem_singleton_self _), statusCodes_eq r h,
    operationIdOf_eq (r.alike_of_stands h)]
  refine .next fun summary => ?_
  refine (extractParameters_agree r h hshared).bind_eq fun parameters => .agree ?_
  refine (extractBody_agree r h path).bind_result fun body body' hbody => ?_
  refine (extractResponses_agree r h).bind_result fun responses responses' hresponses => ?_
  refine .next fun codes => ?_
  exact Endpoint.check_agree (by simp [Endpoint.same, hbody, hresponses.1, hresponses.2])

/-- The endpoints of a path item. The declared order of its methods is not looked at. -/
theorem pathEndpoints_agree (r : Reordered a b) (h : Stands a b .pathItem v w)
    {es fs : Entries Value} (hes : ∀ k, v.get? k = Entries.find? (.text k) es)
    (hfs : ∀ k, w.get? k = Entries.find? (.text k) fs) {shared shared' : List Value}
    (hshared : List.Forall₂ (Stands a b (.carrier .parameter)) shared shared') (path : Text)
    (methods : List Method) :
    AgreeBut Overrun (List.Forall₂ fun e f => e.same f = true)
      (pathEndpoints trace path es shared methods).result
      (pathEndpoints trace path fs shared' methods).result := by
  induction methods with
  | nil => exact .agree (.ok .nil)
  | cons m rest ih =>
    have hreads : (m.key, Part.operation m) ∈ Part.pathItem.fields v :=
      List.mem_cons_of_mem _ (List.mem_map.2 ⟨m, by cases m <;> decide, rfl⟩)
    have hfound := rel_filter (p := fun v => !v.isNull) (q := fun v => !v.isNull)
      (r.field? h hreads) fun _ _ h => congrArg _ (r.alike_of_stands h).isNull_eq
    simp only [pathEndpoints]
    rw [← hes, ← hfs]
    obtain ⟨hx, hy⟩ | ⟨x, y, hx, hy, hxy⟩ := rel_cases hfound
    · rw [hx, hy]
      exact ih
    · have hpresent := (Option.filter_eq_some_iff.1 hx).2
      rw [hx, hy]
      cases r.alike_of_stands hxy with
      | scalar s =>
        cases s with
        | null => cases hpresent
        | _ => exact .agree (.error _ _)
      | map =>
        refine (buildEndpoint_agree r hxy hshared path).bind_result fun e f hsame =>
          note_agreeBut ?_
        exact ih.bind_result fun _ _ hmore => .agree (.ok (.cons hsame hmore))
      | _ => exact .agree (.error _ _)

theorem extractEndpoints_agree (r : Reordered a b) {es fs : Entries Value}
    (h : Rows (Stands a b .pathItem) es fs) :
    AgreeBut Overrun (List.Forall₂ fun e f => e.same f = true) (extractEndpoints trace es).result
      (extractEndpoints trace fs).result := by
  induction h with
  | nil => exact .agree (.ok .nil)
  | @cons e f _ _ hef _ ih =>
    obtain ⟨key, raw⟩ := e
    obtain ⟨_, raw'⟩ := f
    obtain ⟨rfl, hraw⟩ := hef
    simp only [extractEndpoints]
    refine .next fun path => ?_
    have hitem := Agree.of_ok_iff
      (mappingOf_agree (.some (r.alike_of_stands hraw)) (.pathItem path)).ok_iff
      fun es fs hes hfs => And.intro (get?_of_mappingOf hes) (get?_of_mappingOf hfs)
    refine AgreeBut.bind_result (.agree hitem) fun es fs hentries => note_agreeBut ?_
    obtain ⟨hes, hfs⟩ := hentries
    have hparameters := r.field? hraw List.mem_cons_self
    rw [hes, hfs] at hparameters
    refine AgreeBut.bind_result (.agree (listOf_agree r hparameters _))
      fun shared shared' hshared => ?_
    refine (pathEndpoints_agree r hraw hes hfs hshared path _).bind_result fun _ _ hhere => ?_
    exact ih.bind_result fun _ _ hmore => .agree (.ok (List.rel_append hhere hmore))

/-! ## The whole tree -/

theorem componentSchemas_result (trace : TraceId) (entries : Entries Value) :
    (componentSchemas trace entries).result =
      convertProperties (convertWithin (maxSchemaDepth + 1) 2) entries := by
  induction entries with
  | nil => rfl
  | cons e rest ih =>
    obtain ⟨key, raw⟩ := e
    simp only [componentSchemas, convertProperties, Logged.result_bind, ih]
    rfl

theorem extractSchemas_agree (r : Reordered a b) :
    Agree SameNamed (extractSchemas trace a).result (extractSchemas trace b).result := by
  have hcomponents : Option.Rel (Stands a b .components) (a.get? "components")
      (b.get? "components") := r.field? .root (by simp [Part.fields])
  have hschemas : Option.Rel (Stands a b .schemas) ((a.get? "components").bind (·.get? "schemas"))
      ((b.get? "components").bind (·.get? "schemas")) :=
    rel_bind hcomponents fun _ _ h => r.field? h (List.mem_singleton_self _)
  unfold extractSchemas
  obtain ⟨hx, hy⟩ | ⟨x, y, hx, hy, hxy⟩ := rel_cases hschemas
  · rw [hx, hy]
    exact .ok ⟨rfl, rfl⟩
  · rw [hx, hy]
    cases r.alike_of_stands hxy with
    | map =>
      have hconverted := convertProperties_agree (r.alike_of_stands hxy) fun hv hw =>
        convertWithin_agree r (hxy.value rfl hv hw) 2
      rw [← componentSchemas_result trace, ← componentSchemas_result trace] at hconverted
      exact hconverted.bind_result fun _ _ hsame => .ok hsame
    | _ => exact .ok ⟨rfl, rfl⟩

theorem baseUrlOf_agree (r : Reordered a b) (url : Text) :
    Agree Eq (baseUrlOf trace url a).result (baseUrlOf trace url b).result := by
  have hservers : Option.Rel (Stands a b .servers) (a.get? "servers") (b.get? "servers") :=
    r.field? .root (by simp [Part.fields])
  unfold baseUrlOf
  obtain ⟨hx, hy⟩ | ⟨x, y, hx, hy, hxy⟩ := rel_cases hservers
  · rw [hx, hy]
    exact .refl _
  · rw [hx, hy]
    have halike := r.alike_of_stands hxy
    cases halike with
    | @list vs ws length items =>
      cases vs with
      | nil =>
        obtain rfl := List.length_eq_zero_iff.1 length.symm
        exact .refl _
      | cons v vs =>
        obtain ⟨w, ws, rfl⟩ := List.exists_cons_of_length_eq_add_one length.symm
        have hserver : Stands a b .server v w := hxy.item (i := 0) rfl rfl
        cases r.alike_of_stands hserver with
        | map =>
          dsimp only
          rw [r.text_eq hserver _ (List.mem_singleton_self _)]
          exact .refl _
        | _ => exact .refl _
    | _ => exact .refl _

omit [Machine] in
theorem requiredParts_agree (r : Reordered a b) :
    Agree (fun p q => Stands a b .info (.map p.1) (.map q.1) ∧
      Stands a b .paths (.map p.2) (.map q.2)) (requiredParts trace a).result
      (requiredParts trace b).result := by
  have hinfo : Option.Rel (Stands a b .info) (a.get? "info") (b.get? "info") :=
    r.field? .root (by simp [Part.fields])
  have hpaths : Option.Rel (Stands a b .paths) (a.get? "paths") (b.get? "paths") :=
    r.field? .root (by simp [Part.fields])
  unfold requiredParts
  cases r.alike with
  | map =>
    dsimp only
    obtain ⟨hx, hy⟩ | ⟨x, y, hx, hy, hxy⟩ := rel_cases hinfo
    · rw [hx, hy]
      exact .error _ _
    · rw [hx, hy]
      cases r.alike_of_stands hxy with
      | map =>
        dsimp only
        obtain ⟨hx, hy⟩ | ⟨x, y, hx, hy, hpaths⟩ := rel_cases hpaths
        · rw [hx, hy]
          exact .error _ _
        · rw [hx, hy]
          cases r.alike_of_stands hpaths with
          | map =>
            cases r.rows hpaths rfl rfl with
            | nil => exact .error _ _
            | cons _ _ => exact note_agree (.ok ⟨hxy, hpaths⟩)
          | _ => exact .error _ _
      | _ => exact .error _ _
  | _ => exact .error _ _

omit [Machine] in
theorem sameEndpoints_of_forall₂ {es fs : List Endpoint}
    (h : List.Forall₂ (fun e f => e.same f = true) es fs) : sameEndpoints es fs = true := by
  induction h with
  | nil => rfl
  | cons hhere _ ih => rw [sameEndpoints, hhere, ih]; rfl

/-- **Reordered trees have the same contract,** or both have none, or a value goes too deep. -/
theorem translateTree_agree (r : Reordered a b) (trace : TraceId) (url : Text) :
    AgreeBut Overrun (fun c d => c.same d = true) (translateTree trace url a).result
      (translateTree trace url b).result := by
  refine (AgreeBut.agree (requiredParts_agree r)).bind_result fun parts parts' hparts => ?_
  obtain ⟨info, paths⟩ := parts
  obtain ⟨info', paths'⟩ := parts'
  obtain ⟨hinfo, hpaths⟩ := hparts
  have htext : ∀ key ∈ Part.info.texts,
      Entries.find? (.text key) info = Entries.find? (.text key) info' := r.text_eq hinfo
  dsimp only
  rw [htext "title" (by simp [Part.texts]), htext "version" (by simp [Part.texts]),
    htext "description" (by simp [Part.texts])]
  refine .next fun title => ?_
  refine .next fun version => ?_
  refine .next fun description => ?_
  refine (AgreeBut.agree (baseUrlOf_agree r url)).bind_eq fun baseUrl => ?_
  refine note_agreeBut ((extractEndpoints_agree r (r.rows hpaths rfl rfl)).bind_result ?_)
  intro es fs hends
  have hempty : es.isEmpty = fs.isEmpty := isEmpty_eq_of_length_eq hends.length_eq
  rw [hempty]
  refine .agree ?_
  split
  · exact .error _ _
  · next hsome =>
    refine note_agree ((extractSchemas_agree r).bind_result fun schemas schemas' hschemas => ?_)
    refine note_agree ?_
    simp only [Contract.check, hempty, hsome]
    refine note_agree (.ok ?_)
    simp [Contract.same, sameEndpoints_of_forall₂ hends, hschemas.1, hschemas.2]

/-- Two translations come to contracts that say the same, or both to a fault of parsing. -/
def SameOutcome (x y : Except Fault Contract) : Prop :=
  (∃ c d, x = .ok c ∧ y = .ok d ∧ c.same d = true) ∨
    ∃ p q, x = .error (.parse p) ∧ y = .error (.parse q)

omit [Machine] in
/-- Two translations that agree come to the same but for the two faults that are not of parsing. -/
theorem sameOutcome_iff {bad : Fault → Prop} {x y : Except Fault Contract}
    (h : AgreeBut Overrun (fun c d => c.same d = true) x y) (hx : FailsOnly (TreeFault bad) x)
    (hy : FailsOnly (TreeFault bad) y) :
    SameOutcome x y ↔
      (x ≠ .error (.stray (.numeral .tooLarge)) ∧ x ≠ .error (.recursion .value)) ∧
        y ≠ .error (.stray (.numeral .tooLarge)) ∧ y ≠ .error (.recursion .value) := by
  constructor
  · rintro (⟨c, d, rfl, rfl, -⟩ | ⟨p, q, rfl, rfl⟩) <;> exact ⟨⟨nofun, nofun⟩, nofun, nofun⟩
  · rintro ⟨⟨hnumber, hdepth⟩, hnumber', hdepth'⟩
    cases h.toAgree (fun _ hbad => hbad ▸ hdepth) fun _ hbad => hbad ▸ hdepth' with
    | ok same => exact .inl ⟨_, _, rfl, rfl, same⟩
    | error e f =>
      cases hx e rfl with
      | number _ => exact absurd rfl hnumber
      | depth _ => exact absurd rfl hdepth
      | structural _ =>
        cases hy f rfl with
        | number _ => exact absurd rfl hnumber'
        | depth _ => exact absurd rfl hdepth'
        | structural _ => exact .inr ⟨_, _, rfl, rfl⟩

omit [Machine] in
/-- Where a tree's texts are written, no fault is that of a text. -/
theorem ne_of_written {room : Nat} {x : Except Fault Contract}
    (h : FailsOnly (TreeFault (a.Untold room)) x) (written : ¬ a.Unwritable room) :
    x ≠ .error (.stray (.numeral .tooLarge)) ∧ x ≠ .error (.recursion .value) := by
  constructor
  · intro hx
    cases h _ hx with
    | number bad => exact written ⟨_, bad⟩
  · intro hx
    cases h _ hx with
    | depth bad => exact written ⟨_, bad⟩

/-- **The order of entries has no influence.** Reordered trees that are mappings both have a
contract, or neither has, unless one of them comes to the fault that a value goes too deep; and what
they come to is the same unless one of them comes to this fault, or to the one that an integer is
not written, as none does where every integer is written and nothing goes too deep. -/
theorem translateTree_reordered (trace : TraceId) (url : Text) (r : Reordered a b)
    (hmap : a.isMap = true) :
    AgreeBut Overrun (fun c d => c.same d = true) (translateTree trace url a).result
        (translateTree trace url b).result ∧
      (SameOutcome (translateTree trace url a).result (translateTree trace url b).result ↔
        ((translateTree trace url a).result ≠ .error (.stray (.numeral .tooLarge)) ∧
            (translateTree trace url a).result ≠ .error (.recursion .value)) ∧
          (translateTree trace url b).result ≠ .error (.stray (.numeral .tooLarge)) ∧
            (translateTree trace url b).result ≠ .error (.recursion .value)) ∧
      (¬ a.Unwritable Machine.floor →
        SameOutcome (translateTree trace url a).result (translateTree trace url b).result) := by
  have hagree := translateTree_agree r trace url
  have hleft : FailsOnly (TreeFault (a.Untold Machine.floor)) (translateTree trace url a).result :=
    (translateTree_meets hmap fun _ => id).fails
  have hright : FailsOnly (TreeFault (a.Untold Machine.floor)) (translateTree trace url b).result :=
    (translateTree_meets (r.alike.isMap_eq ▸ hmap) fun f => (r.alike.untold_iff f).2).fails
  have hiff := sameOutcome_iff hagree hleft hright
  exact ⟨hagree, hiff, fun written =>
    hiff.2 ⟨ne_of_written hleft written, ne_of_written hright written⟩⟩

end Machine

/-- A mapping with texts as keys. -/
def mapOf (entries : List (String × Value)) : Value :=
  .map (entries.map fun e => (.text e.1, e.2))

/-- A scalar that is a text. -/
def textValue (t : String) : Value := .scalar (.text t)

/-- A body with a schema. -/
def bodyOf (schema : Value) : Value :=
  mapOf [("content", mapOf [("a", mapOf [("schema", schema)])])]

/-- A document with two methods, one of them with a body. -/
def sortedTree : Value :=
  mapOf [
    ("info", mapOf [("title", textValue "a"), ("version", textValue "b")]),
    ("paths", mapOf [("/", mapOf [
      ("get", mapOf [("summary", textValue "c"), ("operationId", textValue "d")]),
      ("post", mapOf [("requestBody", bodyOf (mapOf [
        ("description", textValue "e"),
        ("properties", mapOf [
          ("f", mapOf [("type", textValue "string")]), ("g", .scalar .null)])]))])])])]

/-- The same document, its sections, methods, keywords and properties the other way round. -/
def shuffledTree : Value :=
  mapOf [
    ("paths", mapOf [("/", mapOf [
      ("post", mapOf [("requestBody", bodyOf (mapOf [
        ("properties", mapOf [
          ("g", .scalar .null), ("f", mapOf [("type", textValue "string")])]),
        ("description", textValue "e")]))]),
      ("get", mapOf [("operationId", textValue "d"), ("summary", textValue "c")])])]),
    ("info", mapOf [("version", textValue "b"), ("title", textValue "a")])]

theorem translateTree_reordered_shuffledTree :
    Reordered sortedTree shuffledTree ∧ sortedTree.isMap = true ∧
      ¬ sortedTree.Unwritable Machine.floor ∧
      SameOutcome (translateTree "trace" defaultBaseUrl sortedTree).result
        (translateTree "trace" defaultBaseUrl shuffledTree).result ∧
      ∃ c, (translateTree "trace" defaultBaseUrl shuffledTree).result = .ok c ∧
        c.endpoints.length = 2 := by
  have halike : sortedTree.alikeWithin 12 shuffledTree = true := by decide +kernel
  have hkeeps : Part.document.keepsWithin 12 sortedTree shuffledTree = true := by decide +kernel
  have hr := reordered_of_checks halike hkeeps
  have hshown : (shown sortedTree 70).map (fun _ => ()) = .ok () := by decide +kernel
  obtain ⟨t, ht, -⟩ := map_eq_ok.1 hshown
  have hwritten : ¬ sortedTree.Unwritable Machine.floor :=
    (shown_ok_iff sortedTree 70).1 ⟨t, ht⟩
  have hends : ((translateTree "trace" defaultBaseUrl shuffledTree).result.map fun c =>
      c.endpoints.length) = .ok 2 := by
    decide +kernel
  obtain ⟨-, -, hsame⟩ := translateTree_reordered "trace" defaultBaseUrl hr rfl
  exact ⟨hr, rfl, hwritten, hsame hwritten, map_eq_ok.1 hends⟩

/-- A document with these component schemas. -/
def componentsTree (schemas : List (String × Value)) : Value :=
  mapOf [("info", mapOf []), ("paths", mapOf [("/", mapOf [("get", mapOf [])])]),
    ("components", mapOf [("schemas", mapOf schemas)])]

/-- A component schema that is none. -/
def numberSchema : String × Value := ("a", .scalar (.int 5))

/-- A component schema whose description is an integer that is not written. -/
def largeSchema : String × Value :=
  ("b", mapOf [("description", .scalar (.int (.ofNat (Nat.pow 10 maxDecimalDigits))))])

/-- **Which fault is met first depends on the order,** and one of these two is none of parsing. -/
theorem translateTree_order_of_faults :
    Reordered (componentsTree [numberSchema, largeSchema])
        (componentsTree [largeSchema, numberSchema]) ∧
      (translateTree "trace" defaultBaseUrl (componentsTree [numberSchema, largeSchema])).result =
        .error (.parse (.schemaNotMapping "a" "int")) ∧
      (translateTree "trace" defaultBaseUrl (componentsTree [largeSchema, numberSchema])).result =
        .error (.stray (.numeral .tooLarge)) ∧
      ¬ ∀ a b, Reordered a b → a.isMap = true →
        SameOutcome (translateTree "trace" defaultBaseUrl a).result
          (translateTree "trace" defaultBaseUrl b).result := by
  have halike : (componentsTree [numberSchema, largeSchema]).alikeWithin 9
      (componentsTree [largeSchema, numberSchema]) = true := by
    decide +kernel
  have hkeeps : Part.document.keepsWithin 9 (componentsTree [numberSchema, largeSchema])
      (componentsTree [largeSchema, numberSchema]) = true := by
    decide +kernel
  have hr := reordered_of_checks halike hkeeps
  have hleft : (translateTree "trace" defaultBaseUrl
      (componentsTree [numberSchema, largeSchema])).result =
        .error (.parse (.schemaNotMapping "a" "int")) :=
    map_eq_error (f := fun _ => ()).1 (by decide +kernel)
  have hright : (translateTree "trace" defaultBaseUrl
      (componentsTree [largeSchema, numberSchema])).result =
        .error (.stray (.numeral .tooLarge)) :=
    map_eq_error (f := fun _ => ()).1 (by decide +kernel)
  refine ⟨hr, hleft, hright, fun h => ?_⟩
  rcases h _ _ hr rfl with ⟨_, _, hx, -, -⟩ | ⟨_, _, -, hy⟩
  · cases hleft.symm.trans hx
  · cases hright.symm.trans hy

end SuiteForge
