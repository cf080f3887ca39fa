/-
# What translating a tree comes to

Translating a tree gives an accepted contract, or one of a few faults (`translateTree_meets`): a
check of the tree's structure fails, or a text is read that holds an integer that is not written or
goes deeper than there is room for. A tree that is no mapping has a fault of its own. No model that
is made on the way is refused: names are stripped and not empty, operation ids are made up where
none is declared, schemas are made by their kind, bodies are taken from methods that have them only,
and a contract is made only of some endpoints.
-/

import SuiteForge.Proofs.Translate.SchemaWalk

namespace SuiteForge

open Machine (floor)

/-! ## Faults -/

/-- A check of the structure of a tree has failed. -/
inductive ParseFault.Structural : ParseFault → Prop
  | missingInfo : Structural .missingInfo
  | noPaths : Structural .noPaths
  | noOperations : Structural .noOperations
  | expectedMapping (place : Section) (kind : Text) : Structural (.expectedMapping place kind)
  | expectedList (place : Section) (kind : Text) : Structural (.expectedList place kind)
  | schemaTooDeep (name : Text) : Structural (.schemaTooDeep name)
  | schemaNotMapping (name kind : Text) : Structural (.schemaNotMapping name kind)

/-- The faults of a stage that reads a tree. Those of its texts are bad ones. -/
inductive TreeFault (bad : Fault → Prop) : Fault → Prop
  | structural {p : ParseFault} (h : p.Structural) : TreeFault bad (.parse p)
  | number (h : bad (.stray (.numeral .tooLarge))) : TreeFault bad (.stray (.numeral .tooLarge))
  | depth (h : bad (.recursion .value)) : TreeFault bad (.recursion .value)

theorem TreeFault.of_untold {bad : Fault → Prop} {room : Nat} {v : Value} {f : Fault}
    (untold : v.Untold room f) (h : bad f) : TreeFault bad f := by
  cases untold with
  | number => exact .number h
  | depth => exact .depth h

/-! ## Models that are kept -/

theorem valid_meets {α : Type} {P : Fault → Prop} {x : Checked α} {a : α} (h : x = .ok a) :
    Meets P (fun b => x = .ok b) (valid x) := by
  subst h
  exact meets_ok rfl

theorem Text.isBlank_strip {t : Text} (h : t.strip.isEmpty = false) : t.strip.isBlank = false := by
  unfold strip trim dropTrailing at h ⊢
  have hhead := List.head?_dropWhile_not Symbol.isBlank (dropLeading Symbol.isBlank t).reverse
  cases hrest : (dropLeading Symbol.isBlank t).reverse.dropWhile Symbol.isBlank with
  | nil =>
    rw [hrest] at h
    cases h
  | cons s rest =>
    rw [hrest] at hhead
    simp only [List.head?_cons] at hhead
    simp [isBlank, hhead]

theorem isBlank_synthesizeOperationId (method path : Text) :
    (synthesizeOperationId method path).isBlank = false := by
  have hblank : Symbol.isBlank (.char '_') = false := by decide
  simp only [synthesizeOperationId, Text.isBlank, List.all_append, Bool.and_eq_false_iff]
  exact .inl (.inr (by rw [show (Text.ofString "_") = [.char '_'] from rfl]; simp [hblank]))

theorem isBlank_operationIdOf (method : Method) (path : Text) (operation : Value) :
    (operationIdOf method path operation).isBlank = false := by
  rcases operationIdOf_spec method path operation with ⟨t, -, ht, heq⟩ | ⟨-, heq⟩
  · rw [heq, ht]
  · rw [heq, isBlank_synthesizeOperationId]

theorem accepted_of_convertWithin [Machine] {levels calls : Nat} {name : Text} {v : Value}
    {s : Schema} (h : convertWithin levels calls name v = .ok s) : s.Accepted := by
  induction levels generalizing calls name v s with
  | zero => cases (opening_eq_ok.1 h).2
  | succ levels ih =>
    cases v with
    | scalar scalar =>
      cases scalar with
      | null =>
        rw [convertWithin_null, opening_eq_ok] at h
        obtain rfl := Except.ok.inj h.2
        exact .intro (Schema.made_iff.2 ⟨rfl, .inl rfl⟩) nofun nofun
      | _ => cases (opening_eq_ok.1 h).2
    | map entries =>
      rw [convertWithin_map, opening_eq_ok, bind_eq_ok] at h
      obtain ⟨-, type, -, h⟩ := h
      obtain ⟨description, -, h⟩ := bind_eq_ok.1 h
      split at h
      · obtain ⟨item, hitem, h⟩ := bind_eq_ok.1 h
        obtain rfl := Except.ok.inj h
        refine .intro (Schema.made_iff.2 ⟨rfl, .inl rfl⟩) nofun ?_
        rintro _ ⟨⟩
        exact ih hitem
      · next hkind =>
        split at h
        · obtain ⟨declared, -, h⟩ := bind_eq_ok.1 h
          obtain ⟨converted, hconverted, h⟩ := bind_eq_ok.1 h
          obtain rfl := Except.ok.inj h
          refine .intro (Schema.made_iff.2 ⟨rfl, .inr rfl⟩) (Assoc.forall_ofPairs ?_) nofun
          intro p hp
          obtain ⟨e, -, -, he⟩ := exists_left_of_forall₂ (convertProperties_eq_ok.1 hconverted) hp
          exact ih he
        · obtain rfl := Except.ok.inj h
          exact .intro (Schema.made_iff.2 ⟨by simp [hkind], .inl rfl⟩) nofun nofun
    | _ => cases (opening_eq_ok.1 h).2

section TreeFault

variable {bad : Fault → Prop} {trace : TraceId}

theorem note_meets {P : Fault → Prop} {level : Level} {message : Text} :
    Meets P (fun _ => True) (noteTranslation trace level message).result :=
  meets_ok trivial

section Machine

variable [Machine] {calls : Nat}

theorem convertSchema_meets {v : Value} (h : ∀ f, v.Untold floor f → bad f) (name : Text)
    (few : calls ≤ 4) : Meets (TreeFault bad) Schema.Accepted (convertSchema name v 0 calls) := by
  refine ⟨(convertWithin_meets _ calls name v).fails.mono fun f hf => ?_,
    fun _ => accepted_of_convertWithin⟩
  have hlevels : schemaLevels 0 = maxSchemaDepth + 1 := rfl
  have hroom : floor ≤ Machine.room (calls + schemaLevels 0 + 1) :=
    Machine.floor_le_room (by omega)
  cases hf with
  | tooDeep => exact .structural (.schemaTooDeep _)
  | notMapping => exact .structural (.schemaNotMapping _ _)
  | properties => exact .structural (.expectedMapping _ _)
  | number hwalk => exact .number (h _ (hwalk.untold.mono hroom))
  | depth hwalk => exact .depth (h _ (hwalk.untold.mono hroom))
  | unopened hopens =>
    have henough : 3 * 200 + 64 ≤ Machine.calls := Machine.enough
    rw [hlevels, maxSchemaDepth] at hopens
    exact absurd (fun k _ _ hk => by omega) hopens

/-! ## Operations -/

theorem text_meets {v : Value} (h : ∀ f, v.Untold floor f → bad f) (key : Text) (few : calls ≤ 4) :
    Meets (TreeFault bad) (fun _ => True) (textOf (v.get? key) calls) := by
  have hroom : floor ≤ Machine.room (calls + 1) := Machine.floor_le_room (by omega)
  refine (textOf_meets fun w hw f hf => ?_).mono (fun _ => id) fun _ _ => trivial
  exact .of_untold hf (h f ((Value.untold_of_get? hw hf).mono hroom))

theorem strippedText_meets {v : Value} (h : ∀ f, v.Untold floor f → bad f) (key : Text)
    (few : calls ≤ 4) :
    Meets (TreeFault bad) (fun t => t.isEmpty = false → t.isBlank = false)
      ((textOf (v.get? key) calls).map Text.strip) := by
  refine ⟨(text_meets h key few).fails.map _, fun t ht hempty => ?_⟩
  obtain ⟨u, -, rfl⟩ := map_eq_ok.1 ht
  exact Text.isBlank_strip hempty

/-- What is in the way of the text of a key or of the value of an entry is bad. -/
def EntriesWell (bad : Fault → Prop) (entries : Entries Value) : Prop :=
  ∀ e ∈ entries, (e.1.Large → bad (.stray (.numeral .tooLarge))) ∧
    ∀ f, e.2.Untold floor f → bad f

theorem entriesWell_of_get? {v : Value} {key : Text} {entries : Entries Value}
    (h : ∀ f, v.Untold floor f → bad f) (hentries : v.get? key = some (.map entries)) :
    EntriesWell bad entries :=
  fun _ he => ⟨fun hlarge => h _ (Value.untold_of_get? hentries (Value.untold_of_key he hlarge)),
    fun f hf => h f (Value.untold_of_get? hentries (Value.untold_of_entry he hf))⟩

/-- Merged declarations have names that are not blank. -/
structure MergedWell (bad : Fault → Prop) (merged : Assoc (Text × Text) Value) : Prop where
  names : ∀ key ∈ merged.map (·.1), key.1.isBlank = false
  values : ∀ e ∈ merged, ∀ f, e.2.Untold floor f → bad f

theorem mergedWell_nil : MergedWell bad [] :=
  ⟨fun _ h => absurd h List.not_mem_nil, fun _ h => absurd h List.not_mem_nil⟩

theorem MergedWell.insert {merged : Assoc (Text × Text) Value} (h : MergedWell bad merged)
    {key : Text × Text} {raw : Value} (name : key.1.isBlank = false)
    (value : ∀ f, raw.Untold floor f → bad f) : MergedWell bad (merged.insert key raw) where
  names k hk := by
    rcases Assoc.mem_keys_insert.1 hk with rfl | hk
    · exact name
    · exact h.names k hk
  values := Assoc.forall_insert (P := fun v : Value => ∀ f, v.Untold floor f → bad f) value h.values

theorem mergeParameters_meets {raws : List Value}
    (h : ∀ raw ∈ raws, ∀ f, raw.Untold floor f → bad f) {merged : Assoc (Text × Text) Value}
    (hmerged : MergedWell bad merged) :
    Meets (TreeFault bad) (MergedWell bad) (mergeParameters trace raws merged).result := by
  induction raws generalizing merged with
  | nil => exact meets_ok hmerged
  | cons raw rest ih =>
    obtain ⟨hraw, hrest⟩ := List.forall_mem_cons.1 h
    unfold mergeParameters
    split
    · exact Meets.bind_result
        (noteSkipped_meets fun hdeep => .depth (hraw _ (untold_of_not_recordable hdeep)))
        fun _ _ => ih hrest hmerged
    · refine (strippedText_meets hraw "name" (Nat.le_refl 4)).bind_result fun name hname => ?_
      split
      · exact note_meets.bind_result fun _ _ => ih hrest hmerged
      · next hempty =>
        have hplace : Meets (TreeFault bad) (fun _ => True)
            ((textOf (raw.get? "in") 4).map fun t => t.strip.lower) :=
          ⟨(text_meets hraw "in" (Nat.le_refl 4)).fails.map _, fun _ _ => trivial⟩
        refine hplace.bind_result fun place _ => ih hrest (hmerged.insert ?_ hraw)
        exact hname (by simpa using hempty)

theorem buildParameters_meets {merged : Assoc (Text × Text) Value} (h : MergedWell bad merged) :
    Meets (TreeFault bad) (fun ps => ∀ p ∈ ps, p.Accepted)
      (buildParameters trace merged).result := by
  induction merged with
  | nil => exact meets_ok nofun
  | cons e rest ih =>
    obtain ⟨⟨name, place⟩, raw⟩ := e
    obtain ⟨hname, hnames⟩ := List.forall_mem_cons.1 h.names
    obtain ⟨hraw, hvalues⟩ := List.forall_mem_cons.1 h.values
    have hrest := ih ⟨hnames, hvalues⟩
    have hroom : floor ≤ Machine.room (4 + 1) := Machine.floor_le_room (by decide)
    unfold buildParameters
    split
    · exact note_meets.bind_result fun _ _ => hrest
    · next location hlocation =>
      have hformat : ∀ f, FormatFault 4 (parameterSchema raw) f → TreeFault bad f := fun f hf => by
        have hu := untold_of_formatFault hf
        exact .of_untold hu (hraw f ((untold_of_parameterSchema hu).mono hroom))
      refine (ofSchema_meets hformat).bind_result fun type _ => ?_
      refine (text_meets hraw "description" (Nat.le_refl 4)).bind_result fun description _ => ?_
      refine (valid_meets (if_neg (by simp [hname]))).bind_result fun p hp => ?_
      refine note_meets.bind_result fun _ _ => hrest.bind_result fun more hmore => meets_ok ?_
      exact List.forall_mem_cons.2 ⟨⟨_, hp⟩, hmore⟩

omit [Machine] in
theorem list_meets {place : Section} {v? : Option Value} :
    Meets (TreeFault bad) (fun items => listOf place v? = .ok items) (listOf place v?) :=
  listOf_meets fun kind => .structural (.expectedList place kind)

omit [Machine] in
theorem entries_meets {place : Section} {v? : Option Value} :
    Meets (TreeFault bad) (fun entries => mappingOf place v? = .ok entries)
      (mappingOf place v?) :=
  (mappingOf_meets fun v _ _ _ => .structural (.expectedMapping place v.kindName)).mono
    (fun _ => id) fun _ => And.left

theorem extractParameters_meets {shared : List Value} {operation : Value}
    (hshared : ∀ raw ∈ shared, ∀ f, raw.Untold floor f → bad f)
    (h : ∀ f, operation.Untold floor f → bad f) :
    Meets (TreeFault bad) (fun ps => ∀ p ∈ ps, p.Accepted)
      (extractParameters trace shared operation).result := by
  refine list_meets.bind_result fun own hown => ?_
  have hraws : ∀ raw ∈ shared ++ own, ∀ f, raw.Untold floor f → bad f := by
    intro raw hraw f hu
    rcases List.mem_append.1 hraw with hraw | hraw
    · exact hshared raw hraw f hu
    · obtain ⟨v, hv, hw⟩ := untold_of_listOf hown hraw hu
      exact h f (Value.untold_of_get? hv hw)
  exact (mergeParameters_meets hraws mergedWell_nil).bind_result fun merged hmerged =>
    buildParameters_meets hmerged

/-- A body is taken from a method whose body has a meaning. -/
theorem extractBody_meets {method : Method} {path : Text} {operation : Value}
    (h : ∀ f, operation.Untold floor f → bad f) :
    Meets (TreeFault bad)
      (fun body => (body = none ∨ method.hasBody = true) ∧ ∀ s, body = some s → s.Accepted)
      (extractBody trace method path operation).result := by
  unfold extractBody
  split
  · next entries hbody =>
    split
    · exact note_meets.bind_result fun _ _ => meets_ok ⟨.inl rfl, nofun⟩
    · next hmethod =>
      split
      · exact meets_ok ⟨.inl rfl, nofun⟩
      · next raw hraw =>
        refine (convertSchema_meets (fun f hu => ?_) _ (Nat.le_refl 4)).bind_result fun s hs =>
          note_meets.bind_result fun _ _ => meets_ok ⟨.inr (by simpa using hmethod), ?_⟩
        · obtain ⟨v, hv, hw⟩ := untold_of_contentSchema? hraw hu
          exact h f (Value.untold_of_get? hbody (Value.untold_of_get? hv hw))
        · rintro _ ⟨⟩
          exact hs
  · exact meets_ok ⟨.inl rfl, nofun⟩

omit [Machine] in
theorem key_meets {key : Scalar} (h : key.Large → bad (.stray (.numeral .tooLarge))) :
    Meets (TreeFault bad) (fun _ => True) (keyText key) :=
  (keyText_meets fun hlarge => .number (h hlarge)).mono (fun _ => id) fun _ _ => trivial

theorem responseSchemas_meets {entries : Entries Value}
    (h : EntriesWell bad entries) :
    Meets (TreeFault bad) (fun rs => ∀ r ∈ rs, r.2.Accepted)
      (responseSchemas trace entries).result := by
  induction entries with
  | nil => exact meets_ok nofun
  | cons e rest ih =>
    obtain ⟨key, response⟩ := e
    obtain ⟨⟨hkey, he⟩, hrest⟩ := List.forall_mem_cons.1 h
    unfold responseSchemas
    refine (key_meets hkey).bind_result fun status _ => ?_
    split
    · exact note_meets.bind_result fun _ _ => ih hrest
    · next raw hraw =>
      refine (convertSchema_meets (fun f hu => ?_) _ (Nat.le_refl 4)).bind_result fun s hs =>
        (ih hrest).bind_result fun more hmore => meets_ok (List.forall_mem_cons.2 ⟨hs, hmore⟩)
      obtain ⟨v, hv, hw⟩ := untold_of_contentSchema? hraw hu
      exact he f (Value.untold_of_get? hv hw)

theorem extractResponses_meets {operation : Value} (h : ∀ f, operation.Untold floor f → bad f) :
    Meets (TreeFault bad) (fun rs => ∀ r ∈ rs, r.2.Accepted)
      (extractResponses trace operation).result := by
  unfold extractResponses
  split
  · next entries hentries =>
    exact (responseSchemas_meets (entriesWell_of_get? h hentries)).bind_result fun pairs hpairs =>
      meets_ok (Assoc.forall_ofPairs hpairs)
  · exact meets_ok nofun

omit [Machine] in
theorem mapM_keyText_meets {entries : Entries Value}
    (h : ∀ e ∈ entries, e.1.Large → bad (.stray (.numeral .tooLarge))) :
    Meets (TreeFault bad) (fun _ => True) (entries.mapM fun e => keyText e.1) := by
  induction entries with
  | nil => exact meets_ok trivial
  | cons e rest ih =>
    obtain ⟨he, hrest⟩ := List.forall_mem_cons.1 h
    rw [List.mapM_cons]
    exact (key_meets he).bind fun _ _ => (ih hrest).bind fun _ _ => meets_ok trivial

theorem statusCodes_meets {operation : Value} (h : ∀ f, operation.Untold floor f → bad f) :
    Meets (TreeFault bad) (fun _ => True) (statusCodes operation) := by
  unfold statusCodes
  split
  · next entries hentries =>
    exact mapM_keyText_meets fun e he => (entriesWell_of_get? h hentries e he).1
  · exact meets_ok trivial

/-- **Every operation is a valid endpoint,** unless a check of its structure fails. -/
theorem buildEndpoint_meets {path : Text} {method : Method} {operation : Value}
    {shared : List Value} (hshared : ∀ raw ∈ shared, ∀ f, raw.Untold floor f → bad f)
    (h : ∀ f, operation.Untold floor f → bad f) :
    Meets (TreeFault bad) Endpoint.Accepted
      (buildEndpoint trace path method operation shared).result := by
  have hinside : ∀ f, TreeFault bad f → TreeFault bad (f.inOperation method path) := by
    intro f hf
    cases hf with
    | structural h => exact .structural h
    | number h => exact .number h
    | depth h => exact .depth h
  refine Meets.mapError hinside ?_
  refine (text_meets h _ (Nat.le_succ 3)).bind_result fun summary _ => ?_
  refine (extractParameters_meets hshared h).bind_result fun parameters hparameters => ?_
  refine (extractBody_meets h).bind_result fun body ⟨hmethod, hbody⟩ => ?_
  refine (extractResponses_meets h).bind_result fun responses hresponses => ?_
  refine (statusCodes_meets h).bind_result fun codes _ => ?_
  refine (valid_meets (Endpoint.check_eq_ok.2
    ⟨rfl, isBlank_operationIdOf method path operation, hmethod⟩)).mono (fun _ => id) fun e he => ?_
  obtain ⟨rfl, -⟩ := Endpoint.check_eq_ok.1 he
  exact ⟨⟨_, he⟩, hparameters, hbody, hresponses⟩

theorem pathEndpoints_meets {path : Text} {item : Entries Value} {shared : List Value}
    (hshared : ∀ raw ∈ shared, ∀ f, raw.Untold floor f → bad f)
    (h : ∀ e ∈ item, ∀ f, e.2.Untold floor f → bad f) (methods : List Method) :
    Meets (TreeFault bad) (fun es => ∀ e ∈ es, e.Accepted)
      (pathEndpoints trace path item shared methods).result := by
  induction methods with
  | nil => exact meets_ok nofun
  | cons method rest ih =>
    unfold pathEndpoints
    split
    · exact ih
    · next raw hraw =>
      refine entries_meets.bind_result fun operation hoperation => ?_
      refine (buildEndpoint_meets hshared fun f hu => ?_).bind_result fun e he =>
        note_meets.bind_result fun _ _ => ih.bind_result fun more hmore =>
          meets_ok (List.forall_mem_cons.2 ⟨he, hmore⟩)
      obtain ⟨hfound, hpresent⟩ := Option.filter_eq_some_iff.1 hraw
      rcases mappingOf_eq_ok hoperation with ⟨rfl, -⟩ | rfl
      · cases hpresent
      · obtain ⟨e, he, hw⟩ := Value.untold_of_find? hfound hu
        exact h e he f hw

theorem extractEndpoints_meets {paths : Entries Value}
    (h : EntriesWell bad paths) :
    Meets (TreeFault bad) (fun es => ∀ e ∈ es, e.Accepted)
      (extractEndpoints trace paths).result := by
  induction paths with
  | nil => exact meets_ok nofun
  | cons e rest ih =>
    obtain ⟨key, raw⟩ := e
    obtain ⟨⟨hkey, he⟩, hrest⟩ := List.forall_mem_cons.1 h
    unfold extractEndpoints
    refine (key_meets hkey).bind_result fun path _ => ?_
    refine entries_meets.bind_result fun item hitem => note_meets.bind_result fun _ _ =>
      list_meets.bind_result fun shared hshared => ?_
    have hbad : ∀ e ∈ item, ∀ f, e.2.Untold floor f → bad f := fun e hmem f hu => by
      rcases mappingOf_eq_ok hitem with ⟨-, rfl⟩ | rfl
      · cases hmem
      · exact he f (Value.untold_of_entry hmem hu)
    refine (pathEndpoints_meets (fun raw hraw f hu => ?_) hbad _).bind_result fun here hhere =>
      (ih hrest).bind_result fun more hmore => meets_ok (List.forall_mem_append.2 ⟨hhere, hmore⟩)
    obtain ⟨v, hv, hw⟩ := untold_of_listOf hshared hraw hu
    obtain ⟨e, hmem, hu⟩ := Value.untold_of_find? hv hw
    exact hbad e hmem f hu

/-! ## The whole tree -/

theorem componentSchemas_meets {entries : Entries Value}
    (h : EntriesWell bad entries) :
    Meets (TreeFault bad) (fun ss => ∀ s ∈ ss, s.2.Accepted)
      (componentSchemas trace entries).result := by
  induction entries with
  | nil => exact meets_ok nofun
  | cons e rest ih =>
    obtain ⟨key, raw⟩ := e
    obtain ⟨⟨hkey, he⟩, hrest⟩ := List.forall_mem_cons.1 h
    unfold componentSchemas
    refine (key_meets hkey).bind_result fun name _ => ?_
    refine (convertSchema_meets he name (by decide)).bind_result fun s hs => ?_
    exact note_meets.bind_result fun _ _ => (ih hrest).bind_result fun more hmore =>
      meets_ok (List.forall_mem_cons.2 ⟨hs, hmore⟩)

theorem extractSchemas_meets {tree : Value} (h : ∀ f, tree.Untold floor f → bad f) :
    Meets (TreeFault bad) (fun ss => ∀ s ∈ ss, s.2.Accepted)
      (extractSchemas trace tree).result := by
  unfold extractSchemas
  split
  · next entries hentries =>
    obtain ⟨components, hcomponents, hentries⟩ := Option.bind_eq_some_iff.1 hentries
    have hinside := fun f hu => h f (Value.untold_of_get? hcomponents hu)
    exact (componentSchemas_meets (entriesWell_of_get? hinside hentries)).bind_result
      fun pairs hpairs => meets_ok (Assoc.forall_ofPairs hpairs)
  · exact note_meets.bind_result fun _ _ => meets_ok nofun

theorem baseUrlOf_meets {url : Text} {tree : Value} (h : ∀ f, tree.Untold floor f → bad f) :
    Meets (TreeFault bad) (fun _ => True) (baseUrlOf trace url tree).result := by
  unfold baseUrlOf
  split
  · next entries rest hservers =>
    refine (strippedText_meets (fun f hu => ?_) _ (by decide)).bind_result fun _ _ =>
      meets_ok trivial
    exact h f (Value.untold_of_get? hservers (Value.untold_of_item List.mem_cons_self hu))
  · exact note_meets.bind_result fun _ _ => meets_ok trivial

omit [Machine] in
theorem requiredParts_meets {tree : Value} (h : tree.isMap = true) :
    Meets (TreeFault bad) (fun parts => (requiredParts trace tree).result = .ok parts)
      (requiredParts trace tree).result := by
  refine FailsOnly.meets ?_
  obtain ⟨entries, rfl⟩ := Value.isMap_iff.1 h
  simp only [requiredParts]
  split
  · split
    · exact (failsOnly_ok _).bind_result fun _ _ => failsOnly_ok _
    · exact (failsOnly_ok _).bind_result fun _ _ => failsOnly_error (.structural .noPaths)
  · exact (failsOnly_ok _).bind_result fun _ _ => failsOnly_error (.structural .missingInfo)

/-- **A tree that is a mapping gives an accepted contract,** or a check of its structure fails, or a
text is not written. -/
theorem translateTree_meets {url : Text} {tree : Value} (hmap : tree.isMap = true)
    (h : ∀ f, tree.Untold floor f → bad f) :
    Meets (TreeFault bad) Contract.Accepted (translateTree trace url tree).result := by
  refine (requiredParts_meets hmap).bind_result fun ⟨info, paths⟩ hparts => ?_
  obtain ⟨hinfo, hpaths⟩ := requiredParts_eq_ok hparts
  have htext : ∀ key, Meets (TreeFault bad) (fun t => t.isEmpty = false → t.isBlank = false)
      ((textOf ((Value.map info).get? key) 1).map Text.strip) := fun key =>
    strippedText_meets (fun f hu => h f (Value.untold_of_get? hinfo hu)) key (by decide)
  refine (htext "title").bind_result fun title _ => ?_
  refine (htext "version").bind_result fun version _ => ?_
  refine (htext "description").bind_result fun description _ => ?_
  refine (baseUrlOf_meets h).bind_result fun baseUrl _ => ?_
  refine note_meets.bind_result fun _ _ => ?_
  refine (extractEndpoints_meets (entriesWell_of_get? h hpaths)).bind_result
    fun endpoints hendpoints => ?_
  split
  · exact meets_error (.structural .noOperations)
  · next hsome =>
    refine note_meets.bind_result fun _ _ => ?_
    refine (extractSchemas_meets h).bind_result fun schemas hschemas => ?_
    refine note_meets.bind_result fun _ _ => ?_
    dsimp only
    split
    · next faults hcheck =>
      rw [Contract.check_eq_ok.2 ⟨rfl, by simpa using hsome⟩] at hcheck
      cases hcheck
    · next c hcheck =>
      obtain ⟨rfl, -⟩ := Contract.check_eq_ok.1 hcheck
      exact note_meets.bind_result fun _ _ => meets_ok ⟨⟨_, hcheck⟩, hendpoints, hschemas⟩

end Machine

end TreeFault

theorem translateTree_of_not_map [Machine] {trace : TraceId} {url : Text} {tree : Value}
    (h : tree.isMap = false) :
    (translateTree trace url tree).result = .error (.stray (.rootKind tree.kindName)) := by
  cases tree with
  | map _ => cases h
  | _ => rfl

/-- **No model that is made of a tree is refused.** The contract is accepted with all its parts; and
where there is none, a check of the structure has failed, or a text is not written, or the tree is
no mapping, but never because an operation or the contract is not valid. -/
theorem translateTree_accepted [Machine] (trace : TraceId) (url : Text) (tree : Value) :
    (∀ c, (translateTree trace url tree).result = .ok c → c.Accepted) ∧
    (∀ f, (translateTree trace url tree).result = .error f →
      (∃ p, f = .parse p ∧ p.Structural) ∨
      (f = .stray (.numeral .tooLarge) ∧ tree.HoldsLarge) ∨
      (f = .recursion .value ∧ tree.Overdeep floor) ∨
      (f = .stray (.rootKind tree.kindName) ∧ tree.isMap = false)) ∧
    (∀ faults, (translateTree trace url tree).result ≠ .error (.invalid faults)) ∧
    (∀ method path faults, (translateTree trace url tree).result ≠
      .error (.parse (.invalidOperation method path faults))) ∧
    ∀ faults, (translateTree trace url tree).result ≠ .error (.parse (.invalidContract faults)) := by
  have hmeets : Meets (fun f => (∃ p, f = .parse p ∧ p.Structural) ∨
      (f = .stray (.numeral .tooLarge) ∧ tree.HoldsLarge) ∨
      (f = .recursion .value ∧ tree.Overdeep floor) ∨
      (f = .stray (.rootKind tree.kindName) ∧ tree.isMap = false)) Contract.Accepted
      (translateTree trace url tree).result := by
    cases hmap : tree.isMap with
    | false =>
      rw [translateTree_of_not_map hmap]
      exact meets_error (.inr (.inr (.inr ⟨rfl, rfl⟩)))
    | true =>
      refine (translateTree_meets hmap fun _ => id).mono (fun f hf => ?_) fun _ => id
      cases hf with
      | structural h => exact .inl ⟨_, rfl, h⟩
      | number h => cases h with
        | number large => exact .inr (.inl ⟨rfl, large⟩)
      | depth h => cases h with
        | depth deep => exact .inr (.inr (.inl ⟨rfl, deep⟩))
  have hparse : ∀ p, (translateTree trace url tree).result = .error (.parse p) →
      p.Structural := by
    intro p hp
    rcases hmeets.fails _ hp with ⟨q, hq, hstructural⟩ | ⟨hq, -⟩ | ⟨hq, -⟩ | ⟨hq, -⟩
    · exact Fault.parse.inj hq ▸ hstructural
    all_goals cases hq
  refine ⟨hmeets.gives, hmeets.fails, fun faults h => ?_, fun method path faults h => ?_,
    fun faults h => ?_⟩
  · rcases hmeets.fails _ h with ⟨p, hp, -⟩ | ⟨hp, -⟩ | ⟨hp, -⟩ | ⟨hp, -⟩ <;> cases hp
  · cases hparse _ h
  · cases hparse _ h

end SuiteForge
