/-
# Parameters of an operation

What a path item and then an operation declare as parameters are candidates, if they are mappings
with names that are not blank. The key of a candidate is its name and its location, both without the
blanks around them, the location in lower case, and `query` where it is blank (`parameterKey?`).

An operation has one parameter for each key with a known location, in the order in which the keys
come first, made from the last candidate of the key. So a declaration of the operation overrides
that of the path item with the same key, and takes its place (`extractParameters_spec`).
-/

import SuiteForge.Proofs.Translate.Faults

namespace SuiteForge

section Machine

variable [Machine]

/-! ## Candidates -/

namespace Value

/-- An entry's text without the blanks around it. -/
def trimmed? (v : Value) (key : Text) : Option Text :=
  ((textOf (v.get? key) 4).map Text.strip).toOption

/-- The name and the location under which a parameter is declared, if it is a mapping and has a name
that is not blank. -/
def parameterKey? (raw : Value) : Option (Text × Text) :=
  if raw.isMap then
    ((raw.trimmed? "name").filter fun name => !name.isEmpty).bind fun name =>
      (raw.trimmed? "in").map fun place =>
        (name, if place.lower.isEmpty then Location.query.name else place.lower)
  else none

end Value

/-- The declarations that count, under their keys. -/
def candidates (raws : List Value) : List ((Text × Text) × Value) :=
  raws.filterMap fun raw => raw.parameterKey?.map fun key => (key, raw)

theorem candidates_append (xs ys : List Value) :
    candidates (xs ++ ys) = candidates xs ++ candidates ys := List.filterMap_append

theorem trimmed?_eq_some {v : Value} {key t : Text} :
    v.trimmed? key = some t ↔ ∃ u, textOf (v.get? key) 4 = .ok u ∧ u.strip = t := by
  unfold Value.trimmed?
  cases textOf (v.get? key) 4 <;> simp [Except.map, Except.toOption]

theorem parameterKey?_eq_some {raw : Value} {key : Text × Text} :
    raw.parameterKey? = some key ↔ raw.isMap = true ∧
      ∃ name place, raw.trimmed? "name" = some name ∧ name.isEmpty = false ∧
        raw.trimmed? "in" = some place ∧
        (name, if place.lower.isEmpty then Location.query.name else place.lower) = key := by
  simp [Value.parameterKey?, Option.bind_eq_some_iff, and_assoc]

/-- The names of candidates are not blank. -/
theorem isBlank_of_mem_candidates {raws : List Value} {e : (Text × Text) × Value}
    (h : e ∈ candidates raws) : e.1.1.isBlank = false := by
  obtain ⟨raw, -, he⟩ := List.mem_filterMap.1 h
  obtain ⟨key, hkey, rfl⟩ := Option.map_eq_some_iff.1 he
  obtain ⟨-, name, place, hname, hempty, -, rfl⟩ := parameterKey?_eq_some.1 hkey
  obtain ⟨u, -, rfl⟩ := trimmed?_eq_some.1 hname
  exact Text.isBlank_strip hempty

/-! ## Texts that are read -/

/-- Reading the key of a declaration has this fault. A declaration that is passed over is shown in a
record, and the location is read where there is a name. -/
inductive KeyFault (raw : Value) : Fault → Prop
  | skipped (skipped : raw.isMap = false) (deep : ¬ Recordable raw) :
      KeyFault raw (.recursion .value)
  | name {v : Value} {f : Fault} (entry : raw.get? "name" = some v)
      (untold : v.Untold (Machine.room 5) f) : KeyFault raw f
  | place {name : Text} {v : Value} {f : Fault} (named : raw.trimmed? "name" = some name)
      (nonempty : name.isEmpty = false) (entry : raw.get? "in" = some v)
      (untold : v.Untold (Machine.room 5) f) : KeyFault raw f

/-- Reading the texts that a parameter is made from has this fault. -/
inductive PartsFault (raw : Value) : Fault → Prop
  | format {f : Fault} (fault : FormatFault 4 (parameterSchema raw) f) : PartsFault raw f
  | description {v : Value} {f : Fault} (entry : raw.get? "description" = some v)
      (untold : v.Untold (Machine.room 5) f) : PartsFault raw f

/-- The location of a key is one that parameters can have. -/
def knownLocation (key : Text × Text) : Bool := (Location.ofName? key.2).isSome

/-- Reading declarations has this fault: in the key of one, or in what a parameter is made from. -/
inductive DeclarationFault (raws : List Value) : Fault → Prop
  | key {raw : Value} {f : Fault} (mem : raw ∈ raws) (fault : KeyFault raw f) :
      DeclarationFault raws f
  | parts {e : (Text × Text) × Value} {f : Fault} (last : Assoc.LastOf (candidates raws) e)
      (known : knownLocation e.1 = true) (fault : PartsFault e.2 f) : DeclarationFault raws f

/-- The texts that are read of declarations are written. -/
def ParametersWritten (raws : List Value) : Prop := ∀ f, ¬ DeclarationFault raws f

theorem floor_le_room_five : Machine.floor ≤ Machine.room 5 := Machine.floor_le_room (by decide)

theorem KeyFault.untold {raw : Value} {f : Fault} (h : KeyFault raw f) :
    raw.Untold Machine.floor f := by
  cases h with
  | skipped _ deep => exact untold_of_not_recordable deep
  | name entry untold => exact (Value.untold_of_get? entry untold).mono floor_le_room_five
  | place _ _ entry untold => exact (Value.untold_of_get? entry untold).mono floor_le_room_five

theorem PartsFault.untold {raw : Value} {f : Fault} (h : PartsFault raw f) :
    raw.Untold Machine.floor f := by
  cases h with
  | format fault =>
    exact (untold_of_parameterSchema (untold_of_formatFault fault)).mono floor_le_room_five
  | description entry untold => exact (Value.untold_of_get? entry untold).mono floor_le_room_five

theorem mem_of_mem_candidates {raws : List Value} {e : (Text × Text) × Value}
    (h : e ∈ candidates raws) : e.2 ∈ raws := by
  obtain ⟨raw, hraw, he⟩ := List.mem_filterMap.1 h
  obtain ⟨key, -, rfl⟩ := Option.map_eq_some_iff.1 he
  exact hraw

/-- What is in the way of a text that is read of declarations is in the way of that of one of
them. -/
theorem DeclarationFault.untold {raws : List Value} {f : Fault} (h : DeclarationFault raws f) :
    ∃ raw ∈ raws, raw.Untold Machine.floor f := by
  cases h with
  | key mem fault => exact ⟨_, mem, fault.untold⟩
  | parts last _ fault =>
    obtain ⟨before, after, heq, -⟩ := last
    exact ⟨_, mem_of_mem_candidates (heq ▸ List.mem_append_right _ List.mem_cons_self),
      fault.untold⟩

/-! ## Merging -/

theorem trimmed_meets {P : Fault → Prop} {raw : Value} {key : Text} (f : Text → Text)
    (h : ∀ v, raw.get? key = some v → ∀ fault, v.Untold (Machine.room 5) fault → P fault) :
    Meets P (fun t => (∃ u, raw.trimmed? key = some u.strip ∧ f u = t) ∧
        ∀ v, raw.get? key = some v → ¬ v.Unwritable (Machine.room 5))
      ((textOf (raw.get? key) 4).map f) := by
  have hmeets := textOf_meets h
  refine ⟨hmeets.fails.map f, fun t ht => ?_⟩
  obtain ⟨u, hu, rfl⟩ := map_eq_ok.1 ht
  exact ⟨⟨u, trimmed?_eq_some.2 ⟨u, hu, rfl⟩, rfl⟩, (hmeets.gives u hu).2⟩

/-- **Merging sets the candidates into the table, one by one.** -/
theorem mergeParameters_spec (trace : TraceId) (raws : List Value)
    (merged : Assoc (Text × Text) Value) :
    Meets (fun f => ∃ raw ∈ raws, KeyFault raw f)
      (fun merged' => merged' = (candidates raws).foldl (fun a e => Assoc.insert e.1 e.2 a) merged ∧
        ∀ raw ∈ raws, ∀ f, ¬ KeyFault raw f)
      (mergeParameters trace raws merged).result := by
  induction raws generalizing merged with
  | nil => exact meets_ok ⟨rfl, nofun⟩
  | cons raw rest ih =>
    have hhere : ∀ f, KeyFault raw f → ∃ v ∈ raw :: rest, KeyFault v f :=
      fun f hf => ⟨raw, List.mem_cons_self, hf⟩
    -- What is left comes to the table of all if the first value came to `table`.
    have hrest : ∀ table, (∀ f, ¬ KeyFault raw f) →
        (raw.parameterKey?.elim merged fun key => merged.insert key raw) = table →
        Meets (fun f => ∃ v ∈ raw :: rest, KeyFault v f)
          (fun merged' => merged' =
              (candidates (raw :: rest)).foldl (fun a e => Assoc.insert e.1 e.2 a) merged ∧
            ∀ v ∈ raw :: rest, ∀ f, ¬ KeyFault v f)
          (mergeParameters trace rest table).result := by
      rintro _ hraw rfl
      refine (ih _).mono (fun f ⟨v, hv, hf⟩ => ⟨v, List.mem_cons_of_mem _ hv, hf⟩) ?_
      rintro _ ⟨rfl, hall⟩
      refine ⟨?_, List.forall_mem_cons.2 ⟨hraw, hall⟩⟩
      unfold candidates
      rw [List.filterMap_cons]
      cases raw.parameterKey? <;> rfl
    unfold mergeParameters
    split
    · next hmap =>
      have hmap : raw.isMap = false := by simpa using hmap
      refine (noteSkipped_meets fun hdeep => hhere _ (.skipped hmap hdeep)).bind_result
        fun _ hrecordable => hrest _ ?_ ?_
      · rintro f (⟨-, deep⟩ | ⟨entry, -⟩ | ⟨-, -, entry, -⟩)
        · exact deep hrecordable
        · cases hmap.symm.trans (isMap_of_get? entry)
        · cases hmap.symm.trans (isMap_of_get? entry)
      · simp [Value.parameterKey?, hmap]
    · next hmap =>
      have hmap : raw.isMap = true := by simpa using hmap
      refine (trimmed_meets Text.strip fun v hv f hf => hhere f (.name hv hf)).bind_result
        fun name hname => ?_
      obtain ⟨⟨u, hread, rfl⟩, hnameWritten⟩ := hname
      split
      · next hempty =>
        refine note_meets.bind_result fun _ _ => hrest _ ?_ ?_
        · rintro f (⟨skipped, -⟩ | ⟨entry, untold⟩ | ⟨named, nonempty, -⟩)
          · cases skipped.symm.trans hmap
          · exact hnameWritten _ entry ⟨f, untold⟩
          · obtain rfl := Option.some.inj (hread.symm.trans named)
            cases nonempty.symm.trans hempty
        · have hread : raw.trimmed? "name" = some [] := List.isEmpty_iff.1 hempty ▸ hread
          simp [Value.parameterKey?, hread, Option.filter]
      · next hnamed =>
        have hnamed := Bool.eq_false_iff.2 hnamed
        refine (trimmed_meets (fun t => t.strip.lower) fun v hv f hf =>
          hhere f (.place hread hnamed hv hf)).bind_result fun place hplace => ?_
        obtain ⟨⟨w, hplace, rfl⟩, hplaceWritten⟩ := hplace
        refine hrest _ ?_ ?_
        · rintro f (⟨skipped, -⟩ | ⟨entry, untold⟩ | ⟨-, -, entry, untold⟩)
          · cases skipped.symm.trans hmap
          · exact hnameWritten _ entry ⟨f, untold⟩
          · exact hplaceWritten _ entry ⟨f, untold⟩
        · rw [parameterKey?_eq_some.2 ⟨hmap, _, _, hread, hnamed, hplace, rfl⟩]
          rfl

/-! ## Building -/

/-- A parameter is made from a declaration under a key. -/
structure BuiltFrom (key : Text × Text) (raw : Value) (p : Parameter) : Prop where
  name : p.name = key.1
  location : p.location.name = key.2
  type : ResolvedType.ofSchema (parameterSchema raw) 4 = .ok p.type
  required : p.required = true ↔
    raw.get? "required" = some (.scalar (.bool true)) ∨ p.location = .path
  description : textOf (raw.get? "description") 4 = .ok p.description

theorem builtFrom {name place description : Text} {location : Location} {type : ResolvedType}
    {raw : Value} (location_eq : Location.ofName? place = some location)
    (type_eq : ResolvedType.ofSchema (parameterSchema raw) 4 = .ok type)
    (description_eq : textOf (raw.get? "description") 4 = .ok description) :
    BuiltFrom (name, place) raw ⟨name, location, type, (match raw.get? "required" with
      | some (.scalar (.bool true)) => true
      | _ => false) || location == .path, description⟩ := by
  refine ⟨rfl, beq_iff_eq.1 (List.find?_some location_eq :), type_eq, ?_, description_eq⟩
  rw [Bool.or_eq_true, beq_iff_eq]
  refine or_congr_left ?_
  split
  · next h => simp [h]
  · next h => simpa using h

/-- **The parameters of a table are made from its entries with known locations, one by one.** -/
theorem buildParameters_spec (trace : TraceId) {merged : Assoc (Text × Text) Value}
    (named : ∀ e ∈ merged, e.1.1.isBlank = false) :
    Meets (fun f => ∃ e ∈ merged, knownLocation e.1 = true ∧ PartsFault e.2 f)
      (fun ps => List.Forall₂ (fun e p => BuiltFrom e.1 e.2 p)
          (merged.filter fun e => knownLocation e.1) ps ∧
        ∀ e ∈ merged, knownLocation e.1 = true → ∀ f, ¬ PartsFault e.2 f)
      (buildParameters trace merged).result := by
  induction merged with
  | nil => exact meets_ok ⟨.nil, nofun⟩
  | cons e rest ih =>
    obtain ⟨⟨name, place⟩, raw⟩ := e
    obtain ⟨hname, hrest⟩ := List.forall_mem_cons.1 named
    have hthere : ∀ f, (∃ e ∈ rest, knownLocation e.1 = true ∧ PartsFault e.2 f) →
        ∃ e ∈ ((name, place), raw) :: rest, knownLocation e.1 = true ∧ PartsFault e.2 f :=
      fun f ⟨e, he, hf⟩ => ⟨e, List.mem_cons_of_mem _ he, hf⟩
    have hrest := (ih hrest).mono hthere fun _ => id
    unfold buildParameters
    split
    · next hlocation =>
      have hunknown : knownLocation (name, place) = false := by
        rw [knownLocation, hlocation]
        rfl
      refine note_meets.bind_result fun _ _ =>
        hrest.mono (fun _ => id) fun ps ⟨hps, hall⟩ => ⟨?_, ?_⟩
      · rwa [List.filter_cons_of_neg (by simp [hunknown])]
      · exact List.forall_mem_cons.2 ⟨fun h => absurd h (by simp [hunknown]), hall⟩
    · next location hlocation =>
      have hknown : knownLocation (name, place) = true := by
        rw [knownLocation, hlocation]
        rfl
      have hhere : ∀ f, PartsFault raw f → ∃ e ∈ ((name, place), raw) :: rest,
          knownLocation e.1 = true ∧ PartsFault e.2 f :=
        fun f hf => ⟨_, List.mem_cons_self, hknown, hf⟩
      refine (ofSchema_meets fun f hf => hhere f (.format hf)).bind_result
        fun type ⟨htype, hformat⟩ => ?_
      refine (textOf_meets fun v hv f hf => hhere f (.description hv hf)).bind_result
        fun description ⟨hdescription, hwritten⟩ => ?_
      have hparts : ∀ f, ¬ PartsFault raw f := by
        rintro f (⟨fault⟩ | ⟨entry, untold⟩)
        · exact hformat f fault
        · exact hwritten _ entry ⟨f, untold⟩
      have hcheck : ∀ required, Parameter.check ⟨name, location, type, required, description⟩ =
          .ok ⟨name, location, type, required || location == .path, description⟩ :=
        fun _ => if_neg (by simp [hname])
      refine (valid_meets (hcheck _)).bind_result fun p hp => ?_
      obtain rfl := Except.ok.inj ((hcheck _).symm.trans hp)
      refine note_meets.bind_result fun _ _ => hrest.bind_result fun more ⟨hmore, hall⟩ => ?_
      refine meets_ok ⟨?_, List.forall_mem_cons.2 ⟨fun _ => hparts, hall⟩⟩
      rw [List.filter_cons_of_pos (by exact hknown)]
      exact .cons (builtFrom hlocation htype hdescription) hmore

/-! ## Extracting -/

/-- The parameters of declarations: one for each key with a known location, in the order in which
the keys come first, made from the last declaration of the key. -/
def ParametersOf (raws : List Value) (ps : List Parameter) : Prop :=
  List.Forall₂ (fun key p => ∃ raw, Assoc.LastOf (candidates raws) (key, raw) ∧ BuiltFrom key raw p)
    (((candidates raws).map (·.1)).eraseDups.filter knownLocation) ps

theorem ParametersOf.nodup {raws : List Value} {ps : List Parameter} (h : ParametersOf raws ps) :
    (ps.map fun p => (p.name, p.location)).Nodup := by
  refine nodup_map_of_forall₂ (f := id) (k := fun x : Text × Location => (x.1, x.2.name))
    (h.imp fun key p hp => ?_) ?_
  · obtain ⟨raw, -, hbuilt⟩ := hp
    exact (Prod.ext hbuilt.name hbuilt.location).symm
  · rw [List.map_id]
    exact (nodup_eraseDups _).filter _

theorem ParametersOf.required {raws : List Value} {ps : List Parameter} (h : ParametersOf raws ps)
    {p : Parameter} (hp : p ∈ ps) (path : p.location = .path) : p.required = true := by
  obtain ⟨key, -, raw, -, hbuilt⟩ := exists_left_of_forall₂ h hp
  exact hbuilt.required.2 (.inr path)

theorem extractParameters_meets_parametersOf (trace : TraceId) (shared : List Value)
    {own : List Value} {operation : Value}
    (declared : listOf .operationParameters (operation.get? "parameters") = .ok own) :
    Meets (DeclarationFault (shared ++ own))
      (fun ps => ParametersOf (shared ++ own) ps ∧ ParametersWritten (shared ++ own))
      (extractParameters trace shared operation).result := by
  have hextract : (extractParameters trace shared operation).result =
      (mergeParameters trace (shared ++ own) [] >>= buildParameters trace).result := by
    rw [extractParameters, Logged.result_bind, Logged.result_ofExcept, declared, ok_bind]
  rw [hextract]
  refine ((mergeParameters_spec trace _ []).mono (fun f ⟨raw, hraw, hf⟩ => .key hraw hf)
    fun _ => id).bind_result fun merged ⟨hmerged, hkeys⟩ => ?_
  change merged = Assoc.ofPairs (candidates (shared ++ own)) at hmerged
  have hmem : ∀ e, e ∈ merged ↔ Assoc.LastOf (candidates (shared ++ own)) e := fun e => by
    rw [hmerged, Assoc.mem_ofPairs]
  have hnamed : ∀ e ∈ merged, e.1.1.isBlank = false := fun e he => by
    obtain ⟨before, after, heq, -⟩ := (hmem e).1 he
    exact isBlank_of_mem_candidates (heq ▸ List.mem_append_right _ List.mem_cons_self)
  refine (buildParameters_spec trace hnamed).mono
    (fun f ⟨e, he, hknown, hf⟩ => .parts ((hmem e).1 he) hknown hf) fun ps ⟨hps, hparts⟩ => ?_
  have hwritten : ParametersWritten (shared ++ own) := by
    rintro f (⟨mem, fault⟩ | ⟨last, known, fault⟩)
    · exact hkeys _ mem f fault
    · exact hparts _ ((hmem _).2 last) known f fault
  refine ⟨?_, hwritten⟩
  rw [ParametersOf, ← Assoc.keys_ofPairs_eq, ← hmerged, List.filter_map, List.forall₂_map_left_iff]
  refine ((List.forall₂_and_left _ _).2 ⟨fun e he => ?_, hps⟩).imp fun e p ⟨hlast, hbuilt⟩ =>
    ⟨e.2, hlast, hbuilt⟩
  exact (hmem e).1 (List.mem_of_mem_filter he)

/-- **Which parameters an operation has.** There are parameters just when the texts that are read of
the declarations are written, as they are where no integer is too large and nothing goes deeper than
there is room for; the fault is that of one of these texts otherwise. There is one for each key with
a known location among the declarations of the path item and then of the operation, in the order in
which the keys come first, made from the last declaration of the key. No two have the same name and
location, and those in the path are required. The last declaration of a key is the operation's last
one, or, where the operation has none, the path item's last one. -/
theorem extractParameters_spec (trace : TraceId) (shared : List Value) {own : List Value}
    {operation : Value}
    (declared : listOf .operationParameters (operation.get? "parameters") = .ok own) :
    ((∃ ps, (extractParameters trace shared operation).result = .ok ps) ↔
      ParametersWritten (shared ++ own)) ∧
    (∀ f, (extractParameters trace shared operation).result = .error f →
      DeclarationFault (shared ++ own) f ∧
        (f = .stray (.numeral .tooLarge) ∨ f = .recursion .value)) ∧
    (∀ ps, (extractParameters trace shared operation).result = .ok ps →
      ParametersOf (shared ++ own) ps ∧ (ps.map fun p => (p.name, p.location)).Nodup ∧
        ∀ p ∈ ps, p.location = .path → p.required = true) ∧
    (∀ key raw, Assoc.LastOf (candidates (shared ++ own)) (key, raw) ↔
      Assoc.LastOf (candidates own) (key, raw) ∨
        Assoc.LastOf (candidates shared) (key, raw) ∧ key ∉ (candidates own).map (·.1)) ∧
    ((∀ raw ∈ shared ++ own, ¬ raw.Unwritable Machine.floor) →
      ParametersWritten (shared ++ own)) := by
  have hmeets := extractParameters_meets_parametersOf trace shared declared
  refine ⟨⟨fun ⟨ps, hps⟩ => (hmeets.gives ps hps).2, fun hwritten => ?_⟩,
    fun f hf => ?_, fun ps hps => ?_, fun key raw => ?_, fun hall f hf => ?_⟩
  · cases hresult : (extractParameters trace shared operation).result with
    | ok ps => exact ⟨ps, rfl⟩
    | error f => exact absurd (hmeets.fails f hresult) (hwritten f)
  · have hfault := hmeets.fails f hf
    obtain ⟨raw, -, _ | _⟩ := hfault.untold
    · exact ⟨hfault, .inl rfl⟩
    · exact ⟨hfault, .inr rfl⟩
  · have hof := (hmeets.gives ps hps).1
    exact ⟨hof, hof.nodup, fun p => hof.required⟩
  · rw [candidates_append, Assoc.lastOf_append]
  · obtain ⟨raw, hraw, hu⟩ := hf.untold
    exact hall raw hraw ⟨f, hu⟩

end Machine

/-- A declaration of a parameter. -/
def declaration (name place : String) (schema : Value) : Value := .map [
  (.text "name", .scalar (.text name)),
  (.text "in", .scalar (.text place)),
  (.text "schema", schema)]

/-- The schema of integers, with a format. -/
def integerSchema (format : String) : Value := .map [
  (.text "type", .scalar (.text "integer")),
  (.text "format", .scalar (.text format))]

/-- An operation that declares some parameters. -/
def declaring (own : List Value) : Value := .map [(.text "parameters", .list own)]

/-- A path item's declaration of its parameter. -/
def sharedId : List Value := [declaration "id" "path" (integerSchema "int32")]

/-- An operation's declarations, one of them of the same parameter. -/
def ownId : List Value := [
  declaration "limit" " " (integerSchema ""), declaration " id " "Path" (integerSchema "int64")]

/-- The operation's declaration overrides that of the path item, in its place. -/
theorem extractParameters_ownId :
    (extractParameters "t" sharedId (declaring ownId)).result =
      .ok [⟨"id", .path, .long, true, []⟩, ⟨"limit", .query, .integer, false, []⟩] ∧
    ParametersOf (sharedId ++ ownId)
      [⟨"id", .path, .long, true, []⟩, ⟨"limit", .query, .integer, false, []⟩] := by
  have hresult : (extractParameters "t" sharedId (declaring ownId)).result =
      .ok [⟨"id", .path, .long, true, []⟩, ⟨"limit", .query, .integer, false, []⟩] := by
    decide +kernel
  exact ⟨hresult, ((extractParameters_spec "t" sharedId rfl).2.2.1 _ hresult).1⟩

/-- **Not all declarations have parameters.** -/
theorem extractParameters_largeFormat :
    (extractParameters "t" [] (declaring [declaration "a" "query" largeFormat])).result =
      .error (.stray (.numeral .tooLarge)) ∧
    ¬ ∀ trace shared own operation,
      listOf .operationParameters (operation.get? "parameters") = .ok own →
      ∃ ps, (extractParameters trace shared operation).result = .ok ps ∧
        ParametersOf (shared ++ own) ps := by
  have hfails :
      (extractParameters "t" [] (declaring [declaration "a" "query" largeFormat])).result =
        .error (.stray (.numeral .tooLarge)) := by
    decide +kernel
  refine ⟨hfails, fun h => ?_⟩
  obtain ⟨ps, hps, -⟩ := h "t" [] [declaration "a" "query" largeFormat] (declaring _) rfl
  cases hfails.symm.trans hps

end SuiteForge
