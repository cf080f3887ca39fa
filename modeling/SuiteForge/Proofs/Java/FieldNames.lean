/-
# The names of fields

A field is named for its property: the runs of letters, digits, underscores and dollar signs of the
property's name are put together, and a name that comes again gets a counter. What that gives is
told position by position (`getElem?_deduplicate`).

| name of the property | name of the field | why |
| --- | --- | --- |
| `first-name` | `firstName` | two parts |
| `3d`, `@` | `_3d`, `value` | an identifier begins with no digit and is not empty |
| `class` | `class_` | a reserved word |
| `_`, `-_-` | `_` | no reserved word of `reservedWords`, but a keyword |

So a field's name is an identifier unless it is a single underscore (`isIdentifier_fields_iff`),
which it is if and only if that is all that is kept of the property's name
(`fieldName_eq_underscore_iff`). Names that differ do so with a capital as well, unless two of them
differ in the case of their first letter only (`nodup_capitalise_iff`).
-/

import SuiteForge.Proofs.Suite.Repeats

namespace SuiteForge

/-! ## Identifiers -/

namespace Java

/-- The keywords and literals of Java 17. They are no identifiers. -/
def keywords : List String := [
  "abstract", "assert", "boolean", "break", "byte", "case", "catch", "char", "class", "const",
  "continue", "default", "do", "double", "else", "enum", "extends", "final", "finally", "float",
  "for", "goto", "if", "implements", "import", "instanceof", "int", "interface", "long", "native",
  "new", "package", "private", "protected", "public", "return", "short", "static", "strictfp",
  "super", "switch", "synchronized", "this", "throw", "throws", "transient", "try", "void",
  "volatile", "while", "_", "true", "false", "null"]

/-- A letter, an underscore or a dollar sign. -/
def startsIdentifier (s : Symbol) : Bool := s.isAsciiLetter || s == .char '_' || s == .char '$'

/-- An identifier in ASCII. -/
structure IsIdentifier (t : Text) : Prop where
  start : ∃ first rest, t = first :: rest ∧ startsIdentifier first = true
  symbols : ∀ s ∈ t, (startsIdentifier s || s.isAsciiDigit) = true
  free : ∀ w ∈ keywords, t ≠ Text.ofString w

end Java

open Java

theorem isFieldSymbol_iff {s : Symbol} :
    isFieldSymbol s = true ↔ (startsIdentifier s || s.isAsciiDigit) = true := by
  simp only [isFieldSymbol, startsIdentifier, Symbol.isAsciiAlnum, Bool.or_eq_true]
  tauto

/-- A symbol of a field's name that is no digit begins an identifier. -/
theorem startsIdentifier_of_not_isDigit {s : Symbol} (h : isFieldSymbol s = true)
    (hdigit : s.isDigit = false) : startsIdentifier s = true := by
  simp only [isFieldSymbol, Bool.or_eq_true] at h
  simp only [startsIdentifier, Bool.or_eq_true]
  exact h.imp_left (Or.imp_left fun halnum => isAsciiLetter_of_not_isDigit halnum hdigit)

/-- A name that may be prolonged: it begins as an identifier does, and has symbols of one. -/
structure IsFieldWord (t : Text) : Prop where
  start : ∃ first rest, t = first :: rest ∧ startsIdentifier first = true
  symbols : ∀ s ∈ t, isFieldSymbol s = true

theorem IsFieldWord.append {t u : Text} (h : IsFieldWord t)
    (hu : ∀ s ∈ u, isFieldSymbol s = true) : IsFieldWord (t ++ u) := by
  obtain ⟨first, rest, rfl, hfirst⟩ := h.start
  exact ⟨⟨first, rest ++ u, rfl, hfirst⟩, List.forall_mem_append.2 ⟨h.symbols, hu⟩⟩

theorem IsFieldWord.isIdentifier {t : Text} (h : IsFieldWord t)
    (hfree : ∀ w ∈ keywords, t ≠ Text.ofString w) : IsIdentifier t :=
  ⟨h.start, fun s hs => isFieldSymbol_iff.1 (h.symbols s hs), hfree⟩

theorem isFieldWord_guardDigit {t : Text} (hne : t ≠ []) (h : ∀ s ∈ t, isFieldSymbol s = true) :
    IsFieldWord (guardDigit "_" t) := by
  obtain ⟨first, rest, rfl⟩ := List.exists_cons_of_ne_nil hne
  rw [guardDigit]
  cases hdigit : first.isDigit with
  | true =>
    have hunderscore : IsFieldWord (Text.ofString "_") := ⟨⟨_, _, rfl, by decide⟩, by decide⟩
    exact hunderscore.append h
  | false =>
    have hfirst := startsIdentifier_of_not_isDigit (h first List.mem_cons_self) hdigit
    exact ⟨⟨first, rest, rfl, hfirst⟩, h⟩

/-- **A field's name is a word that is not reserved, or a reserved word with an underscore.** -/
theorem fieldName_cases (property : Text) :
    (IsFieldWord (fieldName property) ∧
        ∀ w ∈ reservedWords, fieldName property ≠ Text.ofString w) ∨
      ∃ w ∈ reservedWords, fieldName property = Text.ofString w ++ Text.ofString "_" := by
  have hruns : ∀ run ∈ Text.runs isFieldSymbol property,
      run ≠ [] ∧ ∀ s ∈ run, isFieldSymbol s = true := fun _ h => mem_runs h
  unfold fieldName
  split
  · exact .inl ⟨⟨⟨_, _, rfl, by decide⟩, by decide⟩, by decide +kernel⟩
  · next first rest heq =>
    rw [heq] at hruns
    obtain ⟨⟨hne, hfirst⟩, hrest⟩ := List.forall_mem_cons.1 hruns
    have hword : IsFieldWord (guardDigit "_" (first ++ pascal rest)) :=
      isFieldWord_guardDigit (List.append_ne_nil_of_left_ne_nil hne _)
        (List.forall_mem_append.2 ⟨hfirst, forall_mem_pascal (fun _ => isFieldSymbol_of_mem_upper)
          fun run hrun => (hrest run hrun).2⟩)
    dsimp only
    split
    · next hreserved =>
      obtain ⟨w, hw, heq⟩ := List.any_eq_true.1 hreserved
      exact .inr ⟨w, hw, by rw [eq_of_beq heq]⟩
    · next hfree =>
      refine .inl ⟨hword, fun w hw heq => hfree (List.any_eq_true.2 ⟨w, hw, ?_⟩)⟩
      rw [heq, beq_self_eq_true]

theorem isFieldWord_fieldName (property : Text) : IsFieldWord (fieldName property) := by
  rcases fieldName_cases property with ⟨hword, -⟩ | ⟨w, hw, heq⟩
  · exact hword
  · have hreserved : ∀ w ∈ reservedWords, ∃ first rest, Text.ofString w = first :: rest ∧
        startsIdentifier first = true := by
      intro w hw
      have hall : ∀ w ∈ reservedWords, (Text.ofString w).head?.any startsIdentifier = true := by
        decide +kernel
      obtain ⟨first, hhead, hfirst⟩ := (Option.any_eq_true _ _).1 (hall w hw)
      obtain ⟨rest, hrest⟩ := List.head?_eq_some_iff.1 hhead
      exact ⟨first, rest, hrest, hfirst⟩
    obtain ⟨first, rest, hw, hfirst⟩ := hreserved w hw
    exact ⟨⟨first, rest ++ Text.ofString "_", by rw [heq, hw, List.cons_append], hfirst⟩,
      isFieldSymbol_fieldName property⟩

/-- **A property's field has an identifier as its name, or a single underscore.** -/
theorem isIdentifier_fieldName {property : Text} (h : fieldName property ≠ Text.ofString "_") :
    IsIdentifier (fieldName property) := by
  refine (isFieldWord_fieldName property).isIdentifier fun w hw heq => ?_
  rcases fieldName_cases property with ⟨-, hfree⟩ | ⟨r, hr, hreserved⟩
  · have hkeywords : ∀ w ∈ keywords, w ∈ reservedWords ∨ w = "_" := by decide +kernel
    rcases hkeywords w hw with hw | rfl
    · exact hfree w hw heq
    · exact h heq
  · have hends : ∀ w ∈ keywords, w = "_" ∨
        (Text.ofString w).getLast? ≠ some (.char '_') := by
      decide +kernel
    rcases hends w hw with rfl | hlast
    · exact h heq
    · refine hlast ?_
      rw [← heq, hreserved, List.getLast?_append]
      rfl

/-- The name of a field with a counter is an identifier, also that of an underscore. -/
theorem isIdentifier_append_ofNat (property : Text) (k : ℕ) :
    IsIdentifier (fieldName property ++ Text.ofNat k) := by
  have hdigits : ∀ s ∈ Text.ofNat k, isFieldSymbol s = true := fun s hs =>
    isFieldSymbol_of_isAsciiAlnum (isAsciiAlnum_ofNat k s hs)
  refine ((isFieldWord_fieldName property).append hdigits).isIdentifier fun w hw heq => ?_
  have hkeywords : ∀ w ∈ keywords, (Text.ofString w).getLast?.all (fun s => !s.isAsciiDigit) := by
    decide +kernel
  obtain ⟨s, hlast, hdigit⟩ := getLast?_append_ofNat (fieldName property) k
  have hw := hkeywords w hw
  rw [← heq, hlast, Option.all_some, hdigit] at hw
  cases hw

/-! ## Capitals -/

theorem code_lt_of_isFieldSymbol {s : Symbol} (h : isFieldSymbol s = true) : s.code < 0x80 := by
  simp only [isFieldSymbol, Bool.or_eq_true, beq_iff_eq] at h
  rcases h with (halnum | rfl) | rfl
  · rw [isAsciiAlnum_iff, isAsciiLetter_iff] at halnum
    omega
  · decide
  · decide

theorem eq_of_code_eq {s t : Symbol} (hascii : s.code < 0x80) (h : s.code = t.code) : s = t := by
  cases s with
  | surrogate n =>
    rw [Symbol.code] at hascii
    omega
  | char c =>
    cases t with
    | surrogate n =>
      rw [h, Symbol.code] at hascii
      omega
    | char d => rw [Char.toNat_inj.1 h]

/-- Of two symbols of ASCII with the same capital that differ one is the capital. -/
theorem eq_or_of_upper_eq {s t u : Symbol} (hs : s.code < 0x80) (ht : t.code < 0x80)
    (hsu : s.upper = [u]) (htu : t.upper = [u]) : s = t ∨ s = u ∨ t = u := by
  rcases upper_cases hs with ⟨hself, -⟩ | ⟨v, hv, -, hsmall, -⟩
  · exact .inr (.inl (List.cons.inj (hself.symm.trans hsu)).1)
  · rcases upper_cases ht with ⟨hself', -⟩ | ⟨v', hv', -, hsmall', -⟩
    · exact .inr (.inr (List.cons.inj (hself'.symm.trans htu)).1)
    · obtain rfl := (List.cons.inj (hv.symm.trans hsu)).1
      obtain rfl := (List.cons.inj (hv'.symm.trans htu)).1
      exact .inl (eq_of_code_eq hs (by omega))

theorem exists_upper {s : Symbol} (h : isFieldSymbol s = true) : ∃ u, s.upper = [u] := by
  rcases upper_cases (code_lt_of_isFieldSymbol h) with ⟨hself, -⟩ | ⟨u, hu, -⟩
  · exact ⟨s, hself⟩
  · exact ⟨u, hu⟩

/-- A name of field symbols with a capital stays with a capital. -/
theorem capitalise_capitalise {name : Text} (h : ∀ s ∈ name, isFieldSymbol s = true) :
    name.capitalise.capitalise = name.capitalise := by
  cases name with
  | nil => rfl
  | cons s rest =>
    rcases upper_cases (code_lt_of_isFieldSymbol (h s List.mem_cons_self)) with
      ⟨hself, -⟩ | ⟨u, hu, hcapital, -⟩
    · simp only [Text.capitalise, hself, List.singleton_append]
    · simp only [Text.capitalise, hu, hcapital, List.singleton_append]

/-- **Two names of field symbols have the same capitalised form if and only if** they are the same
or one is the capitalised form of the other. -/
theorem capitalise_eq_iff {f g : Text} (hf : ∀ s ∈ f, isFieldSymbol s = true)
    (hg : ∀ s ∈ g, isFieldSymbol s = true) :
    f.capitalise = g.capitalise ↔ f = g ∨ f.capitalise = g ∨ g.capitalise = f := by
  constructor
  · intro h
    cases f with
    | nil => exact .inr (.inr h.symm)
    | cons s rest =>
      cases g with
      | nil => exact .inr (.inl h)
      | cons t rest' =>
        obtain ⟨u, hu⟩ := exists_upper (hf s List.mem_cons_self)
        obtain ⟨v, hv⟩ := exists_upper (hg t List.mem_cons_self)
        simp only [Text.capitalise, hu, hv, List.singleton_append] at h ⊢
        obtain ⟨rfl, rfl⟩ : u = v ∧ rest = rest' := List.cons.inj h
        rcases eq_or_of_upper_eq (code_lt_of_isFieldSymbol (hf s List.mem_cons_self))
          (code_lt_of_isFieldSymbol (hg t List.mem_cons_self)) hu hv with rfl | rfl | rfl
        · exact .inl rfl
        · exact .inr (.inr rfl)
        · exact .inr (.inl rfl)
  · rintro (rfl | rfl | rfl)
    · rfl
    · exact (capitalise_capitalise hf).symm
    · exact capitalise_capitalise hg

/-- A name stands beside another that is the name with a capital. -/
def CaseClash (names : List Text) : Prop :=
  ∃ name ∈ names, name.capitalise ≠ name ∧ name.capitalise ∈ names

instance (names : List Text) : Decidable (CaseClash names) :=
  inferInstanceAs (Decidable (∃ name ∈ names, name.capitalise ≠ name ∧ name.capitalise ∈ names))

/-- **Different names have different capitalised forms unless two differ in the case of their first
letter only.** -/
theorem nodup_capitalise_iff {names : List Text} (hnodup : names.Nodup)
    (hsymbols : ∀ name ∈ names, ∀ s ∈ name, isFieldSymbol s = true) :
    (names.map Text.capitalise).Nodup ↔ ¬CaseClash names := by
  rw [List.nodup_map_iff_inj_on hnodup]
  constructor
  · rintro hinj ⟨name, hname, hne, hcapital⟩
    exact hne (hinj _ hcapital _ hname (capitalise_capitalise (hsymbols name hname)))
  · intro hclash f hf g hg h
    by_contra hne
    rcases (capitalise_eq_iff (hsymbols f hf) (hsymbols g hg)).1 h with heq | rfl | rfl
    · exact hne heq
    · exact hclash ⟨f, hf, Ne.symm hne, hg⟩
    · exact hclash ⟨g, hg, hne, hf⟩

/-! ## Single underscores -/

/-- The runs of a text hold its symbols of the class. -/
theorem flatten_runs (p : Symbol → Bool) (t : Text) : (Text.runs p t).flatten = t.filter p := by
  have hgo : ∀ t held : Text, (Text.runs.go p held t).flatten = held.reverse ++ t.filter p := by
    intro t
    induction t with
    | nil =>
      intro held
      rw [Text.runs.go]
      split
      · next hheld => simp [List.isEmpty_iff.1 hheld]
      · simp
    | cons s rest ih =>
      intro held
      rw [Text.runs.go]
      split_ifs with hs hheld
      · simp [ih, hs]
      · simp [ih, hs, List.isEmpty_iff.1 hheld]
      · simp [ih, hs]
  simpa [Text.runs] using hgo t []

theorem pascal_eq_nil {parts : List Text}
    (h : ∀ part ∈ parts, part ≠ [] ∧ ∀ s ∈ part, isFieldSymbol s = true)
    (hnil : pascal parts = []) : parts = [] := by
  cases parts with
  | nil => rfl
  | cons part rest =>
    obtain ⟨hne, hpart⟩ := h part List.mem_cons_self
    obtain ⟨s, more, rfl⟩ := List.exists_cons_of_ne_nil hne
    obtain ⟨u, hu⟩ := exists_upper (hpart s List.mem_cons_self)
    simp [pascal, Text.capitalise, hu] at hnil

theorem guardDigit_eq_underscore {t : Text} (hne : t ≠ [])
    (h : guardDigit "_" t = Text.ofString "_") : t = Text.ofString "_" := by
  obtain ⟨first, rest, rfl⟩ := List.exists_cons_of_ne_nil hne
  rw [guardDigit] at h
  split at h
  · exact absurd (List.cons.inj h).2 (List.cons_ne_nil first rest)
  · exact h

/-- The runs of a text are a single underscore if that is all it has of the class. -/
theorem runs_eq_underscore_iff {property : Text} :
    Text.runs isFieldSymbol property = [Text.ofString "_"] ↔
      property.filter isFieldSymbol = Text.ofString "_" := by
  rw [← flatten_runs]
  refine ⟨fun h => by rw [h]; rfl, fun h => ?_⟩
  have hruns : ∀ run ∈ Text.runs isFieldSymbol property, run ≠ [] := fun _ hrun => (mem_runs hrun).1
  cases hparts : Text.runs isFieldSymbol property with
  | nil =>
    rw [hparts] at h
    cases h
  | cons first rest =>
    rw [hparts] at h hruns
    obtain ⟨hfirst, hrest⟩ := List.forall_mem_cons.1 hruns
    rcases List.append_eq_singleton_iff.1 (h : first ++ rest.flatten = _) with h | h
    · exact absurd h.1 hfirst
    · obtain rfl : rest = [] := by
        refine List.eq_nil_iff_forall_not_mem.2 fun run hrun => hrest run hrun ?_
        exact List.flatten_eq_nil_iff.1 h.2 run hrun
      rw [h.1]
      rfl

/-- **Which properties have a field that is named with an underscore only:** those of whose name
nothing else is kept. -/
theorem fieldName_eq_underscore_iff {property : Text} :
    fieldName property = Text.ofString "_" ↔
      property.filter isFieldSymbol = Text.ofString "_" := by
  rw [← runs_eq_underscore_iff]
  have hruns : ∀ run ∈ Text.runs isFieldSymbol property,
      run ≠ [] ∧ ∀ s ∈ run, isFieldSymbol s = true := fun _ h => mem_runs h
  constructor
  · intro h
    unfold fieldName at h
    split at h
    · exact absurd h (by decide)
    · next first rest heq =>
      rw [heq] at hruns ⊢
      obtain ⟨⟨hne, -⟩, hrest⟩ := List.forall_mem_cons.1 hruns
      dsimp only at h
      split at h
      · next hreserved =>
        obtain ⟨w, hw, hfield⟩ := List.any_eq_true.1 hreserved
        have hempty : ∀ w ∈ reservedWords, Text.ofString w ≠ [] := by decide +kernel
        rw [← eq_of_beq hfield, List.append_left_eq_self] at h
        exact absurd h (hempty w hw)
      · have hword := guardDigit_eq_underscore (List.append_ne_nil_of_left_ne_nil hne _) h
        rcases List.append_eq_singleton_iff.1 hword with hparts | hparts
        · exact absurd hparts.1 hne
        · rw [hparts.1, pascal_eq_nil hrest hparts.2]
          rfl
  · intro h
    rw [fieldName, h]
    decide +kernel

/-! ## Fields of a class -/

section Fields

variable (properties : List (Text × Schema))

/-- The names of the fields of a class are those of its properties, made unique. -/
theorem fieldNames_modelFields : (modelFields properties).map (·.fieldName) =
    deduplicate (properties.map fun p => fieldName p.1) := by
  have hlength := length_deduplicate (properties.map fun p => fieldName p.1)
  rw [List.length_map] at hlength
  rw [modelFields, List.map_map]
  exact List.map_snd_zip hlength.le

variable {properties}

theorem fieldName_mem {f : FieldContext} (h : f ∈ modelFields properties) :
    f.fieldName ∈ deduplicate (properties.map fun p => fieldName p.1) := by
  rw [← fieldNames_modelFields]
  exact List.mem_map_of_mem h

theorem isFieldWord_fields {f : FieldContext} (h : f ∈ modelFields properties) :
    IsFieldWord f.fieldName := by
  refine forall_mem_deduplicate (fun name k hname => ?_) (List.forall_mem_map.2 fun p _ => ?_) _
    (fieldName_mem h)
  · exact hname.append fun s hs => isFieldSymbol_of_isAsciiAlnum (isAsciiAlnum_ofNat k s hs)
  · exact isFieldWord_fieldName p.1

/-- A field's name is an identifier if it is no single underscore. -/
theorem isIdentifier_fields {f : FieldContext} (h : f ∈ modelFields properties)
    (hne : f.fieldName ≠ Text.ofString "_") : IsIdentifier f.fieldName := by
  rcases mem_deduplicate_cases (fieldName_mem h) with hname | ⟨name, hname, k, heq⟩
  · obtain ⟨p, -, heq⟩ := List.mem_map.1 hname
    rw [← heq] at hne ⊢
    exact isIdentifier_fieldName hne
  · obtain ⟨p, -, rfl⟩ := List.mem_map.1 hname
    exact heq ▸ isIdentifier_append_ofNat p.1 k

theorem not_isIdentifier_underscore : ¬IsIdentifier (Text.ofString "_") := fun h =>
  h.free "_" (by decide) rfl

/-- No field is named with a reserved word. -/
theorem reservedWord_not_mem_fieldNames {w : String} (hw : w ∈ reservedWords) :
    Text.ofString w ∉ (modelFields properties).map (·.fieldName) := by
  have hdigit : ∀ w ∈ reservedWords, (Text.ofString w).getLast?.all (fun s => !s.isAsciiDigit) := by
    decide +kernel
  have hlast : ∀ w ∈ reservedWords, (Text.ofString w).getLast? ≠ some (.char '_') := by
    decide +kernel
  rw [fieldNames_modelFields, mem_deduplicate_iff (hdigit w hw)]
  intro hmem
  obtain ⟨p, -, heq⟩ := List.mem_map.1 hmem
  rcases fieldName_cases p.1 with ⟨-, hfree⟩ | ⟨r, -, hreserved⟩
  · exact hfree w hw heq
  · refine hlast w hw ?_
    rw [← heq, hreserved, List.getLast?_append]
    rfl

/-- **The names of a class's fields are identifiers unless one is a single underscore.** A field is
named with an identifier if and only if its name is no single underscore, and all fields of a class
are if and only if no property has, but for symbols that names drop, a single underscore as its
name. -/
theorem isIdentifier_fields_iff (settings : Settings) (name : Text) (schema : Schema) :
    (∀ f ∈ (ModelContext.ofSchema settings name schema).fields,
      IsIdentifier f.fieldName ↔ f.fieldName ≠ Text.ofString "_") ∧
    ((∀ f ∈ (ModelContext.ofSchema settings name schema).fields, IsIdentifier f.fieldName) ↔
      ∀ p ∈ schema.properties, p.1.filter isFieldSymbol ≠ Text.ofString "_") := by
  have hfield : ∀ f ∈ modelFields schema.properties,
      IsIdentifier f.fieldName ↔ f.fieldName ≠ Text.ofString "_" := fun f hf =>
    ⟨fun h heq => not_isIdentifier_underscore (heq ▸ h), isIdentifier_fields hf⟩
  refine ⟨hfield, ?_⟩
  have hunderscore : (∀ f ∈ modelFields schema.properties, f.fieldName ≠ Text.ofString "_") ↔
      Text.ofString "_" ∉ deduplicate (schema.properties.map fun p => fieldName p.1) := by
    rw [← fieldNames_modelFields]
    simp
  show (∀ f ∈ modelFields schema.properties, IsIdentifier f.fieldName) ↔ _
  rw [forall₂_congr hfield, hunderscore, mem_deduplicate_iff (by decide)]
  simp [fieldName_eq_underscore_iff]

/-- A string. -/
def stringSchema (name : Text) : Schema := ⟨name, .string, .string, [], none, []⟩

/-- A list of strings. -/
def listSchema (name : Text) : Schema := ⟨name, .array, .list, [], some (stringSchema []), []⟩

/-- An object with properties. -/
def objectSchema (name : Text) (properties : List (Text × Schema)) : Schema :=
  ⟨name, .object, .object, properties, none, []⟩

/-- The field of a property whose name is a single underscore has that name, which is a keyword. -/
theorem fieldName_underscore :
    (ModelContext.ofSchema .default "Thing"
        (objectSchema "Thing" [("_", stringSchema "_")])).fields.map (·.fieldName) =
      [Text.ofString "_"] ∧
      ¬IsIdentifier (Text.ofString "_") :=
  ⟨by decide +kernel, not_isIdentifier_underscore⟩

end Fields

end SuiteForge
