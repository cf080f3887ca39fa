/-
# Model classes

A schema with properties has a model class. What the class declares is read off its text
(`ModelContext.declarations_text`): for each property a field, with the name in JSON in front of it,
and two methods, one that gives it and one that sets it. The fields match the properties one by one
(`fields_match_properties`). The names of the fields differ; those of the methods, which are the
names of the fields with a capital, need not.

| properties | fields | methods that give them |
| --- | --- | --- |
| `first-name`, `first name` | `firstName`, `firstName2` | `getFirstName`, `getFirstName2` |
| `a`, `A` | `a`, `A` | `getA`, `getA` |
| `class` | `class_` | `getClass_` |
| `Class` | `Class` | `getClass`, which every class has from `Object` |

When they do is told exactly (`accessors_nodup_iff`).
-/

import SuiteForge.Proofs.Java.Declarations
import SuiteForge.Proofs.Suite.Layout

namespace SuiteForge

open Java

/-! ## Fields -/

section Fields

variable {properties : List (Text × Schema)}

/-- The types of the fields are those of the properties. -/
theorem types_modelFields (properties : List (Text × Schema)) :
    (modelFields properties).map (·.type) = properties.map fun p => p.2.type.javaType := by
  rw [← List.forall₂_eq_eq_eq, List.forall₂_map_left_iff, List.forall₂_map_right_iff]
  exact (forall₂_modelFields properties).imp fun _ _ ⟨_, htype, _⟩ => htype

theorem exists_type_iff (P : Text → Prop) :
    (∃ f ∈ modelFields properties, P f.type) ↔ ∃ p ∈ properties, P p.2.type.javaType := by
  have htypes := congrArg (fun ts : List Text => ∃ t ∈ ts, P t) (types_modelFields properties)
  simpa using Iff.of_eq htypes

theorem isSpelt_fields {f : FieldContext} (h : f ∈ modelFields properties) : f.IsSpelt := by
  have hsymbols := (isFieldWord_fields h).symbols
  obtain ⟨⟨p, name⟩, -, rfl⟩ := List.mem_map.1 h
  exact ⟨isSolid_javaType _, isSolid_of_isFieldSymbol hsymbols, isSolid_of_isFieldSymbol
    (forall_mem_capitalise (fun _ => isFieldSymbol_of_mem_upper) hsymbols)⟩

end Fields

theorem isSpelt_ofSchema {settings : Settings} (h : settings.check = .ok settings) (name : Text)
    (schema : Schema) : (ModelContext.ofSchema settings name schema).IsSpelt where
  package := newline_not_mem_subpackage h (by decide)
  className := isSolid_of_isFieldSymbol fun s hs =>
    isFieldSymbol_of_isAsciiAlnum ((isClassName_className name).alnum s hs)
  fields _ hf := isSpelt_fields hf

/-! ## What a text declares -/

namespace Java

namespace Declaration

/-- The name of a method that gives a value. -/
def getter? : Declaration → Option Text
  | .method _ name none => some name
  | _ => none

/-- The name of a method that takes a value. -/
def setter? : Declaration → Option Text
  | .method _ name (some _) => some name
  | _ => none

def import? : Declaration → Option Text
  | .imported name => some name
  | _ => none

def class? : Declaration → Option Text
  | .ofClass name => some name
  | _ => none

/-- The value of an annotation's argument, if it is one literal. -/
def literal? (argument : Text) : Option Text :=
  match read argument with
  | some [.literal t] => some t
  | _ => none

/-- The fields, each with the name in JSON of its annotation, its type and its name. -/
def jsonFields : List Declaration → List (Option Text × Text × Text)
  | .annotated mark argument :: .field type name :: rest =>
    (if mark = Text.ofString "JsonProperty" then literal? argument else none, type, name) ::
      jsonFields rest
  | .field type name :: rest => (none, type, name) :: jsonFields rest
  | _ :: rest => jsonFields rest
  | [] => []

end Declaration

open Declaration

def getters (t : Text) : List Text := (declarations t).filterMap getter?

def setters (t : Text) : List Text := (declarations t).filterMap setter?

def importedNames (t : Text) : List Text := (declarations t).filterMap import?

def declaredClasses (t : Text) : List Text := (declarations t).filterMap class?

end Java

open Declaration

namespace ModelContext

variable {m : ModelContext}

section Picked

variable {α : Type} (pick : Declaration → Option α)

/-- What is picked from the declarations of a model class, part by part. -/
theorem filterMap_declarations (m : ModelContext) : m.declarations.filterMap pick =
    [Declaration.package m.package].filterMap pick ++
      (m.imports.filterMap (fun q => pick (.imported q)) ++
        ([Declaration.annotated (Text.ofString "JsonIgnoreProperties")
          (Text.ofString "ignoreUnknown = true"), Declaration.ofClass m.className].filterMap pick ++
          (m.fields.flatMap (fun f => f.declaration.filterMap pick) ++
            ([Declaration.constructor m.className].filterMap pick ++
              m.fields.flatMap fun f => f.accessors.filterMap pick)))) := by
  have himports : m.imports.filterMap (fun q => pick (.imported q)) =
      (m.imports.map Declaration.imported).filterMap pick := List.filterMap_map.symm
  simp only [himports, ← List.filterMap_flatMap, ← List.filterMap_append]
  rfl

end Picked

theorem flatMap_nil {α β : Type} (xs : List α) : (xs.flatMap fun _ => ([] : List β)) = [] :=
  List.flatMap_eq_nil_iff.2 fun _ _ => rfl

theorem getters_text (h : m.IsSpelt) :
    getters (Context.model m).text = m.fields.map FieldContext.getter := by
  rw [getters, declarations_text h, filterMap_declarations, List.map_eq_flatMap]
  simp [FieldContext.declaration, FieldContext.accessors, getter?, List.filterMap_cons, flatMap_nil]

theorem setters_text (h : m.IsSpelt) :
    setters (Context.model m).text = m.fields.map FieldContext.setter := by
  rw [setters, declarations_text h, filterMap_declarations, List.map_eq_flatMap]
  simp [FieldContext.declaration, FieldContext.accessors, setter?, List.filterMap_cons, flatMap_nil]

theorem importedNames_text (h : m.IsSpelt) :
    importedNames (Context.model m).text = m.imports := by
  rw [importedNames, declarations_text h, filterMap_declarations]
  simp [FieldContext.declaration, FieldContext.accessors, import?, List.filterMap_cons, flatMap_nil]

theorem declaredClasses_text (h : m.IsSpelt) :
    declaredClasses (Context.model m).text = [m.className] := by
  rw [declaredClasses, declarations_text h, filterMap_declarations]
  simp [FieldContext.declaration, FieldContext.accessors, class?, List.filterMap_cons, flatMap_nil]

theorem jsonFields_text (h : m.IsSpelt) :
    jsonFields (Java.declarations (Context.model m).text) =
      m.fields.map fun f => (some f.name, f.type, f.fieldName) := by
  have himports : ∀ (names : List Text) ds,
      jsonFields (names.map Declaration.imported ++ ds) = jsonFields ds := by
    intro names ds
    induction names with
    | nil => rfl
    | cons q names ih => exact ih
  have hdeclared : ∀ (fs : List FieldContext) ds,
      jsonFields (fs.flatMap FieldContext.declaration ++ ds) =
        (fs.map fun f => (some f.name, f.type, f.fieldName)) ++ jsonFields ds := by
    intro fs ds
    induction fs with
    | nil => rfl
    | cons f fs ih =>
      have hliteral : literal? (quoted f.name) = some f.name := by rw [literal?, read_quoted]
      rw [List.map_cons, List.cons_append, ← ih, ← hliteral]
      rfl
  have haccessed : ∀ fs : List FieldContext,
      jsonFields (fs.flatMap FieldContext.accessors) = [] := by
    intro fs
    induction fs with
    | nil => rfl
    | cons f fs ih => exact ih
  have hpackage : ∀ q ds, jsonFields (Declaration.package q :: ds) = jsonFields ds := fun _ _ => rfl
  have hclass : ∀ q t c ds, jsonFields (Declaration.annotated q t :: Declaration.ofClass c :: ds) =
      jsonFields ds := fun _ _ _ _ => rfl
  have hconstructor : ∀ q ds, jsonFields (Declaration.constructor q :: ds) = jsonFields ds :=
    fun _ _ => rfl
  rw [declarations_text h, declarations, hpackage, himports, hclass, hdeclared, hconstructor,
    haccessed, List.append_nil]

theorem list_mem_imports : Text.ofString "java.util.List" ∈ m.imports ↔ m.usesList = true := by
  have hother : Text.ofString "java.util.List" ∉
      [Text.ofString "com.fasterxml.jackson.annotation.JsonIgnoreProperties",
        Text.ofString "com.fasterxml.jackson.annotation.JsonProperty"] := by
    simp [ofString_inj]
  rw [imports]
  split
  · simp [*]
  · simp_all

end ModelContext

/-! ## Model classes of schemas -/

section Schemas

variable {settings : Settings} {name : Text} {schema : Schema}

theorem usesList_iff : (ModelContext.ofSchema settings name schema).usesList = true ↔
    ∃ p ∈ schema.properties, p.2.type = .list :=
  List.any_eq_true.trans (exists_congr fun _ => and_congr_right fun _ => beq_iff_eq)

/-- **Lists are imported if and only if a field is one.** -/
theorem list_mem_imports_iff : Text.ofString "java.util.List" ∈
      (ModelContext.ofSchema settings name schema).imports ↔
    ∃ f ∈ (ModelContext.ofSchema settings name schema).fields,
      f.type = Text.ofString "List<Object>" := by
  have htypes : (∃ f ∈ (ModelContext.ofSchema settings name schema).fields,
      f.type = Text.ofString "List<Object>") ↔ ∃ p ∈ schema.properties, p.2.type = .list :=
    (exists_type_iff (· = Text.ofString "List<Object>")).trans
      (exists_congr fun p => and_congr_right fun _ => ResolvedType.javaType_eq_javaType_list)
  rw [htypes, ModelContext.list_mem_imports, usesList_iff]

end Schemas

/-! ## Accessors -/

/-- The names of accessors of the fields of properties: those of the fields with a capital, behind
a front. -/
def accessorNames (front : String) (properties : List (Text × Schema)) : List Text :=
  (deduplicate (properties.map fun p => fieldName p.1)).map fun n =>
    Text.ofString front ++ n.capitalise

section Accessors

variable {properties : List (Text × Schema)}

theorem isFieldSymbol_fieldNames : ∀ n ∈ deduplicate (properties.map fun p => fieldName p.1),
    ∀ s ∈ n, isFieldSymbol s = true := by
  rw [← fieldNames_modelFields]
  exact List.forall_mem_map.2 fun f hf => (isFieldWord_fields hf).symbols

theorem map_accessor {front : String} {accessor : FieldContext → Text}
    (h : ∀ f : FieldContext, accessor f = Text.ofString front ++ f.capitalised) :
    (modelFields properties).map accessor = accessorNames front properties := by
  rw [accessorNames, ← fieldNames_modelFields, List.map_map]
  refine List.map_congr_left fun f hf => ?_
  obtain ⟨⟨p, name⟩, -, rfl⟩ := List.mem_map.1 hf
  exact h _

/-- Accessors have different names unless a field's name is another with a capital. -/
theorem nodup_accessorNames_iff (front : String) (properties : List (Text × Schema)) :
    (accessorNames front properties).Nodup ↔
      ¬CaseClash (deduplicate (properties.map fun p => fieldName p.1)) := by
  rw [← nodup_capitalise_iff (nodup_deduplicate _) isFieldSymbol_fieldNames, accessorNames,
    ← Function.comp_def (Text.ofString front ++ ·), ← List.map_map,
    List.nodup_map_iff fun _ _ => List.append_cancel_left]

theorem capitalise_eq_class_iff {name : Text} (h : ∀ s ∈ name, isFieldSymbol s = true) :
    name.capitalise = Text.ofString "Class" ↔
      name = Text.ofString "class" ∨ name = Text.ofString "Class" := by
  have hclass : Text.capitalise (Text.ofString "class") = Text.ofString "Class" := by decide
  have hsmall : name.capitalise ≠ Text.ofString "class" := by
    intro heq
    have hagain := capitalise_capitalise h
    rw [heq, hclass] at hagain
    exact absurd hagain (by decide)
  rw [← hclass, capitalise_eq_iff h (by decide), hclass, or_iff_right hsmall, eq_comm (b := name)]

/-- The accessor of a field is named `getClass` if and only if the field is named `Class`: a field
whose property is named `class` is not, as this is a reserved word. -/
theorem getClass_mem_iff : Text.ofString "getClass" ∈ accessorNames "get" properties ↔
    ∃ p ∈ properties, fieldName p.1 = Text.ofString "Class" := by
  have hname : ∀ n ∈ deduplicate (properties.map fun p => fieldName p.1),
      Text.ofString "get" ++ n.capitalise = Text.ofString "getClass" ↔
        n = Text.ofString "Class" := by
    intro n hn
    have hreserved : n ≠ Text.ofString "class" := by
      rintro rfl
      rw [← fieldNames_modelFields] at hn
      have hclass : "class" ∈ reservedWords := by decide
      exact reservedWord_not_mem_fieldNames hclass hn
    have hcapital := (capitalise_eq_class_iff (isFieldSymbol_fieldNames n hn)).trans
      (or_iff_right hreserved)
    rw [← hcapital]
    exact List.append_right_inj (Text.ofString "get")
  rw [accessorNames, List.mem_map, exists_congr fun n => and_congr_right (hname n), exists_eq_right,
    mem_deduplicate_iff (by decide), List.mem_map]

end Accessors

/-! ## Models of schemas -/

section Models

variable {settings : Settings}

/-- A model class is rendered to its text. -/
theorem render_model (m : ModelContext) :
    Template.renderPieces false m.scope Bundled.model = .ok (Context.model m).text :=
  Context.render_template (.model m)

/-- **A model class matches its schema.** It has one field for each property, in order, with the
property's name in JSON, type and description. The names of the fields differ: that of a property is
made from the property's name, with a counter behind it if a property in front has the same. What is
rendered declares these fields, and imports lists if and only if a field is one. -/
theorem fields_match_properties (h : settings.check = .ok settings) (name : Text)
    (schema : Schema) :
    List.Forall₂ (fun f p => f.name = p.1 ∧ f.type = p.2.type.javaType ∧
        f.description = p.2.description)
      (ModelContext.ofSchema settings name schema).fields schema.properties ∧
    ((ModelContext.ofSchema settings name schema).fields.map (·.fieldName)).Nodup ∧
    (∀ i p, schema.properties[i]? = some p →
      ∃ f, (ModelContext.ofSchema settings name schema).fields[i]? = some f ∧
        (fieldName p.1 ∉ (schema.properties.take i).map (fun q => fieldName q.1) →
          f.fieldName = fieldName p.1) ∧
        (fieldName p.1 ∈ (schema.properties.take i).map (fun q => fieldName q.1) →
          ∃ k, f.fieldName = fieldName p.1 ++ Text.ofNat k ∧
            f.fieldName ∉ schema.properties.map fun q => fieldName q.1)) ∧
    ∃ t, Template.renderPieces false (ModelContext.ofSchema settings name schema).scope
        Bundled.model = .ok t ∧
      jsonFields (Java.declarations t) = (ModelContext.ofSchema settings name schema).fields.map
        (fun f => (some f.name, f.type, f.fieldName)) ∧
      (Text.ofString "java.util.List" ∈ importedNames t ↔
        ∃ f ∈ (ModelContext.ofSchema settings name schema).fields,
          f.type = Text.ofString "List<Object>") := by
  have hspelt := isSpelt_ofSchema h name schema
  refine ⟨?_, ?_, ?_, _, render_model _, ModelContext.jsonFields_text hspelt, ?_⟩
  · exact forall₂_modelFields schema.properties
  · rw [ModelContext.ofSchema, fieldNames_modelFields]
    exact nodup_deduplicate _
  · intro i p hp
    have hname : (schema.properties.map fun q => fieldName q.1)[i]? = some (fieldName p.1) := by
      rw [List.getElem?_map, hp]
      rfl
    obtain ⟨new, hnew, hfirst, hagain⟩ := getElem?_deduplicate hname
    rw [← fieldNames_modelFields, List.getElem?_map] at hnew
    obtain ⟨f, hf, rfl⟩ := Option.map_eq_some_iff.1 hnew
    rw [← List.map_take] at hfirst hagain
    exact ⟨f, hf, hfirst, hagain⟩
  · rw [ModelContext.importedNames_text hspelt]
    exact list_mem_imports_iff

/-- A schema whose first two properties have one name for their fields. -/
def petSchema : Schema := objectSchema "Pet"
  [("first-name", stringSchema "first-name"), ("first name", stringSchema "first name"),
    ("tags", listSchema "tags")]

theorem fieldNames_petSchema : deduplicate (petSchema.properties.map fun p => fieldName p.1) =
    [Text.ofString "firstName", Text.ofString "firstName2", Text.ofString "tags"] := by
  decide +kernel

theorem fields_match_properties_petSchema :
    Settings.default.check = .ok Settings.default ∧
    ∃ t, Template.renderPieces false (ModelContext.ofSchema .default "Pet" petSchema).scope
        Bundled.model = .ok t ∧
      jsonFields (Java.declarations t) =
        [(some (Text.ofString "first-name"), Text.ofString "String", Text.ofString "firstName"),
          (some (Text.ofString "first name"), Text.ofString "String", Text.ofString "firstName2"),
          (some (Text.ofString "tags"), Text.ofString "List<Object>", Text.ofString "tags")] ∧
      Text.ofString "java.util.List" ∈ importedNames t := by
  have haccepted := suits_default.accepted
  obtain ⟨-, -, -, t, hrender, hfields, himports⟩ :=
    fields_match_properties haccepted "Pet" petSchema
  have hlist : ∃ f ∈ (ModelContext.ofSchema .default "Pet" petSchema).fields,
      f.type = Text.ofString "List<Object>" := by
    refine (exists_type_iff (· = Text.ofString "List<Object>")).2 ⟨("tags", listSchema "tags"), ?_, rfl⟩
    simp [petSchema, objectSchema]
  refine ⟨haccepted, t, hrender, hfields.trans ?_, himports.2 hlist⟩
  rw [ModelContext.ofSchema, modelFields, fieldNames_petSchema]
  rfl

/-- **When the accessors of a class differ.** The methods that give the fields of a model class have
different names, and those that set them do, if and only if no field has the name of another with a
capital. One of them is `getClass` if and only if the field of a property is named `Class`. -/
theorem accessors_nodup_iff (h : settings.check = .ok settings) (name : Text) (schema : Schema) :
    ∃ t, Template.renderPieces false (ModelContext.ofSchema settings name schema).scope
        Bundled.model = .ok t ∧
      getters t = accessorNames "get" schema.properties ∧
      setters t = accessorNames "set" schema.properties ∧
      ((getters t).Nodup ↔
        ¬CaseClash (deduplicate (schema.properties.map fun p => fieldName p.1))) ∧
      ((setters t).Nodup ↔
        ¬CaseClash (deduplicate (schema.properties.map fun p => fieldName p.1))) ∧
      (Text.ofString "getClass" ∈ getters t ↔
        ∃ p ∈ schema.properties, fieldName p.1 = Text.ofString "Class") := by
  have hspelt := isSpelt_ofSchema h name schema
  have hgetters : getters (Context.model (.ofSchema settings name schema)).text =
      accessorNames "get" schema.properties :=
    (ModelContext.getters_text hspelt).trans (map_accessor fun _ => rfl)
  have hsetters : setters (Context.model (.ofSchema settings name schema)).text =
      accessorNames "set" schema.properties :=
    (ModelContext.setters_text hspelt).trans (map_accessor fun _ => rfl)
  refine ⟨_, render_model _, hgetters, hsetters, ?_, ?_, ?_⟩
  · rw [hgetters, nodup_accessorNames_iff]
  · rw [hsetters, nodup_accessorNames_iff]
  · rw [hgetters, getClass_mem_iff]

theorem accessors_nodup_iff_petSchema :
    Settings.default.check = .ok Settings.default ∧
    ∃ t, Template.renderPieces false (ModelContext.ofSchema .default "Pet" petSchema).scope
        Bundled.model = .ok t ∧
      getters t = [Text.ofString "getFirstName", Text.ofString "getFirstName2",
        Text.ofString "getTags"] ∧
      (getters t).Nodup ∧ (setters t).Nodup ∧ Text.ofString "getClass" ∉ getters t := by
  have haccepted := suits_default.accepted
  obtain ⟨t, hrender, hgetters, -, hget, hset, hclass⟩ :=
    accessors_nodup_iff haccepted "Pet" petSchema
  rw [accessorNames, fieldNames_petSchema] at hgetters
  rw [fieldNames_petSchema] at hget hset
  have hnames : getters t = [Text.ofString "getFirstName", Text.ofString "getFirstName2",
      Text.ofString "getTags"] := hgetters
  have hclash : ¬CaseClash [Text.ofString "firstName", Text.ofString "firstName2",
      Text.ofString "tags"] := by
    decide +kernel
  refine ⟨haccepted, t, hrender, hnames, hget.2 hclash, hset.2 hclash, ?_⟩
  rw [hnames]
  simp [ofString_inj]

/-- A schema with strings as its properties. -/
def thingSchema (names : List String) : Schema :=
  objectSchema "Thing" (names.map fun n => (Text.ofString n, stringSchema n))

/-- A class has two methods of one name if two properties differ in the case of their first letter
only, and one with the name of a method of `Object` if a property is named `Class`. -/
theorem accessors_not_nodup :
    ¬(getters (Context.model (.ofSchema .default "Thing" (thingSchema ["a", "A"]))).text).Nodup ∧
    ¬(setters (Context.model (.ofSchema .default "Thing" (thingSchema ["a", "A"]))).text).Nodup ∧
    Text.ofString "getClass" ∈
      getters (Context.model (.ofSchema .default "Thing" (thingSchema ["Class"]))).text := by
  have hspelt := isSpelt_ofSchema suits_default.accepted (Text.ofString "Thing")
  rw [ModelContext.getters_text (hspelt _), ModelContext.setters_text (hspelt _),
    ModelContext.getters_text (hspelt _)]
  decide +kernel

end Models

end SuiteForge
