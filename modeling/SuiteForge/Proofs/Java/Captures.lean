/-
# Names that a model class captures

A simple name in the source of a class that is the name of the class stands for that class and not
for a type of a library; if it is imported as well, the source does not compile. The source of a
model class refers to types and annotations of the libraries (`references`): to those that it
imports, to its annotations, and to the types of its fields.

| schema | class | refers to |
| --- | --- | --- |
| `pet`, with a string | `Pet` | `String`, `JsonProperty`, `JsonIgnoreProperties` |
| `list`, with a list | `List` | `List`, `Object`, `JsonProperty`, `JsonIgnoreProperties` |

The name of a class is made from that of its schema alone, so it may be one of these names. When it
is one is told exactly (`captures_iff`).
-/

import SuiteForge.Proofs.Java.Models

namespace SuiteForge

open Java

namespace Java

/-! ## Names that a text refers to -/

/-- The names in a type that are no keywords. -/
def typeNames (t : Text) : List Text :=
  (Text.runs isFieldSymbol t).filter fun n => !keywords.any fun w => Text.ofString w == n

/-- The last part of a qualified name. -/
def simpleName (q : Text) : Text := (Text.splitOn (.char '.') q).getLast?.getD []

/-- The simple names of types and annotations that a declaration refers to. -/
def Declaration.refersTo : Declaration → List Text
  | .imported q => [simpleName q]
  | .annotated name _ => [name]
  | .field type _ => typeNames type
  | .method result _ none => typeNames result
  | .method result _ (some (type, _)) => typeNames result ++ typeNames type
  | .package _ | .ofClass _ | .constructor _ => []

def references (t : Text) : List Text := (declarations t).flatMap Declaration.refersTo

/-- The types and annotations of the libraries that a model class may refer to. -/
def libraryNames : List String := [
  "String", "Integer", "Long", "Float", "Double", "Boolean", "Object", "List", "JsonProperty",
  "JsonIgnoreProperties"]

/-- The types of fields. -/
def allTypes : List ResolvedType :=
  [.string, .integer, .long, .float, .double, .boolean, .list, .object]

theorem mem_allTypes (r : ResolvedType) : r ∈ allTypes := by cases r <;> decide

theorem typeNames_void : typeNames (Text.ofString "void") = [] := by
  have hruns : Text.runs isFieldSymbol (Text.ofString "void") = [Text.ofString "void"] := rfl
  have hkeyword : (keywords.any fun w => Text.ofString w == Text.ofString "void") = true :=
    List.any_eq_true.2 ⟨"void", by decide, beq_self_eq_true _⟩
  rw [typeNames, hruns, List.filter_cons, hkeyword]
  rfl

/-- The names in the types of fields are of libraries, and only lists are called `List`. -/
theorem typeNames_javaType (r : ResolvedType) :
    (∀ n ∈ typeNames r.javaType, n ∈ libraryNames.map Text.ofString) ∧
      (Text.ofString "List" ∈ typeNames r.javaType ↔ r = .list) := by
  have hall : ∀ r ∈ allTypes, (∀ n ∈ typeNames r.javaType, n ∈ libraryNames.map Text.ofString) ∧
      (Text.ofString "List" ∈ typeNames r.javaType ↔ r = .list) := by
    decide +kernel
  exact hall r (mem_allTypes r)

theorem simpleName_ofString {q front n : String} (hq : q = front ++ "." ++ n)
    (hn : '.' ∉ n.toList) : simpleName (Text.ofString q) = Text.ofString n := by
  have hmark : Text.ofString "." = [.char '.'] := rfl
  have hpart : .char '.' ∉ Text.ofString n := by simpa [Text.ofString] using hn
  rw [hq, ofString_append, ofString_append, hmark, List.append_assoc, List.singleton_append,
    simpleName, splitOn_append_cons, splitOn_of_not_mem hpart, List.getLast?_append]
  rfl

end Java

/-! ## Names that a model class refers to -/

namespace ModelContext

variable {m : ModelContext}

theorem mem_map_simpleName {n : Text} : n ∈ m.imports.map simpleName ↔
    n = Text.ofString "JsonIgnoreProperties" ∨ n = Text.ofString "JsonProperty" ∨
      n = Text.ofString "List" ∧ m.usesList = true := by
  have hignore : simpleName (Text.ofString "com.fasterxml.jackson.annotation.JsonIgnoreProperties") =
      Text.ofString "JsonIgnoreProperties" :=
    simpleName_ofString (by rfl : _ = "com.fasterxml.jackson.annotation" ++ "." ++ _) (by simp)
  have hproperty : simpleName (Text.ofString "com.fasterxml.jackson.annotation.JsonProperty") =
      Text.ofString "JsonProperty" :=
    simpleName_ofString (by rfl : _ = "com.fasterxml.jackson.annotation" ++ "." ++ _) (by simp)
  have hlist : simpleName (Text.ofString "java.util.List") = Text.ofString "List" :=
    simpleName_ofString (by rfl : _ = "java.util" ++ "." ++ _) (by simp)
  rw [imports]
  split <;> simp [*]

theorem mem_references_text (h : m.IsSpelt) {n : Text} :
    n ∈ references (Context.model m).text ↔
      n ∈ m.imports.map simpleName ∨ n = Text.ofString "JsonIgnoreProperties" ∨
        ∃ f ∈ m.fields, n = Text.ofString "JsonProperty" ∨ n ∈ typeNames f.type := by
  rw [references, declarations_text h, declarations]
  simp only [Declaration.refersTo, FieldContext.declaration, FieldContext.accessors,
    typeNames_void, List.flatMap_cons, List.flatMap_append, List.mem_append, List.mem_flatMap,
    List.mem_map, List.mem_cons, List.flatMap_assoc, List.flatMap_map, List.flatMap_nil,
    List.not_mem_nil, or_false, false_or, or_self, eq_comm (a := n) (b := simpleName _)]
  -- the accessors refer to no more than the fields do
  have hrepeated : (∃ f ∈ m.fields, n ∈ typeNames f.type) →
      ∃ f ∈ m.fields, n = Text.ofString "JsonProperty" ∨ n ∈ typeNames f.type := by
    rintro ⟨f, hf, hn⟩
    exact ⟨f, hf, .inr hn⟩
  rw [or_iff_left_of_imp hrepeated]

end ModelContext

section Schemas

variable {settings : Settings} {name : Text} {schema : Schema}

theorem mem_references_ofSchema (h : settings.check = .ok settings) {n : Text} :
    n ∈ references (Context.model (.ofSchema settings name schema)).text ↔
      n = Text.ofString "JsonIgnoreProperties" ∨ n = Text.ofString "JsonProperty" ∨
        ∃ p ∈ schema.properties, n ∈ typeNames p.2.type.javaType := by
  rw [ModelContext.mem_references_text (isSpelt_ofSchema h name schema),
    ModelContext.mem_map_simpleName, usesList_iff]
  constructor
  · rintro ((hn | hn | ⟨rfl, p, hp, htype⟩) | hn | ⟨f, hf, hn | hn⟩)
    · exact .inl hn
    · exact .inr (.inl hn)
    · exact .inr (.inr ⟨p, hp, (typeNames_javaType _).2.2 htype⟩)
    · exact .inl hn
    · exact .inr (.inl hn)
    · exact .inr (.inr ((exists_type_iff (n ∈ typeNames ·)).1 ⟨f, hf, hn⟩))
  · rintro (hn | hn | hn)
    · exact .inr (.inl hn)
    · exact .inl (.inr (.inl hn))
    · obtain ⟨f, hf, hn⟩ := (exists_type_iff (n ∈ typeNames ·)).2 hn
      exact .inr (.inr ⟨f, hf, .inr hn⟩)

/-- **Every name that a model class refers to is one of the libraries.** -/
theorem mem_libraryNames_of_mem_references (h : settings.check = .ok settings) {n : Text}
    (hn : n ∈ references (Context.model (.ofSchema settings name schema)).text) :
    n ∈ libraryNames.map Text.ofString := by
  rcases (mem_references_ofSchema h).1 hn with rfl | rfl | ⟨p, -, hn⟩
  · exact List.mem_map_of_mem (by decide)
  · exact List.mem_map_of_mem (by decide)
  · exact (typeNames_javaType p.2.type).1 n hn

end Schemas

/-! ## Names that are captured -/

section Captured

variable {settings : Settings} {trace : TraceId} {c : Contract} {s : Session} {p : Project}

/-- **The files of the model classes** are those in their package. -/
theorem filter_isBelow_modelPackage (c : Contract) (s : Settings) :
    ((c.tasks s).map Task.file).filter (ProjectFile.isBelow s.modelPackage) =
      (c.models s).map ModelContext.file := by
  have hpom : ∀ content, ProjectFile.isBelow s.modelPackage
      ⟨Text.ofString "pom.xml", content⟩ = false := fun _ => rfl
  have hlist : (c.listFile s).isBelow s.modelPackage = false := rfl
  have hbase : (c.baseFile s).isBelow s.modelPackage = false :=
    isBelow_sourcePath_eq_false rfl rfl (by decide) _ _
  have hmodels : ((c.models s).map ModelContext.file).filter
      (ProjectFile.isBelow s.modelPackage) = (c.models s).map ModelContext.file := by
    refine List.filter_eq_self.2 (List.forall_mem_map.2 fun m hm => ?_)
    rw [ModelContext.file, package_model hm]
    exact isBelow_sourcePath _ _ _
  have htests : ((c.testClasses s).map TestClassContext.file).filter
      (ProjectFile.isBelow s.modelPackage) = [] := by
    refine List.filter_eq_nil_iff.2 (List.forall_mem_map.2 fun k hk => ?_)
    rw [TestClassContext.file, (package_testClass hk).1, Bool.not_eq_true]
    exact isBelow_sourcePath_eq_false rfl rfl (by decide) _ _
  rw [map_file_tasks, List.filter_append, List.filter_append, hmodels, htests]
  simp [hpom, hlist, hbase]

/-- A class has the name of a type or an annotation that its own source refers to. -/
def Captures (t : Text) : Prop := ∃ n ∈ declaredClasses t, n ∈ references t

theorem captures_ofSchema_iff (h : settings.check = .ok settings) {name : Text} {schema : Schema} :
    Captures (Context.model (.ofSchema settings name schema)).text ↔
      className name = Text.ofString "JsonIgnoreProperties" ∨
        className name = Text.ofString "JsonProperty" ∨
          ∃ p ∈ schema.properties, className name ∈ typeNames p.2.type.javaType := by
  simp only [Captures, ModelContext.declaredClasses_text (isSpelt_ofSchema h name schema),
    List.mem_singleton, exists_eq_left]
  exact mem_references_ofSchema h

/-- **When a model class captures a name.** In a project that is generated with accepted settings,
the model classes are those of the schemas, in order. Each refers to types and annotations of the
libraries only, and its own name is one of them if and only if it is that of an annotation or of the
type of one of its properties. -/
theorem captures_iff (haccepted : settings.check = .ok settings) (hs : s.IsBundled)
    (h : (generate TemplateDirectory.bundled settings trace c).outcome s = .ok p) :
    List.Forall₂ (fun q f => declaredClasses f.content = [className q.1] ∧
        (∀ n ∈ references f.content, n ∈ libraryNames.map Text.ofString) ∧
        (Captures f.content ↔ className q.1 = Text.ofString "JsonIgnoreProperties" ∨
          className q.1 = Text.ofString "JsonProperty" ∨
            ∃ x ∈ q.2.properties, className q.1 ∈ typeNames x.2.type.javaType))
      c.objectSchemas (p.files.filter (ProjectFile.isBelow settings.modelPackage)) := by
  rw [(files_of_generate hs h).1, filter_isBelow_modelPackage, Contract.models, List.map_map,
    List.forall₂_map_right_iff, List.forall₂_same]
  exact fun q _ => ⟨ModelContext.declaredClasses_text (isSpelt_ofSchema haccepted q.1 q.2),
    fun n hn => mem_libraryNames_of_mem_references haccepted hn, captures_ofSchema_iff haccepted⟩

/-- A contract with one schema. -/
def schemaContract (name : Text) (schema : Schema) : Contract :=
  { listContract "Pets" ["/pets"] with schemas := [(name, schema)] }

theorem outcome_generate_schemaContract (name : Text) (schema : Schema) :
    (generate TemplateDirectory.bundled .default "t" (schemaContract name schema)).outcome .fresh =
      .ok ⟨(schemaContract name schema).projectName .default,
        ((schemaContract name schema).tasks .default).map Task.file⟩ := by
  have hclasses :
      (((schemaContract name schema).testClasses .default).map (·.className)).Nodup := by
    show (((listContract "Pets" ["/pets"]).testClasses .default).map (·.className)).Nodup
    decide +kernel
  have hschemas : ¬(schemaContract name schema).SchemasClash := by
    refine ((schemaContract name schema).nodup_models .default).1 ?_
    rw [Contract.models, Contract.objectSchemas]
    cases hobject : schema.isObject <;> simp [schemaContract, hobject]
  have htitle : ∀ x ∈ Text.ofString "Pets", Xml.isLegal x = true := by decide
  have hversion : ∀ x ∈ Text.ofString "1.0.0", Xml.isLegal x = true := by decide
  exact outcome_generate_of_clean "t" suits_default isBundled_fresh
    ((Contract.nodup_testClasses _ .default).1 hclasses) hschemas ⟨htitle, hversion⟩

/-- A schema with properties has one model class. -/
theorem filter_isBelow_schemaContract {name : Text} {schema : Schema} (h : schema.isObject = true) :
    (((schemaContract name schema).tasks .default).map Task.file).filter
        (ProjectFile.isBelow Settings.default.modelPackage) =
      [(ModelContext.ofSchema .default name schema).file] := by
  rw [filter_isBelow_modelPackage, Contract.models, Contract.objectSchemas]
  simp [schemaContract, h]

theorem captures_iff_petSchema :
    ∃ p f, (generate TemplateDirectory.bundled .default "t" (schemaContract "Pet" petSchema)
        ).outcome .fresh = .ok p ∧
      p.files.filter (ProjectFile.isBelow Settings.default.modelPackage) = [f] ∧
      declaredClasses f.content = [Text.ofString "Pet"] ∧ ¬Captures f.content := by
  have hmade := outcome_generate_schemaContract "Pet" petSchema
  have hforall := captures_iff suits_default.accepted isBundled_fresh hmade
  have hschemas : (schemaContract "Pet" petSchema).objectSchemas =
      [(Text.ofString "Pet", petSchema)] := rfl
  rw [hschemas] at hforall
  obtain ⟨f, _, ⟨hclass, hlibrary, -⟩, hrest, hfiles⟩ := List.forall₂_cons_left_iff.1 hforall
  obtain rfl := List.forall₂_nil_left_iff.1 hrest
  have hpet : className (Text.ofString "Pet") = Text.ofString "Pet" ∧
      Text.ofString "Pet" ∉ libraryNames.map Text.ofString := by
    decide +kernel
  rw [hpet.1] at hclass
  refine ⟨_, f, hmade, hfiles, hclass, fun ⟨n, hn, hrefers⟩ => hpet.2 ?_⟩
  rw [hclass, List.mem_singleton] at hn
  exact hn ▸ hlibrary n hrefers

/-- A schema that is called `list` and has a list among its properties. -/
def pageSchema : Schema := objectSchema "list" [("items", listSchema "items")]

/-- The class of this schema is `List`, which is also in the type of its field. -/
theorem captures_pageSchema :
    ∃ p f, (generate TemplateDirectory.bundled .default "t" (schemaContract "list" pageSchema)
        ).outcome .fresh = .ok p ∧
      p.files.filter (ProjectFile.isBelow Settings.default.modelPackage) = [f] ∧
      declaredClasses f.content = [Text.ofString "List"] ∧
      Text.ofString "List" ∈ references f.content ∧ Captures f.content := by
  have hspelt := isSpelt_ofSchema suits_default.accepted "list" pageSchema
  have hclass : declaredClasses (Context.model (.ofSchema .default "list" pageSchema)).text =
      [Text.ofString "List"] :=
    (ModelContext.declaredClasses_text hspelt).trans (by decide +kernel)
  have hlist : Text.ofString "List" ∈
      references (Context.model (.ofSchema .default "list" pageSchema)).text :=
    (mem_references_ofSchema suits_default.accepted).2
      (.inr (.inr ⟨_, List.mem_singleton_self _, (typeNames_javaType _).2.2 rfl⟩))
  have hcaptures : Captures (Context.model (.ofSchema .default "list" pageSchema)).text :=
    ⟨_, hclass ▸ List.mem_singleton_self _, hlist⟩
  exact ⟨_, _, outcome_generate_schemaContract _ _, filter_isBelow_schemaContract (by decide),
    hclass, hlist, hcaptures⟩

end Captured

end SuiteForge
