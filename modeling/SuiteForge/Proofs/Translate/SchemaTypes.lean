/-
# Kinds and types of schemas

Each kind goes with the types that schemas of it can mean:

| kind | types |
| --- | --- |
| `object` | `object` |
| `array` | `list` |
| `string` | `string` |
| `integer` | `integer`, `long` |
| `number` | `float`, `double` |
| `boolean` | `boolean` |

What is declared has a kind and a type that go together (`ofSchema_mem_types`). But a mapping that
declares a scalar type beside properties is torn: it is converted to an object, and keeps the type
that it declares (`Value.Torn`). These are the only schemas whose kind and type do not agree, at any
depth (`convertSchema_agrees_iff`).
-/

import SuiteForge.Proofs.Suite.Names
import SuiteForge.Proofs.Translate.SchemaWalk

namespace SuiteForge

/-- The types that schemas of a kind can mean. -/
def Kind.types : Kind → List ResolvedType
  | .object => [.object]
  | .array => [.list]
  | .string => [.string]
  | .integer => [.integer, .long]
  | .number => [.float, .double]
  | .boolean => [.boolean]

/-- The types that are neither those of objects nor those of arrays. -/
def ResolvedType.scalars : List ResolvedType :=
  [.string, .integer, .long, .float, .double, .boolean]

theorem mem_scalars_of_mem_types {kind : Kind} {type : ResolvedType} (object : kind ≠ .object)
    (array : kind ≠ .array) (h : type ∈ kind.types) : type ∈ ResolvedType.scalars := by
  have htypes : kind.types ⊆ ResolvedType.scalars := by
    cases kind with
    | object => exact absurd rfl object
    | array => exact absurd rfl array
    | _ => decide
  exact htypes h

theorem ofDeclared_mem_types (type format : Text) :
    ResolvedType.ofDeclared type format ∈ ((Kind.ofName? type).getD .object).types := by
  unfold ResolvedType.ofDeclared
  split
  · next h => subst h; split <;> decide
  split
  · next h => subst h; split <;> decide
  split
  · next h => subst h; decide
  split
  · next h => subst h; decide
  split
  · next h => subst h; decide
  next hinteger hnumber hstring hboolean harray =>
  -- No name is left but that of objects.
  cases hkind : Kind.ofName? type with
  | none => exact List.mem_singleton_self _
  | some kind =>
    have hname := List.find?_some hkind
    obtain rfl : kind.name = type := beq_iff_eq.1 hname
    cases kind with
    | object => exact List.mem_singleton_self _
    | array => exact absurd rfl harray
    | string => exact absurd rfl hstring
    | integer => exact absurd rfl hinteger
    | number => exact absurd rfl hnumber
    | boolean => exact absurd rfl hboolean

/-- **The kind and the type that are declared go together.** -/
theorem ofSchema_mem_types [Machine] {v : Value} {calls : Nat} {type : ResolvedType}
    (h : ResolvedType.ofSchema v calls = .ok type) : type ∈ (Kind.ofSchema v).types := by
  unfold ResolvedType.ofSchema at h
  unfold Kind.ofSchema
  cases hdeclared : declaredType? v with
  | none =>
    rw [hdeclared] at h
    obtain rfl := Except.ok.inj h
    exact List.mem_singleton_self _
  | some declared =>
    rw [hdeclared] at h
    obtain ⟨format, -, rfl⟩ := map_eq_ok.1 h
    exact ofDeclared_mem_types declared format

/-! ## Last pairs -/

namespace Assoc

variable {κ μ α β : Type}

theorem LastOf.cons {pairs : List (κ × α)} {e : κ × α} (h : LastOf pairs e) (first : κ × α) :
    LastOf (first :: pairs) e := by
  obtain ⟨before, after, rfl, hlast⟩ := h
  exact ⟨first :: before, after, rfl, hlast⟩

/-- The last pairs of two lists go together, if those do whose keys are alike. -/
theorem exists_lastOf_of_forall₂ {R : κ × α → μ × β → Prop} {xs : List (κ × α)} {ys : List (μ × β)}
    (h : List.Forall₂ R xs ys)
    (keys : ∀ {a a' b b'}, R a b → R a' b' → (a.1 = a'.1 ↔ b.1 = b'.1)) {a : κ × α}
    (last : LastOf xs a) : ∃ b, LastOf ys b ∧ R a b := by
  obtain ⟨before, after, rfl, hlast⟩ := last
  induction before generalizing ys with
  | nil =>
    obtain ⟨b, rest, hab, hrest, rfl⟩ := List.forall₂_cons_left_iff.1 h
    refine ⟨b, ⟨[], rest, rfl, fun hmem => hlast ?_⟩, hab⟩
    obtain ⟨b', hb', hkey⟩ := List.mem_map.1 hmem
    obtain ⟨a', ha', hab'⟩ := exists_left_of_forall₂ hrest hb'
    exact List.mem_map.2 ⟨a', ha', (keys hab' hab).2 hkey⟩
  | cons first before ih =>
    obtain ⟨b, rest, -, hrest, rfl⟩ := List.forall₂_cons_left_iff.1 h
    obtain ⟨b', hb', hab'⟩ := ih hrest
    exact ⟨b', hb'.cons b, hab'⟩

end Assoc

/-! ## Nodes -/

namespace Schema

/-- A schema directly inside another one. -/
inductive Part (s : Schema) : Schema → Prop
  | item {t : Schema} (eq : s.item = some t) : Part s t
  | property {p : Text × Schema} (mem : p ∈ s.properties) : Part s p.2

/-- A schema and those inside it, at every depth. -/
def Node : Schema → Schema → Prop := Relation.ReflTransGen Part

/-- The type of a schema is one that its kind goes with. -/
def Agrees (s : Schema) : Prop := s.type ∈ s.kind.types

/-- An object with properties that means a scalar. -/
def Torn (s : Schema) : Prop :=
  s.isObject = true ∧ s.type ∈ ResolvedType.scalars

theorem Torn.not_agrees {s : Schema} (h : s.Torn) : ¬ s.Agrees := by
  obtain ⟨hobject, htype⟩ := h
  rw [isObject, Bool.and_eq_true, beq_iff_eq] at hobject
  intro hagrees
  rw [Agrees, hobject.1, Kind.types, List.mem_singleton] at hagrees
  rw [hagrees] at htype
  exact absurd htype (by decide)

end Schema

namespace Value

/-- A schema that declares another type than `object`, and properties that are walked. -/
def Torn (v : Value) : Prop := v.WalksProperties ∧ Kind.ofSchema v ≠ .object

/-- The properties that a schema declares, under their keys as texts. -/
def shownProperties (v : Value) : List (Except Fault Text × Value) :=
  v.declaredProperties.map fun e => (keyText e.1, e.2)

end Value

/-- One step of the walk of a schema that its result keeps: of properties whose keys are one text,
only the last counts. -/
inductive KeptPart : Value → Value → Prop
  | item {v : Value} (array : Kind.ofSchema v = .array) :
      KeptPart v ((v.get? "items").getD (.scalar .null))
  | property {v : Value} {e : Except Fault Text × Value} (walks : v.WalksProperties)
      (last : Assoc.LastOf v.shownProperties e) : KeptPart v e.2

/-- The positions of a schema that its result keeps. -/
def KeptPosition : Value → Value → Prop := Relation.ReflTransGen KeptPart

theorem KeptPart.schemaPart {v w : Value} (h : KeptPart v w) : SchemaPart v w := by
  cases h with
  | item array => exact .item array
  | property walks last =>
    obtain ⟨before, after, heq, -⟩ := last
    obtain ⟨e, he, rfl⟩ := List.mem_map.1 (heq ▸ List.mem_append_right _ List.mem_cons_self :
      _ ∈ v.shownProperties)
    exact .property walks he

theorem declaredProperties_ne_nil {v : Value}
    (shape : ∀ p, v.get? "properties" = some p → p.isNull = true ∨ p.isMap = true)
    (truthy : (v.get? "properties").any Value.isTruthy = true) : v.declaredProperties ≠ [] := by
  obtain ⟨p, hp, htruthy⟩ := Option.any_eq_true _ _ |>.1 truthy
  rcases shape p hp with hnull | hmap
  · obtain rfl := Value.isNull_iff.1 hnull
    cases htruthy
  · obtain ⟨entries, rfl⟩ := Value.isMap_iff.1 hmap
    rw [Value.declaredProperties, hp]
    rintro rfl
    cases htruthy

/-! ## One level -/

section Machine

variable [Machine]

/-- A schema of a document has a result. -/
def Converts (v : Value) (s : Schema) : Prop :=
  ∃ levels calls name, convertWithin levels calls name v = .ok s

/-- A schema of a document and its result, as far as kinds and types go: they are torn together,
and the parts of the one that are kept are converted to those of the other. -/
structure Typed (v : Value) (s : Schema) : Prop where
  agrees : ¬ v.Torn → s.Agrees
  torn : v.Torn → s.Torn
  part : ∀ t, s.Part t → ∃ w, KeptPart v w ∧ Converts w t
  kept : ∀ w, KeptPart v w → ∃ t, s.Part t ∧ Converts w t

theorem typed_null (name : Text) :
    Typed (.scalar .null) ⟨name, .object, .object, [], none, []⟩ where
  agrees _ := List.mem_singleton_self _
  torn h := absurd rfl h.2
  part _ h := by
    cases h with
    | item eq => cases eq
    | property mem => cases mem
  kept _ h := absurd h.schemaPart not_schemaPart_null

section Mapping

variable {calls : Nat} {name description : Text} {entries : Entries Value} {type : ResolvedType}
  (type_eq : ResolvedType.ofSchema (.map entries) calls = .ok type)

include type_eq

theorem typed_array {item : Schema} (kind : Kind.ofSchema (.map entries) = .array)
    (h : Converts (((Value.map entries).get? "items").getD (.scalar .null)) item) :
    Typed (.map entries) ⟨name, .array, type, [], some item, description⟩ where
  agrees _ := kind ▸ ofSchema_mem_types type_eq
  torn h := absurd kind h.1.1
  part t part := by
    cases part with
    | item eq =>
      obtain rfl := Option.some.inj eq
      exact ⟨_, .item kind, h⟩
    | property mem => cases mem
  kept w part := by
    cases part with
    | item => exact ⟨item, .item rfl, h⟩
    | property walks => exact absurd kind walks.1

theorem typed_object {properties : List (Text × Schema)}
    (walks : (Value.map entries).WalksProperties)
    (shape : ∀ p, (Value.map entries).get? "properties" = some p →
      p.isNull = true ∨ p.isMap = true)
    (h : List.Forall₂ (fun e p => keyText e.1 = .ok p.1 ∧ Converts e.2 p.2)
      (Value.map entries).declaredProperties properties) :
    Typed (.map entries) ⟨name, .object, type, Assoc.ofPairs properties, none, description⟩ := by
  have hpairs : List.Forall₂ (fun e p => e.1 = .ok p.1 ∧ Converts e.2 p.2)
      (Value.map entries).shownProperties properties := List.forall₂_map_left_iff.2 h
  refine ⟨fun htorn => ?_, fun htorn => ⟨?_, ?_⟩, fun t part => ?_, fun w part => ?_⟩
  · have hkind : Kind.ofSchema (.map entries) = .object :=
      not_not.1 fun hkind => htorn ⟨walks, hkind⟩
    exact hkind ▸ ofSchema_mem_types type_eq
  · have hdeclared := declaredProperties_ne_nil shape (walks.2.resolve_left htorn.2)
    have hproperties : Assoc.ofPairs properties ≠ [] := fun hnil => by
      obtain rfl := (Assoc.foldl_insert_eq_nil.1 hnil).2
      exact hdeclared (List.forall₂_nil_right_iff.1 h)
    simp [Schema.isObject, hproperties]
  · exact mem_scalars_of_mem_types htorn.2 walks.1 (ofSchema_mem_types type_eq)
  · cases part with
    | item eq => cases eq
    | property mem =>
      obtain ⟨e, hlast, -, he⟩ := Assoc.exists_lastOf_of_forall₂ hpairs.flip
        (fun h h' => by rw [h.1, h'.1, Except.ok.injEq]) (Assoc.mem_ofPairs.1 mem)
      exact ⟨e.2, .property walks hlast, he⟩
  · cases part with
    | item array => exact absurd array walks.1
    | property _ last =>
      obtain ⟨p, hlast, -, hp⟩ := Assoc.exists_lastOf_of_forall₂ hpairs
        (fun h h' => by rw [h.1, h'.1, Except.ok.injEq]) last
      exact ⟨p.2, .property (Assoc.mem_ofPairs.2 hlast), hp⟩

theorem typed_leaf (kind : Kind.ofSchema (.map entries) ≠ .array)
    (walks : ¬ (Value.map entries).WalksProperties) :
    Typed (.map entries) ⟨name, Kind.ofSchema (.map entries), type, [], none, description⟩ where
  agrees _ := ofSchema_mem_types type_eq
  torn h := absurd h.1 walks
  part t part := by
    cases part with
    | item eq => cases eq
    | property mem => cases mem
  kept w part := by
    cases part with
    | item array => exact absurd array kind
    | property h => exact absurd h walks

end Mapping

theorem Converts.typed {v : Value} {s : Schema} (h : Converts v s) : Typed v s := by
  obtain ⟨levels, calls, name, h⟩ := h
  cases levels with
  | zero => cases (opening_eq_ok.1 h).2
  | succ levels =>
  cases v with
  | scalar x =>
    cases x with
    | null =>
      rw [convertWithin_null, opening_eq_ok] at h
      obtain rfl := Except.ok.inj h.2
      exact typed_null name
    | _ => cases (opening_eq_ok.1 h).2
  | map entries =>
    rw [convertWithin_map, opening_eq_ok, bind_eq_ok] at h
    obtain ⟨-, type, htype, h⟩ := h
    obtain ⟨description, -, h⟩ := bind_eq_ok.1 h
    split at h
    · next hkind =>
      obtain ⟨item, hitem, h⟩ := bind_eq_ok.1 h
      obtain rfl := Except.ok.inj h
      exact typed_array htype hkind ⟨levels, _, _, hitem⟩
    · next hkind =>
      split at h
      · next hproperties =>
        obtain ⟨declared, hdeclared, h⟩ := bind_eq_ok.1 h
        obtain ⟨converted, hconverted, h⟩ := bind_eq_ok.1 h
        obtain rfl := Except.ok.inj h
        have hshape :=
          (mappingOf_meets (P := fun _ => True) fun _ _ _ _ => trivial).gives _ hdeclared
        obtain rfl := declaredProperties_of_mappingOf hdeclared
        exact typed_object htype ⟨hkind, hproperties⟩ hshape.2
          ((convertProperties_eq_ok.1 hconverted).imp fun _ p h => ⟨h.1, levels, _, p.1, h.2⟩)
      · next hproperties =>
        obtain rfl := Except.ok.inj h
        exact typed_leaf htype hkind fun h => hproperties h.2
  | _ => cases (opening_eq_ok.1 h).2

/-! ## All levels -/

/-- Every node of a result comes from a position that is kept. -/
theorem Converts.exists_position {v : Value} {s t : Schema} (h : Converts v s) (node : s.Node t) :
    ∃ w, KeptPosition v w ∧ Converts w t := by
  induction node with
  | refl => exact ⟨v, .refl, h⟩
  | tail _ part ih =>
    obtain ⟨w, hw, hconverts⟩ := ih
    obtain ⟨x, hx, hinside⟩ := hconverts.typed.part _ part
    exact ⟨x, hw.tail hx, hinside⟩

/-- Every position that is kept has a node. -/
theorem Converts.exists_node {v w : Value} {s : Schema} (h : Converts v s)
    (position : KeptPosition v w) : ∃ t, s.Node t ∧ Converts w t := by
  induction position with
  | refl => exact ⟨s, .refl, h⟩
  | tail _ part ih =>
    obtain ⟨t, ht, hconverts⟩ := ih
    obtain ⟨u, hu, hinside⟩ := hconverts.typed.kept _ part
    exact ⟨u, ht.tail hu, hinside⟩

/-! ## Fields -/

omit [Machine] in
theorem javaType_eq_object_iff {s : Schema} (object : s.isObject = true) :
    s.type.javaType = Text.ofString "Object" ↔ s.Agrees := by
  rw [Schema.isObject, Bool.and_eq_true, beq_iff_eq] at object
  have htype : ∀ t : ResolvedType, t.javaType = Text.ofString "Object" ↔ t ∈ [.object] := by
    intro t
    cases t <;> decide
  rw [htype, Schema.Agrees, object.1, Kind.types]

/-- **Kind and type agree but for torn schemas.** Each node of a schema that is converted has a type
that its kind goes with, or it is an object with properties that means a scalar. All nodes have such
types if and only if no position that is kept declares a scalar type beside properties. And of the
fields of a model class, one whose property is an object with properties is declared as an `Object`
if and only if the kind and the type of that property agree. -/
theorem convertSchema_agrees_iff {name : Text} {schema : Value} {depth : Int} {calls : Nat}
    {s : Schema} (h : convertSchema name schema depth calls = .ok s) :
    (∀ t, s.Node t → t.Agrees ∨ t.Torn) ∧
    ((∀ t, s.Node t → t.Agrees) ↔ ∀ w, KeptPosition schema w → ¬ w.Torn) ∧
    ∀ t, s.Node t → List.Forall₂ (fun f p => f.name = p.1 ∧
      (p.2.isObject = true → (f.type = Text.ofString "Object" ↔ p.2.Agrees)))
      (modelFields t.properties) t.properties := by
  have hconverts : Converts schema s := ⟨_, calls, name, h⟩
  refine ⟨fun t node => ?_, ⟨fun hagrees w position htorn => ?_, fun htorn t node => ?_⟩,
    fun t _ => ?_⟩
  · obtain ⟨w, -, hw⟩ := hconverts.exists_position node
    by_cases htorn : w.Torn
    · exact .inr (hw.typed.torn htorn)
    · exact .inl (hw.typed.agrees htorn)
  · obtain ⟨t, node, ht⟩ := hconverts.exists_node position
    exact (ht.typed.torn htorn).not_agrees (hagrees t node)
  · obtain ⟨w, position, hw⟩ := hconverts.exists_position node
    exact hw.typed.agrees (htorn w position)
  · refine (forall₂_modelFields t.properties).imp fun f p ⟨hname, htype, _⟩ =>
      ⟨hname, fun hobject => ?_⟩
    rw [htype]
    exact javaType_eq_object_iff hobject

end Machine

/-- An array of integers of 64 bits. -/
def longsSchema : Value := .map [
  (.text "type", .scalar (.text "array")),
  (.text "items", .map [
    (.text "type", .scalar (.text "integer")),
    (.text "format", .scalar (.text "int64"))])]

theorem convertSchema_agrees_longsSchema :
    ∃ s, convertSchema "Ids" longsSchema 0 = .ok s ∧ ∀ t, s.Node t → t.Agrees := by
  have hconverts : convertSchema "Ids" longsSchema 0 = .ok ⟨"Ids", .array, .list, [],
      some ⟨"IdsItem", .integer, .long, [], none, []⟩, []⟩ := by rfl
  have hkind : Kind.ofSchema longsSchema = .array := by decide
  have hitem : Kind.ofSchema ((longsSchema.get? "items").getD (.scalar .null)) = .integer := by
    decide
  have hleaf : ¬ ((longsSchema.get? "items").getD (.scalar .null)).WalksProperties := by
    rintro ⟨-, h | h⟩
    · cases hitem.symm.trans h
    · exact absurd h (by decide)
  refine ⟨_, hconverts, (convertSchema_agrees_iff hconverts).2.1.2 fun w position htorn => ?_⟩
  rcases position.cases_head with rfl | ⟨x, part, position⟩
  · exact htorn.1.1 hkind
  · cases part with
    | property walks => exact walks.1 hkind
    | item =>
      rcases position.cases_head with rfl | ⟨y, part, -⟩
      · exact hleaf htorn.1
      · cases part with
        | item array => cases hitem.symm.trans array
        | property walks => exact hleaf walks

/-- A text that declares a property. -/
def tornSchema : Value := .map [
  (.text "type", .scalar (.text "string")),
  (.text "properties", .map [(.text "a", .map [(.text "type", .scalar (.text "string"))])])]

/-- **Not every schema that is converted has a kind and a type that agree.** -/
theorem convertSchema_tornSchema :
    convertSchema "A" tornSchema 0 = .ok ⟨"A", .object, .string,
      [("a", ⟨"a", .string, .string, [], none, []⟩)], none, []⟩ ∧
    ¬ ∀ name schema depth s, convertSchema name schema depth = .ok s →
      ∀ t, s.Node t → t.Agrees := by
  have hconverts : convertSchema "A" tornSchema 0 = .ok ⟨"A", .object, .string,
      [("a", ⟨"a", .string, .string, [], none, []⟩)], none, []⟩ := by rfl
  refine ⟨hconverts, fun h => ?_⟩
  have hagrees := h "A" tornSchema 0 _ hconverts _ .refl
  exact absurd hagrees (by decide +kernel : ResolvedType.string ∉ Kind.object.types)

end SuiteForge
