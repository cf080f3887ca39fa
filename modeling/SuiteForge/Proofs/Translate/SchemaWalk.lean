/-
# The walk of a schema

Converting a schema looks at the schema and then, one level deeper each time, at the item of an
array and at the properties of whatever else is an object or declares properties (`SchemaPart`).
There is a result just when no position of this walk is too deep, all of them are well shaped, the
texts that are read at them are written, and there are calls enough to get to them; the result then
mirrors the schema, position by position (`convertSchema_spec`). Each level of the walk takes one
call, so that there is less room for a text the further down it is read.

| position | its mirror |
| --- | --- |
| null | an object without properties |
| array | an array of its mirrored item, called `<name>Item`; a missing item is null |
| other walked mapping | an object of its mirrored properties, under their keys as texts, in order |
| any other mapping | a leaf of its kind |
-/

import SuiteForge.Proofs.Tables
import SuiteForge.Proofs.Translate.Texts

namespace SuiteForge

/-! ## One level -/

/-- A schema that is made by its kind keeps its rules. -/
theorem valid_check_eq_ok {s : Schema} (hitem : s.item.isSome = (s.kind == .array))
    (hproperties : s.properties = [] ∨ s.kind = .object) : valid s.check = .ok s := by
  have hempty : (s.properties.isEmpty || s.kind == .object) = true := by
    rcases hproperties with h | h <;> simp [h]
  simp [Schema.check, Schema.rules, Checked.rules, hitem, hempty, valid, Except.mapError]

section Opening

variable [Machine] {α : Type} {calls : Nat} {x : Except Fault α}

theorem opening_eq_ok {a : α} : opening calls x = .ok a ↔ calls < Machine.calls ∧ x = .ok a := by
  unfold opening
  split
  · next h => simp [h]
  · next h => simp [h]

theorem opening_meets {P : Fault → Prop} {Q : α → Prop}
    (closed : ¬ calls < Machine.calls → P (.recursion .schema))
    (h : calls < Machine.calls → Meets P Q x) : Meets P Q (opening calls x) := by
  unfold opening
  split
  · next hopen => exact h hopen
  · next hclosed => exact meets_error (closed hclosed)

end Opening

section Machine

variable [Machine]

theorem convertWithin_null (levels calls : Nat) (name : Text) :
    convertWithin (levels + 1) calls name (.scalar .null) =
      opening calls (.ok ⟨name, .object, .object, [], none, []⟩) := by
  rw [convertWithin, valid_check_eq_ok rfl (.inl rfl)]

/-- The schema of a mapping, whose rules are kept in each of the three cases. -/
theorem convertWithin_map (levels calls : Nat) (name : Text) (entries : Entries Value) :
    convertWithin (levels + 1) calls name (.map entries) = opening calls (do
      let type ← ResolvedType.ofSchema (.map entries) (calls + 1)
      let description ← textOf ((Value.map entries).get? "description") (calls + 1)
      if Kind.ofSchema (.map entries) = .array then do
        let item ← convertWithin levels (calls + 1) (name ++ Text.ofString "Item")
          (((Value.map entries).get? "items").getD (.scalar .null))
        .ok ⟨name, .array, type, [], some item, description⟩
      else if Kind.ofSchema (.map entries) = .object ∨
          ((Value.map entries).get? "properties").any Value.isTruthy then do
        let declared ← mappingOf (.properties name) ((Value.map entries).get? "properties")
        let converted ← convertProperties (convertWithin levels (calls + 1)) declared
        .ok ⟨name, .object, type, Assoc.ofPairs converted, none, description⟩
      else .ok ⟨name, Kind.ofSchema (.map entries), type, [], none, description⟩) := by
  rw [convertWithin]
  refine congrArg _ (bind_congr fun type => bind_congr fun description => ?_)
  split
  · next hkind =>
    refine bind_congr fun item => ?_
    rw [hkind]
    exact valid_check_eq_ok rfl (.inl rfl)
  · next hkind =>
    dsimp only
    split
    · exact bind_congr fun _ => bind_congr fun _ => valid_check_eq_ok rfl (.inr rfl)
    · exact valid_check_eq_ok (by simp [hkind]) (.inl rfl)

end Machine

/-- Converting properties has a schema for each of them, under its key as a text. -/
theorem convertProperties_eq_ok {convert : Text → Value → Except Fault Schema}
    {entries : Entries Value} {ps : List (Text × Schema)} :
    convertProperties convert entries = .ok ps ↔
      List.Forall₂ (fun e p => keyText e.1 = .ok p.1 ∧ convert p.1 e.2 = .ok p.2) entries ps := by
  induction entries generalizing ps with
  | nil => simp [convertProperties, eq_comm]
  | cons e rest ih =>
    obtain ⟨key, v⟩ := e
    simp only [convertProperties, bind_eq_ok, ih, List.forall₂_cons_left_iff]
    constructor
    · rintro ⟨name, hname, s, hs, more, hmore, heq⟩
      exact ⟨(name, s), more, ⟨hname, hs⟩, hmore, (Except.ok.inj heq).symm⟩
    · rintro ⟨⟨name, s⟩, more, ⟨hname, hs⟩, hmore, rfl⟩
      exact ⟨name, hname, s, hs, more, hmore, rfl⟩

theorem convertProperties_meets {P : Fault → Prop} {Q : Text → Value → Schema → Prop}
    {convert : Text → Value → Except Fault Schema} {entries : Entries Value}
    (hkeys : ∀ e ∈ entries, e.1.Large → P (.stray (.numeral .tooLarge)))
    (hconvert : ∀ e ∈ entries, ∀ name, Meets P (Q name e.2) (convert name e.2)) :
    Meets P (fun ps => List.Forall₂ (fun e p => (keyText e.1 = .ok p.1 ∧ ¬ e.1.Large) ∧
        Q p.1 e.2 p.2) entries ps)
      (convertProperties convert entries) := by
  induction entries with
  | nil => exact meets_ok .nil
  | cons e rest ih =>
    obtain ⟨key, v⟩ := e
    obtain ⟨hkey, hkeys⟩ := List.forall_mem_cons.1 hkeys
    obtain ⟨hv, hconvert⟩ := List.forall_mem_cons.1 hconvert
    refine (keyText_meets hkey).bind fun name hname => (hv name).bind fun s hs => ?_
    exact (ih hkeys hconvert).bind fun more hmore => meets_ok (.cons ⟨hname, hs⟩ hmore)

/-! ## The walk -/

namespace Value

/-- The properties that a schema declares. -/
def declaredProperties (v : Value) : Entries Value :=
  match v.get? "properties" with
  | some (.map entries) => entries
  | _ => []

/-- The properties of a schema are walked: it is no array, and it is an object or declares
properties. -/
def WalksProperties (v : Value) : Prop :=
  Kind.ofSchema v ≠ .array ∧
    (Kind.ofSchema v = .object ∨ (v.get? "properties").any isTruthy = true)

end Value

/-- One step of the walk of a schema. -/
inductive SchemaPart : Value → Value → Prop
  | item {v : Value} (array : Kind.ofSchema v = .array) :
      SchemaPart v ((v.get? "items").getD (.scalar .null))
  | property {v : Value} {e : Scalar × Value} (walks : v.WalksProperties)
      (mem : e ∈ v.declaredProperties) : SchemaPart v e.2

/-- The positions of the walk of a schema, each with how many levels below the schema it is. -/
inductive SchemaPosition (root : Value) : Nat → Value → Prop
  | root : SchemaPosition root 0 root
  | part {k : Nat} {v w : Value} (above : SchemaPosition root k v) (part : SchemaPart v w) :
      SchemaPosition root (k + 1) w

theorem SchemaPosition.of_part {v w x : Value} {k : Nat} (part : SchemaPart v w)
    (h : SchemaPosition w k x) : SchemaPosition v (k + 1) x := by
  induction h with
  | root => exact .part .root part
  | part _ next ih => exact .part ih next

theorem SchemaPosition.cases_part {v x : Value} {k : Nat} (h : SchemaPosition v k x) :
    (k = 0 ∧ x = v) ∨ ∃ j w, k = j + 1 ∧ SchemaPart v w ∧ SchemaPosition w j x := by
  induction h with
  | root => exact .inl ⟨rfl, rfl⟩
  | part _ next ih =>
    rcases ih with ⟨rfl, rfl⟩ | ⟨j, w, rfl, part, inside⟩
    · exact .inr ⟨0, _, rfl, next, .root⟩
    · exact .inr ⟨j + 1, w, rfl, part, .part inside next⟩

/-- What holds at all positions holds at the schema, and at all positions of its parts. -/
theorem forall_position_iff {v : Value} {P : Nat → Value → Prop} :
    (∀ k x, SchemaPosition v k x → P k x) ↔
      P 0 v ∧ ∀ w, SchemaPart v w → ∀ k x, SchemaPosition w k x → P (k + 1) x := by
  constructor
  · exact fun h => ⟨h 0 v .root, fun w part k x hx => h (k + 1) x (hx.of_part part)⟩
  · rintro ⟨here, inside⟩ k x hx
    rcases hx.cases_part with ⟨rfl, rfl⟩ | ⟨j, w, rfl, part, hx⟩
    · exact here
    · exact inside w part j x hx

/-- A position is null or a mapping, and so are the properties that are walked from it. -/
structure WellShaped (v : Value) : Prop where
  here : v.isNull = true ∨ v.isMap = true
  properties : v.WalksProperties → ∀ p, v.get? "properties" = some p →
    p.isNull = true ∨ p.isMap = true

/-- The keys of the properties that are walked from a position are different texts. -/
def KeysDiffer (v : Value) : Prop :=
  v.WalksProperties → (v.declaredProperties.map fun e => keyText e.1).Nodup

/-- The keys of walked properties are different texts, at every position of the walk. -/
def KeysDifferThroughout (v : Value) : Prop := ∀ k x, SchemaPosition v k x → KeysDiffer x

theorem keysDifferThroughout_iff {v : Value} :
    KeysDifferThroughout v ↔ KeysDiffer v ∧ ∀ w, SchemaPart v w → KeysDifferThroughout w :=
  forall_position_iff (P := fun _ => KeysDiffer)

/-- Every position of the walk is above a level, and well-shaped. -/
def WellShapedWithin (levels : Nat) (v : Value) : Prop :=
  ∀ k x, SchemaPosition v k x → k < levels ∧ WellShaped x

theorem wellShapedWithin_succ {levels : Nat} {v : Value} :
    WellShapedWithin (levels + 1) v ↔
      WellShaped v ∧ ∀ w, SchemaPart v w → WellShapedWithin levels w := by
  unfold WellShapedWithin
  rw [forall_position_iff]
  simp

section Machine

variable [Machine]

/-- Reading the texts of a position has this fault, if so many calls are open before it. -/
inductive ReadFault (calls : Nat) (v : Value) : Fault → Prop
  | description {d : Value} {f : Fault} (entry : v.get? "description" = some d)
      (untold : d.Untold (Machine.room (calls + 2)) f) : ReadFault calls v f
  | format {f : Fault} (fault : FormatFault (calls + 1) v f) : ReadFault calls v f
  | key {e : Scalar × Value} (walks : v.WalksProperties) (mem : e ∈ v.declaredProperties)
      (large : e.1.Large) : ReadFault calls v (.stray (.numeral .tooLarge))

/-- Reading the texts on the walk, above a level, has this fault. -/
def WalkFault (levels calls : Nat) (v : Value) (f : Fault) : Prop :=
  ∃ k x, SchemaPosition v k x ∧ k < levels ∧ ReadFault (calls + k) x f

/-- The texts that are read on the walk, above a level, are written. -/
def WrittenWithin (levels calls : Nat) (v : Value) : Prop := ∀ f, ¬ WalkFault levels calls v f

/-- There are calls enough for the walk down to a level. -/
def OpensWithin (levels calls : Nat) (v : Value) : Prop :=
  ∀ k x, SchemaPosition v k x → k ≤ levels → calls + k < Machine.calls

theorem walkFault_succ {levels calls : Nat} {v : Value} {f : Fault} :
    WalkFault (levels + 1) calls v f ↔
      ReadFault calls v f ∨ ∃ w, SchemaPart v w ∧ WalkFault levels (calls + 1) w f := by
  constructor
  · rintro ⟨k, x, position, hk, hread⟩
    rcases position.cases_part with ⟨rfl, rfl⟩ | ⟨j, w, rfl, part, position⟩
    · exact .inl hread
    · refine .inr ⟨w, part, j, x, position, Nat.lt_of_succ_lt_succ hk, ?_⟩
      rwa [Nat.add_right_comm]
  · rintro (hread | ⟨w, part, k, x, position, hk, hread⟩)
    · exact ⟨0, v, .root, Nat.succ_pos levels, hread⟩
    · refine ⟨k + 1, x, position.of_part part, Nat.succ_lt_succ hk, ?_⟩
      rwa [Nat.add_right_comm] at hread

theorem writtenWithin_succ {levels calls : Nat} {v : Value} :
    WrittenWithin (levels + 1) calls v ↔ (∀ f, ¬ ReadFault calls v f) ∧
      ∀ w, SchemaPart v w → WrittenWithin levels (calls + 1) w := by
  simp only [WrittenWithin, walkFault_succ, not_or, not_exists, not_and, forall_and]
  exact and_congr_right fun _ => ⟨fun h w part f => h f w part, fun h f w part => h w part f⟩

theorem opensWithin_succ {levels calls : Nat} {v : Value} :
    OpensWithin (levels + 1) calls v ↔
      calls < Machine.calls ∧ ∀ w, SchemaPart v w → OpensWithin levels (calls + 1) w := by
  unfold OpensWithin
  rw [forall_position_iff]
  simp [Nat.add_assoc, Nat.add_comm 1]

/-- A schema of a document and what it is converted to, if so many calls are open before. -/
inductive Mirrors : Nat → Text → Value → Schema → Prop
  | null {calls : Nat} {name : Text} :
      Mirrors calls name (.scalar .null) ⟨name, .object, .object, [], none, []⟩
  | array {calls : Nat} {name description : Text} {entries : Entries Value} {type : ResolvedType}
      {item : Schema} (kind : Kind.ofSchema (.map entries) = .array)
      (type_eq : ResolvedType.ofSchema (.map entries) (calls + 1) = .ok type)
      (description_eq :
        textOf ((Value.map entries).get? "description") (calls + 1) = .ok description)
      (mirrored : Mirrors (calls + 1) (name ++ Text.ofString "Item")
        (((Value.map entries).get? "items").getD (.scalar .null)) item) :
      Mirrors calls name (.map entries) ⟨name, .array, type, [], some item, description⟩
  | object {calls : Nat} {name description : Text} {entries : Entries Value} {type : ResolvedType}
      {properties : List (Text × Schema)} (walks : (Value.map entries).WalksProperties)
      (type_eq : ResolvedType.ofSchema (.map entries) (calls + 1) = .ok type)
      (description_eq :
        textOf ((Value.map entries).get? "description") (calls + 1) = .ok description)
      (keys : List.Forall₂ (fun e p => keyText e.1 = .ok p.1)
        (Value.map entries).declaredProperties properties)
      (mirrored : ∀ e p, (e, p) ∈ (Value.map entries).declaredProperties.zip properties →
        Mirrors (calls + 1) p.1 e.2 p.2) :
      Mirrors calls name (.map entries) ⟨name, .object, type, properties, none, description⟩
  | leaf {calls : Nat} {name description : Text} {entries : Entries Value} {type : ResolvedType}
      (kind : Kind.ofSchema (.map entries) ≠ .array)
      (walks : ¬ (Value.map entries).WalksProperties)
      (type_eq : ResolvedType.ofSchema (.map entries) (calls + 1) = .ok type)
      (description_eq :
        textOf ((Value.map entries).get? "description") (calls + 1) = .ok description) :
      Mirrors calls name (.map entries)
        ⟨name, Kind.ofSchema (.map entries), type, [], none, description⟩

/-! ## Converting is mirroring -/

/-- The faults of converting a schema: those of its shape, those of a text that is not written, and
the one of a walk that goes deeper than there are calls. -/
inductive SchemaFault (misshapen : Prop) (untold : Fault → Prop) (unopened : Prop) : Fault → Prop
  | tooDeep (h : misshapen) (name : Text) :
      SchemaFault misshapen untold unopened (.parse (.schemaTooDeep name))
  | notMapping (h : misshapen) (name kind : Text) :
      SchemaFault misshapen untold unopened (.parse (.schemaNotMapping name kind))
  | properties (h : misshapen) (name kind : Text) :
      SchemaFault misshapen untold unopened (.parse (.expectedMapping (.properties name) kind))
  | number (h : untold (.stray (.numeral .tooLarge))) :
      SchemaFault misshapen untold unopened (.stray (.numeral .tooLarge))
  | depth (h : untold (.recursion .value)) :
      SchemaFault misshapen untold unopened (.recursion .value)
  | unopened (h : unopened) : SchemaFault misshapen untold unopened (.recursion .schema)

section SchemaFault

variable {m m' o o' : Prop} {u u' : Fault → Prop} {f : Fault}

omit [Machine] in
theorem SchemaFault.imp (hm : m → m') (hu : ∀ f, u f → u' f) (ho : o → o')
    (h : SchemaFault m u o f) : SchemaFault m' u' o' f := by
  cases h with
  | tooDeep h name => exact .tooDeep (hm h) name
  | notMapping h name kind => exact .notMapping (hm h) name kind
  | properties h name kind => exact .properties (hm h) name kind
  | number h => exact .number (hu _ h)
  | depth h => exact .depth (hu _ h)
  | unopened h => exact .unopened (ho h)

theorem SchemaFault.of_read {calls : Nat} {v : Value} (read : ReadFault calls v f) (h : u f) :
    SchemaFault m u o f := by
  have htext : ∀ {room : Nat} {w : Value}, w.Untold room f → SchemaFault m u o f := by
    rintro room w (_ | _)
    · exact .number h
    · exact .depth h
  cases read with
  | description _ untold => exact htext untold
  | format fault => exact htext (untold_of_formatFault fault)
  | key _ _ _ => exact .number h

end SchemaFault

/-- What is known of a schema that is converted. -/
structure Converted (levels calls : Nat) (name : Text) (v : Value) (s : Schema) : Prop where
  shaped : WellShapedWithin levels v
  written : WrittenWithin levels calls v
  opens : OpensWithin levels calls v
  mirrors : KeysDifferThroughout v → Mirrors calls name v s

omit [Machine] in
theorem not_schemaPart_null {w : Value} : ¬ SchemaPart (.scalar .null) w := by
  intro h
  cases h with
  | item array => cases array
  | property _ mem => cases mem

theorem not_readFault_null {calls : Nat} {f : Fault} : ¬ ReadFault calls (.scalar .null) f := by
  rintro (⟨entry, -⟩ | ⟨⟨-, _, entry, -⟩⟩ | ⟨-, mem, -⟩)
  · cases entry
  · cases entry
  · cases mem

theorem converted_null (levels : Nat) {calls : Nat} (opens : calls < Machine.calls) (name : Text) :
    Converted (levels + 1) calls name (.scalar .null) ⟨name, .object, .object, [], none, []⟩ where
  shaped := wellShapedWithin_succ.2
    ⟨⟨.inl rfl, fun _ _ h => by cases h⟩, fun _ part => absurd part not_schemaPart_null⟩
  written := writtenWithin_succ.2
    ⟨fun _ => not_readFault_null, fun _ part => absurd part not_schemaPart_null⟩
  opens := opensWithin_succ.2 ⟨opens, fun _ part => absurd part not_schemaPart_null⟩
  mirrors _ := .null

omit [Machine] in
theorem declaredProperties_of_mappingOf {place : Section} {v : Value} {entries : Entries Value}
    (h : mappingOf place (v.get? "properties") = .ok entries) :
    entries = v.declaredProperties := by
  unfold Value.declaredProperties
  cases hp : v.get? "properties" with
  | none =>
    rw [hp] at h
    exact (Except.ok.inj h).symm
  | some p =>
    rw [hp] at h
    rcases mappingOf_eq_ok h with ⟨rfl, rfl⟩ | rfl <;> rfl

section Mapping

/- What is read of a mapping on every way to its schema. -/
variable {levels calls : Nat} {name description : Text} {entries : Entries Value}
  {type : ResolvedType} (opens : calls < Machine.calls)
  (type_eq : ResolvedType.ofSchema (.map entries) (calls + 1) = .ok type)
  (description_eq : textOf ((Value.map entries).get? "description") (calls + 1) = .ok description)
  (here : ∀ f, ¬ ReadFault calls (.map entries) f)

include opens type_eq description_eq here

theorem converted_array {item : Schema} (kind : Kind.ofSchema (.map entries) = .array)
    (inside : Converted levels (calls + 1) (name ++ Text.ofString "Item")
      (((Value.map entries).get? "items").getD (.scalar .null)) item) :
    Converted (levels + 1) calls name (.map entries)
      ⟨name, .array, type, [], some item, description⟩ := by
  have hwalks : ¬ (Value.map entries).WalksProperties := fun h => h.1 kind
  have honly : ∀ w, SchemaPart (.map entries) w →
      w = ((Value.map entries).get? "items").getD (.scalar .null) := by
    intro w part
    cases part with
    | item => rfl
    | property walks => exact absurd walks hwalks
  refine ⟨wellShapedWithin_succ.2 ⟨⟨.inr rfl, fun h => absurd h hwalks⟩, fun w part => ?_⟩,
    writtenWithin_succ.2 ⟨here, fun w part => ?_⟩,
    opensWithin_succ.2 ⟨opens, fun w part => ?_⟩, fun keys => ?_⟩
  · exact honly w part ▸ inside.shaped
  · exact honly w part ▸ inside.written
  · exact honly w part ▸ inside.opens
  · exact .array kind type_eq description_eq
      (inside.mirrors ((keysDifferThroughout_iff.1 keys).2 _ (.item kind)))

theorem converted_object {properties : List (Text × Schema)}
    (walks : (Value.map entries).WalksProperties)
    (shape : ∀ p, (Value.map entries).get? "properties" = some p →
      p.isNull = true ∨ p.isMap = true)
    (inside : List.Forall₂ (fun e p => keyText e.1 = .ok p.1 ∧
      Converted levels (calls + 1) p.1 e.2 p.2) (Value.map entries).declaredProperties properties) :
    Converted (levels + 1) calls name (.map entries)
      ⟨name, .object, type, Assoc.ofPairs properties, none, description⟩ := by
  have hpart : ∀ w, SchemaPart (.map entries) w →
      ∃ name s, Converted levels (calls + 1) name w s := by
    intro w part
    cases part with
    | item array => exact absurd array walks.1
    | property _ mem =>
      obtain ⟨p, -, -, hp⟩ := exists_right_of_forall₂ inside mem
      exact ⟨p.1, p.2, hp⟩
  refine ⟨wellShapedWithin_succ.2 ⟨⟨.inr rfl, fun _ => shape⟩, fun w part => ?_⟩,
    writtenWithin_succ.2 ⟨here, fun w part => ?_⟩,
    opensWithin_succ.2 ⟨opens, fun w part => ?_⟩, fun keys => ?_⟩
  · obtain ⟨_, _, h⟩ := hpart w part
    exact h.shaped
  · obtain ⟨_, _, h⟩ := hpart w part
    exact h.written
  · obtain ⟨_, _, h⟩ := hpart w part
    exact h.opens
  · obtain ⟨hhere, hinside⟩ := keysDifferThroughout_iff.1 keys
    have hkeys := inside.imp fun _ _ h => h.1
    rw [Assoc.ofPairs_of_nodup (nodup_map_of_forall₂ hkeys (hhere walks))]
    refine .object walks type_eq description_eq hkeys fun e p hmem => ?_
    exact (List.forall₂_zip inside hmem).2.mirrors
      (hinside _ (.property walks (List.of_mem_zip hmem).1))

theorem converted_leaf (kind : Kind.ofSchema (.map entries) ≠ .array)
    (walks : ¬ (Value.map entries).WalksProperties) :
    Converted (levels + 1) calls name (.map entries)
      ⟨name, Kind.ofSchema (.map entries), type, [], none, description⟩ := by
  have hnone : ∀ w, ¬ SchemaPart (.map entries) w := by
    intro w part
    cases part with
    | item array => exact kind array
    | property h => exact walks h
  exact ⟨wellShapedWithin_succ.2 ⟨⟨.inr rfl, fun h => absurd h walks⟩,
      fun w part => absurd part (hnone w)⟩,
    writtenWithin_succ.2 ⟨here, fun w part => absurd part (hnone w)⟩,
    opensWithin_succ.2 ⟨opens, fun w part => absurd part (hnone w)⟩,
    fun _ => .leaf kind walks type_eq description_eq⟩

end Mapping

/-- **A schema that is converted is well-shaped and written, and is mirrored;** one that is not
converted has a fault in its shape, a text that is not written, or more levels than there are
calls. -/
theorem convertWithin_meets (levels calls : Nat) (name : Text) (v : Value) :
    Meets (SchemaFault (¬ WellShapedWithin levels v) (WalkFault levels calls v)
        (¬ OpensWithin levels calls v))
      (Converted levels calls name v) (convertWithin levels calls name v) := by
  induction levels generalizing calls name v with
  | zero =>
    refine opening_meets (fun closed => .unopened fun h => closed (h 0 v .root (Nat.le_refl 0)))
      fun _ => ?_
    exact meets_error (.tooDeep (fun h => absurd (h 0 v .root).1 (Nat.lt_irrefl 0)) name)
  | succ levels ih =>
    have closed : ∀ {m : Prop} {u : Fault → Prop}, ¬ calls < Machine.calls →
        SchemaFault m u (¬ OpensWithin (levels + 1) calls v) (.recursion .schema) :=
      fun closed => .unopened fun h => closed (opensWithin_succ.1 h).1
    have hshape : ∀ {w : Value}, w.isNull = false → w.isMap = false →
        ¬ WellShapedWithin (levels + 1) w := fun hnull hmap h => by
      rcases (wellShapedWithin_succ.1 h).1.here with h | h
      · cases hnull.symm.trans h
      · cases hmap.symm.trans h
    cases v with
    | scalar s =>
      cases s with
      | null =>
        rw [convertWithin_null]
        exact opening_meets closed fun opens => meets_ok (converted_null levels opens name)
      | _ => exact opening_meets closed fun _ => meets_error (.notMapping (hshape rfl rfl) name _)
    | map entries =>
      have hread : ∀ {f : Fault}, ReadFault calls (.map entries) f →
          SchemaFault (¬ WellShapedWithin (levels + 1) (.map entries))
            (WalkFault (levels + 1) calls (.map entries))
            (¬ OpensWithin (levels + 1) calls (.map entries)) f :=
        fun h => .of_read h (walkFault_succ.2 (.inl h))
      -- A fault inside a part is one of the whole.
      have hpart : ∀ {w : Value}, SchemaPart (.map entries) w → ∀ f,
          SchemaFault (¬ WellShapedWithin levels w) (WalkFault levels (calls + 1) w)
            (¬ OpensWithin levels (calls + 1) w) f →
          SchemaFault (¬ WellShapedWithin (levels + 1) (.map entries))
            (WalkFault (levels + 1) calls (.map entries))
            (¬ OpensWithin (levels + 1) calls (.map entries)) f :=
        fun part _ => .imp (mt fun h => (wellShapedWithin_succ.1 h).2 _ part)
          (fun _ h => walkFault_succ.2 (.inr ⟨_, part, h⟩))
          (mt fun h => (opensWithin_succ.1 h).2 _ part)
      rw [convertWithin_map]
      refine opening_meets closed fun opens => ?_
      refine (ofSchema_meets fun f hf => hread (.format hf)).bind fun type ⟨htype, hformat⟩ => ?_
      refine (textOf_meets fun d hd f hf => hread (.description hd hf)).bind
        fun description ⟨hdescription, hwritten⟩ => ?_
      -- Whatever the way to the schema, what is left to read here are the keys of properties.
      have hhere : ((Value.map entries).WalksProperties →
          ∀ e ∈ (Value.map entries).declaredProperties, ¬ e.1.Large) →
          ∀ f, ¬ ReadFault calls (.map entries) f := by
        rintro hkeys f (⟨entry, untold⟩ | ⟨fault⟩ | ⟨walks, mem, large⟩)
        · exact hwritten _ entry ⟨f, untold⟩
        · exact hformat f fault
        · exact hkeys walks _ mem large
      split
      · next hkind =>
        refine ((ih _ _ _).mono (hpart (.item hkind)) fun _ => id).bind fun item hitem => ?_
        exact meets_ok (converted_array opens htype hdescription
          (hhere fun h => absurd hkind h.1) hkind hitem)
      · next hkind =>
        split
        · next hproperties =>
          have hwalks : (Value.map entries).WalksProperties := ⟨hkind, hproperties⟩
          refine (mappingOf_meets fun p hp hnull hmap => .properties (fun hall =>
            ((wellShapedWithin_succ.1 hall).1.properties hwalks p hp).elim (by simp [hnull])
              (by simp [hmap])) name _).bind fun declared ⟨hdeclared, hshape⟩ => ?_
          obtain rfl := declaredProperties_of_mappingOf hdeclared
          refine (convertProperties_meets (Q := Converted levels (calls + 1))
            (fun e he hu => hread (.key hwalks he hu))
            fun e he name => (ih _ name e.2).mono (hpart (.property hwalks he)) fun _ => id).bind
            fun converted hconverted => ?_
          have hkeys : ∀ e ∈ (Value.map entries).declaredProperties, ¬ e.1.Large := by
            intro e he
            obtain ⟨p, -, ⟨-, hkey⟩, -⟩ := exists_right_of_forall₂ hconverted he
            exact hkey
          exact meets_ok (converted_object opens htype hdescription (hhere fun _ => hkeys) hwalks
            hshape (hconverted.imp fun _ _ h => ⟨h.1.1, h.2⟩))
        · next hproperties =>
          have hwalks : ¬ (Value.map entries).WalksProperties := fun h => hproperties h.2
          exact meets_ok (converted_leaf opens htype hdescription
            (hhere fun h => absurd h hwalks) hkind hwalks)
    | _ => exact opening_meets closed fun _ => meets_error (.notMapping (hshape rfl rfl) name _)

/-! ## Texts that are not written -/

section Untold

variable {room : Nat} {v : Value} {f : Fault} {e : Scalar × Value}

omit [Machine] in
theorem get?_of_mem_declaredProperties (mem : e ∈ v.declaredProperties) :
    ∃ entries, v.get? "properties" = some (.map entries) ∧ e ∈ entries := by
  unfold Value.declaredProperties at mem
  split at mem
  · next entries hentries => exact ⟨entries, hentries, mem⟩
  · cases mem

omit [Machine] in
theorem SchemaPosition.untold {k : Nat} {x : Value} (position : SchemaPosition v k x)
    (h : x.Untold room f) : v.Untold room f := by
  induction position with
  | root => exact h
  | part _ part ih =>
    refine ih ?_
    cases part with
    | item =>
      obtain ⟨item, hitem, hu⟩ := untold_of_getD h
      exact Value.untold_of_get? hitem hu
    | property _ mem =>
      obtain ⟨entries, hentries, mem⟩ := get?_of_mem_declaredProperties mem
      exact Value.untold_of_get? hentries (Value.untold_of_entry mem h)

theorem ReadFault.untold {calls : Nat} (h : ReadFault calls v f) :
    v.Untold (Machine.room (calls + 2)) f := by
  cases h with
  | description entry untold => exact Value.untold_of_get? entry untold
  | format fault => exact untold_of_formatFault fault
  | key _ mem large =>
    obtain ⟨entries, hentries, mem⟩ := get?_of_mem_declaredProperties mem
    exact Value.untold_of_get? hentries (Value.untold_of_key mem large)

/-- What is in the way somewhere on the walk is in the way of the text of the whole schema, with the
room that is left at the last level. -/
theorem WalkFault.untold {levels calls : Nat} (h : WalkFault levels calls v f) :
    v.Untold (Machine.room (calls + levels + 1)) f := by
  obtain ⟨k, x, position, hk, hread⟩ := h
  exact (position.untold hread.untold).mono (Machine.room_le (by omega))

end Untold

/-! ## Schemas at a depth -/

/-- Every position of the walk of a schema that stands at a depth is at an admitted depth, and
well-shaped. -/
def WellShapedFrom (depth : Int) (schema : Value) : Prop :=
  ∀ k x, SchemaPosition schema k x → depth + k ≤ maxSchemaDepth ∧ WellShaped x

omit [Machine] in
theorem wellShapedWithin_iff {depth : Int} {schema : Value} :
    WellShapedWithin (schemaLevels depth) schema ↔ WellShapedFrom depth schema := by
  refine forall_congr' fun k => forall₂_congr fun x _ => and_congr_left fun _ => ?_
  rw [schemaLevels, Int.lt_toNat]
  omega

/-- **Which schemas are converted, and to what.** There is a schema just when every position of the
walk is at an admitted depth and well-shaped, every text that is read is written, and there are
calls enough for the walk; otherwise the fault names the shape, or is that of such a text or of the
walk. Where keys are different texts, the schema mirrors the one of the document. All texts are
written where no integer is too large and nothing goes deeper than there is room for at the last
level; and there are calls enough if there are for all levels that are looked at. -/
theorem convertSchema_spec (name : Text) (schema : Value) (depth : Int) (calls : Nat) :
    ((∃ s, convertSchema name schema depth calls = .ok s) ↔
      WellShapedFrom depth schema ∧ WrittenWithin (schemaLevels depth) calls schema ∧
        OpensWithin (schemaLevels depth) calls schema) ∧
    (∀ f, convertSchema name schema depth calls = .error f →
      SchemaFault (¬ WellShapedFrom depth schema) (WalkFault (schemaLevels depth) calls schema)
        (¬ OpensWithin (schemaLevels depth) calls schema) f) ∧
    (∀ s, convertSchema name schema depth calls = .ok s → KeysDifferThroughout schema →
      Mirrors calls name schema s) ∧
    (¬ schema.Unwritable (Machine.room (calls + schemaLevels depth + 1)) →
      WrittenWithin (schemaLevels depth) calls schema) ∧
    (calls + schemaLevels depth < Machine.calls →
      OpensWithin (schemaLevels depth) calls schema) := by
  have hmeets := convertWithin_meets (schemaLevels depth) calls name schema
  rw [wellShapedWithin_iff] at hmeets
  refine ⟨⟨?_, ?_⟩, hmeets.fails, fun s hs => (hmeets.gives s hs).mirrors,
    fun hwritten f hf => hwritten ⟨f, hf.untold⟩, fun hcalls k _ _ hk => by omega⟩
  · rintro ⟨s, hs⟩
    have h := hmeets.gives s hs
    exact ⟨wellShapedWithin_iff.1 h.shaped, h.written, h.opens⟩
  · rintro ⟨hshaped, hwritten, hopens⟩
    cases hres : convertSchema name schema depth calls with
    | ok s => exact ⟨s, rfl⟩
    | error f =>
      cases hmeets.fails f hres with
      | tooDeep h => exact absurd hshaped h
      | notMapping h => exact absurd hshaped h
      | properties h => exact absurd hshaped h
      | number h => exact absurd h (hwritten _)
      | depth h => exact absurd h (hwritten _)
      | unopened h => exact absurd hopens h

end Machine

/-- A schema whose format is an integer that is not written. -/
def largeFormat : Value := .map [
  (.text "type", .scalar (.text "string")),
  (.text "format", .scalar (.int (.ofNat (Nat.pow 10 maxDecimalDigits))))]

/-- **Not every well-shaped schema is converted.** -/
theorem convertSchema_largeFormat :
    WellShapedFrom 0 largeFormat ∧
      convertSchema "a" largeFormat 0 = .error (.stray (.numeral .tooLarge)) ∧
      ¬ ∀ name schema depth, (∃ s, convertSchema name schema depth = .ok s) ↔
        WellShapedFrom depth schema := by
  have hkind : Kind.ofSchema largeFormat = .string := by decide +kernel
  have hproperties : largeFormat.get? "properties" = none := by decide +kernel
  have hshaped : WellShapedFrom 0 largeFormat := by
    refine forall_position_iff.2 ⟨⟨by decide, .inr rfl, fun _ p hp => ?_⟩, fun w part => ?_⟩
    · cases hproperties.symm.trans hp
    · cases part with
      | item array => cases hkind.symm.trans array
      | property walks =>
        rcases walks.2 with h | h
        · cases hkind.symm.trans h
        · rw [hproperties] at h
          cases h
  have hfails : convertSchema "a" largeFormat 0 = .error (.stray (.numeral .tooLarge)) :=
    map_eq_error (f := fun _ => ()).1 (by decide +kernel)
  refine ⟨hshaped, hfails, fun h => ?_⟩
  obtain ⟨s, hs⟩ := (h "a" largeFormat 0).2 hshaped
  cases hfails.symm.trans hs

end SuiteForge
