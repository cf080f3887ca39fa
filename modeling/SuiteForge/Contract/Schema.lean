/-
# Schemas and parameters

A schema is a tree: an array has the schema of its items, an object may have
properties. The rules hold at every schema that is made by `Schema.check`.
-/

import SuiteForge.Checked
import SuiteForge.Contract.Types

namespace SuiteForge

/-- The shape of data. -/
structure Schema where
  name : Text
  kind : Kind
  type : ResolvedType
  properties : List (Text × Schema)
  item : Option Schema
  description : Text

namespace Schema

/-- An object that declares properties. -/
def isObject (s : Schema) : Bool := s.kind == .object && !s.properties.isEmpty

def isArray (s : Schema) : Bool := s.kind == .array

/-- The rules of a schema, the first broken one first. -/
def rules (s : Schema) : List (Bool × Rule) := [
  (s.item.isSome == (s.kind == .array), .itemOnArraysOnly),
  (s.properties.isEmpty || s.kind == .object, .propertiesOnObjectsOnly)]

/-- The schema, if it keeps the rules. -/
def check (s : Schema) : Checked Schema := Checked.rules s s.rules

/-- A schema on one line. -/
def display (s : Schema) : Text :=
  "ApiSchema(name=" ++ s.name.quoted ++ ", kind=" ++ s.kind.name ++ ", type=" ++ s.type.name ++
    ", properties=" ++ Text.ofNat s.properties.length ++ ")"

/-- The fields of a schema that is being read. -/
structure Draft where
  name : Option Value
  kind : Option Value
  type : Option Value
  properties : Option (Checked (List (Text × Schema)))
  item : Option (Checked (Option Schema))
  description : Option Value

/-- A text, or null for the empty one. -/
def blankable : Reader Text
  | .scalar .null => .ok []
  | v => Reader.text v

/-- A field that is there read, or its default. -/
def fieldOr {α : Type} (name : String) (default : α) (r : Reader α) : Option Value → Checked α
  | none => .ok default
  | some v => Checked.within (.field name) (r v)

/-- The schema of a draft, if its fields are good and keep the rules. -/
def Draft.read (d : Draft) : Checked Schema := do
  let fields : Checked Schema :=
    Checked.apply (Checked.apply (Checked.apply (Checked.apply (Checked.apply
      ((fieldOr "name" [] blankable d.name).map Schema.mk)
      (fieldOr "kind" .object (Reader.choice Kind.ofName?) d.kind))
      (fieldOr "resolved_type" .object (Reader.choice ResolvedType.ofName?) d.type))
      (Checked.within (.field "properties") (d.properties.getD (.ok []))))
      (Checked.within (.field "item_schema") (d.item.getD (.ok none))))
      (fieldOr "description" [] blankable d.description)
  let s ← fields
  s.check

mutual

/-- A schema read from a value. -/
def ofValue : Value → Checked Schema
  | .map entries => (draftOf entries).read
  | _ => Checked.fault .notModel

/-- The fields among a mapping's entries. -/
def draftOf : List (Scalar × Value) → Draft
  | [] => ⟨none, none, none, none, none, none⟩
  | (k, v) :: rest =>
    let d := draftOf rest
    if k = .text "name" then { d with name := some v }
    else if k = .text "kind" then { d with kind := some v }
    else if k = .text "resolved_type" then { d with type := some v }
    else if k = .text "properties" then { d with properties := some (propertiesOf v) }
    else if k = .text "item_schema" then { d with item := some (itemOf v) }
    else if k = .text "description" then { d with description := some v }
    else d

/-- The properties of a schema. -/
def propertiesOf : Value → Checked (List (Text × Schema))
  | .map entries => entriesOf entries
  | _ => Checked.fault .notMapping

/-- The properties among a mapping's entries. -/
def entriesOf : List (Scalar × Value) → Checked (List (Text × Schema))
  | [] => .ok []
  | (k, v) :: rest =>
    Checked.apply ((Reader.entry k (ofValue v)).map List.cons) (entriesOf rest)

/-- The schema of an array's items, or null. -/
def itemOf : Value → Checked (Option Schema)
  | .scalar .null => .ok none
  | .map entries => ((draftOf entries).read).map some
  | _ => Checked.fault .notModel

end

end Schema

/-- What an operation is told beside its body. -/
structure Parameter where
  name : Text
  location : Location
  type : ResolvedType
  required : Bool
  description : Text
  deriving DecidableEq

namespace Parameter

/-- The parameter, if its name is not blank. Parameters of the path are always required. -/
def check (p : Parameter) : Checked Parameter :=
  if p.name.isBlank then .error [⟨[.field "name"], .rejected .blankParameterName⟩]
  else .ok { p with required := p.required || p.location == .path }

/-- A name that is not blank. -/
def readName : Reader Text
  | .scalar (.text t) => if t.isBlank then Checked.fault (.rejected .blankParameterName) else .ok t
  | _ => Checked.fault .notText

/-- A location's name, in lower case. -/
def locationText : Value → Value
  | .scalar (.text t) => .scalar (.text t.lower)
  | v => v

/-- A parameter read from a value. Locations may be written in any case. -/
def ofValue : Reader Parameter := Reader.model fun entries =>
  let entries := entries.map fun e =>
    if e.1 = .text "location" then (e.1, locationText e.2) else e
  let onPath := match Entries.find? (.text "location") entries with
    | some (.scalar (.text t)) => t == Location.path.name
    | _ => false
  Checked.apply (Checked.apply (Checked.apply (Checked.apply
    ((Reader.required "name" readName entries).map Parameter.mk)
    (Reader.optional "location" .query (Reader.choice Location.ofName?) entries))
    (Reader.optional "resolved_type" .string (Reader.choice ResolvedType.ofName?) entries))
    (if onPath then .ok true else Reader.optional "required" false Reader.truth entries))
    (Reader.optional "description" [] Schema.blankable entries)

end Parameter

end SuiteForge
