/-
# Schemas from documents

A schema of a document is null or a mapping. Arrays convert their `items`, objects
and whatever else declares properties convert those; everything else is a leaf.
-/

import SuiteForge.Assoc
import SuiteForge.Contract.Basic
import SuiteForge.OpenApi.SchemaType

namespace SuiteForge

/-- A model, or the fault that it is not valid. -/
def valid {α : Type} (x : Checked α) : Except Fault α := x.mapError .invalid

/-- The entries of a part that must be a mapping if it is there. -/
def mappingOf (place : Section) : Option Value → Except Fault (Entries Value)
  | none => .ok []
  | some (.scalar .null) => .ok []
  | some (.map entries) => .ok entries
  | some v => .error (.parse (.expectedMapping place v.kindName))

/-- The items of a part that must be a list if it is there. -/
def listOf (place : Section) : Option Value → Except Fault (List Value)
  | none => .ok []
  | some (.scalar .null) => .ok []
  | some (.list items) => .ok items
  | some v => .error (.parse (.expectedList place v.kindName))

/-- The schemas of properties, converted one by one. -/
def convertProperties (convert : Text → Value → Except Fault Schema) :
    Entries Value → Except Fault (List (Text × Schema))
  | [] => .ok []
  | (key, v) :: rest => do
    let name ← keyText key
    let s ← convert name v
    let more ← convertProperties convert rest
    .ok ((name, s) :: more)

variable [Machine]

/-- A conversion that is begun while some calls are open. -/
def opening {α : Type} (calls : Nat) (conversion : Except Fault α) : Except Fault α :=
  if calls < Machine.calls then conversion else .error (.recursion .schema)

/-- The schema of a document's value; at most `levels` levels are looked at. -/
def convertWithin : Nat → Nat → Text → Value → Except Fault Schema
  | 0, calls, name, _ => opening calls (.error (.parse (.schemaTooDeep name)))
  | levels + 1, calls, name, schema => opening calls <|
    match schema with
    | .scalar .null => valid (Schema.check ⟨name, .object, .object, [], none, []⟩)
    | .map _ => do
      let kind := Kind.ofSchema schema
      let type ← ResolvedType.ofSchema schema (calls + 1)
      let description ← textOf (schema.get? "description") (calls + 1)
      let properties := schema.get? "properties"
      if kind = .array then do
        let item ← convertWithin levels (calls + 1) (name ++ Text.ofString "Item")
          ((schema.get? "items").getD (.scalar .null))
        valid (Schema.check ⟨name, kind, type, [], some item, description⟩)
      else if kind = .object ∨ properties.any Value.isTruthy then do
        let entries ← mappingOf (.properties name) properties
        let converted ← convertProperties (convertWithin levels (calls + 1)) entries
        valid (Schema.check ⟨name, .object, type, Assoc.ofPairs converted, none, description⟩)
      else valid (Schema.check ⟨name, kind, type, [], none, description⟩)
    | v => .error (.parse (.schemaNotMapping name v.kindName))

/-- The levels that are looked at of a schema that stands at a depth. -/
def schemaLevels (depth : Int) : Nat := ((maxSchemaDepth : Int) + 1 - depth).toNat

/-- The schema of a document's value that stands at a depth. -/
def convertSchema (name : Text) (schema : Value) (depth : Int) (calls : Nat := 0) :
    Except Fault Schema :=
  convertWithin (schemaLevels depth) calls name schema

end SuiteForge
