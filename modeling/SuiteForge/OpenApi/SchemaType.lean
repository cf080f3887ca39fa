/-
# The types of schemas

| declared type | format | resolved type |
| --- | --- | --- |
| `string`, `boolean` | any | the same |
| `integer` | `int64` | `long` |
| `integer` | any other | `integer` |
| `number` | `float` | `float` |
| `number` | any other | `double` |
| `array` | any | `list` |
| any other, or none | any | `object` |

Where several types are declared, the first that is not `null` counts.
-/

import SuiteForge.Contract.Types
import SuiteForge.OpenApi.Dialect

namespace SuiteForge

/-- The type that counts among several. -/
def firstType (types : List Value) : Option Value :=
  types.find? fun t => match t with
    | .scalar (.text t) => t != Text.ofString "null"
    | _ => true

/-- The declared type in lower case, if a text declares it. -/
def declaredType? (schema : Value) : Option Text :=
  let declared := match schema.get? "type" with
    | some (.list types) => firstType types
    | other => other
  match declared with
  | some (.scalar (.text t)) => some t.lower
  | _ => none

/-- What a declared type and a format mean together. -/
def ResolvedType.ofDeclared (type format : Text) : ResolvedType :=
  if type = "integer" then if format = "int64" then .long else .integer
  else if type = "number" then if format = "float" then .float else .double
  else if type = "string" then .string
  else if type = "boolean" then .boolean
  else if type = "array" then .list
  else .object

variable [Machine]

/-- The format of a schema in lower case; what is not truthy counts as none. -/
def formatOf (schema : Value) (calls : Nat) : Except Fault Text :=
  match schema.get? "format" with
  | some v => if v.isTruthy then (shown v calls).map Text.lower else .ok []
  | none => .ok []

/-- What a schema means. -/
def ResolvedType.ofSchema (schema : Value) (calls : Nat := 0) : Except Fault ResolvedType :=
  match declaredType? schema with
  | none => .ok .object
  | some type => (formatOf schema (calls + 1)).map (ResolvedType.ofDeclared type)

/-- The structure of a schema; what is not known is an object. -/
def Kind.ofSchema (schema : Value) : Kind :=
  ((declaredType? schema).bind Kind.ofName?).getD .object

end SuiteForge
