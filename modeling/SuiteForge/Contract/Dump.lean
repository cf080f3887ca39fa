/-
# Contracts as values

A model is dumped as the mapping from the names of its fields, in the order of their
declaration, to their values: texts and truth values as they are, members of an enumeration
by their names, a schema that is not there as null. A sequence is dumped in one of two
forms, as the tuple that it is or as a list.
-/

import SuiteForge.Contract.Basic

namespace SuiteForge

/-- What a sequence is dumped as. -/
inductive DumpForm where
  | tuple
  | list
  deriving DecidableEq

def DumpForm.sequence : DumpForm → List Value → Value
  | tuple, items => .tuple items
  | list, items => .list items

mutual

/-- A schema as a value. -/
def Schema.dump : Schema → Value
  | ⟨name, kind, type, properties, item, description⟩ => .map [
    (.text "name", .scalar (.text name)),
    (.text "kind", .scalar (.text kind.name)),
    (.text "resolved_type", .scalar (.text type.name)),
    (.text "properties", .map (Schema.dumpNamed properties)),
    (.text "item_schema", Schema.dumpItem item),
    (.text "description", .scalar (.text description))]

/-- Named schemas as the entries of a mapping. -/
def Schema.dumpNamed : List (Text × Schema) → Entries Value
  | [] => []
  | (name, s) :: rest => (.text name, s.dump) :: Schema.dumpNamed rest

/-- A schema as a value, if it is there. -/
def Schema.dumpItem : Option Schema → Value
  | none => .scalar .null
  | some s => s.dump

end

/-- A parameter as a value. -/
def Parameter.dump (p : Parameter) : Value := .map [
  (.text "name", .scalar (.text p.name)),
  (.text "location", .scalar (.text p.location.name)),
  (.text "resolved_type", .scalar (.text p.type.name)),
  (.text "required", .scalar (.bool p.required)),
  (.text "description", .scalar (.text p.description))]

/-- An endpoint as a value. -/
def Endpoint.dump (form : DumpForm) (e : Endpoint) : Value := .map [
  (.text "path", .scalar (.text e.path)),
  (.text "http_method", .scalar (.text e.method.name)),
  (.text "summary", .scalar (.text e.summary)),
  (.text "operation_id", .scalar (.text e.operationId)),
  (.text "parameters", form.sequence (e.parameters.map Parameter.dump)),
  (.text "request_body_schema", Schema.dumpItem e.body),
  (.text "responses", .map (Schema.dumpNamed e.responses)),
  (.text "status_codes", form.sequence (e.statusCodes.map fun t => .scalar (.text t)))]

/-- A contract as a value. -/
def Contract.dump (form : DumpForm) (c : Contract) : Value := .map [
  (.text "title", .scalar (.text c.title)),
  (.text "version", .scalar (.text c.version)),
  (.text "description", .scalar (.text c.description)),
  (.text "base_url", .scalar (.text c.baseUrl)),
  (.text "endpoints", form.sequence (c.endpoints.map fun e => e.dump form)),
  (.text "schemas", .map (Schema.dumpNamed c.schemas))]

end SuiteForge
