/-
# Contracts that say the same

Two contracts say the same if they differ at most in the order of what has no order: the
properties of a schema, the responses of an endpoint by their codes, and the named
schemas.
-/

import SuiteForge.Contract.Basic

namespace SuiteForge

mutual

/-- Two schemas are equal up to the order of properties. -/
def Schema.same : Schema → Schema → Bool
  | ⟨name, kind, type, properties, item, description⟩, t =>
    name == t.name && kind == t.kind && type == t.type && description == t.description &&
      properties.length == t.properties.length && sameNamed properties t.properties &&
      sameItem item t.item

/-- Every named schema is among others. -/
def sameNamed : List (Text × Schema) → List (Text × Schema) → Bool
  | [], _ => true
  | (name, s) :: rest, others =>
    (match others.lookup name with
      | some t => Schema.same s t
      | none => false) && sameNamed rest others

/-- The schemas of arrays' items are equal up to the order of properties. -/
def sameItem : Option Schema → Option Schema → Bool
  | none, none => true
  | some s, some t => Schema.same s t
  | _, _ => false

end

/-- Two endpoints are equal up to the order of responses and properties. -/
def Endpoint.same (e f : Endpoint) : Bool :=
  e.path == f.path && e.method == f.method && e.summary == f.summary &&
    e.operationId == f.operationId && e.parameters == f.parameters && sameItem e.body f.body &&
    e.responses.length == f.responses.length && sameNamed e.responses f.responses &&
    e.statusCodes == f.statusCodes

/-- Endpoints that are the same one by one. -/
def sameEndpoints : List Endpoint → List Endpoint → Bool
  | [], [] => true
  | e :: es, f :: fs => e.same f && sameEndpoints es fs
  | _, _ => false

/-- Two contracts say the same. -/
def Contract.same (c d : Contract) : Bool :=
  c.title == d.title && c.version == d.version && c.description == d.description &&
    c.baseUrl == d.baseUrl && sameEndpoints c.endpoints d.endpoints &&
    c.schemas.length == d.schemas.length && sameNamed c.schemas d.schemas

end SuiteForge
