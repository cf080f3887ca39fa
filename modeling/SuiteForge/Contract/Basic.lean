/-
# Contracts

A contract describes an API: its endpoints in order, and its named schemas. It is
free of the document that it came from.
-/

import SuiteForge.Contract.Schema

namespace SuiteForge

/-- The base URL of an API that names none. -/
def defaultBaseUrl : Text := "http://localhost:8080"

/-- A method on a path. -/
structure Endpoint where
  path : Text
  method : Method
  summary : Text
  operationId : Text
  parameters : List Parameter
  body : Option Schema
  responses : List (Text × Schema)
  /-- Every declared status code, also those whose response has no schema. -/
  statusCodes : List Text

namespace Endpoint

def hasBody (e : Endpoint) : Bool := e.body.isSome

def pathParameters (e : Endpoint) : List Parameter := e.parameters.filter (·.location == .path)

def queryParameters (e : Endpoint) : List Parameter := e.parameters.filter (·.location == .query)

def hasPathParameters (e : Endpoint) : Bool := !e.pathParameters.isEmpty

/-- An endpoint on one line. -/
def display (e : Endpoint) : Text := e.method.name ++ " " ++ e.path ++ " (" ++ e.operationId ++ ")"

/-- A body stands only where it has a meaning. -/
def bodyRule (e : Endpoint) : Bool × Rule :=
  (e.body.isNone || e.method.hasBody, .bodyNotAllowed e.method.name)

/-- The endpoint, if it keeps the rules. -/
def check (e : Endpoint) : Checked Endpoint :=
  if e.operationId.isBlank then .error [⟨[.field "operation_id"], .rejected .blankOperationId⟩]
  else Checked.rules e [e.bodyRule]

/-- An operation id that is not blank. -/
def readOperationId : Reader Text
  | .scalar (.text t) => if t.isBlank then Checked.fault (.rejected .blankOperationId) else .ok t
  | _ => Checked.fault .notText

/-- A method's name in any case. -/
def readMethod : Reader Method
  | .scalar (.text t) => Reader.choice Method.ofName? (.scalar (.text t.upper))
  | v => Reader.choice Method.ofName? v

/-- An endpoint read from a value. -/
def ofValue : Reader Endpoint := Reader.model fun entries => do
  let fields : Checked Endpoint :=
    Checked.apply (Checked.apply (Checked.apply (Checked.apply (Checked.apply (Checked.apply
      (Checked.apply
      ((Reader.required "path" Reader.text entries).map Endpoint.mk)
      (Reader.required "http_method" readMethod entries))
      (Reader.optional "summary" [] Schema.blankable entries))
      (Reader.required "operation_id" readOperationId entries))
      (Reader.optional "parameters" [] (Reader.items .notTuple Parameter.ofValue) entries))
      (Reader.optional "request_body_schema" none (Reader.nullable Schema.ofValue) entries))
      (Reader.optional "responses" [] (Reader.mapping Schema.ofValue) entries))
      (Reader.optional "status_codes" [] (Reader.items .notTuple Reader.text) entries)
  let e ← fields
  Checked.rules e [e.bodyRule]

end Endpoint

/-- A fully resolved description of an API. -/
structure Contract where
  title : Text
  version : Text
  description : Text
  baseUrl : Text
  endpoints : List Endpoint
  schemas : List (Text × Schema)

namespace Contract

def defaultTitle : Text := "Unknown API"

def defaultVersion : Text := "1.0.0"

def endpointCount (c : Contract) : Nat := c.endpoints.length

def hasSchemas (c : Contract) : Bool := !c.schemas.isEmpty

/-- A contract on one line. -/
def display (c : Contract) : Text :=
  "ApiContract(title=" ++ c.title.quoted ++ ", version=" ++ c.version.quoted ++ ", base_url=" ++
    c.baseUrl.quoted ++ ", endpoints=" ++ Text.ofNat c.endpointCount ++ ", schemas=" ++
    Text.ofNat c.schemas.length ++ ")"

/-- The contract, if it has an endpoint. -/
def check (c : Contract) : Checked Contract :=
  if c.endpoints.isEmpty then .error [⟨[.field "endpoints"], .rejected .noEndpoints⟩] else .ok c

/-- Endpoints, of which there must be one. -/
def readEndpoints (v : Value) : Checked (List Endpoint) := do
  let es ← Reader.items .notTuple Endpoint.ofValue v
  if es.isEmpty then Checked.fault (.rejected .noEndpoints) else .ok es

/-- A contract read from a value. Null counts as absent. -/
def ofValue : Reader Contract := Reader.model fun entries =>
  let entries := entries.filter fun e => !e.2.isNull
  Checked.apply (Checked.apply (Checked.apply (Checked.apply (Checked.apply
    ((Reader.optional "title" defaultTitle Reader.text entries).map Contract.mk)
    (Reader.optional "version" defaultVersion Reader.text entries))
    (Reader.optional "description" [] Reader.text entries))
    (Reader.optional "base_url" defaultBaseUrl Reader.text entries))
    (Reader.required "endpoints" readEndpoints entries))
    (Reader.optional "schemas" [] (Reader.mapping Schema.ofValue) entries)

end Contract

end SuiteForge
