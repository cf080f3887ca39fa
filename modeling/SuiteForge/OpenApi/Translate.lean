/-
# From a document to a contract

References are inlined first, so that everything below reads a plain tree. The
document must have an `info` mapping and a `paths` mapping with an entry; each
path item has the operations of its methods, and every operation becomes an
endpoint.

The calls that are open where a text is asked for or a schema converted:

| in | calls |
| --- | ---: |
| the translation itself | 1 |
| the base URL, the endpoints, the component schemas | 2 |
| an endpoint | 3 |
| its parameters, body and responses | 4 |
-/

import SuiteForge.Document.Inline
import SuiteForge.OpenApi.Convert

namespace SuiteForge

variable [Machine]

/-- A step of the translation. -/
abbrev Translating (α : Type) := Logged Fault α

/-- A record of the translation of one request. -/
def noteTranslation (trace : TraceId) (level : Level) (message : Text) : Translating Unit :=
  Logged.record level .translation (trace.mark message)

/-! ## Operations -/

/-- The order in which the operations of a path item become endpoints. -/
def methodOrder : List Method := [.get, .post, .put, .delete, .patch, .head, .options]

/-- A name for an operation that declares none: its method and its path, without braces, with
underscores for slashes and hyphens. -/
def synthesizeOperationId (method path : Text) : Text :=
  let bare := path.filter fun s => s != .char '\x7b' && s != .char '\x7d'
  let flat : Text := bare.map fun s => if s = .char '/' ∨ s = .char '-' then .char '_' else s
  let body := Text.dropLeading (· == .char '_') flat
  method.lower ++ "_" ++ (if body.isEmpty then Text.ofString "root" else body)

/-- The media type that is preferred. -/
def preferredMediaType : Text := "application/json"

/-- The preferred media type's entry of a content, or else its first entry; only a mapping
counts. -/
def preferredMedia? : Option Value → Option Value
  | some (.map entries) =>
    let media? := match Entries.find? (.text preferredMediaType) entries with
      | some v => if v.isNull then entries.head?.map Prod.snd else some v
      | none => entries.head?.map Prod.snd
    media?.filter Value.isMap
  | _ => none

/-- The schema of the preferred media type, unless it is missing or null. -/
def contentSchema? (content : Option Value) : Option Value :=
  (preferredMedia? content).bind fun media => (media.get? "schema").filter fun s => !s.isNull

/-- The schema of a parameter: its own one, or that of its content. -/
def parameterSchema (raw : Value) : Value :=
  let own := (raw.get? "schema").filter Value.isMap
  let ofContent := (preferredMedia? (raw.get? "content")).bind fun media =>
    (media.get? "schema").filter Value.isMap
  (own.or ofContent).getD (.scalar .null)

/-! ## Parameters -/

/-- The record that a declaration is passed over. It shows the declaration, and a record that goes
too deep is no record. -/
def noteSkipped (trace : TraceId) (raw : Value) : Translating Unit :=
  match Machine.recordRoom?.map raw.quoted with
  | some (.error .tooDeep) => .fail (.recursion .value)
  | _ => noteTranslation trace .warning
    ("Skipping parameter that is not an object: " ++ (raw.quoted raw.levels).toOption.getD [])

/-- The declared parameters by name and location, the last one of a key counting. What is no mapping
or has a blank name is passed over. -/
def mergeParameters (trace : TraceId) :
    List Value → Assoc (Text × Text) Value → Translating (Assoc (Text × Text) Value)
  | [], merged => pure merged
  | raw :: rest, merged =>
    if !raw.isMap then do
      noteSkipped trace raw
      mergeParameters trace rest merged
    else do
      let name ← Logged.ofExcept ((textOf (raw.get? "name") 4).map Text.strip)
      if name.isEmpty then do
        noteTranslation trace .warning "Skipping parameter with null/blank name"
        mergeParameters trace rest merged
      else do
        let place ← Logged.ofExcept ((textOf (raw.get? "in") 4).map fun t => t.strip.lower)
        let place := if place.isEmpty then Location.query.name else place
        mergeParameters trace rest (merged.insert (name, place) raw)

/-- The parameters of merged declarations, those in known locations. -/
def buildParameters (trace : TraceId) :
    Assoc (Text × Text) Value → Translating (List Parameter)
  | [] => pure []
  | ((name, place), raw) :: rest =>
    match Location.ofName? place with
    | none => do
      noteTranslation trace .warning
        ("Skipping parameter '" ++ name ++ "' with unsupported location '" ++ place ++ "'")
      buildParameters trace rest
    | some location => do
      let type ← Logged.ofExcept (ResolvedType.ofSchema (parameterSchema raw) 4)
      let required := match raw.get? "required" with
        | some (.scalar (.bool true)) => true
        | _ => false
      let description ← Logged.ofExcept (textOf (raw.get? "description") 4)
      let p ← Logged.ofExcept
        (valid (Parameter.check ⟨name, location, type, required, description⟩))
      noteTranslation trace .debug
        ("Extracted parameter: " ++ name ++ " (" ++ type.name ++ ") [" ++ location.name ++ "]")
      let more ← buildParameters trace rest
      pure (p :: more)

/-- The parameters of an operation; `shared` holds those of its path item. -/
def extractParameters (trace : TraceId) (shared : List Value) (operation : Value) :
    Translating (List Parameter) := do
  let own ← Logged.ofExcept (listOf .operationParameters (operation.get? "parameters"))
  let merged ← mergeParameters trace (shared ++ own) []
  buildParameters trace merged

/-! ## Bodies and responses -/

/-- The schema of an operation's body, for the methods whose body has a meaning. -/
def extractBody (trace : TraceId) (method : Method) (path : Text) (operation : Value) :
    Translating (Option Schema) :=
  match operation.get? "requestBody" with
  | some (.map entries) =>
    if !method.hasBody then do
      noteTranslation trace .warning
        ("Ignoring request body declared on " ++ method.name ++ " " ++ path)
      pure none
    else match contentSchema? ((Value.map entries).get? "content") with
      | none => pure none
      | some raw => do
        let schema ← Logged.ofExcept (convertSchema "RequestBody" raw 0 4)
        noteTranslation trace .debug ("Extracted request body schema: " ++ schema.display)
        pure (some schema)
  | _ => pure none

/-- The schemas of the responses that have one, by their status codes. -/
def responseSchemas (trace : TraceId) :
    Entries Value → Translating (List (Text × Schema))
  | [] => pure []
  | (key, response) :: rest => do
    let status ← Logged.ofExcept (keyText key)
    match contentSchema? (response.get? "content") with
    | none => do
      noteTranslation trace .debug ("Response " ++ status ++ " has no content schema")
      responseSchemas trace rest
    | some raw => do
      let schema ← Logged.ofExcept (convertSchema ("Response_" ++ status) raw 0 4)
      let more ← responseSchemas trace rest
      pure ((status, schema) :: more)

/-- The responses of an operation. -/
def extractResponses (trace : TraceId) (operation : Value) : Translating (List (Text × Schema)) :=
  match operation.get? "responses" with
  | some (.map entries) => do
    let pairs ← responseSchemas trace entries
    pure (Assoc.ofPairs pairs)
  | _ => pure []

/-- Every status code that an operation declares. -/
def statusCodes (operation : Value) : Except Fault (List Text) :=
  match operation.get? "responses" with
  | some (.map entries) => entries.mapM fun e => keyText e.1
  | _ => .ok []

/-! ## Endpoints -/

/-- The declared operation id, if it is a text that is not blank; otherwise a made one. -/
def operationIdOf (method : Method) (path : Text) (operation : Value) : Text :=
  match operation.get? "operationId" with
  | some (.scalar (.text t)) => if t.isBlank then synthesizeOperationId method.name path else t
  | _ => synthesizeOperationId method.name path

/-- A model of an operation that is not valid makes the operation invalid. -/
def Fault.inOperation (method : Method) (path : Text) : Fault → Fault
  | .invalid faults => .parse (.invalidOperation method.name path faults)
  | f => f

/-- The endpoint of an operation. -/
def buildEndpoint (trace : TraceId) (path : Text) (method : Method) (operation : Value)
    (shared : List Value) : Translating Endpoint :=
  Logged.mapError (Fault.inOperation method path) do
    let summary ← Logged.ofExcept (textOf (operation.get? "summary") 3)
    let parameters ← extractParameters trace shared operation
    let body ← extractBody trace method path operation
    let responses ← extractResponses trace operation
    let codes ← Logged.ofExcept (statusCodes operation)
    let operationId := operationIdOf method path operation
    Logged.ofExcept (valid (Endpoint.check
      ⟨path, method, summary, operationId, parameters, body, responses, codes⟩))

/-- The endpoints of a path item, for some methods in order. -/
def pathEndpoints (trace : TraceId) (path : Text) (item : Entries Value) (shared : List Value) :
    List Method → Translating (List Endpoint)
  | [] => pure []
  | method :: rest =>
    match (Entries.find? (.text method.key) item).filter fun v => !v.isNull with
    | none => pathEndpoints trace path item shared rest
    | some raw => do
      let operation ← Logged.ofExcept (mappingOf (.operation method.name path) (some raw))
      let endpoint ← buildEndpoint trace path method (.map operation) shared
      noteTranslation trace .debug ("Extracted endpoint: " ++ method.name ++ " " ++ path)
      let more ← pathEndpoints trace path item shared rest
      pure (endpoint :: more)

/-- The endpoints of all path items. -/
def extractEndpoints (trace : TraceId) : Entries Value → Translating (List Endpoint)
  | [] => pure []
  | (key, raw) :: rest => do
    let path ← Logged.ofExcept (keyText key)
    let item ← Logged.ofExcept (mappingOf (.pathItem path) (some raw))
    noteTranslation trace .debug ("Processing path: " ++ path)
    let shared ← Logged.ofExcept
      (listOf (.pathParameters path) (Entries.find? (.text "parameters") item))
    let here ← pathEndpoints trace path item shared methodOrder
    let more ← extractEndpoints trace rest
    pure (here ++ more)

/-! ## The whole document -/

/-- The component schemas, converted one by one. -/
def componentSchemas (trace : TraceId) : Entries Value → Translating (List (Text × Schema))
  | [] => pure []
  | (key, raw) :: rest => do
    let name ← Logged.ofExcept (keyText key)
    let schema ← Logged.ofExcept (convertSchema name raw 0 2)
    noteTranslation trace .debug ("Extracted component schema: " ++ schema.display)
    let more ← componentSchemas trace rest
    pure ((name, schema) :: more)

/-- The named schemas of a document. -/
def extractSchemas (trace : TraceId) (document : Value) : Translating (List (Text × Schema)) :=
  match (document.get? "components").bind (·.get? "schemas") with
  | some (.map entries) => do
    let pairs ← componentSchemas trace entries
    pure (Assoc.ofPairs pairs)
  | _ => do
    noteTranslation trace .debug "No components/schemas section found in spec"
    pure []

/-- The URL of the first server, or the default one. -/
def baseUrlOf (trace : TraceId) (default : Text) (document : Value) : Translating Text :=
  match document.get? "servers" with
  | some (.list (.map entries :: _)) => do
    let url ← Logged.ofExcept ((textOf ((Value.map entries).get? "url") 2).map Text.strip)
    pure (if url.isEmpty || url == Text.ofString "/" then default else url)
  | _ => do
    noteTranslation trace .debug ("No servers defined in spec, defaulting to " ++ default)
    pure default

/-- The entries of `info` and of `paths`, which must be there. -/
def requiredParts (trace : TraceId) (document : Value) :
    Translating (Entries Value × Entries Value) :=
  match document with
  | .map _ =>
    match document.get? "info" with
    | some (.map info) =>
      match document.get? "paths" with
      | some (.map (first :: rest)) => do
        noteTranslation trace .debug
          ("Validation passed | pathCount=" ++ Text.ofNat (rest.length + 1))
        pure (info, first :: rest)
      | _ => do
        noteTranslation trace .warning "OpenAPI spec has no paths defined"
        .fail (.parse .noPaths)
    | _ => do
      noteTranslation trace .warning "OpenAPI spec is missing the 'info' section"
      .fail (.parse .missingInfo)
  | v => .fail (.stray (.rootKind v.kindName))

/-- A text that is not empty. -/
def nonempty? (t : Text) : Option Text := if t.isEmpty then none else some t

/-- The contract of a document without references. -/
def translateTree (trace : TraceId) (defaultUrl : Text) (document : Value) :
    Translating Contract := do
  let (info, paths) ← requiredParts trace document
  let infoText (key : String) : Translating Text :=
    Logged.ofExcept ((textOf (Entries.find? (.text key) info) 1).map Text.strip)
  let title ← infoText "title"
  let version ← infoText "version"
  let description ← infoText "description"
  let baseUrl ← baseUrlOf trace defaultUrl document
  let orNone (t : Text) : Text := (nonempty? t).getD "None"
  noteTranslation trace .info
    ("API metadata extracted | title='" ++ orNone title ++ "' | version='" ++ orNone version ++
      "' | baseUrl='" ++ baseUrl ++ "'")
  let endpoints ← extractEndpoints trace paths
  if endpoints.isEmpty then .fail (.parse .noOperations)
  else
    noteTranslation trace .info ("Extracted " ++ Text.ofNat endpoints.length ++ " endpoint(s)")
    let schemas ← extractSchemas trace document
    noteTranslation trace .info
      ("Extracted " ++ Text.ofNat schemas.length ++ " component schema(s)")
    let contract : Contract :=
      ⟨(nonempty? title).getD Contract.defaultTitle,
        (nonempty? version).getD Contract.defaultVersion, description, baseUrl, endpoints, schemas⟩
    match contract.check with
    | .error faults => .fail (.parse (.invalidContract faults))
    | .ok contract =>
      noteTranslation trace .info ("Translation complete | " ++ contract.display)
      pure contract

/-- The contract of a text. -/
def translate (trace : TraceId) (defaultUrl : Text) (text : List Char) : Translating Contract := do
  noteTranslation trace .info
    ("Starting OpenAPI translation | size=" ++ Text.ofNat text.length ++ " chars")
  let document ← Logged.ofExcept (Document.read text)
  Logged.ofExcept (Dialect.ensureOpenApi3 document 1)
  let tree ← document.inline
  translateTree trace defaultUrl tree

end SuiteForge
