/-
# Faults

Each stage has its own faults. A fault says what went wrong; its wording is given
by one function, and its category decides the code, what the public is told and
the exit code.

| category | code | exit |
| --- | --- | ---: |
| `engine` | `ENGINE_ERROR` | |
| `parse` | `PARSE_ERROR` | 3 |
| `template` | `TEMPLATE_ERROR` | 4 |
| `generation` | `GENERATION_ERROR` | 5 |
| `archive` | `ARCHIVE_ERROR` | 6 |

Three kinds of fault belong to no category: a model that is not valid, a `Stray`, a
value that no stage guards against, and a `Descent` that goes too deep.
-/

import SuiteForge.Value
import SuiteForge.Yaml.Cursor

namespace SuiteForge

inductive Category where
  | engine
  | parse
  | template
  | generation
  | archive
  deriving DecidableEq

namespace Category

def code : Category → Text
  | engine => "ENGINE_ERROR"
  | parse => "PARSE_ERROR"
  | template => "TEMPLATE_ERROR"
  | generation => "GENERATION_ERROR"
  | archive => "ARCHIVE_ERROR"

/-- The exit code of a program that ends with a fault; the general category has none of its own. -/
def exitCode? : Category → Option Nat
  | engine => none
  | parse => some 3
  | template => some 4
  | generation => some 5
  | archive => some 6

/-- What the public is told of a fault with a message. -/
def publicMessage (c : Category) (message : Text) : Text :=
  match c with
  | engine | parse => message
  | template => "Failed to render project template."
  | generation => "Failed to generate project. Please try again."
  | archive => "Failed to package the generated project."

end Category

/-! ## Models -/

/-- A step from a value to a part of it. -/
inductive Step where
  | field (name : Text)
  | index (i : Int)
  deriving DecidableEq

/-- A rule of a model that goes beyond the types of its fields. -/
inductive Rule where
  | blankParameterName
  | itemOnArraysOnly
  | propertiesOnObjectsOnly
  | blankOperationId
  | bodyNotAllowed (method : Text)
  | noEndpoints
  | blankPath
  | backslashInPath (path : Text)
  | absolutePath (path : Text)
  | blankProjectName
  | noFiles
  | badPackage (package : Text)
  deriving DecidableEq

def Rule.message : Rule → Text
  | blankParameterName => "parameter name must not be blank"
  | itemOnArraysOnly => "item_schema must be set exactly when kind is array"
  | propertiesOnObjectsOnly => "only object schemas may declare properties"
  | blankOperationId => "operation_id must not be blank"
  | bodyNotAllowed method => method ++ " endpoints cannot carry a request body"
  | noEndpoints => "a contract needs at least one endpoint"
  | blankPath => "relative_path must not be blank"
  | backslashInPath path => "relative_path must use forward slashes: " ++ path.quoted
  | absolutePath path => "relative_path must be relative: " ++ path.quoted
  | blankProjectName => "project_name must not be blank"
  | noFiles => "a generated project needs at least one file"
  | badPackage package => "not a valid Java package name: " ++ package.quoted

/-- What is wrong with a field. -/
inductive Problem where
  | missing
  | notText
  | notChoice
  | notBool
  | unreadableBool
  | notInteger
  | unreadableInteger
  | fractionalInteger
  | oversizedInteger
  | notTuple
  | notList
  | notMapping
  | notModel
  | rejected (rule : Rule)
  deriving DecidableEq

/-- A problem and where it is. -/
structure FieldFault where
  path : List Step
  problem : Problem
  deriving DecidableEq

/-! ## Stages -/

/-- A part of a document. -/
inductive Section where
  | pathItem (path : Text)
  | pathParameters (path : Text)
  | operation (method path : Text)
  | operationParameters
  | properties (schema : Text)
  deriving DecidableEq

def Section.name : Section → Text
  | pathItem path => "path '" ++ path ++ "'"
  | pathParameters path => "path '" ++ path ++ "' parameters"
  | operation method path => method ++ " " ++ path
  | operationParameters => "parameters"
  | properties schema => "schema '" ++ schema ++ "' properties"

/-- Containers may be nested this deep once references are inlined. -/
def maxDocumentDepth : Nat := 200

/-- Mappings and lists that a document may have once references are inlined. -/
def maxExpandedNodes : Nat := 500000

/-- Schemas may be nested this deep. -/
def maxSchemaDepth : Nat := 64

/-- Why a text yields no contract. -/
inductive ParseFault where
  | notUtf8
  | missingFile
  | isDirectory
  | emptyDocument
  | notYaml (problem : String)
  | tooDeep
  | notMapping
  | swagger2
  | notOpenApi3
  | externalReference (ref : Text)
  | danglingReference (ref : Text)
  | aliasCycle
  | nestedTooDeep
  | tooManyNodes
  | circularReference (cycle : List Text)
  | missingInfo
  | noPaths
  | noOperations
  | expectedMapping (place : Section) (kind : Text)
  | expectedList (place : Section) (kind : Text)
  | schemaTooDeep (name : Text)
  | schemaNotMapping (name kind : Text)
  | invalidOperation (method path : Text) (faults : List FieldFault)
  | invalidContract (faults : List FieldFault)
  deriving DecidableEq

/-- A message on one line; one without words says that there are no details. -/
def squash (message : Text) : Text :=
  let line := message.flatten
  if line.isEmpty then Text.ofString "no details available" else line

def ParseFault.message : ParseFault → Text
  | notUtf8 => "Unable to read the contract file: it is not valid UTF-8 text."
  | missingFile => "Unable to read the contract file: No such file or directory."
  | isDirectory => "Unable to read the contract file: Is a directory."
  | emptyDocument => "The contract document is empty."
  | notYaml problem =>
    "The document is not valid YAML or JSON. Parser details: " ++ squash (Text.ofString problem)
  | tooDeep => "The document is nested too deeply to be parsed."
  | notMapping => "The document must be a YAML or JSON object at the top level."
  | swagger2 =>
    "Swagger 2.0 documents are not supported. Convert the file to OpenAPI 3.x first."
  | notOpenApi3 =>
    "The document is not an OpenAPI 3.x specification: " ++
      "the top-level 'openapi' field must declare a 3.x version."
  | externalReference ref =>
    "External reference '" ++ ref ++ "' is not supported; only local '#/...' references are."
  | danglingReference ref =>
    "Reference '" ++ ref ++ "' does not point to anything in the document."
  | aliasCycle => "The document contains a self-referencing structure (YAML alias cycle)."
  | nestedTooDeep =>
    "The document is nested more than " ++ Text.ofNat maxDocumentDepth ++
      " levels deep once references are inlined."
  | tooManyNodes =>
    "The document expands to more than " ++ Text.ofNat maxExpandedNodes ++
      " nodes once references and aliases are inlined."
  | circularReference cycle =>
    "Circular reference detected: " ++ Text.join " -> " cycle ++
      ". Recursive schemas are not supported."
  | missingInfo =>
    "The OpenAPI specification is missing the required 'info' section. " ++
      "Ensure your spec includes 'info.title' and 'info.version'."
  | noPaths =>
    "The OpenAPI specification contains no paths (endpoints). " ++
      "Ensure the 'paths' section is present and defines at least one endpoint."
  | noOperations =>
    "The OpenAPI specification defines paths but no operations. " ++
      "Declare at least one HTTP method under 'paths'."
  | expectedMapping place kind =>
    "Expected an object for " ++ place.name ++ ", got " ++ kind ++ "."
  | expectedList place kind => "Expected a list for " ++ place.name ++ ", got " ++ kind ++ "."
  | schemaTooDeep name =>
    "Schema '" ++ name ++ "' is nested more than " ++ Text.ofNat maxSchemaDepth ++
      " levels deep. Recursive schemas are not supported."
  | schemaNotMapping name kind => "Schema '" ++ name ++ "' must be an object, got " ++ kind ++ "."
  | invalidOperation method path _ => "Operation " ++ method ++ " " ++ path ++ " is invalid: "
  | invalidContract _ => "The specification produced an invalid contract: "

/-- Why a template gives no text. -/
inductive TemplateFault where
  | notFound (name directory : Text)
  | notCompiled (name : Text) (problem : String)
  | undefined (name unknown : Text)
  deriving DecidableEq

def TemplateFault.message : TemplateFault → Text
  | notFound name directory =>
    "Template '" ++ name ++ "' could not be loaded. Ensure the file exists in " ++ directory ++ "."
  | notCompiled name problem =>
    "Template '" ++ name ++ "' could not be compiled: " ++ Text.ofString problem
  | undefined name unknown =>
    "Failed to render template '" ++ name ++ "': '" ++ unknown ++ "' is undefined"

/-- What is wrong with a generated file. -/
inductive FileFault where
  | duplicatePath (count : Nat)
  | malformedXml (problem : String)
  | noPackage
  | noType
  deriving DecidableEq

def FileFault.message : FileFault → Text
  | duplicatePath count =>
    "Duplicate path: " ++ Text.ofNat count ++ " files share this relative path"
  | malformedXml problem => "XML ParseError: " ++ Text.ofString problem
  | noPackage => "Java source has no package declaration"
  | noType => "Java source declares no type"

/-- Why files make no project. -/
inductive GenerationFault where
  | noFiles (project : Text)
  | inconsistent (project : Text) (report : List (Text × FileFault))
  deriving DecidableEq

def GenerationFault.message : GenerationFault → Text
  | noFiles project =>
    "Project generation produced zero files for '" ++ project ++
      "'. Ensure the contract has at least one endpoint."
  | inconsistent project report =>
    "Generated project '" ++ project ++ "' is inconsistent: " ++
      Text.join "; " (report.map fun e => e.1 ++ ": " ++ e.2.message)

/-- Why a project is not written to an archive. -/
inductive ArchiveFault where
  | duplicateEntry (name : Text)
  | unencodable (project problem : Text)
  | badLevel (project : Text)
  deriving DecidableEq

def ArchiveFault.message : ArchiveFault → Text
  | duplicateEntry name => "Refusing to write duplicate archive entry '" ++ name ++ "'."
  | unencodable project problem =>
    "Failed to create ZIP archive for project '" ++ project ++ "': " ++ problem
  | badLevel project =>
    "Failed to create ZIP archive for project '" ++ project ++
      "': Can't close the ZIP file while there is an open writing handle on it. " ++
      "Close the writing handle before closing the zip."

/-- A value that no stage guards against. -/
inductive Stray where
  /-- A scalar whose content its type does not admit. -/
  | value (f : Yaml.ValueFault)
  /-- A number that is not read or written. -/
  | numeral (f : NumeralFault)
  /-- The document is a reference to something that is no mapping. -/
  | rootKind (kind : Text)
  /-- A surrogate cannot be encoded. -/
  | unencodable
  /-- An entry's name is longer than an archive can say. -/
  | longName
  /-- A path holds the symbol with code zero. -/
  | zeroInPath
  /-- A directory stands where a file is to be written. -/
  | isDirectory (path : Text)
  /-- A file stands where a directory is to be made. -/
  | fileExists (path : Text)
  /-- A file stands on the way to a directory that is to be made. -/
  | notDirectory (path : Text)
  deriving DecidableEq

/-- What goes deeper than there is room for. -/
inductive Descent where
  /-- The text of a value. -/
  | value
  /-- The conversion of a schema. -/
  | schema
  deriving DecidableEq

def Descent.message : Descent → Text
  | value => TextFault.tooDeep.message
  | schema => "maximum recursion depth exceeded"

/-- Whatever ends a request without a result. -/
inductive Fault where
  | parse (f : ParseFault)
  | template (f : TemplateFault)
  | generation (f : GenerationFault)
  | archive (f : ArchiveFault)
  | invalid (faults : List FieldFault)
  | stray (s : Stray)
  | recursion (d : Descent)
  deriving DecidableEq

namespace Fault

/-- The fault of a value without a text. -/
def ofText : TextFault → Fault
  | .numeral f => .stray (.numeral f)
  | .tooDeep => .recursion .value

/-- The category of a fault that has one, and its message. -/
def failure? : Fault → Option (Category × Text)
  | parse f => some (.parse, f.message)
  | template f => some (.template, f.message)
  | generation f => some (.generation, f.message)
  | archive f => some (.archive, f.message)
  | invalid _ => none
  | stray _ => none
  | recursion _ => none

end Fault

end SuiteForge
