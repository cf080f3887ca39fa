/-
# What templates are rendered with

Each template of a suite has a context of its own, with exactly the data that the
template names. A context is turned into named data for the template (`Context.scope`).

| context | template |
| --- | --- |
| `DescriptorContext` | the build file |
| `SuiteContext` | the list of the test classes |
| `FixtureContext` | the class that all test classes extend |
| `ModelContext` | the class of a schema |
| `TestClassContext` | the test class of a resource |
-/

import SuiteForge.Checked
import SuiteForge.Template

namespace SuiteForge

/-- The data of the build file. -/
structure DescriptorContext where
  projectName : Text
  groupId : Text
  artifactId : Text
  apiTitle : Text
  apiVersion : Text
  apiDescription : Text

/-- The data of the list of the test classes. -/
structure SuiteContext where
  suiteName : Text
  testName : Text
  testClasses : List Text

/-- The data of the class that all test classes extend. -/
structure FixtureContext where
  package : Text
  baseUrl : Text
  apiTitle : Text
  apiVersion : Text

/-- A field of a model class. -/
structure FieldContext where
  /-- The name of the property in JSON. -/
  name : Text
  fieldName : Text
  type : Text
  /-- The field's name with a capital, as it stands in the names of its accessors. -/
  capitalised : Text
  description : Text
  deriving DecidableEq

/-- The data of a model class. -/
structure ModelContext where
  package : Text
  className : Text
  schemaName : Text
  description : Text
  fields : List FieldContext
  usesList : Bool

/-- A parameter that a test sends. -/
structure ParameterContext where
  name : Text
  type : Text
  placeholder : Text
  deriving DecidableEq

/-- A test method. -/
structure MethodContext where
  name : Text
  httpMethod : Text
  path : Text
  summary : Text
  hasBody : Bool
  pathParameters : List ParameterContext
  hasPathParameters : Bool
  queryParameters : List ParameterContext
  hasQueryParameters : Bool
  expectedStatus : Text
  deriving DecidableEq

/-- The data of a test class. -/
structure TestClassContext where
  package : Text
  basePackage : Text
  className : Text
  resource : Text
  baseUrl : Text
  methods : List MethodContext

/-- The data of any template. -/
inductive Context where
  | descriptor (c : DescriptorContext)
  | suite (c : SuiteContext)
  | fixture (c : FixtureContext)
  | model (c : ModelContext)
  | testClass (c : TestClassContext)

/-! ## Named data -/

def DescriptorContext.scope (c : DescriptorContext) : Scope := [
  ("project_name", .text c.projectName),
  ("group_id", .text c.groupId),
  ("artifact_id", .text c.artifactId),
  ("api_title", .text c.apiTitle),
  ("api_version", .text c.apiVersion),
  ("api_description", .text c.apiDescription)]

def SuiteContext.scope (c : SuiteContext) : Scope := [
  ("suite_name", .text c.suiteName),
  ("test_name", .text c.testName),
  ("test_classes", .list (c.testClasses.map .text))]

def FixtureContext.scope (c : FixtureContext) : Scope := [
  ("package_name", .text c.package),
  ("base_url", .text c.baseUrl),
  ("api_title", .text c.apiTitle),
  ("api_version", .text c.apiVersion)]

def FieldContext.datum (c : FieldContext) : Datum := .record [
  ("name", .text c.name),
  ("field_name", .text c.fieldName),
  ("type", .text c.type),
  ("capitalised", .text c.capitalised),
  ("description", .text c.description)]

def ModelContext.scope (c : ModelContext) : Scope := [
  ("package_name", .text c.package),
  ("class_name", .text c.className),
  ("schema_name", .text c.schemaName),
  ("description", .text c.description),
  ("fields", .list (c.fields.map FieldContext.datum)),
  ("uses_list", .flag c.usesList)]

def ParameterContext.datum (c : ParameterContext) : Datum := .record [
  ("name", .text c.name),
  ("type", .text c.type),
  ("placeholder", .text c.placeholder)]

def MethodContext.datum (c : MethodContext) : Datum := .record [
  ("method_name", .text c.name),
  ("http_method", .text c.httpMethod),
  ("path", .text c.path),
  ("summary", .text c.summary),
  ("has_body", .flag c.hasBody),
  ("path_params", .list (c.pathParameters.map ParameterContext.datum)),
  ("has_path_params", .flag c.hasPathParameters),
  ("query_params", .list (c.queryParameters.map ParameterContext.datum)),
  ("has_query_params", .flag c.hasQueryParameters),
  ("expected_status", .text c.expectedStatus)]

def TestClassContext.scope (c : TestClassContext) : Scope := [
  ("package_name", .text c.package),
  ("base_package", .text c.basePackage),
  ("class_name", .text c.className),
  ("resource_name", .text c.resource),
  ("base_url", .text c.baseUrl),
  ("methods", .list (c.methods.map MethodContext.datum))]

/-- A context as named data. -/
def Context.scope : Context → Scope
  | .descriptor c => c.scope
  | .suite c => c.scope
  | .fixture c => c.scope
  | .model c => c.scope
  | .testClass c => c.scope

/-! ## Reading -/

def DescriptorContext.ofValue : Reader DescriptorContext := Reader.model fun entries =>
  Checked.apply (Checked.apply (Checked.apply (Checked.apply (Checked.apply
    ((Reader.required "project_name" Reader.text entries).map DescriptorContext.mk)
    (Reader.required "group_id" Reader.text entries))
    (Reader.required "artifact_id" Reader.text entries))
    (Reader.required "api_title" Reader.text entries))
    (Reader.required "api_version" Reader.text entries))
    (Reader.optional "api_description" [] Reader.text entries)

def SuiteContext.ofValue : Reader SuiteContext := Reader.model fun entries =>
  Checked.apply (Checked.apply
    ((Reader.required "suite_name" Reader.text entries).map SuiteContext.mk)
    (Reader.required "test_name" Reader.text entries))
    (Reader.required "test_classes" (Reader.items .notList Reader.text) entries)

def FixtureContext.ofValue : Reader FixtureContext := Reader.model fun entries =>
  Checked.apply (Checked.apply (Checked.apply
    ((Reader.required "package_name" Reader.text entries).map FixtureContext.mk)
    (Reader.required "base_url" Reader.text entries))
    (Reader.required "api_title" Reader.text entries))
    (Reader.required "api_version" Reader.text entries)

def FieldContext.ofValue : Reader FieldContext := Reader.model fun entries =>
  Checked.apply (Checked.apply (Checked.apply (Checked.apply
    ((Reader.required "name" Reader.text entries).map FieldContext.mk)
    (Reader.required "field_name" Reader.text entries))
    (Reader.required "type" Reader.text entries))
    (Reader.required "capitalised" Reader.text entries))
    (Reader.optional "description" [] Reader.text entries)

def ModelContext.ofValue : Reader ModelContext := Reader.model fun entries =>
  Checked.apply (Checked.apply (Checked.apply (Checked.apply (Checked.apply
    ((Reader.required "package_name" Reader.text entries).map ModelContext.mk)
    (Reader.required "class_name" Reader.text entries))
    (Reader.required "schema_name" Reader.text entries))
    (Reader.optional "description" [] Reader.text entries))
    (Reader.required "fields" (Reader.items .notList FieldContext.ofValue) entries))
    (Reader.optional "uses_list" false Reader.truth entries)

def ParameterContext.ofValue : Reader ParameterContext := Reader.model fun entries =>
  Checked.apply (Checked.apply
    ((Reader.required "name" Reader.text entries).map ParameterContext.mk)
    (Reader.required "type" Reader.text entries))
    (Reader.required "placeholder" Reader.text entries)

def MethodContext.ofValue : Reader MethodContext := Reader.model fun entries =>
  let parameters := Reader.items .notList ParameterContext.ofValue
  Checked.apply (Checked.apply (Checked.apply (Checked.apply (Checked.apply (Checked.apply
    (Checked.apply (Checked.apply (Checked.apply
    ((Reader.required "method_name" Reader.text entries).map MethodContext.mk)
    (Reader.required "http_method" Reader.text entries))
    (Reader.required "path" Reader.text entries))
    (Reader.optional "summary" [] Reader.text entries))
    (Reader.optional "has_body" false Reader.truth entries))
    (Reader.optional "path_params" [] parameters entries))
    (Reader.optional "has_path_params" false Reader.truth entries))
    (Reader.optional "query_params" [] parameters entries))
    (Reader.optional "has_query_params" false Reader.truth entries))
    (Reader.optional "expected_status" "200" Reader.text entries)

def TestClassContext.ofValue : Reader TestClassContext := Reader.model fun entries =>
  Checked.apply (Checked.apply (Checked.apply (Checked.apply (Checked.apply
    ((Reader.required "package_name" Reader.text entries).map TestClassContext.mk)
    (Reader.required "base_package" Reader.text entries))
    (Reader.required "class_name" Reader.text entries))
    (Reader.required "resource_name" Reader.text entries))
    (Reader.required "base_url" Reader.text entries))
    (Reader.required "methods" (Reader.items .notList MethodContext.ofValue) entries)

end SuiteForge
