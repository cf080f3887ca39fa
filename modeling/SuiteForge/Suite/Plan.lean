/-
# The plan of a suite

A contract and settings determine which files a suite has, in which order, and what
each is rendered with. The plan lists them before anything is rendered:

| files | one for each |
| --- | --- |
| `pom.xml`, `testng.xml`, `BaseTest.java` | |
| `model/<Schema>.java` | object schema with properties |
| `tests/<Resource>ApiTest.java` | resource group of the endpoints |
-/

import SuiteForge.Settings
import SuiteForge.Suite.Context
import SuiteForge.Suite.JavaType
import SuiteForge.Suite.Naming
import SuiteForge.Template.Bundled

namespace SuiteForge

/-! ## Endpoints -/

/-- The endpoints of each resource group, in the order in which the groups come first. -/
def groupEndpoints (endpoints : List Endpoint) : Assoc Text (List Endpoint) :=
  endpoints.foldl
    (fun groups e => Assoc.alter (resourceGroup e.path) (fun old => old.getD [] ++ [e]) groups) []

/-- The status that a test expects: 201 where it is declared, and otherwise 200. -/
def Endpoint.expectedStatus (e : Endpoint) : Text :=
  let created : Text := "201"
  if e.statusCodes.contains created || (e.responses.map (·.1)).contains created then created
  else "200"

/-- What a test knows of a parameter. -/
def ParameterContext.ofParameter (p : Parameter) : ParameterContext where
  name := p.name
  type := p.type.javaType
  placeholder := p.type.placeholder

/-- The test method of an endpoint, under a name. -/
def MethodContext.ofEndpoint (e : Endpoint) (name : Text) : MethodContext where
  name := name
  httpMethod := e.method.key
  path := e.path
  summary := e.summary
  hasBody := e.hasBody
  pathParameters := e.pathParameters.map .ofParameter
  hasPathParameters := e.hasPathParameters
  queryParameters := e.queryParameters.map .ofParameter
  hasQueryParameters := !e.queryParameters.isEmpty
  expectedStatus := e.expectedStatus

/-! ## Packages, classes and paths -/

namespace Settings

def fixturePackage (s : Settings) : Text := s.subpackage "base"

def modelPackage (s : Settings) : Text := s.subpackage "model"

def testPackage (s : Settings) : Text := s.subpackage "tests"

end Settings

/-- The path of a class's source. -/
def sourcePath (package className : Text) : Text :=
  "src/test/java/" ++ Settings.packagePath package ++ "/" ++ className ++ ".java"

/-- The test class of a resource group. -/
def testClassName (resource : Text) : Text := className resource ++ "ApiTest"

/-- The name of the class that all test classes extend. -/
def fixtureName : Text := "BaseTest"

/-! ## Contexts -/

/-- The fields of a model class: one for each property, in order. -/
def modelFields (properties : List (Text × Schema)) : List FieldContext :=
  let names := deduplicate (properties.map fun p => fieldName p.1)
  (properties.zip names).map fun (p, name) => {
    name := p.1
    fieldName := name
    type := p.2.type.javaType
    capitalised := name.capitalise
    description := p.2.description }

/-- The model class of a schema. -/
def ModelContext.ofSchema (s : Settings) (name : Text) (schema : Schema) : ModelContext where
  package := s.modelPackage
  className := SuiteForge.className name
  schemaName := name
  description := schema.description
  fields := modelFields schema.properties
  usesList := schema.properties.any fun p => p.2.type == .list

/-- The test methods of the endpoints of a group. -/
def groupMethods (endpoints : List Endpoint) : List MethodContext :=
  let names := deduplicate (endpoints.map fun e => testMethodName e.operationId)
  (endpoints.zip names).map fun (e, name) => .ofEndpoint e name

/-- The test class of a group. -/
def TestClassContext.ofGroup (s : Settings) (baseUrl resource : Text) (endpoints : List Endpoint) :
    TestClassContext where
  package := s.testPackage
  basePackage := s.fixturePackage
  className := testClassName resource
  resource := resource
  baseUrl := baseUrl
  methods := groupMethods endpoints

namespace Contract

/-- The schemas that get a model class. -/
def objectSchemas (c : Contract) : List (Text × Schema) := c.schemas.filter (·.2.isObject)

def groups (c : Contract) : Assoc Text (List Endpoint) := groupEndpoints c.endpoints

def projectName (c : Contract) (s : Settings) : Text :=
  SuiteForge.projectName c.title s.projectSuffix

def descriptor (c : Contract) (s : Settings) : DescriptorContext where
  projectName := c.projectName s
  groupId := s.groupId
  artifactId := c.projectName s
  apiTitle := c.title
  apiVersion := c.version
  apiDescription := c.description

def suite (c : Contract) (s : Settings) : SuiteContext where
  suiteName := c.title ++ " API Test Suite"
  testName := c.title ++ " Tests"
  testClasses := c.groups.map fun g => s.testPackage ++ "." ++ testClassName g.1

def fixture (c : Contract) (s : Settings) : FixtureContext where
  package := s.fixturePackage
  baseUrl := c.baseUrl
  apiTitle := c.title
  apiVersion := c.version

def models (c : Contract) (s : Settings) : List ModelContext :=
  c.objectSchemas.map fun p => .ofSchema s p.1 p.2

def testClasses (c : Contract) (s : Settings) : List TestClassContext :=
  c.groups.map fun g => .ofGroup s c.baseUrl g.1 g.2

end Contract

/-! ## Tasks -/

/-- A file to be made. -/
structure Task where
  /-- What goes into the log before it is made. -/
  note : Option Text
  path : Text
  context : Context

/-- The template of a context. -/
def Context.template : Context → TemplateId
  | .descriptor _ => .descriptor
  | .suite _ => .suite
  | .fixture _ => .fixture
  | .model _ => .model
  | .testClass _ => .testClass

namespace Task

def ofDescriptor (c : DescriptorContext) : Task :=
  ⟨some "Generating pom.xml", "pom.xml", .descriptor c⟩

def ofSuite (c : SuiteContext) : Task := ⟨some "Generating testng.xml", "testng.xml", .suite c⟩

def ofFixture (c : FixtureContext) : Task :=
  ⟨some "Generating BaseTest.java", sourcePath c.package fixtureName, .fixture c⟩

def ofModel (note : Option Text) (c : ModelContext) : Task :=
  ⟨note, sourcePath c.package c.className, .model c⟩

def ofTestClass (c : TestClassContext) : Task :=
  ⟨some ("Generating test class for resource '" ++ c.resource ++ "' (" ++
      Text.ofNat c.methods.length ++ " endpoint(s))"),
    sourcePath c.package c.className, .testClass c⟩

/-- The tasks of model classes; their number goes into the log before the first. -/
def ofModels : List ModelContext → List Task
  | [] => []
  | m :: rest =>
    .ofModel (some ("Generating " ++ Text.ofNat (rest.length + 1) ++ " model class(es)")) m ::
      rest.map (.ofModel none)

theorem context_ofModels (ms : List ModelContext) :
    (ofModels ms).map (·.context) = ms.map .model := by
  cases ms <;> simp [ofModels, ofModel]

theorem path_ofModels (ms : List ModelContext) :
    (ofModels ms).map (·.path) = ms.map fun m => sourcePath m.package m.className := by
  cases ms <;> simp [ofModels, ofModel]

end Task

namespace Contract

/-- The files that belong to every suite. -/
def fixedTasks (c : Contract) (s : Settings) : List Task :=
  [.ofDescriptor (c.descriptor s), .ofSuite (c.suite s), .ofFixture (c.fixture s)]

/-- All files of a suite, in order. -/
def tasks (c : Contract) (s : Settings) : List Task :=
  c.fixedTasks s ++ Task.ofModels (c.models s) ++ (c.testClasses s).map .ofTestClass

end Contract

end SuiteForge
