/-
# Settings

What a user may choose. Settings come from environment variables, each with one
prefix; a variable that is empty counts as not set.

| variable, behind the prefix | setting | default |
| --- | --- | --- |
| `BASE_PACKAGE` | the package of all generated classes | `com.automation.tests` |
| `GROUP_ID` | the group of the project | `com.automation` |
| `PROJECT_SUFFIX` | the end of the project's name | `-tests` |
| `DEFAULT_BASE_URL` | the base URL of an API that names none | `http://localhost:8080` |
| `MAX_SPEC_BYTES` | the size of the largest file that is read | 10485760 |
| `ALLOWED_EXTENSIONS` | the extensions of files that are read | `.yaml`, `.yml`, `.json` |
-/

import SuiteForge.Contract.Basic
import SuiteForge.Text.Identifier

namespace SuiteForge

structure Settings where
  basePackage : Text
  groupId : Text
  projectSuffix : Text
  defaultUrl : Text
  maxSpecBytes : Int
  extensions : List Text
  deriving DecidableEq

namespace Settings

def default : Settings where
  basePackage := "com.automation.tests"
  groupId := "com.automation"
  projectSuffix := "-tests"
  defaultUrl := defaultBaseUrl
  maxSpecBytes := 10 * 1024 * 1024
  extensions := [".yaml", ".yml", ".json"]

/-- A package's name: identifiers with dots between them. -/
def isPackage (t : Text) : Bool := (Text.splitOn '.' t).all Text.isIdentifier

/-- A package below the base package. -/
def subpackage (s : Settings) (name : Text) : Text := s.basePackage ++ "." ++ name

/-- A package as a path. -/
def packagePath (package : Text) : Text := Text.replaceSymbol '.' "/" package

/-- The path of the base package. -/
def basePath (s : Settings) : Text := packagePath s.basePackage

/-- The settings, if their base package is a package's name. -/
def check (s : Settings) : Checked Settings :=
  if isPackage s.basePackage then .ok s
  else .error [⟨[.field "base_package"], .rejected (.badPackage s.basePackage)⟩]

theorem check_eq_ok {s t : Settings} :
    s.check = .ok t ↔ isPackage s.basePackage = true ∧ s = t := by
  unfold check
  split <;> simp_all

/-- A package's name. -/
def readPackage : Reader Text
  | .scalar (.text t) =>
    if isPackage t then .ok t else Checked.fault (.rejected (.badPackage t))
  | _ => Checked.fault .notText

/-- Settings read from a value. -/
def ofValue : Reader Settings := Reader.model fun entries =>
  Checked.apply (Checked.apply (Checked.apply (Checked.apply (Checked.apply
    ((Reader.optional "base_package" default.basePackage readPackage entries).map Settings.mk)
    (Reader.optional "group_id" default.groupId Reader.text entries))
    (Reader.optional "project_suffix" default.projectSuffix Reader.text entries))
    (Reader.optional "default_base_url" default.defaultUrl Reader.text entries))
    (Reader.optional "max_spec_bytes" default.maxSpecBytes Reader.integer entries))
    (Reader.optional "allowed_extensions" default.extensions (Reader.items .notTuple Reader.text)
      entries)

/-! ## The environment -/

/-- What environment variables hold. -/
abbrev Environment := Text → Option Text

/-- The prefix of the variables. -/
def variablePrefix : Text := "API_TEST_ENGINE_"

/-- The names of the variables. -/
def variableNames : List Text :=
  ["BASE_PACKAGE", "GROUP_ID", "PROJECT_SUFFIX", "DEFAULT_BASE_URL", "MAX_SPEC_BYTES",
    "ALLOWED_EXTENSIONS"].map fun name => variablePrefix ++ Text.ofString name

/-- The value of a variable that is set and not empty. -/
def lookup (env : Environment) (name : String) : Option Text :=
  (env (variablePrefix ++ name)).filter fun t => !t.isEmpty

/-- The extensions in a list with commas, in lower case. -/
def readExtensions (t : Text) : List Text :=
  (((Text.splitOn ',' t).map Text.strip).filter fun e => !e.isEmpty).map Text.lower

/-- The settings of an environment. -/
def ofEnvironment (env : Environment) : Except Fault Settings := do
  let bytes ← match lookup env "MAX_SPEC_BYTES" with
    | none => .ok default.maxSpecBytes
    | some t => (Numeral.read 10 t).mapError fun f => .stray (.numeral f)
  let settings : Settings := {
    basePackage := (lookup env "BASE_PACKAGE").getD default.basePackage
    groupId := (lookup env "GROUP_ID").getD default.groupId
    projectSuffix := (lookup env "PROJECT_SUFFIX").getD default.projectSuffix
    defaultUrl := (lookup env "DEFAULT_BASE_URL").getD default.defaultUrl
    maxSpecBytes := bytes
    extensions := ((lookup env "ALLOWED_EXTENSIONS").map readExtensions).getD default.extensions }
  settings.check.mapError .invalid

end Settings

end SuiteForge
