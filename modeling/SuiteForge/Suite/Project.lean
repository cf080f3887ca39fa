/-
# Projects

A project is a named list of files in order. A file has a path below the project's
root, with slashes between its segments, and a content.
-/

import SuiteForge.Checked

namespace SuiteForge

/-- A generated file. -/
structure ProjectFile where
  path : Text
  content : Text
  deriving DecidableEq

namespace ProjectFile

/-- The rule that a path breaks: it must not be blank, hold a backslash or begin with a slash. -/
def brokenRule? (path : Text) : Option Rule :=
  if path.isBlank then some .blankPath
  else if path.contains (.char '\\') then some (.backslashInPath path)
  else if path.startsWith "/" then some (.absolutePath path)
  else none

/-- The file, if its path breaks no rule. -/
def check (f : ProjectFile) : Checked ProjectFile :=
  match brokenRule? f.path with
  | some rule => .error [⟨[.field "relative_path"], .rejected rule⟩]
  | none => .ok f

theorem check_eq_ok {f g : ProjectFile} : f.check = .ok g ↔ brokenRule? f.path = none ∧ f = g := by
  unfold check
  split <;> simp_all

/-- A path that breaks no rule. -/
def readPath : Reader Text
  | .scalar (.text t) => match brokenRule? t with
    | some rule => Checked.fault (.rejected rule)
    | none => .ok t
  | _ => Checked.fault .notText

/-- A file read from a value. -/
def ofValue : Reader ProjectFile := Reader.model fun entries =>
  Checked.apply
    ((Reader.required "relative_path" readPath entries).map ProjectFile.mk)
    (Reader.optional "content" [] Reader.text entries)

/-- A file on one line. -/
def display (f : ProjectFile) : Text :=
  "GeneratedFile(" ++ f.path.quoted ++ ", " ++ Text.ofNat f.content.length ++ " chars)"

end ProjectFile

/-- A named list of files. -/
structure Project where
  name : Text
  files : List ProjectFile
  deriving DecidableEq

namespace Project

def fileCount (p : Project) : Nat := p.files.length

def paths (p : Project) : List Text := p.files.map (·.path)

/-- The first file with a path. -/
def find? (p : Project) (path : Text) : Option ProjectFile := p.files.find? (·.path == path)

/-- What a name's field lacks. -/
def nameFaults (name : Text) : List FieldFault :=
  if name.isBlank then [⟨[.field "project_name"], .rejected .blankProjectName⟩] else []

/-- What the field of the files lacks. -/
def filesFaults (files : List ProjectFile) : List FieldFault :=
  if files.isEmpty then [⟨[.field "files"], .rejected .noFiles⟩] else []

/-- The project, if it has a name and a file. -/
def check (p : Project) : Checked Project :=
  match nameFaults p.name ++ filesFaults p.files with
  | [] => .ok p
  | faults => .error faults

theorem check_eq_ok {p q : Project} :
    p.check = .ok q ↔ p.name.isBlank = false ∧ p.files ≠ [] ∧ p = q := by
  unfold check nameFaults filesFaults
  by_cases h : p.name.isBlank = true <;> by_cases h2 : p.files = [] <;> simp_all

/-- A name that is not blank. -/
def readName : Reader Text
  | .scalar (.text t) => if t.isBlank then Checked.fault (.rejected .blankProjectName) else .ok t
  | _ => Checked.fault .notText

/-- Files, of which there must be one. -/
def readFiles (v : Value) : Checked (List ProjectFile) := do
  let fs ← Reader.items .notTuple ProjectFile.ofValue v
  if fs.isEmpty then Checked.fault (.rejected .noFiles) else .ok fs

/-- A project read from a value. -/
def ofValue : Reader Project := Reader.model fun entries =>
  Checked.apply
    ((Reader.required "project_name" readName entries).map Project.mk)
    (Reader.required "files" readFiles entries)

/-- A project on one line. -/
def display (p : Project) : Text :=
  "GeneratedProject(name=" ++ p.name.quoted ++ ", files=" ++ Text.ofNat p.fileCount ++ ")"

end Project

end SuiteForge
