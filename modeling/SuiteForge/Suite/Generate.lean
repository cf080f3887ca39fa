/-
# Generating a suite

The tasks of a contract's plan are carried out one by one: each renders its template
and makes its file. The files are then put together to a project, if none is faulty.
-/

import SuiteForge.Suite.Plan
import SuiteForge.Suite.Report
import SuiteForge.Template.Render

namespace SuiteForge

/-- A record of the generation for one request. -/
def noteGeneration (trace : TraceId) (level : Level) (message : Text) : Rendering Unit :=
  Rendering.record level .generation (trace.mark message)

/-- The names of groups, as a list. -/
def showGroups (names : List Text) : Text :=
  "[" ++ Text.join ", " (names.map Text.quoted) ++ "]"

/-- The file of a task. -/
def Task.run (d : TemplateDirectory) (trace : TraceId) (t : Task) : Rendering ProjectFile := do
  match t.note with
  | some note => noteGeneration trace .debug note
  | none => pure ()
  let content ← renderNamed d t.context.template.name t.context.scope
  Rendering.ofExcept ((ProjectFile.check ⟨t.path, content⟩).mapError .invalid)

/-- The files of tasks, in order. -/
def runTasks (d : TemplateDirectory) (trace : TraceId) : List Task → Rendering (List ProjectFile)
  | [] => pure []
  | t :: rest => do
    let f ← t.run d trace
    let more ← runTasks d trace rest
    pure (f :: more)

/-- The project of a contract. -/
def generate (d : TemplateDirectory) (settings : Settings) (trace : TraceId) (contract : Contract) :
    Rendering Project := do
  noteGeneration trace .info ("Starting project generation | " ++ contract.display)
  noteGeneration trace .debug ("Endpoint groups: " ++ showGroups (contract.groups.map (·.1)))
  let files ← runTasks d trace (contract.tasks settings)
  let project ← Rendering.ofExcept (Project.assemble (contract.projectName settings) files)
  noteGeneration trace .info ("Project generation complete | " ++ project.display)
  pure project

end SuiteForge
