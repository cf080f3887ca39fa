/-
# Directories of templates

A template is looked up by its name. Empty segments and dots in a name are passed
over; a name that leaves the directory stands for nothing. Templates whose names end
in `.xml.j2`, in any case, are templates for XML.
-/

import SuiteForge.Fault
import SuiteForge.Template.Bundled

namespace SuiteForge

/-- Templates by their names; a file that does not compile has none. -/
structure TemplateDirectory where
  /-- What the directory is called in messages. -/
  name : Text
  files : List (Text × Option Template)

namespace TemplateDirectory

/-- The directory of the templates of a suite. -/
def bundled : TemplateDirectory where
  name := "templates"
  files := TemplateId.all.map fun i => (i.name, some i.template)

/-- The file that a name denotes. -/
def path? (name : Text) : Option Text :=
  let segments := Text.splitOn '/' name
  if segments.contains (Text.ofString "..") then none
  else some (Text.join "/" (segments.filter fun s => !s.isEmpty && s != Text.ofString "."))

/-- The template of a name. -/
def compile (d : TemplateDirectory) (name : Text) : Except TemplateFault Template :=
  match (path? name).bind fun path => d.files.lookup path with
  | none => .error (.notFound name d.name)
  | some none => .error (.notCompiled name "unexpected end of template")
  | some (some t) => .ok t

end TemplateDirectory

/-- A template of this name is for XML. -/
def isXmlTemplate (name : Text) : Bool := name.lower.endsWith ".xml.j2"

/-- The templates of a suite are found under their names. -/
theorem compile_bundled (i : TemplateId) :
    TemplateDirectory.bundled.compile i.name = .ok i.template := by
  cases i <;> rfl

end SuiteForge
