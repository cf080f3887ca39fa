/-
# Rendering by name

Templates are rendered by name in a session, which keeps the compiled templates and
the log. Both outlast a fault.
-/

import SuiteForge.Log
import SuiteForge.Template.Cache
import SuiteForge.Template.Directory

namespace SuiteForge

/-- What outlasts a rendering. -/
structure Session where
  cache : TemplateCache Template
  log : List Record

/-- A session in which nothing has happened. -/
def Session.fresh : Session := ⟨.empty, []⟩

/-- A computation in a session. -/
abbrev Rendering := ExceptT Fault (StateM Session)

namespace Rendering

variable {α : Type}

/-- The compiled templates of the session. -/
instance : MonadStateOf (TemplateCache Template) Rendering where
  get := do
    let s ← getThe Session
    pure s.cache
  set cache := modifyThe Session fun s => { s with cache }
  modifyGet f := modifyGetThe Session fun s =>
    let (a, cache) := f s.cache
    (a, { s with cache })

/-- One record. -/
def record (level : Level) (channel : Channel) (text : Text) : Rendering Unit :=
  modifyThe Session fun s => { s with log := s.log ++ [⟨level, channel, text⟩] }

/-- A fault. -/
def fail (f : Fault) : Rendering α := throw f

/-- A value or a fault. -/
def ofExcept : Except Fault α → Rendering α
  | .ok a => pure a
  | .error f => fail f

/-- A computation that uses no templates. -/
def ofLogged (x : Logged Fault α) : Rendering α := do
  modifyThe Session fun s => { s with log := s.log ++ x.log }
  ofExcept x.result

end Rendering

/-- What goes into the log when a template is not compiled. -/
def compileReport (directory : Text) : TemplateFault → Text
  | .notFound name _ => "Template '" ++ name ++ "' not found in " ++ directory
  | .notCompiled name problem =>
    "Template '" ++ name ++ "' has a syntax error at line 1: " ++ Text.ofString problem
  | f => f.message

/-- Compiles a template that is not in the cache. -/
def compileTemplate (d : TemplateDirectory) (name : Text) : Rendering (Option Template) := do
  Rendering.record .debug .templates ("Compiling template for first time: " ++ name)
  match d.compile name with
  | .ok t => pure (some t)
  | .error f => do
    Rendering.record .error .templates (compileReport d.name f)
    Rendering.fail (.template f)

/-- The text of the template of a name. -/
def renderNamed (d : TemplateDirectory) (name : Text) (scope : Scope) : Rendering Text := do
  Rendering.record .debug .templates ("Rendering template: " ++ name)
  let template ← TemplateCache.getOrCompile (compileTemplate d) name
  match Template.renderPieces (isXmlTemplate name) scope (template.getD []) with
  | .ok text => do
    Rendering.record .debug .templates
      ("Template '" ++ name ++ "' rendered successfully | outputLength=" ++
        Text.ofNat text.length ++ " chars")
    pure text
  | .error unknown => do
    Rendering.record .error .templates (TemplateFault.undefined name unknown).message
    Rendering.fail (.template (.undefined name unknown))

end SuiteForge
