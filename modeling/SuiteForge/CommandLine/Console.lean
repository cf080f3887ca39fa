/-
# The console

A command prints lines, keeps records, leaves archives behind, and ends with an exit
code or in a crash. What it did before a crash remains.

Standard output takes only what can be encoded. The error stream takes everything: it shows
lone surrogates as escapes.
-/

import SuiteForge.CommandLine.UsageFault
import SuiteForge.FilePath
import SuiteForge.FileState
import SuiteForge.Pipeline

namespace SuiteForge

/-- What a command finds when it starts. -/
structure Surroundings where
  environment : Settings.Environment
  /-- What is found under a path as it is written. -/
  disk : Text → FileState
  /-- The trace of a request that names none. -/
  freshTrace : TraceId

/-- How a command ends. -/
inductive Ending where
  | exit (code : Nat)
  /-- A fault that the command does not answer for. -/
  | crash (f : Fault)

/-- The exit code of an ending. -/
def Ending.code : Ending → Nat
  | exit code => code
  | crash _ => 1

/-- What a command has done. -/
structure Console where
  out : Text
  err : Text
  session : Session
  archives : List (FilePath × Archive)

/-- A console on which nothing has happened. -/
def Console.fresh : Console := ⟨[], [], .fresh, []⟩

/-- A command at work. -/
abbrev Run := ExceptT Ending (StateM Console)

namespace Run

variable {α : Type}

/-- The command ends here. -/
def stop (e : Ending) : Run α := throw e

def crash (s : Stray) : Run α := stop (.crash (.stray s))

/-- A text on standard output. -/
def print (t : Text) : Run Unit :=
  if t.utf8?.isNone then crash .unencodable
  else modify fun c => { c with out := c.out ++ t }

/-- A line on standard output. -/
def say (line : Text) : Run Unit := print (line ++ "\n")

/-- A text on the error stream. -/
def complain (t : Text) : Run Unit := modify fun c => { c with err := c.err ++ t.escaped }

/-- A fault of usage ends the command. -/
def misuse (topic : HelpTopic) (f : UsageFault) : Run α := do
  complain (f.report topic)
  stop (.exit UsageFault.exitCode)

/-- One record. -/
def record (level : Level) (trace : TraceId) (message : Text) : Run Unit :=
  modify fun c =>
    let r : Record := ⟨level, .commandLine, trace.mark message⟩
    { c with session := { c.session with log := c.session.log ++ [r] } }

/-- A request's failure: it goes into the log in full, and the user is told what is public. -/
def failure (trace : TraceId) (c : Category) (message : Text) : Run α := do
  record (if c = .parse then .warning else .error) trace (c.code ++ " failed: " ++ message)
  complain
    ("Error (" ++ c.code ++ "): " ++ c.publicMessage message ++ " [traceId=" ++ trace ++ "]\n")
  stop (.exit (c.exitCode?.getD 1))

/-- The result of a request. -/
def request (trace : TraceId) (x : Rendering α) : Run α := do
  let console ← get
  let (result, session) := x.run.run console.session
  set { console with session }
  match result with
  | .ok a => pure a
  | .error f => match f.failure? with
    | some (category, message) => failure trace category message
    | none => stop (.crash f)

/-- What is found under a path. -/
def look (w : Surroundings) (path : Text) : Run FileState :=
  if path.contains (.char '\x00') then crash .zeroInPath else pure (w.disk path)

/-- Leaves an archive under a path, in directories that are made where they are missing. -/
def save (w : Surroundings) (path : FilePath) (a : Archive) : Run Unit := do
  let parent := path.parent
  match w.disk parent.toText with
  | .file _ => crash (.fileExists parent.toText)
  | .directory => pure ()
  | .missing =>
    if parent.ancestors.any fun p => (w.disk p.toText).isFile then
      crash (.notDirectory parent.toText)
  if (w.disk path.toText).isDirectory then crash (.isDirectory path.toText)
  modify fun c => { c with archives := c.archives ++ [(path, a)] }

end Run

end SuiteForge
