/-
# The command line

`generate` writes a contract's suite to an archive; `inspect` shows what a contract says.
The paths among the arguments are looked at before anything is done: the archive's
first, if it is given, then the contract's.

| ending | exit code |
| --- | ---: |
| done | 0 |
| crash | 1 |
| wrong usage | 2 |
| failure of a request | that of its category |
-/

import SuiteForge.CommandLine.Arguments
import SuiteForge.CommandLine.Console

namespace SuiteForge

namespace CommandLine

variable [Machine]

/-- Whether a file may be a contract, by its name and size. -/
def checkUpload (s : Settings) (path : FilePath) (size : Nat) : Except UsageFault Unit :=
  if !s.extensions.contains path.suffix.lower then .error (.unsupported path.suffix s.extensions)
  else if size = 0 then .error .emptyFile
  else if s.maxSpecBytes < size then .error (.tooLarge size s.maxSpecBytes)
  else .ok ()

/-- The path of the contract, and its size. -/
def contractPath (w : Surroundings) (c : Command) (a : Arguments) : Run (FilePath × Nat) := do
  let misuse {α : Type} (f : UsageFault) : Run α := Run.misuse (some c) f
  if let some output := a.value? .output then
    if (← Run.look w output).isDirectory then misuse (.outputDirectory output)
  match a.others with
  | [] => misuse .missingPath
  | path :: others => match ← Run.look w path with
    | .missing => misuse (.noSuchFile path)
    | .directory => misuse (.directory path)
    | .file bytes =>
      if others.isEmpty then pure (.ofText path, bytes.length) else misuse (.extra others)

/-- The text of a contract. -/
def contractText (w : Surroundings) (path : FilePath) : Rendering (List Char) :=
  Rendering.ofExcept ((w.disk path.toText).text.mapError .parse)

/-- The path of an archive that is given none. -/
def defaultOutput (path : FilePath) : FilePath := .ofText (path.stem ++ "-automation-tests.zip")

/-- The trace that is given and not empty, or a fresh one. -/
def traceOf (w : Surroundings) (a : Arguments) : TraceId :=
  ((a.value? .traceId).filter fun t => !t.isEmpty).getD w.freshTrace

def generate (w : Surroundings) (s : Settings) (a : Arguments) (path : FilePath) : Run Unit := do
  let trace := traceOf w a
  let output := ((a.value? .output).map .ofText).getD (defaultOutput path)
  Run.say ("Parsing " ++ path.toText ++ "...")
  let archive ← Run.request trace do
    let text ← contractText w path
    Pipeline.run .bundled s trace text
  Run.save w output archive
  Run.say ("Generated " ++ output.toText ++ " (" ++ Text.ofNat archive.bytes.length ++ " bytes)")

/-- The line of an endpoint. -/
def endpointLine (e : Endpoint) : Text :=
  "  " ++ e.method.name.padded 7 ++ " " ++ e.path ++ "  (" ++ e.operationId ++ ")"

/-- The lines of a resource group, with an empty one in front. -/
def groupLines (resource : Text) (endpoints : List Endpoint) : List Text :=
  ("\n[" ++ resource ++ "]") :: endpoints.map endpointLine

/-- The lines of a contract. -/
def contractLines (c : Contract) : List Text := [
  "Title:     " ++ c.title,
  "Version:   " ++ c.version,
  "Base URL:  " ++ c.baseUrl,
  "Found " ++ Text.ofNat c.endpointCount ++ " endpoints, " ++ Text.ofNat c.schemas.length ++
    " schemas."] ++
  (groupEndpoints c.endpoints).flatMap fun g => groupLines g.1 g.2

def inspect (w : Surroundings) (s : Settings) (path : FilePath) : Run Unit := do
  let contract ← Run.request w.freshTrace do
    let text ← contractText w path
    Rendering.ofLogged (translate w.freshTrace s.defaultUrl text)
  (contractLines contract).forM Run.say

/-- A command with its arguments. -/
def perform (w : Surroundings) (c : Command) (a : Arguments) : Run Unit := do
  let (path, size) ← contractPath w c a
  match Settings.ofEnvironment w.environment with
  | .error f => Run.stop (.crash f)
  | .ok s => match checkUpload s path size with
    | .error f => Run.misuse (some c) f
    | .ok () => match c with
      | .generate => generate w s a path
      | .inspect => inspect w s path

/-- What some arguments ask for; help is due where there are none. -/
def answer (w : Surroundings) (arguments : List Text) : Run Unit := do
  if arguments.isEmpty then
    Run.complain (HelpTopic.help none)
    Run.stop (.exit UsageFault.exitCode)
  match Request.ofArguments arguments with
  | .error (topic, f) => Run.misuse topic f
  | .ok (.help topic) => Run.print topic.help
  | .ok (.run c a) => perform w c a

/-- How the program ends, and what it has done. -/
def run (w : Surroundings) (arguments : List Text) : Ending × Console :=
  match (answer w arguments).run.run .fresh with
  | (.ok (), console) => (.exit 0, console)
  | (.error e, console) => (e, console)

/-- The lowest level of records that are shown. -/
def shownLevel (arguments : List Text) : Level :=
  match Request.ofArguments arguments with
  | .ok (.run _ a) => if a.has .verbose then .debug else .warning
  | _ => .warning

/-- The paths that a run may look at. -/
def paths (arguments : List Text) : List Text :=
  match Request.ofArguments arguments with
  | .ok (.run _ a) =>
    let given := (a.value? .output).toList
    let specs := a.others.take 1
    let outputs := given.map .ofText ++ specs.map fun t => defaultOutput (.ofText t)
    given ++ specs ++ specs.map (fun t => (FilePath.ofText t).toText) ++
      (outputs.flatMap fun p => p :: p.parent :: p.ancestors).map FilePath.toText
  | _ => []

end CommandLine

end SuiteForge
