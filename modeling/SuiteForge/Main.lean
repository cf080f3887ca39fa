/-
# The program

The outer layer finds out what is under the paths that the arguments name and what the
environment holds, and shows and writes what the command line makes of it.
-/

import SuiteForge.CommandLine

namespace SuiteForge

namespace Program

/-- A text for the console. -/
def string (t : Text) : String := String.ofList (t.escaped.filterMap Symbol.char?)

/-- What is found under a path. -/
def findFile (path : Text) : IO FileState := do
  try
    let place ← IO.FS.realPath (string path)
    if ← place.isDir then pure .directory
    else pure (.file (← IO.FS.readBinFile place).toList)
  catch _ => pure .missing

/-- What is found under the paths that a run may look at; a path with a zero is not looked for. -/
def findFiles (paths : List Text) : IO (Assoc Text FileState) :=
  (paths.filter fun p => !p.contains (.char '\x00')).mapM fun p => do
    pure (p, ← findFile p)

/-- The variables that are set. -/
def readEnvironment : IO (Assoc Text Text) :=
  Settings.variableNames.filterMapM fun name => do
    let value ← IO.getEnv (string name)
    pure (value.map fun v => (name, Text.ofString v))

/-- A trace of twelve hexadecimal digits. -/
def freshTrace : IO TraceId := do
  let bytes ← IO.getRandomBytes 6
  pure (bytes.toList.flatMap fun b => Text.hex 2 b.toNat)

/-- What a run finds when it starts. -/
def surroundings (arguments : List Text) : IO Surroundings := do
  let files ← findFiles (CommandLine.paths arguments)
  let values ← readEnvironment
  pure {
    environment := fun name => values.lookup name
    disk := fun p => (files.lookup p).getD .missing
    freshTrace := ← freshTrace }

/-- Writes an archive, and makes the directories for it. -/
def save (path : FilePath) (a : Archive) : IO Unit := do
  IO.FS.createDirAll (string path.parent.toText)
  IO.FS.writeBinFile (string path.toText) ⟨a.bytes.toArray⟩

/-- Runs the command line, and shows and writes what it did. -/
def run (arguments : List Text) : IO UInt32 := do
  let (ending, console) := CommandLine.run (← surroundings arguments) arguments
  for r in console.session.log do
    if (CommandLine.shownLevel arguments).rank ≤ r.level.rank then IO.eprintln (string r.line)
  for a in console.archives do
    save a.1 a.2
  IO.print (string console.out)
  IO.eprint (string console.err)
  if let .crash _ := ending then IO.eprintln "Error: a value is not supported."
  pure ending.code.toUInt32

end Program

end SuiteForge

def main (arguments : List String) : IO UInt32 :=
  SuiteForge.Program.run (arguments.map SuiteForge.Text.ofString)
