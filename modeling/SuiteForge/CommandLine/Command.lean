/-
# Commands and their flags

| command | arguments |
| --- | --- |
| `generate` | `SPEC_PATH`, `-o`/`--output FILE`, `--trace-id TEXT`, `-v`/`--verbose` |
| `inspect` | `SPEC_PATH`, `-v`/`--verbose` |

Help is given for a command, and for the program as a whole.
-/

import SuiteForge.Text

namespace SuiteForge

/-- The program's name. -/
def programName : Text := "main"

inductive Flag where
  | output
  | traceId
  | verbose
  | help
  deriving DecidableEq

namespace Flag

/-- A flag's spelling with one hyphen. -/
def short? : Flag → Option Text
  | output => some "-o"
  | verbose => some "-v"
  | traceId | help => none

/-- A flag's spelling with two hyphens. -/
def long : Flag → Text
  | output => "--output"
  | traceId => "--trace-id"
  | verbose => "--verbose"
  | help => "--help"

def spellings (f : Flag) : List Text := f.short?.toList ++ [f.long]

/-- What stands for the value of a flag that takes one. -/
def placeholder? : Flag → Option Text
  | output => some "FILE"
  | traceId => some "TEXT"
  | verbose | help => none

def takesValue (f : Flag) : Bool := f.placeholder?.isSome

def description : Flag → Text
  | output => "Output ZIP path. Defaults to <spec>-automation-tests.zip."
  | traceId => "Correlation id attached to every log line."
  | verbose => "Enable debug logging."
  | help => "Show this message and exit."

/-- How a flag is written, with its value. -/
def synopsis (f : Flag) : Text :=
  Text.join " " (Text.join ", " f.spellings :: f.placeholder?.toList)

end Flag

inductive Command where
  | generate
  | inspect
  deriving DecidableEq

namespace Command

def name : Command → Text
  | generate => "generate"
  | inspect => "inspect"

def all : List Command := [generate, inspect]

def ofName? (t : Text) : Option Command := all.find? (·.name == t)

def description : Command → Text
  | generate => "Generate a zipped test project from an OpenAPI document."
  | inspect => "Show what the engine reads from an OpenAPI document."

def flags : Command → List Flag
  | generate => [.output, .traceId, .verbose, .help]
  | inspect => [.verbose, .help]

end Command

/-- Where help is asked for: in front of a command, or behind one. -/
abbrev HelpTopic := Option Command

namespace HelpTopic

/-- The words that call for a topic. -/
def call : HelpTopic → Text
  | none => programName
  | some c => programName ++ " " ++ c.name

def flags : HelpTopic → List Flag
  | none => [.help]
  | some c => c.flags

/-- What may stand behind the call. -/
def synopsis : HelpTopic → Text
  | none => "[OPTIONS] COMMAND [ARGS]..."
  | some _ => "[OPTIONS] SPEC_PATH"

def description : HelpTopic → Text
  | none => "API Test Engine: turn an OpenAPI contract into a RestAssured test project."
  | some c => c.description

/-- The usage line. -/
def usage (t : HelpTopic) : Text := "Usage: " ++ t.call ++ " " ++ t.synopsis ++ "\n"

/-- A title and rows in two columns. -/
def table (title : Text) (rows : List (Text × Text)) : Text :=
  let width := (rows.map fun r => r.1.length).foldl max 0
  let row (r : Text × Text) : Text := "  " ++ r.1.padded width ++ "  " ++ r.2 ++ "\n"
  title ++ ":\n" ++ rows.flatMap row

/-- The help text. -/
def help (t : HelpTopic) : Text :=
  t.usage ++ "\n  " ++ t.description ++ "\n\n" ++
    table "Options" (t.flags.map fun f => (f.synopsis, f.description)) ++
    match t with
    | none => "\n" ++ table "Commands" (Command.all.map fun c => (c.name, c.description))
    | some _ => []

end HelpTopic

end SuiteForge
