/-
# Wrong usage

Arguments may be wrong by themselves, and for the files that they name. A fault of
usage ends the program with exit code 2 and is shown under a line on usage; misplaced
values of flags are shown without it.
-/

import SuiteForge.CommandLine.Command
import SuiteForge.Text.Quoted

namespace SuiteForge

/-- What is wrong with arguments. -/
inductive UsageFault where
  | noSuchFlag (spelling : Text) (similar : List Text)
  | needsValue (spelling : Text)
  | takesNoValue (spelling : Text)
  | noSuchCommand (name : Text) (similar : List Text)
  | missingCommand
  | missingPath
  | extra (arguments : List Text)
  /-- No file of a contract has this path. -/
  | noSuchFile (path : Text)
  /-- The path of a contract is that of a directory. -/
  | directory (path : Text)
  /-- The path of an archive is that of a directory. -/
  | outputDirectory (path : Text)
  | unsupported (suffix : Text) (extensions : List Text)
  | emptyFile
  | tooLarge (size : Nat) (limit : Int)
  deriving DecidableEq

namespace UsageFault

/-- The exit code of a program that is used in a wrong way. -/
def exitCode : Nat := 2

/-- What might have been meant. -/
def suggestion : List Text → Text
  | [] => []
  | [name] => " Did you mean " ++ name.quoted ++ "?"
  | names => " (Did you mean one of: " ++ Text.join ", " (names.map Text.quoted) ++ "?)"

/-- The path's place among the arguments. -/
def pathLabel : Text := "SPEC_PATH"

/-- The flag for the archive's path. -/
def outputLabel : Text := Text.join " / " (Flag.output.spellings.map Text.quoted)

/-- A value that is not taken. -/
def invalidValue (label reason : Text) : Text := "Invalid value for " ++ label ++ ": " ++ reason

def message : UsageFault → Text
  | noSuchFlag spelling similar => "No such option " ++ spelling.quoted ++ "." ++ suggestion similar
  | needsValue spelling => "Option " ++ spelling.quoted ++ " requires an argument."
  | takesNoValue spelling => "Option " ++ spelling.quoted ++ " does not take a value."
  | noSuchCommand name similar => "No such command " ++ name.quoted ++ "." ++ suggestion similar
  | missingCommand => "Missing command."
  | missingPath => "Missing argument " ++ pathLabel.quoted ++ "."
  | extra [argument] => "Got unexpected extra argument (" ++ argument ++ ")"
  | extra arguments => "Got unexpected extra arguments (" ++ Text.join " " arguments ++ ")"
  | noSuchFile path =>
    invalidValue pathLabel.quoted ("File " ++ path.quoted ++ " does not exist.")
  | directory path => invalidValue pathLabel.quoted ("File " ++ path.quoted ++ " is a directory.")
  | outputDirectory path => invalidValue outputLabel ("File " ++ path.quoted ++ " is a directory.")
  | unsupported suffix extensions =>
    invalidValue pathLabel ("Unsupported file type '" ++ suffix ++ "'. Expected one of: " ++
      Text.join ", " extensions ++ ".")
  | emptyFile => invalidValue pathLabel "File is empty. Please provide a valid OpenAPI spec."
  | tooLarge size limit =>
    invalidValue pathLabel ("File is " ++ Text.ofNat size ++
      " bytes; the maximum allowed size is " ++ Text.ofInt limit ++ " bytes.")

/-- A line on usage is shown above the fault. -/
def showsUsage : UsageFault → Bool
  | needsValue _ | takesNoValue _ => false
  | _ => true

/-- A fault as it is shown. -/
def report (topic : HelpTopic) (f : UsageFault) : Text :=
  let usage := topic.usage ++ "Try '" ++ topic.call ++ " " ++ Flag.help.long ++ "' for help.\n\n"
  (if f.showsUsage then usage else []) ++ "Error: " ++ f.message ++ "\n"

end UsageFault

end SuiteForge
