/-
# Files

What is found under a path, and the text of a contract's file.
-/

import SuiteForge.Fault
import SuiteForge.Text.Utf8

namespace SuiteForge

/-- What is found under a path. -/
inductive FileState where
  | missing
  | directory
  | file (bytes : List UInt8)

namespace FileState

def isFile : FileState → Bool
  | file _ => true
  | missing | directory => false

def isDirectory : FileState → Bool
  | directory => true
  | missing | file _ => false

/-- The text of a contract's file. -/
def text : FileState → Except ParseFault (List Char)
  | missing => .error .missingFile
  | directory => .error .isDirectory
  | file bytes => match Utf8.decode? bytes with
    | some cs => .ok cs
    | none => .error .notUtf8

end FileState

end SuiteForge
