/-
# Reading a document and its dialect

A document's text is YAML, of which JSON is a part; the document is a mapping. It
is of the dialect 3.x if its entry `openapi` is shown as a text that begins with
`3.`.

What asks for a text takes the number of `calls` that are open where it is asked.
-/

import SuiteForge.Document
import SuiteForge.Machine
import SuiteForge.Yaml.Load

namespace SuiteForge

/-- The fault of a text that is no document. -/
def Fault.ofYaml : Yaml.Fault → Fault
  | .malformed problem => .parse (.notYaml problem)
  | .tooDeep => .parse .tooDeep
  | .value f => .stray (.value f)

/-- The text of a key. -/
def keyText (key : Scalar) : Except Fault Text := key.display.mapError fun f => .stray (.numeral f)

variable [Machine]

/-- The text of a value, or why it has none. -/
def shown (v : Value) (calls : Nat) : Except Fault Text :=
  (v.display (Machine.room calls)).mapError .ofText

/-- The text of an entry; an entry that is missing or null has the empty one. -/
def textOf (v? : Option Value) (calls : Nat := 0) : Except Fault Text :=
  match v? with
  | none => .ok []
  | some v => if v.isNull then .ok [] else shown v (calls + 1)

namespace Document

/-- The document that a text holds. -/
def read (text : List Char) : Except Fault Document :=
  if (Text.ofChars text).isBlank then .error (.parse .emptyDocument)
  else match Yaml.load text with
    | .error f => .error (.ofYaml f)
    | .ok none => .error (.parse .notMapping)
    | .ok (some d) => match d.node d.root with
      | .map _ => .ok d
      | _ => .error (.parse .notMapping)

/-- The tree of an entry of the root. -/
def entry? (d : Document) (key : Text) : Option Value :=
  match d.node d.root with
  | .map entries => (Entries.find? (.text key) entries).map d.value
  | _ => none

end Document

/-- The families of descriptions. -/
inductive Dialect where
  | openapi3
  | swagger2
  | unknown
  deriving DecidableEq

namespace Dialect

def name : Dialect → Text
  | openapi3 => "openapi3"
  | swagger2 => "swagger2"
  | unknown => "unknown"

/-- The dialect of a document. -/
def of (d : Document) (calls : Nat := 0) : Except Fault Dialect := do
  let version ← textOf (d.entry? "openapi") calls
  if version.startsWith "3." then .ok openapi3
  else if (d.entry? "swagger").isSome then .ok swagger2
  else .ok unknown

/-- Only documents of the dialect 3.x are admitted. -/
def ensureOpenApi3 (d : Document) (calls : Nat := 0) : Except Fault Unit := do
  match ← of d (calls + 1) with
  | openapi3 => .ok ()
  | swagger2 => .error (.parse .swagger2)
  | unknown => .error (.parse .notOpenApi3)

end Dialect

end SuiteForge
