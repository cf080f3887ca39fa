/-
# Names in a generated suite

| from | to | example |
| --- | --- | --- |
| title | project | `Pet Store API` gives `pet-store-api-tests` |
| path | group | `/users/\x7bid\x7d` gives `users`, `/` gives `root` |
| group, schema | class | `line items` gives `LineItems` |
| operation id | method | `list-pets` gives `testListPets` |
| property | field | `first-name` gives `firstName` |
-/

import SuiteForge.Text.Case
import SuiteForge.Text.Digit

namespace SuiteForge

/-! ## Projects and groups -/

/-- A lower-case ASCII letter or an ASCII digit. -/
def isSlugSymbol (s : Symbol) : Bool :=
  (0x61 ≤ s.code && s.code ≤ 0x7A) || s.isAsciiDigit

/-- The name of a project: the words of its title in lower case with hyphens between them, `api` for
a title without words, and a suffix. -/
def projectName (title suffix : Text) : Text :=
  let words := Text.runs isSlugSymbol title.lower
  (if words.isEmpty then Text.ofString "api" else Text.join "-" words) ++ suffix

/-- The group of paths that have no segment with content. -/
def rootGroup : Text := "root"

/-- A path's segment without braces and without blanks around it. -/
def cleanSegment (segment : Text) : Text :=
  Text.strip (segment.filter fun s => s != .char '\x7b' && s != .char '\x7d')

/-- The group of a path: its first segment with content, in lower case. -/
def resourceGroup (path : Text) : Text :=
  match ((Text.splitOn '/' path).map cleanSegment).find? fun s => !s.isEmpty with
  | some segment => segment.lower
  | none => rootGroup

/-! ## Classes, methods and fields -/

/-- The runs of ASCII letters and digits of a name. -/
def nameParts (name : Text) : List Text := Text.runs Symbol.isAsciiAlnum name

/-- The parts of a name one after the other, each with a capital. -/
def pascal (parts : List Text) : Text := (parts.map Text.capitalise).flatten

/-- `pre` in front of a name that begins with a digit. -/
def guardDigit (pre : Text) : Text → Text
  | [] => []
  | s :: rest => if s.isDigit then pre ++ (s :: rest) else s :: rest

/-- The class of a resource or a schema. -/
def className (name : Text) : Text :=
  let parts := nameParts name
  if parts.isEmpty then "Unknown" else guardDigit "Api" (pascal parts)

/-- An operation id as a part of a method's name. -/
def operationToken (operationId : Text) : Text :=
  let parts := nameParts operationId
  if parts.isEmpty then "UnknownOperation" else pascal parts

/-- The test method of an operation. -/
def testMethodName (operationId : Text) : Text := "test" ++ operationToken operationId

/-- Words that are no identifiers in Java, or not everywhere. -/
def reservedWords : List String := [
  "abstract", "assert", "boolean", "break", "byte", "case", "catch", "char", "class", "const",
  "continue", "default", "do", "double", "else", "enum", "extends", "final", "finally", "float",
  "for", "goto", "if", "implements", "import", "instanceof", "int", "interface", "long", "native",
  "new", "package", "private", "protected", "public", "return", "short", "static", "strictfp",
  "super", "switch", "synchronized", "this", "throw", "throws", "transient", "try", "void",
  "volatile", "while", "true", "false", "null", "var", "record", "yield"]

/-- A symbol of a field's name. -/
def isFieldSymbol (s : Symbol) : Bool := s.isAsciiAlnum || s == .char '_' || s == .char '$'

/-- The field of a property: its parts, all but the first with a capital. A leading digit gets an
underscore in front, a reserved word one behind. -/
def fieldName (property : Text) : Text :=
  match Text.runs isFieldSymbol property with
  | [] => "value"
  | first :: rest =>
    let field := guardDigit "_" (first ++ pascal rest)
    if reservedWords.any fun w => Text.ofString w == field then field ++ Text.ofString "_"
    else field

/-! ## Repeated names -/

/-- The first of the numbers `k`, `k + 1`, … that, put behind a name, gives none of the names
`taken`; the last number tried is `k + tries`. -/
def freeCounter (name : Text) (taken : List Text) : Nat → Nat → Nat
  | 0, k => k
  | tries + 1, k =>
    if taken.contains (name ++ Text.ofNat k) then freeCounter name taken tries (k + 1) else k

/-- The names from here on made unique. `seen` holds the last counter of each name that has come,
`taken` all names that are in use. -/
def numberRepeats : List Text → List (Text × Nat) → List Text → List Text
  | [], _, _ => []
  | name :: rest, seen, taken =>
    match seen.lookup name with
    | none => name :: numberRepeats rest ((name, 1) :: seen) taken
    | some count =>
      let k := freeCounter name taken taken.length (count + 1)
      let fresh := name ++ Text.ofNat k
      fresh :: numberRepeats rest ((name, k) :: seen) (fresh :: taken)

/-- The names made unique: the first occurrence of each stays, repeats get the least counter from 2
on that gives a new name. -/
def deduplicate (names : List Text) : List Text := numberRepeats names [] names

end SuiteForge
