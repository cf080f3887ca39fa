/-
# Java sources

Two declarations are looked for in a source, wherever they stand.

| declaration | form |
| --- | --- |
| package | `package`, blanks, a name and a semicolon, at the start of a line |
| type | `class`, `interface`, `enum` or `record`, blanks and a name, at the start of a word |
-/

import SuiteForge.Text.Blank
import SuiteForge.Text.Word

namespace SuiteForge

namespace JavaSource

/-- A symbol that begins a declared name. -/
def isNameStart (s : Symbol) : Bool := s.isAsciiLetter || s == .char '_'

/-- What follows a word and the blanks behind it, if it begins a name. -/
def afterKeyword? (keyword t : Text) : Option Text :=
  if t.startsWith keyword then
    let rest := t.drop keyword.length
    let name := rest.dropWhile Symbol.isBlank
    if rest.head?.any Symbol.isBlank && name.head?.any isNameStart then some name else none
  else none

/-- A package declaration begins the text. -/
def beginsPackage (t : Text) : Bool :=
  match afterKeyword? "package" t with
  | none => false
  | some name =>
    (name.dropWhile fun s => s.isWord || s == .char '.').head? == some (.char ';')

/-- The words that declare a type. -/
def typeKeywords : List Text := ["class", "interface", "enum", "record"]

/-- The declaration of a type begins the text. -/
def beginsType (t : Text) : Bool := typeKeywords.any fun k => (afterKeyword? k t).isSome

/-- `p` holds of the text that follows some place; `edge` tells, of the symbol in front of a place,
whether it counts. `here` says so of the place at hand. -/
def anywhere (edge : Symbol → Bool) (p : Text → Bool) (here : Bool) : Text → Bool
  | [] => here && p []
  | s :: rest => (here && p (s :: rest)) || anywhere edge p (edge s) rest

/-- A line begins with a package declaration. -/
def hasPackage (t : Text) : Bool := anywhere (· == .char '\n') beginsPackage true t

/-- A word begins the declaration of a type. -/
def hasType (t : Text) : Bool := anywhere (fun s => !s.isWord) beginsType true t

end JavaSource

end SuiteForge
