/-
# Types of nodes

A node's tag names its type. A plain scalar without a tag has the type that its
content spells:

| type | spelling |
| --- | --- |
| null | nothing, `~`, `null`, `Null`, `NULL` |
| truth value | `yes no true false on off`, in lower case, upper case or capitalised |
| integer | decimal, `0b…`, `0…` (octal), `0x…`, or digit groups of base 60 between colons |
| float | digits with a point, an exponent with its sign, base 60, `.inf`, `.nan` |
| timestamp | `2020-01-31`, or a date and a time |
| merge | `<<` |
| default | `=` |
| none that is known | `!`, `&`, `*` |
-/

import SuiteForge.Text.Blank

namespace SuiteForge.Yaml

inductive Tag where
  | null
  | bool
  | int
  | float
  | timestamp
  | binary
  | str
  | seq
  | map
  | set
  | omap
  | pairs
  /-- The key whose value is merged into the mapping. -/
  | merge
  /-- The key of a mapping's default value. -/
  | default
  | unknown
  deriving DecidableEq, Inhabited

/-- A way to spell a type: what may stand at the start of a text, longest first. -/
abbrev Spelling := Text → List Text

namespace Spelling

/-- One symbol of a class. -/
def one (p : Symbol → Bool) : Spelling
  | s :: rest => if p s then [rest] else []
  | [] => []

/-- One symbol out of a string. -/
def among (symbols : String) : Spelling := one fun s => (Text.ofString symbols).contains s

/-- A given word. -/
def word (w : String) : Spelling := fun t =>
  let w := Text.ofString w
  if w.isPrefixOf t then [t.drop w.length] else []

/-- One spelling after another. -/
def andThen (a b : Spelling) : Spelling := fun t => (a t).flatMap b

/-- Either spelling, the first one preferred. -/
def orElse (a b : Spelling) : Spelling := fun t => a t ++ b t

/-- A spelling that may be left out. -/
def optional (a : Spelling) : Spelling := fun t => a t ++ [t]

/-- Any number of symbols of a class. -/
def many (p : Symbol → Bool) : Spelling := fun t => ends (t.takeWhile p).length t
where
  /-- The text without `n` symbols, without one fewer, and so on. -/
  ends : Nat → Text → List Text
    | 0, t => [t]
    | n + 1, t => t.drop (n + 1) :: ends n t

/-- One symbol of a class or more. -/
def oneOrMore (p : Symbol → Bool) : Spelling := andThen (one p) (many p)

/-- A spelling repeated at least `least` times, and at most `most` times. -/
def repeated (a : Spelling) : Nat → Nat → Spelling
  | _, 0 => fun t => [t]
  | 0, most + 1 => fun t => ((a t).flatMap (repeated a 0 most)) ++ [t]
  | least + 1, most + 1 => fun t => (a t).flatMap (repeated a least most)

/-- All of them in order. -/
def inOrder : List Spelling → Spelling
  | [] => fun t => [t]
  | a :: rest => andThen a (inOrder rest)

/-- Any of them, earlier ones preferred. -/
def anyOf : List Spelling → Spelling
  | [] => fun _ => []
  | a :: rest => orElse a (anyOf rest)

/-- The whole text is spelled so; a line feed may follow. -/
def spells (a : Spelling) (t : Text) : Bool :=
  (a t).any fun rest => rest == [] || rest == [.char '\n']

end Spelling

open Spelling

/-- A decimal digit. -/
def isDigit (s : Symbol) : Bool := s.isAsciiDigit

/-- A decimal digit or an underscore. -/
def isDigitOrLine (s : Symbol) : Bool := s.isAsciiDigit || s == .char '_'

/-- A sign that may be left out. -/
def sign : Spelling := optional (among "-+")

/-- The exponent of a float, with its sign. -/
def floatExponent : Spelling := inOrder [among "eE", among "-+", oneOrMore isDigit]

/-- A group of base 60 after its colon. -/
def sixtieth : Spelling := inOrder [word ":", optional (among "012345"), one isDigit]

/-- Groups of base 60, one or more. -/
def sixtieths (t : Text) : List Text := repeated sixtieth 1 (t.length + 1) t

/-- How an integer is spelled. -/
def intSpelling : Spelling := anyOf [
  inOrder [sign, word "0b", oneOrMore fun s => (Text.ofString "01_").contains s],
  inOrder [sign, word "0", oneOrMore fun s => (Text.ofString "01234567_").contains s],
  inOrder [sign, orElse (word "0") (inOrder [among "123456789", many isDigitOrLine])],
  inOrder [sign, word "0x", oneOrMore fun s => (Symbol.hexValue? s).isSome || s == .char '_'],
  inOrder [sign, among "123456789", many isDigitOrLine, sixtieths]]

/-- How a float is spelled. -/
def floatSpelling : Spelling := anyOf [
  inOrder [sign, one isDigit, many isDigitOrLine, word ".", many isDigitOrLine,
    optional floatExponent],
  inOrder [word ".", one isDigit, many isDigitOrLine, optional floatExponent],
  inOrder [sign, one isDigit, many isDigitOrLine, sixtieths, word ".", many isDigitOrLine],
  inOrder [sign, word ".", anyOf [word "inf", word "Inf", word "INF"]],
  inOrder [word ".", anyOf [word "nan", word "NaN", word "NAN"]]]

/-- Exactly `n` digits. -/
def digits (n : Nat) : Spelling := repeated (one isDigit) n n

/-- One digit or two. -/
def oneOrTwo : Spelling := repeated (one isDigit) 1 2

/-- What divides a date from its time. -/
def timeMark : Spelling := orElse (among "Tt") (oneOrMore fun s => (Text.ofString " \t").contains s)

/-- How a moment's distance from universal time is spelled. -/
def zoneSpelling : Spelling :=
  andThen (many fun s => (Text.ofString " \t").contains s)
    (orElse (word "Z") (inOrder [among "-+", oneOrTwo, optional (inOrder [word ":", digits 2])]))

/-- How a date or a moment is spelled. -/
def timestampSpelling : Spelling := anyOf [
  inOrder [digits 4, word "-", digits 2, word "-", digits 2],
  inOrder [digits 4, word "-", oneOrTwo, word "-", oneOrTwo, timeMark, oneOrTwo, word ":", digits 2,
    word ":", digits 2, optional (inOrder [word ".", many isDigit]), optional zoneSpelling]]

/-- A word in lower case, capitalised or in upper case. -/
def anyCase (w : String) : Spelling :=
  anyOf [word w, word w.capitalize, word w.toUpper]

/-- How a truth value is spelled. -/
def boolSpelling : Spelling :=
  anyOf (["yes", "no", "true", "false", "on", "off"].map anyCase)

/-- How null is spelled. -/
def nullSpelling : Spelling := orElse (word "~") (anyCase "null")

namespace Tag

/-- The type that the content of a plain scalar spells. -/
def ofPlain (content : Text) : Tag :=
  if content.isEmpty then null
  else if spells boolSpelling content then bool
  else if spells floatSpelling content then float
  else if spells intSpelling content then int
  else if spells (word "<<") content then merge
  else if spells nullSpelling content then null
  else if spells timestampSpelling content then timestamp
  else if spells (word "=") content then default
  else if spells (among "!&*") content then unknown
  else str

/-- The type of a scalar whose content may decide it only if `typed` holds. -/
def ofContent (typed : Bool) (content : Text) : Tag := if typed then ofPlain content else str

/-- The tags that have a meaning, without the part that they share. -/
def names : List (String × Tag) := [
  ("null", null), ("bool", bool), ("int", int), ("float", float), ("timestamp", timestamp),
  ("binary", binary), ("str", str), ("seq", seq), ("map", map), ("set", set), ("omap", omap),
  ("pairs", pairs), ("merge", merge), ("value", default)]

/-- The type that a full tag names. -/
def ofName (tag : String) : Tag :=
  ((names.find? fun n => "tag:yaml.org,2002:" ++ n.1 == tag).map (·.2)).getD unknown

/-- The type of a collection, by its tag or by its kind. -/
def ofCollection (kind : Tag) : Option String → Tag
  | none => kind
  | some tag => if tag == "!" then kind else ofName tag

end Tag

end SuiteForge.Yaml
