/-
# Reading position

The text that is left, with the place, the line and the column of its first symbol. Lines
end at a line feed, a carriage return, both together, U+0085, U+2028 or U+2029; a
byte order mark takes no column.
-/

import SuiteForge.Calendar
import SuiteForge.Text.Numeral

namespace SuiteForge.Yaml

/-- A scalar whose content its type does not admit. -/
inductive ValueFault where
  | codePoint (n : Nat)
  | numeral (f : NumeralFault)
  | emptyNumeral
  | decimal (t : Text)
  | sexagesimal
  | truth (t : Text)
  | timestamp
  | timestampMapping
  | calendar (f : CalendarFault)
  deriving DecidableEq

/-- Why a text is no document. -/
inductive Fault where
  | malformed (problem : String)
  | tooDeep
  | value (f : ValueFault)
  deriving DecidableEq

/-- A symbol that ends a line. -/
def isBreak (c : Char) : Bool :=
  c == '\n' || c == '\r' || c == '\x85' || c == '\u2028' || c == '\u2029'

/-- A line's end or the end of the text. -/
def isBreakOrEnd : Option Char → Bool
  | none => true
  | some c => isBreak c

/-- A space, a line's end or the end of the text. -/
def isSpaceOrEnd : Option Char → Bool
  | none => true
  | some c => c == ' ' || isBreak c

/-- A space, a tab, a line's end or the end of the text. -/
def isGap : Option Char → Bool
  | none => true
  | some c => c == ' ' || c == '\t' || isBreak c

/-- A symbol of an anchor's or a directive's name. -/
def isNameChar (c : Char) : Bool := c.isAlphanum || c == '-' || c == '_'

/-- A position in a text. -/
structure Cursor where
  rest : List Char
  /-- How many symbols the whole text has. -/
  size : Nat
  /-- How many symbols stand before the position. -/
  index : Nat
  line : Nat
  column : Nat

namespace Cursor

/-- The start of a text. -/
def start (text : List Char) : Cursor := ⟨text, text.length, 0, 0, 0⟩

/-- How many symbols are left. -/
def left (c : Cursor) : Nat := c.size - c.index

/-- The symbol at the position. -/
def here (c : Cursor) : Option Char := c.rest.head?

/-- The symbol `k` places on. -/
def ahead (c : Cursor) (k : Nat) : Option Char := c.rest[k]?

/-- One symbol on. -/
def next (c : Cursor) : Cursor :=
  match c.rest with
  | [] => c
  | ch :: rest =>
    if isBreak ch && !(ch == '\r' && rest.head? == some '\n') then
      ⟨rest, c.size, c.index + 1, c.line + 1, 0⟩
    else ⟨rest, c.size, c.index + 1, c.line, if ch == '\uFEFF' then c.column else c.column + 1⟩

/-- `n` symbols on. -/
def skip : Nat → Cursor → Cursor
  | 0, c => c
  | n + 1, c => skip n c.next

/-- The symbols of a class that stand here, and the position after them. -/
def span (p : Char → Bool) (c : Cursor) : List Char × Cursor :=
  let taken := c.rest.takeWhile p
  (taken, c.skip taken.length)

/-- The position after the symbols of a class. -/
def skipWhile (p : Char → Bool) (c : Cursor) : Cursor := (c.span p).2

/-- The position after the spaces. -/
def skipSpaces (c : Cursor) : Cursor := c.skipWhile (· == ' ')

/-- The position after at most `limit` spaces. -/
def skipIndent (limit : Nat) (c : Cursor) : Cursor :=
  c.skip (min limit (c.rest.takeWhile (· == ' ')).length)

/-- The position after a comment, if one stands here. -/
def skipComment (c : Cursor) : Cursor :=
  if c.here == some '#' then c.skipWhile (!isBreak ·) else c

/-- The line end that stands here, and the position after it. Those of ASCII and U+0085 count as a
line feed. -/
def lineBreak? (c : Cursor) : Option (Char × Cursor) :=
  match c.rest with
  | '\r' :: '\n' :: _ => some ('\n', c.skip 2)
  | ch :: _ =>
    if ch == '\u2028' || ch == '\u2029' then some (ch, c.next)
    else if isBreak ch then some ('\n', c.next)
    else none
  | [] => none

/-- The position after the line end, if one stands here. -/
def skipBreak (c : Cursor) : Cursor :=
  match c.lineBreak? with
  | some (_, after) => after
  | none => c

/-- A document marker, three times `mark` and a gap. -/
def isMarker (mark : Char) (c : Cursor) : Bool :=
  c.rest.take 3 == [mark, mark, mark] && isGap (c.ahead 3)

/-- A marker of a document's start or end. -/
def isDocumentMarker (c : Cursor) : Bool := c.isMarker '-' || c.isMarker '.'

end Cursor

/-- A character that a document may hold. -/
def isAdmitted (c : Char) : Bool :=
  c == '\t' || c == '\n' || c == '\r' || c == '\x85' ||
    (0x20 ≤ c.toNat && c.toNat ≤ 0x7E) || (0xA0 ≤ c.toNat && c.toNat ≤ 0xFFFD) || 0x10000 ≤ c.toNat

end SuiteForge.Yaml
