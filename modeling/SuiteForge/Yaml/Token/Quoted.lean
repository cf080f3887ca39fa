/-
# Quoted scalars

Between single quotes a doubled quote stands for one; between double quotes a
backslash begins an escape. A line end is folded: alone it becomes a space, with
empty lines after it those line ends remain.

| escape | stands for |
| --- | --- |
| `\0 \a \b \t \n \v \f \r \e` | the control symbols |
| `\N \_ \L \P` | U+0085, U+00A0, U+2028, U+2029 |
| `\" \\ \/` and a space or tab | itself |
| `\x`, `\u`, `\U` | the code point of 2, 4 or 8 hexadecimal digits |
| a line end | nothing |
-/

import SuiteForge.Yaml.Token

namespace SuiteForge.Yaml

/-- A space or a tab. -/
def isSpaceOrTab (c : Char) : Bool := c == ' ' || c == '\t'

/-- The line ends that follow, with the blanks between them passed over. A document marker at a
line's start is a fault. -/
def foldedBreaks : Nat → Cursor → Except Fault (List Char × Cursor)
  | 0, c => .ok ([], c)
  | fuel + 1, c =>
    if c.isDocumentMarker then .error (.malformed "found unexpected document separator")
    else
      let c := c.skipWhile isSpaceOrTab
      match c.lineBreak? with
      | none => .ok ([], c)
      | some (b, after) => do
        let (more, c) ← foldedBreaks fuel after
        .ok (b :: more, c)

/-- What a letter after a backslash stands for. -/
def escapedChar? : Char → Option Char
  | '0' => some '\x00'
  | 'a' => some '\x07'
  | 'b' => some '\x08'
  | 't' => some '\t'
  | '\t' => some '\t'
  | 'n' => some '\n'
  | 'v' => some '\x0B'
  | 'f' => some '\x0C'
  | 'r' => some '\r'
  | 'e' => some '\x1B'
  | ' ' => some ' '
  | '"' => some '"'
  | '\\' => some '\\'
  | '/' => some '/'
  | 'N' => some '\x85'
  | '_' => some '\xA0'
  | 'L' => some '\u2028'
  | 'P' => some '\u2029'
  | _ => none

/-- How many hexadecimal digits follow a letter after a backslash. -/
def escapeWidth? : Char → Option Nat
  | 'x' => some 2
  | 'u' => some 4
  | 'U' => some 8
  | _ => none

/-- The number that hexadecimal digits denote. -/
def hexNumber? (digits : List Char) : Option Nat :=
  digits.foldl (fun n c => do
    let n ← n
    let d ← (Symbol.char c).hexValue?
    some (n * 16 + d)) (some 0)

/-- The symbols of the escape whose letter stands here. -/
def escaped (fuel : Nat) (c : Cursor) : Except Fault (Text × Cursor) :=
  match c.here with
  | none => .error (.malformed "found unexpected end of stream")
  | some letter =>
    match escapedChar? letter, escapeWidth? letter with
    | some ch, _ => .ok ([.char ch], c.next)
    | none, some width =>
      let digits := c.next.rest.take width
      match hexNumber? digits with
      | none => .error (.malformed "expected escape sequence of hexadecimal numbers")
      | some n =>
        if digits.length < width then
          .error (.malformed "expected escape sequence of hexadecimal numbers")
        else match Symbol.ofCode? n with
          | some s => .ok ([s], c.next.skip width)
          | none => .error (.value (.codePoint n))
    | none, none =>
      match c.lineBreak? with
      | none => .error (.malformed "found unknown escape character")
      | some (_, after) => do
        let (breaks, c) ← foldedBreaks fuel after
        .ok (Text.ofChars breaks, c)

/-- The blanks or the line end that stand here, as they count in a quoted scalar. -/
def quotedGap (fuel : Nat) (c : Cursor) : Except Fault (Text × Cursor) :=
  let (blanks, c) := c.span isSpaceOrTab
  match c.here, c.lineBreak? with
  | none, _ => .error (.malformed "found unexpected end of stream")
  | some _, none => .ok (Text.ofChars blanks, c)
  | some _, some (b, after) => do
    let (breaks, c) ← foldedBreaks fuel after
    let first := if b != '\n' then [b] else if breaks.isEmpty then [' '] else []
    .ok (Text.ofChars (first ++ breaks), c)

/-- The content of a quoted scalar from here on, in reverse on top of `acc`, and the position after
the closing quote. -/
def quotedBody (double : Bool) : Nat → Cursor → Text → Except Fault (Text × Cursor)
  | 0, _, _ => .error (.malformed "found unexpected end of stream")
  | fuel + 1, c, acc =>
    match c.here with
    | none => .error (.malformed "found unexpected end of stream")
    | some ch =>
      if isSpaceOrTab ch || isBreak ch then do
        let (gap, c) ← quotedGap fuel c
        quotedBody double fuel c (gap.reverse ++ acc)
      else if double && ch == '\\' then do
        let (symbols, c) ← escaped fuel c.next
        quotedBody double fuel c (symbols.reverse ++ acc)
      else if ch == '\'' && !double && c.ahead 1 == some '\'' then
        quotedBody double fuel (c.skip 2) (.char '\'' :: acc)
      else if ch == (if double then '"' else '\'') then .ok (acc.reverse, c.next)
      else quotedBody double fuel c.next (.char ch :: acc)

/-- The quoted scalar whose opening quote stands here. -/
def quotedScalar (double : Bool) (c : Cursor) : Except Fault (Token × Cursor) := do
  let (content, c) ← quotedBody double (c.left + 1) c.next []
  .ok (.scalar content false, c)

end SuiteForge.Yaml
