/-
# Quoted text

How a text or a run of bytes is shown inside a message: between quotes, on one
line, printable symbols as themselves and all others as escapes.

| symbol | shown as |
| --- | --- |
| the enclosing quote, the backslash | itself after a backslash |
| tab, line feed, carriage return | `\t`, `\n`, `\r` |
| any other that is not printable | `\x`, `\u` or `\U` and 2, 4 or 8 hexadecimal digits |

The quotes are single, unless the text holds a single quote and no double one.
-/

import SuiteForge.Text.Printable

namespace SuiteForge

namespace Text

/-- The quote that encloses a text. -/
def quoteMark (t : Text) : Symbol :=
  if t.contains (.char '\'') && !t.contains (.char '"') then '"' else '\''

/-- One symbol between quotes of the kind `mark`. -/
def quoteSymbol (mark : Symbol) (s : Symbol) : Text :=
  if s = mark ∨ s = .char '\\' then [.char '\\', s]
  else if s = .char '\t' then "\\t"
  else if s = .char '\n' then "\\n"
  else if s = .char '\r' then "\\r"
  else if s.isPrintable then [s]
  else if s.code < 0x100 then "\\x" ++ hex 2 s.code
  else if s.code < 0x10000 then "\\u" ++ hex 4 s.code
  else "\\U" ++ hex 8 s.code

/-- A text between quotes. -/
def quoted (t : Text) : Text :=
  let mark := quoteMark t
  mark :: t.flatMap (quoteSymbol mark) ++ [mark]

/-- Bytes between quotes, those outside printable ASCII as escapes. -/
def quotedBytes (bytes : List UInt8) : Text :=
  let ascii : Text := bytes.map fun b => .char (Char.ofNat b.toNat)
  let mark := quoteMark ascii
  let show1 (s : Symbol) : Text :=
    if s.code < 0x80 then quoteSymbol mark s else "\\x" ++ hex 2 s.code
  "b" ++ [mark] ++ ascii.flatMap show1 ++ [mark]

end Text

end SuiteForge
