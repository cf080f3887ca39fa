/-
# Text in Java sources

`literal` is for the inside of a string literal, `comment` for one line of a
comment.

| symbol | in a literal |
| --- | --- |
| backslash, double quote | itself after a backslash |
| line feed, carriage return, tab | `\n`, `\r`, `\t` |
| any other | itself |
-/

import SuiteForge.Text.Blank

namespace SuiteForge

namespace JavaText

/-- One symbol inside a string literal. -/
def escape (s : Symbol) : Text :=
  if s = .char '\\' then "\\\\"
  else if s = .char '"' then "\\\""
  else if s = .char '\n' then "\\n"
  else if s = .char '\r' then "\\r"
  else if s = .char '\t' then "\\t"
  else [s]

/-- A text inside a string literal. -/
def literal (t : Text) : Text := t.flatMap escape

/-- A text on one line of a comment: blanks become single spaces, and the slash of a comment's end
is written as an entity. -/
def comment (t : Text) : Text := Text.replace "*/" "*&#47;" t.flatten

end JavaText

end SuiteForge
