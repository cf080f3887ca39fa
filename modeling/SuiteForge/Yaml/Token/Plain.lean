/-
# Plain scalars

A scalar without quotes ends before `: `, before ` #`, before a line that is not
indented, and inside brackets also before `,`, `?` and the brackets themselves.
-/

import SuiteForge.Yaml.Token

namespace SuiteForge.Yaml

/-- Symbols that no plain scalar begins with. -/
def isIndicator (c : Char) : Bool :=
  "-?:,[]\x7b\x7d#&*!|>'\"%@\x60".toList.contains c

/-- A plain scalar begins here. -/
def beginsPlain (inFlow : Bool) (c : Cursor) : Bool :=
  match c.here with
  | none => false
  | some ch =>
    (!isGap (some ch) && !isIndicator ch) ||
      (!isGap (c.ahead 1) && (ch == '-' || (!inFlow && (ch == '?' || ch == ':'))))

/-- A symbol that delimits the parts of a bracketed collection. -/
def isFlowMark (c : Char) : Bool :=
  c == ',' || c == '[' || c == ']' || c == '\x7b' || c == '\x7d'

/-- The stretch of a plain scalar up to the next gap or mark. -/
def plainStretch (inFlow : Bool) : List Char → List Char
  | [] => []
  | ch :: rest =>
    let after := rest.head?
    if isGap (some ch) then []
    else if ch == ':' && (isGap after || (inFlow && after.any isFlowMark)) then []
    else if inFlow && (ch == '?' || isFlowMark ch) then []
    else ch :: plainStretch inFlow rest

/-- What lies between two stretches of a plain scalar. -/
structure PlainGap where
  /-- The text of the gap, `none` if the scalar ends. -/
  text : Option (List Char)
  /-- A line ended in the gap. -/
  broken : Bool
  after : Cursor

/-- The blank lines after a line end inside a plain scalar; `none` if a document marker follows. -/
def plainBreaks : Nat → Cursor → Option (List Char) × Cursor
  | 0, c => (some [], c)
  | fuel + 1, c =>
    if c.here == some ' ' then plainBreaks fuel c.next
    else match c.lineBreak? with
      | none => (some [], c)
      | some (b, after) =>
        if after.isDocumentMarker then (none, after)
        else
          let (more, c) := plainBreaks fuel after
          (more.map (b :: ·), c)

/-- The gap that stands here in a plain scalar. -/
def plainGap (c : Cursor) : PlainGap :=
  let (blanks, c) := c.span (· == ' ')
  match c.lineBreak? with
  | none => ⟨if blanks.isEmpty then none else some blanks, false, c⟩
  | some (b, after) =>
    if after.isDocumentMarker then ⟨none, true, after⟩
    else match plainBreaks (after.left + 1) after with
      | (none, c) => ⟨none, true, c⟩
      | (some breaks, c) =>
        let first := if b != '\n' then [b] else if breaks.isEmpty then [' '] else []
        ⟨some (first ++ breaks), true, c⟩

/-- The plain scalar from here on, in reverse on top of `acc`, after a gap of text `gap`. `column`
is the least column of its further lines; the flag tells whether its last gap held a line end. -/
def plainBody (inFlow : Bool) (column : Int) :
    Nat → Cursor → List Char → Bool → List Char → List Char × Bool × Cursor
  | 0, c, _, broken, acc => (acc, broken, c)
  | fuel + 1, c, gap, broken, acc =>
    let stretch := if c.here == some '#' then [] else plainStretch inFlow c.rest
    if stretch.isEmpty then (acc, broken, c)
    else
      let acc := stretch.reverse ++ (gap.reverse ++ acc)
      let g := plainGap (c.skip stretch.length)
      match g.text with
      | none => (acc, g.broken, g.after)
      | some text =>
        let outdented := !inFlow && (g.after.column : Int) < column
        if text.isEmpty || g.after.here == some '#' || outdented then (acc, g.broken, g.after)
        else plainBody inFlow column fuel g.after text g.broken acc

/-- The plain scalar that stands here, inside a block at column `parent`; the flag tells whether a
line ended after it. -/
def plainScalar (inFlow : Bool) (parent : Int) (c : Cursor) : Token × Bool × Cursor :=
  let (acc, broken, c) := plainBody inFlow (parent + 1) (c.left + 1) c [] false []
  (.scalar (Text.ofChars acc.reverse) true, broken, c)

end SuiteForge.Yaml
