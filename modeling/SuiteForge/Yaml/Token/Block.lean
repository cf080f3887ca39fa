/-
# Block scalars

`|` keeps the line ends of the indented lines that follow, `>` folds each one that
stands between two lines of text into a space. In the header a digit gives the
indentation, `-` drops the last line end, and `+` keeps also the empty lines
after it.
-/

import SuiteForge.Yaml.Token

namespace SuiteForge.Yaml

/-- What becomes of the line ends after the last line of a block scalar. -/
inductive Chomping where
  | clip
  | strip
  | keep
  deriving DecidableEq

/-- A sign of a block scalar's header. -/
def chomping? : Option Char → Option Chomping
  | some '+' => some .keep
  | some '-' => some .strip
  | _ => none

/-- The indentation digit of a block scalar's header, if one stands here. -/
def indentation (c : Cursor) : Except Fault (Option Nat × Cursor) :=
  match c.here with
  | some ch =>
    if ch == '0' then .error (.malformed "expected indentation indicator in the range 1-9")
    else if ch.isDigit then .ok (some (ch.toNat - '0'.toNat), c.next)
    else .ok (none, c)
  | none => .ok (none, c)

/-- The header of a block scalar: what becomes of the last line ends, and the indentation. -/
def blockHeader (c : Cursor) : Except Fault (Chomping × Option Nat × Cursor) := do
  let (mode, indent, c) ← match chomping? c.here with
    | some mode => do
      let (indent, c) ← indentation c.next
      pure (mode, indent, c)
    | none => do
      let (indent, c) ← indentation c
      match indent, chomping? c.here with
      | some _, some mode => pure (mode, indent, c.next)
      | _, _ => pure (Chomping.clip, indent, c)
  if isSpaceOrEnd c.here then .ok (mode, indent, c)
  else .error (.malformed "expected chomping or indentation indicators")

/-- The position after the rest of a line that may hold a comment alone. -/
def endOfLine (c : Cursor) : Except Fault Cursor :=
  let c := c.skipSpaces.skipComment
  if isBreakOrEnd c.here then .ok c.skipBreak
  else .error (.malformed "expected a comment or a line break")

/-- The empty lines that follow, and the deepest column reached in them and in the blanks after. -/
def leadingLines : Nat → Cursor → Nat → List Char × Nat × Cursor
  | 0, c, deepest => ([], deepest, c)
  | fuel + 1, c, deepest =>
    if c.here == some ' ' then
      let c := c.next
      leadingLines fuel c (max deepest c.column)
    else match c.lineBreak? with
      | none => ([], deepest, c)
      | some (b, after) =>
        let (more, deepest, c) := leadingLines fuel after deepest
        (b :: more, deepest, c)

/-- The empty lines that follow, where at most `indent` columns of blanks belong to a line's
indentation. -/
def emptyLines (indent : Nat) : Nat → Cursor → List Char × Cursor
  | 0, c => ([], c)
  | fuel + 1, c =>
    let c := c.skipIndent (indent - c.column)
    match c.lineBreak? with
    | none => ([], c)
    | some (b, after) =>
      let (more, c) := emptyLines indent fuel after
      (b :: more, c)

/-- The lines of a block scalar from here on, in reverse on top of `acc`, its last line end and the
empty lines after it. -/
def blockLines (folded : Bool) (indent : Nat) : Nat → Cursor → List Char → List Char →
    List Char × Option Char × List Char × Cursor
  | 0, c, breaks, acc => (acc, none, breaks, c)
  | fuel + 1, c, breaks, acc =>
    let flush := !(c.here.any isSpaceOrTab)
    let (line, c) := c.span (!isBreak ·)
    let acc := line.reverse ++ (breaks.reverse ++ acc)
    let (lineEnd, c) := match c.lineBreak? with
      | some (b, after) => (some b, after)
      | none => (none, c)
    let (breaks, c) := emptyLines indent (fuel + 1) c
    if c.column == indent && c.here.isSome then
      let next := !(c.here.any isSpaceOrTab)
      let acc :=
        if folded && lineEnd == some '\n' && flush && next then
          if breaks.isEmpty then ' ' :: acc else acc
        else lineEnd.toList ++ acc
      blockLines folded indent fuel c breaks acc
    else (acc, lineEnd, breaks, c)
where
  /-- A space or a tab. -/
  isSpaceOrTab (c : Char) : Bool := c == ' ' || c == '\t'

/-- The block scalar whose indicator stands here, inside a block at column `parent`. -/
def blockScalar (folded : Bool) (parent : Int) (c : Cursor) : Except Fault (Token × Cursor) := do
  let fuel := c.left + 1
  let (mode, increment, c) ← blockHeader c.next
  let c ← endOfLine c
  let least := max 1 (parent + 1).toNat
  let (breaks, indent, c) := match increment with
    | none =>
      let (breaks, deepest, c) := leadingLines fuel c 0
      (breaks, max least deepest, c)
    | some n =>
      let indent := least + n - 1
      let (breaks, c) := emptyLines indent fuel c
      (breaks, indent, c)
  let (acc, lineEnd, breaks, c) :=
    if c.column == indent && c.here.isSome then blockLines folded indent fuel c breaks []
    else ([], none, breaks, c)
  let tail := match mode with
    | .strip => []
    | .clip => lineEnd.toList
    | .keep => lineEnd.toList ++ breaks
  .ok (.scalar (Text.ofChars (acc.reverse ++ tail)) false, c)

end SuiteForge.Yaml
