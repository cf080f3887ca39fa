/-
# From text to tokens

In blocks, indentation opens and closes collections. A mapping's key is seen to be
one only when its `:` comes, on the same line and within 1024 symbols; until then
its place among the tokens is held as a *candidate*, one for each bracket level,
and the tokens that open the mapping are put in at that place. Where a candidate
is the first thing on a line at the column of the open block, its `:` must come.

Tokens from the first candidate on are not settled yet. `Tokens.ofChars` gives the
settled ones alone when it meets a fault.
-/

import SuiteForge.Yaml.Token.Name
import SuiteForge.Yaml.Token.Plain

namespace SuiteForge.Yaml

/-- A place where a mapping's key may have begun. -/
structure Candidate where
  /-- How many tokens stand before it. -/
  place : Nat
  required : Bool
  index : Nat
  line : Nat
  column : Nat

/-- What has been read, and where the reader stands. -/
structure Lexer where
  cursor : Cursor
  /-- The tokens in reverse. -/
  tokens : List Token
  count : Nat
  /-- How many brackets are open. -/
  level : Nat
  /-- The column of the open block, `-1` outside of all. -/
  indent : Int
  /-- The columns of the blocks around it. -/
  outer : List Int
  /-- A key may begin here. -/
  keyAllowed : Bool
  /-- The candidates with their bracket levels. -/
  candidates : List (Nat × Candidate)
  finished : Bool

namespace Lexer

/-- Nothing read yet. -/
def start (text : List Char) : Lexer :=
  ⟨Cursor.start text, [], 0, 0, -1, [], true, [], false⟩

/-- One more token. -/
def push (l : Lexer) (t : Token) : Lexer :=
  { l with tokens := t :: l.tokens, count := l.count + 1 }

/-- One token more before the one at `place`. -/
def insertAt (l : Lexer) (place : Nat) (t : Token) : Lexer :=
  let behind := l.count - place
  { l with tokens := l.tokens.take behind ++ t :: l.tokens.drop behind, count := l.count + 1 }

/-- The symbol passed over and the token that it is. -/
def pass (l : Lexer) (t : Token) : Lexer := { l.push t with cursor := l.cursor.next }

/-- How many tokens are settled. -/
def settled (l : Lexer) : Nat := l.candidates.foldl (fun n c => min n c.2.place) l.count

/-- The first tokens, `n` of them. -/
def firstTokens (l : Lexer) (n : Nat) : List Token := (l.tokens.drop (l.count - n)).reverse

/-- A key without its `:`. -/
def missingColon : Fault := .malformed "could not find expected ':'"

/-- Without the candidates whose `:` can come no more. -/
def dropStale (l : Lexer) : Except Fault Lexer :=
  let stale (c : Candidate) : Bool :=
    c.line != l.cursor.line || decide (1024 < l.cursor.index - c.index)
  if l.candidates.any fun c => stale c.2 && c.2.required then .error missingColon
  else .ok { l with candidates := l.candidates.filter fun c => !stale c.2 }

/-- Without the candidate of the open bracket. -/
def dropCandidate (l : Lexer) : Except Fault Lexer :=
  match l.candidates.lookup l.level with
  | none => .ok l
  | some c =>
    if c.required then .error missingColon
    else .ok { l with candidates := l.candidates.filter (·.1 != l.level) }

/-- With a candidate here, if a key may begin. -/
def addCandidate (l : Lexer) : Except Fault Lexer :=
  if l.keyAllowed then do
    let required := l.level == 0 && l.indent == (l.cursor.column : Int)
    let l ← l.dropCandidate
    let c : Candidate := ⟨l.count, required, l.cursor.index, l.cursor.line, l.cursor.column⟩
    .ok { l with candidates := (l.level, c) :: l.candidates }
  else .ok l

/-- The blocks deeper than a column closed. -/
def closeBlocks (column : Int) (l : Lexer) : Lexer :=
  if l.level != 0 then l else go l.outer l
where
  /-- Closes blocks as long as the open one is deeper than the column. -/
  go : List Int → Lexer → Lexer
    | [], l => l
    | outer :: rest, l =>
      if column < l.indent then
        go rest { l.push .blockEnd with indent := outer, outer := rest }
      else l

/-- With a block opened at a column, if it is deeper than the open one; the flag tells. -/
def openBlock (column : Nat) (l : Lexer) : Bool × Lexer :=
  if l.indent < column then (true, { l with indent := column, outer := l.indent :: l.outer })
  else (false, l)

/-- With a block opened here, announced by a token. -/
def openBlockWith (t : Token) (l : Lexer) : Lexer :=
  match l.openBlock l.cursor.column with
  | (true, l) => l.push t
  | (false, l) => l

/-- Blanks and comments passed over. After a line's end outside of brackets a key may begin. -/
def skipBlanks : Nat → Lexer → Lexer
  | 0, l => l
  | fuel + 1, l =>
    let c := l.cursor.skipSpaces.skipComment
    match c.lineBreak? with
    | none => { l with cursor := c }
    | some (_, after) =>
      skipBlanks fuel { l with cursor := after, keyAllowed := l.keyAllowed || l.level == 0 }

/-- The end of the text. -/
def finish (l : Lexer) : Except Fault Lexer := do
  let l ← (l.closeBlocks (-1)).dropCandidate
  .ok { l.push .streamEnd with keyAllowed := false, candidates := [], finished := true }

/-- A directive. -/
def directive (l : Lexer) : Except Fault Lexer := do
  let l ← (l.closeBlocks (-1)).dropCandidate
  let (t, c) ← directiveToken l.cursor
  .ok { l.push t with keyAllowed := false, cursor := c }

/-- A document's marker. -/
def marker (t : Token) (l : Lexer) : Except Fault Lexer := do
  let l ← (l.closeBlocks (-1)).dropCandidate
  .ok { l.push t with keyAllowed := false, cursor := l.cursor.skip 3 }

/-- An opening bracket. -/
def openBracket (t : Token) (l : Lexer) : Except Fault Lexer := do
  let l ← l.addCandidate
  .ok { l.pass t with level := l.level + 1, keyAllowed := true }

/-- A closing bracket. -/
def closeBracket (t : Token) (l : Lexer) : Except Fault Lexer := do
  let l ← l.dropCandidate
  .ok { l.pass t with level := l.level - 1, keyAllowed := false }

/-- A comma inside brackets. -/
def flowEntry (l : Lexer) : Except Fault Lexer := do
  let l ← l.dropCandidate
  .ok { l.pass .flowEntry with keyAllowed := true }

/-- The `-` of a list's item. -/
def blockEntry (l : Lexer) : Except Fault Lexer :=
  if l.level == 0 && !l.keyAllowed then
    .error (.malformed "sequence entries are not allowed here")
  else do
    let l := if l.level == 0 then l.openBlockWith .sequenceStart else l
    let l ← l.dropCandidate
    .ok { l.pass .blockEntry with keyAllowed := true }

/-- The `?` of a key. -/
def explicitKey (l : Lexer) : Except Fault Lexer :=
  if l.level == 0 && !l.keyAllowed then .error (.malformed "mapping keys are not allowed here")
  else do
    let l := if l.level == 0 then l.openBlockWith .mappingStart else l
    let l ← l.dropCandidate
    .ok { l.pass .key with keyAllowed := l.level == 0 }

/-- The `:` of a value. A candidate on this bracket level turns out to be its key. -/
def mappingValue (l : Lexer) : Except Fault Lexer :=
  match l.candidates.lookup l.level with
  | some c =>
    let l := { l with candidates := l.candidates.filter (·.1 != l.level) }.insertAt c.place .key
    let l :=
      if l.level == 0 then
        match l.openBlock c.column with
        | (true, l) => l.insertAt c.place .mappingStart
        | (false, l) => l
      else l
    .ok { l.pass .value with keyAllowed := false }
  | none =>
    if l.level == 0 && !l.keyAllowed then
      .error (.malformed "mapping values are not allowed here")
    else do
      let l := if l.level == 0 then l.openBlockWith .mappingStart else l
      let l ← l.dropCandidate
      .ok { l.pass .value with keyAllowed := l.level == 0 }

/-- Something that a key may consist of or begin with, read by `scan`. -/
def content (scan : Cursor → Except Fault (Token × Cursor)) (l : Lexer) : Except Fault Lexer := do
  let l ← l.addCandidate
  let (t, c) ← scan l.cursor
  .ok { l.push t with keyAllowed := false, cursor := c }

/-- A block scalar. -/
def block (folded : Bool) (l : Lexer) : Except Fault Lexer := do
  let l ← l.dropCandidate
  let (t, c) ← blockScalar folded l.indent l.cursor
  .ok { l.push t with keyAllowed := true, cursor := c }

/-- A plain scalar. -/
def plain (l : Lexer) : Except Fault Lexer := do
  let l ← l.addCandidate
  let (t, broken, c) := plainScalar (l.level != 0) l.indent l.cursor
  .ok { l.push t with keyAllowed := broken, cursor := c }

/-- The next token read. -/
def step (l : Lexer) : Except Fault Lexer := do
  let l ← (l.skipBlanks (l.cursor.left + 1)).dropStale
  let l := l.closeBlocks l.cursor.column
  let c := l.cursor
  let inFlow := l.level != 0
  let gapNext := isGap (c.ahead 1)
  match c.here with
  | none => l.finish
  | some ch =>
    if ch == '%' && c.column == 0 then l.directive
    else if ch == '-' && c.column == 0 && c.isMarker '-' then l.marker .documentStart
    else if ch == '.' && c.column == 0 && c.isMarker '.' then l.marker .documentEnd
    else if ch == '[' then l.openBracket .flowSequenceStart
    else if ch == '\x7b' then l.openBracket .flowMappingStart
    else if ch == ']' then l.closeBracket .flowSequenceEnd
    else if ch == '\x7d' then l.closeBracket .flowMappingEnd
    else if ch == ',' then l.flowEntry
    else if ch == '-' && gapNext then l.blockEntry
    else if ch == '?' && (inFlow || gapNext) then l.explicitKey
    else if ch == ':' && (inFlow || gapNext) then l.mappingValue
    else if ch == '*' then l.content fun c => do
      let (name, c) ← anchorName c
      .ok (.alias name, c)
    else if ch == '&' then l.content fun c => do
      let (name, c) ← anchorName c
      .ok (.anchor name, c)
    else if ch == '!' then l.content tagToken
    else if ch == '|' && !inFlow then l.block false
    else if ch == '>' && !inFlow then l.block true
    else if ch == '\'' then l.content (quotedScalar false)
    else if ch == '"' then l.content (quotedScalar true)
    else if beginsPlain inFlow c then l.plain
    else .error (.malformed "found character that cannot start any token")

/-- The tokens from here on. -/
def run : Nat → Lexer → Tokens
  | 0, l => ⟨l.firstTokens l.settled, some (.malformed "unexpected text")⟩
  | fuel + 1, l =>
    if l.finished then ⟨l.firstTokens l.count, none⟩
    else
      let ready := match l.dropStale with
        | .ok l => l.settled
        | .error _ => l.settled
      match l.step with
      | .ok l => run fuel l
      | .error f => ⟨l.firstTokens ready, some f⟩

end Lexer

/-- The tokens of a text. A byte order mark at its start is passed over. -/
def Tokens.ofChars (text : List Char) : Tokens :=
  match text.find? (!isAdmitted ·) with
  | some _ => ⟨[], some (.malformed "special characters are not allowed")⟩
  | none =>
    let l := Lexer.start text
    let l := if l.cursor.here == some '\uFEFF' then { l with cursor := l.cursor.next } else l
    Lexer.run (2 * text.length + 2) l

end SuiteForge.Yaml
