/-
# Anchors, aliases, tags and directives
-/

import SuiteForge.Yaml.Token.Quoted
import SuiteForge.Yaml.Token.Block

namespace SuiteForge.Yaml

/-- The name of the anchor or alias whose indicator stands here. -/
def anchorName (c : Cursor) : Except Fault (List Char × Cursor) :=
  let (name, c) := c.next.span isNameChar
  if name.isEmpty then .error (.malformed "expected alphabetic or numeric character")
  else if isGap c.here || c.here.any ("?:,]\x7d%@\x60".toList.contains ·) then .ok (name, c)
  else .error (.malformed "expected alphabetic or numeric character")

/-- A symbol of a tag's suffix. -/
def isUriChar (c : Char) : Bool :=
  c.isAlphanum || "-;/?:@&=+$,_.!~*'()[]%".toList.contains c

/-- The bytes of the percent escapes that stand here. -/
def percentBytes : Nat → Cursor → Except Fault (List UInt8 × Cursor)
  | 0, c => .ok ([], c)
  | fuel + 1, c =>
    if c.here == some '%' then
      match c.next.rest with
      | a :: b :: _ =>
        match (Symbol.char a).hexValue?, (Symbol.char b).hexValue? with
        | some high, some low => do
          let (more, c) ← percentBytes fuel (c.skip 3)
          .ok ((high * 16 + low).toUInt8 :: more, c)
        | _, _ => .error (.malformed "expected URI escape sequence of 2 hexadecimal numbers")
      | _ => .error (.malformed "expected URI escape sequence of 2 hexadecimal numbers")
    else .ok ([], c)

/-- The text that a tag's suffix spells from here on, in reverse on top of `acc`. -/
def uriBody : Nat → Cursor → List Char → Except Fault (List Char × Cursor)
  | 0, c, acc => .ok (acc.reverse, c)
  | fuel + 1, c, acc =>
    match c.here with
    | none => .ok (acc.reverse, c)
    | some ch =>
      if ch == '%' then do
        let (bytes, c) ← percentBytes (fuel + 1) c
        match String.fromUTF8? ⟨bytes.toArray⟩ with
        | some s => uriBody fuel c (s.toList.reverse ++ acc)
        | none => .error (.malformed "invalid UTF-8 in a URI escape sequence")
      else if isUriChar ch then uriBody fuel c.next (ch :: acc)
      else .ok (acc.reverse, c)

/-- The suffix of a tag that stands here. -/
def uri (c : Cursor) : Except Fault (List Char × Cursor) :=
  if c.here.any isUriChar then uriBody (c.left + 1) c []
  else .error (.malformed "expected URI")

/-- The handle of a tag that stands here: `!`, or `!name!`. -/
def tagHandle (c : Cursor) : Except Fault (List Char × Cursor) :=
  if c.here != some '!' then .error (.malformed "expected '!'")
  else if c.ahead 1 == some ' ' then .ok (['!'], c.next)
  else
    let (name, after) := c.next.span isNameChar
    if after.here == some '!' then .ok ('!' :: name ++ ['!'], after.next)
    else .error (.malformed "expected '!'")

/-- The tag whose indicator stands here. -/
def tagToken (c : Cursor) : Except Fault (Token × Cursor) := do
  let (handle, suffix, c) ←
    if c.ahead 1 == some '<' then do
      let (suffix, c) ← uri (c.skip 2)
      if c.here == some '>' then pure (none, suffix, c.next)
      else .error (.malformed "expected '>'")
    else if isGap (c.ahead 1) then pure (none, ['!'], c.next)
    else
      let word := c.next.rest.takeWhile fun ch => !isSpaceOrEnd (some ch)
      if word.contains '!' then do
        let (handle, c) ← tagHandle c
        let (suffix, c) ← uri c
        pure (some handle, suffix, c)
      else do
        let (suffix, c) ← uri c.next
        pure (some ['!'], suffix, c)
  if isSpaceOrEnd c.here then .ok (.tag handle suffix, c)
  else .error (.malformed "expected ' '")

/-- The number of a version directive that stands here. -/
def versionNumber (c : Cursor) : Except Fault (Nat × Cursor) :=
  let (digits, c) := c.span Char.isDigit
  if digits.isEmpty then .error (.malformed "expected a digit")
  else match Numeral.read 10 (Text.ofChars digits) with
    | .ok n => .ok (n.toNat, c)
    | .error f => .error (.value (.numeral f))

/-- The directive whose `%` stands here. -/
def directiveToken (c : Cursor) : Except Fault (Token × Cursor) := do
  let (name, c) := c.next.span isNameChar
  if name.isEmpty || !isSpaceOrEnd c.here then
    .error (.malformed "expected alphabetic or numeric character")
  else
    let (d, c) ←
      if name == "YAML".toList then do
        let (major, c) ← versionNumber c.skipSpaces
        if c.here != some '.' then .error (.malformed "expected a digit or '.'")
        else
          let (minor, c) ← versionNumber c.next
          if isSpaceOrEnd c.here then pure (Directive.version major minor, c)
          else .error (.malformed "expected a digit or ' '")
      else if name == "TAG".toList then do
        let (handle, c) ← tagHandle c.skipSpaces
        if c.here != some ' ' then .error (.malformed "expected ' '")
        else
          let (start, c) ← uri c.skipSpaces
          if isSpaceOrEnd c.here then pure (Directive.tag handle start, c)
          else .error (.malformed "expected ' '")
      else pure (Directive.reserved, c.skipWhile (!isBreak ·))
    let c ← endOfLine c
    .ok (.directive d, c)

end SuiteForge.Yaml
