/-
# Typed scalars

The value that a scalar's content denotes under its type. Plain scalars get a type
that their content spells; under a tag any content may come, and what is no such
value is a fault.
-/

import SuiteForge.Value
import SuiteForge.Text.Case
import SuiteForge.Yaml.Node

namespace SuiteForge.Yaml

/-- A value, or the fault of its content. -/
abbrev Typed (α : Type) := Except ValueFault α

/-- The content without its underscores. -/
def withoutLines (t : Text) : Text := t.filter (· != .char '_')

/-- A content's sign and the rest. -/
def signed : Text → Typed (Bool × Text)
  | [] => .error .emptyNumeral
  | .char '-' :: rest => .ok (true, rest)
  | .char '+' :: rest => .ok (false, rest)
  | t => .ok (false, t)

/-- An integer in a base. -/
def integerIn (base : Nat) (t : Text) : Typed Int := (Numeral.read base t).mapError .numeral

/-- Groups of base 60, the last one counting ones. -/
def sixties (parts : List Int) : Int := parts.foldl (fun n p => n * 60 + p) 0

/-- An integer: `0b` and `0x` in front give base 2 and 16, `0` gives base 8, and colons divide
groups of base 60. -/
def integer (content : Text) : Typed Int := do
  let (negative, t) ← signed (withoutLines content)
  let magnitude ←
    if t = "0" then pure 0
    else if t.startsWith "0b" then integerIn 2 (t.drop 2)
    else if t.startsWith "0x" then integerIn 16 (t.drop 2)
    else match t with
      | [] => .error .emptyNumeral
      | first :: _ =>
        if first = .char '0' then integerIn 8 t
        else if t.contains (.char ':') then do
          let parts ← (t.splitOn ':').mapM (integerIn 10)
          pure (sixties parts)
        else integerIn 10 t
  .ok (if negative then -magnitude else magnitude)

/-- Digits with single underscores between them: the number, how many digits, and what follows. -/
def digitRun (t : Text) : Nat × Nat × Text :=
  let run := t.takeWhile fun s => (Symbol.decimalValue? s).isSome
  (run.foldl (fun n s => n * 10 + s.decimalValue?.getD 0) 0, run.length, t.drop run.length)

/-- A decimal with an optional point and an optional exponent, or the name of an infinity or of what
is not a number. -/
def decimal? (t : Text) : Option Double :=
  let body := t.trim Numeral.isMargin
  let (negative, t) : Bool × Text := match body with
    | .char '-' :: rest => (true, rest)
    | .char '+' :: rest => (false, rest)
    | _ => (false, body)
  let name := t.flatMap Symbol.lower
  if name = "inf" ∨ name = "infinity" then
    if t.isAscii then some (Double.infinity negative) else none
  else if name = "nan" then if t.isAscii then some Double.nan else none
  else
    let (whole, wholeCount, rest) := digitRun t
    let (value, count, places, rest) := match rest with
      | .char '.' :: more =>
        let (part, partCount, rest) := digitRun more
        (whole * Nat.pow 10 partCount + part, wholeCount + partCount, partCount, rest)
      | _ => (whole, wholeCount, 0, rest)
    if count = 0 then none
    else
      let power : Option Int := match rest with
        | [] => some 0
        | .char e :: more =>
          if e = 'e' ∨ e = 'E' then
            let (down, more) : Bool × Text := match more with
              | .char '-' :: more => (true, more)
              | .char '+' :: more => (false, more)
              | _ => (false, more)
            match digitRun more with
            | (n, _ + 1, []) => some (if down then -(n : Int) else n)
            | _ => none
          else none
        | _ => none
      power.map fun p => Double.ofDecimal negative value (p - places)

/-- A decimal, or the fault that it is none. -/
def decimal (t : Text) : Typed Double :=
  match decimal? t with
  | some x => .ok x
  | none => .error (.decimal t)

/-- Groups of base 60 as a float: from the last group on, each is multiplied by its power of 60,
rounded, and added, rounded. -/
def sixtiesFloat : Int → Double → List Double → Typed Double
  | _, sum, [] => .ok sum
  | power, sum, part :: rest => match Double.ofInt? power with
    | none => .error .sexagesimal
    | some p => sixtiesFloat (power * 60) (sum.add (part.mul p)) rest

/-- A float. -/
def float (content : Text) : Typed Double := do
  let (negative, t) ← signed (Text.lower (withoutLines content))
  if t = ".nan" then .ok Double.nan
  else
    let x ←
      if t = ".inf" then pure (Double.infinity false)
      else if t.contains (.char ':') then do
        let parts ← (t.splitOn ':').mapM decimal
        sixtiesFloat 1 (Double.ofFields false 0 0) parts.reverse
      else decimal t
    .ok (if negative then x.negate else x)

/-- A truth value. -/
def truth (content : Text) : Typed Bool :=
  let t := Text.lower content
  if t = "yes" ∨ t = "true" ∨ t = "on" then .ok true
  else if t = "no" ∨ t = "false" ∨ t = "off" then .ok false
  else .error (.truth t)

/-- The bytes that base 64 groups spell. Symbols of no value are passed over; `place` counts the
values of the open group and `left` holds the bits that are not used up. -/
def base64 : Nat → Nat → Nat → List Nat → Option (List UInt8)
  | place, _, _, [] => if place = 0 then some [] else none
  | place, left, pads, c :: rest =>
    if c = 0x3D then
      if 2 ≤ place ∧ 4 ≤ place + pads + 1 then some []
      else base64 place left (if 2 ≤ place then pads + 1 else pads) rest
    else
      let value? : Option Nat :=
        if 0x41 ≤ c ∧ c ≤ 0x5A then some (c - 0x41)
        else if 0x61 ≤ c ∧ c ≤ 0x7A then some (c - 0x61 + 26)
        else if 0x30 ≤ c ∧ c ≤ 0x39 then some (c - 0x30 + 52)
        else if c = 0x2B then some 62
        else if c = 0x2F then some 63
        else none
      match value?, place with
      | none, _ => base64 place left pads rest
      | some v, 0 => base64 1 v 0 rest
      | some v, 1 => (base64 2 (v % 16) 0 rest).map ((left * 4 + v / 16).toUInt8 :: ·)
      | some v, 2 => (base64 3 (v % 4) 0 rest).map ((left * 16 + v / 4).toUInt8 :: ·)
      | some v, _ => (base64 0 0 0 rest).map ((left * 64 + v).toUInt8 :: ·)

/-- The number of ASCII digits. -/
def asciiNumber (t : Text) : Nat := t.foldl (fun n s => n * 10 + (s.code - 0x30)) 0

/-- The digits of a class that begin a text, at most two, and the rest. -/
def upToTwo : Text → Text × Text
  | a :: b :: rest =>
    if !isDigit a then ([], a :: b :: rest)
    else if isDigit b then ([a, b], rest) else ([a], b :: rest)
  | [a] => if isDigit a then ([a], []) else ([], [a])
  | [] => ([], [])

/-- How a timestamp is spelled under a tag: months and days of one digit are admitted. -/
def taggedTimestamp : Spelling := Spelling.orElse timestampSpelling
  (Spelling.inOrder [digits 4, Spelling.word "-", oneOrTwo, Spelling.word "-", oneOrTwo])

/-- A date, or a moment if a time follows the date. A fraction of a second counts to the
microsecond. -/
def timestamp (content : Text) : Typed Scalar :=
  if !Spelling.spells taggedTimestamp content then .error .timestamp
  else
    let year := asciiNumber (content.take 4)
    let (month, t) := upToTwo (content.drop 5)
    let (day, t) := upToTwo (t.drop 1)
    let t := t.dropWhile fun s => !isDigit s
    let (hour, t) := upToTwo t
    if hour.isEmpty then
      ((Date.of year (asciiNumber month) (asciiNumber day)).map Scalar.date).mapError .calendar
    else
      let (minute, t) := upToTwo (t.drop 1)
      let (second, t) := upToTwo (t.drop 1)
      let (fraction, t) : Text × Text := match t with
        | .char '.' :: rest => (rest.takeWhile isDigit, rest.dropWhile isDigit)
        | _ => ([], t)
      let fine := (fraction ++ Text.ofString "000000").take 6
      let offset : Option (Bool × Nat) :=
        match t.dropWhile fun s => s == .char ' ' || s == .char '\t' with
        | .char 'Z' :: _ => some (false, 0)
        | .char '+' :: rest => some (false, span rest)
        | .char '-' :: rest => some (true, span rest)
        | _ => none
      ((Moment.of year (asciiNumber month) (asciiNumber day) (asciiNumber hour) (asciiNumber minute)
        (asciiNumber second) (asciiNumber fine) offset).map Scalar.moment).mapError .calendar
where
  /-- The minutes of an offset. -/
  span (t : Text) : Nat :=
    let (hours, t) := upToTwo t
    asciiNumber hours * 60 + asciiNumber (t.drop 1 |>.takeWhile isDigit)

/-- The value of a scalar under a type for scalars, `none` under any other type. -/
def typedScalar? (tag : Tag) (content : Text) : Option (Except Fault Scalar) :=
  match tag with
  | .null => some (.ok .null)
  | .bool => some (((truth content).map Scalar.bool).mapError .value)
  | .int => some (((integer content).map Scalar.int).mapError .value)
  | .float => some (((float content).map Scalar.float).mapError .value)
  | .timestamp => some ((timestamp content).mapError .value)
  | .str => some (.ok (.text content))
  | .binary =>
    if !content.isAscii then some (.error (.malformed "failed to convert base64 data into ascii"))
    else match base64 0 0 0 (content.map Symbol.code) with
      | some bytes => some (.ok (.bytes bytes))
      | none => some (.error (.malformed "failed to decode base64 data"))
  | _ => none

end SuiteForge.Yaml
