/-
# Numerals

Integers as they are written in documents and settings: blanks around, a sign,
a prefix `0b`, `0o` or `0x` where it names the base at hand, and digits of any
script with single underscores between them.

A numeral in a base that is not a power of two may have 4300 digits at most, and
an integer of more than 4300 decimal digits is never written out.
-/

import SuiteForge.Text.Digit
import SuiteForge.Text.Quoted

namespace SuiteForge

/-- The most decimal digits that are read or written. -/
def maxDecimalDigits : Nat := 4300

/-- Why a numeral is not read, or an integer not written. -/
inductive NumeralFault where
  | malformed (base : Nat) (numeral : Text)
  | tooManyDigits (count : Nat)
  | tooLarge
  deriving DecidableEq

namespace NumeralFault

/-- The message of a fault; of a malformed numeral at most 200 symbols are shown. -/
def message : NumeralFault → Text
  | malformed base numeral =>
    "invalid literal for int() with base " ++ Text.ofNat base ++ ": " ++ numeral.quoted.take 200
  | tooManyDigits count =>
    "Exceeds the limit (" ++ Text.ofNat maxDecimalDigits ++
      " digits) for integer string conversion: value has " ++ Text.ofNat count ++
      " digits; use sys.set_int_max_str_digits() to increase the limit"
  | tooLarge =>
    "Exceeds the limit (" ++ Text.ofNat maxDecimalDigits ++
      " digits) for integer string conversion; " ++
      "use sys.set_int_max_str_digits() to increase the limit"

end NumeralFault

namespace Numeral

/-- A blank that may surround a numeral: any but the four separators U+001C to U+001F. -/
def isMargin (s : Symbol) : Bool := s.isBlank && !(0x1C ≤ s.code && s.code ≤ 0x1F)

/-- What a run of digits and underscores amounts to. -/
structure Digits where
  value : Nat
  count : Nat
  rest : Text

/-- Reads digits of a base, an underscore being allowed between two of them; `none` if an
underscore stands elsewhere. `last` tells whether a digit has just been read. -/
def digits? (base : Nat) (value count : Nat) (last : Bool) : Text → Option Digits
  | [] => if last || count == 0 then some ⟨value, count, []⟩ else none
  | s :: rest =>
    if s = .char '_' then
      if last then digits? base value count false rest else none
    else match s.digitValue? with
      | some d =>
        if d < base then digits? base (value * base + d) (count + 1) true rest
        else if last || count == 0 then some ⟨value, count, s :: rest⟩ else none
      | none => if last || count == 0 then some ⟨value, count, s :: rest⟩ else none

/-- The letter of a base's prefix. -/
def baseLetter : Nat → Option Char
  | 2 => some 'b'
  | 8 => some 'o'
  | 16 => some 'x'
  | _ => none

/-- The numeral without its base prefix; after one an underscore may stand. -/
def dropBase (base : Nat) : Text → Text
  | .char '0' :: .char c :: rest =>
    if (baseLetter base).any fun l => c = l ∨ c = l.toUpper then
      match rest with
      | .char '_' :: more => more
      | _ => rest
    else .char '0' :: .char c :: rest
  | t => t

/-- `true` if a base's numerals may be of any length. -/
def isBinaryBase (base : Nat) : Bool := base == 2 || base == 4 || base == 8 || base == 16

/-- The integer that a text denotes in a base. -/
def read (base : Nat) (t : Text) : Except NumeralFault Int :=
  let body := t.trim isMargin
  let (negative, magnitude) : Bool × Text := match body with
    | .char '-' :: rest => (true, rest)
    | .char '+' :: rest => (false, rest)
    | _ => (false, body)
  match digits? base 0 0 false (dropBase base magnitude) with
  | none => .error (.malformed base t)
  | some d =>
    if !isBinaryBase base && d.count > maxDecimalDigits then .error (.tooManyDigits d.count)
    else if d.count == 0 || !d.rest.isEmpty then .error (.malformed base t)
    else .ok (if negative then -(d.value : Int) else d.value)

/-- An integer in decimal. -/
def write (n : Int) : Except NumeralFault Text :=
  if n.natAbs < Nat.pow 10 maxDecimalDigits then .ok (Text.ofInt n) else .error .tooLarge

end Numeral

end SuiteForge
