/-
# Digits

Decimal digits come in runs of ten, one run for each script that has its own.
Some symbols count as digits without being decimal, such as `²` and `①`: they
pass for a digit, but have no value in a decimal number.
-/

import SuiteForge.Text.Blank

namespace SuiteForge

/-- The zeros of the decimal digit runs. -/
def decimalZeros : List Nat := [
  48, 1632, 1776, 1984, 2406, 2534, 2662, 2790, 2918, 3046, 3174, 3302, 3430, 3558, 3664, 3792,
  3872, 4160, 4240, 6112, 6160, 6470, 6608, 6784, 6800, 6992, 7088, 7232, 7248, 42528, 43216, 43264,
  43472, 43504, 43600, 44016, 65296, 66720, 68912, 69734, 69872, 69942, 70096, 70384, 70736, 70864,
  71248, 71360, 71472, 71904, 72016, 72784, 73040, 73120, 92768, 92864, 93008, 120782, 120792,
  120802, 120812, 120822, 123200, 123632, 125264, 130032]

/-- The digits that have no value in a decimal number. -/
def otherDigitRanges : List (Nat × Nat) := [
  (178, 179), (185, 185), (4969, 4977), (6618, 6618), (8304, 8304), (8308, 8313), (8320, 8329),
  (9312, 9320), (9332, 9340), (9352, 9360), (9450, 9450), (9461, 9469), (9471, 9471),
  (10102, 10110), (10112, 10120), (10122, 10130), (68160, 68163), (69216, 69224), (69714, 69722),
  (127232, 127242)]

namespace Symbol

/-- The value of a decimal digit of any script. -/
def decimalValue? (s : Symbol) : Option Nat :=
  decimalZeros.findSome? fun origin =>
    if origin ≤ s.code ∧ s.code < origin + 10 then some (s.code - origin) else none

/-- A digit, decimal or not. -/
def isDigit (s : Symbol) : Bool :=
  s.decimalValue?.isSome || inRanges otherDigitRanges s.code

theorem decimalValue?_lt {s : Symbol} {v : Nat} (h : s.decimalValue? = some v) : v < 10 := by
  obtain ⟨origin, -, hz⟩ := List.exists_of_findSome?_eq_some h
  split at hz
  · cases hz; omega
  · cases hz

/-- The value of a digit in a base up to 36, letters counting from ten. -/
def digitValue? (s : Symbol) : Option Nat :=
  match s.decimalValue? with
  | some v => some v
  | none =>
    if 0x41 ≤ s.code ∧ s.code ≤ 0x5A then some (s.code - 0x41 + 10)
    else if 0x61 ≤ s.code ∧ s.code ≤ 0x7A then some (s.code - 0x61 + 10)
    else none

end Symbol

/-- Not empty, and digits only. -/
def Text.isDigits (t : Text) : Bool := !t.isEmpty && t.all Symbol.isDigit

end SuiteForge
