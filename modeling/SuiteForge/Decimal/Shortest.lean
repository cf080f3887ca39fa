/-
# The shortest decimal

A positive finite binary64 number owns an interval of reals: those that round to
it. The shortest decimal is the point of the coarsest decimal grid that meets the
interval. On each grid only the two neighbours of the number need testing.

| field of `DecimalLayout` | decides |
| --- | --- |
| `positionalFrom`, `positionalTo` | which decimal exponents are written without `e` |
| `exponentDigits` | the least number of digits of an exponent |
-/

import SuiteForge.Decimal.Double

namespace SuiteForge

/-- A positive decimal `0.d₁d₂… · 10^point`: its digits as a number, and where the point stands. -/
structure DecimalDigits where
  digits : List Char
  point : Int

namespace Double

/-- The interval of the reals that round to a number, and the number, as numerators over one
denominator. -/
structure Interval where
  low : Nat
  value : Nat
  high : Nat
  den : Nat
  closed : Bool

/-- The interval of a positive finite number. -/
def interval (x : Double) : Interval :=
  let m := x.significand
  let below := if x.fractionField = 0 ∧ 1 < x.exponentField then 1 else 2
  let q := x.exponent - 2
  let up := if 0 ≤ q then Nat.pow 2 q.toNat else 1
  let den := if 0 ≤ q then 1 else Nat.pow 2 (-q).toNat
  ⟨(4 * m - below) * up, 4 * m * up, (4 * m + 2) * up, den, m % 2 == 0⟩

/-- `num / den` lies in the interval. -/
def Interval.contains (i : Interval) (num den : Nat) : Bool :=
  let low := i.low * den
  let high := i.high * den
  let here := num * i.den
  (low < here && here < high) || (i.closed && (low == here || here == high))

/-- The least `p` with `value < 10^p`, for a positive value. -/
def Interval.point (i : Interval) : Int :=
  if i.den ≤ i.value then (Nat.toDigits 10 (i.value / i.den)).length
  else match (List.range 400).find? fun j => i.den ≤ i.value * Nat.pow 10 j with
    | some j => 1 - (j : Int)
    | none => 0

/-- The point of the grid of step `10^step` that lies in the interval and is nearest to the
value, an even multiple of the step if two are. -/
def Interval.onGrid? (i : Interval) (step : Int) : Option Nat :=
  let up := if 0 ≤ step then Nat.pow 10 step.toNat else 1
  let down := if 0 ≤ step then 1 else Nat.pow 10 (-step).toNat
  -- The multiple `k` of the step is the quotient `k * up / down`.
  let under := i.value * down / (i.den * up)
  let hit (k : Nat) : Bool := i.contains (k * up) down
  let distanceUnder := i.value * down - under * up * i.den
  let distanceOver := (under + 1) * up * i.den - i.value * down
  match hit under, hit (under + 1) with
  | false, false => none
  | true, false => some under
  | false, true => some (under + 1)
  | true, true =>
    if distanceUnder < distanceOver ∨ (distanceUnder = distanceOver ∧ under % 2 = 0) then some under
    else some (under + 1)

/-- The shortest decimal of a positive finite number. -/
def shortest (x : Double) : DecimalDigits :=
  let i := x.interval
  let p := i.point
  let found := (List.range' 1 17).findSome? fun (n : Nat) =>
    (i.onGrid? (p - (n : Int))).map fun k => (k, n)
  match found with
  | none => ⟨['0'], 1⟩
  | some (k, n) =>
    let ds := Nat.toDigits 10 k
    ⟨(ds.reverse.dropWhile (· == '0')).reverse, p - (n : Int) + ds.length⟩

end Double

/-- How a decimal is laid out. -/
structure DecimalLayout where
  positionalFrom : Int
  positionalTo : Int
  exponentDigits : Nat

namespace Double

/-- Numbers from 0.0001 up to 10^16 have no exponent, whole ones end in `.0`, and an exponent has
a sign and two digits at least. -/
def layout : DecimalLayout := ⟨-3, 16, 2⟩

/-- A positive decimal under a layout. -/
def layOut (f : DecimalLayout) (d : DecimalDigits) : List Char :=
  let n := d.digits.length
  if f.positionalFrom ≤ d.point ∧ d.point ≤ f.positionalTo then
    if d.point ≤ 0 then ['0', '.'] ++ List.replicate (-d.point).toNat '0' ++ d.digits
    else if (n : Int) ≤ d.point then
      d.digits ++ List.replicate (d.point.toNat - n) '0' ++ ['.', '0']
    else d.digits.take d.point.toNat ++ ['.'] ++ d.digits.drop d.point.toNat
  else
    let mantissa := match d.digits with
      | [] => ['0']
      | [c] => [c]
      | c :: more => c :: '.' :: more
    let e := d.point - 1
    let size := Nat.toDigits 10 e.natAbs
    mantissa ++ ['e', if e < 0 then '-' else '+'] ++
      List.replicate (f.exponentDigits - size.length) '0' ++ size

/-- The text of a number. -/
def display (x : Double) : Text :=
  if x.isNaN then "nan"
  else
    let sign : Text := if x.isNegative then "-" else ""
    if x.isInfinite then sign ++ ("inf" : Text)
    else if x.isZero then sign ++ ("0.0" : Text)
    else sign ++ Text.ofChars (layOut layout x.shortest)

end Double

end SuiteForge
