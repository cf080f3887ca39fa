/-
# Binary64 numbers and decimals

A binary64 number is its 64-bit pattern: a sign, 11 exponent bits and 52 bits of
fraction. A finite pattern stands for `m · 2^q` with `m < 2^53`.

Reading takes the binary64 number nearest to a decimal, ties going to the even
significand. Writing takes the fewest digits that read back as the same number
and, of those, the nearest to it.
-/

import SuiteForge.Text.Blank

namespace SuiteForge

/-- A binary64 number, as its bit pattern. -/
structure Double where
  bits : UInt64
  deriving DecidableEq, Inhabited

namespace Double

/-- The weight of the sign bit, `2^63`. -/
def signWeight : Nat := 0x8000000000000000

/-- The number of exponent patterns, `2^11`. -/
def exponents : Nat := 0x800

/-- The number of fractions, `2^52`. -/
def fractions : Nat := 0x10000000000000

/-- The sign bit is set. -/
def isNegative (x : Double) : Bool := signWeight ≤ x.bits.toNat

/-- The exponent bits. -/
def exponentField (x : Double) : Nat := x.bits.toNat / fractions % exponents

/-- The fraction bits. -/
def fractionField (x : Double) : Nat := x.bits.toNat % fractions

/-- Not a number. -/
def isNaN (x : Double) : Bool := x.exponentField == 2047 && x.fractionField != 0

/-- An infinity. -/
def isInfinite (x : Double) : Bool := x.exponentField == 2047 && x.fractionField == 0

/-- The significand `m` of a finite number `m · 2^q`. -/
def significand (x : Double) : Nat :=
  if x.exponentField = 0 then x.fractionField else fractions + x.fractionField

/-- The exponent `q` of a finite number `m · 2^q`. -/
def exponent (x : Double) : Int :=
  if x.exponentField = 0 then -1074 else (x.exponentField : Int) - 1075

/-- The number with the given fields. -/
def ofFields (negative : Bool) (exponent fraction : Nat) : Double :=
  ⟨((if negative then signWeight else 0) + exponent * fractions + fraction).toUInt64⟩

/-- Positive or negative infinity. -/
def infinity (negative : Bool) : Double := ofFields negative 2047 0

/-- The quiet NaN. -/
def nan : Double := ofFields false 2047 (fractions / 2)

/-- The same number with the other sign. -/
def negate (x : Double) : Double := ofFields (!x.isNegative) x.exponentField x.fractionField

/-- The nearest natural number to `num / den`, ties going to the even one. -/
def roundQuotient (num den : Nat) : Nat :=
  let whole := num / den
  let rest := 2 * (num % den)
  if rest < den ∨ (rest = den ∧ whole % 2 = 0) then whole else whole + 1

/-- The binary64 number nearest to `num / den`, where `den` is positive. -/
def ofQuotient (negative : Bool) (num den : Nat) : Double :=
  if num = 0 then ofFields negative 0 0
  else
    let spread : Int := (Nat.log2 num : Int) - Nat.log2 den
    let floor : Int := spread - 53
    -- One of two neighbouring exponents gives a significand of 53 bits.
    let scaled (q : Int) : Nat :=
      if 0 ≤ q then roundQuotient num (den * Nat.pow 2 q.toNat)
      else roundQuotient (num * Nat.pow 2 (-q).toNat) den
    let exact (q : Int) : Bool :=
      if 0 ≤ q then decide (num < 2 * fractions * (den * Nat.pow 2 q.toNat))
      else decide (num * Nat.pow 2 (-q).toNat < 2 * fractions * den)
    let q : Int := max (-1074)
      (if exact floor then floor else if exact (floor + 1) then floor + 1 else floor + 2)
    let m := scaled q
    let (m, q) : Nat × Int := if m = 2 * fractions then (fractions, q + 1) else (m, q)
    if m < fractions then ofFields negative 0 m
    else if 2046 < q + 1075 then infinity negative
    else ofFields negative (q + 1075).toNat (m - fractions)

/-- The binary64 number nearest to `digits · 10^power`. -/
def ofDecimal (negative : Bool) (digits : Nat) (power : Int) : Double :=
  let size : Int := (Nat.toDigits 10 digits).length + power
  if digits = 0 ∨ size < -400 then ofFields negative 0 0
  else if 400 < size then infinity negative
  else if 0 ≤ power then ofQuotient negative (digits * Nat.pow 10 power.toNat) 1
  else ofQuotient negative digits (Nat.pow 10 (-power).toNat)

/-- The binary64 number nearest to an integer, `none` if it lies beyond the largest one. -/
def ofInt? (n : Int) : Option Double :=
  let x := ofQuotient (decide (n < 0)) n.natAbs 1
  if x.isInfinite then none else some x

/-- The number as an integer, if it is one. -/
def toInt? (x : Double) : Option Int :=
  if x.exponentField = 2047 then none
  else
    let m := x.significand
    let magnitude? : Option Nat :=
      if 0 ≤ x.exponent then some (m * Nat.pow 2 x.exponent.toNat)
      else
        let den := Nat.pow 2 (-x.exponent).toNat
        if m % den = 0 then some (m / den) else none
    magnitude?.map fun n => if x.isNegative then -(n : Int) else n

/-- A finite number without its fraction. -/
def truncate? (x : Double) : Option Int :=
  if x.exponentField = 2047 then none
  else
    let magnitude := if 0 ≤ x.exponent then x.significand * Nat.pow 2 x.exponent.toNat
      else x.significand / Nat.pow 2 (-x.exponent).toNat
    some (if x.isNegative then -(magnitude : Int) else magnitude)

/-- Zero of either sign. -/
def isZero (x : Double) : Bool := x.exponentField == 0 && x.fractionField == 0

/-- The sum, rounded to nearest. -/
def add (x y : Double) : Double := ⟨(Float.ofBits x.bits + Float.ofBits y.bits).toBits⟩

/-- The product, rounded to nearest. -/
def mul (x y : Double) : Double := ⟨(Float.ofBits x.bits * Float.ofBits y.bits).toBits⟩

end Double

end SuiteForge
