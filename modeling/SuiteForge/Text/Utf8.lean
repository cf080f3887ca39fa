/-
# UTF-8

A code point is written with as few bytes as hold it.

| code points | bytes |
| --- | --- |
| up to U+007F | `0xxxxxxx` |
| up to U+07FF | `110xxxxx 10xxxxxx` |
| up to U+FFFF | `1110xxxx 10xxxxxx 10xxxxxx` |
| up to U+10FFFF | `11110xxx 10xxxxxx 10xxxxxx 10xxxxxx` |
-/

import SuiteForge.Text

namespace SuiteForge

namespace Utf8

/-- The six bits of a byte that continues a code point. -/
def continuation? (b : UInt8) : Option Nat :=
  if 0x80 ≤ b.toNat ∧ b.toNat < 0xC0 then some (b.toNat - 0x80) else none

/-- The character of a code point that needs its bytes, `least` being the first such. -/
def character? (least n : Nat) : Option Char :=
  if least ≤ n ∧ n.isValidChar then some (Char.ofNat n) else none

/-- The character of two bytes. -/
def pair? (a b : UInt8) : Option Char := do
  let x ← continuation? b
  character? 0x80 ((a.toNat - 0xC0) * 0x40 + x)

/-- The character of three bytes. -/
def triple? (a b c : UInt8) : Option Char := do
  let x ← continuation? b
  let y ← continuation? c
  character? 0x800 (((a.toNat - 0xE0) * 0x40 + x) * 0x40 + y)

/-- The character of four bytes. -/
def quadruple? (a b c d : UInt8) : Option Char := do
  let x ← continuation? b
  let y ← continuation? c
  let z ← continuation? d
  character? 0x10000 ((((a.toNat - 0xF0) * 0x40 + x) * 0x40 + y) * 0x40 + z)

/-- How many bytes a character has whose first byte is `a`; none if no character begins so. -/
def width (a : UInt8) : Nat :=
  if a < 0x80 then 1 else if a < 0xC0 then 0 else if a < 0xE0 then 2 else if a < 0xF0 then 3
  else if a < 0xF8 then 4 else 0

/-- The character in front of some bytes, and the bytes behind it. -/
def next? : List UInt8 → Option (Char × List UInt8)
  | [] => none
  | a :: rest =>
    match width a, rest with
    | 1, rest => some (Char.ofNat a.toNat, rest)
    | 2, b :: rest => (pair? a b).map (·, rest)
    | 3, b :: c :: rest => (triple? a b c).map (·, rest)
    | 4, b :: c :: d :: rest => (quadruple? a b c d).map (·, rest)
    | _, _ => none

theorem next?_length {bytes rest : List UInt8} {c : Char} (h : next? bytes = some (c, rest)) :
    rest.length < bytes.length := by
  unfold next? at h
  split at h
  · cases h
  · split at h
    · cases h; simp
    · obtain ⟨_, _, h⟩ := Option.map_eq_some_iff.1 h
      cases h; simp only [List.length_cons]; omega
    · obtain ⟨_, _, h⟩ := Option.map_eq_some_iff.1 h
      cases h; simp only [List.length_cons]; omega
    · obtain ⟨_, _, h⟩ := Option.map_eq_some_iff.1 h
      cases h; simp only [List.length_cons]; omega
    · cases h

/-- The characters of some bytes behind those that have been read, in reverse. -/
def decodeFrom (read : List Char) (bytes : List UInt8) : Option (List Char) :=
  if bytes.isEmpty then some read.reverse
  else match h : next? bytes with
    | some (c, rest) =>
      have := next?_length h
      decodeFrom (c :: read) rest
    | none => none
  termination_by bytes.length

/-- The characters of some bytes, `none` if they are not UTF-8. -/
def decode? (bytes : List UInt8) : Option (List Char) := decodeFrom [] bytes

/-- What is wrong with a text that has no bytes: its first run of surrogates, and where it is. -/
def problem (t : Text) : Text :=
  let good := t.takeWhile fun s => s.char?.isSome
  let bad := (t.drop good.length).takeWhile fun s => s.char?.isNone
  let place := match bad with
    | [s] => "character '\\u" ++ Text.hex 4 s.code ++ "' in position " ++ Text.ofNat good.length
    | _ => "characters in position " ++ Text.ofNat good.length ++ "-" ++
        Text.ofNat (good.length + bad.length - 1)
  "'utf-8' codec can't encode " ++ place ++ ": surrogates not allowed"

end Utf8

end SuiteForge
