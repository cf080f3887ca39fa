/-
# Reading UTF-8 back

The bytes of a text are read back as the text (`decode?_utf8?`), and only a lone surrogate keeps a
text from having bytes (`utf8?_eq_none_iff`).

| code points | first byte | its width |
| --- | --- | --- |
| up to U+007F | below `0x80` | 1 |
| up to U+07FF | `0xC0 + n / 0x40` | 2 |
| up to U+FFFF | `0xE0 + n / 0x1000` | 3 |
| up to U+10FFFF | `0xF0 + n / 0x40000` | 4 |
-/

import Mathlib
import SuiteForge.Text.Utf8

namespace SuiteForge

/-- A lone surrogate stands in the text. -/
def Text.HasSurrogate (t : Text) : Prop := ∃ n, Symbol.surrogate n ∈ t

theorem Symbol.utf8?_eq_none_iff {s : Symbol} : s.utf8? = none ↔ ∃ n, s = .surrogate n := by
  cases s with
  | surrogate n => exact ⟨fun _ => ⟨n, rfl⟩, fun _ => rfl⟩
  | char c =>
    simp only [Symbol.utf8?, reduceCtorEq, exists_false, iff_false]
    split_ifs <;> nofun

theorem Text.utf8?_cons {s : Symbol} {t : Text} :
    Text.utf8? (s :: t) = s.utf8?.bind fun b => (Text.utf8? t).map (b ++ ·) := by
  simp only [Text.utf8?, List.mapM_cons]
  cases s.utf8? <;> cases List.mapM Symbol.utf8? t <;> rfl

/-- **A text has bytes unless a lone surrogate stands in it.** -/
theorem Text.utf8?_eq_none_iff {t : Text} : t.utf8? = none ↔ t.HasSurrogate := by
  induction t with
  | nil => simp [Text.utf8?, Text.HasSurrogate]
  | cons s t ih =>
    have hcons : Text.utf8? (s :: t) = none ↔ s.utf8? = none ∨ Text.utf8? t = none := by
      rw [Text.utf8?_cons]
      cases s.utf8? <;> simp
    simp only [hcons, ih, Symbol.utf8?_eq_none_iff, Text.HasSurrogate, List.mem_cons, exists_or]
    simp [eq_comm]

namespace Utf8

variable {c : Char} {n : Nat} {rest : List UInt8}

/-- The byte of six bits that continue a code point. -/
theorem continuation?_tail : continuation? (0x80 + n % 0x40).toUInt8 = some (n % 0x40) := by
  have h : (0x80 + n % 0x40).toUInt8.toNat = 0x80 + n % 0x40 := by
    simp only [Nat.toUInt8, UInt8.toNat_ofNat']
    omega
  rw [continuation?, h, if_pos (by omega), Nat.add_sub_cancel_left]

theorem character?_toNat {least : Nat} (h : least ≤ c.toNat) : character? least c.toNat = some c := by
  rw [character?, if_pos ⟨h, c.valid⟩, Char.ofNat_toNat]

theorem toNat_toUInt8 (h : n < 0x100) : n.toUInt8.toNat = n := by
  simp only [Nat.toUInt8, UInt8.toNat_ofNat']
  omega

theorem width_toUInt8 (h : n < 0x100) : width n.toUInt8 =
    if n < 0x80 then 1 else if n < 0xC0 then 0 else if n < 0xE0 then 2 else if n < 0xF0 then 3
    else if n < 0xF8 then 4 else 0 := by
  simp [width, UInt8.lt_iff_toNat_lt, toNat_toUInt8 h]

theorem pair?_utf8 (hlow : 0x80 ≤ c.toNat) (h : c.toNat < 0x800) :
    pair? (0xC0 + c.toNat / 0x40).toUInt8 (0x80 + c.toNat % 0x40).toUInt8 = some c := by
  have hc : (0xC0 + c.toNat / 0x40 - 0xC0) * 0x40 + c.toNat % 0x40 = c.toNat := by omega
  simp only [pair?, continuation?_tail, toNat_toUInt8 (show 0xC0 + c.toNat / 0x40 < 0x100 by omega),
    Option.bind_eq_bind, Option.bind_some, hc, character?_toNat hlow]

theorem triple?_utf8 (hlow : 0x800 ≤ c.toNat) (h : c.toNat < 0x10000) :
    triple? (0xE0 + c.toNat / 0x1000).toUInt8 (0x80 + c.toNat / 0x40 % 0x40).toUInt8
      (0x80 + c.toNat % 0x40).toUInt8 = some c := by
  have hc : ((0xE0 + c.toNat / 0x1000 - 0xE0) * 0x40 + c.toNat / 0x40 % 0x40) * 0x40 +
      c.toNat % 0x40 = c.toNat := by omega
  simp only [triple?, continuation?_tail,
    toNat_toUInt8 (show 0xE0 + c.toNat / 0x1000 < 0x100 by omega), Option.bind_eq_bind,
    Option.bind_some, hc, character?_toNat hlow]

theorem quadruple?_utf8 (hlow : 0x10000 ≤ c.toNat) (h : c.toNat < 0x110000) :
    quadruple? (0xF0 + c.toNat / 0x40000).toUInt8 (0x80 + c.toNat / 0x1000 % 0x40).toUInt8
      (0x80 + c.toNat / 0x40 % 0x40).toUInt8 (0x80 + c.toNat % 0x40).toUInt8 = some c := by
  have hc : (((0xF0 + c.toNat / 0x40000 - 0xF0) * 0x40 + c.toNat / 0x1000 % 0x40) * 0x40 +
      c.toNat / 0x40 % 0x40) * 0x40 + c.toNat % 0x40 = c.toNat := by omega
  simp only [quadruple?, continuation?_tail,
    toNat_toUInt8 (show 0xF0 + c.toNat / 0x40000 < 0x100 by omega), Option.bind_eq_bind,
    Option.bind_some, hc, character?_toNat hlow]

theorem toNat_lt (c : Char) : c.toNat < 0x110000 := by
  have h : c.toNat.isValidChar := c.valid
  simp only [Nat.isValidChar] at h
  omega

/-- **The bytes of a character in front of others are read as the character.** -/
theorem next?_utf8? {bytes : List UInt8} (h : (Symbol.char c).utf8? = some bytes) :
    next? (bytes ++ rest) = some (c, rest) := by
  have hc := toNat_lt c
  simp only [Symbol.utf8?, Nat.div_one] at h
  split_ifs at h with h₁ h₂ h₃ <;> obtain rfl := Option.some.inj h
  · have hwidth : width c.toNat.toUInt8 = 1 := by
      rw [width_toUInt8 (by omega), if_pos h₁]
    simp only [next?, List.cons_append, List.nil_append, hwidth,
      toNat_toUInt8 (by omega : c.toNat < 0x100), Char.ofNat_toNat]
  · have hwidth : width (0xC0 + c.toNat / 0x40).toUInt8 = 2 := by
      rw [width_toUInt8 (by omega)]
      split_ifs <;> omega
    simp only [next?, List.cons_append, List.nil_append, hwidth,
      pair?_utf8 (not_lt.1 h₁) h₂, Option.map_some]
  · have hwidth : width (0xE0 + c.toNat / 0x1000).toUInt8 = 3 := by
      rw [width_toUInt8 (by omega)]
      split_ifs <;> omega
    simp only [next?, List.cons_append, List.nil_append, hwidth,
      triple?_utf8 (not_lt.1 h₂) h₃, Option.map_some]
  · have hwidth : width (0xF0 + c.toNat / 0x40000).toUInt8 = 4 := by
      rw [width_toUInt8 (by omega)]
      split_ifs <;> omega
    simp only [next?, List.cons_append, List.nil_append, hwidth,
      quadruple?_utf8 (not_lt.1 h₃) hc, Option.map_some]

/-- A step of reading. -/
theorem decodeFrom_of_next? {read : List Char} {bytes : List UInt8}
    (h : next? bytes = some (c, rest)) : decodeFrom read bytes = decodeFrom (c :: read) rest := by
  have hne : bytes ≠ [] := by
    rintro rfl
    cases h
  rw [decodeFrom, if_neg (by simpa using hne)]
  split
  · next h' =>
    obtain ⟨rfl, rfl⟩ := Prod.mk.inj (Option.some.inj (h.symm.trans h'))
    rfl
  · next h' => cases h.symm.trans h'

/-- **The bytes of a text are read back as the text.** -/
theorem decode?_utf8? {t : Text} {bytes : List UInt8} (h : t.utf8? = some bytes) :
    (decode? bytes).map Text.ofChars = some t := by
  suffices hfrom : ∀ read,
      (decodeFrom read bytes).map Text.ofChars = some (Text.ofChars read.reverse ++ t) from
    hfrom []
  induction t generalizing bytes with
  | nil =>
    obtain rfl : [] = bytes := Option.some.inj h
    intro read
    simp [decodeFrom]
  | cons s t ih =>
    rw [Text.utf8?_cons] at h
    obtain ⟨front, hfront, h⟩ := Option.bind_eq_some_iff.1 h
    obtain ⟨rest, hrest, rfl⟩ := Option.map_eq_some_iff.1 h
    cases s with
    | surrogate n => cases hfront
    | char c =>
      intro read
      rw [decodeFrom_of_next? (next?_utf8? hfront), ih hrest]
      simp [Text.ofChars]

end Utf8

end SuiteForge
