/-
# Blanks

The white space of every script, and the operations that cut a text at it.
-/

import SuiteForge.Text

namespace SuiteForge

/-- `n` lies in one of the ranges, ends included. -/
def inRanges (ranges : List (Nat × Nat)) (n : Nat) : Bool :=
  ranges.any fun r => decide (r.1 ≤ n ∧ n ≤ r.2)

/-- The ranges of the blank symbols, ends included. -/
def blankRanges : List (Nat × Nat) := [
  (0x09, 0x0D), (0x1C, 0x20), (0x85, 0x85), (0xA0, 0xA0), (0x1680, 0x1680), (0x2000, 0x200A),
  (0x2028, 0x2029), (0x202F, 0x202F), (0x205F, 0x205F), (0x3000, 0x3000)]

/-- White space. -/
def Symbol.isBlank (s : Symbol) : Bool := inRanges blankRanges s.code

theorem Symbol.isBlank_space : Symbol.isBlank (.char ' ') = true := by decide

theorem Symbol.isBlank_newline : Symbol.isBlank (.char '\n') = true := by decide

namespace Text

/-- The text without leading and trailing blanks. -/
def strip (t : Text) : Text := trim Symbol.isBlank t

/-- Empty, or made of blanks alone. -/
def isBlank (t : Text) : Bool := t.all Symbol.isBlank

/-- The maximal runs of symbols that are not blank. -/
def words (t : Text) : List Text := runs (fun s => !s.isBlank) t

/-- The words of a text with one space between them. -/
def flatten (t : Text) : Text := join " " t.words

end Text

end SuiteForge
