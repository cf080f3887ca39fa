/-
# Similar texts

The likeness of two texts is the share of their symbols that lie in matching blocks. The
longest common block is matched first, the leftmost one of several; what lies in front
of it and what lies behind it is matched in the same way.
-/

import SuiteForge.Text

namespace SuiteForge

namespace Text

/-- The length of what two texts begin with alike. -/
def commonStart : Text → Text → Nat
  | s :: rest, t :: rest2 => if s = t then commonStart rest rest2 + 1 else 0
  | _, _ => 0

/-- A block that two texts share: where it begins in each, and its length. -/
structure Block where
  left : Nat
  right : Nat
  length : Nat
  deriving DecidableEq

/-- The blocks that begin somewhere in each of two texts, leftmost first. -/
def blocks (t u : Text) : List Block :=
  (List.range t.length).flatMap fun i => (List.range u.length).map fun j =>
    ⟨i, j, commonStart (t.drop i) (u.drop j)⟩

/-- The longest shared block, the first of several. -/
def longestBlock (t u : Text) : Block :=
  (blocks t u).foldl (fun best b => if best.length < b.length then b else best) ⟨0, 0, 0⟩

/-- The number of symbols in matching blocks. -/
def matching (t u : Text) : Nat :=
  let b := longestBlock t u
  if _ : b.left < t.length ∧ 0 < b.length then
    b.length + matching (t.take b.left) (u.take b.right) +
      matching (t.drop (b.left + b.length)) (u.drop (b.right + b.length))
  else 0
  termination_by t.length
  decreasing_by all_goals simp only [List.length_take, List.length_drop, b] at *; omega

/-- At least three fifths of the symbols of two texts match. -/
def isSimilar (t u : Text) : Bool := 3 * (t.length + u.length) ≤ 10 * matching t u

/-- `t` is at least as like a text as `u` is; of two that are equally like, the later one in
alphabetical order comes first. -/
def closer (word t u : Text) : Bool :=
  let l := matching t word * (u.length + word.length)
  let r := matching u word * (t.length + word.length)
  r < l || (l == r && !((t.map Symbol.code) < (u.map Symbol.code)))

/-- The three names that are most like a text, in alphabetical order. -/
def closest (names : List Text) (word : Text) : List Text :=
  (((names.filter fun n => isSimilar n word).mergeSort (closer word)).take 3).mergeSort
    fun t u => !((u.map Symbol.code) < (t.map Symbol.code))

end Text

end SuiteForge
