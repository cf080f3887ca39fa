/-
# Text

A text is a list of symbols. A symbol is a Unicode scalar value, or one half of
a surrogate pair standing alone: escapes such as `\ud83d` in a document denote
such halves, they pass through every stage as data, and only encoding to UTF-8
refuses them.

| operation | result |
| --- | --- |
| `splitOn` | the pieces between the occurrences of a symbol |
| `replace` | every occurrence of a pattern, left to right, exchanged |
| `utf8?` | the UTF-8 bytes, `none` if a surrogate stands in the text |
-/

namespace SuiteForge

/-- A code point: a Unicode scalar value or a lone surrogate. -/
inductive Symbol where
  | char (c : Char)
  | surrogate (n : Fin 0x800)
  deriving DecidableEq, Inhabited

namespace Symbol

/-- The code point as a number. -/
def code : Symbol → Nat
  | char c => c.toNat
  | surrogate n => 0xD800 + n.val

theorem code_char (c : Char) : (char c).code = c.toNat := rfl

/-- The symbol of a code point, `none` above U+10FFFF. -/
def ofCode? (n : Nat) : Option Symbol :=
  if h : 0xD800 ≤ n ∧ n < 0xE000 then some (surrogate ⟨n - 0xD800, by omega⟩)
  else if n < 0x110000 then some (char (Char.ofNat n))
  else none

/-- An ASCII letter. -/
def isAsciiLetter (s : Symbol) : Bool :=
  (0x41 ≤ s.code && s.code ≤ 0x5A) || (0x61 ≤ s.code && s.code ≤ 0x7A)

/-- An ASCII digit. -/
def isAsciiDigit (s : Symbol) : Bool :=
  0x30 ≤ s.code && s.code ≤ 0x39

/-- An ASCII letter or digit. -/
def isAsciiAlnum (s : Symbol) : Bool :=
  s.isAsciiLetter || s.isAsciiDigit

/-- The character that a symbol is; a lone surrogate is none. -/
def char? : Symbol → Option Char
  | char c => some c
  | surrogate _ => none

/-- A hexadecimal digit's value. -/
def hexValue? (s : Symbol) : Option Nat :=
  let n := s.code
  if 0x30 ≤ n ∧ n ≤ 0x39 then some (n - 0x30)
  else if 0x41 ≤ n ∧ n ≤ 0x46 then some (n - 0x41 + 10)
  else if 0x61 ≤ n ∧ n ≤ 0x66 then some (n - 0x61 + 10)
  else none

/-- The UTF-8 bytes of a symbol; a lone surrogate has none. -/
def utf8? : Symbol → Option (List UInt8)
  | surrogate _ => none
  | char c =>
    let n := c.toNat
    let tail (unit : Nat) : UInt8 := (0x80 + n / unit % 0x40).toUInt8
    if n < 0x80 then some [n.toUInt8]
    else if n < 0x800 then some [(0xC0 + n / 0x40).toUInt8, tail 1]
    else if n < 0x10000 then some [(0xE0 + n / 0x1000).toUInt8, tail 0x40, tail 1]
    else some [(0xF0 + n / 0x40000).toUInt8, tail 0x1000, tail 0x40, tail 1]

end Symbol

instance : Coe Char Symbol := ⟨.char⟩

/-- A text: its symbols in order. -/
abbrev Text := List Symbol

namespace Text

/-- The text of a string. -/
def ofString (s : String) : Text := s.toList.map .char

/-- The text of a list of characters. -/
def ofChars (cs : List Char) : Text := cs.map .char

end Text

instance : Coe String Text := ⟨Text.ofString⟩

namespace Text

/-- A natural number in decimal. -/
def ofNat (n : Nat) : Text := ofString (toString n)

/-- An integer in decimal, with a minus sign in front if negative. -/
def ofInt (n : Int) : Text :=
  if n < 0 then (.char '-' : Symbol) :: ofNat n.natAbs else ofNat n.natAbs

/-- The characters of a text, `none` if a surrogate stands in it. -/
def chars? (t : Text) : Option (List Char) := t.mapM Symbol.char?

/-- The bytes of a text in UTF-8, `none` if a surrogate stands in it. -/
def utf8? (t : Text) : Option (List UInt8) := (t.mapM Symbol.utf8?).map List.flatten

/-- All symbols are ASCII. -/
def isAscii (t : Text) : Bool := t.all fun s => decide (s.code < 0x80)

/-- `true` if the text begins with `pre`. -/
def startsWith (t pre : Text) : Bool := pre.isPrefixOf t

/-- `true` if the text ends with `post`. -/
def endsWith (t post : Text) : Bool := post.isSuffixOf t

/-- The texts one after the other with `separator` between them. -/
def join (separator : Text) : List Text → Text
  | [] => []
  | [t] => t
  | t :: u :: rest => t ++ separator ++ join separator (u :: rest)

/-- The pieces between the occurrences of `mark`; there is one more piece than marks. -/
def splitOn (mark : Symbol) : Text → List Text
  | [] => [[]]
  | s :: rest =>
    if s = mark then [] :: splitOn mark rest
    else match splitOn mark rest with
      | [] => [[s]]
      | piece :: pieces => (s :: piece) :: pieces

theorem splitOn_ne_nil (mark : Symbol) (t : Text) : splitOn mark t ≠ [] := by
  cases t with
  | nil => simp [splitOn]
  | cons s rest =>
    simp only [splitOn]
    split
    · simp
    · split <;> simp

/-- Joining the pieces with the mark gives the text back. -/
theorem join_splitOn (mark : Symbol) (t : Text) : join [mark] (splitOn mark t) = t := by
  induction t with
  | nil => rfl
  | cons s rest ih =>
    have hne := splitOn_ne_nil mark rest
    simp only [splitOn]
    split
    · next h =>
      subst h
      cases hs : splitOn s rest with
      | nil => exact absurd hs hne
      | cons piece pieces => rw [hs] at ih; simp [join, ih]
    · cases hs : splitOn mark rest with
      | nil => exact absurd hs hne
      | cons piece pieces =>
        rw [hs] at ih
        cases pieces with
        | nil => simpa [join] using ih
        | cons q qs => simpa [join] using ih

/-- Every occurrence of `old`, left to right and without overlap, exchanged for `new`; an empty
`old` occurs nowhere. -/
def replace (old new : Text) : Text → Text
  | [] => []
  | s :: rest =>
    if old ≠ [] ∧ old.isPrefixOf (s :: rest) then
      new ++ replace old new (rest.drop (old.length - 1))
    else s :: replace old new rest
  termination_by t => t.length
  decreasing_by all_goals simp only [List.length_drop, List.length_cons]; omega

/-- Every `old` exchanged for the text `new`. -/
def replaceSymbol (old : Symbol) (new : Text) (t : Text) : Text :=
  t.flatMap fun s => if s = old then new else [s]

/-- The text without the leading symbols of a class. -/
def dropLeading (p : Symbol → Bool) (t : Text) : Text := t.dropWhile p

/-- The text without the trailing symbols of a class. -/
def dropTrailing (p : Symbol → Bool) (t : Text) : Text := (t.reverse.dropWhile p).reverse

/-- The text without the leading and the trailing symbols of a class. -/
def trim (p : Symbol → Bool) (t : Text) : Text := dropTrailing p (dropLeading p t)

/-- The maximal runs of symbols of a class, in order. -/
def runs (p : Symbol → Bool) (t : Text) : List Text :=
  go [] t
where
  /-- The runs of the rest, the current run being held in reverse. -/
  go (held : Text) : Text → List Text
    | [] => if held.isEmpty then [] else [held.reverse]
    | s :: rest =>
      if p s then go (s :: held) rest
      else if held.isEmpty then go [] rest
      else held.reverse :: go [] rest

/-- A text of at least `width` symbols, blanks behind it. -/
def padded (width : Nat) (t : Text) : Text := t ++ List.replicate (width - t.length) (.char ' ')

/-- A text that can be encoded: lone surrogates are written as escapes. -/
def escaped (t : Text) : Text :=
  t.flatMap fun s => match s with
    | .char c => [.char c]
    | .surrogate n => ofString "\\u" ++ ofChars (Nat.toDigits 16 (0xD800 + n.val))

/-- A number written with `width` hexadecimal digits in lower case, zeros in front. -/
def hex (width : Nat) (n : Nat) : Text :=
  let digits := Nat.toDigits 16 n
  ofChars (List.replicate (width - digits.length) '0' ++ digits)

end Text

end SuiteForge
