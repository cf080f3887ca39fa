/-
# Templates from their source

The source holds text and outputs, a name between double braces with filters after
vertical bars. Line ends of all kinds become line feeds. Statements and comments
are not admitted.
-/

import SuiteForge.Template

namespace SuiteForge

namespace Template

/-- The text with a line feed for every line end. -/
def unifyLines : Text → Text
  | [] => []
  | .char '\r' :: .char '\n' :: rest => .char '\n' :: unifyLines rest
  | .char '\r' :: rest => .char '\n' :: unifyLines rest
  | s :: rest => s :: unifyLines rest

/-- A symbol that may begin a name. -/
def isNameStart (s : Symbol) : Bool := s.isAsciiLetter || s == .char '_'

/-- A name in a source. -/
def sourceName? (t : Text) : Option Text :=
  let name := t.strip
  match name with
  | s :: rest =>
    if isNameStart s && rest.all fun s => s.isAsciiAlnum || s == .char '_' then some name else none
  | [] => none

/-- A filter in a source. -/
def sourceFilter? (t : Text) : Option Filter :=
  (sourceName? t).bind fun name => Filter.all.find? (·.name == name)

/-- What stands between double braces. -/
def sourceOutput? (t : Text) : Option Piece :=
  match Text.splitOn '|' t with
  | [] => none
  | name :: filters => do
    let name ← sourceName? name
    let filters ← filters.mapM sourceFilter?
    some (.output ⟨name, none⟩ filters)

/-- The text up to the closing braces, and what follows them. -/
def untilClose : Text → Option (Text × Text)
  | [] => none
  | .char '\x7d' :: .char '\x7d' :: rest => some ([], rest)
  | s :: rest => (untilClose rest).map fun r => (s :: r.1, r.2)

theorem untilClose_length {t : Text} {r : Text × Text} (h : untilClose t = some r) :
    r.2.length < t.length := by
  fun_induction untilClose t generalizing r with
  | case1 => cases h
  | case2 rest => cases h; simp only [List.length_cons]; omega
  | case3 s rest _ ih =>
    obtain ⟨q, hq, rfl⟩ := Option.map_eq_some_iff.1 h
    have := ih hq
    simp only [List.length_cons]; omega

/-- The pieces of a source; `held` is the text in front of it, in reverse. -/
def pieces? (held : Text) : Text → Option Template
  | .char '\x7b' :: .char '\x7b' :: rest =>
    match h : untilClose rest with
    | none => none
    | some (inside, after) => do
      have := untilClose_length h
      let here ← sourceOutput? inside
      let more ← pieces? [] after
      some (.text held.reverse :: here :: more)
  | .char '\x7b' :: .char '%' :: _ => none
  | .char '\x7b' :: .char '#' :: _ => none
  | s :: rest => pieces? (s :: held) rest
  | [] => some [.text held.reverse]
  termination_by t => t.length
  decreasing_by
    · simp only [List.length_cons] at *; omega
    · simp

/-- The template of a source. -/
def ofSource? (source : Text) : Option Template := pieces? [] (unifyLines source)

end Template

end SuiteForge
