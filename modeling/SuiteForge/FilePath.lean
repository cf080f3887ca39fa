/-
# Paths

A path has a root or none, and segments. Empty segments and dots say nothing and are
dropped; two dots stay.

| path | name | suffix | stem |
| --- | --- | --- | --- |
| `a/b.c.d` | `b.c.d` | `.d` | `b.c` |
| `.a` | `.a` | | `.a` |
| `a.` | `a.` | | `a.` |
-/

import SuiteForge.Text

namespace SuiteForge

/-- A path in normal form. -/
structure FilePath where
  /-- Empty for a relative path; one or two slashes otherwise. -/
  root : Text
  segments : List Text
  deriving DecidableEq

namespace FilePath

/-- The root of a path as it is written: two slashes are kept, more count as one. -/
def rootOf : Text → Text
  | .char '/' :: .char '/' :: .char '/' :: _ => "/"
  | .char '/' :: .char '/' :: _ => "//"
  | .char '/' :: _ => "/"
  | _ => []

def ofText (t : Text) : FilePath :=
  ⟨rootOf t, (Text.splitOn '/' t).filter fun s => !s.isEmpty && s != Text.ofString "."⟩

/-- A path as text; a dot for one that says nothing. -/
def toText (p : FilePath) : Text :=
  if p.root.isEmpty && p.segments.isEmpty then "." else p.root ++ Text.join "/" p.segments

/-- The last segment. -/
def name (p : FilePath) : Text := p.segments.getLast?.getD []

/-- The path without its last segment. -/
def parent (p : FilePath) : FilePath := { p with segments := p.segments.dropLast }

/-- The paths from the first segment on to the parent. -/
def ancestors (p : FilePath) : List FilePath :=
  (List.range p.segments.length).map fun n => { p with segments := p.segments.take n }

/-- A name cut in front of its last dot, if there is one that neither begins nor ends it. -/
def splitName (name : Text) : Text × Text :=
  let after := name.reverse.takeWhile (· != .char '.')
  let before := (name.take (name.length - after.length)).dropLast
  if after.isEmpty || after.length = name.length || before.isEmpty then (name, [])
  else (before, .char '.' :: after.reverse)

/-- The end of the name from its last dot on. -/
def suffix (p : FilePath) : Text := (splitName p.name).2

/-- The name without its suffix. -/
def stem (p : FilePath) : Text := (splitName p.name).1

end FilePath

end SuiteForge
