/-
# Templates

A template is a list of pieces: text as it is, outputs, loops and conditions. It is
rendered against named data. What is output may pass through filters; in a template
for XML it is escaped at last, so that it stands for itself there.

| symbol | escaped |
| --- | --- |
| `&`, `<`, `>` | `&amp;`, `&lt;`, `&gt;` |
| `'`, `"` | `&#39;`, `&#34;` |

A name without data is a fault; the first one met is reported.
-/

import SuiteForge.Assoc
import SuiteForge.Suite.JavaText
import SuiteForge.Text.Case

namespace SuiteForge

/-- What a template can be rendered with. -/
inductive Datum where
  | text (t : Text)
  | flag (b : Bool)
  | list (items : List Datum)
  | record (fields : List (Text × Datum))
  deriving Inhabited

/-- What becomes of a text before it is output. -/
inductive Filter where
  | upper
  | javaString
  | javadoc
  deriving DecidableEq

/-- A name, or a field of what a name stands for. -/
structure Ref where
  name : Text
  field : Option Text
  deriving DecidableEq

inductive Piece where
  | text (t : Text)
  | output (ref : Ref) (filters : List Filter)
  | each (item : Text) (list : Ref) (body : List Piece)
  | cond (ref : Ref) (yes no : List Piece)

/-- A compiled template. -/
abbrev Template := List Piece

namespace Datum

/-- What a datum is as a text. -/
def display : Datum → Text
  | text t => t
  | flag b => if b then "True" else "False"
  | list _ => []
  | record _ => []

/-- `false` for no and for what is empty. -/
def isTruthy : Datum → Bool
  | text t => !t.isEmpty
  | flag b => b
  | list items => !items.isEmpty
  | record fields => !fields.isEmpty

/-- The items of a list. -/
def items : Datum → List Datum
  | list ds => ds
  | _ => []

end Datum

namespace Filter

def name : Filter → Text
  | upper => "upper"
  | javaString => "java_string"
  | javadoc => "javadoc"

def all : List Filter := [upper, javaString, javadoc]

/-- A text passed through a filter. -/
def apply : Filter → Text → Text
  | upper, t => t.upper
  | javaString, t => JavaText.literal t
  | javadoc, t => JavaText.comment t

end Filter

/-- One symbol as it stands for itself in XML. -/
def escapeXmlSymbol (s : Symbol) : Text :=
  if s = .char '&' then "&amp;"
  else if s = .char '<' then "&lt;"
  else if s = .char '>' then "&gt;"
  else if s = .char '\'' then "&#39;"
  else if s = .char '"' then "&#34;"
  else [s]

/-- A text as it stands for itself in XML. -/
def escapeXml (t : Text) : Text := t.flatMap escapeXmlSymbol

/-- Data by their names; the innermost loop's item comes first. -/
abbrev Scope := List (Text × Datum)

/-- The datum that a reference stands for, or the name that has none. -/
def Ref.find (r : Ref) (scope : Scope) : Except Text Datum :=
  match scope.lookup r.name with
  | none => .error r.name
  | some d => match r.field with
    | none => .ok d
    | some f => match d with
      | .record fields => match fields.lookup f with
        | some d => .ok d
        | none => .error f
      | _ => .error f

namespace Template

/-- What is output of a datum. -/
def emit (xml : Bool) (filters : List Filter) (d : Datum) : Text :=
  let t := filters.foldl (fun t f => f.apply t) d.display
  if xml then escapeXml t else t

/-- The texts for all items, one after the other. -/
def renderEach (body : Datum → Except Text Text) : List Datum → Except Text Text
  | [] => .ok []
  | d :: rest => do
    let here ← body d
    let after ← renderEach body rest
    .ok (here ++ after)

mutual

/-- The text of one piece. -/
def renderPiece (xml : Bool) (scope : Scope) : Piece → Except Text Text
  | .text t => .ok t
  | .output ref filters => (ref.find scope).map (emit xml filters)
  | .each item list body => do
    let d ← list.find scope
    renderEach (fun d => renderPieces xml ((item, d) :: scope) body) d.items
  | .cond ref yes no => do
    let d ← ref.find scope
    if d.isTruthy then renderPieces xml scope yes else renderPieces xml scope no

/-- The text of a template, or the first name without data. Under `xml` outputs are escaped. -/
def renderPieces (xml : Bool) (scope : Scope) : List Piece → Except Text Text
  | [] => .ok []
  | p :: rest => do
    let here ← renderPiece xml scope p
    let after ← renderPieces xml scope rest
    .ok (here ++ after)

end

/-- Lines of text. -/
def lines (ls : List String) : Piece :=
  .text (ls.flatMap fun l => Text.ofString l ++ Text.ofString "\n")

/-- A text within a line. -/
def plain (s : String) : Piece := .text s

/-- The output of a name. -/
def var (name : String) (filters : List Filter) : Piece := .output ⟨name, none⟩ filters

/-- The output of a field of a name. -/
def field (name fieldName : String) (filters : List Filter) : Piece :=
  .output ⟨name, some fieldName⟩ filters

end Template

end SuiteForge
