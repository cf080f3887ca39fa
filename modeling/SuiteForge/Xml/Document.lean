/-
# Well-formed documents

A document is read symbol by symbol. The reader keeps what it is in the middle of
(`Mode`), the elements that are open, and how far the document has come (`Place`).

| place | may come next |
| --- | --- |
| `start`, `prolog` | the XML declaration, a document type, the root element |
| `subset` | declarations |
| `afterDoctype` | the root element |
| `epilog` | comments and processing instructions |
| `entity` | content, which closes all elements that it opens |

`step` is one symbol; a text is read by folding it, so reading one text after another is
reading both (`read_append`).
-/

import SuiteForge.Xml.Declaration
import SuiteForge.Xml.Namespace

namespace SuiteForge

namespace Xml

/-- How far a document has come. -/
inductive Place where
  | start
  | prolog
  | subset
  | afterDoctype
  | epilog
  | entity (outer : Bindings)
  deriving DecidableEq

/-- A part of a start tag. Texts that are being read are in reverse. -/
inductive TagPart where
  | name (reversed : Text)
  | gap
  | attributeName (reversed : Text)
  | equals (name : Text)
  | quote (name : Text)
  | value (name : Text) (mark : Symbol) (reversed : Text)
  | reference (name : Text) (mark : Symbol) (reversed reference : Text)
  | afterValue
  | slash
  deriving DecidableEq

/-- A start tag that is being read. -/
structure Tag where
  name : Text
  attributes : List (Text × Text)
  part : TagPart
  deriving DecidableEq

/-- What the reader is in the middle of. Texts that are being read are in reverse. -/
inductive Mode where
  /-- Text, behind so many closing brackets. -/
  | text (brackets : Nat)
  | reference (reversed : Text)
  | angle
  /-- The beginning of markup behind `<!`. -/
  | bang (reversed : Text)
  | comment (hyphens : Nat)
  | target (reversed : Text)
  | targetEnd
  /-- A processing instruction, whether it is the XML declaration, and whether a question mark has
  just been read. -/
  | instruction (isDeclaration : Bool) (question : Bool) (reversed : Text)
  | section (brackets : Nat)
  | tag (t : Tag)
  | endTag (reversed : Text)
  | endGap (name : Text)
  /-- A document type up to its declarations, within quotes or not. -/
  | doctype (quote : Option Symbol) (reversed : Text)
  | parameter (reversed : Text)
  | declaration (quote : Option Symbol) (reversed : Text)
  | doctypeEnd
  deriving DecidableEq

/-- An open element. -/
structure Element where
  name : Text
  bindings : Bindings

structure Reader where
  mode : Mode
  place : Place
  elements : List Element
  doctype : Doctype
  /-- The entities that are being read. -/
  opened : List Text

namespace Reader

/-- The beginning of a document. -/
def start : Reader := ⟨.text 0, .start, [], .empty, []⟩

/-- Content may stand here. -/
def isInside (r : Reader) : Bool :=
  !r.elements.isEmpty || match r.place with
    | .entity _ => true
    | _ => false

/-- What prefixes stand for here. -/
def bindings (r : Reader) : Bindings :=
  match r.elements with
  | e :: _ => e.bindings
  | [] => match r.place with
    | .entity outer => outer
    | _ => initialBindings

/-- An element may begin here. -/
def mayOpen (r : Reader) : Bool :=
  r.isInside || match r.place with
    | .start | .prolog | .afterDoctype => true
    | _ => false

/-- The mode that follows a comment or a processing instruction, after which an XML declaration
comes too late. -/
def resume (r : Reader) : Reader :=
  { r with mode := .text 0, place := if r.place = .start then .prolog else r.place }

/-! ## The XML declaration -/

/-- A pseudo-attribute: blanks, its name, its value, and what follows. -/
def pseudoAttribute? (t : Text) : Option (Text × Text × Text) :=
  let body := t.dropWhile isSpace
  if body.length = t.length then none
  else
    let name := body.takeWhile fun s => !isSpace s && s != .char '='
    match (body.drop name.length).dropWhile isSpace with
    | .char '=' :: rest =>
      match rest.dropWhile isSpace with
      | q :: rest =>
        let value := rest.takeWhile fun s =>
          s.isAsciiAlnum || s == .char '.' || s == .char '-' || s == .char '_'
        let after := rest.drop value.length
        if (q == .char '"' || q == .char '\'') && after.head? == some q && !name.isEmpty then
          some (name, value, after.drop 1)
        else none
      | [] => none
    | _ => none

/-- Whether the document stands alone, read behind the encoding. -/
def standalone? (t : Text) : Option Bool :=
  if t.all isSpace then some false
  else match pseudoAttribute? t with
    | some (name, value, rest) =>
      if name = Text.ofString "standalone" ∧ rest.all isSpace then
        if value = Text.ofString "yes" then some true
        else if value = Text.ofString "no" then some false
        else none
      else none
    | none => none

/-- What an XML declaration says: whether the document stands alone. -/
def declared? (t : Text) : Option Bool :=
  match pseudoAttribute? t with
  | some (name, _, rest) =>
    if name = Text.ofString "version" then
      match pseudoAttribute? rest with
      | some (name, value, rest2) =>
        if name = Text.ofString "encoding" then
          if value.head?.any Symbol.isAsciiLetter then standalone? rest2 else none
        else standalone? rest
      | none => standalone? rest
    else none
  | none => none

/-! ## Elements -/

/-- An element begins; an empty one ends at once. -/
def openElement (r : Reader) (name : Text) (attributes : List (Text × Text)) (isEmpty : Bool) :
    Option Reader := do
  let attributes := attributes ++ r.doctype.defaultsFor name attributes
  let inside ← enter? r.bindings name attributes
  if isEmpty then
    some { r with
      mode := .text 0
      place := if r.elements.isEmpty && !r.isInside then .epilog else r.place }
  else some { r with mode := .text 0, elements := ⟨name, inside⟩ :: r.elements }

/-- The innermost element ends; its root's end ends the document. -/
def closeElement (r : Reader) (name : Text) : Option Reader :=
  match r.elements with
  | [] => none
  | e :: rest =>
    if e.name ≠ name then none
    else
      let r := { r with mode := .text 0, elements := rest }
      some (if r.isInside then r else { r with place := .epilog })

/-! ## Steps -/

/-- One symbol of a start tag. -/
def stepTag (r : Reader) (t : Tag) (s : Symbol) : Option Reader :=
  let go (t : Tag) : Option Reader := some { r with mode := .tag t }
  /- A symbol behind the name or between attributes. -/
  let gap (t : Tag) : Option Reader :=
    if isSpace s then go { t with part := .gap }
    else if s == .char '>' then r.openElement t.name t.attributes false
    else if s == .char '/' then go { t with part := .slash }
    else none
  let equals (name : Text) : Option Reader :=
    if isSpace s then go { t with part := .equals name }
    else if s == .char '=' then go { t with part := .quote name }
    else none
  match t.part with
  | .name reversed =>
    if isSpace s || s == .char '>' || s == .char '/' then
      if (qualified? reversed.reverse).isSome then gap { t with name := reversed.reverse } else none
    else go { t with part := .name (s :: reversed) }
  | .gap =>
    if isNameStart s then go { t with part := .attributeName [s] } else gap t
  | .attributeName reversed =>
    if isSpace s || s == .char '=' then
      if (qualified? reversed.reverse).isSome then equals reversed.reverse else none
    else go { t with part := .attributeName (s :: reversed) }
  | .equals name => equals name
  | .quote name =>
    if isSpace s then go t
    else if s == .char '"' || s == .char '\'' then go { t with part := .value name s [] }
    else none
  | .value name mark reversed =>
    if s = mark then
      go { t with attributes := t.attributes ++ [(name, reversed.reverse)], part := .afterValue }
    else if s == .char '<' then none
    else if s == .char '&' then go { t with part := .reference name mark reversed [] }
    else go { t with part := .value name mark (s :: reversed) }
  | .reference name mark reversed reference =>
    if s == .char ';' then do
      let here ← r.doctype.attributeReference? r.opened reference.reverse
      go { t with part := .value name mark (here.reverse ++ reversed) }
    else go { t with part := .reference name mark reversed (s :: reference) }
  | .afterValue => gap t
  | .slash => if s == .char '>' then r.openElement t.name t.attributes true else none

/-- What `<!` may begin: a comment, a section of plain text, the document type. -/
def stepBang (r : Reader) (seen : Text) : Option Reader :=
  let keyword : Text := seen.reverse
  if r.place = .subset then
    if keyword = Text.ofString "-" then some { r with mode := .bang seen }
    else if keyword = Text.ofString "--" then some { r with mode := .comment 0 }
    else if keyword.startsWith "-" then none
    else some { r with mode := .declaration none seen }
  else if keyword = Text.ofString "--" then some { r with mode := .comment 0 }
  else if keyword = Text.ofString "[CDATA[" && r.isInside then some { r with mode := .section 0 }
  else if (Text.ofString "--").startsWith keyword ||
      (r.isInside && (Text.ofString "[CDATA[").startsWith keyword) ||
      ((r.place = .start ∨ r.place = .prolog) && !r.isInside &&
        (Text.ofString "DOCTYPE").startsWith keyword) then
    some { r with mode := .bang seen }
  else if (r.place = .start ∨ r.place = .prolog) && !r.isInside &&
      keyword.startsWith "DOCTYPE" && keyword.getLast?.any isSpace then
    some { r with mode := .doctype none [] }
  else none

/-- A target that is `xml` but for the case of its letters. -/
def isReserved (target : Text) : Bool :=
  match target with
  | [x, m, l] =>
    (x == .char 'x' || x == .char 'X') && (m == .char 'm' || m == .char 'M') &&
      (l == .char 'l' || l == .char 'L')
  | _ => false

/-- A processing instruction with data begins; the XML declaration comes first in a document. -/
def beginInstruction (r : Reader) (target : Text) : Option Reader :=
  if !isName target then none
  else if target = Text.ofString "xml" then
    if r.place = .start && r.elements.isEmpty then
      some { r with mode := .instruction true false [] }
    else none
  else if isReserved target then none
  else some { r with mode := .instruction false false [] }

/-- A symbol outside quotes, or the quote that it begins or ends. -/
def quoting (quote : Option Symbol) (s : Symbol) : Option Symbol :=
  match quote with
  | some q => if s = q then none else some q
  | none => if s == .char '"' || s == .char '\'' then some s else none

/-- One symbol. `fits` tells whether the value of an entity may stand where it is referred to: the
reader, with the entity opened, stands in front of it. -/
def step (fits : Reader → Text → Bool) (r : Reader) (s : Symbol) : Option Reader :=
  if !isLegal s then none
  else match r.mode with
  | .text brackets =>
    if r.place = .subset then
      if isSpace s then some r
      else if s == .char '<' then some { r with mode := .angle }
      else if s == .char '%' then some { r with mode := .parameter [] }
      else if s == .char ']' then some { r with mode := .doctypeEnd }
      else none
    else if s == .char '<' then some { r with mode := .angle }
    else if r.isInside then
      if s == .char '&' then some { r with mode := .reference [] }
      else if s == .char ']' then some { r with mode := .text (brackets + 1) }
      else if s == .char '>' && 2 ≤ brackets then none
      else some { r with mode := .text 0 }
    else if isSpace s then some r.resume
    else none
  | .reference reversed =>
    if s == .char ';' then
      match reversed.reverse with
      | .char '#' :: number =>
        if (character? number).isSome then some { r with mode := .text 0 } else none
      | name =>
        if !isName name then none
        else if (predefinedEntities.lookup name).isSome then some { r with mode := .text 0 }
        else match r.doctype.entities.lookup name with
          | some (.internal value) =>
            if r.opened.contains name then none
            else if fits { r with
                mode := .text 0, place := .entity r.bindings, elements := [],
                opened := name :: r.opened } value then
              some { r with mode := .text 0 }
            else none
          | _ => none
    else some { r with mode := .reference (s :: reversed) }
  | .angle =>
    if s == .char '!' then some { r with mode := .bang [] }
    else if s == .char '?' then some { r with mode := .target [] }
    else if s == .char '/' then
      if r.elements.isEmpty then none else some { r with mode := .endTag [] }
    else if isNameStart s && r.mayOpen then some { r with mode := .tag ⟨[], [], .name [s]⟩ }
    else none
  | .bang seen => stepBang r (s :: seen)
  | .comment hyphens =>
    if s == .char '-' then
      if 2 ≤ hyphens then none else some { r with mode := .comment (hyphens + 1) }
    else if 2 ≤ hyphens then
      if s == .char '>' then some r.resume else none
    else some { r with mode := .comment 0 }
  | .target reversed =>
    if isSpace s then r.beginInstruction reversed.reverse
    else if s == .char '?' then
      if isName reversed.reverse && !isReserved reversed.reverse then
        some { r with mode := .targetEnd }
      else none
    else some { r with mode := .target (s :: reversed) }
  | .targetEnd => if s == .char '>' then some r.resume else none
  | .instruction isDeclaration question reversed =>
    if question && s == .char '>' then
      if isDeclaration then
        (declared? (.char ' ' :: (reversed.drop 1).reverse)).map fun alone =>
          { r.resume with doctype := { r.doctype with isStandalone := alone } }
      else some r.resume
    else some { r with mode := .instruction isDeclaration (s == .char '?') (s :: reversed) }
  | .section brackets =>
    if s == .char ']' then some { r with mode := .section (brackets + 1) }
    else if s == .char '>' && 2 ≤ brackets then some { r with mode := .text 0 }
    else some { r with mode := .section 0 }
  | .tag t => stepTag r t s
  | .endTag reversed =>
    if isSpace s then some { r with mode := .endGap reversed.reverse }
    else if s == .char '>' then r.closeElement reversed.reverse
    else some { r with mode := .endTag (s :: reversed) }
  | .endGap name =>
    if isSpace s then some r else if s == .char '>' then r.closeElement name else none
  | .doctype quote reversed =>
    if quote.isNone && (s == .char '[' || s == .char '>') then
      (doctype? r.doctype reversed.reverse).map fun d => { r with
        mode := .text 0
        place := if s == .char '[' then .subset else .afterDoctype
        doctype := d }
    else some { r with mode := .doctype (quoting quote s) (s :: reversed) }
  | .parameter reversed =>
    if s == .char ';' then
      if isName reversed.reverse then
        some { r with mode := .text 0, doctype := r.doctype.seeParameterReference }
      else none
    else some { r with mode := .parameter (s :: reversed) }
  | .declaration quote reversed =>
    if quote.isNone && s == .char '>' then
      (declare? r.doctype reversed.reverse).map fun d => { r with mode := .text 0, doctype := d }
    else some { r with mode := .declaration (quoting quote s) (s :: reversed) }
  | .doctypeEnd =>
    if isSpace s then some r
    else if s == .char '>' then some { r with mode := .text 0, place := .afterDoctype }
    else none

/-- A text read. -/
def read (fits : Reader → Text → Bool) (r : Reader) (t : Text) : Option Reader :=
  t.foldlM (step fits) r

/-- Reading one text after another is reading both. -/
theorem read_append (fits : Reader → Text → Bool) (r : Reader) (t u : Text) :
    read fits r (t ++ u) = (read fits r t).bind fun r => read fits r u := by
  simp [read, List.foldlM_append, bind]

/-- No markup is unfinished, and no element open. -/
def isBalanced (r : Reader) : Bool :=
  r.elements.isEmpty && match r.mode with
    | .text _ => true
    | _ => false

/-- The document has come to its end. -/
def isFinished (r : Reader) : Bool := r.isBalanced && r.place = .epilog

/-- The value of an entity may stand where it is referred to. Each entity in it is one more that is
open, so the number of entities bounds the depth. -/
def entityFits : Nat → Reader → Text → Bool
  | 0, _, _ => false
  | depth + 1, r, value => (read (entityFits depth) r value).any isBalanced

/-- The value of an entity may stand where it is referred to. -/
def fits (r : Reader) (value : Text) : Bool := entityFits (r.doctype.entities.length + 1) r value

end Reader

/-- A well-formed document; a byte order mark may stand in front of it. -/
def isWellFormed (t : Text) : Bool :=
  let body := match t with
    | s :: rest => if s.code = 0xFEFF then rest else t
    | [] => []
  (Reader.start.read Reader.fits body).any Reader.isFinished

end Xml

end SuiteForge
