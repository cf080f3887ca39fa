/-
# Document type declarations

The words of a declaration are told apart first (`Word.ofText?`), then its form is
looked at.

| declaration | form |
| --- | --- |
| `DOCTYPE` | name, external identifier or nothing |
| `ELEMENT` | name, `EMPTY`, `ANY`, or a content model |
| `ATTLIST` | name, and for each attribute its name, type and default |
| `ENTITY` | `%` or nothing, name, value or external identifier |
| `NOTATION` | name, external identifier or public identifier |

What later parts of a document depend on is kept in a `Doctype`: the entities, the
defaults of attributes, and whether declarations may be missing.
-/

import SuiteForge.Xml.Name

namespace SuiteForge

namespace Xml

/-! ## Words -/

/-- A word of a declaration. -/
inductive Word where
  /-- Name symbols and colons, and the mark of repetition behind them. -/
  | name (t : Text) (mark : Option Symbol)
  /-- A word behind a number sign. -/
  | keyword (t : Text)
  /-- What stands between quotes. -/
  | literal (t : Text)
  | opening
  | closing (mark : Option Symbol)
  | comma
  | bar
  | percent
  deriving DecidableEq

namespace Word

/-- A mark of repetition. -/
def isMark (s : Symbol) : Bool := s == .char '?' || s == .char '*' || s == .char '+'

/-- What is being read. -/
inductive Held where
  | nothing
  | name (reversed : Text)
  | keyword (reversed : Text)
  | literal (quote : Symbol) (reversed : Text)
  /-- A word that only a delimiter may follow. -/
  | done (w : Word)
  | closing

/-- May follow a word: spaces and the marks between words. -/
def isDelimiter (s : Symbol) : Bool :=
  isSpace s || s == .char ')' || s == .char ',' || s == .char '|'

/-- What begins with a symbol. -/
def start? (s : Symbol) : Option (List Word × Held) :=
  if isSpace s then some ([], .nothing)
  else if s == .char '"' || s == .char '\'' then some ([], .literal s [])
  else if s == .char '(' then some ([.opening], .nothing)
  else if s == .char ')' then some ([], .closing)
  else if s == .char ',' then some ([.comma], .nothing)
  else if s == .char '|' then some ([.bar], .nothing)
  else if s == .char '#' then some ([], .keyword [])
  else if s == .char '%' then some ([], .done .percent)
  else if isNameSymbol s then some ([], .name [s])
  else none

/-- A finished word in front of what begins with a symbol. -/
def after? (w : Word) (s : Symbol) : Option (List Word × Held) :=
  (start? s).map fun r => (w :: r.1, r.2)

/-- The words that a symbol ends, and what is being read behind it. -/
def next? : Held → Symbol → Option (List Word × Held)
  | .nothing, s => start? s
  | .name r, s =>
    if isNameSymbol s || s == .char ':' then some ([], .name (s :: r))
    else if isMark s then some ([.name r.reverse (some s)], .nothing)
    else if isDelimiter s then after? (.name r.reverse none) s
    else none
  | .keyword r, s =>
    if isNameSymbol s then some ([], .keyword (s :: r))
    else if isDelimiter s then after? (.keyword r.reverse) s
    else none
  | .literal q r, s =>
    if s = q then some ([], .done (.literal r.reverse)) else some ([], .literal q (s :: r))
  | .done w, s => if isSpace s then some ([w], .nothing) else none
  | .closing, s =>
    if isMark s then some ([.closing (some s)], .nothing)
    else if isDelimiter s then after? (.closing none) s
    else none

/-- The word that the end of a declaration ends. -/
def last? : Held → Option (List Word)
  | .nothing => some []
  | .name r => some [.name r.reverse none]
  | .keyword r => some [.keyword r.reverse]
  | .literal _ _ => none
  | .done .percent => none
  | .done w => some [w]
  | .closing => some [.closing none]

/-- The words of a text, a word being held. -/
def read? (held : Held) : Text → Option (List Word)
  | [] => last? held
  | s :: rest => do
    let (ws, held) ← next? held s
    let more ← read? held rest
    some (ws ++ more)

/-- The words of a declaration. -/
def ofText? (t : Text) : Option (List Word) := read? .nothing t

/-- The text of a name without a colon. -/
def name? : Word → Option Text
  | name t none => if isName t then some t else none
  | _ => none

/-- The text of a name with a colon at most. -/
def element? : Word → Option Text
  | name t none => match Text.splitOn ':' t with
    | [part] => if isName part then some t else none
    | [before, part] =>
      if isName before && !part.isEmpty && part.all isNameSymbol then some t else none
    | _ => none
  | _ => none

end Word

/-! ## What is declared -/

/-- What stands for an entity. -/
inductive Entity where
  | internal (value : Text)
  | external
  | unparsed
  deriving DecidableEq

/-- What has been declared. -/
structure Doctype where
  /-- The entities, the first declaration of each counting. -/
  entities : List (Text × Entity)
  /-- Attributes of elements with their defaults, if they have one. -/
  defaults : List ((Text × Text) × Option Text)
  /-- Some declarations stand outside the document. -/
  hasExternal : Bool
  /-- The document says that it needs none of those. -/
  isStandalone : Bool
  /-- Declarations are still taken into account. -/
  isReading : Bool

namespace Doctype

/-- Nothing is declared. -/
def empty : Doctype := ⟨[], [], false, false, true⟩

/-- An entity that is not declared is a fault. -/
def isComplete (d : Doctype) : Bool := !d.hasExternal || d.isStandalone

/-- After a reference to outside declarations, those behind it only count in documents that stand
alone. -/
def seeParameterReference (d : Doctype) : Doctype :=
  { d with hasExternal := true, isReading := d.isStandalone }

/-- A text with its references exchanged, `reference?` giving what each stands for; `held` is a
reference being read, in reverse. -/
def exchange? (reference? : Text → Option Text) : Option Text → Text → Option Text
  | none, [] => some []
  | some _, [] => none
  | none, s :: rest =>
    if s = .char '&' then exchange? reference? (some []) rest
    else (exchange? reference? none rest).map (s :: ·)
  | some held, s :: rest =>
    if s = .char ';' then do
      let here ← reference? held.reverse
      let more ← exchange? reference? none rest
      some (here ++ more)
    else exchange? reference? (some (s :: held)) rest

/-- What a reference in the value of an entity stands for: a character for itself, an entity for a
reference to it. -/
def inEntityValue? : Text → Option Text
  | .char '#' :: number => (character? number).map ([·])
  | name => if isName name then some ([.char '&'] ++ name ++ [.char ';']) else none

/-- The value of a declared entity. -/
def entityValue? (t : Text) : Option Text :=
  if t.contains (.char '%') then none else exchange? inEntityValue? none t

/-- What a reference in an attribute's value stands for. Entities that are being exchanged are in
`opened`. -/
def inAttribute? (d : Doctype) : Nat → List Text → Text → Option Text
  | _, _, .char '#' :: number => (character? number).map ([·])
  | fuel, opened, name =>
    if !isName name then none
    else match predefinedEntities.lookup name with
      | some t => some t
      | none => match d.entities.lookup name with
        | none => if d.isComplete then none else some []
        | some (.internal value) =>
          if opened.contains name || value.contains (.char '<') then none
          else match fuel with
            | 0 => none
            | fuel + 1 => exchange? (inAttribute? d fuel (name :: opened)) none value
        | some _ => none

/-- What a reference in an attribute's value stands for. -/
def attributeReference? (d : Doctype) (opened : List Text) (name : Text) : Option Text :=
  inAttribute? d (d.entities.length + 1) opened name

/-- An attribute's value with its references exchanged. -/
def attributeValue? (d : Doctype) (t : Text) : Option Text :=
  if t.contains (.char '<') then none else exchange? (d.attributeReference? []) none t

/-- The defaults for an element that has some attributes. -/
def defaultsFor (d : Doctype) (element : Text) (attributes : List (Text × Text)) :
    List (Text × Text) :=
  d.defaults.filterMap fun e => match e with
    | ((of, name), some value) =>
      if of = element ∧ attributes.lookup name = none then some (name, value) else none
    | _ => none

end Doctype

/-! ## Forms -/

/-- A symbol of a public identifier. -/
def isPublicSymbol (s : Symbol) : Bool :=
  s.isAsciiAlnum || (Text.ofString " \r\n-'()+,./:=?;!*#@$_%").contains s

/-- An external identifier, and what follows it. -/
def externalIdentifier? : List Word → Option (List Word)
  | .name t none :: .literal l :: rest =>
    if t = Text.ofString "SYSTEM" then some rest
    else if t = Text.ofString "PUBLIC" ∧ l.all isPublicSymbol then
      match rest with
      | .literal _ :: rest => some rest
      | _ => none
    else none
  | _ => none

/-- Names of which any may come any number of times, behind the first bar. -/
def isMixedTail : List Word → Bool
  | [.closing (some mark)] => mark == .char '*'
  | .bar :: w :: rest => (Word.element? w).isSome && isMixedTail rest
  | _ => false

/-- The name of a part of a content model. -/
def isPart : Word → Bool
  | .name t _ => (Word.element? (.name t none)).isSome
  | _ => false

/-- A content model; `groups` holds the marks between the parts of the open groups, innermost
first. A part comes next if `wantsPart`. -/
def isModel : List (Option Word) → Bool → List Word → Bool
  | [], _, words => words.isEmpty
  | _, _, [] => false
  | groups, true, w :: rest =>
    if w = .opening then isModel (none :: groups) true rest
    else isPart w && isModel groups false rest
  | mark :: groups, false, w :: rest =>
    match w with
    | .closing _ => isModel groups false rest
    | .comma | .bar => (mark == none || mark == some w) && isModel (some w :: groups) true rest
    | _ => false

/-- What an element may hold. -/
def isContent : List Word → Bool
  | [.name t none] => t == Text.ofString "EMPTY" || t == Text.ofString "ANY"
  | .opening :: .keyword t :: rest =>
    t == Text.ofString "PCDATA" && (rest == [.closing none] || isMixedTail rest)
  | .opening :: rest => isModel [none] true rest
  | _ => false

/-- The types of attributes that are named by a word. -/
def attributeTypes : List Text :=
  ["CDATA", "ID", "IDREF", "IDREFS", "ENTITY", "ENTITIES", "NMTOKEN", "NMTOKENS"]

/-- Words with bars between them up to a parenthesis, and what follows. -/
def choice? (admits : Word → Bool) : List Word → Option (List Word)
  | w :: .closing none :: rest => if admits w then some rest else none
  | w :: .bar :: rest => if admits w then choice? admits rest else none
  | _ => none

/-- An attribute's type, and what follows it. -/
def attributeType? : List Word → Option (List Word)
  | .name t none :: rest =>
    if attributeTypes.contains t then some rest
    else if t = Text.ofString "NOTATION" then
      match rest with
      | .opening :: rest => choice? (fun w => w.name?.isSome) rest
      | _ => none
    else none
  | .opening :: rest =>
    choice? (fun w => match w with
      | .name _ none => true
      | _ => false) rest
  | _ => none

/-- An attribute's default, if it has one, and what follows. -/
def attributeDefault? (d : Doctype) : List Word → Option (Option Text × List Word)
  | .literal l :: rest => value l rest
  | .keyword t :: rest =>
    if t = Text.ofString "IMPLIED" ∨ t = Text.ofString "REQUIRED" then some (none, rest)
    else if t = Text.ofString "FIXED" then
      match rest with
      | .literal l :: rest => value l rest
      | _ => none
    else none
  | _ => none
where
  /-- A default with what follows it. -/
  value (l : Text) (rest : List Word) : Option (Option Text × List Word) :=
    if d.isReading then (d.attributeValue? l).map fun v => (some v, rest) else some (none, rest)

/-- The declared attributes of an element. -/
def attributes? (d : Doctype) (element : Text) : Nat → List Word → Option Doctype
  | _, [] => some d
  | 0, _ => none
  | fuel + 1, w :: rest => do
    let name ← w.element?
    let rest ← attributeType? rest
    let (value, rest) ← attributeDefault? d rest
    let known := (d.defaults.lookup (element, name)).isSome
    let d := if d.isReading && !known then
      { d with defaults := d.defaults ++ [((element, name), value)] } else d
    attributes? d element fuel rest

/-- An entity declared, unless its name is taken. -/
def declareEntity (d : Doctype) (name : Text) (e : Entity) : Doctype :=
  if d.isReading && (d.entities.lookup name).isNone then
    { d with entities := d.entities ++ [(name, e)] }
  else d

/-- The declaration of an entity behind its name. -/
def entity? (d : Doctype) (name : Text) : List Word → Option Doctype
  | [.literal l] =>
    if d.isReading then
      (Doctype.entityValue? l).map fun v => declareEntity d name (.internal v)
    else some d
  | words => match externalIdentifier? words with
    | some [] => some (declareEntity d name .external)
    | some [.name t none, format] =>
      if t = Text.ofString "NDATA" ∧ format.name?.isSome then some (declareEntity d name .unparsed)
      else none
    | _ => none

/-- The declaration of a parameter entity behind its name. -/
def isParameterEntity (d : Doctype) : List Word → Bool
  | [.literal l] => !d.isReading || (Doctype.entityValue? l).isSome
  | words => externalIdentifier? words == some []

/-- A public identifier alone. -/
def isPublicIdentifier : List Word → Bool
  | [.name t none, .literal l] => t == Text.ofString "PUBLIC" && l.all isPublicSymbol
  | _ => false

/-- What a declaration adds; `none` if it has no such form. -/
def declare? (d : Doctype) (declaration : Text) : Option Doctype := do
  let keyword := declaration.takeWhile fun s => !isSpace s
  let rest := declaration.dropWhile fun s => !isSpace s
  if rest.isEmpty then none
  let words ← Word.ofText? rest
  if keyword = Text.ofString "ELEMENT" then
    match words with
    | w :: words => if w.element?.isSome && isContent words then some d else none
    | [] => none
  else if keyword = Text.ofString "ATTLIST" then
    match words with
    | w :: words => do
      let element ← w.element?
      attributes? d element words.length words
    | [] => none
  else if keyword = Text.ofString "ENTITY" then
    match words with
    | .percent :: w :: words => if w.name?.isSome && isParameterEntity d words then some d else none
    | w :: words => do
      let name ← w.name?
      entity? d name words
    | [] => none
  else if keyword = Text.ofString "NOTATION" then
    match words with
    | w :: words =>
      if w.name?.isSome && (externalIdentifier? words == some [] || isPublicIdentifier words)
      then some d else none
    | [] => none
  else none

/-- The document type of what stands between `DOCTYPE` and its declarations. -/
def doctype? (d : Doctype) (head : Text) : Option Doctype := do
  match (← Word.ofText? head) with
  | [w] => if w.element?.isSome then some d else none
  | w :: words =>
    if w.element?.isSome && externalIdentifier? words == some [] then
      some { d with hasExternal := true }
    else none
  | [] => none

end Xml

end SuiteForge
