/-
# Events

A text read as one or more documents: each document is a tree of scalars, aliases
and collections, told from left to right. The grammar is run by a machine with a
stack of what to expect next (`Expect`), so that it stops where the tokens stop.

A tag's handle is replaced by what the document's directives say; without them
`!` stays and `!!` is `tag:yaml.org,2002:`.
-/

import SuiteForge.Yaml.Token.Lexer

namespace SuiteForge.Yaml

inductive Event where
  | documentStart
  | documentEnd
  | streamEnd
  | alias (name : List Char)
  /-- A scalar; `typed` if its content may decide its type. -/
  | scalar (anchor : Option (List Char)) (tag : Option String) (typed : Bool) (content : Text)
  | sequenceStart (anchor : Option (List Char)) (tag : Option String)
  | sequenceEnd
  | mappingStart (anchor : Option (List Char)) (tag : Option String)
  | mappingEnd
  deriving DecidableEq

/-- The events of a text, and a fault if they break off. -/
structure Events where
  events : List Event
  fault : Option Fault

/-- What the grammar expects next. -/
inductive Expect where
  | firstDocument
  | document
  | documentContent
  | documentEnd
  | blockNode
  | sequenceItem
  | indentlessItem
  | mappingKey
  | mappingValue
  | flowItem (first : Bool)
  | flowPairKey
  | flowPairValue
  | flowPairEnd
  | flowKey (first : Bool)
  | flowValue
  | flowNoValue

/-- The state of the grammar's machine. -/
structure Grammar where
  tokens : List Token
  stack : List Expect
  handles : List (List Char × List Char)

namespace Grammar

/-- The handles that every document knows. -/
def knownHandles : List (List Char × List Char) :=
  [(['!'], ['!']), (['!', '!'], "tag:yaml.org,2002:".toList)]

/-- The result of a step: an event and the next state, or nothing more to come. -/
inductive Step where
  | emit (e : Event) (g : Grammar)
  | done (e : Event)
  | fail (f : Fault)
  /-- The tokens do not reach. -/
  | starved

/-- The same state with one token less. -/
def drop (g : Grammar) : Grammar := { g with tokens := g.tokens.tail }

/-- The same state with something more to expect. -/
def expect (g : Grammar) (e : Expect) : Grammar := { g with stack := e :: g.stack }

/-- A scalar without content. -/
def absent : Event := .scalar none none true []

/-- The anchor and the tag in front of a node, in either order. -/
def properties : List Token →
    Option (List Char) × Option (Option (List Char) × List Char) × List Token
  | .anchor a :: .tag h s :: rest => (some a, some (h, s), rest)
  | .anchor a :: rest => (some a, none, rest)
  | .tag h s :: .anchor a :: rest => (some a, some (h, s), rest)
  | .tag h s :: rest => (none, some (h, s), rest)
  | rest => (none, none, rest)

/-- The tag that a handle and a suffix stand for. -/
def resolveTag (g : Grammar) : Option (List Char) × List Char → Except Fault String
  | (none, suffix) => .ok (String.ofList suffix)
  | (some handle, suffix) => match g.handles.lookup handle with
    | some start => .ok (String.ofList (start ++ suffix))
    | none => .error (.malformed "found undefined tag handle")

/-- A node: its properties and what opens it. Block collections are admitted if `block` holds, and
then a list without an indentation of its own if `indentless` holds. -/
def node (block indentless : Bool) (g : Grammar) : Step :=
  match g.tokens with
  | [] => .starved
  | .alias name :: rest => .emit (.alias name) { g with tokens := rest }
  | tokens =>
    let (anchor, property, rest) := properties tokens
    let resolved : Except Fault (Option String) := match property with
      | none => .ok none
      | some p => (g.resolveTag p).map some
    match rest with
    | [] => .starved
    | first :: after =>
      match resolved with
      | .error f => .fail f
      | .ok tag =>
        let typed := tag.isNone || tag == some "!"
        let inside : Grammar := { g with tokens := after }
        match first with
        | .scalar content plain =>
          .emit (.scalar anchor tag ((plain && tag.isNone) || tag == some "!") content) inside
        | .flowSequenceStart => .emit (.sequenceStart anchor tag) (inside.expect (.flowItem true))
        | .flowMappingStart => .emit (.mappingStart anchor tag) (inside.expect (.flowKey true))
        | _ =>
          if indentless && first == .blockEntry then
            .emit (.sequenceStart anchor tag) ({ g with tokens := rest }.expect .indentlessItem)
          else if block && first == .sequenceStart then
            .emit (.sequenceStart anchor tag) (inside.expect .sequenceItem)
          else if block && first == .mappingStart then
            .emit (.mappingStart anchor tag) (inside.expect .mappingKey)
          else if property.isSome || anchor.isSome then
            .emit (.scalar anchor tag typed []) { g with tokens := rest }
          else .fail (.malformed "expected the node content")

/-- A node, unless a token of a class comes, which stands for a scalar without content. -/
def nodeOr (stops : List Token) (block indentless : Bool) (g : Grammar) : Step :=
  match g.tokens with
  | [] => .starved
  | t :: _ => if stops.contains t then .emit absent g else node block indentless g

/-- The directives in front of a document: the handles that they declare, and what follows. -/
def directives (versioned : Bool) (declared : List (List Char × List Char)) :
    List Token → Except Fault (List (List Char × List Char) × List Token)
  | .directive (.version major _) :: rest =>
    if versioned then .error (.malformed "found duplicate YAML directive")
    else if major != 1 then .error (.malformed "found incompatible YAML document")
    else directives true declared rest
  | .directive (.tag handle start) :: rest =>
    if (declared.lookup handle).isSome then .error (.malformed "duplicate tag handle")
    else directives versioned (declared ++ [(handle, start)]) rest
  | .directive .reserved :: rest => directives versioned declared rest
  | rest => .ok (declared ++ knownHandles, rest)

/-- A document with its marker, or the end of the text. -/
def document (g : Grammar) : Step :=
  match g.tokens.dropWhile (· == .documentEnd) with
  | [] => .starved
  | .streamEnd :: _ => .done .streamEnd
  | tokens =>
    match directives false [] tokens with
    | .error f => .fail f
    | .ok (_, []) => .starved
    | .ok (handles, .documentStart :: rest) =>
      .emit .documentStart ⟨rest, .documentContent :: .documentEnd :: g.stack, handles⟩
    | .ok _ => .fail (.malformed "expected '<document start>'")

/-- The next event. -/
def step (g : Grammar) : Step :=
  match g.stack with
  | [] => .starved
  | expected :: stack =>
    let below : Grammar := { g with stack := stack }
    match expected, g.tokens with
    | _, [] => .starved
    | .firstDocument, .directive _ :: _ => below.document
    | .firstDocument, .documentStart :: _ => below.document
    | .firstDocument, .streamEnd :: _ => below.document
    | .firstDocument, _ =>
      .emit .documentStart ⟨g.tokens, .blockNode :: .documentEnd :: stack, knownHandles⟩
    | .document, _ => below.document
    | .documentContent, .directive _ :: _ => .emit absent below
    | .documentContent, .documentStart :: _ => .emit absent below
    | .documentContent, .documentEnd :: _ => .emit absent below
    | .documentContent, .streamEnd :: _ => .emit absent below
    | .documentContent, _ => below.node true false
    | .blockNode, _ => below.node true false
    | .documentEnd, .documentEnd :: rest =>
      .emit .documentEnd ({ below with tokens := rest }.expect .document)
    | .documentEnd, _ => .emit .documentEnd (below.expect .document)
    | .sequenceItem, .blockEntry :: rest =>
      ({ g with tokens := rest }).nodeOr [.blockEntry, .blockEnd] true false
    | .sequenceItem, .blockEnd :: rest => .emit .sequenceEnd { below with tokens := rest }
    | .sequenceItem, _ => .fail (.malformed "expected <block end>")
    | .indentlessItem, .blockEntry :: rest =>
      ({ g with tokens := rest }).nodeOr [.blockEntry, .key, .value, .blockEnd] true false
    | .indentlessItem, _ => .emit .sequenceEnd below
    | .mappingKey, .key :: rest =>
      ({ below with tokens := rest }.expect .mappingValue).nodeOr
        [.key, .value, .blockEnd] true true
    | .mappingKey, .blockEnd :: rest => .emit .mappingEnd { below with tokens := rest }
    | .mappingKey, _ => .fail (.malformed "expected <block end>")
    | .mappingValue, .value :: rest =>
      ({ below with tokens := rest }.expect .mappingKey).nodeOr [.key, .value, .blockEnd] true true
    | .mappingValue, _ => .emit absent (below.expect .mappingKey)
    | .flowItem _, .flowSequenceEnd :: rest => .emit .sequenceEnd { below with tokens := rest }
    | .flowItem true, _ => item below g.tokens
    | .flowItem false, .flowEntry :: rest => item below rest
    | .flowItem false, _ => .fail (.malformed "expected ',' or ']'")
    | .flowPairKey, _ :: rest =>
      ({ below with tokens := rest }.expect .flowPairValue).nodeOr
        [.value, .flowEntry, .flowSequenceEnd] false false
    | .flowPairValue, .value :: rest =>
      ({ below with tokens := rest }.expect .flowPairEnd).nodeOr
        [.flowEntry, .flowSequenceEnd] false false
    | .flowPairValue, _ => .emit absent (below.expect .flowPairEnd)
    | .flowPairEnd, _ => .emit .mappingEnd (below.expect (.flowItem false))
    | .flowKey _, .flowMappingEnd :: rest => .emit .mappingEnd { below with tokens := rest }
    | .flowKey true, _ => pair below g.tokens
    | .flowKey false, .flowEntry :: rest => pair below rest
    | .flowKey false, _ => .fail (.malformed "expected ',' or '\x7d'")
    | .flowValue, .value :: rest =>
      ({ below with tokens := rest }.expect (.flowKey false)).nodeOr
        [.flowEntry, .flowMappingEnd] false false
    | .flowValue, _ => .emit absent (below.expect (.flowKey false))
    | .flowNoValue, _ => .emit absent (below.expect (.flowKey false))
where
  /-- An item of a bracketed list, or its end after a last comma. -/
  item (below : Grammar) (tokens : List Token) : Step :=
    match tokens with
    | [] => .starved
    | .flowSequenceEnd :: rest => .emit .sequenceEnd { below with tokens := rest }
    | .key :: _ =>
      .emit (.mappingStart none none) ({ below with tokens := tokens }.expect .flowPairKey)
    | _ => ({ below with tokens := tokens }.expect (.flowItem false)).node false false
  /-- An entry of a bracketed mapping, or its end after a last comma. -/
  pair (below : Grammar) (tokens : List Token) : Step :=
    match tokens with
    | [] => .starved
    | .flowMappingEnd :: rest => .emit .mappingEnd { below with tokens := rest }
    | .key :: rest =>
      ({ below with tokens := rest }.expect .flowValue).nodeOr
        [.value, .flowEntry, .flowMappingEnd] false false
    | _ => ({ below with tokens := tokens }.expect .flowNoValue).node false false

/-- The events from here on. Where the tokens do not reach, `fault` says why. -/
def run (fault : Option Fault) : Nat → Grammar → Events
  | 0, _ => ⟨[], some (fault.getD (.malformed "unexpected text"))⟩
  | fuel + 1, g =>
    match g.step with
    | .emit e g =>
      let more := run fault fuel g
      { more with events := e :: more.events }
    | .done e => ⟨[e], none⟩
    | .fail f => ⟨[], some f⟩
    | .starved => ⟨[], some (fault.getD (.malformed "unexpected end of text"))⟩

end Grammar

/-- The events of a text's tokens. -/
def Events.ofTokens (t : Tokens) : Events :=
  Grammar.run t.fault (4 * t.tokens.length + 8) ⟨t.tokens, [.firstDocument], Grammar.knownHandles⟩

end SuiteForge.Yaml
