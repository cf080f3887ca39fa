/-
# Tokens

| token | written |
| --- | --- |
| `directive` | `%YAML 1.1`, `%TAG ! tag:example,2000:` |
| `documentStart`, `documentEnd` | `---`, `...` |
| `sequenceStart`, `mappingStart`, `blockEnd` | by indentation |
| `flowSequenceStart` … `flowMappingEnd` | `[`, `]`, `\x7b`, `\x7d` |
| `blockEntry`, `flowEntry`, `key`, `value` | `-`, `,`, `?`, `:` |
| `alias`, `anchor`, `tag` | `*name`, `&name`, `!name` |
| `scalar` | plain, quoted or a block |
-/

import SuiteForge.Yaml.Cursor

namespace SuiteForge.Yaml

inductive Directive where
  | version (major minor : Nat)
  | tag (handle start : List Char)
  | reserved
  deriving DecidableEq

inductive Token where
  | streamEnd
  | directive (d : Directive)
  | documentStart
  | documentEnd
  | sequenceStart
  | mappingStart
  | blockEnd
  | flowSequenceStart
  | flowMappingStart
  | flowSequenceEnd
  | flowMappingEnd
  | blockEntry
  | flowEntry
  | key
  | value
  | alias (name : List Char)
  | anchor (name : List Char)
  | tag (handle : Option (List Char)) (suffix : List Char)
  | scalar (content : Text) (plain : Bool)
  deriving DecidableEq

/-- What a text begins with: tokens, and a fault if the text is not made of tokens alone. -/
structure Tokens where
  tokens : List Token
  fault : Option Fault

end SuiteForge.Yaml
