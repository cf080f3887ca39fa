/-
# Namespaces

An attribute `xmlns` binds the default namespace, an attribute `xmlns:p` the prefix
`p`, for the element that carries it and all inside. A prefix must be bound where it
is used.

| rule | |
| --- | --- |
| `xml` | is bound from the start, and to its own namespace alone |
| `xmlns` | is never bound |
| empty | only the default namespace may be bound to nothing |
| attributes | no two of an element have one name, nor one namespace and local name |
-/

import SuiteForge.Xml.Name

namespace SuiteForge

namespace Xml

/-- What prefixes stand for. -/
abbrev Bindings := List (Text × Text)

def xmlNamespace : Text := "http://www.w3.org/XML/1998/namespace"

def xmlnsNamespace : Text := "http://www.w3.org/2000/xmlns/"

/-- What is bound from the start. -/
def initialBindings : Bindings := [("xml", xmlNamespace)]

/-- A prefix may be bound to a namespace; braces close names in error reports and are not
admitted. -/
def mayBind (before : Option Text) (uri : Text) : Bool :=
  let own := uri == xmlNamespace
  !(uri.isEmpty && before.isSome) && before != some (Text.ofString "xmlns") &&
    (before == some (Text.ofString "xml")) == own && uri != xmlnsNamespace &&
    !uri.contains (.char '\x7d')

/-- The bindings that an attribute makes; `none` if it must not. -/
def bind? (bindings : Bindings) (name value : Text) : Option Bindings :=
  match Text.splitOn ':' name with
  | [word] =>
    if word == Text.ofString "xmlns" then if mayBind none value then some bindings else none
    else some bindings
  | [word, before] =>
    if word == Text.ofString "xmlns" then
      if mayBind (some before) value then some ((before, value) :: bindings) else none
    else some bindings
  | _ => some bindings

/-- The bindings inside an element with these attributes. -/
def bindAll? (bindings : Bindings) (attributes : List (Text × Text)) : Option Bindings :=
  attributes.foldlM (fun b a => bind? b a.1 a.2) bindings

/-- An attribute makes a binding. -/
def isBinding (name : Text) : Bool :=
  (Text.splitOn ':' name).head? == some (Text.ofString "xmlns")

/-- What an attribute's name stands for: a namespace, if it has a prefix, and a local part; `none`
if the prefix is not bound. -/
def expand? (bindings : Bindings) (name : Text) : Option (Option Text × Text) :=
  match qualified? name with
  | none => none
  | some (none, word) => some (none, word)
  | some (some before, word) => (bindings.lookup before).map fun uri => (some uri, word)

/-- The bindings inside an element, if its names are bound and its attributes differ. -/
def enter? (bindings : Bindings) (name : Text) (attributes : List (Text × Text)) :
    Option Bindings := do
  let inside ← bindAll? bindings attributes
  let _ ← expand? inside name
  let plain := attributes.filter fun a => !isBinding a.1
  let expanded ← plain.mapM fun a => expand? inside a.1
  if (attributes.map (·.1)).Nodup ∧ expanded.Nodup then some inside else none

end Xml

end SuiteForge
