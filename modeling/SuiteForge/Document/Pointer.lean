/-
# Pointers into a document

`#/a/0/b` leads from the root to the entry `a`, its first item, and that one's entry
`b`. In a part `~1` stands for `/` and `~0` for `~`. Slashes after the `#` count
as one, and nothing after them means the root. A part that consists of digits
leads to a list's item; it counts from zero.
-/

import SuiteForge.Document
import SuiteForge.Fault

namespace SuiteForge

/-- The key that a part of a pointer spells. -/
def unescapePart (part : Text) : Text :=
  Text.replace "~0" "~" (Text.replace "~1" "/" part)

namespace Document

/-- The node that a key or an index leads to. Digits that have no value in a decimal number are a
stray, in a list. -/
def child (d : Document) (ref : Text) (id : Nat) (key : Text) : Except Fault Nat :=
  match d.node id with
  | .map entries => match Entries.find? (.text key) entries with
    | some id => .ok id
    | none => .error (.parse (.danglingReference ref))
  | .list items =>
    if key.isDigits then
      match Numeral.read 10 key with
      | .error f => .error (.stray (.numeral f))
      | .ok i => match items[i.toNat]? with
        | some id => .ok id
        | none => .error (.parse (.danglingReference ref))
    else .error (.parse (.danglingReference ref))
  | _ => .error (.parse (.danglingReference ref))

/-- The parts of a pointer, none for the root; `none` if a text is no pointer into the document. -/
def pointerParts? : Text → Option (List Text)
  | .char '#' :: rest =>
    let pointer := Text.dropLeading (· == .char '/') rest
    if pointer.isEmpty then some [] else some ((Text.splitOn '/' pointer).map unescapePart)
  | _ => none

/-- The node that a reference points to. -/
def find (d : Document) (ref : Text) : Except Fault Nat :=
  match pointerParts? ref with
  | none => .error (.parse (.externalReference ref))
  | some parts => parts.foldlM (d.child ref) d.root

end Document

end SuiteForge
