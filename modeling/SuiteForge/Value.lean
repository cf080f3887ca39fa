/-
# Document values

The values that a document can hold, as trees. Mappings keep their entries in
order, with keys of any scalar kind; two keys that are equal as numbers are one
key, truth values counting as 1 and 0.

| kind | shown as | shown inside a collection as |
| --- | --- | --- |
| text | itself | quoted |
| truth value, null | `True`, `False`, `None` | the same |
| number | decimal, or the shortest decimal that reads back | the same |
| date, moment | `2020-01-31`, `2020-01-31 10:00:00` | by their fields |
| list, mapping, tuple, set | `[a, b]`, `{k: v}`, `(a, b)`, `{a, b}` | the same |

Showing a collection goes down to its parts, and there may not be room for all their
levels (`Value.levels`). Two levels go to a set, one to anything else.
-/

import SuiteForge.Calendar
import SuiteForge.Decimal.Shortest
import SuiteForge.Text.Numeral

namespace SuiteForge

/-- A value without parts. -/
inductive Scalar where
  | null
  | bool (b : Bool)
  | int (n : Int)
  | float (x : Double)
  | text (t : Text)
  | date (d : Date)
  | moment (m : Moment)
  | bytes (bs : List UInt8)
  deriving DecidableEq, Inhabited

/-- The kinds of value that may stand inside themselves. -/
inductive Shape where
  | list
  | map
  | tuple
  deriving DecidableEq, Inhabited

/-- A value of a document. `enclosing n s` stands for the `n`-th collection around it, which has
shape `s`; only what is shown of self-containing tuples needs it. -/
inductive Value where
  | scalar (s : Scalar)
  | list (items : List Value)
  | map (entries : List (Scalar × Value))
  | tuple (items : List Value)
  | set (members : List Scalar)
  | enclosing (levels : Nat) (shape : Shape)
  deriving Inhabited

/-- Why a value has no text. -/
inductive TextFault where
  /-- A number in it is not written. -/
  | numeral (f : NumeralFault)
  /-- It goes deeper than there is room for. -/
  | tooDeep
  deriving DecidableEq

def TextFault.message : TextFault → Text
  | numeral f => f.message
  | tooDeep => "maximum recursion depth exceeded while getting the repr of an object"

/-- What tells two keys of a mapping apart. -/
inductive Key where
  | null
  | integer (n : Int)
  | fraction (x : Double)
  | text (t : Text)
  | date (d : Date)
  | moment (placed : Bool) (instant : Int)
  | bytes (bs : List UInt8)
  deriving DecidableEq

namespace Scalar

/-- A scalar as a key: numbers and truth values by their value, moments as points in time. What is
not a number is one key, as all scalars `.nan` of a document are one object to its loader. A scalar
`nan` that is tagged as a float is an object of its own each time: two of these are two keys of a
loaded mapping, and are taken for one here. -/
def key : Scalar → Key
  | null => .null
  | bool b => .integer (if b then 1 else 0)
  | int n => .integer n
  | float x => match x.toInt? with
    | some n => .integer n
    | none => .fraction (if x.isNaN then Double.nan else x)
  | text t => .text t
  | date d => .date d
  | moment m => .moment m.offset.isSome m.instant
  | bytes bs => .bytes bs

theorem key_eq_text_iff {s : Scalar} {t : Text} : s.key = .text t ↔ s = text t := by
  cases s with
  | float x => simp only [key]; split <;> simp
  | _ => simp [key]

/-- The two scalars are one key of a mapping. -/
def sameKey (a b : Scalar) : Bool := decide (a.key = b.key)

theorem sameKey_text_iff {a : Text} {k : Scalar} : sameKey k (text a) = true ↔ k = text a := by
  simp [sameKey, show (text a).key = .text a from rfl, key_eq_text_iff]

/-- `false` for null, no, zero and what is empty. -/
def isTruthy : Scalar → Bool
  | null => false
  | bool b => b
  | int n => n != 0
  | float x => !x.isZero
  | text t => !t.isEmpty
  | bytes bs => !bs.isEmpty
  | date _ => true
  | moment _ => true

/-- The name of a scalar's kind. -/
def kindName : Scalar → Text
  | null => "NoneType"
  | bool _ => "bool"
  | int _ => "int"
  | float _ => "float"
  | text _ => "str"
  | date _ => "date"
  | moment _ => "datetime"
  | bytes _ => "bytes"

/-- A scalar as it is shown inside a collection. -/
def quoted : Scalar → Except NumeralFault Text
  | null => .ok "None"
  | bool b => .ok (if b then "True" else "False")
  | int n => Numeral.write n
  | float x => .ok x.display
  | text t => .ok t.quoted
  | date d => .ok d.quoted
  | moment m => .ok m.quoted
  | bytes bs => .ok (Text.quotedBytes bs)

/-- The text of a scalar. -/
def display : Scalar → Except NumeralFault Text
  | text t => .ok t
  | date d => .ok d.display
  | moment m => .ok m.display
  | s => s.quoted

/-- The levels of what is shown of a scalar inside a collection: a moment shows its offset, and an
offset that is not zero its span. -/
def levels : Scalar → Nat
  | moment m => match m.offset with
    | none => 1
    | some 0 => 2
    | some _ => 3
  | _ => 1

/-- A scalar as it is shown inside a collection, with room for some levels. -/
def quotedWithin (room : Nat) (s : Scalar) : Except TextFault Text :=
  if s.levels ≤ room then s.quoted.mapError .numeral else .error .tooDeep

end Scalar

/-- The entries of a mapping. -/
abbrev Entries (α : Type) := List (Scalar × α)

namespace Entries

variable {α : Type}

/-- The value at a key. -/
def find? (key : Scalar) (entries : Entries α) : Option α :=
  (List.find? (fun e => e.1.sameKey key) entries).map (·.2)

/-- The entries with a value at a key: an entry that is there keeps its place and its key. -/
def insert (key : Scalar) (value : α) : Entries α → Entries α
  | [] => [(key, value)]
  | (k, v) :: rest => if k.sameKey key then (k, value) :: rest else (k, v) :: insert key value rest

/-- The entries `upper` laid over the entries `lower`. -/
def overlay (lower upper : Entries α) : Entries α :=
  upper.foldl (fun entries e => insert e.1 e.2 entries) lower

/-- The entries of a list of pairs, of which the last with a key decides. -/
def ofPairs (pairs : List (Scalar × α)) : Entries α := overlay [] pairs

end Entries

namespace Value

/-- The value at a text key of a mapping; `none` of what is no mapping. -/
def get? (key : Text) : Value → Option Value
  | map entries => Entries.find? (.text key) entries
  | _ => none

/-- A mapping. -/
def isMap : Value → Bool
  | map _ => true
  | _ => false

/-- Null. -/
def isNull : Value → Bool
  | scalar .null => true
  | _ => false

/-- `false` for null, no, zero and what is empty. -/
def isTruthy : Value → Bool
  | scalar s => s.isTruthy
  | list items => !items.isEmpty
  | map entries => !entries.isEmpty
  | tuple items => !items.isEmpty
  | set members => !members.isEmpty
  | enclosing _ _ => true

/-- The name of a value's kind. -/
def kindName : Value → Text
  | scalar s => s.kindName
  | list _ => "list"
  | map _ => "dict"
  | tuple _ => "tuple"
  | set _ => "set"
  | enclosing _ .list => "list"
  | enclosing _ .map => "dict"
  | enclosing _ .tuple => "tuple"

/-- The most levels of some scalars. -/
def mostLevels (members : List Scalar) : Nat := members.foldr (fun s most => max s.levels most) 0

mutual

/-- The levels of what is shown of a value inside a collection. A set that is not empty shows a list
of its members. -/
def levels : Value → Nat
  | scalar s => s.levels
  | list items => itemsLevels items + 1
  | map entries => entriesLevels entries + 1
  | tuple items => itemsLevels items + 1
  | set members => if members.isEmpty then 1 else mostLevels members + 2
  | enclosing _ _ => 1

/-- The most levels of the items of a list. -/
def itemsLevels : List Value → Nat
  | [] => 0
  | v :: rest => max (levels v) (itemsLevels rest)

/-- The most levels of the keys and values of a mapping. -/
def entriesLevels : List (Scalar × Value) → Nat
  | [] => 0
  | (k, v) :: rest => max (max k.levels (levels v)) (entriesLevels rest)

end

/-- The room that is left one level further in. -/
def inner : Nat → Except TextFault Nat
  | 0 => .error .tooDeep
  | room + 1 => .ok room

/-- The texts of all scalars, in order. -/
def quotedAll (room : Nat) : List Scalar → Except TextFault (List Text)
  | [] => .ok []
  | s :: rest => do
    let here ← s.quotedWithin room
    let after ← quotedAll room rest
    .ok (here :: after)

mutual

/-- A value as it is shown inside a collection, with room for some levels. -/
def quoted (room : Nat) : Value → Except TextFault Text
  | scalar s => s.quotedWithin room
  | list items => do
    let room ← inner room
    let parts ← quotedItems room items
    .ok ("[" ++ Text.join ", " parts ++ "]")
  | map entries => do
    let room ← inner room
    let parts ← quotedEntries room entries
    .ok ("\x7b" ++ Text.join ", " parts ++ "\x7d")
  | tuple items => do
    let room ← inner room
    let parts ← quotedItems room items
    .ok (if parts.length = 1 then "(" ++ Text.join ", " parts ++ ",)"
      else "(" ++ Text.join ", " parts ++ ")")
  | set members => do
    let room ← inner room
    if members.isEmpty then .ok "set()"
    else
      let room ← inner room
      let parts ← quotedAll room members
      .ok ("\x7b" ++ Text.join ", " parts ++ "\x7d")
  | enclosing _ shape => do
    let _ ← inner room
    .ok (match shape with
      | .list => "[...]"
      | .map => "\x7b...\x7d"
      | .tuple => "(...)")

/-- The items of a list, each as it is shown inside. -/
def quotedItems (room : Nat) : List Value → Except TextFault (List Text)
  | [] => .ok []
  | v :: rest => do
    let here ← quoted room v
    let after ← quotedItems room rest
    .ok (here :: after)

/-- The entries of a mapping, each as it is shown inside. -/
def quotedEntries (room : Nat) : List (Scalar × Value) → Except TextFault (List Text)
  | [] => .ok []
  | (k, v) :: rest => do
    let key ← k.quotedWithin room
    let here ← quoted room v
    let after ← quotedEntries room rest
    .ok ((key ++ ": " ++ here) :: after)

end

/-- The text of a value, with room for some levels of a collection. -/
def display (v : Value) (room : Nat := v.levels) : Except TextFault Text :=
  match v with
  | scalar s => s.display.mapError .numeral
  | v => v.quoted room

end Value

end SuiteForge
