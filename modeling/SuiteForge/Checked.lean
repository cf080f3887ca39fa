/-
# Reading models from values

A reader turns a value into a part of a model, or names every problem that it
finds, each with the path to it. Problems of several fields are collected in the
order of the fields; a model's own rules are looked at only when all its fields
are good.

| reader | takes |
| --- | --- |
| `text` | text |
| `truth` | truth values, 0 and 1, and words such as `yes` and `off` in any case |
| `integer` | integers, truth values, integral floats, and decimal numerals |
| `choice` | the names of an enumeration |
| `items` | lists, tuples and sets |
| `mapping` | mappings with text keys |
-/

import SuiteForge.Fault
import SuiteForge.Text.Case
import SuiteForge.Value

namespace SuiteForge

/-- A part of a model, or the problems that it has. -/
abbrev Checked (α : Type) := Except (List FieldFault) α

namespace Checked

variable {α β : Type}

/-- One problem of a value itself. -/
def fault (p : Problem) : Checked α := .error [⟨[], p⟩]

/-- A function's value, or the problems of both the function and its argument. -/
def apply : Checked (α → β) → Checked α → Checked β
  | .ok f, .ok a => .ok (f a)
  | .error e, .ok _ => .error e
  | .ok _, .error e => .error e
  | .error e, .error e2 => .error (e ++ e2)

theorem apply_eq_ok {f : Checked (α → β)} {a : Checked α} {b : β} :
    apply f a = .ok b ↔ ∃ g x, f = .ok g ∧ a = .ok x ∧ g x = b := by
  cases f <;> cases a <;> simp [apply]

/-- Problems seen from one step further out. -/
def within (s : Step) (x : Checked α) : Checked α :=
  x.mapError fun faults => faults.map fun f => { f with path := s :: f.path }

/-- The first rule of a model that is broken is its problem. -/
def rules (a : α) : List (Bool × Rule) → Checked α
  | [] => .ok a
  | (holds, rule) :: rest => if holds then rules a rest else fault (.rejected rule)

/-- All parts, or the problems of all. -/
def all : List (Checked α) → Checked (List α)
  | [] => .ok []
  | x :: rest => apply (x.map List.cons) (all rest)

end Checked

/-- How a value is read. -/
abbrev Reader (α : Type) := Value → Checked α

namespace Reader

variable {α : Type}

def text : Reader Text
  | .scalar (.text t) => .ok t
  | _ => Checked.fault .notText

/-- Words for true and for false. -/
def truthWords : List (Text × Bool) := [
  ("0", false), ("off", false), ("f", false), ("false", false), ("n", false), ("no", false),
  ("1", true), ("on", true), ("t", true), ("true", true), ("y", true), ("yes", true)]

def truth : Reader Bool
  | .scalar (.bool b) => .ok b
  | .scalar (.text t) =>
    match truthWords.lookup (if t.isAscii then t.lower else t) with
    | some b => .ok b
    | none => Checked.fault .unreadableBool
  | .scalar (.int n) =>
    if n = 0 then .ok false else if n = 1 then .ok true else Checked.fault .unreadableBool
  | .scalar (.float x) => match x.toInt? with
    | some n =>
      if n = 0 then .ok false else if n = 1 then .ok true else Checked.fault .unreadableBool
    | none => Checked.fault .notBool
  | _ => Checked.fault .notBool

/-- The integer that a decimal numeral denotes: blanks around it, a sign, single underscores between
digits, and a point with zeros after it are admitted. -/
def numeral? (t : Text) : Option Int :=
  let body := t.strip
  let (negative, body) : Bool × Text := match body with
    | .char '-' :: rest => (true, rest)
    | .char '+' :: rest => (false, rest)
    | _ => (false, body)
  let whole := match Text.splitOn '.' body with
    | [w] => some w
    | [w, zeros] => if !w.isEmpty && zeros.all (fun s => s == Symbol.char '0') then some w else none
    | _ => none
  whole.bind fun w =>
    if w.all (fun s => s.isAsciiDigit || s == Symbol.char '_') && !w.isEmpty then
      match Numeral.digits? 10 0 0 false w with
      | some d =>
        if d.count = 0 then none else some (if negative then -(d.value : Int) else d.value)
      | none => none
    else none

def integer : Reader Int
  | .scalar (.int n) => .ok n
  | .scalar (.bool b) => .ok (if b then 1 else 0)
  | .scalar (.float x) => match x.toInt? with
    | some n => .ok n
    | none => Checked.fault .fractionalInteger
  | .scalar (.text t) => match numeral? t with
    | some n => .ok n
    | none => Checked.fault .unreadableInteger
  | _ => Checked.fault .notInteger

/-- One of an enumeration's names. -/
def choice (ofName? : Text → Option α) : Reader α
  | .scalar (.text t) => match ofName? t with
    | some a => .ok a
    | none => Checked.fault .notChoice
  | _ => Checked.fault .notChoice

/-- Null, or what another reader takes. -/
def nullable (r : Reader α) : Reader (Option α)
  | .scalar .null => .ok none
  | v => (r v).map some

/-- The readings of all items, each at its place. -/
def itemsFrom (r : Reader α) : Nat → List Value → Checked (List α)
  | _, [] => .ok []
  | i, v :: rest =>
    Checked.apply ((Checked.within (.index i) (r v)).map List.cons) (itemsFrom r (i + 1) rest)

/-- Several items; `problem` says that a value is no such collection. -/
def items (problem : Problem) (r : Reader α) : Reader (List α)
  | .list vs => itemsFrom r 0 vs
  | .tuple vs => itemsFrom r 0 vs
  | .set ks => itemsFrom r 0 (ks.map Value.scalar)
  | _ => Checked.fault problem

/-- The step to a mapping's value. -/
def keyStep : Scalar → Step
  | .text t => .field t
  | .int n => .index n
  | .bool b => .index (if b then 1 else 0)
  | k => .field (k.quoted.toOption.getD [])

/-- A mapping's key, which is a text. -/
def keyText : Scalar → Checked Text
  | .text t => .ok t
  | k => .error [⟨[keyStep k, .field "[key]"], .notText⟩]

/-- An entry of a mapping, its key before its value. -/
def entry (k : Scalar) (v : Checked α) : Checked (Text × α) :=
  Checked.apply ((keyText k).map Prod.mk) (Checked.within (keyStep k) v)

def mapping (r : Reader α) : Reader (List (Text × α))
  | .map entries => Checked.all (entries.map fun e => entry e.1 (r e.2))
  | _ => Checked.fault .notMapping

/-- A model's field that must be there. -/
def required (name : String) (r : Reader α) (entries : Entries Value) : Checked α :=
  match Entries.find? (.text name) entries with
  | none => .error [⟨[.field name], .missing⟩]
  | some v => Checked.within (.field name) (r v)

/-- A model's field with a default. -/
def optional (name : String) (default : α) (r : Reader α) (entries : Entries Value) : Checked α :=
  match Entries.find? (.text name) entries with
  | none => .ok default
  | some v => Checked.within (.field name) (r v)

/-- A model, which is read from a mapping. -/
def model (r : Entries Value → Checked α) : Reader α
  | .map entries => r entries
  | _ => Checked.fault .notModel

end Reader

end SuiteForge
