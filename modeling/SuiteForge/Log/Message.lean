/-
# Messages with placeholders

A message may hold placeholders, which arguments take in order. Without arguments a
message stands as it is.

| placeholder | becomes |
| --- | --- |
| `%s` | the argument as text |
| `%r` | the argument with quotes |
| `%d`, `%i` | the argument as an integer, a fraction cut off |
| `%%` | a percent sign |
-/

import SuiteForge.Machine

namespace SuiteForge

/-- Why a message cannot be written. -/
inductive MessageFault where
  | tooFewArguments
  | tooManyArguments
  | unfinished
  | unknownPlaceholder (s : Symbol) (place : Nat)
  | notNumber (conversion : Char) (kind : Text)
  | notFinite (x : Double)
  /-- An argument has no text. -/
  | numeral (f : TextFault)
  deriving DecidableEq

namespace Message

/-- An integer as text. -/
def written (n : Int) : Except MessageFault Text :=
  (Numeral.write n).mapError fun f => .numeral (.numeral f)

/-- An argument as an integer. -/
def integer (conversion : Char) : Value → Except MessageFault Text
  | .scalar (.int n) => written n
  | .scalar (.bool b) => .ok (if b then "1" else "0")
  | .scalar (.float x) => match x.truncate? with
    | some n => written n
    | none => .error (.notFinite x)
  | v => .error (.notNumber conversion v.kindName)

variable [Machine]

/-- The room for an argument, which is shown in a record. -/
def room (v : Value) : Nat := Machine.recordRoom?.getD v.levels

/-- What a placeholder becomes; `none` if there is no such placeholder. -/
def convert (conversion : Symbol) (v : Value) : Option (Except MessageFault Text) :=
  if conversion = .char 's' then some ((v.display (room v)).mapError .numeral)
  else if conversion = .char 'r' then some ((v.quoted (room v)).mapError .numeral)
  else if conversion = .char 'd' then some (integer 'd' v)
  else if conversion = .char 'i' then some (integer 'i' v)
  else none

/-- The text of a message from `place` on. -/
def fillFrom : Nat → Text → List Value → Except MessageFault Text
  | _, [], [] => .ok []
  | _, [], _ :: _ => .error .tooManyArguments
  | place, s :: rest, arguments =>
    if s ≠ .char '%' then (fillFrom (place + 1) rest arguments).map (s :: ·)
    else match rest with
      | [] => .error .unfinished
      | c :: rest =>
        if c = .char '%' then (fillFrom (place + 2) rest arguments).map (c :: ·)
        else match arguments with
          | [] => .error .tooFewArguments
          | v :: arguments => match convert c v with
            | none => .error (.unknownPlaceholder c (place + 1))
            | some written => do
              let here ← written
              let more ← fillFrom (place + 2) rest arguments
              .ok (here ++ more)

/-- The text of a message with its arguments. -/
def fill (message : Text) (arguments : List Value) : Except MessageFault Text :=
  if arguments.isEmpty then .ok message else fillFrom 0 message arguments

end Message

end SuiteForge
