/-
# Arguments

Behind a command, flags stand anywhere before `--`. A long flag's value follows an equals
sign or is the next argument; short flags may be run together, the value of the last one
following at once or as the next argument. Of a flag given twice the last value counts.
In front of a command there are flags only.
-/

import SuiteForge.CommandLine.UsageFault
import SuiteForge.Text.Similar

namespace SuiteForge

/-- The arguments behind a command. -/
structure Arguments where
  flags : List (Flag × Text)
  others : List Text
  deriving DecidableEq

namespace Arguments

/-- The last value of a flag. -/
def value? (a : Arguments) (f : Flag) : Option Text :=
  (a.flags.reverse.find? (·.1 == f)).map (·.2)

def has (a : Arguments) (f : Flag) : Bool := a.flags.any (·.1 == f)

/-- What an argument with a hyphen says: flags, and a flag that still lacks its value. -/
structure Reading where
  flags : List (Flag × Text)
  pending : Option (Flag × Text)

/-- A long flag, with or without a value behind an equals sign; `none` if there is none such. -/
def readLong (flags : List Flag) (argument : Text) : Option (Except UsageFault Reading) :=
  let spelling := argument.takeWhile (· != .char '=')
  (flags.find? (·.long == spelling)).map fun f =>
    match argument.drop spelling.length with
    | [] => .ok (if f.takesValue then ⟨[], some (f, spelling)⟩ else ⟨[(f, [])], none⟩)
    | _ :: value =>
      if f.takesValue then .ok ⟨[(f, value)], none⟩ else .error (.takesNoValue spelling)

/-- Short flags run together. -/
def readShort (flags : List Flag) : Text → Except UsageFault Reading
  | [] => .ok ⟨[], none⟩
  | s :: rest =>
    let spelling : Text := [.char '-', s]
    match flags.find? (·.short? == some spelling) with
    | none => .error (.noSuchFlag spelling [])
    | some f =>
      if f.takesValue then
        if rest.isEmpty then .ok ⟨[], some (f, spelling)⟩ else .ok ⟨[(f, rest)], none⟩
      else do
        let more ← readShort flags rest
        .ok { more with flags := (f, []) :: more.flags }

/-- What an argument with a hyphen says. -/
def readFlags (flags : List Flag) (argument : Text) : Except UsageFault Reading :=
  match readLong flags argument with
  | some reading => reading
  | none =>
    if argument.startsWith "--" then
      let spelling := argument.takeWhile (· != .char '=')
      .error (.noSuchFlag spelling (Text.closest (flags.map Flag.long) spelling))
    else readShort flags (argument.drop 1)

/-- An argument that holds flags. -/
def isFlags (argument : Text) : Bool := argument.startsWith "-" && 1 < argument.length

/-- Arguments told apart; those from `--` on are no flags. -/
def read (flags : List Flag) : List Text → Except UsageFault Arguments
  | [] => .ok ⟨[], []⟩
  | argument :: rest =>
    if argument = Text.ofString "--" then .ok ⟨[], rest⟩
    else if !isFlags argument then do
      let more ← read flags rest
      .ok { more with others := argument :: more.others }
    else do
      let here ← readFlags flags argument
      match here.pending, rest with
      | none, rest => do
        let more ← read flags rest
        .ok { more with flags := here.flags ++ more.flags }
      | some (f, _), value :: rest => do
        let more ← read flags rest
        .ok { more with flags := here.flags ++ (f, value) :: more.flags }
      | some (_, spelling), [] => .error (.needsValue spelling)

/-- Flags in front of a command, the command being the first of the others. -/
def readLeading (flags : List Flag) : List Text → Except UsageFault Arguments
  | [] => .ok ⟨[], []⟩
  | argument :: rest =>
    if argument = Text.ofString "--" then .ok ⟨[], rest⟩
    else if !isFlags argument then .ok ⟨[], argument :: rest⟩
    else do
      let here ← readFlags flags argument
      let more ← readLeading flags rest
      .ok { more with flags := here.flags ++ more.flags }

end Arguments

/-- What a command line asks for. -/
inductive Request where
  | help (topic : HelpTopic)
  | run (command : Command) (arguments : Arguments)

namespace Request

/-- A command and its arguments; an unknown command with a hyphen is taken for flags. -/
def ofCommand (name : Text) (rest : List Text) : Except (HelpTopic × UsageFault) Request :=
  match Command.ofName? name with
  | some c => do
    let a ← (Arguments.read c.flags rest).mapError (some c, ·)
    .ok (if a.has .help then .help (some c) else .run c a)
  | none => do
    let again ← (Arguments.readLeading (HelpTopic.flags none) (name :: rest)).mapError (none, ·)
    if again.has .help then .ok (.help none)
    else .error (none, .noSuchCommand name (Text.closest (Command.all.map Command.name) name))

/-- What some arguments ask for, or the fault and the topic that helps with it. -/
def ofArguments (arguments : List Text) : Except (HelpTopic × UsageFault) Request := do
  let a ← (Arguments.readLeading (HelpTopic.flags none) arguments).mapError (none, ·)
  if a.has .help then .ok (.help none)
  else match a.others with
    | [] => .error (none, .missingCommand)
    | name :: rest => ofCommand name rest

end Request

end SuiteForge
