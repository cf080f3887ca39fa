/-
# Log records and logged computations

A stage yields a log and either a value or a fault. The log holds what happened up
to the fault. `result` forgets the log, and is a morphism to `Except`: what a
stage computes can be reasoned about without its log (`Logged.result_bind`).
-/

import SuiteForge.Text

namespace SuiteForge

inductive Level where
  | debug
  | info
  | warning
  | error
  deriving DecidableEq

namespace Level

/-- The rank of a level; graver ones have a higher one. -/
def rank : Level → Nat
  | debug => 10
  | info => 20
  | warning => 30
  | error => 40

def name : Level → Text
  | debug => "DEBUG"
  | info => "INFO"
  | warning => "WARNING"
  | error => "ERROR"

end Level

/-- The part of the program that a record comes from. -/
inductive Channel where
  | translation
  | references
  | generation
  | templates
  | archive
  | pipeline
  | commandLine
  | named (name : Text)
  deriving DecidableEq

/-- The name of a channel in the log. -/
def Channel.name : Channel → Text
  | translation => "api_test_engine.parser.swagger"
  | references => "api_test_engine.parser.resolver"
  | generation => "api_test_engine.generator.project"
  | templates => "api_test_engine.generator.templates"
  | archive => "api_test_engine.archive"
  | pipeline => "api_test_engine.pipeline"
  | commandLine => "api_test_engine.cli"
  | named name => name

structure Record where
  level : Level
  channel : Channel
  text : Text
  deriving DecidableEq

/-- A record as one line. -/
def Record.line (r : Record) : Text := r.level.name ++ " " ++ r.channel.name ++ ": " ++ r.text

/-- What ties the records of one request together. -/
abbrev TraceId := Text

/-- A message of one request. -/
def TraceId.mark (t : TraceId) (message : Text) : Text := "[traceId=" ++ t ++ "] " ++ message

/-- A computation with a log. -/
structure Logged (ε α : Type) where
  log : List Record
  result : Except ε α

namespace Logged

variable {ε α β : Type}

/-- One step after another; a fault ends them. -/
def andThen (x : Logged ε α) (f : α → Logged ε β) : Logged ε β :=
  match x.result with
  | .error e => ⟨x.log, .error e⟩
  | .ok a =>
    let y := f a
    ⟨x.log ++ y.log, y.result⟩

instance : Monad (Logged ε) where
  pure a := ⟨[], .ok a⟩
  bind := andThen

/-- A computation without records. -/
def ofExcept (x : Except ε α) : Logged ε α := ⟨[], x⟩

instance : Coe (Except ε α) (Logged ε α) := ⟨ofExcept⟩

/-- A fault. -/
def fail (e : ε) : Logged ε α := ⟨[], .error e⟩

/-- One record. -/
def record (level : Level) (channel : Channel) (text : Text) : Logged ε Unit :=
  ⟨[⟨level, channel, text⟩], .ok ()⟩

@[simp] theorem result_pure (a : α) : (pure a : Logged ε α).result = .ok a := rfl

@[simp] theorem result_ofExcept (x : Except ε α) : (ofExcept x).result = x := rfl

@[simp] theorem result_fail (e : ε) : (fail e : Logged ε α).result = .error e := rfl

@[simp] theorem result_record (level : Level) (channel : Channel) (text : Text) :
    (record level channel text : Logged ε Unit).result = .ok () := rfl

/-- Forgetting the log turns steps into steps. -/
@[simp] theorem result_bind (x : Logged ε α) (f : α → Logged ε β) :
    (x >>= f).result = x.result >>= fun a => (f a).result := by
  show (andThen x f).result = _
  unfold andThen
  cases x.result <;> rfl

/-- The results of a step for all items, in order. -/
def each (f : α → Logged ε β) : List α → Logged ε (List β)
  | [] => pure []
  | a :: rest => do
    let b ← f a
    let more ← each f rest
    pure (b :: more)

/-- The value of a step or of what stands in for it after a fault. -/
def mapError {δ : Type} (f : ε → δ) (x : Logged ε α) : Logged δ α := ⟨x.log, x.result.mapError f⟩

end Logged

end SuiteForge
