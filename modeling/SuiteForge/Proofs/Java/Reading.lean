/-
# Reading Java sources

A source is read symbol by symbol, in two passes as by a Java 17 compiler.

| pass | from | to |
| --- | --- | --- |
| `unescape` | the symbols of the text | symbols, with what Unicode escapes stand for |
| `lex` | those symbols | tokens: comments, string literals, and symbols of the code |

A Unicode escape is a backslash, one or more `u` and four hexadecimal digits. A backslash may begin
one if the number of backslashes right in front of it is even; where one that may is followed by `u`
but not by the digits, the source is malformed. What an escape stands for is no part of another one,
but otherwise it is like any symbol: it may end a comment or a literal.

Only what generated sources are made of is read: a source with a character literal, a comment to the
end of its line, a text block, or an escape in a literal that is none of `\\`, `\"`, `\n`, `\r` and
`\t` is given up. Each pass is a transducer (`scan`), so what is read of two texts one after the
other is read of the first and then, from the state that this leads to, of the second
(`scan_append`), and two passes are one (`scan_cascade`).
-/

import Mathlib
import SuiteForge.Text

namespace SuiteForge

/-! ## Transducers -/

section Scan

variable {σ τ α β γ : Type}

/-- What a transducer gives out for some symbols, and the state it ends in, if it does not give up. -/
def scan (step : σ → α → Option (List β × σ)) : σ → List α → Option (List β × σ)
  | q, [] => some ([], q)
  | q, a :: rest => (step q a).bind fun x => (scan step x.2 rest).map fun y => (x.1 ++ y.1, y.2)

/-- Each symbol that the first transducer gives out goes through the second one. -/
def cascade (f : σ → α → Option (List β × σ)) (g : τ → β → Option (List γ × τ)) (q : σ × τ)
    (a : α) : Option (List γ × (σ × τ)) :=
  (f q.1 a).bind fun x => (scan g q.2 x.1).map fun y => (y.1, (x.2, y.2))

theorem scan_append (step : σ → α → Option (List β × σ)) (q : σ) (xs ys : List α) :
    scan step q (xs ++ ys) =
      (scan step q xs).bind fun x => (scan step x.2 ys).map fun y => (x.1 ++ y.1, y.2) := by
  induction xs generalizing q with
  | nil => simp [scan]
  | cons a rest ih =>
    rw [List.cons_append, scan, scan]
    cases step q a with
    | none => rfl
    | some x =>
      simp only [Option.bind_some, ih, Option.map_bind, Option.bind_map]
      refine Option.bind_congr fun y _ => ?_
      simp [Function.comp_def]

theorem scan_cons {step : σ → α → Option (List β × σ)} {q q' : σ} {a : α} {out : List β}
    (h : step q a = some (out, q')) (rest : List α) :
    scan step q (a :: rest) = (scan step q' rest).map fun y => (out ++ y.1, y.2) := by
  rw [scan, h, Option.bind_some]

/-- A run of two parts whose first part is known. -/
theorem scan_append_of_eq {step : σ → α → Option (List β × σ)} {q q' : σ} {xs : List α}
    {out : List β} (h : scan step q xs = some (out, q')) (ys : List α) :
    scan step q (xs ++ ys) = (scan step q' ys).map fun y => (out ++ y.1, y.2) := by
  rw [scan_append, h, Option.bind_some]

/-- **Two passes are one.** -/
theorem scan_cascade (f : σ → α → Option (List β × σ)) (g : τ → β → Option (List γ × τ)) (q : σ)
    (r : τ) (xs : List α) : scan (cascade f g) (q, r) xs =
      (scan f q xs).bind fun x => (scan g r x.1).map fun y => (y.1, (x.2, y.2)) := by
  induction xs generalizing q r with
  | nil => rfl
  | cons a rest ih =>
    rw [scan, scan, cascade]
    cases f q a with
    | none => rfl
    | some x =>
      simp only [Option.bind_some, Option.bind_map, ih]
      cases hx : scan g r x.1 with
      | none =>
        simp only [Option.bind_none]
        symm
        rw [Option.bind_eq_none_iff]
        intro y _
        simp [scan_append, hx]
      | some y =>
        simp only [Option.bind_some, Option.map_bind]
        refine Option.bind_congr fun z _ => ?_
        simp [scan_append, hx, Function.comp_def]

end Scan

namespace Java

/-! ## Unicode escapes -/

/-- A symbol of a source, and whether an escape stands for it. -/
structure Input where
  symbol : Symbol
  escaped : Bool
  deriving DecidableEq

/-- A symbol that stands for itself. -/
def Input.raw (s : Symbol) : Input := ⟨s, false⟩

@[simp] theorem Input.symbol_raw (s : Symbol) : (raw s).symbol = s := rfl

/-- What has been read of a Unicode escape: nothing, a backslash that may begin one, or a backslash,
`u` and some digits with their value. -/
inductive Pending where
  | none
  | backslash
  | digits (count value : Nat)
  deriving DecidableEq

/-- The first pass: Unicode escapes are exchanged for what they stand for. -/
def unescape : Pending → Symbol → Option (List Input × Pending)
  | .none, s => if s = .char '\\' then some ([], .backslash) else some ([.raw s], .none)
  | .backslash, s =>
    if s = .char '\\' then some ([.raw (.char '\\'), .raw s], .none)
    else if s = .char 'u' then some ([], .digits 0 0)
    else some ([.raw (.char '\\'), .raw s], .none)
  | .digits count value, s => match s.hexValue? with
    | some d =>
      if count = 3 then (Symbol.ofCode? (16 * value + d)).map fun c => ([⟨c, true⟩], .none)
      else some ([], .digits (count + 1) (16 * value + d))
    | none => if count = 0 ∧ s = .char 'u' then some ([], .digits 0 0) else none

/-- What is left at the end of a source. -/
def Pending.finish : Pending → Option (List Input)
  | .none => some []
  | .backslash => some [.raw (.char '\\')]
  | .digits _ _ => Option.none

/-- The symbols of a text with Unicode escapes exchanged; `none` if one is malformed. -/
def inputs (t : Text) : Option (List Input) :=
  (scan unescape .none t).bind fun x => x.2.finish.map fun last => x.1 ++ last

/-! ## Tokens -/

inductive Token where
  | code (s : Symbol)
  | comment
  | literal (value : Text)
  deriving DecidableEq

/-- What is being read: code, behind a slash or not; a comment, behind an asterisk or not; a literal
with its value so far, behind a backslash or not; or what follows two double quotes. -/
inductive Mode where
  | code
  | slash
  | comment (star : Bool)
  | literal (value : Text)
  | backslash (value : Text)
  | quotes
  deriving DecidableEq

/-- The symbol that a letter behind a backslash stands for in a literal. -/
def escape? (s : Symbol) : Option Symbol :=
  if s = .char '\\' then some s
  else if s = .char '"' then some s
  else if s = .char 'n' then some (.char '\n')
  else if s = .char 'r' then some (.char '\r')
  else if s = .char 't' then some (.char '\t')
  else none

/-- A symbol of the code that is behind no slash. -/
def lexCode (s : Symbol) : Option (List Token × Mode) :=
  if s = .char '"' then some ([], .literal [])
  else if s = .char '/' then some ([], .slash)
  else if s = .char '\'' then none
  else some ([.code s], .code)

/-- The second pass: symbols become tokens. -/
def lex : Mode → Input → Option (List Token × Mode)
  | .code, i => lexCode i.symbol
  | .slash, i =>
    if i.symbol = .char '*' then some ([], .comment false)
    else if i.symbol = .char '/' then none
    else (lexCode i.symbol).map fun x => (.code (.char '/') :: x.1, x.2)
  | .comment star, i =>
    if star = true ∧ i.symbol = .char '/' then some ([.comment], .code)
    else some ([], .comment (i.symbol == .char '*'))
  | .literal value, i =>
    if i.symbol = .char '"' then
      if value = [] then some ([], .quotes) else some ([.literal value], .code)
    else if i.symbol = .char '\\' then some ([], .backslash value)
    else if i.symbol = .char '\n' ∨ i.symbol = .char '\r' then none
    else some ([], .literal (value ++ [i.symbol]))
  | .backslash value, i => (escape? i.symbol).map fun c => ([], .literal (value ++ [c]))
  | .quotes, i =>
    if i.symbol = .char '"' then none
    else (lexCode i.symbol).map fun x => (.literal [] :: x.1, x.2)

/-- What is left at the end of a source. -/
def Mode.finish : Mode → Option (List Token)
  | .code => some []
  | .slash => some [.code (.char '/')]
  | .quotes => some [.literal []]
  | .comment _ | .literal _ | .backslash _ => none

/-- The tokens of symbols. -/
def tokens (us : List Input) : Option (List Token) :=
  (scan lex .code us).bind fun x => x.2.finish.map fun last => x.1 ++ last

/-- **The tokens of a source;** `none` if it is not read. -/
def read (t : Text) : Option (List Token) := (inputs t).bind tokens

/-! ## Both passes at once -/

/-- Where both passes stand. -/
abbrev State := Pending × Mode

/-- Both passes at once. -/
def advance : State → Symbol → Option (List Token × State) := cascade unescape lex

/-- A symbol that begins no Unicode escape goes to the second pass. -/
theorem advance_raw (m : Mode) {s : Symbol} (h : s ≠ .char '\\') :
    advance (.none, m) s = (lex m (.raw s)).map fun x => (x.1, (.none, x.2)) := by
  rw [advance, cascade, unescape, if_neg h, Option.bind_some, scan]
  cases lex m (.raw s) <;> simp [scan]

/-- What a source is read to if no Unicode escape has begun at its end. -/
theorem read_of_scan {t : Text} {out last : List Token} {m : Mode}
    (h : scan advance (.none, .code) t = some (out, (.none, m))) (hm : m.finish = some last) :
    read t = some (out ++ last) := by
  rw [advance, scan_cascade, Option.bind_eq_some_iff] at h
  obtain ⟨⟨us, p⟩, hus, h⟩ := h
  obtain ⟨⟨out', m'⟩, hout, heq⟩ := Option.map_eq_some_iff.1 h
  obtain ⟨rfl, hstate⟩ := Prod.mk.inj heq
  obtain ⟨rfl, rfl⟩ := Prod.mk.inj hstate
  simp [read, inputs, hus, Pending.finish, tokens, hout, hm]

end Java

end SuiteForge
