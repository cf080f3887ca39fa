/-
# Reading what a template is rendered to

What a template is rendered to is read as the template itself is, with its data put in: each datum
goes where the reader stands at a fixed place, and leaves it at another one (`Place.output?`).

| place | datum | passed through | read as | place behind it |
| --- | --- | --- | --- | --- |
| code | code | no filter | its tokens | code |
| within a comment | remark | `javadoc` | nothing | within the comment, behind a remark |
| within a comment | word | `upper` | nothing | within the comment |
| behind a double quote | value | `javaString` | a literal with this value | behind a value |

A template is outlined once and for all (`outlinePieces`): its texts are read, and of its data is
told what they are used for. With data that fit their uses, what it is rendered to is read as its
outline says (`read_render`). Remarks take no part in what is read, so without them it is read to
the same tokens, whatever they are (`read_render_silence`).
-/

import SuiteForge.Proofs.Java.Comments
import SuiteForge.Proofs.Java.Literals
import SuiteForge.Proofs.Suite.Pieces

namespace SuiteForge

/-- The datum that a reference stands for, if there is one. -/
def Ref.datum (r : Ref) (scope : Scope) : Datum :=
  match r.find scope with
  | .ok d => d
  | .error _ => .text []

theorem Ref.datum_of_find {r : Ref} {scope : Scope} {d : Datum} (h : r.find scope = .ok d) :
    r.datum scope = d := by
  rw [datum, h]

namespace Java

open JavaText (comment literal)

/-! ## Uses -/

/-- What a datum is used for. -/
inductive Use where
  | code
  | remark
  | word
  | value
  deriving DecidableEq

/-- The tokens of a text of code. -/
def codeTokens (t : Text) : List Token := ((scan advance (.none, .code) t).map (·.1)).getD []

/-- A text is read from code to code. -/
def IsCode (t : Text) : Prop :=
  scan advance (.none, .code) t = some (codeTokens t, (.none, .code))

instance (t : Text) : Decidable (IsCode t) :=
  inferInstanceAs (Decidable (scan advance (.none, .code) t = some (codeTokens t, (.none, .code))))

/-- A text may be used. -/
def Use.Fits : Use → Text → Prop
  | .code, t => IsCode t
  | .remark, t => Harmless (comment t)
  | .word, t => scan advance (.none, .comment false) t.upper = some ([], (.none, .comment false))
  | .value, _ => True

/-- The tokens that a text is read to where it is used. -/
def Use.tokens : Use → Text → List Token
  | .code, t => codeTokens t
  | .remark, _ => []
  | .word, _ => []
  | .value, t => [.literal t]

/-! ## Places -/

/-- Where a reader stands between two pieces of a template. -/
inductive Place where
  | code
  | comment
  /-- Within a comment, behind a text of which something may be left to be read. -/
  | remark
  /-- Within a literal, behind its first double quote. -/
  | quote
  /-- Within a literal, behind its value. -/
  | value
  deriving DecidableEq

namespace Place

/-- A reader at a place, with the tokens that it has met but not given out. -/
def Holds : Place → State → List Token → Prop
  | code, q, due => q = (.none, .code) ∧ due = []
  | comment, q, due => q = (.none, .comment false) ∧ due = []
  | remark, q, due => IsRemark q ∧ due = []
  | quote, q, due => q = (.none, .literal []) ∧ due = []
  | value, q, due => ∃ v, q = (.none, .literal v) ∧ due = [.literal v]

def ofState? : State → Option Place
  | (.none, .code) => some code
  | (.none, .comment false) => some comment
  | (.none, .literal []) => some quote
  | _ => none

/-- The tokens of a text, and the place where it ends. -/
def scan? (q : State) (t : Text) : Option (List Token × Place) :=
  (scan advance q t).bind fun x => (ofState? x.2).map fun p => (x.1, p)

/-- The tokens of a text of the template, and the place behind it. -/
def text? : Place → Text → Option (List Token × Place)
  | code, t => scan? (.none, .code) t
  | comment, t => scan? (.none, .comment false) t
  | remark, s :: t =>
    if settles s && s != .char '/' then scan? (.none, .comment false) (s :: t) else none
  | value, first :: s :: t =>
    if first == .char '"' && s != .char '"' && s != .char '\\' then scan? (.none, .code) (s :: t)
    else none
  | _, _ => none

/-- What a datum is used for at a place, and the place behind it. -/
def output? : Place → List Filter → Option (Use × Place)
  | code, [] => some (.code, code)
  | comment, [.javadoc] => some (.remark, remark)
  | comment, [.upper] => some (.word, comment)
  | quote, [.javaString] => some (.value, value)
  | _, _ => none

end Place

/-- From one place to another one, a text is read to tokens. -/
def Reads (p : Place) (t : Text) (toks : List Token) (q : Place) : Prop :=
  ∀ c due, p.Holds c due → ∃ out c' due', scan advance c t = some (out, c') ∧ q.Holds c' due' ∧
    due ++ toks = out ++ due'

section Reads

variable {p q r : Place} {t u : Text} {toks more : List Token}

theorem Reads.nil (p : Place) : Reads p [] [] p := fun c due h => ⟨[], c, due, rfl, h, by simp⟩

theorem Reads.append (h : Reads p t toks q) (h' : Reads q u more r) :
    Reads p (t ++ u) (toks ++ more) r := by
  intro c due hc
  obtain ⟨out, c', due', hscan, hc', hdue⟩ := h c due hc
  obtain ⟨out', c'', due'', hscan', hc'', hdue'⟩ := h' c' due' hc'
  refine ⟨out ++ out', c'', due'', ?_, hc'', ?_⟩
  · rw [scan_append_of_eq hscan, hscan']
    rfl
  · rw [← List.append_assoc, hdue, List.append_assoc, hdue', List.append_assoc]

theorem holds_of_ofState? {c : State} (h : Place.ofState? c = some p) : p.Holds c [] := by
  unfold Place.ofState? at h
  split at h <;> cases h <;> exact ⟨rfl, rfl⟩

/-- A text that is read on from where a reader stands. -/
theorem exists_of_scan? {c : State} (h : Place.scan? c t = some (toks, q)) :
    ∃ c', scan advance c t = some (toks, c') ∧ q.Holds c' [] := by
  obtain ⟨⟨out, c'⟩, hscan, h⟩ := Option.bind_eq_some_iff.1 h
  obtain ⟨p, hp, heq⟩ := Option.map_eq_some_iff.1 h
  obtain ⟨rfl, rfl⟩ := Prod.mk.inj heq
  exact ⟨c', hscan, holds_of_ofState? hp⟩

/-- **A text of the template is read as it was outlined.** -/
theorem reads_of_text? (h : p.text? t = some (toks, q)) : Reads p t toks q := by
  intro c due hc
  cases p with
  | code =>
    obtain ⟨rfl, rfl⟩ := hc
    obtain ⟨c', hscan, hc'⟩ := exists_of_scan? h
    exact ⟨toks, c', [], hscan, hc', by simp⟩
  | comment =>
    obtain ⟨rfl, rfl⟩ := hc
    obtain ⟨c', hscan, hc'⟩ := exists_of_scan? h
    exact ⟨toks, c', [], hscan, hc', by simp⟩
  | remark =>
    obtain ⟨hremark, rfl⟩ := hc
    cases t with
    | nil => cases h
    | cons s t =>
      rw [Place.text?] at h
      split_ifs at h with hs
      rw [Bool.and_eq_true, bne_iff_ne] at hs
      obtain ⟨c', hscan, hc'⟩ := exists_of_scan? h
      refine ⟨toks, c', [], ?_, hc', by simp⟩
      rwa [scan_cons (hremark s hs.1 hs.2),
        ← scan_cons (isRemark_comment s hs.1 hs.2)]
  | quote => cases h
  | value =>
    obtain ⟨v, rfl, rfl⟩ := hc
    obtain _ | ⟨first, _ | ⟨s, t⟩⟩ := t
    · cases h
    · cases h
    · rw [Place.text?] at h
      split_ifs at h with hs
      simp only [Bool.and_eq_true, beq_iff_eq, bne_iff_ne] at hs
      obtain ⟨⟨rfl, hquote⟩, hbackslash⟩ := hs
      obtain ⟨c', hscan, hc'⟩ := exists_of_scan? h
      refine ⟨.literal v :: toks, c', [], ?_, hc', by simp⟩
      rw [scan_closed v t hquote hbackslash, hscan]
      rfl

/-- **A datum is read as what it is used for.** -/
theorem reads_of_output? {filters : List Filter} {use : Use} {d : Datum}
    (h : p.output? filters = some (use, q)) (hfits : use.Fits d.display) :
    Reads p (Template.emit false filters d) (use.tokens d.display) q := by
  intro c due hc
  unfold Place.output? at h
  split at h
  · cases h
    obtain ⟨rfl, rfl⟩ := hc
    exact ⟨_, _, [], hfits, ⟨rfl, rfl⟩, by simp [Use.tokens]⟩
  · cases h
    obtain ⟨rfl, rfl⟩ := hc
    obtain ⟨c', hscan, hc'⟩ := exists_scan_of_harmless hfits
    exact ⟨[], c', [], hscan, ⟨hc', rfl⟩, by simp [Use.tokens]⟩
  · cases h
    obtain ⟨rfl, rfl⟩ := hc
    exact ⟨[], _, [], hfits, ⟨rfl, rfl⟩, by simp [Use.tokens]⟩
  · cases h
    obtain ⟨rfl, rfl⟩ := hc
    exact ⟨[], _, [.literal d.display], scan_literal [] _, ⟨_, rfl, rfl⟩, by simp [Use.tokens]⟩
  · cases h

theorem reads_of_renderEach {body : Datum → Except Text Text} {items : List Datum}
    {toks : Datum → List Token}
    (h : ∀ d ∈ items, ∀ u, body d = .ok u → Reads p u (toks d) p)
    (ht : Template.renderEach body items = .ok t) : Reads p t (items.flatMap toks) p := by
  induction items generalizing t with
  | nil =>
    cases ht
    exact .nil p
  | cons d rest ih =>
    obtain ⟨hd, hrest⟩ := List.forall_mem_cons.1 h
    rw [Template.renderEach] at ht
    obtain ⟨here, hhere, ht⟩ := bind_eq_ok.1 ht
    obtain ⟨after, hafter, ht⟩ := bind_eq_ok.1 ht
    cases ht
    exact (hd here hhere).append (ih hrest hafter)

/-- From code to code, a text is read to its tokens. -/
theorem read_of_reads (h : Reads .code t toks .code) : read t = some toks := by
  obtain ⟨out, c', due', hscan, ⟨rfl, rfl⟩, hout⟩ := h _ _ ⟨rfl, rfl⟩
  rw [List.nil_append, List.append_nil] at hout
  subst hout
  simpa using read_of_scan hscan (m := .code) rfl

end Reads

/-! ## Outlines -/

/-- What a template is read to, before it is known what it is rendered with. -/
inductive Outline where
  | done
  | tokens (toks : List Token) (rest : Outline)
  | datum (use : Use) (ref : Ref) (rest : Outline)
  | each (item : Text) (list : Ref) (body rest : Outline)
  | cond (ref : Ref) (yes no rest : Outline)
  deriving BEq, ReflBEq, LawfulBEq

/-- A part of what is read: tokens of a text of the template, or a text that is put in. -/
inductive Part where
  | tokens (toks : List Token)
  | datum (use : Use) (t : Text)

def Part.Fits : Part → Prop
  | .tokens _ => True
  | .datum use t => use.Fits t

/-- The tokens of a part. -/
def Part.read : Part → List Token
  | .tokens toks => toks
  | .datum use t => use.tokens t

namespace Outline

def append : Outline → Outline → Outline
  | done, o => o
  | tokens toks rest, o => tokens toks (rest.append o)
  | datum use ref rest, o => datum use ref (rest.append o)
  | each item list body rest, o => each item list body (rest.append o)
  | cond ref yes no rest, o => cond ref yes no (rest.append o)

/-- The parts of an outline with its data. -/
def parts : Outline → Scope → List Part
  | done, _ => []
  | tokens toks rest, scope => .tokens toks :: rest.parts scope
  | datum use ref rest, scope => .datum use (ref.datum scope).display :: rest.parts scope
  | each item list body rest, scope =>
    ((list.datum scope).items.flatMap fun d => body.parts ((item, d) :: scope)) ++ rest.parts scope
  | cond ref yes no rest, scope =>
    (if (ref.datum scope).isTruthy then yes.parts scope else no.parts scope) ++ rest.parts scope

theorem parts_append (o o' : Outline) (scope : Scope) :
    (o.append o').parts scope = o.parts scope ++ o'.parts scope := by
  induction o with
  | done => rfl
  | tokens toks rest ih => rw [append, parts, parts, ih, List.cons_append]
  | datum use ref rest ih => rw [append, parts, parts, ih, List.cons_append]
  | each item list body rest _ ih => rw [append, parts, parts, ih, List.append_assoc]
  | cond ref yes no rest _ _ ih => rw [append, parts, parts, ih, List.append_assoc]

end Outline

mutual

/-- The outline of a piece at a place, and the place behind it. -/
def outlinePiece : Place → Piece → Option (Outline × Place)
  | p, .text t => (p.text? t).map fun x => (.tokens x.1 .done, x.2)
  | p, .output ref filters => (p.output? filters).map fun x => (.datum x.1 ref .done, x.2)
  | p, .each item list body =>
    (outlinePieces p body).bind fun x =>
      if x.2 = p then some (.each item list x.1 .done, p) else none
  | p, .cond ref yes no =>
    (outlinePieces p yes).bind fun x => (outlinePieces p no).bind fun y =>
      if x.2 = y.2 then some (.cond ref x.1 y.1 .done, x.2) else none

/-- The outline of a template at a place, and the place behind it. -/
def outlinePieces : Place → List Piece → Option (Outline × Place)
  | p, [] => some (.done, p)
  | p, piece :: rest =>
    (outlinePiece p piece).bind fun x => (outlinePieces x.2 rest).map fun y => (x.1.append y.1, y.2)

end

mutual

theorem reads_of_outlinePiece {scope : Scope} {p q : Place} {o : Outline} {t : Text} :
    ∀ piece : Piece, outlinePiece p piece = some (o, q) → (∀ x ∈ o.parts scope, x.Fits) →
      Template.renderPiece false scope piece = .ok t →
        Reads p t ((o.parts scope).flatMap Part.read) q
  | .text u, h, _, ht => by
      rw [Template.renderPiece] at ht
      cases ht
      rw [outlinePiece] at h
      obtain ⟨⟨toks, r⟩, htext, heq⟩ := Option.map_eq_some_iff.1 h
      obtain ⟨rfl, rfl⟩ := Prod.mk.inj heq
      simpa [Outline.parts, Part.read] using reads_of_text? htext
  | .output ref filters, h, hfits, ht => by
      rw [outlinePiece] at h
      obtain ⟨⟨use, r⟩, houtput, heq⟩ := Option.map_eq_some_iff.1 h
      obtain ⟨rfl, rfl⟩ := Prod.mk.inj heq
      rw [Template.renderPiece] at ht
      cases hfind : ref.find scope with
      | error e => rw [hfind] at ht; cases ht
      | ok d =>
        rw [hfind] at ht
        cases ht
        have hdatum := Ref.datum_of_find hfind
        have huse : use.Fits d.display := by
          simpa [Outline.parts, Part.Fits, hdatum] using hfits
        simpa [Outline.parts, Part.read, hdatum] using reads_of_output? houtput huse
  | .each item list body, h, hfits, ht => by
      rw [outlinePiece] at h
      obtain ⟨⟨inner, r⟩, hbody, h⟩ := Option.bind_eq_some_iff.1 h
      split_ifs at h with hplace
      obtain ⟨rfl, rfl⟩ := Prod.mk.inj (Option.some.inj h)
      obtain rfl : r = p := hplace
      rw [Template.renderPiece] at ht
      obtain ⟨d, hfind, ht⟩ := bind_eq_ok.1 ht
      have hdatum := Ref.datum_of_find hfind
      simp only [Outline.parts, List.append_nil, hdatum, List.mem_flatMap] at hfits ⊢
      rw [List.flatMap_assoc]
      exact reads_of_renderEach (fun x hx u hu => reads_of_outlinePieces body hbody
        (fun y hy => hfits y ⟨x, hx, hy⟩) hu) ht
  | .cond ref yes no, h, hfits, ht => by
      rw [outlinePiece] at h
      obtain ⟨⟨a, r⟩, hyes, h⟩ := Option.bind_eq_some_iff.1 h
      obtain ⟨⟨b, r'⟩, hno, h⟩ := Option.bind_eq_some_iff.1 h
      split_ifs at h with hplace
      obtain ⟨rfl, rfl⟩ := Prod.mk.inj (Option.some.inj h)
      obtain rfl : r = r' := hplace
      rw [Template.renderPiece] at ht
      obtain ⟨d, hfind, ht⟩ := bind_eq_ok.1 ht
      have hdatum := Ref.datum_of_find hfind
      simp only [Outline.parts, List.append_nil, hdatum] at hfits ⊢
      split_ifs at hfits ht ⊢
      · exact reads_of_outlinePieces yes hyes hfits ht
      · exact reads_of_outlinePieces no hno hfits ht

/-- **From place to place, what a template is rendered to is read as its outline says.** -/
theorem reads_of_outlinePieces {scope : Scope} {p q : Place} {o : Outline} {t : Text} :
    ∀ ps : List Piece, outlinePieces p ps = some (o, q) → (∀ x ∈ o.parts scope, x.Fits) →
      Template.renderPieces false scope ps = .ok t →
        Reads p t ((o.parts scope).flatMap Part.read) q
  | [], h, _, ht => by
      rw [outlinePieces] at h
      cases h
      rw [Template.renderPieces] at ht
      cases ht
      exact .nil p
  | piece :: rest, h, hfits, ht => by
      rw [outlinePieces] at h
      obtain ⟨⟨a, r⟩, hpiece, h⟩ := Option.bind_eq_some_iff.1 h
      obtain ⟨⟨b, r'⟩, hrest, heq⟩ := Option.map_eq_some_iff.1 h
      obtain ⟨rfl, rfl⟩ := Prod.mk.inj heq
      rw [Outline.parts_append, List.forall_mem_append] at hfits
      rw [Template.renderPieces] at ht
      obtain ⟨here, hhere, ht⟩ := bind_eq_ok.1 ht
      obtain ⟨after, hafter, ht⟩ := bind_eq_ok.1 ht
      cases ht
      rw [Outline.parts_append, List.flatMap_append]
      exact (reads_of_outlinePiece piece hpiece hfits.1 hhere).append
        (reads_of_outlinePieces rest hrest hfits.2 hafter)

end

/-- **What a template is rendered to is read as its outline says.** -/
theorem read_render {scope : Scope} {ps : List Piece} {o : Outline} {t : Text}
    (h : outlinePieces .code ps = some (o, .code)) (hfits : ∀ x ∈ o.parts scope, x.Fits)
    (ht : Template.renderPieces false scope ps = .ok t) :
    read t = some ((o.parts scope).flatMap Part.read) :=
  read_of_reads (reads_of_outlinePieces ps h hfits ht)

/-! ## Templates without their remarks -/

mutual

/-- A piece without its remarks. -/
def silencePiece : Piece → Piece
  | .text t => .text t
  | .output ref filters => if filters = [.javadoc] then .text [] else .output ref filters
  | .each item list body => .each item list (silence body)
  | .cond ref yes no => .cond ref (silence yes) (silence no)

/-- A template without its remarks. -/
def silence : List Piece → List Piece
  | [] => []
  | piece :: rest => silencePiece piece :: silence rest

end

/-- A place, if nothing is put in behind which something may be left to be read. -/
def Place.settled : Place → Place
  | remark => comment
  | p => p

def Outline.silence : Outline → Outline
  | done => done
  | tokens toks rest => tokens toks rest.silence
  | datum use ref rest =>
    if use = .remark then tokens [] rest.silence else datum use ref rest.silence
  | each item list body rest => each item list body.silence rest.silence
  | cond ref yes no rest => cond ref yes.silence no.silence rest.silence

def Part.silence : Part → Part
  | .tokens toks => .tokens toks
  | .datum use t => if use = .remark then .tokens [] else .datum use t

theorem Part.read_silence (x : Part) : x.silence.read = x.read := by
  cases x with
  | tokens toks => rfl
  | datum use t => cases use <;> rfl

namespace Outline

theorem silence_append (o o' : Outline) :
    (o.append o').silence = o.silence.append o'.silence := by
  induction o with
  | done => rfl
  | tokens toks rest ih => rw [append, silence, silence, append, ih]
  | datum use ref rest ih =>
    rw [append, silence, silence]
    split <;> rw [append, ih]
  | each item list body rest _ ih => rw [append, silence, silence, append, ih]
  | cond ref yes no rest _ _ ih => rw [append, silence, silence, append, ih]

theorem parts_silence (o : Outline) (scope : Scope) :
    o.silence.parts scope = (o.parts scope).map Part.silence := by
  induction o generalizing scope with
  | done => rfl
  | tokens toks rest ih => rw [silence, parts, parts, ih, List.map_cons, Part.silence]
  | datum use ref rest ih =>
    rw [silence, parts, List.map_cons, Part.silence]
    split <;> rw [parts, ih]
  | each item list body rest ihbody ih =>
    simp only [silence, parts, ih, ihbody, List.map_append, List.map_flatMap]
  | cond ref yes no rest ihyes ihno ih =>
    simp only [silence, parts, ih, ihyes, ihno, List.map_append, apply_ite (List.map _)]

end Outline

theorem text?_settled {p q : Place} {t : Text} {toks : List Token}
    (h : p.text? t = some (toks, q)) : p.settled.text? t = some (toks, q.settled) := by
  have hscan : ∀ {c : State} {t : Text}, Place.scan? c t = some (toks, q) → q.settled = q := by
    intro c t h
    obtain ⟨x, -, h⟩ := Option.bind_eq_some_iff.1 h
    obtain ⟨p, hp, heq⟩ := Option.map_eq_some_iff.1 h
    obtain ⟨-, rfl⟩ := Prod.mk.inj heq
    unfold Place.ofState? at hp
    split at hp <;> cases hp <;> rfl
  unfold Place.text? at h
  split at h
  · rw [hscan h]; exact h
  · rw [hscan h]; exact h
  · split_ifs at h
    rw [hscan h]; exact h
  · split_ifs at h with hs
    rw [hscan h]
    exact (if_pos hs).trans h
  · cases h

mutual

theorem outlinePiece_silence {p q : Place} {o : Outline} : ∀ piece : Piece,
    outlinePiece p piece = some (o, q) →
      outlinePiece p.settled (silencePiece piece) = some (o.silence, q.settled)
  | .text t, h => by
      rw [outlinePiece] at h
      obtain ⟨⟨toks, r⟩, htext, heq⟩ := Option.map_eq_some_iff.1 h
      obtain ⟨rfl, rfl⟩ := Prod.mk.inj heq
      rw [silencePiece, outlinePiece, text?_settled htext]
      rfl
  | .output ref filters, h => by
      rw [outlinePiece] at h
      obtain ⟨⟨use, r⟩, houtput, heq⟩ := Option.map_eq_some_iff.1 h
      obtain ⟨rfl, rfl⟩ := Prod.mk.inj heq
      unfold Place.output? at houtput
      split at houtput <;> cases houtput <;> rfl
  | .each item list body, h => by
      rw [outlinePiece] at h
      obtain ⟨⟨inner, r⟩, hbody, h⟩ := Option.bind_eq_some_iff.1 h
      split_ifs at h with hplace
      obtain ⟨rfl, rfl⟩ := Prod.mk.inj (Option.some.inj h)
      obtain rfl : r = p := hplace
      rw [silencePiece, outlinePiece, outlinePieces_silence body hbody, Option.bind_some,
        if_pos rfl]
      rfl
  | .cond ref yes no, h => by
      rw [outlinePiece] at h
      obtain ⟨⟨a, r⟩, hyes, h⟩ := Option.bind_eq_some_iff.1 h
      obtain ⟨⟨b, r'⟩, hno, h⟩ := Option.bind_eq_some_iff.1 h
      split_ifs at h with hplace
      obtain ⟨rfl, rfl⟩ := Prod.mk.inj (Option.some.inj h)
      obtain rfl : r = r' := hplace
      rw [silencePiece, outlinePiece, outlinePieces_silence yes hyes,
        outlinePieces_silence no hno, Option.bind_some, Option.bind_some, if_pos rfl]
      rfl

/-- **A template without its remarks has the outline without them.** -/
theorem outlinePieces_silence {p q : Place} {o : Outline} : ∀ ps : List Piece,
    outlinePieces p ps = some (o, q) →
      outlinePieces p.settled (silence ps) = some (o.silence, q.settled)
  | [], h => by
      rw [outlinePieces] at h
      cases h
      rw [silence, outlinePieces]
      rfl
  | piece :: rest, h => by
      rw [outlinePieces] at h
      obtain ⟨⟨a, r⟩, hpiece, h⟩ := Option.bind_eq_some_iff.1 h
      obtain ⟨⟨b, r'⟩, hrest, heq⟩ := Option.map_eq_some_iff.1 h
      obtain ⟨rfl, rfl⟩ := Prod.mk.inj heq
      rw [silence, outlinePieces, outlinePiece_silence piece hpiece, Option.bind_some,
        outlinePieces_silence rest hrest, Option.map_some, Outline.silence_append]

end

/-- **Without its remarks a template is read to the same tokens,** whatever the remarks are. -/
theorem read_render_silence {scope : Scope} {ps : List Piece} {o : Outline} {t : Text}
    (h : outlinePieces .code ps = some (o, .code))
    (hfits : ∀ use u, .datum use u ∈ o.parts scope → use ≠ .remark → use.Fits u)
    (ht : Template.renderPieces false scope (silence ps) = .ok t) :
    read t = some ((o.parts scope).flatMap Part.read) := by
  have hsilence : ∀ x ∈ o.silence.parts scope, x.Fits := by
    rw [Outline.parts_silence, List.forall_mem_map]
    intro x hx
    cases x with
    | tokens toks => trivial
    | datum use u =>
      rw [Part.silence]
      split
      · trivial
      · exact hfits use u hx ‹_›
  have hread := read_render (outlinePieces_silence ps h) hsilence ht
  simpa only [Outline.parts_silence, List.flatMap_map, Part.read_silence] using hread

/-! ## Outlines without code -/

/-- A token is a comment or a literal. -/
def Token.isMark : Token → Bool
  | .code _ => false
  | _ => true

/-- A part without the code of the template. -/
def Part.bare : Part → List Part
  | .tokens toks =>
    if toks.filter Token.isMark = [] then [] else [.tokens (toks.filter Token.isMark)]
  | .datum use t => [.datum use t]

theorem Part.filter_read_bare (x : Part) :
    (x.bare.flatMap Part.read).filter Token.isMark = x.read.filter Token.isMark := by
  cases x with
  | tokens toks =>
    rw [bare, read]
    split
    · next h => rw [h]; rfl
    · simp [read]
  | datum use t => simp [bare]

namespace Outline

/-- An outline without the code of the template. -/
def bare : Outline → Outline
  | done => done
  | tokens toks rest =>
    if toks.filter Token.isMark = [] then rest.bare
    else tokens (toks.filter Token.isMark) rest.bare
  | datum use ref rest => datum use ref rest.bare
  | each item list body rest =>
    if body.bare == done then rest.bare else each item list body.bare rest.bare
  | cond ref yes no rest =>
    if yes.bare == done && no.bare == done then rest.bare else cond ref yes.bare no.bare rest.bare

theorem parts_bare (o : Outline) (scope : Scope) :
    o.bare.parts scope = (o.parts scope).flatMap Part.bare := by
  induction o generalizing scope with
  | done => rfl
  | tokens toks rest ih =>
    rw [bare, parts, List.flatMap_cons, Part.bare]
    split
    · exact ih scope
    · rw [parts, ih]
      rfl
  | datum use ref rest ih =>
    rw [bare, parts, parts, ih]
    rfl
  | each item list body rest ihbody ih =>
    rw [bare, parts, List.flatMap_append, List.flatMap_assoc, ← ih]
    simp only [← ihbody]
    split
    · next h => simp [beq_iff_eq.1 h, parts]
    · rw [parts]
  | cond ref yes no rest ihyes ihno ih =>
    rw [bare, parts, List.flatMap_append, ← ih, apply_ite (List.flatMap Part.bare), ← ihyes,
      ← ihno]
    split
    · next h =>
      rw [Bool.and_eq_true, beq_iff_eq, beq_iff_eq] at h
      simp [h.1, h.2, parts]
    · rw [parts]

/-- No datum is left out. -/
theorem datum_mem_bare {o : Outline} {scope : Scope} {use : Use} {t : Text} :
    .datum use t ∈ o.bare.parts scope ↔ .datum use t ∈ o.parts scope := by
  rw [parts_bare, List.mem_flatMap]
  constructor
  · rintro ⟨x, hx, hmem⟩
    cases x with
    | tokens toks =>
      rw [Part.bare] at hmem
      split_ifs at hmem
      · cases hmem
      · cases List.mem_singleton.1 hmem
    | datum use' t' => exact List.mem_singleton.1 hmem ▸ hx
  · exact fun h => ⟨_, h, List.mem_singleton_self _⟩

/-- No comment and no literal is left out. -/
theorem filter_read_bare (o : Outline) (scope : Scope) :
    ((o.bare.parts scope).flatMap Part.read).filter Token.isMark =
      ((o.parts scope).flatMap Part.read).filter Token.isMark := by
  rw [parts_bare, List.flatMap_assoc, List.filter_flatMap, List.filter_flatMap]
  exact List.flatMap_congr fun x _ => x.filter_read_bare

end Outline

end Java

end SuiteForge
