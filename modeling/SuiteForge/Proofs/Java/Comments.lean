/-
# Comments

A text on a line of a comment is harmless if it is read as part of the comment: its Unicode escapes
are well formed, and no asterisk is followed by a slash in what they stand for (`Harmless`). What is
written of a text (`JavaText.comment`) has no line break and no comment's end in it, but Unicode
escapes stay as they are. So it is harmless if and only if the escapes of the text are well formed
and none of them stands for an asterisk or a slash that another one follows or precedes
(`harmless_comment_iff`); in particular if the text has no backslash that is followed by `u`
(`harmless_comment_of_no_escape`).

| text | written | harmless |
| --- | --- | --- |
| `a */ b` | `a *&#47; b` | yes |
| `\u002a/` | the same | no: an escape stands for the asterisk |
| `C:\users` | the same | no: `\users` begins with a malformed escape |
-/

import SuiteForge.Proofs.Java.Reading
import SuiteForge.Proofs.Suite.Names
import SuiteForge.Suite.JavaText

namespace SuiteForge

namespace Java

open JavaText (comment)

/-! ## Chains -/

/-- The escapes of a text are well formed, and no asterisk is followed by a slash. -/
def Harmless (t : Text) : Prop :=
  ∃ us, inputs t = some us ∧ ¬Text.ofString "*/" <:+: us.map Input.symbol

/-- The escapes of a text are well formed, and where an asterisk is followed by a slash, both stand
for themselves. -/
def Intact (t : Text) : Prop :=
  ∃ us, inputs t = some us ∧ us.IsChain fun a b =>
    a.symbol = .char '*' → b.symbol = .char '/' → a.escaped = false ∧ b.escaped = false

theorem isChain_iff_not_adjacent {α : Type} {x y : α} {l : List α} :
    l.IsChain (fun a b => ¬(a = x ∧ b = y)) ↔ ¬[x, y] <:+: l := by
  rw [List.isChain_iff_forall_rel_of_append_cons_cons]
  constructor
  · rintro h ⟨before, after, rfl⟩
    exact h (List.append_assoc before [x, y] after) ⟨rfl, rfl⟩
  · rintro h a b before after rfl ⟨rfl, rfl⟩
    exact h ⟨before, after, by simp⟩

/-! ## Marks -/

/-- A symbol is no part of a Unicode escape. -/
def settles (s : Symbol) : Bool :=
  s != .char '\\' && s != .char 'u' && s.hexValue?.isNone

/-- Behind a symbol that is no part of an escape, nothing is left of one. -/
theorem unescape_of_settles {s : Symbol} (h : settles s = true) (p : Pending) :
    unescape p s = p.finish.map fun last => (last ++ [.raw s], .none) := by
  simp only [settles, Bool.and_eq_true, bne_iff_ne, ne_eq, Option.isNone_iff_eq_none] at h
  obtain ⟨⟨hbackslash, hu⟩, hhex⟩ := h
  cases p with
  | none => simp [unescape, hbackslash, Pending.finish]
  | backslash => simp [unescape, hbackslash, hu, Pending.finish]
  | digits count value => simp [unescape, hhex, hu, Pending.finish]

/-! ## Exchanging ends of comments -/

/-- An asterisk and a slash that stand for themselves exchanged for what is written for them. -/
def neutralise : List Input → List Input
  | a :: b :: rest =>
    if a = .raw (.char '*') ∧ b = .raw (.char '/') then
      (Text.ofString "*&#47;").map .raw ++ neutralise rest
    else a :: neutralise (b :: rest)
  | us => us

theorem neutralise_cons {a : Input} {us : List Input}
    (h : ¬(a = .raw (.char '*') ∧ us.head? = some (.raw (.char '/')))) :
    neutralise (a :: us) = a :: neutralise us := by
  cases us with
  | nil => rfl
  | cons b rest =>
    rw [neutralise, if_neg]
    rintro ⟨ha, rfl⟩
    exact h ⟨ha, rfl⟩

theorem head?_neutralise (us : List Input) : (neutralise us).head? = us.head? := by
  cases us with
  | nil => rfl
  | cons a us =>
    by_cases h : a = .raw (.char '*') ∧ us.head? = some (.raw (.char '/'))
    · obtain ⟨rfl, hus⟩ := h
      obtain ⟨rest, rfl⟩ := List.head?_eq_some_iff.1 hus
      rfl
    · rw [neutralise_cons h]
      rfl

/-- Where an asterisk and a slash meet after the exchange, an escape stands for one of them. -/
theorem isChain_neutralise (us : List Input) :
    (neutralise us).IsChain (fun a b => ¬(a.symbol = .char '*' ∧ b.symbol = .char '/')) ↔
      us.IsChain fun a b =>
        a.symbol = .char '*' → b.symbol = .char '/' → a.escaped = false ∧ b.escaped = false := by
  fun_induction neutralise us with
  | case1 a b rest h ih =>
    obtain ⟨rfl, rfl⟩ := h
    have hentity : ((Text.ofString "*&#47;").map Input.raw).IsChain fun a b =>
        ¬(a.symbol = .char '*' ∧ b.symbol = .char '/') := by decide
    have hlast : ((Text.ofString "*&#47;").map Input.raw).getLast? = some (.raw (.char ';')) := by
      decide
    have hslash : Symbol.char '/' ≠ .char '*' := by decide
    refine Iff.trans ⟨fun h => h.right_of_append, fun h => hentity.append h fun x hx y _ => ?_⟩
      (ih.trans (by simp [List.isChain_cons, hslash, Input.raw]))
    obtain rfl := Option.some.inj (hlast.symm.trans hx)
    exact fun h => absurd h.1 (by decide)
  | case2 a b rest h ih =>
    rw [List.isChain_cons, head?_neutralise, ih, List.isChain_cons_cons]
    refine and_congr_left fun _ => ?_
    obtain ⟨x, e⟩ := a
    obtain ⟨y, f⟩ := b
    cases e <;> cases f <;> simp_all [Input.raw]
  | case3 us h =>
    obtain _ | ⟨a, _ | ⟨b, rest⟩⟩ := us
    · simp
    · simp
    · exact (h a b rest rfl).elim

/-- What one symbol gives out: nothing, as an escape goes on; what an escape stands for; itself; or
itself behind a backslash. -/
theorem unescape_cases {p q : Pending} {s : Symbol} {out : List Input}
    (h : unescape p s = some (out, q)) :
    (out = [] ∧ q ≠ .none) ∨ (∃ c, out = [⟨c, true⟩]) ∨ (p = .none ∧ q = .none ∧ out = [.raw s]) ∨
      (q = .none ∧ out = [.raw (.char '\\'), .raw s]) := by
  cases p with
  | none =>
    rw [unescape] at h
    split at h
    all_goals
      obtain ⟨rfl, rfl⟩ := Prod.mk.inj (Option.some.inj h)
      simp
  | backslash =>
    rw [unescape] at h
    split_ifs at h
    all_goals
      obtain ⟨rfl, rfl⟩ := Prod.mk.inj (Option.some.inj h)
      simp
  | digits count value =>
    rw [unescape] at h
    split at h
    · split_ifs at h
      · obtain ⟨c, -, heq⟩ := Option.map_eq_some_iff.1 h
        obtain ⟨rfl, rfl⟩ := Prod.mk.inj heq
        exact .inr (.inl ⟨c, rfl⟩)
      · obtain ⟨rfl, rfl⟩ := Prod.mk.inj (Option.some.inj h)
        exact .inl ⟨rfl, Pending.noConfusion⟩
    · split_ifs at h
      obtain ⟨rfl, rfl⟩ := Prod.mk.inj (Option.some.inj h)
      exact .inl ⟨rfl, Pending.noConfusion⟩

/-- A slash that stands for itself comes first only where no escape has begun. -/
theorem head?_scan_unescape {p q : Pending} {t : Text} {us : List Input}
    (h : scan unescape p t = some (us, q)) (hhead : us.head? = some (.raw (.char '/'))) :
    p = .none ∧ t.head? = some (.char '/') := by
  induction t generalizing p us with
  | nil =>
    obtain ⟨rfl, rfl⟩ := Prod.mk.inj (Option.some.inj h)
    cases hhead
  | cons s t ih =>
    rw [scan, Option.bind_eq_some_iff] at h
    obtain ⟨⟨out, p'⟩, hstep, h⟩ := h
    obtain ⟨⟨us', q'⟩, hrest, heq⟩ := Option.map_eq_some_iff.1 h
    obtain ⟨rfl, rfl⟩ := Prod.mk.inj heq
    obtain ⟨rfl, hp'⟩ | ⟨c, rfl⟩ | ⟨rfl, -, rfl⟩ | ⟨-, rfl⟩ := unescape_cases hstep
    · exact absurd (ih hrest hhead).1 hp'
    · cases hhead
    · obtain rfl : s = .char '/' := congrArg Input.symbol (Option.some.inj hhead)
      exact ⟨rfl, rfl⟩
    · exact absurd (congrArg Input.symbol (Option.some.inj hhead)) (by decide)

/-- Nothing is exchanged in what is left of an escape that has begun. -/
theorem neutralise_finish_append {p : Pending} {last : List Input} (h : p.finish = some last)
    (us : List Input) : neutralise (last ++ us) = last ++ neutralise us := by
  cases p with
  | none =>
    obtain rfl := Option.some.inj h
    rfl
  | backslash =>
    obtain rfl := Option.some.inj h
    exact neutralise_cons fun h => absurd h.1 (by decide)
  | digits count value => cases h

theorem neutralise_append_finish {p : Pending} {last : List Input} (h : p.finish = some last)
    (us : List Input) : neutralise (us ++ last) = neutralise us ++ last := by
  cases p with
  | none =>
    obtain rfl := Option.some.inj h
    simp
  | backslash =>
    obtain rfl := Option.some.inj h
    have hslash : Input.raw (.char '\\') ≠ .raw (.char '/') := by decide
    fun_induction neutralise us with
    | case1 a b rest hpair ih =>
      rw [List.cons_append, List.cons_append, neutralise, if_pos hpair, ih, List.append_assoc]
    | case2 a b rest hpair ih =>
      rw [List.cons_append, List.cons_append, neutralise, if_neg hpair, ← List.cons_append, ih,
        List.cons_append]
    | case3 us hshort =>
      obtain _ | ⟨a, _ | ⟨b, rest⟩⟩ := us
      · rfl
      · exact neutralise_cons fun h => hslash (Option.some.inj h.2)
      · exact (hshort a b rest rfl).elim
  | digits count value => cases h

/-- **Exchanging the ends of comments in a text exchanges those that are read of it.** -/
theorem scan_unescape_replace (p : Pending) (t : Text) :
    scan unescape p (Text.replace "*/" "*&#47;" t) =
      (scan unescape p t).map fun x => (neutralise x.1, x.2) := by
  generalize hold : Text.ofString "*/" = old
  generalize hnew : Text.ofString "*&#47;" = new
  fun_induction Text.replace old new t generalizing p with
  | case1 => rfl
  | case2 s rest hmatch ih =>
    subst hold hnew
    obtain ⟨rest, heq⟩ := List.isPrefixOf_iff_prefix.1 hmatch.2
    obtain ⟨rfl, rfl⟩ := List.cons.inj heq
    -- What is left of an escape is given out with the asterisk, both before and after the exchange.
    have hstar : ∀ u, scan unescape p (.char '*' :: u) = p.finish.bind fun last =>
        (scan unescape .none u).map fun y => (last ++ .raw (.char '*') :: y.1, y.2) := by
      intro u
      rw [scan, unescape_of_settles (by decide), Option.bind_map]
      simp
    have hentity : scan unescape .none (Text.ofString "&#47;") =
        some ((Text.ofString "&#47;").map .raw, .none) := by decide
    have hslash : unescape .none (.char '/') = some ([.raw (.char '/')], .none) := by decide
    change scan unescape p (.char '*' :: (Text.ofString "&#47;" ++ Text.replace _ _ rest)) =
      (scan unescape p (.char '*' :: .char '/' :: rest)).map fun x => (neutralise x.1, x.2)
    rw [hstar, hstar, scan_append_of_eq hentity, scan_cons hslash]
    replace ih : scan unescape .none (Text.replace "*/" "*&#47;" rest) =
      (scan unescape .none rest).map fun x => (neutralise x.1, x.2) := ih .none
    rw [ih]
    cases hfinish : p.finish with
    | none => rfl
    | some last =>
      cases scan unescape .none rest with
      | none => rfl
      | some x => simp [neutralise_finish_append hfinish, neutralise, Text.ofString]
  | case3 s rest hmatch ih =>
    subst hold hnew
    rw [scan, scan]
    cases hstep : unescape p s with
    | none => rfl
    | some x =>
      obtain ⟨out, q⟩ := x
      rw [Option.bind_some, Option.bind_some, ih]
      cases hrest : scan unescape q rest with
      | none => rfl
      | some y =>
        obtain ⟨us, r⟩ := y
        have hapart : q = .none →
            ¬(Input.raw s = .raw (.char '*') ∧ us.head? = some (.raw (.char '/'))) := by
          rintro rfl ⟨hs, hhead⟩
          obtain rfl : s = .char '*' := congrArg Input.symbol hs
          obtain ⟨rest, rfl⟩ := List.head?_eq_some_iff.1 (head?_scan_unescape hrest hhead).2
          exact hmatch ⟨by decide, List.isPrefixOf_iff_prefix.2 ⟨rest, rfl⟩⟩
        have hout : neutralise (out ++ us) = out ++ neutralise us := by
          obtain ⟨rfl, -⟩ | ⟨c, rfl⟩ | ⟨-, hq, rfl⟩ | ⟨hq, rfl⟩ := unescape_cases hstep
          · rfl
          · exact neutralise_cons fun h => by cases h.1
          · exact neutralise_cons (hapart hq)
          · refine (neutralise_cons fun h => ?_).trans (congrArg _ (neutralise_cons (hapart hq)))
            exact absurd h.1 (by decide)
        simp [hout]

theorem inputs_replace (t : Text) :
    inputs (Text.replace "*/" "*&#47;" t) = (inputs t).map neutralise := by
  unfold inputs
  rw [scan_unescape_replace]
  cases scan unescape .none t with
  | none => rfl
  | some x =>
    obtain ⟨us, p⟩ := x
    cases hfinish : p.finish with
    | none => simp [hfinish]
    | some last => simp [hfinish, neutralise_append_finish hfinish]

theorem harmless_iff {t : Text} : Harmless t ↔ ∃ us, inputs t = some us ∧
    us.IsChain fun a b => ¬(a.symbol = .char '*' ∧ b.symbol = .char '/') := by
  refine exists_congr fun us => and_congr_right fun _ => ?_
  exact isChain_iff_not_adjacent.symm.trans (List.isChain_map Input.symbol)

/-- **What is written of a text is harmless if and only if the text is intact.** -/
theorem harmless_comment_iff (t : Text) : Harmless (comment t) ↔ Intact t.flatten := by
  rw [harmless_iff, comment, inputs_replace]
  constructor
  · rintro ⟨_, hus, hchain⟩
    obtain ⟨us, hinputs, rfl⟩ := Option.map_eq_some_iff.1 hus
    exact ⟨us, hinputs, (isChain_neutralise us).1 hchain⟩
  · rintro ⟨us, hinputs, hchain⟩
    exact ⟨_, congrArg (Option.map neutralise) hinputs, (isChain_neutralise us).2 hchain⟩

/-! ## Lines -/

theorem head?_replace (t : Text) : (Text.replace "*/" "*&#47;" t).head? = t.head? := by
  cases t with
  | nil => rw [Text.replace]
  | cons s t =>
    rw [Text.replace]
    split
    · next h =>
      obtain ⟨rest, heq⟩ := List.isPrefixOf_iff_prefix.1 h.2
      rw [(List.cons.inj heq).1.symm]
      rfl
    · rfl

/-- **No comment's end is written.** -/
theorem not_infix_comment (t : Text) : ¬Text.ofString "*/" <:+: comment t := by
  suffices h : (comment t).IsChain fun a b => ¬(a = .char '*' ∧ b = .char '/') from
    isChain_iff_not_adjacent.1 h
  unfold comment
  generalize t.flatten = u
  generalize hold : Text.ofString "*/" = old
  generalize hnew : Text.ofString "*&#47;" = new
  fun_induction Text.replace old new u with
  | case1 => exact .nil
  | case2 s rest hmatch ih =>
    subst hold hnew
    have hentity : (Text.ofString "*&#47;").IsChain fun a b =>
        ¬(a = Symbol.char '*' ∧ b = .char '/') := by decide
    refine hentity.append ih fun x hx y _ h => ?_
    obtain rfl := Option.some.inj
      ((show (Text.ofString "*&#47;").getLast? = some (.char ';') by decide).symm.trans hx)
    exact absurd h.1 (by decide)
  | case3 s rest hmatch ih =>
    subst hold hnew
    refine List.isChain_cons.2 ⟨fun b hb h => hmatch ⟨by decide, ?_⟩, ih⟩
    obtain ⟨rfl, rfl⟩ := h
    rw [head?_replace] at hb
    obtain ⟨rest, rfl⟩ := List.head?_eq_some_iff.1 hb
    exact List.isPrefixOf_iff_prefix.2 ⟨rest, rfl⟩

/-- **What is written is one line:** of blanks it has spaces only. -/
theorem eq_space_of_mem_comment {t : Text} {s : Symbol} (h : s ∈ comment t)
    (hblank : s.isBlank = true) : s = .char ' ' := by
  rcases mem_replace h with h | h
  · rcases mem_join h with h | ⟨word, hword, h⟩
    · exact List.mem_singleton.1 h
    · have hword := (mem_runs hword).2 s h
      rw [hblank] at hword
      cases hword
  · have hentity : ∀ s ∈ Text.ofString "*&#47;", s.isBlank = false := by decide
    rw [hentity s h] at hblank
    cases hblank

theorem newline_not_mem_comment (t : Text) : .char '\n' ∉ comment t := fun h =>
  absurd (eq_space_of_mem_comment h Symbol.isBlank_newline) (by decide)

/-! ## Texts without escapes -/

theorem inputs_step {p q : Pending} {s : Symbol} {out : List Input}
    (h : unescape p s = some (out, q)) (t : Text) :
    ((scan unescape p (s :: t)).bind fun x => x.2.finish.map fun last => x.1 ++ last) =
      ((scan unescape q t).bind fun x =>
        x.2.finish.map fun last => x.1 ++ last).map (out ++ ·) := by
  rw [scan_cons h, Option.bind_map, Option.map_bind]
  refine Option.bind_congr fun x _ => ?_
  simp [Function.comp_def]

/-- A text in which no backslash is followed by `u` stands for itself. -/
theorem inputs_of_isChain {t : Text}
    (h : t.IsChain fun a b => ¬(a = .char '\\' ∧ b = .char 'u')) :
    inputs t = some (t.map .raw) := by
  -- The first part is about the start of a text, the second one about what follows a backslash.
  have hboth : inputs t = some (t.map .raw) ∧ (t.head? ≠ some (.char 'u') →
      ((scan unescape .backslash t).bind fun x => x.2.finish.map fun last => x.1 ++ last) =
        some (.raw (.char '\\') :: t.map .raw)) := by
    induction t with
    | nil => exact ⟨rfl, fun _ => rfl⟩
    | cons s t ih =>
      obtain ⟨hhead, hrest⟩ := List.isChain_cons.1 h
      obtain ⟨hnone, hbackslash⟩ := ih hrest
      unfold inputs at hnone ⊢
      constructor
      · by_cases hs : s = .char '\\'
        · subst hs
          have hu : t.head? ≠ some (.char 'u') := fun hu => hhead _ hu ⟨rfl, rfl⟩
          have hstep : unescape .none (.char '\\') = some ([], .backslash) := rfl
          rw [inputs_step hstep, hbackslash hu]
          rfl
        · have hstep : unescape .none s = some ([.raw s], .none) := if_neg hs
          rw [inputs_step hstep, hnone]
          rfl
      · intro hu
        have hs : s ≠ .char 'u' := fun hs => hu (congrArg some hs)
        have hstep : unescape .backslash s = some ([.raw (.char '\\'), .raw s], .none) := by
          simp [unescape, hs]
        rw [inputs_step hstep, hnone]
        rfl
  exact hboth.1

theorem intact_of_isChain {t : Text}
    (h : t.IsChain fun a b => ¬(a = .char '\\' ∧ b = .char 'u')) : Intact t := by
  refine ⟨t.map .raw, inputs_of_isChain h, ?_⟩
  rw [List.isChain_map]
  exact h.imp fun _ _ _ _ _ => ⟨rfl, rfl⟩

/-- What holds of neighbours in a text holds of them in its words with spaces between them, if it
holds of spaces and their neighbours. -/
theorem isChain_flatten {R : Symbol → Symbol → Prop} {t : Text} (h : t.IsChain R)
    (front : ∀ s, R s (.char ' ')) (back : ∀ s, R (.char ' ') s) : t.flatten.IsChain R := by
  have hwords : ∀ word ∈ t.words, word.IsChain R := fun word hword =>
    h.infix (infix_of_mem_runs hword)
  unfold Text.flatten
  generalize t.words = words at hwords
  induction words with
  | nil => exact .nil
  | cons word rest ih =>
    obtain ⟨hword, hrest⟩ := List.forall_mem_cons.1 hwords
    cases rest with
    | nil => exact hword
    | cons next rest =>
      refine (hword.append (.singleton _) fun a _ b hb => ?_).append (ih hrest) fun a ha b _ => ?_
      · obtain rfl := Option.some.inj hb
        exact front a
      · rw [List.getLast?_append] at ha
        obtain rfl := Option.some.inj ha
        exact back b

/-- **What is written of a text is harmless if no backslash is followed by `u`.** -/
theorem harmless_comment_of_no_escape {t : Text} (h : ¬Text.ofString "\\u" <:+: t) :
    Harmless (comment t) := by
  have hspace : Symbol.char ' ' ≠ .char 'u' := by decide
  have hspace' : Symbol.char ' ' ≠ .char '\\' := by decide
  exact (harmless_comment_iff t).2 (intact_of_isChain (isChain_flatten
    (isChain_iff_not_adjacent.2 h) (fun s h => hspace h.2) fun s h => hspace' h.1))

/-! ## Reading comments -/

/-- Within a comment, behind a text: what comes next is a part of the comment, unless it is part of
an escape or a slash. -/
def IsRemark (q : State) : Prop :=
  ∀ s, settles s = true → s ≠ .char '/' →
    advance q s = some ([], (.none, .comment (s == .char '*')))

theorem isRemark_comment : IsRemark (.none, .comment false) := by
  intro s hs _
  have hbackslash : s ≠ .char '\\' := by
    rintro rfl
    exact absurd hs (by decide)
  rw [advance_raw _ hbackslash]
  rfl

/-- Symbols in which no asterisk is followed by a slash are read as part of a comment. -/
theorem scan_lex_comment {us : List Input} (star : Bool)
    (h : us.IsChain fun a b => ¬(a.symbol = .char '*' ∧ b.symbol = .char '/'))
    (hstar : star = true → ∀ i ∈ us.head?, i.symbol ≠ .char '/') :
    ∃ last, scan lex (.comment star) us = some ([], .comment last) ∧
      ∀ i, i.symbol ≠ .char '/' →
        lex (.comment last) i = some ([], .comment (i.symbol == .char '*')) := by
  induction us generalizing star with
  | nil => exact ⟨star, rfl, fun i hi => if_neg fun h => hi h.2⟩
  | cons i us ih =>
    obtain ⟨hhead, hrest⟩ := List.isChain_cons.1 h
    have hstep : lex (.comment star) i = some ([], .comment (i.symbol == .char '*')) :=
      if_neg fun h => hstar h.1 i rfl h.2
    obtain ⟨last, hscan, hlast⟩ := ih _ hrest fun hi j hj hslash =>
      hhead j hj ⟨beq_iff_eq.1 hi, hslash⟩
    exact ⟨last, by rw [scan_cons hstep, hscan]; rfl, hlast⟩

/-- **A harmless text within a comment is read as part of it.** -/
theorem exists_scan_of_harmless {t : Text} (h : Harmless t) :
    ∃ q, scan advance (.none, .comment false) t = some ([], q) ∧ IsRemark q := by
  obtain ⟨us, hinputs, hchain⟩ := harmless_iff.1 h
  obtain ⟨⟨first, p⟩, hscan, hfinish⟩ := Option.bind_eq_some_iff.1 hinputs
  obtain ⟨last, hlast, rfl⟩ := Option.map_eq_some_iff.1 hfinish
  obtain ⟨hfirst, hchain, hjoint⟩ := List.isChain_append.1 hchain
  obtain ⟨star, hlex, hstar⟩ := scan_lex_comment false hfirst nofun
  refine ⟨(p, .comment star), ?_, fun s hs hslash => ?_⟩
  · rw [advance, scan_cascade, hscan, Option.bind_some, hlex]
    rfl
  · have hstep : lex (.comment star) (.raw s) = some ([], .comment (s == .char '*')) :=
      hstar _ hslash
    rw [advance, cascade, unescape_of_settles hs, hlast, Option.map_some, Option.bind_some]
    -- What is left of an escape is nothing, or a backslash.
    cases p with
    | none =>
      obtain rfl := Option.some.inj hlast
      simp [scan, hstep]
    | backslash =>
      obtain rfl := Option.some.inj hlast
      have hbackslash : lex (.comment star) (.raw (.char '\\')) = some ([], .comment false) :=
        hstar _ (by decide)
      have hlater : lex (.comment false) (.raw s) = some ([], .comment (s == .char '*')) :=
        rfl
      simp [scan, hbackslash, hlater]
    | digits count value => cases hlast

end Java

end SuiteForge
