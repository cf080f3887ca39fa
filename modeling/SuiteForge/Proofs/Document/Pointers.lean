/-
# Where pointers lead

An access path leads from a node to one inside it, by a text to an entry of a mapping and by a
number to an item of a list. A pointer to its end is written with one part for each step.

| step | at | part of the pointer |
| --- | --- | --- |
| `a/b` | a mapping | `a~1b` |
| `~1` | a mapping | `~01` |
| the empty text | a mapping | nothing |
| 12 | a list | `12` |

Whatever is found stands at the end of a path that the parts of the pointer name
(`find_eq_ok_iff`), and the end of every path is found, unless the pointer begins with nothing and
its first slash is lost among others (`find_pointerTo`). A pointer to nothing is a fault of parsing,
except where it meets a list at digits that are not read (`find_contained_iff`).
-/

import SuiteForge.Document.Pointer
import SuiteForge.Proofs.Inline.Rule
import SuiteForge.Proofs.Text.Numerals
import SuiteForge.Proofs.Text.Pieces

namespace SuiteForge

/-! ## Parts of pointers -/

/-- A key as a part of a pointer: `~0` stands for `~` in it, and `~1` for `/`. -/
def escapePart (key : Text) : Text := key.flatMap fun s =>
  if s = .char '~' then Text.ofString "~0" else if s = .char '/' then Text.ofString "~1" else [s]

theorem escapePart_cons (s : Symbol) (key : Text) : escapePart (s :: key) =
    (if s = .char '~' then Text.ofString "~0" else if s = .char '/' then Text.ofString "~1"
      else [s]) ++ escapePart key := by
  rw [escapePart, List.flatMap_cons]
  rfl

theorem slash_not_mem_escapePart (key : Text) : .char '/' ∉ escapePart key := by
  intro h
  obtain ⟨s, -, hs⟩ := List.mem_flatMap.1 h
  split_ifs at hs with htilde hslash
  · exact absurd hs (by decide)
  · exact absurd hs (by decide)
  · exact hslash (List.mem_singleton.1 hs).symm

theorem escapePart_eq_nil_iff {key : Text} : escapePart key = [] ↔ key = [] := by
  refine ⟨fun h => ?_, by rintro rfl; rfl⟩
  cases key with
  | nil => rfl
  | cons s key =>
    rw [escapePart_cons, List.append_eq_nil_iff] at h
    split_ifs at h <;> cases h.1

/-- With the slashes put back, only the tildes of a key are still written as two symbols. -/
theorem replace_slash_escapePart (key : Text) : Text.replace "~1" "/" (escapePart key) =
    Text.replaceSymbol (.char '~') "~0" key := by
  induction key with
  | nil => exact replace_nil _ _
  | cons s key ih =>
    rw [escapePart_cons, Text.replaceSymbol, List.flatMap_cons]
    split_ifs with htilde hslash
    · -- a tilde is followed by a zero, so that it is not taken for a part of a slash
      show Text.replace [.char '~', .char '1'] _ (.char '~' :: .char '0' :: escapePart key) = _
      rw [replace_cons_of_unmatched _ (by simp [List.cons_prefix_cons]),
        replace_cons_of_ne (by decide)]
      exact congrArg (Text.ofString "~0" ++ ·) ih
    · rw [replace_pattern_append (by decide), hslash]
      exact congrArg (Text.ofString "/" ++ ·) ih
    · rw [List.singleton_append]
      exact (replace_cons_of_ne (Ne.symm htilde) _ _ _).trans (congrArg (s :: ·) ih)

/-- **A key is what its part of a pointer spells:** what stands for a slash is exchanged before what
stands for a tilde. -/
theorem unescapePart_escapePart (key : Text) : unescapePart (escapePart key) = key := by
  rw [unescapePart, replace_slash_escapePart]
  induction key with
  | nil => exact replace_nil _ _
  | cons s key ih =>
    rw [Text.replaceSymbol, List.flatMap_cons]
    split_ifs with htilde
    · rw [replace_pattern_append (by decide), htilde]
      exact congrArg (Text.ofString "~" ++ ·) ih
    · rw [List.singleton_append]
      exact (replace_cons_of_ne (Ne.symm htilde) _ _ _).trans (congrArg (s :: ·) ih)

/-- A step of an access path. -/
inductive Access where
  | key (name : Text)
  | index (i : ℕ)
  deriving DecidableEq

/-- A step as a text: the key itself, or the index in decimal. -/
def Access.spelling : Access → Text
  | key name => name
  | index i => Text.ofNat i

/-- The pointer of an access path. -/
def pointerTo (path : List Access) : Text :=
  Text.ofString "#/" ++ Text.join [.char '/'] (path.map fun a => escapePart a.spelling)

/-- What a part of a pointer names: the key that it is, and the number that its digits denote,
unless there are too many of them. -/
inductive Access.Named (part : Text) : Access → Prop
  | key : Named part (.key part)
  | index {i : ℕ} (value : part.decimal? = some i) (short : part.length ≤ maxDecimalDigits) :
      Named part (.index i)

/-- What is true of something that a part names is true of the key or of an index. -/
theorem Access.exists_named_iff {part : Text} {p : Access → Prop} :
    (∃ a, Named part a ∧ p a) ↔ p (.key part) ∨
      ∃ i, part.decimal? = some i ∧ part.length ≤ maxDecimalDigits ∧ p (.index i) := by
  constructor
  · rintro ⟨_, ⟨⟩ | ⟨value, short⟩, hp⟩
    · exact .inl hp
    · exact .inr ⟨_, value, short, hp⟩
  · rintro (hp | ⟨i, value, short, hp⟩)
    · exact ⟨_, .key, hp⟩
    · exact ⟨_, .index value short, hp⟩

namespace Document

variable {d : Document} {id j : ℕ} {ref part : Text} {parts : List Text} {path : List Access}

/-- The node inside a node to which a step leads. -/
def get? (d : Document) (id : ℕ) : Access → Option ℕ
  | .key name => match d.node id with
    | .map entries => Entries.find? (.text name) entries
    | _ => none
  | .index i => match d.node id with
    | .list items => items[i]?
    | _ => none

/-- The node to which an access path leads. -/
def follow? (d : Document) (id : ℕ) (path : List Access) : Option ℕ := path.foldlM d.get? id

/-- The parts of a pointer lead from one node to another. -/
def Leads (d : Document) (id : ℕ) (parts : List Text) (j : ℕ) : Prop :=
  ∃ path, List.Forall₂ Access.Named parts path ∧ d.follow? id path = some j

theorem follow?_cons {a : Access} :
    d.follow? id (a :: path) = some j ↔ ∃ k, d.get? id a = some k ∧ d.follow? k path = some j := by
  rw [follow?, List.foldlM_cons]
  exact Option.bind_eq_some_iff

theorem leads_nil : d.Leads id [] j ↔ j = id := by
  simp [Leads, follow?, eq_comm]

theorem leads_cons : d.Leads id (part :: parts) j ↔
    ∃ k, (∃ a, Access.Named part a ∧ d.get? id a = some k) ∧ d.Leads k parts j := by
  constructor
  · rintro ⟨_, hnamed, hfollow⟩
    obtain ⟨a, path, ha, hpath, rfl⟩ := List.forall₂_cons_left_iff.1 hnamed
    obtain ⟨k, hk, hfollow⟩ := follow?_cons.1 hfollow
    exact ⟨k, ⟨a, ha, hk⟩, path, hpath, hfollow⟩
  · rintro ⟨k, ⟨a, ha, hk⟩, path, hpath, hfollow⟩
    exact ⟨a :: path, .cons ha hpath, follow?_cons.2 ⟨k, hk, hfollow⟩⟩

/-! ## One part -/

/-- **A part is found** if it names a step that leads somewhere. -/
theorem child_eq_ok_iff :
    d.child ref id part = .ok j ↔ ∃ a, Access.Named part a ∧ d.get? id a = some j := by
  rw [Access.exists_named_iff, child]
  cases hnode : d.node id with
  | map entries =>
    simp only [get?, hnode, reduceCtorEq, and_false, exists_false, or_false]
    cases Entries.find? (.text part) entries <;> simp
  | list items =>
    simp only [get?, hnode, reduceCtorEq, false_or]
    split
    · next hdigits =>
      cases hresult : Numeral.read 10 part with
      | error f =>
        refine iff_of_false nofun ?_
        rintro ⟨i, value, short, -⟩
        cases hresult.symm.trans ((Numeral.read_eq_ok_iff hdigits).2 ⟨i, value, short, rfl⟩)
      | ok i =>
        obtain ⟨n, value, short, rfl⟩ := (Numeral.read_eq_ok_iff hdigits).1 hresult
        simp only [value, short, Int.toNat_natCast, Option.some.injEq, true_and, exists_eq_left']
        cases items[n]? <;> simp
    · next hdigits =>
      refine iff_of_false nofun ?_
      rintro ⟨i, value, -, -⟩
      exact hdigits (isDigits_of_decimal? value)
  | scalar _ | tuple _ | set _ => simp [get?, hnode]

/-- **A part is not read** if it consists of digits that are not, and meets a list. -/
theorem exists_child_eq_stray_iff : (∃ s, d.child ref id part = .error (.stray s)) ↔
    (∃ items, d.node id = .list items) ∧ Unreadable part := by
  rw [child]
  cases hnode : d.node id with
  | map entries =>
    dsimp only
    cases Entries.find? (.text part) entries <;> simp
  | list items =>
    simp only [Node.list.injEq, exists_eq', true_and]
    split
    · next hdigits =>
      rw [← exists_read_eq_error_iff hdigits]
      cases Numeral.read 10 part with
      | error f => simp
      | ok i =>
        dsimp only
        cases items[i.toNat]? <;> simp
    · next hdigits => exact iff_of_false nofun fun h => hdigits h.digits
  | scalar _ | tuple _ | set _ => simp

/-! ## All parts -/

theorem foldlM_child_eq_ok_iff :
    parts.foldlM (d.child ref) id = .ok j ↔ d.Leads id parts j := by
  induction parts generalizing id with
  | nil =>
    rw [leads_nil, List.foldlM_nil, eq_comm (a := j)]
    exact Except.ok.injEq id j ▸ Iff.rfl
  | cons part parts ih =>
    rw [List.foldlM_cons, bind_eq_ok, leads_cons]
    simp only [child_eq_ok_iff, ih]

/-- The parts of a pointer lead to a list at digits that are not read. -/
def Jams (d : Document) (id : ℕ) (parts : List Text) : Prop :=
  ∃ before part after k items, parts = before ++ part :: after ∧ d.Leads id before k ∧
    d.node k = .list items ∧ Unreadable part

theorem not_jams_nil : ¬d.Jams id [] := by
  rintro ⟨before, part, after, -, -, h, -⟩
  simp at h

theorem jams_cons : d.Jams id (part :: parts) ↔
    ((∃ items, d.node id = .list items) ∧ Unreadable part) ∨
      ∃ k, (∃ a, Access.Named part a ∧ d.get? id a = some k) ∧ d.Jams k parts := by
  constructor
  · rintro ⟨before, digits, after, k, items, heq, hleads, hnode, hunread⟩
    cases before with
    | nil =>
      obtain ⟨rfl, rfl⟩ := List.cons.inj heq
      obtain rfl := leads_nil.1 hleads
      exact .inl ⟨⟨items, hnode⟩, hunread⟩
    | cons first before =>
      obtain ⟨rfl, rfl⟩ := List.cons.inj heq
      obtain ⟨i, hstep, hleads⟩ := leads_cons.1 hleads
      exact .inr ⟨i, hstep, before, digits, after, k, items, rfl, hleads, hnode, hunread⟩
  · rintro (⟨⟨items, hnode⟩, hunread⟩ | ⟨i, hstep, before, digits, after, k, items, rfl, hleads,
      hnode, hunread⟩)
    · exact ⟨[], part, parts, id, items, rfl, leads_nil.2 rfl, hnode, hunread⟩
    · exact ⟨part :: before, digits, after, k, items, rfl, leads_cons.2 ⟨i, hstep, hleads⟩, hnode,
        hunread⟩

theorem exists_foldlM_child_eq_stray_iff :
    (∃ s, parts.foldlM (d.child ref) id = .error (.stray s)) ↔ d.Jams id parts := by
  induction parts generalizing id with
  | nil => exact iff_of_false nofun not_jams_nil
  | cons part parts ih =>
    have hchild (k : ℕ) : (∃ a, Access.Named part a ∧ d.get? id a = some k) ↔
        d.child ref id part = .ok k := child_eq_ok_iff.symm
    simp only [List.foldlM_cons, bind_eq_error, exists_or, jams_cons, exists_child_eq_stray_iff,
      hchild, ← ih]
    refine or_congr_right ⟨?_, ?_⟩
    · rintro ⟨s, k, hk, h⟩
      exact ⟨k, hk, s, h⟩
    · rintro ⟨k, hk, s, h⟩
      exact ⟨s, k, hk, h⟩

/-! ## Pointers -/

theorem pointerParts?_eq_none_iff : pointerParts? ref = none ↔ ref.head? ≠ some (.char '#') := by
  unfold pointerParts?
  split
  · simp only [List.head?_cons, ne_eq, not_true_eq_false, iff_false]
    split <;> simp
  · next h =>
    refine iff_of_true rfl fun hhead => ?_
    obtain ⟨rest, rfl⟩ := List.head?_eq_some_iff.1 hhead
    exact h rest rfl

/-- **What a pointer finds** stands at the end of a path that its parts name. -/
theorem find_eq_ok_iff : d.find ref = .ok j ↔
    ∃ parts, pointerParts? ref = some parts ∧ d.Leads d.root parts j := by
  rw [find]
  cases pointerParts? ref with
  | none => simp
  | some parts => simp [foldlM_child_eq_ok_iff]

theorem exists_find_eq_stray_iff : (∃ s, d.find ref = .error (.stray s)) ↔
    ∃ parts, pointerParts? ref = some parts ∧ d.Jams d.root parts := by
  rw [find]
  cases pointerParts? ref with
  | none => simp
  | some parts => simp [exists_foldlM_child_eq_stray_iff]

theorem find_failsOnly_parse_or_stray (hpointer : pointerParts? ref ≠ none) :
    FailsOnly (fun f => f = .parse (.danglingReference ref) ∨ ∃ g, f = .stray (.numeral g))
      (d.find ref) := by
  obtain ⟨parts, hparts⟩ := Option.ne_none_iff_exists'.1 hpointer
  rw [find, hparts]
  exact foldlM_child_failsOnly_of
    (fun _ _ => child_failsOnly_of (.inl rfl) fun f _ _ => .inr ⟨f, rfl⟩) d.root

/-- **How a pointer ends.** It finds a node or is at fault itself just when it meets no list at
digits that are not read. What it finds is the document, or a node inside it to which its parts
lead. It is an external reference just when it does not begin with a number sign; any other fault
of it is that it dangles, or the one of such digits. -/
theorem find_contained_iff (d : Document) (ref : Text) :
    (((∃ j, d.find ref = .ok j) ∨ ∃ f, d.find ref = .error (.parse f)) ↔
      ¬∃ parts, pointerParts? ref = some parts ∧ d.Jams d.root parts) ∧
    (∀ j, d.find ref = .ok j ↔ ∃ parts, pointerParts? ref = some parts ∧ d.Leads d.root parts j) ∧
    (d.find ref = .error (.parse (.externalReference ref)) ↔ ref.head? ≠ some (.char '#')) ∧
    ∀ f, d.find ref = .error f → f = .parse (.externalReference ref) ∨
      f = .parse (.danglingReference ref) ∨ ∃ g, f = .stray (.numeral g) := by
  have hfails : FailsOnly (fun f => f = .parse (.externalReference ref) ∨
      f = .parse (.danglingReference ref) ∨ ∃ g, f = .stray (.numeral g)) (d.find ref) :=
    find_failsOnly_of (.inl rfl) fun _ _ _ _ id =>
      child_failsOnly_of (.inr (.inl rfl)) (fun f _ _ => .inr (.inr ⟨f, rfl⟩)) id
  refine ⟨?_, fun j => find_eq_ok_iff, ?_, hfails⟩
  · rw [← exists_find_eq_stray_iff]
    cases hresult : d.find ref with
    | ok j => simp
    | error f => rcases hfails f hresult with rfl | rfl | ⟨g, rfl⟩ <;> simp
  · rw [← pointerParts?_eq_none_iff]
    constructor
    · intro hexternal
      by_contra hpointer
      rcases find_failsOnly_parse_or_stray hpointer _ hexternal with h | ⟨g, h⟩ <;> cases h
    · intro hnone
      rw [find, hnone]

/-! ## Paths -/

/-- **Keys that are written as parts, with slashes between them, are the parts of the pointer.** An
empty key in front would be lost. -/
theorem pointerParts?_join {keys : List Text} (first : keys.head? ≠ some []) :
    pointerParts? (Text.ofString "#/" ++ Text.join [.char '/'] (keys.map escapePart)) =
      some keys := by
  cases keys with
  | nil => rfl
  | cons key keys =>
    have hkey : key ≠ [] := fun h => first (congrArg some h)
    obtain ⟨s, rest, hpart⟩ := List.exists_cons_of_ne_nil (mt escapePart_eq_nil_iff.1 hkey)
    have hslash : s ≠ .char '/' := by
      rintro rfl
      exact slash_not_mem_escapePart key (hpart ▸ List.mem_cons_self)
    set joined := Text.join [.char '/'] ((key :: keys).map escapePart) with hjoined
    obtain ⟨more, hmore⟩ : ∃ more, joined = s :: more := by
      obtain ⟨more, hmore⟩ := exists_join_cons [.char '/'] (escapePart key) (keys.map escapePart)
      exact ⟨rest ++ more, by rw [hjoined, List.map_cons, hmore, hpart, List.cons_append]⟩
    have hlead : Text.dropLeading (· == .char '/') (.char '/' :: joined) = joined := by
      rw [hmore, Text.dropLeading, List.dropWhile_cons_of_pos (by simp),
        List.dropWhile_cons_of_neg (by simpa using hslash)]
    have hsplit : Text.splitOn (.char '/') joined = (key :: keys).map escapePart :=
      splitOn_join (by simp) (by simp [slash_not_mem_escapePart])
    have hunescape : ((key :: keys).map escapePart).map unescapePart = key :: keys := by
      rw [List.map_map]
      exact List.map_id'' unescapePart_escapePart _
    have hempty : joined.isEmpty = false := by rw [hmore]; rfl
    show (if (Text.dropLeading (· == .char '/') (.char '/' :: joined)).isEmpty then some [] else
      some ((Text.splitOn (.char '/') (Text.dropLeading (· == .char '/') (.char '/' :: joined))).map
        unescapePart)) = _
    rw [hlead, hempty, if_neg Bool.false_ne_true, hsplit, hunescape]

/-- Every list is so short that its indices are read: they have at most `maxDecimalDigits` digits.
No list that fits into a memory is longer. -/
def Indexable (d : Document) : Prop :=
  ∀ id items, d.node id = .list items → items.length ≤ 10 ^ maxDecimalDigits

/-- A step that leads somewhere is named by its spelling. -/
theorem named_spelling (indexable : d.Indexable) {a : Access} (h : d.get? id a = some j) :
    a.Named a.spelling := by
  cases a with
  | key name => exact .key
  | index i =>
    cases hnode : d.node id with
    | list items =>
      simp only [get?, hnode] at h
      obtain ⟨hlt, -⟩ := List.getElem?_eq_some_iff.1 h
      exact .index (decimal?_ofNat i) ((length_ofNat_le_iff (by decide)).2
        (hlt.trans_le (indexable id items hnode)))
    | scalar _ | map _ | tuple _ | set _ => simp [get?, hnode] at h

theorem leads_spelling (indexable : d.Indexable) (h : d.follow? id path = some j) :
    d.Leads id (path.map Access.spelling) j := by
  induction path generalizing id with
  | nil => exact ⟨[], .nil, h⟩
  | cons a path ih =>
    obtain ⟨k, hk, hpath⟩ := follow?_cons.1 h
    exact leads_cons.2 ⟨k, ⟨a, named_spelling indexable hk, hk⟩, ih hpath⟩

/-- **Every node inside a document has a pointer to it:** the one that is written for the path to
it, whatever symbols its keys are made of, as long as it does not begin with the empty text. -/
theorem find_pointerTo (indexable : d.Indexable) (first : path.head? ≠ some (.key []))
    (h : d.follow? d.root path = some j) : d.find (pointerTo path) = .ok j := by
  have hfirst : (path.map Access.spelling).head? ≠ some [] := by
    rw [List.head?_map]
    intro hempty
    obtain ⟨a, ha, hspelling⟩ := Option.map_eq_some_iff.1 hempty
    cases a with
    | key name => exact first (ha.trans (congrArg (fun n => some (Access.key n)) hspelling))
    | index i => exact ofNat_ne_nil i hspelling
  have hparts := pointerParts?_join hfirst
  rw [List.map_map] at hparts
  exact find_eq_ok_iff.2 ⟨_, hparts, leads_spelling indexable h⟩

/-- A document whose keys hold what stands for something else in a pointer. -/
def keysDocument : Document where
  nodes := #[.scalar (.text "end"), .map [(.text "", 0)], .map [(.text "~01", 1), (.text "~1", 0)],
    .list [0, 2], .map [(.text "a/b", 3), (.text "a", 0)]]
  root := 4

theorem find_pointerTo_keysDocument :
    keysDocument.Indexable ∧ keysDocument.find "#/a~1b/1/~001/" = .ok 0 := by
  have hindexable : keysDocument.Indexable := by
    intro id items hnode
    have hlist : items.length ≤ 2 := by
      have hid : id < 5 := lt_size_of_node (d := keysDocument) (by simp [hnode])
      interval_cases id <;> cases hnode
      decide
    calc items.length ≤ 2 := hlist
      _ ≤ 10 := by decide
      _ ≤ 10 ^ maxDecimalDigits := Nat.le_self_pow (by decide) 10
  have hpath : keysDocument.follow? keysDocument.root
      [.key "a/b", .index 1, .key "~01", .key ""] = some 0 := by decide +kernel
  have hpointer : pointerTo [.key "a/b", .index 1, .key "~01", .key ""] =
      Text.ofString "#/a~1b/1/~001/" := by decide +kernel
  exact ⟨hindexable, hpointer ▸ find_pointerTo hindexable (by decide +kernel) hpath⟩

/-- A document with an empty list in it. -/
def emptyListDocument : Document where
  nodes := #[.list [], .map [(.text "x", 0)]]
  root := 1

/-- **Not every pointer finds a node or is at fault itself.** -/
theorem find_not_contained :
    emptyListDocument.find "#/x/\u00b2" = .error (.stray (.numeral (.malformed 10 "\u00b2"))) ∧
      (∃ s, emptyListDocument.find (pointerTo [.key "x", .index (10 ^ maxDecimalDigits)]) =
        .error (.stray s)) ∧
      ¬∀ (d : Document) ref, (∃ j, d.find ref = .ok j) ∨ ∃ f, d.find ref = .error (.parse f) := by
  have hdigit : emptyListDocument.find "#/x/\u00b2" =
      .error (.stray (.numeral (.malformed 10 "\u00b2"))) := by decide +kernel
  refine ⟨hdigit, exists_find_eq_stray_iff.2 ?_, fun h => ?_⟩
  · have hparts : pointerParts? (pointerTo [.key "x", .index (10 ^ maxDecimalDigits)]) =
        some [Text.ofString "x", Text.ofNat (10 ^ maxDecimalDigits)] :=
      @pointerParts?_join [Text.ofString "x", Text.ofNat (10 ^ maxDecimalDigits)]
        (by simp [Text.ofString])
    have hlong : maxDecimalDigits < (Text.ofNat (10 ^ maxDecimalDigits)).length :=
      Nat.not_le.1 fun hshort => absurd ((length_ofNat_le_iff (by decide)).1 hshort) (lt_irrefl _)
    refine ⟨_, hparts, [Text.ofString "x"], _, [], 0, [], rfl, ?_, rfl, ?_, .inr hlong⟩
    · exact leads_cons.2 ⟨0, ⟨.key "x", .key, by decide +kernel⟩, leads_nil.2 rfl⟩
    · exact isDigits_of_decimal? (decimal?_ofNat _)
  · rcases h emptyListDocument "#/x/\u00b2" with ⟨j, hj⟩ | ⟨f, hf⟩
    · cases hdigit.symm.trans hj
    · cases hdigit.symm.trans hf

end Document

end SuiteForge
