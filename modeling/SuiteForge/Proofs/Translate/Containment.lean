/-
# How a translation ends without a contract

A translation that yields no contract has a fault of parsing, except where a value gets
through that no stage guards against (`Escape`):

| stage | what gets through |
| --- | --- |
| loading | a scalar whose content its type does not admit |
| dialect | a version with an integer that is not written, or that goes too deep |
| references | an index that is no decimal numeral, or too long a one |
| document | a root that is a reference to something else than a mapping |
| translation | a text with an integer that is not written, or that goes too deep |

Nothing else gets through, and a document with none of these (`Document.Tame`) is
translated or has a fault of parsing.
-/

import SuiteForge.Proofs.Inline.Faults
import SuiteForge.Proofs.Inline.Nesting
import SuiteForge.Proofs.Translate.Faults

namespace SuiteForge

theorem read_failsOnly (text : List Char) :
    FailsOnly (fun f => (∃ p, f = .parse p) ∨ ∃ g, (Text.ofChars text).isBlank = false ∧
      Yaml.load text = .error (.value g) ∧ f = .stray (.value g)) (Document.read text) := by
  unfold Document.read
  split
  · exact failsOnly_error (.inl ⟨_, rfl⟩)
  · next hblank =>
    split
    · next g hload =>
      refine failsOnly_error ?_
      cases g with
      | malformed problem => exact .inl ⟨_, rfl⟩
      | tooDeep => exact .inl ⟨_, rfl⟩
      | value g => exact .inr ⟨g, by simpa using hblank, hload, rfl⟩
    · exact failsOnly_error (.inl ⟨_, rfl⟩)
    · split
      · exact failsOnly_ok _
      · exact failsOnly_error (.inl ⟨_, rfl⟩)

theorem Value.Untold.ne_parse {room : Nat} {v : Value} {f : Fault} (h : v.Untold room f)
    (p : ParseFault) : f ≠ .parse p := by
  cases h <;> nofun

section Machine

variable [Machine]

theorem ensureOpenApi3_failsOnly (d : Document) :
    FailsOnly (fun f => (∃ p, f = .parse p) ∨
      ∃ v, d.entry? "openapi" = some v ∧ v.Untold (Machine.room 3) f)
      (Dialect.ensureOpenApi3 d 1) := by
  unfold Dialect.ensureOpenApi3 Dialect.of
  refine FailsOnly.bind ?_ fun dialect _ => ?_
  · refine (textOf_meets fun v hv f hf => .inr ⟨v, hv, hf⟩).fails.bind fun version _ => ?_
    split
    · exact failsOnly_ok _
    · split <;> exact failsOnly_ok _
  · split
    · exact failsOnly_ok _
    · exact failsOnly_error (.inl ⟨_, rfl⟩)
    · exact failsOnly_error (.inl ⟨_, rfl⟩)

/-- What gets through a translation: the fault of a text whose contract is asked for, and where it
comes from. -/
inductive Escape (trace : TraceId) (url : Text) (text : List Char) : Fault → Prop
  | content {f : Yaml.ValueFault} (filled : (Text.ofChars text).isBlank = false)
      (load : Yaml.load text = .error (.value f)) : Escape trace url text (.stray (.value f))
  | version {d : Document} {v : Value} {f : Fault} (read : Document.read text = .ok d)
      (entry : d.entry? "openapi" = some v) (untold : v.Untold (Machine.room 3) f) :
      Escape trace url text f
  | index {d : Document} {k id : Nat} {entries : Entries Nat} {ref : Text} {f : NumeralFault}
      (read : Document.read text = .ok d) (dialect : Dialect.ensureOpenApi3 d 1 = .ok ())
      (visits : d.Visits k id) (node : d.node id = .map entries)
      (names : d.reference? entries = some ref)
      (found : d.find ref = .error (.stray (.numeral f)))
      (first : d.inline.result = .error (.stray (.numeral f))) :
      Escape trace url text (.stray (.numeral f))
  | root {d : Document} {tree : Value} (read : Document.read text = .ok d)
      (dialect : Dialect.ensureOpenApi3 d 1 = .ok ()) (inline : d.inline.result = .ok tree)
      (leaf : tree.isMap = false) : Escape trace url text (.stray (.rootKind tree.kindName))
  | text {d : Document} {tree : Value} {f : Fault} (read : Document.read text = .ok d)
      (dialect : Dialect.ensureOpenApi3 d 1 = .ok ()) (inline : d.inline.result = .ok tree)
      (untold : tree.Untold Machine.floor f)
      (first : (translateTree trace url tree).result = .error f) : Escape trace url text f

theorem translate_result (trace : TraceId) (url : Text) (text : List Char) :
    (translate trace url text).result = (do
      let d ← Document.read text
      Dialect.ensureOpenApi3 d 1
      let tree ← d.inline.result
      (translateTree trace url tree).result) := by
  simp only [translate, Logged.result_bind, Logged.result_ofExcept]
  rfl

/-- Every fault of a translation is one of parsing or gets through. -/
theorem translate_failsOnly (trace : TraceId) (url : Text) (text : List Char) :
    FailsOnly (fun f => (∃ p, f = .parse p) ∨ Escape trace url text f)
      (translate trace url text).result := by
  rw [translate_result]
  refine ((read_failsOnly text).mono ?_).bind fun d hread => ?_
  · rintro f (hf | ⟨g, hfilled, hload, rfl⟩)
    · exact .inl hf
    · exact .inr (.content hfilled hload)
  refine ((ensureOpenApi3_failsOnly d).mono ?_).bind fun _ hdialect => ?_
  · rintro f (hf | ⟨v, hv, hw⟩)
    · exact .inl hf
    · exact .inr (.version hread hv hw)
  refine FailsOnly.bind (fun f hf => ?_) fun tree htree f hf => ?_
  · cases Document.inline_failsOnly d f hf with
    | parse p => exact .inl ⟨p, rfl⟩
    | index visits node names found =>
      exact .inr (.index hread hdialect visits node names found hf)
  · cases hmap : tree.isMap with
    | false =>
      obtain rfl := Except.error.inj ((translateTree_of_not_map hmap).symm.trans hf)
      exact .inr (.root hread hdialect htree hmap)
    | true =>
      cases (translateTree_meets hmap fun _ => id).fails f hf with
      | structural _ => exact .inl ⟨_, rfl⟩
      | number h => exact .inr (.text hread hdialect htree h hf)
      | depth h => exact .inr (.text hread hdialect htree h hf)

/-- What gets through ends the translation, and not with a fault of parsing. -/
theorem Escape.result {trace : TraceId} {url : Text} {text : List Char} {f : Fault}
    (h : Escape trace url text f) :
    ∃ g, (translate trace url text).result = .error g ∧ ∀ p, g ≠ .parse p := by
  rw [translate_result]
  cases h with
  | @content f filled load =>
    exact ⟨.stray (.value f), by simp [Document.read, filled, load, Fault.ofYaml], nofun⟩
  | @version d v f read entry untold =>
    have hmeets : Meets (fun g => ∃ w, d.entry? "openapi" = some w ∧ w.Untold (Machine.room 3) g)
        _ (textOf (d.entry? "openapi") 2) := textOf_meets fun w hw g hg => ⟨w, hw, hg⟩
    cases hversion : textOf (d.entry? "openapi") 2 with
    | ok t => exact absurd ⟨f, untold⟩ ((hmeets.gives t hversion).2 v entry)
    | error g =>
      obtain ⟨w, -, hw⟩ := hmeets.fails g hversion
      refine ⟨g, ?_, hw.ne_parse⟩
      simp [read, Dialect.ensureOpenApi3, Dialect.of, hversion]
  | @index d k id entries ref f read dialect _ _ _ _ first =>
    exact ⟨.stray (.numeral f), by simp [read, dialect, first], nofun⟩
  | @root d tree read dialect inline leaf =>
    refine ⟨.stray (.rootKind tree.kindName), ?_, nofun⟩
    simp [read, dialect, inline, translateTree_of_not_map leaf]
  | text read dialect inline untold first =>
    exact ⟨f, by simp [read, dialect, inline, first], untold.ne_parse⟩

/-- The outcome of a translation is a contract or a fault of parsing. -/
def Contained (result : Except Fault Contract) : Prop :=
  (∃ c, result = .ok c) ∨ ∃ f, result = .error (.parse f)

/-- A document from which nothing gets through: its integers are written, its version goes no deeper
than there is room for, and so does its tree once references are followed; the indices of its
references are read, and its root is a mapping once references are followed. -/
structure Document.Tame (d : Document) : Prop where
  integers : ∀ id n, (d.node id).Holds n → ¬ Oversized n
  version : ∀ v, d.entry? "openapi" = some v → ¬ v.Overdeep (Machine.room 3)
  tree : ∀ tree, d.inline.result = .ok tree → ¬ tree.Overdeep Machine.floor
  indices : ∀ k id entries ref parts part, d.Visits k id → d.node id = .map entries →
    d.reference? entries = some ref → pointerParts? ref = some parts → part ∈ parts →
    part.isDigits = true → ∃ i, Numeral.read 10 part = .ok i
  root : ∀ last n, d.Becomes d.root last n → ∃ entries, n = .map entries

namespace Document

omit [Machine] in
/-- What holds of all nodes that a document has, and of null, holds of the node with any number. -/
theorem forall_node {d : Document} {P : Node → Prop} (null : P (.scalar .null))
    (all : ∀ n ∈ d.nodes.toList, P n) (id : Nat) : P (d.node id) := by
  unfold node
  cases h : d.nodes[id]? with
  | none => exact null
  | some n => exact all n (Array.mem_toList_iff.2 (Array.mem_of_getElem? h))

namespace Tame

variable {d : Document}

theorem not_holdsLarge_value (h : d.Tame) (id : Nat) : ¬ (d.value id).HoldsLarge := by
  rintro ⟨n, hn, hlarge⟩
  obtain ⟨j, hj⟩ := exists_node_holds_of_unfold hn
  exact h.integers j n hj hlarge

theorem find_ne_stray (h : d.Tame) {k id : Nat} {entries : Entries Nat} {ref : Text} {s : Stray}
    (visits : d.Visits k id) (node : d.node id = .map entries)
    (names : d.reference? entries = some ref) : d.find ref ≠ .error (.stray s) := by
  intro found
  cases find_failsOnly d ref _ found with
  | index split mem digits read =>
    obtain ⟨i, hi⟩ := h.indices k id entries ref _ _ visits node names split mem digits
    cases hi.symm.trans read

end Tame

omit [Machine] in
theorem exists_value_of_entry? {d : Document} {key : Text} {v : Value}
    (h : d.entry? key = some v) : ∃ id, v = d.value id := by
  unfold entry? at h
  split at h
  · obtain ⟨id, -, hid⟩ := Option.map_eq_some_iff.1 h
    exact ⟨id, hid.symm⟩
  · cases h

end Document

theorem not_escape_of_tame {trace : TraceId} {url : Text} {text : List Char} {f : Fault}
    (loads : ∀ f, Yaml.load text ≠ .error (.value f))
    (tame : ∀ d, Document.read text = .ok d → d.Tame) : ¬ Escape trace url text f := by
  intro h
  cases h with
  | content _ load => exact loads _ load
  | version read entry untold =>
    cases untold with
    | number large =>
      obtain ⟨id, rfl⟩ := Document.exists_value_of_entry? entry
      exact (tame _ read).not_holdsLarge_value id large
    | depth deep => exact (tame _ read).version _ entry deep
  | index read _ visits node names found _ =>
    exact (tame _ read).find_ne_stray visits node names found
  | root read _ inline leaf =>
    obtain ⟨size, hplain⟩ := Document.inlines_of_inline inline
    obtain ⟨last, n, hbecomes, hvalue, -⟩ := hplain.filled
    obtain ⟨entries, rfl⟩ := (tame _ read).root last n hbecomes
    simp only [Document.Node.filled] at hvalue
    simp [hvalue, Value.isMap] at leaf
  | text read _ inline untold _ =>
    cases untold with
    | number large =>
      obtain ⟨size, hplain⟩ := Document.inlines_of_inline inline
      obtain ⟨n, hn, hlarge⟩ := large
      obtain ⟨j, hj⟩ := hplain.exists_node_holds hn
      exact (tame _ read).integers j n hj hlarge
    | depth deep => exact (tame _ read).tree _ inline deep

/-- **What a translation ends with.** It is a contract or a fault of parsing just when nothing gets
through, and any other fault is one that gets through. Nothing does for a text that is loaded, if at
all, as a document with written integers and readable indices that goes no deeper than there is room
for and whose root is a mapping. -/
theorem translate_contained_iff (trace : TraceId) (url : Text) (text : List Char) :
    (Contained (translate trace url text).result ↔ ∀ f, ¬ Escape trace url text f) ∧
    (∀ f, (translate trace url text).result = .error f →
      (∃ p, f = .parse p) ∨ Escape trace url text f) ∧
    ((∀ f, Yaml.load text ≠ .error (.value f)) →
      (∀ d, Document.read text = .ok d → d.Tame) →
      Contained (translate trace url text).result) := by
  have hiff : Contained (translate trace url text).result ↔ ∀ f, ¬ Escape trace url text f := by
    constructor
    · rintro (⟨c, hc⟩ | ⟨p, hp⟩) f hf
      · obtain ⟨g, hg, -⟩ := hf.result
        cases hg.symm.trans hc
      · obtain ⟨g, hg, hparse⟩ := hf.result
        exact hparse p (Except.error.inj (hg.symm.trans hp))
    · intro h
      cases hres : (translate trace url text).result with
      | ok c => exact .inl ⟨c, rfl⟩
      | error f =>
        rcases translate_failsOnly trace url text f hres with ⟨p, rfl⟩ | hf
        · exact .inr ⟨p, rfl⟩
        · exact absurd hf (h f)
  exact ⟨hiff, translate_failsOnly trace url text,
    fun loads tame => hiff.2 fun f => not_escape_of_tame loads tame⟩

end Machine

/-- A list, and a reference to its item. -/
def itemText : List Char := "openapi: 3.0.0\nx: [1]\ny:\n $ref: \"#/x/0\"\n".toList

/-- The document of `itemText`. -/
def itemDocument : Document :=
  ⟨#[.map [(.text "openapi", 2), (.text "x", 4), (.text "y", 6)], .scalar (.text "openapi"),
    .scalar (.text "3.0.0"), .scalar (.text "x"), .list [7], .scalar (.text "y"),
    .map [(.text "$ref", 9)], .scalar (.int 1), .scalar (.text "$ref"),
    .scalar (.text "#/x/0")], 0⟩

theorem itemDocument_tame : itemDocument.Tame := by
  have hroot : itemDocument.referenceAt? itemDocument.root = none := by cbv
  have hres : itemDocument.inline.result = .ok (.map [(.text "openapi", .scalar (.text "3.0.0")),
      (.text "x", .list [.scalar (.int 1)]), (.text "y", .scalar (.int 1))]) := by cbv
  have hparts : Document.pointerParts? "#/x/0" = some [Text.ofString "x", Text.ofString "0"] := by
    cbv
  have hints := Document.forall_node (d := itemDocument) (P := fun n => ∀ m, n.Holds m → m = 1)
    (by simp) (by simp [itemDocument])
  have hrefs : ∀ id < 10, ∀ ref ∈ itemDocument.referenceAt? id, ref = Text.ofString "#/x/0" := by
    decide +kernel
  refine ⟨fun id n h => ?_, fun v hv => ?_, fun tree htree => ?_, ?_, fun last n h => ?_⟩
  · exact hints id n h ▸ not_oversized (by decide)
  · obtain rfl : Value.scalar (.text "3.0.0") = v :=
      Option.some.inj ((by cbv : _ = _).symm.trans hv)
    exact id
  · obtain rfl := Except.ok.inj (hres.symm.trans htree)
    exact Value.not_overdeep (by decide +kernel)
  · intro k id entries ref parts part _ node names split mem digits
    have hid : id < 10 := Document.lt_size_of_node (d := itemDocument) (by simp [node])
    obtain rfl := hrefs id hid ref ((Document.referenceAt?_of_map node).trans names)
    obtain rfl := Option.some.inj (hparts.symm.trans split)
    simp only [List.mem_cons, List.not_mem_nil, or_false] at mem
    rcases mem with rfl | rfl
    · cases digits
    · exact ⟨0, by decide +kernel⟩
  · cases h with
    | self => exact ⟨_, rfl⟩
    | target node names =>
      cases hroot.symm.trans ((Document.referenceAt?_of_map node).trans names)

/-- A text of such a document is translated, or has a fault of parsing. -/
theorem translate_contained_itemText :
    Document.read itemText = .ok itemDocument ∧ itemDocument.Tame ∧
      Contained (translate "trace" defaultBaseUrl itemText).result := by
  have hread : Document.read itemText = .ok itemDocument := by decide +kernel
  refine ⟨hread, itemDocument_tame,
    (translate_contained_iff "trace" defaultBaseUrl itemText).2.2 (fun f hload => ?_)
    fun d hd => Except.ok.inj (hread.symm.trans hd) ▸ itemDocument_tame⟩
  rw [Document.read, hload, if_neg (by decide +kernel)] at hread
  cases hread

/-- A root that is a reference to null. -/
def rootReferenceText : List Char := "$ref: \"#/x\"\nopenapi: 3.0.0\nx:\n".toList

/-- A reference into a list by a superscript digit. -/
def indexText : List Char := "openapi: 3.0.0\nx: []\ny:\n $ref: \"#/x/\u00b2\"\n".toList

/-- A date in a thirteenth month. -/
def dateText : List Char := "openapi: 3.0.0\nx: 2020-13-45\n".toList

/-- **Not every translation ends with a contract or a fault of parsing.** -/
theorem translate_not_contained :
    (translate "trace" defaultBaseUrl rootReferenceText).result =
        .error (.stray (.rootKind "NoneType")) ∧
      (translate "trace" defaultBaseUrl indexText).result =
        .error (.stray (.numeral (.malformed 10 "\u00b2"))) ∧
      (translate "trace" defaultBaseUrl dateText).result =
        .error (.stray (.value (.calendar .month))) ∧
      ¬ ∀ text, Contained (translate "trace" defaultBaseUrl text).result := by
  have hroot : (translate "trace" defaultBaseUrl rootReferenceText).result =
      .error (.stray (.rootKind "NoneType")) :=
    map_eq_error (f := fun _ => ()).1 (by decide +kernel)
  have hindex : (translate "trace" defaultBaseUrl indexText).result =
      .error (.stray (.numeral (.malformed 10 "\u00b2"))) :=
    map_eq_error (f := fun _ => ()).1 (by decide +kernel)
  have hdate : (translate "trace" defaultBaseUrl dateText).result =
      .error (.stray (.value (.calendar .month))) :=
    map_eq_error (f := fun _ => ()).1 (by decide +kernel)
  refine ⟨hroot, hindex, hdate, fun h => ?_⟩
  rcases h rootReferenceText with ⟨c, hc⟩ | ⟨f, hf⟩
  · cases hroot.symm.trans hc
  · cases hroot.symm.trans hf

end SuiteForge
