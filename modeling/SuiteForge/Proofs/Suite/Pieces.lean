/-
# Templates that find all their data

A template names the data that it wants. Which names have data, and what data, is told by
kinds: a template that fits a table of kinds (`piecesFit`) is rendered with all data of
these kinds (`renderPieces_ok`), so it never meets a name without data. Each template of a
suite fits the kinds of its context (`Context.renders`).

What is rendered is the texts of the pieces one after the other (`renderPieces_eq_ok`).
-/

import SuiteForge.Proofs.Outcome
import SuiteForge.Suite.Plan

namespace SuiteForge

/-! ## Kinds -/

/-- What is known of a datum: nothing, the kind of the items of a list, or the kinds of the fields
of a record. -/
inductive DataKind where
  | any
  | list (item : DataKind)
  | record (fields : List (Text × DataKind))

mutual

/-- A datum is of a kind. -/
inductive HasKind : Datum → DataKind → Prop
  | any (d : Datum) : HasKind d .any
  | list {items : List Datum} {k : DataKind} (each : ∀ d ∈ items, HasKind d k) :
      HasKind (.list items) (.list k)
  | record {fields : List (Text × Datum)} {kinds : List (Text × DataKind)}
      (h : HasKinds fields kinds) : HasKind (.record fields) (.record kinds)

/-- Named data are of the kinds of their names. -/
inductive HasKinds : List (Text × Datum) → List (Text × DataKind) → Prop
  | nil : HasKinds [] []
  | cons {name : Text} {d : Datum} {k : DataKind} {data : List (Text × Datum)}
      {kinds : List (Text × DataKind)} (first : HasKind d k) (rest : HasKinds data kinds) :
      HasKinds ((name, d) :: data) ((name, k) :: kinds)

end

theorem HasKinds.lookup {data : List (Text × Datum)} {kinds : List (Text × DataKind)} {name : Text}
    {k : DataKind} (h : HasKinds data kinds) (hk : kinds.lookup name = some k) :
    ∃ d, data.lookup name = some d ∧ HasKind d k := by
  induction kinds generalizing data with
  | nil => cases hk
  | cons e kinds ih =>
    cases h with
    | cons first rest =>
      rw [List.lookup_cons] at hk ⊢
      split at hk
      · cases hk
        exact ⟨_, rfl, first⟩
      · exact ih rest hk

namespace Template

/-- The kind of what a reference stands for. -/
def kind? (kinds : List (Text × DataKind)) (r : Ref) : Option DataKind :=
  match kinds.lookup r.name with
  | none => none
  | some k => match r.field with
    | none => some k
    | some f => match k with
      | .record fields => fields.lookup f
      | _ => none

mutual

/-- All names of a piece have data of the kinds that are wanted. -/
def pieceFits (kinds : List (Text × DataKind)) : Piece → Bool
  | .text _ => true
  | .output ref _ => (kind? kinds ref).isSome
  | .each item list body => match kind? kinds list with
    | some (.list k) => piecesFit ((item, k) :: kinds) body
    | _ => false
  | .cond ref yes no => (kind? kinds ref).isSome && piecesFit kinds yes && piecesFit kinds no

/-- All names of a template have data of the kinds that are wanted. -/
def piecesFit (kinds : List (Text × DataKind)) : List Piece → Bool
  | [] => true
  | p :: rest => pieceFits kinds p && piecesFit kinds rest

end

theorem find_ok {scope : Scope} {kinds : List (Text × DataKind)} {ref : Ref} {k : DataKind}
    (h : HasKinds scope kinds) (hk : kind? kinds ref = some k) :
    ∃ d, ref.find scope = .ok d ∧ HasKind d k := by
  unfold kind? at hk
  unfold Ref.find
  cases hname : kinds.lookup ref.name with
  | none => simp [hname] at hk
  | some k' =>
    obtain ⟨d, hd, hkind⟩ := h.lookup hname
    rw [hname] at hk
    rw [hd]
    cases hfield : ref.field with
    | none =>
      rw [hfield] at hk
      cases hk
      exact ⟨d, rfl, hkind⟩
    | some f =>
      rw [hfield] at hk
      cases hkind with
      | any => cases hk
      | list => cases hk
      | record hfields =>
        obtain ⟨d, hd, hkind⟩ := hfields.lookup hk
        exact ⟨d, by simp only [hd], hkind⟩

theorem renderEach_ok {body : Datum → Except Text Text} {items : List Datum}
    (h : ∀ d ∈ items, ∃ t, body d = .ok t) : ∃ t, renderEach body items = .ok t := by
  induction items with
  | nil => exact ⟨[], rfl⟩
  | cons d rest ih =>
    obtain ⟨⟨here, hhere⟩, hrest⟩ := List.forall_mem_cons.1 h
    obtain ⟨after, hafter⟩ := ih hrest
    exact ⟨here ++ after, by rw [renderEach, hhere, hafter]; rfl⟩

variable {xml : Bool}

mutual

theorem renderPiece_ok {scope : Scope} {kinds : List (Text × DataKind)} (h : HasKinds scope kinds) :
    ∀ p : Piece, pieceFits kinds p = true → ∃ t, renderPiece xml scope p = .ok t
  | .text t, _ => ⟨t, by rw [renderPiece]⟩
  | .output ref filters, fits => by
      rw [pieceFits, Option.isSome_iff_exists] at fits
      obtain ⟨k, hk⟩ := fits
      obtain ⟨d, hd, -⟩ := find_ok h hk
      exact ⟨emit xml filters d, by rw [renderPiece, hd]; rfl⟩
  | .each item list body, fits => by
      rw [pieceFits] at fits
      split at fits
      · next k hk =>
        obtain ⟨d, hd, hkind⟩ := find_ok h hk
        cases hkind with
        | list each =>
          rw [renderPiece, hd, ok_bind]
          exact renderEach_ok fun d hmem => renderPieces_ok (.cons (each d hmem) h) body fits
      · cases fits
  | .cond ref yes no, fits => by
      rw [pieceFits, Bool.and_eq_true, Bool.and_eq_true, Option.isSome_iff_exists] at fits
      obtain ⟨⟨⟨k, hk⟩, hyes⟩, hno⟩ := fits
      obtain ⟨d, hd, -⟩ := find_ok h hk
      rw [renderPiece, hd, ok_bind]
      split
      · exact renderPieces_ok h yes hyes
      · exact renderPieces_ok h no hno

/-- **A template that fits the kinds of its data is rendered.** -/
theorem renderPieces_ok {scope : Scope} {kinds : List (Text × DataKind)} (h : HasKinds scope kinds) :
    ∀ ps : List Piece, piecesFit kinds ps = true → ∃ t, renderPieces xml scope ps = .ok t
  | [], _ => ⟨[], by rw [renderPieces]⟩
  | p :: rest, fits => by
      rw [piecesFit, Bool.and_eq_true] at fits
      obtain ⟨here, hhere⟩ := renderPiece_ok h p fits.1
      obtain ⟨after, hafter⟩ := renderPieces_ok h rest fits.2
      exact ⟨here ++ after, by rw [renderPieces, hhere, hafter]; rfl⟩

end

/-! ## Texts of pieces -/

theorem renderEach_eq_ok {body : Datum → Except Text Text} {items : List Datum} {t : Text} :
    renderEach body items = .ok t ↔
      ∃ ts, List.Forall₂ (fun d u => body d = .ok u) items ts ∧ t = ts.flatten := by
  induction items generalizing t with
  | nil => simp [renderEach, eq_comm]
  | cons d rest ih =>
    simp only [renderEach, bind_eq_ok, ih, List.forall₂_cons_left_iff, Except.ok.injEq]
    constructor
    · rintro ⟨here, hhere, _, ⟨ts, hts, rfl⟩, rfl⟩
      exact ⟨here :: ts, ⟨here, ts, hhere, hts, rfl⟩, rfl⟩
    · rintro ⟨_, ⟨here, ts, hhere, hts, rfl⟩, rfl⟩
      exact ⟨here, hhere, _, ⟨ts, hts, rfl⟩, rfl⟩

theorem mem_renderEach {body : Datum → Except Text Text} {items : List Datum} {t : Text}
    {s : Symbol} (h : renderEach body items = .ok t) :
    s ∈ t ↔ ∃ d ∈ items, ∃ u, body d = .ok u ∧ s ∈ u := by
  obtain ⟨ts, hts, rfl⟩ := renderEach_eq_ok.1 h
  clear h
  induction hts with
  | nil => simp
  | cons hu _ ih => simp [ih, hu]

/-- **The text of a template is the texts of its pieces one after the other.** -/
theorem renderPieces_eq_ok {scope : Scope} {ps : List Piece} {t : Text} :
    renderPieces xml scope ps = .ok t ↔
      ∃ ts, List.Forall₂ (fun p u => renderPiece xml scope p = .ok u) ps ts ∧ t = ts.flatten := by
  induction ps generalizing t with
  | nil => simp [renderPieces, eq_comm]
  | cons p rest ih =>
    simp only [renderPieces, bind_eq_ok, ih, List.forall₂_cons_left_iff, Except.ok.injEq]
    constructor
    · rintro ⟨here, hhere, _, ⟨ts, hts, rfl⟩, rfl⟩
      exact ⟨here :: ts, ⟨here, ts, hhere, hts, rfl⟩, rfl⟩
    · rintro ⟨_, ⟨here, ts, hhere, hts, rfl⟩, rfl⟩
      exact ⟨here, hhere, _, ⟨ts, hts, rfl⟩, rfl⟩

/-- A symbol of the text of a template is one of the text of a piece. -/
theorem mem_renderPieces {scope : Scope} {ps : List Piece} {t : Text} {s : Symbol}
    (h : renderPieces xml scope ps = .ok t) :
    s ∈ t ↔ ∃ p ∈ ps, ∃ u, renderPiece xml scope p = .ok u ∧ s ∈ u := by
  obtain ⟨ts, hts, rfl⟩ := renderPieces_eq_ok.1 h
  clear h
  induction hts with
  | nil => simp
  | cons hu _ ih => simp [ih, hu]

theorem renderPieces_append_eq_ok {scope : Scope} {ps qs : List Piece} {t : Text} :
    renderPieces xml scope (ps ++ qs) = .ok t ↔
      ∃ u v, renderPieces xml scope ps = .ok u ∧ renderPieces xml scope qs = .ok v ∧
        t = u ++ v := by
  induction ps generalizing t with
  | nil => simp [renderPieces]
  | cons p rest ih =>
    simp only [List.cons_append, renderPieces, bind_eq_ok, ih, Except.ok.injEq]
    constructor
    · rintro ⟨here, hhere, _, ⟨u, v, hu, hv, rfl⟩, rfl⟩
      exact ⟨here ++ u, v, ⟨here, hhere, u, hu, rfl⟩, hv, (List.append_assoc here u v).symm⟩
    · rintro ⟨_, v, ⟨here, hhere, u, hu, rfl⟩, hv, rfl⟩
      exact ⟨here, hhere, u ++ v, ⟨u, v, hu, hv, rfl⟩, (List.append_assoc here u v).symm⟩

end Template

/-! ## The templates of a suite -/

/-- Names of which only that they have data is known. -/
def plainKinds (names : List String) : List (Text × DataKind) := names.map fun n => (n, .any)

/-- The name of a list of data of one kind. -/
def listKind (name : String) (item : DataKind) : Text × DataKind := (name, .list item)

/-- The name of a list of records with plain fields. -/
def recordsKind (name : String) (fields : List String) : Text × DataKind :=
  listKind name (.record (plainKinds fields))

/-- The kinds of the data of a test method. -/
def methodKinds : List (Text × DataKind) :=
  plainKinds ["method_name", "http_method", "path", "summary", "has_body"] ++
    recordsKind "path_params" ["name", "type", "placeholder"] :: plainKinds ["has_path_params"] ++
    recordsKind "query_params" ["name", "type", "placeholder"] ::
      plainKinds ["has_query_params", "expected_status"]

/-- The kinds of the data of a template. -/
def TemplateId.kinds : TemplateId → List (Text × DataKind)
  | descriptor => plainKinds ["project_name", "group_id", "artifact_id", "api_title",
      "api_version", "api_description"]
  | suite => plainKinds ["suite_name", "test_name"] ++ [listKind "test_classes" .any]
  | fixture => plainKinds ["package_name", "base_url", "api_title", "api_version"]
  | model => plainKinds ["package_name", "class_name", "schema_name", "description"] ++
      recordsKind "fields" ["name", "field_name", "type", "capitalised", "description"] ::
        plainKinds ["uses_list"]
  | testClass => plainKinds ["package_name", "base_package", "class_name", "resource_name",
      "base_url"] ++ [listKind "methods" (.record methodKinds)]

theorem hasKind_list_map {α : Type} {f : α → Datum} {k : DataKind} (h : ∀ a, HasKind (f a) k)
    (items : List α) : HasKind (.list (items.map f)) (.list k) :=
  .list fun d hd => by
    obtain ⟨a, -, rfl⟩ := List.mem_map.1 hd
    exact h a

theorem hasKind_field (c : FieldContext) : HasKind c.datum
    (.record (plainKinds ["name", "field_name", "type", "capitalised", "description"])) := by
  repeat constructor

theorem hasKind_parameter (c : ParameterContext) :
    HasKind c.datum (.record (plainKinds ["name", "type", "placeholder"])) := by
  repeat constructor

theorem hasKind_method (c : MethodContext) : HasKind c.datum (.record methodKinds) :=
  have pathParameters := hasKind_list_map hasKind_parameter c.pathParameters
  have queryParameters := hasKind_list_map hasKind_parameter c.queryParameters
  .record (.cons (.any _) (.cons (.any _) (.cons (.any _) (.cons (.any _) (.cons (.any _)
    (.cons pathParameters (.cons (.any _)
      (.cons queryParameters (.cons (.any _) (.cons (.any _) .nil))))))))))

/-- **The data of a context are of the kinds of its template.** -/
theorem Context.hasKinds (c : Context) : HasKinds c.scope c.template.kinds := by
  cases c with
  | descriptor c => repeat constructor
  | suite c =>
    have testClasses := hasKind_list_map (fun t : Text => .any (.text t)) c.testClasses
    exact .cons (.any _) (.cons (.any _) (.cons testClasses .nil))
  | fixture c => repeat constructor
  | model c =>
    have fields := hasKind_list_map hasKind_field c.fields
    exact .cons (.any _) (.cons (.any _) (.cons (.any _) (.cons (.any _)
      (.cons fields (.cons (.any _) .nil)))))
  | testClass c =>
    have methods := hasKind_list_map hasKind_method c.methods
    exact .cons (.any _) (.cons (.any _) (.cons (.any _) (.cons (.any _) (.cons (.any _)
      (.cons methods .nil)))))

/-- **Each template of a suite fits the kinds of its data.** -/
theorem TemplateId.fits (i : TemplateId) : Template.piecesFit i.kinds i.template = true := by
  cases i <;> decide +kernel

/-- A context is rendered. -/
theorem Context.renders (xml : Bool) (c : Context) :
    ∃ t, Template.renderPieces xml c.scope c.template.template = .ok t :=
  Template.renderPieces_ok c.hasKinds _ c.template.fits

end SuiteForge
