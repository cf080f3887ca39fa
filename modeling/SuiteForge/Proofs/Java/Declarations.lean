/-
# The declarations of a model class

A generated source has each declaration on a line of its own, so what it declares is read off its
lines (`declarations`).

| line | read as |
| --- | --- |
| `package p;`, `import q;` | the package, an imported name |
| `@Name(argument)`, after blanks | an annotation |
| `public class C` and a brace | the class |
| `    private T n;` | a field |
| `    public C()` and a brace | a constructor |
| `    public T n()` or `n(U p)` and a brace | a method |
| any other, comments among them | nothing |

The text of a model class is a list of lines (`text_model`), none of which has a line end in it, so
what it declares is told line by line (`ModelContext.declarations_text`).
-/

import SuiteForge.Proofs.Java.FieldNames
import SuiteForge.Proofs.Java.Suites

namespace SuiteForge

namespace Java

/-! ## Reading declarations -/

/-- What stands between a front and a back. -/
def between? (front back t : Text) : Option Text :=
  if front.isPrefixOf t && back.isSuffixOf (t.drop front.length) then
    some ((t.drop front.length).take (t.length - front.length - back.length))
  else none

inductive Declaration where
  | package (name : Text)
  | imported (name : Text)
  /-- An annotation of what comes next. -/
  | annotated (name argument : Text)
  | ofClass (name : Text)
  | field (type name : Text)
  | constructor (name : Text)
  /-- A method with what it gives, its name, and the type and the name of its parameter, if it has
  one. -/
  | method (result name : Text) (parameter : Option (Text × Text))
  deriving DecidableEq

namespace Declaration

/-- A type and a name with a blank between them. -/
def field? (t : Text) : Option Declaration :=
  match Text.splitOn (.char ' ') t with
  | [type, name] => some (.field type name)
  | _ => none

/-- A constructor or a method, from the words in front of the bracket and those behind it. -/
def ofWords : List Text → List Text → Option Declaration
  | [name], [[]] => some (.constructor name)
  | [result, name], [[]] => some (.method result name none)
  | [result, name], [type, parameter] => some (.method result name (some (type, parameter)))
  | _, _ => none

def member? (t : Text) : Option Declaration :=
  match Text.splitOn (.char '(') t with
  | [head, parameters] =>
    ofWords (Text.splitOn (.char ' ') head) (Text.splitOn (.char ' ') parameters)
  | _ => none

/-- An annotation's name and, behind a bracket, its argument. -/
def annotated? (t : Text) : Option Declaration :=
  match t.dropWhile isFieldSymbol with
  | .char '(' :: argument => some (.annotated (t.takeWhile isFieldSymbol) argument)
  | _ => none

/-- What a line declares. -/
def ofLine? (line : Text) : Option Declaration :=
  (between? "package " ";" line).map .package
  <|> (between? "import " ";" line).map .imported
  <|> (between? "public class " " \x7b" line).map .ofClass
  <|> (between? "    private " ";" line).bind field?
  <|> (between? "    public " ") \x7b" line).bind member?
  <|> (between? "@" ")" (line.dropWhile (· == .char ' '))).bind annotated?

end Declaration

/-- **What a source declares,** in order. -/
def declarations (t : Text) : List Declaration := (Text.lines t).filterMap Declaration.ofLine?

/-! ## Lines -/

/-- Lines one after the other, each with its end. -/
def unlines (ls : List Text) : Text := ls.flatMap fun l => l ++ Text.ofString "\n"

theorem lines_unlines {ls : List Text} (h : ∀ l ∈ ls, .char '\n' ∉ l) :
    Text.lines (unlines ls) = ls ++ [[]] := by
  induction ls with
  | nil => rfl
  | cons l rest ih =>
    obtain ⟨hl, hrest⟩ := List.forall_mem_cons.1 h
    have htext : unlines (l :: rest) = l ++ .char '\n' :: unlines rest := by
      simp [unlines, Text.ofString]
    rw [htext, Text.lines, splitOn_append_cons, splitOn_of_not_mem hl, ← Text.lines, ih hrest]
    rfl

theorem between?_append (front back t : Text) :
    between? front back (front ++ t ++ back) = some t := by
  have hfront : front.isPrefixOf (front ++ t ++ back) = true :=
    List.isPrefixOf_iff_prefix.2 ⟨t ++ back, by simp⟩
  have hback : back.isSuffixOf ((front ++ t ++ back).drop front.length) = true :=
    List.isSuffixOf_iff_suffix.2 ⟨t, by simp⟩
  rw [between?, hfront, hback]
  simp

end Java

open Java

theorem ofString_append (a b : String) :
    Text.ofString (a ++ b) = Text.ofString a ++ Text.ofString b := by
  simp [Text.ofString]

theorem ofString_inj {a b : String} : Text.ofString a = Text.ofString b ↔ a = b := by
  have hchar : Function.Injective Symbol.char := fun _ _ => Symbol.char.inj
  rw [Text.ofString, Text.ofString, List.map_inj_right hchar, String.toList_inj]

/-! ## The lines of a model class -/

/-- The lines of the declaration of a field. -/
def FieldContext.declarationLines (f : FieldContext) : List Text :=
  [] :: (if f.description = [] then [] else
    [Text.ofString "    /** " ++ JavaText.comment f.description ++ Text.ofString " */"]) ++
  [Text.ofString "    @JsonProperty(" ++ quoted f.name ++ Text.ofString ")",
    Text.ofString "    private " ++ (f.type ++ Text.ofString " " ++ f.fieldName) ++
      Text.ofString ";"]

/-- The name of the method that gives a field. -/
def FieldContext.getter (f : FieldContext) : Text := Text.ofString "get" ++ f.capitalised

/-- The name of the method that sets a field. -/
def FieldContext.setter (f : FieldContext) : Text := Text.ofString "set" ++ f.capitalised

/-- The lines of the accessors of a field. -/
def FieldContext.accessorLines (f : FieldContext) : List Text := [
  [],
  Text.ofString "    public " ++ (f.type ++ Text.ofString " " ++ f.getter ++ Text.ofString "(") ++
    Text.ofString ") \x7b",
  Text.ofString "        return " ++ f.fieldName ++ Text.ofString ";",
  Text.ofString "    \x7d",
  [],
  Text.ofString "    public " ++ (Text.ofString "void" ++ Text.ofString " " ++ f.setter ++
    Text.ofString "(" ++ (f.type ++ Text.ofString " " ++ f.fieldName)) ++ Text.ofString ") \x7b",
  Text.ofString "        this." ++ f.fieldName ++ Text.ofString " = " ++ f.fieldName ++
    Text.ofString ";",
  Text.ofString "    \x7d"]

/-- The names that a model class imports. -/
def ModelContext.imports (m : ModelContext) : List Text :=
  Text.ofString "com.fasterxml.jackson.annotation.JsonIgnoreProperties" ::
    Text.ofString "com.fasterxml.jackson.annotation.JsonProperty" ::
      if m.usesList then [Text.ofString "java.util.List"] else []

def ModelContext.importLines (m : ModelContext) : List Text :=
  (Text.ofString "package " ++ m.package ++ Text.ofString ";") :: [] ::
    m.imports.map fun q => Text.ofString "import " ++ q ++ Text.ofString ";"

/-- The comment of a model class. -/
def ModelContext.commentLines (m : ModelContext) : List Text := [
  [],
  Text.ofString "/**",
  if m.description = [] then
    Text.ofString " * Data model for the " ++ JavaText.comment m.schemaName ++
      Text.ofString " schema."
  else Text.ofString " * " ++ JavaText.comment m.description]

def ModelContext.classLines (m : ModelContext) : List Text := [
  Text.ofString " */",
  Text.ofString "@JsonIgnoreProperties(ignoreUnknown = true)",
  Text.ofString "public class " ++ m.className ++ Text.ofString " \x7b"]

def ModelContext.constructorLines (m : ModelContext) : List Text := [
  [],
  Text.ofString "    public " ++ (m.className ++ Text.ofString "(") ++ Text.ofString ") \x7b",
  Text.ofString "    \x7d"]

/-- The lines of a model class. -/
def ModelContext.sourceLines (m : ModelContext) : List Text :=
  m.importLines ++ (m.commentLines ++ (m.classLines ++
    (m.fields.flatMap FieldContext.declarationLines ++ (m.constructorLines ++
      (m.fields.flatMap FieldContext.accessorLines ++ [Text.ofString "\x7d"])))))

/-! ## What a template is rendered to -/

namespace Template

mutual

/-- The text of a piece whose names have data. -/
def pieceText (scope : Scope) : Piece → Text
  | .text t => t
  | .output ref filters => emit false filters (ref.datum scope)
  | .each item list body =>
    (list.datum scope).items.flatMap fun d => piecesText ((item, d) :: scope) body
  | .cond ref yes no =>
    if (ref.datum scope).isTruthy then piecesText scope yes else piecesText scope no

/-- The text of a template whose names have data. -/
def piecesText (scope : Scope) : List Piece → Text
  | [] => []
  | piece :: rest => pieceText scope piece ++ piecesText scope rest

end

theorem piecesText_append (scope : Scope) (ps qs : List Piece) :
    piecesText scope (ps ++ qs) = piecesText scope ps ++ piecesText scope qs := by
  induction ps with
  | nil => rfl
  | cons p ps ih => rw [List.cons_append, piecesText, piecesText, ih, List.append_assoc]

mutual

theorem pieceText_of_renderPiece {scope : Scope} {t : Text} : ∀ piece : Piece,
    renderPiece false scope piece = .ok t → t = pieceText scope piece
  | .text u, h => by
      rw [renderPiece] at h
      rw [pieceText, Except.ok.inj h]
  | .output ref filters, h => by
      rw [renderPiece] at h
      obtain ⟨d, hfind, rfl⟩ := map_eq_ok.1 h
      rw [pieceText, Ref.datum_of_find hfind]
  | .each item list body, h => by
      rw [renderPiece] at h
      obtain ⟨d, hfind, hrender⟩ := bind_eq_ok.1 h
      obtain ⟨ts, hts, rfl⟩ := renderEach_eq_ok.1 hrender
      rw [pieceText, Ref.datum_of_find hfind, List.flatMap]
      congr 1
      clear h hrender
      generalize d.items = items at hts
      induction hts with
      | nil => rfl
      | cons hd _ ih => rw [List.map_cons, ih, piecesText_of_renderPieces body hd]
  | .cond ref yes no, h => by
      rw [renderPiece] at h
      obtain ⟨d, hfind, h⟩ := bind_eq_ok.1 h
      rw [pieceText, Ref.datum_of_find hfind]
      split_ifs at h ⊢
      · exact piecesText_of_renderPieces yes h
      · exact piecesText_of_renderPieces no h

/-- **What a template is rendered to is its text.** -/
theorem piecesText_of_renderPieces {scope : Scope} {t : Text} : ∀ ps : List Piece,
    renderPieces false scope ps = .ok t → t = piecesText scope ps
  | [], h => by
      rw [renderPieces] at h
      rw [piecesText, Except.ok.inj h]
  | piece :: rest, h => by
      rw [renderPieces] at h
      obtain ⟨here, hhere, h⟩ := bind_eq_ok.1 h
      obtain ⟨after, hafter, h⟩ := bind_eq_ok.1 h
      rw [piecesText, ← pieceText_of_renderPiece piece hhere,
        ← piecesText_of_renderPieces rest hafter, Except.ok.inj h]

end

end Template

open Template

/-! ## The text of a model class -/

section Pieces

variable (scope : Scope)

@[simp] theorem isTruthy_flag (b : Bool) : (Datum.flag b).isTruthy = b := rfl

@[simp] theorem emit_text (t : Text) : emit false [] (.text t) = t := rfl

@[simp] theorem emit_javadoc (t : Text) :
    emit false [.javadoc] (.text t) = JavaText.comment t := rfl

@[simp] theorem emit_javaString (t : Text) :
    emit false [.javaString] (.text t) = JavaText.literal t := rfl

@[simp] theorem pieceText_lines (ls : List String) :
    pieceText scope (lines ls) = unlines (ls.map Text.ofString) := by
  rw [lines, pieceText, unlines, List.flatMap_map]

@[simp] theorem pieceText_plain (t : String) : pieceText scope (plain t) = Text.ofString t := rfl

@[simp] theorem pieceText_var (name : String) (filters : List Filter) :
    pieceText scope (var name filters) =
      emit false filters ((⟨name, none⟩ : Ref).datum scope) := rfl

@[simp] theorem pieceText_field (name key : String) (filters : List Filter) :
    pieceText scope (field name key filters) =
      emit false filters ((⟨name, some (Text.ofString key)⟩ : Ref).datum scope) := rfl

/-- A name stands for what comes first under it. -/
@[simp] theorem datum_cons (name key : String) (d : Datum) :
    (⟨Text.ofString name, none⟩ : Ref).datum ((Text.ofString key, d) :: scope) =
      if name = key then d else (⟨Text.ofString name, none⟩ : Ref).datum scope := by
  rw [Ref.datum, Ref.find, List.lookup_cons]
  split_ifs with h
  · rw [h, beq_self_eq_true]
  · rw [beq_false_of_ne (mt ofString_inj.1 h)]
    rfl

/-- A field of a name stands for what comes first under it in the record of the name. -/
@[simp] theorem datum_field (name key : String) (fields : List (Text × Datum)) :
    (⟨Text.ofString name, some (Text.ofString key)⟩ : Ref).datum
      ((Text.ofString name, .record fields) :: scope) =
        (⟨Text.ofString key, none⟩ : Ref).datum fields := by
  rw [Ref.datum, Ref.find, List.lookup_cons_self, Ref.datum, Ref.find]
  dsimp only
  cases fields.lookup (Text.ofString key) <;> rfl

end Pieces

def Piece.body : Piece → List Piece
  | .each _ _ body => body
  | _ => []

/-- The part of the template that declares a field. -/
def declarationPieces : List Piece := (Bundled.model[10]?.map Piece.body).getD []

/-- The part of the template that gives a field accessors. -/
def accessorPieces : List Piece := (Bundled.model[15]?.map Piece.body).getD []

/-- The parts of the template, as they are told of. -/
theorem model_eq : Bundled.model =
    Bundled.model.take 4 ++ ((Bundled.model.drop 4).take 2 ++ ((Bundled.model.drop 6).take 4 ++
      .each "field" ⟨"fields", none⟩ declarationPieces :: ((Bundled.model.drop 11).take 4 ++
        .each "field" ⟨"fields", none⟩ accessorPieces :: Bundled.model.drop 16))) := rfl

theorem text_declaration (scope : Scope) (f : FieldContext) :
    piecesText ((Text.ofString "field", f.datum) :: scope) declarationPieces =
      unlines f.declarationLines := by
  have hopen : Text.ofString "    @JsonProperty(\"" =
      Text.ofString "    @JsonProperty(" ++ [.char '"'] :=
    ofString_append "    @JsonProperty(" "\""
  have hclose : Text.ofString "\")" = [.char '"'] ++ Text.ofString ")" := ofString_append "\"" ")"
  have hempty : Text.ofString "" = [] := rfl
  simp only [declarationPieces, Bundled.model, List.getElem?_cons_succ, List.getElem?_cons_zero,
    Option.map_some, Option.getD_some, Piece.body, FieldContext.declarationLines]
  simp [piecesText, pieceText, ite_isTruthy, FieldContext.datum, hopen, hclose, hempty]
  split <;> simp [unlines, quoted]

theorem text_accessors (scope : Scope) (f : FieldContext) :
    piecesText ((Text.ofString "field", f.datum) :: scope) accessorPieces =
      unlines f.accessorLines := by
  have hget : Text.ofString " get" = Text.ofString " " ++ Text.ofString "get" :=
    ofString_append " " "get"
  have hset : Text.ofString "    public void set" =
      Text.ofString "    public " ++ (Text.ofString "void" ++ (Text.ofString " " ++
        Text.ofString "set")) := by
    simp only [← ofString_append]
    rfl
  have hnone : Text.ofString "() \x7b" = Text.ofString "(" ++ Text.ofString ") \x7b" :=
    ofString_append "(" ") \x7b"
  have hempty : Text.ofString "" = [] := rfl
  simp only [accessorPieces, Bundled.model, List.getElem?_cons_succ, List.getElem?_cons_zero,
    Option.map_some, Option.getD_some, Piece.body, FieldContext.accessorLines]
  simp [piecesText, unlines, FieldContext.datum, FieldContext.getter, FieldContext.setter, hget,
    hset, hnone, hempty]

/-- The text for all items of a list is that of their lines. -/
theorem text_items {α : Type} {datum : α → Datum} {item : Text} {scope : Scope}
    {body : List Piece} {itemLines : α → List Text}
    (h : ∀ a, piecesText ((item, datum a) :: scope) body = unlines (itemLines a)) (xs : List α) :
    ((Datum.list (xs.map datum)).items.flatMap fun d =>
      piecesText ((item, d) :: scope) body) = unlines (xs.flatMap itemLines) := by
  rw [Datum.items, List.flatMap_map, unlines, List.flatMap_assoc]
  exact List.flatMap_congr fun a _ => h a

theorem unlines_append (ls ms : List Text) : unlines (ls ++ ms) = unlines ls ++ unlines ms :=
  List.flatMap_append

section ModelData

variable (m : ModelContext)

theorem text_imports : piecesText m.scope (Bundled.model.take 4) = unlines m.importLines := by
  have himport : ∀ line q : String, line = "import " ++ q ++ ";" → Text.ofString line =
      Text.ofString "import " ++ (Text.ofString q ++ Text.ofString ";") := by
    rintro _ q rfl
    rw [ofString_append, ofString_append, List.append_assoc]
  have hignore := himport "import com.fasterxml.jackson.annotation.JsonIgnoreProperties;"
    "com.fasterxml.jackson.annotation.JsonIgnoreProperties" rfl
  have hproperty := himport "import com.fasterxml.jackson.annotation.JsonProperty;"
    "com.fasterxml.jackson.annotation.JsonProperty" rfl
  have hlist := himport "import java.util.List;" "java.util.List" rfl
  have hempty : Text.ofString "" = [] := rfl
  simp only [Bundled.model, List.take_succ_cons, List.take_zero, ModelContext.importLines,
    ModelContext.imports]
  simp [piecesText, pieceText, unlines, ModelContext.scope, hignore, hproperty, hlist, hempty]
  split <;> simp

theorem text_comment :
    piecesText m.scope ((Bundled.model.drop 4).take 2) = unlines m.commentLines := by
  simp only [Bundled.model, List.drop_succ_cons, List.drop_zero, List.take_succ_cons,
    List.take_zero, ModelContext.commentLines]
  have hempty : Text.ofString "" = [] := rfl
  simp [piecesText, pieceText, ite_isTruthy, unlines, ModelContext.scope, hempty]
  split <;> simp

theorem text_class :
    piecesText m.scope ((Bundled.model.drop 6).take 4) = unlines m.classLines := by
  simp only [Bundled.model, List.drop_succ_cons, List.drop_zero, List.take_succ_cons,
    List.take_zero, ModelContext.classLines]
  simp [piecesText, unlines, ModelContext.scope]

theorem text_constructor :
    piecesText m.scope ((Bundled.model.drop 11).take 4) = unlines m.constructorLines := by
  have hempty : Text.ofString "" = [] := rfl
  have hnone : Text.ofString "() \x7b" = Text.ofString "(" ++ Text.ofString ") \x7b" :=
    ofString_append "(" ") \x7b"
  simp only [Bundled.model, List.drop_succ_cons, List.drop_zero, List.take_succ_cons,
    List.take_zero, ModelContext.constructorLines]
  simp [piecesText, unlines, ModelContext.scope, hempty, hnone]

end ModelData

theorem piecesText_model (m : ModelContext) :
    piecesText m.scope Bundled.model = unlines m.sourceLines := by
  have hfields : (⟨Text.ofString "fields", none⟩ : Ref).datum m.scope =
      .list (m.fields.map FieldContext.datum) := rfl
  have hdeclared := text_items (text_declaration m.scope) m.fields
  have haccessed := text_items (text_accessors m.scope) m.fields
  have hend : piecesText m.scope (Bundled.model.drop 16) = unlines [Text.ofString "\x7d"] := rfl
  rw [model_eq, ModelContext.sourceLines]
  simp only [piecesText_append, piecesText, pieceText, unlines_append, text_imports,
    text_comment, text_class, text_constructor, hfields, hdeclared, haccessed, hend]

/-- **The text of a model class is that of its lines.** -/
theorem text_model (m : ModelContext) : (Context.model m).text = unlines m.sourceLines := by
  rw [← piecesText_model]
  exact Template.piecesText_of_renderPieces _ (Context.render_template (.model m))

/-! ## What the lines declare -/

namespace Java

/-- A text in which no blank, no bracket and no line end stands. -/
def IsSolid (t : Text) : Prop := .char ' ' ∉ t ∧ .char '(' ∉ t ∧ .char '\n' ∉ t

instance (t : Text) : Decidable (IsSolid t) :=
  inferInstanceAs (Decidable (.char ' ' ∉ t ∧ .char '(' ∉ t ∧ .char '\n' ∉ t))

theorem isSolid_of_isFieldSymbol {t : Text} (h : ∀ s ∈ t, isFieldSymbol s = true) : IsSolid t := by
  have hnot : ∀ s, isFieldSymbol s = false → s ∉ t := by
    intro s hs hmem
    rw [h s hmem] at hs
    cases hs
  exact ⟨hnot _ (by decide), hnot _ (by decide), hnot _ (by decide)⟩

theorem IsSolid.append {t u : Text} (ht : IsSolid t) (hu : IsSolid u) : IsSolid (t ++ u) := by
  simp only [IsSolid, List.mem_append, not_or] at ht hu ⊢
  tauto

theorem isSolid_javaType (r : ResolvedType) : IsSolid r.javaType := by cases r <;> decide

namespace Declaration

section Lines

variable {t u : Text}

theorem splitOn_pair {mark : Symbol} (ht : mark ∉ t) (hu : mark ∉ u) :
    Text.splitOn mark (t ++ mark :: u) = [t, u] := by
  rw [splitOn_append_cons, splitOn_of_not_mem ht, splitOn_of_not_mem hu]
  rfl

theorem splitOn_blank (ht : .char ' ' ∉ t) (hu : .char ' ' ∉ u) :
    Text.splitOn (.char ' ') (t ++ Text.ofString " " ++ u) = [t, u] := by
  rw [List.append_assoc]
  exact splitOn_pair ht hu

theorem ofLine?_nil : ofLine? [] = none := rfl

theorem ofLine?_end : ofLine? (Text.ofString "    \x7d") = none := rfl

theorem ofLine?_package (t : Text) :
    ofLine? (Text.ofString "package " ++ t ++ Text.ofString ";") = some (.package t) := by
  rw [ofLine?, between?_append]
  rfl

theorem ofLine?_import (t : Text) :
    ofLine? (Text.ofString "import " ++ t ++ Text.ofString ";") = some (.imported t) := by
  rw [ofLine?, between?_append (Text.ofString "import ")]
  rfl

theorem ofLine?_class (t : Text) :
    ofLine? (Text.ofString "public class " ++ t ++ Text.ofString " \x7b") = some (.ofClass t) := by
  rw [ofLine?, between?_append (Text.ofString "public class ")]
  rfl

theorem ofLine?_annotated (t : Text) :
    ofLine? (Text.ofString "    @JsonProperty(" ++ t ++ Text.ofString ")") =
      some (.annotated (Text.ofString "JsonProperty") t) := by
  have hline : (Text.ofString "    @JsonProperty(" ++ t ++ Text.ofString ")").dropWhile
      (· == .char ' ') = Text.ofString "@" ++ (Text.ofString "JsonProperty(" ++ t) ++
        Text.ofString ")" := rfl
  rw [ofLine?, hline, between?_append (Text.ofString "@")]
  rfl

theorem field?_eq (ht : .char ' ' ∉ t) (hu : .char ' ' ∉ u) :
    field? (t ++ Text.ofString " " ++ u) = some (.field t u) := by
  rw [field?, splitOn_blank ht hu]

theorem ofLine?_field (t : Text) :
    ofLine? (Text.ofString "    private " ++ t ++ Text.ofString ";") = field? t := by
  rw [ofLine?, between?_append (Text.ofString "    private "), Option.bind_some]
  cases field? t <;> rfl

theorem ofLine?_member (t : Text) :
    ofLine? (Text.ofString "    public " ++ t ++ Text.ofString ") \x7b") = member? t := by
  rw [ofLine?, between?_append (Text.ofString "    public "), Option.bind_some]
  cases member? t <;> rfl

theorem member?_eq (ht : .char '(' ∉ t) (hu : .char '(' ∉ u) :
    member? (t ++ Text.ofString "(" ++ u) =
      ofWords (Text.splitOn (.char ' ') t) (Text.splitOn (.char ' ') u) := by
  have hparts : Text.splitOn (.char '(') (t ++ Text.ofString "(" ++ u) = [t, u] := by
    rw [List.append_assoc]
    exact splitOn_pair ht hu
  rw [member?, hparts]

theorem member?_constructor (ht : IsSolid t) :
    member? (t ++ Text.ofString "(") = some (.constructor t) := by
  rw [← List.append_nil (t ++ _), member?_eq ht.2.1 List.not_mem_nil, splitOn_of_not_mem ht.1]
  rfl

theorem not_mem_blank {s : Symbol} (hs : s ≠ .char ' ') (ht : s ∉ t) (hu : s ∉ u) :
    s ∉ t ++ Text.ofString " " ++ u := by
  simp [Text.ofString, hs, ht, hu]

theorem member?_getter (ht : IsSolid t) (hu : IsSolid u) :
    member? (t ++ Text.ofString " " ++ u ++ Text.ofString "(") = some (.method t u none) := by
  have hhead := not_mem_blank (by decide) ht.2.1 hu.2.1
  rw [← List.append_nil (_ ++ Text.ofString "("), member?_eq hhead List.not_mem_nil,
    splitOn_blank ht.1 hu.1]
  rfl

theorem member?_setter {v w : Text} (ht : IsSolid t) (hu : IsSolid u) (hv : IsSolid v)
    (hw : IsSolid w) : member? (t ++ Text.ofString " " ++ u ++ Text.ofString "(" ++
      (v ++ Text.ofString " " ++ w)) = some (.method t u (some (v, w))) := by
  rw [member?_eq (not_mem_blank (by decide) ht.2.1 hu.2.1)
    (not_mem_blank (by decide) hv.2.1 hw.2.1), splitOn_blank ht.1 hu.1, splitOn_blank hv.1 hw.1]
  cases v <;> rfl

end Lines

end Declaration

end Java

open Declaration

/-- The names of a field are solid. -/
structure FieldContext.IsSpelt (f : FieldContext) : Prop where
  type : IsSolid f.type
  fieldName : IsSolid f.fieldName
  capitalised : IsSolid f.capitalised

/-- The names of a model class are solid, and its package is on one line. -/
structure ModelContext.IsSpelt (m : ModelContext) : Prop where
  package : .char '\n' ∉ m.package
  className : IsSolid m.className
  fields : ∀ f ∈ m.fields, f.IsSpelt

namespace FieldContext

variable {f : FieldContext}

/-- A field under its annotation. -/
def declaration (f : FieldContext) : List Declaration :=
  [.annotated (Text.ofString "JsonProperty") (quoted f.name), .field f.type f.fieldName]

/-- The two methods of a field. -/
def accessors (f : FieldContext) : List Declaration :=
  [.method f.type f.getter none,
    .method (Text.ofString "void") f.setter (some (f.type, f.fieldName))]

theorem IsSpelt.getter (h : f.IsSpelt) : IsSolid f.getter :=
  IsSolid.append (by decide) h.capitalised

theorem IsSpelt.setter (h : f.IsSpelt) : IsSolid f.setter :=
  IsSolid.append (by decide) h.capitalised

theorem filterMap_declarationLines (h : f.IsSpelt) :
    f.declarationLines.filterMap ofLine? = f.declaration := by
  have hcomment : ofLine? (Text.ofString "    /** " ++ JavaText.comment f.description ++
      Text.ofString " */") = none := rfl
  have hfield := (ofLine?_field _).trans (field?_eq h.type.1 h.fieldName.1)
  rw [declarationLines, declaration]
  split <;>
    simp only [ofLine?_nil, hcomment, ofLine?_annotated, hfield, List.filterMap_cons,
      List.filterMap_nil, List.cons_append, List.nil_append]

theorem filterMap_accessorLines (h : f.IsSpelt) :
    f.accessorLines.filterMap ofLine? = f.accessors := by
  have hgets : ofLine? (Text.ofString "        return " ++ f.fieldName ++ Text.ofString ";") =
      none := rfl
  have hsets : ofLine? (Text.ofString "        this." ++ f.fieldName ++ Text.ofString " = " ++
      f.fieldName ++ Text.ofString ";") = none := rfl
  have hgetter := (ofLine?_member _).trans (member?_getter h.type h.getter)
  have hsetter := (ofLine?_member _).trans
    (member?_setter (t := Text.ofString "void") (by decide) h.setter h.type h.fieldName)
  rw [accessorLines, accessors]
  simp only [ofLine?_nil, ofLine?_end, hgets, hsets, hgetter, hsetter, List.filterMap_cons,
    List.filterMap_nil]

theorem not_mem_declarationLines (h : f.IsSpelt) : ∀ l ∈ f.declarationLines, .char '\n' ∉ l := by
  have hname : .char '\n' ∉ quoted f.name := by
    simp [quoted, not_mem_literal (.inl rfl)]
  rw [declarationLines]
  split <;>
    simp [Text.ofString, newline_not_mem_comment, hname, h.type.2.2, h.fieldName.2.2]

theorem not_mem_accessorLines (h : f.IsSpelt) : ∀ l ∈ f.accessorLines, .char '\n' ∉ l := by
  simp [accessorLines, Text.ofString, h.type.2.2, h.fieldName.2.2, h.getter.2.2, h.setter.2.2]

end FieldContext

namespace ModelContext

variable {m : ModelContext}

/-- What a model class declares. -/
def declarations (m : ModelContext) : List Declaration :=
  Declaration.package m.package :: (m.imports.map Declaration.imported ++
    Declaration.annotated (Text.ofString "JsonIgnoreProperties")
      (Text.ofString "ignoreUnknown = true") :: Declaration.ofClass m.className ::
        (m.fields.flatMap FieldContext.declaration ++
          Declaration.constructor m.className :: m.fields.flatMap FieldContext.accessors))

theorem filterMap_importLines (m : ModelContext) : m.importLines.filterMap ofLine? =
    Declaration.package m.package :: m.imports.map Declaration.imported := by
  rw [importLines, List.filterMap_cons_some (ofLine?_package m.package),
    List.filterMap_cons_none ofLine?_nil, List.filterMap_map, ← List.filterMap_eq_map]
  exact congrArg _ (List.filterMap_congr fun q _ => ofLine?_import q)

theorem filterMap_commentLines (m : ModelContext) : m.commentLines.filterMap ofLine? = [] := by
  have hbegin : ofLine? (Text.ofString "/**") = none := rfl
  have hline : ∀ t, ofLine? (Text.ofString " * " ++ t) = none := fun _ => rfl
  have hdefault : ofLine? (Text.ofString " * Data model for the " ++
      JavaText.comment m.schemaName ++ Text.ofString " schema.") = none := rfl
  rw [commentLines]
  split <;>
    simp only [ofLine?_nil, hbegin, hline, hdefault, List.filterMap_cons, List.filterMap_nil]

theorem filterMap_classLines (m : ModelContext) : m.classLines.filterMap ofLine? =
    [.annotated (Text.ofString "JsonIgnoreProperties") (Text.ofString "ignoreUnknown = true"),
      .ofClass m.className] := by
  have hend : ofLine? (Text.ofString " */") = none := rfl
  have hannotated : ofLine? (Text.ofString "@JsonIgnoreProperties(ignoreUnknown = true)") =
      some (.annotated (Text.ofString "JsonIgnoreProperties")
        (Text.ofString "ignoreUnknown = true")) := by
    decide +kernel
  simp only [classLines, hend, hannotated, ofLine?_class, List.filterMap_cons, List.filterMap_nil]

theorem filterMap_constructorLines (h : IsSolid m.className) :
    m.constructorLines.filterMap ofLine? = [.constructor m.className] := by
  have hline := (ofLine?_member _).trans (member?_constructor h)
  simp only [constructorLines, ofLine?_nil, ofLine?_end, hline, List.filterMap_cons,
    List.filterMap_nil]

theorem filterMap_sourceLines (h : m.IsSpelt) :
    m.sourceLines.filterMap ofLine? = m.declarations := by
  have hdeclared : (m.fields.flatMap FieldContext.declarationLines).filterMap ofLine? =
      m.fields.flatMap FieldContext.declaration := by
    rw [List.filterMap_flatMap]
    exact List.flatMap_congr fun f hf => FieldContext.filterMap_declarationLines (h.fields f hf)
  have haccessed : (m.fields.flatMap FieldContext.accessorLines).filterMap ofLine? =
      m.fields.flatMap FieldContext.accessors := by
    rw [List.filterMap_flatMap]
    exact List.flatMap_congr fun f hf => FieldContext.filterMap_accessorLines (h.fields f hf)
  have hend : [Text.ofString "\x7d"].filterMap ofLine? = [] := rfl
  rw [sourceLines, declarations]
  simp only [List.filterMap_append, filterMap_importLines, filterMap_commentLines,
    filterMap_classLines, filterMap_constructorLines h.className, hdeclared, haccessed, hend,
    List.nil_append, List.append_nil, List.cons_append]

/-- No line of a model class has a line end in it. -/
theorem not_mem_sourceLines (h : m.IsSpelt) : ∀ l ∈ m.sourceLines, .char '\n' ∉ l := by
  simp only [sourceLines, List.forall_mem_append]
  refine ⟨?_, ?_, ?_, ?_, ?_, ?_, ?_⟩
  · have himports : ∀ q ∈ m.imports, .char '\n' ∉ q := by
      rw [imports]
      split <;> decide +kernel
    refine List.forall_mem_cons.2 ⟨?_, List.forall_mem_cons.2 ⟨?_, List.forall_mem_map.2 ?_⟩⟩
    · simp [Text.ofString, h.package]
    · simp
    · intro q hq
      simp [Text.ofString, himports q hq]
  · have hcomment : ∀ t, .char '\n' ∉ JavaText.comment t := newline_not_mem_comment
    rw [commentLines]
    split <;> simp [Text.ofString, hcomment]
  · simp [classLines, Text.ofString, h.className.2.2]
  · intro l hl
    obtain ⟨f, hf, hl⟩ := List.mem_flatMap.1 hl
    exact FieldContext.not_mem_declarationLines (h.fields f hf) l hl
  · simp [constructorLines, Text.ofString, h.className.2.2]
  · intro l hl
    obtain ⟨f, hf, hl⟩ := List.mem_flatMap.1 hl
    exact FieldContext.not_mem_accessorLines (h.fields f hf) l hl
  · decide

/-- **What a model class declares** is read off its text. -/
theorem declarations_text (h : m.IsSpelt) :
    Java.declarations (Context.model m).text = m.declarations := by
  rw [Java.declarations, text_model, lines_unlines (not_mem_sourceLines h), List.filterMap_append,
    filterMap_sourceLines h]
  exact List.append_nil _

end ModelContext

end SuiteForge
