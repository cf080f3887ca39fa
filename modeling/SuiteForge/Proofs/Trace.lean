/-
# Requests are told apart in the log only

The records of a request bear its trace, and nothing else does: what a text is translated to and
what a project is packed to, and what becomes of a translation or a packing that fails, is the same
whatever the trace (`result_translate`, `result_pack`). There is one lemma for each step that writes
records, from those of the steps that it is made of.
-/

import Mathlib
import SuiteForge.Archive
import SuiteForge.OpenApi.Translate

namespace SuiteForge

namespace Logged

variable {ε δ α β : Type}

/-- Steps that come to the same one by one come to the same together. -/
theorem result_bind_congr {x y : Logged ε α} {f g : α → Logged ε β} (hx : x.result = y.result)
    (hf : ∀ a, (f a).result = (g a).result) : (x >>= f).result = (y >>= g).result := by
  rw [result_bind, result_bind, hx]
  exact congrArg _ (funext hf)

/-- What comes after a first step that is the same. -/
theorem result_next_congr {x : Logged ε α} {f g : α → Logged ε β}
    (hf : ∀ a, (f a).result = (g a).result) : (x >>= f).result = (x >>= g).result :=
  result_bind_congr rfl hf

end Logged

open Logged (result_bind_congr result_next_congr)

variable {trace trace' : TraceId}

/-! ## Translating -/

section Translating

variable [Machine]

omit [Machine] in
theorem result_note_congr {α : Type} {level : Level} {message message' : Text}
    {f g : Translating α} (h : f.result = g.result) :
    (noteTranslation trace level message >>= fun _ => f).result =
      (noteTranslation trace' level message' >>= fun _ => g).result :=
  result_bind_congr rfl fun _ => h

theorem result_noteSkipped (raw : Value) :
    (noteSkipped trace raw).result = (noteSkipped trace' raw).result := by
  unfold noteSkipped
  split <;> rfl

theorem result_mergeParameters (raws : List Value) (merged : Assoc (Text × Text) Value) :
    (mergeParameters trace raws merged).result = (mergeParameters trace' raws merged).result := by
  induction raws generalizing merged with
  | nil => rfl
  | cons raw rest ih =>
    simp only [mergeParameters]
    split
    · exact result_bind_congr (result_noteSkipped raw) fun _ => ih merged
    · refine result_next_congr fun name => ?_
      split
      · exact result_note_congr (ih merged)
      · exact result_next_congr fun place => ih _

theorem result_buildParameters (merged : Assoc (Text × Text) Value) :
    (buildParameters trace merged).result = (buildParameters trace' merged).result := by
  induction merged with
  | nil => rfl
  | cons e rest ih =>
    simp only [buildParameters]
    split
    · exact result_note_congr ih
    · refine result_next_congr fun type => ?_
      refine result_next_congr fun description => ?_
      refine result_next_congr fun p => ?_
      exact result_note_congr (result_bind_congr ih fun more => rfl)

theorem result_extractParameters (shared : List Value) (operation : Value) :
    (extractParameters trace shared operation).result =
      (extractParameters trace' shared operation).result :=
  result_next_congr fun _ =>
    result_bind_congr (result_mergeParameters _ _) fun merged => result_buildParameters merged

theorem result_extractBody (method : Method) (path : Text) (operation : Value) :
    (extractBody trace method path operation).result =
      (extractBody trace' method path operation).result := by
  unfold extractBody
  split
  · split
    · exact result_note_congr rfl
    · split
      · rfl
      · exact result_next_congr fun schema => result_note_congr rfl
  · rfl

theorem result_responseSchemas (entries : Entries Value) :
    (responseSchemas trace entries).result = (responseSchemas trace' entries).result := by
  induction entries with
  | nil => rfl
  | cons e rest ih =>
    refine result_next_congr fun status => ?_
    split
    · exact result_note_congr ih
    · exact result_next_congr fun schema => result_bind_congr ih fun more => rfl

theorem result_extractResponses (operation : Value) :
    (extractResponses trace operation).result = (extractResponses trace' operation).result := by
  unfold extractResponses
  split
  · exact result_bind_congr (result_responseSchemas _) fun pairs => rfl
  · rfl

theorem result_buildEndpoint (path : Text) (method : Method) (operation : Value)
    (shared : List Value) :
    (buildEndpoint trace path method operation shared).result =
      (buildEndpoint trace' path method operation shared).result := by
  refine congrArg (Except.mapError (Fault.inOperation method path)) ?_
  refine result_next_congr fun summary => ?_
  refine result_bind_congr (result_extractParameters _ _) fun parameters => ?_
  refine result_bind_congr (result_extractBody _ _ _) fun body => ?_
  exact result_bind_congr (result_extractResponses _) fun responses => rfl

theorem result_pathEndpoints (path : Text) (item : Entries Value) (shared : List Value)
    (methods : List Method) : (pathEndpoints trace path item shared methods).result =
      (pathEndpoints trace' path item shared methods).result := by
  induction methods with
  | nil => rfl
  | cons method rest ih =>
    simp only [pathEndpoints]
    split
    · exact ih
    · refine result_next_congr fun operation => ?_
      refine result_bind_congr (result_buildEndpoint _ _ _ _) fun endpoint => ?_
      exact result_note_congr (result_bind_congr ih fun more => rfl)

theorem result_extractEndpoints (paths : Entries Value) :
    (extractEndpoints trace paths).result = (extractEndpoints trace' paths).result := by
  induction paths with
  | nil => rfl
  | cons e rest ih =>
    refine result_next_congr fun path => ?_
    refine result_next_congr fun item => ?_
    refine result_note_congr (result_next_congr fun shared => ?_)
    refine result_bind_congr (result_pathEndpoints _ _ _ _) fun here => ?_
    exact result_bind_congr ih fun more => rfl

theorem result_componentSchemas (entries : Entries Value) :
    (componentSchemas trace entries).result = (componentSchemas trace' entries).result := by
  induction entries with
  | nil => rfl
  | cons e rest ih =>
    refine result_next_congr fun name => ?_
    refine result_next_congr fun schema => ?_
    exact result_note_congr (result_bind_congr ih fun more => rfl)

theorem result_extractSchemas (document : Value) :
    (extractSchemas trace document).result = (extractSchemas trace' document).result := by
  unfold extractSchemas
  split
  · exact result_bind_congr (result_componentSchemas _) fun pairs => rfl
  · exact result_note_congr rfl

theorem result_baseUrlOf (default : Text) (document : Value) :
    (baseUrlOf trace default document).result = (baseUrlOf trace' default document).result := by
  unfold baseUrlOf
  split
  · rfl
  · exact result_note_congr rfl

omit [Machine] in
theorem result_requiredParts (document : Value) :
    (requiredParts trace document).result = (requiredParts trace' document).result := by
  unfold requiredParts
  split
  · split
    · split
      · exact result_note_congr rfl
      · exact result_note_congr rfl
    · exact result_note_congr rfl
  · rfl

theorem result_translateTree (defaultUrl : Text) (document : Value) :
    (translateTree trace defaultUrl document).result =
      (translateTree trace' defaultUrl document).result := by
  refine result_bind_congr (result_requiredParts document) fun (info, paths) => ?_
  refine result_next_congr fun title => ?_
  refine result_next_congr fun version => ?_
  refine result_next_congr fun description => ?_
  refine result_bind_congr (result_baseUrlOf defaultUrl document) fun baseUrl => ?_
  refine result_note_congr (result_bind_congr (result_extractEndpoints paths) fun endpoints => ?_)
  split
  · rfl
  · refine result_note_congr (result_bind_congr (result_extractSchemas document) fun schemas => ?_)
    refine result_note_congr ?_
    dsimp only
    split
    · rfl
    · exact result_note_congr rfl

/-- **What a text is translated to does not depend on the trace of the request.** -/
theorem result_translate (trace trace' : TraceId) (defaultUrl : Text) (text : List Char) :
    (translate trace defaultUrl text).result = (translate trace' defaultUrl text).result := by
  refine result_note_congr (result_next_congr fun document => ?_)
  refine result_next_congr fun _ => ?_
  exact result_next_congr fun tree => result_translateTree defaultUrl tree

end Translating

/-! ## Packing -/

namespace Archive

theorem result_entryOf_trace (level : Option Int) (project : Text) (written : List Text)
    (f : ProjectFile) : (entryOf trace level project written f).result =
      (entryOf trace' level project written f).result := by
  simp only [entryOf]
  split
  · rfl
  · split
    · rfl
    · split
      · rfl
      · split
        · rfl
        · split <;> rfl

theorem result_entriesOf (level : Option Int) (project : Text) (written : List Text)
    (files : List ProjectFile) : (entriesOf trace level project written files).result =
      (entriesOf trace' level project written files).result := by
  induction files generalizing written with
  | nil => rfl
  | cons f rest ih =>
    refine result_bind_congr (result_entryOf_trace level project written f) fun e => ?_
    exact result_bind_congr (ih _) fun more => rfl

/-- **What a project is packed to does not depend on the trace of the request.** -/
theorem result_pack (trace trace' : TraceId) (level : Option Int) (p : Project) :
    (pack trace level p).result = (pack trace' level p).result := by
  refine result_bind_congr rfl fun _ => ?_
  refine result_bind_congr (result_entriesOf level p.name [] p.files) fun entries => ?_
  exact result_bind_congr rfl fun _ => rfl

end Archive

end SuiteForge
