/-
# What is read of a tree

A text that is read of a tree is there unless an integer stands in it that is not written, or it is
a collection that goes deeper than the machine has room for where the text is read
(`textOf_meets`). A part that must be a mapping or a list is one unless another value stands there
(`mappingOf_meets`, `listOf_meets`). What is in the way of the text of a part is in the way of the
text of the whole.
-/

import SuiteForge.Proofs.Levels
import SuiteForge.Proofs.Translate.Endpoints

namespace SuiteForge

/-! ## Parts of trees -/

namespace Value

theorem isNull_iff {v : Value} : v.isNull = true ↔ v = .scalar .null := by
  unfold isNull
  split
  · simp
  · next h => simpa using h

theorem isMap_iff {v : Value} : v.isMap = true ↔ ∃ entries, v = .map entries := by
  cases v <;> simp [isMap]

variable {room : Nat} {fault : Fault}

theorem untold_of_find? {entries : Entries Value} {key : Scalar} {v : Value}
    (h : Entries.find? key entries = some v) (hv : v.Untold room fault) :
    ∃ e ∈ entries, e.2.Untold room fault := by
  obtain ⟨e, he, rfl⟩ := Option.map_eq_some_iff.1 h
  exact ⟨e, List.mem_of_find?_eq_some he, hv⟩

theorem untold_of_get? {v w : Value} {key : Text} (h : v.get? key = some w)
    (hw : w.Untold room fault) : v.Untold room fault := by
  cases v with
  | map entries =>
    obtain ⟨e, he, hu⟩ := untold_of_find? h hw
    exact untold_of_entry he hu
  | _ => cases h

end Value

section Parts

variable {room : Nat} {fault : Fault}

theorem untold_of_preferred {entries : Entries Value} {media : Value}
    (h : Preferred entries media) (hm : media.Untold room fault) :
    (Value.map entries).Untold room fault := by
  cases h with
  | json found _ =>
    obtain ⟨e, he, hu⟩ := Value.untold_of_find? found hm
    exact Value.untold_of_entry he hu
  | first _ head =>
    rw [head]
    exact Value.untold_of_entry (e := (_, media)) List.mem_cons_self hm

theorem untold_of_contentSchema? {content : Option Value} {schema : Value}
    (h : contentSchema? content = some schema) (hs : schema.Untold room fault) :
    ∃ v, content = some v ∧ v.Untold room fault := by
  obtain ⟨entries, media, rfl, hmedia, hschema, -⟩ := contentSchema?_eq_some.1 h
  exact ⟨_, rfl, untold_of_preferred hmedia (Value.untold_of_get? hschema hs)⟩

theorem untold_of_getD {v? : Option Value} (h : (v?.getD (.scalar .null)).Untold room fault) :
    ∃ v, v? = some v ∧ v.Untold room fault := by
  cases v? with
  | none => exact absurd ⟨fault, h⟩ Value.not_unwritable_null
  | some v => exact ⟨v, rfl, h⟩

theorem untold_of_parameterSchema {raw : Value} (h : (parameterSchema raw).Untold room fault) :
    raw.Untold room fault := by
  obtain ⟨v, hv, hw⟩ := untold_of_getD h
  rcases Option.or_eq_some_iff.1 hv with hv | ⟨-, hv⟩
  · exact Value.untold_of_get? (Option.filter_eq_some_iff.1 hv).1 hw
  · obtain ⟨media, hmedia, hv⟩ := Option.bind_eq_some_iff.1 hv
    obtain ⟨entries, hentries⟩ := preferredMedia?_isMap hmedia
    rw [hentries] at hmedia
    have hm : media.Untold room fault :=
      Value.untold_of_get? (Option.filter_eq_some_iff.1 hv).1 hw
    exact Value.untold_of_get? hentries
      (untold_of_preferred (preferredMedia?_eq_some.1 hmedia).1 hm)

theorem untold_of_listOf {place : Section} {v? : Option Value} {items : List Value}
    (h : listOf place v? = .ok items) {item : Value} (hitem : item ∈ items)
    (hu : item.Untold room fault) : ∃ v, v? = some v ∧ v.Untold room fault := by
  unfold listOf at h
  split at h
  · obtain rfl := Except.ok.inj h
    cases hitem
  · obtain rfl := Except.ok.inj h
    cases hitem
  · obtain rfl := Except.ok.inj h
    exact ⟨_, rfl, Value.untold_of_item hitem hu⟩
  · cases h

end Parts

/-! ## Room -/

namespace Machine

variable [Machine]

/-- The least room that there is where a translation shows a value. -/
def floor : Nat :=
  min (room (maxSchemaDepth + 6)) (recordRoom?.getD (room (maxSchemaDepth + 6)))

theorem floor_le_room {calls : Nat} (h : calls ≤ maxSchemaDepth + 6) : floor ≤ room calls :=
  Nat.le_trans (Nat.min_le_left ..) (room_le h)

theorem floor_le_record {records : Nat} (h : recordRoom? = some records) : floor ≤ records := by
  rw [floor, h]
  exact Nat.min_le_right ..

end Machine

/-! ## Texts -/

section Texts

variable {P : Fault → Prop}

theorem keyText_meets {key : Scalar} (h : key.Large → P (.stray (.numeral .tooLarge))) :
    Meets P (fun t => keyText key = .ok t ∧ ¬ key.Large) (keyText key) := by
  have hfails := key.fails_display
  refine ⟨fun f hf => ?_, fun t ht => ⟨ht, fun hlarge => ?_⟩⟩
  · obtain ⟨g, hg, rfl⟩ := mapError_eq_error.1 hf
    obtain ⟨rfl, hlarge⟩ := hfails.only g hg
    exact h hlarge
  · exact hfails.ok_iff.1 ⟨t, mapError_eq_ok.1 ht⟩ _ ⟨rfl, hlarge⟩

variable [Machine] {calls : Nat}

theorem shown_meets {v : Value} (h : ∀ f, v.Untold (Machine.room calls) f → P f) :
    Meets P (fun t => shown v calls = .ok t ∧ ¬ v.Unwritable (Machine.room calls))
      (shown v calls) := by
  have hfails := v.fails_display (Machine.room calls)
  refine ⟨fun f hf => ?_, fun t ht => ⟨ht, ?_⟩⟩
  · obtain ⟨g, hg, rfl⟩ := mapError_eq_error.1 hf
    exact h _ (hfails.only g hg)
  · have hno := hfails.ok_iff.1 ⟨t, mapError_eq_ok.1 ht⟩
    rintro ⟨_, large | deep⟩
    · exact hno (.numeral .tooLarge) (.number large)
    · exact hno .tooDeep (.depth deep)

theorem shown_ok_iff (v : Value) (calls : Nat) :
    (∃ t, shown v calls = .ok t) ↔ ¬ v.Unwritable (Machine.room calls) := by
  have hmeets : Meets (v.Untold (Machine.room calls)) _ (shown v calls) := shown_meets fun _ => id
  cases hv : shown v calls with
  | ok t => exact iff_of_true ⟨t, rfl⟩ (hmeets.gives t hv).2
  | error f => exact iff_of_false nofun (not_not_intro ⟨f, hmeets.fails f hv⟩)

theorem textOf_meets {v? : Option Value}
    (h : ∀ v, v? = some v → ∀ f, v.Untold (Machine.room (calls + 1)) f → P f) :
    Meets P (fun t => textOf v? calls = .ok t ∧
      ∀ v, v? = some v → ¬ v.Unwritable (Machine.room (calls + 1))) (textOf v? calls) := by
  cases v? with
  | none => exact meets_ok ⟨rfl, nofun⟩
  | some v =>
    simp only [textOf]
    split
    · next hnull =>
      obtain rfl := Value.isNull_iff.1 hnull
      refine meets_ok ⟨rfl, ?_⟩
      rintro _ ⟨⟩
      exact Value.not_unwritable_null
    · refine (shown_meets (h v rfl)).mono (fun _ => id) fun t ht => ⟨ht.1, ?_⟩
      rintro _ ⟨⟩
      exact ht.2

/-- Reading the format of a schema has this fault: the format counts, and has no text. -/
structure FormatFault (calls : Nat) (schema : Value) (f : Fault) : Prop where
  declared : (declaredType? schema).isSome = true
  format : ∃ v, schema.get? "format" = some v ∧ v.isTruthy = true ∧
    v.Untold (Machine.room (calls + 1)) f

/-- The format of a schema is read where a type is declared. -/
theorem ofSchema_meets {schema : Value} (h : ∀ f, FormatFault calls schema f → P f) :
    Meets P (fun type => ResolvedType.ofSchema schema calls = .ok type ∧
      ∀ f, ¬ FormatFault calls schema f) (ResolvedType.ofSchema schema calls) := by
  unfold ResolvedType.ofSchema
  cases hdeclared : declaredType? schema with
  | none => exact meets_ok ⟨rfl, fun f hf => by simpa [hdeclared] using hf.declared⟩
  | some type =>
    have hsome : (declaredType? schema).isSome = true := by rw [hdeclared]; rfl
    have hformat : Meets P (fun _ => ∀ f, ¬ FormatFault calls schema f)
        (formatOf schema (calls + 1)) := by
      unfold formatOf
      cases hv : schema.get? "format" with
      | none =>
        refine meets_ok fun f ⟨_, w, hw, _⟩ => ?_
        cases hv.symm.trans hw
      | some v =>
        dsimp only
        split
        · next htruthy =>
          have hshown := shown_meets (P := P) fun f hf => h f ⟨hsome, v, hv, htruthy, hf⟩
          refine ⟨hshown.fails.map _, fun t ht f ⟨_, w, hw, _, hf⟩ => ?_⟩
          obtain ⟨written, hwritten, -⟩ := map_eq_ok.1 ht
          obtain rfl := Option.some.inj (hv.symm.trans hw)
          exact (hshown.gives written hwritten).2 ⟨f, hf⟩
        · next hfalsy =>
          refine meets_ok fun f ⟨_, w, hw, htruthy, _⟩ => ?_
          obtain rfl := Option.some.inj (hv.symm.trans hw)
          exact hfalsy htruthy
    refine ⟨hformat.fails.map _, fun resolved hresolved => ⟨hresolved, ?_⟩⟩
    obtain ⟨format, hread, -⟩ := map_eq_ok.1 hresolved
    exact hformat.gives format hread

theorem untold_of_formatFault {schema : Value} {f : Fault} (h : FormatFault calls schema f) :
    schema.Untold (Machine.room (calls + 1)) f := by
  obtain ⟨v, hv, -, hf⟩ := h.format
  exact Value.untold_of_get? hv hf

/-- Where a value is shown in a record, there is room for it, or an integer that is not written is
met before there is none. -/
def Recordable (raw : Value) : Prop :=
  ∀ records, Machine.recordRoom? = some records → raw.quoted records ≠ .error .tooDeep

theorem untold_of_not_recordable {raw : Value} (h : ¬ Recordable raw) :
    raw.Untold Machine.floor (.recursion .value) := by
  obtain ⟨records, h⟩ := not_forall.1 h
  obtain ⟨hrecords, hdeep⟩ := Classical.not_imp.1 h
  obtain ⟨hnumber, -⟩ | ⟨-, hlevels⟩ := (raw.fails_quoted records).only _ (not_not.1 hdeep)
  · cases hnumber
  · refine .depth ?_
    cases raw with
    | scalar s =>
      have hroom := Machine.three_le hrecords
      exact absurd (Nat.lt_of_lt_of_le hlevels s.levels_le) (Nat.not_lt.2 hroom)
    | _ => exact Nat.lt_of_le_of_lt (Machine.floor_le_record hrecords) hlevels

theorem noteSkipped_meets {trace : TraceId} {raw : Value}
    (h : ¬ Recordable raw → P (.recursion .value)) :
    Meets P (fun _ => Recordable raw) (noteSkipped trace raw).result := by
  unfold noteSkipped
  split
  · next hdeep =>
    obtain ⟨records, hrecords, hquoted⟩ := Option.map_eq_some_iff.1 hdeep
    exact meets_error (h fun hall => hall records hrecords hquoted)
  · next hother =>
    refine meets_ok fun records hrecords hquoted => hother ?_
    rw [hrecords, Option.map_some, hquoted]

end Texts

/-! ## Parts -/

section Meets

variable {P : Fault → Prop}

theorem mappingOf_meets {place : Section} {v? : Option Value}
    (h : ∀ v, v? = some v → v.isNull = false → v.isMap = false →
      P (.parse (.expectedMapping place v.kindName))) :
    Meets P (fun entries => mappingOf place v? = .ok entries ∧
        ∀ v, v? = some v → v.isNull = true ∨ v.isMap = true)
      (mappingOf place v?) := by
  unfold mappingOf
  split
  · exact meets_ok ⟨rfl, nofun⟩
  · exact meets_ok ⟨rfl, by rintro _ ⟨⟩; exact .inl rfl⟩
  · exact meets_ok ⟨rfl, by rintro _ ⟨⟩; exact .inr rfl⟩
  · next v hnull hmap =>
    refine meets_error (h v rfl ?_ ?_)
    · exact Bool.eq_false_iff.2 fun h => hnull (Value.isNull_iff.1 h)
    · refine Bool.eq_false_iff.2 fun h => ?_
      obtain ⟨entries, rfl⟩ := Value.isMap_iff.1 h
      exact hmap entries rfl

theorem listOf_meets {place : Section} {v? : Option Value}
    (h : ∀ kind, P (.parse (.expectedList place kind))) :
    Meets P (fun items => listOf place v? = .ok items) (listOf place v?) := by
  refine FailsOnly.meets ?_
  unfold listOf
  split
  · exact failsOnly_ok _
  · exact failsOnly_ok _
  · exact failsOnly_ok _
  · exact failsOnly_error (h _)

end Meets

end SuiteForge
