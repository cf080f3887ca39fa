/-
# Dumped contracts are read back

What is dumped of an accepted contract is read as that contract (`Contract.revalidates`). The
two halves meet at `Contract.Accepted`: everything that is read is accepted, and everything
accepted is read back from its dump, model by model, with nothing left for the readers to put
right.
-/

import SuiteForge.Contract.Dump
import SuiteForge.Proofs.Contract.Accepted

namespace SuiteForge

theorem Checked.apply_ok {α β : Type} {f : Checked (α → β)} {a : Checked α} {g : α → β} {x : α}
    (hf : f = .ok g) (ha : a = .ok x) : Checked.apply f a = .ok (g x) := by
  rw [hf, ha]
  rfl

theorem Reader.items_sequence {α : Type} (problem : Problem) (r : Reader α) (form : DumpForm)
    (vs : List Value) : Reader.items problem r (form.sequence vs) = Reader.itemsFrom r 0 vs := by
  cases form <;> rfl

/-- Items that are read back one by one are read back together. -/
theorem Reader.items_dumped {α : Type} {problem : Problem} {r : Reader α} {form : DumpForm}
    {dump : α → Value} {as : List α} (h : ∀ a ∈ as, r (dump a) = .ok a) :
    Reader.items problem r (form.sequence (as.map dump)) = .ok as := by
  rw [items_sequence, itemsFrom_eq_ok, List.forall₂_map_left_iff]
  exact List.forall₂_same.2 h

/-! ## Schemas -/

namespace Schema

theorem dumpNamed_eq_map (ps : List (Text × Schema)) :
    dumpNamed ps = ps.map fun e => (.text e.1, e.2.dump) := by
  induction ps with
  | nil => rfl
  | cons e rest ih => rw [dumpNamed, ih, List.map_cons]

theorem entriesOf_eq_all (entries : Entries Value) :
    entriesOf entries = Checked.all (entries.map fun e => Reader.entry e.1 (ofValue e.2)) := by
  induction entries with
  | nil => rfl
  | cons e rest ih => rw [entriesOf, ih, List.map_cons, Checked.all]

theorem mapping_dumpNamed {ps : List (Text × Schema)}
    (h : ∀ e ∈ ps, ofValue e.2.dump = .ok e.2) :
    Reader.mapping ofValue (.map (dumpNamed ps)) = .ok ps := by
  rw [dumpNamed_eq_map, Reader.mapping_eq_ok, List.forall₂_map_left_iff]
  exact List.forall₂_same.2 fun e he => ⟨rfl, h e he⟩

theorem itemOf_eq_nullable (v : Value) : itemOf v = Reader.nullable ofValue v := by
  cases v with
  | scalar s => cases s <;> rfl
  | _ => rfl

theorem nullable_dumpItem {item : Option Schema}
    (h : ∀ t, item = some t → ofValue t.dump = .ok t) :
    Reader.nullable ofValue (dumpItem item) = .ok item := by
  cases item with
  | none => rfl
  | some t =>
    have hmap : Reader.nullable ofValue t.dump = (ofValue t.dump).map some := by cases t; rfl
    rw [dumpItem, hmap, h t rfl]
    rfl

/-- **An accepted schema is read back.** -/
theorem ofValue_dump {s : Schema} (h : s.Accepted) : ofValue s.dump = .ok s := by
  induction h with
  | @intro s made _ _ ihproperties ihitem =>
    obtain ⟨name, kind, type, properties, item, description⟩ := s
    have hproperties : propertiesOf (.map (dumpNamed properties)) = .ok properties :=
      (entriesOf_eq_all _).trans (mapping_dumpNamed ihproperties)
    have hitem : itemOf (dumpItem item) = .ok item :=
      (itemOf_eq_nullable _).trans (nullable_dumpItem ihitem)
    have hkind : Reader.choice Kind.ofName? (.scalar (.text kind.name)) = .ok kind :=
      Reader.choice_eq_ok.2 ⟨_, rfl, kind.ofName?_name⟩
    have htype : Reader.choice ResolvedType.ofName? (.scalar (.text type.name)) = .ok type :=
      Reader.choice_eq_ok.2 ⟨_, rfl, type.ofName?_name⟩
    refine bind_eq_ok.2 ⟨⟨name, kind, type, properties, item, description⟩, ?_, ?_⟩
    · exact Checked.apply_ok (Checked.apply_ok (Checked.apply_ok (Checked.apply_ok
        (Checked.apply_ok rfl (mapError_eq_ok.2 hkind)) (mapError_eq_ok.2 htype))
        (mapError_eq_ok.2 hproperties)) (mapError_eq_ok.2 hitem)) rfl
    · exact check_eq_ok.2 ⟨rfl, made_iff.1 made⟩

end Schema

/-! ## Parameters and endpoints -/

theorem Method.upper_name (m : Method) : m.name.upper = m.name := by cases m <;> decide

/-- **An accepted parameter is read back:** its location is in lower case already, and it is
required if it is sent in the path. -/
theorem Parameter.ofValue_dump {p : Parameter} (h : p.Accepted) : ofValue p.dump = .ok p := by
  obtain ⟨hname, hrequired⟩ := accepted_iff.1 h
  obtain ⟨name, location, type, required, description⟩ := p
  have htype : Reader.choice ResolvedType.ofName? (.scalar (.text type.name)) = .ok type :=
    Reader.choice_eq_ok.2 ⟨_, rfl, type.ofName?_name⟩
  refine Checked.apply_ok (Checked.apply_ok (Checked.apply_ok (Checked.apply_ok
    (map_eq_ok.2 ⟨name, ?_, rfl⟩) ?_) ?_) ?_) rfl
  · exact Reader.required_eq_ok.2 ⟨_, rfl, readName_eq_ok.2 ⟨rfl, hname⟩⟩
  · cases location <;> rfl
  · exact Reader.optional_eq_ok.2 (.inr ⟨_, rfl, htype⟩)
  · cases location with
    | path => exact congrArg Except.ok (hrequired rfl).symm
    | _ => rfl

theorem Endpoint.readMethod_name (m : Method) :
    readMethod (.scalar (.text m.name)) = .ok m := by
  rw [readMethod, m.upper_name]
  exact Reader.choice_eq_ok.2 ⟨_, rfl, m.ofName?_name⟩

/-- **An accepted endpoint is read back.** -/
theorem Endpoint.ofValue_dump (form : DumpForm) {e : Endpoint} (h : e.Accepted) :
    ofValue (e.dump form) = .ok e := by
  obtain ⟨d, hd⟩ := h.made
  obtain ⟨rfl, hid, hbody⟩ := check_eq_ok.1 hd
  refine bind_eq_ok.2 ⟨d, ?_, Checked.rules_eq_ok.2 ⟨rfl, by simpa [bodyRule] using hbody⟩⟩
  refine Checked.apply_ok (Checked.apply_ok (Checked.apply_ok (Checked.apply_ok (Checked.apply_ok
    (Checked.apply_ok (Checked.apply_ok rfl ?_) rfl) ?_) ?_) ?_) ?_) ?_
  · exact Reader.required_eq_ok.2 ⟨_, rfl, readMethod_name d.method⟩
  · exact Reader.required_eq_ok.2 ⟨_, rfl, readOperationId_eq_ok.2 ⟨rfl, hid⟩⟩
  · exact Reader.optional_eq_ok.2 (.inr ⟨_, rfl, Reader.items_dumped fun p hp =>
      Parameter.ofValue_dump (h.parameters p hp)⟩)
  · exact Reader.optional_eq_ok.2 (.inr ⟨_, rfl, Schema.nullable_dumpItem fun s hs =>
      Schema.ofValue_dump (h.body s hs)⟩)
  · exact Reader.optional_eq_ok.2 (.inr ⟨_, rfl, Schema.mapping_dumpNamed fun r hr =>
      Schema.ofValue_dump (h.responses r hr)⟩)
  · exact Reader.optional_eq_ok.2 (.inr ⟨_, rfl, Reader.items_dumped fun _ _ => rfl⟩)

/-- **An accepted contract is read back:** it has no null, which would count as absent, and it has
an endpoint. -/
theorem Contract.ofValue_dump (form : DumpForm) {c : Contract} (h : c.Accepted) :
    ofValue (c.dump form) = .ok c := by
  obtain ⟨d, hd⟩ := h.made
  obtain ⟨rfl, hendpoints⟩ := check_eq_ok.1 hd
  have hitems : Reader.items .notTuple Endpoint.ofValue
      (form.sequence (d.endpoints.map fun e => e.dump form)) = .ok d.endpoints :=
    Reader.items_dumped fun e he => Endpoint.ofValue_dump form (h.endpoints e he)
  have hread : readEndpoints (form.sequence (d.endpoints.map fun e => e.dump form)) =
      .ok d.endpoints := by
    rw [readEndpoints, hitems, ok_bind, if_neg (by simpa using hendpoints)]
  have hschemas : Reader.mapping Schema.ofValue (.map (Schema.dumpNamed d.schemas)) =
      .ok d.schemas := Schema.mapping_dumpNamed fun s hs => Schema.ofValue_dump (h.schemas s hs)
  refine Checked.apply_ok (Checked.apply_ok (Checked.apply_ok (Checked.apply_ok (Checked.apply_ok
    rfl rfl) rfl) rfl) ?_) ?_
  · exact Reader.required_eq_ok.2 ⟨_, by cases form <;> rfl, hread⟩
  · exact Reader.optional_eq_ok.2 (.inr ⟨_, by cases form <;> rfl, hschemas⟩)

end SuiteForge
