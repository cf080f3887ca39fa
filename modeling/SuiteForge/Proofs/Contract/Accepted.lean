/-
# Contracts that are accepted

A contract is accepted if it and every model in it, at any depth, is one that the model's own check
gave back (`Contract.Accepted`). Whatever is read from a value is accepted
(`Contract.accepted_of_ofValue`): a reader gives a model only when its fields are good and keep the
rules.
-/

import SuiteForge.Contract.Basic
import SuiteForge.Proofs.Outcome

namespace SuiteForge

/-! ## What readers give -/

namespace Checked

variable {α : Type}

theorem rules_eq_ok {a b : α} {rs : List (Bool × Rule)} :
    rules a rs = .ok b ↔ a = b ∧ ∀ r ∈ rs, r.1 = true := by
  induction rs with
  | nil => simp [rules]
  | cons r rest ih =>
    obtain ⟨holds, rule⟩ := r
    cases holds <;> simp [rules, fault, ih]

theorem all_eq_ok {xs : List (Checked α)} {as : List α} :
    all xs = .ok as ↔ List.Forall₂ (fun x a => x = .ok a) xs as := by
  induction xs generalizing as with
  | nil => simp [all, eq_comm]
  | cons x rest ih =>
    simp only [all, apply_eq_ok, map_eq_ok, ih, List.forall₂_cons_left_iff]
    constructor
    · rintro ⟨_, more, ⟨a, ha, rfl⟩, hmore, rfl⟩
      exact ⟨a, more, ha, hmore, rfl⟩
    · rintro ⟨a, more, ha, hmore, rfl⟩
      exact ⟨_, more, ⟨a, ha, rfl⟩, hmore, rfl⟩

end Checked

namespace Reader

variable {α : Type} {r : Reader α}

theorem itemsFrom_eq_ok {i : Nat} {vs : List Value} {as : List α} :
    itemsFrom r i vs = .ok as ↔ List.Forall₂ (fun v a => r v = .ok a) vs as := by
  induction vs generalizing i as with
  | nil => simp [itemsFrom, eq_comm]
  | cons v rest ih =>
    simp only [itemsFrom, Checked.apply_eq_ok, map_eq_ok, Checked.within, mapError_eq_ok, ih,
      List.forall₂_cons_left_iff]
    constructor
    · rintro ⟨_, more, ⟨a, ha, rfl⟩, hmore, rfl⟩
      exact ⟨a, more, ha, hmore, rfl⟩
    · rintro ⟨a, more, ha, hmore, rfl⟩
      exact ⟨_, more, ⟨a, ha, rfl⟩, hmore, rfl⟩

theorem forall_of_items {problem : Problem} {v : Value} {as : List α}
    (h : items problem r v = .ok as) {P : α → Prop} (hP : ∀ w a, r w = .ok a → P a) :
    ∀ a ∈ as, P a := by
  have hfrom : ∃ vs, itemsFrom r 0 vs = .ok as := by
    unfold items at h
    split at h
    · exact ⟨_, h⟩
    · exact ⟨_, h⟩
    · exact ⟨_, h⟩
    · cases h
  obtain ⟨vs, hvs⟩ := hfrom
  intro a ha
  obtain ⟨w, -, hw⟩ := exists_left_of_forall₂ (itemsFrom_eq_ok.1 hvs) ha
  exact hP w a hw

theorem entry_eq_ok {k : Scalar} {x : Checked α} {e : Text × α} :
    entry k x = .ok e ↔ k = .text e.1 ∧ x = .ok e.2 := by
  obtain ⟨key, a⟩ := e
  have hkey : ∀ t, keyText k = .ok t ↔ k = .text t := fun t => by cases k <;> simp [keyText]
  simp only [entry, Checked.apply_eq_ok, map_eq_ok, hkey, Checked.within, mapError_eq_ok]
  constructor
  · rintro ⟨_, b, ⟨t, rfl, rfl⟩, hb, heq⟩
    obtain ⟨rfl, rfl⟩ := Prod.mk.inj heq
    exact ⟨rfl, hb⟩
  · rintro ⟨rfl, ha⟩
    exact ⟨_, a, ⟨key, rfl, rfl⟩, ha, rfl⟩

theorem choice_eq_ok {ofName? : Text → Option α} {v : Value} {a : α} :
    choice ofName? v = .ok a ↔ ∃ t, v = .scalar (.text t) ∧ ofName? t = some a := by
  unfold choice
  split
  · next t => cases h : ofName? t <;> simp [Checked.fault, h]
  · next h => exact iff_of_false nofun fun ⟨t, ht, _⟩ => h t ht

theorem mapping_eq_ok {entries : Entries Value} {es : List (Text × α)} :
    mapping r (.map entries) = .ok es ↔
      List.Forall₂ (fun e f => e.1 = .text f.1 ∧ r e.2 = .ok f.2) entries es := by
  simp only [mapping, Checked.all_eq_ok, List.forall₂_map_left_iff, entry_eq_ok]

theorem forall_of_mapping {v : Value} {es : List (Text × α)} (h : mapping r v = .ok es)
    {P : α → Prop} (hP : ∀ w a, r w = .ok a → P a) : ∀ e ∈ es, P e.2 := by
  cases v with
  | map entries =>
    intro e he
    obtain ⟨entry, -, -, hentry⟩ := exists_left_of_forall₂ (mapping_eq_ok.1 h) he
    exact hP entry.2 e.2 hentry
  | _ => cases h

theorem eq_some_of_nullable {v : Value} {a : α} (h : nullable r v = .ok (some a)) :
    r v = .ok a := by
  unfold nullable at h
  split at h
  · cases h
  · obtain ⟨b, hb, hab⟩ := map_eq_ok.1 h
    exact hb.trans (congrArg _ (Option.some.inj hab))

theorem required_eq_ok {name : String} {entries : Entries Value} {a : α} :
    required name r entries = .ok a ↔
      ∃ v, Entries.find? (.text name) entries = some v ∧ r v = .ok a := by
  unfold required
  split
  · next h => simp [h]
  · next v h => simp [h, Checked.within, mapError_eq_ok]

theorem optional_eq_ok {name : String} {default : α} {entries : Entries Value} {a : α} :
    optional name default r entries = .ok a ↔
      (Entries.find? (.text name) entries = none ∧ default = a) ∨
        ∃ v, Entries.find? (.text name) entries = some v ∧ r v = .ok a := by
  unfold optional
  split
  · next h => simp [h]
  · next v h => simp [h, Checked.within, mapError_eq_ok]

/-- What holds of all items that are read holds of those of a field that is empty by default. -/
theorem forall_of_optional {name : String} {entries : Entries Value} {r : Reader (List α)}
    {as : List α} (h : optional name [] r entries = .ok as) {P : α → Prop}
    (hread : ∀ v, r v = .ok as → ∀ a ∈ as, P a) : ∀ a ∈ as, P a := by
  rcases optional_eq_ok.1 h with ⟨-, rfl⟩ | ⟨v, -, hv⟩
  · exact fun _ ha => by cases ha
  · exact hread v hv

end Reader

/-! ## Accepted models -/

/-- A model is what its check gave back for some fields. -/
def Made {α : Type} (check : α → Checked α) (a : α) : Prop := ∃ fields, check fields = .ok a

/-- A schema is accepted with all its parts. -/
inductive Schema.Accepted : Schema → Prop
  | intro {s : Schema} (made : Made Schema.check s)
      (properties : ∀ e ∈ s.properties, Schema.Accepted e.2)
      (item : ∀ t, s.item = some t → Schema.Accepted t) : Schema.Accepted s

def Parameter.Accepted (p : Parameter) : Prop := Made Parameter.check p

/-- An endpoint is accepted with all its parts. -/
structure Endpoint.Accepted (e : Endpoint) : Prop where
  made : Made Endpoint.check e
  parameters : ∀ p ∈ e.parameters, p.Accepted
  body : ∀ s, e.body = some s → s.Accepted
  responses : ∀ r ∈ e.responses, r.2.Accepted

/-- A contract is accepted with all its parts. -/
structure Contract.Accepted (c : Contract) : Prop where
  made : Made Contract.check c
  endpoints : ∀ e ∈ c.endpoints, e.Accepted
  schemas : ∀ s ∈ c.schemas, s.2.Accepted

namespace Schema

theorem check_eq_ok {s t : Schema} :
    s.check = .ok t ↔
      s = t ∧ s.item.isSome = (s.kind == .array) ∧ (s.properties = [] ∨ s.kind = .object) := by
  simp [check, Checked.rules_eq_ok, rules]

theorem made_iff {s : Schema} :
    Made check s ↔
      s.item.isSome = (s.kind == .array) ∧ (s.properties = [] ∨ s.kind = .object) := by
  simp [Made, check_eq_ok]

end Schema

theorem Parameter.accepted_iff {p : Parameter} :
    p.Accepted ↔ p.name.isBlank = false ∧ (p.location = .path → p.required = true) := by
  constructor
  · rintro ⟨d, hd⟩
    unfold check at hd
    split at hd
    · cases hd
    · next hname =>
      obtain rfl := Except.ok.inj hd
      exact ⟨by simpa using hname, fun hpath => by simp [show d.location = .path from hpath]⟩
  · rintro ⟨hname, hrequired⟩
    refine ⟨p, ?_⟩
    have hsame : (p.required || p.location == .path) = p.required := by
      by_cases hpath : p.location = .path
      · simp [hrequired hpath]
      · simp [hpath]
    simp [check, hname, hsame]

theorem Endpoint.check_eq_ok {d e : Endpoint} :
    d.check = .ok e ↔ d = e ∧ d.operationId.isBlank = false ∧
      (d.body = none ∨ d.method.hasBody = true) := by
  unfold check
  split
  · next h => simp [h]
  · next h => simp [Checked.rules_eq_ok, bodyRule, h]

theorem Contract.check_eq_ok {d c : Contract} :
    d.check = .ok c ↔ d = c ∧ d.endpoints ≠ [] := by
  unfold check
  split
  · next h => simpa using fun _ => h
  · next h => simpa using fun _ => h

/-! ## Schemas that are read -/

namespace Schema

/-- The schemas that a draft holds are accepted. -/
structure Draft.Good (d : Draft) : Prop where
  properties : ∀ ps, d.properties.getD (.ok []) = .ok ps → ∀ e ∈ ps, e.2.Accepted
  item : ∀ t, d.item.getD (.ok none) = .ok (some t) → t.Accepted

theorem Draft.Good.accepted {d : Draft} (good : d.Good) {s : Schema} (h : d.read = .ok s) :
    s.Accepted := by
  obtain ⟨fields, hfields, hcheck⟩ := bind_eq_ok.1 h
  simp only [Checked.apply_eq_ok, map_eq_ok, Checked.within, mapError_eq_ok] at hfields
  obtain ⟨_, _, ⟨_, item, ⟨_, properties, ⟨_, _, ⟨_, _, ⟨_, _, rfl⟩, _, rfl⟩, _, rfl⟩,
    hproperties, rfl⟩, hitem, rfl⟩, -, rfl⟩ := hfields
  obtain ⟨rfl, -⟩ := check_eq_ok.1 hcheck
  refine .intro ⟨_, hcheck⟩ (good.properties properties hproperties) ?_
  rintro t (rfl : item = some t)
  exact good.item t hitem

mutual

theorem accepted_of_ofValue {s : Schema} : ∀ {v : Value}, ofValue v = .ok s → s.Accepted
  | .map entries, h => (good_draftOf entries).accepted h

theorem good_draftOf : ∀ entries : Entries Value, (draftOf entries).Good
  | [] => by
    refine ⟨fun ps hps => ?_, nofun⟩
    obtain rfl := Except.ok.inj hps
    exact fun _ he => by cases he
  | (k, v) :: rest => by
    have good := good_draftOf rest
    simp only [draftOf]
    split_ifs
    · exact ⟨good.properties, good.item⟩
    · exact ⟨good.properties, good.item⟩
    · exact ⟨good.properties, good.item⟩
    · exact ⟨fun _ hps => forall_of_propertiesOf hps, good.item⟩
    · exact ⟨good.properties, fun _ ht => accepted_of_itemOf ht⟩
    · exact ⟨good.properties, good.item⟩
    · exact good

theorem forall_of_propertiesOf {ps : List (Text × Schema)} :
    ∀ {v : Value}, propertiesOf v = .ok ps → ∀ e ∈ ps, e.2.Accepted
  | .map _, h => forall_of_entriesOf h

theorem forall_of_entriesOf {ps : List (Text × Schema)} :
    ∀ {entries : Entries Value}, entriesOf entries = .ok ps → ∀ e ∈ ps, e.2.Accepted
  | [], h => by
    obtain rfl := Except.ok.inj h
    exact fun _ he => by cases he
  | (k, v) :: rest, h => by
    simp only [entriesOf, Checked.apply_eq_ok, map_eq_ok] at h
    obtain ⟨_, more, ⟨first, hfirst, rfl⟩, hmore, rfl⟩ := h
    exact List.forall_mem_cons.2
      ⟨accepted_of_ofValue (Reader.entry_eq_ok.1 hfirst).2, forall_of_entriesOf hmore⟩

theorem accepted_of_itemOf {t : Schema} : ∀ {v : Value}, itemOf v = .ok (some t) → t.Accepted
  | .map entries, h => by
    obtain ⟨_, hs, hst⟩ := map_eq_ok.1 h
    exact Option.some.inj hst ▸ (good_draftOf entries).accepted hs

end

end Schema

/-! ## Parameters, endpoints and contracts that are read -/

theorem Parameter.readName_eq_ok {v : Value} {t : Text} :
    readName v = .ok t ↔ v = .scalar (.text t) ∧ t.isBlank = false := by
  unfold readName
  split
  · next u =>
    split
    · next h => exact iff_of_false nofun fun ⟨heq, ht⟩ => by cases heq; simp [h] at ht
    · next h => simpa using fun heq : u = t => by simpa [← heq] using h
  · next h => exact iff_of_false nofun fun ⟨ht, _⟩ => h t ht

theorem Endpoint.readOperationId_eq_ok {v : Value} {t : Text} :
    readOperationId v = .ok t ↔ v = .scalar (.text t) ∧ t.isBlank = false := by
  unfold readOperationId
  split
  · next u =>
    split
    · next h => exact iff_of_false nofun fun ⟨heq, ht⟩ => by cases heq; simp [h] at ht
    · next h => simpa using fun heq : u = t => by simpa [← heq] using h
  · next h => exact iff_of_false nofun fun ⟨ht, _⟩ => h t ht

/-- The name of a parameter that is read is not blank, and if it is sent in the path then it is
required. -/
theorem Parameter.accepted_of_ofValue {v : Value} {p : Parameter} (h : ofValue v = .ok p) :
    p.Accepted := by
  cases v with
  | map entries =>
    simp only [ofValue, Reader.model, Checked.apply_eq_ok, map_eq_ok] at h
    obtain ⟨_, description, ⟨_, required, ⟨_, type, ⟨_, location, ⟨name, hname, rfl⟩, hlocation,
      rfl⟩, -, rfl⟩, hrequired, rfl⟩, -, rfl⟩ := h
    refine accepted_iff.2 ⟨?_, ?_⟩
    · obtain ⟨w, -, hw⟩ := Reader.required_eq_ok.1 hname
      exact (readName_eq_ok.1 hw).2
    · rintro (rfl : location = .path)
      rcases Reader.optional_eq_ok.1 hlocation with ⟨-, hdefault⟩ | ⟨w, hfound, hw⟩
      · cases hdefault
      · obtain ⟨t, rfl, ht⟩ := Reader.choice_eq_ok.1 hw
        have hpath : Location.path.name = t := by simpa using List.find?_some ht
        simp only [hfound, ← hpath, beq_self_eq_true, if_true] at hrequired
        exact (Except.ok.inj hrequired).symm
  | _ => cases h

theorem Endpoint.accepted_of_ofValue {v : Value} {e : Endpoint} (h : ofValue v = .ok e) :
    e.Accepted := by
  cases v with
  | map entries =>
    obtain ⟨fields, hfields, hrules⟩ := bind_eq_ok.1 h
    obtain ⟨rfl, hrule⟩ := Checked.rules_eq_ok.1 hrules
    simp only [Checked.apply_eq_ok, map_eq_ok] at hfields
    obtain ⟨_, codes, ⟨_, responses, ⟨_, body, ⟨_, parameters, ⟨_, operationId, ⟨_, summary,
      ⟨_, method, ⟨path, -, rfl⟩, -, rfl⟩, -, rfl⟩, hid, rfl⟩, hparameters, rfl⟩, hbody, rfl⟩,
      hresponses, rfl⟩, -, rfl⟩ := hfields
    refine ⟨⟨_, check_eq_ok.2 ⟨rfl, ?_, ?_⟩⟩, ?_, ?_, ?_⟩
    · obtain ⟨w, -, hw⟩ := Reader.required_eq_ok.1 hid
      exact (readOperationId_eq_ok.1 hw).2
    · simpa [bodyRule] using hrule
    · exact Reader.forall_of_optional hparameters fun _ hw =>
        Reader.forall_of_items hw fun _ _ => Parameter.accepted_of_ofValue
    · rintro s (rfl : body = some s)
      rcases Reader.optional_eq_ok.1 hbody with ⟨-, hnone⟩ | ⟨w, -, hw⟩
      · cases hnone
      · exact Schema.accepted_of_ofValue (Reader.eq_some_of_nullable hw)
    · exact Reader.forall_of_optional hresponses fun _ hw =>
        Reader.forall_of_mapping hw fun _ _ => Schema.accepted_of_ofValue
  | _ => cases h

theorem Contract.accepted_of_ofValue {v : Value} {c : Contract} (h : ofValue v = .ok c) :
    c.Accepted := by
  cases v with
  | map entries =>
    simp only [ofValue, Reader.model, Checked.apply_eq_ok, map_eq_ok] at h
    obtain ⟨_, schemas, ⟨_, endpoints, ⟨_, baseUrl, ⟨_, description, ⟨_, version,
      ⟨title, -, rfl⟩, -, rfl⟩, -, rfl⟩, -, rfl⟩, hendpoints, rfl⟩, hschemas, rfl⟩ := h
    obtain ⟨w, -, hw⟩ := Reader.required_eq_ok.1 hendpoints
    obtain ⟨es, hes, hcheck⟩ := bind_eq_ok.1 hw
    split at hcheck
    · cases hcheck
    · next hempty =>
      obtain rfl := Except.ok.inj hcheck
      refine ⟨⟨_, check_eq_ok.2 ⟨rfl, by simpa using hempty⟩⟩, ?_, ?_⟩
      · exact Reader.forall_of_items hes fun _ _ => Endpoint.accepted_of_ofValue
      · exact Reader.forall_of_optional hschemas fun _ hw =>
          Reader.forall_of_mapping hw fun _ _ => Schema.accepted_of_ofValue
  | _ => cases h

end SuiteForge
