/-
# Inlining again

An inlined document in which no reference is left is not changed when it is inlined again,
whichever of its nodes are shared (`inline_resolved`): the second document is given by its tree
alone. Unfolding a document into a tree keeps track of the collections around a node; a tree that
does not mention them is the same below any others (`unfold_prune`), and more fuel than there are
nodes changes nothing (`unfold_succ`). So the tree of a document shows its nodes (`Shows`), and
inlining gives each the tree that is shown.
-/

import SuiteForge.Proofs.Inline.Leftover
import SuiteForge.Proofs.Inline.Size

namespace SuiteForge

/-- What stands in the tree for a collection around it stands for one at most so many levels above
the tree. -/
inductive Value.Closed : Nat → Value → Prop
  | scalar {k : Nat} {s : Scalar} : Closed k (.scalar s)
  | set {k : Nat} {members : List Scalar} : Closed k (.set members)
  | list {k : Nat} {items : List Value} (inside : ∀ v ∈ items, Closed (k + 1) v) :
      Closed k (.list items)
  | map {k : Nat} {entries : List (Scalar × Value)} (inside : ∀ e ∈ entries, Closed (k + 1) e.2) :
      Closed k (.map entries)
  | tuple {k : Nat} {items : List Value} (inside : ∀ v ∈ items, Closed (k + 1) v) :
      Closed k (.tuple items)
  | enclosing {k levels : Nat} {shape : Shape} (within : levels ≤ k) :
      Closed k (.enclosing levels shape)

/-- No list and no mapping stands inside itself, and what is inside a tuple stays there. -/
inductive Value.Whole : Value → Prop
  | scalar {s : Scalar} : Whole (.scalar s)
  | set {members : List Scalar} : Whole (.set members)
  | list {items : List Value} (inside : ∀ v ∈ items, Whole v) : Whole (.list items)
  | map {entries : List (Scalar × Value)} (inside : ∀ e ∈ entries, Whole e.2) :
      Whole (.map entries)
  | tuple {items : List Value} (closed : Value.Closed 0 (.tuple items)) : Whole (.tuple items)

namespace Document

variable {d : Document}

/-! ## Unfolding -/

section Unfold

variable {fuel id : Nat} {path outer : List (Nat × Shape)}

theorem closed_unfold (d : Document) (fuel : Nat) (path : List (Nat × Shape)) (id : Nat) :
    (d.unfold fuel path id).Closed path.length := by
  induction fuel generalizing path id with
  | zero => exact .scalar
  | succ fuel ih =>
    unfold unfold
    split
    · next i hi =>
      obtain ⟨hlt, -⟩ := List.findIdx?_eq_some_iff_getElem.1 hi
      exact .enclosing hlt
    · split
      · exact .scalar
      · exact .list (List.forall_mem_map.2 fun j _ => ih ((id, .list) :: path) j)
      · exact .map (List.forall_mem_map.2 fun e _ => ih ((id, .map) :: path) e.2)
      · exact .tuple (List.forall_mem_map.2 fun j _ => ih ((id, .tuple) :: path) j)
      · exact .set

/-- **A tree that does not mention the collections further out is the same without them.** -/
theorem unfold_prune (inner : List (Nat × Shape))
    (h : (d.unfold fuel (inner ++ outer) id).Closed inner.length) :
    d.unfold fuel (inner ++ outer) id = d.unfold fuel inner id := by
  induction fuel generalizing inner id with
  | zero => rfl
  | succ fuel ih =>
    unfold unfold at h ⊢
    rw [List.findIdx?_append] at h ⊢
    cases hinner : inner.findIdx? (·.1 == id) with
    | some i =>
      obtain ⟨hlt, -⟩ := List.findIdx?_eq_some_iff_getElem.1 hinner
      have hshape : i < (inner.map (·.2)).length := by simpa using hlt
      simp only [Option.some_or, List.map_append, List.getD_eq_getElem?_getD,
        List.getElem?_append_left hshape]
    | none =>
      cases houter : outer.findIdx? (·.1 == id) with
      | some i =>
        simp only [hinner, houter, Option.none_or, Option.map_some] at h
        cases h with
        | enclosing within => omega
      | none =>
        simp only [hinner, houter, Option.none_or, Option.map_none] at h ⊢
        cases node : d.node id with
        | scalar s => rfl
        | set members => rfl
        | list items =>
          simp only [node] at h ⊢
          cases h with
          | list inside =>
            refine congrArg Value.list (List.map_congr_left fun j hj => ?_)
            exact ih ((id, .list) :: inner) (List.forall_mem_map.1 inside j hj)
        | tuple items =>
          simp only [node] at h ⊢
          cases h with
          | tuple inside =>
            refine congrArg Value.tuple (List.map_congr_left fun j hj => ?_)
            exact ih ((id, .tuple) :: inner) (List.forall_mem_map.1 inside j hj)
        | map entries =>
          simp only [node] at h ⊢
          cases h with
          | map inside =>
            refine congrArg Value.map (List.map_congr_left fun e he => ?_)
            exact congrArg _ (ih ((id, .map) :: inner) (List.forall_mem_map.1 inside e he))

/-- The collections around a node, each once. -/
structure Trail (d : Document) (path : List (Nat × Shape)) : Prop where
  once : (path.map (·.1)).Nodup
  nodes : ∀ e ∈ path, e.1 < d.nodes.size

theorem trail_nil (d : Document) : d.Trail [] :=
  ⟨List.nodup_nil, fun _ h => absurd h List.not_mem_nil⟩

theorem Trail.cons (h : d.Trail path) (new : path.findIdx? (·.1 == id) = none)
    (hid : ∀ s, d.node id ≠ .scalar s) (shape : Shape) : d.Trail ((id, shape) :: path) := by
  refine ⟨List.nodup_cons.2 ⟨fun hmem => ?_, h.once⟩,
    List.forall_mem_cons.2 ⟨lt_size_of_node hid, h.nodes⟩⟩
  obtain ⟨e, he, heq⟩ := List.mem_map.1 hmem
  have hne := List.findIdx?_eq_none_iff.1 new e he
  simp [heq] at hne

theorem Trail.length_le (h : d.Trail path) : path.length ≤ d.nodes.size := by
  have hsub : path.map (·.1) ⊆ List.range d.nodes.size := fun i hi => by
    obtain ⟨e, he, rfl⟩ := List.mem_map.1 hi
    exact List.mem_range.2 (h.nodes e he)
  simpa using (h.once.subperm hsub).length_le

/-- **More fuel than there are nodes changes nothing.** -/
theorem unfold_succ (h : d.Trail path) (hfuel : d.nodes.size < fuel + path.length) :
    d.unfold (fuel + 1) path id = d.unfold fuel path id := by
  induction fuel generalizing path id with
  | zero =>
    have := h.length_le
    omega
  | succ fuel ih =>
    rw [unfold]
    conv_rhs => rw [unfold]
    cases hnew : path.findIdx? (·.1 == id) with
    | some i => rfl
    | none =>
      have hlength : ∀ shape : Shape, d.nodes.size < fuel + ((id, shape) :: path).length := by
        intro shape
        rw [List.length_cons]
        omega
      cases node : d.node id with
      | scalar s => rfl
      | set members => rfl
      | list items =>
        have htrail := h.cons hnew (by simp [node]) .list
        exact congrArg Value.list (List.map_congr_left fun j _ => ih htrail (hlength _))
      | tuple items =>
        have htrail := h.cons hnew (by simp [node]) .tuple
        exact congrArg Value.tuple (List.map_congr_left fun j _ => ih htrail (hlength _))
      | map entries =>
        have htrail := h.cons hnew (by simp [node]) .map
        exact congrArg Value.map
          (List.map_congr_left fun e _ => congrArg _ (ih htrail (hlength _)))

/-- A tree that mentions nothing around it is the one below no collection. -/
theorem unfold_eq_value (h : d.Trail path) (hfuel : fuel + path.length = d.nodes.size + 1)
    (closed : (d.unfold fuel path id).Closed 0) : d.unfold fuel path id = d.value id := by
  have hmore : ∀ more, d.unfold (fuel + more) path id = d.unfold fuel path id := by
    intro more
    induction more with
    | zero => rfl
    | succ more ih => rw [← ih, ← Nat.add_assoc, unfold_succ h (by omega)]
  rw [← hmore path.length, hfuel] at closed ⊢
  exact unfold_prune [] closed

end Unfold

/-! ## What a document shows -/

/-- The tree of a node, in which no list and no mapping stands inside itself. -/
inductive Shows (d : Document) : Nat → Value → Prop
  | kept {id : Nat} (leaf : (d.node id).isContainer = false) : Shows d id (d.value id)
  | list {id : Nat} {items : List Nat} (trees : Nat → Value) (node : d.node id = .list items)
      (inside : ∀ j ∈ items, Shows d j (trees j)) : Shows d id (.list (items.map trees))
  | map {id : Nat} {entries : Entries Nat} (trees : Nat → Value) (node : d.node id = .map entries)
      (inside : ∀ e ∈ entries, Shows d e.2 (trees e.2)) :
      Shows d id (.map (entries.map fun e => (e.1, trees e.2)))

/-- **The tree of a document shows its nodes,** if no list and no mapping stands inside itself. -/
theorem shows_of_unfold {fuel id : Nat} {path : List (Nat × Shape)} (h : d.Trail path)
    (hfuel : fuel + path.length = d.nodes.size + 1) (whole : (d.unfold fuel path id).Whole) :
    d.Shows id (d.unfold fuel path id) := by
  induction fuel generalizing path id with
  | zero =>
    have := h.length_le
    omega
  | succ fuel ih =>
    cases hnew : path.findIdx? (·.1 == id) with
    | some i =>
      rw [unfold, hnew] at whole
      cases whole
    | none =>
      have hlength : ∀ shape : Shape, fuel + ((id, shape) :: path).length = d.nodes.size + 1 := by
        intro shape
        rw [List.length_cons]
        omega
      cases node : d.node id with
      | scalar s =>
        have hkept : d.unfold (fuel + 1) path id = d.value id := by
          rw [value_of_scalar node, unfold, hnew, node]
        exact hkept ▸ .kept (by rw [node]; rfl)
      | set members =>
        have hkept : d.unfold (fuel + 1) path id = d.value id := by
          rw [unfold, hnew, node, value, unfold, node]
          rfl
        exact hkept ▸ .kept (by rw [node]; rfl)
      | tuple items =>
        have htuple : d.unfold (fuel + 1) path id =
            .tuple (items.map (d.unfold fuel ((id, .tuple) :: path))) := by
          rw [unfold, hnew, node]
        have hkept : d.unfold (fuel + 1) path id = d.value id := by
          refine unfold_eq_value h hfuel ?_
          rw [htuple] at whole ⊢
          cases whole with
          | tuple closed => exact closed
        exact hkept ▸ .kept (by rw [node]; rfl)
      | list items =>
        have hlist : d.unfold (fuel + 1) path id =
            .list (items.map (d.unfold fuel ((id, .list) :: path))) := by
          rw [unfold, hnew, node]
        rw [hlist] at whole ⊢
        cases whole with
        | list inside =>
          exact .list _ node fun j hj => ih (h.cons hnew (by simp [node]) .list) (hlength _)
            (List.forall_mem_map.1 inside j hj)
      | map entries =>
        have hmap : d.unfold (fuel + 1) path id =
            .map (entries.map fun e => (e.1, d.unfold fuel ((id, .map) :: path) e.2)) := by
          rw [unfold, hnew, node]
        rw [hmap] at whole ⊢
        cases whole with
        | map inside =>
          exact .map _ node fun e he => ih (h.cons hnew (by simp [node]) .map) (hlength _)
            (List.forall_mem_map.1 inside e he)

/-- What is no list and no mapping is whole. -/
theorem whole_value {id : Nat} (leaf : (d.node id).isContainer = false) : (d.value id).Whole := by
  have closed := closed_unfold d (d.nodes.size + 1) [] id
  unfold value
  rw [unfold] at closed ⊢
  cases node : d.node id with
  | list _ => simp [node, Node.isContainer] at leaf
  | map _ => simp [node, Node.isContainer] at leaf
  | scalar s => exact .scalar
  | set members => exact .set
  | tuple items =>
    rw [node] at closed
    exact .tuple closed

/-- **A tree that inlining gives is whole.** -/
theorem Inlines.whole {id : Nat} {r : Inlined} (h : d.Inlines id r) : r.value.Whole := by
  induction h with
  | kept leaf => exact whole_value leaf
  | list trees node _ ih =>
    exact .list (List.forall_mem_map.2 (List.forall_mem_map.2 ih))
  | map trees node plain _ ih =>
    exact .map (List.forall_mem_map.2 (List.forall_mem_map.2 ih))
  | @reference _ _ _ _ r trees node names found _ _ ih ihBeside =>
    unfold Inlined.overlaid
    split
    · next lower hlower =>
      rw [hlower] at ih
      cases ih with
      | map inside =>
        refine .map fun e he => ?_
        refine (Entries.forall_overlay (P := fun _ => True) (Q := Value.Whole)
          (fun l hl => ⟨trivial, inside l hl⟩) (fun u hu => ⟨trivial, ?_⟩) e he).2
        obtain ⟨s, hs, rfl⟩ := List.mem_map.1 hu
        obtain ⟨b, hb, rfl⟩ := List.mem_map.1 hs
        exact ihBeside b hb
    · exact ih

/-! ## Inlining what is shown -/

theorem Shows.eq_text {id : Nat} {v : Value} {ref : Text} (h : d.Shows id v)
    (node : d.node id = .scalar (.text ref)) : v = .scalar (.text ref) := by
  cases h with
  | kept => exact value_of_scalar node
  | list _ node' => cases node.symm.trans node'
  | map _ node' => cases node.symm.trans node'

/-- A mapping whose tree has no reference left is no reference. -/
theorem reference?_eq_none {entries : Entries Nat} {trees : Nat → Value}
    (inside : ∀ e ∈ entries, d.Shows e.2 (trees e.2))
    (h : ¬(Value.map (entries.map fun e => (e.1, trees e.2))).Refers) :
    d.reference? entries = none := by
  cases names : d.reference? entries with
  | none => rfl
  | some ref =>
    obtain ⟨j, hkey, hnode⟩ := reference?_eq_some_iff.1 names
    obtain ⟨e, he, rfl⟩ := List.mem_map.1 (Entries.mem_of_find? hkey)
    have hnames : Entries.find? referenceKey (entries.map fun e => (e.1, trees e.2)) =
        some (.scalar (.text ref)) := by
      rw [Entries.find?_map, hkey, Option.map_some, (inside e he).eq_text hnode]
    exact absurd (.here hnames) h

/-- **What is shown is what inlining gives,** if no reference is left in it. Its size is the number
of its lists and mappings. -/
theorem Shows.inlines {id : Nat} {v : Value} (h : d.Shows id v) (hrefers : ¬v.Refers) :
    d.Inlines id ⟨v, v.collections false⟩ := by
  induction h with
  | kept leaf =>
    rw [bare_false d _ leaf]
    exact .kept leaf
  | @list id items trees node inside ih =>
    have htrees := Inlines.list (fun j => ⟨trees j, (trees j).collections false⟩) node fun j hj =>
      ih j hj fun hj' => hrefers (.item (List.mem_map_of_mem hj) hj')
    rw [Value.collections_list]
    simpa [Inlined.ofItems, totalSize_eq_sum, Function.comp_def] using htrees
  | @map id entries trees node inside ih =>
    have htrees := Inlines.map (fun j => ⟨trees j, (trees j).collections false⟩) node
      (reference?_eq_none inside hrefers) fun e he =>
        ih e he fun he' => hrefers (.entry (List.mem_map_of_mem he) he')
    rw [Value.collections_map]
    simpa [Inlined.ofEntries, totalSize_eq_sum, Function.comp_def] using htrees

/-- A node so many steps below the root shows a part of the tree so many levels inside it. -/
structure ShownBelow (d : Document) (v : Value) (k id : Nat) (w : Value) : Prop where
  shown : d.Shows id w
  refers : ¬w.Refers
  collections : w.collections false ≤ v.collections false
  deep : ∀ m, w.Deep m → v.Deep (k + m)

theorem ShownBelow.part {v w : Value} {k id j : Nat} (h : d.ShownBelow v k id w)
    (hj : d.Part j id) : ∃ u, d.ShownBelow v (k + 1) j u := by
  obtain ⟨hshows, hrefers, hcollections, hdeep⟩ := h
  have hstep : ∀ m, k + 1 + m = k + (m + 1) := fun m => by omega
  cases hshows with
  | kept leaf =>
    simp only [Part, parts] at hj
    split at hj <;> simp_all [Node.isContainer]
  | @list _ items trees node inside =>
    obtain hj : j ∈ items := by simpa [Part, parts, node] using hj
    have hmem : trees j ∈ items.map trees := List.mem_map_of_mem hj
    refine ⟨trees j, inside j hj, fun h => hrefers (.item hmem h), ?_, fun m hm => ?_⟩
    · have hle : (trees j).collections false ≤
          ((items.map trees).map (Value.collections false)).sum :=
        List.single_le_sum (by simp) _ (List.mem_map_of_mem hmem)
      rw [Value.collections_list] at hcollections
      omega
    · rw [hstep]
      exact hdeep _ (.item hmem hm)
  | @map _ entries trees node inside =>
    have hplain := reference?_eq_none inside hrefers
    obtain ⟨e, he, rfl⟩ : ∃ e ∈ entries, e.2 = j := by simpa [Part, parts, node, hplain] using hj
    have hmem : (e.1, trees e.2) ∈ entries.map fun e => (e.1, trees e.2) :=
      List.mem_map_of_mem he
    refine ⟨trees e.2, inside e he, fun h => hrefers (.entry hmem h), ?_, fun m hm => ?_⟩
    · have hle : (trees e.2).collections false ≤
          ((entries.map fun e => (e.1, trees e.2)).map fun e => e.2.collections false).sum :=
        List.single_le_sum (by simp) _
          (List.mem_map_of_mem (f := fun e : Scalar × Value => e.2.collections false) hmem)
      rw [Value.collections_map] at hcollections
      omega
    · rw [hstep]
      exact hdeep _ (.entry hmem hm)

theorem Visits.shownBelow {v : Value} {k id : Nat} (h : d.Visits k id)
    (hroot : d.Shows d.root v) (hrefers : ¬v.Refers) : ∃ w, d.ShownBelow v k id w := by
  induction h with
  | root => exact ⟨v, hroot, hrefers, le_rfl, fun m hm => by rwa [Nat.zero_add]⟩
  | part _ hj ih =>
    obtain ⟨w, hw⟩ := ih
    exact hw.part hj

/-- A list or a mapping is shown as one. -/
theorem Shows.deep_zero {id : Nat} {v : Value} (h : d.Shows id v)
    (container : (d.node id).isContainer = true) : v.Deep 0 := by
  cases h with
  | kept leaf => simp [leaf] at container
  | list => exact .list
  | map => exact .map

/-- **A document is within the limits if its tree is,** and no reference is left in it. -/
theorem Shows.withinLimits {v : Value} (h : d.Shows d.root v) (hrefers : ¬v.Refers)
    (depth : ∀ k, v.Deep k → k ≤ maxDocumentDepth)
    (size : v.collections false ≤ maxExpandedNodes) : d.WithinLimits := by
  refine ⟨fun k id visits container => ?_, fun k id r visits hr => ?_⟩
  · obtain ⟨w, hw⟩ := visits.shownBelow h hrefers
    exact depth k (hw.deep 0 (hw.shown.deep_zero container))
  · obtain ⟨w, hw⟩ := visits.shownBelow h hrefers
    rw [hr.unique (hw.shown.inlines hw.refers)]
    exact hw.collections.trans size

/-! ## The whole document -/

/-- **What inlining leaves, and that it may be done again.** A reference is left in an inlined
document just when, somewhere below its root, a mapping comes out whose entry `$ref` comes down to a
text; none is where no entry `$ref` is itself a reference. If none is left, every document with the
same tree is inlined to this tree, if at all, and it is unless the tree is nested deeper than the
limit. -/
theorem inline_resolved {v : Value} (h : d.inline.result = .ok v) :
    (v.Refers ↔ d.Leaves d.root) ∧
    ((∀ id entries j, d.node id = .map entries → Entries.find? referenceKey entries = some j →
      d.referenceAt? j = none) → ¬v.Refers) ∧
    (¬v.Refers → ∀ d' : Document, d'.rootValue = v →
      (∀ v', d'.inline.result = .ok v' → v' = v) ∧
      ((∀ k, v.Deep k → k ≤ maxDocumentDepth) → d'.inline.result = .ok v)) := by
  obtain ⟨size, hplain⟩ := inlines_of_inline h
  have hcollections : v.collections false ≤ maxExpandedNodes :=
    collections_le_of_inline h d.bare_false
  refine ⟨hplain.refers_iff, fun hreferences hrefers => ?_, fun hrefers d' hd' => ?_⟩
  · obtain ⟨id, entries, j, node, hkey, hreference⟩ :=
      (hplain.refers_iff.1 hrefers).exists_reference
    rw [hreferences id entries j node hkey] at hreference
    cases hreference
  · have hshows : d'.Shows d'.root v := by
      have hunfold : d'.unfold (d'.nodes.size + 1) [] d'.root = v := hd'
      have hwhole := hplain.whole
      rw [← hunfold] at hwhole ⊢
      exact shows_of_unfold (trail_nil d') rfl hwhole
    have hinlines := hshows.inlines hrefers
    refine ⟨fun v' hv' => ?_, fun depth => ?_⟩
    · obtain ⟨size', hagain⟩ := inlines_of_inline hv'
      exact congrArg Inlined.value (hagain.unique hinlines)
    · exact inline_of_inlines hinlines (hshows.withinLimits hrefers depth hcollections)

theorem not_leaves_sharedDocument : ∀ id entries j, sharedDocument.node id = .map entries →
    Entries.find? referenceKey entries = some j → sharedDocument.referenceAt? j = none := by
  intro id entries j node hkey
  have hid : id < 5 := by
    by_contra hid
    cases node.symm.trans (node_sharedDocument hid)
  have hplain : Entries.find? referenceKey [(.text "k", 0)] = none := by decide
  have hroot : Entries.find? referenceKey [(.text "a", 1), (.text "b", 3)] = none := by decide
  interval_cases id
  · cases node
  · cases node
    cases hplain.symm.trans hkey
  · cases node
  · cases node
    obtain rfl : 2 = j := Option.some.inj hkey
    cbv
  · cases node
    cases hroot.symm.trans hkey

/-- The tree of `sharedDocument` has no reference left, and is inlined to itself. -/
theorem inline_resolved_sharedDocument :
    sharedDocument.inline.result = .ok sharedTree ∧ ¬sharedTree.Refers ∧
      (ofValue sharedTree).inline.result = .ok sharedTree := by
  have hres : sharedDocument.inline.result = .ok sharedTree := by cbv
  obtain ⟨-, hnone, hagain⟩ := inline_resolved hres
  have hrefers := hnone not_leaves_sharedDocument
  obtain ⟨size, hplain⟩ := inlines_of_inline hres
  refine ⟨hres, hrefers, (hagain hrefers _ (by cbv)).2 fun k hk => ?_⟩
  have hle := ((hplain.deep_iff.1 hk).add_le withinLimits_sharedDocument.depth
    value_sharedDocument_not_deep .root)
  omega

/-- `{a: {$ref: {$ref: "#/s"}}, s: "#/t", t: {x: 1}}` -/
def nestedReferenceDocument : Document :=
  ⟨#[.scalar (.text "#/s"), .map [(.text "$ref", 0)], .map [(.text "$ref", 1)],
    .scalar (.text "#/t"), .scalar (.int 1), .map [(.text "x", 4)],
    .map [(.text "a", 2), (.text "s", 3), (.text "t", 5)]], 6⟩

/-- What it is inlined to: `{a: {$ref: "#/t"}, s: "#/t", t: {x: 1}}` -/
def nestedReferenceTree : Value :=
  .map [(.text "a", .map [(.text "$ref", .scalar (.text "#/t"))]),
    (.text "s", .scalar (.text "#/t")), (.text "t", .map [(.text "x", .scalar (.int 1))])]

/-- **A reference is left in an inlined document,** and inlining it again changes it. -/
theorem inline_nestedReferenceDocument :
    nestedReferenceDocument.inline.result = .ok nestedReferenceTree ∧ nestedReferenceTree.Refers ∧
      ∃ v, (ofValue nestedReferenceTree).inline.result = .ok v ∧ v ≠ nestedReferenceTree := by
  have hnames : Entries.find? referenceKey [(.text "$ref", .scalar (.text "#/t"))] =
      some (Value.scalar (.text "#/t")) := rfl
  refine ⟨by cbv, .entry List.mem_cons_self (.here hnames),
    .map [(.text "a", .map [(.text "x", .scalar (.int 1))]), (.text "s", .scalar (.text "#/t")),
      (.text "t", .map [(.text "x", .scalar (.int 1))])], by cbv, ?_⟩
  simp [nestedReferenceTree]

end Document

end SuiteForge
