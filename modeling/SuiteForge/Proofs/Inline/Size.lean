/-
# How large the inlined document is

The size that a walk keeps with a tree is added up from the sizes of its parts, and the tree
is never built out: a node that is shared counts wherever it stands. So the size bounds the
lists and mappings of the tree (`Inlines.sized`), and it is their number where no entry beside
a reference replaces one of its target.

What tuples hold is left as it is, and is not counted. With it, an inlined document may
hold any number of lists (`inline_pairsDocument`).
-/

import SuiteForge.Proofs.Inline.Nesting

namespace SuiteForge

namespace Value

mutual

/-- The lists and mappings of a tree, each as often as it stands there; those that tuples hold are
counted on demand. What stands inside itself is counted once. -/
def collections (inTuples : Bool) : Value → ℕ
  | .scalar _ => 0
  | .list items => 1 + collectionsOfItems inTuples items
  | .map entries => 1 + collectionsOfEntries inTuples entries
  | .tuple items => if inTuples then collectionsOfItems inTuples items else 0
  | .set _ => 0
  | .enclosing _ _ => 0

/-- The lists and mappings of several trees. -/
def collectionsOfItems (inTuples : Bool) : List Value → ℕ
  | [] => 0
  | v :: rest => collections inTuples v + collectionsOfItems inTuples rest

/-- The lists and mappings of a mapping's values. -/
def collectionsOfEntries (inTuples : Bool) : List (Scalar × Value) → ℕ
  | [] => 0
  | (_, v) :: rest => collections inTuples v + collectionsOfEntries inTuples rest

end

variable {inTuples : Bool}

theorem collectionsOfItems_eq_sum (items : List Value) :
    collectionsOfItems inTuples items = (items.map (collections inTuples)).sum := by
  induction items with
  | nil => rfl
  | cons v rest ih => rw [collectionsOfItems, ih, List.map_cons, List.sum_cons]

theorem collectionsOfEntries_eq_sum (entries : List (Scalar × Value)) :
    collectionsOfEntries inTuples entries =
      (entries.map fun e => collections inTuples e.2).sum := by
  induction entries with
  | nil => rfl
  | cons e rest ih => rw [collectionsOfEntries, ih, List.map_cons, List.sum_cons]

theorem collections_list (items : List Value) :
    (list items).collections inTuples = 1 + (items.map (collections inTuples)).sum := by
  rw [collections, collectionsOfItems_eq_sum]

theorem collections_map (entries : List (Scalar × Value)) :
    (map entries).collections inTuples =
      1 + (entries.map fun e => collections inTuples e.2).sum := by
  rw [collections, collectionsOfEntries_eq_sum]

theorem collections_map_singleton (key : Scalar) (v : Value) :
    (map [(key, v)]).collections inTuples = 1 + v.collections inTuples := by
  rw [collections_map, List.map_singleton, List.sum_singleton]

/-- A list whose items hold equally many. -/
theorem collections_list_const {items : List ℕ} {f : ℕ → Value} {count : ℕ}
    (each : ∀ n ∈ items, (f n).collections inTuples = count) :
    (list (items.map f)).collections inTuples = 1 + items.length * count := by
  rw [collections_list, List.map_map, Function.comp_def, List.map_congr_left each,
    List.map_const', List.sum_replicate_nat]

end Value

namespace Document

variable {d : Document}

theorem totalSize_eq_sum (trees : List Inlined) :
    totalSize trees = (trees.map (·.size)).sum := by
  induction trees with
  | nil => rfl
  | cons t rest ih => rw [List.map_cons, List.sum_cons, ← ih]; rfl

/-! ## Conditions -/

/-- Each mapping has each key once. -/
def KeysDiffer (d : Document) : Prop :=
  ∀ id entries, d.node id = .map entries → entries.Pairwise fun a b => a.1.sameKey b.1 = false

/-- An entry beside the node's reference has a key of the target. -/
def Overrides (d : Document) (id : ℕ) : Prop :=
  ∃ entries ref target r lower, d.node id = .map entries ∧ d.reference? entries = some ref ∧
    d.find ref = .ok target ∧ d.Inlines target r ∧ r.value = .map lower ∧
    ∃ l ∈ lower, ∃ u ∈ siblings entries, l.1.sameKey u.1 = true

/-- No entry beside a reference replaces one of its target, at a node and below it. -/
def Untouched (d : Document) (id : ℕ) : Prop :=
  d.KeysDiffer ∧ ∀ j, Relation.ReflTransGen d.Part j id → ¬ d.Overrides j

theorem Untouched.part {id j : ℕ} (h : d.Untouched id) (hj : d.Part j id) : d.Untouched j :=
  ⟨h.1, fun i hi => h.2 i (hi.tail hj)⟩

/-- What is no list and no mapping holds none, as far as tuples are counted. -/
def Bare (d : Document) (inTuples : Bool) : Prop :=
  ∀ id, (d.node id).isContainer = false → (d.value id).collections inTuples = 0

theorem bare_false (d : Document) : d.Bare false := by
  intro id leaf
  unfold value unfold
  cases node : d.node id <;> simp_all [Node.isContainer, Value.collections]

/-- The size of a node's tree bounds its lists and mappings, and is their number where nothing is
replaced. -/
structure Sized (d : Document) (inTuples : Bool) (id : ℕ) (r : Inlined) : Prop where
  le : r.value.collections inTuples ≤ r.size
  eq : d.Untouched id → r.value.collections inTuples = r.size

/-! ## One node -/

section Sized

variable {inTuples : Bool} {id : ℕ}

theorem sized_list {items : List ℕ} {trees : ℕ → Inlined} (node : d.node id = .list items)
    (inside : ∀ j ∈ items, d.Sized inTuples j (trees j)) :
    d.Sized inTuples id (.ofItems (items.map trees)) := by
  have hvalue : (Inlined.ofItems (items.map trees)).value.collections inTuples =
      1 + (items.map fun j => (trees j).value.collections inTuples).sum := by
    simp only [Inlined.ofItems, Value.collections_list, List.map_map, Function.comp_def]
  have hsize : (Inlined.ofItems (items.map trees)).size =
      1 + (items.map fun j => (trees j).size).sum := by
    simp only [Inlined.ofItems, totalSize_eq_sum, List.map_map, Function.comp_def]
  constructor
  · rw [hvalue, hsize]
    have := List.sum_le_sum fun j hj => (inside j hj).le
    omega
  · intro h
    rw [hvalue, hsize, List.map_congr_left fun j hj =>
      (inside j hj).eq (h.part (part_of_list node hj))]

theorem sum_entries_le {entries : Entries ℕ} {trees : ℕ → Inlined}
    (inside : ∀ e ∈ entries, d.Sized inTuples e.2 (trees e.2)) :
    (entries.map fun e => (trees e.2).value.collections inTuples).sum ≤
      (entries.map fun e => (trees e.2).size).sum :=
  List.sum_le_sum fun e he => (inside e he).le

theorem sum_entries_eq {entries : Entries ℕ} {trees : ℕ → Inlined}
    (inside : ∀ e ∈ entries, d.Sized inTuples e.2 (trees e.2))
    (h : ∀ e ∈ entries, d.Untouched e.2) :
    (entries.map fun e => (trees e.2).value.collections inTuples).sum =
      (entries.map fun e => (trees e.2).size).sum := by
  rw [List.map_congr_left fun e he => (inside e he).eq (h e he)]

theorem sized_map {entries : Entries ℕ} {trees : ℕ → Inlined} (node : d.node id = .map entries)
    (plain : d.reference? entries = none)
    (inside : ∀ e ∈ entries, d.Sized inTuples e.2 (trees e.2)) :
    d.Sized inTuples id (.ofEntries (entries.map fun e => (e.1, trees e.2))) := by
  have hvalue : (Inlined.ofEntries (entries.map fun e => (e.1, trees e.2))).value.collections
      inTuples = 1 + (entries.map fun e => (trees e.2).value.collections inTuples).sum := by
    simp only [Inlined.ofEntries, Value.collections_map, List.map_map, Function.comp_def]
  have hsize : (Inlined.ofEntries (entries.map fun e => (e.1, trees e.2))).size =
      1 + (entries.map fun e => (trees e.2).size).sum := by
    simp only [Inlined.ofEntries, totalSize_eq_sum, List.map_map, Function.comp_def]
  constructor
  · rw [hvalue, hsize]
    have := sum_entries_le inside
    omega
  · intro h
    rw [hvalue, hsize, sum_entries_eq inside fun e he => h.part (part_of_map node plain he)]

/-- A reference: what is replaced was counted with the target. -/
theorem sized_reference {entries : Entries ℕ} {ref : Text} {target : ℕ} {r : Inlined}
    {trees : ℕ → Inlined} (node : d.node id = .map entries)
    (names : d.reference? entries = some ref) (found : d.find ref = .ok target)
    (hr : d.Inlines target r) (inside : d.Sized inTuples target r)
    (beside : ∀ e ∈ siblings entries, d.Sized inTuples e.2 (trees e.2)) :
    d.Sized inTuples id (r.overlaid ((siblings entries).map fun e => (e.1, trees e.2))) := by
  have htarget : d.Part target id := part_of_target node names found
  cases hvalue : r.value with
  | map lower =>
    let upper : Entries Value := (siblings entries).map fun e => (e.1, (trees e.2).value)
    have hoverlaid : r.overlaid ((siblings entries).map fun e => (e.1, trees e.2)) =
        ⟨.map (Entries.overlay lower upper),
          r.size + ((siblings entries).map fun e => (trees e.2).size).sum⟩ := by
      simp only [Inlined.overlaid, hvalue, totalSize_eq_sum, List.map_map, Function.comp_def, upper]
    have hupper : (upper.map fun e => e.2.collections inTuples).sum =
        ((siblings entries).map fun e => (trees e.2).value.collections inTuples).sum := by
      rw [List.map_map]
      rfl
    have hcount : r.value.collections inTuples =
        1 + (lower.map fun e => e.2.collections inTuples).sum := by
      rw [hvalue, Value.collections_map]
    rw [hoverlaid]
    refine ⟨?_, fun h => ?_⟩
    · show (Value.map (Entries.overlay lower upper)).collections inTuples ≤
        r.size + ((siblings entries).map fun e => (trees e.2).size).sum
      have hsum := Entries.sum_overlay_le (Value.collections inTuples) lower upper
      have hbeside := sum_entries_le beside
      have hle := inside.le
      rw [Value.collections_map]
      omega
    · show (Value.map (Entries.overlay lower upper)).collections inTuples =
        r.size + ((siblings entries).map fun e => (trees e.2).size).sum
      have hbeside := sum_entries_eq beside fun e he => h.part (part_of_sibling node names he)
      have heq := inside.eq (h.part htarget)
      -- No key of the target is beside the reference, so the entries come behind one another.
      have hnew : ∀ l ∈ lower, ∀ u ∈ upper, l.1.sameKey u.1 = false := by
        intro l hl u hu
        obtain ⟨e, he, rfl⟩ := List.mem_map.1 hu
        by_contra hsame
        exact h.2 id .refl ⟨entries, ref, target, r, lower, node, names, found, hr, hvalue, l, hl,
          e, he, by simpa using hsame⟩
      have honce : upper.Pairwise fun a b => a.1.sameKey b.1 = false := by
        rw [List.pairwise_map]
        exact (h.1 id entries node).filter _
      rw [Value.collections_map, Entries.overlay_eq_append hnew honce, List.map_append,
        List.sum_append, hupper]
      omega
  | _ =>
    have hoverlaid : r.overlaid ((siblings entries).map fun e => (e.1, trees e.2)) = r := by
      simp only [Inlined.overlaid, hvalue]
    rw [hoverlaid]
    exact ⟨inside.le, fun h => inside.eq (h.part htarget)⟩

end Sized

/-- **The size of a tree bounds its lists and mappings.** -/
theorem Inlines.sized {inTuples : Bool} (bare : d.Bare inTuples) {id : ℕ} {r : Inlined}
    (h : d.Inlines id r) : d.Sized inTuples id r := by
  induction h with
  | kept leaf =>
    have hzero := bare _ leaf
    exact ⟨hzero.le, fun _ => hzero⟩
  | list trees node _ ih => exact sized_list node ih
  | map trees node plain _ ih => exact sized_map node plain ih
  | reference trees node names found inside _ ih ihBeside =>
    exact sized_reference node names found inside ih ihBeside

/-! ## The whole document -/

theorem size_le_of_inlineNode {levels : ℕ} {chain : List Text} {active : List ℕ} {id : ℕ}
    {r : Inlined} {m : Memo}
    (h : (d.inlineNode levels chain active id Memo.empty).result = .ok (r, m)) :
    r.size ≤ maxExpandedNodes := by
  rcases inlineNode_eq_ok.1 h with ⟨-, rfl, -⟩ | ⟨-, known, -⟩ | ⟨-, -, -, -, -, -, hsize, -⟩
  · exact Nat.zero_le _
  · rw [Memo.empty, List.lookup_nil] at known
    cases known
  · exact hsize

/-- An inlined document has no more lists and mappings than the limit. -/
theorem collections_le_of_inline {inTuples : Bool} {v : Value} (h : d.inline.result = .ok v)
    (bare : d.Bare inTuples) : v.collections inTuples ≤ maxExpandedNodes := by
  obtain ⟨r, m, hwalk, rfl⟩ := exists_walk_of_inline h
  have hr := (inlineNode_sound _ _ _ _ _ _ _ Memo.sound_empty hwalk).1
  exact (hr.sized bare).le.trans (size_le_of_inlineNode hwalk)

/-- **The sizes that a walk keeps bound what it gives.** Of every node and every reference that the
memo of an inlined document knows, the size bounds the lists and mappings of the tree, and is their
number where no entry beside a reference replaces one of its target; and an inlined document has no
more of them than the limit. What tuples hold is not among them, unless they hold none at all. -/
theorem inline_collections_le {v : Value} (h : d.inline.result = .ok v) :
    ∃ r m, (d.inlineNode (maxDocumentDepth + 1) [] [] d.root Memo.empty).result = .ok (r, m) ∧
      r.value = v ∧ ∀ inTuples, (inTuples = true → d.Bare true) →
        (∀ id s, m.byNode.lookup id = some s → d.Sized inTuples id s) ∧
        (∀ ref s, m.byRef.lookup ref = some s →
          ∃ target, d.find ref = .ok target ∧ d.Sized inTuples target s) ∧
        v.collections inTuples ≤ maxExpandedNodes := by
  obtain ⟨r, m, hwalk, rfl⟩ := exists_walk_of_inline h
  obtain ⟨-, hm⟩ := inlineNode_sound _ _ _ _ _ _ _ Memo.sound_empty hwalk
  refine ⟨r, m, hwalk, rfl, fun inTuples htuples => ?_⟩
  have bare : d.Bare inTuples := by
    cases inTuples with
    | false => exact d.bare_false
    | true => exact htuples rfl
  refine ⟨fun id s known => (hm.byNode known).sized bare, fun ref s known => ?_, ?_⟩
  · obtain ⟨target, found, hs⟩ := hm.byRef known
    exact ⟨target, found, hs.sized bare⟩
  · exact collections_le_of_inline h bare

theorem bare_sharedDocument : sharedDocument.Bare true := by
  intro id leaf
  obtain ⟨s, hs⟩ := scalar_of_leaf_sharedDocument leaf
  rw [value_of_scalar hs, Value.collections]

theorem inline_collections_le_sharedDocument :
    sharedDocument.inline.result = .ok sharedTree ∧ sharedTree.collections true = 4 ∧
      sharedTree.collections true ≤ maxExpandedNodes ∧
      ∃ m : Memo, (m.byNode.lookup 4).map (·.size) = some 4 ∧
        (∀ id s, m.byNode.lookup id = some s → sharedDocument.Sized true id s) := by
  have hres : sharedDocument.inline.result = .ok sharedTree := by cbv
  obtain ⟨r, m, hwalk, -, hsizes⟩ := inline_collections_le hres
  obtain ⟨hnodes, -, hle⟩ := hsizes true fun _ => bare_sharedDocument
  have hroot : ((sharedDocument.inlineNode (maxDocumentDepth + 1) [] [] sharedDocument.root
      Memo.empty).result.toOption.map fun p => (p.2.byNode.lookup 4).map (·.size)) =
      some (some 4) := by
    decide +kernel
  rw [hwalk] at hroot
  exact ⟨hres, by decide +kernel, hle, m, Option.some.inj hroot, hnodes⟩

/-! ## Tuples -/

theorem findIdx?_eq_none {path : List (ℕ × Shape)} {id : ℕ} (new : ∀ e ∈ path, e.1 ≠ id) :
    path.findIdx? (·.1 == id) = none :=
  List.findIdx?_eq_none_iff.2 fun e he => by simpa using new e he

theorem unfold_list {fuel id : ℕ} {path : List (ℕ × Shape)} {items : List ℕ}
    (new : ∀ e ∈ path, e.1 ≠ id) (node : d.node id = .list items) :
    d.unfold (fuel + 1) path id = .list (items.map (d.unfold fuel ((id, .list) :: path))) := by
  simp only [unfold, findIdx?_eq_none new, node]

theorem unfold_tuple {fuel id : ℕ} {path : List (ℕ × Shape)} {items : List ℕ}
    (new : ∀ e ∈ path, e.1 ≠ id) (node : d.node id = .tuple items) :
    d.unfold (fuel + 1) path id = .tuple (items.map (d.unfold fuel ((id, .tuple) :: path))) := by
  simp only [unfold, findIdx?_eq_none new, node]

/-- A list of parts that are left as they are. -/
theorem Inlines.list_kept {id : ℕ} {items : List ℕ} (node : d.node id = .list items)
    (leaves : ∀ j ∈ items, (d.node j).isContainer = false) :
    d.Inlines id ⟨.list (items.map d.value), 1⟩ := by
  have h := Inlines.list (fun j => ⟨d.value j, 0⟩) node fun j hj => .kept (leaves j hj)
  simpa [Inlined.ofItems, totalSize_eq_sum, Function.comp_def] using h

theorem collections_unfold_scalar {fuel id : ℕ} {path : List (ℕ × Shape)} {s : Scalar}
    (node : d.node id = .scalar s) : (d.unfold fuel path id).collections true = 0 := by
  cases fuel with
  | zero => rfl
  | succ fuel =>
    unfold unfold
    split
    · rfl
    · rw [node]
      rfl

/-- A list of nine pairs, or one of the pairs, by its number. -/
def pairsNode (n : ℕ) : Node :=
  if n % 10 = 0 then .list (if n = 0 then [] else List.range' (n - 9) 9)
  else .tuple [61, n / 10 * 10]

/-- Lists of nine pairs, six in one another, around an empty one; each pair is a key and the list
inside. The list of level `i` has the number `10 * i`, and its pairs have the nine numbers below. -/
def pairsDocument : Document :=
  ⟨((List.range 61).map pairsNode ++
    [Node.scalar (.text "k"), Node.map [(.text "a", 60)]]).toArray, 62⟩

theorem node_pairsDocument {n : ℕ} (hn : n < 61) : pairsDocument.node n = pairsNode n := by
  have hlen : n < ((List.range 61).map pairsNode).length := by simpa using hn
  simp [pairsDocument, node, List.getElem?_append_left hlen, hn]

theorem list_pairsDocument {i : ℕ} (hi : i < 6) :
    pairsDocument.node (10 * (i + 1)) = .list (List.range' (10 * i + 1) 9) := by
  rw [node_pairsDocument (by omega), pairsNode, if_pos (by omega), if_neg (by omega)]
  rw [show 10 * (i + 1) - 9 = 10 * i + 1 by omega]

theorem pair_pairsDocument {i n : ℕ} (hi : i < 6) (hn : n ∈ List.range' (10 * i + 1) 9) :
    pairsDocument.node n = .tuple [61, 10 * i] := by
  have hbounds := List.mem_range'_1.1 hn
  rw [node_pairsDocument (by omega), pairsNode, if_neg (by omega)]
  rw [show n / 10 * 10 = 10 * i by omega]

/-- The lists in the tree of the list of a level. -/
def pairsCount : ℕ → ℕ
  | 0 => 1
  | i + 1 => 1 + 9 * pairsCount i

/-- A pair holds what the list of the level below holds. -/
theorem collections_pair {i n fuel : ℕ} {path : List (ℕ × Shape)} (hi : i < 6)
    (hn : n ∈ List.range' (10 * i + 1) 9) (above : ∀ e ∈ path, 10 * i + 9 < e.1)
    (below : ∀ path, (∀ e ∈ path, 10 * i < e.1) →
      (pairsDocument.unfold fuel path (10 * i)).collections true = pairsCount i) :
    (pairsDocument.unfold (fuel + 1) path n).collections true = pairsCount i := by
  have hbounds := List.mem_range'_1.1 hn
  have hnew : ∀ e ∈ path, e.1 ≠ n := by
    intro e he
    have := above e he
    omega
  rw [unfold_tuple hnew (pair_pairsDocument hi hn)]
  have hkey : pairsDocument.node 61 = .scalar (.text "k") := rfl
  have hpath : ∀ e ∈ (n, Shape.tuple) :: path, 10 * i < e.1 := by
    intro e he
    rcases List.mem_cons.1 he with rfl | he
    · show 10 * i < n
      omega
    · have := above e he
      omega
  simp [Value.collections, Value.collectionsOfItems, collections_unfold_scalar hkey, below _ hpath]

/-- **Each level has nine times the lists of the level below.** -/
theorem collections_pairsDocument {i fuel : ℕ} {path : List (ℕ × Shape)} (hi : i ≤ 6)
    (hfuel : 2 * i < fuel) (above : ∀ e ∈ path, 10 * i < e.1) :
    (pairsDocument.unfold fuel path (10 * i)).collections true = pairsCount i := by
  induction i generalizing fuel path with
  | zero =>
    obtain ⟨f, rfl⟩ : ∃ f, fuel = f + 1 := ⟨fuel - 1, by omega⟩
    have hnode : pairsDocument.node 0 = .list [] := rfl
    rw [unfold_list (fun e he => (above e he).ne') hnode, List.map_nil, Value.collections_list]
    rfl
  | succ i ih =>
    obtain ⟨f, rfl⟩ : ∃ f, fuel = f + 1 + 1 := ⟨fuel - 2, by omega⟩
    rw [unfold_list (fun e he => (above e he).ne') (list_pairsDocument (by omega)),
      Value.collections_list_const, List.length_range', pairsCount]
    intro n hn
    refine collections_pair (by omega) hn (fun e he => ?_) fun path habove =>
      ih (by omega) (by omega) habove
    rcases List.mem_cons.1 he with rfl | he
    · show 10 * i + 9 < 10 * (i + 1)
      omega
    · have := above e he
      omega

/-- **A document is inlined that has more lists than the limit,** most of them in tuples. -/
theorem inline_pairsDocument :
    ∃ v, pairsDocument.inline.result = .ok v ∧ maxExpandedNodes < v.collections true := by
  have hok : pairsDocument.inline.result.isOk = true := by decide +kernel
  cases hres : pairsDocument.inline.result with
  | error _ => cases hres ▸ hok
  | ok v =>
    obtain ⟨size, hplain⟩ := inlines_of_inline hres
    have hlist : pairsDocument.node 60 = .list (List.range' 51 9) :=
      list_pairsDocument (i := 5) (by omega)
    have hroot : pairsDocument.node 62 = .map [(.text "a", 60)] := rfl
    have hleaves : ∀ n ∈ List.range' 51 9, (pairsDocument.node n).isContainer = false := by
      intro n hn
      rw [pair_pairsDocument (i := 5) (by omega) hn]
      rfl
    have hinside := Inlines.list_kept hlist hleaves
    have htree := Inlines.map (fun _ => _) hroot rfl fun e he => by
      rw [List.mem_singleton.1 he]
      exact hinside
    have hv : v = .map [(.text "a", .list ((List.range' 51 9).map pairsDocument.value))] :=
      congrArg Inlined.value (hplain.unique htree)
    have hpairs : ∀ n ∈ List.range' 51 9,
        (pairsDocument.value n).collections true = pairsCount 5 := fun n hn =>
      collections_pair (by omega) hn (fun e he => absurd he List.not_mem_nil) fun path habove =>
        collections_pairsDocument (by omega) (by decide) habove
    have hlistCount := Value.collections_list_const hpairs
    have hcount : v.collections true = 1 + (1 + 9 * pairsCount 5) := by
      rw [hv, Value.collections_map_singleton, hlistCount, List.length_range']
    have hfive : pairsCount 5 = 66430 := by norm_num [pairsCount]
    refine ⟨v, rfl, ?_⟩
    rw [hcount, hfive, maxExpandedNodes]
    omega

end Document

end SuiteForge
