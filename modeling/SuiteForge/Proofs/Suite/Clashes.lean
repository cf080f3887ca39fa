/-
# Groups and classes

The endpoints of a contract fall into groups, in the order in which the groups come first
(`groupEndpoints_eq`), and each group has a test class, as each object schema with properties
has a model class. Different names may have the same class.

| clash | of | happens unless |
| --- | --- | --- |
| `Contract.GroupsClash` | two groups of endpoints | the test classes differ |
| `Contract.SchemasClash` | two entries of the schemas | the model classes differ |
-/

import SuiteForge.Proofs.Tables
import SuiteForge.Suite.Plan

namespace SuiteForge

/-! ## Groups -/

/-- The groups of endpoints in the order in which they come first. -/
def groupsOf (endpoints : List Endpoint) : List Text :=
  (endpoints.map fun e => resourceGroup e.path).eraseDups

/-- The endpoints of a group, in their order. -/
def endpointsOf (endpoints : List Endpoint) (group : Text) : List Endpoint :=
  endpoints.filter fun e => resourceGroup e.path = group

/-- **Each group has its endpoints, and comes where its first endpoint does.** -/
theorem groupEndpoints_eq (endpoints : List Endpoint) :
    groupEndpoints endpoints = (groupsOf endpoints).map fun g => (g, endpointsOf endpoints g) :=
  Assoc.foldl_alter (fun e : Endpoint => resourceGroup e.path) (fun e old => old.getD [] ++ [e]) id
    (fun _ => rfl) (fun _ _ => rfl) endpoints

theorem mem_groupsOf {endpoints : List Endpoint} {g : Text} :
    g ∈ groupsOf endpoints ↔ ∃ e ∈ endpoints, resourceGroup e.path = g := by
  rw [groupsOf, List.mem_eraseDups, List.mem_map]

theorem nodup_groupsOf (endpoints : List Endpoint) : (groupsOf endpoints).Nodup :=
  nodup_eraseDups _

namespace Contract

theorem testClasses_eq (c : Contract) (s : Settings) :
    c.testClasses s = (groupsOf c.endpoints).map fun g =>
      .ofGroup s c.baseUrl g (endpointsOf c.endpoints g) := by
  rw [testClasses, groups, groupEndpoints_eq, List.map_map]
  rfl

/-! ## Clashes -/

/-- Two different groups of endpoints have the same class. -/
def GroupsClash (c : Contract) : Prop :=
  ∃ e ∈ c.endpoints, ∃ e' ∈ c.endpoints, resourceGroup e.path ≠ resourceGroup e'.path ∧
    className (resourceGroup e.path) = className (resourceGroup e'.path)

/-- Two entries of the schemas are objects with properties and have the same class. -/
def SchemasClash (c : Contract) : Prop :=
  ∃ p q, [p, q].Sublist c.schemas ∧ p.2.isObject = true ∧ q.2.isObject = true ∧
    className p.1 = className q.1

/-- **The test classes have different names unless groups clash.** -/
theorem nodup_testClasses (c : Contract) (s : Settings) :
    ((c.testClasses s).map (·.className)).Nodup ↔ ¬c.GroupsClash := by
  have hnames : (c.testClasses s).map (·.className) = (groupsOf c.endpoints).map testClassName := by
    rw [testClasses_eq, List.map_map]
    rfl
  have hsame : ∀ g g' : Text, testClassName g = testClassName g' ↔ className g = className g' :=
    fun _ _ => List.append_left_inj _
  rw [hnames, List.nodup_map_iff_inj_on (nodup_groupsOf _)]
  constructor
  · rintro hinj ⟨e, he, e', he', hne, hclass⟩
    have hg := mem_groupsOf.2 ⟨e, he, rfl⟩
    have hg' := mem_groupsOf.2 ⟨e', he', rfl⟩
    exact hne (hinj _ hg _ hg' ((hsame _ _).2 hclass))
  · intro hclash g hg g' hg' hclass
    obtain ⟨e, he, rfl⟩ := mem_groupsOf.1 hg
    obtain ⟨e', he', rfl⟩ := mem_groupsOf.1 hg'
    by_contra hne
    exact hclash ⟨e, he, e', he', hne, (hsame _ _).1 hclass⟩

/-- **The model classes have different names unless schemas clash.** -/
theorem nodup_models (c : Contract) (s : Settings) :
    ((c.models s).map (·.className)).Nodup ↔ ¬c.SchemasClash := by
  have hnames : (c.models s).map (·.className) =
      (c.schemas.filter (·.2.isObject)).map fun p => className p.1 := by
    rw [models, objectSchemas, List.map_map]
    rfl
  rw [hnames, List.Nodup, List.pairwise_map, List.pairwise_filter,
    List.pairwise_iff_forall_sublist]
  constructor
  · rintro hpairs ⟨p, q, hpq, hp, hq, hclass⟩
    exact hpairs hpq hp hq hclass
  · intro hclash p q hpq hp hq hclass
    exact hclash ⟨p, q, hpq, hp, hq, hclass⟩

end Contract

end SuiteForge
