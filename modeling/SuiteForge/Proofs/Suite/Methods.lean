/-
# One test method for each endpoint

The test classes of a suite are made from the groups of its endpoints. The groups come in
the order in which they come first among the endpoints, each has its endpoints in their
order (`groupEndpoints_eq`), and no endpoint is in two (`flatMap_filter_perm`). A group's
methods come from its endpoints one by one (`groupMethods_tests`), under names that differ.

So a suite that is generated tests each endpoint of its contract in exactly one method of
one class (`generate_methods`).
-/

import SuiteForge.Proofs.Suite.Failure
import SuiteForge.Proofs.Translate.Endpoints

namespace SuiteForge

/-! ## Methods -/

/-- A method tests an endpoint. -/
structure MethodContext.Tests (m : MethodContext) (e : Endpoint) : Prop where
  path : m.path = e.path
  httpMethod : m.httpMethod = e.method.name.lower
  hasBody : m.hasBody = true ↔ e.body ≠ none
  pathParameters : m.pathParameters.map (fun p => (p.name, p.placeholder)) =
    (e.parameters.filter (·.location = .path)).map fun p => (p.name, p.type.placeholder)
  queryParameters : m.queryParameters.map (fun p => (p.name, p.placeholder)) =
    (e.parameters.filter (·.location = .query)).map fun p => (p.name, p.type.placeholder)
  expectedStatus : m.expectedStatus =
    if Text.ofString "201" ∈ e.statusCodes ∨ Text.ofString "201" ∈ e.responses.map (·.1) then
      Text.ofString "201"
    else Text.ofString "200"

theorem tests_ofEndpoint (e : Endpoint) (name : Text) :
    (MethodContext.ofEndpoint e name).Tests e where
  path := rfl
  httpMethod := Method.key_eq_lower e.method
  hasBody := by
    show e.hasBody = true ↔ e.body ≠ none
    rw [Endpoint.hasBody, Option.isSome_iff_ne_none]
  pathParameters := by
    show (e.pathParameters.map ParameterContext.ofParameter).map _ = _
    rw [List.map_map]
    rfl
  queryParameters := by
    show (e.queryParameters.map ParameterContext.ofParameter).map _ = _
    rw [List.map_map]
    rfl
  expectedStatus := by
    show e.expectedStatus = _
    simp only [Endpoint.expectedStatus, Bool.or_eq_true, List.contains_iff_mem]

/-- **The methods of a group test its endpoints one by one, in order.** -/
theorem groupMethods_tests (endpoints : List Endpoint) :
    List.Forall₂ MethodContext.Tests (groupMethods endpoints) endpoints :=
  forall₂_zip_deduplicate tests_ofEndpoint _ endpoints

theorem map_path_of_tests {methods : List MethodContext} {endpoints : List Endpoint}
    (h : List.Forall₂ MethodContext.Tests methods endpoints) :
    methods.map (·.path) = endpoints.map (·.path) := by
  induction h with
  | nil => rfl
  | cons htest _ ih => rw [List.map_cons, List.map_cons, htest.path, ih]

/-- The names of the methods of a group are those of its endpoints, made unique. -/
theorem names_groupMethods (endpoints : List Endpoint) : (groupMethods endpoints).map (·.name) =
    deduplicate (endpoints.map fun e => testMethodName e.operationId) := by
  have hlength := length_deduplicate (endpoints.map fun e => testMethodName e.operationId)
  rw [List.length_map] at hlength
  rw [groupMethods, List.map_map]
  exact List.map_snd_zip hlength.le

/-- **The methods of a group have different names.** -/
theorem nodup_groupMethods (endpoints : List Endpoint) :
    ((groupMethods endpoints).map (·.name)).Nodup := by
  rw [names_groupMethods]
  exact nodup_deduplicate _

/-! ## Suites -/

/-- The data of a test class, if that is what a context holds. -/
def Context.testClass? : Context → Option TestClassContext
  | .testClass c => some c
  | _ => none

/-- A file holds what its context is rendered to. -/
def Context.Fills (c : Context) (f : ProjectFile) : Prop :=
  Template.renderPieces (isXmlTemplate c.template.name) c.scope c.template.template = .ok f.content

/-- The contexts that a suite is rendered with, in the order of its files. -/
def Contract.contexts (c : Contract) (s : Settings) : List Context :=
  (c.tasks s).map (·.context)

theorem testClasses_contexts (c : Contract) (s : Settings) :
    (c.contexts s).filterMap Context.testClass? = c.testClasses s := by
  have hmodels : ((c.models s).map Context.model).filterMap Context.testClass? = [] := by
    rw [List.filterMap_map, List.filterMap_eq_nil_iff]
    exact fun _ _ => rfl
  have htests : ((c.testClasses s).map Context.testClass).filterMap Context.testClass? =
      c.testClasses s := by
    rw [List.filterMap_map]
    exact List.filterMap_some
  unfold Contract.contexts Contract.tasks
  rw [List.map_append, List.map_append, Task.context_ofModels, List.map_map, List.filterMap_append,
    List.filterMap_append, hmodels, List.append_nil]
  exact htests

/-- **The files of a suite are filled from its contexts, in order.** -/
theorem fills_of_generate {settings : Settings} {trace : TraceId} {c : Contract} {s : Session}
    {p : Project} (hs : s.IsBundled)
    (h : (generate TemplateDirectory.bundled settings trace c).outcome s = .ok p) :
    List.Forall₂ Context.Fills (c.contexts settings) p.files := by
  rw [(yields_generate settings trace c s hs).1] at h
  obtain ⟨files, hfiles, hproject⟩ := bind_eq_ok.1 h
  rw [assemble_eq_ok hproject]
  refine List.forall₂_map_left_iff.2 ((mapM_eq_ok.1 hfiles).imp fun t f hf => ?_)
  obtain ⟨-, rfl⟩ := ProjectFile.check_eq_ok.1 (mapError_eq_ok.1 hf)
  exact t.context.render_eq_text

/-- **Every endpoint has exactly one test method.** A suite that is generated has a test class for
each group of the endpoints, in the order in which the groups come first. The methods of a class
test the endpoints of its group one by one and in order, under different names; and the endpoints
of all classes are those of the contract, each once. -/
theorem generate_methods {settings : Settings} {trace : TraceId} {c : Contract} {s : Session}
    {p : Project} (hs : s.IsBundled)
    (h : (generate TemplateDirectory.bundled settings trace c).outcome s = .ok p) :
    List.Forall₂ Context.Fills (c.contexts settings) p.files ∧
      ∃ classes, (c.contexts settings).filterMap Context.testClass? = classes ∧
        classes.map (·.resource) = groupsOf c.endpoints ∧
        (∀ k ∈ classes,
          List.Forall₂ MethodContext.Tests k.methods (endpointsOf c.endpoints k.resource) ∧
            (k.methods.map (·.name)).Nodup) ∧
        (classes.flatMap fun k => endpointsOf c.endpoints k.resource).Perm c.endpoints := by
  have hclasses := c.testClasses_eq settings
  refine ⟨fills_of_generate hs h, _, testClasses_contexts c settings, ?_, ?_, ?_⟩
  · rw [hclasses, List.map_map]
    exact List.map_id _
  · intro k hk
    rw [hclasses] at hk
    obtain ⟨g, -, rfl⟩ := List.mem_map.1 hk
    exact ⟨groupMethods_tests _, nodup_groupMethods _⟩
  · rw [hclasses, List.flatMap_map]
    refine flatMap_filter_perm (fun e : Endpoint => resourceGroup e.path) (nodup_groupsOf _) ?_
    exact fun e he => mem_groupsOf.2 ⟨e, he, rfl⟩

/-- A contract with two groups of endpoints, the first of which has two. -/
def petContract : Contract := listContract "Pets" ["/pets", "/orders", "/pets/\x7bid\x7d"]

theorem outcome_generate_petContract :
    (generate TemplateDirectory.bundled .default "t" petContract).outcome .fresh =
      .ok ⟨petContract.projectName .default, (petContract.tasks .default).map Task.file⟩ :=
  outcome_generate_listContract _ _ (by decide +kernel) (by decide)

theorem generate_methods_petContract :
    ∃ p, (generate TemplateDirectory.bundled .default "t" petContract).outcome .fresh = .ok p ∧
      ∃ pets orders, (petContract.contexts .default).filterMap Context.testClass? = [pets, orders] ∧
        pets.methods.map (·.path) = ["/pets", "/pets/\x7bid\x7d"] ∧
        (pets.methods.map (·.name)).Nodup ∧ orders.methods.map (·.path) = ["/orders"] := by
  have hmade := outcome_generate_petContract
  refine ⟨_, hmade, ?_⟩
  obtain ⟨-, classes, hclasses, hresources, hmethods, -⟩ := generate_methods isBundled_fresh hmade
  have hnames : groupsOf petContract.endpoints = ["pets", "orders"] := by decide +kernel
  rw [hnames] at hresources
  obtain ⟨pets, rest, rfl, hpets, hresources⟩ := List.map_eq_cons_iff.1 hresources
  obtain ⟨orders, rest, rfl, horders, hresources⟩ := List.map_eq_cons_iff.1 hresources
  obtain rfl := List.map_eq_nil_iff.1 hresources
  obtain ⟨htests, hnodup⟩ := hmethods pets List.mem_cons_self
  obtain ⟨htests', -⟩ := hmethods orders (List.mem_cons_of_mem _ List.mem_cons_self)
  rw [hpets] at htests
  rw [horders] at htests'
  have hpaths : (endpointsOf petContract.endpoints "pets").map (·.path) =
    ["/pets", "/pets/\x7bid\x7d"] := by decide +kernel
  have hpaths' : (endpointsOf petContract.endpoints "orders").map (·.path) = ["/orders"] := by
    decide +kernel
  exact ⟨pets, orders, hclasses, (map_path_of_tests htests).trans hpaths, hnodup,
    (map_path_of_tests htests').trans hpaths'⟩

end SuiteForge
