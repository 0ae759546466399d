import ClientGen.ClientMethod
import ClientGen.Proofs.Dispatch
import ClientGen.Proofs.Endpoints

/-!
# Interfaces and implementations

The methods of a resource stand in two classes, as declarations and as code, and each class holds
its functions by name. This file fixes

* `ClientMethod.ofEndpoint_eq_ok`, `ofResource_eq_ok`: which methods a resource has;
* `BelongsTo.answers_of_mem`: what the branches of a method answer;
* `functions_traitOf`, `functions_objectOf`: no name hides another, the constructor's included;
* `Mirrored`: two functions are the views of one operation's method;
* `traits_mirror_objects`: the classes of all resources go in pairs, function by function.
-/

namespace ClientGen

open ClientGen.Text

namespace ClientMethod

variable {r : Registry} {e : Endpoint} {resource : Resource}

/-! ## 1. Methods of an endpoint -/

/-- Method of an endpoint that dispatches by a table. -/
def dispatchingBy (r : Registry) (e : Endpoint) (t : DispatchTable) : ClientMethod :=
  { name := e.methodName
    arguments := e.arguments.map parameterOf
    returnType := returnTypeOf t
    request := Request.ofEndpoint e
    dispatch := t
    comments := (e.operation.description.filter (· ≠ "")).getD e.operation.label
    errors := documentedErrors r.settings t
    settings := r.settings }

theorem checkCodes_eq_ok {t : DispatchTable} :
    checkCodes t = .ok () ↔ ∀ c ∈ t.expectedCodes, ¬ Number.isLong c = true := by
  rw [← List.any_eq_false, checkCodes]
  cases t.expectedCodes.any Number.isLong
  · exact iff_of_true rfl rfl
  · exact iff_of_false nofun nofun

theorem checkCodes_eq_error {t : DispatchTable} {f : Fault} :
    checkCodes t = .error f ↔
      f = .longInteger ∧ ∃ c ∈ t.expectedCodes, Number.isLong c = true := by
  rw [← List.any_eq_true, checkCodes]
  cases t.expectedCodes.any Number.isLong
  · exact iff_of_false nofun fun h => nomatch h.2
  · exact ⟨fun h => ⟨(Except.error.inj h).symm, rfl⟩, fun h => h.1 ▸ rfl⟩

/-- Apart from its warnings a method is made where its dispatch table is, if the codes of the table
    can be written. -/
theorem outcome_ofEndpoint (r : Registry) (e : Endpoint) :
    (ofEndpoint r e).outcome =
      (DispatchTable.ofEndpoint r e).outcome.mapError DescriptionFault.raised >>= fun t =>
        (checkCodes t).map fun _ => dispatchingBy r e t := by
  have hrest : ∀ x : Traced Fault DispatchTable,
      (x >>= fun t => Traced.lift (checkCodes t) >>= fun _ => pure (dispatchingBy r e t)).outcome =
        x.outcome >>= fun t => (checkCodes t).map fun _ => dispatchingBy r e t := by
    intro x
    rw [Traced.outcome_bind]
    congr 1
    funext t
    rw [Traced.outcome_bind]
    show (checkCodes t >>= fun _ => Except.ok _) = _
    cases checkCodes t <;> rfl
  unfold ofEndpoint
  dsimp only
  split
  · rw [Traced.outcome_bind]
    exact hrest _
  · exact hrest _

theorem ofEndpoint_eq_ok {m : ClientMethod} :
    (ofEndpoint r e).outcome = .ok m ↔
      ∃ t, (DispatchTable.ofEndpoint r e).outcome = .ok t ∧ checkCodes t = .ok () ∧ m =
        { name := e.methodName
          arguments := e.arguments.map parameterOf
          returnType := returnTypeOf t
          request := Request.ofEndpoint e
          dispatch := t
          comments := (e.operation.description.filter (· ≠ "")).getD e.operation.label
          errors := documentedErrors r.settings t
          settings := r.settings } := by
  rw [outcome_ofEndpoint, bind_eq_ok]
  simp only [mapError_eq_ok, map_eq_ok]
  constructor
  · rintro ⟨t, ht, _, hcodes, rfl⟩
    exact ⟨t, ht, hcodes, rfl⟩
  · rintro ⟨t, ht, hcodes, rfl⟩
    exact ⟨t, ht, (), hcodes, rfl⟩

/-- A method is not made where its dispatch table is not, or where a code of the table cannot be
    written. -/
theorem ofEndpoint_eq_error {f : Fault} :
    (ofEndpoint r e).outcome = .error f ↔
      (∃ d, (DispatchTable.ofEndpoint r e).outcome = .error d ∧ d.raised = f) ∨
      ∃ t, (DispatchTable.ofEndpoint r e).outcome = .ok t ∧ checkCodes t = .error f := by
  rw [outcome_ofEndpoint, bind_eq_error]
  simp only [mapError_eq_error, mapError_eq_ok, map_eq_error]

/-- The codes of a table that cannot be written are those of the responses that cannot. -/
theorem exists_isLong_iff {t : DispatchTable}
    (h : (DispatchTable.ofEndpoint r e).outcome = .ok t) :
    (∃ c ∈ t.expectedCodes, Number.isLong c = true) ↔
      ∃ a ∈ e.operation.responses, Number.isLong a.code = true := by
  obtain ⟨bs, nils, hc⟩ := DispatchTable.ofEndpoint_eq_ok.mp h
  have hnotFound : ¬ Number.isLong notFoundCode = true := by decide
  simp only [hc.expected, DispatchTable.mem_sortCodes, List.mem_append, List.mem_map]
  constructor
  · rintro ⟨c, ⟨_, _, rfl⟩ | ⟨a, ha, rfl⟩, hlong⟩
    · exact absurd hlong hnotFound
    · exact ⟨a, ha, hlong⟩
  · rintro ⟨a, ha, hlong⟩
    exact ⟨a.code, .inr ⟨a, ha, rfl⟩, hlong⟩

theorem name_of_ofEndpoint {m : ClientMethod} (h : (ofEndpoint r e).outcome = .ok m) :
    m.name = e.methodName := by
  obtain ⟨t, _, _, rfl⟩ := ofEndpoint_eq_ok.mp h
  rfl

/-! ## 2. Methods of a resource -/

/-- **Method of an operation**, by way of its endpoint. -/
def BelongsTo (r : Registry) (resource : Resource) (o : Operation) (m : ClientMethod) : Prop :=
  ∃ e, Endpoint.BuiltFrom r resource o e ∧ (ofEndpoint r e).outcome = .ok m

theorem BelongsTo.name_eq {o : Operation} {m : ClientMethod} (h : BelongsTo r resource o m) :
    m.name = Endpoint.methodNameOf resource o := by
  obtain ⟨e, he, hm⟩ := h
  rw [name_of_ofEndpoint hm, he.methodName_eq]

/-- A method dispatches by the table of its operation. -/
theorem BelongsTo.exists_consistsOf {o : Operation} {m : ClientMethod}
    (h : BelongsTo r resource o m) :
    ∃ e bs nils, e.operation = o ∧ DispatchTable.ConsistsOf r e m.dispatch bs nils := by
  obtain ⟨e, he, hm⟩ := h
  obtain ⟨t, ht, _, rfl⟩ := ofEndpoint_eq_ok.mp hm
  obtain ⟨bs, nils, hc⟩ := DispatchTable.ofEndpoint_eq_ok.mp ht
  exact ⟨e, bs, nils, he.operation_eq, hc⟩

theorem BelongsTo.answers_of_mem {o : Operation} {m : ClientMethod} (h : BelongsTo r resource o m)
    {b : Outcome} (hb : b ∈ m.dispatch.branches) :
    (∃ a ∈ o.responses, DispatchTable.Answers r a b) ∨ ∃ s, b = .successAbsent s := by
  obtain ⟨e, bs, nils, rfl, hc⟩ := h.exists_consistsOf
  exact hc.answers_of_mem hb

theorem ofResource_eq_ok {ms : List ClientMethod} :
    (ofResource r resource).outcome = .ok ms ↔
      List.Forall₂ (BelongsTo r resource) resource.operations ms ∧ (ms.map (·.name)).Nodup := by
  have hnames : ∀ es, List.Forall₂ (fun e m => (ofEndpoint r e).outcome = .ok m) es ms →
      es.map (·.methodName) = ms.map (·.name) := fun es h =>
    map_eq_of_forall₂ h fun e m hm => (name_of_ofEndpoint hm).symm
  unfold ofResource BelongsTo
  rw [Traced.outcome_bind_eq_ok, forall₂_comp_iff]
  constructor
  · rintro ⟨es, hes, hms⟩
    obtain ⟨hes, hd⟩ := Endpoint.ofResource_eq_ok.mp (mapError_eq_ok.mp hes)
    have hms := Traced.outcome_mapM_eq_ok.mp hms
    exact ⟨⟨es, hes, hms⟩, hnames es hms ▸ hd⟩
  · rintro ⟨⟨es, hes, hms⟩, hd⟩
    refine ⟨es, mapError_eq_ok.mpr (Endpoint.ofResource_eq_ok.mpr ⟨hes, ?_⟩), Traced.outcome_mapM_eq_ok.mpr hms⟩
    rw [hnames es hms]
    exact hd

theorem names_of_belongsTo {os : List Operation} {ms : List ClientMethod}
    (h : List.Forall₂ (BelongsTo r resource) os ms) :
    ms.map (·.name) = os.map (Endpoint.methodNameOf resource) :=
  (map_eq_of_forall₂ h fun _ _ hm => hm.name_eq.symm).symm

/-! ## 3. Classes of a resource -/

theorem names_views (view : ClientMethod → Source.Function) (ms : List ClientMethod) :
    Table.names (ms.map fun m => (m.name, view m)) = ms.map (·.name) := by
  rw [Table.names, List.map_map]
  rfl

theorem functions_traitOf {ms : List ClientMethod} (h : (ms.map (·.name)).Nodup) :
    (traitOf resource ms).functions = ms.map fun m => (m.name, m.interface) := by
  refine Table.ofEntries_of_nodup ?_
  rw [names_views]
  exact h

theorem foldl_addFunction (c : Source.Class) (ms : List ClientMethod) :
    ms.foldl (fun c m => c.addFunction m.implementation) c =
      { c with
        functions := (ms.map fun m => (m.name, m.implementation)).foldl
          (fun t e => Table.put t e.1 e.2) c.functions } := by
  induction ms generalizing c with
  | nil => rfl
  | cons m ms ih =>
    rw [List.foldl_cons, ih]
    rfl

/-- An implementation holds its constructor and every method, where none is named as the
    constructor is. -/
theorem functions_objectOf {ms : List ClientMethod}
    (h : ("__init__" :: ms.map (·.name)).Nodup) :
    (objectOf resource ms).functions =
      ("__init__", objectConstructor) :: ms.map fun m => (m.name, m.implementation) := by
  rw [objectOf, foldl_addFunction]
  refine Table.foldl_put_of_nodup (t := [("__init__", objectConstructor)]) ?_
  rw [List.singleton_append, Table.names_cons, names_views]
  exact h

theorem name_objectOf (ms : List ClientMethod) :
    (objectOf resource ms).name = objectName resource := by
  rw [objectOf, foldl_addFunction]
  rfl

theorem inherits_objectOf (ms : List ClientMethod) :
    (objectOf resource ms).inherits = ["interfaces." ++ traitName resource] := by
  rw [objectOf, foldl_addFunction]
  rfl

/-- Classes made of the methods of each resource, one a resource. -/
theorem outcome_mapM_classes {view : Resource → List ClientMethod → Source.Class}
    {resources : List Resource} {cs : List Source.Class} :
    (resources.mapM fun resource => do
      return view resource (← ofResource r resource) : Traced Fault _).outcome = .ok cs ↔
      List.Forall₂ (fun resource c => ∃ ms, (ofResource r resource).outcome = .ok ms ∧
        view resource ms = c) resources cs := by
  rw [Traced.outcome_mapM_eq_ok]
  simp only [Traced.outcome_bind_eq_ok, Traced.outcome_pure_eq_ok]

/-! ## 4. The two views of a method -/

/-- Lines of a function before its documentation: decorators, then the header. -/
def signature (f : Source.Function) : List String := f.decorators ++ [f.header]

theorem text_eq_signature (f : Source.Function) :
    f.text = unlines (signature f ++ [indent f.body]) := by
  rw [signature, List.append_assoc]
  rfl

/-- **Views of one method**: `f` declares and `g` implements the method of the operation `o`, and
    what they say of calling it is the same. -/
structure Mirrored (r : Registry) (resource : Resource) (o : Operation)
    (f g : Source.Function) : Prop where
  method : ∃ m, BelongsTo r resource o m ∧ f = m.interface ∧ g = m.implementation
  name : f.name = Endpoint.methodNameOf resource o ∧ g.name = f.name
  parameters : g.parameters = f.parameters
  response : g.response = f.response
  isAsync : f.isAsync = true ∧ g.isAsync = true
  header : g.header = f.header
  signature : signature f = "@abc.abstractmethod" :: signature g

theorem BelongsTo.mirrored {o : Operation} {m : ClientMethod} (h : BelongsTo r resource o m) :
    Mirrored r resource o m.interface m.implementation :=
  ⟨⟨m, h, rfl, rfl⟩, ⟨h.name_eq, rfl⟩, rfl, rfl, ⟨rfl, rfl⟩, rfl, rfl⟩

/-- **Classes of one resource**: the same functions in the same order, one for each operation, and
    the constructor before them in the implementation. -/
structure ClassesMirrored (r : Registry) (resource : Resource) (trait object : Source.Class) :
    Prop where
  traitName : trait.name = traitName resource
  objectName : object.name = objectName resource
  inherits : object.inherits = ["interfaces." ++ trait.name]
  traitFunctions : Table.names trait.functions =
    resource.operations.map (Endpoint.methodNameOf resource)
  objectFunctions : Table.names object.functions =
    "__init__" :: resource.operations.map (Endpoint.methodNameOf resource)
  distinct : (Table.names object.functions).Nodup
  mirrored : ∀ o ∈ resource.operations, ∃ f g,
    Table.get? trait.functions (Endpoint.methodNameOf resource o) = some f ∧
    Table.get? object.functions (Endpoint.methodNameOf resource o) = some g ∧
    Mirrored r resource o f g

/-- No method of a resource is named as another one or as the constructor is. -/
theorem nodup_names_of_ofResource {ms : List ClientMethod}
    (h : (ofResource r resource).outcome = .ok ms) : ("__init__" :: ms.map (·.name)).Nodup := by
  obtain ⟨hms, hd⟩ := ofResource_eq_ok.mp h
  refine List.nodup_cons.mpr ⟨fun hm => ?_, hd⟩
  rw [names_of_belongsTo hms] at hm
  obtain ⟨o, _, ho⟩ := List.mem_map.mp hm
  exact Endpoint.methodNameOf_ne_constructor resource o ho

theorem classesMirrored_of_ofResource {ms : List ClientMethod}
    (h : (ofResource r resource).outcome = .ok ms) :
    ClassesMirrored r resource (traitOf resource ms) (objectOf resource ms) := by
  obtain ⟨hms, hd⟩ := ofResource_eq_ok.mp h
  have hnames := names_of_belongsTo hms
  have hall := nodup_names_of_ofResource h
  have htrait : (traitOf resource ms).functions = _ := functions_traitOf hd
  have hobject : (objectOf resource ms).functions = _ := functions_objectOf hall
  refine ⟨rfl, name_objectOf ms, inherits_objectOf ms, ?_, ?_, ?_, fun o ho => ?_⟩
  · rw [htrait, names_views, hnames]
  · rw [hobject, Table.names_cons, names_views, hnames]
  · rw [hobject, Table.names_cons, names_views]
    exact hall
  · obtain ⟨m, hm, hom⟩ := exists_right_of_forall₂ hms ho
    have hname := hom.name_eq
    refine ⟨m.interface, m.implementation, ?_, ?_, hom.mirrored⟩
    · rw [htrait, ← hname]
      refine Table.get?_of_mem ?_ (List.mem_map_of_mem hm)
      rw [names_views]
      exact hd
    · rw [hobject, ← hname]
      refine Table.get?_of_mem ?_ (List.mem_cons_of_mem _ (List.mem_map_of_mem hm))
      rw [Table.names_cons, names_views]
      exact hall

/-- **Interfaces and implementations mirror each other**: one of each for every resource, in sorted
    order, with a function for every operation. -/
theorem traits_mirror_objects {s : Service} {ts os : List Source.Class}
    (ht : (traits r s).outcome = .ok ts) (ho : (objects r s).outcome = .ok os) :
    s.sortedResources.Perm s.resources ∧
    ts.length = s.sortedResources.length ∧ os.length = s.sortedResources.length ∧
    List.Forall₂ (fun resource c => ClassesMirrored r resource c.1 c.2)
      s.sortedResources (ts.zip os) := by
  have ht := outcome_mapM_classes.mp ht
  have ho := outcome_mapM_classes.mp ho
  refine ⟨sortBy_perm _ _, ht.length_eq.symm, ho.length_eq.symm, ?_⟩
  refine (forall₂_zip_of_forall₂ ht ho).imp fun resource c h => ?_
  obtain ⟨⟨ms, hms, hc⟩, ms', hms', hc'⟩ := h
  rw [hms] at hms'
  cases hms'
  rw [← hc, ← hc']
  exact classesMirrored_of_ofResource hms

/-- Service with two resources out of order, one without operations. -/
def twoResources : Service :=
  { name := "api"
    resources :=
      [{ type := "user", plural := "users"
         operations :=
           [{ verb := .get, path := "/users", responses := [⟨200, "[string]", false⟩] },
            { verb := .delete, path := "/users/:id", responses := [⟨204, "unit", false⟩] }] },
       { type := "account", plural := "Accounts" }] }

/-- The classes of two resources, in sorted order. -/
theorem traits_mirror_objects_two_resources : ∃ ts os,
    (traits ⟨Dialect.aiohttp, [], []⟩ twoResources).outcome = .ok ts ∧
    (objects ⟨Dialect.aiohttp, [], []⟩ twoResources).outcome = .ok os ∧
    ts.map (Table.names ·.functions) = [[], ["get", "delete_by_id"]] ∧
    os.map (Table.names ·.functions) = [["__init__"], ["__init__", "get", "delete_by_id"]] ∧
    List.Forall₂ (fun resource c => ClassesMirrored ⟨Dialect.aiohttp, [], []⟩ resource c.1 c.2)
      twoResources.sortedResources (ts.zip os) :=
  ⟨_, _, rfl, rfl, rfl, rfl, (traits_mirror_objects (s := twoResources) rfl rfl).2.2.2⟩

end ClientMethod

end ClientGen
