import ClientGen.Proofs.Defaults
import ClientGen.Proofs.Methods
import ClientGen.Proofs.Requests

/-!
# Faults of the methods of a resource

The methods of a resource are made in two rounds: first every operation gets an endpoint, then every
endpoint a method. Either round is left at the first operation that cannot go on. This file fixes

* `Endpoint.Refuses`, `Endpoint.ofResource_eq_error`: which operation the first round is left at;
* `ClientMethod.StopsAt`, `ofResource_eq_error`: which operation the methods of a resource are left
  at, and with which fault;
* `Located`, `Told`: the resource, the operation and the response that a fault names, and the one
  kind of fault that names none;
* `FindsAll`: nothing is looked up that is not there;
* `ofResource_locates`: every fault of a resource is told of the first operation that has one.
-/

namespace ClientGen

open ClientGen.Text

-- A power is a repeated product.
attribute [local instance (high)] instPowNat

/-! ## 1. The round of endpoints -/

namespace Endpoint

variable {r : Registry} {resource : Resource} {o : Operation} {e : Endpoint} {f : DescriptionFault}

/-- **An operation is refused** behind the endpoints of those before it: it gets no endpoint, or its
    method has the name of one of theirs. -/
inductive Refuses (r : Registry) (resource : Resource) (before : List Endpoint) (o : Operation)
    (f : DescriptionFault) : Prop where
  | unbuilt (h : ofOperation r resource o = .error f)
  | nameShared {e other : Endpoint} (he : BuiltFrom r resource o e)
    (hother : before.find? (·.methodName = e.methodName) = some other)
    (hf : f = faultOf resource o (.methodNameShared e.methodName other.operation.label) none)

theorem BuiltFrom.unique {e' : Endpoint} (h : BuiltFrom r resource o e)
    (h' : BuiltFrom r resource o e') : e = e' :=
  Except.ok.inj ((ofOperation_eq_ok.mpr h).symm.trans (ofOperation_eq_ok.mpr h'))

/-- The faults of an endpoint are those of its operation. -/
theorem BuiltFrom.fault_eq (h : BuiltFrom r resource o e) (cause : Cause) (code : Option Int) :
    e.fault cause code = faultOf resource o cause code := by
  unfold Endpoint.fault
  rw [h.resource_eq, h.operation_eq]

theorem ofOperations_cons_eq_error {before : List Endpoint} {os : List Operation} :
    ofOperations r resource before (o :: os) = .error f ↔ Refuses r resource before o f ∨
      ∃ e, BuiltFrom r resource o e ∧
        (before.find? fun other => other.methodName = e.methodName) = none ∧
        ofOperations r resource (before ++ [e]) os = .error f := by
  rw [ofOperations, bind_eq_error]
  constructor
  · rintro (h | ⟨e, he, h⟩)
    · exact .inl (.unbuilt h)
    · have hb := ofOperation_eq_ok.mp he
      cases hfind : before.find? fun other => other.methodName = e.methodName with
      | none =>
        rw [hfind] at h
        exact .inr ⟨e, hb, hfind, h⟩
      | some other =>
        rw [hfind] at h
        cases h
        exact .inl (.nameShared hb hfind (hb.fault_eq _ _))
  · rintro (h | ⟨e, hb, hfind, h⟩)
    · cases h with
      | unbuilt h => exact .inl h
      | @nameShared e other hb hfind hf =>
        refine .inr ⟨e, ofOperation_eq_ok.mpr hb, ?_⟩
        rw [hfind, hf, ← hb.fault_eq]
        rfl
    · refine .inr ⟨e, ofOperation_eq_ok.mpr hb, ?_⟩
      rw [hfind]
      exact h

/-- The round of endpoints is left at the first operation that is refused. -/
theorem ofResource_eq_error : ofResource r resource = .error f ↔
    ∃ before o after es, resource.operations = before ++ o :: after ∧
      List.Forall₂ (BuiltFrom r resource) before es ∧ (es.map methodName).Nodup ∧
      Refuses r resource es o f :=
  collect_eq_error (fun _ => rfl) (fun _ _ _ _ => ofOperations_cons_eq_error) List.nodup_nil

end Endpoint

/-! ## 2. Both rounds -/

namespace ClientMethod

variable {r : Registry} {resource : Resource} {o : Operation} {f : Fault}

/-- **Methods are left at an operation** behind others: it is the first that is refused an endpoint,
    or all have endpoints and it is the first that has no method. -/
inductive StopsAt (r : Registry) (resource : Resource) (before : List Operation) (o : Operation)
    (f : Fault) : Prop where
  | endpoint {es : List Endpoint} (hes : List.Forall₂ (Endpoint.BuiltFrom r resource) before es)
    (hd : (es.map (·.methodName)).Nodup) {d : DescriptionFault}
    (h : Endpoint.Refuses r resource es o d) (hf : d.raised = f)
  | method {all : List Endpoint} (hall : Endpoint.ofResource r resource = .ok all)
    {ms : List ClientMethod} (hms : List.Forall₂ (BelongsTo r resource) before ms) {e : Endpoint}
    (he : Endpoint.BuiltFrom r resource o e) (h : (ofEndpoint r e).outcome = .error f)

theorem ofResource_eq_error : (ofResource r resource).outcome = .error f ↔
    ∃ before o after, resource.operations = before ++ o :: after ∧ StopsAt r resource before o f := by
  unfold ofResource
  rw [Traced.outcome_bind_eq_error]
  constructor
  · rintro (h | ⟨es, hes, h⟩)
    · obtain ⟨d, h, hf⟩ := mapError_eq_error.mp h
      obtain ⟨before, o, after, es, hos, hes, hd, h⟩ := Endpoint.ofResource_eq_error.mp h
      exact ⟨before, o, after, hos, .endpoint hes hd h hf⟩
    · have hes := mapError_eq_ok.mp hes
      rw [Traced.outcome_mapM, mapM_eq_error] at h
      obtain ⟨first, e, rest, ms, rfl, hms, h⟩ := h
      obtain ⟨before, o, after, hos, hfirst, he⟩ :=
        exists_split_of_forall₂ (Endpoint.ofResource_eq_ok.mp hes).1
      exact ⟨before, o, after, hos,
        .method hes (forall₂_comp_iff.mpr ⟨first, hfirst, hms⟩) he h⟩
  · rintro ⟨before, o, after, hos, h⟩
    cases h with
    | endpoint hes hd h hf =>
      exact .inl (mapError_eq_error.mpr
        ⟨_, Endpoint.ofResource_eq_error.mpr ⟨before, o, after, _, hos, hes, hd, h⟩, hf⟩)
    | @method all hall ms hms e he h =>
      have hbuilt := (Endpoint.ofResource_eq_ok.mp hall).1.flip
      rw [hos] at hbuilt
      obtain ⟨first, e', rest, rfl, hfirst, he'⟩ := exists_split_of_forall₂ hbuilt
      obtain ⟨first', hfirst', hms⟩ := forall₂_comp_iff.mp hms
      have unique : Relator.RightUnique (Endpoint.BuiltFrom r resource) :=
        fun _ _ _ h h' => h.unique h'
      obtain rfl := List.right_unique_forall₂' unique hfirst' hfirst.flip
      obtain rfl := he.unique he'
      refine .inr ⟨_, mapError_eq_ok.mpr hall, ?_⟩
      rw [Traced.outcome_mapM, mapM_eq_error]
      exact ⟨_, e, rest, ms, rfl, hms, h⟩

/-! ## 3. Places of faults -/

/-- **A fault is located** at an operation: it names the resource and the operation, and no response
    or one that the operation declares. -/
structure Located (resource : Resource) (o : Operation) (f : DescriptionFault) : Prop where
  resource : f.place.resource = .text resource.plural
  operation : f.place.operation = some o.label
  code : f.place.code = none ∨ ∃ a ∈ o.responses, f.place.code = some a.code

theorem located_faultOf (resource : Resource) (o : Operation) (c : Cause) :
    Located resource o (Endpoint.faultOf resource o c none) :=
  ⟨rfl, rfl, .inl rfl⟩

theorem located_of_refuses {before : List Endpoint} {d : DescriptionFault}
    (h : Endpoint.Refuses r resource before o d) : Located resource o d := by
  cases h with
  | unbuilt h =>
    obtain ⟨c, _, rfl⟩ := mapError_eq_error.mp h
    exact located_faultOf resource o c
  | nameShared _ _ hf =>
    rw [hf]
    exact located_faultOf resource o _

/-- A dispatch table is refused for a response of its operation. -/
theorem exists_response_of_refused {e : Endpoint} {d : DescriptionFault}
    (h : DispatchTable.Refused r e d) :
    ∃ a ∈ e.operation.responses, ∃ c, d = e.fault c (some a.code) := by
  cases h with
  | twoOptional ho hf =>
    have hm := ho ▸ List.mem_cons_of_mem _ List.mem_cons_self
    exact ⟨_, (DispatchTable.mem_optionalSuccesses.mp hm).1, _, hf⟩
  | unread ha hf =>
    obtain ⟨c, _, rfl⟩ := hf
    exact ⟨_, ha, c, rfl⟩

theorem located_of_refused {e : Endpoint} (he : Endpoint.BuiltFrom r resource o e)
    {d : DescriptionFault} (h : DispatchTable.Refused r e d) : Located resource o d := by
  obtain ⟨a, ha, c, rfl⟩ := exists_response_of_refused h
  rw [he.operation_eq] at ha
  rw [he.fault_eq]
  exact ⟨rfl, rfl, .inr ⟨a, ha, rfl⟩⟩

/-- **A fault is told of an operation**: it is a fault of the description that is located there, or
    the operation declares a response whose code cannot be written, and the fault names no place. -/
inductive Told (resource : Resource) (o : Operation) : Fault → Prop where
  | located {d : DescriptionFault} (h : Located resource o d) : Told resource o (.description d)
  | longCode {a : Response} (ha : a ∈ o.responses) (h : Number.isLong a.code = true) :
    Told resource o .longInteger

/-- A located fault is raised as it is, unless the code in its place cannot be written. -/
theorem Located.told {d : DescriptionFault} (h : Located resource o d) : Told resource o d.raised := by
  have hplace : d.place.hasLongInteger = d.place.code.any Number.isLong := by
    rw [Place.hasLongInteger, h.resource]
    exact Bool.or_false _
  rw [DescriptionFault.raised, hplace]
  split
  · rename_i hlong
    rcases h.code with hc | ⟨a, ha, hc⟩
    · rw [hc] at hlong
      cases hlong
    · rw [hc] at hlong
      exact .longCode ha hlong
  · exact .located h

theorem StopsAt.told {before : List Operation} (h : StopsAt r resource before o f) :
    Told resource o f := by
  cases h with
  | endpoint _ _ h hf => exact hf ▸ (located_of_refuses h).told
  | method _ _ he h =>
    rcases ofEndpoint_eq_error.mp h with ⟨d, hd, rfl⟩ | ⟨t, ht, h⟩
    · exact (located_of_refused he (DispatchTable.refused_of_ofEndpoint hd)).told
    · obtain ⟨rfl, hlong⟩ := checkCodes_eq_error.mp h
      obtain ⟨a, ha, hlong⟩ := (exists_isLong_iff ht).mp hlong
      exact .longCode (he.operation_eq ▸ ha) hlong

/-! ## 4. Look-ups -/

variable {s : Service} {settings : Settings}

/-- **Nothing is looked up that is not there**: an enum that a notation refers to is declared, and a
    placeholder of a path has its argument. -/
structure FindsAll (s : Service) (r : Registry) (resource : Resource) : Prop where
  enums : ∀ t name, r.parse t = .ok (.named .enum name) →
    ∃ d ∈ s.enums, r.enums.find? (·.name = name) = some d
  placeholders : ∀ o ∈ resource.operations, ∀ e, Endpoint.ofOperation r resource o = .ok e →
    ∀ x ∈ Endpoint.segmentsOf o.path, ∀ name, Endpoint.placeholder? x = some name →
      ∃ a, e.pathParameters.find? (·.name = name) = some a

theorem findsAll (hr : Registry.DeclaredBy s settings r) (resource : Resource) :
    FindsAll s r resource := by
  refine ⟨fun t name ht => ?_, fun o _ e he x hx name hname => ?_⟩
  · have hdeclared : (name, NamedKind.enum) ∈ r.entries := Registry.declared_of_parse ht
    rw [hr.entries_eq] at hdeclared
    obtain ⟨d, hd, rfl⟩ : ∃ d ∈ s.enums, d.name = name := by
      simpa [Registry.declarations] using hdeclared
    exact ⟨d, hd, Registry.find?_enum hr hd⟩
  · have hb := Endpoint.ofOperation_eq_ok.mp he
    obtain ⟨a, ha, rfl⟩ := hb.exists_pathParameter hx hname
    exact ⟨a, hb.find?_pathParameters ha⟩

/-- **Faults of a resource are told of an operation**: its methods are left exactly at the first
    operation that is refused an endpoint or, where all have one, at the first that has no method.
    The fault names the resource, that operation, and at most a response that it declares, unless the
    operation declares a code that cannot be written; no resource with such a code has methods. -/
theorem ofResource_locates (hr : Registry.ofService s settings = .ok r) (resource : Resource) :
    FindsAll s r resource ∧
    (∀ f, (ofResource r resource).outcome = .error f ↔
      ∃ before o after, resource.operations = before ++ o :: after ∧ Told resource o f ∧
        StopsAt r resource before o f) ∧
    ∀ ms, (ofResource r resource).outcome = .ok ms →
      ∀ o ∈ resource.operations, ∀ a ∈ o.responses, ¬ Number.isLong a.code = true := by
  refine ⟨findsAll (Registry.ofService_eq_ok.mp hr) resource, fun f => ?_, fun ms hms o ho a ha => ?_⟩
  · rw [ofResource_eq_error]
    constructor
    · rintro ⟨before, o, after, hos, h⟩
      exact ⟨before, o, after, hos, h.told, h⟩
    · rintro ⟨before, o, after, hos, _, h⟩
      exact ⟨before, o, after, hos, h⟩
  · obtain ⟨m, _, e, he, hm⟩ := exists_right_of_forall₂ (ofResource_eq_ok.mp hms).1 ho
    obtain ⟨t, ht, hcodes, _⟩ := ofEndpoint_eq_ok.mp hm
    intro hlong
    obtain ⟨c, hc, hlong⟩ := (exists_isLong_iff ht).mpr ⟨a, he.operation_eq ▸ ha, hlong⟩
    exact checkCodes_eq_ok.mp hcodes c hc hlong

/-- Resource whose second operation answers with a type that is not declared, and whose third one
    takes a given body. -/
def losing (body : Option String) : Resource :=
  { type := "item"
    plural := "items"
    operations :=
      [{ verb := .get, path := "/items", responses := [⟨200, "[string]", false⟩] },
       { verb := .get
         path := "/items/:id"
         responses := [⟨200, "string", false⟩, ⟨404, "lost", false⟩] },
       { verb := .post, path := "/items", body }] }

/-- The second operation is at fault where it is the only one, and the third one where it is at
    fault, too: it is refused an endpoint before any method is made. -/
theorem ofResource_locates_losing : ∃ r,
    Registry.ofService { name := "api" } Dialect.aiohttp = .ok r ∧
    (∃ before o after, (losing none).operations = before ++ o :: after ∧
      Told (losing none) o (.description ⟨.unresolvedType "lost",
        { resource := .text "items", operation := some "GET /items/:id", code := some 404 }⟩) ∧
      StopsAt r (losing none) before o (.description ⟨.unresolvedType "lost",
        { resource := .text "items", operation := some "GET /items/:id", code := some 404 }⟩)) ∧
    ∃ before o after, (losing (some "gone")).operations = before ++ o :: after ∧
      Told (losing (some "gone")) o (.description ⟨.unresolvedType "gone",
        { resource := .text "items", operation := some "POST /items" }⟩) ∧
      StopsAt r (losing (some "gone")) before o (.description ⟨.unresolvedType "gone",
        { resource := .text "items", operation := some "POST /items" }⟩) :=
  ⟨_, rfl, ((ofResource_locates (s := { name := "api" }) rfl (losing none)).2.1 _).mp rfl,
    ((ofResource_locates (s := { name := "api" }) rfl (losing (some "gone"))).2.1 _).mp rfl⟩

/-- Resource with one operation that answers under one code. -/
def answering (code : Int) (type : String) : Resource :=
  { type := "item"
    plural := "items"
    operations := [{ verb := .get, path := "/items", responses := [⟨code, type, false⟩] }] }

/-- The least integer that is too long to be written. -/
def leastLong : Int := ((10 ^ Number.maxDigits : Nat) : Int)

/-- Where no code can be written, there is no method, and no fault of the description is raised. -/
theorem ofEndpoint_of_isLong {e : Endpoint} (h0 : e.operation.responses ≠ [])
    (h : ∀ a ∈ e.operation.responses, Number.isLong a.code = true) :
    (ofEndpoint r e).outcome = .error .longInteger := by
  refine ofEndpoint_eq_error.mpr ?_
  cases ht : (DispatchTable.ofEndpoint r e).outcome with
  | error d =>
    obtain ⟨a, ha, c, rfl⟩ := exists_response_of_refused (DispatchTable.refused_of_ofEndpoint ht)
    exact .inl ⟨_, rfl, if_pos (Bool.or_eq_true_iff.mpr (.inl (h a ha)))⟩
  | ok t =>
    obtain ⟨a, ha⟩ := List.exists_mem_of_ne_nil _ h0
    exact .inr ⟨t, rfl, checkCodes_eq_error.mpr ⟨rfl, (exists_isLong_iff ht).mpr ⟨a, ha, h a ha⟩⟩⟩

theorem ofResource_answering {c : Int} (hc : Number.isLong c = true) {t : String} {e : Endpoint}
    (h : Endpoint.ofResource r (answering c t) = .ok [e]) :
    (ofResource r (answering c t)).outcome = .error .longInteger := by
  obtain ⟨he, -⟩ := List.forall₂_cons.mp (Endpoint.ofResource_eq_ok.mp h).1
  have hresponses : e.operation.responses = [⟨c, t, false⟩] := by
    rw [he.operation_eq]
  refine ofResource_eq_error.mpr ⟨[], _, [], rfl, .method h .nil he (ofEndpoint_of_isLong ?_ ?_)⟩
  · rw [hresponses]
    exact List.cons_ne_nil _ _
  · rw [hresponses]
    intro a ha
    cases List.mem_singleton.mp ha
    exact hc

/-- A code that is too long to be written leaves a resource without methods and without a fault of
    the description, be the type of its response declared or not. -/
theorem exists_fault_not_description : ∃ r,
    Registry.ofService { name := "api" } Dialect.aiohttp = .ok r ∧
    (ofResource r (answering leastLong "unit")).outcome = .error .longInteger ∧
    (ofResource r (answering leastLong "lost")).outcome = .error .longInteger := by
  have hlong : Number.isLong leastLong = true := Number.isLong_iff.mpr le_rfl
  exact ⟨_, rfl, ofResource_answering hlong rfl, ofResource_answering hlong rfl⟩

end ClientMethod

end ClientGen
