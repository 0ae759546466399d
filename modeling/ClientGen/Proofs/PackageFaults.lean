import ClientGen.Package
import ClientGen.Proofs.MethodFaults

/-!
# Faults of a package

A package is generated in stages and refused by the first of them that fails. All but one read the
description; the configuration is written before any type is read. What is raised for a fault of the
description names its place, and the place may hold a response code. This file fixes

* `Endpoint.LocatedAt`: a fault is located at some operation of a resource;
* `located_of_classes`, `located_of_routes`, `told_of_mapM`: so are the faults of the error classes
  and of the routes, and those of the methods are told of one;
* `Service.HasLongCode`: some response code of a service cannot be written;
* `Package.fault_of_generate`: what a package is refused with.
-/

namespace ClientGen

open ClientGen.Text ClientMethod

/-- **Some code cannot be written** among those of the responses of a service. -/
def Service.HasLongCode (s : Service) : Prop :=
  ∃ x ∈ s.resources, ∃ o ∈ x.operations, ∃ a ∈ o.responses, Number.isLong a.code = true

variable {r : Registry} {s : Service} {x : Resource} {d : DescriptionFault}

/-! ## 1. Stages that go through resources -/

/-- **A fault is located in a resource**, at one of its operations. -/
def LocatedAt (x : Resource) (d : DescriptionFault) : Prop := ∃ o ∈ x.operations, Located x o d

/-- Endpoints of a resource, each of one of its operations. -/
def EndpointsOf (r : Registry) (x : Resource) (es : List Endpoint) : Prop :=
  ∀ e ∈ es, ∃ o ∈ x.operations, Endpoint.BuiltFrom r x o e

theorem endpointsOf_of_ofResource {es : List Endpoint} (h : Endpoint.ofResource r x = .ok es) :
    EndpointsOf r x es := fun _ he =>
  exists_left_of_forall₂ (Endpoint.ofResource_eq_ok.mp h).1 he

theorem locatedAt_of_ofResource (h : Endpoint.ofResource r x = .error d) : LocatedAt x d := by
  obtain ⟨before, o, after, es, hos, _, _, h⟩ := Endpoint.ofResource_eq_error.mp h
  exact ⟨o, hos ▸ List.mem_append_right _ List.mem_cons_self, located_of_refuses h⟩

/-- A stage that asks for the endpoints of one resource after another has located faults where it
    has them for the endpoints of each. -/
theorem locatedAt_of_stage {β : Type} {one : β → List Endpoint → Except DescriptionFault β}
    {stage : β → List Resource → Except DescriptionFault β} (hnil : ∀ b, stage b [] = .ok b)
    (hcons : ∀ b x xs, stage b (x :: xs) =
      Endpoint.ofResource r x >>= fun es => one b es >>= fun b' => stage b' xs)
    (hone : ∀ x es, EndpointsOf r x es → ∀ b d, one b es = .error d → LocatedAt x d)
    {xs : List Resource} {b : β} (h : stage b xs = .error d) : ∃ x ∈ xs, LocatedAt x d := by
  induction xs generalizing b with
  | nil =>
    rw [hnil] at h
    cases h
  | cons x xs ih =>
    rw [hcons] at h
    rcases bind_eq_error.mp h with h | ⟨es, hes, h⟩
    · exact ⟨x, List.mem_cons_self, locatedAt_of_ofResource h⟩
    · rcases bind_eq_error.mp h with h | ⟨b', _, h⟩
      · exact ⟨x, List.mem_cons_self, hone x es (endpointsOf_of_ofResource hes) b d h⟩
      · obtain ⟨y, hy, h⟩ := ih h
        exact ⟨y, List.mem_cons_of_mem _ hy, h⟩

/-! ## 2. Error classes, routes and methods -/

theorem located_of_addResponses {o : Operation} {e : Endpoint} (he : Endpoint.BuiltFrom r x o e)
    {as : List Response} (has : as ⊆ o.responses) {found : ErrorType.Found}
    (h : ErrorType.addResponses r e found as = .error d) : Located x o d := by
  induction as generalizing found with
  | nil => cases h
  | cons a as ih =>
    obtain ⟨ha, has⟩ := List.cons_subset.mp has
    have hcode : ∀ c, Located x o (e.fault c (some a.code)) := fun c => by
      rw [he.fault_eq]
      exact ⟨rfl, rfl, .inr ⟨a, ha, rfl⟩⟩
    rw [ErrorType.addResponses] at h
    split at h
    · exact ih has h
    · rcases bind_eq_error.mp h with h | ⟨ref, _, h⟩
      · obtain ⟨c, _, rfl⟩ := mapError_eq_error.mp h
        exact hcode c
      · split at h
        · exact ih has h
        · split at h
          · exact ih has h
          · cases h
            exact hcode _

theorem locatedAt_of_addEndpoints {es : List Endpoint} (hes : EndpointsOf r x es)
    {found : ErrorType.Found} (h : ErrorType.addEndpoints r found es = .error d) : LocatedAt x d := by
  induction es generalizing found with
  | nil => cases h
  | cons e es ih =>
    obtain ⟨o, ho, he⟩ := hes e List.mem_cons_self
    rw [ErrorType.addEndpoints] at h
    rcases bind_eq_error.mp h with h | ⟨found', _, h⟩
    · exact ⟨o, ho, located_of_addResponses he (by rw [he.operation_eq]; exact fun _ ha => ha) h⟩
    · exact ih (fun e he => hes e (List.mem_cons_of_mem _ he)) h

theorem located_of_classes (h : ErrorType.classes r s = .error d) :
    ∃ x ∈ s.resources, LocatedAt x d := by
  rcases bind_eq_error.mp h with h | ⟨_, _, h⟩
  · rcases bind_eq_error.mp h with h | ⟨_, _, h⟩
    · exact locatedAt_of_stage (fun _ => rfl) (fun _ _ _ => rfl)
        (fun _ _ hes _ _ => locatedAt_of_addEndpoints hes) h
    · cases h
  · cases h

theorem locatedAt_of_handlers {es : List Endpoint} (hes : EndpointsOf r x es)
    {before : Route.Handlers} (h : Route.addEndpoints r before es = .error d) : LocatedAt x d := by
  induction es generalizing before with
  | nil => cases h
  | cons e es ih =>
    obtain ⟨o, ho, he⟩ := hes e List.mem_cons_self
    rw [Route.addEndpoints] at h
    split at h
    · cases h
      rw [he.fault_eq]
      exact ⟨o, ho, located_faultOf x o _⟩
    · exact ih (fun e he => hes e (List.mem_cons_of_mem _ he)) h

theorem located_of_routes (h : Route.all r s = .error d) : ∃ x ∈ s.resources, LocatedAt x d := by
  rcases bind_eq_error.mp h with h | ⟨_, _, h⟩
  · obtain ⟨x, hx, h⟩ := locatedAt_of_stage (fun _ => rfl) (fun _ _ _ => rfl)
      (fun _ _ hes _ _ => locatedAt_of_handlers hes) h
    exact ⟨x, (sortBy_perm _ _).mem_iff.mp hx, h⟩
  · cases h

/-- The faults of classes made of the methods of each resource are told of an operation. -/
theorem told_of_mapM {view : Resource → List ClientMethod → Source.Class} {f : Fault}
    (h : (s.sortedResources.mapM fun x => do
      return view x (← ofResource r x) : Traced Fault _).outcome = .error f) :
    ∃ x ∈ s.resources, ∃ o ∈ x.operations, Told x o f := by
  rw [Traced.outcome_mapM] at h
  obtain ⟨before, x, after, _, hxs, _, h⟩ := mapM_eq_error.mp h
  have hx : x ∈ s.resources :=
    (sortBy_perm _ _).mem_iff.mp (hxs ▸ List.mem_append_right _ List.mem_cons_self)
  rcases Traced.outcome_bind_eq_error.mp h with h | ⟨_, _, h⟩
  · obtain ⟨_, o, _, hos, h⟩ := ofResource_eq_error.mp h
    exact ⟨x, hx, o, hos ▸ List.mem_append_right _ List.mem_cons_self, h.told⟩
  · cases h

/-! ## 3. The whole package -/

/-- **What a description is refused with**: a fault of it, unless some response code of it cannot be
    written. -/
def ToldOf (s : Service) (f : Fault) : Prop := (∃ d, f = .description d) ∨ s.HasLongCode

theorem ClientMethod.Told.toldOf {o : Operation} {f : Fault} (hx : x ∈ s.resources)
    (ho : o ∈ x.operations) (h : Told x o f) : ToldOf s f := by
  cases h with
  | located _ => exact .inl ⟨_, rfl⟩
  | longCode ha hlong => exact .inr ⟨x, hx, o, ho, _, ha, hlong⟩

theorem toldOf_of_located (h : ∃ x ∈ s.resources, LocatedAt x d) : ToldOf s d.raised := by
  obtain ⟨x, hx, o, ho, h⟩ := h
  exact h.told.toldOf hx ho

/-- A fault that names no place is raised as it is. -/
theorem raised_of_nowhere (h : d.place = {}) : d.raised = .description d :=
  if_neg (by rw [h]; decide)

namespace Package

variable {settings : Settings} {o : Origin}

theorem nowhere_of_ofService (h : Registry.ofService s settings = .error d) : d.place = {} := by
  rw [Registry.ofService] at h
  split at h
  · cases h
  · cases h
    rfl

theorem nowhere_of_modelsFile : ∀ d, modelsFile r s = .error d → d.place = {} := by
  have henum : ∀ (e : EnumType) d, e.toClass = .error d → d.place = {} := by
    intro e d h
    rw [EnumType.toClass] at h
    split at h
    · cases h
    · cases h
      rfl
  have hmodel : ∀ (m : ModelType) d, m.toClass r = .error d → d.place = {} := by
    intro m d h
    rw [ModelType.toClass] at h
    split at h
    · cases h
    · cases h
      rfl
  have hunion : ∀ (u : UnionType) d, UnionCodec.ofUnion r u = .error d → d.place = {} := by
    intro u d h
    rw [UnionCodec.ofUnion] at h
    split at h
    · cases h
    · cases h
      rfl
  refine forall_error_bind (forall_error_mapM henum _) fun _ => ?_
  refine forall_error_bind (forall_error_mapM hmodel _) fun _ => ?_
  refine forall_error_bind (forall_error_mapM hunion _) fun _ d h => ?_
  cases h

/-- A clash of resources names one of them and no response. -/
theorem raised_of_checkResources {seen : Table String} {xs : List Resource}
    (h : checkResources seen xs = .error d) : d.raised = .description d := by
  induction xs generalizing seen with
  | nil => cases h
  | cons x xs ih =>
    rw [checkResources] at h
    split at h
    · cases h
      rfl
    · exact ih h

theorem toldOf_of_interfacesFile : ∀ f, (interfacesFile r s).outcome = .error f → ToldOf s f := by
  refine Traced.forall_error_bind (fun f h => ?_) fun _ f h => ?_
  · obtain ⟨x, hx, o, ho, h⟩ := told_of_mapM h
    exact h.toldOf hx ho
  · cases h

theorem toldOf_of_clientFile : ∀ f, (clientFile r s).outcome = .error f → ToldOf s f := by
  refine Traced.forall_error_bind (fun f h => ?_) fun _ f h => ?_
  · obtain ⟨x, hx, o, ho, h⟩ := told_of_mapM h
    exact h.toldOf hx ho
  · cases h

/-- **A package is refused** for its description, or because its configuration cannot be written. -/
theorem fault_of_generate : ∀ f, (generate r s o).outcome = .error f →
    configFiles r.settings o = .error f ∨ ToldOf s f := by
  have known : ∀ {α : Type} {x : Except DescriptionFault α},
      (∀ d, x = .error d → ToldOf s d.raised) → ∀ f, x.mapError DescriptionFault.raised = .error f →
        configFiles r.settings o = .error f ∨ ToldOf s f := by
    intro α x hx f hf
    obtain ⟨d, hd, rfl⟩ := mapError_eq_error.mp hf
    exact .inr (hx d hd)
  refine Traced.forall_error_bind (known fun d h => ?_) fun _ => ?_
  · exact .inl ⟨d, raised_of_checkResources h⟩
  refine Traced.forall_error_bind (fun f => Or.inl) fun _ => ?_
  refine Traced.forall_error_bind (known fun d h => ?_) fun _ => ?_
  · exact .inl ⟨d, raised_of_nowhere (nowhere_of_modelsFile d h)⟩
  refine Traced.forall_error_bind (known fun d h => ?_) fun _ => ?_
  · rcases bind_eq_error.mp h with h | ⟨_, _, h⟩
    · exact toldOf_of_located (located_of_classes h)
    · cases h
  refine Traced.forall_error_bind (fun f h => .inr (toldOf_of_interfacesFile f h)) fun _ => ?_
  refine Traced.forall_error_bind (fun f h => .inr (toldOf_of_clientFile f h)) fun _ => ?_
  refine Traced.forall_error_bind (known fun d h => ?_) fun _ f hf => ?_
  · rcases bind_eq_error.mp h with h | ⟨_, _, h⟩
    · exact toldOf_of_located (located_of_routes h)
    · cases h
  · cases hf

end Package

end ClientGen
