import ClientGen.Proofs.Parameters
import ClientGen.Route

/-!
# Routes and operations

The table of routes goes over the resources in sorted order and over the operations of each as they
are declared, and it splits the parameters of every operation between a handler and a comment. This
file fixes

* `Binds`: which types a handler takes from the request;
* `Places`, `BuiltFrom.places`: where each parameter of an operation goes;
* `Shows`, `shows_ofEndpoint`: what the route of one operation shows of it;
* `addEndpoints_eq_ok`, `addResources_eq_ok`: handlers are collected under names of their own;
* `all_corresponds`: one route for each operation, and the two reasons why there is no table.
-/

namespace ClientGen

open ClientGen.Text

variable {r : Registry} {s : Service} {x : Resource} {o : Operation} {e : Endpoint}

namespace Route

/-! ## 1. Types that are bound -/

/-- **A type is bound**: an enum, a primitive other than objects and units, or an option of one. -/
inductive Binds : TypeRef → Prop where
  | enum (name : String) : Binds (.named .enum name)
  | primitive {p : Primitive} (hobject : p ≠ .object) (hunit : p ≠ .unit) : Binds (.primitive p)
  | option {ref : TypeRef} (h : Binds ref) : Binds (.option ref)

theorem isBindable_iff {ref : TypeRef} : ref.isBindable = true ↔ Binds ref := by
  constructor
  · intro h
    induction ref with
    | primitive p =>
      have hp : p ≠ .object ∧ p ≠ .unit := by simpa [TypeRef.isBindable] using h
      obtain ⟨hobject, hunit⟩ := hp
      exact .primitive hobject hunit
    | named kind name =>
      cases kind with
      | enum => exact .enum name
      | model => cases h
      | union => cases h
    | list ref => cases h
    | map ref => cases h
    | option ref ih => exact .option (ih h)
  · intro h
    induction h with
    | enum name => rfl
    | primitive hobject hunit => simp [TypeRef.isBindable, hobject, hunit]
    | option h ih => exact ih

instance (ref : TypeRef) : Decidable (Binds ref) := decidable_of_iff _ isBindable_iff

/-! ## 2. Places of parameters -/

/-- Declared parameters that are sent at a place other than the path. -/
def sentIn (o : Operation) (l : Location) : List Parameter :=
  o.parameters.filter fun p => p.location = l && !(Endpoint.placeholdersOf o.path).contains p.name

/-- **Places of the parameters of an operation**: `path` and `query` are those sent in the path, in
    path order, and in the query, as declared; of the latter `bound` are bound and `others` are not.
    No two parameters, and no parameter and the body, share a name. -/
structure Places (r : Registry) (o : Operation) (path query form body bound others : List Argument) :
    Prop where
  sentInPath : List.Forall₂
    (fun name a => a.StandsFor r (Endpoint.declaredOr o.parameters name) .path)
    (Endpoint.placeholdersOf o.path) path
  sentInQuery : List.Forall₂ (fun p a => a.StandsFor r p .query) (sentIn o .query) query
  sentInForm : List.Forall₂ (fun p a => a.StandsFor r p .form) (sentIn o .form) form
  sentAsBody : List.Forall₂ (fun t a => a.IsBodyOf r t) o.body.toList body
  areBound : bound = query.filter fun a => Binds a.ref
  areOthers : others = query.filter fun a => ¬ Binds a.ref
  distinct : ((path ++ query ++ form ++ body).map (·.name)).Nodup

end Route

namespace Endpoint.BuiltFrom

theorem argName_eq (h : BuiltFrom r x o e) {a : Argument} (ha : a ∈ e.arguments) :
    a.argName = argumentName a.name := by
  rcases List.mem_append.mp ((h.perm_arguments).mem_iff.mp ha) with ha | ha
  · obtain ⟨t, _, hbody⟩ := h.exists_bodyOf (Option.mem_toList.mp ha)
    exact (isBodyOf_of_bodyOf hbody).argName
  · obtain ⟨p, l, harg⟩ := h.exists_argumentOf ha
    have hstands := standsFor_of_argumentOf harg
    rw [hstands.argName, hstands.name]

/-- No two arguments share a name, the body included: their arguments would share one as well. -/
theorem nodup_names (h : BuiltFrom r x o e) : (e.arguments.map (·.name)).Nodup := by
  refine List.Nodup.of_map argumentName ?_
  have hargs : e.arguments.map (·.argName) = (e.arguments.map (·.name)).map argumentName := by
    rw [List.map_map]
    refine List.map_congr_left fun a ha => ?_
    rw [Function.comp_apply, h.argName_eq ha]
  rw [← hargs]
  exact h.nodup_argNames

/-- The parameters at a place are the declared ones, apart from placeholders. -/
theorem standFor_parametersIn (h : BuiltFrom r x o e) {l : Location} (hl : l ≠ .path) :
    List.Forall₂ (fun p a => a.StandsFor r p l) (Route.sentIn o l) (e.parametersIn l) := by
  obtain ⟨rest, hps, _, ha⟩ := h.exists_arranged
  have hrest := ha.rest
  rw [h.placeholders_eq] at hrest
  have hkept := forall₂_filter (p := fun p => decide (p.location = l))
    (q := fun a => decide (a.location = some l)) hrest fun p a hpa => by
      rw [(standsFor_of_argumentOf hpa).location]
      simp
  rw [List.filter_filter] at hkept
  rw [parametersIn_eq hps ha hl]
  refine hkept.imp fun p a hpa => ?_
  have hstands := standsFor_of_argumentOf hpa.1
  rwa [of_decide_eq_true hpa.2] at hstands

theorem isBodyOf_body (h : BuiltFrom r x o e) :
    List.Forall₂ (fun t a => a.IsBodyOf r t) o.body.toList e.body.toList := by
  have hbody := h.body_ok
  cases ho : o.body with
  | none =>
    rw [ho] at hbody
    rw [← Except.ok.inj hbody]
    exact .nil
  | some t =>
    rw [ho] at hbody
    obtain ⟨a, ha, he⟩ := map_eq_ok.mp hbody
    rw [← he]
    exact .cons (isBodyOf_of_bodyOf ha) .nil

/-- **Every parameter of an operation has its place.** -/
theorem places (h : BuiltFrom r x o e) :
    Route.Places r o e.pathParameters e.queryParameters e.formParameters e.body.toList
      (e.queryParameters.filter fun a => Route.Binds a.ref)
      (e.queryParameters.filter fun a => ¬ Route.Binds a.ref) := by
  obtain ⟨rest, _, _, ha⟩ := h.exists_arranged
  refine ⟨?_, h.standFor_parametersIn (by decide), h.standFor_parametersIn (by decide),
    h.isBodyOf_body, rfl, rfl, ?_⟩
  · rw [← h.placeholders_eq]
    exact ha.path.imp fun _ _ => standsFor_of_argumentOf
  · have hperm : (e.pathParameters ++ e.queryParameters ++ e.formParameters ++ e.body.toList).Perm
        e.arguments :=
      ((h.perm_locations.symm.append_right _).trans List.perm_append_comm).trans h.perm_arguments.symm
    exact (hperm.map _).nodup_iff.mpr h.nodup_names

end Endpoint.BuiltFrom

namespace Route

/-! ## 3. Route of an operation -/

/-- Name of the handler of an operation. -/
def handlerNameOf (r : Registry) (x : Resource) (o : Operation) : String :=
  join "." ([r.settings.controllersPackage, pascalCase x.plural,
    camelCase (Endpoint.nameOf o.verb (Endpoint.relativePath x o.path))].filter (· ≠ ""))

/-- Line of a comment on a parameter. -/
def additionalLine (a : Argument) : String := "#   - " ++ a.name ++ ": " ++ a.type.type.text

/-- Comment on parameters of an operation; without parameters there is none. -/
def additionalTo (o : Operation) (as : List Argument) : Option String :=
  if as = [] then none
  else some (unlines (("# Additional parameters to " ++ o.label) :: as.map additionalLine))

/-- **A route shows its operation**: verb, path and handler, the parameters of the path and the
    bound ones of the query as those of the handler, and the other ones of the query in a comment. -/
structure Shows (r : Registry) (x : Resource) (o : Operation) (ρ : Route) : Prop where
  verb : ρ.verb = o.verb.text
  url : ρ.url = o.path
  handler : ρ.method = handlerNameOf r x o
  parameters : ∃ path query form body bound others, Places r o path query form body bound others ∧
    ρ.params = (path ++ bound).map paramText ∧ ρ.comments = additionalTo o others

theorem handlerName_eq (h : Endpoint.BuiltFrom r x o e) : handlerName r e = handlerNameOf r x o := by
  rw [handlerName, handlerNameOf, Endpoint.camelName, h.resource_eq, h.snakeName_eq]

theorem commentText_eq (h : Endpoint.BuiltFrom r x o e) (as : List Argument) :
    commentText e as = additionalTo o as := by
  cases as with
  | nil => rfl
  | cons a as =>
    rw [commentText, h.operation_eq, additionalTo, if_neg (List.cons_ne_nil a as)]
    · rfl
    · exact fun hnil => List.cons_ne_nil a as hnil

theorem shows_ofEndpoint (h : Endpoint.BuiltFrom r x o e) : Shows r x o (ofEndpoint r e) := by
  have hpath : ∀ a ∈ e.pathParameters, isTaken a = true := fun a ha => by
    rw [isTaken, (List.mem_filter.mp ha).2]
    rfl
  have hquery : ∀ a ∈ e.queryParameters, isTaken a = decide (Binds a.ref) := fun a ha => by
    have hlocation : a.location = some .query := of_decide_eq_true (List.mem_filter.mp ha).2
    rw [isTaken, hlocation]
    by_cases hb : Binds a.ref
    · rw [isBindable_iff.mpr hb, decide_eq_true hb]
      rfl
    · rw [Bool.eq_false_iff.mpr fun h => hb (isBindable_iff.mp h), decide_eq_false hb]
      rfl
  refine ⟨?_, ?_, handlerName_eq h, _, _, _, _, _, _, h.places, ?_, ?_⟩
  · rw [ofEndpoint, h.operation_eq]
  · rw [ofEndpoint, h.operation_eq]
  · rw [ofEndpoint]
    dsimp only
    rw [List.filter_append, List.filter_eq_self.mpr hpath, List.filter_congr hquery]
  · rw [ofEndpoint]
    dsimp only
    have hnone : ∀ a ∈ e.pathParameters, ¬ (!isTaken a) = true := fun a ha => by simp [hpath a ha]
    have hothers : ∀ a ∈ e.queryParameters, (!isTaken a) = decide (¬ Binds a.ref) := fun a ha => by
      rw [hquery a ha, decide_not]
    rw [commentText_eq h, List.filter_append, List.filter_eq_nil_iff.mpr hnone, List.nil_append,
      List.filter_congr hothers]

/-! ## 4. Handlers under names of their own -/

theorem addEndpoints_cons_eq_ok {before hs : Handlers} {es : List Endpoint} :
    addEndpoints r before (e :: es) = .ok hs ↔ ∃ h, h = (handlerName r e, e) ∧
      (before.find? fun other => other.1 = h.1) = none ∧
      addEndpoints r (before ++ [h]) es = .ok hs := by
  rw [exists_eq_left, addEndpoints]
  dsimp only
  cases before.find? fun other => other.1 = handlerName r e with
  | none => exact (and_iff_right rfl).symm
  | some other => simp

/-- Handlers of endpoints are added where no two of all those collected share a name. -/
theorem addEndpoints_eq_ok {before hs : Handlers} {es : List Endpoint}
    (hb : (before.map (·.1)).Nodup) : addEndpoints r before es = .ok hs ↔
      hs = before ++ es.map (fun e => (handlerName r e, e)) ∧ (hs.map (·.1)).Nodup := by
  refine (collect_eq_ok (fun _ => rfl) (fun _ _ _ _ => addEndpoints_cons_eq_ok) hb).trans ?_
  constructor
  · rintro ⟨new, rfl, hnew, hd⟩
    refine ⟨?_, hd⟩
    have hmap : es.map (fun e => (handlerName r e, e)) = new.map id :=
      map_eq_of_forall₂ hnew fun _ _ h => h.symm
    rw [hmap, List.map_id]
  · rintro ⟨rfl, hd⟩
    exact ⟨_, rfl, List.forall₂_map_right_iff.mpr (List.forall₂_same.mpr fun _ _ => rfl), hd⟩

/-- Handlers of resources, one resource after another. -/
theorem addResources_eq_ok {xs : List Resource} {before hs : Handlers}
    (hb : (before.map (·.1)).Nodup) : addResources r before xs = .ok hs ↔
      ∃ ess, List.Forall₂ (fun x es => Endpoint.ofResource r x = .ok es) xs ess ∧
        hs = before ++ ess.flatten.map (fun e => (handlerName r e, e)) ∧ (hs.map (·.1)).Nodup := by
  induction xs generalizing before hs with
  | nil =>
    constructor
    · intro h
      cases h
      exact ⟨[], .nil, (List.append_nil before).symm, hb⟩
    · rintro ⟨ess, hess, rfl, _⟩
      cases hess
      exact congrArg Except.ok (List.append_nil before).symm
  | cons x xs ih =>
    rw [addResources, bind_eq_ok]
    constructor
    · rintro ⟨es, hes, h⟩
      obtain ⟨mid, hmid, h⟩ := bind_eq_ok.mp h
      obtain ⟨rfl, hd⟩ := (addEndpoints_eq_ok hb).mp hmid
      obtain ⟨ess, hess, rfl, hd⟩ := (ih hd).mp h
      refine ⟨es :: ess, .cons hes hess, ?_, hd⟩
      rw [List.flatten_cons, List.map_append, List.append_assoc]
    · rintro ⟨ess, hess, rfl, hd⟩
      cases hess with
      | @cons _ es _ ess hes hess =>
        have hsplit : before ++ (es :: ess).flatten.map (fun e => (handlerName r e, e)) =
            before ++ es.map (fun e => (handlerName r e, e)) ++
              ess.flatten.map (fun e => (handlerName r e, e)) := by
          rw [List.flatten_cons, List.map_append, List.append_assoc]
        rw [hsplit] at hd ⊢
        have hmid : ((before ++ es.map fun e => (handlerName r e, e)).map (·.1)).Nodup := by
          rw [List.map_append] at hd
          exact (List.nodup_append.mp hd).1
        refine ⟨es, hes, bind_eq_ok.mpr ⟨_, (addEndpoints_eq_ok hb).mpr ⟨rfl, hmid⟩, ?_⟩⟩
        exact (ih hmid).mpr ⟨ess, hess, rfl, hd⟩

/-! ## 5. The table -/

/-- Operations of a service with their resources: the resources in sorted order, the operations of
    each as declared. -/
def calls (s : Service) : List (Resource × Operation) :=
  s.sortedResources.flatMap fun x => x.operations.map (x, ·)

/-- Endpoints of resources, all in one row, go in step with their operations. -/
theorem builtFrom_flatten {xs : List Resource} {ess : List (List Endpoint)}
    (h : List.Forall₂ (fun x es => Endpoint.ofResource r x = .ok es) xs ess) :
    List.Forall₂ (fun c e => Endpoint.BuiltFrom r c.1 c.2 e)
      (xs.flatMap fun x => x.operations.map (x, ·)) ess.flatten := by
  induction h with
  | nil => exact .nil
  | cons hes _ ih =>
    rw [List.flatMap_cons, List.flatten_cons]
    refine List.rel_append ?_ ih
    exact List.forall₂_map_left_iff.mpr (Endpoint.ofResource_eq_ok.mp hes).1

/-- **A table is made** of all operations, where the handlers have names of their own. -/
theorem all_eq_ok {routes : List Route} : all r s = .ok routes ↔
    ∃ ess, List.Forall₂ (fun x es => Endpoint.ofResource r x = .ok es) s.sortedResources ess ∧
      routes = ess.flatten.map (ofEndpoint r) ∧ (routes.map (·.method)).Nodup := by
  have hb : (([] : Handlers).map (·.1)).Nodup := List.nodup_nil
  unfold all
  rw [bind_eq_ok]
  constructor
  · rintro ⟨hs, h, hroutes⟩
    obtain ⟨ess, hess, rfl, hd⟩ := (addResources_eq_ok hb).mp h
    rw [pure_eq_ok] at hroutes
    subst hroutes
    refine ⟨ess, hess, ?_, ?_⟩
    · rw [List.nil_append, List.map_map]
      rfl
    · rw [List.nil_append, List.map_map, List.map_map]
      rw [List.nil_append, List.map_map] at hd
      exact hd
  · rintro ⟨ess, hess, rfl, hd⟩
    refine ⟨_, (addResources_eq_ok hb).mpr ⟨ess, hess, rfl, ?_⟩, ?_⟩
    · rw [List.nil_append, List.map_map]
      rw [List.map_map] at hd
      exact hd
    · rw [pure_eq_ok, List.nil_append, List.map_map]
      rfl

/-- A route is named by its operation alone. -/
theorem methods_eq {ess : List (List Endpoint)}
    (h : List.Forall₂ (fun x es => Endpoint.ofResource r x = .ok es) s.sortedResources ess) :
    (ess.flatten.map (ofEndpoint r)).map (·.method) =
      (calls s).map fun c => handlerNameOf r c.1 c.2 := by
  rw [List.map_map]
  exact (map_eq_of_forall₂ (builtFrom_flatten h) fun c e he => (handlerName_eq he).symm).symm

theorem exists_all_iff : (∃ routes, all r s = .ok routes) ↔
    (∀ x ∈ s.resources, ∃ es, Endpoint.ofResource r x = .ok es) ∧
      ((calls s).map fun c => handlerNameOf r c.1 c.2).Nodup := by
  have hmem : ∀ x, x ∈ s.sortedResources ↔ x ∈ s.resources := fun x =>
    (sortBy_perm _ s.resources).mem_iff
  constructor
  · rintro ⟨routes, h⟩
    obtain ⟨ess, hess, rfl, hd⟩ := all_eq_ok.mp h
    rw [methods_eq hess] at hd
    refine ⟨fun x hx => ?_, hd⟩
    obtain ⟨es, _, hes⟩ := exists_right_of_forall₂ hess ((hmem x).mpr hx)
    exact ⟨es, hes⟩
  · rintro ⟨hok, hd⟩
    obtain ⟨ess, hess⟩ := exists_forall₂ fun x hx => hok x ((hmem x).mp hx)
    refine ⟨_, all_eq_ok.mpr ⟨ess, hess, rfl, ?_⟩⟩
    rw [methods_eq hess]
    exact hd

/-- The resources of a service in sorted order. -/
theorem pairwise_sortedResources (s : Service) :
    s.sortedResources.Pairwise fun x y => toLower x.plural ≤ toLower y.plural := by
  have hle : ∀ x y : Resource, (!decide (toLower y.plural < toLower x.plural)) = true ↔
      toLower x.plural ≤ toLower y.plural := fun x y => by
    rw [Bool.not_eq_true', decide_eq_false_iff_not, String.not_lt]
  exact pairwise_sortBy_key hle String.le_total String.le_trans s.resources

/-- **Routes and operations correspond one to one**: a table that is made has one route for each
    operation, in order, and no two handlers share a name. There is no table exactly where the
    operations of some resource are refused or two operations of the service have handlers of one name.
    In texts, the 2048 characters from U+10A000 stand for lone surrogates. -/
theorem all_corresponds (r : Registry) (s : Service) :
    (∀ routes, all r s = .ok routes →
      s.sortedResources.Perm s.resources ∧
      s.sortedResources.Pairwise (fun x y => toLower x.plural ≤ toLower y.plural) ∧
      List.Forall₂ (fun c ρ => Shows r c.1 c.2 ρ) (calls s) routes ∧
      (routes.map (·.method)).Nodup) ∧
    ((∃ f, all r s = .error f) ↔
      (∃ x ∈ s.resources, ∃ f, Endpoint.ofResource r x = .error f) ∨
      ¬ ((calls s).map fun c => handlerNameOf r c.1 c.2).Nodup) := by
  constructor
  · intro routes h
    obtain ⟨ess, hess, rfl, hd⟩ := all_eq_ok.mp h
    refine ⟨sortBy_perm _ _, pairwise_sortedResources s, ?_, hd⟩
    exact List.forall₂_map_right_iff.mpr ((builtFrom_flatten hess).imp fun _ _ => shows_ofEndpoint)
  · rw [exists_error_iff_not_exists_ok, exists_all_iff, not_and_or, not_forall]
    simp only [exists_error_iff_not_exists_ok, not_forall, exists_prop]

/-- Resource with one operation. -/
def accounts : Resource :=
  { type := "account", plural := "accounts"
    operations :=
      [{ verb := .post, path := "/accounts", body := some "filter"
         responses := [⟨201, "unit", false⟩] }] }

/-- Service with resources out of order and a handler that takes three of five parameters. -/
def searching : Service :=
  { name := "api"
    resources :=
      [{ type := "user", plural := "Users"
         operations :=
           [{ verb := .get, path := "/Users/:id/:part"
              parameters :=
                [{ name := "part", type := "long", location := .path },
                 { name := "by", type := "filter" },
                 { name := "state", type := "state", required := false },
                 { name := "ids", type := "[long]" }]
              responses := [⟨200, "unit", false⟩] }] },
       accounts] }

/-- Registry of a filter and a state. -/
def filters : Registry := ⟨Dialect.aiohttp, [], [("filter", .model), ("state", .enum)]⟩

/-- Routes of two resources, and a resource that stands twice. -/
theorem all_corresponds_searching : ∃ routes, all filters searching = .ok routes ∧
    routes.map (·.handler) = ["controllers.Accounts.post()",
      "controllers.Users.getByIdAndPart(id: str, part: int, state: Optional[models.State])"] ∧
    routes.map (·.comments) = [none, some (unlines ["# Additional parameters to GET /Users/:id/:part",
      "#   - by: models.Filter", "#   - ids: List[int]"])] ∧
    List.Forall₂ (fun c ρ => Shows filters c.1 c.2 ρ) (calls searching) routes ∧
    ∃ f, all filters { name := "api", resources := [accounts, accounts] } = .error f := by
  have htable : ((all filters searching).toOption.map fun routes =>
      (routes.map (·.handler), routes.map (·.comments))) = some
      (["controllers.Accounts.post()",
        "controllers.Users.getByIdAndPart(id: str, part: int, state: Optional[models.State])"],
       [none, some (unlines ["# Additional parameters to GET /Users/:id/:part",
        "#   - by: models.Filter", "#   - ids: List[int]"])]) := by decide +kernel
  have hnames : ¬ ((calls { name := "api", resources := [accounts, accounts] }).map
      fun c => handlerNameOf filters c.1 c.2).Nodup := by decide +kernel
  cases hroutes : all filters searching with
  | error f =>
    rw [hroutes] at htable
    cases htable
  | ok routes =>
    rw [hroutes] at htable
    obtain ⟨hhandlers, hcomments⟩ := Prod.mk.inj (Option.some.inj htable)
    exact ⟨routes, rfl, hhandlers, hcomments, ((all_corresponds filters searching).1 _ hroutes).2.2.1,
      (all_corresponds filters _).2.mpr (Or.inr hnames)⟩

end Route

end ClientGen
