import ClientGen.Proofs.Packages

/-!
# Resources of the client

The client sets an attribute for each resource when it is constructed, and an attribute that is set
again loses what it held. This file fixes

* `Support.publicNames`, `mem_clientAttributes`: the public attributes that the client has of its
  own;
* `accessorName_eq_iff`: two resources share an attribute exactly when their plurals are the same in
  snake case;
* `HoldsResources`, `ofService_holds`: what the constructor of a generated client does, and when
  every resource can be reached;
* `exists_accessor_shared`: a client that loses a resource.
-/

namespace ClientGen

open ClientGen.Text ClientGen.Source

/-! ## 1. Attributes of the base client -/

namespace Support

/-- Name behind the first keyword that defines a function. -/
def definedName : List Char → List Char
  | 'd' :: 'e' :: 'f' :: ' ' :: cs => cs.takeWhile isWordChar
  | _ :: cs => definedName cs
  | [] => []

/-- Names that stand as attributes of the object itself. -/
def selfNames : List Char → List (List Char)
  | 's' :: 'e' :: 'l' :: 'f' :: '.' :: cs => cs.takeWhile isWordChar :: selfNames cs
  | _ :: cs => selfNames cs
  | [] => []

/-- **Attributes of the base client**: the functions that it defines, and what its constructor
    sets. -/
def attributeNames : List String :=
  clientMembers.map (fun m => String.ofList (definedName m.toList)) ++
    (selfNames constructor.toList).map String.ofList

/-- **Public attributes of the base client**: those without an underscore in front. -/
def publicNames : List String := attributeNames.filter fun n => !startsWith n "_"

theorem attributeNames_eq : attributeNames =
    ["__init__", "headers", "headers", "update_headers", "with_headers", "set_auth_token",
     "_ensure_session", "_curl", "_execute_request", "initialize", "close", "__aenter__",
     "__aexit__", "_session", "_api_url", "_base_headers", "_temp_headers", "_timeout",
     "_session_dirty", "_session_lock"] := by
  simp only [attributeNames, clientMembers, List.map_cons, List.map_nil, constructor,
    headersGetter, headersSetter, updateHeaders, temporaryHeaders, setToken, ensureSession,
    commandLine, executeRequest, initialization, closing, enterContext, leaveContext, unlines,
    join_cons_cons, join_singleton, String.toList_append]
  rfl

/-- The names that accessors keep clear of are the public ones of the base client. -/
theorem mem_clientAttributes {n : String} : n ∈ ClientMethod.clientAttributes ↔ n ∈ publicNames := by
  have hnames : publicNames =
      ["headers", "headers", "update_headers", "with_headers", "set_auth_token", "initialize",
       "close"] := by
    rw [publicNames, attributeNames_eq]
    decide
  rw [hnames]
  have forth : ∀ n ∈ ClientMethod.clientAttributes, n ∈ ["headers", "headers", "update_headers",
      "with_headers", "set_auth_token", "initialize", "close"] := by decide
  have back : ∀ n ∈ ["headers", "headers", "update_headers", "with_headers", "set_auth_token",
      "initialize", "close"], n ∈ ClientMethod.clientAttributes := by decide
  exact ⟨forth n, back n⟩

end Support

namespace ClientMethod

/-! ## 2. Names of attributes -/

theorem padded_accessorName (x : Resource) : Padded (snakeCase x.plural) (accessorName x) := by
  unfold accessorName
  exact (Padded.of_safeName _).ite _

/-- What is left of an accessor without the underscores around it is the plural in snake case. -/
theorem trim_accessorName (x : Resource) :
    trimWhile (· = '_') (accessorName x).toList = (snakeCase x.plural).toList := by
  have inner : ∀ c : Char, c.isAlphanum = true → c ≠ '_' := by
    rintro c hc rfl
    exact Bool.false_ne_true hc
  exact (padded_accessorName x).trimWhile_eq
    (fun c hc => inner c (isAlphanum_of_head?_snakeCase hc))
    fun c hc => inner c (isAlphanum_of_getLast?_snakeCase hc)

/-- **Two resources share an attribute** exactly when their plurals are the same in snake case. -/
theorem accessorName_eq_iff {x y : Resource} :
    accessorName x = accessorName y ↔ snakeCase x.plural = snakeCase y.plural := by
  constructor
  · intro h
    have hx := trim_accessorName x
    rw [h, trim_accessorName] at hx
    exact String.toList_injective hx.symm
  · intro h
    rw [accessorName, accessorName, h]

theorem accessorName_not_mem_clientAttributes (x : Resource) : accessorName x ∉ clientAttributes := by
  have ends : ∀ n ∈ clientAttributes, n.toList.getLast? ≠ some '_' := by decide
  exact avoiding_not_mem ends (safeName (snakeCase x.plural))

/-- No resource takes the place of a public attribute of the client. -/
theorem accessorName_not_mem (x : Resource) : accessorName x ∉ Support.publicNames :=
  mt Support.mem_clientAttributes.mpr (accessorName_not_mem_clientAttributes x)

/-- Attributes of resources are distinct where their plurals are in snake case. -/
theorem nodup_accessorNames_iff {xs : List Resource} :
    (xs.map accessorName).Nodup ↔ (xs.map fun x => snakeCase x.plural).Nodup := by
  unfold List.Nodup
  rw [List.pairwise_map, List.pairwise_map]
  simp only [ne_eq, accessorName_eq_iff]

/-! ## 3. What the client holds -/

/-- **Attributes that the client's constructor sets**, each with the class of what it holds in the
    end. -/
def heldObjects (s : Service) : Table String :=
  Table.ofEntries (s.sortedResources.map fun x => (accessorName x, objectName x))

theorem objectName_inj {x y : Resource} (h : objectName x = objectName y) :
    traitName x = traitName y :=
  (String.append_left_inj "Endpoints").mp h

variable {s : Service}

/-- **Every resource is held under its own attribute** exactly when no two plurals are the same in
    snake case. -/
theorem heldObjects_iff (hd : (s.resources.map traitName).Nodup) :
    (∀ x ∈ s.resources, Table.get? (heldObjects s) (accessorName x) = some (objectName x)) ↔
      (s.resources.map fun x => snakeCase x.plural).Nodup := by
  have hnames : Table.names (s.sortedResources.map fun x => (accessorName x, objectName x)) =
      s.sortedResources.map accessorName := by
    rw [Table.names, List.map_map, Function.comp_def]
  have hsorted := sortBy_perm
    (fun a b : Resource => !decide (toLower b.plural < toLower a.plural)) s.resources
  rw [← nodup_accessorNames_iff]
  constructor
  · intro h
    refine List.Nodup.map_on (fun x hx y hy he => ?_) (List.Nodup.of_map _ hd)
    have hxy : objectName x = objectName y := by
      have hboth := h x hx
      rw [he, h y hy] at hboth
      exact (Option.some.inj hboth).symm
    exact List.inj_on_of_nodup_map hd hx hy (objectName_inj hxy)
  · intro h x hx
    have hn : (Table.names (s.sortedResources.map fun x => (accessorName x, objectName x))).Nodup := by
      rw [hnames]
      exact (hsorted.map accessorName).nodup_iff.mpr h
    rw [heldObjects, Table.ofEntries_of_nodup hn]
    exact Table.get?_of_mem hn (List.mem_map_of_mem (hsorted.mem_iff.mpr hx))

end ClientMethod

namespace Package

open ClientMethod

variable {r : Registry} {s : Service} {settings : Settings} {o : Origin}

/-- Resources pass the check where their classes are new and distinct. -/
theorem checkResources_eq_ok {seen : Table String} {xs : List Resource} :
    checkResources seen xs = .ok () ↔
      (xs.map traitName).Nodup ∧ ∀ x ∈ xs, traitName x ∉ Table.names seen := by
  induction xs generalizing seen with
  | nil => simp [checkResources]
  | cons x xs ih =>
    unfold checkResources
    dsimp only
    cases hx : Table.get? seen (traitName x) with
    | some other =>
      have hm : traitName x ∈ Table.names seen := by
        by_contra hn
        rw [Table.get?_eq_none_iff.mpr hn] at hx
        cases hx
      constructor
      · intro h
        cases h
      · exact fun h => absurd hm (h.2 x List.mem_cons_self)
    | none =>
      have hm := Table.get?_eq_none_iff.mp hx
      have hnames : Table.names (seen ++ [(traitName x, x.plural)]) =
          Table.names seen ++ [traitName x] := by
        rw [Table.names, List.map_append]
        rfl
      rw [ih, hnames, List.map_cons, List.nodup_cons]
      constructor
      · rintro ⟨hd, hnew⟩
        refine ⟨⟨fun h => ?_, hd⟩, fun y hy => ?_⟩
        · obtain ⟨y, hy, he⟩ := List.mem_map.mp h
          exact hnew y hy (List.mem_append_right _ (List.mem_singleton.mpr he))
        · rcases List.mem_cons.mp hy with rfl | hy
          · exact hm
          · exact fun h => hnew y hy (List.mem_append_left _ h)
      · rintro ⟨⟨hx, hd⟩, hnew⟩
        refine ⟨hd, fun y hy h => ?_⟩
        rcases List.mem_append.mp h with h | h
        · exact hnew y (List.mem_cons_of_mem x hy) h
        · exact hx (List.mem_map.mpr ⟨y, hy, List.mem_singleton.mp h⟩)

theorem nodup_traitNames_of_generate {p : Source.Project} (h : (generate r s o).outcome = .ok p) :
    (s.resources.map traitName).Nodup := by
  obtain ⟨_, hcheck, _⟩ := Traced.outcome_bind_eq_ok.mp h
  have hd := (checkResources_eq_ok.mp (mapError_eq_ok.mp hcheck)).1
  exact ((sortBy_perm _ s.resources).map traitName).nodup_iff.mp hd

/-- The last class of the client file is that of the client. -/
theorem clientClass_of_clientFile {f : Source.File} (h : (clientFile r s).outcome = .ok f) :
    f.name = "client.py" ∧ Table.get? f.classes "ApiClient" = some (clientClass s) := by
  obtain ⟨objects, _, h⟩ := Traced.outcome_bind_eq_ok.mp h
  rw [Traced.outcome_pure_eq_ok, List.foldl_append] at h
  subst h
  refine ⟨?_, Table.get?_put_self _ _ _⟩
  rw [File.foldl_addClass, File.foldl_addClass]

/-- **A client holds its resources**: its constructor sets one attribute for each, none of which
    hides a public one; and each resource has an attribute of its own exactly when no two plurals
    are the same in snake case. -/
structure HoldsResources (s : Service) (p : Source.Project) : Prop where
  constructorCode : ∃ f init, p.getFile? "client.py" = some f ∧
    Table.get? f.classes "ApiClient" = some (clientClass s) ∧
    Table.get? (clientClass s).functions "__init__" = some init ∧
    init.code = some (.ofCode
      (Block.stack ("super().__init__()" :: s.sortedResources.map accessorText)))
  classes : (s.resources.map traitName).Nodup
  free : ∀ x ∈ s.resources, accessorName x ∉ Support.publicNames
  distinct : (s.resources.map accessorName).Nodup ↔
    (s.resources.map fun x => snakeCase x.plural).Nodup
  held : (∀ x ∈ s.resources, Table.get? (heldObjects s) (accessorName x) = some (objectName x)) ↔
    (s.resources.map fun x => snakeCase x.plural).Nodup

/-- **Every resource of a generated client can be reached** exactly when no two plurals are the same
    in snake case; that their classes differ is not enough. -/
theorem ofService_holds {p : Source.Project} (h : (ofService s settings o).outcome = .ok p) :
    HoldsResources s p := by
  obtain ⟨r, hr, h⟩ := Traced.outcome_bind_eq_ok.mp h
  have hr := Registry.ofService_eq_ok.mp (mapError_eq_ok.mp hr)
  obtain ⟨config, models, errors, interfaces, client, routes, hp⟩ := assembledFrom_of_generate h
  obtain ⟨_, hclass⟩ := clientClass_of_clientFile hp.clientMade
  have hd := nodup_traitNames_of_generate h
  exact ⟨⟨client, _, hp.getFile?_modules.2.2.2, hclass, rfl, rfl⟩, hd,
    fun x _ => accessorName_not_mem x, nodup_accessorNames_iff, heldObjects_iff hd⟩

/-- Service with resources of two plurals. -/
def withPlurals (first second : String) : Service :=
  { name := "api"
    resources := [{ type := "page", plural := first }, { type := "page", plural := second }] }

/-- Resources named like a keyword and like an attribute of the client are both held. -/
theorem ofService_holds_class_close :
    ∃ p, (ofService (withPlurals "class" "close") Dialect.aiohttp {}).outcome = .ok p ∧
      HoldsResources (withPlurals "class" "close") p ∧
      heldObjects (withPlurals "class" "close") =
        [("class_", "ClassEndpoints"), ("close_", "CloseEndpoints")] := by
  have h : ∃ p, (ofService (withPlurals "class" "close") Dialect.aiohttp {}).outcome = .ok p :=
    ⟨_, rfl⟩
  obtain ⟨p, hp⟩ := h
  exact ⟨p, hp, ofService_holds hp, by decide⟩

/-- A package is generated whose client loses a resource: its attribute is set to another one. -/
theorem exists_accessor_shared :
    (∃ p, (ofService (withPlurals "webIDE" "web_ide") Dialect.aiohttp {}).outcome = .ok p) ∧
      ¬ ((withPlurals "webIDE" "web_ide").resources.map accessorName).Nodup ∧
      heldObjects (withPlurals "webIDE" "web_ide") = [("web_ide", "WebIDEEndpoints")] :=
  ⟨⟨_, rfl⟩, by decide, by decide⟩

end Package

end ClientGen
