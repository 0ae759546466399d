import ClientGen.Proofs.PackageFaults
import ClientGen.Proofs.References

/-!
# Packages without dangling references

A package is generated file by file, and every file reads the notations that it needs on its own.
This file fixes, over the whole package,

* `Package.Mentions`: the notations of a service that some file reads;
* `AssembledFrom`: what a package that is generated consists of;
* `DefinesTypes`: the models file has each declared type once, under a class of its own;
* `NoDangling`: every file names declared types only;
* `ofService_resolves`: every package that is generated is without dangling references, and every
  service that mentions a type it does not declare is refused.
-/

namespace ClientGen

open ClientGen.Text ClientGen.Source

namespace Package

variable {r : Registry} {s : Service} {settings : Settings} {o : Origin}

/-! ## 1. Notations that a service mentions -/

/-- **Notations that a service mentions** so that generated code depends on them. Of several
    successes of one operation with the same code, the first one counts. -/
inductive Mentions (s : Service) : String → Prop where
  | field {m : ModelType} {f : Field} (hm : m ∈ s.models) (hf : f ∈ m.fields) : Mentions s f.type
  | variant {u : UnionType} {t : String} (hu : u ∈ s.unions) (ht : t ∈ u.types) : Mentions s t
  | parameter {x : Resource} {op : Operation} {p : ClientGen.Parameter} (hx : x ∈ s.resources)
    (hop : op ∈ x.operations) (hp : p ∈ op.parameters) : Mentions s p.type
  | body {x : Resource} {op : Operation} {t : String} (hx : x ∈ s.resources)
    (hop : op ∈ x.operations) (ht : op.body = some t) : Mentions s t
  | failure {x : Resource} {op : Operation} {a : Response} (hx : x ∈ s.resources)
    (hop : op ∈ x.operations) (ha : a ∈ op.responses) (hs : a.isSuccess = false) : Mentions s a.type
  | success {x : Resource} {op : Operation} {a : Response} (hx : x ∈ s.resources)
    (hop : op ∈ x.operations) (ha : op.responses.find? (·.code = a.code) = some a)
    (hs : a.isSuccess = true) : Mentions s a.type

/-! ## 2. Parts of a package -/

/-- **A package is assembled from files** that are all made. -/
structure AssembledFrom (r : Registry) (s : Service) (o : Origin) (config : List Source.File)
    (models errors interfaces client routes : Source.File) (p : Source.Project) : Prop where
  configMade : configFiles r.settings o = .ok config
  modelsMade : modelsFile r s = .ok models
  errorsMade : errorsFile r s = .ok errors
  interfacesMade : (interfacesFile r s).outcome = .ok interfaces
  clientMade : (clientFile r s).outcome = .ok client
  routesMade : routesFile r s = .ok routes
  files : p.files = supportFile r.settings s ::
    config ++ [models, errors, interfaces, client, routes, entryFile]

theorem assembledFrom_of_generate {p : Source.Project} (h : (generate r s o).outcome = .ok p) :
    ∃ config models errors interfaces client routes,
      AssembledFrom r s o config models errors interfaces client routes p := by
  obtain ⟨_, _, h⟩ := Traced.outcome_bind_eq_ok.mp h
  obtain ⟨config, hconfig, h⟩ := Traced.outcome_bind_eq_ok.mp h
  obtain ⟨models, hmodels, h⟩ := Traced.outcome_bind_eq_ok.mp h
  obtain ⟨errors, herrors, h⟩ := Traced.outcome_bind_eq_ok.mp h
  obtain ⟨interfaces, hinterfaces, h⟩ := Traced.outcome_bind_eq_ok.mp h
  obtain ⟨client, hclient, h⟩ := Traced.outcome_bind_eq_ok.mp h
  obtain ⟨routes, hroutes, h⟩ := Traced.outcome_bind_eq_ok.mp h
  rw [Traced.outcome_pure_eq_ok] at h
  subst h
  exact ⟨config, models, errors, interfaces, client, routes, hconfig, mapError_eq_ok.mp hmodels,
    mapError_eq_ok.mp herrors, hinterfaces, hclient, mapError_eq_ok.mp hroutes, rfl⟩

theorem name_of_mem_configFiles {config : List Source.File} (h : configFiles settings o = .ok config) :
    ∀ f ∈ config, f.name = configFile := by
  unfold configFiles at h
  split at h
  · cases h
    exact fun f hf => absurd hf List.not_mem_nil
  · obtain ⟨text, _, h⟩ := bind_eq_ok.mp h
    cases h
    intro f hf
    rw [List.mem_singleton.mp hf]
    rfl

/-- The configuration is written only for a source that is known. -/
theorem isGiven_of_configFiles_eq_error {f : Fault} (h : configFiles settings o = .error f) :
    o.source.isGiven = true := by
  by_contra hn
  unfold configFiles at h
  rw [(Bool.not_eq_true _).mp hn, if_pos (by decide)] at h
  cases h

/-- A file behind the configuration is found by its name. -/
theorem AssembledFrom.getFile?_eq {config : List Source.File}
    {models errors interfaces client routes : Source.File} {p : Source.Project}
    (h : AssembledFrom r s o config models errors interfaces client routes p) {name : String}
    (hn : name ∉ ["common.py", configFile]) :
    p.getFile? name =
      [models, errors, interfaces, client, routes, entryFile].find? (·.name = name) := by
  rw [List.mem_cons, List.mem_singleton, not_or] at hn
  have hsupport : decide ((supportFile r.settings s).name = name) = false :=
    decide_eq_false (Ne.symm hn.1)
  have hconfig : config.find? (·.name = name) = none := by
    rw [List.find?_eq_none]
    intro f hf he
    exact hn.2 ((of_decide_eq_true he).symm.trans (name_of_mem_configFiles h.configMade f hf))
  rw [Project.getFile?, h.files, List.cons_append, List.find?_cons, hsupport, List.find?_append,
    hconfig, Option.none_or]

/-! ## 3. The models file -/

/-- **The models file defines the declared types**, each once, under a class of its own: enums and
    models as classes, unions as aliases behind the codecs `cs`. -/
structure DefinesTypes (r : Registry) (s : Service) (f : Source.File) (cs : List UnionCodec) : Prop where
  name : f.name = "models.py"
  codecs : List.Forall₂ (fun u c => UnionCodec.ofUnion r u = .ok c) s.unions cs
  defined : Table.names f.classes ++ cs.map (·.className) =
    (Registry.declarations s).map fun d => Registry.localClass d.1
  distinct : ((Registry.declarations s).map fun d => Registry.localClass d.1).Nodup
  classes : ∀ e ∈ f.classes, e.2.name = e.1 ∧ ∀ a ∈ e.2.parameters, a = modelConfig ∨ a.Names r
  blocks : f.blocks = cs.map (fun c => { c.block r with order := 2 }) ++
    if s.models.isEmpty then [] else [{ order := 1, code := rebuildText s.models }]
  variants : ∀ c ∈ cs, ∀ v ∈ c.variants, v.Names r

theorem classes_declarations (s : Service) :
    (Registry.declarations s).map (fun d => Registry.localClass d.1) =
      s.enums.map (fun e => Registry.localClass e.name) ++
        s.models.map (fun m => Registry.localClass m.name) ++
        s.unions.map fun u => Registry.localClass u.name := by
  simp only [Registry.declarations, List.map_append, List.map_map, Function.comp_def]

theorem variants_of_ofUnion {u : UnionType} {c : UnionCodec} (h : UnionCodec.ofUnion r u = .ok c) :
    c.className = Registry.localClass u.name ∧
      List.Forall₂ (UnionCodec.IsVariant r) u.types c.variants := by
  obtain ⟨_, hclass, hvs⟩ := UnionCodec.ofUnion_eq_ok.mp h
  exact ⟨hclass, (UnionCodec.variantsOf_eq_ok.mp hvs).2.1⟩

theorem exists_isVariant_of_ofUnion {u : UnionType} {c : UnionCodec}
    (h : UnionCodec.ofUnion r u = .ok c) {v : UnionVariant} (hv : v ∈ c.variants) :
    ∃ t, UnionCodec.IsVariant r t v :=
  let ⟨t, _, ht⟩ := exists_left_of_forall₂ (variants_of_ofUnion h).2 hv
  ⟨t, ht⟩

/-- Classes of enums and models, ranked. -/
def rankedClasses (enums models : List Source.Class) : List Source.Class :=
  enums.map (·.withRank 4) ++ models.map (·.withRank 3)

/-- Blocks of the models file: codecs, then what settles forward references. -/
def modelBlocks (r : Registry) (s : Service) (cs : List UnionCodec) : List Source.Block :=
  cs.map (fun c => { c.block r with order := 2 }) ++
    if s.models.isEmpty then [] else [{ order := 1, code := rebuildText s.models }]

/-- A models file has the classes of the enums and of the models, and the codecs of the unions. -/
theorem exists_of_modelsFile {f : Source.File} (h : modelsFile r s = .ok f) : ∃ enums models cs,
    List.Forall₂ (fun e c => EnumType.toClass e = .ok c) s.enums enums ∧
      List.Forall₂ (fun m c => ModelType.toClass r m = .ok c) s.models models ∧
      List.Forall₂ (fun u c => UnionCodec.ofUnion r u = .ok c) s.unions cs ∧
      (rankedClasses enums models).foldl Source.File.addClass
        { name := "models.py", imports := [Support.modelImports], blocks := modelBlocks r s cs } = f := by
  obtain ⟨enums, henums, h⟩ := bind_eq_ok.mp h
  obtain ⟨models, hmodels, h⟩ := bind_eq_ok.mp h
  obtain ⟨cs, hcs, h⟩ := bind_eq_ok.mp h
  rw [pure_eq_ok] at h
  exact ⟨enums, models, cs, mapM_eq_ok.mp henums, mapM_eq_ok.mp hmodels, mapM_eq_ok.mp hcs, h⟩

theorem name_modelsFile {f : Source.File} (h : modelsFile r s = .ok f) : f.name = "models.py" := by
  obtain ⟨enums, models, cs, _, _, _, rfl⟩ := exists_of_modelsFile h
  rw [File.foldl_addClass]

section RankedClasses

variable {enums models : List Source.Class}
  (henums : List.Forall₂ (fun e c => EnumType.toClass e = .ok c) s.enums enums)
  (hmodels : List.Forall₂ (fun m c => ModelType.toClass r m = .ok c) s.models models)

include henums hmodels

theorem names_rankedClasses : (rankedClasses enums models).map (·.name) =
    s.enums.map (fun e => Registry.localClass e.name) ++
      s.models.map fun m => Registry.localClass m.name := by
  have he : enums.map (·.name) = s.enums.map fun e => Registry.localClass e.name :=
    (map_eq_of_forall₂ henums fun _ _ h => (EnumType.names_of_toClass (r := r) h).1.symm).symm
  have hm : models.map (·.name) = s.models.map fun m => Registry.localClass m.name :=
    (map_eq_of_forall₂ hmodels fun _ _ h => (ModelType.names_of_toClass h).1.symm).symm
  rw [← he, ← hm, rankedClasses, List.map_append, List.map_map, List.map_map]
  rfl

theorem nodup_rankedClasses (hr : Registry.DeclaredBy s settings r) :
    ((rankedClasses enums models).map (·.name)).Nodup := by
  have hdistinct := hr.classes_nodup
  rw [hr.entries_eq, classes_declarations] at hdistinct
  rw [names_rankedClasses henums hmodels]
  exact (List.nodup_append.mp hdistinct).1

theorem parameters_rankedClasses {c : Source.Class} (hc : c ∈ rankedClasses enums models) :
    ∀ a ∈ c.parameters, a = modelConfig ∨ a.Names r := by
  rcases List.mem_append.mp hc with hc | hc
  · obtain ⟨c', hc', rfl⟩ := List.mem_map.mp hc
    obtain ⟨_, _, he⟩ := exists_left_of_forall₂ henums hc'
    exact fun a ha => Or.inr ((EnumType.names_of_toClass he).2 a ha)
  · obtain ⟨c', hc', rfl⟩ := List.mem_map.mp hc
    obtain ⟨_, _, hm⟩ := exists_left_of_forall₂ hmodels hc'
    exact (ModelType.names_of_toClass hm).2.2

end RankedClasses

/-- Models file of classes and codecs. -/
def modelsFileOf (r : Registry) (s : Service) (enums models : List Source.Class)
    (cs : List UnionCodec) : Source.File :=
  { name := "models.py", imports := [Support.modelImports]
    classes := (rankedClasses enums models).map fun c => (c.name, c), blocks := modelBlocks r s cs }

/-- Classes have names of their own, so the models file has them all as they were added. -/
theorem modelsFile_eq (hr : Registry.DeclaredBy s settings r) {f : Source.File}
    (h : modelsFile r s = .ok f) : ∃ enums models cs,
      List.Forall₂ (fun e c => EnumType.toClass e = .ok c) s.enums enums ∧
        List.Forall₂ (fun m c => ModelType.toClass r m = .ok c) s.models models ∧
        List.Forall₂ (fun u c => UnionCodec.ofUnion r u = .ok c) s.unions cs ∧
        f = modelsFileOf r s enums models cs := by
  obtain ⟨enums, models, cs, henums, hmodels, hcs, hf⟩ := exists_of_modelsFile h
  rw [File.foldl_addClass_of_nodup rfl (nodup_rankedClasses henums hmodels hr)] at hf
  exact ⟨enums, models, cs, henums, hmodels, hcs, hf.symm⟩

theorem definesTypes_of_modelsFile (hr : Registry.DeclaredBy s settings r) {f : Source.File}
    (h : modelsFile r s = .ok f) : ∃ cs, DefinesTypes r s f cs := by
  obtain ⟨enums, models, cs, henums, hmodels, hcs, rfl⟩ := modelsFile_eq hr h
  have hnames := names_rankedClasses henums hmodels
  have hunions : cs.map (·.className) = s.unions.map fun u => Registry.localClass u.name :=
    (map_eq_of_forall₂ hcs fun _ _ hc => (variants_of_ofUnion hc).1.symm).symm
  have hdistinct := hr.classes_nodup
  rw [hr.entries_eq] at hdistinct
  refine ⟨cs, rfl, hcs, ?_, hdistinct, ?_, rfl, fun c hc v hv => ?_⟩
  · rw [classes_declarations, hunions, ← hnames, modelsFileOf, Table.names, List.map_map]
    rfl
  · rintro e he
    obtain ⟨c, hc, rfl⟩ := List.mem_map.mp he
    exact ⟨rfl, parameters_rankedClasses henums hmodels hc⟩
  · obtain ⟨u, _, hu⟩ := exists_left_of_forall₂ hcs hc
    obtain ⟨t, ht⟩ := exists_isVariant_of_ofUnion hu hv
    exact ht.names

/-! ## 4. The other files -/

/-- **An error class names declared types only**: it carries no body, or one of a declared type. -/
def ErrorNames (r : Registry) (c : Source.Class) : Prop :=
  c = ErrorType.failedRequestClass ∨ c = ErrorType.invalidJsonClass ∨
    ∃ ref, r.Names true (r.typeOf ref) ∧ c = ErrorType.classOf r ref.errorClass ref

theorem names_of_errorsFile {f : Source.File} (h : errorsFile r s = .ok f) :
    f.name = "errors.py" ∧ ∀ e ∈ f.classes, ErrorNames r e.2 := by
  obtain ⟨cs, hcs, h⟩ := bind_eq_ok.mp h
  rw [pure_eq_ok] at h
  subst h
  refine ⟨by rw [File.foldl_addClass], fun e he => ?_⟩
  have hc := File.mem_foldl_addClass rfl he
  obtain ⟨types, htypes, rfl⟩ := ErrorType.classes_eq_ok.mp hcs
  rcases List.mem_cons.mp hc with hc | hc
  · exact Or.inl hc
  rcases List.mem_cons.mp hc with hc | hc
  · exact Or.inr (Or.inl hc)
  · obtain ⟨d, hd, hc⟩ := List.mem_map.mp hc
    obtain ⟨href, hdecl⟩ := ErrorType.declared_of_mem htypes hd
    rw [href] at hc
    exact Or.inr (Or.inr ⟨d.2, Registry.names_resolve hdecl, hc.symm⟩)

/-- Methods that stand in the class of a resource. -/
theorem names_of_ofResource {x : Resource} {ms : List ClientMethod}
    (h : (ClientMethod.ofResource r x).outcome = .ok ms) {m : ClientMethod} (hm : m ∈ ms) :
    m.Names r := by
  obtain ⟨o, _, ho⟩ := exists_left_of_forall₂ (ClientMethod.ofResource_eq_ok.mp h).1 hm
  exact ho.names

theorem names_of_interfacesFile {f : Source.File} (h : (interfacesFile r s).outcome = .ok f) :
    f.name = "interfaces.py" ∧ ∀ e ∈ f.classes, ∀ g ∈ e.2.functions,
      ∃ m : ClientMethod, m.Names r ∧ g.2 = m.interface := by
  obtain ⟨cs, hcs, h⟩ := Traced.outcome_bind_eq_ok.mp h
  rw [Traced.outcome_pure_eq_ok] at h
  subst h
  refine ⟨by rw [File.foldl_addClass], fun e he g hg => ?_⟩
  have hc := File.mem_foldl_addClass rfl he
  obtain ⟨x, _, ms, hms, htrait⟩ :=
    exists_left_of_forall₂ (ClientMethod.outcome_mapM_classes.mp hcs) hc
  rw [← htrait, ClientMethod.functions_traitOf (ClientMethod.ofResource_eq_ok.mp hms).2] at hg
  obtain ⟨m, hm, rfl⟩ := List.mem_map.mp hg
  exact ⟨m, names_of_ofResource hms hm, rfl⟩

/-- The classes of the client hold constructors and methods. -/
theorem names_of_clientFile {f : Source.File} (h : (clientFile r s).outcome = .ok f) :
    f.name = "client.py" ∧ ∀ e ∈ f.classes, ∀ g ∈ e.2.functions,
      g.1 = "__init__" ∨ ∃ m : ClientMethod, m.Names r ∧ g.2 = m.implementation := by
  obtain ⟨cs, hcs, h⟩ := Traced.outcome_bind_eq_ok.mp h
  rw [Traced.outcome_pure_eq_ok] at h
  subst h
  refine ⟨by rw [File.foldl_addClass], fun e he g hg => ?_⟩
  rcases List.mem_append.mp (File.mem_foldl_addClass rfl he) with hc | hc
  · obtain ⟨c, hc, hrank⟩ := List.mem_map.mp hc
    obtain ⟨x, _, ms, hms, hobject⟩ :=
      exists_left_of_forall₂ (ClientMethod.outcome_mapM_classes.mp hcs) hc
    have hfunctions : e.2.functions = c.functions := by rw [← hrank]; rfl
    rw [hfunctions, ← hobject,
      ClientMethod.functions_objectOf (ClientMethod.nodup_names_of_ofResource hms)] at hg
    rcases List.mem_cons.mp hg with rfl | hg
    · exact Or.inl rfl
    · obtain ⟨m, hm, rfl⟩ := List.mem_map.mp hg
      exact Or.inr ⟨m, names_of_ofResource hms hm, rfl⟩
  · rw [List.mem_singleton.mp hc] at hg
    rw [List.mem_singleton.mp hg]
    exact Or.inl rfl

theorem name_routesFile {f : Source.File} (h : routesFile r s = .ok f) : f.name = "routes" := by
  obtain ⟨_, _, h⟩ := bind_eq_ok.mp h
  rw [pure_eq_ok] at h
  rw [← h]
  rfl

/-- Every module of a package is found by its name. -/
theorem AssembledFrom.getFile?_modules {config : List Source.File}
    {models errors interfaces client routes : Source.File} {p : Source.Project}
    (hp : AssembledFrom r s o config models errors interfaces client routes p) :
    p.getFile? "models.py" = some models ∧ p.getFile? "errors.py" = some errors ∧
      p.getFile? "interfaces.py" = some interfaces ∧ p.getFile? "client.py" = some client := by
  have hmodels := name_modelsFile hp.modelsMade
  obtain ⟨herrors, _⟩ := names_of_errorsFile hp.errorsMade
  obtain ⟨hinterfaces, _⟩ := names_of_interfacesFile hp.interfacesMade
  obtain ⟨hclient, _⟩ := names_of_clientFile hp.clientMade
  refine ⟨?_, ?_, ?_, ?_⟩
  all_goals
    rw [hp.getFile?_eq (by decide)]
    simp [hmodels, herrors, hinterfaces, hclient]

/-- **A package is without dangling references**: its models file defines the declared types, and
    errors, interfaces and client name no others. -/
structure NoDangling (r : Registry) (s : Service) (p : Source.Project) : Prop where
  models : ∃ f cs, p.getFile? "models.py" = some f ∧ DefinesTypes r s f cs
  errors : ∃ f, p.getFile? "errors.py" = some f ∧ ∀ e ∈ f.classes, ErrorNames r e.2
  interfaces : ∃ f, p.getFile? "interfaces.py" = some f ∧ ∀ e ∈ f.classes, ∀ g ∈ e.2.functions,
    ∃ m : ClientMethod, m.Names r ∧ g.2 = m.interface
  client : ∃ f, p.getFile? "client.py" = some f ∧ ∀ e ∈ f.classes, ∀ g ∈ e.2.functions,
    g.1 = "__init__" ∨ ∃ m : ClientMethod, m.Names r ∧ g.2 = m.implementation

theorem noDangling_of_generate (hr : Registry.DeclaredBy s settings r) {p : Source.Project}
    (h : (generate r s o).outcome = .ok p) : NoDangling r s p := by
  obtain ⟨config, models, errors, interfaces, client, routes, hp⟩ := assembledFrom_of_generate h
  obtain ⟨cs, hmodels⟩ := definesTypes_of_modelsFile hr hp.modelsMade
  obtain ⟨inModels, inErrors, inInterfaces, inClient⟩ := hp.getFile?_modules
  exact ⟨⟨models, cs, inModels, hmodels⟩, ⟨errors, inErrors, (names_of_errorsFile hp.errorsMade).2⟩,
    ⟨interfaces, inInterfaces, (names_of_interfacesFile hp.interfacesMade).2⟩,
    ⟨client, inClient, (names_of_clientFile hp.clientMade).2⟩⟩

/-! ## 5. What a package needs -/

theorem parsed_of_modelsFile {f : Source.File} (h : modelsFile r s = .ok f) :
    (∀ m ∈ s.models, ∀ f ∈ m.fields, ∃ ref, r.parse f.type = .ok ref) ∧
      ∀ u ∈ s.unions, ∀ t ∈ u.types, ∃ ref, r.parse t = .ok ref := by
  obtain ⟨_, _, _, _, hmodels, hcs, _⟩ := exists_of_modelsFile h
  constructor
  · intro m hm
    obtain ⟨c, _, hc⟩ := exists_right_of_forall₂ hmodels hm
    exact (ModelType.names_of_toClass hc).2.1
  · intro u hu t ht
    obtain ⟨c, _, hc⟩ := exists_right_of_forall₂ hcs hu
    obtain ⟨v, _, hv⟩ := exists_right_of_forall₂ (variants_of_ofUnion hc).2 ht
    exact ⟨v.ref, hv.parsed⟩

theorem parsed_of_failure {f : Source.File} (h : errorsFile r s = .ok f) {x : Resource}
    (hx : x ∈ s.resources) {op : Operation} (hop : op ∈ x.operations) {a : Response}
    (ha : a ∈ op.responses) (hs : a.isSuccess = false) : ∃ ref, r.parse a.type = .ok ref := by
  obtain ⟨cs, hcs, _⟩ := bind_eq_ok.mp h
  obtain ⟨types, htypes, _⟩ := ErrorType.classes_eq_ok.mp hcs
  cases hu : a.isUnit with
  | true => exact DispatchTable.parsed_of_isUnit hu
  | false =>
    have hall := ErrorType.exists_all_iff.mp ⟨types, htypes⟩
    exact hall.2.read a (ErrorType.mem_bodies_iff.mpr ⟨x, hx, op, hop, ha, hs, hu⟩)

/-- Every operation has a method. -/
theorem exists_belongsTo {f : Source.File} (h : (interfacesFile r s).outcome = .ok f) {x : Resource}
    (hx : x ∈ s.resources) {op : Operation} (hop : op ∈ x.operations) :
    ∃ m, ClientMethod.BelongsTo r x op m := by
  obtain ⟨ts, hts, _⟩ := Traced.outcome_bind_eq_ok.mp h
  obtain ⟨_, _, ms, hms, _⟩ := exists_right_of_forall₂ (ClientMethod.outcome_mapM_classes.mp hts)
    ((sortBy_perm _ _).mem_iff.mpr hx)
  obtain ⟨m, _, hm⟩ := exists_right_of_forall₂ (ClientMethod.ofResource_eq_ok.mp hms).1 hop
  exact ⟨m, hm⟩

theorem parsed_of_success {x : Resource} {op : Operation} {m : ClientMethod}
    (h : ClientMethod.BelongsTo r x op m) {a : Response}
    (ha : op.responses.find? (·.code = a.code) = some a) (hs : a.isSuccess = true) :
    ∃ ref, r.parse a.type = .ok ref := by
  obtain ⟨e, bs, nils, rfl, hc⟩ := h.exists_consistsOf
  obtain ⟨b, _, hb⟩ :=
    exists_right_of_forall₂ hc.own (DispatchTable.mem_owners_of_isSuccess ha hs)
  exact (DispatchTable.outcomeOf_eq_ok.mp hb).parsed

/-- **A package is generated only where every notation is read** that the service mentions. -/
theorem parsed_of_generate {p : Source.Project} (h : (generate r s o).outcome = .ok p) {t : String}
    (ht : Mentions s t) : ∃ ref, r.parse t = .ok ref := by
  obtain ⟨_, _, _, _, _, _, hp⟩ := assembledFrom_of_generate h
  cases ht with
  | field hm hf => exact (parsed_of_modelsFile hp.modelsMade).1 _ hm _ hf
  | variant hu ht => exact (parsed_of_modelsFile hp.modelsMade).2 _ hu _ ht
  | parameter hx hop hpar =>
    obtain ⟨m, e, he, _⟩ := exists_belongsTo hp.interfacesMade hx hop
    exact he.parsed_of_parameter hpar
  | body hx hop hb =>
    obtain ⟨m, e, he, _⟩ := exists_belongsTo hp.interfacesMade hx hop
    exact he.parsed_of_body hb
  | failure hx hop ha hs => exact parsed_of_failure hp.errorsMade hx hop ha hs
  | success hx hop ha hs =>
    obtain ⟨m, hm⟩ := exists_belongsTo hp.interfacesMade hx hop
    exact parsed_of_success hm ha hs

/-! ## 6. Refusal -/

/-- **A notation is dangling** where no registry of the service reads it. -/
def Dangling (s : Service) (settings : Settings) (t : String) : Prop :=
  ∀ r, Registry.ofService s settings = .ok r → ∀ ref, r.parse t ≠ .ok ref

/-- **No package has dangling references**: one that is generated names declared types only, and a
    service that mentions a dangling notation is refused. Where all its response codes can be
    written, it is refused for its description, unless its source is known and the configuration
    cannot be written. -/
theorem ofService_resolves (s : Service) (settings : Settings) (o : Origin) :
    (∀ p, (ofService s settings o).outcome = .ok p →
      ∃ r, Registry.ofService s settings = .ok r ∧ NoDangling r s p) ∧
    ∀ t, Mentions s t → Dangling s settings t →
      ∃ f, (ofService s settings o).outcome = .error f ∧ (¬ s.HasLongCode →
        (∃ d, f = .description d) ∨
          o.source.isGiven = true ∧ configFiles settings o = .error f) := by
  constructor
  · intro p h
    obtain ⟨r, hr, h⟩ := Traced.outcome_bind_eq_ok.mp h
    have hr := mapError_eq_ok.mp hr
    exact ⟨r, hr, noDangling_of_generate (Registry.ofService_eq_ok.mp hr) h⟩
  · intro t ht hd
    cases h : (ofService s settings o).outcome with
    | ok p =>
      obtain ⟨r, hr, h⟩ := Traced.outcome_bind_eq_ok.mp h
      obtain ⟨ref, href⟩ := parsed_of_generate h ht
      exact absurd href (hd r (mapError_eq_ok.mp hr) ref)
    | error f =>
      refine ⟨f, rfl, fun hlong => ?_⟩
      rcases Traced.outcome_bind_eq_error.mp h with h | ⟨r, hr, h⟩
      · obtain ⟨d, hd, rfl⟩ := mapError_eq_error.mp h
        exact Or.inl ⟨d, raised_of_nowhere (nowhere_of_ofService hd)⟩
      · have hsettings := (Registry.ofService_eq_ok.mp (mapError_eq_ok.mp hr)).settings_eq
        rcases fault_of_generate f h with h | h
        · rw [hsettings] at h
          exact Or.inr ⟨isGiven_of_configFiles_eq_error h, h⟩
        · exact Or.inl (h.resolve_right hlong)

/-- Service whose types name each other, and whose operation names them all. -/
def wired : Service :=
  { name := "api"
    enums := [{ name := "color", values := [{ name := "red" }] }]
    models := [{ name := "pen", fields :=
      [{ name := "tint", type := "color", default := some "red" }, { name := "kin", type := "[pen]" }] }]
    unions := [{ name := "tool", types := ["pen", "color"] }]
    resources := [{ type := "tool", plural := "tools", operations :=
      [{ verb := .post, path := "/tools/:id", body := some "map[tool]"
         responses := [⟨200, "[tool]", true⟩, ⟨404, "unit", false⟩, ⟨422, "pen", false⟩] }] }] }

/-- Field of a type that is not declared. -/
def looseField : Field := { name := "tint", type := "color" }

/-- Service with the field in its one model. -/
def loose : Service := { name := "api", models := [{ name := "pen", fields := [looseField] }] }

theorem mentions_loose : Mentions loose "color" :=
  Mentions.field (f := looseField) List.mem_cons_self List.mem_cons_self

theorem dangling_loose : Dangling loose Dialect.aiohttp "color" := by
  intro r hr ref href
  cases hr
  cases href

/-- One service is generated, the other is refused for its description. -/
theorem ofService_resolves_wired_loose :
    (∃ p r, (ofService wired Dialect.aiohttp {}).outcome = .ok p ∧
      Registry.ofService wired Dialect.aiohttp = .ok r ∧ NoDangling r wired p) ∧
    Mentions loose "color" ∧ Dangling loose Dialect.aiohttp "color" ∧
      ∃ d, (ofService loose Dialect.aiohttp {}).outcome = .error (.description d) := by
  constructor
  · obtain ⟨r, hr, hp⟩ := (ofService_resolves wired Dialect.aiohttp {}).1 _ rfl
    exact ⟨_, r, rfl, hr, hp⟩
  · obtain ⟨f, hf, hd⟩ :=
      (ofService_resolves loose Dialect.aiohttp {}).2 "color" mentions_loose dangling_loose
    have hlong : ¬ loose.HasLongCode := fun ⟨_, hx, _⟩ => absurd hx List.not_mem_nil
    obtain ⟨d, rfl⟩ := (hd hlong).resolve_right fun h => Bool.false_ne_true h.1
    exact ⟨mentions_loose, dangling_loose, d, hf⟩

/-- A source that the configuration cannot hold refuses a service before its types are read, and
    not for its description. -/
theorem exists_dangling_not_description :
    Mentions loose "color" ∧ Dangling loose Dialect.aiohttp "color" ∧
    ¬ ∃ d, (ofService loose Dialect.aiohttp { source := .text "\u0001" }).outcome =
      .error (.description d) := by
  have h : (ofService loose Dialect.aiohttp { source := .text "\u0001" }).outcome =
      .error .outOfRange := rfl
  refine ⟨mentions_loose, dangling_loose, ?_⟩
  rintro ⟨d, hd⟩
  rw [h] at hd
  cases hd

end Package

end ClientGen
