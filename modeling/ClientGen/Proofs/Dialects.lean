import ClientGen.Proofs.Packages

/-!
# What a dialect changes

A dialect is a named value of the settings, and the settings go through every step of generation.
This file fixes how far a dialect's name and its support of PATCH reach:

* `Settings.DifferInDialect`: settings that are the same but for the two;
* `Registry.parse_inDialect` and its like: no step up to a class, a codec, an endpoint, a dispatch
  table or a route asks for them, and `ClientMethod.outcome_ofEndpoint_inDialect`: a method carries
  them along without use;
* `modelsFile_inDialect` and its like: five files are the same in every dialect;
* `Toml.stopAlike_write`: the configuration has the name in one text, so it is written in one dialect
  where it is in the other;
* `lines_supportFile`: the support file has one line for PATCH;
* `ofService_dialects_agree`: a package in one dialect is the package in the other but for that
  line and for the configuration.
-/

namespace ClientGen

open ClientGen.Text ClientGen.Source

/-! ## 1. Settings of another dialect -/

/-- Settings under another name, with PATCH supported or not. -/
def Settings.inDialect (s : Settings) (name : String) (patch : Bool) : Settings :=
  { s with name, supportsPatch := patch }

/-- **Settings differ in the dialect only**: in its name and in whether it supports PATCH. -/
def Settings.DifferInDialect (a b : Settings) : Prop := b = a.inDialect b.name b.supportsPatch

/-- Registry of the same types for another dialect. -/
def Registry.inDialect (r : Registry) (name : String) (patch : Bool) : Registry :=
  { r with settings := r.settings.inDialect name patch }

/-- The same method in another dialect. -/
def ClientMethod.inDialect (m : ClientMethod) (name : String) (patch : Bool) : ClientMethod :=
  { m with settings := m.settings.inDialect name patch }

section Steps

variable (r : Registry) (name : String) (patch : Bool)

/-! ## 2. Notations, types and defaults -/

namespace Registry

theorem parseChars_inDialect (fuel : Nat) (cs : List Char) :
    (r.inDialect name patch).parseChars fuel cs = r.parseChars fuel cs := by
  induction fuel generalizing cs with
  | zero => rfl
  | succ fuel ih =>
    simp only [parseChars, ih]
    rfl

@[simp]
theorem parse_inDialect (s : String) : (r.inDialect name patch).parse s = r.parse s :=
  r.parseChars_inDialect name patch _ _

@[simp]
theorem resolve_inDialect (qualified : Bool) (ref : TypeRef) :
    (r.inDialect name patch).resolve qualified ref = r.resolve qualified ref := by
  induction ref with
  | primitive p => rfl
  | named kind n => rfl
  | list of ih => rw [resolve, resolve, ih]
  | map of ih => rw [resolve, resolve, ih]
  | option of ih => rw [resolve, resolve, ih]

@[simp]
theorem typeOf_inDialect (ref : TypeRef) : (r.inDialect name patch).typeOf ref = r.typeOf ref := by
  rw [typeOf, typeOf, resolve_inDialect]

@[simp]
theorem localTypeOf_inDialect (ref : TypeRef) :
    (r.inDialect name patch).localTypeOf ref = r.localTypeOf ref := by
  rw [localTypeOf, localTypeOf, resolve_inDialect]

@[simp]
theorem defaultLiteral_inDialect (raw : String) (qualified : Bool) (ref : TypeRef) :
    (r.inDialect name patch).defaultLiteral raw qualified ref =
      r.defaultLiteral raw qualified ref := by
  induction ref with
  | primitive p => rfl
  | named kind n => cases kind <;> rfl
  | list of ih => rfl
  | map of ih => rfl
  | option of ih => rw [defaultLiteral, defaultLiteral, ih]

theorem ofService_inDialect (s : Service) (a : Settings) :
    Registry.ofService s (a.inDialect name patch) =
      (Registry.ofService s a).map (·.inDialect name patch) := by
  unfold Registry.ofService
  cases declare [] (declarations s) <;> rfl

end Registry

/-! ## 3. Endpoints -/

namespace Endpoint

@[simp]
theorem resolve_inDialect (e : Endpoint) (s : String) (code : Option Int) :
    e.resolve (r.inDialect name patch) s code = e.resolve r s code := by
  rw [resolve, resolve, Registry.parse_inDialect]

@[simp]
theorem bodyOf_inDialect : bodyOf (r.inDialect name patch) = bodyOf r := by
  funext s
  simp only [bodyOf, Registry.parse_inDialect, Registry.resolve_inDialect]

@[simp]
theorem argumentOf_inDialect : argumentOf (r.inDialect name patch) = argumentOf r := by
  funext p l
  simp only [argumentOf, settle, Registry.parse_inDialect, Registry.resolve_inDialect,
    Registry.defaultLiteral_inDialect]

@[simp]
theorem ofOperation_inDialect (x : Resource) (o : Operation) :
    ofOperation (r.inDialect name patch) x o = ofOperation r x o := by
  simp only [ofOperation, build, parametersOf, bodyOf_inDialect, argumentOf_inDialect]

theorem ofOperations_inDialect (x : Resource) (before : List Endpoint) (os : List Operation) :
    ofOperations (r.inDialect name patch) x before os = ofOperations r x before os := by
  induction os generalizing before with
  | nil => rfl
  | cons o os ih => simp only [ofOperations, ofOperation_inDialect, ih]

@[simp]
theorem ofResource_inDialect (x : Resource) :
    ofResource (r.inDialect name patch) x = ofResource r x :=
  ofOperations_inDialect r name patch x [] x.operations

end Endpoint

/-! ## 4. Dispatch and methods -/

namespace DispatchTable

@[simp]
theorem outcomeOf_inDialect (e : Endpoint) :
    outcomeOf (r.inDialect name patch) e = outcomeOf r e := by
  funext a
  simp only [outcomeOf, Endpoint.resolve_inDialect, Registry.typeOf_inDialect]
  rfl

@[simp]
theorem branchesOf_inDialect (e : Endpoint) (absorbed : Bool) (seen : List Int) (as : List Response) :
    branchesOf (r.inDialect name patch) e absorbed seen as = branchesOf r e absorbed seen as := by
  induction as generalizing seen with
  | nil => rfl
  | cons a as ih => simp only [branchesOf, outcomeOf_inDialect, ih]

@[simp]
theorem ofEndpoint_inDialect (e : Endpoint) :
    ofEndpoint (r.inDialect name patch) e = ofEndpoint r e := by
  simp only [ofEndpoint, branchesOf_inDialect, nilValueOf, Endpoint.resolve_inDialect,
    Registry.resolve_inDialect]

end DispatchTable

namespace ClientMethod

/-- **A method carries the dialect along**: apart from its warnings it is made as in any other. -/
theorem outcome_ofEndpoint_inDialect (e : Endpoint) :
    (ofEndpoint (r.inDialect name patch) e).outcome =
      (ofEndpoint r e).outcome.map (·.inDialect name patch) := by
  rw [outcome_ofEndpoint, outcome_ofEndpoint, DispatchTable.ofEndpoint_inDialect]
  cases (DispatchTable.ofEndpoint r e).outcome with
  | error f => rfl
  | ok t =>
    show (checkCodes t).map _ = ((checkCodes t).map _).map _
    cases checkCodes t <;> rfl

theorem outcome_ofResource_inDialect (x : Resource) :
    (ofResource (r.inDialect name patch) x).outcome =
      (ofResource r x).outcome.map (List.map (·.inDialect name patch)) := by
  unfold ofResource
  rw [Traced.outcome_bind, Traced.outcome_bind, Endpoint.ofResource_inDialect]
  simp only [Traced.outcome_mapM, outcome_ofEndpoint_inDialect, mapM_map]
  cases (Traced.lift ((Endpoint.ofResource r x).mapError DescriptionFault.raised)).outcome <;> rfl

/-- Classes made of methods that carry the dialect along without use. -/
theorem outcome_mapM_classes_inDialect {view : Resource → List ClientMethod → Source.Class}
    (hview : ∀ x ms, view x (ms.map (·.inDialect name patch)) = view x ms) (xs : List Resource) :
    (xs.mapM fun x => do
      return view x (← ofResource (r.inDialect name patch) x) : Traced Fault _).outcome =
    (xs.mapM fun x => do return view x (← ofResource r x) : Traced Fault _).outcome := by
  rw [Traced.outcome_mapM, Traced.outcome_mapM]
  congr 1
  funext x
  rw [Traced.outcome_bind, Traced.outcome_bind, outcome_ofResource_inDialect]
  cases (ofResource r x).outcome with
  | error f => rfl
  | ok ms => exact congrArg Except.ok (hview x ms)

theorem outcome_traits_inDialect (s : Service) :
    (traits (r.inDialect name patch) s).outcome = (traits r s).outcome := by
  refine outcome_mapM_classes_inDialect r name patch (fun x ms => ?_) s.sortedResources
  rw [traitOf, List.map_map]
  rfl

theorem outcome_objects_inDialect (s : Service) :
    (objects (r.inDialect name patch) s).outcome = (objects r s).outcome := by
  refine outcome_mapM_classes_inDialect r name patch (fun x ms => ?_) s.sortedResources
  rw [objectOf, List.foldl_map]
  rfl

end ClientMethod

/-! ## 5. Models, errors and routes -/

theorem Field.toAttribute_inDialect (model : String) (f : Field) :
    f.toAttribute (r.inDialect name patch) model = f.toAttribute r model := by
  simp only [toAttribute, settle, Registry.parse_inDialect, Registry.defaultLiteral_inDialect,
    Registry.localTypeOf_inDialect]

theorem modelAttributes_inDialect (model : String) (seen : List String) (fs : List Field) :
    modelAttributes (r.inDialect name patch) model seen fs = modelAttributes r model seen fs := by
  induction fs generalizing seen with
  | nil => rfl
  | cons f fs ih => simp only [modelAttributes, Field.toAttribute_inDialect, ih]

@[simp]
theorem ModelType.toClass_inDialect :
    ModelType.toClass (r.inDialect name patch) = ModelType.toClass r := by
  funext m
  rw [toClass, toClass, modelAttributes_inDialect]

namespace UnionCodec

theorem variantsAfter_inDialect (union : String) (before : List UnionVariant) (ts : List String) :
    variantsAfter (r.inDialect name patch) union before ts = variantsAfter r union before ts := by
  induction ts generalizing before with
  | nil => rfl
  | cons t ts ih => simp only [variantsAfter, variantOf, Registry.parse_inDialect, ih]

@[simp]
theorem ofUnion_inDialect : ofUnion (r.inDialect name patch) = ofUnion r := by
  funext u
  simp only [ofUnion, variantsOf, variantsAfter_inDialect]

@[simp]
theorem block_inDialect (c : UnionCodec) : c.block (r.inDialect name patch) = c.block r := by
  have htype : typeOf (r.inDialect name patch) = typeOf r := by
    funext v
    rw [typeOf, typeOf, Registry.localTypeOf_inDialect]
  simp only [block, functions, variantWriter, variantReader, reader, writer, aliasText, type, htype]

end UnionCodec

namespace ErrorType

theorem addResponses_inDialect (e : Endpoint) (found : Found) (as : List Response) :
    addResponses (r.inDialect name patch) e found as = addResponses r e found as := by
  induction as generalizing found with
  | nil => rfl
  | cons a as ih => simp only [addResponses, Endpoint.resolve_inDialect, ih]

theorem addEndpoints_inDialect (found : Found) (es : List Endpoint) :
    addEndpoints (r.inDialect name patch) found es = addEndpoints r found es := by
  induction es generalizing found with
  | nil => rfl
  | cons e es ih => simp only [addEndpoints, addResponses_inDialect, ih]

theorem addResources_inDialect (found : Found) (xs : List Resource) :
    addResources (r.inDialect name patch) found xs = addResources r found xs := by
  induction xs generalizing found with
  | nil => rfl
  | cons x xs ih =>
    simp only [addResources, Endpoint.ofResource_inDialect, addEndpoints_inDialect, ih]

@[simp]
theorem all_inDialect (s : Service) : all (r.inDialect name patch) s = all r s := by
  rw [all, all, addResources_inDialect]

@[simp]
theorem classOf_inDialect (n : String) (ref : TypeRef) :
    classOf (r.inDialect name patch) n ref = classOf r n ref := by
  rw [classOf, classOf, Registry.typeOf_inDialect]
  rfl

end ErrorType

namespace Route

theorem addEndpoints_inDialect (before : Handlers) (es : List Endpoint) :
    addEndpoints (r.inDialect name patch) before es = addEndpoints r before es := by
  induction es generalizing before with
  | nil => rfl
  | cons e es ih =>
    have hname : handlerName (r.inDialect name patch) e = handlerName r e := rfl
    simp only [addEndpoints, hname, ih]

theorem addResources_inDialect (before : Handlers) (xs : List Resource) :
    addResources (r.inDialect name patch) before xs = addResources r before xs := by
  induction xs generalizing before with
  | nil => rfl
  | cons x xs ih =>
    simp only [addResources, Endpoint.ofResource_inDialect, addEndpoints_inDialect, ih]

@[simp]
theorem all_inDialect (s : Service) : all (r.inDialect name patch) s = all r s := by
  rw [all, all, addResources_inDialect]
  rfl

end Route

/-! ## 6. Files -/

namespace Package

theorem modelsFile_inDialect (s : Service) :
    modelsFile (r.inDialect name patch) s = modelsFile r s := by
  simp only [modelsFile, ModelType.toClass_inDialect, UnionCodec.ofUnion_inDialect,
    UnionCodec.block_inDialect]

theorem errorsFile_inDialect (s : Service) :
    errorsFile (r.inDialect name patch) s = errorsFile r s := by
  simp only [errorsFile, ErrorType.classes, ErrorType.all_inDialect, ErrorType.classOf_inDialect]

theorem outcome_interfacesFile_inDialect (s : Service) :
    (interfacesFile (r.inDialect name patch) s).outcome = (interfacesFile r s).outcome := by
  rw [interfacesFile, interfacesFile, Traced.outcome_bind, Traced.outcome_bind,
    ClientMethod.outcome_traits_inDialect]

theorem outcome_clientFile_inDialect (s : Service) :
    (clientFile (r.inDialect name patch) s).outcome = (clientFile r s).outcome := by
  rw [clientFile, clientFile, Traced.outcome_bind, Traced.outcome_bind,
    ClientMethod.outcome_objects_inDialect]

theorem routesFile_inDialect (s : Service) :
    routesFile (r.inDialect name patch) s = routesFile r s := by
  rw [routesFile, routesFile, Route.all_inDialect]

end Package

end Steps

/-! ## 7. The configuration -/

/-- The name of a dialect can be written into a configuration. -/
def Settings.IsWritable (s : Settings) : Prop := ∃ t, Toml.quotedText s.name = .ok t

namespace Toml

/-- A text is written or it is outside what can be written; there is no other fault. -/
theorem stopAlike_quotedText {s t : String}
    (h : (∃ u, quotedText s = .ok u) ↔ ∃ u, quotedText t = .ok u) :
    StopAlike (quotedText s) (quotedText t) := by
  have hfault : ∀ s, (∃ u, quotedText s = .ok u) ∨ quotedText s = .error .outOfRange := by
    intro s
    unfold quotedText
    split
    · exact Or.inl ⟨_, rfl⟩
    · exact Or.inr rfl
  rcases hfault s with hs | hs
  · obtain ⟨u, hu⟩ := hs
    obtain ⟨v, hv⟩ := h.mp ⟨u, hu⟩
    rw [hu, hv]
    exact .go trivial
  · rcases hfault t with ht | ht
    · obtain ⟨u, hu⟩ := h.mpr ht
      rw [hs] at hu
      cases hu
    · rw [hs, ht]
      exact .stop _

/-- Whether a section can be written does not depend on the text before it. -/
theorem stopAlike_addSection (s t : String) (x : Section) :
    StopAlike (addSection s x) (addSection t x) := by
  refine .bind_same fun lines _ => ?_
  split <;> exact .go trivial

namespace Parts

variable {p q : Parts}

/-- Entries before do not look at the ones behind them, nor the other way round. -/
theorem stopAlike_append_left (before : Parts) (h : StopAlike p.own q.own) :
    StopAlike (before.append p).own (before.append q).own :=
  .bind_same fun _ _ => h.bind fun _ _ _ => .go trivial

theorem stopAlike_append_right (after : Parts) (h : StopAlike p.own q.own) :
    StopAlike (p.append after).own (q.append after).own :=
  h.bind fun _ _ _ => .bind_same fun _ _ => .go trivial

theorem stopAlike_ownLines (h : StopAlike p.own q.own) : StopAlike p.ownLines q.ownLines :=
  h.bind fun _ _ _ => .go trivial

end Parts

/-- Line of a configuration with the name of the dialect. -/
def dialectParts (s : Settings) : Parts where
  own := (quotedText s.name).map fun text => ("dialect = " ++ text ++ "\n", "")

/-- The name of the dialect stands in a line between those of the source and those of the
    directory. -/
theorem partsOf_configOf (s : Settings) (source dirname : Value) :
    partsOf "" (Package.configOf s source dirname) =
      (entryParts "" "url" source).append ((dialectParts s).append
        (partsOf "" (if dirname.isGiven then [("dirname", dirname)] else []))) := by
  have hurl : nameText "url" = .ok "url" := by decide +kernel
  have hdialect : nameText "dialect" = .ok "dialect" := by decide +kernel
  rw [Package.configOf, List.cons_append, List.cons_append, List.nil_append, partsOf_cons hurl,
    partsOf_cons hdialect]
  rfl

/-- **A configuration is written in one dialect where it is in the other**, if their names are. -/
theorem stopAlike_write {a b : Settings} (h : a.IsWritable ↔ b.IsWritable) (source dirname : Value) :
    StopAlike (write (Package.configOf a source dirname))
      (write (Package.configOf b source dirname)) := by
  have hname : StopAlike (dialectParts a).own (dialectParts b).own :=
    (stopAlike_quotedText h).map fun _ _ _ => trivial
  have hown := Parts.stopAlike_append_left (entryParts "" "url" source)
    (Parts.stopAlike_append_right
      (partsOf "" (if dirname.isGiven then [("dirname", dirname)] else [])) hname)
  rw [write, write, partsOf_configOf, partsOf_configOf]
  -- the sections are the same in both, for the line with the name has none
  exact (Parts.stopAlike_ownLines hown).bind fun _ _ _ =>
    .foldlM (fun s t x _ => stopAlike_addSection s t x) _ trivial

end Toml

namespace Package

variable {a b : Settings}

/-- Both dialects have a configuration file, or neither has. -/
theorem inStep_configFiles {o : Origin}
    (h : o.source.isGiven = true → (a.IsWritable ↔ b.IsWritable)) :
    InStep (List.Forall₂ fun f g : Source.File => f.name = configFile ∧ g.name = configFile)
      (configFiles a o) (configFiles b o) := by
  unfold configFiles
  cases hs : o.source.isGiven with
  | false => exact .go .nil
  | true =>
    exact (Toml.stopAlike_write (h hs) o.source o.dirname).bind fun _ _ _ =>
      .go (.cons ⟨rfl, rfl⟩ .nil)

/-! ## 8. The support file -/

/-- Line of the support file that tells whether PATCH is supported. -/
def patchLine (s : Settings) : String :=
  "SUPPORTS_PATCH = " ++ (if s.supportsPatch then "True" else "False")

/-- Constants of a client but for the line on PATCH. -/
def otherConstants (s : Settings) (service : Service) : String :=
  unlines
    ["logger = logging.getLogger(__name__)",
     "",
     "BASE_URL: Optional[str] = " ++ (service.baseUrl.map quoted).getD "None",
     "DEFAULT_HEADERS: Dict[str, str] = "
       ++ dictLiteral (Table.ofEntries (service.headers.map fun h => (h.name, h.value))),
     "",
     "# HTTP метод -> метод aiohttp.ClientSession",
     "DISPATCH: Dict[str, str] = " ++ dictLiteral (s.dispatch.map fun e => (e.1.text, e.2))]

theorem expandTabs_patchLine (s : Settings) : expandTabs (patchLine s) = patchLine s := by
  unfold patchLine
  cases s.supportsPatch <;> decide

theorem text_supportFile (s : Settings) (service : Service) :
    (supportFile s service).text =
      expandTabs (Support.supportImports ++ "\n\n\n" ++
        (expandTabs (otherConstants s service ++ "\n" ++ patchLine s) ++ "\n\n\n" ++
          expandTabs Support.code)) ++ "\n" := by
  have himports : Support.supportImports ≠ "" := by decide
  have hmembers : join "\n\n\n" (byRank (supportFile s service).ranked) =
      expandTabs (otherConstants s service ++ "\n" ++ patchLine s) ++ "\n\n\n" ++
        expandTabs Support.code := by
    rfl
  have hfile : (supportFile s service).imports = [Support.supportImports] := rfl
  -- the imports are a long text, and no step below may look inside
  generalize Support.supportImports = imports at *
  rw [File.text, hmembers, hfile, unlines, join_singleton, Block.joinTexts,
    List.filter_eq_self.mpr (by simp [himports]), join_cons_cons, join_singleton]

/-- **The support file has one line for PATCH**, between lines that do not depend on the dialect. -/
theorem lines_supportFile (s : Settings) (service : Service) :
    ∃ before after, ∀ n p, lines (supportFile (s.inDialect n p) service).text =
      before ++ patchLine (s.inDialect n p) :: after := by
  refine ⟨lines (expandTabs
      (Support.supportImports ++ "\n\n\n" ++ expandTabs (otherConstants s service))),
    lines ("\n\n" ++ expandTabs (expandTabs Support.code) ++ "\n"), fun n p => ?_⟩
  have hplain : '\n' ∉ (patchLine (s.inDialect n p)).toList := by
    unfold patchLine
    cases (s.inDialect n p).supportsPatch <;> decide
  have hbreak : expandTabs "\n" = "\n" := by decide
  have hbreaks : expandTabs "\n\n\n" = "\n" ++ "\n\n" := by decide
  rw [← lines_append_line hplain, text_supportFile]
  have hother : otherConstants (s.inDialect n p) service = otherConstants s service := rfl
  simp only [hother, expandTabs_append, expandTabs_patchLine, hbreak, hbreaks, String.append_assoc]

/-! ## 9. Packages -/

/-- **Files agree in two dialects**: they have one name; unless they are the support file or the
    configuration they have one text, and support files differ in the line for PATCH only. -/
structure FilesAgree (a b : Settings) (f g : Source.File) : Prop where
  name : f.name = g.name
  text : f.name ≠ "common.py" → f.name ≠ configFile → f.text = g.text
  support : f.name = "common.py" → ∃ before after,
    lines f.text = before ++ patchLine a :: after ∧ lines g.text = before ++ patchLine b :: after

/-- **Packages agree in two dialects**: they have one name, and their files agree one by one. -/
structure PackagesAgree (a b : Settings) (p q : Source.Project) : Prop where
  name : p.name = q.name
  files : List.Forall₂ (FilesAgree a b) p.files q.files

theorem FilesAgree.refl {f : Source.File} (h : f.name ≠ "common.py") : FilesAgree a b f f :=
  ⟨rfl, fun _ _ => rfl, fun hf => absurd hf h⟩

theorem FilesAgree.of_config {f g : Source.File} (hf : f.name = configFile)
    (hg : g.name = configFile) : FilesAgree a b f g := by
  refine ⟨hf.trans hg.symm, fun _ h => absurd hf h, fun h => ?_⟩
  rw [hf] at h
  exact absurd h (by decide)

theorem filesAgree_supportFile (s : Settings) (name : String) (patch : Bool) (service : Service) :
    FilesAgree s (s.inDialect name patch) (supportFile s service)
      (supportFile (s.inDialect name patch) service) := by
  obtain ⟨before, after, h⟩ := lines_supportFile s service
  exact ⟨rfl, fun hn => absurd rfl hn,
    fun _ => ⟨before, after, h s.name s.supportsPatch, h name patch⟩⟩

/-- **Generation goes in step in two dialects**, up to packages that agree. -/
theorem inStep_generate (r : Registry) (name : String) (patch : Bool) (s : Service) (o : Origin)
    (h : o.source.isGiven = true →
      (r.settings.IsWritable ↔ (r.settings.inDialect name patch).IsWritable)) :
    InStep (PackagesAgree r.settings (r.settings.inDialect name patch)) (generate r s o).outcome
      (generate (r.inDialect name patch) s o).outcome := by
  simp only [generate, Traced.outcome_bind, modelsFile_inDialect, errorsFile_inDialect,
    outcome_interfacesFile_inDialect, outcome_clientFile_inDialect, routesFile_inDialect]
  refine .bind_same fun _ _ => .bind (inStep_configFiles h) fun config config' hconfig => ?_
  refine .bind_same fun models hmodels => .bind_same fun errors herrors => ?_
  refine .bind_same fun interfaces hinterfaces => .bind_same fun client hclient => ?_
  refine .bind_same fun routes hroutes => .go ⟨rfl, ?_⟩
  have hmodels := name_modelsFile (mapError_eq_ok.mp hmodels)
  have herrors := (names_of_errorsFile (mapError_eq_ok.mp herrors)).1
  have hinterfaces := (names_of_interfacesFile hinterfaces).1
  have hclient := (names_of_clientFile hclient).1
  have hroutes := name_routesFile (mapError_eq_ok.mp hroutes)
  refine .cons (filesAgree_supportFile _ name patch s) (List.rel_append ?_ ?_)
  · exact hconfig.imp fun f g hfg => .of_config hfg.1 hfg.2
  · refine List.forall₂_same.mpr fun f hf => .refl ?_
    simp only [List.mem_cons, List.not_mem_nil, or_false] at hf
    rcases hf with rfl | rfl | rfl | rfl | rfl | rfl
    · rw [hmodels]; decide
    · rw [herrors]; decide
    · rw [hinterfaces]; decide
    · rw [hclient]; decide
    · rw [hroutes]; decide
    · decide

/-- **A dialect changes only what it declares**: a service is refused for the same fault in both
    dialects, or it has a package in both, and the packages agree. Where the source is known, the
    configuration must have room for both names or for neither. -/
theorem ofService_dialects_agree (s : Service) (o : Origin) (h : a.DifferInDialect b)
    (hw : o.source.isGiven = true → (a.IsWritable ↔ b.IsWritable)) :
    InStep (PackagesAgree a b) (ofService s a o).outcome (ofService s b o).outcome := by
  obtain ⟨name, patch, rfl⟩ : ∃ name patch, b = a.inDialect name patch := ⟨_, _, h⟩
  rw [ofService, ofService, Registry.ofService_inDialect]
  cases hr : Registry.ofService s a with
  | error f => exact .stop _
  | ok r =>
    have hsettings : r.settings = a := (Registry.ofService_eq_ok.mp hr).settings_eq
    subst hsettings
    exact inStep_generate r name patch s o hw

/-- Service with an operation that one dialect supports and the other warns of. -/
def patched : Service :=
  { name := "api"
    resources := [{ type := "page", plural := "pages", operations :=
      [{ verb := .patch, path := "/pages/:id", body := some "string"
         responses := [⟨200, "string", false⟩, ⟨422, "[string]", false⟩] }] }] }

/-- The two dialects that there are, for a service whose source is known. -/
theorem ofService_dialects_agree_patched :
    Dialect.aiohttp.DifferInDialect Dialect.aiohttpCompat ∧
    Dialect.aiohttp.IsWritable ∧ Dialect.aiohttpCompat.IsWritable ∧
    (∃ p, (ofService patched Dialect.aiohttp { source := .text "api.json" }).outcome = .ok p) ∧
    (ofService patched Dialect.aiohttp { source := .text "api.json" }).warnings = [] ∧
    (ofService patched Dialect.aiohttpCompat { source := .text "api.json" }).warnings ≠ [] ∧
    InStep (PackagesAgree Dialect.aiohttp Dialect.aiohttpCompat)
      (ofService patched Dialect.aiohttp { source := .text "api.json" }).outcome
      (ofService patched Dialect.aiohttpCompat { source := .text "api.json" }).outcome := by
  have hfull : Dialect.aiohttp.IsWritable := ⟨_, rfl⟩
  have hcompat : Dialect.aiohttpCompat.IsWritable := ⟨_, rfl⟩
  refine ⟨rfl, hfull, hcompat, ⟨_, rfl⟩, by decide, by decide, ?_⟩
  exact ofService_dialects_agree patched { source := .text "api.json" } rfl
    fun _ => ⟨fun _ => hcompat, fun _ => hfull⟩

/-- A dialect whose name no configuration can hold stops a run that succeeds in another. -/
theorem exists_dialects_disagree :
    Dialect.aiohttp.DifferInDialect { name := "\u0001" } ∧
    (∃ p, (ofService { name := "api" } Dialect.aiohttp { source := .text "x" }).outcome = .ok p) ∧
    (ofService { name := "api" } { name := "\u0001" } { source := .text "x" }).outcome =
      .error .outOfRange ∧
    ¬ InStep (PackagesAgree Dialect.aiohttp { name := "\u0001" })
      (ofService { name := "api" } Dialect.aiohttp { source := .text "x" }).outcome
      (ofService { name := "api" } { name := "\u0001" } { source := .text "x" }).outcome := by
  obtain ⟨p, hp⟩ : ∃ p,
      (ofService { name := "api" } Dialect.aiohttp { source := .text "x" }).outcome = .ok p := ⟨_, rfl⟩
  have hstop : (ofService { name := "api" } { name := "\u0001" } { source := .text "x" }).outcome =
      .error .outOfRange := rfl
  refine ⟨rfl, ⟨p, hp⟩, hstop, fun h => ?_⟩
  rw [hp, hstop] at h
  cases h

end Package

end ClientGen
