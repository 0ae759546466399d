import ClientGen.Proofs.ErrorTypes
import ClientGen.Proofs.Identifiers
import ClientGen.Proofs.WireNames

/-!
# Names of classes in a package

Classes and aliases are named after declared types, error bodies and resources, in Pascal case. Such
a name is compared with others of its kind and with nothing else: it need not be one that can be
declared, and it may be one that its module imports. This file fixes

* `Capitalises`, `isLegal_pascalCase_iff`, `isLegal_pascalCase_append_iff`: the names that give a
  legal class, alone or with an ending;
* `TypeRef.leadsWithDigit_errorVariable`: an error class leads as the type inside does;
* `Text.importedNames`: the names that the imports of a module bind;
* `Package.DefinesNames`, `ofService_definesNames`: the names that the modules of a package define;
* `ofService_hidden_iff`: the imports that they hide;
* `ofService_legal_iff`: where they are legal, module by module and all together.
-/

namespace ClientGen

open ClientGen.Text

/-! ## 1. Names that give a legal class -/

/-- Words that can never be a name and start with a capital. -/
def capitalKeywords : List String := ["False", "None", "True"]

/-- **A name capitalises** to one that a class may have: its first letter or digit of ASCII is a
    letter, and no word that can never be a name comes out. -/
def Capitalises (name : String) : Prop :=
  (lead? name).any Char.isAlpha = true ∧ pascalCase name ∉ capitalKeywords

instance (name : String) : Decidable (Capitalises name) := inferInstanceAs (Decidable (_ ∧ _))

theorem isAlpha_head?_pascalCase (name : String) :
    (pascalCase name).toList.head?.any Char.isAlpha = (lead? name).any Char.isAlpha := by
  rw [head?_pascalCase]
  cases h : lead? name with
  | none => rfl
  | some c => exact isAlpha_toUpper (List.find?_some h)

/-- Of some names, a class can have those that do not start with a small letter. -/
theorem mem_pascalCase_iff {names capitals : List String} (hback : ∀ n ∈ capitals, n ∈ names)
    (hsorts : ∀ n ∈ names, n ∈ capitals ∨ n.toList.head?.any (·.isLower) = true) (name : String) :
    pascalCase name ∈ names ↔ pascalCase name ∈ capitals := by
  refine ⟨fun h => (hsorts _ h).resolve_right fun hl => ?_, hback _⟩
  exact Registry.localClass_ne name hl rfl

/-- **Names that give a legal class** are those that capitalise. -/
theorem isLegal_pascalCase_iff (name : String) : IsLegal (pascalCase name) ↔ Capitalises name := by
  have hcapitals : ∀ k ∈ capitalKeywords, k ∈ hardKeywords := by decide
  rw [isLegal_iff_of_isAlphanum fun _ => isAlphanum_of_mem_pascalCase, isAlpha_head?_pascalCase,
    mem_pascalCase_iff hcapitals (by decide)]
  rfl

/-- With an ending that no such word has, a name gives a legal class unless it leads with a digit. -/
theorem isLegal_pascalCase_append_iff {ending : String} (hchars : ending.toList.all Char.isAlphanum = true)
    (hhead : ending.toList.head?.any Char.isAlpha = true)
    (hfree : ∀ k ∈ hardKeywords, ¬ ending.toList <:+ k.toList) (name : String) :
    IsLegal (pascalCase name ++ ending) ↔ leadsWithDigit name = false := by
  have halnum : ∀ c ∈ (pascalCase name ++ ending).toList, c.isAlphanum = true := by
    intro c hc
    rw [String.toList_append] at hc
    rcases List.mem_append.mp hc with hc | hc
    · exact isAlphanum_of_mem_pascalCase hc
    · exact List.all_eq_true.mp hchars c hc
  have hkeyword : pascalCase name ++ ending ∉ hardKeywords := fun hm =>
    hfree _ hm (by rw [String.toList_append]; exact List.suffix_append _ _)
  rw [isLegal_iff_of_isAlphanum halnum, and_iff_left hkeyword, String.toList_append, List.head?_append,
    head?_pascalCase, leadsWithDigit]
  cases h : lead? name with
  | none => simpa using hhead
  | some c =>
    have hc := List.find?_some h
    have hsort : c.toUpper.isAlpha = true ↔ c.isDigit = false := by
      rw [isAlpha_toUpper hc, isDigit_eq_false_iff hc]
    exact hsort

/-- A name that capitalises does not lead with a digit. -/
theorem Capitalises.leadsWithDigit_eq_false {name : String} (h : Capitalises name) :
    leadsWithDigit name = false := by
  have hletter := h.1
  rw [leadsWithDigit]
  cases hl : lead? name with
  | none => rfl
  | some c =>
    rw [hl] at hletter
    exact (isDigit_eq_false_iff (List.find?_some hl)).mpr hletter

/-! ## 2. Classes of errors -/

namespace TypeRef

/-- **The name of an error body** leads with a digit where the type inside does. -/
theorem leadsWithDigit_errorVariable (ref : TypeRef) :
    leadsWithDigit ref.errorVariable = leadsWithDigit ref.shortName := by
  have hmap : ∀ base : String, leadsWithDigit (base ++ "_map") = leadsWithDigit base := by
    intro base
    rw [leadsWithDigit, leadsWithDigit, lead?_append]
    cases lead? base <;> rfl
  unfold errorVariable
  dsimp only
  split
  · exact leadsWithDigit_pluralize _
  · rw [hmap, leadsWithDigit_snakeCase]
  · exact leadsWithDigit_snakeCase _

theorem isLegal_errorClass_iff (ref : TypeRef) :
    IsLegal ref.errorClass ↔ leadsWithDigit ref.shortName = false := by
  rw [errorClass, isLegal_pascalCase_append_iff (by decide) (by decide) (by decide),
    leadsWithDigit_errorVariable]

/-- The type inside a declared reference is declared, or a primitive, which leads with a letter. -/
theorem shortName_cases {r : Registry} {ref : TypeRef} (h : r.Declared ref) :
    (∃ d ∈ r.entries, d.1 = ref.shortName) ∨ leadsWithDigit ref.shortName = false := by
  induction ref with
  | primitive p => exact Or.inr (by cases p <;> decide)
  | named kind name => exact Or.inl ⟨_, h, rfl⟩
  | list of ih => exact ih h
  | map of ih => exact ih h
  | option of ih => exact ih h

end TypeRef

/-! ## 3. Names that imports bind -/

namespace Text

/-- Names behind the word that starts a list of imports; a line without the word goes on with one. -/
def behindImport (names : List String) : List String :=
  match names.dropWhile (· ≠ "import") with
  | [] => names
  | _ :: behind => behind

/-- **Names that imports bind**, line by line. -/
def importedNames (imports : String) : List String :=
  (lines imports).flatMap fun l => behindImport (namesIn l)

end Text

/-- Names that the imports of a file bind. -/
def Source.File.importedNames (f : Source.File) : List String := f.imports.flatMap Text.importedNames

namespace Support

/-- Classes and type constructors that the models file imports. -/
def modelTypes : List String :=
  ["Enum", "Annotated", "Any", "Dict", "List", "Optional", "Union", "BaseModel", "ConfigDict", "Field",
   "PlainSerializer", "PlainValidator", "TypeAdapter", "ValidationError"]

/-- Type constructors that the file of interfaces imports. -/
def interfaceTypes : List String := ["Any", "Dict", "List", "Optional", "Union"]

theorem importedNames_modelImports :
    importedNames modelImports = ["annotations", "datetime", "decimal", "uuid"] ++ modelTypes := by
  rw [importedNames, modelImports, lines_unlines (List.cons_ne_nil _ _) (by decide)]
  decide

theorem importedNames_interfaceImports :
    importedNames interfaceImports = ["abc", "datetime", "decimal", "uuid"] ++ interfaceTypes ++ ["models"] := by
  rw [importedNames, interfaceImports, lines_unlines (List.cons_ne_nil _ _) (by decide)]
  decide

end Support

/-! ## 4. Names that a package defines -/

namespace Package

variable {r : Registry} {s : Service} {settings : Settings} {o : Origin}

/-- **Names that the modules of a package define**: those of their classes, and in the models module
    those of the aliases behind the codecs `cs`. -/
structure DefinesNames (r : Registry) (s : Service) (p : Source.Project)
    (models errors interfaces client : Source.File) (cs : List UnionCodec) : Prop where
  files : p.getFile? "models.py" = some models ∧ p.getFile? "errors.py" = some errors ∧
    p.getFile? "interfaces.py" = some interfaces ∧ p.getFile? "client.py" = some client
  imports : models.imports = [Support.modelImports] ∧ interfaces.imports = [Support.interfaceImports]
  /-- The models module has the declared types. -/
  declared : DefinesTypes r s models cs
  /-- The errors module has two fixed classes, and one for each reference that an error body has. -/
  bodies : ∃ refs : List TypeRef, Table.names errors.classes =
      "FailedRequest" :: "InvalidJson" :: refs.map (·.errorClass) ∧
    ∀ ref, ref ∈ refs ↔ ∃ a ∈ ErrorType.bodies s, r.parse a.type = .ok ref
  /-- The module of interfaces has one class for each resource. -/
  traits : Table.names interfaces.classes = s.sortedResources.map ClientMethod.traitName
  /-- The client module has one class for each resource, and the client's. -/
  objects : Table.names client.classes = s.sortedResources.map ClientMethod.objectName ++ ["ApiClient"]

theorem imports_modelsFile {f : Source.File} (h : modelsFile r s = .ok f) :
    f.imports = [Support.modelImports] := by
  obtain ⟨_, _, _, _, _, _, rfl⟩ := exists_of_modelsFile h
  rw [Source.File.foldl_addClass]

theorem classNames_errorsFile {f : Source.File} (h : errorsFile r s = .ok f) : ∃ refs : List TypeRef,
    Table.names f.classes = "FailedRequest" :: "InvalidJson" :: refs.map (·.errorClass) ∧
      ∀ ref, ref ∈ refs ↔ ∃ a ∈ ErrorType.bodies s, r.parse a.type = .ok ref := by
  obtain ⟨cs, hcs, h⟩ := bind_eq_ok.mp h
  rw [pure_eq_ok] at h
  subst h
  obtain ⟨types, htypes, rfl⟩ := ErrorType.classes_eq_ok.mp hcs
  have hclasses : (types.map fun d => ErrorType.classOf r d.1 d.2).map (·.name) = types.map Prod.fst :=
    List.map_map
  have hkeys : types.map Prod.fst = (types.map Prod.snd).map (·.errorClass) := by
    rw [List.map_map]
    exact List.map_congr_left fun d hd => ErrorType.name_of_mem htypes hd
  refine ⟨types.map Prod.snd, ?_, fun ref => ?_⟩
  · rw [Source.File.names_foldl_addClass rfl, List.map_cons, List.map_cons, hclasses, hkeys]
    · rfl
    · rw [List.map_cons, List.map_cons, hclasses]
      exact ErrorType.nodup_names htypes
  · rw [List.mem_map]
    constructor
    · rintro ⟨d, hd, rfl⟩
      exact ((ErrorType.mem_iff_of_all htypes).mp hd).2
    · rintro ⟨a, ha, href⟩
      exact ⟨_, ErrorType.exists_class htypes ha href, rfl⟩

theorem classNames_interfacesFile (hd : (s.resources.map ClientMethod.traitName).Nodup)
    {f : Source.File} (h : (interfacesFile r s).outcome = .ok f) :
    Table.names f.classes = s.sortedResources.map ClientMethod.traitName ∧
      f.imports = [Support.interfaceImports] := by
  obtain ⟨cs, hcs, h⟩ := Traced.outcome_bind_eq_ok.mp h
  rw [Traced.outcome_pure_eq_ok] at h
  subst h
  have hnames : s.sortedResources.map ClientMethod.traitName = cs.map (·.name) :=
    map_eq_of_forall₂ (ClientMethod.outcome_mapM_classes.mp hcs) fun x c hc => by
      obtain ⟨ms, _, rfl⟩ := hc
      rfl
  have hnodup : (cs.map (·.name)).Nodup := by
    rw [← hnames]
    exact ((sortBy_perm _ s.resources).map _).nodup_iff.mpr hd
  rw [Source.File.names_foldl_addClass rfl hnodup, hnames, Source.File.foldl_addClass]
  exact ⟨rfl, rfl⟩

theorem classNames_clientFile (hd : (s.resources.map ClientMethod.traitName).Nodup) {f : Source.File}
    (h : (clientFile r s).outcome = .ok f) :
    Table.names f.classes = s.sortedResources.map ClientMethod.objectName ++ ["ApiClient"] := by
  obtain ⟨objects, hobjects, h⟩ := Traced.outcome_bind_eq_ok.mp h
  rw [Traced.outcome_pure_eq_ok, ← clientClasses] at h
  subst h
  have hobjects := ClientMethod.outcome_mapM_classes.mp hobjects
  rw [Source.File.names_foldl_addClass rfl (nodup_clientClasses hobjects hd),
    names_clientClasses hobjects]

theorem ofService_definesNames {p : Source.Project} (h : (ofService s settings o).outcome = .ok p) :
    ∃ r models errors interfaces client cs, Registry.ofService s settings = .ok r ∧
      DefinesNames r s p models errors interfaces client cs := by
  obtain ⟨r, hr, h⟩ := exists_generate_of_ofService h
  obtain ⟨config, models, errors, interfaces, client, routes, hp⟩ := assembledFrom_of_generate h
  have hdecl := Registry.ofService_eq_ok.mp hr
  have hd := nodup_traitNames_of_generate h
  obtain ⟨cs, hmodels⟩ := definesTypes_of_modelsFile hdecl hp.modelsMade
  obtain ⟨htraits, himports⟩ := classNames_interfacesFile hd hp.interfacesMade
  exact ⟨r, models, errors, interfaces, client, cs, hr, hp.getFile?_modules,
    ⟨imports_modelsFile hp.modelsMade, himports⟩, hmodels, classNames_errorsFile hp.errorsMade, htraits,
    classNames_clientFile hd hp.clientMade⟩

namespace DefinesNames

variable {p : Source.Project} {models errors interfaces client : Source.File} {cs : List UnionCodec}

theorem mem_declared (h : DefinesNames r s p models errors interfaces client cs) {n : String} :
    n ∈ Table.names models.classes ++ cs.map (·.className) ↔
      ∃ d ∈ Registry.declarations s, pascalCase d.1 = n := by
  rw [h.declared.defined, List.mem_map]
  rfl

theorem mem_traits (h : DefinesNames r s p models errors interfaces client cs) {n : String} :
    n ∈ Table.names interfaces.classes ↔ ∃ x ∈ s.resources, pascalCase x.plural = n := by
  have hsorted : ∀ x, x ∈ s.sortedResources ↔ x ∈ s.resources := fun x =>
    (sortBy_perm _ s.resources).mem_iff
  rw [h.traits, List.mem_map]
  simp only [hsorted, ClientMethod.traitName]

end DefinesNames

/-! ## 5. Imports that are hidden -/

/-- **A file hides a name** that it imports: it has a class or an alias of that name. -/
def Hides (f : Source.File) (aliases : List String) (n : String) : Prop :=
  n ∈ f.importedNames ∧ n ∈ Table.names f.classes ++ aliases

/-- **Imports that a package hides**: of the models module those of its types that a declared name
    gives in Pascal case, of the module of interfaces those of its types that a plural gives. No
    module that is imported is ever hidden. -/
theorem ofService_hidden_iff {p : Source.Project} (h : (ofService s settings o).outcome = .ok p) :
    ∃ r models errors interfaces client cs, Registry.ofService s settings = .ok r ∧
      DefinesNames r s p models errors interfaces client cs ∧
      (∀ n, Hides models (cs.map (·.className)) n ↔
        n ∈ Support.modelTypes ∧ ∃ d ∈ Registry.declarations s, pascalCase d.1 = n) ∧
      ∀ n, Hides interfaces [] n ↔
        n ∈ Support.interfaceTypes ∧ ∃ x ∈ s.resources, pascalCase x.plural = n := by
  obtain ⟨r, models, errors, interfaces, client, cs, hr, hn⟩ := ofService_definesNames h
  have hmodels : models.importedNames = ["annotations", "datetime", "decimal", "uuid"] ++
      Support.modelTypes := by
    rw [Source.File.importedNames, hn.imports.1, List.flatMap_singleton, Support.importedNames_modelImports]
  have hinterfaces : interfaces.importedNames = ["abc", "datetime", "decimal", "uuid"] ++
      Support.interfaceTypes ++ ["models"] := by
    rw [Source.File.importedNames, hn.imports.2, List.flatMap_singleton,
      Support.importedNames_interfaceImports]
  refine ⟨r, models, errors, interfaces, client, cs, hr, hn, fun n => ?_, fun n => ?_⟩
  · rw [Hides, hn.mem_declared, hmodels]
    refine and_congr_left ?_
    rintro ⟨d, _, rfl⟩
    exact mem_pascalCase_iff (by decide) (by decide) d.1
  · rw [Hides, List.append_nil, hn.mem_traits, hinterfaces]
    refine and_congr_left ?_
    rintro ⟨x, _, rfl⟩
    exact mem_pascalCase_iff (by decide) (by decide) x.plural

/-- Service with a model and a resource of given names, and a model with an aliased field. -/
def naming (model plural : String) : Service :=
  { name := "api"
    models := [{ name := model },
      { name := "user", fields := [{ name := "userName", type := "string" }] }]
    resources := [{ type := "user", plural }] }

/-- A model named like a module hides nothing, a plural named like a type constructor hides that. -/
theorem ofService_hidden_iff_any : ∃ p r models errors interfaces client cs,
    (ofService (naming "datetime" "any") Dialect.aiohttp {}).outcome = .ok p ∧
    DefinesNames r (naming "datetime" "any") p models errors interfaces client cs ∧
    (∀ n, ¬ Hides models (cs.map (·.className)) n) ∧ ∀ n, Hides interfaces [] n ↔ n = "Any" := by
  have h : ∃ p, (ofService (naming "datetime" "any") Dialect.aiohttp {}).outcome = .ok p := ⟨_, rfl⟩
  obtain ⟨p, hp⟩ := h
  obtain ⟨r, models, errors, interfaces, client, cs, _, hn, hmodels, hinterfaces⟩ :=
    ofService_hidden_iff hp
  refine ⟨p, r, models, errors, interfaces, client, cs, hp, hn, fun n hh => ?_, fun n => ?_⟩
  · obtain ⟨ht, hd⟩ := (hmodels n).mp hh
    have hnone : ∀ n ∈ Support.modelTypes,
        ¬ ∃ d ∈ Registry.declarations (naming "datetime" "any"), pascalCase d.1 = n := by decide
    exact hnone n ht hd
  · rw [hinterfaces]
    constructor
    · rintro ⟨_, x, hx, rfl⟩
      rw [List.mem_singleton.mp hx]
      rfl
    · rintro rfl
      exact ⟨by decide, _, List.mem_singleton_self _, rfl⟩

/-- The class of a model hides the function that gives fields their aliases. -/
theorem exists_hidden : ∃ p models,
    (ofService (naming "field" "items") Dialect.aiohttp {}).outcome = .ok p ∧
    p.getFile? "models.py" = some models ∧ Hides models [] "Field" := by
  refine ⟨_, _, rfl, rfl, ?_, by decide⟩
  have himports : "Field" ∈ importedNames Support.modelImports := by
    rw [Support.importedNames_modelImports]
    decide
  exact List.mem_flatMap.mpr ⟨_, List.mem_singleton_self _, himports⟩

/-! ## 6. Legal names -/

namespace DefinesNames

variable {p : Source.Project} {models errors interfaces client : Source.File} {cs : List UnionCodec}

theorem legal_declared_iff (h : DefinesNames r s p models errors interfaces client cs) :
    (∀ n ∈ Table.names models.classes ++ cs.map (·.className), IsLegal n) ↔
      ∀ d ∈ Registry.declarations s, Capitalises d.1 := by
  simp only [h.mem_declared, forall_exists_index, and_imp, forall_apply_eq_imp_iff₂,
    isLegal_pascalCase_iff]

theorem legal_traits_iff (h : DefinesNames r s p models errors interfaces client cs) :
    (∀ n ∈ Table.names interfaces.classes, IsLegal n) ↔ ∀ x ∈ s.resources, Capitalises x.plural := by
  simp only [h.mem_traits, forall_exists_index, and_imp, forall_apply_eq_imp_iff₂,
    isLegal_pascalCase_iff]

theorem legal_bodies_iff (h : DefinesNames r s p models errors interfaces client cs) :
    (∀ n ∈ Table.names errors.classes, IsLegal n) ↔ ∀ a ∈ ErrorType.bodies s, ∀ ref,
      r.parse a.type = .ok ref → leadsWithDigit ref.shortName = false := by
  obtain ⟨refs, hnames, hrefs⟩ := h.bodies
  have hfailed : IsLegal "FailedRequest" := ⟨by decide, by decide⟩
  have hinvalid : IsLegal "InvalidJson" := ⟨by decide, by decide⟩
  rw [hnames, List.forall_mem_cons, List.forall_mem_cons, List.forall_mem_map]
  simp only [hfailed, hinvalid, true_and, hrefs, TypeRef.isLegal_errorClass_iff, forall_exists_index,
    and_imp]
  exact ⟨fun h a ha ref href => h ref a ha href, fun h ref a ha href => h a ha ref href⟩

theorem isLegal_objectName_iff (x : Resource) :
    IsLegal (ClientMethod.objectName x) ↔ leadsWithDigit x.plural = false :=
  isLegal_pascalCase_append_iff (by decide) (by decide) (by decide) x.plural

theorem legal_objects_iff (h : DefinesNames r s p models errors interfaces client cs) :
    (∀ n ∈ Table.names client.classes, IsLegal n) ↔ ∀ x ∈ s.resources, leadsWithDigit x.plural = false := by
  have hclient : IsLegal "ApiClient" := ⟨by decide, by decide⟩
  rw [h.objects, List.forall_mem_append, List.forall_mem_singleton, and_iff_left hclient,
    List.forall_mem_map]
  simp only [isLegal_objectName_iff]
  exact forall_congr' fun x => imp_congr_left (sortBy_perm _ s.resources).mem_iff

/-- All names are legal where declared names and plurals capitalise: the other ones are made from
    them, or from primitives, with an ending that no reserved word has. -/
theorem legal_all_iff (hr : Registry.DeclaredBy s settings r)
    (h : DefinesNames r s p models errors interfaces client cs) :
    (∀ n ∈ Table.names models.classes ++ cs.map (·.className) ++ Table.names errors.classes ++
        Table.names interfaces.classes ++ Table.names client.classes, IsLegal n) ↔
      (∀ d ∈ Registry.declarations s, Capitalises d.1) ∧ ∀ x ∈ s.resources, Capitalises x.plural := by
  rw [List.forall_mem_append, List.forall_mem_append, List.forall_mem_append, h.legal_declared_iff,
    h.legal_bodies_iff, h.legal_traits_iff, h.legal_objects_iff]
  constructor
  · exact fun ⟨⟨⟨hd, _⟩, hx⟩, _⟩ => ⟨hd, hx⟩
  · rintro ⟨hd, hx⟩
    refine ⟨⟨⟨hd, fun a _ ref href => ?_⟩, hx⟩, fun x hm => (hx x hm).leadsWithDigit_eq_false⟩
    rcases TypeRef.shortName_cases (Registry.declared_of_parse href) with ⟨d, hm, hname⟩ | hfalse
    · rw [hr.entries_eq] at hm
      exact hname ▸ (hd d hm).leadsWithDigit_eq_false
    · exact hfalse

end DefinesNames

/-- **Legal names of classes**: in the models module where every declared name capitalises, in the
    errors module where no error body's type leads with a digit, in the module of interfaces where
    every plural capitalises, in the client module where no plural leads with a digit; and in all of
    them where declared names and plurals capitalise. -/
theorem ofService_legal_iff {p : Source.Project} (h : (ofService s settings o).outcome = .ok p) :
    ∃ r models errors interfaces client cs, Registry.ofService s settings = .ok r ∧
      DefinesNames r s p models errors interfaces client cs ∧
      ((∀ n ∈ Table.names models.classes ++ cs.map (·.className), IsLegal n) ↔
        ∀ d ∈ Registry.declarations s, Capitalises d.1) ∧
      ((∀ n ∈ Table.names errors.classes, IsLegal n) ↔ ∀ a ∈ ErrorType.bodies s, ∀ ref,
        r.parse a.type = .ok ref → leadsWithDigit ref.shortName = false) ∧
      ((∀ n ∈ Table.names interfaces.classes, IsLegal n) ↔ ∀ x ∈ s.resources, Capitalises x.plural) ∧
      ((∀ n ∈ Table.names client.classes, IsLegal n) ↔
        ∀ x ∈ s.resources, leadsWithDigit x.plural = false) ∧
      ((∀ n ∈ Table.names models.classes ++ cs.map (·.className) ++ Table.names errors.classes ++
          Table.names interfaces.classes ++ Table.names client.classes, IsLegal n) ↔
        (∀ d ∈ Registry.declarations s, Capitalises d.1) ∧ ∀ x ∈ s.resources, Capitalises x.plural) := by
  obtain ⟨r, models, errors, interfaces, client, cs, hr, hn⟩ := ofService_definesNames h
  exact ⟨r, models, errors, interfaces, client, cs, hr, hn, hn.legal_declared_iff, hn.legal_bodies_iff,
    hn.legal_traits_iff, hn.legal_objects_iff, hn.legal_all_iff (Registry.ofService_eq_ok.mp hr)⟩

/-- A model named like a reserved word in small letters gives a legal class; a plural that leads with a
    digit gives none. -/
theorem ofService_legal_iff_class : ∃ p r models errors interfaces client cs,
    (ofService (naming "class" "3 items") Dialect.aiohttp {}).outcome = .ok p ∧
    DefinesNames r (naming "class" "3 items") p models errors interfaces client cs ∧
    (∀ n ∈ Table.names models.classes ++ cs.map (·.className), IsLegal n) ∧
    (∀ n ∈ Table.names errors.classes, IsLegal n) ∧
    ¬ ∀ n ∈ Table.names client.classes, IsLegal n := by
  have h : ∃ p, (ofService (naming "class" "3 items") Dialect.aiohttp {}).outcome = .ok p := ⟨_, rfl⟩
  obtain ⟨p, hp⟩ := h
  obtain ⟨r, models, errors, interfaces, client, cs, _, hn, hmodels, herrors, _, hclient, _⟩ :=
    ofService_legal_iff hp
  refine ⟨p, r, models, errors, interfaces, client, cs, hp, hn, hmodels.mpr (by decide), ?_, ?_⟩
  · exact herrors.mpr fun a ha => absurd ha List.not_mem_nil
  · rw [hclient]
    decide

/-- The class of a model is named as a word that can never be a name. -/
theorem exists_illegal : ∃ p models,
    (ofService (naming "none" "items") Dialect.aiohttp {}).outcome = .ok p ∧
    p.getFile? "models.py" = some models ∧
    ∃ c, Table.get? models.classes "None" = some c ∧ c.header = "class None(BaseModel):" ∧
      ¬ IsLegal "None" :=
  ⟨_, _, rfl, rfl, _, rfl, rfl, fun h => absurd h.isName (by decide)⟩

end Package

end ClientGen
