import ClientGen.Proofs.Declarations

/-!
# Services that are accepted

A registry is made of a service whose types can be told apart. This file fixes which services those
are, what the registry then holds, and that the order of the declarations has no part in it:

* `Service.Declarable`: names and classes of the declared types are distinct, and none is a primitive;
* `Service.Rearranged`: the same declarations in another order within enums, models and unions;
* `Registry.Registers`: a registry knows the declared types and no others, each by a class of its own;
* `Registry.ReadsAlike`: two registries read every notation and refer to every type in the same way;
* `Registry.ofService_accepts`: declarable services are the ones accepted, in any order with the same
  readings.
-/

namespace ClientGen

open ClientGen.Text

theorem Primitive.ofName?_eq_none_iff {name : String} :
    Primitive.ofName? name = none ↔ name ∉ Primitive.all.map Primitive.name :=
  find?_key_eq_none

/-! ## 1. Declarations of a service -/

namespace Service

variable {s t : Service}

/-- Names of the declared types. -/
def typeNames (s : Service) : List String :=
  s.enums.map (·.name) ++ s.models.map (·.name) ++ s.unions.map (·.name)

/-- Tells under which kind a name is declared. -/
def Declares (s : Service) (name : String) : NamedKind → Prop
  | .enum => ∃ e ∈ s.enums, e.name = name
  | .model => ∃ m ∈ s.models, m.name = name
  | .union => ∃ u ∈ s.unions, u.name = name

/-- **The declared types can be told apart**: by name from each other and from the primitives, and by
    class from each other. -/
structure Declarable (s : Service) : Prop where
  names : s.typeNames.Nodup
  notPrimitive : ∀ name ∈ s.typeNames, name ∉ Primitive.all.map Primitive.name
  classes : (s.typeNames.map pascalCase).Nodup

/-- **The same declarations in another order** within each section. -/
structure Rearranged (s t : Service) : Prop where
  enums : t.enums.Perm s.enums
  models : t.models.Perm s.models
  unions : t.unions.Perm s.unions

theorem Rearranged.perm_typeNames (h : s.Rearranged t) : t.typeNames.Perm s.typeNames :=
  ((h.enums.map _).append (h.models.map _)).append (h.unions.map _)

theorem Rearranged.perm_declarations (h : s.Rearranged t) :
    (Registry.declarations t).Perm (Registry.declarations s) :=
  ((h.enums.map _).append (h.models.map _)).append (h.unions.map _)

theorem Rearranged.symm (h : s.Rearranged t) : t.Rearranged s :=
  ⟨h.enums.symm, h.models.symm, h.unions.symm⟩

theorem Rearranged.declarable (h : s.Rearranged t) (hs : s.Declarable) : t.Declarable where
  names := h.perm_typeNames.nodup_iff.mpr hs.names
  notPrimitive name hn := hs.notPrimitive name (h.perm_typeNames.mem_iff.mp hn)
  classes := (h.perm_typeNames.map pascalCase).nodup_iff.mpr hs.classes

end Service

namespace Registry

variable {r r' : Registry} {s t : Service} {settings : Settings}

@[simp] theorem names_declarations (s : Service) : Table.names (declarations s) = s.typeNames := by
  simp only [Table.names, declarations, Service.typeNames, List.map_append, List.map_map,
    Function.comp_def]

theorem map_localClass_declarations (s : Service) :
    (declarations s).map (fun d => localClass d.1) = s.typeNames.map pascalCase := by
  rw [← names_declarations, Table.names, List.map_map]
  rfl

theorem mem_declarations_iff {name : String} {kind : NamedKind} :
    (name, kind) ∈ declarations s ↔ s.Declares name kind := by
  cases kind <;> simp [declarations, Service.Declares]

/-! ## 2. What is accepted -/

theorem DeclaredBy.declarable (h : DeclaredBy s settings r) : s.Declarable := by
  obtain ⟨_, _, he, hd, hp⟩ := h
  rw [he] at hp
  rw [he, map_localClass_declarations] at hd
  refine ⟨hd.of_map _, fun name hn => ?_, hd⟩
  rw [← names_declarations] at hn
  obtain ⟨d, hd, rfl⟩ := List.mem_map.mp hn
  exact Primitive.ofName?_eq_none_iff.mp (hp d hd)

theorem declaredBy_of_declarable (h : s.Declarable) (settings : Settings) :
    DeclaredBy s settings ⟨settings, s.enums, declarations s⟩ where
  settings_eq := rfl
  enums_eq := rfl
  entries_eq := rfl
  classes_nodup := by
    rw [map_localClass_declarations]
    exact h.classes
  not_primitive d hd := by
    have hn : d.1 ∈ s.typeNames := names_declarations s ▸ List.mem_map_of_mem hd
    exact Primitive.ofName?_eq_none_iff.mpr (h.notPrimitive d.1 hn)

/-- Exactly the declarable services have a registry. -/
theorem exists_ofService_iff : (∃ r, ofService s settings = .ok r) ↔ s.Declarable :=
  ⟨fun ⟨_, h⟩ => (ofService_eq_ok.mp h).declarable,
    fun h => ⟨_, ofService_eq_ok.mpr (declaredBy_of_declarable h settings)⟩⟩

/-! ## 3. What a registry holds -/

/-- **A registry knows the declared types**: it finds exactly the declared names, under the kinds they
    are declared with, and gives each a class of its own, inside the models module and outside. -/
structure Registers (s : Service) (r : Registry) : Prop where
  found : ∀ name kind, Table.get? r.entries name = some kind ↔ s.Declares name kind
  classes : ∀ qualified, ∀ a ∈ s.typeNames, ∀ b ∈ s.typeNames,
    r.className a qualified = r.className b qualified → a = b

/-- Classes are told apart by what stands after the namespace. -/
theorem localClass_eq_of_className_eq {a b : String} {qualified : Bool}
    (h : r.className a qualified = r.className b qualified) : localClass a = localClass b := by
  unfold className at h
  split at h
  · exact (String.append_right_inj _).mp h
  · exact h

theorem DeclaredBy.registers (h : DeclaredBy s settings r) : Registers s r where
  found name kind := by
    rw [← mem_declarations_iff, ← h.entries_eq]
    exact ⟨Table.mem_of_get?, Table.get?_of_mem h.nodup_names⟩
  classes qualified a ha b hb hab :=
    List.inj_on_of_nodup_map h.declarable.classes ha hb (localClass_eq_of_className_eq hab)

/-! ## 4. Declarations in another order -/

/-- **Two registries read alike**: a notation has the same reference, or the same fault, and a
    reference the same types, run-time class and literals. -/
structure ReadsAlike (r r' : Registry) : Prop where
  parse : ∀ t, r'.parse t = r.parse t
  className : ∀ name qualified, r'.className name qualified = r.className name qualified
  resolve : ∀ qualified ref, r'.resolve qualified ref = r.resolve qualified ref
  runtimeClass : ∀ qualified ref, r'.runtimeClass qualified ref = r.runtimeClass qualified ref
  defaultLiteral : ∀ raw qualified ref,
    r'.defaultLiteral raw qualified ref = r.defaultLiteral raw qualified ref

/-- Registries with the same settings that look up the same. -/
structure LooksUpAlike (r r' : Registry) : Prop where
  settings : r'.settings = r.settings
  entries : ∀ name, Table.get? r'.entries name = Table.get? r.entries name
  enums : ∀ name, r'.enums.find? (·.name = name) = r.enums.find? (·.name = name)

namespace LooksUpAlike

theorem className_eq (h : LooksUpAlike r r') (name : String) (qualified : Bool) :
    r'.className name qualified = r.className name qualified := by
  rw [className, className, h.settings]

theorem parseChars_eq (h : LooksUpAlike r r') (fuel : Nat) (cs : List Char) :
    r'.parseChars fuel cs = r.parseChars fuel cs := by
  induction fuel generalizing cs with
  | zero => rfl
  | succ fuel ih =>
    unfold parseChars
    simp only [ih, lookUp, h.entries]

theorem resolve_eq (h : LooksUpAlike r r') (qualified : Bool) (ref : TypeRef) :
    r'.resolve qualified ref = r.resolve qualified ref := by
  induction ref with
  | primitive p => rfl
  | named kind name => rw [resolve, resolve, h.className_eq]
  | list of ih => rw [resolve, resolve, ih]
  | map of ih => rw [resolve, resolve, ih]
  | option of ih => rw [resolve, resolve, ih]

theorem runtimeClass_eq (h : LooksUpAlike r r') (qualified : Bool) (ref : TypeRef) :
    r'.runtimeClass qualified ref = r.runtimeClass qualified ref := by
  cases ref with
  | named kind name => rw [runtimeClass, runtimeClass, h.className_eq]
  | _ => rfl

theorem enumLiteral_eq (h : LooksUpAlike r r') (name raw : String) (qualified : Bool) :
    r'.enumLiteral name raw qualified = r.enumLiteral name raw qualified := by
  simp only [enumLiteral, h.enums, h.className_eq]

theorem defaultLiteral_eq (h : LooksUpAlike r r') (raw : String) (qualified : Bool)
    (ref : TypeRef) : r'.defaultLiteral raw qualified ref = r.defaultLiteral raw qualified ref := by
  induction ref with
  | option of ih => exact ih
  | named kind name =>
    cases kind with
    | enum => simp only [defaultLiteral, h.enumLiteral_eq]
    | _ => rfl
  | _ => rfl

/-- What is read depends on what is looked up only. -/
theorem readsAlike (h : LooksUpAlike r r') : ReadsAlike r r' where
  parse _ := h.parseChars_eq _ _
  className := h.className_eq
  resolve := h.resolve_eq
  runtimeClass := h.runtimeClass_eq
  defaultLiteral := h.defaultLiteral_eq

end LooksUpAlike

theorem looksUpAlike_of_rearranged (h : s.Rearranged t) (hr : DeclaredBy s settings r)
    (hr' : DeclaredBy t settings r') : LooksUpAlike r r' where
  settings := hr'.settings_eq.trans hr.settings_eq.symm
  entries name := by
    refine Table.get?_of_perm ?_ hr.nodup_names name
    rw [hr.entries_eq, hr'.entries_eq]
    exact h.perm_declarations
  enums name := by
    rw [hr.enums_eq, hr'.enums_eq]
    exact find?_key_of_perm h.enums hr.nodup_enumNames name

/-- **A service is accepted exactly when its types can be told apart**: then the registry knows the
    declared types and no others, and wherever the declarations stand within their sections, another
    registry is made that reads alike. -/
theorem ofService_accepts (s : Service) (settings : Settings) :
    ((∃ r, ofService s settings = .ok r) ↔ s.Declarable) ∧
      (∀ r, ofService s settings = .ok r → Registers s r) ∧
      ∀ t, s.Rearranged t →
        ((∃ r, ofService t settings = .ok r) ↔ ∃ r, ofService s settings = .ok r) ∧
          ∀ r r', ofService s settings = .ok r → ofService t settings = .ok r' →
            ReadsAlike r r' := by
  refine ⟨exists_ofService_iff, fun r hr => (ofService_eq_ok.mp hr).registers, fun t ht => ⟨?_, ?_⟩⟩
  · rw [exists_ofService_iff, exists_ofService_iff]
    exact ⟨ht.symm.declarable, ht.declarable⟩
  · exact fun r r' hr hr' => (looksUpAlike_of_rearranged ht (ofService_eq_ok.mp hr)
      (ofService_eq_ok.mp hr')).readsAlike

/-- Service that declares an enum, models of the names given and a union. -/
def declaringModels (names : List String) : Service :=
  { name := "api"
    enums := [⟨"status", [⟨"on", none⟩], none⟩]
    models := names.map fun name => ⟨name, [], none⟩
    unions := [⟨"owner", ["user"], none⟩] }

theorem rearranged_declaringModels : (declaringModels ["user", "user_group"]).Rearranged
    (declaringModels ["user_group", "user"]) :=
  ⟨.refl _, by decide, .refl _⟩

set_option maxRecDepth 4000 in
/-- Two models change places, which leaves every reading as it was; two names of one class are
    refused. -/
theorem ofService_accepts_models :
    (∃ r r', ofService (declaringModels ["user", "user_group"]) Dialect.aiohttp = .ok r ∧
        ofService (declaringModels ["user_group", "user"]) Dialect.aiohttp = .ok r' ∧
        r.entries ≠ r'.entries ∧ Registers (declaringModels ["user", "user_group"]) r ∧
        ReadsAlike r r') ∧
      ¬ ∃ r, ofService (declaringModels ["user", "User"]) Dialect.aiohttp = .ok r := by
  obtain ⟨_, hr, hsame⟩ := ofService_accepts (declaringModels ["user", "user_group"]) Dialect.aiohttp
  constructor
  · exact ⟨_, _, rfl, rfl, by decide, hr _ rfl,
      (hsame _ rearranged_declaringModels).2 _ _ rfl rfl⟩
  · rw [(ofService_accepts _ _).1]
    exact fun h => absurd h.classes (by decide)

end Registry

end ClientGen
