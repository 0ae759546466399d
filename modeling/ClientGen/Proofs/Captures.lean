import ClientGen.Proofs.Identifiers
import ClientGen.Proofs.PathText
import ClientGen.Proofs.ReturnType

/-!
# Names that arguments capture

The body of a method refers to its arguments by name, and by name to modules, to variables of its
own and to the types of what it writes and reads. An argument of the same name takes the place of
what is meant. This file fixes

* `OutOfReach`, `not_outOfReach_argumentName`: names that no argument has, since they are kept clear
  of or have a capital;
* `TypeRef.builtins`, `mem_namesIn_typeOf_iff`: the names of a type that are within reach are those
  of built-in classes;
* `ClientMethod.freeNames`, `ClientMethod.Captures`: the names that a body refers to besides its
  arguments, and those that an argument captures;
* `ClientMethod.captures_iff`: an argument captures the names of built-in classes whose values its
  method writes or reads, and nothing else.
-/

namespace ClientGen

open ClientGen.Text

/-! ## 1. Names of arguments -/

/-- No argument has a name that is kept clear of. -/
theorem argumentName_not_mem (name : String) : argumentName name ∉ reservedNames := by
  have ends : ∀ n ∈ reservedNames, n.toList.getLast? ≠ some '_' := by decide
  exact avoiding_not_mem ends (safeName (snakeCase name))

theorem not_isUpper_of_mem_argumentName {name : String} {c : Char}
    (h : c ∈ (argumentName name).toList) : c.isUpper = false := by
  rcases (padded_argumentName name).eq_or_mem h with rfl | h
  · rfl
  · exact not_isUpper_of_mem_snakeCase h

/-- **A name out of reach** of arguments: it is kept clear of, or has a capital. -/
def OutOfReach (n : String) : Prop := n ∈ reservedNames ∨ n.toList.any Char.isUpper = true

instance (n : String) : Decidable (OutOfReach n) := inferInstanceAs (Decidable (_ ∨ _))

theorem not_outOfReach_argumentName (name : String) : ¬ OutOfReach (argumentName name) := by
  rintro (h | h)
  · exact argumentName_not_mem name h
  · obtain ⟨c, hc, hu⟩ := List.any_eq_true.mp h
    rw [not_isUpper_of_mem_argumentName hc] at hu
    cases hu

/-! ## 2. Names of types -/

/-- Classes that generated code has without importing them, as far as types are made of them. -/
def builtinNames : List String := ["str", "int", "float", "bool"]

/-- Built-in class in the type of a primitive. -/
def Primitive.builtin? : Primitive → Option String
  | .string | .object => some "str"
  | .integer | .long => some "int"
  | .double => some "float"
  | .boolean => some "bool"
  | .decimal | .uuid | .date | .dateTime | .unit => none

namespace Primitive

theorem mem_of_builtin? {p : Primitive} {n : String} (h : p.builtin? = some n) :
    n ∈ namesIn p.type.text ∧ n ∈ builtinNames := by
  have hall : ∀ n ∈ p.builtin?, n ∈ namesIn p.type.text ∧ n ∈ builtinNames := by
    cases p <;> decide
  exact hall n h

theorem outOfReach_of_mem_namesIn {p : Primitive} {n : String} (h : n ∈ namesIn p.type.text) :
    p.builtin? = some n ∨ OutOfReach n := by
  have hall : ∀ n ∈ namesIn p.type.text, p.builtin? = some n ∨ OutOfReach n := by
    cases p <;> decide
  exact hall n h

end Primitive

namespace TypeRef

/-- **Built-in classes of a reference**, from outside: those of the types that it is made of. -/
def builtins : TypeRef → List String
  | .primitive p => p.builtin?.toList
  | .named _ _ => []
  | .list of => of.builtins
  | .map of => "str" :: of.builtins
  | .option of => of.builtins

theorem mem_builtinNames {ref : TypeRef} {n : String} (h : n ∈ ref.builtins) : n ∈ builtinNames := by
  induction ref with
  | primitive p => exact (Primitive.mem_of_builtin? (Option.mem_toList.mp h)).2
  | named kind name => exact absurd h List.not_mem_nil
  | list of ih => exact ih h
  | map of ih =>
    rcases List.mem_cons.mp h with rfl | h
    · decide
    · exact ih h
  | option of ih => exact ih h

end TypeRef

namespace Registry

variable {r : Registry}

/-- The type of a declared type is a class in the models module. -/
theorem namesIn_className (h : r.settings.modelsNamespace = "models") (name : String) :
    namesIn (r.className name true) = ["models"] := by
  have hclass : r.className name true = "models" ++ "." ++ localClass name := by
    rw [className, h]
    rfl
  rw [hclass]
  exact namesIn_dotted (by decide) (List.all_eq_true.mpr fun _ => isWordChar_of_mem_pascalCase)

theorem namesIn_typeOf_list (of : TypeRef) :
    namesIn (r.typeOf (.list of)).text = "List" :: namesIn (r.typeOf of).text :=
  TypeExpr.namesIn_list (r.typeOf of)

theorem namesIn_typeOf_map (of : TypeRef) :
    namesIn (r.typeOf (.map of)).text = "Dict" :: "str" :: namesIn (r.typeOf of).text :=
  TypeExpr.namesIn_dict (r.typeOf of)

theorem namesIn_typeOf_option (of : TypeRef) :
    namesIn (r.typeOf (.option of)).text = "Optional" :: namesIn (r.typeOf of).text :=
  TypeExpr.namesIn_optional (r.typeOf of)

/-- A type refers to the built-in classes of its reference. -/
theorem mem_namesIn_of_mem_builtins {ref : TypeRef} {n : String} (h : n ∈ ref.builtins) :
    n ∈ namesIn (r.typeOf ref).text := by
  induction ref with
  | primitive p => exact (Primitive.mem_of_builtin? (Option.mem_toList.mp h)).1
  | named kind name => exact absurd h List.not_mem_nil
  | list of ih =>
    rw [namesIn_typeOf_list]
    exact List.mem_cons_of_mem _ (ih h)
  | map of ih =>
    rw [namesIn_typeOf_map]
    refine List.mem_cons_of_mem _ ?_
    rcases List.mem_cons.mp h with rfl | h
    · exact List.mem_cons_self
    · exact List.mem_cons_of_mem _ (ih h)
  | option of ih =>
    rw [namesIn_typeOf_option]
    exact List.mem_cons_of_mem _ (ih h)

/-- Everything else that a type refers to is out of reach: wrappers have a capital, modules are kept
    clear of. -/
theorem mem_builtins_of_mem_namesIn (hs : r.settings.modelsNamespace = "models") {ref : TypeRef}
    {n : String} (h : n ∈ namesIn (r.typeOf ref).text) : n ∈ ref.builtins ∨ OutOfReach n := by
  have behind : ∀ {w : String} {ws : List String} {P : Prop}, OutOfReach w → n ∈ w :: ws →
      (n ∈ ws → P ∨ OutOfReach n) → P ∨ OutOfReach n := by
    intro w ws P hw hn hrest
    rcases List.mem_cons.mp hn with rfl | hn
    · exact Or.inr hw
    · exact hrest hn
  induction ref with
  | primitive p => exact (Primitive.outOfReach_of_mem_namesIn h).imp_left Option.mem_toList.mpr
  | named kind name =>
    have hnames : namesIn (r.typeOf (.named kind name)).text = ["models"] := namesIn_className hs name
    rw [hnames] at h
    exact behind (by decide) h fun h => absurd h List.not_mem_nil
  | list of ih =>
    rw [namesIn_typeOf_list] at h
    exact behind (by decide) h ih
  | map of ih =>
    rw [namesIn_typeOf_map] at h
    refine behind (by decide) h fun h => ?_
    rcases List.mem_cons.mp h with rfl | h
    · exact Or.inl List.mem_cons_self
    · exact (ih h).imp_left (List.mem_cons_of_mem _)
  | option of ih =>
    rw [namesIn_typeOf_option] at h
    exact behind (by decide) h ih

/-- **Of the names of a type, arguments reach those of built-in classes.** -/
theorem mem_namesIn_typeOf_iff (hs : r.settings.modelsNamespace = "models") {ref : TypeRef}
    {n : String} (hn : ¬ OutOfReach n) : n ∈ namesIn (r.typeOf ref).text ↔ n ∈ ref.builtins :=
  ⟨fun h => (mem_builtins_of_mem_namesIn hs h).resolve_right hn, mem_namesIn_of_mem_builtins⟩

end Registry

/-! ## 3. Names that a body refers to -/

/-- Types that the values of a payload are written by. -/
def Payload.types (p : Payload) : List String := (p.body?.map Prod.fst).toList ++ p.fields.map (·.type)

namespace ClientMethod

variable {r : Registry} {resource : Resource} {o : Operation} {e : Endpoint} {m : ClientMethod}

/-- Types that the body of a method writes and reads values by. -/
def handedTypes (m : ClientMethod) : List String :=
  m.request.payload.types ++ m.dispatch.branches.filterMap (·.successType?)

/-- Names in the code that every body is made of: the object itself, modules, and variables. -/
def ownNames (m : ClientMethod) : List String :=
  ["self", "common", "errors", "models", "payload", "query_parameters", m.settings.responseVariable]

/-- **Names that the body of a method refers to** besides its arguments: its own, and those of the
    types that it writes and reads values by. -/
def freeNames (m : ClientMethod) : List String := m.ownNames ++ m.handedTypes.flatMap namesIn

/-- **A name is captured** by an argument: the body refers to something else by it. -/
def Captures (m : ClientMethod) (n : String) : Prop := n ∈ m.arguments.map (·.name) ∧ n ∈ m.freeNames

/-- **A method writes or reads values of a reference**: as its body, as a field of its form, or as
    what the response that owns its code answers in success. -/
inductive Hands (r : Registry) (e : Endpoint) : TypeRef → Prop where
  | body {a : Argument} : e.body = some a → Hands r e a.ref
  | field {a : Argument} : a ∈ e.formParameters → Hands r e a.ref
  | success {a : Response} {ref : TypeRef} : e.operation.responses.find? (·.code = a.code) = some a →
      a.isSuccess = true → a.isUnit = false → r.parse a.type = .ok ref → Hands r e ref

theorem of_mem_arguments (h : Endpoint.BuiltFrom r resource o e) {a : Argument} (ha : a ∈ e.arguments) :
    a.argName = argumentName a.name ∧ a.type = r.resolve true a.ref := by
  rcases List.mem_append.mp (h.perm_arguments.mem_iff.mp ha) with ha | ha
  · obtain ⟨t, _, hb⟩ := h.exists_bodyOf (Option.mem_toList.mp ha)
    have hbody := Endpoint.isBodyOf_of_bodyOf hb
    exact ⟨hbody.argName, hbody.type⟩
  · obtain ⟨p, l, hp⟩ := h.exists_argumentOf ha
    exact ⟨Endpoint.argName_of_mem_parameters h ha, (Endpoint.standsFor_of_argumentOf hp).type⟩

theorem text_of_mem_arguments (h : Endpoint.BuiltFrom r resource o e) {a : Argument}
    (ha : a ∈ e.arguments) : a.type.type.text = (r.typeOf a.ref).text := by
  rw [(of_mem_arguments h ha).2]
  rfl

/-- The types that a body of a method writes and reads by are those of the values that it hands. -/
theorem mem_handedTypes_iff (he : Endpoint.BuiltFrom r resource o e)
    (hm : (ofEndpoint r e).outcome = .ok m) {t : String} :
    t ∈ m.handedTypes ↔ ∃ ref, Hands r e ref ∧ (r.typeOf ref).text = t := by
  obtain ⟨table, ht, _, rfl⟩ := ofEndpoint_eq_ok.mp hm
  obtain ⟨bs, nils, hc⟩ := DispatchTable.ofEndpoint_eq_ok.mp ht
  have argument : ∀ a ∈ e.body.toList ++ e.formParameters, a ∈ e.arguments := by
    intro a ha
    refine he.perm_arguments.mem_iff.mpr (List.mem_append.mpr ?_)
    exact (List.mem_append.mp ha).imp_right fun ha => (List.mem_filter.mp ha).1
  have hpayload : t ∈ (Request.ofEndpoint e).payload.types ↔
      ∃ a ∈ e.body.toList ++ e.formParameters, a.type.type.text = t := by
    rw [Payload.types, Request.body?_payload, Request.fields_payload he.verb_cases.1, Option.map_map,
      List.map_map]
    simp [or_and_right, exists_or]
  have hbranches : t ∈ table.branches.filterMap (·.successType?) ↔
      ∃ a, Backs r e.operation.responses a t := by
    rw [← mem_successTypes_iff hc, mem_successTypes, List.mem_filterMap, List.mem_map]
  rw [handedTypes, List.mem_append, hpayload, hbranches]
  constructor
  · rintro (⟨a, ha, rfl⟩ | ⟨a, hf, hs, hu, ref, href, rfl⟩)
    · refine ⟨a.ref, ?_, (text_of_mem_arguments he (argument a ha)).symm⟩
      rcases List.mem_append.mp ha with ha | ha
      · exact .body (Option.mem_toList.mp ha)
      · exact .field ha
    · exact ⟨ref, .success hf hs hu href, rfl⟩
  · rintro ⟨ref, hh, rfl⟩
    cases hh with
    | @body a ha =>
      have hmem := List.mem_append_left e.formParameters (Option.mem_toList.mpr ha)
      exact Or.inl ⟨a, hmem, text_of_mem_arguments he (argument a hmem)⟩
    | @field a ha =>
      have hmem := List.mem_append_right e.body.toList ha
      exact Or.inl ⟨a, hmem, text_of_mem_arguments he (argument a hmem)⟩
    | @success a ref hf hs hu href => exact Or.inr ⟨a, hf, hs, hu, ref, href, rfl⟩

/-! ## 4. What arguments capture -/

/-- No argument has a name out of reach. -/
theorem not_outOfReach_of_mem_arguments (he : Endpoint.BuiltFrom r resource o e)
    (hm : (ofEndpoint r e).outcome = .ok m) {n : String} (hn : n ∈ m.arguments.map (·.name)) :
    ¬ OutOfReach n := by
  obtain ⟨t, _, _, rfl⟩ := ofEndpoint_eq_ok.mp hm
  obtain ⟨p, hp, rfl⟩ := List.mem_map.mp hn
  obtain ⟨a, ha, rfl⟩ := List.mem_map.mp hp
  have hname : (parameterOf a).name = argumentName a.name := (of_mem_arguments he ha).1
  rw [hname]
  exact not_outOfReach_argumentName a.name

/-- The names of the code that every body is made of are out of reach under every dialect. -/
theorem outOfReach_of_mem_ownNames (hs : r.settings ∈ Dialect.all)
    (hm : (ofEndpoint r e).outcome = .ok m) {n : String} (hn : n ∈ m.ownNames) : OutOfReach n := by
  have hvariable : ∀ d ∈ Dialect.all, d.responseVariable = "r" := by decide
  have hall : ∀ n ∈ ["self", "common", "errors", "models", "payload", "query_parameters", "r"],
      OutOfReach n := by decide
  obtain ⟨t, _, _, rfl⟩ := ofEndpoint_eq_ok.mp hm
  rw [ownNames, hvariable _ hs] at hn
  exact hall n hn

/-- **Arguments capture the names of built-in classes and no others**: under every dialect, an
    argument captures its name exactly where it is that of a built-in class in a type that its
    method writes or reads values by. -/
theorem captures_iff (hs : r.settings ∈ Dialect.all)
    (he : Endpoint.ofOperation r resource o = .ok e) (hm : (ofEndpoint r e).outcome = .ok m)
    (n : String) :
    (m.Captures n ↔ n ∈ m.arguments.map (·.name) ∧ ∃ ref, Hands r e ref ∧ n ∈ ref.builtins) ∧
    (m.Captures n → n ∈ builtinNames) := by
  have hb := Endpoint.ofOperation_eq_ok.mp he
  have hmodels : r.settings.modelsNamespace = "models" := by
    have hall : ∀ d ∈ Dialect.all, d.modelsNamespace = "models" := by decide
    exact hall _ hs
  have hiff : m.Captures n ↔
      n ∈ m.arguments.map (·.name) ∧ ∃ ref, Hands r e ref ∧ n ∈ ref.builtins := by
    refine and_congr_right fun hn => ?_
    have hreach := not_outOfReach_of_mem_arguments hb hm hn
    rw [freeNames, List.mem_append, List.mem_flatMap]
    constructor
    · rintro (hn | ⟨t, ht, hn⟩)
      · exact absurd (outOfReach_of_mem_ownNames hs hm hn) hreach
      · obtain ⟨ref, hh, rfl⟩ := (mem_handedTypes_iff hb hm).mp ht
        exact ⟨ref, hh, (Registry.mem_namesIn_typeOf_iff hmodels hreach).mp hn⟩
    · rintro ⟨ref, hh, hn⟩
      exact Or.inr ⟨_, (mem_handedTypes_iff hb hm).mpr ⟨ref, hh, rfl⟩,
        Registry.mem_namesIn_of_mem_builtins hn⟩
  refine ⟨hiff, fun h => ?_⟩
  obtain ⟨_, ref, _, hn⟩ := hiff.mp h
  exact TypeRef.mem_builtinNames hn

/-- Operation that sends a form of texts and reads integers, its parameters named after what its
    method refers to. -/
def namedAlike : Operation :=
  { verb := .post
    path := "/items"
    parameters :=
      [{ name := "Int", type := "uuid" }, { name := "str", location := .form },
       { name := "float", type := "double" }, { name := "models" }, { name := "List" }]
    responses := [⟨200, "[integer]", false⟩] }

/-- Of five such names two are captured. The type of an argument that is neither written nor read
    is not referred to, and an underscore or small letters keep the others clear. -/
theorem captures_iff_namedAlike : ∃ e m,
    Endpoint.ofOperation ⟨Dialect.aiohttp, [], []⟩ Endpoint.shops namedAlike = .ok e ∧
    (ofEndpoint ⟨Dialect.aiohttp, [], []⟩ e).outcome = .ok m ∧
    m.arguments.map (·.name) = ["int", "str", "float", "models_", "list"] ∧
    m.Captures "int" ∧ m.Captures "str" ∧ ¬ m.Captures "float" := by
  have hiff : ∀ e m, Endpoint.ofOperation ⟨Dialect.aiohttp, [], []⟩ Endpoint.shops namedAlike = .ok e →
      (ofEndpoint ⟨Dialect.aiohttp, [], []⟩ e).outcome = .ok m → ∀ n, m.Captures n ↔
        n ∈ m.arguments.map (·.name) ∧
          ∃ ref, Hands ⟨Dialect.aiohttp, [], []⟩ e ref ∧ n ∈ ref.builtins :=
    fun e m he hm n => (captures_iff List.mem_cons_self he hm n).1
  refine ⟨_, _, rfl, rfl, rfl, ?_, ?_, ?_⟩
  all_goals rw [hiff _ _ rfl rfl]
  · exact ⟨by decide, .list (.primitive .integer),
      .success (a := ⟨200, "[integer]", false⟩) rfl rfl rfl rfl, by decide⟩
  · refine ⟨by decide, _, .field (a := ⟨"str", "str", some .form, .primitive .string, _, none, none⟩)
      List.mem_cons_self, by decide⟩
  · rintro ⟨_, ref, hh, hn⟩
    cases hh with
    | body h => cases h
    | field h =>
      rcases List.mem_cons.mp h with rfl | h
      · exact absurd hn (by decide)
      · cases h
    | @success a ref hf hs hu href =>
      obtain rfl : a = ⟨200, "[integer]", false⟩ := List.mem_singleton.mp (List.mem_of_find?_eq_some hf)
      cases href
      exact absurd hn (by decide)

/-- Service whose one operation takes a parameter and answers with an integer. -/
def countingBy (parameter : String) : Resource :=
  { type := "item"
    plural := "items"
    operations :=
      [{ verb := .get
         path := "/items"
         parameters := [{ name := parameter }]
         responses := [⟨200, "integer", false⟩] }] }

/-- An argument named as the class of integers takes its place where the answer is read. -/
theorem exists_captured : ∃ r ms,
    Registry.ofService { name := "api", resources := [countingBy "int"] } Dialect.aiohttp = .ok r ∧
    (ofResource r (countingBy "int")).outcome = .ok ms ∧
    ms.map (fun m => m.arguments.map (·.name)) = [["int"]] ∧
    (∀ m ∈ ms, m.Captures "int") ∧
    ∀ m ∈ ms, m.dispatch.branches.map (statementOf m.settings) =
      ["return common.parse_json(\"int\", r, int)"] := by
  refine ⟨_, _, rfl, rfl, rfl, fun m hm => ?_, fun m hm => ?_⟩
  · rw [List.mem_singleton.mp hm]
    exact ⟨by decide, by decide⟩
  · rw [List.mem_singleton.mp hm]
    rfl

end ClientMethod

end ClientGen
