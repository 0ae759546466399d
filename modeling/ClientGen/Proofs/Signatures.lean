import ClientGen.Proofs.Captures

/-!
# Signatures of methods

The arguments of a method stand in its signature behind the receiver, those without a default before
those with one. Their names are made from names of any spelling. This file fixes

* `isLegal_argumentName`: the name of an argument is one under which code may declare something;
* `Source.Function.perm_orderedParameters`, `pairwise_orderedParameters`, `filter_orderedParameters`:
  a signature moves defaults to the end and otherwise keeps parameters as they stand;
* `ClientMethod.Signed`: what a signature owes the arguments that it is made of;
* `ClientMethod.ofEndpoint_signed`: the signatures of both views of every method owe it.
-/

namespace ClientGen

open ClientGen.Text

/-! ## 1. Names of arguments -/

/-- The name of an argument is legal, whatever the name of what it carries. -/
theorem isLegal_argumentName (name : String) : IsLegal (argumentName name) := by
  unfold argumentName
  exact (isLegal_safeName_snakeCase name).ite _

/-! ## 2. Order of parameters -/

namespace Source.Function

/-- Nothing is lost from a signature and nothing is added. -/
theorem perm_orderedParameters (f : Function) : f.orderedParameters.Perm f.parameters := by
  have hrest : f.parameters.filter (·.default.isSome) =
      f.parameters.filter fun p => !p.default.isNone :=
    List.filter_congr fun p _ => by cases p.default <;> rfl
  rw [orderedParameters, hrest]
  exact List.filter_append_perm _ _

/-- Behind a parameter with a default all have one. -/
theorem pairwise_orderedParameters (f : Function) :
    f.orderedParameters.Pairwise fun p q => p.default.isSome = true → q.default.isSome = true := by
  refine List.pairwise_append.mpr ⟨?_, ?_, fun p _ q hq _ => (List.mem_filter.mp hq).2⟩
  · refine List.pairwise_of_forall_mem_list fun p hp q _ hd => ?_
    have hn := (List.mem_filter.mp hp).2
    rw [Option.isNone_iff_eq_none.mp hn] at hd
    cases hd
  · exact List.pairwise_of_forall_mem_list fun p _ q hq _ => (List.mem_filter.mp hq).2

/-- The parameters without a default keep their order, and so do those with one. -/
theorem filter_orderedParameters (f : Function) :
    f.orderedParameters.filter (·.default.isNone) = f.parameters.filter (·.default.isNone) ∧
      f.orderedParameters.filter (·.default.isSome) = f.parameters.filter (·.default.isSome) := by
  have keeps : ∀ q : Parameter → Bool, (f.parameters.filter q).filter q = f.parameters.filter q :=
    fun q => List.filter_eq_self.mpr fun p hp => (List.mem_filter.mp hp).2
  have drops : ∀ q q' : Parameter → Bool, (∀ p, q p = true → q' p = false) →
      (f.parameters.filter q).filter q' = [] := fun q q' hq =>
    List.filter_eq_nil_iff.mpr fun p hp => Bool.eq_false_iff.mp (hq p (List.mem_filter.mp hp).2)
  constructor
  · rw [orderedParameters, List.filter_append, keeps, drops, List.append_nil]
    exact fun p hp => by cases h : p.default <;> simp_all
  · rw [orderedParameters, List.filter_append, keeps, drops, List.nil_append]
    exact fun p hp => by cases h : p.default <;> simp_all

end Source.Function

/-! ## 3. Signatures of methods -/

namespace ClientMethod

variable {r : Registry} {resource : Resource} {o : Operation} {e : Endpoint} {m : ClientMethod}

/-- Parameter that stands for the object a method belongs to. -/
def receiver : Source.Parameter := { name := "self" }

/-- **A function is signed for arguments**: its text has a header with a line for each parameter, name,
    type and default. The parameters are the receiver and the arguments, under names that code may
    declare and its body does not use; defaults stand last, and otherwise the order is that of the
    arguments. -/
structure Signed (name result : String) (as : List Argument) (f : Source.Function) : Prop where
  text : f.text = unlines (f.decorators ++ [f.header, indent f.body])
  header : f.header = "async def " ++ name ++
    (if as.isEmpty then "(self)"
      else "(\n" ++ join ",\n" (f.orderedParameters.map fun p => indent (p.name ++
        ((p.type.map fun t => ": " ++ t.text).getD "") ++
        ((p.default.map fun d => " = " ++ d).getD ""))) ++ "\n)") ++
    " -> " ++ result ++ ":"
  types : f.orderedParameters.map (fun p => (p.name, p.type.map (·.text), p.default)) =
    ("self", none, none) ::
      ((as.filter (·.default.isNone)).map fun a => (a.argName, some a.type.type.text, none)) ++
      (as.filter (·.default.isSome)).map fun a => (a.argName, some a.type.type.text, a.default)
  first : f.orderedParameters.head? = some receiver
  distinct : (f.orderedParameters.map (·.name)).Nodup
  legal : ∀ p ∈ f.orderedParameters.tail, IsLegal p.name ∧ p.name ∉ reservedNames
  defaultsLast : f.orderedParameters.Pairwise fun p q =>
    p.default.isSome = true → q.default.isSome = true
  perm : f.orderedParameters.Perm (receiver :: as.map parameterOf)
  required : f.orderedParameters.filter (·.default.isNone) =
    (receiver :: as.map parameterOf).filter (·.default.isNone)
  optional : f.orderedParameters.filter (·.default.isSome) =
    (receiver :: as.map parameterOf).filter (·.default.isSome)

/-- The receiver has no default, so it stays in front. -/
theorem orderedParameters_receiver {f : Source.Function} {ps : List Source.Parameter}
    (h : f.parameters = receiver :: ps) : f.orderedParameters =
      receiver :: (ps.filter (·.default.isNone) ++ ps.filter (·.default.isSome)) := by
  rw [Source.Function.orderedParameters, h]
  rfl

/-- The list of one parameter stands in a line, a longer one has a line for each. -/
theorem parameterList_of_perm {f : Source.Function} {as : List Argument}
    (h : f.orderedParameters.Perm (receiver :: as.map parameterOf)) :
    Source.Function.parameterList f.orderedParameters =
      if as.isEmpty then "(self)"
      else "(\n" ++ join ",\n" (f.orderedParameters.map fun p => indent p.text) ++ "\n)" := by
  cases as with
  | nil =>
    rw [List.perm_singleton.mp h]
    rfl
  | cons a as =>
    have hlength : 1 < f.orderedParameters.length := by
      rw [h.length_eq]
      simp
    rw [Source.Function.parameterList, if_pos hlength]
    rfl

theorem signed_function {as : List Argument} {decorators : List String} {code : Option Source.Block}
    (harguments : m.arguments = as.map parameterOf) (hd : (as.map (·.argName)).Nodup)
    (hnames : ∀ a ∈ as, a.argName = argumentName a.name) :
    Signed m.name m.returnType.text as (m.function decorators code) := by
  have hparameters : (m.function decorators code).parameters = receiver :: as.map parameterOf :=
    congrArg (receiver :: ·) harguments
  have hordered := orderedParameters_receiver hparameters
  have hperm := (m.function decorators code).perm_orderedParameters
  obtain ⟨hrequired, hoptional⟩ := (m.function decorators code).filter_orderedParameters
  rw [hparameters] at hperm hrequired hoptional
  have hargument : ∀ p ∈ as.map parameterOf, ∃ n, p.name = argumentName n := by
    intro p hp
    obtain ⟨a, ha, rfl⟩ := List.mem_map.mp hp
    exact ⟨a.name, hnames a ha⟩
  constructor
  case text => rfl
  case header =>
    show "async " ++ "def " ++ m.name ++ Source.Function.parameterList
      (m.function decorators code).orderedParameters ++ " -> " ++ m.returnType.text ++ ":" = _
    rw [parameterList_of_perm hperm]
    rfl
  case types =>
    rw [hordered, List.filter_map, List.filter_map, List.map_cons, List.map_append, List.map_map,
      List.map_map]
    refine congrArg (_ :: ·) (congrArg (· ++ _) (List.map_congr_left fun a ha => ?_))
    have hnone := Option.isNone_iff_eq_none.mp (List.mem_filter.mp ha).2
    exact congrArg (fun d => (a.argName, some a.type.type.text, d)) hnone
  case first => rw [hordered, List.head?_cons]
  case distinct =>
    refine (hperm.map (·.name)).nodup_iff.mpr (List.nodup_cons.mpr ⟨fun hself => ?_, ?_⟩)
    · obtain ⟨p, hp, hself⟩ := List.mem_map.mp hself
      obtain ⟨n, hn⟩ := hargument p hp
      refine argumentName_not_mem n ?_
      rw [← hn, hself]
      decide
    · rw [List.map_map]
      exact hd
  case legal =>
    intro p hp
    rw [hordered, List.tail_cons] at hp
    obtain ⟨n, hn⟩ := hargument p ((List.mem_append.mp hp).elim List.mem_of_mem_filter
      List.mem_of_mem_filter)
    rw [hn]
    exact ⟨isLegal_argumentName n, argumentName_not_mem n⟩
  case defaultsLast => exact (m.function decorators code).pairwise_orderedParameters
  case perm => exact hperm
  case required => exact hrequired
  case optional => exact hoptional

/-- **Signatures are well formed**: the declaration and the implementation of every method list the
    receiver and each argument of its endpoint once, under legal names of their own. -/
theorem ofEndpoint_signed (he : Endpoint.ofOperation r resource o = .ok e)
    (hm : (ofEndpoint r e).outcome = .ok m) :
    Signed m.name m.returnType.text e.arguments m.interface ∧
      Signed m.name m.returnType.text e.arguments m.implementation := by
  have hb := Endpoint.ofOperation_eq_ok.mp he
  have hnames : ∀ a ∈ e.arguments, a.argName = argumentName a.name := fun a ha =>
    (of_mem_arguments hb ha).1
  have harguments : m.arguments = e.arguments.map parameterOf := by
    obtain ⟨t, _, _, rfl⟩ := ofEndpoint_eq_ok.mp hm
    rfl
  exact ⟨signed_function harguments hb.nodup_argNames hnames,
    signed_function harguments hb.nodup_argNames hnames⟩

/-- Operation whose parameters are named like a reserved word, like the receiver, with a digit in
    front, and not at all, the optional ones before the others. -/
def oddlyNamed : Operation :=
  { verb := .put
    path := "/shops/:class"
    body := some "[string]"
    parameters :=
      [{ name := "self", type := "boolean", required := false },
       { name := "3d", type := "integer", default := some "7" },
       { name := "*" },
       { name := "Query-Parameters" }] }

/-- The optional arguments go behind the others, which keep their order. -/
theorem ofEndpoint_signed_oddlyNamed : ∃ e m,
    Endpoint.ofOperation ⟨Dialect.aiohttp, [], []⟩ Endpoint.shops oddlyNamed = .ok e ∧
    (ofEndpoint ⟨Dialect.aiohttp, [], []⟩ e).outcome = .ok m ∧
    m.implementation.header = "async def put_by_class(\n    self,\n    class_: str,\n    " ++
      "strings: List[str],\n    _: str,\n    query_parameters_: str,\n    " ++
      "self_: Optional[bool] = None,\n    _3d: int = 7\n) -> None:" ∧
    e.arguments.map (·.argName) = ["class_", "strings", "self_", "_3d", "_", "query_parameters_"] ∧
    m.implementation.orderedParameters.map (fun p => (p.name, p.default)) =
      [("self", none), ("class_", none), ("strings", none), ("_", none), ("query_parameters_", none),
        ("self_", some "None"), ("_3d", some "7")] ∧
    Signed m.name m.returnType.text e.arguments m.interface ∧
    Signed m.name m.returnType.text e.arguments m.implementation :=
  ⟨_, _, rfl, rfl, by decide +kernel, rfl, rfl,
    @ofEndpoint_signed ⟨Dialect.aiohttp, [], []⟩ Endpoint.shops oddlyNamed _ _ rfl rfl⟩

end ClientMethod

end ClientGen
