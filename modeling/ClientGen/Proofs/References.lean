import ClientGen.Proofs.Attributes
import ClientGen.Proofs.Codecs
import ClientGen.Proofs.Declarations
import ClientGen.Proofs.ErrorTypes
import ClientGen.Proofs.Parameters
import ClientGen.Proofs.ReturnType

/-!
# Types that generated code names

A type notation enters generated code as the type of a reference, and a reference that is read is
declared. This file fixes, for each kind of generated code, that it names declared types only:

* `Registry.Names`, `names_resolve`: types; `Registry.DefaultNames`: literals of defaults;
* `ClientMethod.Names`, `BelongsTo.names`: the signature of a method and the branches of its
  dispatch;
* `Source.Parameter.Names`, `UnionVariant.Names`: attributes of a class and variants of a codec.
-/

namespace ClientGen

open ClientGen.Text

variable {r : Registry} {q : Bool}

/-! ## 1. Types and literals -/

namespace Registry

/-- **A type names declared types only**: it is the type of a declared reference, and every name in
    it is a primitive's or the class of a declared type. -/
structure Names (r : Registry) (q : Bool) (t : TypeExpr) : Prop where
  refers : ∃ ref, r.Declared ref ∧ t = (r.resolve q ref).type
  named : ∀ n ∈ t.names, (∃ p : Primitive, n ∈ p.type.names) ∨ ∃ d ∈ r.entries, n = r.className d.1 q

theorem names_wrap_singleton (w : String) (t : TypeExpr) : (TypeExpr.wrap w [t]).names = t.names :=
  List.append_nil _

theorem mem_namesOf {ts : List TypeExpr} {n : String} :
    n ∈ TypeExpr.namesOf ts ↔ ∃ t ∈ ts, n ∈ t.names := by
  induction ts with
  | nil => exact iff_of_false List.not_mem_nil fun ⟨_, ht, _⟩ => absurd ht List.not_mem_nil
  | cons t ts ih => rw [TypeExpr.namesOf, List.mem_append, ih, List.exists_mem_cons_iff]

theorem names_dict (t : TypeExpr) : t.dict.names = "str" :: t.names :=
  congrArg (List.cons "str") (List.append_nil _)

theorem named_of_declared {ref : TypeRef} (h : r.Declared ref) :
    ∀ n ∈ (r.resolve q ref).type.names,
      (∃ p : Primitive, n ∈ p.type.names) ∨ ∃ d ∈ r.entries, n = r.className d.1 q := by
  induction ref with
  | primitive p => exact fun n hn => Or.inl ⟨p, hn⟩
  | named kind name =>
    intro n hn
    exact Or.inr ⟨(name, kind), h, List.mem_singleton.mp hn⟩
  | list of ih =>
    intro n hn
    rw [resolve, TypeExpr.list, names_wrap_singleton] at hn
    exact ih h n hn
  | map of ih =>
    intro n hn
    rw [resolve, names_dict] at hn
    rcases List.mem_cons.mp hn with rfl | hn
    · exact Or.inl ⟨.string, List.mem_singleton_self _⟩
    · exact ih h n hn
  | option of ih =>
    intro n hn
    rw [resolve, TypeExpr.optional, names_wrap_singleton] at hn
    exact ih h n hn

theorem names_resolve {ref : TypeRef} (h : r.Declared ref) : r.Names q (r.resolve q ref).type :=
  ⟨⟨ref, h, rfl⟩, named_of_declared h⟩

theorem Declared.optional {ref : TypeRef} (h : r.Declared ref) : r.Declared ref.optional := by
  cases ref <;> exact h

/-- **A literal names declared types only**: nothing, a literal of a primitive, or the class of a
    declared type applied to a text. -/
def DefaultNames (r : Registry) (q : Bool) (s : String) : Prop :=
  s = "None" ∨ (∃ p raw, primitiveLiteral p raw = .ok s) ∨
    ∃ d ∈ r.entries, ∃ raw, s = r.className d.1 q ++ "(" ++ quoted raw ++ ")"

theorem defaultNames_of_defaultLiteral {ref : TypeRef} {raw s : String} (hd : r.Declared ref)
    (h : r.defaultLiteral raw q ref = .ok s) : r.DefaultNames q s := by
  induction ref with
  | option of ih => exact ih hd h
  | list of ih => cases h
  | map of ih => cases h
  | primitive p =>
    rw [defaultLiteral_primitive, mapError_eq_ok] at h
    exact Or.inr (Or.inl ⟨p, raw, h⟩)
  | named kind name =>
    cases kind with
    | model => cases h
    | union => cases h
    | enum =>
      rw [defaultLiteral_enum, mapError_eq_ok] at h
      exact Or.inr (Or.inr ⟨(name, .enum), hd, raw, eq_of_enumLiteral h⟩)

end Registry

/-! ## 2. Methods -/

/-- **An argument names declared types only**, in its type and in its default. -/
structure Argument.Names (r : Registry) (a : Argument) : Prop where
  type : r.Names true a.type.type
  default : ∀ s, a.default = some s → r.DefaultNames true s

namespace Endpoint

theorem defaultNames_of_settle {p : Parameter} {l : Location} {ref ref' : TypeRef} {d : Option String}
    (hd : r.Declared ref) (h : settle r p l ref = .ok (ref', d)) :
    ∀ s, d = some s → r.DefaultNames true s := by
  intro s hs
  unfold settle at h
  split at h
  · split at h
    · cases h
      cases hs
    · cases h
  · split at h
    · obtain ⟨s', hs', e⟩ := map_eq_ok.mp h
      cases e
      cases hs
      exact Registry.defaultNames_of_defaultLiteral hd hs'
    · split at h
      · cases h
        cases hs
      · cases h
        cases hs
        exact Or.inl rfl

theorem names_of_argumentOf {p : Parameter} {l : Location} {a : Argument}
    (h : argumentOf r p l = .ok a) : a.Names r := by
  have hstands := standsFor_of_argumentOf h
  obtain ⟨ref, href, h⟩ := bind_eq_ok.mp h
  obtain ⟨⟨ref', d⟩, hs, h⟩ := bind_eq_ok.mp h
  rw [pure_eq_ok] at h
  subst h
  have hd := Registry.declared_of_parse href
  refine ⟨?_, defaultNames_of_settle hd hs⟩
  rcases ref_of_settle hs with rfl | rfl
  · exact Registry.names_resolve hd
  · exact Registry.names_resolve hd.optional

theorem names_of_bodyOf {t : String} {a : Argument} (h : bodyOf r t = .ok a) : a.Names r := by
  obtain ⟨ref, href, h⟩ := bind_eq_ok.mp h
  rw [pure_eq_ok] at h
  subst h
  refine ⟨Registry.names_resolve (Registry.declared_of_parse href), ?_⟩
  intro s hs
  cases hs

theorem BuiltFrom.names_arguments {resource : Resource} {o : Operation} {e : Endpoint}
    (h : BuiltFrom r resource o e) {a : Argument} (ha : a ∈ e.arguments) : a.Names r := by
  rcases List.mem_append.mp (h.perm_arguments.mem_iff.mp ha) with ha | ha
  · obtain ⟨t, _, ht⟩ := h.exists_bodyOf (Option.mem_toList.mp ha)
    exact names_of_bodyOf ht
  · obtain ⟨p, l, hp⟩ := h.exists_argumentOf ha
    exact names_of_argumentOf hp

end Endpoint

/-- Type of the body that an outcome reads or raises. -/
def Outcome.datatype? : Outcome → Option String
  | .success _ d => some d
  | .failure _ d _ => d
  | _ => none

namespace ClientMethod

/-- **A method names declared types only**: so do its arguments, the alternatives of its return
    type, and the branches of its dispatch. -/
structure Names (r : Registry) (m : ClientMethod) : Prop where
  arguments : ∀ p ∈ m.arguments, ∃ a : Argument, a.Names r ∧ p = parameterOf a
  returns : ∀ d ∈ m.returnType.alternatives, d = "None" ∨ ∃ t, r.Names true t ∧ d = t.text
  branches : ∀ b ∈ m.dispatch.branches, ∀ d, b.datatype? = some d →
    ∃ t, r.Names true t ∧ d = t.text

theorem names_of_answers {a : Response} {b : Outcome} (h : DispatchTable.Answers r a b) {d : String}
    (hd : b.datatype? = some d) : ∃ t, r.Names true t ∧ d = t.text := by
  cases h with
  | successUnit _ _ => cases hd
  | failureUnit _ _ => cases hd
  | success _ _ href =>
    cases hd
    exact ⟨_, Registry.names_resolve (Registry.declared_of_parse href), rfl⟩
  | failure _ _ href =>
    cases hd
    exact ⟨_, Registry.names_resolve (Registry.declared_of_parse href), rfl⟩

theorem BelongsTo.names_datatype {resource : Resource} {o : Operation} {m : ClientMethod}
    (h : BelongsTo r resource o m) {b : Outcome} (hb : b ∈ m.dispatch.branches) {d : String}
    (hd : b.datatype? = some d) : ∃ t, r.Names true t ∧ d = t.text := by
  rcases h.answers_of_mem hb with ⟨a, _, ha⟩ | ⟨s, rfl⟩
  · exact names_of_answers ha hd
  · cases hd

theorem datatype?_of_successType? {b : Outcome} {d : String} (h : b.successType? = some d) :
    b.datatype? = some d := by
  cases b with
  | success c d' => exact h
  | successUnit c => cases h
  | successAbsent v => cases h
  | failure c d' e => cases h
  | unexpected => cases h

/-- **Every method names declared types only.** -/
theorem BelongsTo.names {resource : Resource} {o : Operation} {m : ClientMethod}
    (h : BelongsTo r resource o m) : m.Names r := by
  have branches : ∀ b ∈ m.dispatch.branches, ∀ d, b.datatype? = some d →
      ∃ t, r.Names true t ∧ d = t.text := fun b hb d => h.names_datatype hb
  obtain ⟨e, he, hm⟩ := h
  obtain ⟨t, _, _, rfl⟩ := ofEndpoint_eq_ok.mp hm
  refine ⟨fun p hp => ?_, fun d hd => ?_, branches⟩
  · obtain ⟨a, ha, rfl⟩ := List.mem_map.mp hp
    exact ⟨a, he.names_arguments ha, rfl⟩
  · dsimp only at hd
    by_cases hn : d = "None"
    · exact Or.inl hn
    · obtain ⟨b, hb, hs⟩ := List.mem_map.mp (mem_successTypes.mp ((mem_alternatives_iff hn).mp hd))
      exact Or.inr (branches b hb d (datatype?_of_successType? hs))

end ClientMethod

/-! ## 3. Models and unions -/

/-- **An attribute names declared types only**, in its type and in its default, which may carry the
    declared name. -/
structure Source.Parameter.Names (r : Registry) (a : Source.Parameter) : Prop where
  type : ∀ t, a.type = some t → r.Names false t
  default : ∃ declared d, a.default = aliasedDefault declared a.name d ∧
    ∀ s, d = some s → r.DefaultNames false s

theorem Field.SettledAs.names {f : Field} {ref : TypeRef} {d : Option String}
    (h : f.SettledAs r ref d) : (∃ ref', r.parse f.type = .ok ref') ∧ r.Declared ref ∧
      ∀ s, d = some s → r.DefaultNames false s := by
  cases h with
  | declared hparsed _ hl =>
    have hd := Registry.declared_of_parse hparsed
    refine ⟨⟨ref, hparsed⟩, hd, fun s hs => ?_⟩
    cases hs
    exact Registry.defaultNames_of_defaultLiteral hd hl
  | required hparsed _ _ =>
    exact ⟨⟨ref, hparsed⟩, Registry.declared_of_parse hparsed, fun s hs => by cases hs⟩
  | optional hparsed _ _ =>
    refine ⟨⟨_, hparsed⟩, (Registry.declared_of_parse hparsed).optional, fun s hs => ?_⟩
    exact Or.inl (Option.some.inj hs).symm

theorem Field.names_of_toAttribute {model : String} {f : Field} {a : Source.Parameter}
    (h : f.toAttribute r model = .ok a) : (∃ ref, r.parse f.type = .ok ref) ∧ a.Names r := by
  obtain ⟨ref, d, hs, rfl⟩ := toAttribute_eq_ok.mp h
  obtain ⟨hparsed, hd, hdefault⟩ := hs.names
  refine ⟨hparsed, ⟨fun t ht => ?_, f.name, d, ?_, hdefault⟩⟩
  · rw [← Option.some.inj ht]
    exact Registry.names_resolve hd
  · rw [aliasedDefault_eq, default_attributeAs]

/-- **A class of a model** is named as declared, and its attributes name declared types only. -/
theorem ModelType.names_of_toClass {m : ModelType} {c : Source.Class} (h : m.toClass r = .ok c) :
    c.name = Registry.localClass m.name ∧ (∀ f ∈ m.fields, ∃ ref, r.parse f.type = .ok ref) ∧
      ∀ a ∈ c.parameters, a = modelConfig ∨ a.Names r := by
  obtain ⟨as, has, rfl⟩ := toClass_eq_ok.mp h
  obtain ⟨has, _⟩ := modelAttributes_eq_ok.mp has
  refine ⟨rfl, fun f hf => ?_, fun a ha => ?_⟩
  · obtain ⟨a, _, ha⟩ := exists_right_of_forall₂ has hf
    exact (Field.names_of_toAttribute ha).1
  · rcases List.mem_cons.mp ha with rfl | ha
    · exact Or.inl rfl
    · obtain ⟨f, _, hf⟩ := exists_left_of_forall₂ has ha
      exact Or.inr (Field.names_of_toAttribute hf).2

theorem EnumValue.names_member (v : EnumValue) : v.member.Names r := by
  unfold EnumValue.member
  refine ⟨fun t ht => (by cases ht), _, some (quoted v.name), (if_pos rfl).symm, fun s hs => ?_⟩
  rw [← Option.some.inj hs]
  exact Or.inr (Or.inl ⟨.string, v.name, rfl⟩)

/-- A class of an enum is named as declared, and its members are texts. -/
theorem EnumType.names_of_toClass {e : EnumType} {c : Source.Class} (h : e.toClass = .ok c) :
    c.name = Registry.localClass e.name ∧ ∀ a ∈ c.parameters, a.Names r := by
  obtain ⟨as, has, rfl⟩ := toClass_eq_ok.mp h
  refine ⟨rfl, fun a ha => ?_⟩
  obtain ⟨v, _, rfl⟩ := exists_left_of_forall₂ (enumMembers_eq_ok.mp has).1 ha
  exact v.names_member

/-- **A variant names declared types only**, in its type and in its class. -/
structure UnionVariant.Names (r : Registry) (v : UnionVariant) : Prop where
  type : r.Names false (UnionCodec.typeOf r v)
  runtimeClass : (∃ p : Primitive, p.runtimeClass? = some v.runtimeClass) ∨
    ∃ d ∈ r.entries, v.runtimeClass = r.className d.1 false

/-- **A variant is of a primitive, or of a declared enum or model.** -/
theorem UnionCodec.IsVariant.primitive_or_declared {t : String} {v : UnionVariant} (h : IsVariant r t v) :
    (∃ p, v.ref = .primitive p) ∨
      ∃ kind name, v.ref = .named kind name ∧ kind ≠ .union ∧ (name, kind) ∈ r.entries := by
  have hdeclared := Registry.declared_of_parse h.parsed
  have hclass := h.class_eq
  unfold variantClass? at hclass
  split at hclass
  · exact .inl ⟨_, by assumption⟩
  · cases hclass
  · rename_i kind name hunion href
    rw [href] at hdeclared
    exact .inr ⟨kind, name, href, fun hkind => hunion (by rw [hkind]), hdeclared⟩
  · cases hclass

theorem UnionCodec.IsVariant.names {t : String} {v : UnionVariant} (h : IsVariant r t v) :
    v.Names r := by
  refine ⟨Registry.names_resolve (Registry.declared_of_parse h.parsed), ?_⟩
  have hclass := h.class_eq
  rcases h.primitive_or_declared with ⟨p, href⟩ | ⟨kind, name, href, hkind, hentry⟩
  · rw [href] at hclass
    exact Or.inl ⟨p, hclass⟩
  · rw [href] at hclass
    cases kind with
    | enum => exact Or.inr ⟨_, hentry, (Option.some.inj hclass).symm⟩
    | model => exact Or.inr ⟨_, hentry, (Option.some.inj hclass).symm⟩
    | union => exact absurd rfl hkind

end ClientGen
