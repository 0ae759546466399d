import ClientGen.ModelClass
import ClientGen.Proofs.Evaluation

/-!
# Members of enums and attributes of models

A class is made of an enum value by value and of a model field by field; names are rewritten on the
way, and what the attribute of a field is set to holds its default, its declared name, or both. This
file fixes

* `fieldCall`, `Source.Parameter.CarriesAlias`, `CarriesDefault`: what an attribute is set to, and
  `defaultLiteral_ne_fieldCall`: no literal of a default is mistaken for it;
* `EnumType.toClass_eq_ok`, `ModelType.toClass_eq_ok`: the classes that are made, and where;
* `EnumType.KeptBy`, `ModelType.KeptBy`: a class keeps the values of an enum or the fields of a model
  one to one, each with what was declared of it;
* `toClass_keeps`: every class that is made does so, and which enums and models are refused.
-/

namespace ClientGen

open ClientGen.Text ClientGen.Number ClientGen.Source

/-! ## 1. What an attribute is set to -/

/-- Call that an attribute is set to where its name is not the declared one. -/
def fieldCall (default : Option String) (declared : String) : String :=
  "Field(" ++ join ", " ((default.map fun d => "default=" ++ d).toList
    ++ ["alias=\"" ++ declared ++ "\""]) ++ ")"

theorem aliasedDefault_eq (declared name : String) (default : Option String) :
    aliasedDefault declared name default =
      if name = declared then default else some (fieldCall default declared) := rfl

/-- **An attribute carries an alias**: it is set to a call that names one. -/
def Source.Parameter.CarriesAlias (a : Source.Parameter) : Prop :=
  ∃ default declared, a.default = some (fieldCall default declared)

/-- **An attribute carries a default**: it is set to something other than an alias alone. -/
def Source.Parameter.CarriesDefault (a : Source.Parameter) : Prop :=
  ∃ s, a.default = some s ∧ ∀ declared, s ≠ fieldCall none declared

/-- The argument of the call begins with a name. -/
theorem exists_toList_fieldCall (default : Option String) (declared : String) : ∃ rest,
    (fieldCall default declared).toList =
      "Field(".toList ++ (if default.isSome then 'd' else 'a') :: rest := by
  cases default with
  | none =>
    refine ⟨"lias=\"".toList ++ declared.toList ++ ['"', ')'], ?_⟩
    simp [fieldCall, join_singleton]
  | some d =>
    refine ⟨"efault=".toList ++ d.toList ++ ", alias=\"".toList ++ declared.toList ++ ['"', ')'], ?_⟩
    simp [fieldCall, join_cons_cons, join_singleton]

theorem ne_fieldCall_of_head? {s : String} (h : s.toList.head? ≠ some 'F') (default : Option String)
    (declared : String) : s ≠ fieldCall default declared := by
  rintro rfl
  obtain ⟨rest, hs⟩ := exists_toList_fieldCall default declared
  rw [hs] at h
  exact h rfl

/-- A call with a default is none without. -/
theorem fieldCall_some_ne (d declared declared' : String) :
    fieldCall (some d) declared ≠ fieldCall none declared' := by
  intro h
  obtain ⟨rest, hs⟩ := exists_toList_fieldCall (some d) declared
  obtain ⟨rest', hn⟩ := exists_toList_fieldCall none declared'
  rw [h, hn] at hs
  have hc : 'a' = 'd' := (List.cons.inj (List.append_cancel_left hs)).1
  exact absurd hc (by decide)

/-- The call is no expression that a literal is. -/
theorem read?_fieldCall (default : Option String) (declared : String) :
    Expression.read? (fieldCall default declared) = none := by
  obtain ⟨rest, hs⟩ := exists_toList_fieldCall default declared
  have hquote : unquoted? (fieldCall default declared) = none := by
    refine Expression.unquoted?_eq_none fun c hc => ?_
    rw [hs] at hc
    cases hc
    decide
  have hargument : ∀ cs : List Char,
      unquoted? (String.ofList ((if default.isSome then 'd' else 'a') :: cs).dropLast) = none := by
    refine fun cs => Expression.unquoted?_eq_none fun c hc => ?_
    rw [String.toList_ofList] at hc
    cases cs with
    | nil => cases hc
    | cons d cs =>
      cases hc
      split <;> decide
  have hopen : (fieldCall default declared).toList.dropWhile (· ≠ '(') =
      '(' :: (if default.isSome then 'd' else 'a') :: rest := by
    rw [hs]
    rfl
  rw [Expression.read?, hquote, hopen]
  simp only [hargument, Option.map_none, ite_self]

/-- **No literal of a default is mistaken for the call** that gives an attribute its alias. -/
theorem defaultLiteral_ne_fieldCall {r : Registry} {raw literal : String} {ref : TypeRef}
    (h : r.defaultLiteral raw false ref = .ok literal) (default : Option String)
    (declared : String) : literal ≠ fieldCall default declared := by
  rcases Registry.read?_of_defaultLiteral (fun hq => by cases hq) h with hword | ⟨_, hread, _⟩
  · have hhead : ∀ s ∈ ["nan", "inf", "-inf"], s.toList.head? ≠ some 'F' := by decide
    exact ne_fieldCall_of_head? (hhead literal hword) default declared
  · rintro rfl
    rw [read?_fieldCall] at hread
    cases hread

/-! ## 2. Enums -/

/-- **A member carries a value**: its name is the one made of the value's, and what it is set to
    stands for the value as declared. -/
structure EnumValue.KeptBy (v : EnumValue) (a : Source.Parameter) : Prop where
  name : a.name = enumMemberName v.name
  literal : ∃ literal, a.default = some literal ∧ Spells literal v.name
  untyped : a.type = none

/-- Member of a value. -/
def EnumValue.member (v : EnumValue) : Source.Parameter :=
  { name := enumMemberName v.name, default := some (quoted v.name) }

theorem EnumValue.keptBy_member (v : EnumValue) : v.KeptBy v.member := by
  unfold EnumValue.member
  constructor
  -- the projections are taken first: unification would compute the name
  all_goals dsimp only
  exact ⟨_, rfl, spells_quoted v.name⟩

theorem enumMembers_cons_eq_ok {enum_ : String} {seen : List String} {v : EnumValue}
    {vs : List EnumValue} {as : List Source.Parameter} : enumMembers enum_ seen (v :: vs) = .ok as ↔
      enumMemberName v.name ∉ seen ∧ ∃ a, a = v.member ∧ ∃ rest,
        enumMembers enum_ (enumMemberName v.name :: seen) vs = .ok rest ∧ as = a :: rest := by
  rw [enumMembers]
  constructor
  · intro h
    split at h
    · cases h
    · rename_i hnew
      obtain ⟨rest, hrest, h⟩ := bind_eq_ok.mp h
      rw [pure_eq_ok] at h
      exact ⟨by simpa using hnew, _, rfl, rest, hrest, h.symm⟩
  · rintro ⟨hnew, _, rfl, rest, hrest, rfl⟩
    rw [if_neg (by simpa using hnew)]
    exact bind_eq_ok.mpr ⟨rest, hrest, rfl⟩

/-- Members are made of the values where their names are new and distinct. -/
theorem enumMembers_eq_ok {enum_ : String} {seen : List String} {vs : List EnumValue}
    {as : List Source.Parameter} : enumMembers enum_ seen vs = .ok as ↔
      List.Forall₂ (fun v a => a = v.member) vs as ∧ (vs.map fun v => enumMemberName v.name).Nodup ∧
        ∀ v ∈ vs, enumMemberName v.name ∉ seen :=
  gather_eq_ok (enumMembers enum_) (fun _ => rfl) fun _ _ _ _ => enumMembers_cons_eq_ok

/-- A class of an enum has the members of the values, where these have names of their own. -/
theorem EnumType.toClass_eq_ok {e : EnumType} {c : Source.Class} : e.toClass = .ok c ↔
    ∃ as, enumMembers e.name [] e.values = .ok as ∧
      c = { name := Registry.localClass e.name, inherits := ["str", "Enum"],
            description := e.description, parameters := as } := by
  unfold EnumType.toClass
  cases enumMembers e.name [] e.values with
  | error cause => simp
  | ok as => simp [eq_comm]

/-- **A class keeps an enum**: one member for each value, in order, under names of their own. -/
structure EnumType.KeptBy (e : EnumType) (c : Source.Class) : Prop where
  members : List.Forall₂ EnumValue.KeptBy e.values c.parameters
  distinct : (c.parameters.map (·.name)).Nodup

theorem EnumType.keptBy_of_toClass {e : EnumType} {c : Source.Class} (h : e.toClass = .ok c) :
    e.KeptBy c := by
  obtain ⟨as, has, rfl⟩ := toClass_eq_ok.mp h
  obtain ⟨hmembers, hd, _⟩ := enumMembers_eq_ok.mp has
  have hkept : List.Forall₂ EnumValue.KeptBy e.values as :=
    hmembers.imp fun v a ha => ha ▸ v.keptBy_member
  have hnames : (e.values.map fun v => enumMemberName v.name) = as.map (·.name) :=
    map_eq_of_forall₂ hkept fun _ _ ha => ha.name.symm
  exact ⟨hkept, hnames ▸ hd⟩

/-- An enum is refused exactly where two of its members would have one name. -/
theorem EnumType.exists_error_iff {e : EnumType} : (∃ f, e.toClass = .error f) ↔
    ¬ (e.values.map fun v => enumMemberName v.name).Nodup := by
  have hall : ∀ v ∈ e.values, ∃ a, a = v.member := fun v _ => ⟨_, rfl⟩
  rw [exists_error_iff_not_exists_ok, exists_ok_iff toClass_eq_ok,
    exists_gather_iff _ fun _ _ _ => enumMembers_eq_ok, and_iff_right hall]

/-! ## 3. Fields -/

/-- **What a field is settled as**: a declared default has a literal under the type; without one, a
    field that need not be given may hold nothing, and does unless it is given. -/
inductive Field.SettledAs (r : Registry) (f : Field) : TypeRef → Option String → Prop where
  | declared {ref : TypeRef} {raw literal : String} (parsed : r.parse f.type = .ok ref)
      (given : f.default = some raw) (rendered : r.defaultLiteral raw false ref = .ok literal) :
      SettledAs r f ref (some literal)
  | required {ref : TypeRef} (parsed : r.parse f.type = .ok ref) (given : f.default = none)
      (required : f.required = true) : SettledAs r f ref none
  | optional {ref : TypeRef} (parsed : r.parse f.type = .ok ref) (given : f.default = none)
      (required : f.required = false) : SettledAs r f ref.optional (some "None")

/-- The type of a reference that is no option is not wrapped as one. -/
theorem Registry.localTypeOf_ne_optional {r : Registry} {ref : TypeRef}
    (h : ∀ of, ref ≠ .option of) (t : TypeExpr) : r.localTypeOf ref ≠ t.optional := by
  intro ht
  cases ref with
  | primitive p =>
    cases p with
    | object => exact absurd (TypeExpr.wrap.inj ht).1 (by decide)
    | _ => cases ht
  | named kind name => cases ht
  | list of => exact absurd (TypeExpr.wrap.inj ht).1 (by decide)
  | map of => exact absurd (TypeExpr.wrap.inj ht).1 (by decide)
  | option of => exact h of rfl

namespace Field

variable {r : Registry} {f : Field} {ref : TypeRef} {d : Option String} {model : String}
  {a : Source.Parameter}

theorem settle_eq_ok : f.settle r = .ok (ref, d) ↔ f.SettledAs r ref d := by
  constructor
  · intro h
    obtain ⟨ref', hparsed, h⟩ := bind_eq_ok.mp h
    split at h
    · rename_i raw hraw
      obtain ⟨literal, hl, h⟩ := bind_eq_ok.mp h
      cases h
      exact .declared hparsed hraw hl
    · rename_i hnone
      split at h
      · rename_i hreq
        cases h
        exact .required hparsed hnone hreq
      · rename_i hreq
        cases h
        exact .optional hparsed hnone (by simpa using hreq)
  · intro h
    unfold settle
    cases h with
    | declared hparsed hraw hl =>
      refine bind_eq_ok.mpr ⟨ref, hparsed, ?_⟩
      rw [hraw]
      exact bind_eq_ok.mpr ⟨_, hl, rfl⟩
    | required hparsed hnone hreq =>
      refine bind_eq_ok.mpr ⟨ref, hparsed, ?_⟩
      rw [hnone, hreq]
      rfl
    | optional hparsed hnone hreq =>
      refine bind_eq_ok.mpr ⟨_, hparsed, ?_⟩
      rw [hnone, hreq]
      rfl

/-- A field is settled where its type is read and its default, if it declares one, has a literal. -/
theorem exists_settle_iff : (∃ ref d, f.SettledAs r ref d) ↔
    ∃ ref, r.parse f.type = .ok ref ∧
      ∀ raw, f.default = some raw → ∃ literal, r.defaultLiteral raw false ref = .ok literal := by
  constructor
  · rintro ⟨ref, d, h⟩
    cases h with
    | declared hparsed hraw hl =>
      refine ⟨ref, hparsed, fun raw' hraw' => ?_⟩
      rw [hraw] at hraw'
      cases hraw'
      exact ⟨_, hl⟩
    | required hparsed hnone _ =>
      refine ⟨ref, hparsed, fun _ hraw => ?_⟩
      rw [hnone] at hraw
      cases hraw
    | optional hparsed hnone _ =>
      refine ⟨_, hparsed, fun _ hraw => ?_⟩
      rw [hnone] at hraw
      cases hraw
  · rintro ⟨ref, hparsed, hl⟩
    cases hd : f.default with
    | some raw =>
      obtain ⟨literal, hl⟩ := hl raw hd
      exact ⟨ref, _, .declared hparsed hd hl⟩
    | none =>
      cases hreq : f.required with
      | true => exact ⟨ref, none, .required hparsed hd hreq⟩
      | false => exact ⟨_, _, .optional hparsed hd hreq⟩

/-- What is written for a default is not the call that gives an attribute its alias. -/
theorem SettledAs.ne_fieldCall (h : f.SettledAs r ref d) {s : String} (hs : d = some s)
    (default : Option String) (declared : String) : s ≠ fieldCall default declared := by
  cases h with
  | declared _ _ hl =>
    cases hs
    exact defaultLiteral_ne_fieldCall hl default declared
  | required _ _ _ => cases hs
  | optional _ _ _ =>
    cases hs
    exact ne_fieldCall_of_head? (by decide) default declared

theorem SettledAs.isSome_iff (h : f.SettledAs r ref d) :
    d.isSome = true ↔ f.default.isSome = true ∨ f.required = false := by
  cases h with
  | declared _ hraw _ => simp [hraw]
  | required _ hnone hreq => simp [hnone, hreq]
  | optional _ hnone hreq => simp [hreq]

/-- The type is made optional exactly where nothing is given and nothing need be. -/
theorem SettledAs.optional_iff (h : f.SettledAs r ref d) :
    (∃ t : TypeExpr, r.localTypeOf ref = t.optional) ↔ f.required = false ∧ f.default = none := by
  cases h with
  | declared hparsed hraw _ =>
    refine iff_of_false (fun ⟨t, ht⟩ => ?_) fun h => by rw [hraw] at h; cases h.2
    exact Registry.localTypeOf_ne_optional (fun _ => Registry.parse_ne_option hparsed) t ht
  | required hparsed _ hreq =>
    refine iff_of_false (fun ⟨t, ht⟩ => ?_) fun h => by rw [hreq] at h; cases h.1
    exact Registry.localTypeOf_ne_optional (fun _ => Registry.parse_ne_option hparsed) t ht
  | @optional ref hparsed hnone hreq =>
    refine iff_of_true ?_ ⟨hreq, hnone⟩
    cases ref with
    | option of => exact absurd rfl (Registry.parse_ne_option hparsed)
    | _ => exact ⟨_, rfl⟩

/-- Attribute of a field. -/
def attributeAs (r : Registry) (f : Field) (ref : TypeRef) (d : Option String) : Source.Parameter :=
  { name := fieldName f.name, type := some (r.localTypeOf ref),
    default := aliasedDefault f.name (fieldName f.name) d }

theorem toAttribute_eq_ok : f.toAttribute r model = .ok a ↔
    ∃ ref d, f.SettledAs r ref d ∧ a = f.attributeAs r ref d := by
  constructor
  · intro h
    obtain ⟨⟨ref, d⟩, hs, h⟩ := bind_eq_ok.mp h
    rw [pure_eq_ok] at h
    subst h
    exact ⟨ref, d, settle_eq_ok.mp (mapError_eq_ok.mp hs), rfl⟩
  · rintro ⟨ref, d, hs, rfl⟩
    exact bind_eq_ok.mpr ⟨(ref, d), mapError_eq_ok.mpr (settle_eq_ok.mpr hs), rfl⟩

/-- **An attribute keeps a field**: its name is the one made of the field's, it has the type and is
    set to the default that the field is settled as, and it carries the declared name where its own is
    another one. -/
structure KeptBy (r : Registry) (f : Field) (a : Source.Parameter) : Prop where
  name : a.name = fieldName f.name
  settled : ∃ ref d, f.SettledAs r ref d ∧ a.type = some (r.localTypeOf ref) ∧
    a.default = if a.name = f.name then d else some (fieldCall d f.name)
  aliased : a.CarriesAlias ↔ a.name ≠ f.name
  defaulted : a.CarriesDefault ↔ f.default.isSome = true ∨ f.required = false
  optional : (∃ t : TypeExpr, a.type = some t.optional) ↔ f.required = false ∧ f.default = none

theorem name_attributeAs : (f.attributeAs r ref d).name = fieldName f.name := by
  unfold attributeAs
  dsimp only

theorem default_attributeAs : (f.attributeAs r ref d).default =
    if (f.attributeAs r ref d).name = f.name then d else some (fieldCall d f.name) := by
  rw [name_attributeAs, ← aliasedDefault_eq]
  unfold attributeAs
  dsimp only

theorem SettledAs.carriesAlias_iff (h : f.SettledAs r ref d) :
    (f.attributeAs r ref d).CarriesAlias ↔ (f.attributeAs r ref d).name ≠ f.name := by
  unfold Source.Parameter.CarriesAlias
  rw [default_attributeAs]
  split
  · rename_i hsame
    exact iff_of_false (fun ⟨d', n, hd⟩ => h.ne_fieldCall hd d' n rfl) fun hne => hne hsame
  · rename_i hne
    exact iff_of_true ⟨d, f.name, rfl⟩ hne

theorem SettledAs.carriesDefault_iff (h : f.SettledAs r ref d) :
    (f.attributeAs r ref d).CarriesDefault ↔ d.isSome = true := by
  unfold Source.Parameter.CarriesDefault
  rw [default_attributeAs]
  split
  · constructor
    · rintro ⟨s, hs, _⟩
      rw [hs]
      rfl
    · intro hd
      obtain ⟨s, hs⟩ := Option.isSome_iff_exists.mp hd
      exact ⟨s, hs, h.ne_fieldCall hs none⟩
  · cases d with
    | none => exact iff_of_false (fun ⟨_, hs, hn⟩ => hn f.name (Option.some.inj hs).symm) nofun
    | some d => exact iff_of_true ⟨_, rfl, fieldCall_some_ne d f.name⟩ rfl

theorem keptBy_attributeAs (h : f.SettledAs r ref d) : f.KeptBy r (f.attributeAs r ref d) where
  name := name_attributeAs
  settled := ⟨ref, d, h, rfl, default_attributeAs⟩
  aliased := h.carriesAlias_iff
  defaulted := h.carriesDefault_iff.trans h.isSome_iff
  optional := by
    have htype : ∀ t : TypeExpr, (f.attributeAs r ref d).type = some t.optional ↔
        r.localTypeOf ref = t.optional := fun _ => Option.some_inj
    simp only [htype, h.optional_iff]

/-- A field has no attribute where its type is not read or its default has no literal. -/
theorem not_exists_toAttribute_iff : (¬ ∃ a, f.toAttribute r model = .ok a) ↔
    (∃ c, r.parse f.type = .error c) ∨ ∃ raw ref c, f.default = some raw ∧
      r.parse f.type = .ok ref ∧ r.defaultLiteral raw false ref = .error c := by
  have hok : (∃ a, f.toAttribute r model = .ok a) ↔ ∃ ref d, f.SettledAs r ref d :=
    ⟨fun ⟨_, ha⟩ => let ⟨ref, d, h, _⟩ := toAttribute_eq_ok.mp ha; ⟨ref, d, h⟩,
      fun ⟨ref, d, h⟩ => ⟨_, toAttribute_eq_ok.mpr ⟨ref, d, h, rfl⟩⟩⟩
  rw [hok, exists_settle_iff]
  cases hp : r.parse f.type with
  | error c => simp
  | ok ref =>
    cases hd : f.default with
    | none => simp
    | some raw =>
      simpa using (exists_error_iff_not_exists_ok (x := r.defaultLiteral raw false ref)).symm

end Field

/-! ## 4. Models -/

/-- No attribute of a field has the name of the attribute that every model has. -/
theorem fieldName_ne_modelConfig (s : String) : fieldName s ≠ modelConfig.name := by
  have hlast : ∀ name : String, name ++ "_" ≠ "model_config" := by
    intro name h
    have hl := congrArg (fun s : String => s.toList.getLast?) h
    rw [String.toList_append] at hl
    simp at hl
  intro h
  unfold fieldName at h
  dsimp only at h
  split at h
  · exact hlast _ h
  · rename_i hn
    rw [h] at hn
    exact hn (by decide)

theorem modelAttributes_cons_eq_ok {r : Registry} {model : String} {seen : List String} {f : Field}
    {fs : List Field} {as : List Source.Parameter} :
    modelAttributes r model seen (f :: fs) = .ok as ↔ fieldName f.name ∉ seen ∧
      ∃ a, f.toAttribute r model = .ok a ∧ ∃ rest,
        modelAttributes r model (fieldName f.name :: seen) fs = .ok rest ∧ as = a :: rest := by
  rw [modelAttributes]
  constructor
  · intro h
    split at h
    · cases h
    · rename_i hnew
      obtain ⟨a, ha, h⟩ := bind_eq_ok.mp h
      obtain ⟨rest, hrest, h⟩ := bind_eq_ok.mp h
      rw [pure_eq_ok] at h
      exact ⟨by simpa using hnew, a, ha, rest, hrest, h.symm⟩
  · rintro ⟨hnew, a, ha, rest, hrest, rfl⟩
    rw [if_neg (by simpa using hnew)]
    exact bind_eq_ok.mpr ⟨a, ha, bind_eq_ok.mpr ⟨rest, hrest, rfl⟩⟩

/-- Attributes are made of the fields where their names are new and distinct. -/
theorem modelAttributes_eq_ok {r : Registry} {model : String} {seen : List String}
    {fs : List Field} {as : List Source.Parameter} : modelAttributes r model seen fs = .ok as ↔
      List.Forall₂ (fun f a => f.toAttribute r model = .ok a) fs as ∧
        (fs.map fun f => fieldName f.name).Nodup ∧ ∀ f ∈ fs, fieldName f.name ∉ seen :=
  gather_eq_ok (modelAttributes r model) (fun _ => rfl) fun _ _ _ _ => modelAttributes_cons_eq_ok

namespace ModelType

variable {r : Registry} {m : ModelType} {c : Source.Class}

/-- A class of a model has the attributes of the fields, where these have names of their own. -/
theorem toClass_eq_ok : m.toClass r = .ok c ↔
    ∃ as, modelAttributes r m.name [] m.fields = .ok as ∧
      c = { name := Registry.localClass m.name, inherits := ["BaseModel"],
            description := m.description, parameters := modelConfig :: as } := by
  unfold toClass
  cases modelAttributes r m.name [] m.fields with
  | error cause => simp
  | ok as => simp [eq_comm]

/-- **A class keeps a model**: one attribute for each field, in order, after the one that every model
    has, all under names of their own. -/
structure KeptBy (r : Registry) (m : ModelType) (c : Source.Class) : Prop where
  attributes : ∃ as, c.parameters = modelConfig :: as ∧ List.Forall₂ (Field.KeptBy r) m.fields as
  distinct : (c.parameters.map (·.name)).Nodup

theorem keptBy_of_toClass (h : m.toClass r = .ok c) : m.KeptBy r c := by
  obtain ⟨as, has, rfl⟩ := toClass_eq_ok.mp h
  obtain ⟨hattributes, hd, _⟩ := modelAttributes_eq_ok.mp has
  have hkept : List.Forall₂ (Field.KeptBy r) m.fields as :=
    hattributes.imp fun f a ha => by
      obtain ⟨ref, d, hs, rfl⟩ := Field.toAttribute_eq_ok.mp ha
      exact Field.keptBy_attributeAs hs
  have hnames : (m.fields.map fun f => fieldName f.name) = as.map (·.name) :=
    map_eq_of_forall₂ hkept fun _ _ ha => ha.name.symm
  refine ⟨⟨as, rfl, hkept⟩, List.nodup_cons.mpr ⟨?_, hnames ▸ hd⟩⟩
  rw [← hnames, List.mem_map]
  rintro ⟨f, _, hf⟩
  exact fieldName_ne_modelConfig f.name hf

/-- A model is refused exactly where two of its attributes would have one name, the type of a field is
    not read, or a declared default has no literal. -/
theorem exists_error_iff : (∃ e, m.toClass r = .error e) ↔
    ¬ (m.fields.map fun f => fieldName f.name).Nodup ∨
      (∃ f ∈ m.fields, ∃ c, r.parse f.type = .error c) ∨
      ∃ f ∈ m.fields, ∃ raw ref c, f.default = some raw ∧ r.parse f.type = .ok ref ∧
        r.defaultLiteral raw false ref = .error c := by
  rw [exists_error_iff_not_exists_ok, exists_ok_iff toClass_eq_ok,
    exists_gather_iff _ fun _ _ _ => modelAttributes_eq_ok, not_and_or, or_comm]
  simp only [not_forall, exists_prop, Field.not_exists_toAttribute_iff, and_or_left, exists_or]

end ModelType

/-- **Members and attributes are one to one with what is declared**: every class that is made of an enum
    or a model keeps it, and none is made exactly where two names are the same or, of a model, where a
    type or a default of a field cannot be rendered. In texts, the 2048 characters from U+10A000 stand
    for lone surrogates. -/
theorem toClass_keeps (r : Registry) :
    (∀ e : EnumType, (∀ c, e.toClass = .ok c → e.KeptBy c) ∧
      ((∃ f, e.toClass = .error f) ↔ ¬ (e.values.map fun v => enumMemberName v.name).Nodup)) ∧
    ∀ m : ModelType, (∀ c, m.toClass r = .ok c → m.KeptBy r c) ∧
      ((∃ e, m.toClass r = .error e) ↔
        ¬ (m.fields.map fun f => fieldName f.name).Nodup ∨
          (∃ f ∈ m.fields, ∃ c, r.parse f.type = .error c) ∨
          ∃ f ∈ m.fields, ∃ raw ref c, f.default = some raw ∧ r.parse f.type = .ok ref ∧
            r.defaultLiteral raw false ref = .error c) :=
  ⟨fun _ => ⟨fun _ => EnumType.keptBy_of_toClass, EnumType.exists_error_iff⟩,
    fun _ => ⟨fun _ => ModelType.keptBy_of_toClass, ModelType.exists_error_iff⟩⟩

/-- Enum of values with the names given. -/
def listing (names : List String) : EnumType :=
  { name := "field", values := names.map fun name => ⟨name, none⟩ }

/-- Model with a field for each way in which an attribute is set; the class of the enum has the name
    of the call that gives an alias. -/
def orderModel : ModelType :=
  { name := "order"
    fields := [⟨"note", "string", true, none, none⟩, ⟨"unitPrice", "long", true, some "7", none⟩,
      ⟨"model_config", "[string]", false, none, none⟩, ⟨"paid", "boolean", false, none, none⟩,
      ⟨"size", "field", true, some "x-l", none⟩] }

/-- Service with the model and an enum. -/
def ordering : Service :=
  { name := "api", enums := [listing ["1", "None", "x-l"]], models := [orderModel] }

/-- Names that are a numeral, a reserved word and the attribute that every model has are kept apart;
    values that differ in letter case only are refused. -/
theorem toClass_keeps_ordering :
    ∃ r, Registry.ofService ordering Dialect.aiohttp = .ok r ∧
      (∃ c, (listing ["1", "None", "x-l"]).toClass = .ok c ∧
        (listing ["1", "None", "x-l"]).KeptBy c ∧
        c.parameters.map (·.name) = ["VALUE_1", "NONE", "X_L"]) ∧
      (∃ f, (listing ["xl", "XL"]).toClass = .error f) ∧
      ∃ c, orderModel.toClass r = .ok c ∧ orderModel.KeptBy r c ∧
        c.parameters.map (·.name) =
          ["model_config", "note", "unit_price", "model_config_", "paid", "size"] := by
  have keeps := toClass_keeps
    ⟨Dialect.aiohttp, ordering.enums, [("field", .enum), ("order", .model)]⟩
  refine ⟨_, rfl, ⟨_, rfl, (keeps.1 _).1 _ rfl, by decide⟩, (keeps.1 _).2.mpr (by decide), ?_⟩
  exact ⟨_, rfl, (keeps.2 _).1 _ rfl, by decide⟩

end ClientGen
