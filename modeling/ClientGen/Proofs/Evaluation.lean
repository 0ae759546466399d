import ClientGen.Number.Decimal
import ClientGen.Proofs.Casing
import ClientGen.Proofs.Constructors
import ClientGen.Proofs.Defaults
import ClientGen.Text.Identifier

/-!
# Defaults when generated code runs

The literal of a default is evaluated when the generated module is imported. Some defaults are
looked at before a literal is made of them and some are not, so a literal may fail only then. This
file fixes

* `Expression.read?`: the expressions that literals are;
* `Registry.read?_of_defaultLiteral`: literals are expressions, but for the doubles that no numeral
  writes, and what they call;
* `Registry.evaluates`: whether an expression has a value where the generated code puts it;
* `Registry.fate`, `Registry.meets_fate`: for every type and every text, whether it is refused as a
  default, becomes a literal with a value, or becomes one that fails;
* `Registry.exists_unchecked_default`: texts of the last sort.
-/

namespace ClientGen

open ClientGen.Text ClientGen.Number

/-! ## 1. Expressions -/

/-- Expression that the literal of a default is. -/
inductive Expression where
  | text (s : String)
  | truth (b : Bool)
  | number (s : String)
  | call (callee argument : String)
  deriving DecidableEq, Repr

namespace Expression

/-- Truth value or number that a text is. -/
def ofWord? (s : String) : Option Expression :=
  if s = "True" then some (.truth true)
  else if s = "False" then some (.truth false)
  else if isNumber s then some (.number s)
  else none

/-- Expression that a text is: a quoted text, a call with one, a truth value or a number. A bare
    name is none. -/
def read? (s : String) : Option Expression :=
  match unquoted? s with
  | some t => some (.text t)
  | none =>
    match s.toList.dropWhile (· ≠ '(') with
    | [] => ofWord? s
    | _ :: cs =>
      if cs.getLast? = some ')' then
        (unquoted? (String.ofList cs.dropLast)).map
          (.call (String.ofList (s.toList.takeWhile (· ≠ '('))))
      else none

theorem read?_quoted (t : String) : read? (quoted t) = some (.text t) := by
  rw [read?, unquoted?_quoted]

theorem unquoted?_eq_none {s : String} (h : ∀ c, s.toList.head? = some c → c ≠ '\'' ∧ c ≠ '"') :
    unquoted? s = none := by
  unfold unquoted?
  split
  · rename_i q cs hs
    obtain ⟨hsingle, hdouble⟩ := h q (by rw [hs]; rfl)
    rw [if_neg (by simp [hsingle, hdouble])]
  · rfl

theorem read?_number {s : String} (h : isNumber s = true) : read? s = some (.number s) := by
  have hchar : ∀ c ∈ s.toList, isNumberChar c = true := fun _ => isNumberChar_of_isNumber h
  have hquote : unquoted? s = none := by
    refine unquoted?_eq_none fun c hc => ?_
    have hn := hchar c (List.mem_of_head? hc)
    constructor <;>
    · rintro rfl
      exact absurd hn (by decide)
  have hcall : s.toList.dropWhile (· ≠ '(') = [] := by
    refine List.dropWhile_eq_nil_iff.mpr fun c hc => decide_eq_true ?_
    rintro rfl
    exact absurd (hchar _ hc) (by decide)
  have htrue : s ≠ "True" := by
    rintro rfl
    exact absurd h (by decide)
  have hfalse : s ≠ "False" := by
    rintro rfl
    exact absurd h (by decide)
  simp only [read?, hquote, hcall, ofWord?, if_neg htrue, if_neg hfalse, if_pos h]

/-- Name that an expression calls. -/
def callee? : Expression → Option String
  | .call callee _ => some callee
  | _ => none

/-- Tells whether a character may stand in a name with dots. -/
def isNameChar (c : Char) : Bool := c.isAlphanum || c = '_' || c = '.'

/-- A name applied to a quoted text is a call. -/
theorem read?_call {callee : String} (t : String) (h : callee.toList.all isNameChar = true) :
    read? (callee ++ "(" ++ quoted t ++ ")") = some (.call callee t) := by
  have hchar : ∀ {c : Char}, c ∈ callee.toList → c ≠ '(' ∧ c ≠ '\'' ∧ c ≠ '"' := by
    intro c hc
    have hn := List.all_eq_true.mp h c hc
    refine ⟨?_, ?_, ?_⟩ <;>
    · rintro rfl
      exact absurd hn (by decide)
  have hlist : (callee ++ "(" ++ quoted t ++ ")").toList =
      callee.toList ++ '(' :: ((quoted t).toList ++ [')']) := by simp
  have hname : ∀ c ∈ callee.toList, decide (c ≠ '(') = true :=
    fun c hc => decide_eq_true (hchar hc).1
  have hstop : ∀ c, ('(' :: ((quoted t).toList ++ [')'])).head? = some c →
      decide (c ≠ '(') = false := by
    rintro _ ⟨⟩
    decide
  have hquote : unquoted? (callee ++ "(" ++ quoted t ++ ")") = none := by
    refine unquoted?_eq_none fun c hc => ?_
    rw [hlist, List.head?_append] at hc
    cases hh : callee.toList.head? with
    | none =>
      rw [hh] at hc
      cases hc
      decide
    | some d =>
      rw [hh] at hc
      cases hc
      exact (hchar (List.mem_of_head? hh)).2
  rw [read?, hquote, hlist, dropWhile_append_of_stop hname hstop,
    takeWhile_append_of_stop hname hstop]
  simp [unquoted?_quoted]

end Expression

/-! ## 2. Values of expressions -/

/-- Tells whether a class can be declared under a name: it is an identifier and no word that can
    never be a name. -/
def isClassName (s : String) : Bool := s ≠ "" && !startsWithDigit s && !hardKeywords.contains s

namespace Registry

/-- Name under which generated code has the class of a declared type: `qualified` code has it in the
    models module, which it imports. -/
def boundName (name : String) (qualified : Bool) : String :=
  if qualified then "models." ++ localClass name else localClass name

/-- Constructors that literals of primitives call. -/
def constructors : List String := ["decimal.Decimal", "uuid.UUID", "datetime.date.fromisoformat"]

/-- Tells whether generated code has something to call under a name that accepts an argument: a
    constructor accepts what it can read, an enum the names of its values. -/
def accepts (r : Registry) (qualified : Bool) (callee argument : String) : Bool :=
  if callee = "decimal.Decimal" then (checkDecimal argument).isOk
  else if callee = "uuid.UUID" then acceptsUuid argument
  else if callee = "datetime.date.fromisoformat" then acceptsDate argument
  else r.enums.any fun e => isClassName (localClass e.name) &&
    callee = boundName e.name qualified && (e.values.map (·.name)).contains argument

/-- Tells whether a text is an expression that has a value in generated code. Nothing is bound to
    the names that doubles without a numeral are written as. -/
def evaluates (r : Registry) (qualified : Bool) (s : String) : Bool :=
  match Expression.read? s with
  | some (.call callee argument) => r.accepts qualified callee argument
  | some _ => true
  | none => false

variable {r : Registry} {s : Service} {settings : Settings} {q : Bool}

theorem evaluates_quoted (t : String) : r.evaluates q (quoted t) = true := by
  rw [evaluates, Expression.read?_quoted]

theorem evaluates_number {t : String} (h : isNumber t = true) : r.evaluates q t = true := by
  rw [evaluates, Expression.read?_number h]

theorem evaluates_eq_false {t : String} (h : Expression.read? t = none) :
    r.evaluates q t = false := by
  rw [evaluates, h]

theorem evaluates_truth (b : Bool) : r.evaluates q (if b then "True" else "False") = true := by
  have hread : ∀ b : Bool, Expression.read? (if b then "True" else "False") = some (.truth b) := by
    decide
  rw [evaluates, hread]

theorem evaluates_call (callee t : String) (h : callee.toList.all Expression.isNameChar = true) :
    r.evaluates q (callee ++ "(" ++ quoted t ++ ")") = r.accepts q callee t := by
  rw [evaluates, Expression.read?_call t h]

/-! ## 3. What becomes of a default -/

/-- What becomes of a text as a default: it is refused, or its literal has a value, or its literal
    fails. -/
inductive Fate where
  | refused | value | failure
  deriving DecidableEq, Repr

/-- Fate of a text that is looked at: it must pass to become a literal. -/
def Fate.checked (passes : Bool) : Fate := if passes then .value else .refused

/-- Fate of a text that is not looked at. -/
def Fate.unchecked (fits : Bool) : Fate := if fits then .value else .failure

/-- What becomes of a text as a default of a primitive. -/
def primitiveFate (p : Primitive) (raw : String) : Fate :=
  match p with
  | .string => .value
  | .integer | .long => .checked (readInteger raw).isOk
  | .double =>
    match readFloat? raw with
    | none => .refused
    | some (.finite _ _ _) => .value
    | some _ => .failure
  | .decimal => .checked (checkDecimal raw).isOk
  | .boolean => .checked (toLower raw = "true" || toLower raw = "false")
  | .uuid => .unchecked (acceptsUuid raw)
  | .date => .unchecked (acceptsDate raw)
  | .dateTime | .object | .unit => .refused

/-- **What becomes of a text as a default.** Of an enum only listed names are defaults, and these
    have a value if the class can be declared. -/
def fate (r : Registry) (raw : String) : TypeRef → Fate
  | .option of => r.fate raw of
  | .primitive p => primitiveFate p raw
  | .named .enum name =>
    if r.enums.any fun e => e.name = name && (e.values.map (·.name)).contains raw then
      .unchecked (isClassName (localClass name))
    else .refused
  | _ => .refused

/-- **A text meets a fate as a default:** refused, it has no literal; else it has one, which has a
    value in generated code or has none. -/
def Meets (r : Registry) (q : Bool) (raw : String) (ref : TypeRef) : Fate → Prop
  | .refused => ∃ c, r.defaultLiteral raw q ref = .error c
  | .value => ∃ literal, r.defaultLiteral raw q ref = .ok literal ∧ r.evaluates q literal = true
  | .failure => ∃ literal, r.defaultLiteral raw q ref = .ok literal ∧ r.evaluates q literal = false

/-- A literal of an enum is of a value that some enum of the name lists. -/
theorem exists_of_enumLiteral {name raw literal : String}
    (h : r.enumLiteral name raw q = .ok literal) :
    ∃ e ∈ r.enums, e.name = name ∧ raw ∈ e.values.map (·.name) := by
  unfold enumLiteral at h
  dsimp only at h
  split at h
  · rename_i hm
    cases hf : r.enums.find? (·.name = name) with
    | none =>
      rw [hf] at hm
      cases hm
    | some e =>
      rw [hf] at hm
      exact ⟨e, List.mem_of_find?_eq_some hf, by simpa using List.find?_some hf, by simpa using hm⟩
  · cases h

theorem isNameChar_boundName (name : String) (q : Bool) :
    (boundName name q).toList.all Expression.isNameChar = true := by
  have hclass : (localClass name).toList.all Expression.isNameChar = true :=
    List.all_eq_true.mpr fun c hc => by
      rw [Expression.isNameChar, isAlphanum_of_mem_pascalCase hc]
      rfl
  cases q with
  | false => exact hclass
  | true =>
    rw [boundName, if_pos rfl, String.toList_append, List.all_append, hclass, Bool.and_true]
    decide

/-- No class has the name of one of the constructors that literals call. -/
theorem boundName_ne (name : String) (q : Bool) : boundName name q ≠ "decimal.Decimal" ∧
    boundName name q ≠ "uuid.UUID" ∧ boundName name q ≠ "datetime.date.fromisoformat" := by
  cases q with
  | false => exact ⟨localClass_ne name rfl, localClass_ne name rfl, localClass_ne name rfl⟩
  | true =>
    have hhead : (boundName name true).toList.head? = some 'm' := by
      rw [boundName, if_pos rfl, String.toList_append]
      rfl
    have hne : ∀ t : String, t.toList.head? ≠ some 'm' → boundName name true ≠ t := by
      rintro t ht rfl
      exact ht hhead
    exact ⟨hne _ (by decide), hne _ (by decide), hne _ (by decide)⟩

theorem localClass_eq_of_boundName {name name' : String}
    (h : boundName name q = boundName name' q) : localClass name = localClass name' := by
  cases q with
  | false => exact h
  | true => exact (String.append_right_inj "models.").mp h

theorem className_eq_boundName (h : q = true → r.settings.modelsNamespace = "models")
    (name : String) : r.className name q = boundName name q := by
  cases q with
  | false => rfl
  | true => simp [className, boundName, h rfl]

/-- A literal of a primitive is an expression, or a double that no numeral writes; what it calls is a
    constructor. -/
theorem read?_of_primitiveLiteral {p : Primitive} {raw literal : String}
    (h : primitiveLiteral p raw = .ok literal) : literal ∈ ["nan", "inf", "-inf"] ∨
      ∃ x, Expression.read? literal = some x ∧ ∀ callee ∈ x.callee?, callee ∈ constructors := by
  have plain : ∀ {x : Expression}, x.callee? = none → ∀ callee ∈ x.callee?, callee ∈ constructors := by
    intro x hx callee hc
    rw [hx] at hc
    cases hc
  have call : ∀ callee ∈ constructors, ∃ x,
      Expression.read? (callee ++ "(" ++ quoted raw ++ ")") = some x ∧
        ∀ callee ∈ x.callee?, callee ∈ constructors := by
    intro callee hm
    have hchars : ∀ callee ∈ constructors, callee.toList.all Expression.isNameChar = true := by decide
    refine ⟨_, Expression.read?_call raw (hchars callee hm), fun other ho => ?_⟩
    cases ho
    exact hm
  cases p with
  | string =>
    cases h
    exact .inr ⟨_, Expression.read?_quoted raw, plain rfl⟩
  | integer | long =>
    rw [primitiveLiteral] at h
    split at h
    · rename_i hn
      cases h
      exact .inr ⟨_, Expression.read?_number
        (isNumber_integerText (length_toString_of_readInteger hn)), plain rfl⟩
    · cases h
  | double =>
    rw [primitiveLiteral] at h
    split at h
    · rename_i x _
      cases h
      cases x with
      | nan => exact .inl (by decide)
      | infinite negative => exact .inl (by cases negative <;> decide)
      | finite negative m e =>
        exact .inr ⟨_, Expression.read?_number (isNumber_text negative m e), plain rfl⟩
    · cases h
  | decimal =>
    rw [primitiveLiteral] at h
    split at h
    · cases h
      exact .inr (call "decimal.Decimal" (by decide))
    · cases h
  | boolean =>
    simp only [primitiveLiteral] at h
    split at h
    · cases h
      exact .inr ⟨.truth true, by decide, plain rfl⟩
    · split at h
      · cases h
        exact .inr ⟨.truth false, by decide, plain rfl⟩
      · cases h
  | uuid =>
    cases h
    exact .inr (call "uuid.UUID" (by decide))
  | date =>
    cases h
    exact .inr (call "datetime.date.fromisoformat" (by decide))
  | dateTime | object | unit => cases h

/-- The literal of a default is an expression, or a double that no numeral writes; what it calls is a
    constructor or the class of an enum. -/
theorem read?_of_defaultLiteral (hq : q = true → r.settings.modelsNamespace = "models")
    {raw literal : String} {ref : TypeRef} (h : r.defaultLiteral raw q ref = .ok literal) :
    literal ∈ ["nan", "inf", "-inf"] ∨ ∃ x, Expression.read? literal = some x ∧
      ∀ callee ∈ x.callee?, callee ∈ constructors ∨ ∃ e ∈ r.enums, callee = boundName e.name q := by
  induction ref with
  | option of ih => exact ih h
  | list of _ => cases h
  | map of _ => cases h
  | primitive p =>
    rw [defaultLiteral_primitive, mapError_eq_ok] at h
    exact (read?_of_primitiveLiteral h).imp_right fun ⟨x, hx, hcallee⟩ =>
      ⟨x, hx, fun callee hc => .inl (hcallee callee hc)⟩
  | named kind name =>
    cases kind with
    | model => cases h
    | union => cases h
    | enum =>
      rw [defaultLiteral_enum, mapError_eq_ok] at h
      obtain ⟨e, he, rfl, _⟩ := exists_of_enumLiteral h
      rw [eq_of_enumLiteral h, className_eq_boundName hq,
        Expression.read?_call raw (isNameChar_boundName e.name q)]
      refine .inr ⟨_, rfl, fun callee hc => ?_⟩
      cases hc
      exact .inr ⟨e, he, rfl⟩

/-- The class of an enum accepts a listed name exactly when it can be declared. -/
theorem accepts_boundName {e : EnumType} (he : e ∈ r.enums) {raw : String}
    (hraw : raw ∈ e.values.map (·.name)) :
    r.accepts q (boundName e.name q) raw = isClassName (localClass e.name) := by
  obtain ⟨hdecimal, huuid, hdate⟩ := boundName_ne e.name q
  rw [accepts, if_neg hdecimal, if_neg huuid, if_neg hdate]
  cases hc : isClassName (localClass e.name) with
  | true =>
    refine List.any_eq_true.mpr ⟨e, he, ?_⟩
    rw [hc, decide_eq_true rfl, List.contains_iff_mem.mpr hraw]
    rfl
  | false =>
    refine List.any_eq_false.mpr fun e' _ => ?_
    rw [Bool.and_eq_true, Bool.and_eq_true]
    rintro ⟨⟨hc', hname⟩, -⟩
    rw [localClass_eq_of_boundName (of_decide_eq_true hname), hc'] at hc
    cases hc

theorem meets_unchecked {raw : String} {ref : TypeRef} {fits : Bool} (literal : String)
    (hl : r.defaultLiteral raw q ref = .ok literal) (he : r.evaluates q literal = fits) :
    r.Meets q raw ref (.unchecked fits) := by
  cases fits with
  | true => exact ⟨literal, hl, he⟩
  | false => exact ⟨literal, hl, he⟩

/-- Defaults of enums meet their fate. -/
theorem meets_fate_enum (h : DeclaredBy s settings r)
    (hq : q = true → r.settings.modelsNamespace = "models") (raw name : String) :
    r.Meets q raw (.named .enum name) (r.fate raw (.named .enum name)) := by
  rw [fate]
  split
  · rename_i hlisted
    obtain ⟨e, he, hl⟩ := List.any_eq_true.mp hlisted
    rw [Bool.and_eq_true, decide_eq_true_iff, List.contains_iff_mem] at hl
    obtain ⟨rfl, hraw⟩ := hl
    have hlit := (enumLiteral_eq_ok (q := q) h (h.enums_eq ▸ he)).mpr ⟨hraw, rfl⟩
    refine meets_unchecked (r.className e.name q ++ "(" ++ quoted raw ++ ")") ?_ ?_
    · rw [defaultLiteral_enum, hlit]
      rfl
    · rw [className_eq_boundName hq, evaluates_call _ raw (isNameChar_boundName e.name q),
        accepts_boundName he hraw]
  · rename_i hlisted
    cases hl : r.enumLiteral name raw q with
    | error f => exact ⟨_, by rw [defaultLiteral_enum, hl]; rfl⟩
    | ok literal =>
      obtain ⟨e, he, rfl, hraw⟩ := exists_of_enumLiteral hl
      refine absurd (List.any_eq_true.mpr ⟨e, he, ?_⟩) hlisted
      rw [decide_eq_true rfl, List.contains_iff_mem.mpr hraw]
      rfl

/-- Defaults of primitives meet their fate. -/
theorem meets_fate_primitive (p : Primitive) (raw : String) :
    r.Meets q raw (.primitive p) (primitiveFate p raw) := by
  have hlit : ∀ {literal}, primitiveLiteral p raw = .ok literal →
      r.defaultLiteral raw q (.primitive p) = .ok literal := by
    intro literal h
    rw [defaultLiteral_primitive, h]
    rfl
  have hrefused : ∀ {f}, primitiveLiteral p raw = .error f →
      ∃ c, r.defaultLiteral raw q (.primitive p) = .error c := by
    intro f h
    exact ⟨_, by rw [defaultLiteral_primitive, h]; rfl⟩
  cases p with
  | string => exact ⟨_, hlit rfl, evaluates_quoted raw⟩
  | integer | long =>
    rw [primitiveFate]
    cases hn : readInteger raw with
    | ok n =>
      exact ⟨_, hlit (by rw [primitiveLiteral, hn]),
        evaluates_number (isNumber_integerText (length_toString_of_readInteger hn))⟩
    | error f => exact hrefused (by rw [primitiveLiteral, hn])
  | double =>
    rw [primitiveFate]
    cases hx : readFloat? raw with
    | none => exact hrefused (by rw [primitiveLiteral, hx])
    | some x =>
      have hl : r.defaultLiteral raw q (.primitive .double) = .ok x.text :=
        hlit (by rw [primitiveLiteral, hx])
      cases x with
      | nan => exact ⟨_, hl, evaluates_eq_false (by decide)⟩
      | infinite negative =>
        refine ⟨_, hl, evaluates_eq_false ?_⟩
        cases negative <;> decide
      | finite negative m e => exact ⟨_, hl, evaluates_number (isNumber_text negative m e)⟩
  | decimal =>
    rw [primitiveFate]
    cases hd : checkDecimal raw with
    | ok u =>
      have hcall := evaluates_call (r := r) (q := q) "decimal.Decimal" raw (by decide)
      rw [accepts, if_pos rfl, hd] at hcall
      have hok : primitiveLiteral .decimal raw =
          .ok ("decimal.Decimal" ++ "(" ++ quoted raw ++ ")") := by
        rw [primitiveLiteral, hd]
        rfl
      exact ⟨_, hlit hok, hcall⟩
    | error f => exact hrefused (by rw [primitiveLiteral, hd])
  | boolean =>
    rw [primitiveFate]
    by_cases htrue : toLower raw = "true"
    · rw [decide_eq_true htrue, Bool.true_or]
      exact ⟨_, hlit (by simp [primitiveLiteral, htrue]), evaluates_truth true⟩
    · by_cases hfalse : toLower raw = "false"
      · rw [decide_eq_true hfalse, Bool.or_true]
        exact ⟨_, hlit (by simp [primitiveLiteral, hfalse]), evaluates_truth false⟩
      · rw [decide_eq_false htrue, decide_eq_false hfalse]
        exact hrefused (f := .truth) (by simp [primitiveLiteral, htrue, hfalse])
  | uuid =>
    exact meets_unchecked _ (hlit rfl) (evaluates_call "uuid.UUID" raw (by decide))
  | date =>
    exact meets_unchecked _ (hlit rfl)
      (evaluates_call "datetime.date.fromisoformat" raw (by decide))
  | dateTime => exact hrefused rfl
  | object => exact hrefused rfl
  | unit => exact hrefused rfl

/-- **Every text meets its fate as a default** of every type. In texts, the 2048 characters from
    U+10A000 stand for lone surrogates. -/
theorem meets_fate (h : ofService s settings = .ok r)
    (hq : q = true → settings.modelsNamespace = "models") (raw : String) (ref : TypeRef) :
    r.Meets q raw ref (r.fate raw ref) := by
  have hd := ofService_eq_ok.mp h
  rw [← hd.settings_eq] at hq
  induction ref with
  | primitive p => exact meets_fate_primitive p raw
  | named kind name =>
    cases kind with
    | enum => exact meets_fate_enum hd hq raw name
    | model => exact ⟨_, rfl⟩
    | union => exact ⟨_, rfl⟩
  | list of _ => exact ⟨_, rfl⟩
  | map of _ => exact ⟨_, rfl⟩
  | option of ih => exact ih

/-- Listed names of an enum have a value, texts that are no integers are refused, and texts that are
    no identifiers become literals that fail. -/
theorem meets_fate_red_many : ∃ r, ofService quotedColors Dialect.aiohttp = .ok r ∧
    r.Meets true "red" (.option (.named .enum "color")) .value ∧
    r.Meets true "many" (.primitive .integer) .refused ∧
    r.Meets true "many" (.primitive .uuid) .failure :=
  have hr : ofService quotedColors Dialect.aiohttp =
      .ok ⟨Dialect.aiohttp, quotedColors.enums, declarations quotedColors⟩ := rfl
  ⟨_, hr, meets_fate hr (fun _ => rfl) "red" _, meets_fate hr (fun _ => rfl) "many" _,
    meets_fate hr (fun _ => rfl) "many" _⟩

/-- Texts that stand for no identifier, no finite double and no day become literals all the same,
    and none of these has a value. -/
theorem exists_unchecked_default : ∃ r, ofService { name := "api" } Dialect.aiohttp = .ok r ∧
    r.defaultLiteral "many" true (.primitive .uuid) = .ok "uuid.UUID('many')" ∧
    r.evaluates true "uuid.UUID('many')" = false ∧
    r.defaultLiteral "nan" true (.primitive .double) = .ok "nan" ∧ r.evaluates true "nan" = false ∧
    r.defaultLiteral "tomorrow" true (.primitive .date) =
      .ok "datetime.date.fromisoformat('tomorrow')" ∧
    r.evaluates true "datetime.date.fromisoformat('tomorrow')" = false :=
  ⟨_, rfl, by decide, by decide, by decide, by decide, by decide, by decide⟩

end Registry

end ClientGen
