import ClientGen.Proofs.Dispatch
import ClientGen.Proofs.Methods

/-!
# Return types and returned values

A method returns what its dispatch table says; its return type is made from the branches of
that table. This file fixes

* `TypeExpr.alternatives`: the types that a return type names inside its option and union;
* `ClientMethod.Admits`: what a return type must say of an outcome;
* `ClientMethod.returnType_admits_iff`: a return type admits every value returned, exactly where
  the type of the optional success is that of a success with a branch of its own.
-/

namespace ClientGen

open ClientGen.Text

/-! ## 1. Types that a return type names -/

namespace TypeExpr

/-- Tells whether a type is an option. -/
def isOptional : TypeExpr → Bool
  | .wrap "Optional" [_] => true
  | _ => false

/-- Type inside the option, where there is one. -/
def unwrapped : TypeExpr → TypeExpr
  | .wrap "Optional" [t] => t
  | t => t

/-- Types that a union joins; any other type stands alone. -/
def joined : TypeExpr → List String
  | .wrap "Union" ts => texts ts
  | t => [t.text]

/-- **Alternatives of a return type**: the types of its union, or itself, inside its option. -/
def alternatives (t : TypeExpr) : List String := t.unwrapped.joined

theorem texts_map_name (ds : List String) : texts (ds.map .name) = ds := by
  induction ds with
  | nil => rfl
  | cons d ds ih => rw [List.map_cons, texts, ih, text]

end TypeExpr

namespace ClientMethod

variable {r : Registry} {e : Endpoint}

/-! ## 2. Types of successes -/

theorem mem_foldl_successTypes {bs : List Outcome} {acc : List String} {d : String} :
    d ∈ bs.foldl (fun ts b =>
      match b.successType? with
      | some d => if ts.contains d then ts else ts ++ [d]
      | none => ts) acc ↔ d ∈ acc ∨ some d ∈ bs.map (·.successType?) := by
  induction bs generalizing acc with
  | nil => simp
  | cons b bs ih =>
    rw [List.foldl_cons, ih, List.map_cons, List.mem_cons]
    cases hb : b.successType? with
    | none => simp
    | some d' =>
      dsimp only
      split
      · rename_i hc
        have hd : d' ∈ acc := List.contains_iff_mem.mp hc
        constructor
        · exact fun h => h.imp id Or.inr
        · rintro (h | h | h)
          · exact Or.inl h
          · exact Or.inl (Option.some.inj h ▸ hd)
          · exact Or.inr h
      · rw [List.mem_append, List.mem_singleton, or_assoc, Option.some.injEq]

theorem mem_successTypes {t : DispatchTable} {d : String} :
    d ∈ successTypes t ↔ some d ∈ t.branches.map (·.successType?) :=
  mem_foldl_successTypes.trans (by simp)

/-- **A success backs a type**: the response that owns its code is a success with a body of
    the type `d`. -/
def Backs (r : Registry) (rs : List Response) (a : Response) (d : String) : Prop :=
  rs.find? (·.code = a.code) = some a ∧ a.isSuccess = true ∧ a.isUnit = false ∧
    ∃ ref, r.parse a.type = .ok ref ∧ (r.typeOf ref).text = d

theorem successType_of_outcomeOf {a : Response} {b : Outcome} {d : String}
    (h : DispatchTable.outcomeOf r e a = .ok b) :
    b.successType? = some d ↔ a.isSuccess = true ∧ a.isUnit = false ∧
      ∃ ref, r.parse a.type = .ok ref ∧ (r.typeOf ref).text = d := by
  cases DispatchTable.outcomeOf_eq_ok.mp h with
  | successUnit hu hs => simp [Outcome.successType?, hu]
  | failureUnit hu hs => simp [Outcome.successType?, hu]
  | success hu hs href => simp [Outcome.successType?, hu, hs, href]
  | failure hu hs href => simp [Outcome.successType?, hs]

/-- The types of successes are those that some success backs. -/
theorem mem_successTypes_iff {t : DispatchTable} {bs : List Outcome} {nils : List String}
    (h : DispatchTable.ConsistsOf r e t bs nils) {d : String} :
    d ∈ successTypes t ↔ ∃ a, Backs r e.operation.responses a d := by
  rw [mem_successTypes, h.branches, List.map_append, List.mem_append]
  constructor
  · rintro (hd | hd)
    · obtain ⟨b, hb, hd⟩ := List.mem_map.mp hd
      obtain ⟨a, ha, hab⟩ := exists_left_of_forall₂ h.own hb
      exact ⟨a, (DispatchTable.mem_owners_iff.mp ha).1, (successType_of_outcomeOf hab).mp hd⟩
    · simp [Outcome.successType?] at hd
  · rintro ⟨a, hf, hs, ht⟩
    obtain ⟨b, hb, hab⟩ :=
      exists_right_of_forall₂ h.own (DispatchTable.mem_owners_of_isSuccess hf hs)
    exact Or.inl (List.mem_map.mpr ⟨b, hb, (successType_of_outcomeOf hab).mpr ⟨hs, ht⟩⟩)

/-! ## 3. Return types -/

theorem alternatives_returnTypeOf (t : DispatchTable) :
    (returnTypeOf t).alternatives = if successTypes t = [] then ["None"] else successTypes t := by
  unfold returnTypeOf
  rcases successTypes t with _ | ⟨d, _ | ⟨d', ds⟩⟩
  · rfl
  · dsimp only [List.isEmpty_nil]
    split <;> rfl
  · have hu : (TypeExpr.union ((d :: d' :: ds).map .name)).joined = d :: d' :: ds :=
      TypeExpr.texts_map_name _
    dsimp only [List.isEmpty_cons]
    split
    · exact hu
    · exact hu

/-- A return type is nothing or an option where some branch returns nothing. -/
theorem isOptional_returnTypeOf {t : DispatchTable}
    (h : t.branches.any (·.isSuccessUnit) = true ∨ t.hasAbsent = true) :
    (returnTypeOf t).text = "None" ∨ (returnTypeOf t).isOptional = true := by
  have ho : (t.branches.any (·.isSuccessUnit) || t.hasAbsent) = true := by
    rw [Bool.or_eq_true]
    exact h
  unfold returnTypeOf
  rcases successTypes t with _ | ⟨d, ds⟩
  · exact Or.inl rfl
  · dsimp only
    rw [if_pos ho]
    exact Or.inr rfl

/-- **A return type admits an outcome** of an endpoint with the responses `rs`: it names the type
    of a body that is read, it is nothing or an option where nothing is returned, and where an
    empty collection is returned it names the type of the optional success. -/
def Admits (r : Registry) (rs : List Response) (t : TypeExpr) : Outcome → Prop
  | .success _ d => d ∈ t.alternatives
  | .successUnit _ => t.text = "None" ∨ t.isOptional = true
  | .successAbsent v =>
    if v = "None" then t.text = "None" ∨ t.isOptional = true
    else ∃ o ∈ DispatchTable.optionalSuccesses rs, ∃ ref, r.parse o.type = .ok ref ∧
      (r.typeOf ref).text ∈ t.alternatives
  | .failure _ _ _ => True
  | .unexpected => True

theorem mem_alternatives_of_mem_successTypes {t : DispatchTable} {d : String}
    (h : d ∈ successTypes t) : d ∈ (returnTypeOf t).alternatives := by
  rw [alternatives_returnTypeOf, if_neg (List.ne_nil_of_mem h)]
  exact h

theorem mem_alternatives_iff {t : DispatchTable} {d : String} (hd : d ≠ "None") :
    d ∈ (returnTypeOf t).alternatives ↔ d ∈ successTypes t := by
  refine ⟨fun h => ?_, mem_alternatives_of_mem_successTypes⟩
  rw [alternatives_returnTypeOf] at h
  split at h
  · exact absurd (List.mem_singleton.mp h) hd
  · exact h

/-- The type of a collection is not that of nothing. -/
theorem text_typeOf_ne {ref : TypeRef} (h : ref.nilText ≠ "None") :
    (r.typeOf ref).text ≠ "None" := by
  cases ref with
  | list of =>
    intro e
    have hd := congrArg (fun s : String => s.toList.head?) e
    simp [Registry.typeOf, Registry.resolve, TypeExpr.list, TypeExpr.text] at hd
  | map of =>
    intro e
    have hd := congrArg (fun s : String => s.toList.head?) e
    simp [Registry.typeOf, Registry.resolve, TypeExpr.dict, TypeExpr.text] at hd
  | primitive p => exact absurd rfl h
  | named kind name => exact absurd rfl h
  | option of => exact absurd rfl h

/-! ## 4. Outcomes that a return type admits -/

/-- Every outcome but an empty collection is admitted. -/
theorem admits_classify {t : DispatchTable} {c : Int}
    (h : ∀ v, t.classify c = .successAbsent v → v = "None") :
    Admits r e.operation.responses (returnTypeOf t) (t.classify c) := by
  cases hc : t.classify c with
  | success code d =>
    obtain ⟨hm, _⟩ := DispatchTable.of_classify hc Outcome.noConfusion
    have hd : some d ∈ t.branches.map (·.successType?) := List.mem_map.mpr ⟨_, hm, rfl⟩
    exact mem_alternatives_of_mem_successTypes (mem_successTypes.mpr hd)
  | successUnit code =>
    obtain ⟨hm, _⟩ := DispatchTable.of_classify hc Outcome.noConfusion
    exact isOptional_returnTypeOf (Or.inl (List.any_eq_true.mpr ⟨_, hm, rfl⟩))
  | successAbsent v =>
    obtain ⟨hm, _⟩ := DispatchTable.of_classify hc Outcome.noConfusion
    rw [Admits, if_pos (h v hc)]
    exact isOptional_returnTypeOf (Or.inr (List.any_eq_true.mpr ⟨_, hm, rfl⟩))
  | failure code d cls => exact trivial
  | unexpected => exact trivial

/-- An empty collection is admitted exactly where a success backs the type of the optional one. -/
theorem admits_notFound_iff {t : DispatchTable} {bs : List Outcome} {nils : List String}
    (h : DispatchTable.ConsistsOf r e t bs nils) {o : Response} {ref : TypeRef}
    (ho : o ∈ DispatchTable.optionalSuccesses e.operation.responses)
    (href : r.parse o.type = .ok ref) (hn : ref.nilText ≠ "None") :
    Admits r e.operation.responses (returnTypeOf t) (t.classify notFoundCode) ↔
      ∃ a, Backs r e.operation.responses a (r.typeOf ref).text := by
  have single : ∀ o' ∈ DispatchTable.optionalSuccesses e.operation.responses, o' = o := by
    rcases h.absent_cases with ⟨ha, _⟩ | ⟨_, o₁, _, ho₁, _⟩
    · exact absurd (DispatchTable.absorbs_iff.mpr ⟨o, ho⟩) (ha ▸ Bool.false_ne_true)
    · rw [ho₁, List.mem_singleton] at ho
      subst ho
      rw [ho₁]
      exact fun o' ho' => List.mem_singleton.mp ho'
  obtain ⟨s, hs, hc⟩ := h.classify_absent ho
  obtain ⟨ref', href', rfl⟩ := DispatchTable.nilValueOf_eq_ok.mp hs
  obtain rfl : ref' = ref := Except.ok.inj (href'.symm.trans href)
  rw [hc, Admits, if_neg hn, ← mem_successTypes_iff h, ← mem_alternatives_iff (text_typeOf_ne hn)]
  constructor
  · rintro ⟨o', ho', ref', href', hm⟩
    rw [single o' ho', href] at href'
    cases href'
    exact hm
  · exact fun hm => ⟨o, ho, ref', href, hm⟩

theorem admits_of_backs {t : DispatchTable} {bs : List Outcome} {nils : List String}
    (h : DispatchTable.ConsistsOf r e t bs nils)
    (hback : ∀ o ∈ DispatchTable.optionalSuccesses e.operation.responses, ∀ ref,
      r.parse o.type = .ok ref → ref.nilText ≠ "None" →
        ∃ a, Backs r e.operation.responses a (r.typeOf ref).text) (c : Int) :
    Admits r e.operation.responses (returnTypeOf t) (t.classify c) := by
  by_cases hv : ∀ v, t.classify c = .successAbsent v → v = "None"
  · exact admits_classify hv
  · obtain ⟨v, hv'⟩ := not_forall.mp hv
    obtain ⟨hcl, hn⟩ := Classical.not_imp.mp hv'
    obtain ⟨rfl, o, ho, hs⟩ := h.of_classify_absent hcl
    obtain ⟨ref, href, rfl⟩ := DispatchTable.nilValueOf_eq_ok.mp hs
    exact (admits_notFound_iff h ho href hn).mpr (hback o ho ref href hn)

/-- Where no code is declared twice, every outcome is admitted. -/
theorem admits_of_nodup_codes {t : DispatchTable} {bs : List Outcome} {nils : List String}
    (h : DispatchTable.ConsistsOf r e t bs nils)
    (hd : (e.operation.responses.map (·.code)).Nodup) (c : Int) :
    Admits r e.operation.responses (returnTypeOf t) (t.classify c) := by
  refine admits_of_backs h (fun o ho ref href hn => ?_) c
  obtain ⟨hmem, hs, _⟩ := DispatchTable.mem_optionalSuccesses.mp ho
  refine ⟨o, find?_of_nodup_map hd hmem, hs, ?_, ref, href, rfl⟩
  rw [Response.isUnit, decide_eq_false_iff_not]
  intro hu
  rw [hu, r.parse_unit] at href
  cases href
  exact hn rfl

/-- **A return type admits every outcome but, at times, an empty collection**: that one it admits
    exactly where a success with a branch of its own has the type of the optional success. -/
theorem returnType_admits_iff {m : ClientMethod} (h : (ofEndpoint r e).outcome = .ok m) :
    (∀ c, (∀ v, m.dispatch.classify c = .successAbsent v → v = "None") →
      Admits r e.operation.responses m.returnType (m.dispatch.classify c)) ∧
    ((∀ c, Admits r e.operation.responses m.returnType (m.dispatch.classify c)) ↔
      ∀ o ∈ DispatchTable.optionalSuccesses e.operation.responses, ∀ ref,
        r.parse o.type = .ok ref → ref.nilText ≠ "None" →
          ∃ a, Backs r e.operation.responses a (r.typeOf ref).text) := by
  obtain ⟨t, ht, _, rfl⟩ := ofEndpoint_eq_ok.mp h
  obtain ⟨bs, nils, hc⟩ := DispatchTable.ofEndpoint_eq_ok.mp ht
  refine ⟨fun c => admits_classify, fun hall o ho ref href hn => ?_, admits_of_backs hc⟩
  exact (admits_notFound_iff hc ho href hn).mp (hall notFoundCode)

/-- A text under one code and an optional list under another, or the same. -/
def textOrList (c d : Int) : List Response := [⟨c, "string", false⟩, ⟨d, "[string]", true⟩]

/-- Under two codes both types are named, and so every outcome is admitted. -/
theorem returnType_admits_iff_two_codes : ∃ m,
    (ofEndpoint ⟨Dialect.aiohttp, [], []⟩ (DispatchTable.answering (textOrList 200 201))).outcome =
      .ok m ∧
    m.returnType.text = "Optional[Union[str, List[str]]]" ∧
    m.dispatch.classify 404 = .successAbsent "[]" ∧
    ∀ c, Admits ⟨Dialect.aiohttp, [], []⟩ (textOrList 200 201) m.returnType
      (m.dispatch.classify c) := by
  refine ⟨_, rfl, rfl, rfl,
    (returnType_admits_iff (e := DispatchTable.answering (textOrList 200 201)) rfl).2.mpr ?_⟩
  intro o ho ref href _
  obtain rfl : o = ⟨201, "[string]", true⟩ := List.mem_singleton.mp ho
  cases href
  exact ⟨⟨201, "[string]", true⟩, rfl, rfl, rfl, _, rfl, rfl⟩

/-- Under one code only the text is named, and yet the empty list is returned. -/
theorem exists_not_admits : ∃ m,
    (ofEndpoint ⟨Dialect.aiohttp, [], []⟩ (DispatchTable.answering (textOrList 200 200))).outcome =
      .ok m ∧
    m.returnType.text = "Optional[str]" ∧
    m.dispatch.classify 404 = .successAbsent "[]" ∧
    ¬ Admits ⟨Dialect.aiohttp, [], []⟩ (textOrList 200 200) m.returnType
      (m.dispatch.classify 404) := by
  refine ⟨_, rfl, rfl, rfl, fun h => ?_⟩
  obtain ⟨o, ho, ref, href, hm⟩ := h
  obtain rfl : o = ⟨200, "[string]", true⟩ := List.mem_singleton.mp ho
  cases href
  exact absurd hm (by decide)

end ClientMethod

end ClientGen
