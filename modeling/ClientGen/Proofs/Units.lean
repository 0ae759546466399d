import ClientGen.Proofs.Grammar
import ClientGen.Proofs.References

/-!
# Answers without a body

Whether an answer has a body is asked twice. The parts that go over the answers compare the text of
the type with the word for the unit; the type itself is read from the text, and white space around
it does not count. This file fixes

* `parse_eq_unit_iff`, `isUnit_resolve_iff`: the notations of the unit, and when a type is it;
* `PadsUnit`, `isUnit_eq_resolve_iff`: where the two ways to ask agree;
* `datatype?_eq_none_text_iff`: the answers whose body has the type of nothing;
* `exists_wrapping_iff`: the services with an error class around nothing;
* `Registry.ofService_tellsUnits`: all of it for a registry that is accepted.
-/

namespace ClientGen

open ClientGen.Text

variable {s : Service} {settings : Settings} {r : Registry} {a : Response} {ref : TypeRef} {q : Bool}

/-! ## 1. Notations of the unit -/

/-- **A notation pads the unit**: it is the word for it with white space around. -/
def PadsUnit (t : String) : Prop := t ≠ "unit" ∧ Spaced "unit".toList t.toList

namespace Registry

/-- The notations of the unit are its word, with white space around it or without. -/
theorem parse_eq_unit_iff (hr : DeclaredBy s settings r) {t : String} :
    r.parse t = .ok (.primitive .unit) ↔ Spaced "unit".toList t.toList := by
  rw [parse_eq_ok_iff hr]
  constructor
  · rintro ⟨hw, _⟩
    cases hw with
    | primitive h => exact h
  · exact fun h => ⟨.primitive (p := .unit) h, trivial⟩

/-- A reference that was read is resolved to the unit where it is the unit. -/
theorem isUnit_resolve_iff {t : String} (href : r.parse t = .ok ref) :
    (r.resolve q ref).isUnit = true ↔ ref = .primitive .unit := by
  cases ref with
  | primitive p => simp [resolve]
  | named kind name => simp [resolve]
  | list of => simp [resolve]
  | map of => simp [resolve]
  | option of => exact (writes_of_parseChars href).2.elim

theorem isUnit_resolve_iff_spaced (hr : DeclaredBy s settings r) (href : r.parse a.type = .ok ref) :
    (r.resolve q ref).isUnit = true ↔ Spaced "unit".toList a.type.toList := by
  rw [isUnit_resolve_iff href, ← parse_eq_unit_iff hr, href, Except.ok.injEq]

/-- **The two ways to ask agree** on every answer whose type does not pad the unit. -/
theorem isUnit_eq_resolve_iff (hr : DeclaredBy s settings r) (href : r.parse a.type = .ok ref) :
    a.isUnit = (r.resolve q ref).isUnit ↔ ¬ PadsUnit a.type := by
  rw [Bool.eq_iff_iff, isUnit_resolve_iff_spaced hr href, Response.isUnit, decide_eq_true_eq, PadsUnit]
  constructor
  · exact fun h hpads => hpads.1 (h.mpr hpads.2)
  · intro h
    refine ⟨fun ht => ht ▸ Spaced.refl _, fun hs => ?_⟩
    by_contra ht
    exact h ⟨ht, hs⟩

/-! ## 2. Types of bodies -/

/-- **A declared type has the class of nothing**: models have no module of their own, and the name of
    the type gives that class. -/
def NamesNothing (r : Registry) (ref : TypeRef) : Prop :=
  ∃ kind name, ref = .named kind name ∧ r.settings.modelsNamespace = "" ∧ localClass name = "None"

theorem className_eq_none_iff {name : String} : r.className name true = "None" ↔
    r.settings.modelsNamespace = "" ∧ localClass name = "None" := by
  unfold className
  rw [Bool.true_and]
  split
  next h =>
    have hdot : '.' ∈ (r.settings.modelsNamespace ++ "." ++ localClass name).toList := by
      rw [String.toList_append, String.toList_append]
      exact List.mem_append_left _ (List.mem_append_right _ List.mem_cons_self)
    refine iff_of_false (fun e => ?_) fun hn => of_decide_eq_true h hn.1
    rw [e] at hdot
    exact absurd hdot (by decide)
  next h => exact (and_iff_right (of_not_not fun hn => h (decide_eq_true hn))).symm

theorem text_wrap_ne_none (w : String) (items : List TypeExpr) :
    (TypeExpr.wrap w items).text ≠ "None" := by
  intro h
  have hlast : (TypeExpr.wrap w items).text.toList.getLast? = some ']' := getLast?_append rfl
  rw [h] at hlast
  exact absurd hlast (by decide)

theorem text_type_eq_none_iff {p : Primitive} : p.type.text = "None" ↔ p = .unit := by
  cases p with
  | object => exact iff_of_false (text_wrap_ne_none _ _) nofun
  | _ => decide

/-- **A type is written as nothing** where it is the unit, or where a class is called so. -/
theorem text_typeOf_eq_none_iff : (r.typeOf ref).text = "None" ↔
    ref = .primitive .unit ∨ r.NamesNothing ref := by
  cases ref with
  | primitive p =>
    have htext : (r.typeOf (.primitive p)).text = p.type.text := rfl
    rw [htext, text_type_eq_none_iff, TypeRef.primitive.injEq]
    exact (or_iff_left fun ⟨_, _, h, _⟩ => nomatch h).symm
  | named kind name =>
    have htext : (r.typeOf (.named kind name)).text = r.className name true := rfl
    rw [htext, className_eq_none_iff]
    constructor
    · exact fun h => .inr ⟨kind, name, rfl, h⟩
    · rintro (h | ⟨_, _, h, hnone⟩)
      · cases h
      · cases h
        exact hnone
  | list of => exact iff_of_false (text_wrap_ne_none _ _) (by rintro (h | ⟨_, _, h, _⟩) <;> cases h)
  | map of => exact iff_of_false (text_wrap_ne_none _ _) (by rintro (h | ⟨_, _, h, _⟩) <;> cases h)
  | option of => exact iff_of_false (text_wrap_ne_none _ _) (by rintro (h | ⟨_, _, h, _⟩) <;> cases h)

end Registry

/-! ## 3. Outcomes -/

/-- An outcome has the type of a body exactly where its answer is not taken for the unit. -/
theorem datatype?_of_answers {b : Outcome} (h : DispatchTable.Answers r a b)
    (href : r.parse a.type = .ok ref) :
    b.datatype? = if a.isUnit then none else some (r.typeOf ref).text := by
  cases h with
  | successUnit hu _ => rw [hu]; rfl
  | failureUnit hu _ => rw [hu]; rfl
  | success hu _ href' =>
    rw [hu]
    cases href.symm.trans href'
    rfl
  | failure hu _ href' =>
    rw [hu]
    cases href.symm.trans href'
    rfl

/-- **An outcome has a body of the type of nothing** where the notation pads the unit, or where a
    class is called so. -/
theorem datatype?_eq_none_text_iff (hr : Registry.DeclaredBy s settings r) {b : Outcome}
    (h : DispatchTable.Answers r a b) (href : r.parse a.type = .ok ref) :
    b.datatype? = some "None" ↔ PadsUnit a.type ∨ r.NamesNothing ref := by
  rw [datatype?_of_answers h href]
  cases hu : a.isUnit with
  | true =>
    have ht : a.type = "unit" := of_decide_eq_true hu
    rw [ht, r.parse_unit] at href
    cases href
    refine iff_of_false nofun ?_
    rintro (hpads | ⟨_, _, h, _⟩)
    · exact hpads.1 ht
    · cases h
  | false =>
    have ht : a.type ≠ "unit" := of_decide_eq_false hu
    have hunit : ref = .primitive .unit ↔ PadsUnit a.type := by
      rw [← Except.ok.injEq (ε := Cause), ← href, Registry.parse_eq_unit_iff hr, PadsUnit,
        and_iff_right ht]
    rw [if_neg Bool.false_ne_true, Option.some.injEq, Registry.text_typeOf_eq_none_iff, hunit]

/-- **How an answer is taken** whose type is read. The type is resolved to the unit where its
    notation is the word for it, padded or not, and only the bare word counts for the outcome: the
    two agree unless the notation pads the unit, and then a body is read that has the type of
    nothing. -/
structure TakenForUnit (r : Registry) (a : Response) (ref : TypeRef) : Prop where
  resolved : ∀ q, (r.resolve q ref).isUnit = true ↔ Spaced "unit".toList a.type.toList
  agrees : ∀ q, a.isUnit = (r.resolve q ref).isUnit ↔ ¬ PadsUnit a.type
  outcome : ∀ e, ∃ b, DispatchTable.outcomeOf r e a = .ok b ∧
    (b = (if a.isSuccess then .successUnit a.code
      else .failure a.code none (DispatchTable.errorName r.settings DispatchTable.failedRequest)) ↔
      a.isUnit = true) ∧
    (b.datatype? = some "None" ↔ PadsUnit a.type ∨ r.NamesNothing ref)

theorem takenForUnit_of_parse (hr : Registry.DeclaredBy s settings r)
    (href : r.parse a.type = .ok ref) : TakenForUnit r a ref := by
  refine ⟨fun q => Registry.isUnit_resolve_iff_spaced hr href,
    fun q => Registry.isUnit_eq_resolve_iff hr href, fun e => ?_⟩
  obtain ⟨b, hb⟩ := DispatchTable.exists_outcomeOf (e := e) ⟨ref, href⟩
  have hanswers := DispatchTable.outcomeOf_eq_ok.mp hb
  refine ⟨b, hb, ?_, datatype?_eq_none_text_iff hr hanswers href⟩
  cases hanswers with
  | successUnit hu hs => simp [hu, hs]
  | failureUnit hu hs => simp [hu, hs]
  | success hu hs _ => simp [hu, hs]
  | failure hu hs _ => simp [hu, hs]

/-! ## 4. Services -/

/-- **Units of a service are told** from other types. Every answer is taken as above; a method reads
    a body as nothing only where it answers one of the others; and there is an error class around
    nothing exactly where some failure pads the unit. -/
structure TellsUnits (s : Service) (r : Registry) : Prop where
  answers : ∀ a ref, r.parse a.type = .ok ref → TakenForUnit r a ref
  methods : ∀ x ∈ s.resources, ∀ ms, (ClientMethod.ofResource r x).outcome = .ok ms →
    ∀ m ∈ ms, ∀ b ∈ m.dispatch.branches, b.datatype? = some "None" →
    ∃ o ∈ x.operations, ∃ a ∈ o.responses, ∃ ref, r.parse a.type = .ok ref ∧
      (PadsUnit a.type ∨ r.NamesNothing ref)
  errors : ∀ types, ErrorType.all r s = .ok types →
    ((∃ d ∈ types, ∃ q, (r.resolve q d.2).isUnit = true) ↔ ∃ x ∈ s.resources, ∃ o ∈ x.operations,
      ∃ a ∈ o.responses, a.isSuccess = false ∧ PadsUnit a.type)

/-- **An error class wraps nothing** exactly where the type of some failure pads the unit. -/
theorem exists_wrapping_iff (hr : Registry.DeclaredBy s settings r)
    {types : List (String × TypeRef)} (h : ErrorType.all r s = .ok types) :
    (∃ d ∈ types, ∃ q, (r.resolve q d.2).isUnit = true) ↔ ∃ x ∈ s.resources, ∃ o ∈ x.operations,
      ∃ a ∈ o.responses, a.isSuccess = false ∧ PadsUnit a.type := by
  constructor
  · rintro ⟨d, hd, q, hunit⟩
    obtain ⟨_, a, ha, href⟩ := (ErrorType.mem_iff_of_all h).mp hd
    obtain ⟨x, hx, o, ho, ha, hs, hu⟩ := ErrorType.mem_bodies_iff.mp ha
    exact ⟨x, hx, o, ho, a, ha, hs, of_decide_eq_false hu,
      (Registry.isUnit_resolve_iff_spaced hr href).mp hunit⟩
  · rintro ⟨x, hx, o, ho, a, ha, hs, ht, hspaced⟩
    have href := (Registry.parse_eq_unit_iff hr).mpr hspaced
    have hbody := ErrorType.mem_bodies_iff.mpr ⟨x, hx, o, ho, ha, hs, decide_eq_false ht⟩
    exact ⟨_, ErrorType.exists_class h hbody href, true, rfl⟩

/-- **Answers without a body are told from the others**, in a registry that is accepted, wherever
    their types do not pad the unit. -/
theorem Registry.ofService_tellsUnits (h : Registry.ofService s settings = .ok r) :
    TellsUnits s r := by
  have hr := Registry.ofService_eq_ok.mp h
  refine ⟨fun a ref => takenForUnit_of_parse hr, fun x _ ms hms m hm b hb hnone => ?_,
    fun types => exists_wrapping_iff hr⟩
  obtain ⟨o, ho, hom⟩ := exists_left_of_forall₂ (ClientMethod.ofResource_eq_ok.mp hms).1 hm
  rcases hom.answers_of_mem hb with ⟨a, ha, hab⟩ | ⟨_, rfl⟩
  · obtain ⟨ref, href⟩ := hab.parsed
    exact ⟨o, ho, a, ha, ref, href, (datatype?_eq_none_text_iff hr hab href).mp hnone⟩
  · cases hnone

/-- Service with an operation that answers by a success of one type and a failure of another. -/
def answering (success failure : String) : Service :=
  { name := "api"
    resources :=
      [{ type := "user", plural := "users"
         operations :=
          [{ verb := .get, path := "/users"
             responses := [⟨200, success, false⟩, ⟨422, failure, false⟩] }] }] }

/-- Lists of the unit are no units, with white space around them or without; the unit is one. -/
theorem Registry.ofService_tellsUnits_lists : ∃ r types,
    Registry.ofService (answering "unit" " [ unit ]") Dialect.aiohttp = .ok r ∧
    r.parse "unit" = .ok (.primitive .unit) ∧
    r.parse " [ unit ]" = .ok (.list (.primitive .unit)) ∧
    TakenForUnit r ⟨200, "unit", false⟩ (.primitive .unit) ∧
    TakenForUnit r ⟨422, " [ unit ]", false⟩ (.list (.primitive .unit)) ∧
    ErrorType.all r (answering "unit" " [ unit ]") = .ok types ∧
    types.map Prod.fst = ["UnitsResponse"] ∧ TellsUnits (answering "unit" " [ unit ]") r := by
  have h : Registry.ofService (answering "unit" " [ unit ]") Dialect.aiohttp =
      .ok ⟨Dialect.aiohttp, [], []⟩ := rfl
  have htells := Registry.ofService_tellsUnits h
  exact ⟨_, _, h, rfl, rfl, htells.answers ⟨200, "unit", false⟩ _ rfl,
    htells.answers ⟨422, " [ unit ]", false⟩ _ rfl, rfl, rfl, htells⟩

/-- The unit with white space around it is read as a body of nothing and gets an error class. -/
theorem Registry.exists_unit_wrapped : ∃ r,
    Registry.ofService (answering " unit " " unit") Dialect.aiohttp = .ok r ∧
    r.parse " unit " = .ok (.primitive .unit) ∧
    (r.resolve true (.primitive .unit)).isUnit = true ∧
    Response.isUnit ⟨200, " unit ", false⟩ = false ∧
    (∀ e, DispatchTable.outcomeOf r e ⟨200, " unit ", false⟩ = .ok (.success 200 "None")) ∧
    ErrorType.all r (answering " unit " " unit") = .ok [("UnitResponse", .primitive .unit)] :=
  ⟨_, rfl, rfl, rfl, rfl, fun _ => rfl, rfl⟩

end ClientGen
