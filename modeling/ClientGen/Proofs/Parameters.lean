import Mathlib.Data.List.Perm.Basic
import ClientGen.Proofs.Endpoints

/-!
# Parameters of an endpoint

The parameters of an operation come from two sides, the placeholders of its path and the
declaration, and each of them becomes one argument. This file fixes

* `Argument.StandsFor`, `Argument.IsBodyOf`: what an argument keeps of what it was made from;
* `Endpoint.Arranged`, `parametersOf_eq_ok`: the two rows that the parameters consist of;
* `BuiltFrom.names_parameters`, `BuiltFrom.perm_locations`: order, and which places take them;
* `BuiltFrom.arguments_eq`, `BuiltFrom.nodup_argNames`: the arguments of the method.
-/

namespace ClientGen

open ClientGen.Text

/-! ## 1. From a parameter to an argument -/

/-- **An argument stands for a parameter** at a location: under its name, of its type, or of an
    option of it. -/
structure Argument.StandsFor (r : Registry) (p : Parameter) (l : Location) (a : Argument) :
    Prop where
  name : a.name = p.name
  argName : a.argName = argumentName p.name
  location : a.location = some l
  ref : ∃ ref, r.parse p.type = .ok ref ∧ (a.ref = ref ∨ a.ref = ref.optional)
  type : a.type = r.resolve true a.ref

/-- **An argument is the body** that a notation describes. -/
structure Argument.IsBodyOf (r : Registry) (s : String) (a : Argument) : Prop where
  location : a.location = none
  argName : a.argName = argumentName a.name
  ref : r.parse s = .ok a.ref
  type : a.type = r.resolve true a.ref

namespace Endpoint

variable {r : Registry} {resource : Resource} {o : Operation} {e : Endpoint}

theorem ref_of_settle {p : Parameter} {l : Location} {ref ref' : TypeRef} {d : Option String}
    (h : settle r p l ref = .ok (ref', d)) : ref' = ref ∨ ref' = ref.optional := by
  unfold settle at h
  split at h
  · split at h
    · cases h
      exact Or.inl rfl
    · cases h
  · split at h
    · obtain ⟨s, _, hs⟩ := map_eq_ok.mp h
      cases hs
      exact Or.inl rfl
    · split at h
      · cases h
        exact Or.inl rfl
      · cases h
        exact Or.inr rfl

theorem standsFor_of_argumentOf {p : Parameter} {l : Location} {a : Argument}
    (h : argumentOf r p l = .ok a) : a.StandsFor r p l := by
  obtain ⟨ref, href, h⟩ := bind_eq_ok.mp h
  obtain ⟨⟨ref', d⟩, hs, h⟩ := bind_eq_ok.mp h
  rw [pure_eq_ok] at h
  subst h
  constructor
  all_goals dsimp only
  exact ⟨ref, href, ref_of_settle hs⟩

theorem isBodyOf_of_bodyOf {s : String} {a : Argument} (h : bodyOf r s = .ok a) :
    a.IsBodyOf r s := by
  obtain ⟨ref, href, h⟩ := bind_eq_ok.mp h
  rw [pure_eq_ok] at h
  subst h
  constructor
  all_goals dsimp only
  exact href

theorem name_declaredOr (ps : List Parameter) (name : String) :
    (declaredOr ps name).name = name := by
  unfold declaredOr
  cases hf : ps.find? (·.name = name) with
  | none => rfl
  | some p =>
    have hp := List.find?_some hf
    exact of_decide_eq_true hp

/-! ## 2. The two rows -/

/-- **Parameters in two rows**: one argument for each placeholder, in path order, then one for
    each declared parameter that is no placeholder, in declared order. -/
structure Arranged (r : Registry) (o : Operation) (placeholders : List String)
    (path rest : List Argument) : Prop where
  declaredOnce : (o.parameters.map (·.name)).Nodup
  inPath : ∀ p ∈ o.parameters, p.location = .path → p.name ∈ placeholders
  path : List.Forall₂ (fun name a => argumentOf r (declaredOr o.parameters name) .path = .ok a)
    placeholders path
  rest : List.Forall₂ (fun p a => argumentOf r p p.location = .ok a)
    (o.parameters.filter fun p => !placeholders.contains p.name) rest

theorem stray_eq_none_iff {ps : List Parameter} {placeholders : List String} :
    (ps.find? fun p => p.location = .path && !placeholders.contains p.name) = none ↔
      ∀ p ∈ ps, p.location = .path → p.name ∈ placeholders := by
  simp [List.find?_eq_none]

theorem parametersOf_eq_ok {placeholders : List String} {as : List Argument} :
    parametersOf r o placeholders = .ok as ↔
      ∃ path rest, as = path ++ rest ∧ Arranged r o placeholders path rest := by
  unfold parametersOf
  dsimp only
  cases hd : repeated? (o.parameters.map (·.name)) with
  | some name =>
    refine iff_of_false (fun h => ?_) ?_
    · cases h
    · rintro ⟨path, rest, _, h⟩
      rw [repeated?_eq_none_iff.mpr h.declaredOnce] at hd
      cases hd
  | none =>
    cases hs : o.parameters.find? fun p => p.location = .path && !placeholders.contains p.name with
    | some p =>
      refine iff_of_false (fun h => ?_) ?_
      · cases h
      · rintro ⟨path, rest, _, h⟩
        rw [stray_eq_none_iff.mpr h.inPath] at hs
        cases hs
    | none =>
      constructor
      · intro h
        obtain ⟨path, hpath, h⟩ := bind_eq_ok.mp h
        obtain ⟨rest, hrest, h⟩ := bind_eq_ok.mp h
        cases h
        exact ⟨path, rest, rfl, repeated?_eq_none_iff.mp hd, stray_eq_none_iff.mp hs,
          mapM_eq_ok.mp hpath, mapM_eq_ok.mp hrest⟩
      · rintro ⟨path, rest, rfl, h⟩
        exact bind_eq_ok.mpr ⟨path, mapM_eq_ok.mpr h.path,
          bind_eq_ok.mpr ⟨rest, mapM_eq_ok.mpr h.rest, rfl⟩⟩

namespace Arranged

variable {placeholders : List String} {path rest : List Argument}

theorem names_path (h : Arranged r o placeholders path rest) : path.map (·.name) = placeholders := by
  have hn : placeholders.map id = path.map (·.name) := map_eq_of_forall₂ h.path fun name a ha =>
    ((standsFor_of_argumentOf ha).name.trans (name_declaredOr _ _)).symm
  rw [← hn, List.map_id]

theorem names_rest (h : Arranged r o placeholders path rest) :
    rest.map (·.name) =
      (o.parameters.filter fun p => !placeholders.contains p.name).map (·.name) :=
  (map_eq_of_forall₂ h.rest fun _ _ ha => (standsFor_of_argumentOf ha).name.symm).symm

theorem location_path (h : Arranged r o placeholders path rest) {a : Argument} (ha : a ∈ path) :
    a.location = some .path := by
  obtain ⟨name, _, hname⟩ := exists_left_of_forall₂ h.path ha
  exact (standsFor_of_argumentOf hname).location

/-- A declared parameter of the path is a placeholder, so the others go elsewhere. -/
theorem location_rest (h : Arranged r o placeholders path rest) {a : Argument} (ha : a ∈ rest) :
    a.location = some .query ∨ a.location = some .form := by
  obtain ⟨p, hp, hpa⟩ := exists_left_of_forall₂ h.rest ha
  obtain ⟨hp, hn⟩ := List.mem_filter.mp hp
  rw [(standsFor_of_argumentOf hpa).location]
  cases hl : p.location with
  | path => simp [h.inPath p hp hl] at hn
  | query => exact Or.inl rfl
  | form => exact Or.inr rfl

end Arranged

/-! ## 3. Parameters of an endpoint that is built -/

namespace BuiltFrom

/-- The rows of an endpoint: the parameters of the path and the others. -/
theorem exists_arranged (h : BuiltFrom r resource o e) : ∃ rest,
    e.parameters = e.pathParameters ++ rest ∧
    e.parameters.filter (·.location ≠ some .path) = rest ∧
    Arranged r o e.placeholders e.pathParameters rest := by
  obtain ⟨path, rest, hps, ha⟩ := parametersOf_eq_ok.mp h.parameters_ok
  have hin : ∀ a ∈ path, decide (a.location = some .path) = true := fun a hm =>
    decide_eq_true (ha.location_path hm)
  have hout : ∀ a ∈ rest, ¬ decide (a.location = some .path) = true := fun a hm => by
    rcases ha.location_rest hm with hl | hl <;> simp [hl]
  have hpath : e.pathParameters = path := by
    rw [pathParameters, parametersIn, hps, List.filter_append, List.filter_eq_self.mpr hin,
      List.filter_eq_nil_iff.mpr hout, List.append_nil]
  have hrest : e.parameters.filter (·.location ≠ some .path) = rest := by
    have hin' : ∀ a ∈ path, ¬ decide (a.location ≠ some .path) = true := fun a hm => by
      simpa using hin a hm
    have hout' : ∀ a ∈ rest, decide (a.location ≠ some .path) = true := fun a hm => by
      simpa using hout a hm
    rw [hps, List.filter_append, List.filter_eq_nil_iff.mpr hin', List.filter_eq_self.mpr hout',
      List.nil_append]
  refine ⟨rest, hpath ▸ hps, hrest, ?_⟩
  rw [hpath, h.placeholders_eq]
  exact ha

theorem names_pathParameters (h : BuiltFrom r resource o e) :
    e.pathParameters.map (·.name) = placeholdersOf o.path := by
  obtain ⟨rest, _, _, ha⟩ := h.exists_arranged
  rw [ha.names_path, h.placeholders_eq]

/-- **Order of the parameters**: the placeholders as they stand in the path, then the other
    declared ones. -/
theorem names_parameters (h : BuiltFrom r resource o e) :
    e.parameters.map (·.name) = placeholdersOf o.path ++
      (o.parameters.filter fun p => !(placeholdersOf o.path).contains p.name).map (·.name) := by
  obtain ⟨rest, hps, _, ha⟩ := h.exists_arranged
  rw [hps, List.map_append, ha.names_path, ha.names_rest, h.placeholders_eq]

theorem nodup_names_parameters (h : BuiltFrom r resource o e) :
    (e.parameters.map (·.name)).Nodup := by
  obtain ⟨rest, _, _, ha⟩ := h.exists_arranged
  rw [h.names_parameters]
  refine List.nodup_append.mpr ⟨h.placeholders_nodup,
    ha.declaredOnce.sublist ((List.filter_sublist).map _), ?_⟩
  rintro name hname _ hother rfl
  obtain ⟨p, hp, rfl⟩ := List.mem_map.mp hother
  simp [hname] at hp

/-- Parameters that are not sent in the path are among the others. -/
theorem parametersIn_eq {rest : List Argument} {l : Location}
    (hps : e.parameters = e.pathParameters ++ rest)
    (ha : Arranged r o e.placeholders e.pathParameters rest) (hl : l ≠ .path) :
    e.parametersIn l = rest.filter (·.location = some l) := by
  have hnil : ∀ a ∈ e.pathParameters, ¬ decide (a.location = some l) = true := fun a hm => by
    simpa [ha.location_path hm] using hl.symm
  rw [parametersIn, hps, List.filter_append, List.filter_eq_nil_iff.mpr hnil, List.nil_append]

/-- **Each parameter has one place**: the path, the query or the form. -/
theorem perm_locations (h : BuiltFrom r resource o e) :
    e.parameters.Perm (e.pathParameters ++ e.queryParameters ++ e.formParameters) := by
  obtain ⟨rest, hps, _, ha⟩ := h.exists_arranged
  have hform : rest.filter (·.location = some .form) =
      rest.filter fun a => !decide (a.location = some .query) := by
    refine List.filter_congr fun a hm => ?_
    rcases ha.location_rest hm with hl | hl <;> simp [hl]
  rw [hps, List.append_assoc, queryParameters, formParameters,
    parametersIn_eq hps ha (by decide : Location.query ≠ .path),
    parametersIn_eq hps ha (by decide : Location.form ≠ .path), hform]
  exact (List.filter_append_perm _ rest).symm.append_left _

/-- **Order of the arguments**: the body stands between the parameters of the path and the
    others, and nothing else is added. -/
theorem arguments_eq (h : BuiltFrom r resource o e) : ∃ rest,
    e.parameters = e.pathParameters ++ rest ∧
    e.arguments = e.pathParameters ++ e.body.toList ++ rest := by
  obtain ⟨rest, hps, hrest, _⟩ := h.exists_arranged
  refine ⟨rest, hps, ?_⟩
  rw [arguments, hrest]

theorem perm_arguments (h : BuiltFrom r resource o e) :
    e.arguments.Perm (e.body.toList ++ e.parameters) := by
  obtain ⟨rest, hps, has⟩ := h.arguments_eq
  rw [has, hps, ← List.append_assoc]
  exact List.perm_append_comm.append_right rest

theorem nodup_argNames (h : BuiltFrom r resource o e) : (e.arguments.map (·.argName)).Nodup := by
  have ha := h.arguments_ok
  unfold checkArguments at ha
  cases hr : repeated? (e.arguments.map (·.argName)) with
  | none => exact repeated?_eq_none_iff.mp hr
  | some name =>
    rw [hr] at ha
    cases ha

theorem exists_bodyOf (h : BuiltFrom r resource o e) {b : Argument} (hb : e.body = some b) :
    ∃ s, o.body = some s ∧ bodyOf r s = .ok b := by
  have ho := h.body_ok
  rw [hb] at ho
  cases hs : o.body with
  | none =>
    rw [hs] at ho
    cases ho
  | some s =>
    rw [hs] at ho
    obtain ⟨a, ha, e⟩ := map_eq_ok.mp ho
    cases e
    exact ⟨s, rfl, ha⟩

/-- Every parameter of an endpoint comes from one of its operation, or is a text. -/
theorem exists_argumentOf (h : BuiltFrom r resource o e) {a : Argument} (ha : a ∈ e.parameters) :
    ∃ p l, argumentOf r p l = .ok a := by
  obtain ⟨rest, hps, _, harr⟩ := h.exists_arranged
  rw [hps, List.mem_append] at ha
  rcases ha with ha | ha
  · obtain ⟨name, _, hname⟩ := exists_left_of_forall₂ harr.path ha
    exact ⟨_, _, hname⟩
  · obtain ⟨p, _, hp⟩ := exists_left_of_forall₂ harr.rest ha
    exact ⟨_, _, hp⟩

/-- Each declared parameter has its argument, in the path or among the others. -/
theorem exists_argument (h : BuiltFrom r resource o e) {p : Parameter} (hp : p ∈ o.parameters) :
    ∃ l, ∃ a ∈ e.parameters, argumentOf r p l = .ok a := by
  obtain ⟨rest, hps, _, harr⟩ := h.exists_arranged
  by_cases hn : p.name ∈ e.placeholders
  · obtain ⟨a, hm, ha⟩ := exists_right_of_forall₂ harr.path hn
    have hself : declaredOr o.parameters p.name = p := by
      rw [declaredOr, find?_of_nodup_map harr.declaredOnce hp]
      rfl
    rw [hself] at ha
    exact ⟨_, a, hps ▸ List.mem_append_left rest hm, ha⟩
  · obtain ⟨a, hm, ha⟩ := exists_right_of_forall₂ harr.rest
      (List.mem_filter.mpr ⟨hp, by simpa using hn⟩)
    exact ⟨_, a, hps ▸ List.mem_append_right _ hm, ha⟩

/-- The type of every declared parameter is read, whether the path has it or not. -/
theorem parsed_of_parameter (h : BuiltFrom r resource o e) {p : Parameter} (hp : p ∈ o.parameters) :
    ∃ ref, r.parse p.type = .ok ref := by
  obtain ⟨l, a, _, ha⟩ := h.exists_argument hp
  obtain ⟨ref, href, _⟩ := (standsFor_of_argumentOf ha).ref
  exact ⟨ref, href⟩

theorem parsed_of_body (h : BuiltFrom r resource o e) {t : String} (ht : o.body = some t) :
    ∃ ref, r.parse t = .ok ref := by
  have hb := h.body_ok
  rw [ht] at hb
  obtain ⟨a, ha, _⟩ := map_eq_ok.mp hb
  exact ⟨a.ref, (isBodyOf_of_bodyOf ha).ref⟩

end BuiltFrom

end Endpoint

end ClientGen
