import ClientGen.Endpoint
import ClientGen.Proofs.Sequencing

/-!
# Endpoints of a resource

An operation is checked part by part on its way to an endpoint, and the endpoints of a resource
are checked against each other. This file fixes

* `Endpoint.BuiltFrom`, `build_eq_ok`: what an endpoint that is built has passed;
* `ofResource_eq_ok`: a resource has an endpoint for each operation, in declared order and
  under names of their own;
* `startsWith_nameOf`, `methodNameOf_eq`: the name of a method starts with its verb, so it is no
  reserved word.
-/

namespace ClientGen

open ClientGen.Text

/-! ## 1. Names of operations -/

/-- A name that starts with no digit and is no reserved word stays as it is. -/
theorem safeName_eq_self {s : String} (hs : s ≠ "") (hd : startsWithDigit s = false)
    (hk : isKeyword s = false) : safeName s = s := by
  unfold safeName
  rw [if_neg hs, hd]
  dsimp only
  rw [if_neg Bool.false_ne_true, hk, if_neg Bool.false_ne_true]

theorem startsWith_join (sep s : String) (rest : List String) :
    startsWith (join sep (s :: rest)) s = true := by
  cases rest with
  | nil => exact startsWith_iff.mpr ⟨"", (String.append_empty).symm⟩
  | cons t rest =>
    rw [join_cons_cons, String.append_assoc]
    exact startsWith_append s _

namespace Endpoint

variable {r : Registry} {resource : Resource} {o : Operation} {e : Endpoint}

theorem startsWith_nameOf (verb : Verb) (path : String) :
    startsWith (nameOf verb path) verb.word = true :=
  startsWith_join "_" verb.word _

/-- **The name of an operation stays as it is**: no reserved word begins with that of a verb. -/
theorem safeName_nameOf (verb : Verb) (path : String) :
    safeName (nameOf verb path) = nameOf verb path := by
  have hwords : ∀ k ∈ hardKeywords ++ softKeywords, startsWith k verb.word = false := by
    cases verb <;> decide
  have hstart := startsWith_nameOf verb path
  generalize nameOf verb path = name at hstart ⊢
  have hkeyword : isKeyword name = false := by
    rw [isKeyword, ← Bool.not_eq_true, Bool.or_eq_true, List.contains_iff_mem, List.contains_iff_mem,
      ← List.mem_append]
    intro hk
    rw [hwords name hk] at hstart
    cases hstart
  obtain ⟨rest, rfl⟩ := startsWith_iff.mp hstart
  refine safeName_eq_self ?_ ?_ hkeyword
  · exact append_ne_empty (by cases verb <;> decide) rest
  · rw [startsWithDigit, String.toList_append, List.head?_append]
    cases verb <;> rfl

/-! ## 2. Building -/

/-- **An endpoint is built from an operation**: its parts are those declared, and they have
    passed the checks. -/
structure BuiltFrom (r : Registry) (resource : Resource) (o : Operation) (e : Endpoint) : Prop where
  resource_eq : e.resource = resource
  operation_eq : e.operation = o
  placeholders_eq : e.placeholders = placeholdersOf o.path
  placeholders_nodup : (placeholdersOf o.path).Nodup
  body_ok : o.body.mapM (bodyOf r) = .ok e.body
  parameters_ok : parametersOf r o (placeholdersOf o.path) = .ok e.parameters
  snakeName_eq : e.snakeName = nameOf o.verb (relativePath resource o.path)
  verb_ok : checkVerb e = .ok ()
  arguments_ok : checkArguments e = .ok ()

theorem build_eq_ok : build r resource o = .ok e ↔ BuiltFrom r resource o e := by
  unfold build
  dsimp only
  cases hp : repeated? (placeholdersOf o.path) with
  | some name =>
    refine iff_of_false (fun h => ?_) fun h => ?_
    · cases h
    · rw [repeated?_eq_none_iff.mpr h.placeholders_nodup] at hp
      cases hp
  | none =>
    constructor
    · intro h
      obtain ⟨body, hb, h⟩ := bind_eq_ok.mp h
      obtain ⟨parameters, hps, h⟩ := bind_eq_ok.mp h
      obtain ⟨_, hv, h⟩ := bind_eq_ok.mp h
      obtain ⟨_, ha, h⟩ := bind_eq_ok.mp h
      rw [pure_eq_ok] at h
      subst h
      refine ⟨rfl, rfl, rfl, repeated?_eq_none_iff.mp hp, hb, hps, ?_, hv, ha⟩
      -- the projection is taken first: `rfl` would compute the name
      dsimp only
    · intro h
      obtain ⟨resource', o', placeholders', body, parameters, snakeName'⟩ := e
      obtain ⟨hr, ho, hpl, _, hb, hps, hn, hv, ha⟩ := h
      dsimp only at hr ho hpl hb hps hn
      rw [hr, ho, hpl, hn] at hv ha ⊢
      refine bind_eq_ok.mpr ⟨body, hb, bind_eq_ok.mpr ⟨parameters, hps, ?_⟩⟩
      exact bind_eq_ok.mpr ⟨(), hv, bind_eq_ok.mpr ⟨(), ha, rfl⟩⟩

theorem ofOperation_eq_ok :
    ofOperation r resource o = .ok e ↔ BuiltFrom r resource o e :=
  mapError_eq_ok.trans build_eq_ok

/-! ## 3. Names of methods -/

/-- Name of the method of an operation. -/
def methodNameOf (resource : Resource) (o : Operation) : String :=
  safeName (nameOf o.verb (relativePath resource o.path))

theorem methodNameOf_eq (resource : Resource) (o : Operation) :
    methodNameOf resource o = nameOf o.verb (relativePath resource o.path) :=
  safeName_nameOf _ _

theorem BuiltFrom.methodName_eq (h : BuiltFrom r resource o e) :
    e.methodName = methodNameOf resource o := by
  rw [methodName, h.snakeName_eq, methodNameOf]

/-- No operation is named as a constructor is. -/
theorem methodNameOf_ne_constructor (resource : Resource) (o : Operation) :
    methodNameOf resource o ≠ "__init__" := by
  intro h
  have hstart := startsWith_nameOf o.verb (relativePath resource o.path)
  rw [← methodNameOf_eq, h] at hstart
  cases hv : o.verb <;> rw [hv] at hstart <;> exact absurd hstart (by decide)

/-! ## 4. Operations of a resource -/

/-- An endpoint is added where it is built and no method before has its name. -/
theorem ofOperations_cons_eq_ok {before es : List Endpoint} {o : Operation} {os : List Operation} :
    ofOperations r resource before (o :: os) = .ok es ↔ ∃ e, BuiltFrom r resource o e ∧
      (before.find? fun other => other.methodName = e.methodName) = none ∧
      ofOperations r resource (before ++ [e]) os = .ok es := by
  rw [ofOperations, bind_eq_ok]
  refine exists_congr fun e => and_congr ofOperation_eq_ok ?_
  cases before.find? fun other => other.methodName = e.methodName with
  | none => exact (and_iff_right rfl).symm
  | some other =>
    constructor
    · intro h
      cases h
    · rintro ⟨h, _⟩
      cases h

/-- **Endpoints of a resource**: one for each operation, in declared order, under names of
    their own. -/
theorem ofResource_eq_ok {es : List Endpoint} :
    ofResource r resource = .ok es ↔
      List.Forall₂ (BuiltFrom r resource) resource.operations es ∧ (es.map methodName).Nodup := by
  have hb : (([] : List Endpoint).map methodName).Nodup := List.nodup_nil
  refine (collect_eq_ok (fun _ => rfl) (fun _ _ _ _ => ofOperations_cons_eq_ok) hb).trans ?_
  constructor
  · rintro ⟨new, rfl, h⟩
    exact h
  · exact fun h => ⟨es, rfl, h⟩

end Endpoint

end ClientGen
