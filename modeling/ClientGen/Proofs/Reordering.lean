import Mathlib.Data.List.Sort
import ClientGen.Proofs.Packages

/-!
# The declared order of resources

Most files of a package go over the resources in sorted order; the errors module goes over them as
they are declared. This file fixes that none of them depends on the order of declaration:

* `Service.Reordered`: the same service with its resources in another order, in which those that
  sorting does not tell apart stand as they stood;
* `Service.Reordered.sortedResources_eq`: the sorted resources are the same;
* `ErrorType.all_of_reordered`: the error classes are the same, though they are found in another
  order;
* `generate_of_reordered`: a package is the same where there is one;
* `ofService_reordered`: one service is refused exactly where the other is, and the files are the
  same in name and text.
-/

namespace ClientGen

open ClientGen.Text

/-! ## 1. Services -/

/-- **A service with its resources in another order**: `t` is `s` but for the order of the
    resources, and resources whose plurals are the same, letter case aside, keep theirs. -/
structure Service.Reordered (s t : Service) : Prop where
  rest : t = { s with resources := t.resources }
  perm : t.resources.Perm s.resources
  ties : ∀ k, t.resources.filter (fun x => toLower x.plural = k) =
    s.resources.filter fun x => toLower x.plural = k

namespace Service.Reordered

variable {s t : Service}

theorem symm (h : Reordered s t) : Reordered t s := by
  refine ⟨?_, h.perm.symm, fun k => (h.ties k).symm⟩
  rw [h.rest]

/-- The order in which the files go over the resources is the same. -/
theorem sortedResources_eq (h : Reordered s t) : t.sortedResources = s.sortedResources := by
  refine sortBy_eq_of_filter (fun x : Resource => toLower x.plural) (fun a b => ?_)
    String.le_total String.le_trans String.le_antisymm h.ties
  rw [Bool.not_eq_true', decide_eq_false_iff_not, String.not_lt]

theorem mem_bodies_iff (h : Reordered s t) {a : Response} :
    a ∈ ErrorType.bodies t ↔ a ∈ ErrorType.bodies s := by
  simp only [ErrorType.bodies, List.mem_flatMap, h.perm.mem_iff]

end Service.Reordered

/-! ## 2. Error classes -/

namespace ErrorType

variable {r : Registry} {s t : Service}

/-- Consistency is a matter of which bodies there are, not of how often or where. -/
theorem Consistent.of_subset {as bs : List Response} (h : Consistent r as) (hb : ∀ b ∈ bs, b ∈ as) :
    Consistent r bs :=
  ⟨fun b hm => h.read b (hb b hm), fun b hm c hn => h.shared b (hb b hm) c (hb c hn)⟩

/-- Classes in strictly rising order are the same where they are of the same bodies. -/
theorem eq_of_pairwise_of_mem_iff {types types' : List (String × TypeRef)}
    (h : types.Pairwise fun d e => d.1 < e.1) (h' : types'.Pairwise fun d e => d.1 < e.1)
    (hm : ∀ d, d ∈ types ↔ d ∈ types') : types = types' := by
  have irrefl : Std.Irrefl fun d e : String × TypeRef => d.1 < e.1 :=
    ⟨fun d => String.lt_irrefl d.1⟩
  have antisymm : Std.Antisymm fun d e : String × TypeRef => d.1 < e.1 :=
    ⟨fun d e hde hed => absurd hed (String.lt_asymm hde)⟩
  exact h.eq_of_mem_iff h' hm

/-- **Error classes do not depend on the order** in which their bodies are found. -/
theorem all_of_reordered (h : s.Reordered t) {types : List (String × TypeRef)}
    (hs : all r s = .ok types) : all r t = .ok types := by
  obtain ⟨hok, hc⟩ := exists_all_iff.mp ⟨types, hs⟩
  obtain ⟨types', ht⟩ : ∃ types', all r t = .ok types' :=
    exists_all_iff.mpr ⟨fun x hx => hok x (h.perm.mem_iff.mp hx),
      hc.of_subset fun a ha => h.mem_bodies_iff.mp ha⟩
  have hsame : types' = types := by
    refine eq_of_pairwise_of_mem_iff (List.pairwise_map.mp (pairwise_names ht))
      (List.pairwise_map.mp (pairwise_names hs)) fun d => ?_
    rw [mem_iff_of_all ht, mem_iff_of_all hs]
    simp only [h.mem_bodies_iff]
  rw [ht, hsame]

end ErrorType

/-! ## 3. Packages -/

namespace Package

variable {r : Registry} {s t : Service} {settings : Settings} {o : Origin}

theorem errorsFile_of_reordered (h : s.Reordered t) {f : Source.File}
    (hs : errorsFile r s = .ok f) : errorsFile r t = .ok f := by
  obtain ⟨cs, hcs, hf⟩ := bind_eq_ok.mp hs
  obtain ⟨types, htypes, hcs⟩ := ErrorType.classes_eq_ok.mp hcs
  exact bind_eq_ok.mpr
    ⟨cs, ErrorType.classes_eq_ok.mpr ⟨types, ErrorType.all_of_reordered h htypes, hcs⟩, hf⟩

/-- Two services with the same sorted resources and the same errors module have one package. -/
theorem generate_congr (h : s.Reordered t) (he : errorsFile r t = errorsFile r s) :
    generate r t o = generate r s o := by
  have hsorted := h.sortedResources_eq
  have hinterfaces : interfacesFile r t = interfacesFile r s := by
    rw [interfacesFile, ClientMethod.traits, hsorted]
    rfl
  have hclass : clientClass t = clientClass s := by
    rw [clientClass, ClientMethod.accessors, hsorted, h.rest]
    rfl
  have hclient : clientFile r t = clientFile r s := by
    rw [clientFile, ClientMethod.objects, hsorted, hclass]
    rfl
  have hroutes : routesFile r t = routesFile r s := by
    rw [routesFile, Route.all, hsorted]
    rfl
  have hmodels : modelsFile r t = modelsFile r s := by
    rw [h.rest]
    rfl
  have hsupport : supportFile r.settings t = supportFile r.settings s := by
    rw [h.rest]
    rfl
  have hname : t.name = s.name := by
    rw [h.rest]
  unfold generate
  simp only [hsorted, hmodels, he, hinterfaces, hclient, hroutes, hsupport, hname]

/-- **A package is the same for both services**, or there is none for either. -/
theorem generate_of_reordered (h : s.Reordered t) (r : Registry) (o : Origin) :
    generate r t o = generate r s o ∨
      (∃ f, (generate r t o).outcome = .error f) ∧ ∃ f, (generate r s o).outcome = .error f := by
  cases hs : errorsFile r s with
  | ok f =>
    refine Or.inl (generate_congr h ?_)
    rw [hs, errorsFile_of_reordered h hs]
  | error e =>
    have refused : ∀ {u : Service}, (∀ f, errorsFile r u ≠ .ok f) →
        ∃ f, (generate r u o).outcome = .error f := by
      intro u hu
      cases hg : (generate r u o).outcome with
      | error f => exact ⟨f, rfl⟩
      | ok p =>
        obtain ⟨_, _, errors, _, _, _, hp⟩ := assembledFrom_of_generate hg
        exact absurd hp.errorsMade (hu errors)
    have hes : ∀ f, errorsFile r s ≠ .ok f := by
      rw [hs]
      exact fun f hf => nomatch hf
    exact Or.inr ⟨refused fun f hf => hes f (errorsFile_of_reordered h.symm hf), refused hes⟩

/-- **Two runs agree**: they give the same package with the same warnings, or both are refused. -/
structure SameRun (x y : Traced Fault Source.Project) : Prop where
  succeeds : (∃ p, x.outcome = .ok p) ↔ ∃ p, y.outcome = .ok p
  refused : (∃ f, x.outcome = .error f) ↔ ∃ f, y.outcome = .error f
  files : ∀ p q, x.outcome = .ok p → y.outcome = .ok q → p.name = q.name ∧
    p.files.map (fun f => (f.name, f.text)) = q.files.map fun f => (f.name, f.text)
  warnings : ∀ p, x.outcome = .ok p → x.warnings = y.warnings

theorem SameRun.of_eq {x y : Traced Fault Source.Project} (h : x = y) : SameRun x y := by
  subst h
  refine ⟨Iff.rfl, Iff.rfl, fun p q hp hq => ?_, fun _ _ => rfl⟩
  rw [hp] at hq
  cases hq
  exact ⟨rfl, rfl⟩

theorem SameRun.of_refused {x y : Traced Fault Source.Project} {f g : Fault}
    (hx : x.outcome = .error f) (hy : y.outcome = .error g) : SameRun x y := by
  refine ⟨?_, ⟨fun _ => ⟨g, hy⟩, fun _ => ⟨f, hx⟩⟩, fun p q hp _ => ?_, fun p hp => ?_⟩
  · rw [hx, hy]
    exact ⟨fun ⟨_, h⟩ => (nomatch h), fun ⟨_, h⟩ => nomatch h⟩
  · rw [hx] at hp
    cases hp
  · rw [hx] at hp
    cases hp

/-- **Packages do not depend on the declared order of resources**: wherever the resources of a service
    stand, as long as those that sorting does not tell apart keep their order, the service is refused or
    its files have the same names and texts. In texts, the 2048 characters from U+10A000 stand for lone
    surrogates; where these come in the order of texts does not matter. -/
theorem ofService_reordered (h : s.Reordered t) (settings : Settings) (o : Origin) :
    SameRun (ofService s settings o) (ofService t settings o) := by
  have hregistry : Registry.ofService t settings = Registry.ofService s settings := by
    rw [h.rest]
    rfl
  unfold ofService
  rw [hregistry]
  cases Registry.ofService s settings with
  | error f => exact .of_refused rfl rfl
  | ok r =>
    have hbind : ∀ u : Service, (do
        let r ← Traced.lift ((Except.ok r).mapError DescriptionFault.raised)
        generate r u o : Traced Fault Source.Project) = generate r u o := fun u => rfl
    rw [hbind, hbind]
    rcases generate_of_reordered h r o with he | ⟨⟨f, hf⟩, g, hg⟩
    · exact .of_eq he.symm
    · exact .of_refused hg hf

/-- Service with resources of the plurals given, each with an error body of its own. -/
def answering (resources : List (String × String)) : Service :=
  { name := "api"
    resources := resources.map fun x =>
      { type := "page", plural := x.1
        operations := [{ verb := .get, path := "/", responses := [⟨400, x.2, false⟩] }] } }

/-- Service in which two plurals differ in letter case only. -/
def neighbours : Service :=
  answering [("USERS", "string"), ("users", "[string]"), ("accounts", "long")]

/-- The same with the third resource between the two. -/
def neighboursApart : Service :=
  answering [("USERS", "string"), ("accounts", "long"), ("users", "[string]")]

theorem reordered_neighbours : neighbours.Reordered neighboursApart := by
  refine ⟨rfl, by decide, fun k => ?_⟩
  have hcase : toLower "USERS" = "users" := by decide
  have hsmall : toLower "users" = "users" := by decide
  have hother : toLower "accounts" = "accounts" := by decide
  simp only [neighbours, neighboursApart, answering, List.map_cons, List.map_nil,
    List.filter_cons, hcase, hsmall, hother]
  by_cases hk : "accounts" = k
  · subst hk
    rfl
  · simp [hk]

set_option maxRecDepth 4000 in
/-- A resource moves between two others that sorting does not tell apart. -/
theorem ofService_reordered_letterCase :
    neighbours.Reordered neighboursApart ∧ neighbours ≠ neighboursApart ∧
      (∃ p, (ofService neighbours Dialect.aiohttp {}).outcome = .ok p) ∧
      SameRun (ofService neighbours Dialect.aiohttp {})
        (ofService neighboursApart Dialect.aiohttp {}) :=
  ⟨reordered_neighbours, by decide, ⟨_, rfl⟩, ofService_reordered reordered_neighbours _ _⟩

end Package

end ClientGen
