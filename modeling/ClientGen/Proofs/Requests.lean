import ClientGen.Request
import ClientGen.Proofs.Parameters

/-!
# What a request sends

A request carries the arguments of its method in four places: the segments of the path, the
query, the form, and the body. This file fixes

* `PathExpr.segments`, `PathExpr.text_eq_join`: the path segment by segment;
* `PathExpr.uses`, `Payload.uses`, `Request.uses`: the arguments that each place takes;
* `Endpoint.Carries`, `BuiltFrom.uses_path`: the path takes the arguments of its parameters;
* `BuiltFrom.verb_cases`: which verbs take a body or a form, and never both;
* `BuiltFrom.count_path`, `BuiltFrom.perm_uses`: a request takes every argument exactly once.
-/

namespace ClientGen

open ClientGen.Text

/-! ## 1. Places of a request -/

/-- Argument that a segment holds. -/
def PathSegment.argument? : PathSegment → Option String
  | .literal _ => none
  | .argument a => some a

namespace PathExpr

/-- Segments of a path, in order. -/
def segments : PathExpr → List PathSegment
  | .fixed path => (Endpoint.segmentsOf path).map .literal
  | .interpolated segments => segments

/-- Mark before the literal of a path that holds arguments. -/
def mark : PathExpr → String
  | .fixed _ => ""
  | .interpolated _ => "f"

/-- Arguments that the segments of a path hold, in order. -/
def uses (p : PathExpr) : List String := p.segments.filterMap (·.argument?)

end PathExpr

namespace Payload

/-- Fields of a form; every other payload has none. -/
def fields : Payload → List FormEntry
  | .form entries => entries
  | _ => []

/-- Type and argument of a body. -/
def body? : Payload → Option (String × String)
  | .body type argName => some (type, argName)
  | _ => none

/-- Arguments that a payload holds. -/
def uses : Payload → List String
  | .empty => []
  | .body _ argName => [argName]
  | .form entries => entries.map (·.argName)

end Payload

/-- Arguments that a request holds, place by place. -/
def Request.uses (q : Request) : List String :=
  q.path.uses ++ q.payload.uses ++ q.query.map (·.argName)

/-! ## 2. The path -/

namespace PathExpr

/-- The literal of a path is made of its segments, a slash between neighbours. -/
theorem text_eq_join (p : PathExpr) :
    p.text = p.mark ++ "\"" ++ join "/" (p.segments.map (·.text)) ++ "\"" := by
  cases p with
  | interpolated segments => rfl
  | fixed path =>
    have hs : (segments (.fixed path)).map (·.text) = pieces '/' path := by
      rw [segments, List.map_map]
      exact List.map_id _
    have hj : join "/" (pieces '/' path) = path := join_pieces '/' path
    rw [hs, hj]
    rfl

end PathExpr

namespace Endpoint

variable {r : Registry} {resource : Resource} {o : Operation} {e : Endpoint}

/-- **A segment of the request carries one of the path**: a placeholder gives way to the argument
    of its parameter, anything else stays. -/
def Carries (e : Endpoint) (s : String) (g : PathSegment) : Prop :=
  match placeholder? s with
  | none => g = .literal s
  | some name => ∃ a ∈ e.pathParameters, a.name = name ∧ g = .argument a.argName

namespace BuiltFrom

theorem find?_pathParameters (h : BuiltFrom r resource o e) {a : Argument}
    (ha : a ∈ e.pathParameters) : e.pathParameters.find? (·.name = a.name) = some a := by
  have hd : (e.pathParameters.map (·.name)).Nodup := by
    rw [h.names_pathParameters]
    exact h.placeholders_nodup
  exact find?_of_nodup_map hd ha

theorem exists_pathParameter (h : BuiltFrom r resource o e) {s name : String}
    (hs : s ∈ segmentsOf o.path) (hn : placeholder? s = some name) :
    ∃ a ∈ e.pathParameters, a.name = name := by
  have hm : name ∈ e.pathParameters.map (·.name) := by
    rw [h.names_pathParameters]
    exact List.mem_filterMap.mpr ⟨s, hs, hn⟩
  exact List.mem_map.mp hm

theorem segments_path (h : BuiltFrom r resource o e) :
    (PathExpr.ofEndpoint e).segments =
      (segmentsOf o.path).map (PathExpr.segmentOf e) := by
  unfold PathExpr.ofEndpoint
  rw [h.operation_eq, h.placeholders_eq]
  split
  · rename_i hnil
    refine List.map_congr_left fun s hs => ?_
    have hn : placeholder? s = none :=
      List.filterMap_eq_nil_iff.mp (List.isEmpty_iff.mp hnil) s hs
    rw [PathExpr.segmentOf, hn]
  · rfl

theorem carries_segmentOf (h : BuiltFrom r resource o e) {s : String}
    (hs : s ∈ segmentsOf o.path) : e.Carries s (PathExpr.segmentOf e s) := by
  unfold Carries PathExpr.segmentOf
  cases hn : placeholder? s with
  | none => rfl
  | some name =>
    obtain ⟨a, ha, rfl⟩ := h.exists_pathParameter hs hn
    dsimp only
    rw [h.find?_pathParameters ha]
    exact ⟨a, ha, rfl, rfl⟩

/-- **The path takes the arguments of its parameters**, in path order and each once. -/
theorem uses_path (h : BuiltFrom r resource o e) :
    (PathExpr.ofEndpoint e).uses = e.pathParameters.map (·.argName) := by
  have hseg : ∀ s, (PathExpr.segmentOf e s).argument? =
      (placeholder? s).bind fun name =>
        (e.pathParameters.find? (·.name = name)).map (·.argName) := by
    intro s
    unfold PathExpr.segmentOf
    cases placeholder? s with
    | none => rfl
    | some name =>
      dsimp only [Option.bind_some]
      cases e.pathParameters.find? (·.name = name) <;> rfl
  have hnames : (segmentsOf o.path).filterMap placeholder? = e.pathParameters.map (·.name) :=
    h.names_pathParameters.symm
  calc (PathExpr.ofEndpoint e).uses
      = (segmentsOf o.path).filterMap fun s => (placeholder? s).bind fun name =>
          (e.pathParameters.find? (·.name = name)).map (·.argName) := by
        rw [PathExpr.uses, h.segments_path, List.filterMap_map]
        exact List.filterMap_congr fun s _ => hseg s
    _ = (e.pathParameters.map (·.name)).filterMap fun name =>
          (e.pathParameters.find? (·.name = name)).map (·.argName) := by
        rw [← hnames, List.filterMap_filterMap]
    _ = e.pathParameters.map (·.argName) := by
        rw [List.filterMap_map, ← List.filterMap_eq_map]
        refine List.filterMap_congr fun a ha => ?_
        rw [Function.comp_apply, h.find?_pathParameters ha]
        rfl

/-! ## 3. Payload and query -/

theorem verb_cases (h : BuiltFrom r resource o e) :
    (e.body = none ∨ e.formParameters = []) ∧
    (o.verb.hasBody = true ∨ e.body = none ∧ e.formParameters = []) := by
  have hv := h.verb_ok
  unfold checkVerb at hv
  rw [h.operation_eq] at hv
  dsimp only at hv
  cases hb : e.body with
  | none =>
    refine ⟨Or.inl rfl, ?_⟩
    cases hf : e.formParameters with
    | nil => exact Or.inr ⟨rfl, rfl⟩
    | cons a as =>
      rw [hb, hf] at hv
      cases hh : o.verb.hasBody with
      | true => exact Or.inl rfl
      | false => simp [hh] at hv
  | some b =>
    rw [hb] at hv
    cases hf : e.formParameters with
    | cons a as => simp [hf] at hv
    | nil =>
      refine ⟨Or.inr rfl, ?_⟩
      rw [hf] at hv
      cases hh : o.verb.hasBody with
      | true => exact Or.inl rfl
      | false => simp [hh] at hv

end BuiltFrom

end Endpoint

theorem Verb.hasBody_iff (v : Verb) : v.hasBody = true ↔ v ∈ [Verb.post, .put, .patch] := by
  cases v <;> decide

namespace Request

variable {e : Endpoint}

theorem uses_payload (h : e.body = none ∨ e.formParameters = []) :
    (ofEndpoint e).payload.uses = (e.body.toList ++ e.formParameters).map (·.argName) := by
  unfold ofEndpoint
  dsimp only
  cases hb : e.body with
  | none =>
    cases e.formParameters with
    | nil => rfl
    | cons a as =>
      rw [Option.toList_none, List.nil_append]
      exact List.map_map
  | some b =>
    have hf : e.formParameters = [] := h.resolve_left (by simp [hb])
    rw [hf]
    rfl

theorem fields_payload (h : e.body = none ∨ e.formParameters = []) :
    (ofEndpoint e).payload.fields =
      e.formParameters.map fun a => ⟨a.name, a.type.type.text, a.argName⟩ := by
  unfold ofEndpoint
  dsimp only
  cases hb : e.body with
  | none => cases e.formParameters <;> rfl
  | some b =>
    have hf : e.formParameters = [] := h.resolve_left (by simp [hb])
    rw [hf]
    rfl

theorem body?_payload (e : Endpoint) :
    (ofEndpoint e).payload.body? = e.body.map fun b => (b.type.type.text, b.argName) := by
  unfold ofEndpoint
  dsimp only
  cases e.body with
  | none => cases e.formParameters <;> rfl
  | some b => rfl

theorem payload_eq_empty (hb : e.body = none) (hf : e.formParameters = []) :
    (ofEndpoint e).payload = .empty := by
  unfold ofEndpoint
  rw [hb, hf]

end Request

/-! ## 4. Everything once -/

theorem count_argument (gs : List PathSegment) (a : String) :
    gs.count (.argument a) = (gs.filterMap (·.argument?)).count a := by
  induction gs with
  | nil => rfl
  | cons g gs ih =>
    cases g with
    | literal s =>
      have hne : PathSegment.literal s ≠ .argument a := PathSegment.noConfusion
      rw [List.count_cons_of_ne hne, List.filterMap_cons_none rfl, ih]
    | argument b =>
      have hs : (PathSegment.argument b).argument? = some b := rfl
      rw [List.filterMap_cons_some hs]
      by_cases hb : b = a
      · rw [hb, List.count_cons_self, List.count_cons_self, ih]
      · have hne : PathSegment.argument b ≠ .argument a := fun h => hb (PathSegment.argument.inj h)
        rw [List.count_cons_of_ne hne, List.count_cons_of_ne hb, ih]

namespace Endpoint

variable {r : Registry} {resource : Resource} {o : Operation} {e : Endpoint}

namespace BuiltFrom

theorem count_path (h : BuiltFrom r resource o e) {a : Argument} (ha : a ∈ e.pathParameters) :
    (PathExpr.ofEndpoint e).segments.count (.argument a.argName) = 1 := by
  obtain ⟨rest, _, has⟩ := h.arguments_eq
  have hsub : e.pathParameters.Sublist e.arguments := by
    rw [has, List.append_assoc]
    exact List.sublist_append_left _ _
  have hd : (e.pathParameters.map (·.argName)).Nodup := h.nodup_argNames.sublist (hsub.map _)
  have hm : a.argName ∈ (PathExpr.ofEndpoint e).uses := by
    rw [h.uses_path]
    exact List.mem_map_of_mem ha
  rw [count_argument, ← PathExpr.uses]
  refine List.count_eq_one_of_mem ?_ hm
  rw [h.uses_path]
  exact hd

/-- **A request takes every argument of its method exactly once.** -/
theorem perm_uses (h : BuiltFrom r resource o e) :
    (Request.ofEndpoint e).uses.Perm (e.arguments.map (·.argName)) := by
  have hpath : (Request.ofEndpoint e).path.uses = e.pathParameters.map (·.argName) := h.uses_path
  have hquery : (Request.ofEndpoint e).query.map (·.argName) =
      e.queryParameters.map (·.argName) := List.map_map
  have hplaces : (e.arguments.map (·.argName)).Perm
      ((e.body.toList ++ (e.pathParameters ++ e.queryParameters ++ e.formParameters)).map
        (·.argName)) :=
    (h.perm_arguments.trans (h.perm_locations.append_left _)).map _
  rw [Request.uses, hpath, hquery, Request.uses_payload h.verb_cases.1]
  refine List.Perm.trans ?_ hplaces.symm
  rw [List.perm_iff_count]
  intro name
  simp only [List.map_append, List.count_append]
  omega

theorem isSome_body (h : BuiltFrom r resource o e) : e.body.isSome = o.body.isSome := by
  have hb := h.body_ok
  cases ho : o.body with
  | none =>
    rw [ho] at hb
    have hn : none = e.body := Except.ok.inj hb
    rw [← hn]
    rfl
  | some s =>
    rw [ho] at hb
    obtain ⟨a, _, he⟩ := map_eq_ok.mp hb
    rw [← he]
    rfl

end BuiltFrom

/-- Resource without a path of its own. -/
def shops : Resource := { type := "shop", plural := "shops" }

end Endpoint

end ClientGen
