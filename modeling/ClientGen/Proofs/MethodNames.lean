import ClientGen.Proofs.BasePaths
import ClientGen.Proofs.Endpoints

/-!
# Names of methods under their resource

The reader puts the path of the resource before that of an operation, and the name of the method is
made from what is left when it is taken off again. The two ends differ in how they treat slashes and
where a path may be taken off. This file fixes

* `relativePath_pathUnder`: what is put before a path is what is taken off, whatever the path;
* `nameFrom`, `nameOf_eq`: a name as its verb, its words and its placeholders;
* `ReadUnder`, `ofOperation_named_alike`: an operation has one name under every resource.
-/

namespace ClientGen

open ClientGen.Text

namespace Endpoint

variable {x : Resource}

/-! ## 1. Putting a path before another and taking it off -/

/-- **A path that can stand in front**: something is left of it without the slashes at its end, and
    it does not begin with a placeholder. -/
structure StandsInFront (base : String) : Prop where
  ne_empty : unslashed base ≠ ""
  literal : startsWith (unslashed base) "/:" = false

/-- **A path that can follow**: it is empty or begins with a slash. -/
def Follows (own : String) : Prop := own = "" ∨ startsWith own "/" = true

theorem relativePath_eq (x : Resource) (path : String) : relativePath x path =
    if unslashed x.basePath ≠ "" && !startsWith (unslashed x.basePath) "/:" &&
        (path = unslashed x.basePath || startsWith path (unslashed x.basePath ++ "/"))
      then dropStart (unslashed x.basePath).toList.length path else path := rfl

/-- **What is put before a path is taken off again**, also where the path begins with it once more. -/
theorem relativePath_pathUnder {own : String} (hbase : StandsInFront x.basePath)
    (hown : Follows own) : relativePath x (pathUnder x.basePath own) = own := by
  have hfits : (decide (unslashed x.basePath ++ own = unslashed x.basePath) ||
      startsWith (unslashed x.basePath ++ own) (unslashed x.basePath ++ "/")) = true := by
    rcases hown with rfl | hslash
    · rw [String.append_empty, decide_eq_true rfl, Bool.true_or]
    · obtain ⟨rest, rfl⟩ := startsWith_iff.mp hslash
      rw [← String.append_assoc, startsWith_append, Bool.or_true]
  rw [pathUnder_of_ne hbase.ne_empty, relativePath_eq, decide_eq_true hbase.ne_empty, hbase.literal,
    hfits]
  exact dropStart_append _ _

/-! ## 2. Names of paths -/

/-- Literal segments of a path, in order. -/
def literalsOf (path : String) : List String :=
  (segmentsOf path).filter fun s => s ≠ "" ∧ placeholder? s = none

/-- **The name that a verb and the segments of a path make**: the words of the literal segments with
    "and" between them, then "by" and the placeholders with "and" between them. -/
def nameFrom (verb : Verb) (literals placeholders : List String) : String :=
  verb.word ++ (if literals = [] then "" else "_" ++ join "_and_" (literals.map snakeCase)) ++
    (if placeholders = [] then "" else "_by_" ++ join "_and_" (placeholders.map snakeCase))

theorem placeholder?_empty : placeholder? "" = none := rfl

theorem filterMap_placeholder?_filter (segments : List String) :
    (segments.filter (· ≠ "")).filterMap placeholder? = segments.filterMap placeholder? := by
  rw [List.filterMap_filter]
  refine List.filterMap_congr fun s _ => ?_
  by_cases hs : s = ""
  · rw [hs, placeholder?_empty, ite_self]
  · rw [if_pos (decide_eq_true hs)]

/-- The name of an operation is the one that its verb and the segments of its path make. -/
theorem nameOf_eq (verb : Verb) (path : String) :
    nameOf verb path = nameFrom verb (literalsOf path) (placeholdersOf path) := by
  have hliterals : ((segmentsOf path).filter (· ≠ "")).filter (fun s => (placeholder? s).isNone) =
      literalsOf path := by
    rw [List.filter_filter, literalsOf]
    refine List.filter_congr fun s _ => ?_
    rw [Bool.decide_and, Bool.and_comm]
    cases placeholder? s <;> rfl
  unfold nameOf nameFrom
  dsimp only
  have hby : ("_by_" : String) = "_" ++ "by" ++ "_" := rfl
  rw [hliterals, filterMap_placeholder?_filter, ← placeholdersOf, hby]
  simp only [List.isEmpty_map, List.isEmpty_iff]
  split <;> split <;>
    simp only [List.append_nil, List.nil_append, List.cons_append, join_cons_cons, join_singleton,
      String.append_assoc, String.append_empty, -String.reduceAppend]

/-! ## 3. One operation under two resources -/

/-- **An operation is read under a resource**: the path of the resource stands before the one that
    the operation has of its own. -/
structure ReadUnder (base : String) (verb : Verb) (own : String) (x : Resource) (o : Operation) :
    Prop where
  base_eq : x.path = some base
  verb_eq : o.verb = verb
  read : ∃ d spec, Reading.LivesUnder d x spec o ∧
    Reading.memberOr spec "path" (.text "") d = .ok (.text own)

variable {base own : String} {verb : Verb} {o : Operation} {r : Registry} {e : Endpoint}

theorem ReadUnder.basePath_eq (h : ReadUnder base verb own x o) : x.basePath = base := by
  rw [Resource.basePath, h.base_eq]
  rfl

theorem ReadUnder.path_eq (h : ReadUnder base verb own x o) : o.path = pathUnder x.basePath own := by
  obtain ⟨d, spec, hlives, hown⟩ := h.read
  obtain ⟨s, hs, hpath, _⟩ := hlives.path
  rw [hown] at hs
  cases hs
  rw [hpath, h.base_eq, h.basePath_eq]
  rfl

/-- What the path of the resource is does not show in the name. -/
theorem ReadUnder.snakeName_eq (h : ReadUnder base verb own x o) (hbase : StandsInFront base)
    (hown : Follows own) (he : ofOperation r x o = .ok e) :
    e.snakeName = nameFrom verb (literalsOf own) (placeholdersOf own) := by
  rw [← h.basePath_eq] at hbase
  rw [(ofOperation_eq_ok.mp he).snakeName_eq, h.path_eq, relativePath_pathUnder hbase hown, h.verb_eq,
    nameOf_eq]

/-- **An operation has one name under every resource**: its methods are named by its verb and the
    segments of its own path alone, whatever path of a resource it is read under. -/
theorem ofOperation_named_alike {base₁ base₂ own : String} {verb : Verb} {x₁ x₂ : Resource}
    {o₁ o₂ : Operation} {r₁ r₂ : Registry} {e₁ e₂ : Endpoint}
    (hbase₁ : StandsInFront base₁) (hbase₂ : StandsInFront base₂) (hown : Follows own)
    (h₁ : ReadUnder base₁ verb own x₁ o₁) (h₂ : ReadUnder base₂ verb own x₂ o₂)
    (he₁ : ofOperation r₁ x₁ o₁ = .ok e₁) (he₂ : ofOperation r₂ x₂ o₂ = .ok e₂) :
    e₁.methodName = e₂.methodName ∧ e₁.camelName = e₂.camelName ∧
      e₁.methodName = nameFrom verb (literalsOf own) (placeholdersOf own) ∧
      e₁.camelName = camelCase (nameFrom verb (literalsOf own) (placeholdersOf own)) := by
  have hs₁ := h₁.snakeName_eq hbase₁ hown he₁
  have hs₂ := h₂.snakeName_eq hbase₂ hown he₂
  have hsafe : safeName (nameFrom verb (literalsOf own) (placeholdersOf own)) =
      nameFrom verb (literalsOf own) (placeholdersOf own) := by
    rw [← nameOf_eq, safeName_nameOf]
  unfold methodName camelName
  rw [hs₁, hs₂, hsafe]
  exact ⟨rfl, rfl, rfl, rfl⟩

/-- Description of an operation whose path repeats the paths of resources. -/
def echoing : Value := .record [("method", .text "get"), ("path", .text "/users/:userGuid/users")]

/-- Description of the operation under two paths, of which one continues the other. -/
def echoes : Document :=
  Value.record [("resources", .record
    [("user", .record [("path", .text "/users//"), ("operations", .list [echoing])]),
     ("team", .record [("path", .text "/users/users"), ("operations", .list [echoing])])])]

/-- The operation as it is read under the first path. -/
def userEcho : Operation := { verb := .get, path := "/users/users/:userGuid/users" }

/-- The operation as it is read under the second path. -/
def teamEcho : Operation := { verb := .get, path := "/users/users/users/:userGuid/users" }

/-- Resource with the first path. -/
def users : Resource :=
  { type := "user", plural := "users", path := some "/users//", operations := [userEcho] }

/-- Resource with the second path. -/
def teams : Resource :=
  { type := "team", plural := "teams", path := some "/users/users", operations := [teamEcho] }

theorem ofOperation_named_alike_echoes : ∃ e₁ e₂,
    Service.ofDocument echoes = .ok { name := "api", resources := [users, teams] } ∧
    ReadUnder "/users//" .get "/users/:userGuid/users" users userEcho ∧
    ReadUnder "/users/users" .get "/users/:userGuid/users" teams teamEcho ∧
    ofOperation ⟨{ name := "api" }, [], []⟩ users userEcho = .ok e₁ ∧
    ofOperation ⟨{ name := "api" }, [], []⟩ teams teamEcho = .ok e₂ ∧
    e₁.methodName = e₂.methodName ∧ e₁.camelName = e₂.camelName ∧
    e₁.methodName = "get_users_and_users_by_user_guid" ∧
    e₁.camelName = "getUsersAndUsersByUserGuid" := by
  have hread₁ : Reading.operation (.text "user") (Value.ofText? users.path) echoing echoes =
      .ok userEcho := rfl
  have hread₂ : Reading.operation (.text "team") (Value.ofText? teams.path) echoing echoes =
      .ok teamEcho := rfl
  have h₁ : ReadUnder "/users//" .get "/users/:userGuid/users" users userEcho :=
    ⟨rfl, rfl, echoes, echoing, Reading.livesUnder_of_operation hread₁, rfl⟩
  have h₂ : ReadUnder "/users/users" .get "/users/:userGuid/users" teams teamEcho :=
    ⟨rfl, rfl, echoes, echoing, Reading.livesUnder_of_operation hread₂, rfl⟩
  obtain ⟨e₁, he₁⟩ : ∃ e, ofOperation ⟨{ name := "api" }, [], []⟩ users userEcho = .ok e := ⟨_, rfl⟩
  obtain ⟨e₂, he₂⟩ : ∃ e, ofOperation ⟨{ name := "api" }, [], []⟩ teams teamEcho = .ok e := ⟨_, rfl⟩
  obtain ⟨hmethod, hcamel, hname, hcamelName⟩ := ofOperation_named_alike ⟨by decide, by decide⟩
    ⟨by decide, by decide⟩ (.inr (by decide)) h₁ h₂ he₁ he₂
  exact ⟨e₁, e₂, rfl, h₁, h₂, he₁, he₂, hmethod, hcamel, hname, hcamelName⟩

end Endpoint

end ClientGen
