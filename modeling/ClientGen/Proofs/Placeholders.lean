import Mathlib.Data.List.TakeWhile
import ClientGen.Proofs.Notation
import ClientGen.Proofs.Parameters
import ClientGen.Proofs.Reading

/-!
# Placeholders of a path

Two parts of the library look for placeholders in a path. The reader of a description takes what
follows the first colon of a segment, wherever that colon stands; the builder of an endpoint takes
the segments that begin with a colon, a bare colon among them. This file fixes

* `Marks`, `mem_placeholdersIn_iff`, `mem_placeholdersOf_iff`: what each of the two finds;
* `AgreesOn`, `agree_iff`: the names on which they agree;
* `ofOperation_of_stray`: what the builder says of a parameter that has no place in the path;
* `Infers`, `Reading.operation_infers`: what follows for a parameter without a location.
-/

namespace ClientGen

open ClientGen.Text

/-! ## 1. Colons in segments -/

/-- **A path marks a name**: a segment holds it behind a colon, and nothing but `front`, which has
    no colon, stands before that. -/
def Marks (path front name : String) : Prop :=
  ':' ∉ front.toList ∧ front ++ ":" ++ name ∈ Endpoint.segmentsOf path

theorem toList_marked (front name : String) :
    (front ++ ":" ++ name).toList = front.toList ++ ':' :: name.toList := by
  rw [String.toList_append, String.toList_append, List.append_assoc]
  rfl

theorem mem_segmentsOf_iff {path segment : String} :
    segment ∈ Endpoint.segmentsOf path ↔ segment.toList ∈ splitOn '/' path.toList := by
  rw [Endpoint.segmentsOf, pieces, List.mem_map]
  constructor
  · rintro ⟨cs, hcs, rfl⟩
    rwa [String.toList_ofList]
  · exact fun h => ⟨segment.toList, h, String.ofList_toList⟩

/-- The builder's placeholder of a segment. -/
theorem placeholder?_eq_some_iff {segment name : String} :
    Endpoint.placeholder? segment = some name ↔ segment = "" ++ ":" ++ name := by
  rw [← String.toList_inj, toList_marked, String.toList_empty, List.nil_append]
  unfold Endpoint.placeholder?
  split
  · rename_i rest hrest
    rw [hrest, Option.some.injEq, ← String.toList_inj, String.toList_ofList, List.cons.injEq]
    exact (and_iff_right rfl).symm
  · rename_i hnone
    constructor
    · intro h
      cases h
    · intro h
      exact absurd h (hnone name.toList)

/-- **The builder's placeholders** are the names that are whole segments behind their colon. -/
theorem mem_placeholdersOf_iff {path name : String} :
    name ∈ Endpoint.placeholdersOf path ↔ Marks path "" name := by
  rw [Endpoint.placeholdersOf, List.mem_filterMap]
  constructor
  · rintro ⟨segment, hs, h⟩
    exact ⟨List.not_mem_nil, placeholder?_eq_some_iff.mp h ▸ hs⟩
  · rintro ⟨_, hs⟩
    exact ⟨_, hs, placeholder?_eq_some_iff.mpr rfl⟩

theorem placeholderIn_of_not_mem {cs : List Char} (h : ':' ∉ cs) : Reading.placeholderIn cs = none := by
  have hnil : cs.dropWhile (· ≠ ':') = [] := by
    rw [List.dropWhile_eq_nil_iff]
    intro c hc
    exact decide_eq_true fun e => h (e ▸ hc)
  rw [Reading.placeholderIn, hnil]

theorem placeholderIn_append {front : List Char} (h : ':' ∉ front) (rest : List Char) :
    Reading.placeholderIn (front ++ ':' :: rest) =
      if rest = [] then none else some (String.ofList rest) := by
  have hdrop : (front ++ ':' :: rest).dropWhile (· ≠ ':') = ':' :: rest := by
    refine dropWhile_append_of_stop (fun c hc => decide_eq_true ?_) fun c hc => ?_
    · rintro rfl
      exact h hc
    · cases hc
      rfl
  rw [Reading.placeholderIn, hdrop]
  cases rest with
  | nil => rfl
  | cons c rest => rfl

/-- The reader's placeholder of a segment. -/
theorem placeholderIn_eq_some_iff {cs : List Char} {name : String} :
    Reading.placeholderIn cs = some name ↔
      name ≠ "" ∧ ∃ front, ':' ∉ front ∧ cs = front ++ ':' :: name.toList := by
  constructor
  · intro h
    by_cases hc : ':' ∈ cs
    · obtain ⟨front, rest, rfl, hno⟩ := List.eq_append_cons_of_mem hc
      rw [placeholderIn_append hno] at h
      split at h
      · cases h
      · rename_i hrest
        cases h
        refine ⟨fun he => hrest ?_, front, hno, by rw [String.toList_ofList]⟩
        rw [← String.toList_ofList (l := rest), he, String.toList_empty]
    · rw [placeholderIn_of_not_mem hc] at h
      cases h
  · rintro ⟨hname, front, hno, rfl⟩
    rw [placeholderIn_append hno, if_neg (mt String.toList_eq_nil_iff.mp hname),
      String.ofList_toList]

/-- **The reader's placeholders** are the names that are not empty and stand behind the first colon
    of a segment. -/
theorem mem_placeholdersIn_iff {path name : String} :
    name ∈ Reading.placeholdersIn path ↔ name ≠ "" ∧ ∃ front, Marks path front name := by
  rw [Reading.placeholdersIn, List.mem_filterMap]
  constructor
  · rintro ⟨cs, hcs, h⟩
    obtain ⟨hname, front, hno, rfl⟩ := placeholderIn_eq_some_iff.mp h
    refine ⟨hname, String.ofList front, by rwa [String.toList_ofList], ?_⟩
    rwa [mem_segmentsOf_iff, toList_marked, String.toList_ofList]
  · rintro ⟨hname, front, hno, hs⟩
    rw [mem_segmentsOf_iff, toList_marked] at hs
    exact ⟨_, hs, placeholderIn_eq_some_iff.mpr ⟨hname, _, hno, rfl⟩⟩

/-! ## 2. Where the two agree -/

/-- **The two agree on a name** in a path: an empty name is not marked at all, and another one is
    marked by a whole segment wherever it is marked by part of one. -/
structure AgreesOn (path name : String) : Prop where
  empty : name = "" → ¬ Marks path "" name
  whole : name ≠ "" → ∀ front, Marks path front name → Marks path "" name

/-- The reader and the builder find the same exactly where they agree. -/
theorem agree_iff {path name : String} :
    (name ∈ Reading.placeholdersIn path ↔ name ∈ Endpoint.placeholdersOf path) ↔
      AgreesOn path name := by
  rw [mem_placeholdersIn_iff, mem_placeholdersOf_iff]
  constructor
  · intro h
    exact ⟨fun hname hm => (h.mpr hm).1 hname, fun hname front hm => h.mp ⟨hname, front, hm⟩⟩
  · intro h
    constructor
    · rintro ⟨hname, front, hm⟩
      exact h.whole hname front hm
    · intro hm
      exact ⟨fun hname => h.empty hname hm, "", hm⟩

/-! ## 3. Parameters without a place -/

namespace Endpoint

variable {r : Registry} {resource : Resource} {o : Operation}

/-- Tells whether a fault says that the path does not have a parameter. -/
def SaysStray (c : Cause) : Prop := ∃ name, c = .parameterNotInPath name

theorem not_saysStray_of_parse {s : String} (c : Cause) (h : r.parse s = .error c) : ¬ SaysStray c := by
  obtain ⟨t, rfl⟩ := Registry.cause_of_parse_eq_error h
  rintro ⟨name, hname⟩
  cases hname

theorem not_saysStray_of_defaultLiteral {raw : String} {q : Bool} {ref : TypeRef} (c : Cause)
    (h : r.defaultLiteral raw q ref = .error c) : ¬ SaysStray c := by
  induction ref with
  | option of ih => exact ih h
  | named kind name =>
    rintro ⟨n, rfl⟩
    cases kind with
    | enum =>
      unfold Registry.defaultLiteral at h
      split at h <;> cases h
    | _ => cases h
  | primitive p =>
    rintro ⟨n, rfl⟩
    unfold Registry.defaultLiteral at h
    split at h <;> cases h
  | _ =>
    rintro ⟨n, rfl⟩
    cases h

theorem not_saysStray_of_settle {p : Parameter} {l : Location} {ref : TypeRef} (c : Cause)
    (h : settle r p l ref = .error c) : ¬ SaysStray c := by
  unfold settle at h
  split at h
  · split at h
    · cases h
    · cases h
      rintro ⟨n, hn⟩
      cases hn
  · split at h
    · exact not_saysStray_of_defaultLiteral c (map_eq_error.mp h)
    · cases h

theorem not_saysStray_of_argumentOf {p : Parameter} {l : Location} :
    ∀ c, argumentOf r p l = .error c → ¬ SaysStray c :=
  forall_error_bind not_saysStray_of_parse fun _ =>
    forall_error_bind not_saysStray_of_settle fun _ _ h => nomatch h

theorem not_saysStray_of_bodyOf {s : String} : ∀ c, bodyOf r s = .error c → ¬ SaysStray c :=
  forall_error_bind not_saysStray_of_parse fun _ _ h => nomatch h

theorem not_saysStray_of_checkVerb {e : Endpoint} (c : Cause) (h : checkVerb e = .error c) :
    ¬ SaysStray c := by
  unfold checkVerb at h
  dsimp only at h
  rintro ⟨n, rfl⟩
  repeat' split at h
  all_goals cases h

theorem not_saysStray_of_checkArguments {e : Endpoint} (c : Cause)
    (h : checkArguments e = .error c) : ¬ SaysStray c := by
  unfold checkArguments at h
  rintro ⟨n, rfl⟩
  split at h <;> cases h

/-- **A declared parameter is stray** where it goes into a path that does not have it. -/
structure Stray (o : Operation) (name : String) : Prop where
  names : (o.parameters.map (·.name)).Nodup
  declared : ∃ p ∈ o.parameters, p.name = name ∧ p.location = .path
  absent : name ∉ placeholdersOf o.path

theorem stray_of_parametersOf {name : String}
    (h : parametersOf r o (placeholdersOf o.path) = .error (.parameterNotInPath name)) :
    Stray o name := by
  unfold parametersOf at h
  dsimp only at h
  cases hd : repeated? (o.parameters.map (·.name)) with
  | some n =>
    rw [hd] at h
    cases h
  | none =>
    rw [hd] at h
    cases hs : o.parameters.find? fun p =>
        p.location = .path && !(placeholdersOf o.path).contains p.name with
    | some p =>
      rw [hs] at h
      cases h
      have hp := List.find?_some hs
      simp only [Bool.and_eq_true, decide_eq_true_eq, Bool.not_eq_true', List.contains_eq_mem,
        decide_eq_false_iff_not] at hp
      exact ⟨repeated?_eq_none_iff.mp hd, ⟨p, List.mem_of_find?_eq_some hs, rfl, hp.1⟩, hp.2⟩
    | none =>
      rw [hs] at h
      dsimp only at h
      refine absurd ⟨name, rfl⟩ (forall_error_bind (P := fun c => ¬ SaysStray c) ?_ (fun path => ?_) _ h)
      · exact forall_error_mapM (fun _ => not_saysStray_of_argumentOf) _
      · refine forall_error_bind ?_ fun rest c hc => nomatch hc
        exact forall_error_mapM (fun _ => not_saysStray_of_argumentOf) _

/-- A fault that says that the path does not have a parameter names a stray one. -/
theorem stray_of_ofOperation {name : String} {place : Place}
    (h : ofOperation r resource o = .error ⟨.parameterNotInPath name, place⟩) : Stray o name := by
  obtain ⟨c, hc, hf⟩ := mapError_eq_error.mp h
  have hcause : c = .parameterNotInPath name := congrArg DescriptionFault.cause hf
  rw [hcause] at hc
  unfold build at hc
  dsimp only at hc
  cases hp : repeated? (placeholdersOf o.path) with
  | some n =>
    rw [hp] at hc
    cases hc
  | none =>
    rw [hp] at hc
    dsimp only at hc
    rcases bind_eq_error.mp hc with hb | ⟨body, _, hc⟩
    · cases ho : o.body with
      | none =>
        rw [ho] at hb
        cases hb
      | some t =>
        rw [ho] at hb
        exact absurd ⟨name, rfl⟩ (not_saysStray_of_bodyOf _ (map_eq_error.mp hb))
    · rcases bind_eq_error.mp hc with hps | ⟨parameters, _, hc⟩
      · exact stray_of_parametersOf hps
      · refine absurd ⟨name, rfl⟩
          (forall_error_bind (P := fun c => ¬ SaysStray c) not_saysStray_of_checkVerb (fun _ => ?_) _ hc)
        exact forall_error_bind not_saysStray_of_checkArguments fun _ c hc => nomatch hc

/-- **A stray parameter is refused**: where the placeholders have names of their own and the type of
    the body can be read, the fault names the first one that is declared. -/
theorem ofOperation_of_stray {name : String} (hs : Stray o name)
    (hplaceholders : (placeholdersOf o.path).Nodup)
    (hbody : ∀ t, o.body = some t → ∃ ref, r.parse t = .ok ref) :
    ∃ first, Stray o first ∧ ofOperation r resource o =
      .error (faultOf resource o (.parameterNotInPath first) none) := by
  obtain ⟨p, hp, rfl, hl⟩ := hs.declared
  have hstray : (o.parameters.find? fun p =>
      p.location = .path && !(placeholdersOf o.path).contains p.name) ≠ none := fun h =>
    hs.absent (stray_eq_none_iff.mp h p hp hl)
  obtain ⟨q, hq⟩ := Option.ne_none_iff_exists'.mp hstray
  have hparameters : parametersOf r o (placeholdersOf o.path) = .error (.parameterNotInPath q.name) := by
    unfold parametersOf
    dsimp only
    rw [repeated?_eq_none_iff.mpr hs.names, hq]
    rfl
  obtain ⟨body, hb⟩ : ∃ b, o.body.mapM (bodyOf r) = .ok b := by
    cases ho : o.body with
    | none => exact ⟨none, rfl⟩
    | some t =>
      obtain ⟨ref, href⟩ := hbody t ho
      exact ⟨_, map_eq_ok.mpr ⟨_, bind_eq_ok.mpr ⟨ref, href, rfl⟩, rfl⟩⟩
  have hbuild : build r resource o = .error (.parameterNotInPath q.name) := by
    unfold build
    dsimp only
    rw [repeated?_eq_none_iff.mpr hplaceholders]
    exact bind_eq_error.mpr (.inr ⟨body, hb, bind_eq_error.mpr (.inl hparameters)⟩)
  have hfound := List.find?_some hq
  simp only [Bool.and_eq_true, decide_eq_true_eq, Bool.not_eq_true', List.contains_eq_mem,
    decide_eq_false_iff_not] at hfound
  exact ⟨q.name, ⟨hs.names, ⟨q, List.mem_of_find?_eq_some hq, rfl, hfound.1⟩, hfound.2⟩,
    mapError_eq_error.mpr ⟨_, hbuild, rfl⟩⟩

end Endpoint

/-! ## 4. Parameters without a location -/

namespace Reading

variable {d : Document} {o : Operation}

/-- **What becomes of a parameter without a location**: it goes into the path where the reader finds
    its name there. That is right where the reader and the builder agree on the name; a name that
    only the reader finds has the operation refused. -/
structure Infers (o : Operation) (p : Parameter) : Prop where
  inferred : p.location = .path ↔ p.name ∈ placeholdersIn o.path
  right : (p.location = .path ↔ p.name ∈ Endpoint.placeholdersOf o.path) ↔ AgreesOn o.path p.name
  appears : AgreesOn o.path p.name → ∀ (r : Registry) (resource : Resource) (place : Place),
    Endpoint.ofOperation r resource o ≠ .error ⟨.parameterNotInPath p.name, place⟩
  refused : p.name ≠ "" → ¬ AgreesOn o.path p.name → ∀ (r : Registry) (resource : Resource),
    (Endpoint.placeholdersOf o.path).Nodup → (o.parameters.map (·.name)).Nodup →
    (∀ t, o.body = some t → ∃ ref, r.parse t = .ok ref) →
    ∃ name, Endpoint.Stray o name ∧ Endpoint.ofOperation r resource o =
      .error (Endpoint.faultOf resource o (.parameterNotInPath name) none)

theorem ofRecord_location {name type required default description : Value} {l : Location}
    {p : Parameter}
    (h : Parameter.ofRecord [("name", name), ("type", type), ("location", .text l.text),
      ("required", required), ("default", default), ("description", description)] = .good p) :
    name = .text p.name ∧ p.location = l := by
  obtain ⟨_, _, h₁, _, rfl⟩ := Checked.seq_eq_good.mp h
  obtain ⟨_, _, h₂, _, rfl⟩ := Checked.seq_eq_good.mp h₁
  obtain ⟨_, _, h₃, _, rfl⟩ := Checked.seq_eq_good.mp h₂
  obtain ⟨_, _, h₄, hl, rfl⟩ := Checked.seq_eq_good.mp h₃
  obtain ⟨_, _, h₅, _, rfl⟩ := Checked.seq_eq_good.mp h₄
  obtain ⟨_, hname, rfl⟩ := Checked.map_eq_good.mp h₅
  rw [Check.entry_eq_good (v := name) rfl, Check.text_eq_good] at hname
  have hlisted : Check.listed Location.ofText? (.text l.text) = .good l := by
    cases l <;> rfl
  rw [Check.entryOr_eq_good (v := .text l.text) rfl, hlisted] at hl
  cases hl
  exact ⟨hname, rfl⟩

/-- The location that a parameter is given where its specification has none. -/
theorem location_of_parameter {verb : Verb} {placeholders : List String} {spec : Value}
    {p : Parameter} (h : parameter verb placeholders spec d = .ok p)
    (hl : memberOr spec "location" .null d = .ok .null) :
    p.location = inferredLocation verb placeholders (.text p.name) := by
  obtain ⟨l, hloc, h⟩ := bind_eq_ok.mp h
  obtain ⟨name, hname, h⟩ := bind_eq_ok.mp h
  obtain ⟨_, _, h⟩ := bind_eq_ok.mp h
  obtain ⟨_, _, h⟩ := bind_eq_ok.mp h
  obtain ⟨_, _, h⟩ := bind_eq_ok.mp h
  obtain ⟨_, _, h⟩ := bind_eq_ok.mp h
  obtain ⟨_, _, h⟩ := bind_eq_ok.mp h
  obtain ⟨rfl, rfl⟩ := ofRecord_location (check_eq_ok.mp h)
  obtain ⟨given, hgiven, hloc⟩ := bind_eq_ok.mp hloc
  cases hl.symm.trans hgiven
  obtain ⟨key, hkey, hloc⟩ := bind_eq_ok.mp hloc
  cases hname.symm.trans hkey
  exact (pure_eq_ok.mp hloc).symm

theorem inferredLocation_eq_path_iff {verb : Verb} {placeholders : List String} {name : String} :
    inferredLocation verb placeholders (.text name) = .path ↔ name ∈ placeholders := by
  unfold inferredLocation
  simp only [List.contains_eq_mem, decide_eq_true_eq]
  split
  · rename_i hm
    exact iff_of_true rfl hm
  · rename_i hm
    refine iff_of_false (fun h => ?_) hm
    split at h <;> cases h

theorem infers_of_location {p : Parameter} (hp : p ∈ o.parameters)
    (h : p.location = .path ↔ p.name ∈ placeholdersIn o.path) : Infers o p := by
  refine ⟨h, by rw [h, agree_iff], fun ha r resource place hf => ?_,
    fun hname hno r resource hplaceholders hnames hbody => ?_⟩
  · have hs := Endpoint.stray_of_ofOperation hf
    obtain ⟨q, hq, hqname, hql⟩ := hs.declared
    have hqp : q = p := List.inj_on_of_nodup_map hs.names hq hp hqname
    subst hqp
    exact hs.absent ((agree_iff.mpr ha).mp (h.mp hql))
  · -- what the builder finds the reader finds too, unless it is empty, so the reader alone finds it
    have hmore : p.name ∈ Endpoint.placeholdersOf o.path → p.name ∈ placeholdersIn o.path :=
      fun hm => mem_placeholdersIn_iff.mpr ⟨hname, "", mem_placeholdersOf_iff.mp hm⟩
    have habsent : p.name ∉ Endpoint.placeholdersOf o.path := fun hm =>
      hno (agree_iff.mp (iff_of_true (hmore hm) hm))
    have hin : p.name ∈ placeholdersIn o.path := by
      by_contra hout
      exact hno (agree_iff.mp (iff_of_false hout habsent))
    exact Endpoint.ofOperation_of_stray ⟨hnames, ⟨p, hp, rfl, h.mpr hin⟩, habsent⟩ hplaceholders hbody

/-- **What a parameter without a location becomes**: it is put into the path exactly where the
    reader's placeholders have its name. -/
theorem operation_infers {resource path spec : Value}
    (h : operation resource path spec d = .ok o) :
    ∃ given specs, memberOr spec "parameters" (.list []) d = .ok given ∧
      itemsOf given d = .ok specs ∧
      List.Forall₂ (fun v p => memberOr v "location" .null d = .ok .null → Infers o p)
        specs o.parameters := by
  obtain ⟨given, specs, hgiven, hspecs, hps⟩ := (specifies_of_operation h).parameters
  have hread := (mapM_eq_ok.mp hps).flip
  have hmembers := ((List.forall₂_and_left _ _).mpr ⟨fun p hp => hp, hread⟩).flip
  refine ⟨given, specs, hgiven, hspecs, hmembers.imp fun v p ⟨hp, hv⟩ hl => ?_⟩
  refine infers_of_location hp ?_
  rw [location_of_parameter hv hl, inferredLocation_eq_path_iff]

/-- Operation whose path holds a colon inside a segment, with a parameter for what follows it. -/
def colonInside : Value :=
  .record [("method", .text "get"), ("path", .text "/a:b/:c"), ("parameters", .list
    [.record [("name", .text "b")], .record [("name", .text "c"), ("type", .text "integer")]])]

/-- What is read of it: both parameters go into the path. -/
def bothInPath : Operation :=
  { verb := .get, path := "/a:b/:c", parameters :=
      [{ name := "b", location := .path }, { name := "c", type := "integer", location := .path }] }

/-- The two agree on the whole segment and not on the other one. -/
theorem operation_infers_colonInside :
    operation (.text "page") (.text "") colonInside colonInside = .ok bothInPath ∧
    AgreesOn "/a:b/:c" "c" ∧ ¬ AgreesOn "/a:b/:c" "b" ∧
    ∃ given specs, memberOr colonInside "parameters" (.list []) colonInside = .ok given ∧
      itemsOf given colonInside = .ok specs ∧
      List.Forall₂ (fun v p => memberOr v "location" .null colonInside = .ok .null →
        Infers bothInPath p) specs bothInPath.parameters := by
  have h : operation (.text "page") (.text "") colonInside colonInside = .ok bothInPath := rfl
  exact ⟨h, agree_iff.mp (by decide), mt agree_iff.mpr (by decide), operation_infers h⟩

/-- **A parameter that is put into a path that does not have it**: the operation is refused for a
    location that the description does not give. -/
theorem exists_inferred_stray :
    operation (.text "page") (.text "") colonInside colonInside = .ok bothInPath ∧
    memberOr (.record [("name", .text "b")]) "location" .null colonInside = .ok .null ∧
    "b" ∉ Endpoint.placeholdersOf bothInPath.path ∧
    Endpoint.ofOperation ⟨Dialect.aiohttp, [], []⟩ { type := "page", plural := "pages" } bothInPath =
      .error ⟨.parameterNotInPath "b",
        { resource := .text "pages", operation := some "GET /a:b/:c" }⟩ :=
  ⟨rfl, rfl, by decide, rfl⟩

end Reading

end ClientGen
