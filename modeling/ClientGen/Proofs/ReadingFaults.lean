import ClientGen.Proofs.Reading

/-!
# What stops the reader

A description is refused with a fault of its own, unless a part is asked of a value that has no
parts: that stops the reader as well, but not as a fault of the description. This file fixes where
it happens. The reader stops at the first fault, so everything before such a value has been read.

* `Lacks`: a reading asks a part of a value that has none, and `lacks_bind_iff`, `lacks_mapM_iff`:
  in a sequence this is its first such step;
* `not_lacks_headers` and its like: most readings never do, whatever they are given;
* `ParameterLacks`, `AnswerLacks`, `OperationLacks`, `ResourceLacks`, `ServiceLacks`: the places
  where it happens, one constructor each, and `lacks_parameter_iff` and its like;
* `Service.ofDocument_faults`: a document is refused for its description or because it lacks a part,
  and the second exactly in these places.
-/

namespace ClientGen

open ClientGen.Text ClientGen.Number

namespace Reading

variable {α β : Type} {d : Document}

/-! ## 1. Sequences -/

/-- **A reading asks a part of a value that has none**, and stops there. -/
def Lacks (d : Document) (x : Reading α) : Prop := x d = .error .noSuchPart

theorem lacks_bind_iff {x : Reading α} {f : α → Reading β} :
    Lacks d (x >>= f) ↔ Lacks d x ∨ ∃ a, x d = .ok a ∧ Lacks d (f a) :=
  ClientGen.bind_eq_error

theorem Lacks.bind_left {x : Reading α} (f : α → Reading β) (h : Lacks d x) : Lacks d (x >>= f) :=
  lacks_bind_iff.mpr (.inl h)

theorem Lacks.bind_right {x : Reading α} {f : α → Reading β} {a : α} (ha : x d = .ok a)
    (h : Lacks d (f a)) : Lacks d (x >>= f) :=
  lacks_bind_iff.mpr (.inr ⟨a, ha, h⟩)

theorem not_lacks_bind {x : Reading α} {f : α → Reading β} (hx : ¬ Lacks d x)
    (hf : ∀ a, x d = .ok a → ¬ Lacks d (f a)) : ¬ Lacks d (x >>= f) := by
  rw [lacks_bind_iff]
  rintro (h | ⟨a, ha, h⟩)
  · exact hx h
  · exact hf a ha h

theorem not_lacks_pure (a : α) : ¬ Lacks d (pure a : Reading α) := nofun

/-- **The first of some items that is not read** has a property. -/
def FirstUnread (d : Document) (read : α → Reading β) (P : α → Prop) (xs : List α) : Prop :=
  ∃ before x after, xs = before ++ x :: after ∧ (∃ ys, before.mapM read d = .ok ys) ∧ P x

theorem not_firstUnread_nil {read : α → Reading β} {P : α → Prop} : ¬ FirstUnread d read P [] := by
  rintro ⟨before, x, after, h, _⟩
  cases before <;> cases h

theorem firstUnread_cons {read : α → Reading β} {P : α → Prop} {x : α} {xs : List α} :
    FirstUnread d read P (x :: xs) ↔ P x ∨ (∃ y, read x d = .ok y) ∧ FirstUnread d read P xs := by
  constructor
  · rintro ⟨before, z, after, hxs, ⟨ys, hys⟩, hz⟩
    cases before with
    | nil =>
      cases hxs
      exact Or.inl hz
    | cons b before =>
      cases hxs
      cases mapM_eq_ok.mp hys with
      | cons hy hrest =>
        exact Or.inr ⟨⟨_, hy⟩, before, z, after, rfl, ⟨_, mapM_eq_ok.mpr hrest⟩, hz⟩
  · rintro (hx | ⟨⟨y, hy⟩, before, z, after, rfl, ⟨ys, hys⟩, hz⟩)
    · exact ⟨[], x, xs, rfl, ⟨[], rfl⟩, hx⟩
    · exact ⟨x :: before, z, after, rfl, ⟨y :: ys, mapM_eq_ok.mpr (.cons hy (mapM_eq_ok.mp hys))⟩, hz⟩

/-- A list is not gone through for lack of a part exactly where its first item that is not read
    lacks one. -/
theorem lacks_mapM_iff {read : α → Reading β} {xs : List α} :
    Lacks d (xs.mapM read) ↔ FirstUnread d read (fun x => Lacks d (read x)) xs := by
  induction xs with
  | nil => exact ⟨fun h => absurd h (not_lacks_pure []), fun h => absurd h not_firstUnread_nil⟩
  | cons x xs ih =>
    have hend : ∀ y, ¬ ∃ ys, xs.mapM read d = .ok ys ∧ Lacks d (pure (y :: ys) : Reading (List β)) :=
      fun y ⟨ys, _, h⟩ => not_lacks_pure _ h
    rw [List.mapM_cons, lacks_bind_iff, firstUnread_cons]
    simp only [lacks_bind_iff, hend, or_false, ih, exists_and_right]

theorem not_lacks_mapM {read : α → Reading β} {xs : List α} (h : ∀ x, ¬ Lacks d (read x)) :
    ¬ Lacks d (xs.mapM read) := by
  rw [lacks_mapM_iff]
  rintro ⟨_, x, _, _, _, hx⟩
  exact h x hx

/-! ## 2. Parts -/

/-- A value that has no parts. -/
def HasNoParts (v : Value) : Prop := ∀ r, v ≠ .record r

theorem lacks_memberOr_iff {v default : Value} {key : String} :
    Lacks d (memberOr v key default) ↔ HasNoParts v := by
  cases v with
  | record r => exact ⟨fun h => (nomatch h), fun h => absurd rfl (h r)⟩
  | _ => exact ⟨fun _ r hr => (nomatch hr), fun _ => rfl⟩

theorem not_lacks_unfit {use : Use} {v : Value} : ¬ Lacks d (unfit use v : Reading α) := nofun

theorem not_lacks_member {v : Value} {key : String} : ¬ Lacks d (member v key) := by
  unfold member
  split
  · split <;> exact nofun
  · exact not_lacks_unfit

theorem not_lacks_itemsOf {v : Value} : ¬ Lacks d (itemsOf v) := by
  unfold itemsOf
  split
  · exact not_lacks_mapM fun _ => nofun
  · exact not_lacks_pure _
  · exact not_lacks_pure _
  · exact not_lacks_unfit

theorem not_lacks_asText {v : Value} : ¬ Lacks d (asText v) := by
  unfold asText Lacks
  split
  · exact nofun
  · exact nofun
  · dsimp only
    split <;> exact nofun

theorem not_lacks_check {title : String} {c : Checked α} : ¬ Lacks d (check title c) := by
  unfold check
  split
  · exact not_lacks_pure _
  · exact nofun

theorem not_lacks_memberOr (r : Record) {default : Value} {key : String} :
    ¬ Lacks d (memberOr (.record r) key default) := by
  rw [lacks_memberOr_iff]
  exact fun h => h r rfl

theorem not_lacks_entriesOf {r : Record} : ¬ Lacks d (entriesOf r) := by
  rw [Lacks, entriesOf_eq]
  exact nofun

theorem record_of_member {v w : Value} {key : String} (h : member v key d = .ok w) :
    ∃ r, v = .record r := by
  cases v with
  | record r => exact ⟨r, rfl⟩
  | _ => cases h

/-- What follows the first part that may be left out is asked of a record. -/
theorem lacks_memberOr_bind_iff {v default : Value} {key : String} {f : Value → Reading β} :
    Lacks d (memberOr v key default >>= f) ↔
      HasNoParts v ∨ ∃ w, memberOr v key default d = .ok w ∧ Lacks d (f w) := by
  rw [lacks_bind_iff, lacks_memberOr_iff]

/-! ## 3. Headers and named types -/

theorem not_lacks_header {name value : Value} : ¬ Lacks d (header name value) :=
  not_lacks_bind not_lacks_asText fun _ _ => not_lacks_check

/-- The headers are refused for the kind of a value or for a key that is not there. -/
theorem not_lacks_headers {v : Value} : ¬ Lacks d (headers v) := by
  unfold headers
  split
  · exact not_lacks_pure _
  · split
    · exact not_lacks_bind not_lacks_entriesOf fun _ _ => not_lacks_mapM fun _ => not_lacks_header
    · refine not_lacks_bind not_lacks_itemsOf fun _ _ => not_lacks_mapM fun _ => ?_
      refine not_lacks_bind not_lacks_member fun _ _ => ?_
      exact not_lacks_bind not_lacks_member fun _ _ => not_lacks_header

theorem not_lacks_enumValue {v : Value} : ¬ Lacks d (enumValue v) := by
  unfold enumValue
  split
  · exact not_lacks_pure _
  · exact not_lacks_check
  · exact not_lacks_unfit

theorem not_lacks_field {v : Value} : ¬ Lacks d (field v) := by
  refine not_lacks_bind not_lacks_member fun _ h => ?_
  obtain ⟨r, rfl⟩ := record_of_member h
  refine not_lacks_bind not_lacks_member fun _ _ => ?_
  refine not_lacks_bind (not_lacks_memberOr r) fun _ _ => ?_
  refine not_lacks_bind (not_lacks_memberOr r) fun _ _ => ?_
  refine not_lacks_bind not_lacks_asText fun _ _ => ?_
  exact not_lacks_bind (not_lacks_memberOr r) fun _ _ => not_lacks_check

theorem not_lacks_variant {v : Value} : ¬ Lacks d (variant v) := by
  unfold variant
  split
  · exact not_lacks_member
  · exact not_lacks_pure _

/-- A named type lacks a part where its specification has none; its items never do. -/
theorem lacks_namedType_iff {spec default : Value} {key : String} {read : Value → Reading α}
    {build : Value → List α → Checked β} {title : String} (hread : ∀ v, ¬ Lacks d (read v)) :
    Lacks d (do
      let items ← (← itemsOf (← memberOr spec key default)).mapM read
      check title (build (← memberOr spec "description" .null) items)) ↔ HasNoParts spec := by
  rw [lacks_memberOr_bind_iff, or_iff_left]
  rintro ⟨v, hv, h⟩
  obtain ⟨r, rfl, _⟩ := record_of_memberOr hv
  revert h
  refine not_lacks_bind not_lacks_itemsOf fun _ _ => ?_
  refine not_lacks_bind (not_lacks_mapM hread) fun _ _ => ?_
  exact not_lacks_bind (not_lacks_memberOr r) fun _ _ => not_lacks_check

theorem lacks_enumType_iff {name spec : Value} : Lacks d (enumType name spec) ↔ HasNoParts spec :=
  lacks_namedType_iff fun _ => not_lacks_enumValue

theorem lacks_modelType_iff {name spec : Value} : Lacks d (modelType name spec) ↔ HasNoParts spec :=
  lacks_namedType_iff fun _ => not_lacks_field

theorem lacks_unionType_iff {name spec : Value} : Lacks d (unionType name spec) ↔ HasNoParts spec :=
  lacks_namedType_iff fun _ => not_lacks_variant

/-! ## 4. Parameters and answers -/

/-- **A parameter lacks a part**: it is no record, or its place is neither a text nor left open. -/
inductive ParameterLacks (d : Document) (spec : Value) : Prop where
  | spec (h : HasNoParts spec)
  | location {v : Value} (h : memberOr spec "location" .null d = .ok v) (hnull : v ≠ .null)
    (htext : ∀ s, v ≠ .text s)

theorem lacks_location_iff {spec : Value} {verb : Verb} {placeholders : List String} :
    Lacks d (location spec verb placeholders) ↔ ParameterLacks d spec := by
  have hmember : ¬ Lacks d (do
      let name ← member spec "name"
      if name.canBeKey then return inferredLocation verb placeholders name else unfit .key name) := by
    refine not_lacks_bind not_lacks_member fun name _ => ?_
    split
    · exact not_lacks_pure _
    · exact not_lacks_unfit
  unfold location
  rw [lacks_memberOr_bind_iff]
  constructor
  · rintro (h | ⟨v, hv, h⟩)
    · exact .spec h
    · refine .location hv ?_ ?_
      · rintro rfl
        exact hmember h
      · rintro s rfl
        dsimp only at h
        split at h <;> cases h
  · rintro (h | ⟨hv, hnull, htext⟩)
    · exact Or.inl h
    · refine Or.inr ⟨_, hv, ?_⟩
      split
      · exact absurd rfl hnull
      · exact absurd rfl (htext _)
      · rfl

theorem record_of_location {spec : Value} {verb : Verb} {placeholders : List String} {l : Location}
    (h : location spec verb placeholders d = .ok l) : ∃ r, spec = .record r := by
  obtain ⟨_, hv, _⟩ := bind_eq_ok.mp h
  obtain ⟨r, hr, _⟩ := record_of_memberOr hv
  exact ⟨r, hr⟩

theorem lacks_parameter_iff {spec : Value} {verb : Verb} {placeholders : List String} :
    Lacks d (parameter verb placeholders spec) ↔ ParameterLacks d spec := by
  unfold parameter
  rw [lacks_bind_iff, lacks_location_iff, or_iff_left]
  rintro ⟨l, hl, h⟩
  obtain ⟨r, rfl⟩ := record_of_location hl
  revert h
  refine not_lacks_bind not_lacks_member fun _ _ => ?_
  refine not_lacks_bind (not_lacks_memberOr r) fun _ _ => ?_
  refine not_lacks_bind (not_lacks_memberOr r) fun _ _ => ?_
  refine not_lacks_bind (not_lacks_memberOr r) fun _ _ => ?_
  refine not_lacks_bind not_lacks_asText fun _ _ => ?_
  exact not_lacks_bind (not_lacks_memberOr r) fun _ _ => not_lacks_check

/-- **An answer lacks a part**: its code is a number, and what is given for it is no record. -/
inductive AnswerLacks (entry : String × Value) : Prop where
  | spec {n : Int} (hcode : readInteger entry.1 = .ok n) (hgiven : entry.2.isGiven = true)
    (h : HasNoParts entry.2)

theorem lacks_response_iff {place : Place} {entry : String × Value} :
    Lacks d (response place entry.1 entry.2) ↔ AnswerLacks entry := by
  unfold response
  cases hcode : readInteger entry.1 with
  | error f =>
    refine ⟨fun h => (nomatch h), fun ⟨hn, _, _⟩ => ?_⟩
    rw [hcode] at hn
    cases hn
  | ok n =>
    dsimp only
    rw [lacks_memberOr_bind_iff, or_iff_left]
    · split
      next hgiven => exact ⟨fun h => .spec hcode hgiven h, fun ⟨_, _, h⟩ => h⟩
      next hgiven => exact ⟨fun h => absurd rfl (h []), fun ⟨_, hg, _⟩ => absurd hg hgiven⟩
    · rintro ⟨v, hv, h⟩
      obtain ⟨r, hr, _⟩ := record_of_memberOr hv
      rw [hr] at h
      exact not_lacks_bind (not_lacks_memberOr r) (fun _ _ => not_lacks_check) h

/-! ## 5. Operations -/

/-- **What is read of an operation before its parameters**: the verb, the path and the body. -/
structure Headed (d : Document) (resourcePath spec : Value) (verb : Verb) (path : String) : Prop where
  verb : ∃ v, member spec "method" d = .ok v ∧ Reading.verb v d = .ok verb
  path : ∃ v, memberOr spec "path" (.text "") d = .ok v ∧ operationPath resourcePath v d = .ok path
  body : ∃ v w, memberOr spec "body" .null d = .ok v ∧ Reading.body v d = .ok w

/-- **What is read of an operation before it goes through its parameters**: their items as well. -/
structure Parametrized (d : Document) (resourcePath spec : Value) (verb : Verb) (path : String)
    (items : List Value) : Prop extends Headed d resourcePath spec verb path where
  parameters : ∃ v, memberOr spec "parameters" (.list []) d = .ok v ∧ itemsOf v d = .ok items

/-- **An operation lacks a part**: its verb is no text; it is put behind the path of a resource that
    is no text; a parameter lacks a part; its answers are no record; or an answer lacks a part. -/
inductive OperationLacks (d : Document) (resource resourcePath spec : Value) : Prop where
  | verb {v : Value} (h : member spec "method" d = .ok v) (htext : ∀ s, v ≠ .text s)
  | resourcePath {v : Value} {verb : Verb} (h : member spec "method" d = .ok v)
    (hverb : Reading.verb v d = .ok verb) (hgiven : resourcePath.isGiven = true)
    (htext : ∀ s, resourcePath ≠ .text s)
  | parameter {verb : Verb} {path : String} {items : List Value}
    (h : Parametrized d resourcePath spec verb path items)
    (first : FirstUnread d (parameter verb (placeholdersIn path)) (ParameterLacks d) items)
  | answers {verb : Verb} {path : String} {items : List Value} {ps : List Parameter} {v : Value}
    (h : Parametrized d resourcePath spec verb path items)
    (hread : items.mapM (Reading.parameter verb (placeholdersIn path)) d = .ok ps)
    (hv : memberOr spec "responses" (.record []) d = .ok v) (hparts : HasNoParts v)
  | answer {verb : Verb} {path : String} {items : List Value} {ps : List Parameter} {entries : Record}
    (h : Parametrized d resourcePath spec verb path items)
    (hread : items.mapM (Reading.parameter verb (placeholdersIn path)) d = .ok ps)
    (hv : memberOr spec "responses" (.record []) d = .ok (.record entries))
    (first : FirstUnread d
      (fun e => response { resource, operation := some (verb.text ++ " " ++ path) } e.1 e.2)
      AnswerLacks (opened d entries))

theorem lacks_verb_iff {v : Value} : Lacks d (verb v) ↔ ∀ s, v ≠ .text s := by
  cases v with
  | text s =>
    refine ⟨fun h => ?_, fun h => absurd rfl (h s)⟩
    cases hv : Verb.ofText? (toUpper s) with
    | none => simp only [Reading.verb, Lacks, hv] at h; cases h
    | some w => simp only [Reading.verb, Lacks, hv] at h; cases h
  | _ => exact ⟨fun _ s hs => (nomatch hs), fun _ => rfl⟩

theorem lacks_operationPath_iff {resourcePath own : Value} :
    Lacks d (operationPath resourcePath own) ↔
      resourcePath.isGiven = true ∧ ∀ s, resourcePath ≠ .text s := by
  have hbase : Lacks d (basePath resourcePath) ↔
      resourcePath.isGiven = true ∧ ∀ s, resourcePath ≠ .text s := by
    unfold basePath
    cases hgiven : resourcePath.isGiven with
    | false => exact ⟨fun h => absurd h (not_lacks_pure _), fun h => nomatch h.1⟩
    | true =>
      cases resourcePath with
      | text s => exact ⟨fun h => absurd h (not_lacks_pure _), fun h => absurd rfl (h.2 s)⟩
      | _ => exact ⟨fun _ => ⟨rfl, fun s hs => nomatch hs⟩, fun _ => rfl⟩
  unfold operationPath
  rw [lacks_bind_iff, hbase, or_iff_left]
  rintro ⟨base, _, h⟩
  cases own <;> exact absurd h nofun

theorem not_lacks_body {v : Value} : ¬ Lacks d (body v) := by
  unfold body
  split
  · exact not_lacks_member
  · exact not_lacks_pure _

theorem lacks_responses_iff {place : Place} {v : Value} :
    Lacks d (responses place v) ↔ HasNoParts v ∨ ∃ entries, v = .record entries ∧
      FirstUnread d (fun e => response place e.1 e.2) AnswerLacks (opened d entries) := by
  cases v with
  | record entries =>
    have hentries : Lacks d (responses place (.record entries)) ↔
        Lacks d ((opened d entries).mapM (fun e => response place e.1 e.2) >>= fun rs =>
          return settleAbsence rs) := by
      show Lacks d (entriesOf entries >>= _) ↔ _
      rw [lacks_bind_iff, entriesOf_eq, or_iff_right not_lacks_entriesOf]
      exact ⟨fun ⟨_, ha, h⟩ => by cases ha; exact h, fun h => ⟨_, rfl, h⟩⟩
    rw [hentries, lacks_bind_iff, lacks_mapM_iff, or_iff_left fun ⟨_, _, h⟩ => not_lacks_pure _ h]
    simp only [lacks_response_iff]
    constructor
    · exact fun h => Or.inr ⟨entries, rfl, h⟩
    · rintro (h | ⟨_, he, h⟩)
      · exact absurd rfl (h entries)
      · cases he
        exact h
  | _ => exact ⟨fun _ => Or.inl fun r hr => (nomatch hr), fun _ => rfl⟩

/-- What is read of an operation behind its body, given the items of its parameters. -/
def operationBehind (resource spec : Value) (verb : Verb) (path : String) (body : Value)
    (items : List Value) : Reading Operation := do
  let parameters ← items.mapM (parameter verb (placeholdersIn path))
  let place : Place := { resource, operation := some (verb.text ++ " " ++ path) }
  let responses ← responses place (← memberOr spec "responses" (.record []))
  check "Operation" (Operation.around
    [("method", .text verb.text), ("path", .text path), ("body", body),
     ("description", ← memberOr spec "description" .null)]
    (.good parameters) (.good responses))

theorem Parametrized.lacks {resource resourcePath spec : Value} {verb : Verb} {path : String}
    {items : List Value} (h : Parametrized d resourcePath spec verb path items)
    (hl : ∀ body, Lacks d (operationBehind resource spec verb path body items)) :
    Lacks d (operation resource resourcePath spec) := by
  obtain ⟨⟨⟨method, hmethod, hverb⟩, ⟨own, hown, hpath⟩, given, body, hgiven, hbody⟩, v, hv, hitems⟩ :=
    h
  refine .bind_right hmethod (.bind_right hverb (.bind_right hown (.bind_right hpath ?_)))
  exact .bind_right hgiven (.bind_right hbody (.bind_right hv (.bind_right hitems (hl body))))

theorem lacks_operation_iff {resource resourcePath spec : Value} :
    Lacks d (operation resource resourcePath spec) ↔ OperationLacks d resource resourcePath spec := by
  constructor
  · intro h
    unfold operation at h
    obtain ⟨method, hmethod, h⟩ := (lacks_bind_iff.mp h).resolve_left not_lacks_member
    obtain ⟨r, rfl⟩ := record_of_member hmethod
    rcases lacks_bind_iff.mp h with h | ⟨verb, hverb, h⟩
    · exact .verb hmethod (lacks_verb_iff.mp h)
    obtain ⟨own, hown, h⟩ := (lacks_bind_iff.mp h).resolve_left (not_lacks_memberOr r)
    rcases lacks_bind_iff.mp h with h | ⟨path, hpath, h⟩
    · obtain ⟨hgiven, htext⟩ := lacks_operationPath_iff.mp h
      exact .resourcePath hmethod hverb hgiven htext
    obtain ⟨given, hgiven, h⟩ := (lacks_bind_iff.mp h).resolve_left (not_lacks_memberOr r)
    obtain ⟨body, hbody, h⟩ := (lacks_bind_iff.mp h).resolve_left not_lacks_body
    obtain ⟨v, hv, h⟩ := (lacks_bind_iff.mp h).resolve_left (not_lacks_memberOr r)
    obtain ⟨items, hitems, h⟩ := (lacks_bind_iff.mp h).resolve_left not_lacks_itemsOf
    have hread : Parametrized d resourcePath (.record r) verb path items :=
      ⟨⟨⟨method, hmethod, hverb⟩, ⟨own, hown, hpath⟩, ⟨given, body, hgiven, hbody⟩⟩, ⟨v, hv, hitems⟩⟩
    rcases lacks_bind_iff.mp h with h | ⟨ps, hps, h⟩
    · rw [lacks_mapM_iff] at h
      simp only [lacks_parameter_iff] at h
      exact .parameter hread h
    obtain ⟨w, hw, h⟩ := (lacks_bind_iff.mp h).resolve_left (not_lacks_memberOr r)
    rcases lacks_bind_iff.mp h with h | ⟨rs, _, h⟩
    · rcases lacks_responses_iff.mp h with hparts | ⟨entries, rfl, first⟩
      · exact .answers hread hps hw hparts
      · exact .answer hread hps hw first
    · exact absurd h (not_lacks_bind (not_lacks_memberOr r) fun _ _ => not_lacks_check)
  · intro h
    cases h with
    | verb h htext => exact .bind_right h (.bind_left _ (lacks_verb_iff.mpr htext))
    | resourcePath h hverb hgiven htext =>
      obtain ⟨r, rfl⟩ := record_of_member h
      have hown : memberOr (.record r) "path" (.text "") d = .ok _ := rfl
      refine .bind_right h (.bind_right hverb (.bind_right hown (.bind_left _ ?_)))
      exact lacks_operationPath_iff.mpr ⟨hgiven, htext⟩
    | parameter h first =>
      refine h.lacks fun body => .bind_left _ (lacks_mapM_iff.mpr ?_)
      simp only [lacks_parameter_iff]
      exact first
    | answers h hread hv hparts =>
      refine h.lacks fun body => .bind_right hread (.bind_right hv (.bind_left _ ?_))
      exact lacks_responses_iff.mpr (.inl hparts)
    | answer h hread hv first =>
      refine h.lacks fun body => .bind_right hread (.bind_right hv (.bind_left _ ?_))
      exact lacks_responses_iff.mpr (.inr ⟨_, rfl, first⟩)

/-! ## 6. Resources -/

/-- **What is read of a resource before its operations**: its plural, its path and the items. -/
structure HasOperations (d : Document) (name spec path : Value) (items : List Value) : Prop where
  path : ∃ given plural default, memberOr spec "plural" .null d = .ok given ∧
    pluralFor name given d = .ok plural ∧ defaultPath plural d = .ok default ∧
    memberOr spec "path" default d = .ok path
  operations : ∃ v, memberOr spec "operations" (.list []) d = .ok v ∧ itemsOf v d = .ok items

/-- **A resource lacks a part**: it is no record; its plural follows from a name that is no text; or
    an operation lacks a part. -/
inductive ResourceLacks (d : Document) (name spec : Value) : Prop where
  | spec (h : HasNoParts spec)
  | plural {v : Value} (h : memberOr spec "plural" .null d = .ok v) (hopen : v.isGiven = false)
    (hgiven : name.isGiven = true) (htext : ∀ s, name ≠ .text s)
  | operation {path : Value} {items : List Value} (h : HasOperations d name spec path items)
    (first : FirstUnread d (operation name path) (OperationLacks d name path) items)

theorem lacks_pluralFor_iff {name given : Value} : Lacks d (pluralFor name given) ↔
    given.isGiven = false ∧ name.isGiven = true ∧ ∀ s, name ≠ .text s := by
  unfold pluralFor
  cases hopen : given.isGiven with
  | true => exact ⟨fun h => absurd h (not_lacks_pure _), fun h => nomatch h.1⟩
  | false =>
    unfold pluralOf
    cases hgiven : name.isGiven with
    | false => exact ⟨fun h => absurd h (not_lacks_pure _), fun h => nomatch h.2.1⟩
    | true =>
      cases name with
      | text s => exact ⟨fun h => absurd h (not_lacks_pure _), fun h => absurd rfl (h.2.2 s)⟩
      | _ => exact ⟨fun _ => ⟨rfl, rfl, fun s hs => nomatch hs⟩, fun _ => rfl⟩

theorem not_lacks_defaultPath {v : Value} : ¬ Lacks d (defaultPath v) := by
  unfold defaultPath
  split
  · exact not_lacks_pure _
  · exact not_lacks_unfit

theorem lacks_resource_iff {name spec : Value} :
    Lacks d (resource name spec) ↔ ResourceLacks d name spec := by
  rw [resource_eq]
  constructor
  · intro h
    rcases lacks_memberOr_bind_iff.mp h with h | ⟨given, hg, h⟩
    · exact .spec h
    obtain ⟨r, rfl, _⟩ := record_of_memberOr hg
    rcases lacks_bind_iff.mp h with h | ⟨plural, hplural, h⟩
    · obtain ⟨hopen, hgiven, htext⟩ := lacks_pluralFor_iff.mp h
      exact .plural hg hopen hgiven htext
    obtain ⟨default, hdefault, h⟩ := (lacks_bind_iff.mp h).resolve_left not_lacks_defaultPath
    obtain ⟨path, hpath, h⟩ := (lacks_bind_iff.mp h).resolve_left (not_lacks_memberOr r)
    obtain ⟨v, hv, h⟩ := (lacks_bind_iff.mp h).resolve_left (not_lacks_memberOr r)
    obtain ⟨items, hitems, h⟩ := (lacks_bind_iff.mp h).resolve_left not_lacks_itemsOf
    rcases lacks_bind_iff.mp h with h | ⟨os, _, h⟩
    · rw [lacks_mapM_iff] at h
      simp only [lacks_operation_iff] at h
      exact .operation ⟨⟨given, plural, default, hg, hplural, hdefault, hpath⟩, ⟨v, hv, hitems⟩⟩ h
    · exact absurd h (not_lacks_bind (not_lacks_memberOr r) fun _ _ => not_lacks_check)
  · intro h
    cases h with
    | spec h => exact .bind_left _ (lacks_memberOr_iff.mpr h)
    | plural h hopen hgiven htext =>
      exact .bind_right h (.bind_left _ (lacks_pluralFor_iff.mpr ⟨hopen, hgiven, htext⟩))
    | operation h first =>
      obtain ⟨⟨given, plural, default, hg, hplural, hdefault, hpath⟩, v, hv, hitems⟩ := h
      refine .bind_right hg (.bind_right hplural (.bind_right hdefault (.bind_right hpath ?_)))
      refine .bind_right hv (.bind_right hitems (.bind_left _ (lacks_mapM_iff.mpr ?_)))
      simp only [lacks_operation_iff]
      exact first

/-! ## 7. Services -/

theorem not_lacks_section {title : String} {v : Value} : ¬ Lacks d (section_ title v) := by
  have hnamed : ∀ items entries, ¬ Lacks d (namedItems entries items) := by
    intro items
    induction items with
    | nil => exact fun entries => not_lacks_pure entries
    | cons item items ih =>
      refine fun entries => not_lacks_bind not_lacks_member fun name _ => ?_
      split
      · exact ih _
      · exact not_lacks_unfit
  have hparts : ∀ items : List Value, ¬ Lacks d (items.mapM part) := fun items =>
    not_lacks_mapM fun _ => nofun
  cases v with
  | null => exact not_lacks_pure _
  | list items => exact not_lacks_bind (hparts items) fun _ _ => hnamed _ _
  | record r => exact not_lacks_bind not_lacks_entriesOf fun _ _ => not_lacks_pure _
  | _ => exact nofun

/-- **A section lacks a part**: the first of its entries that is not read does. -/
def SectionLacks (d : Document) (r : Record) (title : String) (read : Value → Value → Reading α)
    (P : Value → Value → Prop) : Prop :=
  ∃ entries, section_ title ((Table.get? r title).getD .null) d = .ok entries ∧
    FirstUnread d (fun e => read e.1 e.2) (fun e => P e.1 e.2) entries

theorem lacks_sectionOf_iff {r : Record} {title : String} {read : Value → Value → Reading α}
    {P : Value → Value → Prop} (hread : ∀ name spec, Lacks d (read name spec) ↔ P name spec) :
    Lacks d (sectionOf r title read) ↔ SectionLacks d r title read P := by
  unfold sectionOf SectionLacks
  rw [lacks_bind_iff, or_iff_right not_lacks_section]
  simp only [lacks_mapM_iff, hread]

/-- **A description lacks a part** in one of its sections, and those before are read. -/
inductive ServiceLacks (d : Document) (r : Record) : Prop where
  | enums {hs : List Header} (hheaders : headers ((Table.get? r "headers").getD .null) d = .ok hs)
    (first : SectionLacks d r "enums" enumType fun _ spec => HasNoParts spec)
  | models {hs : List Header} {es : List EnumType}
    (hheaders : headers ((Table.get? r "headers").getD .null) d = .ok hs)
    (henums : sectionOf r "enums" enumType d = .ok es)
    (first : SectionLacks d r "models" modelType fun _ spec => HasNoParts spec)
  | unions {hs : List Header} {es : List EnumType} {ms : List ModelType}
    (hheaders : headers ((Table.get? r "headers").getD .null) d = .ok hs)
    (henums : sectionOf r "enums" enumType d = .ok es)
    (hmodels : sectionOf r "models" modelType d = .ok ms)
    (first : SectionLacks d r "unions" unionType fun _ spec => HasNoParts spec)
  | resources {hs : List Header} {es : List EnumType} {ms : List ModelType} {us : List UnionType}
    (hheaders : headers ((Table.get? r "headers").getD .null) d = .ok hs)
    (henums : sectionOf r "enums" enumType d = .ok es)
    (hmodels : sectionOf r "models" modelType d = .ok ms)
    (hunions : sectionOf r "unions" unionType d = .ok us)
    (first : SectionLacks d r "resources" resource (ResourceLacks d))

theorem lacks_serviceOf_iff {r : Record} : Lacks d (serviceOf r) ↔ ServiceLacks d r := by
  have henums : Lacks d (sectionOf r "enums" enumType) ↔ _ :=
    lacks_sectionOf_iff fun _ _ => lacks_enumType_iff
  have hmodels : Lacks d (sectionOf r "models" modelType) ↔ _ :=
    lacks_sectionOf_iff fun _ _ => lacks_modelType_iff
  have hunions : Lacks d (sectionOf r "unions" unionType) ↔ _ :=
    lacks_sectionOf_iff fun _ _ => lacks_unionType_iff
  have hresources : Lacks d (sectionOf r "resources" resource) ↔ _ :=
    lacks_sectionOf_iff fun _ _ => lacks_resource_iff
  constructor
  · intro h
    unfold serviceOf at h
    obtain ⟨hs, hhs, h⟩ := (lacks_bind_iff.mp h).resolve_left not_lacks_headers
    rcases lacks_bind_iff.mp h with h | ⟨es, hes, h⟩
    · exact .enums hhs (henums.mp h)
    rcases lacks_bind_iff.mp h with h | ⟨ms, hms, h⟩
    · exact .models hhs hes (hmodels.mp h)
    rcases lacks_bind_iff.mp h with h | ⟨us, hus, h⟩
    · exact .unions hhs hes hms (hunions.mp h)
    rcases lacks_bind_iff.mp h with h | ⟨rs, _, h⟩
    · exact .resources hhs hes hms hus (hresources.mp h)
    · exact absurd h not_lacks_check
  · intro h
    cases h with
    | enums hh first => exact .bind_right hh (.bind_left _ (henums.mpr first))
    | models hh he first => exact .bind_right hh (.bind_right he (.bind_left _ (hmodels.mpr first)))
    | unions hh he hm first =>
      exact .bind_right hh (.bind_right he (.bind_right hm (.bind_left _ (hunions.mpr first))))
    | resources hh he hm hu first =>
      refine .bind_right hh (.bind_right he (.bind_right hm (.bind_right hu ?_)))
      exact .bind_left _ (hresources.mpr first)

end Reading

/-! ## 8. Documents -/

/-- **A document lacks a part** that the reader asks of it. -/
def Document.LacksPart (d : Document) : Prop :=
  ∃ r, d.part d.root = .record r ∧ Reading.ServiceLacks d (Reading.opened d r)

theorem ofDocument_of_no_record {d : Document} (h : Reading.HasNoParts (d.part d.root)) :
    Service.ofDocument d = .error (.description ⟨.notARecord, {}⟩) := by
  unfold Service.ofDocument
  split
  next r hr => exact absurd hr (h r)
  next => rfl

/-- **A document is refused for its description or for a part that it lacks**, and for the second
    exactly where the reader asks a part of a value without parts before it finds another fault. -/
theorem Service.ofDocument_faults (d : Document) :
    (∀ f, Service.ofDocument d = .error f → (∃ g, f = .description g) ∨ f = .noSuchPart) ∧
    (Service.ofDocument d = .error .noSuchPart ↔ d.LacksPart) := by
  have hfault : ∀ f : ReadingFault, (∃ g, f.fault = .description g) ∨ f = .noSuchPart := by
    intro f
    cases f with
    | noSuchPart => exact Or.inr rfl
    | _ => exact Or.inl ⟨_, rfl⟩
  by_cases hroot : ∃ r, d.part d.root = .record r
  · obtain ⟨r, hr⟩ := hroot
    rw [ofDocument_of_record hr]
    constructor
    · intro f h
      obtain ⟨e, _, rfl⟩ := mapError_eq_error.mp h
      rcases hfault e with he | rfl
      · exact Or.inl he
      · exact Or.inr rfl
    · rw [mapError_eq_error, Document.LacksPart]
      constructor
      · rintro ⟨e, he, hlacks⟩
        rcases hfault e with ⟨g, hg⟩ | rfl
        · rw [hg] at hlacks
          cases hlacks
        · exact ⟨r, hr, Reading.lacks_serviceOf_iff.mp he⟩
      · rintro ⟨r', hr', h⟩
        rw [hr] at hr'
        cases hr'
        exact ⟨.noSuchPart, Reading.lacks_serviceOf_iff.mpr h, rfl⟩
  · have hparts : Reading.HasNoParts (d.part d.root) := fun r hr => hroot ⟨r, hr⟩
    rw [ofDocument_of_no_record hparts]
    refine ⟨fun f h => Or.inl ?_, fun h => (nomatch h), fun ⟨r, hr, _⟩ => absurd hr (hparts r)⟩
    cases h
    exact ⟨_, rfl⟩

-- A model is read with its fields; a field without a type is a fault of the description.
example : Service.ofDocument (Value.record [("name", .text "api"), ("models", .record [("user", .record
      [("fields", .list [.record [("name", .text "id"), ("type", .text "long")]])])])]) =
    .ok { name := "api", models := [{ name := "user", fields := [{ name := "id", type := "long" }] }] } :=
  rfl

example : Service.ofDocument (Value.record [("name", .text "api"), ("models", .record [("user", .record
      [("fields", .list [.record [("name", .text "id")]])])])]) =
    .error (.description ⟨.missingKey "type", {}⟩) :=
  rfl

/-- Description with an enum that is a list of values in place of a record with one. -/
def bareValues : Document :=
  Value.record [("enums", .record [("color", .list [.text "red", .text "green"])])]

/-- A malformed description is refused, and not as a fault of the description. -/
theorem Service.exists_refused_not_description :
    (∃ f, Service.ofDocument bareValues = .error f) ∧
    ¬ ∃ g, Service.ofDocument bareValues = .error (.description g) := by
  have h : Service.ofDocument bareValues = .error .noSuchPart := rfl
  refine ⟨⟨_, h⟩, ?_⟩
  rintro ⟨g, hg⟩
  rw [h] at hg
  cases hg

end ClientGen
