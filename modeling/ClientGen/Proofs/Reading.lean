import ClientGen.Proofs.Sequencing

/-!
# What a description is read as

The reader goes through a description part by part and stops at the first fault, so what it
gives says of each part how it was read. This file fixes

* `record_of_memberOr`, `partOr_eq_of_memberOr`: a part that may be left out belongs to a record;
* `Specifies`, `specifies_of_operation`: the parts of an operation;
* `Declares`, `declares_of_response`: the parts of an answer;
* `resource_eq`: a resource has the plural that is given or one that follows from its name;
* `sectionOf`, `service_eq`, `SectionsOf`: a service is read section by section.
-/

namespace ClientGen

open ClientGen.Text ClientGen.Number

namespace Reading

variable {d : Document}

/-! ## 1. Parts -/

theorem record_of_memberOr {v w default : Value} {key : String}
    (h : memberOr v key default d = .ok w) :
    ∃ r, v = .record r ∧ d.part ((Table.get? r key).getD default) = w := by
  cases v with
  | record r => exact ⟨r, rfl, ClientGen.pure_eq_ok.mp h⟩
  | _ => cases h

theorem entriesOf_eq (r : Record) : entriesOf r d = .ok (r.map fun e => (e.1, d.part e.2)) :=
  mapM_eq_ok.mpr (List.forall₂_map_right_iff.mpr (List.forall₂_same.mpr fun _ _ => rfl))

/-- Value of a part of a specification, `default` where it is left out or nothing is given. -/
def partOr (d : Document) (spec : Value) (key : String) (default : Value) : Value :=
  match spec with
  | .record r => d.part ((Table.get? r key).getD default)
  | _ => default

theorem partOr_eq_of_memberOr {v w default : Value} {key : String}
    (h : memberOr v key default d = .ok w) : partOr d v key default = w := by
  obtain ⟨r, rfl, rfl⟩ := record_of_memberOr h
  rfl

/-- A specification that is not given is read as an empty one. -/
theorem partOr_of_memberOr {v w default : Value} {key : String} (hd : d.part default = default)
    (h : memberOr (if v.isGiven then v else .record []) key default d = .ok w) :
    partOr d v key default = w := by
  obtain ⟨r, hr, rfl⟩ := record_of_memberOr h
  by_cases hv : v.isGiven = true
  · rw [if_pos hv] at hr
    rw [hr]
    rfl
  · rw [if_neg hv] at hr
    cases hr
    cases v with
    | record r =>
      have he : r = [] := by simpa [Value.isGiven] using hv
      rw [he]
      rfl
    | _ => exact hd.symm

/-! ## 2. Operations -/

/-- **The parts of an operation**: what its specification in a resource says of each. -/
structure Specifies (d : Document) (resource path spec : Value) (o : Operation) : Prop where
  verb : ∃ v, member spec "method" d = .ok v ∧ Reading.verb v d = .ok o.verb
  path : ∃ v, memberOr spec "path" (.text "") d = .ok v ∧ operationPath path v d = .ok o.path
  parameters : ∃ v vs, memberOr spec "parameters" (.list []) d = .ok v ∧ itemsOf v d = .ok vs ∧
    vs.mapM (parameter o.verb (placeholdersIn o.path)) d = .ok o.parameters
  responses : ∃ v, memberOr spec "responses" (.record []) d = .ok v ∧
    Reading.responses { resource, operation := some o.label } v d = .ok o.responses

theorem ofText?_text (v : Verb) : Verb.ofText? v.text = some v := by
  cases v <;> rfl

theorem around_eq_good {verb : Verb} {path : String} {body description : Value}
    {ps : List Parameter} {rs : List Response} {o : Operation}
    (h : Operation.around [("method", .text verb.text), ("path", .text path), ("body", body),
      ("description", description)] (.good ps) (.good rs) = .good o) :
    o.verb = verb ∧ o.path = path ∧ o.parameters = ps ∧ o.responses = rs := by
  obtain ⟨_, _, h₁, _, rfl⟩ := Checked.seq_eq_good.mp h
  obtain ⟨_, _, h₂, hr, rfl⟩ := Checked.seq_eq_good.mp h₁
  obtain ⟨_, _, h₃, hp, rfl⟩ := Checked.seq_eq_good.mp h₂
  obtain ⟨_, _, h₄, _, rfl⟩ := Checked.seq_eq_good.mp h₃
  obtain ⟨_, _, h₅, hpath, rfl⟩ := Checked.seq_eq_good.mp h₄
  obtain ⟨_, hverb, rfl⟩ := Checked.map_eq_good.mp h₅
  rw [Check.entry_eq_good (v := .text path) rfl] at hpath
  rw [Check.entry_eq_good (v := .text verb.text) rfl, Check.listed, ofText?_text] at hverb
  cases hverb
  cases hpath
  cases hp
  cases hr
  exact ⟨rfl, rfl, rfl, rfl⟩

theorem specifies_of_operation {resource path spec : Value} {o : Operation}
    (h : operation resource path spec d = .ok o) : Specifies d resource path spec o := by
  obtain ⟨method, hm, h⟩ := bind_eq_ok.mp h
  obtain ⟨verb, hverb, h⟩ := bind_eq_ok.mp h
  obtain ⟨own, hown, h⟩ := bind_eq_ok.mp h
  obtain ⟨path, hpath, h⟩ := bind_eq_ok.mp h
  obtain ⟨_, _, h⟩ := bind_eq_ok.mp h
  obtain ⟨body, _, h⟩ := bind_eq_ok.mp h
  obtain ⟨v, hv, h⟩ := bind_eq_ok.mp h
  obtain ⟨vs, hvs, h⟩ := bind_eq_ok.mp h
  obtain ⟨ps, hps, h⟩ := bind_eq_ok.mp h
  obtain ⟨w, hw, h⟩ := bind_eq_ok.mp h
  obtain ⟨rs, hrs, h⟩ := bind_eq_ok.mp h
  obtain ⟨description, _, h⟩ := bind_eq_ok.mp h
  obtain ⟨rfl, rfl, rfl, rfl⟩ := around_eq_good (check_eq_ok.mp h)
  exact ⟨⟨method, hm, hverb⟩, ⟨own, hown, hpath⟩, ⟨v, vs, hv, hvs, hps⟩, ⟨w, hw, hrs⟩⟩

/-! ## 3. Answers -/

/-- **The answer that an entry of a responses record declares**: its code is the number in the
    key; a type that is left out is the unit, a flag that is left out is false. -/
structure Declares (d : Document) (entry : String × Value) (a : Response) : Prop where
  code : readInteger entry.1 = .ok a.code
  type : partOr d (d.part entry.2) "type" (.text "unit") = .text a.type
  optional : Check.truth (partOr d (d.part entry.2) "optional" (.bool false)) = .good a.optional

theorem ofRecord_eq_good {n : Int} {type optional : Value} {a : Response}
    (h : Response.ofRecord [("code", .int n), ("type", type), ("optional", optional)] = .good a) :
    a.code = n ∧ type = .text a.type ∧ Check.truth optional = .good a.optional := by
  obtain ⟨_, _, h₁, ho, rfl⟩ := Checked.seq_eq_good.mp h
  obtain ⟨_, _, h₂, ht, rfl⟩ := Checked.seq_eq_good.mp h₁
  obtain ⟨_, hc, rfl⟩ := Checked.map_eq_good.mp h₂
  rw [Check.entry_eq_good (v := .int n) rfl] at hc
  rw [Check.entryOr_eq_good (v := type) rfl, Check.text_eq_good] at ht
  rw [Check.entryOr_eq_good (v := optional) rfl] at ho
  cases hc
  exact ⟨rfl, ht, ho⟩

theorem declares_of_response {place : Place} {entry : String × Value} {a : Response}
    (h : response place entry.1 (d.part entry.2) d = .ok a) : Declares d entry a := by
  unfold response at h
  cases hn : readInteger entry.1 with
  | error f =>
    simp only [hn] at h
    cases h
  | ok n =>
    simp only [hn] at h
    obtain ⟨type, ht, h⟩ := bind_eq_ok.mp h
    obtain ⟨optional, ho, h⟩ := bind_eq_ok.mp h
    obtain ⟨hc, htype, hopt⟩ := ofRecord_eq_good (check_eq_ok.mp h)
    rw [← partOr_of_memberOr rfl ht] at htype
    rw [← partOr_of_memberOr rfl ho] at hopt
    exact ⟨hc ▸ hn, htype, hopt⟩

/-- Answers are the declared ones, one an entry and in the order of the entries, settled. -/
theorem responses_eq_ok {place : Place} {v : Value} {rs : List Response}
    (h : responses place v d = .ok rs) : ∃ entries declared, v = .record entries ∧
      List.Forall₂ (Declares d) entries declared ∧ rs = settleAbsence declared := by
  cases v with
  | record entries =>
    obtain ⟨opened, ho, h⟩ := bind_eq_ok.mp h
    rw [entriesOf_eq] at ho
    cases ho
    obtain ⟨declared, hd, h⟩ := bind_eq_ok.mp h
    have hds := List.forall₂_map_left_iff.mp (mapM_eq_ok.mp hd)
    exact ⟨entries, declared, rfl, hds.imp fun _ _ => declares_of_response, (pure_eq_ok.mp h).symm⟩
  | _ => cases h

/-! ## 4. Resources -/

/-- Plural of a resource: the one that is given, or the one that follows from the name. -/
def pluralFor (name given : Value) : Reading Value :=
  if given.isGiven then pure given else pluralOf name

theorem resource_eq (name spec : Value) : resource name spec = (do
    let plural ← pluralFor name (← memberOr spec "plural" .null)
    let path ← memberOr spec "path" (← defaultPath plural)
    let operations ← (← itemsOf (← memberOr spec "operations" (.list []))).mapM (operation name path)
    check "Resource" (Resource.around
      [("type", name), ("plural", plural), ("path", path),
       ("description", ← memberOr spec "description" .null)]
      (.good operations))) := by
  unfold resource pluralFor
  congr 1
  funext given
  dsimp only
  split <;> rfl

/-! ## 5. Sections -/

/-- Section of a description that is opened, read entry by entry. -/
def sectionOf {α : Type} (r : Record) (title : String) (read : Value → Value → Reading α) :
    Reading (List α) := do
  (← section_ title ((Table.get? r title).getD .null)).mapM fun e => read e.1 e.2

/-- Record whose entries are opened. -/
def opened (d : Document) (r : Record) : Record := r.map fun e => (e.1, d.part e.2)

/-- Service of a description that is opened: headers, then section by section. -/
def serviceOf (r : Record) : Reading Service := do
  let headers ← headers ((Table.get? r "headers").getD .null)
  let enums ← sectionOf r "enums" enumType
  let models ← sectionOf r "models" modelType
  let unions ← sectionOf r "unions" unionType
  let resources ← sectionOf r "resources" resource
  check "Service" (Service.around
    [("name", (Table.get? r "name").getD (.text "api")),
     ("namespace", (Table.get? r "namespace").getD .null),
     ("base_url", (Table.get? r "base_url").getD .null),
     ("description", (Table.get? r "description").getD .null)]
    (.good headers) (.good enums) (.good models) (.good unions) (.good resources))

theorem service_eq (r : Record) : service r d = serviceOf (opened d r) d := by
  have hsections : service r = entriesOf r >>= serviceOf := by
    rw [service]
    congr 1
    funext r
    simp only [serviceOf, sectionOf, bind_assoc]
  have hopen : (entriesOf r >>= serviceOf) d = entriesOf r d >>= fun r => serviceOf r d := rfl
  rw [hsections, hopen, entriesOf_eq]
  rfl

/-- **The sections of a service** are what is read of the sections of its description. -/
structure SectionsOf (d : Document) (r : Record) (s : Service) : Prop where
  enums : sectionOf r "enums" enumType d = .ok s.enums
  models : sectionOf r "models" modelType d = .ok s.models
  unions : sectionOf r "unions" unionType d = .ok s.unions
  resources : sectionOf r "resources" resource d = .ok s.resources

theorem sectionsOf_of_serviceOf {r : Record} {s : Service} (h : serviceOf r d = .ok s) :
    SectionsOf d r s := by
  obtain ⟨headers, _, h⟩ := bind_eq_ok.mp h
  obtain ⟨enums, henums, h⟩ := bind_eq_ok.mp h
  obtain ⟨models, hmodels, h⟩ := bind_eq_ok.mp h
  obtain ⟨unions, hunions, h⟩ := bind_eq_ok.mp h
  obtain ⟨resources, hresources, h⟩ := bind_eq_ok.mp h
  obtain ⟨_, _, h₁, hr, rfl⟩ := Checked.seq_eq_good.mp (check_eq_ok.mp h)
  obtain ⟨_, _, h₂, hu, rfl⟩ := Checked.seq_eq_good.mp h₁
  obtain ⟨_, _, h₃, hm, rfl⟩ := Checked.seq_eq_good.mp h₂
  obtain ⟨_, _, h₄, he, rfl⟩ := Checked.seq_eq_good.mp h₃
  obtain ⟨_, _, h₅, _, rfl⟩ := Checked.seq_eq_good.mp h₄
  obtain ⟨_, _, h₆, _, rfl⟩ := Checked.seq_eq_good.mp h₅
  obtain ⟨_, _, h₇, _, rfl⟩ := Checked.seq_eq_good.mp h₆
  obtain ⟨_, _, h₈, _, rfl⟩ := Checked.seq_eq_good.mp h₇
  obtain ⟨_, _, rfl⟩ := Checked.map_eq_good.mp h₈
  cases hr
  cases hu
  cases hm
  cases he
  exact ⟨henums, hmodels, hunions, hresources⟩

end Reading

theorem ofDocument_of_record {d : Document} {r : Record} (h : d.part d.root = .record r) :
    Service.ofDocument d = (Reading.serviceOf (Reading.opened d r) d).mapError ReadingFault.fault := by
  have hrun : (Reading.service r).run d = Reading.serviceOf (Reading.opened d r) d :=
    Reading.service_eq r
  unfold Service.ofDocument
  rw [h]
  dsimp only
  rw [hrun]
  cases Reading.serviceOf (Reading.opened d r) d <;> rfl

theorem record_of_ofDocument {d : Document} {s : Service} (h : Service.ofDocument d = .ok s) :
    ∃ r, d.part d.root = .record r := by
  unfold Service.ofDocument at h
  split at h
  next r hr => exact ⟨r, hr⟩
  next => cases h

end ClientGen
