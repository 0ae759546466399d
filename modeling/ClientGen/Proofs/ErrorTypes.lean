import ClientGen.Package
import ClientGen.Proofs.Casing
import ClientGen.Proofs.Declarations
import ClientGen.Proofs.Dispatch
import ClientGen.Proofs.Methods

/-!
# Error classes and the methods that raise them

The errors module is made from all responses of a service, in declared order; a method raises what
its dispatch table names. The two go over the service apart from each other. This file fixes

* `ErrorType.bodies`, `Consistent`: the error bodies of a service, and when they may share classes;
* `Collected`, `Adds`: what a table of error bodies holds, and what a pass over a part of the
  service does with it;
* `all_eq_error_iff`: error bodies are refused for three reasons only;
* `viewName_ne_constructor`: the function that reads a body never hides the constructor;
* `classes_cover_failures`: every error that a method raises has its class, which reads the right
  type.
-/

namespace ClientGen

open ClientGen.Text

namespace ErrorType

variable {r : Registry} {s : Service} {e : Endpoint}

/-! ## 1. Error bodies -/

/-- Tells whether a response is an error with a body. -/
def isErrorBody (a : Response) : Bool := !a.isSuccess && !a.isUnit

/-- Error bodies of a resource, in declared order. -/
def bodiesOf (x : Resource) : List Response :=
  x.operations.flatMap fun o => o.responses.filter isErrorBody

/-- Error bodies of a service, in declared order. -/
def bodies (s : Service) : List Response := s.resources.flatMap bodiesOf

theorem mem_bodies_iff {a : Response} : a ∈ bodies s ↔ ∃ x ∈ s.resources, ∃ o ∈ x.operations,
    a ∈ o.responses ∧ a.isSuccess = false ∧ a.isUnit = false := by
  simp only [bodies, bodiesOf, List.mem_flatMap, List.mem_filter, isErrorBody, Bool.and_eq_true,
    Bool.not_eq_true']

/-- **Error bodies are consistent**: all are read, and those with the same class have the same
    reference. -/
structure Consistent (r : Registry) (as : List Response) : Prop where
  read : ∀ a ∈ as, ∃ ref, r.parse a.type = .ok ref
  shared : ∀ a ∈ as, ∀ b ∈ as, ∀ x y, r.parse a.type = .ok x → r.parse b.type = .ok y →
    x.errorClass = y.errorClass → x = y

theorem Consistent.of_append {as bs : List Response} (h : Consistent r (as ++ bs)) :
    Consistent r as :=
  ⟨fun a ha => h.read a (List.mem_append_left bs ha), fun a ha b hb =>
    h.shared a (List.mem_append_left bs ha) b (List.mem_append_left bs hb)⟩

/-! ## 2. Tables of error bodies -/

/-- **A table holds the error bodies** of the responses seen: under each class the reference that
    gives it, of every response and of no others. -/
structure Collected (r : Registry) (found : Found) (seen : List Response) : Prop where
  keyed : ∀ d ∈ found, d.1 = d.2.1.errorClass
  distinct : (Table.names found).Nodup
  complete : ∀ a ∈ seen, ∃ ref t, r.parse a.type = .ok ref ∧ (ref.errorClass, (ref, t)) ∈ found
  sound : ∀ d ∈ found, ∃ a ∈ seen, r.parse a.type = .ok d.2.1

namespace Collected

variable {found : Found} {seen : List Response}

theorem nil : Collected r [] [] :=
  ⟨fun _ h => absurd h List.not_mem_nil, List.nodup_nil, fun _ h => absurd h List.not_mem_nil,
    fun _ h => absurd h List.not_mem_nil⟩

/-- One class stands for one reference. -/
theorem ref_unique (h : Collected r found seen) {name : String} {x y : TypeRef × String}
    (hx : (name, x) ∈ found) (hy : (name, y) ∈ found) : x = y :=
  congrArg Prod.snd (List.inj_on_of_nodup_map h.distinct hx hy rfl)

theorem consistent (h : Collected r found seen) : Consistent r seen := by
  refine ⟨fun a ha => ?_, fun a ha b hb x y hx hy hc => ?_⟩
  · obtain ⟨ref, _, href, _⟩ := h.complete a ha
    exact ⟨ref, href⟩
  · obtain ⟨x', t, hx', hm⟩ := h.complete a ha
    obtain ⟨y', u, hy', hn⟩ := h.complete b hb
    obtain rfl : x = x' := Except.ok.inj (hx.symm.trans hx')
    obtain rfl : y = y' := Except.ok.inj (hy.symm.trans hy')
    rw [hc] at hm
    exact congrArg Prod.fst (h.ref_unique hm hn)

/-- A body of a class that is there adds nothing. -/
theorem snoc_of_mem (h : Collected r found seen) {a : Response} {ref : TypeRef} {t : String}
    (href : r.parse a.type = .ok ref) (hm : (ref.errorClass, (ref, t)) ∈ found) :
    Collected r found (seen ++ [a]) := by
  refine ⟨h.keyed, h.distinct, fun b hb => ?_, fun d hd => ?_⟩
  · rcases List.mem_append.mp hb with hb | hb
    · exact h.complete b hb
    · obtain rfl := List.mem_singleton.mp hb
      exact ⟨ref, t, href, hm⟩
  · obtain ⟨b, hb, hd⟩ := h.sound d hd
    exact ⟨b, List.mem_append_left _ hb, hd⟩

/-- A body of a new class goes to the end. -/
theorem snoc_of_not_mem (h : Collected r found seen) {a : Response} {ref : TypeRef}
    (href : r.parse a.type = .ok ref) (hn : ref.errorClass ∉ Table.names found) :
    Collected r (found ++ [(ref.errorClass, (ref, a.type))]) (seen ++ [a]) := by
  refine ⟨fun d hd => ?_, nodup_map_snoc.mpr ⟨h.distinct, hn⟩, fun b hb => ?_, fun d hd => ?_⟩
  · rcases List.mem_append.mp hd with hd | hd
    · exact h.keyed d hd
    · obtain rfl := List.mem_singleton.mp hd
      rfl
  · rcases List.mem_append.mp hb with hb | hb
    · obtain ⟨ref', t, href', hm⟩ := h.complete b hb
      exact ⟨ref', t, href', List.mem_append_left _ hm⟩
    · obtain rfl := List.mem_singleton.mp hb
      exact ⟨ref, b.type, href, List.mem_append_right _ List.mem_cons_self⟩
  · rcases List.mem_append.mp hd with hd | hd
    · obtain ⟨b, hb, hd⟩ := h.sound d hd
      exact ⟨b, List.mem_append_left _ hb, hd⟩
    · obtain rfl := List.mem_singleton.mp hd
      exact ⟨a, List.mem_append_right _ List.mem_cons_self, href⟩

end Collected

/-! ## 3. Passes over a service -/

/-- **A pass adds error bodies** to a table that holds those seen before: it succeeds exactly where
    `accepted` holds and all bodies so far are consistent. -/
structure Adds (r : Registry) (pass : Found → Except DescriptionFault Found) (as : List Response)
    (accepted : Prop) : Prop where
  collects : ∀ {found found' seen}, Collected r found seen → pass found = .ok found' →
    accepted ∧ Collected r found' (seen ++ as)
  succeeds : ∀ {found seen}, Collected r found seen → accepted → Consistent r (seen ++ as) →
    ∃ found', pass found = .ok found'

theorem Adds.nil : Adds r .ok [] True := by
  refine ⟨fun {found found' seen} h e => ?_, fun {found seen} _ _ _ => ⟨found, rfl⟩⟩
  cases e
  rw [List.append_nil]
  exact ⟨trivial, h⟩

theorem Adds.bind {p q : Found → Except DescriptionFault Found} {as bs : List Response}
    {P Q : Prop} (hp : Adds r p as P) (hq : Adds r q bs Q) :
    Adds r (fun found => p found >>= q) (as ++ bs) (P ∧ Q) := by
  refine ⟨fun {found found' seen} h e => ?_, fun {found seen} h hPQ hc => ?_⟩
  · obtain ⟨mid, hmid, he⟩ := bind_eq_ok.mp e
    obtain ⟨hP, hmid⟩ := hp.collects h hmid
    obtain ⟨hQ, hend⟩ := hq.collects hmid he
    rw [← List.append_assoc]
    exact ⟨⟨hP, hQ⟩, hend⟩
  · rw [← List.append_assoc] at hc
    obtain ⟨mid, hmid⟩ := hp.succeeds h hPQ.1 hc.of_append
    obtain ⟨found', he⟩ := hq.succeeds (hp.collects h hmid).2 hPQ.2 hc
    exact ⟨found', bind_eq_ok.mpr ⟨mid, hmid, he⟩⟩

theorem Adds.of_iff {p : Found → Except DescriptionFault Found} {as : List Response} {P Q : Prop}
    (h : Adds r p as P) (hPQ : P ↔ Q) : Adds r p as Q :=
  propext hPQ ▸ h

/-- Adds an error body with its reference. -/
def addRef (e : Endpoint) (a : Response) (found : Found) (ref : TypeRef) :
    Except DescriptionFault Found :=
  match Table.get? found ref.errorClass with
  | none => .ok (Table.put found ref.errorClass (ref, a.type))
  | some (other, otherType) =>
    if other = ref then .ok found
    else .error (e.fault (.errorClassShared ref.errorClass a.type otherType) (some a.code))

/-- Adds an error body. -/
def addBody (r : Registry) (e : Endpoint) (a : Response) (found : Found) :
    Except DescriptionFault Found :=
  e.resolve r a.type (some a.code) >>= addRef e a found

theorem adds_addBody (r : Registry) (e : Endpoint) (a : Response) :
    Adds r (addBody r e a) [a] True := by
  refine ⟨fun {found found' seen} h he => ⟨trivial, ?_⟩, fun {found seen} h _ hc => ?_⟩
  · obtain ⟨ref, href, he⟩ := bind_eq_ok.mp he
    have href := mapError_eq_ok.mp href
    unfold addRef at he
    split at he
    · rename_i hg
      have hn := Table.get?_eq_none_iff.mp hg
      rw [Table.put_of_not_mem _ hn] at he
      cases he
      exact h.snoc_of_not_mem href hn
    · rename_i other t hg
      split at he
      · rename_i hsame
        subst hsame
        cases he
        exact h.snoc_of_mem href (Table.mem_of_get? hg)
      · cases he
  · obtain ⟨ref, href⟩ := hc.read a (List.mem_append_right seen List.mem_cons_self)
    have hadd : ∃ found', addRef e a found ref = .ok found' := by
      unfold addRef
      split
      · exact ⟨_, rfl⟩
      · rename_i other t hg
        -- the entry comes from a body seen before, whose reference must be the same
        have hm := Table.mem_of_get? hg
        obtain ⟨b, hb, hother⟩ := h.sound _ hm
        have hsame : other = ref := hc.shared b (List.mem_append_left _ hb) a
          (List.mem_append_right seen List.mem_cons_self) _ _ hother href (h.keyed _ hm).symm
        rw [if_pos hsame]
        exact ⟨found, rfl⟩
    obtain ⟨found', hadd⟩ := hadd
    exact ⟨found', bind_eq_ok.mpr ⟨ref, mapError_eq_ok.mpr href, hadd⟩⟩

theorem addResponses_cons (a : Response) (rest : List Response) (found : Found) :
    addResponses r e found (a :: rest) =
      if isErrorBody a then addBody r e a found >>= (addResponses r e · rest)
      else addResponses r e found rest := by
  rw [addResponses, isErrorBody]
  cases hs : a.isSuccess <;> cases hu : a.isUnit
  · simp only [Bool.or_self, Bool.false_eq_true, if_false, Bool.not_false, Bool.and_self, if_true]
    rw [addBody]
    cases e.resolve r a.type (some a.code) with
    | error f => rfl
    | ok ref =>
      simp only [bind, Except.bind, addRef]
      cases Table.get? found ref.errorClass with
      | none => rfl
      | some d =>
        dsimp only
        split <;> rfl
  · rfl
  · rfl
  · rfl

theorem adds_addResponses (r : Registry) (e : Endpoint) (rs : List Response) :
    Adds r (addResponses r e · rs) (rs.filter isErrorBody) True := by
  induction rs with
  | nil => exact .nil
  | cons a rest ih =>
    simp only [addResponses_cons, List.filter_cons]
    split
    · exact ((adds_addBody r e a).bind ih).of_iff (and_self_iff)
    · exact ih

theorem adds_addEndpoints (r : Registry) (es : List Endpoint) :
    Adds r (addEndpoints r · es)
      (es.flatMap fun e => e.operation.responses.filter isErrorBody) True := by
  induction es with
  | nil => exact .nil
  | cons e es ih => exact ((adds_addResponses r e e.operation.responses).bind ih).of_iff and_self_iff

/-- A resource adds the bodies of its operations, where it has endpoints for them. -/
theorem adds_addResource (r : Registry) (x : Resource) :
    Adds r (fun found => Endpoint.ofResource r x >>= addEndpoints r found) (bodiesOf x)
      (∃ es, Endpoint.ofResource r x = .ok es) := by
  have hbodies : ∀ {es}, Endpoint.ofResource r x = .ok es →
      (es.flatMap fun e => e.operation.responses.filter isErrorBody) = bodiesOf x := by
    intro es hes
    obtain ⟨hes, _⟩ := Endpoint.ofResource_eq_ok.mp hes
    rw [bodiesOf, List.flatMap_def, List.flatMap_def]
    refine congrArg List.flatten (map_eq_of_forall₂ hes fun o e he => ?_).symm
    rw [he.operation_eq]
  refine ⟨fun {found found' seen} h he => ?_, fun {found seen} h hok hc => ?_⟩
  · obtain ⟨es, hes, he⟩ := bind_eq_ok.mp he
    have hadds := (adds_addEndpoints r es).collects h he
    rw [hbodies hes] at hadds
    exact ⟨⟨es, hes⟩, hadds.2⟩
  · obtain ⟨es, hes⟩ := hok
    rw [← hbodies hes] at hc
    obtain ⟨found', hadd⟩ := (adds_addEndpoints r es).succeeds h trivial hc
    exact ⟨found', bind_eq_ok.mpr ⟨es, hes, hadd⟩⟩

theorem addResources_cons (x : Resource) (xs : List Resource) (found : Found) :
    addResources r found (x :: xs) =
      (Endpoint.ofResource r x >>= addEndpoints r found) >>= (addResources r · xs) := by
  rw [addResources]
  cases Endpoint.ofResource r x <;> rfl

theorem adds_addResources (r : Registry) (xs : List Resource) :
    Adds r (addResources r · xs) (xs.flatMap bodiesOf)
      (∀ x ∈ xs, ∃ es, Endpoint.ofResource r x = .ok es) := by
  induction xs with
  | nil => exact Adds.nil.of_iff (by simp)
  | cons x xs ih =>
    simp only [addResources_cons]
    exact ((adds_addResource r x).bind ih).of_iff (by rw [List.forall_mem_cons])

/-! ## 4. Collecting succeeds -/

/-- What is collected is a table of the error bodies, in the order of its names. -/
theorem all_eq_ok {types : List (String × TypeRef)} (h : all r s = .ok types) :
    (∀ x ∈ s.resources, ∃ es, Endpoint.ofResource r x = .ok es) ∧
      ∃ found, Collected r found (bodies s) ∧
        types = sortBy (fun a b => !decide (b.1 < a.1)) (found.map fun d => (d.1, d.2.1)) := by
  obtain ⟨found, hf, h⟩ := bind_eq_ok.mp h
  rw [pure_eq_ok] at h
  obtain ⟨hok, hfound⟩ := (adds_addResources r s.resources).collects .nil hf
  exact ⟨hok, found, hfound, h.symm⟩

theorem exists_all_iff : (∃ types, all r s = .ok types) ↔
    (∀ x ∈ s.resources, ∃ es, Endpoint.ofResource r x = .ok es) ∧ Consistent r (bodies s) := by
  constructor
  · rintro ⟨types, h⟩
    obtain ⟨hok, found, hfound, _⟩ := all_eq_ok h
    exact ⟨hok, hfound.consistent⟩
  · rintro ⟨hok, hc⟩
    obtain ⟨found, hfound⟩ := (adds_addResources r s.resources).succeeds .nil hok hc
    exact ⟨_, bind_eq_ok.mpr ⟨found, hfound, rfl⟩⟩

/-- **Error bodies are refused**: some operations are, some body is not read, or two bodies give
    one class for two references. -/
inductive Refused (r : Registry) (s : Service) : Prop where
  | operations {x : Resource} (hx : x ∈ s.resources) {f : DescriptionFault}
    (h : Endpoint.ofResource r x = .error f)
  | unread {a : Response} (ha : a ∈ bodies s) {c : Cause} (h : r.parse a.type = .error c)
  | shared {a b : Response} (ha : a ∈ bodies s) (hb : b ∈ bodies s) {x y : TypeRef}
    (hx : r.parse a.type = .ok x) (hy : r.parse b.type = .ok y)
    (hclass : x.errorClass = y.errorClass) (hne : x ≠ y)

/-- **Error classes are refused** for one of three reasons and no other. -/
theorem all_eq_error_iff : (∃ f, all r s = .error f) ↔ Refused r s := by
  rw [exists_error_iff_not_exists_ok, exists_all_iff]
  constructor
  · intro h
    by_contra hn
    refine h ⟨fun x hx => ?_, fun a ha => ?_, fun a ha b hb x y hx hy hclass => ?_⟩
    · by_contra hf
      obtain ⟨f, hf⟩ := exists_error_iff_not_exists_ok.mpr hf
      exact hn (.operations hx hf)
    · by_contra hc
      obtain ⟨c, hc⟩ := exists_error_iff_not_exists_ok.mpr hc
      exact hn (.unread ha hc)
    · by_contra hne
      exact hn (.shared ha hb hx hy hclass hne)
  · rintro hr ⟨hok, hc⟩
    cases hr with
    | operations hx h =>
      obtain ⟨es, hes⟩ := hok _ hx
      rw [hes] at h
      cases h
    | unread ha h =>
      obtain ⟨ref, href⟩ := hc.read _ ha
      rw [href] at h
      cases h
    | shared ha hb hx hy hclass hne => exact hne (hc.shared _ ha _ hb _ _ hx hy hclass)

/-! ## 5. Functions that read a body -/

/-- The name under which a body is read does not end in an underscore. -/
theorem getLast?_errorVariable (ref : TypeRef) :
    ref.errorVariable.toList.getLast? ≠ some '_' := by
  have hbase : ∀ t : String, (snakeCase t).toList.getLast? ≠ some '_' := fun t h =>
    absurd (isAlphanum_of_getLast?_snakeCase h) (by decide)
  unfold TypeRef.errorVariable
  dsimp only
  split
  · exact getLast?_pluralize _
  · have hlast : "_map".toList.getLast? = some 'p' := rfl
    rw [getLast?_append hlast]
    decide
  · exact hbase _

/-- **No body is read by a function named as the constructor is.** -/
theorem viewName_ne_constructor (ref : TypeRef) : viewName ref ≠ "__init__" := by
  have hview : (viewName ref).toList.getLast? ≠ some '_' := by
    unfold viewName
    split
    · have hlast : "_body".toList.getLast? = some 'y' := rfl
      rw [getLast?_append hlast]
      decide
    · exact getLast?_errorVariable ref
  intro h
  exact hview (h ▸ rfl)

/-! ## 6. Classes of the errors module -/

/-- Names in rising order rise strictly where none is repeated. -/
theorem pairwise_lt_sortBy {ds : List (String × TypeRef)} (h : (ds.map Prod.fst).Nodup) :
    ((sortBy (fun a b => !decide (b.1 < a.1)) ds).map Prod.fst).Pairwise (· < ·) := by
  have le_iff : ∀ a b : String × TypeRef, (!decide (b.1 < a.1)) = true ↔ a.1 ≤ b.1 := by
    intro a b
    rw [Bool.not_eq_true', decide_eq_false_iff_not, String.not_lt]
  have sorted := pairwise_sortBy_key le_iff String.le_total String.le_trans ds
  have distinct : (sortBy (fun a b => !decide (b.1 < a.1)) ds).Pairwise fun a b => a.1 ≠ b.1 :=
    List.pairwise_map.mp (((sortBy_perm _ ds).map Prod.fst).nodup_iff.mpr h)
  refine List.pairwise_map.mpr ((sorted.and distinct).imp ?_)
  rintro a b ⟨hle, hne⟩
  exact String.not_le.mp fun hge => hne (String.le_antisymm hle hge)

theorem pairwise_names {types : List (String × TypeRef)} (h : all r s = .ok types) :
    (types.map Prod.fst).Pairwise (· < ·) := by
  obtain ⟨_, found, hfound, rfl⟩ := all_eq_ok h
  refine pairwise_lt_sortBy ?_
  rw [List.map_map]
  exact hfound.distinct

theorem name_of_mem {types : List (String × TypeRef)} (h : all r s = .ok types)
    {d : String × TypeRef} (hd : d ∈ types) : d.1 = d.2.errorClass := by
  obtain ⟨_, found, hfound, rfl⟩ := all_eq_ok h
  obtain ⟨d', hd', rfl⟩ := List.mem_map.mp ((sortBy_perm _ _).mem_iff.mp hd)
  exact hfound.keyed d' hd'

/-- Every error body has its class. -/
theorem exists_class {types : List (String × TypeRef)} (h : all r s = .ok types) {a : Response}
    (ha : a ∈ bodies s) {ref : TypeRef} (href : r.parse a.type = .ok ref) :
    (ref.errorClass, ref) ∈ types := by
  obtain ⟨_, found, hfound, rfl⟩ := all_eq_ok h
  obtain ⟨ref', t, href', hm⟩ := hfound.complete a ha
  obtain rfl : ref = ref' := Except.ok.inj (href.symm.trans href')
  exact (sortBy_perm _ _).mem_iff.mpr (List.mem_map.mpr ⟨_, hm, rfl⟩)

/-- The classes are those of the error bodies. -/
theorem mem_iff_of_all {types : List (String × TypeRef)} (h : all r s = .ok types)
    {d : String × TypeRef} :
    d ∈ types ↔ d.1 = d.2.errorClass ∧ ∃ a ∈ bodies s, r.parse a.type = .ok d.2 := by
  constructor
  · intro hd
    refine ⟨name_of_mem h hd, ?_⟩
    obtain ⟨_, found, hfound, rfl⟩ := all_eq_ok h
    obtain ⟨d', hd', rfl⟩ := List.mem_map.mp ((sortBy_perm _ _).mem_iff.mp hd)
    exact hfound.sound d' hd'
  · rintro ⟨hname, a, ha, href⟩
    obtain ⟨name, ref⟩ := d
    obtain rfl : name = ref.errorClass := hname
    exact exists_class h ha href

/-- Every class is that of an error body. -/
theorem declared_of_mem {types : List (String × TypeRef)} (h : all r s = .ok types)
    {d : String × TypeRef} (hd : d ∈ types) : d.1 = d.2.errorClass ∧ r.Declared d.2 := by
  refine ⟨name_of_mem h hd, ?_⟩
  obtain ⟨_, found, hfound, rfl⟩ := all_eq_ok h
  obtain ⟨d', hd', rfl⟩ := List.mem_map.mp ((sortBy_perm _ _).mem_iff.mp hd)
  obtain ⟨a, _, ha⟩ := hfound.sound d' hd'
  exact Registry.declared_of_parse ha

theorem classes_eq_ok {cs : List Source.Class} : classes r s = .ok cs ↔ ∃ types,
    all r s = .ok types ∧
      cs = failedRequestClass :: invalidJsonClass :: types.map fun d => classOf r d.1 d.2 := by
  unfold classes
  rw [bind_eq_ok]
  refine exists_congr fun types => and_congr_right fun _ => ?_
  rw [pure_eq_ok]
  exact eq_comm

/-- The name of a class for a body is no other class's of the module. -/
theorem errorClass_ne (ref : TypeRef) :
    ref.errorClass ≠ failedRequestClass.name ∧ ref.errorClass ≠ invalidJsonClass.name := by
  have hresponse : "Response".toList.getLast? = some 'e' := rfl
  have hlast : ref.errorClass.toList.getLast? = some 'e' := getLast?_append hresponse
  constructor
  · intro h
    rw [h] at hlast
    exact absurd hlast (by decide)
  · intro h
    rw [h] at hlast
    exact absurd hlast (by decide)

theorem nodup_names {types : List (String × TypeRef)} (h : all r s = .ok types) :
    (failedRequestClass.name :: invalidJsonClass.name :: types.map Prod.fst).Nodup := by
  have hfresh : ∀ {name : String}, (∀ ref : TypeRef, ref.errorClass ≠ name) →
      name ∉ types.map Prod.fst := by
    rintro name hname hm
    obtain ⟨d, hd, rfl⟩ := List.mem_map.mp hm
    exact hname d.2 (name_of_mem h hd).symm
  have htyped : (types.map Prod.fst).Nodup :=
    (pairwise_names h).imp fun {a b} (hlt : a < b) (he : a = b) => String.lt_irrefl b (he ▸ hlt)
  rw [List.nodup_cons, List.nodup_cons, List.mem_cons, not_or]
  exact ⟨⟨by decide, hfresh fun ref => (errorClass_ne ref).1⟩, hfresh fun ref => (errorClass_ne ref).2,
    htyped⟩

/-! ## 7. Errors that methods raise -/

/-- **A class reads a body** of the type `t`: its one function besides the constructor does. -/
def Reads (c : Source.Class) (t : String) : Prop :=
  ∃ init name view, c.functions = [("__init__", init), (name, view)] ∧ view.response = t ∧
    view.code = some (.ofCode ("return common.parse_json(\"" ++ t ++ "\", self.response, " ++ t ++ ")"))

/-- A class of a body has its constructor and its view, which does not take the constructor's place. -/
theorem functions_classOf (r : Registry) (name : String) (ref : TypeRef) : ∃ init view,
    (classOf r name ref).functions = [("__init__", init), (viewName ref, view)] ∧
    view.name = viewName ref ∧ view.response = (r.typeOf ref).text ∧
    view.code = some (.ofCode ("return common.parse_json(\"" ++ (r.typeOf ref).text ++
      "\", self.response, " ++ (r.typeOf ref).text ++ ")")) := by
  unfold classOf
  dsimp only [Source.Class.addFunction]
  rw [Table.put_of_not_mem]
  · exact ⟨_, _, rfl, rfl, rfl, rfl⟩
  · intro hm
    exact viewName_ne_constructor ref (List.mem_singleton.mp hm)

theorem reads_classOf (r : Registry) (name : String) (ref : TypeRef) :
    Reads (classOf r name ref) (r.typeOf ref).text := by
  obtain ⟨init, view, hfunctions, _, hresponse, hcode⟩ := functions_classOf r name ref
  exact ⟨init, _, view, hfunctions, hresponse, hcode⟩

/-- **Errors of a service cover what its methods raise**: the classes `cs` of the errors module have
    names of their own, and every failure that a method of an implementation raises is one of
    them, which reads the type of the failure's body. -/
structure Covers (r : Registry) (s : Service) (cs os : List Source.Class) : Prop where
  names : ∃ typed, cs.map (·.name) = "FailedRequest" :: "InvalidJson" :: typed ∧
    typed.Pairwise (· < ·)
  distinct : (cs.map (·.name)).Nodup
  file : ∃ f, Package.errorsFile r s = .ok f ∧ f.name = "errors.py" ∧
    f.classes = cs.map fun c => (c.name, c)
  raised : ∀ x ∈ s.resources, ∃ ms, (ClientMethod.ofResource r x).outcome = .ok ms ∧
    ClientMethod.objectOf x ms ∈ os ∧
    ∀ m ∈ ms, ∀ code d e, .failure code d e ∈ m.dispatch.branches →
      ∃ c ∈ cs, e = r.settings.errorsNamespace ++ "." ++ c.name ∧ ∀ t, d = some t → Reads c t

theorem covers_of_classes {cs os : List Source.Class} (hcs : classes r s = .ok cs)
    (hos : (ClientMethod.objects r s).outcome = .ok os) : Covers r s cs os := by
  obtain ⟨types, htypes, rfl⟩ := classes_eq_ok.mp hcs
  have hnames : (failedRequestClass :: invalidJsonClass :: types.map fun d => classOf r d.1 d.2).map
      (·.name) = failedRequestClass.name :: invalidJsonClass.name :: types.map Prod.fst := by
    rw [List.map_cons, List.map_cons, List.map_map]
    rfl
  have hnodup := nodup_names htypes
  rw [← hnames] at hnodup
  refine ⟨⟨_, hnames, pairwise_names htypes⟩, hnodup, ?_, fun x hx => ?_⟩
  · refine ⟨_, bind_eq_ok.mpr ⟨_, hcs, rfl⟩, ?_⟩
    rw [Source.File.foldl_addClass_of_nodup rfl hnodup]
    exact ⟨rfl, rfl⟩
  · have hos := ClientMethod.outcome_mapM_classes.mp hos
    obtain ⟨c, hc, ms, hms, rfl⟩ := exists_right_of_forall₂ hos ((sortBy_perm _ _).mem_iff.mpr hx)
    refine ⟨ms, hms, hc, fun m hm code d e hb => ?_⟩
    obtain ⟨o, ho, hom⟩ := exists_left_of_forall₂ (ClientMethod.ofResource_eq_ok.mp hms).1 hm
    obtain ⟨a, ha, hab⟩ := (hom.answers_of_mem hb).resolve_right fun ⟨_, h⟩ => nomatch h
    cases hab with
    | failureUnit _ _ => exact ⟨_, List.mem_cons_self, rfl, fun t ht => nomatch ht⟩
    | @failure ref hu hs href =>
      have hclass := exists_class htypes (mem_bodies_iff.mpr ⟨x, hx, o, ho, ha, hs, hu⟩) href
      refine ⟨classOf r ref.errorClass ref, ?_, rfl, ?_⟩
      · exact List.mem_cons_of_mem _ (List.mem_cons_of_mem _ (List.mem_map.mpr ⟨_, hclass, rfl⟩))
      · intro t ht
        cases ht
        exact reads_classOf r _ ref

/-- **Errors that are raised and errors that are defined agree**: error classes are refused for three
    reasons only, and where there are error classes and methods, the ones cover the others. -/
theorem classes_cover_failures (r : Registry) (s : Service) :
    ((∃ f, all r s = .error f) ↔ Refused r s) ∧
    ∀ cs os, classes r s = .ok cs → (ClientMethod.objects r s).outcome = .ok os →
      Covers r s cs os :=
  ⟨all_eq_error_iff, fun _ _ => covers_of_classes⟩

/-- Service whose operations answer with a body of each type under 400, and with nothing. -/
def erring (types : List String) : Service :=
  { name := "api"
    resources := types.map fun t =>
      { type := "user", plural := "users"
        operations :=
          [{ verb := .get, path := "/users", responses := [⟨400, t, false⟩, ⟨404, "unit", false⟩] }] } }

/-- One class serves two resources; a list of lists shares the class of a list and is refused. -/
theorem classes_cover_failures_lists : (∃ cs os,
    classes ⟨Dialect.aiohttp, [], []⟩ (erring ["[string]", "long", "[string]"]) = .ok cs ∧
    (ClientMethod.objects ⟨Dialect.aiohttp, [], []⟩ (erring ["[string]", "long", "[string]"])).outcome =
      .ok os ∧
    cs.map (·.name) = ["FailedRequest", "InvalidJson", "LongResponse", "StringsResponse"] ∧
    Covers ⟨Dialect.aiohttp, [], []⟩ (erring ["[string]", "long", "[string]"]) cs os) ∧
    Refused ⟨Dialect.aiohttp, [], []⟩ (erring ["[string]", "[[string]]"]) :=
  ⟨⟨_, _, rfl, rfl, rfl, (classes_cover_failures _ _).2 _ _ rfl rfl⟩,
    (classes_cover_failures _ _).1.mp ⟨_, rfl⟩⟩

end ErrorType

end ClientGen
