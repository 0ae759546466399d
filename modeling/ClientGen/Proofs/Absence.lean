import ClientGen.Proofs.Dispatch
import ClientGen.Proofs.Reading

/-!
# Where nothing is found

A description may say that nothing is found by a not-found answer without a body. The reader
turns that into an optional success, and the dispatch table absorbs it into one branch. This
file fixes

* `settleAbsence_eq`: the reader sets one flag of the declared answers, or none;
* `two_le_optionalSuccesses_settleAbsence`: that never gives a second optional success;
* `operation_agrees_on_absence`: what the dispatch table of an operation that was read does with
  not-found answers, in terms of what the document declares.
-/

namespace ClientGen

open DispatchTable

namespace Reading

variable {d : Document}

/-! ## 1. The flag that is set -/

/-- A success with a body. -/
def hasBody (a : Response) : Bool := a.isSuccess && !a.isUnit

/-- A not-found answer without a body. -/
def isAbsence (a : Response) : Bool := a.isNotFound && a.isUnit

/-- **The place of the answer that becomes optional**: the first success with a body, where a
    not-found answer without a body is declared and no success is declared optional. -/
def becomesOptional (declared : List Response) (i : Nat) : Bool :=
  declared.any isAbsence && !absorbs declared && declared.findIdx? hasBody = some i

theorem makeFirstOptional_cons (a : Response) (rs : List Response) :
    makeFirstOptional (a :: rs) =
      if hasBody a then { a with optional := true } :: rs else a :: makeFirstOptional rs := rfl

theorem map_succ_eq_some_iff {n? : Option Nat} {i : Nat} :
    n?.map (· + 1) = some (i + 1) ↔ n? = some i := by
  cases n? <;> simp

theorem makeFirstOptional_eq (rs : List Response) :
    makeFirstOptional rs = rs.mapIdx fun i a =>
      { a with optional := a.optional || rs.findIdx? hasBody = some i } := by
  induction rs with
  | nil => rfl
  | cons a rs ih =>
    rw [makeFirstOptional_cons, List.mapIdx_cons, List.findIdx?_cons]
    by_cases ha : hasBody a = true
    · -- the flag is set here, so at no later place
      rw [if_pos ha, if_pos ha]
      refine congrArg₂ List.cons (by simp) (List.ext_getElem? fun i => ?_)
      rw [List.getElem?_mapIdx]
      simp
    · rw [if_neg ha, if_neg ha, ih]
      refine congrArg₂ List.cons (by simp) ?_
      simp only [map_succ_eq_some_iff]

theorem any_eq_absorbs (rs : List Response) :
    rs.any (fun a => a.isSuccess && a.optional) = absorbs rs := by
  rw [Bool.eq_iff_iff, absorbs_iff, List.any_eq_true]
  refine exists_congr fun a => ?_
  rw [mem_optionalSuccesses, Bool.and_eq_true]

/-- **The reader sets one flag of the declared answers, or none.** -/
theorem settleAbsence_eq (declared : List Response) :
    settleAbsence declared = declared.mapIdx fun i a =>
      { a with optional := a.optional || becomesOptional declared i } := by
  unfold settleAbsence becomesOptional
  rw [any_eq_absorbs]
  split
  · rename_i h
    have h' : (declared.any isAbsence && !absorbs declared) = true := h
    simp only [makeFirstOptional_eq, h', Bool.true_and]
  · rename_i h
    have h' : (declared.any isAbsence && !absorbs declared) = false := (Bool.not_eq_true _).mp h
    simp only [h', Bool.false_and, Bool.or_false]
    exact (List.ext_getElem? fun i => by rw [List.getElem?_mapIdx]; simp)

/-! ## 2. Optional successes -/

theorem map_type_settleAbsence (declared : List Response) :
    (settleAbsence declared).map (·.type) = declared.map (·.type) := by
  rw [settleAbsence_eq]
  exact List.ext_getElem? fun i => by simp [Function.comp_def]

/-- Where no success is optional, setting one flag gives one optional success at most. -/
theorem length_optionalSuccesses_makeFirstOptional {rs : List Response}
    (h : optionalSuccesses rs = []) : (optionalSuccesses (makeFirstOptional rs)).length ≤ 1 := by
  induction rs with
  | nil => exact Nat.zero_le 1
  | cons a rs ih =>
    rw [optionalSuccesses_cons] at h
    split at h
    · cases h
    · rename_i ha
      rw [makeFirstOptional_cons]
      split
      · rw [optionalSuccesses_cons, h]
        split
        · exact Nat.le_refl 1
        · exact Nat.zero_le 1
      · rw [optionalSuccesses_cons, if_neg ha]
        exact ih h

theorem absorbs_makeFirstOptional {rs : List Response} (h : ∃ a ∈ rs, hasBody a = true) :
    absorbs (makeFirstOptional rs) = true := by
  induction rs with
  | nil => exact absurd h (by simp)
  | cons a rs ih =>
    rw [makeFirstOptional_cons, absorbs_iff]
    split
    · rename_i ha
      exact ⟨_, mem_optionalSuccesses.mpr ⟨List.mem_cons_self, (Bool.and_eq_true _ _ ▸ ha).1, rfl⟩⟩
    · rename_i ha
      obtain ⟨b, hb, hbody⟩ := h
      rcases List.mem_cons.mp hb with rfl | hb
      · exact absurd hbody ha
      · obtain ⟨c, hc⟩ := absorbs_iff.mp (ih ⟨b, hb, hbody⟩)
        obtain ⟨hm, hc⟩ := mem_optionalSuccesses.mp hc
        exact ⟨c, mem_optionalSuccesses.mpr ⟨List.mem_cons_of_mem _ hm, hc⟩⟩

theorem settleAbsence_cases (declared : List Response) :
    settleAbsence declared = declared ∨
      optionalSuccesses declared = [] ∧ settleAbsence declared = makeFirstOptional declared := by
  unfold settleAbsence
  rw [any_eq_absorbs]
  split
  · rename_i h
    rw [Bool.and_eq_true] at h
    exact Or.inr ⟨by simpa [absorbs] using h.2, rfl⟩
  · exact Or.inl rfl

/-- **The reader never gives a second optional success.** -/
theorem two_le_optionalSuccesses_settleAbsence {declared : List Response} :
    2 ≤ (optionalSuccesses (settleAbsence declared)).length ↔
      2 ≤ (optionalSuccesses declared).length := by
  rcases settleAbsence_cases declared with h | ⟨h, e⟩
  · rw [h]
  · have hl := length_optionalSuccesses_makeFirstOptional h
    rw [e, h]
    simp
    omega

/-- An absence and a success with a body make the dispatch table absorb not-found answers. -/
theorem absorbs_settleAbsence {declared : List Response} (hn : ∃ a ∈ declared, isAbsence a = true)
    (hb : ∃ a ∈ declared, hasBody a = true) : absorbs (settleAbsence declared) = true := by
  unfold settleAbsence
  rw [any_eq_absorbs]
  split
  · exact absorbs_makeFirstOptional hb
  · rename_i h
    rw [Bool.and_eq_true, List.any_eq_true] at h
    cases ha : absorbs declared with
    | true => rfl
    | false => exact absurd ⟨hn, by rw [ha]; rfl⟩ h

/-! ## 3. From the document to the dispatch table -/

/-- **Agreement of the reader and the dispatch table**: `declared` are the answers that the
    document `d` declares for an operation, `o` is what was read of it. -/
structure AgreesOnAbsence (d : Document) (spec : Value) (o : Operation)
    (declared : List Response) : Prop where
  /-- The declared answers are those of the responses record, in its order. -/
  declares : ∃ entries, memberOr spec "responses" (.record []) d = .ok (.record entries) ∧
    List.Forall₂ (Declares d) entries declared
  /-- They were read as they are but for one flag that may be set. -/
  answers : o.responses = declared.mapIdx fun i a =>
    { a with optional := a.optional || becomesOptional declared i }
  /-- A table is refused for two optional successes exactly where the document declares two. -/
  refused : ∀ (r : Registry) (e : Endpoint), e.operation = o →
    ((∃ f, (ofEndpoint r e).outcome = .error f ∧
      f.text = "At most one success response may be optional") ↔
        2 ≤ (optionalSuccesses declared).length)
  /-- A table is made where all types resolve and the document does not declare two. -/
  made : ∀ (r : Registry) (e : Endpoint), e.operation = o →
    (∀ a ∈ declared, ∃ ref, r.parse a.type = .ok ref) → (optionalSuccesses declared).length < 2 →
      ∃ t, (ofEndpoint r e).outcome = .ok t
  /-- An absence and a success with a body give the not-found code to an absent value. -/
  absent : ∀ (r : Registry) (e : Endpoint), e.operation = o →
    (∃ a ∈ declared, isAbsence a = true) → (∃ a ∈ declared, hasBody a = true) →
      ∀ t, (ofEndpoint r e).outcome = .ok t → ∃ s, t.classify notFoundCode = .successAbsent s

/-- **The reader and the dispatch table agree on where nothing is found**, for every responses
    record that is read. -/
theorem operation_agrees_on_absence {resource path spec : Value} {o : Operation}
    (h : operation resource path spec d = .ok o) :
    ∃ declared, AgreesOnAbsence d spec o declared := by
  obtain ⟨v, hv, hrs⟩ := (specifies_of_operation h).responses
  obtain ⟨entries, declared, rfl, hd, hs⟩ := responses_eq_ok hrs
  refine ⟨declared, ⟨entries, hv, hd⟩, hs.trans (settleAbsence_eq declared), ?_, ?_, ?_⟩
  · rintro r e rfl
    rw [text_ofEndpoint_iff, hs]
    exact two_le_optionalSuccesses_settleAbsence
  · rintro r e rfl hp ho
    refine exists_ofEndpoint (fun a ha => ?_) ?_
    · have ht : a.type ∈ e.operation.responses.map (·.type) := List.mem_map_of_mem ha
      rw [hs, map_type_settleAbsence] at ht
      obtain ⟨b, hb, hab⟩ := List.mem_map.mp ht
      exact hab ▸ hp b hb
    · rw [hs]
      have h2 := mt two_le_optionalSuccesses_settleAbsence.mp (Nat.not_le_of_lt ho)
      exact Nat.le_of_lt_succ (Nat.lt_of_not_le h2)
  · rintro r e rfl hn hb t ht
    obtain ⟨bs, nils, hc⟩ := ofEndpoint_eq_ok.mp ht
    obtain ⟨o, ho⟩ := absorbs_iff.mp (hs ▸ absorbs_settleAbsence hn hb)
    obtain ⟨s, _, hcl⟩ := hc.classify_absent ho
    exact ⟨s, hcl⟩

/-- Operation that declares one code in two spellings and an absence. -/
def twoSpellings : Value :=
  .record [("method", .text "get"), ("responses", .record
    [("404", .null), ("200", .record [("type", .text "string")]),
      ("0200", .record [("type", .text "[string]")])])]

/-- Of two successes under one code the first becomes optional. -/
theorem operation_agrees_on_absence_spellings :
    operation (.text "user") (.text "/users") twoSpellings twoSpellings =
      .ok { verb := .get, path := "/users", responses :=
        [⟨404, "unit", false⟩, ⟨200, "string", true⟩, ⟨200, "[string]", false⟩] } ∧
    ∃ declared, AgreesOnAbsence twoSpellings twoSpellings
      { verb := .get, path := "/users", responses :=
        [⟨404, "unit", false⟩, ⟨200, "string", true⟩, ⟨200, "[string]", false⟩] } declared := by
  have h : operation (.text "user") (.text "/users") twoSpellings twoSpellings = .ok _ := rfl
  exact ⟨h, operation_agrees_on_absence h⟩

end Reading

end ClientGen
