import ClientGen.Dispatch
import ClientGen.Proofs.Notation
import ClientGen.Proofs.Sequencing

/-!
# What a dispatch table answers

A table is made from the declared responses of an endpoint in one pass that drops repeated
codes and, where a success is optional, all not-found responses. This file fixes

* `owners`, `repeats`: the responses that get a branch of their own and those that are
  reported as repeated, for any list of codes;
* `Answers`, `outcomeOf_eq_ok`: what one response answers with;
* `outcome_branchesOf_eq_ok`, `warnings_branchesOf`: the pass gives the owners' outcomes and the
  repeats' warnings;
* `ofEndpoint_eq_ok`, `refused_of_ofEndpoint`: what a table consists of, and why one is refused;
* `ofEndpoint_serves`: for every status code, which response answers.
-/

namespace ClientGen

open ClientGen.Text

namespace DispatchTable

/-! ## 1. Owners and repeats -/

/-- Responses with a branch of their own: the first of each code that `seen` lacks, without
    the not-found ones when `absorbed`. -/
def owners (absorbed : Bool) (seen : List Int) : List Response → List Response
  | [] => []
  | a :: rest =>
    if absorbed && a.isNotFound then owners absorbed seen rest
    else if seen.contains a.code then owners absorbed seen rest
    else a :: owners absorbed (a.code :: seen) rest

/-- Responses whose code came before, without the not-found ones when `absorbed`. -/
def repeats (absorbed : Bool) (seen : List Int) : List Response → List Response
  | [] => []
  | a :: rest =>
    if absorbed && a.isNotFound then repeats absorbed seen rest
    else if seen.contains a.code then a :: repeats absorbed seen rest
    else repeats absorbed (a.code :: seen) rest

theorem owners_sublist (absorbed : Bool) (seen : List Int) (rs : List Response) :
    (owners absorbed seen rs).Sublist rs := by
  induction rs generalizing seen with
  | nil => exact .slnil
  | cons a rest ih =>
    unfold owners
    split
    · exact (ih seen).cons a
    · split
      · exact (ih seen).cons a
      · exact (ih _).cons_cons a

theorem repeats_sublist (absorbed : Bool) (seen : List Int) (rs : List Response) :
    (repeats absorbed seen rs).Sublist rs := by
  induction rs generalizing seen with
  | nil => exact .slnil
  | cons a rest ih =>
    unfold repeats
    split
    · exact (ih seen).cons a
    · split
      · exact (ih seen).cons_cons a
      · exact (ih _).cons a

/-- **Nothing is lost**: every response owns a branch, is absorbed, or is a repeat. -/
theorem perm_owners_repeats (absorbed : Bool) (seen : List Int) (rs : List Response) :
    rs.Perm (owners absorbed seen rs ++ rs.filter (absorbed && ·.isNotFound) ++
      repeats absorbed seen rs) := by
  induction rs generalizing seen with
  | nil => exact .refl _
  | cons a rest ih =>
    unfold owners repeats
    by_cases hn : (absorbed && a.isNotFound) = true
    · rw [if_pos hn, if_pos hn, List.filter_cons, if_pos hn]
      refine ((ih seen).cons a).trans ?_
      rw [List.append_assoc, List.append_assoc, List.cons_append]
      exact List.perm_middle.symm
    · rw [if_neg hn, if_neg hn, List.filter_cons, if_neg hn]
      by_cases hs : seen.contains a.code = true
      · rw [if_pos hs, if_pos hs]
        exact ((ih seen).cons a).trans List.perm_middle.symm
      · rw [if_neg hs, if_neg hs, List.cons_append, List.cons_append]
        exact (ih _).cons a

/-- The owner of a code is the first response that has it. -/
theorem find?_owners {absorbed : Bool} {seen : List Int} {c : Int} (hs : c ∉ seen)
    (hn : ¬ (absorbed = true ∧ c = notFoundCode)) (rs : List Response) :
    (owners absorbed seen rs).find? (·.code = c) = rs.find? (·.code = c) := by
  induction rs generalizing seen with
  | nil => rfl
  | cons a rest ih =>
    unfold owners
    by_cases hc : a.code = c
    · have h1 : ¬ (absorbed && a.isNotFound) = true := by
        rw [Response.isNotFound, Bool.and_eq_true, decide_eq_true_eq, hc]
        exact hn
      have h2 : ¬ seen.contains a.code = true := by rw [List.contains_iff_mem, hc]; exact hs
      rw [if_neg h1, if_neg h2]
      simp only [List.find?_cons, hc, decide_true]
    · have h0 : decide (a.code = c) = false := decide_eq_false hc
      simp only [List.find?_cons, h0]
      split
      · exact ih hs
      · split
        · exact ih hs
        · simp only [List.find?_cons, h0]
          exact ih fun h => (List.mem_cons.mp h).elim (fun e => hc e.symm) hs

theorem not_mem_of_mem_owners {absorbed : Bool} {seen : List Int} {rs : List Response}
    {a : Response} (h : a ∈ owners absorbed seen rs) :
    a.code ∉ seen ∧ ¬ (absorbed = true ∧ a.code = notFoundCode) := by
  induction rs generalizing seen with
  | nil => exact absurd h List.not_mem_nil
  | cons b rest ih =>
    unfold owners at h
    split at h
    · exact ih h
    · rename_i hn
      split at h
      · exact ih h
      · rename_i hs
        rcases List.mem_cons.mp h with rfl | h
        · exact ⟨by simpa using hs, by simpa [Response.isNotFound, notFoundCode] using hn⟩
        · obtain ⟨h1, h2⟩ := ih h
          exact ⟨fun h => h1 (List.mem_cons_of_mem _ h), h2⟩

/-- No two owners share a code. -/
theorem nodup_codes_owners (absorbed : Bool) (seen : List Int) (rs : List Response) :
    ((owners absorbed seen rs).map (·.code)).Nodup := by
  induction rs generalizing seen with
  | nil => exact List.nodup_nil
  | cons a rest ih =>
    unfold owners
    split
    · exact ih seen
    · split
      · exact ih seen
      · rw [List.map_cons, List.nodup_cons]
        refine ⟨fun h => ?_, ih _⟩
        obtain ⟨b, hb, e⟩ := List.mem_map.mp h
        exact (not_mem_of_mem_owners hb).1 (e ▸ List.mem_cons_self)

/-- The owners are the responses that are the first of their code and not absorbed. -/
theorem mem_owners_iff {absorbed : Bool} {rs : List Response} {a : Response} :
    a ∈ owners absorbed [] rs ↔
      rs.find? (·.code = a.code) = some a ∧ ¬ (absorbed = true ∧ a.code = notFoundCode) := by
  constructor
  · intro h
    obtain ⟨_, hn⟩ := not_mem_of_mem_owners h
    rw [← find?_owners List.not_mem_nil hn]
    exact ⟨find?_of_nodup_map (nodup_codes_owners absorbed [] rs) h, hn⟩
  · rintro ⟨hf, hn⟩
    rw [← find?_owners List.not_mem_nil hn] at hf
    exact List.mem_of_find?_eq_some hf

/-- A success that is the first of its code has a branch of its own. -/
theorem mem_owners_of_isSuccess {absorbed : Bool} {rs : List Response} {a : Response}
    (ha : rs.find? (·.code = a.code) = some a) (hs : a.isSuccess = true) :
    a ∈ owners absorbed [] rs := by
  refine mem_owners_iff.mpr ⟨ha, fun hn => ?_⟩
  rw [Response.isSuccess, hn.2] at hs
  exact absurd hs (by decide)

/-! ## 2. The pass over the responses -/

variable {r : Registry} {e : Endpoint}

/-- **What a response answers with**, by whether it is a success and whether it has a body. -/
inductive Answers (r : Registry) (a : Response) : Outcome → Prop where
  | successUnit (hu : a.isUnit = true) (hs : a.isSuccess = true) : Answers r a (.successUnit a.code)
  | failureUnit (hu : a.isUnit = true) (hs : a.isSuccess = false) :
    Answers r a (.failure a.code none (errorName r.settings failedRequest))
  | success {ref : TypeRef} (hu : a.isUnit = false) (hs : a.isSuccess = true)
    (href : r.parse a.type = .ok ref) : Answers r a (.success a.code (r.typeOf ref).text)
  | failure {ref : TypeRef} (hu : a.isUnit = false) (hs : a.isSuccess = false)
    (href : r.parse a.type = .ok ref) :
    Answers r a
      (.failure a.code (some (r.typeOf ref).text) (errorName r.settings ref.errorClass))

theorem outcomeOf_eq_ok {a : Response} {b : Outcome} :
    outcomeOf r e a = .ok b ↔ Answers r a b := by
  unfold outcomeOf
  cases hu : a.isUnit with
  | true =>
    rw [if_pos rfl]
    constructor
    · intro h
      cases h
      cases hs : a.isSuccess with
      | true => exact .successUnit hu hs
      | false => exact .failureUnit hu hs
    · intro h
      cases h with
      | successUnit _ hs => rw [hs]; rfl
      | failureUnit _ hs => rw [hs]; rfl
      | success hu' => exact absurd (hu.symm.trans hu') Bool.noConfusion
      | failure hu' => exact absurd (hu.symm.trans hu') Bool.noConfusion
  | false =>
    rw [if_neg Bool.false_ne_true]
    constructor
    · intro h
      obtain ⟨ref, href, h⟩ := bind_eq_ok.mp h
      have href := mapError_eq_ok.mp href
      cases h
      cases hs : a.isSuccess with
      | true => exact .success hu hs href
      | false => exact .failure hu hs href
    · intro h
      cases h with
      | successUnit hu' => exact absurd (hu'.symm.trans hu) Bool.noConfusion
      | failureUnit hu' => exact absurd (hu'.symm.trans hu) Bool.noConfusion
      | success _ hs href =>
        refine bind_eq_ok.mpr ⟨_, mapError_eq_ok.mpr href, ?_⟩
        rw [hs]
        rfl
      | failure _ hs href =>
        refine bind_eq_ok.mpr ⟨_, mapError_eq_ok.mpr href, ?_⟩
        rw [hs]
        rfl

theorem parsed_of_isUnit {a : Response} (h : a.isUnit = true) : ∃ ref, r.parse a.type = .ok ref :=
  ⟨_, of_decide_eq_true h ▸ r.parse_unit⟩

/-- The type of an answer that has an outcome is read. -/
theorem Answers.parsed {a : Response} {b : Outcome} (h : Answers r a b) :
    ∃ ref, r.parse a.type = .ok ref := by
  cases h with
  | successUnit hu _ => exact parsed_of_isUnit hu
  | failureUnit hu _ => exact parsed_of_isUnit hu
  | success _ _ href => exact ⟨_, href⟩
  | failure _ _ href => exact ⟨_, href⟩

theorem code?_of_outcomeOf {a : Response} {b : Outcome} (h : outcomeOf r e a = .ok b) :
    b.code? = some a.code := by
  cases outcomeOf_eq_ok.mp h <;> rfl

theorem isAbsent_of_outcomeOf {a : Response} {b : Outcome} (h : outcomeOf r e a = .ok b) :
    b.isAbsent = false := by
  cases outcomeOf_eq_ok.mp h <;> rfl

theorem outcome_branchesOf_eq_ok {absorbed : Bool} {seen : List Int} {rs : List Response}
    {bs : List Outcome} : (branchesOf r e absorbed seen rs).outcome = .ok bs ↔
      List.Forall₂ (fun a b => outcomeOf r e a = .ok b) (owners absorbed seen rs) bs := by
  induction rs generalizing seen bs with
  | nil => exact Traced.outcome_pure_eq_ok.trans ⟨fun e => e ▸ .nil, fun h => by cases h; rfl⟩
  | cons a rest ih =>
    unfold branchesOf owners
    split
    · exact ih
    · split
      · rw [Traced.outcome_bind_eq_ok]
        constructor
        · rintro ⟨_, _, h⟩
          exact ih.mp h
        · exact fun h => ⟨(), rfl, ih.mpr h⟩
      · rw [Traced.outcome_bind_eq_ok]
        constructor
        · rintro ⟨b, hb, h⟩
          obtain ⟨bs', hbs, h⟩ := Traced.outcome_bind_eq_ok.mp h
          cases h
          exact .cons hb (ih.mp hbs)
        · intro h
          cases h with
          | cons hb hbs => exact ⟨_, hb, Traced.outcome_bind_eq_ok.mpr ⟨_, ih.mpr hbs, rfl⟩⟩

theorem warnings_branchesOf {absorbed : Bool} {seen : List Int} {rs : List Response}
    {bs : List Outcome} (h : (branchesOf r e absorbed seen rs).outcome = .ok bs) :
    (branchesOf r e absorbed seen rs).warnings =
      (repeats absorbed seen rs).map fun a => .duplicateCode e.operation.label a.code := by
  induction rs generalizing seen bs with
  | nil => rfl
  | cons a rest ih =>
    unfold branchesOf at h ⊢
    unfold repeats
    split at h
    · rename_i hn
      rw [if_pos hn, if_pos hn]
      exact ih h
    · rename_i hn
      rw [if_neg hn, if_neg hn]
      split at h
      · rename_i hs
        obtain ⟨_, hw, h⟩ := Traced.outcome_bind_eq_ok.mp h
        rw [if_pos hs, if_pos hs, Traced.warnings_bind hw, ih h]
        rfl
      · rename_i hs
        obtain ⟨b, hb, h⟩ := Traced.outcome_bind_eq_ok.mp h
        obtain ⟨bs', hbs, h⟩ := Traced.outcome_bind_eq_ok.mp h
        rw [if_neg hs, if_neg hs, Traced.warnings_bind hb, Traced.warnings_bind hbs, ih hbs]
        exact List.append_nil _

/-! ## 3. Codes in rising order -/

theorem mem_insertCode {c d : Int} {ds : List Int} : c ∈ insertCode d ds ↔ c = d ∨ c ∈ ds := by
  induction ds with
  | nil => simp [insertCode]
  | cons b ds ih =>
    unfold insertCode
    split
    · exact List.mem_cons
    · split
      · rename_i e
        subst e
        simp
      · rw [List.mem_cons, ih, List.mem_cons]
        exact or_left_comm

theorem pairwise_insertCode {d : Int} {ds : List Int} (h : ds.Pairwise (· < ·)) :
    (insertCode d ds).Pairwise (· < ·) := by
  induction ds with
  | nil => exact List.pairwise_singleton _ d
  | cons b ds ih =>
    obtain ⟨hb, hds⟩ := List.pairwise_cons.mp h
    unfold insertCode
    split
    · rename_i hd
      refine List.pairwise_cons.mpr ⟨fun c hc => ?_, h⟩
      rcases List.mem_cons.mp hc with rfl | hc
      · exact hd
      · exact Int.lt_trans hd (hb c hc)
    · rename_i hd
      split
      · exact h
      · rename_i hne
        refine List.pairwise_cons.mpr ⟨fun c hc => ?_, ih hds⟩
        rcases mem_insertCode.mp hc with rfl | hc
        · omega
        · exact hb c hc

theorem mem_sortCodes {c : Int} {codes : List Int} : c ∈ sortCodes codes ↔ c ∈ codes := by
  induction codes with
  | nil => exact Iff.rfl
  | cons d ds ih => rw [sortCodes, List.foldr_cons, mem_insertCode, ← sortCodes, ih, List.mem_cons]

theorem pairwise_sortCodes (codes : List Int) : (sortCodes codes).Pairwise (· < ·) := by
  induction codes with
  | nil => exact .nil
  | cons d ds ih => exact pairwise_insertCode ih

/-! ## 4. What a table consists of -/

/-- Not-found responses are absorbed when some success is optional. -/
def absorbs (rs : List Response) : Bool := !(optionalSuccesses rs).isEmpty

theorem optionalSuccesses_cons (a : Response) (rs : List Response) :
    optionalSuccesses (a :: rs) =
      if a.isSuccess && a.optional then a :: optionalSuccesses rs else optionalSuccesses rs :=
  List.filter_cons

theorem mem_optionalSuccesses {rs : List Response} {a : Response} :
    a ∈ optionalSuccesses rs ↔ a ∈ rs ∧ a.isSuccess = true ∧ a.optional = true := by
  rw [optionalSuccesses, List.mem_filter, Bool.and_eq_true]

theorem absorbs_iff {rs : List Response} : absorbs rs = true ↔ ∃ a, a ∈ optionalSuccesses rs := by
  unfold absorbs
  cases optionalSuccesses rs with
  | nil => simp
  | cons a as => simp

/-- An absent value is that of the type, with or without a body. -/
theorem nilValueOf_eq_ok {a : Response} {s : String} :
    nilValueOf r e a = .ok s ↔ ∃ ref, r.parse a.type = .ok ref ∧ s = ref.nilText := by
  unfold nilValueOf
  split
  · rename_i hu
    have ht : a.type = "unit" := of_decide_eq_true hu
    rw [ht, r.parse_unit]
    constructor
    · intro h
      cases h
      exact ⟨_, rfl, rfl⟩
    · rintro ⟨ref, href, rfl⟩
      cases href
      rfl
  · rw [bind_eq_ok]
    refine exists_congr fun ref => and_congr mapError_eq_ok ?_
    rw [r.nilValue_resolve, pure_eq_ok]
    exact eq_comm

/-- **What a table consists of**: the branches `bs` of the owners, then one for each of `nils`,
    the absent values of the optional successes, of which there is at most one. -/
structure ConsistsOf (r : Registry) (e : Endpoint) (t : DispatchTable) (bs : List Outcome)
    (nils : List String) : Prop where
  own : List.Forall₂ (fun a b => outcomeOf r e a = .ok b)
    (owners (absorbs e.operation.responses) [] e.operation.responses) bs
  absent : List.Forall₂ (fun a s => nilValueOf r e a = .ok s)
    (optionalSuccesses e.operation.responses) nils
  single : (optionalSuccesses e.operation.responses).length ≤ 1
  branches : t.branches = bs ++ nils.map .successAbsent
  expected : t.expectedCodes = sortCodes ((optionalSuccesses e.operation.responses).map
    (fun _ => notFoundCode) ++ e.operation.responses.map (·.code))

theorem ofEndpoint_of_nil (ho : optionalSuccesses e.operation.responses = []) :
    ofEndpoint r e = (do
      let branches ← branchesOf r e false [] e.operation.responses
      return ⟨branches, sortCodes (e.operation.responses.map (·.code))⟩) := by
  simp only [ofEndpoint, ho]

theorem ofEndpoint_of_single {o : Response}
    (ho : optionalSuccesses e.operation.responses = [o]) :
    ofEndpoint r e = (do
      let branches ← branchesOf r e true [] e.operation.responses
      let nil ← Traced.lift (nilValueOf r e o)
      return ⟨branches ++ [.successAbsent nil],
        sortCodes (notFoundCode :: e.operation.responses.map (·.code))⟩) := by
  simp only [ofEndpoint, ho]

theorem ofEndpoint_of_two {o second : Response} {rest : List Response}
    (ho : optionalSuccesses e.operation.responses = o :: second :: rest) :
    ofEndpoint r e = Traced.lift (.error (e.fault .twoOptionalSuccesses (some second.code))) := by
  simp only [ofEndpoint, ho]

theorem ofEndpoint_eq_ok {t : DispatchTable} :
    (ofEndpoint r e).outcome = .ok t ↔ ∃ bs nils, ConsistsOf r e t bs nils := by
  constructor
  · intro h
    rcases ho : optionalSuccesses e.operation.responses with _ | ⟨o, _ | ⟨second, rest⟩⟩
    · rw [ofEndpoint_of_nil ho] at h
      obtain ⟨bs, hbs, h⟩ := Traced.outcome_bind_eq_ok.mp h
      cases h
      refine ⟨bs, [], ?_, ho ▸ .nil, ho ▸ Nat.zero_le 1, (List.append_nil bs).symm, ho ▸ rfl⟩
      rw [absorbs, ho]
      exact outcome_branchesOf_eq_ok.mp hbs
    · rw [ofEndpoint_of_single ho] at h
      obtain ⟨bs, hbs, h⟩ := Traced.outcome_bind_eq_ok.mp h
      obtain ⟨s, hs, h⟩ := Traced.outcome_bind_eq_ok.mp h
      cases h
      refine ⟨bs, [s], ?_, ho ▸ .cons hs .nil, ho ▸ Nat.le_refl 1, rfl, ho ▸ rfl⟩
      rw [absorbs, ho]
      exact outcome_branchesOf_eq_ok.mp hbs
    · rw [ofEndpoint_of_two ho] at h
      cases h
  · rintro ⟨bs, nils, own, absent, single, branches, expected⟩
    have ht : t = ⟨t.branches, t.expectedCodes⟩ := rfl
    rw [branches, expected] at ht
    rw [absorbs] at own
    rcases ho : optionalSuccesses e.operation.responses with _ | ⟨o, _ | ⟨second, rest⟩⟩
    · rw [ho] at own absent ht
      cases absent
      rw [List.map_nil, List.append_nil] at ht
      rw [ofEndpoint_of_nil ho, ht]
      exact Traced.outcome_bind_eq_ok.mpr ⟨bs, outcome_branchesOf_eq_ok.mpr own, rfl⟩
    · rw [ho] at own absent ht
      obtain _ | ⟨hs, _ | _⟩ := absent
      rw [ofEndpoint_of_single ho, ht]
      refine Traced.outcome_bind_eq_ok.mpr ⟨bs, outcome_branchesOf_eq_ok.mpr own, ?_⟩
      exact Traced.outcome_bind_eq_ok.mpr ⟨_, hs, rfl⟩
    · rw [ho] at single
      simp at single

theorem warnings_ofEndpoint {t : DispatchTable} (h : (ofEndpoint r e).outcome = .ok t) :
    (ofEndpoint r e).warnings =
      (repeats (absorbs e.operation.responses) [] e.operation.responses).map
        fun a => .duplicateCode e.operation.label a.code := by
  rw [absorbs]
  rcases ho : optionalSuccesses e.operation.responses with _ | ⟨o, _ | ⟨second, rest⟩⟩
  · rw [ofEndpoint_of_nil ho] at h ⊢
    obtain ⟨bs, hbs, h⟩ := Traced.outcome_bind_eq_ok.mp h
    rw [Traced.warnings_bind hbs, warnings_branchesOf hbs]
    exact List.append_nil _
  · rw [ofEndpoint_of_single ho] at h ⊢
    obtain ⟨bs, hbs, h⟩ := Traced.outcome_bind_eq_ok.mp h
    obtain ⟨s, hs, h⟩ := Traced.outcome_bind_eq_ok.mp h
    rw [Traced.warnings_bind hbs, Traced.warnings_bind hs, warnings_branchesOf hbs]
    exact List.append_nil _
  · rw [ofEndpoint_of_two ho] at h
    cases h

/-! ## 5. Branch codes -/

/-- The fallback answers exactly the codes without a branch. -/
theorem classify_eq_unexpected_iff {t : DispatchTable} {c : Int} :
    t.classify c = .unexpected ↔ some c ∉ t.branches.map (·.code?) := by
  unfold classify
  cases hf : t.branches.find? (·.code? = some c) with
  | none =>
    refine iff_of_true rfl fun h => ?_
    obtain ⟨b, hb, hc⟩ := List.mem_map.mp h
    exact List.find?_eq_none.mp hf b hb (decide_eq_true hc)
  | some b =>
    have hc : b.code? = some c := by simpa using List.find?_some hf
    have hm : some c ∈ t.branches.map (·.code?) :=
      List.mem_map.mpr ⟨b, List.mem_of_find?_eq_some hf, hc⟩
    refine iff_of_false (fun h => ?_) fun h => h hm
    have hb : b = .unexpected := h
    rw [hb] at hc
    cases hc

/-- A classified outcome other than the fallback is a branch of the code. -/
theorem of_classify {t : DispatchTable} {c : Int} {b : Outcome} (h : t.classify c = b)
    (hb : b ≠ .unexpected) : b ∈ t.branches ∧ b.code? = some c := by
  unfold classify at h
  cases hf : t.branches.find? (·.code? = some c) with
  | none =>
    rw [hf] at h
    exact absurd h.symm hb
  | some b' =>
    rw [hf] at h
    subst h
    exact ⟨List.mem_of_find?_eq_some hf, by simpa using List.find?_some hf⟩

theorem mem_codes_owners {rs : List Response} {c : Int} :
    c ∈ (owners (absorbs rs) [] rs).map (·.code) ↔
      c ∈ rs.map (·.code) ∧ ¬ (absorbs rs = true ∧ c = notFoundCode) := by
  constructor
  · intro h
    obtain ⟨a, ha, rfl⟩ := List.mem_map.mp h
    exact ⟨List.mem_map_of_mem ((owners_sublist _ _ rs).subset ha), (not_mem_of_mem_owners ha).2⟩
  · rintro ⟨h, hn⟩
    obtain ⟨a, ha, rfl⟩ := List.mem_map.mp h
    have hf := find?_owners List.not_mem_nil hn rs
    cases hr : rs.find? (·.code = a.code) with
    | none => exact absurd (decide_eq_true rfl) (List.find?_eq_none.mp hr a ha)
    | some b =>
      rw [hr] at hf
      have hb : b.code = a.code := by simpa using List.find?_some hr
      exact hb ▸ List.mem_map_of_mem (List.mem_of_find?_eq_some hf)

namespace ConsistsOf

variable {t : DispatchTable} {bs : List Outcome} {nils : List String}

theorem absent_cases (h : ConsistsOf r e t bs nils) :
    absorbs e.operation.responses = false ∧ nils = [] ∨
      absorbs e.operation.responses = true ∧ ∃ o s, optionalSuccesses e.operation.responses = [o] ∧
        nils = [s] ∧ nilValueOf r e o = .ok s := by
  have absent := h.absent
  have single := h.single
  unfold absorbs
  rcases ho : optionalSuccesses e.operation.responses with _ | ⟨o, _ | ⟨second, rest⟩⟩
  · rw [ho] at absent
    cases absent
    exact Or.inl ⟨rfl, rfl⟩
  · rw [ho] at absent
    obtain _ | ⟨hs, _ | _⟩ := absent
    exact Or.inr ⟨rfl, o, _, rfl, rfl, hs⟩
  · rw [ho] at single
    simp at single

/-- A branch answers a declared response, or it is the absent one. -/
theorem answers_of_mem (h : ConsistsOf r e t bs nils) {b : Outcome} (hb : b ∈ t.branches) :
    (∃ a ∈ e.operation.responses, Answers r a b) ∨ ∃ s, b = .successAbsent s := by
  rw [h.branches, List.mem_append] at hb
  rcases hb with hb | hb
  · obtain ⟨a, ha, hab⟩ := exists_left_of_forall₂ h.own hb
    exact Or.inl ⟨a, (owners_sublist _ _ _).subset ha, outcomeOf_eq_ok.mp hab⟩
  · obtain ⟨s, _, rfl⟩ := List.mem_map.mp hb
    exact Or.inr ⟨s, rfl⟩

/-- **Branch codes**: those of the owners in declared order, then the not-found code where
    a value may be absent. -/
theorem codes (h : ConsistsOf r e t bs nils) :
    t.branches.map (·.code?) =
      ((owners (absorbs e.operation.responses) [] e.operation.responses).map (·.code) ++
        if absorbs e.operation.responses then [notFoundCode] else []).map some := by
  have own : ((owners (absorbs e.operation.responses) [] e.operation.responses).map (·.code)).map
      some = bs.map (·.code?) := by
    rw [List.map_map]
    exact map_eq_of_forall₂ h.own fun a b hab => (code?_of_outcomeOf hab).symm
  rw [h.branches, List.map_append, ← own, List.map_append]
  rcases h.absent_cases with ⟨ha, rfl⟩ | ⟨ha, o, s, _, rfl, _⟩
  · rw [ha]
    rfl
  · rw [ha]
    rfl

theorem nodup_codes (h : ConsistsOf r e t bs nils) : (t.branches.map (·.code?)).Nodup := by
  rw [h.codes]
  refine List.Nodup.map (fun _ _ => Option.some.inj) (List.nodup_append.mpr ?_)
  refine ⟨nodup_codes_owners _ _ _, ?_, fun c hc d hd => ?_⟩
  · split
    · exact List.nodup_singleton _
    · exact List.nodup_nil
  · split at hd
    · rename_i ha
      rw [List.mem_singleton] at hd
      exact fun e => (mem_codes_owners.mp hc).2 ⟨ha, e.trans hd⟩
    · exact absurd hd List.not_mem_nil

theorem some_mem_codes (h : ConsistsOf r e t bs nils) {c : Int} :
    some c ∈ t.branches.map (·.code?) ↔
      absorbs e.operation.responses = true ∧ c = notFoundCode ∨
        c ∈ e.operation.responses.map (·.code) := by
  rw [h.codes, List.mem_map_of_injective (fun _ _ => Option.some.inj), List.mem_append,
    mem_codes_owners]
  by_cases ha : absorbs e.operation.responses = true
  · rw [if_pos ha, List.mem_singleton]
    by_cases hc : c = notFoundCode <;> simp [ha, hc]
  · rw [if_neg ha]
    simp [ha]

theorem mem_expectedCodes (h : ConsistsOf r e t bs nils) {c : Int} :
    c ∈ t.expectedCodes ↔ some c ∈ t.branches.map (·.code?) := by
  rw [h.expected, mem_sortCodes, List.mem_append, h.some_mem_codes, absorbs_iff]
  refine or_congr_left ?_
  rw [List.mem_map]
  exact ⟨fun ⟨a, ha, e⟩ => ⟨⟨a, ha⟩, e.symm⟩, fun ⟨⟨a, ha⟩, e⟩ => ⟨a, ha, e.symm⟩⟩

/-! ## 6. Classification -/

/-- A declared code that is not absorbed has the outcome of its first response. -/
theorem classify_first (h : ConsistsOf r e t bs nils) {c : Int} {a : Response}
    (hn : ¬ (absorbs e.operation.responses = true ∧ c = notFoundCode))
    (hf : e.operation.responses.find? (·.code = c) = some a) :
    outcomeOf r e a = .ok (t.classify c) := by
  have hr := find?_of_forall₂ (p := (·.code = c)) (q := (·.code? = some c)) h.own fun a b hab => by
    rw [code?_of_outcomeOf hab]
    simp
  rw [find?_owners List.not_mem_nil hn, hf] at hr
  unfold classify
  rw [h.branches, List.find?_append]
  generalize bs.find? (·.code? = some c) = found at hr
  cases hr with
  | some hab => exact hab

/-- Where a success is optional, the not-found code gives its absent value. -/
theorem classify_absent (h : ConsistsOf r e t bs nils) {o : Response}
    (ho : o ∈ optionalSuccesses e.operation.responses) :
    ∃ s, nilValueOf r e o = .ok s ∧ t.classify notFoundCode = .successAbsent s := by
  rcases h.absent_cases with ⟨ha, rfl⟩ | ⟨ha, o', s, ho', rfl, hs⟩
  · exact absurd (absorbs_iff.mpr ⟨o, ho⟩) (ha ▸ Bool.false_ne_true)
  · rw [ho', List.mem_singleton] at ho
    subst ho
    refine ⟨s, hs, ?_⟩
    have hb : bs.find? (·.code? = some notFoundCode) = none := by
      rw [List.find?_eq_none]
      intro b hb hc
      have hm : some notFoundCode ∈ bs.map (·.code?) :=
        List.mem_map.mpr ⟨b, hb, of_decide_eq_true hc⟩
      rw [← map_eq_of_forall₂ h.own fun a b hab => (code?_of_outcomeOf hab).symm] at hm
      obtain ⟨a, ha', e⟩ := List.mem_map.mp hm
      exact (not_mem_of_mem_owners ha').2 ⟨ha, Option.some.inj e⟩
    unfold classify
    rw [h.branches, List.find?_append, hb]
    rfl

/-- Only the not-found code gives an absent value, that of an optional success. -/
theorem of_classify_absent (h : ConsistsOf r e t bs nils) {c : Int} {s : String}
    (hc : t.classify c = .successAbsent s) : c = notFoundCode ∧
      ∃ o ∈ optionalSuccesses e.operation.responses, nilValueOf r e o = .ok s := by
  obtain ⟨hm, hcode⟩ := of_classify hc Outcome.noConfusion
  refine ⟨(Option.some.inj hcode).symm, ?_⟩
  rw [h.branches, List.mem_append] at hm
  rcases hm with hm | hm
  · obtain ⟨a, _, hab⟩ := exists_left_of_forall₂ h.own hm
    exact absurd (isAbsent_of_outcomeOf hab) (by simp [Outcome.isAbsent])
  · obtain ⟨s', hs, e⟩ := List.mem_map.mp hm
    cases e
    exact exists_left_of_forall₂ h.absent hs

end ConsistsOf

/-! ## 7. Tables that are refused -/

theorem exists_outcomeOf {a : Response} (h : ∃ ref, r.parse a.type = .ok ref) :
    ∃ b, outcomeOf r e a = .ok b := by
  obtain ⟨ref, href⟩ := h
  simp only [outcomeOf_eq_ok]
  cases hu : a.isUnit <;> cases hs : a.isSuccess
  · exact ⟨_, .failure hu hs href⟩
  · exact ⟨_, .success hu hs href⟩
  · exact ⟨_, .failureUnit hu hs⟩
  · exact ⟨_, .successUnit hu hs⟩

/-- A table is made where all types resolve and at most one success is optional. -/
theorem exists_ofEndpoint (hp : ∀ a ∈ e.operation.responses, ∃ ref, r.parse a.type = .ok ref)
    (ho : (optionalSuccesses e.operation.responses).length ≤ 1) :
    ∃ t, (ofEndpoint r e).outcome = .ok t := by
  obtain ⟨bs, hbs⟩ : ∃ bs, List.Forall₂ (fun a b => outcomeOf r e a = .ok b)
      (owners (absorbs e.operation.responses) [] e.operation.responses) bs :=
    exists_forall₂ fun a ha => exists_outcomeOf (hp a ((owners_sublist _ _ _).subset ha))
  obtain ⟨nils, hnils⟩ : ∃ nils, List.Forall₂ (fun a s => nilValueOf r e a = .ok s)
      (optionalSuccesses e.operation.responses) nils :=
    exists_forall₂ fun a ha => by
      obtain ⟨ref, href⟩ := hp a (mem_optionalSuccesses.mp ha).1
      exact ⟨_, nilValueOf_eq_ok.mpr ⟨ref, href, rfl⟩⟩
  exact ⟨⟨_, _⟩, ofEndpoint_eq_ok.mpr ⟨bs, nils, hbs, hnils, ho, rfl, rfl⟩⟩

/-- **A response is not read**: its type is refused, and the fault is placed at its code. -/
def Unread (r : Registry) (e : Endpoint) (a : Response) (f : DescriptionFault) : Prop :=
  ∃ c, r.parse a.type = .error c ∧ f = e.fault c (some a.code)

theorem unread_of_resolve_eq_error {a : Response} {f : DescriptionFault}
    (h : e.resolve r a.type (some a.code) = .error f) : Unread r e a f := by
  obtain ⟨c, hc, hf⟩ := mapError_eq_error.mp h
  exact ⟨c, hc, hf.symm⟩

theorem unread_of_outcomeOf_eq_error {a : Response} {f : DescriptionFault}
    (h : outcomeOf r e a = .error f) : Unread r e a f := by
  unfold outcomeOf at h
  split at h
  · cases h
  · rcases bind_eq_error.mp h with h | ⟨_, _, h⟩
    · exact unread_of_resolve_eq_error h
    · cases h

theorem unread_of_nilValueOf_eq_error {a : Response} {f : DescriptionFault}
    (h : nilValueOf r e a = .error f) : Unread r e a f := by
  unfold nilValueOf at h
  split at h
  · cases h
  · rcases bind_eq_error.mp h with h | ⟨_, _, h⟩
    · exact unread_of_resolve_eq_error h
    · cases h

theorem unread_of_branchesOf_eq_error {absorbed : Bool} {seen : List Int} {rs : List Response}
    {f : DescriptionFault} (h : (branchesOf r e absorbed seen rs).outcome = .error f) :
    ∃ a ∈ rs, Unread r e a f := by
  induction rs generalizing seen with
  | nil => cases h
  | cons a rest ih =>
    have later : (∃ b ∈ rest, Unread r e b f) → ∃ b ∈ a :: rest, Unread r e b f :=
      fun ⟨b, hb, hf⟩ => ⟨b, List.mem_cons_of_mem a hb, hf⟩
    unfold branchesOf at h
    split at h
    · exact later (ih h)
    · split at h
      · rcases Traced.outcome_bind_eq_error.mp h with h | ⟨_, _, h⟩
        · cases h
        · exact later (ih h)
      · rcases Traced.outcome_bind_eq_error.mp h with h | ⟨b, _, h⟩
        · exact ⟨a, List.mem_cons_self, unread_of_outcomeOf_eq_error h⟩
        · rcases Traced.outcome_bind_eq_error.mp h with h | ⟨bs, _, h⟩
          · exact later (ih h)
          · cases h

/-- **Why a table is refused**: a second success is optional, or a response is not read. -/
inductive Refused (r : Registry) (e : Endpoint) (f : DescriptionFault) : Prop where
  | twoOptional {o second : Response} {rest : List Response}
    (ho : optionalSuccesses e.operation.responses = o :: second :: rest)
    (hf : f = e.fault .twoOptionalSuccesses (some second.code))
  | unread {a : Response} (ha : a ∈ e.operation.responses) (hf : Unread r e a f)

theorem refused_of_ofEndpoint {f : DescriptionFault} (h : (ofEndpoint r e).outcome = .error f) :
    Refused r e f := by
  rcases ho : optionalSuccesses e.operation.responses with _ | ⟨o, _ | ⟨second, rest⟩⟩
  · rw [ofEndpoint_of_nil ho] at h
    rcases Traced.outcome_bind_eq_error.mp h with h | ⟨_, _, h⟩
    · obtain ⟨a, ha, hf⟩ := unread_of_branchesOf_eq_error h
      exact .unread ha hf
    · cases h
  · rw [ofEndpoint_of_single ho] at h
    rcases Traced.outcome_bind_eq_error.mp h with h | ⟨_, _, h⟩
    · obtain ⟨a, ha, hf⟩ := unread_of_branchesOf_eq_error h
      exact .unread ha hf
    · rcases Traced.outcome_bind_eq_error.mp h with h | ⟨_, _, h⟩
      · have hm : o ∈ optionalSuccesses e.operation.responses := ho ▸ List.mem_cons_self
        exact .unread (mem_optionalSuccesses.mp hm).1 (unread_of_nilValueOf_eq_error h)
      · cases h
  · rw [ofEndpoint_of_two ho] at h
    cases h
    exact .twoOptional ho rfl

theorem message_unresolvedType (s : String) :
    (Cause.unresolvedType s).message = "Unresolved type reference[" ++ s ++ "]" := rfl

theorem text_ne_of_unread {a : Response} {f : DescriptionFault} (h : Unread r e a f) :
    f.text ≠ "At most one success response may be optional" := by
  obtain ⟨c, hc, rfl⟩ := h
  obtain ⟨t, rfl⟩ := Registry.cause_of_parse_eq_error hc
  have htext : (e.fault (.unresolvedType t) (some a.code)).text =
      "Unresolved type reference[" ++ t ++ "]" := message_unresolvedType t
  rw [htext, String.append_assoc]
  intro h
  have hd := congrArg (fun s : String => s.toList.head?) h
  simp at hd

/-- **Two optional successes are refused as such, and nothing else is.** -/
theorem text_ofEndpoint_iff :
    (∃ f, (ofEndpoint r e).outcome = .error f ∧
      f.text = "At most one success response may be optional") ↔
      2 ≤ (optionalSuccesses e.operation.responses).length := by
  constructor
  · rintro ⟨f, h, ht⟩
    cases refused_of_ofEndpoint h with
    | twoOptional ho _ =>
      rw [ho]
      simp
    | unread _ hf => exact absurd ht (text_ne_of_unread hf)
  · intro h
    rcases ho : optionalSuccesses e.operation.responses with _ | ⟨o, _ | ⟨second, rest⟩⟩
    · simp [ho] at h
    · simp [ho] at h
    · rw [ofEndpoint_of_two ho]
      exact ⟨_, rfl, rfl⟩

/-- **What a table owes its endpoint**; `ws` are the warnings of its making. -/
structure Serves (r : Registry) (e : Endpoint) (ws : List Warning) (t : DispatchTable) : Prop where
  /-- An optional success gives the not-found code the absent value of its type. -/
  absent : ∀ o ∈ e.operation.responses, o.isSuccess = true → o.optional = true →
    ∃ ref, r.parse o.type = .ok ref ∧ t.classify notFoundCode = .successAbsent ref.nilText
  /-- Every other declared code has the outcome of its first response. -/
  first : ∀ c a, ¬ (absorbs e.operation.responses = true ∧ c = notFoundCode) →
    e.operation.responses.find? (·.code = c) = some a → outcomeOf r e a = .ok (t.classify c)
  /-- Every other code is unexpected. -/
  other : ∀ c, ¬ (absorbs e.operation.responses = true ∧ c = notFoundCode) →
    c ∉ e.operation.responses.map (·.code) → t.classify c = .unexpected
  /-- No two branches have one code. -/
  distinct : (t.branches.map (·.code?)).Nodup
  /-- Responses divide into `own`, `rep` and the absorbed ones: `own` have the branches, in declared
      order and before the absent one, and each of `rep` has one warning. -/
  divided : ∃ own rep : List Response, own.Sublist e.operation.responses ∧
    rep.Sublist e.operation.responses ∧
    e.operation.responses.Perm
      (own ++ e.operation.responses.filter
        (absorbs e.operation.responses && ·.isNotFound) ++ rep) ∧
    t.branches.map (·.code?) = (own.map (·.code) ++
      if absorbs e.operation.responses then [notFoundCode] else []).map some ∧
    ws = rep.map fun a => .duplicateCode e.operation.label a.code
  /-- Expected codes rise. -/
  rising : t.expectedCodes.Pairwise (· < ·)
  /-- Expected codes are the branch codes. -/
  expected : ∀ c, c ∈ t.expectedCodes ↔ some c ∈ t.branches.map (·.code?)
  /-- Unexpected are exactly the codes that are not expected. -/
  unexpected : ∀ c, t.classify c = .unexpected ↔ c ∉ t.expectedCodes

/-- **Every status code has the answer that the declared responses give it**, whatever codes they
    repeat, absorb or leave out. -/
theorem ofEndpoint_serves {t : DispatchTable} (h : (ofEndpoint r e).outcome = .ok t) :
    Serves r e (ofEndpoint r e).warnings t := by
  obtain ⟨bs, nils, hc⟩ := ofEndpoint_eq_ok.mp h
  have unexpected : ∀ c, t.classify c = .unexpected ↔ c ∉ t.expectedCodes := fun c => by
    rw [classify_eq_unexpected_iff, hc.mem_expectedCodes]
  refine ⟨fun o ho hs hopt => ?_, fun c a => hc.classify_first, fun c hn hd => ?_, hc.nodup_codes,
    ⟨_, _, owners_sublist _ [] _, repeats_sublist _ [] _, perm_owners_repeats _ [] _, hc.codes,
      warnings_ofEndpoint h⟩, ?_, fun c => hc.mem_expectedCodes, unexpected⟩
  · obtain ⟨s, hnil, hcl⟩ := hc.classify_absent (mem_optionalSuccesses.mpr ⟨ho, hs, hopt⟩)
    obtain ⟨ref, href, rfl⟩ := nilValueOf_eq_ok.mp hnil
    exact ⟨ref, href, hcl⟩
  · rw [unexpected, hc.mem_expectedCodes, hc.some_mem_codes]
    exact fun h => h.elim hn hd
  · rw [hc.expected]
    exact pairwise_sortCodes _

/-- Endpoint that declares the given responses and nothing else. -/
def answering (rs : List Response) : Endpoint :=
  { resource := { type := "user", plural := "users" }
    operation := { verb := .get, path := "/users", responses := rs }
    placeholders := []
    body := none
    parameters := []
    snakeName := "get" }

/-- Endpoint that repeats a code behind an optional success, with two not-found responses around it,
    and fails with a type and without one. -/
def repeatedCodes : Endpoint := answering
  [⟨404, "unit", false⟩, ⟨200, "string", false⟩, ⟨201, "[string]", true⟩, ⟨200, "uuid", false⟩,
    ⟨404, "string", false⟩, ⟨409, "[string]", false⟩, ⟨500, "unit", false⟩]

/-- The second of two codes is left out and warned of, the failures have branches of their own. -/
theorem ofEndpoint_serves_repeated :
    (ofEndpoint ⟨Dialect.aiohttp, [], []⟩ repeatedCodes).outcome =
      .ok ⟨[.success 200 "str", .success 201 "List[str]",
        .failure 409 (some "List[str]") "errors.StringsResponse",
        .failure 500 none "errors.FailedRequest", .successAbsent "[]"], [200, 201, 404, 409, 500]⟩ ∧
    Serves ⟨Dialect.aiohttp, [], []⟩ repeatedCodes [.duplicateCode "GET /users" 200]
      ⟨[.success 200 "str", .success 201 "List[str]",
        .failure 409 (some "List[str]") "errors.StringsResponse",
        .failure 500 none "errors.FailedRequest", .successAbsent "[]"], [200, 201, 404, 409, 500]⟩ :=
  ⟨rfl, ofEndpoint_serves rfl⟩

end DispatchTable

end ClientGen
