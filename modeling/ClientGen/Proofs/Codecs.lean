import ClientGen.Proofs.CodecCode
import ClientGen.Proofs.Declarations

/-!
# Which variant a codec writes and reads

The writer of a union puts a value under the key of the first variant whose class the value belongs
to, and a class of the target language may stand below another one. This file fixes

* `Registry.isSubclass`, `UnionCodec.classRank`: which classes stand below which, and a rank that
  rises along that order;
* `UnionCodec.IsVariant`, `variantsOf_eq_ok`: which variants a union has;
* `find?_of_ranked`: in a list in rising rank, the first item that accepts is the first of its own
  kind;
* `ofUnion_dispatches`: the reader and the writer of a codec run as these two searches, and every value
  is written under the key of the first variant declared with its class, and read back by no other.
-/

namespace ClientGen

open ClientGen.Text ClientGen.Source

/-! ## 1. Classes below classes -/

/-- Tells whether a class is that of a declared enum. -/
def Registry.isEnumClass (r : Registry) (c : String) : Bool :=
  r.entries.any fun d => d.2 = .enum && localClass d.1 = c

/-- **Tells whether a class is another one or stands below it**: truth values are integers, points
    of time are dates, and the values of an enum are texts. -/
def Registry.isSubclass (r : Registry) (c d : String) : Bool :=
  c = d || (c = "bool" && d = "int") || (c = "datetime.datetime" && d = "datetime.date") ||
    (d = "str" && r.isEnumClass c)

namespace UnionCodec

variable {r : Registry} {s : Service} {settings : Settings} {u : UnionType} {c : UnionCodec}

/-- Tells whether a name starts with a small letter, as those of primitives' classes do. -/
def isSmall (c : String) : Bool := c.toList.head?.any (·.isLower)

/-- Rank of a class among the tests of the writer. -/
def classRank (c : String) : Nat :=
  (if isSmall c then 2 else 0) + if subclasses.contains c then 0 else 1

theorem isSmall_localClass (name : String) : isSmall (Registry.localClass name) = false := by
  by_contra h
  exact Registry.localClass_ne name ((Bool.not_eq_false _).mp h) rfl

theorem isSmall_runtimeClass {p : Primitive} {c : String} (h : p.runtimeClass? = some c) :
    isSmall c = true := by
  cases p <;> cases h <;> decide

theorem isFlat_runtimeClass {p : Primitive} {c : String} (h : p.runtimeClass? = some c) : IsFlat c := by
  cases p <;> cases h <;> decide

theorem classRank_le {c : String} (h : isSmall c = false) : classRank c ≤ 1 := by
  unfold classRank
  rw [h, if_neg Bool.false_ne_true, Nat.zero_add]
  split
  · exact Nat.zero_le 1
  · exact Nat.le_refl 1

/-- **Ranks rise from a class to those above it.** -/
theorem classRank_lt {c d : String} (h : r.isSubclass c d = true) (hne : c ≠ d) :
    classRank c < classRank d := by
  simp only [Registry.isSubclass, Bool.or_eq_true, Bool.and_eq_true, decide_eq_true_eq] at h
  obtain ((h | ⟨rfl, rfl⟩) | ⟨rfl, rfl⟩) | ⟨rfl, h⟩ := h
  · exact absurd h hne
  · decide
  · decide
  · obtain ⟨e, _, he⟩ := List.any_eq_true.mp h
    rw [Bool.and_eq_true, decide_eq_true_eq, decide_eq_true_eq] at he
    obtain ⟨_, rfl⟩ := he
    have hstr : classRank "str" = 3 := by decide
    have hle := classRank_le (isSmall_localClass e.1)
    omega

/-! ## 2. Variants of a union -/

/-- **A variant of a notation**: its key is the notation in snake case, and its class that of the
    values of its reference. -/
structure IsVariant (r : Registry) (t : String) (v : UnionVariant) : Prop where
  notation_eq : v.notation_ = t
  discriminator_eq : v.discriminator = snakeCase t
  parsed : r.parse t = .ok v.ref
  class_eq : variantClass? v.ref = some v.runtimeClass

theorem variantOf_eq_ok {union t : String} {v : UnionVariant} :
    variantOf r union t = .ok v ↔ IsVariant r t v := by
  unfold variantOf
  rw [bind_eq_ok]
  constructor
  · rintro ⟨ref, href, h⟩
    split at h
    · rename_i c hc
      rw [pure_eq_ok] at h
      subst h
      exact ⟨rfl, rfl, mapError_eq_ok.mp href, hc⟩
    · cases h
  · rintro ⟨rfl, hd, href, hc⟩
    refine ⟨v.ref, mapError_eq_ok.mpr href, ?_⟩
    rw [hc, ← hd]
    rfl

theorem variantsAfter_cons_eq_ok {union t : String} {ts : List String}
    {before vs : List UnionVariant} :
    variantsAfter r union before (t :: ts) = .ok vs ↔ ∃ v, IsVariant r t v ∧
      (before.find? fun other => other.discriminator = v.discriminator) = none ∧
      variantsAfter r union (before ++ [v]) ts = .ok vs := by
  rw [variantsAfter, bind_eq_ok]
  refine exists_congr fun v => and_congr variantOf_eq_ok ?_
  cases before.find? fun other => other.discriminator = v.discriminator with
  | none => exact (and_iff_right rfl).symm
  | some other =>
    constructor
    · intro h
      cases h
    · rintro ⟨h, _⟩
      cases h

/-- **Variants of a union**: one for each type, in declared order, under keys of their own. -/
theorem variantsOf_eq_ok {vs : List UnionVariant} :
    variantsOf r u = .ok vs ↔ u.types ≠ [] ∧ List.Forall₂ (IsVariant r) u.types vs ∧
      (vs.map (·.discriminator)).Nodup := by
  have hnil : (([] : List UnionVariant).map (·.discriminator)).Nodup := List.nodup_nil
  unfold variantsOf
  split
  · rename_i he
    rw [List.isEmpty_iff] at he
    constructor
    · intro h
      cases h
    · exact fun h => absurd he h.1
  · rename_i he
    rw [List.isEmpty_iff] at he
    refine (collect_eq_ok (fun _ => rfl) (fun _ _ _ _ => variantsAfter_cons_eq_ok) hnil).trans ?_
    constructor
    · rintro ⟨new, rfl, h⟩
      exact ⟨he, h⟩
    · rintro ⟨_, h⟩
      exact ⟨vs, rfl, h⟩

theorem ofUnion_eq_ok : ofUnion r u = .ok c ↔ c.name = u.name ∧
    c.className = Registry.localClass u.name ∧ variantsOf r u = .ok c.variants := by
  unfold ofUnion
  constructor
  · intro h
    split at h
    · rename_i vs hvs
      cases h
      exact ⟨rfl, rfl, hvs⟩
    · cases h
  · rintro ⟨hn, hc, hvs⟩
    rw [hvs, ← hc, ← hn]

/-! ## 3. The order of the writer -/

namespace IsVariant

variable {t : String} {v : UnionVariant}

theorem isPrimitive_eq (h : IsVariant r t v) : v.ref.isPrimitive = isSmall v.runtimeClass := by
  have hc := h.class_eq
  unfold variantClass? at hc
  split at hc
  · rename_i p hp
    rw [hp, isSmall_runtimeClass hc]
    rfl
  · cases hc
  · rename_i kind name _ hk
    rw [hk, ← Option.some.inj hc, isSmall_localClass]
    rfl
  · cases hc

/-- The rank of a variant is that of its class. -/
theorem writeRank_eq (h : IsVariant r t v) : writeRank v = classRank v.runtimeClass := by
  rw [writeRank, h.isPrimitive_eq, classRank]

/-- Neither the key nor the class of a variant breaks a line. -/
theorem isPlain (h : IsVariant r t v) : CodecCode.IsPlain v := by
  refine ⟨h.discriminator_eq ▸ all_isWordChar_snakeCase t, ?_⟩
  have hc := h.class_eq
  unfold variantClass? at hc
  split at hc
  · exact isFlat_runtimeClass hc
  · cases hc
  · rw [← Option.some.inj hc]
    exact AnswerCode.isFlat_pascalCase _
  · cases hc

end IsVariant

/-- In a list in rising rank the first item with `p` is the first with `q`, where the items with
    `q` have `p` and every other one with `p` ranks higher. -/
theorem find?_of_ranked {α : Type} {rank : α → Nat} {p q : α → Bool} {as : List α}
    (sorted : as.Pairwise fun a b => rank a ≤ rank b)
    (weaker : ∀ a, q a = true → p a = true)
    (higher : ∀ a ∈ as, ∀ b ∈ as, p a = true → q a = false → q b = true → rank b < rank a)
    (some_q : ∃ a ∈ as, q a = true) : as.find? p = as.find? q := by
  induction as with
  | nil =>
    obtain ⟨a, ha, _⟩ := some_q
    cases ha
  | cons a as ih =>
    obtain ⟨hle, hsorted⟩ := List.pairwise_cons.mp sorted
    rw [List.find?_cons, List.find?_cons]
    cases hq : q a with
    | true => rw [weaker a hq]
    | false =>
      obtain ⟨b, hb, hqb⟩ : ∃ b ∈ as, q b = true := by
        obtain ⟨b, hb, hqb⟩ := some_q
        rcases List.mem_cons.mp hb with rfl | hb
        · exact absurd (hq.symm.trans hqb) Bool.noConfusion
        · exact ⟨b, hb, hqb⟩
      have hp : p a = false := by
        by_contra hp
        have hlt := higher a List.mem_cons_self b (List.mem_cons_of_mem a hb)
          ((Bool.not_eq_false _).mp hp) hq hqb
        exact absurd (hle b hb) (Nat.not_le.mpr hlt)
      rw [hp]
      exact ih hsorted
        (fun x hx y hy => higher x (List.mem_cons_of_mem a hx) y (List.mem_cons_of_mem a hy))
        ⟨b, hb, hqb⟩

theorem mem_writeOrder {v : UnionVariant} : v ∈ c.writeOrder ↔ v ∈ c.variants :=
  (sortBy_perm _ _).mem_iff

theorem pairwise_writeOrder (c : UnionCodec) :
    c.writeOrder.Pairwise fun v w => writeRank v ≤ writeRank w :=
  pairwise_sortBy_key (fun _ _ => decide_eq_true_iff) Nat.le_total Nat.le_trans c.variants

/-- **Variant under whose key the writer puts a value** of a class: that of the first branch that
    takes the value. -/
def branchFor (r : Registry) (c : UnionCodec) (cls : String) : Option UnionVariant :=
  c.writeOrder.find? fun v => r.isSubclass cls v.runtimeClass

/-- **Variants that the reader tries** on an object with given keys, in order. -/
def checksFor (c : UnionCodec) (keys : List String) : List UnionVariant :=
  c.variants.filter fun v => keys.contains v.discriminator

/-- **The writer takes the first variant declared with the class**, whatever other classes the value
    belongs to. -/
theorem branchFor_eq {ts : List String} (h : List.Forall₂ (IsVariant r) ts c.variants)
    {v : UnionVariant} (hv : v ∈ c.variants) :
    c.branchFor r v.runtimeClass =
      c.variants.find? fun w => w.runtimeClass = v.runtimeClass := by
  have rank_eq : ∀ w ∈ c.variants, writeRank w = classRank w.runtimeClass := fun w hw =>
    let ⟨_, _, hw⟩ := exists_left_of_forall₂ h hw
    hw.writeRank_eq
  have stable : (c.writeOrder.filter fun w => w.runtimeClass = v.runtimeClass) =
      c.variants.filter fun w => w.runtimeClass = v.runtimeClass := by
    refine filter_sortBy fun a ha b hb hpa hpb => ?_
    rw [decide_eq_true_eq] at hpa hpb ⊢
    have hrank : writeRank a = writeRank b := by rw [rank_eq a ha, rank_eq b hb, hpa, hpb]
    exact Nat.le_of_eq hrank
  calc c.branchFor r v.runtimeClass
      = c.writeOrder.find? fun w => w.runtimeClass = v.runtimeClass := by
        refine find?_of_ranked c.pairwise_writeOrder ?_ ?_ ⟨v, mem_writeOrder.mpr hv, by simp⟩
        · intro w hw
          rw [decide_eq_true_eq] at hw
          simp [Registry.isSubclass, hw]
        · intro a ha b hb hp hq hqb
          rw [decide_eq_false_iff_not] at hq
          rw [decide_eq_true_eq] at hqb
          rw [rank_eq a (mem_writeOrder.mp ha), rank_eq b (mem_writeOrder.mp hb), hqb]
          exact classRank_lt hp (Ne.symm hq)
    _ = (c.writeOrder.filter fun w => w.runtimeClass = v.runtimeClass).head? :=
        List.head?_filter.symm
    _ = (c.variants.filter fun w => w.runtimeClass = v.runtimeClass).head? := by rw [stable]
    _ = c.variants.find? fun w => w.runtimeClass = v.runtimeClass := List.head?_filter

/-! ## 4. Writing and reading -/

/-- **Where keys are distinct, one check has the key of an object with a single entry.** -/
theorem checksFor_singleton (hd : (c.variants.map (·.discriminator)).Nodup) {w : UnionVariant}
    (hw : w ∈ c.variants) : c.checksFor [w.discriminator] = [w] := by
  have hnodup : (c.checksFor [w.discriminator]).Nodup := (hd.of_map _).filter _
  refine List.perm_singleton.mp ((List.perm_ext_iff_of_nodup hnodup (List.nodup_singleton w)).mpr ?_)
  intro v
  rw [checksFor, List.mem_filter, List.contains_iff_mem, List.mem_singleton, List.mem_singleton]
  constructor
  · rintro ⟨hv, he⟩
    exact List.inj_on_of_nodup_map hd hv hw he
  · rintro rfl
    exact ⟨hw, rfl⟩

/-- **A codec dispatches by class and key**: its reader checks the keys of the variants as declared,
    its writer tests their classes in an order of its own, both as their code runs, and the two agree on
    every value. -/
structure Dispatches (r : Registry) (u : UnionType) (c : UnionCodec) : Prop where
  variants : List.Forall₂ (IsVariant r) u.types c.variants
  distinct : (c.variants.map (·.discriminator)).Nodup
  plain : ∀ v ∈ c.variants, ∀ ch ∈ v.discriminator.toList, isWordChar ch = true
  readerCode : ∃ first last, (c.reader r).code = some (.ofCode (Block.stack
    [first, "errors = []",
     Block.nested "if isinstance(data, dict):" (Block.stack (c.variants.map c.checkText)), last]))
  writerCode : ∃ last, (c.writer r).code =
    some (.ofCode (Block.stack (c.writeOrder.map c.branchText ++ [last])))
  /-- The reader tries the variants whose keys an object has, and gives the first that fits. -/
  reads : ∃ e, ∀ keys fits,
    CodecCode.run (CodecCode.keyTest? keys) fits .running (CodecCode.codeLines (c.reader r)) = some
      (match (c.checksFor keys).find? fun v => fits (CodecCode.readCall c v) with
       | some v => .returns (CodecCode.readCall c v)
       | none => .raises e)
  /-- The writer puts an object under the key of the first branch whose class it belongs to. -/
  writes : ∃ e, ∀ cls,
    CodecCode.run (CodecCode.classTest? (r.isSubclass cls)) (fun _ => true) .running
      (CodecCode.codeLines (c.writer r)) = some
      (match c.branchFor r cls with
       | some v => .returns (CodecCode.writeCall c v)
       | none => .raises e)
  permuted : c.writeOrder.Perm c.variants
  agrees : ∀ v ∈ c.variants, ∃ w ∈ c.variants,
    c.branchFor r v.runtimeClass = some w ∧ w.runtimeClass = v.runtimeClass ∧
    c.variants.find? (fun v' => v'.runtimeClass = v.runtimeClass) = some w ∧
    c.checksFor [w.discriminator] = [w]

/-- **Every codec writes and reads by the right variant**: a value is written under the key of the
    first variant declared with its own class, which no other variant reads. -/
theorem ofUnion_dispatches (h : ofUnion r u = .ok c) : Dispatches r u c := by
  obtain ⟨_, _, hvs⟩ := ofUnion_eq_ok.mp h
  obtain ⟨_, hvs, hd⟩ := variantsOf_eq_ok.mp hvs
  have hplain : ∀ v ∈ c.variants, CodecCode.IsPlain v := fun v hv =>
    let ⟨_, _, ht⟩ := exists_left_of_forall₂ hvs hv
    ht.isPlain
  obtain ⟨e, hwrites⟩ := CodecCode.writer_runs (r := r) hplain
  refine ⟨hvs, hd, fun v hv => List.all_eq_true.mp (hplain v hv).word, ⟨_, _, rfl⟩, ⟨_, rfl⟩,
    CodecCode.reader_runs hplain, ⟨e, fun cls => hwrites (r.isSubclass cls)⟩, sortBy_perm _ _,
    fun v hv => ?_⟩
  cases hf : c.variants.find? fun w => w.runtimeClass = v.runtimeClass with
  | none => exact absurd (decide_eq_true rfl) (List.find?_eq_none.mp hf v hv)
  | some w =>
    have hw := List.mem_of_find?_eq_some hf
    have hclass := List.find?_some hf
    exact ⟨w, hw, (branchFor_eq hvs hv).trans hf, of_decide_eq_true hclass, rfl,
      checksFor_singleton hd hw⟩

/-- Union with classes on both sides of every order, the higher ones first. -/
def everyOrder : UnionType :=
  { name := "value"
    types := ["string", "long", "date-iso8601", "color", "boolean", "integer", "date-time-iso8601"] }

/-- Service with the union and its enum. -/
def everyOrderService : Service :=
  { name := "api", enums := [{ name := "color" }], unions := [everyOrder] }

/-- Enums are tested first, then the classes below others, then the rest: a truth value is none of the
    integers, and these are written as `long`, whose key is the one that is read. -/
theorem ofUnion_dispatches_everyOrder : ∃ r c,
    Registry.ofService everyOrderService Dialect.aiohttp = .ok r ∧ ofUnion r everyOrder = .ok c ∧
    c.writeOrder.map (·.runtimeClass) =
      ["Color", "bool", "datetime.datetime", "str", "int", "datetime.date", "int"] ∧
    c.branchFor r "int" = c.variants[1]? ∧ Dispatches r everyOrder c ∧
    CodecCode.run (CodecCode.classTest? (r.isSubclass "bool")) (fun _ => true) .running
      (CodecCode.codeLines (c.writer r)) =
        some (.returns "\x7b\"boolean\": _write_value_boolean(obj)\x7d") ∧
    CodecCode.run (CodecCode.classTest? (r.isSubclass "int")) (fun _ => true) .running
      (CodecCode.codeLines (c.writer r)) =
        some (.returns "\x7b\"long\": _write_value_long(obj)\x7d") ∧
    CodecCode.run (CodecCode.keyTest? ["long"]) (fun _ => true) .running
      (CodecCode.codeLines (c.reader r)) =
        some (.returns "_read_value_long(data[\"long\"])") := by
  obtain ⟨r, hr⟩ : ∃ r, Registry.ofService everyOrderService Dialect.aiohttp = .ok r := ⟨_, rfl⟩
  obtain ⟨c, hc⟩ : ∃ c, ofUnion r everyOrder = .ok c := by
    cases hr
    exact ⟨_, rfl⟩
  have hdispatches := ofUnion_dispatches hc
  obtain ⟨_, hreads⟩ := hdispatches.reads
  obtain ⟨_, hwrites⟩ := hdispatches.writes
  refine ⟨r, c, hr, hc, ?_⟩
  cases hr
  cases hc
  exact ⟨rfl, rfl, hdispatches, hwrites "bool", hwrites "int", hreads ["long"] fun _ => true⟩

end UnionCodec

end ClientGen
