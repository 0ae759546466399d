/-!
# Tables and stable order

Tables are lists of entries in the order in which their keys were first put; putting a
key again changes its value in place. Sorting is by insertion and stable: elements that
rank equal keep their order. The main statements:

* `get?_put_self`, `get?_put_of_ne`, `names_put`: what putting changes and what it leaves;
* `ofEntries_of_nodup`, `length_ofEntries_eq_iff`: nothing is lost where no name is repeated, and
  only there;
* `sortBy_perm`, `pairwise_sortBy_key`, `filter_sortBy`: sorting loses nothing, gives an ordered
  list and is stable; so `sortBy_eq_of_filter`: it forgets how elements of different keys stood;
* `repeated?_eq_none_iff`: the test for repetition finds nothing exactly in lists without any.
-/
namespace ClientGen

/-! ## 1. Tables -/

/-- Entries by name, in the order in which the names were first put. -/
abbrev Table (α : Type) := List (String × α)

namespace Table

/-- Value under a name. -/
def get? (t : Table α) (name : String) : Option α := t.lookup name

/-- Table with a name's value set: in place when the name is there, else at the end. -/
def put (t : Table α) (name : String) (a : α) : Table α :=
  match t with
  | [] => [(name, a)]
  | (k, b) :: rest => if k = name then (name, a) :: rest else (k, b) :: put rest name a

/-- Table of entries put one after another. -/
def ofEntries (entries : List (String × α)) : Table α :=
  entries.foldl (fun t e => put t e.1 e.2) []

/-- Names in order. -/
def names (t : Table α) : List String := t.map Prod.fst

/-- Values in order. -/
def values (t : Table α) : List α := t.map Prod.snd

/-- The name put has the value put. -/
theorem get?_put_self (t : Table α) (name : String) (a : α) :
    get? (put t name a) name = some a := by
  induction t with
  | nil => simp only [get?, put, List.lookup_cons_self]
  | cons e t ih =>
    obtain ⟨k, b⟩ := e
    by_cases h : k = name
    · simp only [get?, put, h, if_pos, List.lookup_cons_self]
    · have h' : (name == k) = false := beq_false_of_ne (Ne.symm h)
      simp only [get?, put, if_neg h, List.lookup_cons, h'] at ih ⊢
      exact ih

/-- A name has no value exactly when it was never put. -/
theorem get?_eq_none_iff {t : Table α} {name : String} :
    get? t name = none ↔ name ∉ names t := by
  induction t with
  | nil => simp [get?, names]
  | cons e t ih =>
    obtain ⟨k, b⟩ := e
    by_cases h : name = k
    · simp [get?, names, h]
    · have h' : (name == k) = false := beq_false_of_ne h
      simp only [get?, names, List.lookup_cons, h', List.map_cons, List.mem_cons, h,
        false_or] at ih ⊢
      exact ih

/-- The first name is that of the first entry. -/
theorem names_cons (k : String) (a : α) (t : Table α) : names ((k, a) :: t) = k :: names t := rfl

/-- A name already there keeps its place; a new one goes to the end. -/
theorem names_put (t : Table α) (name : String) (a : α) :
    names (put t name a) = if name ∈ names t then names t else names t ++ [name] := by
  induction t with
  | nil => rfl
  | cons e t ih =>
    obtain ⟨k, b⟩ := e
    by_cases h : k = name
    · subst h
      rw [put, if_pos rfl, names_cons, names_cons, if_pos List.mem_cons_self]
    · rw [put, if_neg h, names_cons, names_cons, ih]
      by_cases hm : name ∈ names t
      · rw [if_pos hm, if_pos (List.mem_cons_of_mem _ hm)]
      · have hn : name ∉ k :: names t := by simp [Ne.symm h, hm]
        rw [if_neg hm, if_neg hn, List.cons_append]

/-- A new name goes to the end. -/
theorem put_of_not_mem {t : Table α} {name : String} (a : α) (h : name ∉ names t) :
    put t name a = t ++ [(name, a)] := by
  induction t with
  | nil => rfl
  | cons e t ih =>
    obtain ⟨k, b⟩ := e
    rw [names_cons, List.mem_cons, not_or] at h
    rw [put, if_neg (Ne.symm h.1), ih h.2, List.cons_append]

/-- Entries under new names stand at the end as they are. -/
theorem foldl_put_of_nodup {t entries : Table α} (h : (names (t ++ entries)).Nodup) :
    entries.foldl (fun t e => put t e.1 e.2) t = t ++ entries := by
  induction entries generalizing t with
  | nil => exact (List.append_nil t).symm
  | cons e entries ih =>
    have hs : t ++ e :: entries = t ++ [e] ++ entries := List.append_cons t e entries
    have hn : e.1 ∉ names t := by
      rw [names, List.map_append, List.map_cons, List.nodup_append] at h
      exact fun hm => h.2.2 _ hm _ List.mem_cons_self rfl
    rw [List.foldl_cons, put_of_not_mem e.2 hn, hs]
    exact ih (hs ▸ h)

/-- No entry is lost where no name is repeated. -/
theorem ofEntries_of_nodup {entries : Table α} (h : (names entries).Nodup) :
    ofEntries entries = entries :=
  foldl_put_of_nodup h

/-- Only a new name makes a table longer. -/
theorem length_put (t : Table α) (name : String) (a : α) :
    (put t name a).length = if name ∈ names t then t.length else t.length + 1 := by
  have h := congrArg List.length (names_put t name a)
  rw [names, List.length_map] at h
  rw [h]
  split
  · exact List.length_map _
  · rw [List.length_append, names, List.length_map, List.length_singleton]

theorem length_foldl_put_le (t entries : Table α) :
    (entries.foldl (fun t e => put t e.1 e.2) t).length ≤ t.length + entries.length := by
  induction entries generalizing t with
  | nil => exact Nat.le_refl _
  | cons e entries ih =>
    have hput : (put t e.1 e.2).length ≤ t.length + 1 := by
      rw [length_put]
      split <;> omega
    have hrest := ih (put t e.1 e.2)
    rw [List.foldl_cons, List.length_cons]
    omega

/-- Every entry makes a table longer exactly where each name is new. -/
theorem length_foldl_put_eq_iff {t : Table α} (ht : (names t).Nodup) (entries : Table α) :
    (entries.foldl (fun t e => put t e.1 e.2) t).length = t.length + entries.length ↔
      (names (t ++ entries)).Nodup := by
  constructor
  · intro h
    induction entries generalizing t with
    | nil => rwa [List.append_nil]
    | cons e entries ih =>
      rw [List.foldl_cons, List.length_cons] at h
      by_cases hm : e.1 ∈ names t
      · have hle := length_foldl_put_le (put t e.1 e.2) entries
        rw [length_put, if_pos hm] at hle
        omega
      · have hsnoc : (names (t ++ [e])).Nodup := by
          rw [names, List.map_append, List.map_singleton]
          exact List.nodup_append.mpr ⟨ht, by simp, fun k hk l hl => by
            rintro rfl
            exact hm (List.mem_singleton.mp hl ▸ hk)⟩
        rw [put_of_not_mem e.2 hm] at h
        rw [List.append_cons]
        refine ih hsnoc ?_
        rw [h, List.length_append, List.length_singleton]
        omega
  · intro h
    rw [foldl_put_of_nodup h, List.length_append]

/-- No entry is lost only where no name is repeated. -/
theorem length_ofEntries_eq_iff (entries : Table α) :
    (ofEntries entries).length = entries.length ↔ (names entries).Nodup := by
  have h := length_foldl_put_eq_iff (t := []) List.nodup_nil entries
  rwa [List.length_nil, Nat.zero_add, List.nil_append] at h

/-- Values can be changed before they are put or afterwards. -/
theorem ofEntries_map {β : Type} (f : α → β) (entries : Table α) :
    ofEntries (entries.map fun e => (e.1, f e.2)) = (ofEntries entries).map fun e => (e.1, f e.2) := by
  have hput : ∀ (t : Table α) name a, put (t.map fun e => (e.1, f e.2)) name (f a) =
      (put t name a).map fun e => (e.1, f e.2) := by
    intro t name a
    induction t with
    | nil => rfl
    | cons e t ih =>
      rw [List.map_cons, put, put, ih]
      split <;> rfl
  have hfold : ∀ t : Table α, (entries.map fun e => (e.1, f e.2)).foldl (fun t e => put t e.1 e.2)
      (t.map fun e => (e.1, f e.2)) =
        (entries.foldl (fun t e => put t e.1 e.2) t).map fun e => (e.1, f e.2) := by
    induction entries with
    | nil => exact fun t => rfl
    | cons e entries ih =>
      intro t
      rw [List.map_cons, List.foldl_cons, hput, ih]
      rfl
  exact hfold []

/-- An entry of a table after putting was there or was put. -/
theorem mem_put {t : Table α} {name : String} {a : α} {e : String × α} (h : e ∈ put t name a) :
    e ∈ t ∨ e = (name, a) := by
  induction t with
  | nil => exact Or.inr (List.mem_singleton.mp h)
  | cons d t ih =>
    obtain ⟨k, b⟩ := d
    unfold put at h
    split at h
    · rcases List.mem_cons.mp h with rfl | h
      · exact Or.inr rfl
      · exact Or.inl (List.mem_cons_of_mem _ h)
    · rcases List.mem_cons.mp h with rfl | h
      · exact Or.inl List.mem_cons_self
      · exact (ih h).imp (List.mem_cons_of_mem _) id

theorem mem_foldl_put {t entries : Table α} {e : String × α}
    (h : e ∈ entries.foldl (fun t e => put t e.1 e.2) t) : e ∈ t ∨ e ∈ entries := by
  induction entries generalizing t with
  | nil => exact Or.inl h
  | cons d entries ih =>
    rcases ih h with h | h
    · rcases mem_put h with h | rfl
      · exact Or.inl h
      · exact Or.inr List.mem_cons_self
    · exact Or.inr (List.mem_cons_of_mem d h)

theorem get?_of_mem {t : Table α} (h : (names t).Nodup) {name : String} {a : α}
    (hm : (name, a) ∈ t) : get? t name = some a := by
  induction t with
  | nil => exact absurd hm List.not_mem_nil
  | cons e t ih =>
    rw [names, List.map_cons, List.nodup_cons] at h
    rcases List.mem_cons.mp hm with rfl | hm
    · exact List.lookup_cons_self
    · have hne : (name == e.1) = false :=
        beq_false_of_ne fun he => h.1 (he ▸ List.mem_map_of_mem hm)
      rw [get?, List.lookup_cons, hne]
      exact ih h.2 hm

theorem mem_of_get? {t : Table α} {name : String} {a : α} (h : get? t name = some a) :
    (name, a) ∈ t := by
  obtain ⟨before, after, rfl, _⟩ := List.lookup_eq_some_iff.mp h
  exact List.mem_append_right before List.mem_cons_self

/-- A look-up does not depend on where the entries stand, as long as no name is repeated. -/
theorem get?_of_perm {t u : Table α} (h : u.Perm t) (hd : (names t).Nodup) (name : String) :
    get? u name = get? t name := by
  have hu : (names u).Nodup := (h.map Prod.fst).nodup_iff.mpr hd
  refine Option.ext fun a => ⟨fun ha => ?_, fun ha => ?_⟩
  · exact get?_of_mem hd (h.mem_iff.mp (mem_of_get? ha))
  · exact get?_of_mem hu (h.mem_iff.mpr (mem_of_get? ha))

end Table

/-! ## 2. Stable order -/

/-- List with an element inserted before the first that it may precede. -/
def insertBy (le : α → α → Bool) (a : α) : List α → List α
  | [] => [a]
  | b :: bs => if le a b then a :: b :: bs else b :: insertBy le a bs

/-- List in order; elements that may precede each other keep their order. -/
def sortBy (le : α → α → Bool) : List α → List α
  | [] => []
  | a :: as => insertBy le a (sortBy le as)

/-- Insertion adds the element and nothing else. -/
theorem insertBy_perm (le : α → α → Bool) (a : α) (bs : List α) :
    (insertBy le a bs).Perm (a :: bs) := by
  induction bs with
  | nil => exact .refl _
  | cons b bs ih =>
    unfold insertBy
    split
    · exact .refl _
    · exact (ih.cons b).trans (.swap a b bs)

/-- Sorting keeps every element as often as it was there. -/
theorem sortBy_perm (le : α → α → Bool) (as : List α) : (sortBy le as).Perm as := by
  induction as with
  | nil => exact .refl _
  | cons a as ih => exact (insertBy_perm le a _).trans (ih.cons a)

/-- Insertion keeps a list in order. -/
theorem pairwise_insertBy {le : α → α → Bool} (total : ∀ a b, le a b = true ∨ le b a = true)
    (trans : ∀ {a b c}, le a b = true → le b c = true → le a c = true) (a : α) {bs : List α}
    (h : bs.Pairwise (le · · = true)) : (insertBy le a bs).Pairwise (le · · = true) := by
  induction bs with
  | nil => exact List.pairwise_singleton _ a
  | cons b bs ih =>
    obtain ⟨hb, hbs⟩ := List.pairwise_cons.mp h
    unfold insertBy
    by_cases hab : le a b = true
    · rw [if_pos hab]
      refine List.pairwise_cons.mpr ⟨fun c hc => ?_, h⟩
      rcases List.mem_cons.mp hc with rfl | hc
      · exact hab
      · exact trans hab (hb c hc)
    · rw [if_neg hab]
      refine List.pairwise_cons.mpr ⟨fun c hc => ?_, ih hbs⟩
      rcases List.mem_cons.mp ((insertBy_perm le a bs).mem_iff.mp hc) with rfl | hc
      · exact (total c b).resolve_left hab
      · exact hb c hc

/-- Sorting puts a list in order. -/
theorem pairwise_sortBy {le : α → α → Bool} (total : ∀ a b, le a b = true ∨ le b a = true)
    (trans : ∀ {a b c}, le a b = true → le b c = true → le a c = true) (as : List α) :
    (sortBy le as).Pairwise (le · · = true) := by
  induction as with
  | nil => exact List.Pairwise.nil
  | cons a as ih => exact pairwise_insertBy total trans a ih

/-- Sorting by a key puts a list in the order of the keys. -/
theorem pairwise_sortBy_key {κ : Type} [LE κ] {key : α → κ} {le : α → α → Bool}
    (le_iff : ∀ a b, le a b = true ↔ key a ≤ key b) (total : ∀ k l : κ, k ≤ l ∨ l ≤ k)
    (trans : ∀ {k l m : κ}, k ≤ l → l ≤ m → k ≤ m) (as : List α) :
    (sortBy le as).Pairwise fun a b => key a ≤ key b := by
  refine (pairwise_sortBy (fun a b => ?_) (fun hab hbc => ?_) as).imp (le_iff _ _).mp
  · exact (total (key a) (key b)).imp (le_iff _ _).mpr (le_iff _ _).mpr
  · exact (le_iff _ _).mpr (trans ((le_iff _ _).mp hab) ((le_iff _ _).mp hbc))

/-- Insertion puts an element before those that rank equal to it. -/
theorem filter_insertBy {le : α → α → Bool} {p : α → Bool} (a : α) {bs : List α}
    (equal : ∀ b ∈ bs, p a = true → p b = true → le a b = true) :
    (insertBy le a bs).filter p = (a :: bs).filter p := by
  induction bs with
  | nil => rfl
  | cons b bs ih =>
    unfold insertBy
    by_cases hab : le a b = true
    · rw [if_pos hab]
    · rw [if_neg hab, List.filter_cons, ih fun c hc => equal c (List.mem_cons_of_mem b hc)]
      by_cases ha : p a = true
      · have hb : ¬ p b = true := fun hb => hab (equal b List.mem_cons_self ha hb)
        rw [if_neg hb, List.filter_cons_of_pos ha, List.filter_cons_of_pos ha,
          List.filter_cons_of_neg hb]
      · rw [List.filter_cons_of_neg ha, List.filter_cons_of_neg ha, List.filter_cons]

/-- Sorting is stable: elements that rank equal keep their order. -/
theorem filter_sortBy {le : α → α → Bool} {p : α → Bool} {as : List α}
    (equal : ∀ a ∈ as, ∀ b ∈ as, p a = true → p b = true → le a b = true) :
    (sortBy le as).filter p = as.filter p := by
  induction as with
  | nil => rfl
  | cons a as ih =>
    have hrest := ih fun b hb c hc =>
      equal b (List.mem_cons_of_mem a hb) c (List.mem_cons_of_mem a hc)
    have hhead : ∀ b ∈ sortBy le as, p a = true → p b = true → le a b = true := fun b hb =>
      equal a List.mem_cons_self b (List.mem_cons_of_mem a ((sortBy_perm le as).mem_iff.mp hb))
    rw [sortBy, filter_insertBy a hhead, List.filter_cons, hrest, List.filter_cons]

theorem mem_of_filter_eq {κ : Type} [DecidableEq κ] {key : α → κ} {as bs : List α}
    (h : ∀ k, as.filter (key · = k) = bs.filter (key · = k)) {a : α} (ha : a ∈ as) : a ∈ bs :=
  (List.mem_filter.mp (h (key a) ▸ List.mem_filter.mpr ⟨ha, decide_eq_true rfl⟩)).1

/-- Lists in the order of their keys are the same where the elements of each key are. -/
theorem eq_of_pairwise_of_filter {κ : Type} [LE κ] [DecidableEq κ] {key : α → κ}
    (antisymm : ∀ {k l : κ}, k ≤ l → l ≤ k → k = l) {as bs : List α}
    (ha : as.Pairwise fun a b => key a ≤ key b) (hb : bs.Pairwise fun a b => key a ≤ key b)
    (h : ∀ k, as.filter (key · = k) = bs.filter (key · = k)) : as = bs := by
  induction as generalizing bs with
  | nil =>
    cases bs with
    | nil => rfl
    | cons b bs =>
      exact absurd (mem_of_filter_eq (fun k => (h k).symm) List.mem_cons_self) List.not_mem_nil
  | cons a as ih =>
    cases bs with
    | nil => exact absurd (mem_of_filter_eq h List.mem_cons_self) List.not_mem_nil
    | cons b bs =>
      -- each head stands in the other list, behind or at its head
      have hkey : key a = key b := by
        rcases List.mem_cons.mp (mem_of_filter_eq h List.mem_cons_self) with rfl | hm
        · rfl
        rcases List.mem_cons.mp (mem_of_filter_eq (fun k => (h k).symm) List.mem_cons_self) with
          rfl | hn
        · rfl
        · exact antisymm (List.rel_of_pairwise_cons ha hn) (List.rel_of_pairwise_cons hb hm)
      have hhead := h (key a)
      rw [List.filter_cons, if_pos (decide_eq_true rfl), List.filter_cons,
        if_pos (decide_eq_true hkey.symm)] at hhead
      obtain ⟨rfl, htail⟩ := List.cons.inj hhead
      have hrest : ∀ k, as.filter (key · = k) = bs.filter (key · = k) := by
        intro k
        by_cases hk : key a = k
        · exact hk ▸ htail
        · have hk' := h k
          rwa [List.filter_cons, if_neg (by simpa using hk), List.filter_cons,
            if_neg (by simpa using hk)] at hk'
      rw [ih ha.of_cons hb.of_cons hrest]

/-- **Sorting by a key forgets the order of elements with different keys**: lists with the same
    elements of each key, in the same order, are sorted alike. -/
theorem sortBy_eq_of_filter {κ : Type} [LE κ] [DecidableEq κ] (key : α → κ) {le : α → α → Bool}
    (le_iff : ∀ a b, le a b = true ↔ key a ≤ key b) (total : ∀ k l : κ, k ≤ l ∨ l ≤ k)
    (trans : ∀ {k l m : κ}, k ≤ l → l ≤ m → k ≤ m) (antisymm : ∀ {k l : κ}, k ≤ l → l ≤ k → k = l)
    {as bs : List α} (h : ∀ k, as.filter (key · = k) = bs.filter (key · = k)) :
    sortBy le as = sortBy le bs := by
  have keeps : ∀ (cs : List α) (k : κ),
      (sortBy le cs).filter (key · = k) = cs.filter (key · = k) := fun cs k => by
    refine filter_sortBy fun a _ b _ ha hb => (le_iff a b).mpr ?_
    rw [of_decide_eq_true ha, of_decide_eq_true hb]
    exact (total k k).elim id id
  refine eq_of_pairwise_of_filter antisymm (pairwise_sortBy_key le_iff total trans as)
    (pairwise_sortBy_key le_iff total trans bs) fun k => ?_
  rw [keeps, keeps, h]

/-! ## 3. Repetition -/

/-- First name that occurs among those before it; `seen` holds the ones passed. -/
def repeatedAfter (seen : List String) : List String → Option String
  | [] => none
  | s :: rest => if seen.contains s then some s else repeatedAfter (s :: seen) rest

/-- First name that occurs a second time. -/
def repeated? (names : List String) : Option String := repeatedAfter [] names

/-- No element found again is among those passed or repeated in the rest. -/
theorem repeatedAfter_eq_none_iff {seen names : List String} :
    repeatedAfter seen names = none ↔ (∀ s ∈ names, s ∉ seen) ∧ names.Nodup := by
  induction names generalizing seen with
  | nil => simp [repeatedAfter]
  | cons s rest ih =>
    unfold repeatedAfter
    by_cases h : s ∈ seen
    · simp [h]
    · rw [if_neg (by simpa using h), ih, List.nodup_cons]
      constructor
      · rintro ⟨fresh, nodup⟩
        refine ⟨fun t ht => ?_, fun hs => fresh s hs List.mem_cons_self, nodup⟩
        rcases List.mem_cons.mp ht with rfl | ht
        · exact h
        · exact fun hm => fresh t ht (List.mem_cons_of_mem _ hm)
      · rintro ⟨fresh, hs, nodup⟩
        refine ⟨fun t ht hm => ?_, nodup⟩
        rcases List.mem_cons.mp hm with rfl | hm
        · exact hs ht
        · exact fresh t (List.mem_cons_of_mem _ ht) hm

/-- Nothing occurs a second time exactly when the names are pairwise distinct. -/
theorem repeated?_eq_none_iff {names : List String} : repeated? names = none ↔ names.Nodup := by
  simp [repeated?, repeatedAfter_eq_none_iff]

end ClientGen
