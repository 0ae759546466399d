import Mathlib.Data.List.Forall2
import Mathlib.Data.List.Nodup
import ClientGen.Service.Document

/-!
# Steps one after another

The library computes in steps that may stop: plain ones, ones that report warnings, and
ones that read a document. This file fixes what a run that succeeds says of its steps:

* `find?_of_forall₂`, `forall₂_comp_iff` and their like: what goes over between lists in step;
* `find?_of_nodup_map`, `find?_key_of_perm`: a first-match look-up finds every item whose key is its
  own, in whatever order the items stand;
* `bind_eq_ok`, `Traced.outcome_bind_eq_ok`, `Reading.bind_eq_ok`: a sequence gives a result
  exactly when both of its steps do;
* `mapM_eq_ok` and its like: a list is gone through exactly when every item is, each result in
  its item's place (`mapM_iff_forall₂`);
* `mapM_eq_error`: and is left at the first item that stops;
* `gather_eq_ok`: items are gone through under keys of their own exactly where no key comes twice;
* `collect_eq_ok`, `collect_eq_error`: items are collected under keys of their own, up to the first
  that cannot be;
* `Traced.warnings_bind`: warnings stand in the order of the steps that report them;
* `InStep`, `StopAlike`: two runs that stop with the same fault or give results that go together,
  step by step.
-/

namespace ClientGen

variable {ε ε' α β : Type}

/-! ## 1. Lists in step -/

/-- Lists in step have the same first element with a property that goes over. -/
theorem find?_of_forall₂ {R : α → β → Prop} {p : α → Bool} {q : β → Bool}
    {as : List α} {bs : List β} (h : List.Forall₂ R as bs) (hpq : ∀ a b, R a b → p a = q b) :
    Option.Rel R (as.find? p) (bs.find? q) := by
  induction h with
  | nil => exact .none
  | @cons a b as bs hab _ ih =>
    rw [List.find?_cons, List.find?_cons, hpq a b hab]
    cases q b with
    | true => exact .some hab
    | false => exact ih

theorem map_eq_of_forall₂ {γ : Type} {R : α → β → Prop} {f : α → γ} {g : β → γ}
    {as : List α} {bs : List β} (h : List.Forall₂ R as bs) (hfg : ∀ a b, R a b → f a = g b) :
    as.map f = bs.map g := by
  induction h with
  | nil => rfl
  | cons hab _ ih => rw [List.map_cons, List.map_cons, hfg _ _ hab, ih]

theorem flatMap_eq_of_forall₂ {γ : Type} {R : α → β → Prop} {f : α → List γ} {g : β → List γ}
    {as : List α} {bs : List β} (h : List.Forall₂ R as bs) (hfg : ∀ a b, R a b → f a = g b) :
    as.flatMap f = bs.flatMap g := by
  induction h with
  | nil => rfl
  | cons hab _ ih => rw [List.flatMap_cons, List.flatMap_cons, hfg _ _ hab, ih]

/-- Where a key is not repeated, an item is the first of its key. -/
theorem find?_of_nodup_map [DecidableEq β] {f : α → β} {as : List α} {a : α}
    (hd : (as.map f).Nodup) (h : a ∈ as) : as.find? (fun b => f b = f a) = some a := by
  cases hf : as.find? (fun b => f b = f a) with
  | none => exact absurd (decide_eq_true rfl) (List.find?_eq_none.mp hf a h)
  | some b =>
    have hb := List.find?_some hf
    rw [List.inj_on_of_nodup_map hd (List.mem_of_find?_eq_some hf) h (of_decide_eq_true hb)]

theorem find?_key_eq_none [DecidableEq β] {f : α → β} {as : List α} {b : β} :
    (as.find? fun a => f a = b) = none ↔ b ∉ as.map f := by
  rw [List.find?_eq_none, List.mem_map]
  constructor
  · rintro h ⟨a, ha, rfl⟩
    exact h a ha (decide_eq_true rfl)
  · exact fun h a ha hb => h ⟨a, ha, of_decide_eq_true hb⟩

/-- Where a key is not repeated, what is found by it does not depend on the order of the items. -/
theorem find?_key_of_perm [DecidableEq β] {f : α → β} {as bs : List α} (h : bs.Perm as)
    (hd : (as.map f).Nodup) (b : β) : bs.find? (fun a => f a = b) = as.find? fun a => f a = b := by
  cases hf : as.find? fun a => f a = b with
  | none => exact find?_key_eq_none.mpr fun hb => find?_key_eq_none.mp hf ((h.map f).mem_iff.mp hb)
  | some a =>
    have hb : f a = b := by simpa using List.find?_some hf
    subst hb
    exact find?_of_nodup_map ((h.map f).nodup_iff.mpr hd)
      (h.mem_iff.mpr (List.mem_of_find?_eq_some hf))

theorem nodup_map_snoc {f : α → β} {as : List α} {a : α} :
    ((as ++ [a]).map f).Nodup ↔ (as.map f).Nodup ∧ f a ∉ as.map f := by
  rw [List.map_append, List.perm_append_comm.nodup_iff, List.map_singleton, List.singleton_append,
    List.nodup_cons]
  exact And.comm

/-- Where every item has something that goes with it, the list has a list in step. -/
theorem exists_forall₂ {R : α → β → Prop} {as : List α}
    (h : ∀ a ∈ as, ∃ b, R a b) : ∃ bs, List.Forall₂ R as bs := by
  induction as with
  | nil => exact ⟨[], .nil⟩
  | cons a as ih =>
    obtain ⟨b, hb⟩ := h a List.mem_cons_self
    obtain ⟨bs, hbs⟩ := ih fun a' ha' => h a' (List.mem_cons_of_mem _ ha')
    exact ⟨b :: bs, .cons hb hbs⟩

/-- Items of lists in step go with items of the other list. -/
theorem exists_left_of_forall₂ {R : α → β → Prop} {as : List α} {bs : List β}
    (h : List.Forall₂ R as bs) {b : β} (hb : b ∈ bs) : ∃ a ∈ as, R a b := by
  induction h with
  | nil => exact absurd hb List.not_mem_nil
  | cons hab _ ih =>
    rcases List.mem_cons.mp hb with rfl | hb
    · exact ⟨_, List.mem_cons_self, hab⟩
    · obtain ⟨a, ha, hr⟩ := ih hb
      exact ⟨a, List.mem_cons_of_mem _ ha, hr⟩

theorem exists_right_of_forall₂ {R : α → β → Prop} {as : List α} {bs : List β}
    (h : List.Forall₂ R as bs) {a : α} (ha : a ∈ as) : ∃ b ∈ bs, R a b :=
  exists_left_of_forall₂ h.flip ha

/-- Where one of two lists in step is cut, so is the other. -/
theorem exists_split_of_forall₂ {R : α → β → Prop} {as : List α} {first rest : List β} {b : β}
    (h : List.Forall₂ R as (first ++ b :: rest)) :
    ∃ before a after, as = before ++ a :: after ∧ List.Forall₂ R before first ∧ R a b := by
  have hfirst := List.forall₂_take_append as first (b :: rest) h
  obtain ⟨a, after, hab, _, has⟩ :=
    List.forall₂_cons_right_iff.mp (List.forall₂_drop_append as first (b :: rest) h)
  exact ⟨_, a, after, by rw [← has, List.take_append_drop], hfirst, hab⟩

/-- What is kept of lists in step is in step, where the same is kept. -/
theorem forall₂_filter {R : α → β → Prop} {p : α → Bool} {q : β → Bool} {as : List α} {bs : List β}
    (h : List.Forall₂ R as bs) (hpq : ∀ a b, R a b → p a = q b) :
    List.Forall₂ (fun a b => R a b ∧ p a = true) (as.filter p) (bs.filter q) := by
  induction h with
  | nil => exact .nil
  | @cons a b as bs hab _ ih =>
    rw [List.filter_cons, List.filter_cons, ← hpq a b hab]
    split
    · rename_i hp
      exact .cons ⟨hab, hp⟩ ih
    · exact ih

/-- Lists in step with one list are in step with each other over it. -/
theorem forall₂_comp_iff {γ : Type} {R : α → β → Prop} {S : β → γ → Prop} {as : List α}
    {cs : List γ} : List.Forall₂ (fun a c => ∃ b, R a b ∧ S b c) as cs ↔
      ∃ bs, List.Forall₂ R as bs ∧ List.Forall₂ S bs cs := by
  constructor
  · intro h
    induction h with
    | nil => exact ⟨[], .nil, .nil⟩
    | cons hac _ ih =>
      obtain ⟨b, hab, hbc⟩ := hac
      obtain ⟨bs, habs, hbcs⟩ := ih
      exact ⟨b :: bs, .cons hab habs, .cons hbc hbcs⟩
  · rintro ⟨bs, hab, hbc⟩
    induction hab generalizing cs with
    | nil =>
      cases hbc
      exact .nil
    | cons hab _ ih =>
      cases hbc with
      | cons hbc hbcs => exact .cons ⟨_, hab, hbc⟩ (ih hbcs)

theorem forall₂_zip_of_forall₂ {γ : Type} {R : α → β → Prop} {S : α → γ → Prop} {as : List α}
    {bs : List β} {cs : List γ} (hb : List.Forall₂ R as bs) (hc : List.Forall₂ S as cs) :
    List.Forall₂ (fun a p => R a p.1 ∧ S a p.2) as (bs.zip cs) := by
  induction hb generalizing cs with
  | nil => exact .nil
  | cons hab _ ih =>
    cases hc with
    | cons hac hacs => exact .cons ⟨hab, hac⟩ (ih hacs)

/-- **Going through a list**: whatever relation `ok` between computations and results follows
    sequences follows lists item by item. -/
theorem mapM_iff_forall₂ {m : Type → Type} [Monad m] [LawfulMonad m]
    (ok : {γ : Type} → m γ → γ → Prop)
    (ok_pure : ∀ {γ : Type} {a b : γ}, ok (pure a : m γ) b ↔ a = b)
    (ok_bind : ∀ {γ δ : Type} {x : m γ} {f : γ → m δ} {b : δ},
      ok (x >>= f) b ↔ ∃ a, ok x a ∧ ok (f a) b)
    {f : α → m β} {xs : List α} {ys : List β} :
    ok (xs.mapM f) ys ↔ List.Forall₂ (fun x y => ok (f x) y) xs ys := by
  induction xs generalizing ys with
  | nil =>
    rw [List.mapM_nil, ok_pure]
    exact ⟨fun e => e ▸ .nil, fun h => by cases h; rfl⟩
  | cons x xs ih =>
    rw [List.mapM_cons, ok_bind]
    constructor
    · rintro ⟨y, hy, h⟩
      obtain ⟨ys', hys, e⟩ := ok_bind.mp h
      rw [ok_pure] at e
      subst e
      exact .cons hy (ih.mp hys)
    · intro h
      cases h with
      | cons hy hys => exact ⟨_, hy, ok_bind.mpr ⟨_, ih.mpr hys, ok_pure.mpr rfl⟩⟩

/-! ## 2. Plain steps -/

theorem pure_eq_ok {a b : α} : (pure a : Except ε α) = .ok b ↔ a = b := by
  simp [pure, Except.pure]

theorem bind_eq_ok {x : Except ε α} {f : α → Except ε β} {b : β} :
    (x >>= f) = .ok b ↔ ∃ a, x = .ok a ∧ f a = .ok b := by
  cases x <;> simp [bind, Except.bind]

theorem bind_eq_error {x : Except ε α} {f : α → Except ε β} {e : ε} :
    (x >>= f) = .error e ↔ x = .error e ∨ ∃ a, x = .ok a ∧ f a = .error e := by
  cases x <;> simp [bind, Except.bind]

theorem exists_error_iff_not_exists_ok {x : Except ε α} :
    (∃ e, x = .error e) ↔ ¬ ∃ a, x = .ok a := by
  cases x <;> simp

/-- There is a result where there is what it is made of. -/
theorem exists_ok_iff {x : Except ε α} {P : β → Prop} {f : β → α}
    (h : ∀ {a}, x = .ok a ↔ ∃ b, P b ∧ a = f b) : (∃ a, x = .ok a) ↔ ∃ b, P b :=
  ⟨fun ⟨_, ha⟩ => (h.mp ha).imp fun _ hb => hb.1, fun ⟨b, hb⟩ => ⟨f b, h.mpr ⟨b, hb, rfl⟩⟩⟩

theorem map_eq_ok {x : Except ε α} {f : α → β} {b : β} :
    x.map f = .ok b ↔ ∃ a, x = .ok a ∧ f a = b := by
  cases x <;> simp [Except.map]

theorem map_eq_error {x : Except ε α} {f : α → β} {e : ε} : x.map f = .error e ↔ x = .error e := by
  cases x <;> simp [Except.map]

theorem mapError_eq_ok {x : Except ε α} {f : ε → ε'} {a : α} :
    x.mapError f = .ok a ↔ x = .ok a := by
  cases x <;> simp [Except.mapError]

theorem mapError_eq_error {x : Except ε α} {f : ε → ε'} {e' : ε'} :
    x.mapError f = .error e' ↔ ∃ e, x = .error e ∧ f e = e' := by
  cases x <;> simp [Except.mapError]

theorem mapM_eq_ok {f : α → Except ε β} {xs : List α} {ys : List β} :
    xs.mapM f = .ok ys ↔ List.Forall₂ (fun x y => f x = .ok y) xs ys :=
  mapM_iff_forall₂ (fun {γ} (x : Except ε γ) a => x = .ok a) pure_eq_ok bind_eq_ok

/-- What holds of the faults of each step holds of the faults of a sequence. -/
theorem forall_error_bind {P : ε → Prop} {x : Except ε α} {f : α → Except ε β}
    (hx : ∀ e, x = .error e → P e) (hf : ∀ a e, f a = .error e → P e) :
    ∀ e, (x >>= f) = .error e → P e := by
  intro e he
  rcases bind_eq_error.mp he with he | ⟨a, _, he⟩
  · exact hx e he
  · exact hf a e he

theorem forall_error_mapM {P : ε → Prop} {f : α → Except ε β} (hf : ∀ a e, f a = .error e → P e)
    (xs : List α) : ∀ e, xs.mapM f = .error e → P e := by
  induction xs with
  | nil =>
    intro e he
    cases he
  | cons x xs ih =>
    rw [List.mapM_cons]
    refine forall_error_bind (hf x) fun y => forall_error_bind ih fun ys e he => ?_
    cases he

/-- **A list is gone through up to its first item that stops.** -/
theorem mapM_eq_error {f : α → Except ε β} {xs : List α} {e : ε} :
    xs.mapM f = .error e ↔ ∃ before x after ys, xs = before ++ x :: after ∧
      List.Forall₂ (fun x y => f x = .ok y) before ys ∧ f x = .error e := by
  induction xs with
  | nil =>
    refine iff_of_false (fun h => ?_) fun ⟨before, x, after, ys, hxs, _⟩ => ?_
    · cases h
    · exact List.append_ne_nil_of_right_ne_nil _ (List.cons_ne_nil _ _) hxs.symm
  | cons x xs ih =>
    rw [List.mapM_cons, bind_eq_error]
    constructor
    · rintro (h | ⟨y, hy, h⟩)
      · exact ⟨[], x, xs, [], rfl, .nil, h⟩
      · obtain ⟨before, x', after, ys, rfl, hys, h⟩ := ih.mp <| by
          rcases bind_eq_error.mp h with h | ⟨_, _, h⟩
          · exact h
          · cases h
        exact ⟨x :: before, x', after, y :: ys, rfl, .cons hy hys, h⟩
    · rintro ⟨before, x', after, ys, hxs, hys, h⟩
      cases hys with
      | nil =>
        obtain ⟨rfl, rfl⟩ := List.cons.inj hxs
        exact .inl h
      | cons hy hys =>
        obtain ⟨rfl, rfl⟩ := List.cons.inj hxs
        exact .inr ⟨_, hy, bind_eq_error.mpr (.inl (ih.mpr ⟨_, x', after, _, rfl, hys, h⟩))⟩

/-- What is made of each result can be made of all of them at the end. -/
theorem mapM_map {γ : Type} (f : α → Except ε β) (g : β → γ) (xs : List α) :
    (xs.mapM fun x => (f x).map g) = (xs.mapM f).map (List.map g) := by
  induction xs with
  | nil => rfl
  | cons x xs ih =>
    rw [List.mapM_cons, List.mapM_cons, ih]
    cases f x with
    | error e => rfl
    | ok y => cases xs.mapM f <;> rfl

/-- **Collecting items under keys of their own**: a pass that goes on from an input to the next
    exactly where some item goes with the input and none before has its key gives one item for
    each input, in order and with distinct keys. -/
theorem collect_eq_ok {γ : Type} [DecidableEq γ] {collect : List β → List α → Except ε (List β)}
    {Makes : α → β → Prop} {key : β → γ}
    (collect_nil : ∀ before, collect before [] = .ok before)
    (collect_cons : ∀ before x xs ys, collect before (x :: xs) = .ok ys ↔ ∃ y, Makes x y ∧
      (before.find? fun z => key z = key y) = none ∧ collect (before ++ [y]) xs = .ok ys)
    {before ys : List β} {xs : List α} (hb : (before.map key).Nodup) :
    collect before xs = .ok ys ↔
      ∃ new, ys = before ++ new ∧ List.Forall₂ Makes xs new ∧ (ys.map key).Nodup := by
  induction xs generalizing before ys with
  | nil =>
    rw [collect_nil]
    constructor
    · intro h
      cases h
      exact ⟨[], (List.append_nil before).symm, .nil, hb⟩
    · rintro ⟨new, rfl, hnew, _⟩
      cases hnew
      rw [List.append_nil]
  | cons x xs ih =>
    rw [collect_cons]
    constructor
    · rintro ⟨y, hy, hf, h⟩
      have hb' := nodup_map_snoc.mpr ⟨hb, find?_key_eq_none.mp hf⟩
      obtain ⟨new, rfl, hnew, hd⟩ := (ih hb').mp h
      exact ⟨y :: new, (List.append_cons before y new).symm, .cons hy hnew, hd⟩
    · rintro ⟨new, rfl, hnew, hd⟩
      cases hnew with
      | @cons _ y _ new hy hnew =>
        rw [List.append_cons] at hd ⊢
        have hb' : ((before ++ [y]).map key).Nodup := by
          rw [List.map_append] at hd
          exact (List.nodup_append.mp hd).1
        exact ⟨y, hy, find?_key_eq_none.mpr (nodup_map_snoc.mp hb').2,
          (ih hb').mpr ⟨new, rfl, hnew, hd⟩⟩

/-- **Collecting stops at the first item that cannot be collected**: `Stops` says why, with what has
    been collected of the items before. -/
theorem collect_eq_error {γ : Type} [DecidableEq γ] {collect : List β → List α → Except ε (List β)}
    {Makes : α → β → Prop} {Stops : List β → α → ε → Prop} {key : β → γ}
    (collect_nil : ∀ before, collect before [] = .ok before)
    (collect_cons : ∀ before x xs e, collect before (x :: xs) = .error e ↔ Stops before x e ∨
      ∃ y, Makes x y ∧ (before.find? fun z => key z = key y) = none ∧
        collect (before ++ [y]) xs = .error e)
    {before : List β} {xs : List α} {e : ε} (hb : (before.map key).Nodup) :
    collect before xs = .error e ↔ ∃ first x after new, xs = first ++ x :: after ∧
      List.Forall₂ Makes first new ∧ ((before ++ new).map key).Nodup ∧ Stops (before ++ new) x e := by
  induction xs generalizing before with
  | nil =>
    refine iff_of_false (fun h => ?_) fun ⟨first, x, after, new, hxs, _⟩ => ?_
    · rw [collect_nil] at h
      cases h
    · exact List.append_ne_nil_of_right_ne_nil _ (List.cons_ne_nil _ _) hxs.symm
  | cons x xs ih =>
    rw [collect_cons]
    constructor
    · rintro (h | ⟨y, hy, hf, h⟩)
      · exact ⟨[], x, xs, [], rfl, .nil, by rwa [List.append_nil], by rwa [List.append_nil]⟩
      · have hb' := nodup_map_snoc.mpr ⟨hb, find?_key_eq_none.mp hf⟩
        obtain ⟨first, x', after, new, rfl, hnew, hd, h⟩ := (ih hb').mp h
        rw [← List.append_cons] at hd h
        exact ⟨x :: first, x', after, y :: new, rfl, .cons hy hnew, hd, h⟩
    · rintro ⟨first, x', after, new, hxs, hnew, hd, h⟩
      cases hnew with
      | nil =>
        obtain ⟨rfl, rfl⟩ := List.cons.inj hxs
        rw [List.append_nil] at h
        exact .inl h
      | @cons _ y _ new hy hnew =>
        obtain ⟨rfl, rfl⟩ := List.cons.inj hxs
        rw [List.append_cons] at hd h
        have hb' : ((before ++ [y]).map key).Nodup := by
          rw [List.map_append] at hd
          exact (List.nodup_append.mp hd).1
        exact .inr ⟨y, hy, find?_key_eq_none.mpr (nodup_map_snoc.mp hb').2,
          (ih hb').mpr ⟨_, x', after, new, rfl, hnew, hd, h⟩⟩

/-- **Going through items under keys of their own**: a pass that goes on exactly where an item is made
    something of and its key has not been seen makes something of each, in order, where all the keys
    are new and distinct. -/
theorem gather_eq_ok {γ : Type} (gather : List γ → List α → Except ε (List β))
    {Makes : α → β → Prop} {key : α → γ} (gather_nil : ∀ seen, gather seen [] = .ok [])
    (gather_cons : ∀ seen x xs ys, gather seen (x :: xs) = .ok ys ↔ key x ∉ seen ∧
      ∃ y, Makes x y ∧ ∃ rest, gather (key x :: seen) xs = .ok rest ∧ ys = y :: rest)
    {seen : List γ} {xs : List α} {ys : List β} : gather seen xs = .ok ys ↔
      List.Forall₂ Makes xs ys ∧ (xs.map key).Nodup ∧ ∀ x ∈ xs, key x ∉ seen := by
  induction xs generalizing seen ys with
  | nil =>
    rw [gather_nil]
    constructor
    · intro h
      cases h
      exact ⟨.nil, List.nodup_nil, fun _ hx => absurd hx List.not_mem_nil⟩
    · rintro ⟨h, _, _⟩
      cases h
      rfl
  | cons x xs ih =>
    rw [gather_cons, List.map_cons, List.nodup_cons]
    constructor
    · rintro ⟨hx, y, hy, rest, h, rfl⟩
      obtain ⟨hrest, hd, hnew⟩ := ih.mp h
      refine ⟨.cons hy hrest, ⟨fun hm => ?_, hd⟩, List.forall_mem_cons.mpr ⟨hx, fun x' hx' => ?_⟩⟩
      · obtain ⟨x', hx', he⟩ := List.mem_map.mp hm
        exact hnew x' hx' (he ▸ List.mem_cons_self)
      · exact fun hs => hnew x' hx' (List.mem_cons_of_mem _ hs)
    · rintro ⟨h, ⟨hx, hd⟩, hnew⟩
      obtain ⟨hxs, hnew⟩ := List.forall_mem_cons.mp hnew
      cases h with
      | cons hy hrest =>
        refine ⟨hxs, _, hy, _, ih.mpr ⟨hrest, hd, fun x' hx' hs => ?_⟩, rfl⟩
        rcases List.mem_cons.mp hs with he | hs
        · exact hx (he ▸ List.mem_map_of_mem hx')
        · exact hnew x' hx' hs

/-- Such a pass succeeds exactly where something can be made of every item and no key comes twice. -/
theorem exists_gather_iff {γ : Type} (gather : List γ → List α → Except ε (List β))
    {Makes : α → β → Prop} {key : α → γ} (h : ∀ seen xs ys, gather seen xs = .ok ys ↔
      List.Forall₂ Makes xs ys ∧ (xs.map key).Nodup ∧ ∀ x ∈ xs, key x ∉ seen) {xs : List α} :
    (∃ ys, gather [] xs = .ok ys) ↔ (∀ x ∈ xs, ∃ y, Makes x y) ∧ (xs.map key).Nodup := by
  simp only [h]
  constructor
  · rintro ⟨ys, hys, hd, _⟩
    refine ⟨fun x hx => ?_, hd⟩
    obtain ⟨y, _, hy⟩ := exists_right_of_forall₂ hys hx
    exact ⟨y, hy⟩
  · rintro ⟨hm, hd⟩
    obtain ⟨ys, hys⟩ := exists_forall₂ hm
    exact ⟨ys, hys, hd, fun _ _ => List.not_mem_nil⟩

/-! ## 3. Steps that report warnings -/

namespace Traced

theorem outcome_pure_eq_ok {a b : α} : (pure a : Traced ε α).outcome = .ok b ↔ a = b :=
  pure_eq_ok

/-- Warnings left aside, a sequence is one of plain steps. -/
theorem outcome_bind (x : Traced ε α) (f : α → Traced ε β) :
    (x >>= f).outcome = x.outcome >>= fun a => (f a).outcome := by
  obtain ⟨ws, x⟩ := x
  cases x <;> rfl

theorem outcome_bind_eq_ok {x : Traced ε α} {f : α → Traced ε β} {b : β} :
    (x >>= f).outcome = .ok b ↔ ∃ a, x.outcome = .ok a ∧ (f a).outcome = .ok b := by
  rw [outcome_bind]
  exact bind_eq_ok

theorem outcome_bind_eq_error {x : Traced ε α} {f : α → Traced ε β} {e : ε} :
    (x >>= f).outcome = .error e ↔
      x.outcome = .error e ∨ ∃ a, x.outcome = .ok a ∧ (f a).outcome = .error e := by
  rw [outcome_bind]
  exact bind_eq_error

/-- What holds of the faults of each step holds of the faults of a sequence. -/
theorem forall_error_bind {P : ε → Prop} {x : Traced ε α} {f : α → Traced ε β}
    (hx : ∀ e, x.outcome = .error e → P e) (hf : ∀ a e, (f a).outcome = .error e → P e) :
    ∀ e, (x >>= f).outcome = .error e → P e := by
  intro e he
  rcases outcome_bind_eq_error.mp he with he | ⟨a, _, he⟩
  · exact hx e he
  · exact hf a e he

theorem warnings_bind {x : Traced ε α} {f : α → Traced ε β} {a : α} (h : x.outcome = .ok a) :
    (x >>= f).warnings = x.warnings ++ (f a).warnings := by
  obtain ⟨ws, x⟩ := x
  cases h
  rfl

theorem andThen_assoc {γ : Type} (x : Traced ε α) (f : α → Traced ε β) (g : β → Traced ε γ) :
    (x.andThen f).andThen g = x.andThen fun a => (f a).andThen g := by
  obtain ⟨ws, x⟩ := x
  cases x with
  | error e => rfl
  | ok a =>
    simp only [andThen]
    cases (f a).outcome with
    | error e => rfl
    | ok b => simp only [List.append_assoc]

instance : LawfulMonad (Traced ε) :=
  .mk' _
    (fun ⟨ws, x⟩ => by cases x <;> simp [Functor.map, andThen])
    (fun _ _ => rfl)
    andThen_assoc

theorem outcome_mapM (f : α → Traced ε β) (xs : List α) :
    (xs.mapM f).outcome = xs.mapM fun x => (f x).outcome := by
  induction xs with
  | nil => rfl
  | cons x xs ih =>
    simp only [List.mapM_cons, outcome_bind, ih]
    rfl

theorem outcome_mapM_eq_ok {f : α → Traced ε β} {xs : List α} {ys : List β} :
    (xs.mapM f).outcome = .ok ys ↔ List.Forall₂ (fun x y => (f x).outcome = .ok y) xs ys := by
  rw [outcome_mapM]
  exact mapM_eq_ok

end Traced

/-! ## 4. Steps that read a document -/

namespace Reading

variable {d : Document}

theorem pure_eq_ok {a b : α} : (pure a : Reading α) d = .ok b ↔ a = b :=
  ClientGen.pure_eq_ok

theorem bind_eq_ok {x : Reading α} {f : α → Reading β} {b : β} :
    (x >>= f) d = .ok b ↔ ∃ a, x d = .ok a ∧ f a d = .ok b :=
  ClientGen.bind_eq_ok

theorem mapM_eq_ok {f : α → Reading β} {xs : List α} {ys : List β} :
    xs.mapM f d = .ok ys ↔ List.Forall₂ (fun x y => f x d = .ok y) xs ys :=
  mapM_iff_forall₂ (fun {γ} (x : Reading γ) a => x d = .ok a) pure_eq_ok bind_eq_ok

/-- A check is passed with what it finds good. -/
theorem check_eq_ok {title : String} {c : Checked α} {a : α} :
    check title c d = .ok a ↔ c = .good a := by
  cases c with
  | good b => exact pure_eq_ok.trans ⟨fun e => e ▸ rfl, fun h => by cases h; rfl⟩
  | bad is => constructor <;> intro h <;> cases h

end Reading

/-! ## 5. Checks of parts -/

namespace Checked

theorem map_eq_good {f : α → β} {c : Checked α} {b : β} :
    f <$> c = .good b ↔ ∃ a, c = .good a ∧ f a = b := by
  cases c <;> simp [Functor.map, app]

theorem seq_eq_good {f : Checked (α → β)} {c : Checked α} {b : β} :
    f <*> c = .good b ↔ ∃ g a, f = .good g ∧ c = .good a ∧ g a = b := by
  cases f <;> cases c <;> simp [Seq.seq, app]

theorem under_eq_good {step : Step} {c : Checked α} {a : α} :
    c.under step = .good a ↔ c = .good a := by
  cases c <;> simp [under]

end Checked

namespace Check

theorem entry_eq_good {r : Record} {key : String} {check : Value → Checked α} {v : Value} {a : α}
    (hv : Table.get? r key = some v) : entry r key check = .good a ↔ check v = .good a := by
  simp only [entry, hv, Checked.under_eq_good]

theorem entryOr_eq_good {r : Record} {key : String} {default a : α} {check : Value → Checked α}
    {v : Value} (hv : Table.get? r key = some v) :
    entryOr r key default check = .good a ↔ check v = .good a := by
  simp only [entryOr, hv, Checked.under_eq_good]

theorem text_eq_good {v : Value} {s : String} : text v = .good s ↔ v = .text s := by
  cases v <;> simp [text, Checked.issue]

end Check

/-! ## 6. Two runs -/

/-- **Two runs go in step**: both stop with the same fault, or both give a result and the results
    go together. -/
inductive InStep (R : α → β → Prop) : Except ε α → Except ε β → Prop where
  | stop (e : ε) : InStep R (.error e) (.error e)
  | go {a : α} {b : β} (h : R a b) : InStep R (.ok a) (.ok b)

/-- **Two runs stop alike**: both stop with the same fault, or both give a result. -/
abbrev StopAlike (x : Except ε α) (y : Except ε β) : Prop := InStep (fun _ _ => True) x y

namespace InStep

variable {α' β' : Type} {R : α → α' → Prop} {S : β → β' → Prop}

/-- Sequences go in step where their steps do. -/
theorem bind {x : Except ε α} {y : Except ε α'} {f : α → Except ε β} {g : α' → Except ε β'}
    (h : InStep R x y) (hf : ∀ a b, R a b → InStep S (f a) (g b)) : InStep S (x >>= f) (y >>= g) := by
  cases h with
  | stop e => exact .stop e
  | go hab => exact hf _ _ hab

/-- A step that both runs share leaves the rest to go in step. -/
theorem bind_same {x : Except ε α} {f : α → Except ε β} {g : α → Except ε β'}
    (h : ∀ a, x = .ok a → InStep S (f a) (g a)) : InStep S (x >>= f) (x >>= g) := by
  cases x with
  | error e => exact .stop e
  | ok a => exact h a rfl

theorem map {x : Except ε α} {y : Except ε α'} {f : α → β} {g : α' → β'} (h : InStep R x y)
    (hf : ∀ a b, R a b → S (f a) (g b)) : InStep S (x.map f) (y.map g) := by
  cases h with
  | stop e => exact .stop e
  | go hab => exact .go (hf _ _ hab)

/-- Folds of one list go in step where each of its items keeps what they have in step. -/
theorem foldlM {f : α → β → Except ε α} {g : α' → β → Except ε α'}
    (h : ∀ a a' b, R a a' → InStep R (f a b) (g a' b)) (bs : List β) {a : α} {a' : α'} (ha : R a a') :
    InStep R (bs.foldlM f a) (bs.foldlM g a') := by
  induction bs generalizing a a' with
  | nil => exact .go ha
  | cons b bs ih => exact (h a a' b ha).bind fun _ _ hr => ih hr

end InStep

end ClientGen
