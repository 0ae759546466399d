import Mathlib.Data.List.Perm.Basic
import ClientGen.Package
import ClientGen.Proofs.Codecs

/-!
# Names of the functions of codecs

The codecs of all unions stand in one file, where a function that is defined again replaces the one
before it. Each function is named after its union, or after its union and one of its variants, in
snake case. This file fixes

* `nameWords`: the words that a name has in snake case;
* `perm_functionNames`: the names of all functions, sorted by what the functions do;
* `nodup_functionNames_iff`: no function replaces another exactly when no two unions have the same
  words, and no two variants of unions run together to the same words;
* `exists_functionName_shared`: two unions whose codecs replace each other's functions.
-/

namespace ClientGen

open ClientGen.Text ClientGen.Source

namespace UnionCodec

variable {r : Registry} {s : Service} {settings : Settings} {u : UnionType} {c : UnionCodec}

/-! ## 1. Words -/

/-- **Words of a name** in snake case. -/
def nameWords (name : String) : List String := pieces '_' (snakeCase name)

/-- Texts with different leads are different, where neither lead begins the other. -/
theorem append_ne_append {p q : String}
    (h : (p.toList.zip q.toList).any (fun e => e.1 ≠ e.2) = true) (a b : String) :
    p ++ a ≠ q ++ b := by
  have differ : ∀ (ps qs as bs : List Char),
      (ps.zip qs).any (fun e => e.1 ≠ e.2) = true → ps ++ as ≠ qs ++ bs := by
    intro ps
    induction ps with
    | nil => exact fun qs as bs h => absurd h Bool.false_ne_true
    | cons d ps ih =>
      intro qs as bs h he
      cases qs with
      | nil => exact absurd h Bool.false_ne_true
      | cons e qs =>
        rw [List.cons_append, List.cons_append, List.cons.injEq] at he
        obtain ⟨rfl, he⟩ := he
        rw [List.zip_cons_cons, List.any_cons, Bool.or_eq_true] at h
        exact ih qs as bs (h.resolve_left (by simp)) he
  intro he
  have he := congrArg String.toList he
  rw [String.toList_append, String.toList_append] at he
  exact differ _ _ _ _ h he

/-! ## 2. The functions of all codecs -/

/-- **Names of the functions** of codecs, in the order of the models file. -/
def functionNames (r : Registry) (cs : List UnionCodec) : List String :=
  cs.flatMap fun c => (c.functions r).map (·.name)

/-- Names of unions and their variants, as the functions of the variants have them. -/
def variantStems (cs : List UnionCodec) : List String :=
  cs.flatMap fun c => c.variants.map fun v => c.stem ++ "_" ++ v.discriminator

theorem perm_flatMap_append {α β : Type} (as : List α) (f g : α → List β) :
    (as.flatMap fun a => f a ++ g a).Perm (as.flatMap f ++ as.flatMap g) :=
  (List.flatMap_append_perm as f g).symm

/-- A codec has a writer and a reader for each variant, and one of each for the union. -/
theorem perm_names_functions (r : Registry) (c : UnionCodec) :
    ((c.functions r).map (·.name)).Perm
      ((c.variants.map c.variantWriteName ++ c.variants.map c.variantReadName) ++
        ([c.readName] ++ [c.writeName])) := by
  have hpairs : (c.variants.flatMap fun v => [c.variantWriter r v, c.variantReader r v]).map (·.name) =
      c.variants.flatMap fun v => [c.variantWriteName v] ++ [c.variantReadName v] :=
    List.map_flatMap
  rw [functions, List.map_append, hpairs]
  refine List.Perm.append_right _ ((perm_flatMap_append _ _ _).trans ?_)
  rw [← List.map_eq_flatMap, ← List.map_eq_flatMap]

/-- **The names of all functions**, by what the functions do: they write and read variants, and they
    read and write unions. -/
theorem perm_functionNames (r : Registry) (cs : List UnionCodec) :
    (functionNames r cs).Perm
      (((variantStems cs).map ("_write_" ++ ·) ++ (variantStems cs).map ("_read_" ++ ·)) ++
        ((cs.map stem).map ("read_" ++ ·) ++ (cs.map stem).map ("write_" ++ ·))) := by
  have hvariants : ∀ (lead : String) (name : UnionCodec → UnionVariant → String),
      (∀ c v, name c v = lead ++ (c.stem ++ "_" ++ v.discriminator)) →
      cs.flatMap (fun c => c.variants.map (name c)) = (variantStems cs).map (lead ++ ·) := by
    intro lead name h
    obtain rfl : name = fun c v => lead ++ (c.stem ++ "_" ++ v.discriminator) :=
      funext fun c => funext (h c)
    simp only [variantStems, List.map_flatMap, List.map_map, Function.comp_def]
  have hunions : ∀ name : UnionCodec → String,
      cs.flatMap (fun c => [name c]) = cs.map name := fun name => List.map_eq_flatMap.symm
  have hassoc : ∀ (lead : String) (c : UnionCodec) (v : UnionVariant),
      lead ++ c.stem ++ "_" ++ v.discriminator = lead ++ (c.stem ++ "_" ++ v.discriminator) :=
    fun lead c v => by simp only [String.append_assoc]
  refine (List.Perm.flatMap_left cs fun c _ => perm_names_functions r c).trans ?_
  refine (perm_flatMap_append _ _ _).trans (List.Perm.append ?_ ?_)
  · refine (perm_flatMap_append _ _ _).trans (List.Perm.append ?_ ?_)
    · rw [hvariants "_write_" variantWriteName (hassoc "_write_")]
    · rw [hvariants "_read_" variantReadName (hassoc "_read_")]
  · refine (perm_flatMap_append _ _ _).trans (List.Perm.append ?_ ?_)
    · rw [hunions, List.map_map]
      rfl
    · rw [hunions, List.map_map]
      rfl

/-- Names that differ in what the functions do are different. -/
theorem nodup_leads {as bs : List String} :
    ((as.map ("_write_" ++ ·) ++ as.map ("_read_" ++ ·)) ++
      (bs.map ("read_" ++ ·) ++ bs.map ("write_" ++ ·))).Nodup ↔ bs.Nodup ∧ as.Nodup := by
  have lead : ∀ (p : String) (ss : List String), (ss.map (p ++ ·)).Nodup ↔ ss.Nodup := fun p ss =>
    List.nodup_map_iff fun _ _ h => (String.append_right_inj p).mp h
  have apart : ∀ {p q : String}, (p.toList.zip q.toList).any (fun e => e.1 ≠ e.2) = true →
      ∀ (ss ts : List String), ∀ a ∈ ss.map (p ++ ·), ∀ b ∈ ts.map (q ++ ·), a ≠ b := by
    intro p q hpq ss ts a ha b hb
    obtain ⟨x, _, rfl⟩ := List.mem_map.mp ha
    obtain ⟨y, _, rfl⟩ := List.mem_map.mp hb
    exact append_ne_append hpq x y
  rw [List.nodup_append, List.nodup_append, List.nodup_append, lead, lead, lead, lead]
  constructor
  · exact fun h => ⟨h.2.1.1, h.1.1⟩
  · rintro ⟨hb, ha⟩
    refine ⟨⟨ha, ha, apart (by decide) as as⟩, ⟨hb, hb, apart (by decide) bs bs⟩, ?_⟩
    intro a hma b hmb
    rcases List.mem_append.mp hma with hma | hma <;> rcases List.mem_append.mp hmb with hmb | hmb
    · exact apart (by decide) as bs a hma b hmb
    · exact apart (by decide) as bs a hma b hmb
    · exact apart (by decide) as bs a hma b hmb
    · exact apart (by decide) as bs a hma b hmb

/-! ## 3. Codecs of unions -/

variable {cs : List UnionCodec}

theorem words_stem (h : ofUnion r u = .ok c) : pieces '_' c.stem = nameWords u.name := by
  obtain ⟨hname, _⟩ := ofUnion_eq_ok.mp h
  rw [stem, hname, nameWords]

theorem words_variants (h : ofUnion r u = .ok c) :
    (c.variants.map fun v => pieces '_' (c.stem ++ "_" ++ v.discriminator)) =
      u.types.map fun t => nameWords u.name ++ nameWords t := by
  obtain ⟨_, _, hvs⟩ := ofUnion_eq_ok.mp h
  refine (map_eq_of_forall₂ (variantsOf_eq_ok.mp hvs).2.1 fun t v hv => ?_).symm
  have hpieces := pieces_append '_' c.stem v.discriminator
  rw [words_stem h, hv.discriminator_eq] at hpieces
  rw [hv.discriminator_eq]
  exact hpieces.symm

/-- **No codec replaces a function of another one, nor its own,** exactly when no two unions have
    the same words, and the words of a union and a variant together are those of no other union and
    variant. -/
theorem nodup_functionNames_iff (h : s.unions.mapM (ofUnion r) = .ok cs) :
    (functionNames r cs).Nodup ↔ (s.unions.map fun u => nameWords u.name).Nodup ∧
      (s.unions.flatMap fun u => u.types.map fun t => nameWords u.name ++ nameWords t).Nodup := by
  have hcs := mapM_eq_ok.mp h
  have hstems : (cs.map stem).map (pieces '_') = s.unions.map fun u => nameWords u.name := by
    rw [List.map_map]
    refine (map_eq_of_forall₂ hcs fun u c hc => ?_).symm
    rw [Function.comp_apply, words_stem hc]
  have hvariants : (variantStems cs).map (pieces '_') =
      s.unions.flatMap fun u => u.types.map fun t => nameWords u.name ++ nameWords t := by
    rw [variantStems, List.map_flatMap]
    refine (flatMap_eq_of_forall₂ hcs fun u c hc => ?_).symm
    rw [← words_variants hc, List.map_map, Function.comp_def]
  rw [(perm_functionNames r cs).nodup_iff, nodup_leads, ← hstems, ← hvariants,
    List.nodup_map_iff (pieces_injective '_'), List.nodup_map_iff (pieces_injective '_')]

/-- Service with a union for guests and one more. -/
def guestsWith (u : UnionType) : Service :=
  { name := "api"
    models := [{ name := "user_account" }, { name := "account" }]
    unions := [{ name := "guest", types := ["user_account", "account"] }, u] }

/-- A union with the words of an account of a guest in another order. -/
def guestAccounts : UnionType := { name := "account_guest", types := ["user_account"] }

/-- Unions may share words, as long as none run together. -/
theorem nodup_functionNames_iff_guests : ∃ r cs,
    Registry.ofService (guestsWith guestAccounts) Dialect.aiohttp = .ok r ∧
    (guestsWith guestAccounts).unions.mapM (ofUnion r) = .ok cs ∧ (functionNames r cs).Nodup :=
  ⟨_, _, rfl, rfl, (nodup_functionNames_iff (s := guestsWith guestAccounts) rfl).mpr (by decide)⟩

/-- A union whose accounts have the words of a guest's user account. -/
def guestUsers : UnionType := { name := "guest_user", types := ["account"] }

/-- A package is generated in which two codecs have functions of the same name. -/
theorem exists_functionName_shared : ∃ r cs p,
    Registry.ofService (guestsWith guestUsers) Dialect.aiohttp = .ok r ∧
    (guestsWith guestUsers).unions.mapM (ofUnion r) = .ok cs ∧
    (Package.ofService (guestsWith guestUsers) Dialect.aiohttp {}).outcome = .ok p ∧
    ¬ (functionNames r cs).Nodup :=
  ⟨_, _, _, rfl, rfl, rfl, by decide⟩

end UnionCodec

end ClientGen
