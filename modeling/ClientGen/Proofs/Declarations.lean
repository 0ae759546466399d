import ClientGen.Proofs.Casing
import ClientGen.Proofs.Sequencing
import ClientGen.Registry

/-!
# Declared types and their classes

The types of a service are declared under names that give each a class of its own. This file fixes

* `Registry.localClass_ne`: no class is named as the target language names its primitives, with a
  small letter in front;
* `Registry.DeclaredBy`, `ofService_eq_ok`: what a registry of a service has passed;
* `Registry.Declared`, `declared_of_parse`: a notation that is read refers to declared types only, and
  `parse_ne_option`: it is no option.
-/

namespace ClientGen

open ClientGen.Text

namespace Registry

/-! ## 1. Names of classes -/

/-- No class of a declared type has a name that starts with a small letter. -/
theorem localClass_ne (name : String) {s : String}
    (hs : s.toList.head?.any (·.isLower) = true) : localClass name ≠ s := by
  rintro rfl
  cases hh : (localClass name).toList.head? with
  | none =>
    rw [hh] at hs
    cases hs
  | some c =>
    rw [hh] at hs
    exact absurd (not_isLower_head?_pascalCase hh) (by simpa using hs)

/-! ## 2. What a registry has passed -/

variable {r : Registry} {s : Service} {settings : Settings}

/-- **A registry declares the types of a service**: each once, none under the name of a primitive,
    and no two with the same class. -/
structure DeclaredBy (s : Service) (settings : Settings) (r : Registry) : Prop where
  settings_eq : r.settings = settings
  enums_eq : r.enums = s.enums
  entries_eq : r.entries = declarations s
  classes_nodup : (r.entries.map fun d => localClass d.1).Nodup
  not_primitive : ∀ d ∈ r.entries, Primitive.ofName? d.1 = none

/-- A name that is new as a class is new as a name. -/
theorem get?_eq_none_of_class {seen : Table NamedKind} {name : String}
    (h : localClass name ∉ seen.map fun d => localClass d.1) : Table.get? seen name = none := by
  refine Table.get?_eq_none_iff.mpr fun hm => h ?_
  obtain ⟨d, hd, rfl⟩ := List.mem_map.mp hm
  exact List.mem_map_of_mem hd

/-- A declaration is added where its name is no primitive's and its class is new. -/
theorem declare_cons_eq_ok {seen entries : Table NamedKind} {d : String × NamedKind}
    {ds : List (String × NamedKind)} :
    declare seen (d :: ds) = .ok entries ↔ ∃ d', (Primitive.ofName? d.1 = none ∧ d = d') ∧
      (seen.find? fun e => localClass e.1 = localClass d'.1) = none ∧
      declare (seen ++ [d']) ds = .ok entries := by
  obtain ⟨name, kind⟩ := d
  rw [declare]
  constructor
  · intro h
    split at h
    · cases h
    · rename_i hnew
      rw [Bool.or_eq_true, not_or] at hnew
      split at h
      · cases h
      · rename_i hclass
        exact ⟨_, ⟨by simpa using hnew.2, rfl⟩, hclass, h⟩
  · rintro ⟨_, ⟨hp, rfl⟩, hclass, h⟩
    have hclass' : (seen.find? fun e => pascalCase e.1 = pascalCase name) = none := hclass
    rw [get?_eq_none_of_class (find?_key_eq_none.mp hclass), hp, if_neg (by decide), hclass']
    exact h

/-- Declarations are added one after another as long as no class comes twice. -/
theorem declare_eq_ok {entries : Table NamedKind} {ds : List (String × NamedKind)} :
    declare [] ds = .ok entries ↔ entries = ds ∧ (ds.map fun d => localClass d.1).Nodup ∧
      ∀ d ∈ ds, Primitive.ofName? d.1 = none := by
  have hnil : (([] : Table NamedKind).map fun d => localClass d.1).Nodup := List.nodup_nil
  refine (collect_eq_ok (fun _ => rfl) (fun _ _ _ _ => declare_cons_eq_ok) hnil).trans ?_
  constructor
  · rintro ⟨new, rfl, hnew, hd⟩
    obtain ⟨hp, hnew⟩ := (List.forall₂_and_left _ _).mp hnew
    rw [List.forall₂_eq_eq_eq] at hnew
    subst hnew
    exact ⟨rfl, hd, hp⟩
  · rintro ⟨rfl, hd, hp⟩
    exact ⟨_, rfl, List.forall₂_same.mpr fun d hm => ⟨hp d hm, rfl⟩, hd⟩

theorem ofService_eq_ok : ofService s settings = .ok r ↔ DeclaredBy s settings r := by
  unfold ofService
  constructor
  · intro h
    split at h
    · rename_i entries he
      obtain ⟨rfl, hd, hp⟩ := declare_eq_ok.mp he
      cases h
      exact ⟨rfl, rfl, rfl, hd, hp⟩
    · cases h
  · rintro ⟨hs, he, hd, hn, hp⟩
    rw [hd] at hn hp
    have hall : declare [] (declarations s) = .ok (declarations s) :=
      declare_eq_ok.mpr ⟨rfl, hn, hp⟩
    rw [hall, ← hs, ← he, ← hd]

/-- No name is declared twice, as no class is. -/
theorem DeclaredBy.nodup_names (h : DeclaredBy s settings r) : (Table.names r.entries).Nodup := by
  have hd : ((Table.names r.entries).map localClass).Nodup := by
    rw [Table.names, List.map_map]
    exact h.classes_nodup
  exact hd.of_map

theorem DeclaredBy.nodup_enumNames (h : DeclaredBy s settings r) :
    (s.enums.map (·.name)).Nodup := by
  have hd := h.nodup_names
  rw [h.entries_eq, Table.names, declarations, List.append_assoc, List.map_append,
    List.map_map] at hd
  exact (List.nodup_append.mp hd).1

/-! ## 3. References -/

/-- **A reference is declared**: so is the name inside its wrappers, where there is one. -/
def Declared (r : Registry) : TypeRef → Prop
  | .primitive _ => True
  | .named kind name => (name, kind) ∈ r.entries
  | .list of => Declared r of
  | .map of => Declared r of
  | .option of => Declared r of

theorem declared_of_lookUp {whole name : String} {ref : TypeRef}
    (h : r.lookUp whole name = .ok ref) : r.Declared ref := by
  unfold lookUp at h
  split at h
  · cases h
    trivial
  · split at h
    · cases h
      trivial
    · split at h
      · rename_i kind hk
        cases h
        exact Table.mem_of_get? hk
      · cases h

theorem declared_of_parseChars {fuel : Nat} {cs : List Char} {ref : TypeRef}
    (h : r.parseChars fuel cs = .ok ref) : r.Declared ref := by
  induction fuel generalizing cs ref with
  | zero => cases h
  | succ fuel ih =>
    unfold parseChars at h
    dsimp only at h
    split at h
    · obtain ⟨of, hof, rfl⟩ := map_eq_ok.mp h
      have hd : r.Declared of := ih hof
      exact hd
    · obtain ⟨of, hof, rfl⟩ := map_eq_ok.mp h
      have hd : r.Declared of := ih hof
      exact hd
    · exact declared_of_lookUp h

/-- A notation that is read refers to nothing that is not declared. -/
theorem declared_of_parse {t : String} {ref : TypeRef} (h : r.parse t = .ok ref) : r.Declared ref :=
  declared_of_parseChars h

/-- A notation is not read as an option. -/
theorem parse_ne_option {t : String} {ref of : TypeRef} (h : r.parse t = .ok ref) :
    ref ≠ .option of := by
  rintro rfl
  unfold parse parseChars at h
  dsimp only at h
  split at h
  · obtain ⟨_, _, he⟩ := map_eq_ok.mp h
    cases he
  · obtain ⟨_, _, he⟩ := map_eq_ok.mp h
    cases he
  · unfold lookUp at h
    repeat' split at h
    all_goals cases h

end Registry

end ClientGen
