import ClientGen.Proofs.Declarations
import ClientGen.Proofs.Notation

/-!
# The grammar of type notations

A notation is read from outside: white space comes off, then a pair of brackets, until a name is
left. Names are arbitrary texts, so they may hold brackets themselves. This file fixes

* `Text.Spaced`, `trimWhile_of_spaced`: a text with white space around it;
* `TypeRef.Writes`: the texts that write a reference, of which `written` is one;
* `Registry.Readable`, `parse_eq_ok_iff`: a notation is read as a reference exactly where it writes
  it and the name inside is one that can be read;
* `Registry.parse_retracts`: reading is a retraction onto the grammar;
* `Registry.referable_iff`: which declared types can be referenced at all.
-/

namespace ClientGen

open ClientGen.Text

/-! ## 1. White space -/

namespace Text

/-- **A text with white space around it**, or none. -/
def Spaced (body cs : List Char) : Prop :=
  ∃ before after : List Char, allBlank before = true ∧ allBlank after = true ∧
    cs = before ++ body ++ after

theorem Spaced.refl (cs : List Char) : Spaced cs cs :=
  ⟨[], [], rfl, rfl, (List.append_nil cs).symm⟩

/-- More white space may come around. -/
theorem Spaced.around {body cs before after : List Char} (h : Spaced body cs)
    (hbefore : allBlank before = true) (hafter : allBlank after = true) :
    Spaced body (before ++ cs ++ after) := by
  obtain ⟨b, a, hb, ha, rfl⟩ := h
  refine ⟨before ++ b, a ++ after, ?_, ?_, by simp only [List.append_assoc]⟩
  · rw [allBlank, List.all_append, ← allBlank, ← allBlank, hbefore, hb]
    rfl
  · rw [allBlank, List.all_append, ← allBlank, ← allBlank, ha, hafter]
    rfl

theorem spaced_trimWhile (cs : List Char) : Spaced (trimWhile isBlank cs) cs := by
  obtain ⟨tail, htail, hblank⟩ := exists_eq_dropEndWhile_append isBlank (cs.dropWhile isBlank)
  refine ⟨cs.takeWhile isBlank, tail, List.all_takeWhile, List.all_eq_true.mpr hblank, ?_⟩
  rw [List.append_assoc, trimWhile, ← htail, List.takeWhile_append_dropWhile]

/-- Trimming finds the text that white space stands around. -/
theorem trimWhile_of_spaced {body cs : List Char} (h : Spaced body cs)
    (htrim : trimWhile isBlank body = body) : trimWhile isBlank cs = body := by
  obtain ⟨before, after, hb, ha, rfl⟩ := h
  obtain ⟨hhead, hlast⟩ := trimWhile_eq_self_iff.mp htrim
  exact trimWhile_append (List.all_eq_true.mp hb) (List.all_eq_true.mp ha) hhead hlast

theorem length_le_of_spaced {body cs : List Char} (h : Spaced body cs) :
    body.length ≤ cs.length := by
  obtain ⟨before, after, _, _, rfl⟩ := h
  simp only [List.length_append]
  omega

end Text

/-! ## 2. The grammar -/

/-- What a map begins with. -/
def mapStart : List Char := ['m', 'a', 'p', '[']

namespace TypeRef

/-- **Texts that write a reference.** White space may stand around every part, and one word stands
    for a map of texts. -/
inductive Writes : List Char → TypeRef → Prop
  | primitive {p : Primitive} {cs : List Char} (h : Spaced p.name.toList cs) :
      Writes cs (.primitive p)
  | named {kind : NamedKind} {name : String} {cs : List Char} (h : Spaced name.toList cs) :
      Writes cs (.named kind name)
  | list {inner cs : List Char} {of : TypeRef} (ho : Writes inner of)
      (h : Spaced ('[' :: inner ++ [']']) cs) : Writes cs (.list of)
  | map {inner cs : List Char} {of : TypeRef} (ho : Writes inner of)
      (h : Spaced (mapStart ++ inner ++ [']']) cs) : Writes cs (.map of)
  | texts {cs : List Char} (h : Spaced "map".toList cs) : Writes cs (.map (.primitive .string))

variable {cs : List Char} {ref : TypeRef}

/-- White space around a text leaves what it writes. -/
theorem Writes.around {before after : List Char} (h : Writes cs ref)
    (hb : allBlank before = true) (ha : allBlank after = true) :
    Writes (before ++ cs ++ after) ref := by
  cases h with
  | primitive h => exact .primitive (h.around hb ha)
  | named h => exact .named (h.around hb ha)
  | list ho h => exact .list ho (h.around hb ha)
  | map ho h => exact .map ho (h.around hb ha)
  | texts h => exact .texts (h.around hb ha)

/-- Tells whether a reference has an option inside, for which there is no notation. -/
def hasOption : TypeRef → Bool
  | .primitive _ => false
  | .named _ _ => false
  | .list of => of.hasOption
  | .map of => of.hasOption
  | .option _ => true

/-- Name and kind of the declared type inside, where there is one. -/
def declared? : TypeRef → Option (String × NamedKind)
  | .primitive _ => none
  | .named kind name => some (name, kind)
  | .list of => of.declared?
  | .map of => of.declared?
  | .option of => of.declared?

/-- The notation of a reference writes it. -/
theorem writes_written (h : ref.hasOption = false) : Writes ref.written.toList ref := by
  induction ref with
  | primitive p => exact .primitive (Spaced.refl _)
  | named kind name => exact .named (Spaced.refl _)
  | list of ih =>
    refine .list (ih h) ?_
    rw [written, String.toList_append, String.toList_append]
    exact Spaced.refl _
  | map of ih =>
    refine .map (ih h) ?_
    rw [written, String.toList_append, String.toList_append]
    exact Spaced.refl _
  | option of => cases h

end TypeRef

/-! ## 3. Shapes -/

namespace Registry

/-- Tells whether a text begins as a list or a map does and ends as one. -/
def isBracketed (cs : List Char) : Bool :=
  (['['].isPrefixOf cs || mapStart.isPrefixOf cs) && [']'].isSuffixOf cs

/-- **Shapes of texts**: brackets at both ends, or a leaf. -/
inductive HasShape : List Char → Shape → Prop
  | list (inner : List Char) : HasShape ('[' :: inner ++ [']']) (.list inner)
  | map (inner : List Char) : HasShape (mapStart ++ inner ++ [']']) (.map inner)
  | leaf {cs : List Char} (h : isBracketed cs = false) : HasShape cs .leaf

theorem isSuffixOf_concat (cs : List Char) (c : Char) : [c].isSuffixOf (cs ++ [c]) = true :=
  List.isSuffixOf_iff_suffix.mpr (List.suffix_append cs [c])

theorem isSuffixOf_cons {c d : Char} (h : c ≠ d) (cs : List Char) :
    [d].isSuffixOf (c :: cs) = [d].isSuffixOf cs := by
  rw [Bool.eq_iff_iff, List.isSuffixOf_iff_suffix, List.isSuffixOf_iff_suffix, List.suffix_cons_iff]
  exact or_iff_right fun he => h (List.cons.inj he).1.symm

theorem isSuffixOf_iff_getLast? {c : Char} {cs : List Char} :
    [c].isSuffixOf cs = true ↔ cs.getLast? = some c := by
  rw [List.isSuffixOf_iff_suffix, List.getLast?_eq_some_iff]
  exact exists_congr fun _ => eq_comm

theorem hasShape_shapeOf (cs : List Char) : HasShape cs (shapeOf cs) := by
  have closed : ∀ {rest : List Char}, rest.getLast? = some ']' → rest = rest.dropLast ++ [']'] :=
    fun h => (List.dropLast_append_getLast? _ h).symm
  have opened : ∀ {rest : List Char}, ¬ rest.getLast? = some ']' → [']'].isSuffixOf rest = false :=
    fun h => Bool.eq_false_iff.mpr (mt isSuffixOf_iff_getLast?.mp h)
  fun_cases shapeOf cs with
  | case1 rest h =>
    have he : '[' :: rest = '[' :: rest.dropLast ++ [']'] := congrArg ('[' :: ·) (closed h)
    exact he ▸ .list rest.dropLast
  | case2 rest h =>
    refine .leaf ?_
    rw [isBracketed, isSuffixOf_cons (by decide), opened h, Bool.and_false]
  | case3 rest h =>
    have he : mapStart ++ rest = mapStart ++ rest.dropLast ++ [']'] := by
      rw [List.append_assoc, ← closed h]
    have hm : HasShape (mapStart ++ rest) (.map rest.dropLast) := he ▸ .map rest.dropLast
    exact hm
  | case4 rest h =>
    have hclose : [']'].isSuffixOf ('m' :: 'a' :: 'p' :: '[' :: rest) = false := by
      simp only [isSuffixOf_cons, ne_eq, Char.reduceEq, not_false_eq_true, opened h]
    refine .leaf ?_
    rw [isBracketed, hclose, Bool.and_false]
  | case5 cs hlist hmap =>
    have hl : ['['].isPrefixOf cs = false := by
      rw [Bool.eq_false_iff, ne_eq, List.isPrefixOf_iff_prefix]
      rintro ⟨rest, h⟩
      exact hlist rest h.symm
    have hm : mapStart.isPrefixOf cs = false := by
      rw [Bool.eq_false_iff, ne_eq, List.isPrefixOf_iff_prefix]
      rintro ⟨rest, h⟩
      exact hmap rest h.symm
    refine .leaf ?_
    rw [isBracketed, hl, hm]
    rfl

/-- A text has one shape only. -/
theorem shapeOf_eq_iff {cs : List Char} {shape : Shape} : shapeOf cs = shape ↔ HasShape cs shape := by
  refine ⟨fun h => h ▸ hasShape_shapeOf cs, fun h => ?_⟩
  cases h with
  | list inner =>
    rw [List.cons_append, shapeOf, if_pos List.getLast?_concat, List.dropLast_concat]
  | map inner =>
    simp only [mapStart, List.cons_append, List.nil_append]
    rw [shapeOf, if_pos List.getLast?_concat, List.dropLast_concat]
  | leaf hn =>
    have hs := hasShape_shapeOf cs
    generalize shapeOf cs = shape at hs
    cases hs with
    | list inner =>
      rw [isBracketed, isSuffixOf_concat, Bool.and_true] at hn
      exact absurd hn (by simp)
    | map inner =>
      rw [isBracketed, isSuffixOf_concat, Bool.and_true] at hn
      exact absurd hn (by simp [mapStart])
    | leaf _ => rfl

/-! ## 4. Reading -/

/-- **A name can stand in a notation** where neither white space nor brackets come off it. -/
def IsLeaf (name : String) : Prop :=
  trimWhile isBlank name.toList = name.toList ∧ isBracketed name.toList = false

/-- **References that notations are read as**: without options, and of a declared type under a name
    that can stand in a notation and does not mean a map. -/
def Readable (r : Registry) : TypeRef → Prop
  | .primitive _ => True
  | .named kind name => (name, kind) ∈ r.entries ∧ IsLeaf name ∧ name ≠ "map"
  | .list of => Readable r of
  | .map of => Readable r of
  | .option _ => False

variable {r : Registry} {s : Service} {settings : Settings} {cs : List Char} {ref : TypeRef}

theorem isLeaf_name (p : Primitive) : IsLeaf p.name := by
  unfold IsLeaf
  cases p <;> decide

theorem name_of_ofName? {name : String} {p : Primitive} (h : Primitive.ofName? name = some p) :
    p.name = name := by
  have hp := List.find?_some h
  exact of_decide_eq_true hp

theorem ofName?_name (p : Primitive) : Primitive.ofName? p.name = some p := by
  cases p <;> decide

/-- What a name is looked up as. -/
theorem writes_of_lookUp {whole name : String} (hcs : Spaced name.toList cs)
    (hleaf : IsLeaf name) (h : r.lookUp whole name = .ok ref) :
    TypeRef.Writes cs ref ∧ r.Readable ref := by
  unfold lookUp at h
  split at h
  · rename_i hmap
    cases h
    exact ⟨.texts (hmap ▸ hcs), trivial⟩
  · rename_i hmap
    split at h
    · rename_i p hp
      cases h
      rw [← name_of_ofName? hp] at hcs
      exact ⟨.primitive hcs, trivial⟩
    · split at h
      · rename_i kind hk
        cases h
        exact ⟨.named hcs, Table.mem_of_get? hk, hleaf, hmap⟩
      · cases h

/-- A notation writes what it is read as. -/
theorem writes_of_parseChars {fuel : Nat} (h : r.parseChars fuel cs = .ok ref) :
    TypeRef.Writes cs ref ∧ r.Readable ref := by
  induction fuel generalizing cs ref with
  | zero => cases h
  | succ fuel ih =>
    have hbody := spaced_trimWhile cs
    have hs := hasShape_shapeOf (trimWhile isBlank cs)
    unfold parseChars at h
    dsimp only at h
    generalize hb : trimWhile isBlank cs = body at h hs hbody
    generalize hsh : shapeOf body = shape at h hs
    cases hs with
    | list inner =>
      obtain ⟨of, hof, rfl⟩ := map_eq_ok.mp h
      obtain ⟨hw, hr⟩ := ih hof
      exact ⟨.list hw hbody, hr⟩
    | map inner =>
      obtain ⟨of, hof, rfl⟩ := map_eq_ok.mp h
      obtain ⟨hw, hr⟩ := ih hof
      exact ⟨.map hw hbody, hr⟩
    | leaf hn =>
      have hname : Spaced (String.ofList body).toList cs := by
        rwa [String.toList_ofList]
      refine writes_of_lookUp hname ⟨?_, ?_⟩ h
      · rw [String.toList_ofList, ← hb, trimWhile_trimWhile]
      · rwa [String.toList_ofList]

theorem lookUp_name (r : Registry) (whole : String) (p : Primitive) :
    r.lookUp whole p.name = .ok (.primitive p) := by
  have hp : p.name ≠ "map" := by cases p <;> decide
  rw [lookUp, if_neg hp, ofName?_name]

theorem lookUp_declared (hr : DeclaredBy s settings r) (whole : String) {kind : NamedKind}
    {name : String} (hm : (name, kind) ∈ r.entries) (hmap : name ≠ "map") :
    r.lookUp whole name = .ok (.named kind name) := by
  rw [lookUp, if_neg hmap, hr.not_primitive _ hm, Table.get?_of_mem hr.nodup_names hm]

/-- White space does not come off brackets. -/
theorem trimWhile_brackets {c : Char} (h : isBlank c = false) (cs : List Char) :
    trimWhile isBlank (c :: cs ++ [']']) = c :: cs ++ [']'] := by
  refine trimWhile_eq_self_iff.mpr ⟨fun d hd => ?_, fun d hd => ?_⟩
  · cases hd
    exact h
  · rw [List.getLast?_concat] at hd
    cases hd
    decide

theorem parseChars_list {inner : List Char} (h : Spaced ('[' :: inner ++ [']']) cs) (fuel : Nat) :
    r.parseChars (fuel + 1) cs = (r.parseChars fuel inner).map .list := by
  rw [parseChars, trimWhile_of_spaced h (trimWhile_brackets (by decide) inner),
    shapeOf_eq_iff.mpr (.list inner)]

theorem parseChars_map {inner : List Char} (h : Spaced (mapStart ++ inner ++ [']']) cs)
    (fuel : Nat) : r.parseChars (fuel + 1) cs = (r.parseChars fuel inner).map .map := by
  rw [parseChars, trimWhile_of_spaced h (trimWhile_brackets (by decide) ('a' :: 'p' :: '[' :: inner)),
    shapeOf_eq_iff.mpr (.map inner)]

theorem parseChars_leaf {name : String} (h : Spaced name.toList cs) (hleaf : IsLeaf name)
    (fuel : Nat) : r.parseChars (fuel + 1) cs = r.lookUp (String.ofList cs) name := by
  rw [parseChars, trimWhile_of_spaced h hleaf.1, shapeOf_eq_iff.mpr (.leaf hleaf.2),
    String.ofList_toList]

/-- A text that writes a reference is read as it, given more steps than it has characters. -/
theorem parseChars_of_writes (hr : DeclaredBy s settings r) (hw : TypeRef.Writes cs ref)
    (hread : r.Readable ref) {fuel : Nat} (hf : cs.length < fuel) :
    r.parseChars fuel cs = .ok ref := by
  induction hw generalizing fuel with
  | @primitive p cs h =>
    obtain ⟨fuel, rfl⟩ := Nat.exists_eq_succ_of_ne_zero (Nat.ne_zero_of_lt hf)
    rw [parseChars_leaf h (isLeaf_name p), lookUp_name]
  | @named kind name cs h =>
    obtain ⟨fuel, rfl⟩ := Nat.exists_eq_succ_of_ne_zero (Nat.ne_zero_of_lt hf)
    obtain ⟨hm, hleaf, hmap⟩ := hread
    rw [parseChars_leaf h hleaf, lookUp_declared hr _ hm hmap]
  | @list inner cs of _ h ih =>
    obtain ⟨fuel, rfl⟩ := Nat.exists_eq_succ_of_ne_zero (Nat.ne_zero_of_lt hf)
    have hl := length_le_of_spaced h
    rw [List.length_append, List.length_cons, List.length_singleton] at hl
    rw [parseChars_list h, ih hread (by omega)]
    rfl
  | @map inner cs of _ h ih =>
    obtain ⟨fuel, rfl⟩ := Nat.exists_eq_succ_of_ne_zero (Nat.ne_zero_of_lt hf)
    have hl := length_le_of_spaced h
    rw [List.length_append, List.length_append, List.length_singleton] at hl
    rw [parseChars_map h, ih hread (by omega)]
    rfl
  | texts h =>
    obtain ⟨fuel, rfl⟩ := Nat.exists_eq_succ_of_ne_zero (Nat.ne_zero_of_lt hf)
    have hleaf : IsLeaf "map" := ⟨by decide, by decide⟩
    rw [parseChars_leaf h hleaf]
    rfl

/-- **A notation is read as a reference** exactly where it writes the reference, and this is one
    that notations are read as. -/
theorem parse_eq_ok_iff (hr : DeclaredBy s settings r) {t : String} :
    r.parse t = .ok ref ↔ TypeRef.Writes t.toList ref ∧ r.Readable ref :=
  ⟨writes_of_parseChars, fun h => parseChars_of_writes hr h.1 h.2 (Nat.lt_succ_self _)⟩

/-! ## 5. The retraction -/

theorem Readable.hasOption (h : r.Readable ref) : ref.hasOption = false := by
  induction ref with
  | primitive p => rfl
  | named kind name => rfl
  | list of ih => exact ih h
  | map of ih => exact ih h
  | option of => exact h.elim

/-- The declared type inside is one that notations are read as. -/
theorem Readable.of_declared? (h : r.Readable ref) {d : String × NamedKind}
    (hd : ref.declared? = some d) : r.Readable (.named d.2 d.1) := by
  induction ref with
  | primitive p => cases hd
  | named kind name =>
    cases hd
    exact h
  | list of ih => exact ih h hd
  | map of ih => exact ih h hd
  | option of => exact h.elim

theorem Readable.mem_entries (h : r.Readable ref) {d : String × NamedKind}
    (hd : ref.declared? = some d) : d ∈ r.entries :=
  (h.of_declared? hd).1

/-- A text of the grammar writes a reference that is read, and no other than its own unless a
    declared type has the name that means a map. -/
theorem exists_readable (hw : TypeRef.Writes cs ref)
    (hd : ∀ d, ref.declared? = some d → d ∈ r.entries ∧ IsLeaf d.1) :
    ∃ ref', TypeRef.Writes cs ref' ∧ r.Readable ref' ∧
      ((∀ d, ref.declared? = some d → d.1 ≠ "map") → ref' = ref) := by
  induction hw with
  | @primitive p cs h => exact ⟨.primitive p, .primitive h, trivial, fun _ => rfl⟩
  | @named kind name cs h =>
    obtain ⟨hm, hleaf⟩ := hd _ rfl
    by_cases hmap : name = "map"
    · exact ⟨.map (.primitive .string), .texts (hmap ▸ h), trivial, fun hn => absurd hmap (hn _ rfl)⟩
    · exact ⟨.named kind name, .named h, ⟨hm, hleaf, hmap⟩, fun _ => rfl⟩
  | list ho h ih =>
    obtain ⟨of', hw, hread, heq⟩ := ih hd
    exact ⟨.list of', .list hw h, hread, fun hn => congrArg TypeRef.list (heq hn)⟩
  | map ho h ih =>
    obtain ⟨of', hw, hread, heq⟩ := ih hd
    exact ⟨.map of', .map hw h, hread, fun hn => congrArg TypeRef.map (heq hn)⟩
  | texts h => exact ⟨.map (.primitive .string), .texts h, trivial, fun _ => rfl⟩

/-- **What a notation is read as**: a reference of declared types without options, whose notation
    the text is, up to white space and the short word for maps. -/
structure ReadAs (s : Service) (r : Registry) (t : String) (ref : TypeRef) : Prop where
  read : r.parse t = .ok ref
  plain : ref.hasOption = false
  declared : ∀ d, ref.declared? = some d → d ∈ declarations s
  again : r.parse ref.written = .ok ref
  around : ∀ before after : String, allBlank before.toList = true → allBlank after.toList = true →
    r.parse (before ++ t ++ after) = .ok ref
  writes : TypeRef.Writes t.toList ref

/-- **Reading is a retraction onto the grammar of notations**: a text is refused as unresolved or read
    as a reference that it writes; and every text that writes a reference is read, where the name inside
    is declared and can stand in a notation. In texts, the 2048 characters from U+10A000 stand for lone
    surrogates. -/
theorem parse_retracts (h : ofService s settings = .ok r) (t : String) :
    ((∃ u, r.parse t = .error (.unresolvedType u)) ∨ ∃ ref, ReadAs s r t ref) ∧
    ∀ ref, TypeRef.Writes t.toList ref →
      (∀ d, ref.declared? = some d → d ∈ declarations s ∧ IsLeaf d.1) →
      ∃ ref', r.parse t = .ok ref' ∧
        ((∀ d, ref.declared? = some d → d.1 ≠ "map") → ref' = ref) := by
  have hr := ofService_eq_ok.mp h
  constructor
  · cases ht : r.parse t with
    | error c =>
      obtain ⟨u, rfl⟩ := cause_of_parse_eq_error ht
      exact Or.inl ⟨u, rfl⟩
    | ok ref =>
      obtain ⟨hw, hread⟩ := (parse_eq_ok_iff hr).mp ht
      refine Or.inr ⟨ref, ht, hread.hasOption, fun d hd => ?_, ?_, fun before after hb ha => ?_, hw⟩
      · rw [← hr.entries_eq]
        exact hread.mem_entries hd
      · exact (parse_eq_ok_iff hr).mpr ⟨TypeRef.writes_written hread.hasOption, hread⟩
      · refine (parse_eq_ok_iff hr).mpr ⟨?_, hread⟩
        rw [String.toList_append, String.toList_append]
        exact hw.around hb ha
  · intro ref hw hd
    obtain ⟨ref', hw', hread, heq⟩ := exists_readable (r := r) hw fun d h => by
      rw [hr.entries_eq]
      exact hd d h
    exact ⟨ref', (parse_eq_ok_iff hr).mpr ⟨hw', hread⟩, heq⟩

/-- Service with types under names that are no identifiers: one ends in a bracket, one means a map
    in notations. -/
def oddNames : Service :=
  { name := "api", enums := [{ name := "a]" }], models := [{ name := "map" }, { name := "[b" }] }

/-- Registry of the service. -/
def oddRegistry : Registry :=
  ⟨Dialect.aiohttp, oddNames.enums, [("a]", .enum), ("map", .model), ("[b", .model)]⟩

/-- White space and brackets come off around a name that ends in one; the name of a map stands for a
    map of texts, whatever is declared. -/
theorem parse_retracts_oddNames : ofService oddNames Dialect.aiohttp = .ok oddRegistry ∧
    ReadAs oddNames oddRegistry "\t[ map[a]] ]" (.list (.map (.named .enum "a]"))) ∧
    TypeRef.Writes "[map]".toList (.list (.named .model "map")) ∧
    (("map", .model) ∈ declarations oddNames ∧ IsLeaf "map") ∧
    ∃ ref, oddRegistry.parse "[map]" = .ok ref ∧ ref = .list (.map (.primitive .string)) := by
  have h : ofService oddNames Dialect.aiohttp = .ok oddRegistry := rfl
  have hmap : ("map", NamedKind.model) ∈ declarations oddNames ∧ IsLeaf "map" :=
    ⟨by decide, by decide, by decide⟩
  have hinner : TypeRef.Writes "map".toList (.named .model "map") := .named (Spaced.refl _)
  have hw : TypeRef.Writes "[map]".toList (.list (.named .model "map")) :=
    .list hinner (Spaced.refl _)
  refine ⟨h, ?_, hw, hmap, ?_⟩
  · have hread : oddRegistry.parse "\t[ map[a]] ]" = .ok (.list (.map (.named .enum "a]"))) := rfl
    rcases (parse_retracts h "\t[ map[a]] ]").1 with ⟨u, hu⟩ | ⟨ref, href⟩
    · rw [hread] at hu
      cases hu
    · have he := href.read
      rw [hread] at he
      cases he
      exact href
  · obtain ⟨ref, href, _⟩ := (parse_retracts h "[map]").2 _ hw fun d hd => by
      cases hd
      exact hmap
    have hread : oddRegistry.parse "[map]" = .ok (.list (.map (.primitive .string))) := rfl
    exact ⟨ref, href, Except.ok.inj (href.symm.trans hread)⟩

/-! ## 6. Notations of declared names -/

/-- **A declared type can be referenced**: its name is read as a reference to it, alone and inside a
    list or a map. -/
structure Referable (r : Registry) (d : String × NamedKind) : Prop where
  name : r.parse d.1 = .ok (.named d.2 d.1)
  list : r.parse ("[" ++ d.1 ++ "]") = .ok (.list (.named d.2 d.1))
  map : r.parse ("map[" ++ d.1 ++ "]") = .ok (.map (.named d.2 d.1))

/-- A reference that notations are read as is read from its own notation, wrapped or not. -/
theorem referable_of_readable (hr : DeclaredBy s settings r) {d : String × NamedKind}
    (h : r.Readable (.named d.2 d.1)) : r.Referable d := by
  have own : ∀ ref : TypeRef, ref.hasOption = false → r.Readable ref →
      r.parse ref.written = .ok ref := fun _ hplain hread =>
    (parse_eq_ok_iff hr).mpr ⟨TypeRef.writes_written hplain, hread⟩
  exact ⟨own (.named d.2 d.1) rfl h, own (.list (.named d.2 d.1)) rfl h,
    own (.map (.named d.2 d.1)) rfl h⟩

/-- **A declared type can be referenced** exactly where its name can stand in a notation and does not
    mean a map; a notation takes any other name for something else, and then nothing that is read
    refers to the type. -/
theorem referable_iff (h : ofService s settings = .ok r) {d : String × NamedKind}
    (hd : d ∈ declarations s) :
    (r.Referable d ↔ IsLeaf d.1 ∧ d.1 ≠ "map") ∧
    (¬ r.Referable d → ∀ t ref, r.parse t = .ok ref → ref.declared? ≠ some d) := by
  have hr := ofService_eq_ok.mp h
  have hm : d ∈ r.entries := hr.entries_eq ▸ hd
  refine ⟨⟨fun href => ?_, fun hname => ?_⟩, fun hnot t ref ht hdecl => hnot ?_⟩
  · obtain ⟨_, hread⟩ := (parse_eq_ok_iff hr).mp href.name
    exact hread.2
  · exact referable_of_readable hr ⟨hm, hname⟩
  · obtain ⟨_, hread⟩ := (parse_eq_ok_iff hr).mp ht
    exact referable_of_readable hr (hread.of_declared? hdecl)

/-- A name that ends in a bracket can be referenced; no notation refers to a model with the name of a
    map. -/
theorem referable_iff_oddNames : ofService oddNames Dialect.aiohttp = .ok oddRegistry ∧
    (("a]", .enum) ∈ declarations oddNames ∧ oddRegistry.Referable ("a]", .enum)) ∧
    ("map", .model) ∈ declarations oddNames ∧
    ∀ t ref, oddRegistry.parse t = .ok ref → ref.declared? ≠ some ("map", .model) := by
  have h : ofService oddNames Dialect.aiohttp = .ok oddRegistry := rfl
  have hbracket : ("a]", NamedKind.enum) ∈ declarations oddNames := by decide
  have hmap : ("map", NamedKind.model) ∈ declarations oddNames := by decide
  have hleaf : IsLeaf "a]" := ⟨by decide, by decide⟩
  refine ⟨h, ⟨hbracket, (referable_iff h hbracket).1.mpr ⟨hleaf, by decide⟩⟩, hmap, ?_⟩
  exact (referable_iff h hmap).2 fun href => ((referable_iff h hmap).1.mp href).2 rfl

/-- Service with one model, under a name. -/
def withModel (name : String) : Service := { name := "api", models := [{ name }] }

/-- A model with the name of a map is accepted, and its name means a map of texts. -/
theorem exists_shadowed : ∃ r, ofService (withModel "map") Dialect.aiohttp = .ok r ∧
    ("map", .model) ∈ declarations (withModel "map") ∧
    r.parse "map" = .ok (.map (.primitive .string)) ∧ ¬ r.Referable ("map", .model) := by
  refine ⟨_, rfl, by decide, rfl, fun h => ?_⟩
  have hname := h.name
  cases hname

end Registry

end ClientGen
