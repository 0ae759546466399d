import ClientGen.Proofs.Attributes
import ClientGen.Proofs.ClassNames

/-!
# Names of members

The function by which an error reads its body is named after the type of the body, the attribute of a
model after its field. Attributes are named by way of an identifier, which is legal whatever it is made
from; functions that read a body are not. This file fixes

* `TypeRef.NamesView`, `isLegal_viewName_iff`: the types after which such a function has a legal name;
* `ErrorType.Viewed`, `classes_viewed`: every class of an error body has one such function, apart from
  its constructor and from what exceptions have;
* `startsWith_fieldName_iff`: attributes that start with an underscore, which marks them as private;
* `Field.NamedFor`, `ModelType.toClass_named`: every attribute has a legal name that nothing reserves,
  and all are public where every field leads with a letter.
-/

namespace ClientGen

open ClientGen.Text

/-! ## 1. Names in snake case -/

namespace Text

theorem isLegal_snakeCase_iff (s : String) :
    IsLegal (snakeCase s) ↔ leadsWithLetter s = true ∧ snakeCase s ∉ hardKeywords := by
  rw [isLegal_iff_of_head? (all_isWordChar_snakeCase s) fun _ => isAlphanum_of_head?_snakeCase,
    head?_snakeCase, ← leadsWithLetter, leadsWithLetter_snakeCase]

/-- Nouns in whose plural a reserved word comes about. -/
def keywordNouns : List String := ["a", "i"]

/-- **A plural is a reserved word** for these nouns only: what else stands before the s of a reserved
    word would take a syllable. -/
theorem pluralize_mem_hardKeywords_iff (s : String) :
    pluralize (snakeCase s) ∈ hardKeywords ↔ snakeCase s ∈ keywordNouns := by
  have hirregular : ∀ e ∈ irregularPlurals, e.2 ∉ hardKeywords := by decide
  have hsyllable : ∀ k ∈ hardKeywords, endsWith k "es" = false := by decide
  have hletter : ∀ k ∈ hardKeywords, endsWith k "s" = true →
      ∃ w ∈ ["a", "i", "clas", "pas"], k = w ++ "s" := by decide
  have hnoun : ∀ w ∈ ["a", "i", "clas", "pas"], (sibilants.any fun e => endsWith w e) = false →
      w ∈ keywordNouns := by decide
  constructor
  · intro h
    unfold pluralize at h
    rw [toLower_snakeCase] at h
    split at h
    · exact absurd h (by decide)
    dsimp only at h
    split at h
    · rename_i plural hp
      exact absurd h (hirregular _ (Table.mem_of_get? hp))
    · split at h
      · exact absurd (endsWith_append _ _) (Bool.eq_false_iff.mp (hsyllable _ h))
      · rename_i hsibilant
        split at h
        · have hies : "ies" = "i" ++ "es" := by decide
          rw [hies, ← String.append_assoc] at h
          exact absurd (endsWith_append _ _) (Bool.eq_false_iff.mp (hsyllable _ h))
        · obtain ⟨w, hw, hs⟩ := hletter _ h (endsWith_append _ _)
          rw [String.append_left_inj] at hs
          rw [hs] at hsibilant ⊢
          exact hnoun w hw (Bool.eq_false_iff.mpr hsibilant)
  · have hword : ∀ w ∈ keywordNouns, pluralize w ∈ hardKeywords := by decide
    exact hword _

theorem isLegal_pluralize_iff (s : String) :
    IsLegal (pluralize (snakeCase s)) ↔ leadsWithLetter s = true ∧ snakeCase s ∉ keywordNouns := by
  have hchars : (pluralize (snakeCase s)).toList.all isWordChar = true :=
    List.all_eq_true.mpr fun _ => isWordChar_of_mem_pluralize
  rw [isLegal_iff_of_head? hchars fun _ => isAlphanum_of_head?_pluralize, head?_pluralize,
    head?_snakeCase, ← leadsWithLetter, leadsWithLetter_snakeCase, pluralize_mem_hardKeywords_iff]

/-- With an ending that begins with an underscore and that no reserved word has, a name is legal unless
    it leads with a digit; where it has no letter and no digit, the underscore is in front. -/
theorem isLegal_snakeCase_map_iff (s : String) :
    IsLegal (snakeCase s ++ "_map") ↔ leadsWithDigit s = false := by
  have hending : ∀ k ∈ hardKeywords, k.toList.getLast? ≠ some 'p' := by decide
  have hlast : "_map".toList.getLast? = some 'p' := rfl
  have hkeyword : hardKeywords.contains (snakeCase s ++ "_map") = false := by
    rw [← Bool.not_eq_true, List.contains_iff_mem]
    exact fun hm => hending _ hm (getLast?_append hlast)
  have hne : snakeCase s ++ "_map" ≠ "" := fun h => by
    simpa using congrArg String.toList h
  have hdigit : startsWithDigit (snakeCase s ++ "_map") = leadsWithDigit s := by
    rw [← leadsWithDigit_snakeCase, leadsWithDigit, ← head?_snakeCase, startsWithDigit,
      String.toList_append, List.head?_append]
    cases hc : (snakeCase s).toList.head? with
    | none => rfl
    | some c => exact isDigit_of_isAlphanum (isAlphanum_of_head?_snakeCase hc)
  have hchars : (snakeCase s ++ "_map").toList.all isWordChar = true :=
    all_isWordChar_append (all_isWordChar_snakeCase s) rfl
  have hname : isClassName (snakeCase s ++ "_map") = !leadsWithDigit s := by
    rw [isClassName, hkeyword, hdigit, decide_eq_true hne]
    cases leadsWithDigit s <;> rfl
  rw [← Bool.not_eq_true', ← hname]
  exact ⟨(·.isName), fun h => ⟨hchars, h⟩⟩

end Text

/-! ## 2. Functions that read a body -/

namespace TypeRef

/-- **A type that names the function reading its body**: the word taken from it, in the plural for a
    list, leads with a letter and is not reserved. A map has an ending, and leads with anything but a
    digit. -/
def NamesView : TypeRef → Prop
  | .list of => leadsWithLetter of.shortName = true ∧ snakeCase of.shortName ∉ keywordNouns
  | .map of => leadsWithDigit of.shortName = false
  | ref => leadsWithLetter ref.shortName = true ∧ snakeCase ref.shortName ∉ hardKeywords

instance : ∀ ref : TypeRef, Decidable ref.NamesView
  | .primitive _ => inferInstanceAs (Decidable (_ ∧ _))
  | .named _ _ => inferInstanceAs (Decidable (_ ∧ _))
  | .list _ => inferInstanceAs (Decidable (_ ∧ _))
  | .map _ => inferInstanceAs (Decidable (_ = _))
  | .option _ => inferInstanceAs (Decidable (_ ∧ _))

theorem isLegal_errorVariable_iff (ref : TypeRef) : IsLegal ref.errorVariable ↔ ref.NamesView := by
  cases ref with
  | primitive p => exact isLegal_snakeCase_iff p.name
  | named kind name => exact isLegal_snakeCase_iff name
  | list of => exact isLegal_pluralize_iff of.shortName
  | map of => exact isLegal_snakeCase_map_iff of.shortName
  | option of => exact isLegal_snakeCase_iff of.shortName

end TypeRef

namespace ErrorType

variable {r : Registry} {s : Service}

/-- Keeping clear of what exceptions have makes no name legal or illegal. -/
theorem isLegal_viewName_iff (ref : TypeRef) : IsLegal (viewName ref) ↔ ref.NamesView := by
  have hattributes : ∀ n ∈ exceptionAttributes,
      (n.toList.all isWordChar = true ∧ isClassName n = true) ∧
        (n ++ "_body").toList.all isWordChar = true ∧ isClassName (n ++ "_body") = true := by decide
  rw [← TypeRef.isLegal_errorVariable_iff]
  unfold viewName
  split
  · rename_i hm
    obtain ⟨hplain, hbody⟩ := hattributes _ (List.contains_iff_mem.mp hm)
    exact iff_of_true ⟨hbody.1, hbody.2⟩ ⟨hplain.1, hplain.2⟩
  · rfl

/-- **No body is read by a function that hides what exceptions have.** -/
theorem viewName_not_mem (ref : TypeRef) : viewName ref ∉ exceptionAttributes := by
  have hbody : ∀ n ∈ exceptionAttributes, n.toList.getLast? ≠ some 'y' := by decide
  have hlast : "_body".toList.getLast? = some 'y' := rfl
  unfold viewName
  split
  · exact fun hm => hbody _ hm (getLast?_append hlast)
  · rename_i hm
    rwa [List.contains_iff_mem] at hm

/-- **An error class has a view of its body**: one function besides the constructor, under a name that is
    neither the constructor's nor that of anything exceptions have. -/
structure Viewed (ref : TypeRef) (c : Source.Class) : Prop where
  name : c.name = ref.errorClass
  functions : ∃ init view, c.functions = [("__init__", init), (view.name, view)] ∧
    view.name = viewName ref ∧ view.name ≠ "__init__" ∧ view.name ∉ exceptionAttributes ∧
    (IsLegal view.name ↔ ref.NamesView)

theorem viewed_classOf (r : Registry) (ref : TypeRef) :
    Viewed ref (classOf r ref.errorClass ref) := by
  obtain ⟨init, view, hfunctions, hname, _⟩ := functions_classOf r ref.errorClass ref
  refine ⟨rfl, init, view, ?_, hname, ?_⟩
  · rw [hname]
    exact hfunctions
  · rw [hname]
    exact ⟨viewName_ne_constructor ref, viewName_not_mem ref, isLegal_viewName_iff ref⟩

/-- **Error classes have views of the bodies**: behind the two classes that no body needs, there is one for
    every error body and none besides, and each has its view. -/
theorem classes_viewed {cs : List Source.Class} (h : classes r s = .ok cs) : ∃ typed,
    cs = failedRequestClass :: invalidJsonClass :: typed ∧
    (∀ c ∈ typed, ∃ a ∈ bodies s, ∃ ref, r.parse a.type = .ok ref ∧ Viewed ref c) ∧
    ∀ a ∈ bodies s, ∃ ref, r.parse a.type = .ok ref ∧ ∃ c ∈ typed, Viewed ref c := by
  obtain ⟨types, htypes, rfl⟩ := classes_eq_ok.mp h
  refine ⟨_, rfl, fun c hc => ?_, fun a ha => ?_⟩
  · obtain ⟨d, hd, rfl⟩ := List.mem_map.mp hc
    obtain ⟨hname, a, ha, href⟩ := (mem_iff_of_all htypes).mp hd
    exact ⟨a, ha, d.2, href, hname ▸ viewed_classOf r d.2⟩
  · obtain ⟨ref, href⟩ := (exists_all_iff.mp ⟨types, htypes⟩).2.read a ha
    have hclass := exists_class htypes ha href
    exact ⟨ref, href, _, List.mem_map_of_mem hclass, viewed_classOf r ref⟩

/-- Service whose operations answer with errors of the types given, over models of the names given. -/
def erringWith (models types : List String) : Service :=
  { erring types with models := models.map fun name => { name } }

/-- A list is read under another name than that of the arguments of an exception; a map of a type that
    is named as a reserved word has a name of its own. -/
theorem classes_viewed_apart : ∃ r cs,
    Registry.ofService (erringWith ["arg", "import"] ["[arg]", "map[import]"]) Dialect.aiohttp = .ok r ∧
    classes r (erringWith ["arg", "import"] ["[arg]", "map[import]"]) = .ok cs ∧
    cs.map (fun c => Table.names c.functions) =
      [["__init__"], [], ["__init__", "args_body"], ["__init__", "import_map"]] ∧
    ∃ typed, cs = failedRequestClass :: invalidJsonClass :: typed ∧
      ∀ c ∈ typed, ∃ ref, Viewed ref c ∧ ref.NamesView := by
  have hlist : (Registry.mk Dialect.aiohttp [] [("arg", .model), ("import", .model)]).parse "[arg]" =
      .ok (.list (.named .model "arg")) := rfl
  have hmap : (Registry.mk Dialect.aiohttp [] [("arg", .model), ("import", .model)]).parse "map[import]" =
      .ok (.map (.named .model "import")) := rfl
  have hnames : ∃ cs, classes ⟨Dialect.aiohttp, [], [("arg", .model), ("import", .model)]⟩
      (erringWith ["arg", "import"] ["[arg]", "map[import]"]) = .ok cs ∧
      cs.map (fun c => Table.names c.functions) =
        [["__init__"], [], ["__init__", "args_body"], ["__init__", "import_map"]] := ⟨_, rfl, rfl⟩
  obtain ⟨cs, hcs, hnames⟩ := hnames
  obtain ⟨typed, htyped, hviewed, _⟩ := classes_viewed hcs
  refine ⟨_, cs, rfl, hcs, hnames, ?_⟩
  refine ⟨typed, htyped, fun c hc => ?_⟩
  obtain ⟨a, ha, ref, href, hview⟩ := hviewed c hc
  refine ⟨ref, hview, ?_⟩
  rcases List.mem_cons.mp ha with rfl | ha
  · rw [← Except.ok.inj (hlist.symm.trans href)]
    decide
  · obtain rfl := List.mem_singleton.mp ha
    rw [← Except.ok.inj (hmap.symm.trans href)]
    decide

/-- A body whose type is named as a reserved word is read by a function of that name. -/
theorem exists_view_illegal : ∃ r cs,
    Registry.ofService (erringWith ["import"] ["import"]) Dialect.aiohttp = .ok r ∧
    classes r (erringWith ["import"] ["import"]) = .ok cs ∧
    ∃ c ∈ cs, c.name = "ImportResponse" ∧ ∃ view ∈ Table.values c.functions, view.name = "import" ∧
      "import" ∈ hardKeywords ∧ ¬ IsLegal "import" := by
  have hillegal : ¬ IsLegal "import" := fun h => absurd h.isName (by decide)
  refine ⟨_, _, rfl, rfl, _, List.mem_cons_of_mem _ (List.mem_cons_of_mem _ List.mem_cons_self), rfl,
    _, List.mem_cons_of_mem _ List.mem_cons_self, rfl, by decide, hillegal⟩

end ErrorType

/-! ## 3. Attributes of models -/

/-- The name of an attribute is legal, whatever its field is named. -/
theorem isLegal_fieldName (s : String) : IsLegal (fieldName s) := by
  unfold fieldName
  exact (isLegal_safeName_snakeCase s).ite _

/-- No attribute has a name that is reserved. -/
theorem fieldName_not_mem_reservedFields (s : String) : fieldName s ∉ reservedFields := by
  have hends : ∀ n ∈ reservedFields, n.toList.getLast? ≠ some '_' := by decide
  unfold fieldName
  dsimp only
  split
  · exact fun hm => hends _ hm (getLast?_append (t := "_") rfl)
  · rename_i hfree
    rw [Bool.or_eq_true, not_or, List.contains_iff_mem] at hfree
    exact hfree.1

theorem startsWith_underscore_iff (s : String) :
    startsWith s "_" = true ↔ s.toList.head? = some '_' := by
  have hmark : "_".toList = ['_'] := rfl
  rw [startsWith_iff]
  constructor
  · rintro ⟨rest, rfl⟩
    exact head?_append rfl
  · intro h
    obtain ⟨cs, hcs⟩ := List.head?_eq_some_iff.mp h
    refine ⟨String.ofList cs, ?_⟩
    rw [← String.toList_inj, String.toList_append, hmark, String.toList_ofList, hcs,
      List.singleton_append]

/-- **An attribute starts with an underscore**, which marks it as private, where its field leads with no
    letter. -/
theorem startsWith_fieldName_iff (s : String) :
    startsWith (fieldName s) "_" = true ↔ leadsWithLetter s = false := by
  have hsafe := head?_safeName (s := snakeCase s) fun _ => isAlphanum_of_head?_snakeCase
  have hhead : (fieldName s).toList.head? = (safeName (snakeCase s)).toList.head? := by
    unfold fieldName
    dsimp only
    split
    · rw [head?_append hsafe, hsafe]
    · rfl
  rw [startsWith_underscore_iff, hhead, hsafe, head?_snakeCase, ← leadsWithLetter_snakeCase,
    leadsWithLetter, Option.some.injEq]
  cases lead? (snakeCase s) with
  | none => exact iff_of_true rfl rfl
  | some c =>
    rw [Option.filter_some, Option.any_some]
    cases hc : c.isAlpha with
    | true =>
      have hmark : c ≠ '_' := by
        rintro rfl
        cases hc
      exact iff_of_false hmark (by decide)
    | false => exact iff_of_true rfl rfl

/-- **An attribute is named for its field**: legally, as nothing reserved and not as the attribute that
    every model has; whether it is private the field's name decides. -/
structure Field.NamedFor (f : Field) (a : Source.Parameter) : Prop where
  name : a.name = fieldName f.name
  legal : IsLegal a.name
  unreserved : a.name ∉ reservedFields
  apart : a.name ≠ modelConfig.name
  private_iff : startsWith a.name "_" = true ↔ leadsWithLetter f.name = false

theorem Field.namedFor_of_name {f : Field} {a : Source.Parameter} (h : a.name = fieldName f.name) :
    f.NamedFor a where
  name := h
  legal := h ▸ isLegal_fieldName f.name
  unreserved := h ▸ fieldName_not_mem_reservedFields f.name
  apart := h ▸ fieldName_ne_modelConfig f.name
  private_iff := h ▸ startsWith_fieldName_iff f.name

/-- **Attributes of a model are named for its fields**, and none of them is private exactly where each
    field leads with a letter. -/
theorem ModelType.toClass_named {r : Registry} {m : ModelType} {c : Source.Class}
    (h : m.toClass r = .ok c) : ∃ as, c.parameters = modelConfig :: as ∧
      List.Forall₂ Field.NamedFor m.fields as ∧
      ((∀ a ∈ as, startsWith a.name "_" = false) ↔ ∀ f ∈ m.fields, leadsWithLetter f.name = true) := by
  obtain ⟨as, hparameters, hkept⟩ := (keptBy_of_toClass h).attributes
  have hnamed : List.Forall₂ Field.NamedFor m.fields as :=
    hkept.imp fun f a ha => Field.namedFor_of_name ha.name
  have hprivate : ∀ {f a}, Field.NamedFor f a →
      (startsWith a.name "_" = false ↔ leadsWithLetter f.name = true) := by
    intro f a ha
    rw [← Bool.not_eq_true, ha.private_iff, Bool.not_eq_false]
  refine ⟨as, hparameters, hnamed, fun hpublic f hf => ?_, fun hletters a ha => ?_⟩
  · obtain ⟨a, ha, hfa⟩ := exists_right_of_forall₂ hnamed hf
    exact (hprivate hfa).mp (hpublic a ha)
  · obtain ⟨f, hf, hfa⟩ := exists_left_of_forall₂ hnamed ha
    exact (hprivate hfa).mpr (hletters f hf)

/-- Model with a field of each name. -/
def modelWith (names : List String) : ModelType :=
  { name := "pass", fields := names.map fun name => ⟨name, "string", true, none, none⟩ }

/-- Names that are reserved, and those that have underscores in front, become public names. -/
theorem ModelType.toClass_named_reserved : ∃ c as,
    (modelWith ["class", "json", "model_config", "__id"]).toClass ⟨Dialect.aiohttp, [], []⟩ = .ok c ∧
    c.parameters = modelConfig :: as ∧
    as.map (·.name) = ["class_", "json_", "model_config_", "id"] ∧
    List.Forall₂ Field.NamedFor (modelWith ["class", "json", "model_config", "__id"]).fields as ∧
    ∀ a ∈ as, startsWith a.name "_" = false := by
  obtain ⟨as, hparameters, hnamed, hpublic⟩ := ModelType.toClass_named (r := ⟨Dialect.aiohttp, [], []⟩)
    (m := modelWith ["class", "json", "model_config", "__id"]) rfl
  obtain rfl := (List.cons.inj hparameters).2
  exact ⟨_, _, rfl, rfl, by decide, hnamed, hpublic.mpr (by decide)⟩

/-- A field that leads with a digit gives an attribute that starts with an underscore, as one without
    letters and digits of ASCII does. -/
theorem ModelType.exists_attribute_private : ∃ c a b,
    (modelWith ["2fa", "имя"]).toClass ⟨Dialect.aiohttp, [], []⟩ = .ok c ∧
    c.parameters = [modelConfig, a, b] ∧
    a.name = "_2fa" ∧ b.name = "_" ∧ startsWith a.name "_" = true ∧ startsWith b.name "_" = true :=
  ⟨_, _, _, rfl, rfl, rfl, rfl, rfl, rfl⟩

end ClientGen
