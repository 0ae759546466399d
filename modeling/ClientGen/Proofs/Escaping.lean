import ClientGen.Proofs.Accessors
import ClientGen.Proofs.Signatures

/-!
# Names made fit for code

Arguments, members of enums, attributes of the client and methods are named after texts in any
spelling, with letters of any script or none at all. Each kind of name is made in its own way: in
capitals, with a word in front, from several texts, or clear of some names. This file fixes

* `Text.all_isWordChar_toUpper`, `all_isWordChar_join`: names that are made large or put together
  have letters and digits of ASCII and underscores as before;
* `isLegal_enumMemberName`, `isLegal_accessorName`, `isLegal_methodNameOf`: what is made is legal
  wherever code declares it, as it is for arguments;
* `names_legal`: all kinds at once, with the names that each keeps clear of.
-/

namespace ClientGen

open ClientGen.Text

/-! ## 1. Letters, digits and underscores -/

namespace Text

theorem upperOf_underscore : upperOf '_' = ['_'] := rfl

/-- Large letters are as good for a name as small ones. -/
theorem all_isWordChar_toUpper {s : String} (h : s.toList.all isWordChar = true) :
    (toUpper s).toList.all isWordChar = true := by
  rw [toUpper, String.toList_ofList, List.all_flatMap]
  refine List.all_eq_true.mpr fun c hc => ?_
  rcases isWordChar_iff.mp (List.all_eq_true.mp h c hc) with halnum | rfl
  · rw [upperOf_of_isAlphanum halnum, List.all_cons, List.all_nil, Bool.and_true, isWordChar_iff]
    exact .inl (isAlphanum_toUpper halnum)
  · rw [upperOf_underscore]
    rfl

theorem all_isWordChar_join {sep : String} (hsep : sep.toList.all isWordChar = true) {ss : List String}
    (h : ∀ s ∈ ss, s.toList.all isWordChar = true) : (join sep ss).toList.all isWordChar = true := by
  induction ss with
  | nil => rfl
  | cons s rest ih =>
    obtain ⟨hs, hrest⟩ := List.forall_mem_cons.mp h
    cases rest with
    | nil => exact hs
    | cons t rest =>
      rw [join_cons_cons]
      exact all_isWordChar_append (all_isWordChar_append hs hsep) (ih hrest)

end Text

/-! ## 2. Each kind of name -/

/-- The name of a member is legal, whatever the value that it stands for. -/
theorem isLegal_enumMemberName (value : String) : IsLegal (enumMemberName value) := by
  have hupper := all_isWordChar_toUpper (all_isWordChar_snakeCase value)
  unfold enumMemberName
  refine isLegal_safeName ?_
  split
  · exact all_isWordChar_append rfl hupper
  · exact hupper

namespace ClientMethod

/-- The client holds every resource under a legal name, whatever its plural. -/
theorem isLegal_accessorName (x : Resource) : IsLegal (accessorName x) := by
  unfold accessorName
  exact (isLegal_safeName_snakeCase x.plural).ite _

end ClientMethod

namespace Endpoint

/-- A verb, the texts of a path and the words between them have no other characters. -/
theorem all_isWordChar_nameOf (verb : Verb) (path : String) :
    (nameOf verb path).toList.all isWordChar = true := by
  have hverb : verb.word.toList.all isWordChar = true := by cases verb <;> decide
  have hjoined : ∀ ss : List String, (join "_and_" (ss.map snakeCase)).toList.all isWordChar = true := by
    refine fun ss => all_isWordChar_join (by decide) fun s hs => ?_
    obtain ⟨t, _, rfl⟩ := List.mem_map.mp hs
    exact all_isWordChar_snakeCase t
  unfold nameOf
  refine all_isWordChar_join (by decide) fun s hs => ?_
  rcases List.mem_cons.mp hs with rfl | hs
  · exact hverb
  rcases List.mem_append.mp hs with hs | hs
  · split at hs
    · cases hs
    · rw [List.mem_singleton.mp hs]
      exact hjoined _
  · split at hs
    · cases hs
    · rcases List.mem_cons.mp hs with rfl | hs
      · decide
      · rw [List.mem_singleton.mp hs]
        exact hjoined _

theorem isLegal_methodNameOf (x : Resource) (o : Operation) : IsLegal (methodNameOf x o) :=
  isLegal_safeName (all_isWordChar_nameOf o.verb (relativePath x o.path))

/-- The word that starts the name of a method is the verb in small letters. -/
theorem toLower_text (verb : Verb) : toLower verb.text = verb.word := by
  cases verb <;> rfl

theorem startsWith_methodNameOf (x : Resource) (o : Operation) :
    startsWith (methodNameOf x o) (toLower o.verb.text) = true := by
  rw [methodNameOf_eq, toLower_text]
  exact startsWith_nameOf o.verb (relativePath x o.path)

end Endpoint

/-! ## 3. All kinds -/

/-- **Names are made fit for code**: whatever the texts that they are made from, the names of arguments,
    of members of enums, of what the client holds and of methods are legal; arguments keep clear of the
    names that the body of a method uses, what the client holds of its own attributes, and methods,
    which start with their verb, of its constructor. An endpoint has the names that are made for its
    method and its arguments. In texts, the 2048 characters from U+10A000 stand for lone surrogates. -/
theorem names_legal :
    (∀ s : String, IsLegal (argumentName s) ∧ argumentName s ∉ reservedNames) ∧
    (∀ s : String, IsLegal (enumMemberName s)) ∧
    (∀ x : Resource, IsLegal (ClientMethod.accessorName x) ∧
      ClientMethod.accessorName x ∉ ClientMethod.clientAttributes) ∧
    (∀ (x : Resource) (o : Operation), IsLegal (Endpoint.methodNameOf x o) ∧
      startsWith (Endpoint.methodNameOf x o) (toLower o.verb.text) = true ∧
      Endpoint.methodNameOf x o ≠ "__init__") ∧
    ∀ (r : Registry) (x : Resource) (o : Operation) (e : Endpoint), Endpoint.ofOperation r x o = .ok e →
      e.methodName = Endpoint.methodNameOf x o ∧ ∀ a ∈ e.arguments, a.argName = argumentName a.name := by
  refine ⟨?_, isLegal_enumMemberName, ?_, ?_, ?_⟩
  · exact fun s => ⟨isLegal_argumentName s, argumentName_not_mem s⟩
  · exact fun x => ⟨ClientMethod.isLegal_accessorName x,
      ClientMethod.accessorName_not_mem_clientAttributes x⟩
  · intro x o
    exact ⟨Endpoint.isLegal_methodNameOf x o, Endpoint.startsWith_methodNameOf x o,
      Endpoint.methodNameOf_ne_constructor x o⟩
  · intro r x o e he
    have hb := Endpoint.ofOperation_eq_ok.mp he
    exact ⟨hb.methodName_eq, fun a ha => (ClientMethod.of_mem_arguments hb ha).1⟩

/-- Resource named like an attribute of the client. -/
def closeResource : Resource := { type := "page", plural := "close" }

/-- Operation whose path has a reserved word, a text without a letter of ASCII and one with a digit in
    front. -/
def deleteOperation : Operation := { verb := .delete, path := "/:class/ключ/3d" }

/-- Names without a letter, with a digit in front, and that are kept clear of. -/
theorem names_legal_odd : ∃ e,
    Endpoint.ofOperation ⟨Dialect.aiohttp, [], []⟩ closeResource deleteOperation = .ok e ∧
    e.methodName = "delete__and_3d_by_class" ∧ IsLegal e.methodName ∧
    startsWith e.methodName "delete" = true ∧ e.methodName ≠ "__init__" ∧
    e.arguments.map (·.argName) = ["class_"] ∧ (∀ a ∈ e.arguments, IsLegal a.argName) ∧
    argumentName "ключ" = "_" ∧ argumentName "self" = "self_" ∧ IsLegal "_" ∧ IsLegal "self_" ∧
    "self_" ∉ reservedNames ∧
    enumMemberName "ключ" = "VALUE_" ∧ enumMemberName "42" = "VALUE_42" ∧ IsLegal "VALUE_42" ∧
    ClientMethod.accessorName closeResource = "close_" ∧ IsLegal "close_" ∧
    "close_" ∉ ClientMethod.clientAttributes := by
  have he : ∃ e, Endpoint.ofOperation ⟨Dialect.aiohttp, [], []⟩ closeResource deleteOperation = .ok e ∧
      e.methodName = "delete__and_3d_by_class" ∧ e.arguments.map (·.argName) = ["class_"] :=
    ⟨_, rfl, rfl, rfl⟩
  have hblank : argumentName "ключ" = "_" := rfl
  have hself : argumentName "self" = "self_" := rfl
  have hnumber : enumMemberName "42" = "VALUE_42" := rfl
  have hclose : ClientMethod.accessorName closeResource = "close_" := rfl
  obtain ⟨e, he, hname, harguments⟩ := he
  obtain ⟨hargument, hmember, haccessor, hmethod, hendpoint⟩ := names_legal
  obtain ⟨hmethodName, hargNames⟩ := hendpoint _ _ _ _ he
  obtain ⟨hlegal, hverb, hconstructor⟩ := hmethod closeResource deleteOperation
  rw [← hmethodName] at hlegal hverb hconstructor
  refine ⟨e, he, hname, hlegal, hverb, hconstructor, harguments, fun a ha => ?_, hblank, hself,
    hblank ▸ (hargument "ключ").1, hself ▸ (hargument "self").1, hself ▸ (hargument "self").2, rfl, hnumber,
    hnumber ▸ hmember "42", hclose, hclose ▸ (haccessor closeResource).1,
    hclose ▸ (haccessor closeResource).2⟩
  rw [hargNames a ha]
  exact (hargument a.name).1

end ClientGen
