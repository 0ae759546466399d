import ClientGen.Proofs.Accessors
import ClientGen.Proofs.Layout
import ClientGen.Proofs.PathText

/-!
# Declared names in the files of a package

Names that go over the wire stand in generated code as literals: the declared name of a model's field
where its attribute has another one, and the names of parameters that are sent in the query or in the
form. Each is put between double quotes as it is, and the code around it is then laid out up to the
file. This file fixes

* `Class.standsIn_attribute`, `Class.standsIn_function`, `Function.standsIn_part`,
  `File.standsIn_class`: what the parts of a file become in it;
* `Request.standsIn_query`, `Request.standsIn_form`: the entries that send a parameter;
* `Package.SentFrom`: every request is sent from the client file, at one depth;
* `Package.CarriesNames`, `ofService_carriesNames`: every such name has its literal in the text of the
  models file or of the client file, and what the literal stands for.
-/

namespace ClientGen

open ClientGen.Text ClientGen.Literal

/-! ## 1. Parts of a file -/

namespace Source

theorem mem_byRank {ranked : List (Int × String)} {e : Int × String} (h : e ∈ ranked) :
    e.2 ∈ byRank ranked :=
  List.mem_map_of_mem ((sortBy_perm _ ranked).mem_iff.mpr h)

theorem Block.text_ofCode (code : String) : (Block.ofCode code).text = expandTabs code := rfl

theorem Class.text_ne_empty (c : Class) : c.text ≠ "" := by
  have hkeyword : "class " ≠ "" := by decide
  have hheader : c.header ≠ "" := append_ne_empty (append_ne_empty (append_ne_empty hkeyword c.name) _) ":"
  exact append_ne_empty (append_ne_empty hheader "\n") _

theorem Function.text_ne_empty (g : Function) : g.text ≠ "" := by
  have hkeyword : (if g.isAsync then "async " else "") ++ "def " ≠ "" :=
    fun he => absurd (String.append_eq_empty_iff.mp he).2 (by decide)
  have hheader : g.header ≠ "" :=
    append_ne_empty (append_ne_empty (append_ne_empty (append_ne_empty
      (append_ne_empty hkeyword _) _) _) _) _
  exact (StandsIn.of_mem_unlines (List.mem_append_right _ List.mem_cons_self)).ne_empty hheader

/-- A member stands in its class one level deeper. -/
theorem Class.standsIn_member {c : Class} {t : String} (h : t ∈ c.members) :
    StandsIn c.text (indent t) := by
  have hne : c.members.isEmpty = false := List.isEmpty_eq_false_iff_exists_mem.mpr ⟨t, h⟩
  have hmembers : StandsIn (join "\n\n" c.members) t :=
    .of_mem_join StandsIn.breaksLines_blank h
  unfold Class.text
  rw [hne, if_neg Bool.false_ne_true]
  exact (StandsIn.behind c.header _).trans (hmembers.indentBy 1)

/-- An attribute stands in its class one level deeper. -/
theorem Class.standsIn_attribute {c : Class} {a : Parameter} (h : a ∈ c.parameters) :
    StandsIn c.text (indent a.text) := by
  have hne : c.parameters.isEmpty = false := List.isEmpty_eq_false_iff_exists_mem.mpr ⟨a, h⟩
  have hattributes : c.attributes = some (unlines (c.parameters.map (·.text))) :=
    if_neg (by rw [hne]; exact Bool.false_ne_true)
  have hmember : unlines (c.parameters.map (·.text)) ∈ c.members := by
    unfold Class.members
    rw [hattributes]
    exact List.mem_append_left _ (List.mem_append_right _ (List.mem_singleton_self _))
  exact (Class.standsIn_member hmember).trans
    ((StandsIn.of_mem_unlines (List.mem_map_of_mem h)).indentBy 1)

/-- A function stands in its class one level deeper. -/
theorem Class.standsIn_function {c : Class} {e : String × Function} (h : e ∈ c.functions) :
    StandsIn c.text (indent e.2.text) := by
  have hranked : (e.2.order, e.2.text) ∈ c.ranked :=
    List.mem_append_right _ (List.mem_map_of_mem (List.mem_map_of_mem h))
  exact Class.standsIn_member (List.mem_append_right _ (mem_byRank hranked))

/-- Documentation and code of a function stand in it one level deeper. -/
theorem Function.standsIn_part {f : Function} {t : String}
    (h : t ∈ [f.docstring.getD "", (f.code.map (·.text)).getD ""]) (hne : t ≠ "") :
    StandsIn f.text (indent t) := by
  have hpart : StandsIn
      (Block.joinTexts "\n\n" [f.docstring.getD "", (f.code.map (·.text)).getD ""]) t :=
    .of_mem_joinTexts StandsIn.breaksLines_blank h hne
  have hbody : StandsIn f.body t := by
    unfold Function.body
    dsimp only
    rw [if_neg (hpart.ne_empty hne)]
    exact hpart
  have hindented : indent f.body ∈ f.decorators ++ [f.header, indent f.body] :=
    List.mem_append_right _ (List.mem_cons_of_mem _ (List.mem_singleton_self _))
  exact (StandsIn.of_mem_unlines hindented).trans (hbody.indentBy 1)

/-- The code of a function stands in it one level deeper. -/
theorem Function.standsIn_code {f : Function} {b : Block} (h : f.code = some b) (hne : b.text ≠ "") :
    StandsIn f.text (indent b.text) := by
  refine Function.standsIn_part ?_ hne
  rw [h]
  exact List.mem_cons_of_mem _ (List.mem_singleton_self _)

/-- A class stands in its file, its tabs written as spaces. -/
theorem File.standsIn_class {f : File} {e : String × Class} (h : e ∈ f.classes) :
    StandsIn f.text (expandTabs e.2.text) := by
  have hranked : (e.2.order, e.2.text) ∈ f.ranked :=
    List.mem_append_right _ (List.mem_map_of_mem (List.mem_map_of_mem h))
  have hmembers : StandsIn (join "\n\n\n" (byRank f.ranked)) e.2.text :=
    .of_mem_join StandsIn.breaksLines_blanks (mem_byRank hranked)
  have hparts : StandsIn
      (Block.joinTexts "\n\n\n" [unlines f.imports, join "\n\n\n" (byRank f.ranked)])
      (join "\n\n\n" (byRank f.ranked)) :=
    .of_mem_joinTexts StandsIn.breaksLines_blanks (List.mem_cons_of_mem _ (List.mem_singleton_self _))
      (hmembers.ne_empty (Class.text_ne_empty e.2))
  have hend := StandsIn.ahead
    (expandTabs (Block.joinTexts "\n\n\n" [unlines f.imports, join "\n\n\n" (byRank f.ranked)])) ""
  rw [String.append_empty] at hend
  exact hend.trans (hparts.trans hmembers).expandTabs

end Source

/-! ## 2. Statements of a request -/

/-- Entry of the query for a parameter. -/
def QueryEntry.text (q : QueryEntry) : String :=
  "*common.query_pairs(" ++ ("\"" ++ (q.wireName ++ ("\"" ++ (", " ++ q.argName ++ "),"))))

/-- Entry of the form for a parameter. -/
def FormEntry.text (f : FormEntry) : String :=
  "\"" ++ (f.wireName ++ ("\"" ++ (": common.to_json(" ++ (f.type ++ ", " ++ f.argName ++ "),"))))

namespace Request

variable {q : Request} {variable_ t : String}

theorem queryText_eq {qs : List QueryEntry} (hne : qs ≠ []) : queryText qs =
    "query_parameters = [" ++ "\n" ++ indent (unlines (qs.map (·.text))) ++ "\n" ++ "]" := by
  have hentry : ∀ q ∈ qs, "*common.query_pairs(\"" ++ q.wireName ++ "\", " ++ q.argName ++ ")," =
      q.text := by
    intro q _
    have hopening : "*common.query_pairs(\"" = "*common.query_pairs(" ++ "\"" := by decide
    have hbetween : "\", " = "\"" ++ ", " := by decide
    have htext : q.text = "*common.query_pairs(" ++ ("\"" ++ (q.wireName ++ ("\"" ++
      (", " ++ q.argName ++ "),")))) := rfl
    rw [htext, hopening, hbetween]
    simp only [String.append_assoc]
  have hopening : "query_parameters = [\n" = "query_parameters = [" ++ "\n" := by decide
  have hclosing : "\n]" = "\n" ++ "]" := by decide
  rw [queryText, List.map_congr_left hentry, hopening, hclosing]
  · simp only [String.append_assoc]
  · exact hne

theorem payloadText_form (fs : List FormEntry) : payloadText (.form fs) =
    "payload = \x7b" ++ "\n" ++ indent (unlines (fs.map (·.text))) ++ "\n" ++ "\x7d" := by
  have hentry : ∀ f ∈ fs, "\"" ++ f.wireName ++ "\": common.to_json(" ++ f.type ++ ", "
      ++ f.argName ++ ")," = f.text := by
    intro f _
    have hbetween : "\": common.to_json(" = "\"" ++ ": common.to_json(" := by decide
    have htext : f.text = "\"" ++ (f.wireName ++ ("\"" ++ (": common.to_json(" ++
      (f.type ++ ", " ++ f.argName ++ "),")))) := rfl
    rw [htext, hbetween]
    simp only [String.append_assoc]
  have hopening : "payload = \x7b\n" = "payload = \x7b" ++ "\n" := by decide
  have hclosing : "\n\x7d" = "\n" ++ "\x7d" := by decide
  have htext : payloadText (.form fs) = "payload = \x7b\n" ++ indent (unlines (fs.map fun f =>
      "\"" ++ f.wireName ++ "\": common.to_json(" ++ f.type ++ ", " ++ f.argName ++ "),")) ++ "\n\x7d" := rfl
  rw [htext, List.map_congr_left hentry, hopening, hclosing]
  simp only [String.append_assoc]

/-- An entry stands in its list one level deeper. -/
theorem standsIn_listed (opening closing : String) {ts : List String} (h : t ∈ ts) :
    StandsIn (opening ++ "\n" ++ indent (unlines ts) ++ "\n" ++ closing) (indent t) :=
  (StandsIn.between opening _ closing).trans ((StandsIn.of_mem_unlines h).indentBy 1)

theorem listed_ne_empty {opening : String} (h : opening ≠ "") (body closing : String) :
    opening ++ "\n" ++ body ++ "\n" ++ closing ≠ "" :=
  append_ne_empty (append_ne_empty (append_ne_empty (append_ne_empty h _) _) _) _

theorem text_eq_joinTexts (q : Request) (variable_ : String) : q.text variable_ =
    Source.Block.joinTexts "\n\n" [payloadText q.payload, queryText q.query,
      variable_ ++ " = await self._client._execute_request(" ++ join ", " q.callArguments ++ ")"] := rfl

theorem standsIn_part {parts : List String} (h : t ∈ parts) (hne : t ≠ "") :
    StandsIn (Source.Block.joinTexts "\n\n" parts) t :=
  .of_mem_joinTexts StandsIn.breaksLines_blank h hne

/-- A parameter of the query stands in the code that sends the request. -/
theorem standsIn_query {x : QueryEntry} (h : x ∈ q.query) :
    StandsIn (q.text variable_) (indent x.text) := by
  have hquery := queryText_eq (List.ne_nil_of_mem h)
  have hne : queryText q.query ≠ "" := by
    rw [hquery]
    exact listed_ne_empty (by decide) _ _
  have hpart : StandsIn (q.text variable_) (queryText q.query) := by
    rw [text_eq_joinTexts]
    exact standsIn_part (List.mem_cons_of_mem _ List.mem_cons_self) hne
  refine hpart.trans ?_
  rw [hquery]
  exact standsIn_listed _ _ (List.mem_map_of_mem h)

/-- A parameter of the form stands in the code that sends the request. -/
theorem standsIn_form {x : FormEntry} (h : x ∈ q.payload.fields) :
    StandsIn (q.text variable_) (indent x.text) := by
  cases hp : q.payload with
  | empty =>
    rw [hp] at h
    exact absurd h List.not_mem_nil
  | body type argName =>
    rw [hp] at h
    exact absurd h List.not_mem_nil
  | form fs =>
    rw [hp] at h
    have hne : payloadText q.payload ≠ "" := by
      rw [hp, payloadText_form]
      exact listed_ne_empty (by decide) _ _
    have hpart : StandsIn (q.text variable_) (payloadText q.payload) := by
      rw [text_eq_joinTexts]
      exact standsIn_part List.mem_cons_self hne
    refine hpart.trans ?_
    rw [hp, payloadText_form]
    exact standsIn_listed _ _ (List.mem_map_of_mem h)

/-- The call itself is always there. -/
theorem text_ne_empty (q : Request) (variable_ : String) : q.text variable_ ≠ "" := by
  have hawait : variable_ ++ " = await self._client._execute_request(" ≠ "" :=
    fun he => absurd (String.append_eq_empty_iff.mp he).2 (by decide)
  have hcall := append_ne_empty (append_ne_empty hawait (join ", " q.callArguments)) ")"
  rw [text_eq_joinTexts]
  exact (standsIn_part (List.mem_cons_of_mem _ (List.mem_cons_of_mem _ List.mem_cons_self))
    hcall).ne_empty hcall

end Request

namespace ClientMethod

/-- A statement of a request stands in the implementation of its method. -/
theorem standsIn_implementation {m : ClientMethod} {t : String}
    (h : StandsIn (m.request.text m.settings.responseVariable) (indent t)) :
    StandsIn m.implementation.text (placed 2 t) := by
  have hcall : StandsIn m.call.text (placed 1 t) := h.expandTabs
  have hne : m.call.text ≠ "" := expandTabs_ne_empty (Request.text_ne_empty _ _)
  have hstack : StandsIn (Source.Block.stack [m.call.text, m.response.text]) m.call.text :=
    .of_mem_joinTexts StandsIn.breaksLines_break List.mem_cons_self hne
  have hcode := (hstack.trans hcall).expandTabs_of_placed
  have hcodene := expandTabs_ne_empty (hstack.ne_empty hne)
  rw [← Source.Block.text_ofCode] at hcode hcodene
  have hfunction : StandsIn m.implementation.text _ := Source.Function.standsIn_code rfl hcodene
  exact hfunction.trans hcode.indent_of_placed

end ClientMethod

/-! ## 3. Attributes of models -/

theorem isFlat_of_padded {s t : String} (h : Padded (snakeCase s) t) : IsFlat t :=
  ⟨fun hm => absurd (h.isWordChar_of_mem hm) (by decide),
    fun hm => absurd (h.isWordChar_of_mem hm) (by decide)⟩

theorem isFlat_fieldName (name : String) : IsFlat (fieldName name) := by
  have hpadded : Padded (snakeCase name) (fieldName name) := by
    unfold fieldName
    exact (Padded.of_safeName _).ite _
  exact isFlat_of_padded hpadded

/-- An attribute with another name than the field carries the field's as the last part of its default. -/
theorem aliasedDefault_of_ne {declared name : String} (hne : name ≠ declared) (default : Option String) :
    ∃ before, aliasedDefault declared name default =
      some (before ++ ("alias=" ++ ("\"" ++ (declared ++ ("\"" ++ ")"))))) := by
  have hopening : "alias=\"" = "alias=" ++ "\"" := by decide
  rw [aliasedDefault, if_neg hne, hopening]
  cases default with
  | none =>
    refine ⟨"Field(", ?_⟩
    dsimp only [Option.map_none, Option.toList_none, List.nil_append]
    rw [join_singleton]
    simp only [String.append_assoc]
  | some d =>
    refine ⟨"Field(" ++ ("default=" ++ (d ++ ", ")), ?_⟩
    dsimp only [Option.map_some, Option.toList_some, List.singleton_append]
    rw [join_cons_cons, join_singleton]
    simp only [String.append_assoc]

theorem Field.text_of_toAttribute {r : Registry} {model : String} {f : Field} {a : Source.Parameter}
    (h : f.toAttribute r model = .ok a) (hne : fieldName f.name ≠ f.name) : ∃ before,
    a.text = fieldName f.name ++
      (": " ++ (before ++ ("alias=" ++ ("\"" ++ (f.name ++ ("\"" ++ ")")))))) := by
  obtain ⟨⟨ref, default⟩, _, h⟩ := bind_eq_ok.mp h
  rw [pure_eq_ok] at h
  obtain ⟨before, hbefore⟩ := aliasedDefault_of_ne hne default
  refine ⟨(r.localTypeOf ref).text ++ " = " ++ before, ?_⟩
  subst h
  unfold Source.Parameter.text
  dsimp only [Option.map_some, Option.getD_some]
  rw [hbefore]
  simp only [Option.map_some, Option.getD_some, String.append_assoc]

/-- The declared name is embedded where the attribute stands. -/
theorem Field.embeds_of_toAttribute {r : Registry} {model : String} {f : Field} {a : Source.Parameter}
    {text : String} (h : f.toAttribute r model = .ok a) (hne : fieldName f.name ≠ f.name)
    (hs : StandsIn text (placed 1 a.text)) :
    ∃ lead, Embeds text 1 (fieldName f.name ++ ": " ++ lead ++ "alias=") f.name ")" := by
  obtain ⟨before, htext⟩ := f.text_of_toAttribute h hne
  have hname := isFlat_fieldName f.name
  have hcolon : IsFlat ": " := by decide
  have halias : IsFlat "alias=" := by decide
  have hclosing : IsFlat ")" := by decide
  have hquote : expandTabs "\"" = "\"" := by decide
  have hbegins : Begins ": " := ⟨':', [' '], rfl, rfl⟩
  have hbegins' : Begins "alias=" := ⟨'a', "lias=".toList, rfl, rfl⟩
  -- what is before the name need not be in one line, so it is laid out as the name is
  refine ⟨laidOut 1 before, ⟨"", ?_⟩, fun _ => plain?_embedded_iff⟩
  rw [htext, placed, indentBy_append hname.1 (hbegins.append _), continued_append_of_inLine hcolon.1,
    continued_append (hbegins'.append _), continued_append_quoted 1 halias.1,
    continued_of_inLine hclosing.1] at hs
  simp only [expandTabs_append, expandTabs_margin, expandTabs_of_not_mem hname.2,
    expandTabs_of_not_mem hcolon.2, expandTabs_of_not_mem halias.2, expandTabs_of_not_mem hclosing.2,
    hquote] at hs
  simpa only [embedded, laidOut, String.append_assoc, String.append_empty] using hs

/-- Each field has its attribute. -/
theorem ModelType.exists_attribute {r : Registry} {m : ModelType} {c : Source.Class}
    (h : m.toClass r = .ok c) {f : Field} (hf : f ∈ m.fields) :
    ∃ a ∈ c.parameters, f.toAttribute r m.name = .ok a := by
  obtain ⟨as, has, rfl⟩ := toClass_eq_ok.mp h
  obtain ⟨a, ha, hfa⟩ := exists_right_of_forall₂ (modelAttributes_eq_ok.mp has).1 hf
  exact ⟨a, List.mem_cons_of_mem _ ha, hfa⟩

/-! ## 4. Parameters in the query and in the form -/

namespace Endpoint

/-- **Parameters of an operation that are sent at a location**; those named by a placeholder are sent in
    the path. -/
def sentIn (l : Location) (o : Operation) : List Parameter :=
  o.parameters.filter fun p => p.location = l && !(placeholdersOf o.path).contains p.name

variable {r : Registry} {resource : Resource} {o : Operation} {e : Endpoint}

theorem BuiltFrom.forall₂_sentIn (h : BuiltFrom r resource o e) {l : Location} (hl : l ≠ .path) :
    List.Forall₂ (fun p a => a.name = p.name ∧ a.argName = argumentName p.name)
      (sentIn l o) (e.parametersIn l) := by
  obtain ⟨rest, hps, _, ha⟩ := h.exists_arranged
  have hrest : List.Forall₂ (fun p a => argumentOf r p p.location = .ok a)
      ((o.parameters.filter fun p => !(placeholdersOf o.path).contains p.name).filter (·.location = l))
      (rest.filter (·.location = some l)) := by
    refine List.rel_filter ?_ (h.placeholders_eq ▸ ha.rest)
    intro p a hpa
    simp [(standsFor_of_argumentOf hpa).location]
  rw [List.filter_filter] at hrest
  rw [BuiltFrom.parametersIn_eq hps ha hl]
  refine hrest.imp fun p a hpa => ?_
  have hs := standsFor_of_argumentOf hpa
  exact ⟨hs.name, hs.argName⟩

end Endpoint

/-! ## 5. Files of a package -/

namespace Package

variable {r : Registry} {s : Service} {settings : Settings} {o : Origin}

/-- Every model has its class in the models file. -/
theorem class_of_modelsFile (hr : Registry.DeclaredBy s settings r) {file : Source.File}
    (h : modelsFile r s = .ok file) {m : ModelType} (hm : m ∈ s.models) :
    ∃ c, m.toClass r = .ok c ∧ ∃ e ∈ file.classes, e.2 = c.withRank 3 := by
  obtain ⟨enums, models, cs, _, hmodels, _, rfl⟩ := modelsFile_eq hr h
  obtain ⟨c, hc, hmc⟩ := exists_right_of_forall₂ hmodels hm
  have hclass : c.withRank 3 ∈ rankedClasses enums models :=
    List.mem_append_right _ (List.mem_map_of_mem hc)
  exact ⟨c, hmc, _, List.mem_map_of_mem hclass, rfl⟩

theorem objectName_ne_client (x : Resource) : ClientMethod.objectName x ≠ "ApiClient" := by
  intro h
  have hlast : "Endpoints".toList.getLast? = some 's' := by decide
  have hname := getLast?_append (s := ClientMethod.traitName x) hlast
  rw [← ClientMethod.objectName, h] at hname
  exact absurd hname (by decide)

/-- Classes of the client file: the implementations of resources, ranked, then the client's own. -/
def clientClasses (s : Service) (objects : List Source.Class) : List Source.Class :=
  objects.map (·.withRank 1) ++ [clientClass s]

section ClientClasses

variable {objects : List Source.Class}
  (hobjects : List.Forall₂ (fun x c => ∃ ms, (ClientMethod.ofResource r x).outcome = .ok ms ∧
    ClientMethod.objectOf x ms = c) s.sortedResources objects)

include hobjects

theorem names_clientClasses : (clientClasses s objects).map (·.name) =
    s.sortedResources.map ClientMethod.objectName ++ ["ApiClient"] := by
  have hmap : s.sortedResources.map ClientMethod.objectName = objects.map (·.name) :=
    map_eq_of_forall₂ hobjects fun x c hc => by
      obtain ⟨ms, _, rfl⟩ := hc
      exact (ClientMethod.name_objectOf ms).symm
  rw [clientClasses, hmap, List.map_append, List.map_map]
  rfl

theorem nodup_clientClasses (hd : (s.resources.map ClientMethod.traitName).Nodup) :
    ((clientClasses s objects).map (·.name)).Nodup := by
  rw [names_clientClasses hobjects]
  refine List.nodup_append.mpr ⟨?_, List.nodup_singleton _, ?_⟩
  · have htraits : (s.sortedResources.map ClientMethod.traitName).Nodup :=
      ((sortBy_perm _ s.resources).map _).nodup_iff.mpr hd
    refine List.Nodup.map_on (fun x hx y hy he => ?_) (List.Nodup.of_map _ htraits)
    exact List.inj_on_of_nodup_map htraits hx hy (ClientMethod.objectName_inj he)
  · intro name hname client hclient he
    obtain ⟨x, _, rfl⟩ := List.mem_map.mp hname
    exact objectName_ne_client x (he.trans (List.mem_singleton.mp hclient))

end ClientClasses

/-- Every resource has its implementation in the client file. -/
theorem object_of_clientFile (hd : (s.resources.map ClientMethod.traitName).Nodup) {file : Source.File}
    (h : (clientFile r s).outcome = .ok file) {x : Resource} (hx : x ∈ s.resources) :
    ∃ ms, (ClientMethod.ofResource r x).outcome = .ok ms ∧
      ∃ e ∈ file.classes, e.2 = (ClientMethod.objectOf x ms).withRank 1 := by
  obtain ⟨objects, hobjects, h⟩ := Traced.outcome_bind_eq_ok.mp h
  rw [Traced.outcome_pure_eq_ok, ← clientClasses] at h
  have hobjects := ClientMethod.outcome_mapM_classes.mp hobjects
  rw [Source.File.foldl_addClass_of_nodup rfl (nodup_clientClasses hobjects hd)] at h
  subst h
  obtain ⟨c, hc, ms, hms, rfl⟩ :=
    exists_right_of_forall₂ hobjects ((sortBy_perm _ s.resources).mem_iff.mpr hx)
  have hclass : (ClientMethod.objectOf x ms).withRank 1 ∈ clientClasses s objects :=
    List.mem_append_left _ (List.mem_map_of_mem hc)
  exact ⟨ms, hms, _, List.mem_map_of_mem hclass, rfl⟩

/-- **A request is sent from a text**: each statement of its code stands in the text, three levels
    deep. -/
def SentFrom (text : String) (q : Request) : Prop :=
  ∀ t, (∀ variable_, StandsIn (q.text variable_) (indent t)) → StandsIn text (placed 3 t)

/-- The request of every operation is sent from the client file. -/
theorem sentFrom_clientFile (hd : (s.resources.map ClientMethod.traitName).Nodup) {file : Source.File}
    (h : (clientFile r s).outcome = .ok file) {x : Resource} (hx : x ∈ s.resources) {op : Operation}
    (hop : op ∈ x.operations) :
    ∃ e, Endpoint.BuiltFrom r x op e ∧ SentFrom file.text (Request.ofEndpoint e) := by
  obtain ⟨ms, hms, entry, hentry, hclass⟩ := object_of_clientFile hd h hx
  obtain ⟨m, hm, e, he, hme⟩ :=
    exists_right_of_forall₂ (ClientMethod.ofResource_eq_ok.mp hms).1 hop
  refine ⟨e, he, fun t ht => ?_⟩
  have hrequest : m.request = Request.ofEndpoint e := by
    obtain ⟨t, _, _, rfl⟩ := ClientMethod.ofEndpoint_eq_ok.mp hme
    rfl
  have hmethod : StandsIn m.implementation.text (placed 2 t) :=
    ClientMethod.standsIn_implementation (hrequest ▸ ht _)
  have hfunction : (m.name, m.implementation) ∈ entry.2.functions := by
    have hfunctions : entry.2.functions = (ClientMethod.objectOf x ms).functions := by
      rw [hclass]
      rfl
    rw [hfunctions, ClientMethod.functions_objectOf (ClientMethod.nodup_names_of_ofResource hms)]
    exact List.mem_cons_of_mem _ (List.mem_map_of_mem hm)
  have hobject : StandsIn entry.2.text (placed 3 t) :=
    (Source.Class.standsIn_function hfunction).trans hmethod.indent_of_placed
  exact (Source.File.standsIn_class hentry).trans hobject.expandTabs_of_placed

/-! ## 6. Names in a package -/

/-- **A package carries the declared names**: of fields whose attributes are named otherwise, and of
    parameters that are sent in the query or in the form. -/
structure CarriesNames (r : Registry) (s : Service) (p : Source.Project) : Prop where
  /-- The declared name of a field is embedded in the models file behind its attribute. -/
  fields : ∃ file, p.getFile? "models.py" = some file ∧ ∀ m ∈ s.models, ∀ f ∈ m.fields,
    fieldName f.name ≠ f.name →
      ∃ lead, Embeds file.text 1 (fieldName f.name ++ ": " ++ lead ++ "alias=") f.name ")"
  /-- The declared names of an operation's parameters are those that its request sends, and they are
      embedded in the client file. -/
  parameters : ∃ file, p.getFile? "client.py" = some file ∧ ∀ x ∈ s.resources, ∀ op ∈ x.operations,
    ∃ e, Endpoint.ofOperation r x op = .ok e ∧
      ((Request.ofEndpoint e).query.map (·.wireName) = (Endpoint.sentIn .query op).map (·.name) ∧
        ∀ q ∈ Endpoint.sentIn .query op, Embeds file.text 3 "*common.query_pairs(" q.name
          (", " ++ argumentName q.name ++ "),")) ∧
      (Request.ofEndpoint e).payload.fields.map (·.wireName) = (Endpoint.sentIn .form op).map (·.name) ∧
        ∀ q ∈ Endpoint.sentIn .form op, Embeds file.text 3 "" q.name ": common.to_json("

theorem embeds_queryEntry {text : String} {q : QueryEntry} (hname : IsFlat q.argName)
    (h : StandsIn text (placed 3 q.text)) :
    Embeds text 3 "*common.query_pairs(" q.wireName (", " ++ q.argName ++ "),") := by
  have hlead : IsFlat "*common.query_pairs(" := by decide
  have hcomma : IsFlat ", " := by decide
  have hclosing : IsFlat ")," := by decide
  refine embeds_of_placed hlead ((hcomma.append hname).append hclosing) "" ?_
  rw [String.append_empty]
  exact h

theorem embeds_formEntry {text : String} {f : FormEntry} (h : StandsIn text (placed 3 f.text)) :
    Embeds text 3 "" f.wireName ": common.to_json(" := by
  have hlead : IsFlat "" := by decide
  have htrail : IsFlat ": common.to_json(" := by decide
  refine embeds_of_placed hlead htrail (f.type ++ ", " ++ f.argName ++ "),") ?_
  rw [String.empty_append]
  exact h

theorem embeds_query {e : Endpoint} {x : Resource} {op : Operation} (he : Endpoint.BuiltFrom r x op e)
    {text : String} (h : SentFrom text (Request.ofEndpoint e)) :
    (Request.ofEndpoint e).query.map (·.wireName) = (Endpoint.sentIn .query op).map (·.name) ∧
      ∀ q ∈ Endpoint.sentIn .query op, Embeds text 3 "*common.query_pairs(" q.name
        (", " ++ argumentName q.name ++ "),") := by
  have hsent := he.forall₂_sentIn (l := .query) (by decide)
  constructor
  · have hnames : (Endpoint.sentIn .query op).map (·.name) = e.queryParameters.map (·.name) :=
      map_eq_of_forall₂ hsent fun _ _ ha => ha.1.symm
    rw [hnames]
    exact List.map_map
  · intro q hq
    obtain ⟨a, ha, hname, harg⟩ := exists_right_of_forall₂ hsent hq
    have hentry : (⟨a.name, a.argName⟩ : QueryEntry) ∈ (Request.ofEndpoint e).query :=
      List.mem_map_of_mem (f := fun a : Argument => (⟨a.name, a.argName⟩ : QueryEntry)) ha
    have hflat : IsFlat a.argName := harg ▸ isFlat_of_padded (padded_argumentName q.name)
    have hembeds := embeds_queryEntry (q := ⟨a.name, a.argName⟩) hflat
      (h _ fun _ => Request.standsIn_query hentry)
    dsimp only at hembeds
    rwa [hname, harg] at hembeds

theorem embeds_form {e : Endpoint} {x : Resource} {op : Operation} (he : Endpoint.BuiltFrom r x op e)
    {text : String} (h : SentFrom text (Request.ofEndpoint e)) :
    (Request.ofEndpoint e).payload.fields.map (·.wireName) = (Endpoint.sentIn .form op).map (·.name) ∧
      ∀ q ∈ Endpoint.sentIn .form op, Embeds text 3 "" q.name ": common.to_json(" := by
  have hsent := he.forall₂_sentIn (l := .form) (by decide)
  have hfields := Request.fields_payload he.verb_cases.1
  constructor
  · have hnames : (Endpoint.sentIn .form op).map (·.name) = e.formParameters.map (·.name) :=
      map_eq_of_forall₂ hsent fun _ _ ha => ha.1.symm
    rw [hfields, hnames]
    exact List.map_map
  · intro q hq
    obtain ⟨a, ha, hname, _⟩ := exists_right_of_forall₂ hsent hq
    have hentry : (⟨a.name, a.type.type.text, a.argName⟩ : FormEntry) ∈
        (Request.ofEndpoint e).payload.fields := by
      rw [hfields]
      exact List.mem_map_of_mem
        (f := fun a : Argument => (⟨a.name, a.type.type.text, a.argName⟩ : FormEntry)) ha
    have hembeds := embeds_formEntry (h _ fun _ => Request.standsIn_form hentry)
    dsimp only at hembeds
    rwa [hname] at hembeds

/-- A package of a service is generated with the service's registry. -/
theorem exists_generate_of_ofService {p : Source.Project} (h : (ofService s settings o).outcome = .ok p) :
    ∃ r, Registry.ofService s settings = .ok r ∧ (generate r s o).outcome = .ok p := by
  obtain ⟨r, hr, h⟩ := Traced.outcome_bind_eq_ok.mp h
  exact ⟨r, mapError_eq_ok.mp hr, h⟩

theorem carriesNames_of_generate (hr : Registry.DeclaredBy s settings r) {p : Source.Project}
    (h : (generate r s o).outcome = .ok p) : CarriesNames r s p := by
  obtain ⟨config, models, errors, interfaces, client, routes, hp⟩ := assembledFrom_of_generate h
  have hd := nodup_traitNames_of_generate h
  obtain ⟨inModels, _, _, inClient⟩ := hp.getFile?_modules
  refine ⟨⟨models, inModels, fun m hm f hf hne => ?_⟩,
    ⟨client, inClient, fun x hx op hop => ?_⟩⟩
  · obtain ⟨c, hc, e, he, hrank⟩ := class_of_modelsFile hr hp.modelsMade hm
    obtain ⟨a, ha, hfa⟩ := m.exists_attribute hc hf
    have hattribute : a ∈ e.2.parameters := by
      rw [hrank]
      exact ha
    have hclass : StandsIn (expandTabs e.2.text) (placed 1 a.text) :=
      (Source.Class.standsIn_attribute hattribute).expandTabs
    exact f.embeds_of_toAttribute hfa hne ((Source.File.standsIn_class he).trans hclass)
  · obtain ⟨e, he, hsent⟩ := sentFrom_clientFile hd hp.clientMade hx hop
    exact ⟨e, Endpoint.ofOperation_eq_ok.mpr he, embeds_query he hsent, embeds_form he hsent⟩

/-- **Declared names in a package**: each has its literal where it is sent, and the literal stands for
    the name exactly where the name stands for itself between double quotes and has no tabs. In texts,
    the 2048 characters from U+10A000 stand for lone surrogates. -/
theorem ofService_carriesNames {p : Source.Project} (h : (ofService s settings o).outcome = .ok p) :
    ∃ r, Registry.ofService s settings = .ok r ∧ CarriesNames r s p := by
  obtain ⟨r, hr, h⟩ := exists_generate_of_ofService h
  exact ⟨r, hr, carriesNames_of_generate (Registry.ofService_eq_ok.mp hr) h⟩

/-- Service with a field and a parameter of given names. -/
def withNames (field parameter : String) : Service :=
  { name := "api"
    models := [{ name := "item", fields := [{ name := field, type := "double" }] }]
    resources := [{ type := "item", plural := "items", operations :=
      [{ verb := .get, path := "/items", parameters := [{ name := parameter, type := "long" }] }] }] }

/-- A field in camel case and a parameter with a quote and a backslash are carried as they are. -/
theorem ofService_carriesNames_camelCase : ∃ p r,
    (ofService (withNames "unitPrice" "it's \\d") Dialect.aiohttp {}).outcome = .ok p ∧
    Registry.ofService (withNames "unitPrice" "it's \\d") Dialect.aiohttp = .ok r ∧
    CarriesNames r (withNames "unitPrice" "it's \\d") p ∧
    fieldName "unitPrice" ≠ "unitPrice" ∧
    ∀ byName, plain? byName (embedded 1 "unitPrice") = some "unitPrice" ∧
      plain? byName (embedded 3 "it's \\d") = some "it's \\d" := by
  have h : ∃ p, (ofService (withNames "unitPrice" "it's \\d") Dialect.aiohttp {}).outcome = .ok p :=
    ⟨_, rfl⟩
  obtain ⟨p, hp⟩ := h
  obtain ⟨r, hr, hc⟩ := ofService_carriesNames hp
  exact ⟨p, r, hp, hr, hc, by decide, fun _ =>
    ⟨plain?_embedded_iff.mpr (by decide), plain?_embedded_iff.mpr (by decide)⟩⟩

/-- **Names that a package does not keep**: the literal of the one stands for another text, that of the
    other one is closed too early. -/
theorem exists_names_not_kept : ∃ p models client lead,
    (ofService (withNames "unit\tprice" "filter[\"id\"]") Dialect.aiohttp {}).outcome = .ok p ∧
    p.getFile? "models.py" = some models ∧ p.getFile? "client.py" = some client ∧
    (∃ rest, StandsIn models.text
      (margin 1 ++ ("unit_price: " ++ lead ++ "alias=") ++ embedded 1 "unit\tprice" ++ ")" ++ rest)) ∧
    (∃ rest, StandsIn client.text
      (margin 3 ++ "*common.query_pairs(" ++ embedded 3 "filter[\"id\"]" ++ ", filter_id)," ++ rest)) ∧
    ∀ byName, plain? byName (embedded 1 "unit\tprice") = some "unit    price" ∧
      plain? byName (embedded 3 "filter[\"id\"]") = none := by
  have h : ∃ p, (ofService (withNames "unit\tprice" "filter[\"id\"]") Dialect.aiohttp {}).outcome = .ok p :=
    ⟨_, rfl⟩
  obtain ⟨p, hp⟩ := h
  obtain ⟨r, hr, hg⟩ := exists_generate_of_ofService hp
  obtain ⟨⟨models, hmodels, hfields⟩, client, hclient, hparameters⟩ :=
    carriesNames_of_generate (Registry.ofService_eq_ok.mp hr) hg
  obtain ⟨lead, hlead⟩ := hfields _ List.mem_cons_self _ List.mem_cons_self (by decide)
  obtain ⟨_, _, ⟨_, hquery⟩, _⟩ := hparameters _ List.mem_cons_self _ List.mem_cons_self
  have hparameter := (hquery _ List.mem_cons_self).stands
  exact ⟨p, models, client, lead, hp, hmodels, hclient, hlead.stands, hparameter, fun _ => ⟨rfl, rfl⟩⟩

end Package

end ClientGen
