import ClientGen.Proofs.Building
import ClientGen.Proofs.Grammar
import ClientGen.Proofs.WireNames

/-!
# Order of definitions in the models file

The models file is run from its first line to its last when the package is imported, so what a
definition needs then must stand before it. Blocks are put into the file before classes and are written
behind them, for the members of a file are written by rank. This file fixes

* `Definition`: what the file defines, with the names that a definition needs when it is run;
* `definitions`: enums, models, the functions and the alias of each codec, and the code that settles
  forward references, all as declared;
* `DefinedBeforeUse`: whatever a definition needs is defined before it;
* `Ordered`, `ofService_ordered`: the text of every models file is the imports and these definitions.
-/

namespace ClientGen

open ClientGen.Text

/-! ## 1. Names that are needed at once -/

/-- Name that the default of a field calls. -/
def Field.callee? (r : Registry) (f : Field) : Option String :=
  match f.settle r with
  | .ok (_, some literal) => (Expression.read? literal).bind Expression.callee?
  | _ => none

/-- Names that the defaults of a model call, the constructors of primitives left out. -/
def ModelType.calls (r : Registry) (m : ModelType) : List String :=
  (m.fields.filterMap (Field.callee? r)).filter (· ∉ Registry.constructors)

/-- Classes of the declared types that a union consists of. -/
def UnionCodec.classes (c : UnionCodec) : List String :=
  c.variants.filterMap fun v => v.ref.declared?.map fun d => Registry.localClass d.1

namespace Package

/-- A definition in the models file, or the code behind all of them. -/
inductive Definition where
  | enum (e : EnumType)
  | model (m : ModelType)
  | function (g : Source.Function)
  | alias (c : UnionCodec)
  | rebuild (models : List ModelType)

namespace Definition

/-- Text of a definition in the file. -/
def text (r : Registry) : Definition → Except DescriptionFault String
  | .enum e => e.toClass.map fun c => expandTabs c.text
  | .model m => (m.toClass r).map fun c => expandTabs c.text
  | .function g => .ok (expandTabs g.text)
  | .alias c => .ok (expandTabs (c.aliasText r))
  | .rebuild models => .ok (expandTabs (rebuildText models))

/-- Name that a definition binds. -/
def name? : Definition → Option String
  | .enum e => some (Registry.localClass e.name)
  | .model m => some (Registry.localClass m.name)
  | .function g => some g.name
  | .alias c => some c.className
  | .rebuild _ => none

/-- Names that must be bound when a definition is run. Annotations are not evaluated then, and the code
    of a function is run when it is called. -/
def uses (r : Registry) : Definition → List String
  | .enum _ => []
  | .model m => m.calls r
  | .function g => g.decorators ++ g.parameters.filterMap (·.default)
  | .alias c => c.classes ++ [c.readName, c.writeName]
  | .rebuild models => models.map fun m => Registry.localClass m.name

end Definition

/-- Definitions of a codec: its functions, then its alias. -/
def codecDefinitions (r : Registry) (c : UnionCodec) : List Definition :=
  (c.functions r).map .function ++ [.alias c]

/-- **Definitions of the models file in order**, `cs` being the codecs of the unions. -/
def definitions (r : Registry) (s : Service) (cs : List UnionCodec) : List Definition :=
  s.enums.map .enum ++ s.models.map .model ++ cs.flatMap (codecDefinitions r) ++
    if s.models.isEmpty then [] else [.rebuild s.models]

/-! ## 2. Definitions before use -/

/-- **What a definition needs is defined before it**, or known from the outset. -/
def DefinedBeforeUse (r : Registry) (known : List String) (ds : List Definition) : Prop :=
  ∀ before d after, ds = before ++ d :: after →
    ∀ n ∈ d.uses r, n ∈ known ∨ ∃ e ∈ before, e.name? = some n

namespace DefinedBeforeUse

variable {r : Registry} {known : List String} {ds es : List Definition}

theorem of_known (h : ∀ d ∈ ds, ∀ n ∈ d.uses r, n ∈ known) : DefinedBeforeUse r known ds := by
  rintro before d after rfl n hn
  exact .inl (h d (List.mem_append_right _ List.mem_cons_self) n hn)

theorem mono {known' : List String} (hds : DefinedBeforeUse r known ds) (h : known ⊆ known') :
    DefinedBeforeUse r known' ds :=
  fun before d after hsplit n hn => (hds before d after hsplit n hn).imp_left (@h n)

/-- What is defined first is known to what follows. -/
theorem append (hds : DefinedBeforeUse r known ds)
    (hes : DefinedBeforeUse r (known ++ ds.filterMap Definition.name?) es) :
    DefinedBeforeUse r known (ds ++ es) := by
  have behind : ∀ before d after, es = before ++ d :: after → ∀ n ∈ d.uses r,
      n ∈ known ∨ ∃ e ∈ ds ++ before, e.name? = some n := by
    intro before d after hsplit n hn
    rcases hes before d after hsplit n hn with h | ⟨e, he, hname⟩
    · rcases List.mem_append.mp h with h | h
      · exact .inl h
      · obtain ⟨e, he, hname⟩ := List.mem_filterMap.mp h
        exact .inr ⟨e, List.mem_append_left _ he, hname⟩
    · exact .inr ⟨e, List.mem_append_right _ he, hname⟩
  intro before d after hsplit n hn
  rcases List.append_eq_append_iff.mp hsplit with ⟨m, rfl, hes'⟩ | ⟨m, hds', hm⟩
  · exact behind m d after hes' n hn
  · cases m with
    | nil =>
      rw [List.append_nil] at hds'
      have h := behind [] d after hm.symm n hn
      rwa [List.append_nil, hds'] at h
    | cons d' m =>
      obtain ⟨rfl, _⟩ := List.cons.inj hm
      exact hds before d m hds' n hn

theorem flatMap {α : Type} {as : List α} {f : α → List Definition}
    (h : ∀ a ∈ as, DefinedBeforeUse r known (f a)) : DefinedBeforeUse r known (as.flatMap f) := by
  induction as with
  | nil => exact of_known nofun
  | cons a as ih =>
    obtain ⟨ha, has⟩ := List.forall_mem_cons.mp h
    rw [List.flatMap_cons]
    exact ha.append ((ih has).mono (List.subset_append_left _ _))

end DefinedBeforeUse

section Uses

variable {r : Registry} {s : Service} {settings : Settings}

/-- A default of a model calls no class but those of enums. -/
theorem exists_enum_of_mem_calls (hr : Registry.DeclaredBy s settings r) {m : ModelType} {n : String}
    (h : n ∈ m.calls r) : ∃ e ∈ s.enums, n = Registry.localClass e.name := by
  obtain ⟨hm, hn⟩ := List.mem_filter.mp h
  obtain ⟨f, _, hf⟩ := List.mem_filterMap.mp hm
  unfold Field.callee? at hf
  split at hf
  · rename_i ref literal hsettle
    cases Field.settle_eq_ok.mp hsettle with
    | declared _ _ hl =>
      rcases Registry.read?_of_defaultLiteral (q := false) nofun hl with hbare | ⟨x, hx, hcallee⟩
      · have hread : ∀ t ∈ ["nan", "inf", "-inf"], Expression.read? t = none := by decide
        rw [hread _ hbare] at hf
        cases hf
      · rw [hx, Option.bind_some] at hf
        rcases hcallee n hf with hc | ⟨e, he, rfl⟩
        · exact absurd hc (of_decide_eq_true hn)
        · rw [hr.enums_eq] at he
          exact ⟨e, he, rfl⟩
    | optional _ _ _ =>
      have hread : Expression.read? "None" = none := by decide
      rw [hread] at hf
      cases hf
  · cases hf

/-- A default of an enum calls the enum's class. -/
theorem mem_calls_of_enum {m : ModelType} {cls : Source.Class} (hm : m.toClass r = .ok cls) {f : Field}
    (hf : f ∈ m.fields) {name raw : String} (hparsed : r.parse f.type = .ok (.named .enum name))
    (hraw : f.default = some raw) : Registry.localClass name ∈ m.calls r := by
  obtain ⟨a, _, ha⟩ := ModelType.exists_attribute hm hf
  obtain ⟨ref, d, hs, _⟩ := Field.toAttribute_eq_ok.mp ha
  have hsettle := Field.settle_eq_ok.mpr hs
  have hcallee : f.callee? r = some (Registry.localClass name) := by
    cases hs with
    | declared hparsed' hraw' hl =>
      obtain rfl := Except.ok.inj (hparsed.symm.trans hparsed')
      rw [Registry.defaultLiteral_enum, mapError_eq_ok] at hl
      rw [Field.callee?, hsettle, Registry.eq_of_enumLiteral hl]
      exact congrArg (Option.bind · _)
        (Expression.read?_call _ (Registry.isNameChar_boundName name false))
    | required _ hnone _ =>
      rw [hnone] at hraw
      cases hraw
    | optional _ hnone _ =>
      rw [hnone] at hraw
      cases hraw
  have hclass : Registry.localClass name ∉ Registry.constructors := by
    obtain ⟨hdecimal, huuid, hdate⟩ := Registry.boundName_ne name false
    have hne : ∀ t ∈ Registry.constructors, Registry.localClass name ≠ t := by
      simp only [Registry.constructors, List.forall_mem_cons]
      exact ⟨hdecimal, huuid, hdate, nofun⟩
    exact fun hc => hne _ hc rfl
  exact List.mem_filter.mpr ⟨List.mem_filterMap.mpr ⟨f, hf, hcallee⟩, decide_eq_true hclass⟩

/-- The functions of a codec have neither decorators nor defaults. -/
theorem uses_function_eq_nil {c : UnionCodec} {g : Source.Function} (h : g ∈ c.functions r) :
    (Definition.function g).uses r = [] := by
  unfold UnionCodec.functions at h
  rcases List.mem_append.mp h with h | h
  · obtain ⟨v, _, hg⟩ := List.mem_flatMap.mp h
    rcases List.mem_cons.mp hg with rfl | hg
    · rfl
    · rw [List.mem_singleton.mp hg]
      rfl
  · rcases List.mem_cons.mp h with rfl | h
    · rfl
    · rw [List.mem_singleton.mp h]
      rfl

variable {u : UnionType} {c : UnionCodec} (hc : UnionCodec.ofUnion r u = .ok c)

include hc

/-- The classes of a codec are of enums and models. -/
theorem mem_of_mem_classes (hr : Registry.DeclaredBy s settings r) {n : String} (h : n ∈ c.classes) :
    n ∈ s.enums.map (fun e => Registry.localClass e.name) ++
      s.models.map fun m => Registry.localClass m.name := by
  obtain ⟨v, hv, hn⟩ := List.mem_filterMap.mp h
  obtain ⟨t, ht⟩ := exists_isVariant_of_ofUnion hc hv
  rcases ht.primitive_or_declared with ⟨p, href⟩ | ⟨kind, name, href, hkind, hentry⟩
  · rw [href] at hn
    cases hn
  · rw [href] at hn
    cases hn
    rw [hr.entries_eq] at hentry
    rcases List.mem_append.mp hentry with hentry | hentry
    · rcases List.mem_append.mp hentry with hentry | hentry
      · obtain ⟨e, he, hname⟩ := List.mem_map.mp hentry
        cases hname
        exact List.mem_append_left _ (List.mem_map_of_mem he)
      · obtain ⟨m, hm, hname⟩ := List.mem_map.mp hentry
        cases hname
        exact List.mem_append_right _ (List.mem_map_of_mem hm)
    · obtain ⟨_, _, hname⟩ := List.mem_map.mp hentry
      cases hname
      exact absurd rfl hkind

/-- The alias of a codec names its classes, besides primitives. -/
theorem named_of_mem_type {n : String} (h : n ∈ (c.type r).names) :
    (∃ p : Primitive, n ∈ p.type.names) ∨ n ∈ c.classes := by
  obtain ⟨type, htype, hn⟩ := Registry.mem_namesOf.mp h
  obtain ⟨v, hv, rfl⟩ := List.mem_map.mp htype
  obtain ⟨t, ht⟩ := exists_isVariant_of_ofUnion hc hv
  unfold UnionCodec.typeOf at hn
  rcases ht.primitive_or_declared with ⟨p, href⟩ | ⟨kind, name, href, _, _⟩
  · rw [href] at hn
    exact .inl ⟨p, hn⟩
  · rw [href] at hn
    refine .inr (List.mem_filterMap.mpr ⟨v, hv, ?_⟩)
    rw [href, List.mem_singleton.mp hn]
    rfl

end Uses

/-! ## 3. Order of definitions -/

section Order

variable {r : Registry} {s : Service} {settings : Settings} {known : List String} {cs : List UnionCodec}

/-- **A codec needs its classes only**: reader and writer stand before the alias. -/
theorem definedBeforeUse_codec {c : UnionCodec} (h : c.classes ⊆ known) :
    DefinedBeforeUse r known (codecDefinitions r c) := by
  refine .append (.of_known fun d hd n hn => ?_) (.of_known fun d hd n hn => ?_)
  · obtain ⟨g, hg, rfl⟩ := List.mem_map.mp hd
    rw [uses_function_eq_nil hg] at hn
    exact absurd hn List.not_mem_nil
  · rw [List.mem_singleton.mp hd] at hn
    have bound : ∀ g ∈ [c.reader r, c.writer r], g.name ∈
        known ++ ((c.functions r).map Definition.function).filterMap Definition.name? := fun g hg =>
      List.mem_append_right _ (List.mem_filterMap.mpr
        ⟨.function g, List.mem_map_of_mem (List.mem_append_right _ hg), rfl⟩)
    rcases List.mem_append.mp hn with hn | hn
    · exact List.mem_append_left _ (h hn)
    · rcases List.mem_cons.mp hn with rfl | hn
      · exact bound (c.reader r) List.mem_cons_self
      · rw [List.mem_singleton.mp hn]
        exact bound (c.writer r) (List.mem_cons_of_mem _ List.mem_cons_self)

/-- **Every definition of the models file stands behind what it needs.** -/
theorem definedBeforeUse_definitions (hr : Registry.DeclaredBy s settings r)
    (hcs : List.Forall₂ (fun u c => UnionCodec.ofUnion r u = .ok c) s.unions cs) :
    DefinedBeforeUse r [] (definitions r s cs) := by
  have henums : (s.enums.map Definition.enum).filterMap Definition.name? =
      s.enums.map fun e => Registry.localClass e.name := by
    rw [List.filterMap_map]
    exact congrFun List.filterMap_eq_map s.enums
  have hmodels : (s.models.map Definition.model).filterMap Definition.name? =
      s.models.map fun m => Registry.localClass m.name := by
    rw [List.filterMap_map]
    exact congrFun List.filterMap_eq_map s.models
  refine .append (.append (.append (.of_known fun d hd n hn => ?_) (.of_known fun d hd n hn => ?_))
    (.flatMap fun c hc => definedBeforeUse_codec fun n hn => ?_)) (.of_known fun d hd n hn => ?_)
  · obtain ⟨e, _, rfl⟩ := List.mem_map.mp hd
    cases hn
  · obtain ⟨m, _, rfl⟩ := List.mem_map.mp hd
    obtain ⟨e, he, rfl⟩ := exists_enum_of_mem_calls hr hn
    rw [henums]
    exact List.mem_map_of_mem he
  · obtain ⟨u, _, hu⟩ := exists_left_of_forall₂ hcs hc
    rw [List.filterMap_append, henums, hmodels]
    exact mem_of_mem_classes hu hr hn
  · split at hd
    · cases hd
    · rw [List.mem_singleton.mp hd] at hn
      rw [List.filterMap_append, List.filterMap_append, hmodels]
      exact List.mem_append_right _ (List.mem_append_left _ (List.mem_append_right _ hn))

end Order

/-! ## 4. Text of the models file -/

open Source

/-- Texts of a rank, before others of a lower one, fall in rank. -/
theorem falling_append {high low : Int} (h : low ≤ high) (ss ts : List String) :
    (ss.map (Prod.mk high) ++ ts.map (Prod.mk low)).Pairwise fun a b => b.1 ≤ a.1 := by
  refine List.pairwise_append.mpr ⟨?_, ?_, fun a ha b hb => ?_⟩
  · exact List.pairwise_map.mpr (List.pairwise_of_forall fun _ _ => Int.le_refl _)
  · exact List.pairwise_map.mpr (List.pairwise_of_forall fun _ _ => Int.le_refl _)
  · obtain ⟨_, _, rfl⟩ := List.mem_map.mp ha
    obtain ⟨_, _, rfl⟩ := List.mem_map.mp hb
    exact h

/-- Blocks that come first in the file, but rank below its classes, are written behind them. -/
theorem byRank_blocks_classes (codecs rebuilds enums models : List String) :
    byRank ((codecs.map (Prod.mk 2) ++ rebuilds.map (Prod.mk 1)) ++
      (enums.map (Prod.mk 4) ++ models.map (Prod.mk 3))) = (enums ++ models) ++ (codecs ++ rebuilds) := by
  have rank_of_mem : ∀ {k l : Int} {ss ts : List String} {e : Int × String},
      e ∈ ss.map (Prod.mk k) ++ ts.map (Prod.mk l) → e.1 = k ∨ e.1 = l := by
    intro k l ss ts e he
    rcases List.mem_append.mp he with he | he
    · obtain ⟨_, _, rfl⟩ := List.mem_map.mp he
      exact .inl rfl
    · obtain ⟨_, _, rfl⟩ := List.mem_map.mp he
      exact .inr rfl
  have hblocks : (1 : Int) ≤ 2 := by decide
  have hclasses : (3 : Int) ≤ 4 := by decide
  have harranged := arranged_append (falling_append hblocks codecs rebuilds)
    (falling_append hclasses enums models) fun a ha b hb => by
      have ha := rank_of_mem ha
      have hb := rank_of_mem hb
      omega
  rw [harranged.byRank_eq]
  simp only [List.map_append, List.map_map, Function.comp_def, List.map_id']

/-- Imports and members of a file stand one behind another, tabs written as spaces. -/
theorem text_eq_join {f : File} {ts : List String} (hmembers : byRank f.ranked = ts)
    (hne : ∀ t ∈ ts, t ≠ "") (himports : unlines f.imports ≠ "") : f.text =
      join "\n\n\n" (expandTabs (unlines f.imports) :: ts.map expandTabs) ++ "\n" := by
  have hparts : Block.joinTexts "\n\n\n" [unlines f.imports, join "\n\n\n" ts] =
      join "\n\n\n" (unlines f.imports :: ts) := by
    cases ts with
    | nil =>
      rw [join_nil, join_singleton, Block.joinTexts]
      simp [himports, join_singleton]
    | cons t ts =>
      have hjoined : join "\n\n\n" (t :: ts) ≠ "" :=
        (StandsIn.of_mem_join StandsIn.breaksLines_blanks List.mem_cons_self).ne_empty
          (hne t List.mem_cons_self)
      rw [joinTexts_eq_join (by simp [himports, hjoined]), join_cons_cons, join_singleton,
        join_cons_cons]
  rw [File.text, hmembers, hparts, expandTabs_join (by decide), List.map_cons]

theorem aliasText_ne_empty (r : Registry) (c : UnionCodec) : c.aliasText r ≠ "" := by
  have hbinding : c.className ++ " = Annotated[\n" ≠ "" :=
    fun he => absurd (String.append_eq_empty_iff.mp he).2 (by decide)
  exact append_ne_empty (append_ne_empty hbinding _) _

theorem rebuildText_ne_empty {models : List ModelType} (h : models ≠ []) : rebuildText models ≠ "" := by
  obtain ⟨m, ms, rfl⟩ := List.exists_cons_of_ne_nil h
  have hcall : Registry.localClass m.name ++ ".model_rebuild()" ≠ "" :=
    fun he => absurd (String.append_eq_empty_iff.mp he).2 (by decide)
  exact (StandsIn.of_mem_joinTexts StandsIn.breaksLines_break List.mem_cons_self hcall).ne_empty hcall

/-- Texts of the definitions of a codec. -/
def codecTexts (r : Registry) (c : UnionCodec) : List String :=
  (c.functions r).map (fun g => expandTabs g.text) ++ [expandTabs (c.aliasText r)]

/-- Text behind all definitions of the models file. -/
def rebuildTexts (s : Service) : List String :=
  if s.models.isEmpty then [] else [expandTabs (rebuildText s.models)]

/-- The block of a codec is its definitions one behind another. -/
theorem text_block (r : Registry) (c : UnionCodec) :
    (c.block r).text = join "\n\n\n" (codecTexts r c) := by
  have hne : ∀ t ∈ (c.functions r).map (·.text) ++ [expandTabs (c.aliasText r)], t ≠ "" := by
    intro t ht
    rcases List.mem_append.mp ht with ht | ht
    · obtain ⟨g, _, rfl⟩ := List.mem_map.mp ht
      exact Function.text_ne_empty g
    · rw [List.mem_singleton.mp ht]
      exact expandTabs_ne_empty (aliasText_ne_empty r c)
  rw [UnionCodec.block, Block.text_ofCode, joinTexts_eq_join hne, expandTabs_join (by decide),
    List.map_append, List.map_map, List.map_singleton, expandTabs_expandTabs]
  rfl

theorem block_text_ne_empty (r : Registry) (c : UnionCodec) : (c.block r).text ≠ "" := by
  rw [text_block]
  exact (StandsIn.of_mem_join StandsIn.breaksLines_blanks
    (List.mem_append_right _ (List.mem_singleton_self _))).ne_empty
      (expandTabs_ne_empty (aliasText_ne_empty r c))

section ModelsFile

variable {r : Registry} {s : Service} {settings : Settings} {enums models : List Source.Class}
  {cs : List UnionCodec}

/-- Texts of the definitions of the models file, a row for each member. -/
def definitionRows (r : Registry) (s : Service) (enums models : List Source.Class)
    (cs : List UnionCodec) : List (List String) :=
  enums.map (fun c => [expandTabs c.text]) ++ models.map (fun c => [expandTabs c.text]) ++
    cs.map (codecTexts r) ++ (rebuildTexts s).map ([·])

theorem flatten_definitionRows : (definitionRows r s enums models cs).flatten =
    enums.map (fun c => expandTabs c.text) ++ models.map (fun c => expandTabs c.text) ++
      cs.flatMap (codecTexts r) ++ rebuildTexts s := by
  simp only [definitionRows, List.flatten_append, ← List.flatMap_def, List.flatMap_singleton',
    ← List.map_eq_flatMap]

theorem text_definitions
    (henums : List.Forall₂ (fun e c => EnumType.toClass e = .ok c) s.enums enums)
    (hmodels : List.Forall₂ (fun m c => ModelType.toClass r m = .ok c) s.models models) :
    List.Forall₂ (fun d t => d.text r = .ok t) (definitions r s cs)
      (definitionRows r s enums models cs).flatten := by
  rw [flatten_definitionRows]
  refine List.rel_append (List.rel_append (List.rel_append ?_ ?_) ?_) ?_
  · refine List.forall₂_map_left_iff.mpr (List.forall₂_map_right_iff.mpr (henums.imp fun e c hc => ?_))
    rw [Definition.text, hc]
    rfl
  · refine List.forall₂_map_left_iff.mpr (List.forall₂_map_right_iff.mpr (hmodels.imp fun m c hc => ?_))
    rw [Definition.text, hc]
    rfl
  · refine List.rel_flatMap (R := Eq) (List.forall₂_refl cs) fun c c' hc => ?_
    subst hc
    refine List.rel_append ?_ (.cons rfl .nil)
    exact List.forall₂_map_left_iff.mpr (List.forall₂_map_right_iff.mpr
      (List.forall₂_same.mpr fun g _ => rfl))
  · unfold rebuildTexts
    split
    · exact .nil
    · exact .cons rfl .nil

theorem modelImports_ne_empty : Support.modelImports ≠ "" := by decide

theorem expandTabs_modelImports : expandTabs Support.modelImports = Support.modelImports := by
  rw [Support.modelImports, expandTabs_unlines]
  exact congrArg unlines (by decide +kernel)

theorem row_ne_nil {row : List String} (h : row ∈ definitionRows r s enums models cs) : row ≠ [] := by
  simp only [definitionRows, List.mem_append, List.mem_map] at h
  rcases h with ((⟨_, _, rfl⟩ | ⟨_, _, rfl⟩) | ⟨_, _, rfl⟩) | ⟨_, _, rfl⟩
  · exact List.cons_ne_nil _ _
  · exact List.cons_ne_nil _ _
  · exact List.append_ne_nil_of_right_ne_nil _ (List.cons_ne_nil _ _)
  · exact List.cons_ne_nil _ _

theorem expandTabs_rebuildTexts (s : Service) : (rebuildTexts s).map expandTabs = rebuildTexts s := by
  unfold rebuildTexts
  split
  · rfl
  · rw [List.map_singleton, expandTabs_expandTabs]

/-- Members of the models file, as they are written. -/
def memberTexts (r : Registry) (s : Service) (enums models : List Source.Class)
    (cs : List UnionCodec) : List String :=
  enums.map (·.text) ++ models.map (·.text) ++ (cs.map (fun c => (c.block r).text) ++ rebuildTexts s)

/-- Members are written as they rank. -/
theorem byRank_modelsFile :
    byRank (modelsFileOf r s enums models cs).ranked = memberTexts r s enums models cs := by
  have hblocks : (modelBlocks r s cs).map (fun b => (b.order, b.text)) =
      (cs.map fun c => (c.block r).text).map (Prod.mk 2) ++ (rebuildTexts s).map (Prod.mk 1) := by
    rw [modelBlocks, rebuildTexts, List.map_append, List.map_map, List.map_map]
    split <;> rfl
  have hclasses : (rankedClasses enums models).map (fun c => (c.order, c.text)) =
      (enums.map (·.text)).map (Prod.mk 4) ++ (models.map (·.text)).map (Prod.mk 3) := by
    rw [rankedClasses, List.map_append, List.map_map, List.map_map, List.map_map, List.map_map]
    rfl
  have hranked : (modelsFileOf r s enums models cs).ranked =
      (modelBlocks r s cs).map (fun b => (b.order, b.text)) ++
        (rankedClasses enums models).map fun c => (c.order, c.text) := by
    simp only [File.ranked, modelsFileOf, Table.values, List.map_nil, List.append_nil, List.map_map,
      Function.comp_def]
  rw [hranked, hblocks, hclasses, byRank_blocks_classes]
  rfl

/-- A member is its definitions one behind another. -/
theorem expandTabs_memberTexts : (memberTexts r s enums models cs).map expandTabs =
    (definitionRows r s enums models cs).map (join "\n\n\n") := by
  have hcodec : ∀ c : UnionCodec, expandTabs (c.block r).text = join "\n\n\n" (codecTexts r c) :=
    fun c => (expandTabs_expandTabs _).trans (text_block r c)
  simp only [memberTexts, definitionRows, List.map_append, List.map_map, Function.comp_def, hcodec,
    expandTabs_rebuildTexts, join_singleton, List.map_id', List.append_assoc]

theorem memberTexts_ne_empty : ∀ t ∈ memberTexts r s enums models cs, t ≠ "" := by
  simp only [memberTexts, List.mem_append, List.mem_map]
  rintro t ((⟨c, _, rfl⟩ | ⟨c, _, rfl⟩) | ⟨c, _, rfl⟩ | ht)
  · exact Class.text_ne_empty c
  · exact Class.text_ne_empty c
  · exact block_text_ne_empty r c
  · unfold rebuildTexts at ht
    split at ht
    · cases ht
    · rename_i hmodels
      rw [List.mem_singleton.mp ht]
      exact expandTabs_ne_empty (rebuildText_ne_empty fun he => hmodels (List.isEmpty_iff.mpr he))

/-- **The models file is its definitions one behind another.** -/
theorem text_modelsFile : (modelsFileOf r s enums models cs).text =
    join "\n\n\n" (Support.modelImports :: (definitionRows r s enums models cs).flatten) ++ "\n" := by
  have himport : unlines (modelsFileOf r s enums models cs).imports = Support.modelImports := by
    rw [modelsFileOf, unlines, join_singleton]
  have hrows : ∀ row ∈ [Support.modelImports] :: definitionRows r s enums models cs, row ≠ [] :=
    List.forall_mem_cons.mpr ⟨List.cons_ne_nil _ _, fun _ => row_ne_nil⟩
  rw [text_eq_join byRank_modelsFile memberTexts_ne_empty (himport ▸ modelImports_ne_empty), himport,
    expandTabs_modelImports, expandTabs_memberTexts]
  have hjoined := join_map_join "\n\n\n" hrows
  rw [List.map_cons, join_singleton, List.flatten_cons, List.singleton_append] at hjoined
  rw [hjoined]

end ModelsFile

/-- **Models file in order**: its text is the imports and the definitions one behind another, enums,
    models, codecs and what settles forward references, all as declared; what a definition needs when
    the file is run is defined before it: a model needs the enums that its defaults name, and an alias
    the classes that its type names. -/
structure Ordered (r : Registry) (s : Service) (f : File) (cs : List UnionCodec) : Prop where
  codecs : List.Forall₂ (fun u c => UnionCodec.ofUnion r u = .ok c) s.unions cs
  text : ∃ texts, List.Forall₂ (fun d t => d.text r = .ok t) (definitions r s cs) texts ∧
    f.text = join "\n\n\n" (Support.modelImports :: texts) ++ "\n"
  defined : ∀ before d after, definitions r s cs = before ++ d :: after →
    ∀ n ∈ d.uses r, ∃ e ∈ before, e.name? = some n
  defaults : ∀ m ∈ s.models, ∀ f ∈ m.fields, ∀ name raw, r.parse f.type = .ok (.named .enum name) →
    f.default = some raw → Registry.localClass name ∈ (Definition.model m).uses r
  aliases : ∀ c ∈ cs, ∀ n ∈ (c.type r).names, (∃ p : Primitive, n ∈ p.type.names) ∨
    n ∈ (Definition.alias c).uses r

variable {r : Registry} {s : Service} {settings : Settings} {o : Origin}

theorem ordered_of_modelsFile (hr : Registry.DeclaredBy s settings r) {f : File}
    (h : modelsFile r s = .ok f) : ∃ cs, Ordered r s f cs := by
  obtain ⟨enums, models, cs, henums, hmodels, hcs, rfl⟩ := modelsFile_eq hr h
  refine ⟨cs, hcs, ⟨_, text_definitions henums hmodels, text_modelsFile⟩, ?_, ?_, ?_⟩
  · intro before d after hsplit n hn
    exact (definedBeforeUse_definitions hr hcs before d after hsplit n hn).resolve_left
      List.not_mem_nil
  · intro m hm f hf name raw hparsed hraw
    obtain ⟨c, _, hc⟩ := exists_right_of_forall₂ hmodels hm
    exact mem_calls_of_enum hc hf hparsed hraw
  · intro c hc n hn
    obtain ⟨u, _, hu⟩ := exists_left_of_forall₂ hcs hc
    exact (named_of_mem_type hu hn).imp_right (List.mem_append_left _)

/-- **Every models file is in order.** -/
theorem ofService_ordered {p : Project} (h : (ofService s settings o).outcome = .ok p) :
    ∃ r f cs, Registry.ofService s settings = .ok r ∧ p.getFile? "models.py" = some f ∧
      Ordered r s f cs := by
  obtain ⟨r, hr, h⟩ := exists_generate_of_ofService h
  obtain ⟨_, models, _, _, _, _, hp⟩ := assembledFrom_of_generate h
  obtain ⟨cs, hcs⟩ := ordered_of_modelsFile (Registry.ofService_eq_ok.mp hr) hp.modelsMade
  exact ⟨r, models, cs, hr, hp.getFile?_modules.1, hcs⟩

/-- Service with defaults of an enum and of a number, and with two unions; a model names one behind it. -/
def palette : Service :=
  { name := "api"
    enums := [{ name := "shade", values := [⟨"dark", none⟩] }, { name := "color", values := [⟨"red", none⟩] }]
    models := [
      { name := "pen", fields := [⟨"tint", "color", true, some "red", none⟩, ⟨"box", "box", false, none, none⟩] },
      { name := "box", fields := [⟨"price", "decimal", true, some "1.5", none⟩] }]
    unions := [{ name := "tool", types := ["pen", "box"] }, { name := "mark", types := ["string", "color"] }] }

theorem ofService_ordered_palette : ∃ p, (ofService palette Dialect.aiohttp {}).outcome = .ok p ∧
    ∃ r f cs, Registry.ofService palette Dialect.aiohttp = .ok r ∧ p.getFile? "models.py" = some f ∧
      Ordered r palette f cs :=
  have h : ∃ p, (ofService palette Dialect.aiohttp {}).outcome = .ok p := ⟨_, rfl⟩
  h.imp fun _ hp => ⟨hp, ofService_ordered hp⟩

end Package

end ClientGen
