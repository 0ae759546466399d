import ClientGen.Proofs.Casing
import ClientGen.Proofs.Literals
import ClientGen.Proofs.Requests

/-!
# What the text of a path stands for

The path of a request is written as a literal: a plain one where the path has no placeholders, else an
interpolated one with a field for each of them. The other segments are put into it as they are. This
file fixes

* `filled`, `fixedText`: a path with values, or nothing, in the place of its placeholders;
* `quotedField`, `fieldText`: a field of an interpolated path, which writes the value of an argument;
* `interpolated_stands_iff`: an interpolated literal stands for the path exactly where the fixed text of
  the path is verbatim and has no braces;
* `PathExpr.ofOperation_denotes`: the literal of every path.
-/

namespace ClientGen

open ClientGen.Text ClientGen.Literal

/-! ## 1. Paths with values -/

namespace Endpoint

/-- Segment of a path with a value in the place of a placeholder, taken from its argument. -/
def filledSegment (value : String → String) (segment : String) : String :=
  match placeholder? segment with
  | some name => value (argumentName name)
  | none => segment

/-- **A path with values** in the place of its placeholders; everything else stays. -/
def filled (value : String → String) (path : String) : String :=
  join "/" ((segmentsOf path).map (filledSegment value))

/-- Text of a path around its placeholders. -/
def fixedText (path : String) : String := filled (fun _ => "") path

end Endpoint

/-! ## 2. Fields -/

/-- Tells whether a character is a brace. -/
def isBrace (c : Char) : Bool := c = '\x7b' || c = '\x7d'

/-- Call that a field makes, up to its argument. -/
def fieldOpening : List Char := "common.quote_path(".toList

/-- Field that writes an argument, behind its brace. -/
def fieldBody (argName : List Char) : List Char := fieldOpening ++ argName ++ [')', '\x7d']

/-- Reading of a field that writes an argument, behind its brace: it stands for the value. What any
    other field stands for is left open. -/
def quotedField (value : String → String) (cs : List Char) : Option (List Char × Nat) :=
  let name := (cs.drop fieldOpening.length).takeWhile isWordChar
  if name ≠ [] ∧ fieldBody name <+: cs then
    some ((value (String.ofList name)).toList, (fieldBody name).length)
  else none

section Fields

variable {byName : List Char → Option Char} {value : String → String} {cs rest vs v : List Char}
  {c : Char} {n : Nat}

theorem toList_text_argument (a : String) :
    (PathSegment.argument a).text.toList = '\x7b' :: fieldBody a.toList := by
  have hopening : "\x7bcommon.quote_path(".toList = '\x7b' :: fieldOpening := by decide
  have hclosing : ")\x7d".toList = [')', '\x7d'] := by decide
  have htext : (PathSegment.argument a).text = "\x7bcommon.quote_path(" ++ a ++ ")\x7d" := rfl
  rw [htext, String.toList_append, String.toList_append, hopening, hclosing, fieldBody,
    List.cons_append, List.cons_append]

/-- A field that is read writes an argument. -/
theorem exists_of_quotedField (h : quotedField value cs = some (v, n)) : ∃ name rest,
    cs = fieldBody name ++ rest ∧ v = (value (String.ofList name)).toList ∧
      n = (fieldBody name).length := by
  unfold quotedField at h
  dsimp only at h
  split at h
  · rename_i hname
    obtain ⟨rest, hrest⟩ := hname.2
    cases h
    exact ⟨_, rest, hrest.symm, rfl, rfl⟩
  · cases h

theorem quotedField_append {a : String} (hne : a ≠ "") (hw : ∀ c ∈ a.toList, isWordChar c = true)
    (rest : List Char) : quotedField value (fieldBody a.toList ++ rest) =
      some ((value a).toList, (fieldBody a.toList).length) := by
  have hname : ((fieldBody a.toList ++ rest).drop fieldOpening.length).takeWhile isWordChar =
      a.toList := by
    rw [fieldBody, List.append_assoc, List.append_assoc, List.drop_left]
    refine takeWhile_append_of_stop hw fun c hc => ?_
    cases hc
    rfl
  have hne' : a.toList ≠ [] := fun h => hne (String.toList_eq_nil_iff.mp h)
  unfold quotedField
  dsimp only
  rw [hname, if_pos ⟨hne', List.prefix_append _ _⟩, String.ofList_toList]

/-- A field of an interpolated literal is read as its value. -/
theorem read_field {a : String} (hne : a ≠ "") (hw : ∀ c ∈ a.toList, isWordChar c = true) :
    read (fieldStep byName (quotedField value))
      ((PathSegment.argument a).text.toList ++ rest) =
    (read (fieldStep byName (quotedField value)) rest).map ((value a).toList ++ ·) := by
  have hhead : (fieldBody a.toList ++ rest).head? ≠ some '\x7b' := by
    intro h
    cases h
  rw [toList_text_argument, List.cons_append, read_cons, fieldStep, if_pos rfl, if_neg hhead,
    quotedField_append hne hw, Option.bind_some, List.drop_left]

theorem fieldStep_of_not_isBrace (h : isBrace c = false) :
    fieldStep byName (quotedField value) c cs = plainStep byName c cs := by
  rw [isBrace, Bool.or_eq_false_iff, decide_eq_false_iff_not, decide_eq_false_iff_not] at h
  rw [fieldStep, if_neg h.1, if_neg h.2]

/-- A step of an interpolated path is a doubled brace, a field, or a step of a plain literal. -/
theorem cases_of_fieldStep (h : fieldStep byName (quotedField value) c cs = some (v, n)) :
    (v = [c] ∧ n = 1 ∧ 1 ≤ cs.length) ∨
    (∃ name rest, cs = fieldBody name ++ rest ∧ v = (value (String.ofList name)).toList ∧
      n = (fieldBody name).length) ∨
    isBrace c = false ∧ plainStep byName c cs = some (v, n) := by
  have pos : ∀ d, cs.head? = some d → 1 ≤ cs.length := by
    intro d hd
    obtain ⟨rest, rfl⟩ := List.head?_eq_some_iff.mp hd
    exact Nat.le_add_left 1 _
  unfold fieldStep at h
  split at h
  · split at h
    · rename_i hdouble
      cases h
      exact .inl ⟨rfl, rfl, pos _ hdouble⟩
    · exact .inr (.inl (exists_of_quotedField h))
  · rename_i hopen
    split at h
    · split at h
      · rename_i hdouble
        cases h
        exact .inl ⟨rfl, rfl, pos _ hdouble⟩
      · cases h
    · rename_i hclose
      refine .inr (.inr ⟨?_, h⟩)
      rw [isBrace, decide_eq_false hopen, decide_eq_false hclose]
      rfl

/-- Value of an argument that is as long as its field and has no braces. -/
def filler (argName : String) : String :=
  String.ofList (List.replicate ((fieldBody argName.toList).length + 1) '_')

theorem toList_filler (argName : List Char) : (filler (String.ofList argName)).toList =
    List.replicate ((fieldBody argName).length + 1) '_' := by
  rw [filler, String.toList_ofList, String.toList_ofList]

theorem neverGrows_fieldStep (byName : List Char → Option Char) :
    NeverGrows (fieldStep byName (quotedField filler)) := by
  intro c cs v n h
  rcases cases_of_fieldStep h with ⟨rfl, rfl, hpos⟩ | ⟨name, rest, rfl, rfl, rfl⟩ | ⟨_, hplain⟩
  · exact ⟨hpos, Nat.le_add_left 1 1⟩
  · rw [toList_filler, List.length_replicate, List.length_append]
    exact ⟨Nat.le_add_right _ _, Nat.le_refl _⟩
  · exact neverGrows_plainStep byName c cs v n hplain

end Fields

/-! ## 3. Segments -/

/-- Characters without braces. -/
def BraceFree (cs : List Char) : Prop := ∀ c ∈ cs, isBrace c = false

theorem braceFree_of_all {cs : List Char} (h : cs.all (fun c => !isBrace c) = true) : BraceFree cs := by
  intro c hc
  have hnot := List.all_eq_true.mp h c hc
  rwa [Bool.not_eq_true'] at hnot

theorem braceFree_append {as bs : List Char} : BraceFree (as ++ bs) ↔ BraceFree as ∧ BraceFree bs :=
  List.forall_mem_append

theorem braceFree_cons {c : Char} {cs : List Char} :
    BraceFree (c :: cs) ↔ isBrace c = false ∧ BraceFree cs :=
  List.forall_mem_cons

section Reading

variable {byName : List Char → Option Char} {value : String → String} {cs tail rest vs v : List Char}
  {c : Char}

/-- Characters that stand for themselves are read in an interpolated literal as in a plain one. -/
theorem read_append_of_keepsAll (hb : BraceFree cs) (h : keepsAll cs tail = true) :
    read (fieldStep byName (quotedField value)) (cs ++ tail) =
      (read (fieldStep byName (quotedField value)) tail).map (cs ++ ·) := by
  induction cs with
  | nil => simp only [List.nil_append, Option.map_id_fun', id_eq]
  | cons c cs ih =>
    obtain ⟨hc, hcs⟩ := braceFree_cons.mp hb
    rw [keepsAll, Bool.and_eq_true] at h
    have hstep : fieldStep byName (quotedField value) c (cs ++ tail) = some ([c], 0) := by
      rw [fieldStep_of_not_isBrace hc, plainStep_of_keepsItself h.1]
    rw [List.cons_append, read_cons_of_keeps hstep, ih hcs h.2, Option.map_map]
    rfl

/-- Characters without braces whose reading has as many stand for themselves. -/
theorem keepsAll_of_read_append (hb : BraceFree cs)
    (h : read (fieldStep byName (quotedField filler)) (cs ++ tail) = some vs)
    (hl : vs.length = (cs ++ tail).length) : keepsAll cs tail = true ∧
      ∃ rest, read (fieldStep byName (quotedField filler)) tail = some rest ∧ vs = cs ++ rest := by
  induction cs generalizing vs with
  | nil => exact ⟨rfl, vs, h, rfl⟩
  | cons c cs ih =>
    obtain ⟨hc, hcs⟩ := braceFree_cons.mp hb
    rw [List.cons_append] at h hl
    obtain ⟨value, taken, after, hs, hv, hr, hlr, rfl⟩ :=
      read_cons_of_length_eq (neverGrows_fieldStep byName) h hl
    rw [fieldStep_of_not_isBrace hc] at hs
    obtain ⟨hk, rfl, rfl⟩ := keepsItself_of_plainStep hs hv
    obtain ⟨hks, rest, hrest, rfl⟩ := ih hcs hr hlr
    exact ⟨by rw [keepsAll, hk, hks]; rfl, rest, hrest, rfl⟩

/-- A step without loss gives no braces: a doubled one is one character for two. -/
theorem braceFree_of_fieldStep {n : Nat}
    (h : fieldStep byName (quotedField filler) c cs = some (v, n)) (hl : v.length = n + 1) :
    BraceFree v := by
  rcases cases_of_fieldStep h with ⟨rfl, rfl, _⟩ | ⟨name, rest, rfl, rfl, rfl⟩ | ⟨hc, hplain⟩
  · cases hl
  · intro d hd
    rw [toList_filler] at hd
    rw [List.eq_of_mem_replicate hd]
    rfl
  · obtain ⟨_, rfl, _⟩ := keepsItself_of_plainStep hplain hl
    exact braceFree_cons.mpr ⟨hc, fun d hd => nomatch hd⟩

/-- What is read without loss has no braces. -/
theorem braceFree_of_read (h : read (fieldStep byName (quotedField filler)) cs = some vs)
    (hl : vs.length = cs.length) : BraceFree vs := by
  have hg := neverGrows_fieldStep byName
  have hboth : vs.length ≤ cs.length ∧ (vs.length = cs.length → BraceFree vs) := by
    refine read_induction (P := fun cs vs => vs.length ≤ cs.length ∧
      (vs.length = cs.length → BraceFree vs)) ?_ ?_ h
    · exact ⟨Nat.le_refl 0, fun _ _ hm => nomatch hm⟩
    intro c cs v taken rest hs ⟨hle, heq⟩
    obtain ⟨ht, hv⟩ := hg c cs v taken hs
    rw [List.length_drop] at hle heq
    rw [List.length_append, List.length_cons]
    refine ⟨by omega, fun hlength => braceFree_append.mpr ⟨?_, heq (by omega)⟩⟩
    exact braceFree_of_fieldStep hs (by omega)
  exact hboth.2 hl

end Reading

/-! ## 4. Names of arguments -/

theorem padded_argumentName (name : String) : Padded (snakeCase name) (argumentName name) := by
  unfold argumentName
  exact (Padded.of_safeName _).ite _

/-- The name of an argument consists of letters and digits of ASCII and underscores. -/
theorem isWordChar_of_mem_argumentName {name : String} {c : Char}
    (h : c ∈ (argumentName name).toList) : isWordChar c = true :=
  (padded_argumentName name).isWordChar_of_mem h

theorem argumentName_ne_empty (name : String) : argumentName name ≠ "" := by
  unfold argumentName
  dsimp only
  split
  · exact append_ne_empty (safeName_ne_empty _) "_"
  · exact safeName_ne_empty _

/-! ## 5. Paths segment by segment -/

/-- What is written for a segment: a placeholder gives way to its argument. -/
def writtenSegment (segment : String) : PathSegment :=
  match Endpoint.placeholder? segment with
  | some name => .argument (argumentName name)
  | none => .literal segment

/-- Characters of segments that are written into an interpolated path. -/
def writtenChars (segments : List String) : List Char :=
  List.intercalate ['/'] (segments.map fun s => (writtenSegment s).text.toList)

/-- Characters of segments with values in the place of placeholders. -/
def filledChars (value : String → String) (segments : List String) : List Char :=
  List.intercalate ['/'] (segments.map fun s => (Endpoint.filledSegment value s).toList)

theorem toList_filled (value : String → String) (path : String) :
    (Endpoint.filled value path).toList = filledChars value (Endpoint.segmentsOf path) := by
  rw [Endpoint.filled, toList_join, List.map_map]
  rfl

theorem filledChars_singleton (value : String → String) (s : String) :
    filledChars value [s] = (Endpoint.filledSegment value s).toList := by
  rw [filledChars, List.map_singleton, List.intercalate_singleton]

theorem writtenChars_singleton (s : String) : writtenChars [s] = (writtenSegment s).text.toList := by
  rw [writtenChars, List.map_singleton, List.intercalate_singleton]

theorem filledChars_cons_cons (value : String → String) (s t : String) (rest : List String) :
    filledChars value (s :: t :: rest) =
      (Endpoint.filledSegment value s).toList ++ '/' :: filledChars value (t :: rest) := by
  rw [filledChars, List.map_cons, List.map_cons, List.intercalate_cons_cons, List.append_assoc]
  rfl

theorem writtenChars_cons_cons (s t : String) (rest : List String) :
    writtenChars (s :: t :: rest) =
      (writtenSegment s).text.toList ++ '/' :: writtenChars (t :: rest) := by
  rw [writtenChars, List.map_cons, List.map_cons, List.intercalate_cons_cons, List.append_assoc]
  rfl

section Segments

variable {byName : List Char → Option Char} {value : String → String} {s : String}
  {tail w : List Char} {segments : List String}

/-- A segment whose fixed text stands for itself is read as its value. -/
theorem read_segment (hb : BraceFree (Endpoint.filledSegment (fun _ => "") s).toList)
    (hk : keepsAll (Endpoint.filledSegment (fun _ => "") s).toList tail = true) :
    read (fieldStep byName (quotedField value)) ((writtenSegment s).text.toList ++ tail) =
      (read (fieldStep byName (quotedField value)) tail).map
        ((Endpoint.filledSegment value s).toList ++ ·) := by
  unfold writtenSegment
  unfold Endpoint.filledSegment at hb hk ⊢
  cases hp : Endpoint.placeholder? s with
  | some name =>
    exact read_field (argumentName_ne_empty name) fun c => isWordChar_of_mem_argumentName
  | none =>
    rw [hp] at hb hk
    exact read_append_of_keepsAll hb hk

/-- A segment that is read without loss has a fixed text that stands for itself. -/
theorem of_read_segment (hb : BraceFree (Endpoint.filledSegment filler s).toList)
    (h : read (fieldStep byName (quotedField filler)) ((writtenSegment s).text.toList ++ tail) =
      some ((Endpoint.filledSegment filler s).toList ++ w)) (hl : w.length = tail.length) :
    BraceFree (Endpoint.filledSegment (fun _ => "") s).toList ∧
      keepsAll (Endpoint.filledSegment (fun _ => "") s).toList tail = true ∧
      read (fieldStep byName (quotedField filler)) tail = some w := by
  unfold writtenSegment at h
  unfold Endpoint.filledSegment at hb h ⊢
  cases hp : Endpoint.placeholder? s with
  | some name =>
    rw [hp] at hb h
    dsimp only at hb h ⊢
    rw [read_field (argumentName_ne_empty name) fun c => isWordChar_of_mem_argumentName] at h
    obtain ⟨w', hw', hww⟩ := Option.map_eq_some_iff.mp h
    rw [List.append_cancel_left hww] at hw'
    exact ⟨fun c hc => (List.not_mem_nil hc).elim, rfl, hw'⟩
  | none =>
    rw [hp] at hb h
    have hlength : (s.toList ++ w).length = (s.toList ++ tail).length := by
      rw [List.length_append, List.length_append, hl]
    obtain ⟨hk, w', hw', hww⟩ := keepsAll_of_read_append hb h hlength
    rw [← List.append_cancel_left hww] at hw'
    exact ⟨hb, hk, hw'⟩

theorem length_filledSegment (s : String) :
    (Endpoint.filledSegment filler s).toList.length = (writtenSegment s).text.toList.length := by
  unfold writtenSegment Endpoint.filledSegment
  cases Endpoint.placeholder? s with
  | some name =>
    dsimp only
    rw [toList_text_argument, filler, String.toList_ofList, List.length_replicate, List.length_cons]
  | none => rfl

theorem length_filledChars (segments : List String) :
    (filledChars filler segments).length = (writtenChars segments).length := by
  induction segments with
  | nil => rfl
  | cons s rest ih =>
    cases rest with
    | nil => rw [filledChars_singleton, writtenChars_singleton, length_filledSegment]
    | cons t rest =>
      rw [filledChars_cons_cons, writtenChars_cons_cons, List.length_append, List.length_append,
        List.length_cons, List.length_cons, ih, length_filledSegment]

theorem read_slash (tail : List Char) : read (fieldStep byName (quotedField value)) ('/' :: tail) =
    (read (fieldStep byName (quotedField value)) tail).map ('/' :: ·) := by
  refine read_cons_of_keeps ?_
  rw [fieldStep_of_not_isBrace rfl, plainStep_of_keepsItself rfl]

theorem keepsAll_slash (cs as bs : List Char) : keepsAll cs ('/' :: as) = keepsAll cs ('/' :: bs) := by
  have hhead : ('/' :: as).head? = ('/' :: bs).head? := rfl
  exact keepsAll_of_head? hhead cs

/-- Fixed text that stands for itself makes the path stand for its values. -/
theorem read_writtenChars (hb : BraceFree (filledChars (fun _ => "") segments))
    (hv : isVerbatim (filledChars (fun _ => "") segments) = true) :
    read (fieldStep byName (quotedField value)) (writtenChars segments) =
      some (filledChars value segments) := by
  induction segments with
  | nil => rfl
  | cons s rest ih =>
    cases rest with
    | nil =>
      rw [filledChars_singleton] at hb hv ⊢
      rw [isVerbatim_eq_keepsAll] at hv
      rw [writtenChars_singleton, ← List.append_nil (writtenSegment s).text.toList,
        read_segment hb hv, read_nil, Option.map_some, List.append_nil]
    | cons t rest =>
      rw [filledChars_cons_cons] at hb hv
      rw [isVerbatim_append, Bool.and_eq_true, isVerbatim, Bool.and_eq_true,
        keepsAll_slash _ _ (writtenChars (t :: rest))] at hv
      obtain ⟨hbs, hbrest⟩ := braceFree_append.mp hb
      rw [writtenChars_cons_cons, filledChars_cons_cons, read_segment hbs hv.1, read_slash,
        ih (braceFree_cons.mp hbrest).2 hv.2.2]
      rfl

/-- A path that is read without loss has a fixed text that stands for itself. -/
theorem of_read_writtenChars (hb : BraceFree (filledChars filler segments))
    (h : read (fieldStep byName (quotedField filler)) (writtenChars segments) =
      some (filledChars filler segments)) :
    BraceFree (filledChars (fun _ => "") segments) ∧
      isVerbatim (filledChars (fun _ => "") segments) = true := by
  induction segments with
  | nil => exact ⟨fun c hc => (List.not_mem_nil hc).elim, rfl⟩
  | cons s rest ih =>
    cases rest with
    | nil =>
      rw [filledChars_singleton] at hb h ⊢
      rw [writtenChars_singleton, ← List.append_nil (writtenSegment s).text.toList,
        ← List.append_nil (Endpoint.filledSegment filler s).toList] at h
      obtain ⟨hfree, hk, _⟩ := of_read_segment hb h rfl
      exact ⟨hfree, (isVerbatim_eq_keepsAll _).trans hk⟩
    | cons t rest =>
      rw [filledChars_cons_cons] at hb h ⊢
      rw [writtenChars_cons_cons] at h
      obtain ⟨hbs, hbrest⟩ := braceFree_append.mp hb
      have hl : ('/' :: filledChars filler (t :: rest)).length =
          ('/' :: writtenChars (t :: rest)).length := by
        rw [List.length_cons, List.length_cons, length_filledChars]
      obtain ⟨hfirst, hk, hrest⟩ := of_read_segment hbs h hl
      rw [read_slash] at hrest
      obtain ⟨w, hw, hww⟩ := Option.map_eq_some_iff.mp hrest
      rw [(List.cons.inj hww).2] at hw
      obtain ⟨hfree, hv⟩ := ih (braceFree_cons.mp hbrest).2 hw
      refine ⟨braceFree_append.mpr ⟨hfirst, braceFree_cons.mpr ⟨rfl, hfree⟩⟩, ?_⟩
      rw [keepsAll_slash _ _ (filledChars (fun _ => "") (t :: rest))] at hk
      rw [isVerbatim_append, isVerbatim, hk, hv]
      rfl

end Segments

/-! ## 6. The literal of a path -/

namespace Endpoint

variable {r : Registry} {resource : Resource} {o : Operation} {e : Endpoint}

theorem argName_of_mem_parameters (h : BuiltFrom r resource o e) {a : Argument}
    (ha : a ∈ e.parameters) : a.argName = argumentName a.name := by
  obtain ⟨p, l, hp⟩ := h.exists_argumentOf ha
  have hs := standsFor_of_argumentOf hp
  rw [hs.argName, hs.name]

/-- A placeholder of the path has its argument. -/
theorem found_of_builtFrom (h : BuiltFrom r resource o e) {s name : String}
    (hs : s ∈ segmentsOf o.path) (hn : placeholder? s = some name) : ∃ a ∈ e.pathParameters,
      a.name = name ∧ a.argName = argumentName name ∧ PathExpr.segmentOf e s = .argument a.argName := by
  have hc := h.carries_segmentOf hs
  rw [Carries, hn] at hc
  obtain ⟨a, ha, rfl, hg⟩ := hc
  exact ⟨a, ha, rfl, argName_of_mem_parameters h (List.mem_filter.mp ha).1, hg⟩

theorem segmentOf_eq_writtenSegment (h : BuiltFrom r resource o e) {s : String}
    (hs : s ∈ segmentsOf o.path) : PathExpr.segmentOf e s = writtenSegment s := by
  cases hn : placeholder? s with
  | none => rw [PathExpr.segmentOf, writtenSegment, hn]
  | some name =>
    obtain ⟨a, _, _, ha, hg⟩ := found_of_builtFrom h hs hn
    rw [hg, ha, writtenSegment, hn]

theorem filled_of_no_placeholders {path : String} (h : placeholdersOf path = [])
    (value : String → String) : filled value path = path := by
  have hall : ∀ s ∈ segmentsOf path, filledSegment value s = id s := fun s hs => by
    rw [filledSegment, List.filterMap_eq_nil_iff.mp h s hs, id]
  have hsame : (segmentsOf path).map (filledSegment value) = segmentsOf path :=
    (List.map_congr_left hall).trans (List.map_id _)
  rw [filled, hsame]
  exact join_pieces '/' path

/-- **What the literal of a path owes its operation**. -/
structure Denotes (o : Operation) (e : Endpoint) : Prop where
  /-- Each placeholder has its argument. -/
  found : ∀ s ∈ segmentsOf o.path, ∀ name, placeholder? s = some name →
    ∃ a ∈ e.pathParameters, a.name = name ∧ a.argName = argumentName name ∧
      PathExpr.segmentOf e s = .argument a.argName
  /-- The literal stands for the path with any values in it exactly where the fixed text stands for
      itself in a literal and, in an interpolated one, has no braces. -/
  stands : ∀ byName : List Char → Option Char,
    (∀ value, denoted? byName (quotedField value) (PathExpr.ofEndpoint e).text =
      some (filled value o.path)) ↔
    isVerbatim (fixedText o.path).toList = true ∧
      (placeholdersOf o.path ≠ [] → BraceFree (fixedText o.path).toList)

theorem stands_fixed (byName : List Char → Option Char) {path : String}
    (h : placeholdersOf path = []) :
    (∀ value, denoted? byName (quotedField value) (PathExpr.fixed path).text =
      some (filled value path)) ↔ isVerbatim (fixedText path).toList = true := by
  have htext : (PathExpr.fixed path).text = "\"" ++ path ++ "\"" := rfl
  simp only [htext, fixedText, filled_of_no_placeholders h, denoted?_quotes,
    plain?_quotes_eq_self_iff, forall_const]

theorem stands_interpolated (byName : List Char → Option Char) (path : String) :
    (∀ value, denoted? byName (quotedField value)
      (PathExpr.interpolated ((segmentsOf path).map writtenSegment)).text = some (filled value path)) ↔
    isVerbatim (fixedText path).toList = true ∧ BraceFree (fixedText path).toList := by
  have htext : (PathExpr.interpolated ((segmentsOf path).map writtenSegment)).text =
      "f\"" ++ join "/" (((segmentsOf path).map writtenSegment).map (·.text)) ++ "\"" := rfl
  have hchars : (join "/" (((segmentsOf path).map writtenSegment).map (·.text))).toList =
      writtenChars (segmentsOf path) := by
    rw [toList_join, List.map_map, List.map_map]
    rfl
  simp only [htext, denoted?_interpolated, interpolated?_quotes, hchars, map_ofList_eq_some_iff,
    fixedText, toList_filled]
  constructor
  · intro h
    have hb := braceFree_of_read (h filler) (length_filledChars _)
    obtain ⟨hfree, hv⟩ := of_read_writtenChars hb (h filler)
    exact ⟨hv, hfree⟩
  · rintro ⟨hv, hfree⟩ value
    exact read_writtenChars hfree hv

/-- **The literal of a path**, for every operation that is accepted. In texts, the 2048 characters from
    U+10A000 stand for lone surrogates. -/
theorem ofOperation_denotes (h : ofOperation r resource o = .ok e) : Denotes o e := by
  have hb := ofOperation_eq_ok.mp h
  refine ⟨fun s hs name => found_of_builtFrom hb hs, fun byName => ?_⟩
  have hsegments : (segmentsOf o.path).map (PathExpr.segmentOf e) =
      (segmentsOf o.path).map writtenSegment :=
    List.map_congr_left fun s hs => segmentOf_eq_writtenSegment hb hs
  rw [PathExpr.ofEndpoint, hb.operation_eq, hb.placeholders_eq, hsegments]
  split
  · rename_i hnil
    have hnil := List.isEmpty_iff.mp hnil
    rw [stands_fixed byName hnil]
    exact (and_iff_left fun hne => absurd hnil hne).symm
  · rename_i hne
    rw [stands_interpolated byName o.path]
    have hne : placeholdersOf o.path ≠ [] := mt List.isEmpty_iff.mpr hne
    exact and_congr_right fun _ => ⟨fun hfree _ => hfree, fun hfree => hfree hne⟩

/-- Operation whose path has quotes, and a backslash that begins no escape. -/
def keptBackslash : Operation := { verb := .get, path := "/it's \\d/:itemId" }

/-- Such a path is denoted, whatever stands in it. -/
theorem ofOperation_denotes_keptBackslash : ∃ e,
    ofOperation ⟨Dialect.aiohttp, [], []⟩ shops keptBackslash = .ok e ∧
    (PathExpr.ofEndpoint e).text = "f\"/it's \\d/\x7bcommon.quote_path(item_id)\x7d\"" ∧
    Denotes keptBackslash e ∧
    ∀ byName value, denoted? byName (quotedField value) (PathExpr.ofEndpoint e).text =
      some (filled value keptBackslash.path) := by
  have h := @ofOperation_denotes ⟨Dialect.aiohttp, [], []⟩ shops keptBackslash _ rfl
  have hfree : BraceFree (fixedText keptBackslash.path).toList := braceFree_of_all (by decide)
  exact ⟨_, rfl, rfl, h, fun byName => (h.stands byName).mpr ⟨by decide, fun _ => hfree⟩⟩

/-- Operation with doubled braces in its path. -/
def doubledBraces : Operation := { verb := .get, path := "/users/\x7b\x7bname\x7d\x7d/:guid" }

/-- **A path that its literal does not stand for**: of two braces one is left. -/
theorem exists_path_not_denoted : ∃ e,
    ofOperation ⟨Dialect.aiohttp, [], []⟩ shops doubledBraces = .ok e ∧
    filled (fun _ => "1") doubledBraces.path = "/users/\x7b\x7bname\x7d\x7d/1" ∧
    ∀ byName, denoted? byName (quotedField fun _ => "1") (PathExpr.ofEndpoint e).text =
      some "/users/\x7bname\x7d/1" :=
  ⟨_, rfl, rfl, fun _ => rfl⟩

end Endpoint

end ClientGen
