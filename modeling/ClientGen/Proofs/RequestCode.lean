import ClientGen.Proofs.Placeholders
import ClientGen.Proofs.WireNames

/-!
# The code that sends a request, as it is read

The code of a request holds texts of the description: the declared names of parameters, which stand in
literals, and the fixed segments of the path, which stand in an interpolated one. This file reads that
code back, knowing nothing of requests, and fixes

* `Token`, `scan`, `Reads`: code as characters and literals, and what a double quote closes;
* `isClosed`, `reads_literal`, `reads_shifted`: a text stays between its quotes exactly where it has no
  double quote and no line end of its own, also where the code around it is moved in;
* `slots?`: the arguments that the fields of a segment write;
* `payloadTokens`, `queryTokens`, `callTokens`: the code that an endpoint's request owes its operation;
* `Endpoint.Sends`, `Endpoint.ofOperation_sends`: every parameter is sent exactly once, in the request
  and, where declared texts stay in their places, in its code.
-/

namespace ClientGen

open ClientGen.Text ClientGen.Literal

namespace RequestCode

/-! ## 1. Tokens -/

/-- A token of code: a character outside of literals, or a literal with what is between its quotes. -/
inductive Token where
  | code (c : Char)
  | literal (body : String)
  deriving DecidableEq, Repr

/-- Where a reader of code is: outside of literals, or behind some characters of one, of which the last
    may be a backslash that takes the next one along. -/
inductive Place where
  | outside
  | inside (body : List Char) (escaped : Bool)

/-- **Tokens of code.** A literal goes from a double quote to the next one that no backslash takes along,
    and over no line end; spaces outside of literals are left out. -/
def scan : Place → List Char → Option (List Token)
  | .outside, [] => some []
  | .inside _ _, [] => none
  | .outside, c :: cs =>
    if c = '"' then scan (.inside [] false) cs
    else if c = ' ' then scan .outside cs
    else (scan .outside cs).map (.code c :: ·)
  | .inside body escaped, c :: cs =>
    if isLineEnd c then none
    else if c = '"' && !escaped then (scan .outside cs).map (.literal (String.ofList body) :: ·)
    else scan (.inside (body ++ [c]) (c = '\\' && !escaped)) cs

/-- A text reads as tokens. -/
def Reads (s : String) (ts : List Token) : Prop := scan .outside s.toList = some ts

/-- Tokens of code without literals. -/
def codeTokens (s : String) : List Token := (s.toList.filter (· ≠ ' ')).map .code

/-- Tells whether characters stay between the quotes around them, behind a backslash or not. -/
def staysInside : Bool → List Char → Bool
  | escaped, [] => !escaped
  | escaped, c :: cs =>
    !isLineEnd c && !(c = '"' && !escaped) && staysInside (c = '\\' && !escaped) cs

/-- **Tells whether a text stays between double quotes**: it has no line end, no double quote but behind
    a backslash, and no backslash that takes the closing quote along. -/
def isClosed (s : String) : Bool := staysInside false s.toList

/-- Tells whether a text is code on one line, without literals. -/
def IsCode (s : String) : Prop := '"' ∉ s.toList ∧ InLine s

instance (s : String) : Decidable (IsCode s) := inferInstanceAs (Decidable ('"' ∉ s.toList ∧ InLine s))

section Scan

variable {body rest more : List Char} {escaped : Bool} {ts : List Token} {s t code : String}

theorem codeTokens_append (s t : String) : codeTokens (s ++ t) = codeTokens s ++ codeTokens t := by
  rw [codeTokens, String.toList_append, List.filter_append, List.map_append]
  rfl

theorem quote_not_mem_append : '"' ∉ (s ++ t).toList ↔ '"' ∉ s.toList ∧ '"' ∉ t.toList := by
  rw [String.toList_append, List.mem_append, not_or]

theorem isCode_append : IsCode (s ++ t) ↔ IsCode s ∧ IsCode t := by
  unfold IsCode
  rw [inLine_append, quote_not_mem_append]
  exact and_and_and_comm

/-- What is read behind characters of a literal is a literal that goes on with them. -/
theorem exists_of_scan_inside (h : scan (.inside body escaped) rest = some ts) :
    ∃ more ts', ts = .literal (String.ofList (body ++ more)) :: ts' ∧ ∀ c ∈ more, isLineEnd c = false := by
  induction rest generalizing body escaped with
  | nil => cases h
  | cons c cs ih =>
    rw [scan] at h
    split at h
    · cases h
    · rename_i hend
      split at h
      · obtain ⟨ts', _, rfl⟩ := Option.map_eq_some_iff.mp h
        exact ⟨[], ts', by rw [List.append_nil], fun c hc => absurd hc List.not_mem_nil⟩
      · obtain ⟨more, ts', rfl, hmore⟩ := ih h
        refine ⟨c :: more, ts', by rw [List.append_assoc, List.singleton_append], ?_⟩
        exact List.forall_mem_cons.mpr ⟨(Bool.not_eq_true _).mp hend, hmore⟩

/-- A literal that is read is no shorter than what it began with. -/
theorem scan_inside_ne (hne : more ≠ []) :
    scan (.inside (body ++ more) escaped) rest ≠ some (.literal (String.ofList body) :: ts) := by
  intro h
  obtain ⟨after, ts', he, _⟩ := exists_of_scan_inside h
  have hbody : body = body ++ more ++ after := by
    have := Token.literal.inj (List.cons.inj he).1
    rwa [← String.toList_inj, String.toList_ofList, String.toList_ofList] at this
  rw [List.append_assoc, List.self_eq_append_right] at hbody
  exact hne (List.append_eq_nil_iff.mp hbody).1

/-- **Characters are read as the rest of a literal** exactly where they stay between its quotes. -/
theorem scan_inside_iff {before : List Char} :
    scan (.inside before escaped) (body ++ '"' :: rest) =
      some (.literal (String.ofList (before ++ body)) :: ts) ↔
    staysInside escaped body = true ∧ scan .outside rest = some ts := by
  induction body generalizing before escaped with
  | nil =>
    rw [List.nil_append, List.append_nil, scan, if_neg (by decide), staysInside]
    cases escaped with
    | false =>
      rw [if_pos (by decide), Option.map_eq_some_iff]
      constructor
      · rintro ⟨ts', hts, he⟩
        exact ⟨rfl, (List.cons.inj he).2 ▸ hts⟩
      · exact fun h => ⟨ts, h.2, rfl⟩
    | true =>
      rw [if_neg (by decide)]
      exact iff_of_false (scan_inside_ne (List.cons_ne_nil _ _)) fun h => nomatch h.1
  | cons c cs ih =>
    rw [List.cons_append, scan, staysInside]
    cases hend : isLineEnd c with
    | true =>
      rw [if_pos rfl]
      exact iff_of_false (fun h => nomatch h) fun h => nomatch h.1
    | false =>
      rw [if_neg Bool.false_ne_true]
      cases hquote : decide (c = '"') && !escaped with
      | true =>
        rw [if_pos rfl]
        refine iff_of_false (fun h => ?_) fun h => nomatch h.1
        obtain ⟨ts', _, he⟩ := Option.map_eq_some_iff.mp h
        have hbody := Token.literal.inj (List.cons.inj he).1
        rw [← String.toList_inj, String.toList_ofList, String.toList_ofList,
          List.self_eq_append_right] at hbody
        exact List.cons_ne_nil c cs hbody
      | false =>
        have hbody : before ++ c :: cs = before ++ [c] ++ cs := by
          rw [List.append_assoc, List.singleton_append]
        rw [if_neg Bool.false_ne_true, hbody, ih]
        rfl

theorem reads_code (h : '"' ∉ code.toList) :
    Reads (code ++ s) (codeTokens code ++ ts) ↔ Reads s ts := by
  have hscan : scan .outside (code ++ s).toList = (scan .outside s.toList).map (codeTokens code ++ ·) := by
    rw [String.toList_append, codeTokens]
    generalize code.toList = cs at h
    induction cs with
    | nil => simp
    | cons c cs ih =>
      obtain ⟨hc, hcs⟩ := not_or.mp (mt List.mem_cons.mpr h)
      rw [List.cons_append, scan, if_neg (Ne.symm hc), ih hcs]
      by_cases hspace : c = ' '
      · rw [if_pos hspace, List.filter_cons_of_neg (by simp [hspace])]
      · rw [if_neg hspace, List.filter_cons_of_pos (by simp [hspace]), Option.map_map]
        rfl
  rw [Reads, hscan, Option.map_eq_some_iff]
  constructor
  · rintro ⟨ts', hts, he⟩
    rwa [List.append_cancel_left he] at hts
  · exact fun h => ⟨ts, h, rfl⟩

/-- **A literal is read as what is between its quotes** exactly where that stays there. -/
theorem reads_literal : Reads ("\"" ++ (t ++ ("\"" ++ s))) (.literal t :: ts) ↔
    isClosed t = true ∧ Reads s ts := by
  have hlist : ("\"" ++ (t ++ ("\"" ++ s))).toList = '"' :: (t.toList ++ '"' :: s.toList) := by
    simp
  have hopen : scan .outside ('"' :: (t.toList ++ '"' :: s.toList)) =
      scan (.inside [] false) (t.toList ++ '"' :: s.toList) := by
    rw [scan, if_pos rfl]
  have hiff : scan (.inside [] false) (t.toList ++ '"' :: s.toList) =
        some (.literal (String.ofList ([] ++ t.toList)) :: ts) ↔
      staysInside false t.toList = true ∧ scan .outside s.toList = some ts := scan_inside_iff
  rw [List.nil_append, String.ofList_toList] at hiff
  rw [Reads, hlist, hopen]
  exact hiff

theorem inLine_of_staysInside (h : staysInside escaped body = true) : '\n' ∉ body := by
  induction body generalizing escaped with
  | nil => exact List.not_mem_nil
  | cons c cs ih =>
    rw [staysInside, Bool.and_eq_true, Bool.and_eq_true] at h
    have hc : '\n' ≠ c := by
      rintro rfl
      exact absurd h.1.1 (by decide)
    exact fun hm => (List.mem_cons.mp hm).elim hc (ih h.2)

/-- Code that is moved in keeps a literal exactly where it stays between its quotes. -/
theorem reads_shifted (level : Nat) :
    Reads ("\"" ++ (shifted level t ++ ("\"" ++ s))) (.literal t :: ts) ↔
      isClosed t = true ∧ Reads s ts := by
  by_cases hline : InLine t
  · rw [shifted_of_inLine hline, reads_literal]
  · refine iff_of_false (fun h => hline ?_) fun h => hline (inLine_of_staysInside h.1)
    have hlist : ("\"" ++ (shifted level t ++ ("\"" ++ s))).toList =
        '"' :: ((shifted level t).toList ++ '"' :: s.toList) := by
      simp
    rw [Reads, hlist, scan, if_pos rfl] at h
    obtain ⟨more, _, he, hmore⟩ := exists_of_scan_inside h
    rw [Token.literal.inj (List.cons.inj he).1, InLine, String.toList_ofList, List.nil_append]
    exact fun hm => absurd (hmore '\n' hm) (by decide)

end Scan

/-! ## 2. Entries on lines of their own -/

/-- An entry: code with one literal in it. -/
def entryText (lead name trail : String) : String := lead ++ ("\"" ++ (name ++ ("\"" ++ trail)))

/-- Tokens of an entry and of the line end behind it. -/
def entryTokens (lead name trail : String) : List Token :=
  codeTokens lead ++ .literal name :: codeTokens (trail ++ "\n")

section Entries

variable {s : String} {ts : List Token}

theorem indent_break (s t : String) : indent (s ++ "\n" ++ t) = indent s ++ "\n" ++ indent t := by
  have hne : ∀ u, (lines u).map (indentLine 1) ≠ [] := fun u he => by
    obtain ⟨l, ls, hu⟩ := exists_lines_eq_cons u
    rw [hu] at he
    exact List.cons_ne_nil _ _ he
  simp only [indent, indentBy, lines_break, List.map_append]
  exact join_append "\n" (hne s) (hne t)

/-- An entry that is moved in is read exactly where its name stays between the quotes. -/
theorem reads_entry {lead trail : String} (name : String) (hlead : IsCode lead) (htrail : IsCode trail) :
    Reads (indent (entryText lead name trail) ++ ("\n" ++ s)) (entryTokens lead name trail ++ ts) ↔
      isClosed name = true ∧ Reads s ts := by
  have hmargin : codeTokens (margin 1) = [] := by decide
  have hopening : codeTokens lead = codeTokens (margin 1 ++ lead) := by
    rw [codeTokens_append, hmargin, List.nil_append]
  have hquote : '"' ∉ (margin 1 ++ lead).toList := quote_not_mem_append.mpr ⟨by decide, hlead.1⟩
  have hbreak : '"' ∉ (trail ++ "\n").toList := quote_not_mem_append.mpr ⟨htrail.1, by decide⟩
  have htext : indent (entryText lead name trail) ++ ("\n" ++ s) =
      (margin 1 ++ lead) ++ ("\"" ++ (shifted 1 name ++ ("\"" ++ ((trail ++ "\n") ++ s)))) := by
    rw [indent, entryText, indentBy_append_quoted 1 hlead.2, continued_of_inLine htrail.2]
    simp only [String.append_assoc]
  rw [htext, entryTokens, hopening, List.append_assoc, reads_code hquote, List.cons_append,
    reads_shifted, reads_code hbreak]

/-- **Entries on lines of their own** are read one after another exactly where all their names stay
    between the quotes. -/
theorem reads_entries {α : Type} {lead name trail : α → String} {as : List α} (hne : as ≠ [])
    (hlead : ∀ a ∈ as, IsCode (lead a)) (htrail : ∀ a ∈ as, IsCode (trail a)) :
    Reads (indent (unlines (as.map fun a => entryText (lead a) (name a) (trail a))) ++ ("\n" ++ s))
      (as.flatMap (fun a => entryTokens (lead a) (name a) (trail a)) ++ ts) ↔
    (∀ a ∈ as, isClosed (name a) = true) ∧ Reads s ts := by
  induction as with
  | nil => exact absurd rfl hne
  | cons a as ih =>
    obtain ⟨ha, has⟩ := List.forall_mem_cons.mp hlead
    obtain ⟨ht, hts⟩ := List.forall_mem_cons.mp htrail
    rw [List.flatMap_cons, List.append_assoc, List.forall_mem_cons]
    cases as with
    | nil =>
      rw [List.map_singleton, List.flatMap_nil, List.nil_append]
      refine (reads_entry (name a) ha ht).trans ?_
      exact and_congr_left fun _ => (and_iff_left fun b hb => absurd hb List.not_mem_nil).symm
    | cons b as =>
      have hlines : unlines ((a :: b :: as).map fun a => entryText (lead a) (name a) (trail a)) =
          entryText (lead a) (name a) (trail a) ++ "\n" ++
            unlines ((b :: as).map fun a => entryText (lead a) (name a) (trail a)) :=
        unlines_cons_cons _ _ _
      rw [hlines, indent_break, String.append_assoc, String.append_assoc, reads_entry (name a) ha ht,
        ih (List.cons_ne_nil b as) has hts, and_assoc]

/-- A list of entries between its brackets is read exactly where they are. -/
theorem reads_listed {α : Type} (lead name trail : α → String) {as : List α} (opening closing : String)
    (hopening : IsCode opening) (hclosing : IsCode closing)
    (hne : as ≠ []) (hlead : ∀ a ∈ as, IsCode (lead a)) (htrail : ∀ a ∈ as, IsCode (trail a)) :
    Reads (opening ++ "\n" ++ indent (unlines (as.map fun a => entryText (lead a) (name a) (trail a)))
        ++ "\n" ++ closing ++ "\n\n" ++ s)
      (codeTokens (opening ++ "\n") ++ as.flatMap (fun a => entryTokens (lead a) (name a) (trail a))
        ++ codeTokens (closing ++ "\n\n") ++ ts) ↔
    (∀ a ∈ as, isClosed (name a) = true) ∧ Reads s ts := by
  have htext : opening ++ "\n" ++ indent (unlines (as.map fun a => entryText (lead a) (name a) (trail a)))
      ++ "\n" ++ closing ++ "\n\n" ++ s = (opening ++ "\n") ++
        (indent (unlines (as.map fun a => entryText (lead a) (name a) (trail a))) ++
          ("\n" ++ ((closing ++ "\n\n") ++ s))) := by
    simp only [String.append_assoc]
  have hbreak : '"' ∉ (opening ++ "\n").toList := quote_not_mem_append.mpr ⟨hopening.1, by decide⟩
  have hend : '"' ∉ (closing ++ "\n\n").toList := quote_not_mem_append.mpr ⟨hclosing.1, by decide⟩
  rw [htext, List.append_assoc, List.append_assoc, reads_code hbreak, reads_entries hne hlead htrail,
    reads_code hend]

end Entries

/-! ## 3. The code that is owed -/

/-- Field of an interpolated path that writes the value of an argument. -/
def quotedArgument (argName : String) : String := "\x7bcommon.quote_path(" ++ argName ++ ")\x7d"

/-- Tokens of the entry that sends a parameter in the query. -/
def pairTokens (a : Argument) : List Token :=
  entryTokens "*common.query_pairs(" a.name (", " ++ a.argName ++ "),")

/-- Tokens of the entry that sends a parameter in the form. -/
def fieldTokens (a : Argument) : List Token :=
  entryTokens "" a.name (": common.to_json(" ++ (a.type.type.text ++ ", " ++ a.argName ++ "),"))

/-- Tokens of the code that makes the payload: that of the body, or a form, or nothing. -/
def payloadTokens (e : Endpoint) : List Token :=
  match e.body, e.formParameters with
  | some b, _ =>
    codeTokens ("payload = common.to_json(" ++ b.type.type.text ++ ", " ++ b.argName ++ ")\n\n")
  | none, [] => []
  | none, form => codeTokens "payload = \x7b\n" ++ form.flatMap fieldTokens ++ codeTokens "\x7d\n\n"

/-- Tokens of the code that makes the query. -/
def queryTokens (e : Endpoint) : List Token :=
  match e.queryParameters with
  | [] => []
  | query => codeTokens "query_parameters = [\n" ++ query.flatMap pairTokens ++ codeTokens "]\n\n"

/-- Code behind the path: what the call is given besides. -/
def closing (e : Endpoint) : String :=
  (if e.body.isNone && e.formParameters.isEmpty then "" else ", body=payload") ++
    ((if e.queryParameters.isEmpty then "" else ", query_parameters=query_parameters") ++ ")")

/-- Tokens of the call: the verb, and the path with its arguments in the place of placeholders. -/
def callTokens (o : Operation) (e : Endpoint) (variable_ : String) : List Token :=
  codeTokens (variable_ ++ " = await self._client._execute_request(") ++
    .literal o.verb.text ::
      (codeTokens (", " ++ if (Endpoint.placeholdersOf o.path).isEmpty then "" else "f") ++
        .literal (Endpoint.filled quotedArgument o.path) :: codeTokens (closing e))

/-- **Tokens that the code of a request owes its operation.** -/
def tokens (o : Operation) (e : Endpoint) (variable_ : String) : List Token :=
  payloadTokens e ++ (queryTokens e ++ callTokens o e variable_)

section Owed

variable {o : Operation} {e : Endpoint} {s : String} {ts : List Token}

/-- A statement with an empty line behind it. -/
def spaced (statement : String) : String := if statement = "" then "" else statement ++ "\n\n"

theorem spaced_of_ne_empty (h : s ≠ "") : spaced s = s ++ "\n\n" := if_neg h

theorem joinTexts_statements (p q : String) {c : String} (hc : c ≠ "") :
    Source.Block.joinTexts "\n\n" [p, q, c] = spaced p ++ (spaced q ++ c) := by
  have hfilter : Source.Block.joinTexts "\n\n" [p, q, c] =
      join "\n\n" ([p, q, c].filter (· ≠ "")) := rfl
  unfold spaced
  rw [hfilter]
  by_cases hp : p = "" <;> by_cases hq : q = "" <;>
    simp [hp, hq, hc, join_singleton, join_cons_cons, String.append_assoc]

/-- Fields of a form are read exactly where their names stay between the quotes. -/
theorem reads_form {as : List Argument} (hne : as ≠ [])
    (htypes : ∀ a ∈ as, IsCode a.type.type.text) (hnames : ∀ a ∈ as, IsCode a.argName) :
    Reads (spaced (Request.payloadText (.form (as.map fun a => ⟨a.name, a.type.type.text, a.argName⟩))) ++ s)
      (codeTokens "payload = \x7b\n" ++ as.flatMap fieldTokens ++ codeTokens "\x7d\n\n" ++ ts) ↔
    (∀ a ∈ as, isClosed a.name = true) ∧ Reads s ts := by
  have htext := Request.payloadText_form
    (as.map fun a => (⟨a.name, a.type.type.text, a.argName⟩ : FormEntry))
  have hfilled :
      Request.payloadText (.form (as.map fun a => ⟨a.name, a.type.type.text, a.argName⟩)) ≠ "" := by
    rw [htext]
    exact Request.listed_ne_empty (by decide) _ _
  have htrail : ∀ a ∈ as, IsCode (": common.to_json(" ++ (a.type.type.text ++ ", " ++ a.argName
      ++ "),")) := fun a ha =>
    isCode_append.mpr ⟨by decide, isCode_append.mpr ⟨isCode_append.mpr
      ⟨isCode_append.mpr ⟨htypes a ha, by decide⟩, hnames a ha⟩, by decide⟩⟩
  have hentry : (fun a : Argument => FormEntry.text ⟨a.name, a.type.type.text, a.argName⟩) =
      fun a => entryText "" a.name
        (": common.to_json(" ++ (a.type.type.text ++ ", " ++ a.argName ++ "),")) := by
    funext a
    rw [entryText, String.empty_append]
    rfl
  have hlead : IsCode "" := by decide
  have hopening : "payload = \x7b\n" = "payload = \x7b" ++ "\n" := by decide
  have hclosing : "\x7d\n\n" = "\x7d" ++ "\n\n" := by decide
  rw [spaced_of_ne_empty hfilled, htext, List.map_map, Function.comp_def, hentry, hopening, hclosing]
  exact reads_listed (fun _ : Argument => "") Argument.name
    (fun a => ": common.to_json(" ++ (a.type.type.text ++ ", " ++ a.argName ++ "),"))
    "payload = \x7b" "\x7d" (by decide) (by decide) hne (fun _ _ => hlead) htrail

/-- Pairs of a query are read exactly where their names stay between the quotes. -/
theorem reads_pairs {as : List Argument} (hne : as ≠ []) (hnames : ∀ a ∈ as, IsCode a.argName) :
    Reads (spaced (Request.queryText (as.map fun a => ⟨a.name, a.argName⟩)) ++ s)
      (codeTokens "query_parameters = [\n" ++ as.flatMap pairTokens ++ codeTokens "]\n\n" ++ ts) ↔
    (∀ a ∈ as, isClosed a.name = true) ∧ Reads s ts := by
  have htext := Request.queryText_eq
    (mt List.map_eq_nil_iff.mp hne : as.map (fun a => (⟨a.name, a.argName⟩ : QueryEntry)) ≠ [])
  have hfilled : Request.queryText (as.map fun a => ⟨a.name, a.argName⟩) ≠ "" := by
    rw [htext]
    exact Request.listed_ne_empty (by decide) _ _
  have htrail : ∀ a ∈ as, IsCode (", " ++ a.argName ++ "),") := fun a ha =>
    isCode_append.mpr ⟨isCode_append.mpr ⟨by decide, hnames a ha⟩, by decide⟩
  have hentry : (fun a : Argument => QueryEntry.text ⟨a.name, a.argName⟩) =
      fun a => entryText "*common.query_pairs(" a.name (", " ++ a.argName ++ "),") := rfl
  have hlead : IsCode "*common.query_pairs(" := by decide
  have hopening : "query_parameters = [\n" = "query_parameters = [" ++ "\n" := by decide
  have hclosing : "]\n\n" = "]" ++ "\n\n" := by decide
  rw [spaced_of_ne_empty hfilled, htext, List.map_map, Function.comp_def, hentry, hopening, hclosing]
  exact reads_listed (fun _ : Argument => "*common.query_pairs(") Argument.name
    (fun a => ", " ++ a.argName ++ "),") "query_parameters = [" "]" (by decide) (by decide) hne
    (fun _ _ => hlead) htrail

/-- The payload is read exactly where the names in the form stay between their quotes. -/
theorem reads_payload (hone : e.body = none ∨ e.formParameters = [])
    (htypes : ∀ a ∈ e.body.toList ++ e.formParameters, IsCode a.type.type.text)
    (hnames : ∀ a ∈ e.body.toList ++ e.formParameters, IsCode a.argName) :
    Reads (spaced (Request.payloadText (Request.ofEndpoint e).payload) ++ s) (payloadTokens e ++ ts) ↔
    (∀ a ∈ e.formParameters, isClosed a.name = true) ∧ Reads s ts := by
  unfold payloadTokens Request.ofEndpoint
  dsimp only
  cases hb : e.body with
  | some b =>
    have hform : e.formParameters = [] := hone.resolve_left (by simp [hb])
    have hmem : b ∈ e.body.toList ++ e.formParameters := by simp [hb]
    have htext : Request.payloadText (.body b.type.type.text b.argName) =
        "payload = common.to_json(" ++ b.type.type.text ++ ", " ++ b.argName ++ ")" := rfl
    have hfilled : Request.payloadText (.body b.type.type.text b.argName) ≠ "" := by
      rw [htext]
      exact append_ne_empty (append_ne_empty (append_ne_empty (append_ne_empty (by decide) _) _) _) _
    have hclosing : ")\n\n" = ")" ++ "\n\n" := by decide
    have hcode : '"' ∉ ("payload = common.to_json(" ++ b.type.type.text ++ ", " ++ b.argName
        ++ ")" ++ "\n\n").toList := by
      simp [String.toList_append, (htypes b hmem).1, (hnames b hmem).1]
    dsimp only
    rw [spaced_of_ne_empty hfilled, htext, hclosing, ← String.append_assoc, reads_code hcode, hform]
    exact (and_iff_right fun a ha => absurd ha List.not_mem_nil).symm
  | none =>
    rw [hb, Option.toList_none, List.nil_append] at htypes hnames
    cases hf : e.formParameters with
    | nil =>
      have htext : spaced (Request.payloadText .empty) = "" := rfl
      dsimp only
      rw [htext, String.empty_append, List.nil_append]
      exact (and_iff_right fun a ha => absurd ha List.not_mem_nil).symm
    | cons a as =>
      rw [hf] at htypes hnames
      exact reads_form (List.cons_ne_nil a as) htypes hnames

/-- The query is read exactly where the names in it stay between their quotes. -/
theorem reads_query (hnames : ∀ a ∈ e.queryParameters, IsCode a.argName) :
    Reads (spaced (Request.queryText (Request.ofEndpoint e).query) ++ s) (queryTokens e ++ ts) ↔
    (∀ a ∈ e.queryParameters, isClosed a.name = true) ∧ Reads s ts := by
  have hquery : (Request.ofEndpoint e).query = e.queryParameters.map fun a => ⟨a.name, a.argName⟩ := rfl
  unfold queryTokens
  rw [hquery]
  cases hq : e.queryParameters with
  | nil =>
    have htext : spaced (Request.queryText []) = "" := rfl
    dsimp only
    rw [List.map_nil, htext, String.empty_append, List.nil_append]
    exact (and_iff_right fun a ha => absurd ha List.not_mem_nil).symm
  | cons a as =>
    rw [hq] at hnames
    exact reads_pairs (List.cons_ne_nil a as) hnames

/-- What is written for a segment is the segment with the field of its argument in it. -/
theorem text_writtenSegment (s : String) :
    (writtenSegment s).text = Endpoint.filledSegment quotedArgument s := by
  unfold writtenSegment Endpoint.filledSegment
  cases Endpoint.placeholder? s <;> rfl

/-- The literal of a path: an interpolated one where the path has placeholders. -/
theorem text_path {r : Registry} {resource : Resource} (h : Endpoint.BuiltFrom r resource o e) :
    (PathExpr.ofEndpoint e).text = (if (Endpoint.placeholdersOf o.path).isEmpty then "" else "f") ++
      ("\"" ++ (Endpoint.filled quotedArgument o.path ++ "\"")) := by
  have hsegments : (PathExpr.ofEndpoint e).segments.map (·.text) =
      (Endpoint.segmentsOf o.path).map (Endpoint.filledSegment quotedArgument) := by
    rw [h.segments_path, List.map_map]
    refine List.map_congr_left fun s hs => ?_
    rw [Function.comp_apply, Endpoint.segmentOf_eq_writtenSegment h hs, text_writtenSegment]
  have hmark : (PathExpr.ofEndpoint e).mark =
      if (Endpoint.placeholdersOf o.path).isEmpty then "" else "f" := by
    unfold PathExpr.ofEndpoint
    rw [h.placeholders_eq]
    split <;> rfl
  rw [PathExpr.text_eq_join, hsegments, hmark, Endpoint.filled, String.append_assoc, String.append_assoc]

theorem payload_eq_empty_iff (e : Endpoint) : (Request.ofEndpoint e).payload = .empty ↔
    (e.body.isNone && e.formParameters.isEmpty) = true := by
  unfold Request.ofEndpoint
  dsimp only
  cases e.body with
  | some b => simp
  | none => cases e.formParameters <;> simp

/-- What the call is given stands between commas. -/
theorem join_callArguments (e : Endpoint) : join ", " (Request.ofEndpoint e).callArguments ++ ")" =
    "\"" ++ (e.operation.verb.text ++ ("\"" ++ (", " ++ ((PathExpr.ofEndpoint e).text ++ closing e)))) := by
  have hpath : (Request.ofEndpoint e).path = PathExpr.ofEndpoint e := rfl
  have hverb : (Request.ofEndpoint e).verb = e.operation.verb := rfl
  have hquery : (Request.ofEndpoint e).query.isEmpty = e.queryParameters.isEmpty := List.isEmpty_map
  unfold Request.callArguments closing
  rw [hpath, hverb, hquery]
  simp only [payload_eq_empty_iff]
  cases e.body.isNone && e.formParameters.isEmpty <;> cases e.queryParameters.isEmpty <;>
    simp [join_cons_cons, join_singleton, ← String.toList_inj]

/-- The call is read exactly where its path stays between the quotes. -/
theorem reads_call {r : Registry} {resource : Resource} (h : Endpoint.BuiltFrom r resource o e)
    {variable_ : String} (hvariable : IsCode variable_) :
    Reads (variable_ ++ " = await self._client._execute_request("
        ++ join ", " (Request.ofEndpoint e).callArguments ++ ")") (callTokens o e variable_) ↔
    isClosed (Endpoint.filled quotedArgument o.path) = true := by
  have htext : variable_ ++ " = await self._client._execute_request("
      ++ join ", " (Request.ofEndpoint e).callArguments ++ ")" =
        (variable_ ++ " = await self._client._execute_request(") ++ ("\"" ++ (o.verb.text ++ ("\"" ++
          ((", " ++ if (Endpoint.placeholdersOf o.path).isEmpty then "" else "f") ++
            ("\"" ++ (Endpoint.filled quotedArgument o.path ++ ("\"" ++ (closing e ++ "")))))))) := by
    rw [String.append_assoc, join_callArguments, text_path h, h.operation_eq]
    simp only [String.append_assoc, String.append_empty]
  have hcall : '"' ∉ (variable_ ++ " = await self._client._execute_request(").toList :=
    quote_not_mem_append.mpr ⟨hvariable.1, by decide⟩
  have hmark : '"' ∉ (", " ++ if (Endpoint.placeholdersOf o.path).isEmpty then "" else "f").toList := by
    split <;> decide
  have hclosing : '"' ∉ (closing e).toList := by
    unfold closing
    split <;> split <;> decide
  have hverb : isClosed o.verb.text = true := by
    cases o.verb <;> decide
  have hend : Reads (closing e ++ "") (codeTokens (closing e)) := by
    have hiff : Reads (closing e ++ "") (codeTokens (closing e) ++ []) ↔ Reads "" [] :=
      reads_code hclosing
    rw [List.append_nil] at hiff
    exact hiff.mpr rfl
  rw [htext, callTokens, reads_code hcall, reads_literal, reads_code hmark, reads_literal]
  exact ⟨fun h => h.2.1, fun h => ⟨hverb, h, hend⟩⟩

theorem mem_arguments {r : Registry} {resource : Resource} (h : Endpoint.BuiltFrom r resource o e)
    {a : Argument} : a ∈ e.arguments ↔ a ∈ e.body.toList ∨ a ∈ e.parameters := by
  rw [h.perm_arguments.mem_iff, List.mem_append]

theorem isCode_argName {r : Registry} {resource : Resource} (h : Endpoint.BuiltFrom r resource o e)
    {a : Argument} (ha : a ∈ e.arguments) : IsCode a.argName := by
  have hname : a.argName = argumentName a.name := by
    rcases (mem_arguments h).mp ha with ha | ha
    · obtain ⟨_, _, hb⟩ := h.exists_bodyOf (Option.mem_toList.mp ha)
      exact (Endpoint.isBodyOf_of_bodyOf hb).argName
    · exact Endpoint.argName_of_mem_parameters h ha
  have hword : ∀ c ∈ a.argName.toList, isWordChar c = true := fun c hc =>
    isWordChar_of_mem_argumentName (hname ▸ hc)
  exact ⟨fun hm => absurd (hword _ hm) (by decide), fun hm => absurd (hword _ hm) (by decide)⟩

/-- **The code of a request is read as what it owes** exactly where the declared names and the path stay
    between their quotes. -/
theorem reads_request {r : Registry} {resource : Resource} (h : Endpoint.BuiltFrom r resource o e)
    (htypes : ∀ a ∈ e.arguments, IsCode a.type.type.text) {variable_ : String}
    (hvariable : IsCode variable_) :
    Reads ((Request.ofEndpoint e).text variable_) (tokens o e variable_) ↔
      (∀ a ∈ e.queryParameters ++ e.formParameters, isClosed a.name = true) ∧
        isClosed (Endpoint.filled quotedArgument o.path) = true := by
  have hsent : ∀ a ∈ e.queryParameters ++ e.formParameters, a ∈ e.arguments := fun a ha =>
    (mem_arguments h).mpr <| .inr <| (List.mem_append.mp ha).elim
      (fun ha => (List.mem_filter.mp ha).1) fun ha => (List.mem_filter.mp ha).1
  have hcarried : ∀ a ∈ e.body.toList ++ e.formParameters, a ∈ e.arguments := fun a ha =>
    (List.mem_append.mp ha).elim (fun ha => (mem_arguments h).mpr (.inl ha))
      fun ha => hsent a (List.mem_append_right _ ha)
  have hcall : variable_ ++ " = await self._client._execute_request("
      ++ join ", " (Request.ofEndpoint e).callArguments ++ ")" ≠ "" :=
    append_ne_empty (append_ne_empty
      (fun he => absurd (String.append_eq_empty_iff.mp he).2 (by decide)) _) _
  rw [Request.text_eq_joinTexts, joinTexts_statements _ _ hcall, tokens,
    reads_payload h.verb_cases.1 (fun a ha => htypes a (hcarried a ha))
      (fun a ha => isCode_argName h (hcarried a ha)),
    reads_query fun a ha => isCode_argName h (hsent a (List.mem_append_left _ ha)),
    reads_call h hvariable, List.forall_mem_append]
  exact ⟨fun ⟨hform, hquery, hpath⟩ => ⟨⟨hquery, hform⟩, hpath⟩,
    fun ⟨⟨hquery, hform⟩, hpath⟩ => ⟨hform, hquery, hpath⟩⟩

end Owed

/-! ## 4. Fields of a path -/

/-- Arguments that the fields of a segment write, behind the first `n` characters. -/
def slotsFrom : Nat → List Char → Option (List String)
  | _, [] => some []
  | n + 1, _ :: cs => slotsFrom n cs
  | 0, c :: cs =>
    if c = '\x7b' then
      if cs.head? = some '\x7b' then slotsFrom 1 cs
      else (quotedField id cs).bind fun field =>
        (slotsFrom field.2 cs).map (String.ofList field.1 :: ·)
    else if c = '\x7d' then if cs.head? = some '\x7d' then slotsFrom 1 cs else none
    else slotsFrom 0 cs

/-- **Arguments that the fields of a segment write**, in order. A doubled brace is no field. What any
    field means that does not write an argument is left open, and so is a brace of its own. -/
def slots? (segment : String) : Option (List String) := slotsFrom 0 segment.toList

theorem slotsFrom_eq (n : Nat) (cs : List Char) : slotsFrom n cs = slotsFrom 0 (cs.drop n) := by
  induction cs generalizing n with
  | nil =>
    rw [List.drop_nil, slotsFrom, slotsFrom]
  | cons c cs ih =>
    cases n with
    | zero => rfl
    | succ n => rw [slotsFrom, ih, List.drop_succ_cons]

/-- A placeholder writes its argument. -/
theorem slots?_argument {a : String} (hne : a ≠ "") (hw : ∀ c ∈ a.toList, isWordChar c = true) :
    slots? (quotedArgument a) = some [a] := by
  have hhead : (fieldBody a.toList).head? ≠ some '\x7b' := by
    intro h
    cases h
  have hfield : quotedField id (fieldBody a.toList) = some (a.toList, (fieldBody a.toList).length) := by
    have happend : quotedField id (fieldBody a.toList ++ []) =
        some ((id a).toList, (fieldBody a.toList).length) := quotedField_append hne hw []
    rwa [List.append_nil] at happend
  have hlist : (quotedArgument a).toList = '\x7b' :: fieldBody a.toList := toList_text_argument a
  rw [slots?, hlist, slotsFrom, if_pos rfl, if_neg hhead, hfield, Option.bind_some, slotsFrom_eq,
    List.drop_length, slotsFrom]
  simp

theorem filledSegment_of_none {s : String} (h : Endpoint.placeholder? s = none) (value : String → String) :
    Endpoint.filledSegment value s = s := by
  rw [Endpoint.filledSegment, h]

theorem slash_not_mem_quotedArgument (name : String) :
    '/' ∉ (quotedArgument (argumentName name)).toList := by
  have hname : '/' ∉ (argumentName name).toList := fun hm =>
    absurd (isWordChar_of_mem_argumentName hm) (by decide)
  have hopening : '/' ∉ "\x7bcommon.quote_path(".toList := by decide
  have hclosing : '/' ∉ ")\x7d".toList := by decide
  have htext : quotedArgument (argumentName name) =
      "\x7bcommon.quote_path(" ++ argumentName name ++ ")\x7d" := rfl
  rw [htext, String.toList_append, String.toList_append, List.mem_append, List.mem_append, not_or, not_or]
  exact ⟨⟨hopening, hname⟩, hclosing⟩

/-- The segments of a path that is written are its own, with the fields of arguments in them. -/
theorem segmentsOf_filled (path : String) :
    Endpoint.segmentsOf (Endpoint.filled quotedArgument path) =
      (Endpoint.segmentsOf path).map (Endpoint.filledSegment quotedArgument) := by
  have hne : (Endpoint.segmentsOf path).map (Endpoint.filledSegment quotedArgument) ≠ [] := fun hnil =>
    splitOn_ne_nil '/' path.toList (List.map_eq_nil_iff.mp (List.map_eq_nil_iff.mp hnil))
  have hslash : ∀ t ∈ (Endpoint.segmentsOf path).map (Endpoint.filledSegment quotedArgument),
      '/' ∉ t.toList := by
    intro t ht
    obtain ⟨s, hs, rfl⟩ := List.mem_map.mp ht
    cases hp : Endpoint.placeholder? s with
    | some name =>
      have hfilled : Endpoint.filledSegment quotedArgument s = quotedArgument (argumentName name) := by
        rw [Endpoint.filledSegment, hp]
      exact hfilled ▸ slash_not_mem_quotedArgument name
    | none =>
      rw [filledSegment_of_none hp]
      exact not_mem_of_mem_splitOn (mem_segmentsOf_iff.mp hs)
  exact pieces_join hne hslash

theorem slots?_placeholder {s name : String} (h : Endpoint.placeholder? s = some name) :
    slots? (Endpoint.filledSegment quotedArgument s) = some [argumentName name] := by
  rw [Endpoint.filledSegment, h]
  exact slots?_argument (argumentName_ne_empty name) fun c => isWordChar_of_mem_argumentName

/-- **Fields of a path count the arguments of its placeholders**, and no more exactly where no fixed
    segment writes the same argument. -/
theorem count_rows {segments : List String} {rows : List (List String)}
    (h : List.Forall₂ (fun s row => slots? (Endpoint.filledSegment quotedArgument s) = some row)
      segments rows) (a : String) :
    ((segments.filterMap Endpoint.placeholder?).map argumentName).count a ≤ rows.flatten.count a ∧
    (rows.flatten.count a = ((segments.filterMap Endpoint.placeholder?).map argumentName).count a ↔
      ∀ s ∈ segments, Endpoint.placeholder? s = none → ∀ names, slots? s = some names → a ∉ names) := by
  induction h with
  | nil => exact ⟨Nat.le_refl 0, fun _ s hs => absurd hs List.not_mem_nil, fun _ => rfl⟩
  | @cons s row segments rows hrow _ ih =>
    obtain ⟨hle, hiff⟩ := ih
    rw [List.flatten_cons, List.count_append, List.forall_mem_cons, ← hiff]
    cases hs : Endpoint.placeholder? s with
    | some name =>
      have hone : row = [argumentName name] :=
        Option.some.inj (hrow.symm.trans (slots?_placeholder hs))
      rw [List.filterMap_cons_some hs, List.map_cons, hone, ← List.singleton_append,
        List.count_append]
      refine ⟨Nat.add_le_add_left hle _, ?_⟩
      rw [Nat.add_left_cancel_iff]
      exact (and_iff_right fun hn => nomatch hn).symm
    | none =>
      rw [filledSegment_of_none hs] at hrow
      rw [List.filterMap_cons_none hs]
      refine ⟨Nat.le_trans hle (Nat.le_add_left _ _), ?_⟩
      have hfixed : ((none : Option String) = none → ∀ names, slots? s = some names → a ∉ names) ↔
          row.count a = 0 := by
        rw [List.count_eq_zero]
        constructor
        · exact fun hall => hall rfl row hrow
        · intro hn _ names hnames
          rwa [← Option.some.inj (hrow.symm.trans hnames)]
      rw [hfixed]
      omega

end RequestCode

/-! ## 5. Everything once -/

namespace Endpoint

open RequestCode

variable {r : Registry} {resource : Resource} {o : Operation} {e : Endpoint}

theorem isCode_primitive (p : Primitive) : IsCode p.type.text := by
  cases p <;> decide

/-- Types are code where the name of the models file is. -/
theorem isCode_typeOf (h : IsCode r.settings.modelsNamespace) (ref : TypeRef) :
    IsCode (r.typeOf ref).text := by
  have hopen : ∀ w ∈ ["List[", "Dict[str, ", "Optional["], IsCode w := by decide
  have hwrap : ∀ {w t : String}, w ∈ ["List[", "Dict[str, ", "Optional["] → IsCode t →
      IsCode (w ++ t ++ "]") := fun hw ht =>
    isCode_append.mpr ⟨isCode_append.mpr ⟨hopen _ hw, ht⟩, by decide⟩
  induction ref with
  | primitive p => exact isCode_primitive p
  | named kind name =>
    have hclass : IsCode (Registry.localClass name) :=
      ⟨fun hm => absurd (isAlphanum_of_mem_pascalCase hm) (by decide),
        fun hm => absurd (isAlphanum_of_mem_pascalCase hm) (by decide)⟩
    show IsCode (r.className name true)
    unfold Registry.className
    split
    · exact isCode_append.mpr ⟨isCode_append.mpr ⟨h, by decide⟩, hclass⟩
    · exact hclass
  | list ref ih => exact hwrap (w := "List[") (by decide) ih
  | map ref ih =>
    have htext : (r.typeOf (.map ref)).text = "Dict[str, " ++ (r.typeOf ref).text ++ "]" := by
      rw [← String.toList_inj, String.toList_append, String.toList_append]
      show (("Dict" ++ "[") ++ ("str" ++ ", " ++ (r.typeOf ref).text) ++ "]").toList = _
      simp
    rw [htext]
    exact hwrap (by decide) ih
  | option ref ih => exact hwrap (w := "Optional[") (by decide) ih

theorem isCode_typeText (hb : BuiltFrom r resource o e) (h : IsCode r.settings.modelsNamespace)
    {a : Argument} (ha : a ∈ e.arguments) : IsCode a.type.type.text := by
  have htype : a.type = r.resolve true a.ref := by
    rcases (mem_arguments hb).mp ha with ha | ha
    · obtain ⟨_, _, hbody⟩ := hb.exists_bodyOf (Option.mem_toList.mp ha)
      exact (isBodyOf_of_bodyOf hbody).type
    · obtain ⟨_, _, hp⟩ := hb.exists_argumentOf ha
      exact (standsFor_of_argumentOf hp).type
  rw [htype]
  exact isCode_typeOf h a.ref

/-- The placeholders of a path name the arguments of its parameters, each once. -/
theorem count_argName_placeholders (hb : BuiltFrom r resource o e) {a : Argument}
    (ha : a ∈ e.pathParameters) :
    (((segmentsOf o.path).filterMap placeholder?).map argumentName).count a.argName = 1 := by
  have hnames : ((segmentsOf o.path).filterMap placeholder?).map argumentName =
      e.pathParameters.map (·.argName) := by
    have hplaceholders : (segmentsOf o.path).filterMap placeholder? = e.pathParameters.map (·.name) :=
      hb.names_pathParameters.symm
    have hargs : ∀ b ∈ e.pathParameters, argumentName b.name = b.argName := by
      intro b hmem
      have hparameter : b ∈ e.parameters := (List.mem_filter.mp hmem).1
      exact (argName_of_mem_parameters hb hparameter).symm
    rw [hplaceholders, List.map_map, Function.comp_def]
    exact List.map_congr_left hargs
  obtain ⟨rest, _, has⟩ := hb.arguments_eq
  have hsub : e.pathParameters.Sublist e.arguments := by
    rw [has, List.append_assoc]
    exact List.sublist_append_left _ _
  rw [hnames]
  exact List.count_eq_one_of_mem (hb.nodup_argNames.sublist (hsub.map _)) (List.mem_map_of_mem ha)

/-- **An argument is written once** by the fields of a path exactly where no fixed segment writes one. -/
theorem slots_iff (hb : BuiltFrom r resource o e) :
    (∃ rows, List.Forall₂ (fun s row => slots? s = some row)
        (segmentsOf (filled quotedArgument o.path)) rows ∧
      ∀ a ∈ e.pathParameters, rows.flatten.count a.argName = 1) ↔
    ∀ s ∈ segmentsOf o.path, placeholder? s = none →
      ∃ names, slots? s = some names ∧ ∀ a ∈ e.pathParameters, a.argName ∉ names := by
  rw [segmentsOf_filled]
  simp only [List.forall₂_map_left_iff]
  constructor
  · rintro ⟨rows, hrows, hcount⟩ s hs hn
    obtain ⟨names, _, hnames⟩ := exists_right_of_forall₂ hrows hs
    rw [filledSegment_of_none hn] at hnames
    refine ⟨names, hnames, fun a ha => ?_⟩
    have hone := (hcount a ha).trans (count_argName_placeholders hb ha).symm
    exact (count_rows hrows a.argName).2.mp hone s hs hn names hnames
  · intro h
    let row := fun s => (slots? (filledSegment quotedArgument s)).getD []
    have hrows : List.Forall₂ (fun s row => slots? (filledSegment quotedArgument s) = some row)
        (segmentsOf o.path) ((segmentsOf o.path).map row) := by
      refine List.forall₂_map_right_iff.mpr (List.forall₂_same.mpr fun s hs => ?_)
      have hrow : ∀ names, slots? (filledSegment quotedArgument s) = some names →
          slots? (filledSegment quotedArgument s) = some (row s) := fun names hnames => by
        simp only [row, hnames, Option.getD_some]
      cases hp : placeholder? s with
      | some name => exact hrow _ (slots?_placeholder hp)
      | none =>
        obtain ⟨names, hnames, _⟩ := h s hs hp
        exact hrow names (by rw [filledSegment_of_none hp, hnames])
    refine ⟨_, hrows, fun a ha => ?_⟩
    rw [← count_argName_placeholders hb ha]
    refine (count_rows hrows a.argName).2.mpr fun s hs hn names hnames => ?_
    obtain ⟨names', hnames', hnot⟩ := h s hs hn
    rw [Option.some.inj (hnames.symm.trans hnames')]
    exact hnot a ha

/-- **What a request owes its operation**: `e` is the endpoint of `o`, and `q` is sent for it. The first
    part is about the request, the last two are about its code. -/
structure Sends (r : Registry) (o : Operation) (e : Endpoint) (q : Request) : Prop where
  /-- The placeholders come first, in path order, then the other declared parameters. -/
  names : e.parameters.map (·.name) = placeholdersOf o.path ++
    (o.parameters.filter fun p => !(placeholdersOf o.path).contains p.name).map (·.name)
  /-- No two parameters share a name. -/
  distinct : (e.parameters.map (·.name)).Nodup
  /-- Path, query and form divide the parameters. -/
  divided : e.parameters.Perm (e.pathParameters ++ e.queryParameters ++ e.formParameters)
  /-- There is a body where one is declared. -/
  given : e.body.isSome = o.body.isSome
  /-- The body stands behind the parameters of the path, which the others follow. -/
  arguments : ∃ rest, e.parameters = e.pathParameters ++ rest ∧
    e.arguments = e.pathParameters ++ e.body.toList ++ rest
  /-- No two arguments share a name. -/
  argNames : (e.arguments.map (·.argName)).Nodup
  /-- The path is sent segment by segment. -/
  segments : List.Forall₂ e.Carries (segmentsOf o.path) q.path.segments
  /-- Each parameter of the path is sent in one segment. -/
  path : ∀ a ∈ e.pathParameters, q.path.segments.count (.argument a.argName) = 1
  /-- Each parameter of the query is sent as one pair, in order. -/
  query : q.query = e.queryParameters.map fun a => ⟨a.name, a.argName⟩
  /-- Each parameter of the form is sent as one field, in order. -/
  form : q.payload.fields = e.formParameters.map fun a => ⟨a.name, a.type.type.text, a.argName⟩
  /-- The body is sent as it is. -/
  body : q.payload.body? = e.body.map fun b => (b.type.type.text, b.argName)
  /-- Body and form exclude each other. -/
  exclusive : e.body = none ∨ e.formParameters = []
  /-- A payload is sent under a verb that has one. -/
  verb : q.verb = o.verb ∧ (q.payload ≠ .empty → o.verb ∈ [Verb.post, .put, .patch])
  /-- Taken together, the arguments are sent each once. -/
  once : q.uses.Perm (e.arguments.map (·.argName))
  /-- The code holds one pair for each parameter of the query and one field for each of the form, in
      order, a payload where there is one, and the call, exactly where the declared names and the path
      stay between their quotes. -/
  code : ∀ variable_, IsCode variable_ → IsCode r.settings.modelsNamespace →
    (Reads (q.text variable_) (tokens o e variable_) ↔
      (∀ a ∈ e.queryParameters ++ e.formParameters, isClosed a.name = true) ∧
        isClosed (filled quotedArgument o.path) = true)
  /-- The fields of the path's literal write each argument of the path once, exactly where those of the
      fixed segments can be read and write none of them. -/
  fields : (∃ rows, List.Forall₂ (fun s row => slots? s = some row)
        (segmentsOf (filled quotedArgument o.path)) rows ∧
      ∀ a ∈ e.pathParameters, rows.flatten.count a.argName = 1) ↔
    ∀ s ∈ segmentsOf o.path, placeholder? s = none →
      ∃ names, slots? s = some names ∧ ∀ a ∈ e.pathParameters, a.argName ∉ names

/-- **Every parameter is sent exactly once**, whatever places the operation declares for it: in the
    request always, and in its code exactly where no declared text leaves its place. In texts, the 2048
    characters from U+10A000 stand for lone surrogates. -/
theorem ofOperation_sends (h : ofOperation r resource o = .ok e) :
    Sends r o e (Request.ofEndpoint e) := by
  have hb := ofOperation_eq_ok.mp h
  obtain ⟨hone, hverb⟩ := hb.verb_cases
  refine ⟨hb.names_parameters, hb.nodup_names_parameters, hb.perm_locations, hb.isSome_body,
    hb.arguments_eq, hb.nodup_argNames, ?_, fun a => hb.count_path, rfl,
    Request.fields_payload hone, Request.body?_payload e, hone, ⟨?_, fun hp => ?_⟩, hb.perm_uses,
    fun variable_ hvariable hmodels => ?_, slots_iff hb⟩
  · have hs : (Request.ofEndpoint e).path.segments = _ := hb.segments_path
    rw [hs]
    exact List.forall₂_map_right_iff.mpr (List.forall₂_same.mpr fun s => hb.carries_segmentOf)
  · exact congrArg Operation.verb hb.operation_eq
  · rcases hverb with hv | ⟨hn, hf⟩
    · exact (Verb.hasBody_iff _).mp hv
    · exact absurd (Request.payload_eq_empty hn hf) hp
  · exact reads_request hb (fun a => isCode_typeText hb hmodels) hvariable

/-- Operation with a placeholder that is declared for the query, one that is not declared, and
    parameters in every place; doubled braces in its path are no field. -/
def everyPlace : Operation :=
  { verb := .put
    path := "/\x7b\x7bshop\x7d\x7d/:shop/items/:itemId"
    parameters :=
      [{ name := "dryRun", type := "boolean", required := false },
       { name := "itemId", type := "long", location := .query },
       { name := "it's \\d", location := .form },
       { name := "class", type := "[string]", location := .form }] }

/-- Two arguments in the path, one in the query, two in the form. -/
theorem ofOperation_sends_everyPlace : ∃ e,
    ofOperation ⟨Dialect.aiohttp, [], []⟩ shops everyPlace = .ok e ∧
    e.arguments.map (·.argName) = ["shop", "item_id", "dry_run", "it_s_d", "class_"] ∧
    Sends ⟨Dialect.aiohttp, [], []⟩ everyPlace e (Request.ofEndpoint e) ∧
    (Request.ofEndpoint e).text "r" = "payload = \x7b\n"
      ++ "    \"it's \\d\": common.to_json(str, it_s_d),\n"
      ++ "    \"class\": common.to_json(List[str], class_),\n"
      ++ "\x7d\n\n"
      ++ "query_parameters = [\n"
      ++ "    *common.query_pairs(\"dryRun\", dry_run),\n"
      ++ "]\n\n"
      ++ "r = await self._client._execute_request(\"PUT\", "
      ++ "f\"/\x7b\x7bshop\x7d\x7d/\x7bcommon.quote_path(shop)\x7d"
      ++ "/items/\x7bcommon.quote_path(item_id)\x7d\", "
      ++ "body=payload, query_parameters=query_parameters)" ∧
    Reads ((Request.ofEndpoint e).text "r") (tokens everyPlace e "r") ∧
    (segmentsOf (filled quotedArgument everyPlace.path)).map slots? =
      [some [], some [], some ["shop"], some [], some ["item_id"]] := by
  have hsends := ofOperation_sends (r := ⟨Dialect.aiohttp, [], []⟩) (o := everyPlace)
    (rfl : ofOperation ⟨Dialect.aiohttp, [], []⟩ shops everyPlace = .ok _)
  refine ⟨_, rfl, rfl, hsends, by decide +kernel, ?_, by decide +kernel⟩
  exact (hsends.code "r" (by decide) (by decide)).mpr ⟨by decide, by decide +kernel⟩

/-- Operation with a fixed segment that is code. -/
def codeInPath : Operation := { verb := .get, path := "/\x7bcommon.quote_path(shop)\x7d/:shop" }

/-- **An argument that is sent twice**: the fixed segment writes it too. -/
theorem exists_argument_sent_twice : ∃ e rows,
    ofOperation ⟨Dialect.aiohttp, [], []⟩ shops codeInPath = .ok e ∧
    e.pathParameters.map (·.argName) = ["shop"] ∧
    (Request.ofEndpoint e).text "r" = "r = await self._client._execute_request(\"GET\", "
      ++ "f\"/\x7bcommon.quote_path(shop)\x7d/\x7bcommon.quote_path(shop)\x7d\")" ∧
    List.Forall₂ (fun s row => slots? s = some row)
      (segmentsOf "/\x7bcommon.quote_path(shop)\x7d/\x7bcommon.quote_path(shop)\x7d") rows ∧
    rows.flatten.count "shop" = 2 :=
  ⟨_, [[], ["shop"], ["shop"]], rfl, rfl, rfl, .cons rfl (.cons rfl (.cons rfl .nil)), by decide⟩

end Endpoint

end ClientGen
