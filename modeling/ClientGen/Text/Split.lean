/-!
# Cutting and joining texts

Texts are cut at a mark into pieces and joined with a separator. Marks are single
characters, so cutting is one pass over the characters. The main statements:

* `intercalate_splitOn`: the pieces with the mark between them are the text, and
  `not_mem_of_mem_splitOn`: no piece holds the mark;
* `splitOn_append_cons`: texts joined with the mark have the pieces of both, and
  `lines_append_line`: a line is found again among the lines of a text;
* `flatten_runsOf`: runs keep exactly the characters asked for, and `runsOf_append`: a rest that
  starts with another character has its runs for itself;
* `join_cons_cons`, `toList_join`: joined texts stand one after another, and `join_pieces`: pieces are
  joined to the text again.
-/
namespace ClientGen.Text

/-! ## 1. Pieces between marks -/

/-- Pieces of a text between the marks; a text without marks is one piece. -/
def splitOn (mark : Char) : List Char → List (List Char)
  | [] => [[]]
  | c :: cs =>
    if c = mark then [] :: splitOn mark cs
    else match splitOn mark cs with
      | [] => [[c]]
      | p :: ps => (c :: p) :: ps

/-- Runs of characters with `p`, the others dropped; no run is empty. -/
def runsOf (p : Char → Bool) : List Char → List (List Char)
  | [] => []
  | c :: cs =>
    if p c then
      match cs, runsOf p cs with
      | d :: _, r :: rs => if p d then (c :: r) :: rs else [c] :: r :: rs
      | _, rs => [c] :: rs
    else runsOf p cs

/-- There is always a piece. -/
theorem splitOn_ne_nil (mark : Char) (cs : List Char) : splitOn mark cs ≠ [] := by
  cases cs with
  | nil => exact List.cons_ne_nil _ _
  | cons c cs =>
    unfold splitOn
    split
    · exact List.cons_ne_nil _ _
    · split <;> exact List.cons_ne_nil _ _

/-- Pieces hold no mark. -/
theorem not_mem_of_mem_splitOn {mark : Char} {cs p : List Char} (h : p ∈ splitOn mark cs) :
    mark ∉ p := by
  induction cs generalizing p with
  | nil =>
    rw [splitOn, List.mem_singleton] at h
    subst h
    exact List.not_mem_nil
  | cons c cs ih =>
    unfold splitOn at h
    by_cases hc : c = mark
    · rw [if_pos hc, List.mem_cons] at h
      rcases h with rfl | h
      · exact List.not_mem_nil
      · exact ih h
    · rw [if_neg hc] at h
      cases hs : splitOn mark cs with
      | nil => exact absurd hs (splitOn_ne_nil mark cs)
      | cons q qs =>
        rw [hs] at h ih
        rcases List.mem_cons.mp h with rfl | h
        · have hq : mark ∉ q := ih List.mem_cons_self
          simpa [Ne.symm hc] using hq
        · exact ih (List.mem_cons_of_mem _ h)

/-- The pieces with the mark between them are the text. -/
theorem intercalate_splitOn (mark : Char) (cs : List Char) :
    List.intercalate [mark] (splitOn mark cs) = cs := by
  induction cs with
  | nil => rfl
  | cons c cs ih =>
    unfold splitOn
    by_cases hc : c = mark
    · rw [if_pos hc, hc]
      cases hs : splitOn mark cs with
      | nil => exact absurd hs (splitOn_ne_nil mark cs)
      | cons q qs => rw [hs] at ih; rw [← ih]; rfl
    · rw [if_neg hc]
      cases hs : splitOn mark cs with
      | nil => exact absurd hs (splitOn_ne_nil mark cs)
      | cons q qs =>
        rw [hs] at ih
        cases qs with
        | nil => rw [← ih]; rfl
        | cons r rs => rw [← ih]; rfl

/-- A text is known by its pieces. -/
theorem splitOn_injective (mark : Char) : Function.Injective (splitOn mark) := by
  intro as bs h
  rw [← intercalate_splitOn mark as, h, intercalate_splitOn]

/-- Texts with the mark between them have the pieces of both. -/
theorem splitOn_append_cons (mark : Char) (as bs : List Char) :
    splitOn mark (as ++ mark :: bs) = splitOn mark as ++ splitOn mark bs := by
  induction as with
  | nil => simp only [List.nil_append, splitOn, if_true, List.singleton_append]
  | cons a as ih =>
    rw [List.cons_append, splitOn, splitOn, ih]
    split
    · rfl
    · cases h : splitOn mark as with
      | nil => exact absurd h (splitOn_ne_nil mark as)
      | cons p ps => rfl

/-- Characters without the mark are one piece. -/
theorem splitOn_of_not_mem {mark : Char} {cs : List Char} (h : mark ∉ cs) : splitOn mark cs = [cs] := by
  induction cs with
  | nil => rfl
  | cons c cs ih =>
    obtain ⟨hc, hcs⟩ := not_or.mp (mt List.mem_cons.mpr h)
    rw [splitOn, if_neg (Ne.symm hc), ih hcs]

/-- The runs together are the characters with `p`. -/
theorem flatten_runsOf (p : Char → Bool) (cs : List Char) :
    (runsOf p cs).flatten = cs.filter p := by
  induction cs with
  | nil => rfl
  | cons c cs ih =>
    unfold runsOf
    by_cases hp : p c = true
    · rw [if_pos hp, List.filter_cons_of_pos hp, ← ih]
      split
      · rename_i d tail run runs hr
        rw [hr]
        split <;> rfl
      · rfl
    · rw [if_neg hp, List.filter_cons_of_neg hp, ih]

/-- No run is empty. -/
theorem ne_nil_of_mem_runsOf {p : Char → Bool} {cs run : List Char} (h : run ∈ runsOf p cs) :
    run ≠ [] := by
  induction cs with
  | nil => exact absurd h List.not_mem_nil
  | cons c cs ih =>
    unfold runsOf at h
    by_cases hp : p c = true
    · rw [if_pos hp] at h
      split at h
      · rename_i d tail q qs hq
        split at h
        · rcases List.mem_cons.mp h with rfl | h
          · exact List.cons_ne_nil _ _
          · exact ih (hq ▸ List.mem_cons_of_mem _ h)
        · rcases List.mem_cons.mp h with rfl | h
          · exact List.cons_ne_nil _ _
          · exact ih (hq ▸ h)
      · rcases List.mem_cons.mp h with rfl | h
        · exact List.cons_ne_nil _ _
        · exact ih h
    · rw [if_neg hp] at h
      exact ih h

theorem runsOf_cons_of_neg {p : Char → Bool} {c : Char} (h : p c = false) (cs : List Char) :
    runsOf p (c :: cs) = runsOf p cs := by
  conv => lhs; unfold runsOf
  exact if_neg (Bool.eq_false_iff.mp h)

/-- A run ends where another character follows. -/
theorem runsOf_cons_of_stop {p : Char → Bool} {c : Char} {cs : List Char} (h : p c = true)
    (hstop : ∀ d, cs.head? = some d → p d = false) : runsOf p (c :: cs) = [c] :: runsOf p cs := by
  conv => lhs; unfold runsOf
  rw [if_pos h]
  split
  · rename_i d tail run runs hr
    rw [if_neg (Bool.eq_false_iff.mp (hstop d rfl)), hr]
  · rfl

/-- A run starts with the characters asked for before it. -/
theorem runsOf_cons_cons {p : Char → Bool} {c d : Char} {cs run : List Char}
    {runs : List (List Char)} (hc : p c = true) (hd : p d = true)
    (h : runsOf p (d :: cs) = run :: runs) : runsOf p (c :: d :: cs) = (c :: run) :: runs := by
  conv => lhs; unfold runsOf
  rw [if_pos hc, h]
  dsimp only
  rw [if_pos hd]

theorem exists_runsOf_cons {p : Char → Bool} {c : Char} (h : p c = true) (cs : List Char) :
    ∃ run runs, runsOf p (c :: cs) = (c :: run) :: runs := by
  unfold runsOf
  rw [if_pos h]
  split
  · split
    · exact ⟨_, _, rfl⟩
    · exact ⟨_, _, rfl⟩
  · exact ⟨_, _, rfl⟩

/-- **Runs end where other characters start**: such a rest has its runs apart from those before. -/
theorem runsOf_append {p : Char → Bool} {bs : List Char} (h : ∀ c, bs.head? = some c → p c = false)
    (as : List Char) : runsOf p (as ++ bs) = runsOf p as ++ runsOf p bs := by
  induction as with
  | nil => rfl
  | cons a as ih =>
    cases ha : p a with
    | false => rw [List.cons_append, runsOf_cons_of_neg ha, runsOf_cons_of_neg ha, ih]
    | true =>
      cases as with
      | nil =>
        rw [List.singleton_append, runsOf_cons_of_stop ha h, runsOf_cons_of_stop ha (by rintro d ⟨⟩)]
        rfl
      | cons d as =>
        cases hd : p d with
        | false =>
          have stop : ∀ cs : List Char, ∀ d', (d :: cs).head? = some d' → p d' = false := by
            rintro cs d' ⟨⟩
            exact hd
          rw [List.cons_append, List.cons_append, runsOf_cons_of_stop ha (stop _),
            runsOf_cons_of_stop ha (stop _), ← List.cons_append, ih]
          rfl
        | true =>
          obtain ⟨run, runs, hr⟩ := exists_runsOf_cons hd as
          rw [hr] at ih
          rw [runsOf_cons_cons ha hd hr]
          exact runsOf_cons_cons ha hd ih

/-- Characters that are all asked for are one run. -/
theorem runsOf_of_forall {p : Char → Bool} {cs : List Char} (hne : cs ≠ [])
    (h : ∀ c ∈ cs, p c = true) : runsOf p cs = [cs] := by
  induction cs with
  | nil => exact absurd rfl hne
  | cons c cs ih =>
    obtain ⟨hc, hcs⟩ := List.forall_mem_cons.mp h
    cases cs with
    | nil => exact runsOf_cons_of_stop hc (by rintro d ⟨⟩)
    | cons d cs =>
      exact runsOf_cons_cons hc (hcs d List.mem_cons_self) (ih (List.cons_ne_nil d cs) hcs)

/-- Pieces of a text between the marks. -/
def pieces (mark : Char) (s : String) : List String :=
  (splitOn mark s.toList).map String.ofList

/-- Characters of the pieces. -/
theorem map_toList_pieces (mark : Char) (s : String) :
    (pieces mark s).map String.toList = splitOn mark s.toList := by
  simp only [pieces, List.map_map, Function.comp_def, String.toList_ofList, List.map_id']

/-- A text is known by its pieces. -/
theorem pieces_injective (mark : Char) : Function.Injective (pieces mark) := by
  intro s t h
  have hcs : splitOn mark s.toList = splitOn mark t.toList := by
    rw [← map_toList_pieces, h, map_toList_pieces]
  rw [← String.ofList_toList (s := s), splitOn_injective mark hcs, String.ofList_toList]

/-- Texts with the mark between them have the pieces of both. -/
theorem pieces_append (mark : Char) (s t : String) :
    pieces mark (s ++ String.singleton mark ++ t) = pieces mark s ++ pieces mark t := by
  have h : (s ++ String.singleton mark ++ t).toList = s.toList ++ mark :: t.toList := by
    rw [String.toList_append, String.toList_append, String.toList_singleton, List.append_assoc,
      List.singleton_append]
  rw [pieces, h, splitOn_append_cons, List.map_append, pieces, pieces]

/-- Lines of a text; only the line feed ends a line. -/
def lines (s : String) : List String := pieces '\n' s

/-- A line inside a text is one of its lines, between those before and those behind it. -/
theorem lines_append_line {line : String} (h : '\n' ∉ line.toList) (before after : String) :
    lines (before ++ "\n" ++ line ++ "\n" ++ after) = lines before ++ line :: lines after := by
  have hbreak : "\n" = String.singleton '\n' := rfl
  have hline : pieces '\n' line = [line] := by
    rw [pieces, splitOn_of_not_mem h, List.map_singleton, String.ofList_toList]
  rw [lines, hbreak, pieces_append, pieces_append, hline, List.append_assoc, List.singleton_append]
  rfl

/-! ## 2. Joining -/

theorem append_ne_empty {s : String} (h : s ≠ "") (t : String) : s ++ t ≠ "" :=
  fun he => h (String.append_eq_empty_iff.mp he).1

/-- Texts one after another with the separator between neighbours. -/
def join (sep : String) : List String → String
  | [] => ""
  | s :: rest => rest.foldl (fun before t => before ++ sep ++ t) s

/-- No texts are joined to none. -/
theorem join_nil (sep : String) : join sep [] = "" := rfl

/-- One text is joined to itself. -/
theorem join_singleton (sep s : String) : join sep [s] = s := rfl

/-- What is joined behind a text does not depend on what it begins with. -/
theorem foldl_append_left (sep s t : String) (rest : List String) :
    rest.foldl (fun before u => before ++ sep ++ u) (s ++ t) =
      s ++ rest.foldl (fun before u => before ++ sep ++ u) t := by
  induction rest generalizing t with
  | nil => rfl
  | cons u rest ih =>
    have h : s ++ t ++ sep ++ u = s ++ (t ++ sep ++ u) := by simp only [String.append_assoc]
    rw [List.foldl_cons, List.foldl_cons, h, ih]

/-- Two texts or more are joined one after another. -/
theorem join_cons_cons (sep s t : String) (rest : List String) :
    join sep (s :: t :: rest) = s ++ sep ++ join sep (t :: rest) :=
  foldl_append_left sep (s ++ sep) t rest

/-- Joined texts are their characters with the separator's between neighbours. -/
theorem toList_join (sep : String) (ss : List String) :
    (join sep ss).toList = List.intercalate sep.toList (ss.map String.toList) := by
  induction ss with
  | nil => rfl
  | cons s rest ih =>
    cases rest with
    | nil => rw [join_singleton, List.map_singleton, List.intercalate_singleton]
    | cons t rest =>
      simp only [join_cons_cons, String.toList_append, ih, List.map_cons,
        List.intercalate_cons_cons]

theorem join_eq_intercalate (sep : String) (ss : List String) : join sep ss = sep.intercalate ss := by
  rw [← String.toList_inj, toList_join, String.toList_intercalate]

/-- Two rows of texts are joined with the separator between them. -/
theorem join_append (sep : String) {ss ts : List String} (hs : ss ≠ []) (ht : ts ≠ []) :
    join sep (ss ++ ts) = join sep ss ++ sep ++ join sep ts := by
  simp only [join_eq_intercalate, String.intercalate_append_of_ne_nil hs ht]

/-- Rows that are joined one by one and then together are joined as one row. -/
theorem join_map_join (sep : String) {rows : List (List String)} (h : ∀ row ∈ rows, row ≠ []) :
    join sep (rows.map (join sep)) = join sep rows.flatten := by
  induction rows with
  | nil => rfl
  | cons row rows ih =>
    obtain ⟨hrow, hrows⟩ := List.forall_mem_cons.mp h
    cases rows with
    | nil => rw [List.map_singleton, join_singleton, List.flatten_singleton]
    | cons next rows =>
      have hnext : (next :: rows).flatten ≠ [] :=
        fun he => hrows next List.mem_cons_self (List.append_eq_nil_iff.mp he).1
      rw [List.map_cons, List.map_cons, join_cons_cons, ← List.map_cons, ih hrows,
        List.flatten_cons (L := next :: rows), join_append sep hrow hnext]

/-- The pieces of a text with the mark between them are the text. -/
theorem join_pieces (mark : Char) (s : String) : join (String.ofList [mark]) (pieces mark s) = s := by
  rw [← String.toList_inj, toList_join, map_toList_pieces, String.toList_ofList, intercalate_splitOn]

/-- Texts without the mark are the pieces again of what they are joined to with it. -/
theorem pieces_join {mark : Char} {ss : List String} (hne : ss ≠ [])
    (h : ∀ s ∈ ss, mark ∉ s.toList) : pieces mark (join (String.ofList [mark]) ss) = ss := by
  have hmark : String.ofList [mark] = String.singleton mark := rfl
  induction ss with
  | nil => exact absurd rfl hne
  | cons s ss ih =>
    obtain ⟨hs, hss⟩ := List.forall_mem_cons.mp h
    have hpiece : pieces mark s = [s] := by
      rw [pieces, splitOn_of_not_mem hs, List.map_singleton, String.ofList_toList]
    cases ss with
    | nil => exact hpiece
    | cons t ss =>
      rw [join_cons_cons, hmark, pieces_append, ← hmark, hpiece, ih (List.cons_ne_nil t ss) hss,
        List.singleton_append]

/-- Texts one after another, one a line. -/
def unlines (ls : List String) : String := join "\n" ls

/-! ## 3. Parts of a text -/

/-- Tells whether a text starts with the characters given. -/
def startsWith (s : String) (start : String) : Bool := start.toList.isPrefixOf s.toList

/-- A text starts with some characters exactly when it is them and a rest. -/
theorem startsWith_iff {s start : String} :
    startsWith s start = true ↔ ∃ rest, s = start ++ rest := by
  unfold startsWith
  rw [List.isPrefixOf_iff_prefix]
  constructor
  · rintro ⟨rest, h⟩
    refine ⟨String.ofList rest, ?_⟩
    rw [← String.toList_inj, String.toList_append, String.toList_ofList, h]
  · rintro ⟨rest, rfl⟩
    exact ⟨rest.toList, String.toList_append.symm⟩

/-- A text starts with what it begins with. -/
theorem startsWith_append (start rest : String) : startsWith (start ++ rest) start = true :=
  startsWith_iff.mpr ⟨rest, rfl⟩

/-- Tells whether a text ends with the characters given. -/
def endsWith (s : String) (finish : String) : Bool := finish.toList.isSuffixOf s.toList

/-- A text ends with what stands at its end. -/
theorem endsWith_append (rest finish : String) : endsWith (rest ++ finish) finish = true := by
  rw [endsWith, String.toList_append, List.isSuffixOf_iff_suffix]
  exact List.suffix_append _ _

/-- Text without its first `n` characters. -/
def dropStart (n : Nat) (s : String) : String := String.ofList (s.toList.drop n)

/-- The rest is left where a text is taken off at the front. -/
theorem dropStart_append (start rest : String) :
    dropStart start.toList.length (start ++ rest) = rest := by
  rw [dropStart, String.toList_append, List.drop_left, String.ofList_toList]

/-- Text without its last `n` characters. -/
def dropEnd (n : Nat) (s : String) : String :=
  String.ofList (s.toList.take (s.toList.length - n))

/-- Text with each tab written as four spaces. -/
def expandTabs (s : String) : String :=
  String.ofList (s.toList.flatMap fun c => if c = '\t' then [' ', ' ', ' ', ' '] else [c])

/-- Tabs are written as spaces part by part. -/
theorem expandTabs_append (s t : String) : expandTabs (s ++ t) = expandTabs s ++ expandTabs t := by
  rw [expandTabs, String.toList_append, List.flatMap_append, String.ofList_append]
  rfl

end ClientGen.Text
