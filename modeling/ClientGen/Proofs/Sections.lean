import ClientGen.Proofs.Reading

/-!
# Sections written as lists

A section is a record keyed by name or a list of named records. A list is made into a keyed
record before its entries are read, and of two items with one name the record holds the second in
the place of the first. This file fixes what that does to the entries:

* `putNamed_text`, `namedItems_eq_ok`: items are put under their names one after another;
* `texts_of_read`: in a list that is accepted every name is a text;
* `ListRead`: a list is read as the keyed record of its items, and it keeps every item exactly
  where no name is repeated;
* `Service.ofDocument_lists`: so it is for enums, models, unions and resources.
-/

namespace ClientGen

namespace Reading

variable {α : Type} {d : Document}

/-! ## 1. Putting items under their names -/

/-- Entries of a keyed record as a section has them. -/
def keyed (t : Table Value) : List (Value × Value) := t.map fun e => (.text e.1, e.2)

/-- Under texts items are put as in a table. -/
theorem putNamed_text (name : String) (spec : Value) (t : Table Value) :
    putNamed (.text name) spec (keyed t) = keyed (Table.put t name spec) := by
  induction t with
  | nil => rfl
  | cons e t ih =>
    have hkey : (Value.text e.1).sameKey (.text name) = decide (e.1 = name) := rfl
    have hcons : keyed (e :: t) = (.text e.1, e.2) :: keyed t := rfl
    rw [hcons, putNamed, hkey, Table.put, ih]
    by_cases h : e.1 = name
    · rw [h, decide_eq_true rfl, if_pos rfl, if_pos rfl]
      rfl
    · rw [decide_eq_false h, if_neg Bool.false_ne_true, if_neg h]
      rfl

theorem foldl_putNamed_text (names : List String) (specs : List Value) (t : Table Value) :
    ((names.map Value.text).zip specs).foldl (fun es e => putNamed e.1 e.2 es) (keyed t) =
      keyed ((names.zip specs).foldl (fun t e => Table.put t e.1 e.2) t) := by
  induction names generalizing specs t with
  | nil => rfl
  | cons n names ih =>
    cases specs with
    | nil => rfl
    | cons v specs => 
      rw [List.map_cons, List.zip_cons_cons, List.zip_cons_cons, List.foldl_cons, List.foldl_cons,
        putNamed_text, ih]

/-- Every key stays. -/
theorem mem_keys_putNamed (name spec : Value) {entries : List (Value × Value)} {k : Value}
    (h : k ∈ entries.map Prod.fst) : k ∈ (putNamed name spec entries).map Prod.fst := by
  induction entries with
  | nil => exact absurd h List.not_mem_nil
  | cons e entries ih =>
    rw [putNamed]
    split
    next => exact h
    next =>
      rcases List.mem_cons.mp h with rfl | h
      · exact List.mem_cons_self
      · exact List.mem_cons_of_mem _ (ih h)

theorem mem_keys_foldl_putNamed (items : List (Value × Value)) {entries : List (Value × Value)}
    {k : Value} (h : k ∈ entries.map Prod.fst) :
    k ∈ (items.foldl (fun es e => putNamed e.1 e.2 es) entries).map Prod.fst := by
  induction items generalizing entries with
  | nil => exact h
  | cons i items ih => exact ih (mem_keys_putNamed i.1 i.2 h)

/-- An item goes under its own name, or under a key that is the same. -/
theorem exists_key_putNamed (name spec : Value) (entries : List (Value × Value)) :
    ∃ k ∈ (putNamed name spec entries).map Prod.fst, k = name ∨ k.sameKey name = true := by
  induction entries with
  | nil => exact ⟨name, List.mem_cons_self, Or.inl rfl⟩
  | cons e entries ih =>
    rw [putNamed]
    split
    next h => exact ⟨e.1, List.mem_cons_self, Or.inr h⟩
    next =>
      obtain ⟨k, hk, hname⟩ := ih
      exact ⟨k, List.mem_cons_of_mem _ hk, hname⟩

theorem exists_key_foldl_putNamed {items : List (Value × Value)} (entries : List (Value × Value))
    {e : Value × Value} (h : e ∈ items) :
    ∃ k ∈ (items.foldl (fun es e => putNamed e.1 e.2 es) entries).map Prod.fst,
      k = e.1 ∨ k.sameKey e.1 = true := by
  induction items generalizing entries with
  | nil => exact absurd h List.not_mem_nil
  | cons i items ih =>
    rcases List.mem_cons.mp h with rfl | h
    · obtain ⟨k, hk, hname⟩ := exists_key_putNamed e.1 e.2 entries
      exact ⟨k, mem_keys_foldl_putNamed items hk, hname⟩
    · exact ih _ h

/-- A list of items is gone through where each has a name that can be a key. -/
theorem namedItems_eq_ok {entries es : List (Value × Value)} {items : List Value} :
    namedItems entries items d = .ok es ↔ ∃ keys : List Value,
      List.Forall₂ (fun item k => member item "name" d = .ok k ∧ k.canBeKey = true) items keys ∧
      es = (keys.zip items).foldl (fun es e => putNamed e.1 e.2 es) entries := by
  induction items generalizing entries with
  | nil =>
    rw [namedItems, pure_eq_ok]
    constructor
    · rintro rfl
      exact ⟨[], .nil, rfl⟩
    · rintro ⟨_, hkeys, rfl⟩
      cases hkeys
      rfl
  | cons item items ih =>
    rw [namedItems, bind_eq_ok]
    constructor
    · rintro ⟨k, hk, h⟩
      split at h
      next hkey =>
        obtain ⟨keys, hkeys, rfl⟩ := ih.mp h
        exact ⟨k :: keys, .cons ⟨hk, hkey⟩ hkeys, rfl⟩
      next => cases h
    · rintro ⟨_, hkeys, rfl⟩
      cases hkeys with
      | @cons _ k _ keys hk hkeys =>
        refine ⟨k, hk.1, ?_⟩
        rw [if_pos hk.2]
        exact ih.mpr ⟨keys, hkeys, rfl⟩

/-! ## 2. Lists that are accepted -/

theorem section_record (title : String) (t : Table Value) :
    section_ title (.record t) d = .ok (keyed (t.map fun e => (e.1, d.part e.2))) := by
  have h : section_ title (.record t) d =
      (entriesOf t d).bind fun r => .ok (r.map fun e => (Value.text e.1, e.2)) := rfl
  rw [h, entriesOf_eq]
  rfl

theorem section_list_eq_ok {title : String} {items : List Value} {es : List (Value × Value)} :
    section_ title (.list items) d = .ok es ↔ namedItems [] (items.map d.part) d = .ok es := by
  have h : items.mapM part d = .ok (items.map d.part) :=
    mapM_eq_ok.mpr (List.forall₂_map_right_iff.mpr (List.forall₂_same.mpr fun _ _ => rfl))
  have hsection : section_ title (.list items) d =
      (items.mapM part d).bind fun items => namedItems [] items d := rfl
  rw [hsection, h]
  rfl

theorem eq_text_of_sameKey {k : Value} {n : String} (h : (Value.text n).sameKey k = true) :
    k = .text n := by
  cases k with
  | text m => rw [of_decide_eq_true h]
  | _ => cases h

/-- Where every key of a section is a text, every name in its list is. -/
theorem texts_of_keys {keys items : List Value} (hlength : keys.length = items.length)
    (h : ∀ e ∈ (keys.zip items).foldl (fun es e => putNamed e.1 e.2 es) [], ∃ n, e.1 = .text n) :
    ∃ names : List String, keys = names.map .text := by
  have htext : ∀ k ∈ keys, ∃ n, k = .text n := by
    intro k hk
    have hfst : (keys.zip items).map Prod.fst = keys := List.map_fst_zip (Nat.le_of_eq hlength)
    rw [← hfst] at hk
    obtain ⟨e, he, rfl⟩ := List.mem_map.mp hk
    obtain ⟨l, hl, hsame⟩ := exists_key_foldl_putNamed [] he
    obtain ⟨e', he', rfl⟩ := List.mem_map.mp hl
    obtain ⟨n, hn⟩ := h e' he'
    refine ⟨n, ?_⟩
    rcases hsame with hsame | hsame
    · rw [← hsame, hn]
    · rw [hn] at hsame
      exact eq_text_of_sameKey hsame
  obtain ⟨names, hnames⟩ := exists_forall₂ htext
  refine ⟨names, ?_⟩
  rw [← List.map_id keys]
  exact map_eq_of_forall₂ hnames fun k n hk => hk

/-- **A list that is accepted is read as a keyed record** of its items. -/
theorem section_list_eq_record {title : String} {items : List Value} {es : List (Value × Value)}
    (h : section_ title (.list items) d = .ok es) (htext : ∀ e ∈ es, ∃ n, e.1 = .text n) :
    ∃ names : List String,
      List.Forall₂ (fun item n => member (d.part item) "name" d = .ok (.text n)) items names ∧
      section_ title (.record (Table.ofEntries (names.zip items))) d = .ok es := by
  obtain ⟨keys, hkeys, rfl⟩ := namedItems_eq_ok.mp (section_list_eq_ok.mp h)
  obtain ⟨names, rfl⟩ := texts_of_keys hkeys.length_eq.symm htext
  have hnames := (List.forall₂_map_left_iff.mp (List.forall₂_map_right_iff.mp hkeys))
  refine ⟨names, hnames.imp fun _ _ h => h.1, ?_⟩
  have hzip : names.zip (items.map d.part) = (names.zip items).map fun e => (e.1, d.part e.2) :=
    List.zip_map_right
  rw [section_record, ← Table.ofEntries_map d.part, ← hzip]
  exact congrArg Except.ok (foldl_putNamed_text names (items.map d.part) []).symm

/-! ## 3. Names of entries -/

/-- What is checked to be a text first of all is a text. -/
theorem text_of_entry {β γ δ : Type} {f : String → β → γ → δ} {key : String} {name : Value}
    {rest : Record} {b : Checked β} {c : Checked γ} {x : δ}
    (h : f <$> Check.entry ((key, name) :: rest) key Check.text <*> b <*> c = .good x) :
    ∃ n, name = .text n := by
  obtain ⟨_, _, h, _, _⟩ := Checked.seq_eq_good.mp h
  obtain ⟨_, _, h, _, _⟩ := Checked.seq_eq_good.mp h
  obtain ⟨n, h, _⟩ := Checked.map_eq_good.mp h
  rw [Check.entry_eq_good (v := name) List.lookup_cons_self, Check.text_eq_good] at h
  exact ⟨n, h⟩

/-- A named type is checked with its items and its description. -/
theorem good_of_namedType {β : Type} {spec default : Value} {key title : String}
    {read : Value → Reading α} {build : Value → List α → Checked β} {b : β}
    (h : (do
      let items ← (← itemsOf (← memberOr spec key default)).mapM read
      check title (build (← memberOr spec "description" .null) items) : Reading β) d = .ok b) :
    ∃ description items, build description items = .good b := by
  obtain ⟨_, _, h⟩ := bind_eq_ok.mp h
  obtain ⟨_, _, h⟩ := bind_eq_ok.mp h
  obtain ⟨items, _, h⟩ := bind_eq_ok.mp h
  obtain ⟨description, _, h⟩ := bind_eq_ok.mp h
  exact ⟨description, items, check_eq_ok.mp h⟩

theorem text_of_enumType {name spec : Value} {e : EnumType} (h : enumType name spec d = .ok e) :
    ∃ n, name = .text n := by
  obtain ⟨_, _, h⟩ := good_of_namedType h
  exact text_of_entry h

theorem text_of_modelType {name spec : Value} {m : ModelType} (h : modelType name spec d = .ok m) :
    ∃ n, name = .text n := by
  obtain ⟨_, _, h⟩ := good_of_namedType h
  exact text_of_entry h

theorem text_of_unionType {name spec : Value} {u : UnionType} (h : unionType name spec d = .ok u) :
    ∃ n, name = .text n := by
  obtain ⟨_, _, h⟩ := good_of_namedType h
  exact text_of_entry h

theorem text_of_resource {name spec : Value} {x : Resource} (h : resource name spec d = .ok x) :
    ∃ n, name = .text n := by
  rw [resource_eq] at h
  obtain ⟨_, _, h⟩ := bind_eq_ok.mp h
  obtain ⟨_, _, h⟩ := bind_eq_ok.mp h
  obtain ⟨_, _, h⟩ := bind_eq_ok.mp h
  obtain ⟨_, _, h⟩ := bind_eq_ok.mp h
  obtain ⟨_, _, h⟩ := bind_eq_ok.mp h
  obtain ⟨_, _, h⟩ := bind_eq_ok.mp h
  obtain ⟨_, _, h⟩ := bind_eq_ok.mp h
  obtain ⟨_, _, h⟩ := bind_eq_ok.mp h
  obtain ⟨_, _, h, _, _⟩ := Checked.seq_eq_good.mp (check_eq_ok.mp h)
  obtain ⟨_, _, h, _, _⟩ := Checked.seq_eq_good.mp h
  exact text_of_entry h

/-! ## 4. Sections -/

variable {read : Value → Value → Reading α} {title : String} {items : List Value} {xs : List α}

/-- **The entry that an item gives** in a section keyed by name. -/
def Gives (d : Document) (title : String) (read : Value → Value → Reading α) (item : Value) (x : α) :
    Prop :=
  ∃ n, member (d.part item) "name" d = .ok (.text n) ∧
    sectionOf [(title, .record [(n, item)])] title read d = .ok [x]

/-- **What is read of a list of items** with the names given. It is the keyed record of the items;
    every item gives its entry, in order, exactly where no name is repeated; and elsewhere there are
    fewer entries than items. -/
structure ListRead (d : Document) (title : String) (read : Value → Value → Reading α)
    (items : List Value) (names : List String) (xs : List α) : Prop where
  named : List.Forall₂ (fun item n => member (d.part item) "name" d = .ok (.text n)) items names
  asRecord : sectionOf [(title, .record (Table.ofEntries (names.zip items)))] title read d = .ok xs
  complete : List.Forall₂ (Gives d title read) items xs ↔ names.Nodup
  fewer : xs.length < items.length ↔ ¬ names.Nodup

theorem sectionOf_eq_ok {r : Record} : sectionOf r title read d = .ok xs ↔
    ∃ es, section_ title ((Table.get? r title).getD .null) d = .ok es ∧
      List.Forall₂ (fun e x => read e.1 e.2 d = .ok x) es xs := by
  rw [sectionOf, bind_eq_ok]
  simp only [mapM_eq_ok]

theorem sectionOf_record_eq_ok {t : Table Value} :
    sectionOf [(title, .record t)] title read d = .ok xs ↔
      List.Forall₂ (fun e x => read (.text e.1) (d.part e.2) d = .ok x) t xs := by
  have hget : Table.get? [(title, Value.record t)] title = some (.record t) := List.lookup_cons_self
  rw [sectionOf_eq_ok, hget, Option.getD_some, section_record, keyed]
  constructor
  · rintro ⟨es, hes, h⟩
    cases hes
    exact List.forall₂_map_left_iff.mp (List.forall₂_map_left_iff.mp h)
  · exact fun h => ⟨_, rfl, List.forall₂_map_left_iff.mpr (List.forall₂_map_left_iff.mpr h)⟩

theorem gives_iff {item : Value} {x : α} : Gives d title read item x ↔
    ∃ n, member (d.part item) "name" d = .ok (.text n) ∧ read (.text n) (d.part item) d = .ok x := by
  unfold Gives
  simp only [sectionOf_record_eq_ok, List.forall₂_cons, List.forall₂_nil_left_iff, and_true]

/-- **A list section** that is accepted. -/
theorem listRead_of_sectionOf {r : Record} (hr : Table.get? r title = some (.list items))
    (htext : ∀ {name spec x}, read name spec d = .ok x → ∃ n, name = .text n)
    (h : sectionOf r title read d = .ok xs) : ∃ names, ListRead d title read items names xs := by
  obtain ⟨es, hes, hxs⟩ := sectionOf_eq_ok.mp h
  rw [hr, Option.getD_some] at hes
  have hkeys : ∀ e ∈ es, ∃ n, e.1 = .text n := by
    intro e he
    obtain ⟨x, _, hx⟩ := exists_right_of_forall₂ hxs he
    exact htext hx
  obtain ⟨names, hnames, hrecord⟩ := section_list_eq_record hes hkeys
  have hasRecord : sectionOf [(title, .record (Table.ofEntries (names.zip items)))] title read d =
      .ok xs := by
    have hget : Table.get? [(title, Value.record (Table.ofEntries (names.zip items)))] title =
        some (.record (Table.ofEntries (names.zip items))) := List.lookup_cons_self
    refine sectionOf_eq_ok.mpr ⟨es, ?_, hxs⟩
    rw [hget]
    exact hrecord
  have hentries := sectionOf_record_eq_ok.mp hasRecord
  have hlength : (names.zip items).length = items.length := by
    rw [List.length_zip, ← hnames.length_eq, Nat.min_self]
  have hzip : Table.names (names.zip items) = names :=
    List.map_fst_zip (Nat.le_of_eq hnames.length_eq.symm)
  have hcount : xs.length = items.length ↔ names.Nodup := by
    rw [← hentries.length_eq, ← hlength, Table.length_ofEntries_eq_iff, hzip]
  have hle : xs.length ≤ items.length := by
    have h := Table.length_foldl_put_le [] (names.zip items)
    rwa [List.length_nil, Nat.zero_add, hlength, ← Table.ofEntries, hentries.length_eq] at h
  refine ⟨names, hnames, hasRecord, ⟨fun hg => hcount.mp hg.length_eq.symm, fun hd => ?_⟩, ?_⟩
  · rw [← hzip] at hd
    rw [Table.ofEntries_of_nodup hd] at hentries
    have hsteps := forall₂_zip_of_forall₂ hnames (List.forall₂_same.mpr fun item _ => Eq.refl item)
    refine (forall₂_comp_iff.mpr ⟨_, hsteps, hentries⟩).imp fun item x hx => gives_iff.mpr ?_
    obtain ⟨e, ⟨hname, hitem⟩, hread⟩ := hx
    rw [← hitem] at hread
    exact ⟨e.1, hname, hread⟩
  · rw [← hcount]
    omega

end Reading

/-! ## 5. Services -/

/-- **A section that is written as a list** is read as one. -/
def Reading.ListsRead {α : Type} (d : Document) (r : Record) (title : String)
    (read : Value → Value → Reading α) (xs : List α) : Prop :=
  ∀ items, Table.get? (opened d r) title = some (.list items) →
    ∃ names, ListRead d title read items names xs

/-- **List sections of a document that is accepted**: each is read as the keyed record of its items,
    and has an entry for every item, in order, exactly where no name in it is repeated. -/
theorem Service.ofDocument_lists {d : Document} {s : Service} (h : Service.ofDocument d = .ok s) :
    ∃ r, d.part d.root = .record r ∧
      Reading.ListsRead d r "enums" Reading.enumType s.enums ∧
      Reading.ListsRead d r "models" Reading.modelType s.models ∧
      Reading.ListsRead d r "unions" Reading.unionType s.unions ∧
      Reading.ListsRead d r "resources" Reading.resource s.resources := by
  obtain ⟨r, hr⟩ := record_of_ofDocument h
  rw [ofDocument_of_record hr, mapError_eq_ok] at h
  have hs := Reading.sectionsOf_of_serviceOf h
  exact ⟨r, hr,
    fun _ hl => Reading.listRead_of_sectionOf hl Reading.text_of_enumType hs.enums,
    fun _ hl => Reading.listRead_of_sectionOf hl Reading.text_of_modelType hs.models,
    fun _ hl => Reading.listRead_of_sectionOf hl Reading.text_of_unionType hs.unions,
    fun _ hl => Reading.listRead_of_sectionOf hl Reading.text_of_resource hs.resources⟩

/-- Model without fields. -/
def bareModel (name : String) : Value := .record [("name", .text name)]

/-- Model with one field. -/
def agedModel (name : String) : Value :=
  .record [("name", .text name),
    ("fields", .list [.record [("name", .text "age"), ("type", .text "integer")]])]

/-- Description with a list of models, in which one name is there twice, and a list of unions. -/
def twoUsers : Document :=
  Value.record
    [("models", .list [bareModel "user", bareModel "account", agedModel "user"]),
     ("unions", .list [.record [("name", .text "owner"), ("types", .list [.text "user"])]])]

/-- Both lists are read as keyed records, the one with the name twice and the one without. -/
theorem Service.ofDocument_lists_twoUsers : ∃ s ms us, Service.ofDocument twoUsers = .ok s ∧
    Reading.ListRead twoUsers "models" Reading.modelType
      [bareModel "user", bareModel "account", agedModel "user"] ms s.models ∧
    Reading.ListRead twoUsers "unions" Reading.unionType
      [.record [("name", .text "owner"), ("types", .list [.text "user"])]] us s.unions := by
  obtain ⟨s, hs⟩ : ∃ s, Service.ofDocument twoUsers = .ok s := ⟨_, rfl⟩
  obtain ⟨r, hr, _, hmodels, hunions, _⟩ := Service.ofDocument_lists hs
  cases hr
  obtain ⟨ms, hms⟩ := hmodels _ rfl
  obtain ⟨us, hus⟩ := hunions _ rfl
  exact ⟨s, ms, us, hs, hms, hus⟩

/-- A list of three models is accepted and gives two: the third stands in the place of the first. -/
theorem Service.exists_item_lost : ∃ s, Service.ofDocument twoUsers = .ok s ∧
    s.models.map (fun m => (m.name, m.fields.length)) = [("user", 1), ("account", 0)] ∧
    ¬ List.Forall₂ (Reading.Gives twoUsers "models" Reading.modelType)
      [bareModel "user", bareModel "account", agedModel "user"] s.models :=
  ⟨_, rfl, rfl, fun h => nomatch h.length_eq⟩

end ClientGen
