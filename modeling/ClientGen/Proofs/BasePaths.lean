import ClientGen.Proofs.Sections

/-!
# Paths of operations under their resource

The path of an operation is the one of its resource without the slashes at its end, then its own.
A resource that names no path has one made from its plural, and it is made twice: the reader makes
it where the description has no such entry, and the resource makes it where it has been given none.
This file fixes

* `unslashed_eq_iff`: a path without the slashes at its end;
* `pathUnder`, `operationPath_eq_ok`: the path that an operation has under another one;
* `placed_of_resource`: what is read of a plural, a path and the operations;
* `LivesUnder`, `Service.ofDocument_placed`: operations of a document lie under the path of their
  resource, unless the description gives that path as null. These lie under nothing.
-/

namespace ClientGen

open ClientGen.Text

/-! ## 1. Paths under a path -/

/-- Path without the slashes at its end. -/
def unslashed (path : String) : String := String.ofList (dropEndWhile (· = '/') path.toList)

/-- Path of what lies under a base by a path of its own; a slash if nothing is left of both. -/
def pathUnder (base own : String) : String :=
  if unslashed base ++ own = "" then "/" else unslashed base ++ own

theorem unslashed_empty : unslashed "" = "" := rfl

theorem getLast?_unslashed (path : String) : (unslashed path).toList.getLast? ≠ some '/' := by
  intro h
  rw [unslashed, String.toList_ofList] at h
  exact of_decide_eq_false (getLast?_dropEndWhile h) rfl

/-- **A path without the slashes at its end** does not end in one, and only slashes are gone. -/
theorem unslashed_eq_iff {path base : String} : unslashed path = base ↔
    base.toList.getLast? ≠ some '/' ∧ ∃ n, path.toList = base.toList ++ List.replicate n '/' := by
  constructor
  · rintro rfl
    obtain ⟨tail, htail, hslash⟩ := exists_eq_dropEndWhile_append (· = '/') path.toList
    refine ⟨getLast?_unslashed path, tail.length, ?_⟩
    rw [unslashed, String.toList_ofList,
      ← List.eq_replicate_of_mem fun c hc => of_decide_eq_true (hslash c hc)]
    exact htail
  · rintro ⟨hlast, n, hpath⟩
    have hstop : ∀ c, base.toList.reverse.head? = some c → decide (c = '/') = false := by
      intro c hc
      rw [List.head?_reverse] at hc
      exact decide_eq_false fun e => hlast (e ▸ hc)
    have hall : ∀ c ∈ List.replicate n '/', decide (c = '/') = true :=
      fun c hc => decide_eq_true (List.eq_of_mem_replicate hc)
    rw [unslashed, hpath, dropEndWhile, List.reverse_append, List.reverse_replicate,
      dropWhile_append_of_stop hall hstop, List.reverse_reverse, String.ofList_toList]

/-- Nothing is left of slashes alone. -/
theorem unslashed_eq_empty_iff {path : String} :
    unslashed path = "" ↔ ∀ c ∈ path.toList, c = '/' := by
  rw [unslashed_eq_iff, String.toList_empty]
  constructor
  · rintro ⟨_, n, hpath⟩ c hc
    rw [hpath, List.nil_append] at hc
    exact List.eq_of_mem_replicate hc
  · exact fun h => ⟨nofun, path.toList.length, List.eq_replicate_of_mem h⟩

theorem unslashed_slash_append_eq_empty_iff {path : String} :
    unslashed ("/" ++ path) = "" ↔ ∀ c ∈ path.toList, c = '/' := by
  have hcons : ("/" ++ path).toList = '/' :: path.toList := String.toList_append
  rw [unslashed_eq_empty_iff, hcons]
  exact List.forall_mem_cons.trans (and_iff_right rfl)

theorem pathUnder_of_ne {base : String} (h : unslashed base ≠ "") (own : String) :
    pathUnder base own = unslashed base ++ own := by
  rw [pathUnder, if_neg fun e => h (String.append_eq_empty_iff.mp e).1]

/-- **A path lies under a base as under nothing** only where nothing is left of the base. -/
theorem pathUnder_empty_eq_iff {base own : String} :
    pathUnder "" own = pathUnder base own ↔ unslashed base = "" := by
  constructor
  · intro h
    by_contra hbase
    rw [pathUnder_of_ne hbase, pathUnder, unslashed_empty, String.empty_append] at h
    split at h
    next hown =>
      -- what is left of the base would be a slash
      rw [hown, String.append_empty] at h
      exact getLast?_unslashed base (congrArg (fun s => s.toList.getLast?) h.symm)
    next =>
      have hlength := congrArg String.length h
      rw [String.length_append] at hlength
      exact hbase (String.length_eq_zero_iff.mp (by omega))
  · intro h
    rw [pathUnder, pathUnder, h, unslashed_empty]

/-! ## 2. What is read -/

/-- Value that a text which may be missing has in a description. -/
def Value.ofText? : Option String → Value
  | none => .null
  | some s => .text s

theorem optionalText_eq_good {v : Value} {t : Option String} :
    Check.optionalText v = .good t ↔ v = Value.ofText? t := by
  cases v <;> cases t <;> simp [Check.optionalText, Value.ofText?, Checked.issue]

namespace Reading

variable {d : Document}

theorem basePath_ofText? (path : Option String) :
    basePath (Value.ofText? path) d = .ok (unslashed (path.getD "")) := by
  cases path with
  | none => rfl
  | some p =>
    by_cases hp : p = ""
    · rw [hp]
      rfl
    · have hgiven : (Value.text p).isGiven = true := decide_eq_true hp
      rw [Value.ofText?, basePath, hgiven]
      rfl

/-- **The path of an operation** is its own under the path that its resource was given. -/
theorem operationPath_eq_ok {path : Option String} {own : Value} {p : String} :
    operationPath (Value.ofText? path) own d = .ok p ↔
      ∃ s, own = .text s ∧ p = pathUnder (path.getD "") s := by
  have hbase : ∀ b, basePath (Value.ofText? path) d = .ok b ↔ unslashed (path.getD "") = b := by
    intro b
    rw [basePath_ofText?, Except.ok.injEq]
  rw [operationPath, bind_eq_ok]
  simp only [hbase, exists_eq_left']
  cases own with
  | text s =>
    rw [pure_eq_ok, ← pathUnder]
    exact ⟨fun h => ⟨s, rfl, h.symm⟩, fun ⟨_, hs, h⟩ => by cases hs; exact h.symm⟩
  | _ => exact ⟨fun h => (nomatch h), fun ⟨_, h, _⟩ => (nomatch h)⟩

/-- **An operation lies under its resource**: its path is its own one under the path that the
    resource was given. That is the path which the resource has where one was given, or where the
    plural is made of slashes. -/
structure LivesUnder (d : Document) (x : Resource) (spec : Value) (o : Operation) : Prop where
  read : ∃ name, operation name (Value.ofText? x.path) spec d = .ok o
  path : ∃ own, memberOr spec "path" (.text "") d = .ok (.text own) ∧
    o.path = pathUnder (x.path.getD "") own ∧
    (o.path = pathUnder x.basePath own ↔ x.path ≠ none ∨ ∀ c ∈ x.plural.toList, c = '/')

theorem livesUnder_of_operation {x : Resource} {name spec : Value} {o : Operation}
    (h : operation name (Value.ofText? x.path) spec d = .ok o) : LivesUnder d x spec o := by
  obtain ⟨own, hown, hpath⟩ := (specifies_of_operation h).path
  obtain ⟨s, rfl, hp⟩ := operationPath_eq_ok.mp hpath
  refine ⟨⟨name, h⟩, s, hown, hp, ?_⟩
  rw [hp, Resource.basePath]
  cases x.path with
  | some p => exact iff_of_true rfl (.inl nofun)
  | none =>
    rw [Option.getD_none, Option.getD_none, pathUnder_empty_eq_iff,
      unslashed_slash_append_eq_empty_iff]
    exact (or_iff_right fun h => h rfl).symm

/-- **What a resource has of its specification**: the plural is given or follows from the name; the
    path is given, or is the plural after a slash where the entry is left out, or is missing where
    it is null; and each operation lies under the resource. -/
structure Placed (d : Document) (name spec : Value) (x : Resource) : Prop where
  plural : pluralFor name (partOr d spec "plural" .null) d = .ok (.text x.plural)
  path : partOr d spec "path" (.text ("/" ++ x.plural)) = Value.ofText? x.path
  operations : ∃ v specs, memberOr spec "operations" (.list []) d = .ok v ∧
    itemsOf v d = .ok specs ∧ List.Forall₂ (LivesUnder d x) specs x.operations

theorem around_resource_eq_good {name plural path description : Value} {os : List Operation}
    {x : Resource}
    (h : Resource.around [("type", name), ("plural", plural), ("path", path),
      ("description", description)] (.good os) = .good x) :
    plural = .text x.plural ∧ path = Value.ofText? x.path ∧ x.operations = os := by
  obtain ⟨_, _, h₁, _, rfl⟩ := Checked.seq_eq_good.mp h
  obtain ⟨_, _, h₂, hos, rfl⟩ := Checked.seq_eq_good.mp h₁
  obtain ⟨_, _, h₃, hpath, rfl⟩ := Checked.seq_eq_good.mp h₂
  obtain ⟨_, _, h₄, hplural, rfl⟩ := Checked.seq_eq_good.mp h₃
  obtain ⟨_, _, rfl⟩ := Checked.map_eq_good.mp h₄
  rw [Check.entry_eq_good (v := plural) rfl, Check.text_eq_good] at hplural
  rw [Check.entryOr_eq_good (v := path) rfl, optionalText_eq_good] at hpath
  cases hos
  exact ⟨hplural, hpath, rfl⟩

theorem placed_of_resource {name spec : Value} {x : Resource}
    (h : resource name spec d = .ok x) : Placed d name spec x := by
  rw [resource_eq] at h
  obtain ⟨given, hgiven, h⟩ := bind_eq_ok.mp h
  obtain ⟨plural, hplural, h⟩ := bind_eq_ok.mp h
  obtain ⟨default, hdefault, h⟩ := bind_eq_ok.mp h
  obtain ⟨path, hpath, h⟩ := bind_eq_ok.mp h
  obtain ⟨v, hv, h⟩ := bind_eq_ok.mp h
  obtain ⟨specs, hspecs, h⟩ := bind_eq_ok.mp h
  obtain ⟨os, hos, h⟩ := bind_eq_ok.mp h
  obtain ⟨description, _, h⟩ := bind_eq_ok.mp h
  obtain ⟨rfl, rfl, rfl⟩ := around_resource_eq_good (check_eq_ok.mp h)
  cases hdefault
  rw [← partOr_eq_of_memberOr hgiven] at hplural
  exact ⟨hplural, partOr_eq_of_memberOr hpath, v, specs, hv, hspecs,
    (mapM_eq_ok.mp hos).imp fun _ _ => livesUnder_of_operation⟩

end Reading

/-! ## 3. Documents -/

/-- **Operations of a document that is accepted** lie under their resources, each resource placed by
    its entry: the path of an operation is the one that the resource has, without the slashes at its
    end, and then its own, unless the description gives the path of the resource as null. -/
theorem Service.ofDocument_placed {d : Document} {s : Service} (h : Service.ofDocument d = .ok s) :
    ∃ r es, d.part d.root = .record r ∧
      Reading.section_ "resources" ((Table.get? (Reading.opened d r) "resources").getD .null) d =
        .ok es ∧
      List.Forall₂ (fun e x => Reading.Placed d e.1 e.2 x) es s.resources := by
  obtain ⟨r, hr⟩ := record_of_ofDocument h
  rw [ofDocument_of_record hr, mapError_eq_ok] at h
  obtain ⟨es, hes, hxs⟩ := Reading.sectionOf_eq_ok.mp (Reading.sectionsOf_of_serviceOf h).resources
  exact ⟨r, es, hr, hes, hxs.imp fun _ _ => Reading.placed_of_resource⟩

/-- Description of an operation that lists. -/
def listEntry : Value := .record [("method", .text "get"), ("path", .text "/list")]

/-- Three resources: the path of the first is given, that of the second is left out and that of the
    third is null. -/
def threeResources : Value :=
  .record
    [("user", .record [("path", .text "/team/users//"), ("operations", .list [listEntry])]),
     ("page", .record [("plural", .text "leaves"), ("operations", .list [listEntry])]),
     ("item", .record [("path", .null), ("operations", .list [listEntry])])]

/-- Description of the three resources. -/
def threePlaces : Document := Value.record [("resources", threeResources)]

theorem Service.ofDocument_placed_threePlaces : ∃ s es, Service.ofDocument threePlaces = .ok s ∧
    Reading.section_ "resources" threeResources threePlaces = .ok es ∧
    List.Forall₂ (fun (e : Value × Value) x => Reading.Placed threePlaces e.1 e.2 x) es s.resources ∧
    s.resources.map (fun x => (x.basePath, x.operations.map (·.path))) =
      [("/team/users//", ["/team/users/list"]), ("/leaves", ["/leaves/list"]),
       ("/items", ["/list"])] := by
  obtain ⟨s, hs⟩ : ∃ s, Service.ofDocument threePlaces = .ok s := ⟨_, rfl⟩
  obtain ⟨r, es, hr, hes, hplaced⟩ := Service.ofDocument_placed hs
  cases hr
  cases hs
  exact ⟨_, es, rfl, hes, hplaced, rfl⟩

/-- Description of a resource whose path is null. -/
def nulledPath : Document :=
  Value.record [("resources", .record
    [("user", .record [("path", .null), ("operations", .list [listEntry])])])]

/-- A resource whose path is null has a path, and its operation does not lie under it. -/
theorem Service.exists_operation_astray : ∃ s x o, Service.ofDocument nulledPath = .ok s ∧
    s.resources = [x] ∧ x.operations = [o] ∧ x.basePath = "/users" ∧
    pathUnder x.basePath "/list" = "/users/list" ∧ o.path = "/list" :=
  ⟨_, _, _, rfl, rfl, rfl, rfl, rfl, rfl⟩

end ClientGen
