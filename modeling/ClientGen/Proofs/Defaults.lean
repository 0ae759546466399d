import ClientGen.Proofs.Declarations
import ClientGen.Proofs.Numerals

/-!
# Defaults from a description to code

A default of a description is read as a text and written as a literal of its type, so a value goes
through two encodings. This file fixes

* `Spells`: what text a literal of code stands for;
* `Registry.Renders`: what literal a value becomes under a type;
* `KeepsDefaults`, `Registry.keepsDefaults`: the literal of a number, a truth value, a text or a
  value of an enum stands for that very value, whether or not the type is made optional.
-/

namespace ClientGen

open ClientGen.Text ClientGen.Number

/-! ## 1. Literals of texts -/

/-- **A literal stands for a text:** it is on one line, of printable characters only, and reading
    its escapes gives the text. -/
def Spells (literal text : String) : Prop :=
  unquoted? literal = some text ∧ ∀ c ∈ literal.toList, isPlain c = true

theorem spells_quoted (text : String) : Spells (quoted text) text :=
  ⟨unquoted?_quoted text, fun _ => isPlain_of_mem_quoted⟩

namespace Registry

variable {r : Registry} {s : Service} {settings : Settings} {d : Document} {q : Bool}
  {ref : TypeRef}

/-! ## 2. Values as literals -/

/-- **A default of a description becomes a literal:** it is read as a text, which has a literal
    under the type. -/
def Renders (r : Registry) (d : Document) (q : Bool) (ref : TypeRef) (v : Value)
    (literal : String) : Prop :=
  ∃ raw, Reading.asText v d = .ok (.text raw) ∧ r.defaultLiteral raw q ref = .ok literal

theorem renders_iff {v : Value} {raw literal : String}
    (hv : Reading.asText v d = .ok (.text raw)) :
    r.Renders d q ref v literal ↔ r.defaultLiteral raw q ref = .ok literal := by
  constructor
  · rintro ⟨raw', hv', hl⟩
    rw [hv] at hv'
    cases hv'
    exact hl
  · exact fun hl => ⟨raw, hv, hl⟩

theorem asText_text (t : String) (d : Document) : Reading.asText (.text t) d = .ok (.text t) := rfl

theorem asText_bool (b : Bool) (d : Document) :
    Reading.asText (.bool b) d = .ok (.text (if b then "true" else "false")) := rfl

theorem asText_int {n : Int} (h : (toString n.natAbs).length ≤ maxDigits) (d : Document) :
    Reading.asText (.int n) d = .ok (.text (integerText n)) :=
  if_neg (by simpa [Value.hasLongInteger, isLong] using h)

/-- An option has the defaults of what it may hold. -/
theorem defaultLiteral_optional (r : Registry) (raw : String) (q : Bool) (ref : TypeRef) :
    r.defaultLiteral raw q ref.optional = r.defaultLiteral raw q ref := by
  cases ref <;> rfl

theorem find?_enum (h : DeclaredBy s settings r) {e : EnumType} (he : e ∈ s.enums) :
    r.enums.find? (·.name = e.name) = some e := by
  rw [h.enums_eq]
  exact find?_of_nodup_map h.nodup_enumNames he

theorem eq_of_enumLiteral {name raw literal : String} (h : r.enumLiteral name raw q = .ok literal) :
    literal = r.className name q ++ "(" ++ quoted raw ++ ")" := by
  unfold enumLiteral at h
  dsimp only at h
  split at h
  · cases h
    rfl
  · cases h

/-- The literal of a name of an enum is its class applied to the name, if it is listed. -/
theorem enumLiteral_eq_ok (h : DeclaredBy s settings r) {e : EnumType} (he : e ∈ s.enums)
    {raw literal : String} : r.enumLiteral e.name raw q = .ok literal ↔
      raw ∈ e.values.map (·.name) ∧ literal = r.className e.name q ++ "(" ++ quoted raw ++ ")" := by
  unfold enumLiteral
  simp only [find?_enum h he, Option.map_some, Option.getD_some]
  constructor
  · intro hl
    split at hl
    · rename_i hm
      cases hl
      exact ⟨by simpa using hm, rfl⟩
    · cases hl
  · rintro ⟨hm, rfl⟩
    exact if_pos (by simpa using hm)

theorem defaultLiteral_enum (r : Registry) (name raw : String) (q : Bool) :
    r.defaultLiteral raw q (.named .enum name) =
      (r.enumLiteral name raw q).mapError (.badDefault raw name) := by
  rw [defaultLiteral]
  cases r.enumLiteral name raw q <;> rfl

theorem defaultLiteral_primitive (r : Registry) (p : Primitive) (raw : String) (q : Bool) :
    r.defaultLiteral raw q (.primitive p) =
      (primitiveLiteral p raw).mapError (.badDefault raw p.name) := by
  rw [defaultLiteral]
  cases primitiveLiteral p raw <;> rfl

end Registry

/-! ## 3. What is kept -/

/-- **Defaults are kept** under the types that `under` makes of the primitives and enums of a
    service: every value becomes a literal that stands for it, and of the texts exactly the listed
    names are defaults of an enum. -/
structure KeepsDefaults (s : Service) (r : Registry) (d : Document) (q : Bool)
    (under : TypeRef → TypeRef) : Prop where
  integer : ∀ p ∈ [Primitive.integer, .long], ∀ n : Int, (toString n.natAbs).length ≤ maxDigits →
    r.Renders d q (under (.primitive p)) (.int n) (toString n)
  boolean : ∀ b : Bool,
    r.Renders d q (under (.primitive .boolean)) (.bool b) (if b then "True" else "False")
  string : ∀ t : String, ∃ literal,
    r.Renders d q (under (.primitive .string)) (.text t) literal ∧ Spells literal t
  listed : ∀ e ∈ s.enums, ∀ t : String,
    (∃ literal, r.Renders d q (under (.named .enum e.name)) (.text t) literal) ↔
      t ∈ e.values.map (·.name)
  enum : ∀ e ∈ s.enums, ∀ t literal : String,
    r.Renders d q (under (.named .enum e.name)) (.text t) literal →
      ∃ argument, literal = r.className e.name q ++ "(" ++ argument ++ ")" ∧ Spells argument t

namespace Registry

variable {r : Registry} {s : Service} {settings : Settings}

theorem keepsDefaults_of_under (h : DeclaredBy s settings r) (d : Document) (q : Bool)
    {under : TypeRef → TypeRef}
    (hu : ∀ raw ref, r.defaultLiteral raw q (under ref) = r.defaultLiteral raw q ref) :
    KeepsDefaults s r d q under where
  integer := by
    intro p hp n hn
    have hl : primitiveLiteral p (integerText n) = .ok (toString n) := by
      rw [← integerText_eq_toString]
      rcases List.mem_cons.mp hp with rfl | hp
      · simp only [primitiveLiteral, readInteger_integerText hn]
      · cases List.mem_singleton.mp hp
        simp only [primitiveLiteral, readInteger_integerText hn]
    rw [renders_iff (asText_int hn d), hu, defaultLiteral_primitive, hl]
    rfl
  boolean := by
    intro b
    rw [renders_iff (asText_bool b d), hu, defaultLiteral_primitive]
    cases b <;> rfl
  string := by
    intro t
    refine ⟨quoted t, ?_, spells_quoted t⟩
    rw [renders_iff (asText_text t d), hu, defaultLiteral_primitive]
    rfl
  listed := by
    intro e he t
    simp only [renders_iff (asText_text t d), hu, defaultLiteral_enum, mapError_eq_ok,
      enumLiteral_eq_ok h he]
    exact ⟨fun ⟨_, ht, _⟩ => ht, fun ht => ⟨_, ht, rfl⟩⟩
  enum := by
    intro e he t literal hl
    rw [renders_iff (asText_text t d), hu, defaultLiteral_enum, mapError_eq_ok,
      enumLiteral_eq_ok h he] at hl
    exact ⟨quoted t, hl.2, spells_quoted t⟩

/-- Every default of a number, a truth value, a text or a value of an enum is kept, also where the type
    is made optional. In texts, the 2048 characters from U+10A000 stand for lone surrogates. -/
theorem keepsDefaults (h : ofService s settings = .ok r) (d : Document) (q : Bool) :
    KeepsDefaults s r d q id ∧ KeepsDefaults s r d q TypeRef.optional :=
  have h := ofService_eq_ok.mp h
  ⟨keepsDefaults_of_under h d q fun _ _ => rfl,
    keepsDefaults_of_under h d q fun raw ref => defaultLiteral_optional r raw q ref⟩

/-- Service with an enum of two values, one of which needs both quotes and an escape. -/
def quotedColors : Service :=
  { name := "api"
    enums := [{ name := "color", values := [{ name := "red" }, { name := "'\"\\\n" }] }] }

/-- A name that needs escapes is a default of its enum, and so is no other text. -/
theorem keepsDefaults_quotedColors : ∃ r, ofService quotedColors Dialect.aiohttp = .ok r ∧
    (∃ literal, r.Renders (Value.null : Value) true
      (TypeRef.optional (.named .enum "color")) (.text "'\"\\\n") literal) ∧
    ¬ ∃ literal, r.Renders (Value.null : Value) true
      (TypeRef.optional (.named .enum "color")) (.text "blue") literal := by
  obtain ⟨r, hr⟩ : ∃ r, ofService quotedColors Dialect.aiohttp = .ok r := ⟨_, rfl⟩
  have h := (keepsDefaults hr (Value.null : Value) true).2.listed _ List.mem_cons_self
  exact ⟨r, hr, (h _).mpr (by decide), fun hb => absurd ((h _).mp hb) (by decide)⟩

end Registry

end ClientGen
