import ClientGen.Proofs.Sequencing
import ClientGen.Registry

/-!
# What a notation refers to

Reading a notation takes brackets off from outside and looks the name inside up. This file
fixes

* `Registry.parse_unit`: the unit notation needs no declaration;
* `Registry.cause_of_parse_eq_error`: a notation is refused for one cause only;
* `TypeRef.nilText`: what stands for the absence of a value, by the outermost wrapper.
-/

namespace ClientGen

open ClientGen.Text

/-! ## 1. Reading -/

namespace Registry

variable {r : Registry}

theorem parse_unit (r : Registry) : r.parse "unit" = .ok (.primitive .unit) := rfl

theorem cause_of_lookUp_eq_error {whole name : String} {c : Cause}
    (h : r.lookUp whole name = .error c) : c = .unresolvedType whole := by
  unfold lookUp at h
  split at h
  · cases h
  · split at h
    · cases h
    · split at h
      · cases h
      · cases h
        rfl

theorem cause_of_parseChars_eq_error {fuel : Nat} {cs : List Char} {c : Cause}
    (h : r.parseChars fuel cs = .error c) : ∃ s, c = .unresolvedType s := by
  induction fuel generalizing cs with
  | zero =>
    cases h
    exact ⟨_, rfl⟩
  | succ fuel ih =>
    unfold parseChars at h
    dsimp only at h
    split at h
    · exact ih (map_eq_error.mp h)
    · exact ih (map_eq_error.mp h)
    · exact ⟨_, cause_of_lookUp_eq_error h⟩

/-- A notation that is refused has no declared name inside. -/
theorem cause_of_parse_eq_error {s : String} {c : Cause} (h : r.parse s = .error c) :
    ∃ t, c = .unresolvedType t :=
  cause_of_parseChars_eq_error h

end Registry

/-! ## 2. Absence -/

/-- Text for the absence of a value: the empty list, the empty map, or nothing. -/
def TypeRef.nilText : TypeRef → String
  | .list _ => "[]"
  | .map _ => "\x7b\x7d"
  | _ => "None"

theorem Registry.nilValue_resolve (r : Registry) (q : Bool) (ref : TypeRef) :
    (r.resolve q ref).nilValue = ref.nilText := by
  cases ref <;> rfl

end ClientGen
