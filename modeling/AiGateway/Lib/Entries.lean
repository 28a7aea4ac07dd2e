import Mathlib.Data.List.Nodup

/-! Maps kept as lists of entries: what is found under a key after the entries of a key
are dropped, and in a list of entries made from other values. -/

namespace AiGateway.Lib.Entries
variable {κ α β : Type} [DecidableEq κ]

def others (entries : List (κ × α)) (key : κ) : List (κ × α) := entries.filter fun entry => entry.1 != key

theorem mem_others {entries : List (κ × α)} {key : κ} {entry : κ × α} :
    entry ∈ others entries key ↔ entry ∈ entries ∧ entry.1 ≠ key := by
  simp [others]

theorem not_mem_others (entries : List (κ × α)) (key : κ) : key ∉ (others entries key).map Prod.fst := by
  simp [others]

theorem distinct_others {entries : List (κ × α)} (distinct : (entries.map Prod.fst).Nodup) (key : κ) :
    ((others entries key).map Prod.fst).Nodup :=
  distinct.sublist (List.filter_sublist.map Prod.fst)

theorem distinct_cons_others {entries : List (κ × α)} (distinct : (entries.map Prod.fst).Nodup) (key : κ) (value : α) :
    (((key, value) :: others entries key).map Prod.fst).Nodup :=
  List.nodup_cons.mpr ⟨not_mem_others entries key, distinct_others distinct key⟩

theorem length_others {entries : List (κ × α)} (distinct : (entries.map Prod.fst).Nodup) (key : κ) :
    (others entries key).length = ((entries.map Prod.fst).erase key).length := by
  rw [distinct.erase_eq_filter, List.filter_map, List.length_map]
  rfl

theorem lookup_isSome_iff {entries : List (κ × α)} {key : κ} :
    (entries.lookup key).isSome ↔ key ∈ entries.map Prod.fst := by
  induction entries with
  | nil => simp
  | cons entry rest ih =>
    obtain ⟨name, value⟩ := entry
    rw [List.lookup_cons, List.map_cons, List.mem_cons]
    by_cases same : key = name
    · simp [same]
    · rw [beq_false_of_ne same, ih]
      simp [same]

theorem lookup_filter_self (entries : List (κ × α)) (key : κ) :
    (entries.filter fun entry => entry.1 != key).lookup key = none := by
  apply List.lookup_eq_none_iff.mpr
  intro entry member
  have different : entry.1 ≠ key := by simpa using (List.mem_filter.mp member).2
  simpa using different.symm

theorem lookup_filter_ne {entries : List (κ × α)} {key other : κ} (different : other ≠ key) :
    (entries.filter fun entry => entry.1 != key).lookup other = entries.lookup other := by
  induction entries with
  | nil => rfl
  | cons entry rest ih =>
    obtain ⟨name, value⟩ := entry
    by_cases same : name = key
    · subst same
      rw [List.filter_cons_of_neg (by simp), List.lookup_cons, beq_false_of_ne different]
      exact ih
    · rw [List.filter_cons_of_pos (by simpa using same), List.lookup_cons, List.lookup_cons, ih]

/-- The first value with the key is the one found. -/
theorem lookup_map (name : β → κ) (value : β → α) (values : List β) (key : κ) :
    (values.map fun item => (name item, value item)).lookup key =
      (values.find? fun item => name item = key).map value := by
  induction values with
  | nil => rfl
  | cons item rest ih =>
    rw [List.map_cons, List.lookup_cons, List.find?_cons, ih]
    by_cases same : name item = key
    · simp [same]
    · simp [same, beq_false_of_ne (Ne.symm same)]

end AiGateway.Lib.Entries
