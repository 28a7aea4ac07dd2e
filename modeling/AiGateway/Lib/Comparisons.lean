import AiGateway.Lib.Float64
import Mathlib.Data.List.Induction

/-! Comparisons that may have no answer, and the least of a list under one. -/

namespace AiGateway.Lib.Comparisons

/-- What an implementation of `PartialOrd` promises of its comparison. -/
class PartialOrd (α : Type) where
  partialCmp : α → α → Option Ordering
  dual : ∀ first second, partialCmp first second = some .gt ↔ partialCmp second first = some .lt
  trans : ∀ {first second third}, partialCmp first second = some .lt → partialCmp second third = some .lt →
    partialCmp first third = some .lt

open PartialOrd

def Below {α : Type} [PartialOrd α] (first second : α) : Prop := partialCmp first second = some .lt

/-- `Iterator::min_by`: of two that compare equal the one before stays. -/
def minBy {α : Type} (compare : α → α → Ordering) : List α → Option α
  | [] => none
  | first :: rest => some (rest.foldl (fun least item => if compare least item = .gt then item else least) first)

section Least
variable {α β : Type} [PartialOrd β] {value : α → β}

/-- The comparison of the values; without an answer it counts as equal. -/
def orEqual (value : α → β) (first second : α) : Ordering := (partialCmp (value first) (value second)).getD .eq

theorem orEqual_gt {first second : α} :
    orEqual value first second = .gt ↔ Below (value second) (value first) := by
  rw [Below, ← dual, orEqual]
  cases partialCmp (value first) (value second) <;> simp

private theorem foldl_least (rest : List α) (first : α) :
    let least := rest.foldl (fun least item => if orEqual value least item = .gt then item else least) first
    least ∈ first :: rest ∧ ∀ item ∈ first :: rest, ¬ Below (value item) (value least) := by
  have irreflexive (item : α) : ¬ Below (value item) (value item) := by
    intro below
    have above := (dual (value item) (value item)).mpr below
    cases above.symm.trans below
  induction rest using List.reverseRecOn with
  | nil => simpa using irreflexive first
  | append_singleton rest last ih =>
    obtain ⟨member, least⟩ := ih
    rw [List.foldl_append, List.foldl_cons, List.foldl_nil]
    generalize rest.foldl (fun least item => if orEqual value least item = .gt then item else least) first = found at *
    by_cases below : orEqual value found last = .gt
    · rw [if_pos below]
      refine ⟨by simp, ?_⟩
      intro item inside
      obtain before | rfl := (List.mem_append.mp inside : item ∈ first :: rest ∨ item ∈ [last]).imp_right List.mem_singleton.mp
      · intro less
        exact least item before (trans less (orEqual_gt.mp below))
      · exact irreflexive item
    · rw [if_neg below]
      refine ⟨List.mem_append_left [last] member, ?_⟩
      intro item inside
      obtain before | rfl := (List.mem_append.mp inside : item ∈ first :: rest ∨ item ∈ [last]).imp_right List.mem_singleton.mp
      · exact least item before
      · exact fun less => below (orEqual_gt.mpr less)

/-- Nothing in the list has a value that compares less than that of the least. -/
theorem minBy_least {items : List α} {least : α} (found : minBy (orEqual value) items = some least) :
    least ∈ items ∧ ∀ item ∈ items, ¬ Below (value item) (value least) := by
  cases items with
  | nil => cases found
  | cons first rest =>
    cases found
    exact foldl_least rest first

theorem minBy_isSome (compare : α → α → Ordering) (items : List α) : (minBy compare items).isSome = true ↔ items ≠ [] := by
  cases items <;> simp [minBy]

end Least

section Floats

open Float64

/-- Nothing compares with what is not a number. -/
def floatCmp : F64 → F64 → Option Ordering
  | .nan, _ | _, .nan => none
  | .infinite negative, .infinite negative' => some (if negative = negative' then .eq else if negative then .lt else .gt)
  | .infinite negative, .finite _ => some (if negative then .lt else .gt)
  | .finite _, .infinite negative => some (if negative then .gt else .lt)
  | .finite value, .finite value' => some (compare value value')

instance : PartialOrd F64 where
  partialCmp := floatCmp
  dual := by
    intro first second
    cases first <;> cases second <;> grind [floatCmp, compare_gt_iff_gt, compare_lt_iff_lt]
  trans := by
    intro first second third
    cases first <;> cases second <;> cases third <;> grind [floatCmp, compare_lt_iff_lt]

end Floats

end AiGateway.Lib.Comparisons
