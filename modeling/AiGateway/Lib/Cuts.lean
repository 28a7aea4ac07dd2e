import Mathlib.Data.List.Basic

/-! One text cut into fields in two ways. Joining fields without separators forgets
where the cuts were; `Recut` says how far one cut can drift from the other. -/

namespace AiGateway.Lib.Cuts

/-- Reading from the front, one of the two next fields begins with the other. What it
has in excess is where the other side's following fields must begin. -/
inductive Recut {α : Type} : List (List α) → List (List α) → Prop where
  | nil : Recut [] []
  | emptyLeft {left : List (List α)} : Recut left [] → Recut ([] :: left) []
  | emptyRight {right : List (List α)} : Recut [] right → Recut [] ([] :: right)
  | longerRight {field excess : List α} {left right : List (List α)} :
      Recut left (excess :: right) → Recut (field :: left) ((field ++ excess) :: right)
  | longerLeft {field excess : List α} {left right : List (List α)} :
      Recut (excess :: left) right → Recut ((field ++ excess) :: left) (field :: right)

theorem Recut.flatten_eq {α : Type} {left right : List (List α)} (cut : Recut left right) :
    left.flatten = right.flatten := by
  induction cut with
  | nil => rfl
  | emptyLeft _ ih => simpa using ih
  | emptyRight _ ih => simpa using ih
  | longerRight _ ih => simpa using ih
  | longerLeft _ ih => simpa using ih

theorem recut_of_flatten_eq {α : Type} (left right : List (List α)) (same : left.flatten = right.flatten) :
    Recut left right := by
  match left, right with
  | [], [] => exact .nil
  | [], field :: right =>
    obtain ⟨rfl, rest⟩ : field = [] ∧ right.flatten = [] := by simpa using same.symm
    exact .emptyRight (recut_of_flatten_eq [] right rest.symm)
  | field :: left, [] =>
    obtain ⟨rfl, rest⟩ : field = [] ∧ left.flatten = [] := by simpa using same
    exact .emptyLeft (recut_of_flatten_eq left [] rest)
  | field :: left, other :: right =>
    rw [List.flatten_cons, List.flatten_cons, List.append_eq_append_iff] at same
    obtain ⟨excess, rfl, rest⟩ | ⟨excess, rfl, rest⟩ := same
    · exact .longerRight (recut_of_flatten_eq left (excess :: right) (by simpa using rest))
    · exact .longerLeft (recut_of_flatten_eq (excess :: left) right (by simpa using rest.symm))
termination_by left.length + right.length

/-- Two lists of fields join to one text exactly when one is a recut of the other. -/
theorem recut_iff {α : Type} (left right : List (List α)) :
    Recut left right ↔ left.flatten = right.flatten :=
  ⟨Recut.flatten_eq, recut_of_flatten_eq left right⟩

end AiGateway.Lib.Cuts
