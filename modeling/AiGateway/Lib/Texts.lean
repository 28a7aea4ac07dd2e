import Mathlib.Data.List.Induction
import Mathlib.Data.String.Basic

/-! Texts made of pieces, and what it takes to leave some pieces out. -/

namespace AiGateway.Lib.Texts

theorem join_eq_empty_iff (texts : List String) : String.join texts = "" ↔ ∀ text ∈ texts, text = "" := by
  induction texts with
  | nil => simp
  | cons text rest ih => simp [String.append_eq_empty_iff, ih]

theorem join_eq_last_iff (texts : List String) :
    String.join texts = texts.getLast?.getD "" ↔ ∀ text ∈ texts.dropLast, text = "" := by
  induction texts using List.reverseRecOn with
  | nil => simp
  | append_singleton texts last _ =>
    rw [String.join_append, String.join_cons, String.join_nil, String.append_empty, List.getLast?_concat,
      Option.getD_some, List.dropLast_concat, ← join_eq_empty_iff]
    constructor
    · intro same
      have lists := congrArg String.toList same
      rw [String.toList_append, List.append_left_eq_self] at lists
      exact String.toList_eq_nil_iff.mp lists
    · intro empty
      rw [empty, String.empty_append]

theorem join_filter {α : Type} (keeps : α → Bool) (text : α → String) (pieces : List α) :
    String.join (pieces.map fun piece => if keeps piece then text piece else "") =
      String.join ((pieces.filter keeps).map text) := by
  induction pieces with
  | nil => rfl
  | cons piece rest ih =>
    rw [List.map_cons, String.join_cons, ih]
    cases kept : keeps piece <;> simp [kept]

section Thinned
variable {α : Type} {whole kept : α → String} (thinned : ∀ piece, kept piece = whole piece ∨ kept piece = "")
include thinned

theorem length_join_kept_le (pieces : List α) :
    (String.join (pieces.map kept)).length ≤ (String.join (pieces.map whole)).length := by
  induction pieces with
  | nil => exact Nat.le_refl _
  | cons piece rest ih =>
    simp only [List.map_cons, String.join_cons, String.length_append]
    obtain same | dropped := thinned piece
    · rw [same]
      omega
    · rw [dropped, String.length_empty]
      omega

/-- Only empty pieces can be left out unnoticed. -/
theorem join_kept_iff (pieces : List α) :
    String.join (pieces.map whole) = String.join (pieces.map kept) ↔ ∀ piece ∈ pieces, whole piece = kept piece := by
  constructor
  · intro same
    induction pieces with
    | nil => nofun
    | cons piece rest ih =>
      simp only [List.map_cons, String.join_cons] at same
      have here : whole piece = kept piece := by
        obtain equal | dropped := thinned piece
        · exact equal.symm
        · have lengths := congrArg String.length same
          have shorter := length_join_kept_le thinned rest
          rw [dropped, String.empty_append, String.length_append] at lengths
          have none : (whole piece).length = 0 := by omega
          rw [dropped, String.length_eq_zero_iff.mp none]
      rw [here] at same
      have later : String.join (rest.map whole) = String.join (rest.map kept) := by
        have lists := congrArg String.toList same
        rw [String.toList_append, String.toList_append, List.append_right_inj] at lists
        exact String.toList_injective lists
      intro other member
      obtain rfl | member := List.mem_cons.mp member
      · exact here
      · exact ih later other member
  · intro same
    rw [List.map_congr_left same]

end Thinned

end AiGateway.Lib.Texts
