import Mathlib.Data.List.Basic

/-! Texts sliced by bytes. A slice that ends inside a character is none. -/

namespace AiGateway.Lib.ByteSlices

/-- The length of a text in UTF-8. -/
def byteLength : List Char → Nat
  | [] => 0
  | c :: rest => c.utf8Size + byteLength rest

theorem byteLength_of_ascii {text : List Char} (ascii : ∀ c ∈ text, c.utf8Size = 1) : byteLength text = text.length := by
  induction text with
  | nil => rfl
  | cons c rest ih =>
    obtain ⟨one, others⟩ := List.forall_mem_cons.mp ascii
    rw [byteLength, one, ih others, List.length_cons, Nat.add_comm]

/-- The front of the text that takes so many bytes, if one does. -/
def takeBytes : List Char → Nat → Option (List Char)
  | _, 0 => some []
  | [], _ + 1 => none
  | c :: rest, size + 1 =>
    if c.utf8Size ≤ size + 1 then (takeBytes rest (size + 1 - c.utf8Size)).map (c :: ·) else none

theorem takeBytes_eq_some_iff {text front : List Char} {size : Nat} :
    takeBytes text size = some front ↔ ∃ back, text = front ++ back ∧ byteLength front = size := by
  induction text generalizing front size with
  | nil =>
    cases size with
    | zero =>
      rw [takeBytes]
      constructor
      · rintro ⟨⟩
        exact ⟨[], rfl, rfl⟩
      · rintro ⟨back, whole, _⟩
        rw [(List.append_eq_nil_iff.mp whole.symm).1]
    | succ size =>
      rw [takeBytes]
      refine iff_of_false (fun none => nomatch none) ?_
      rintro ⟨back, whole, long⟩
      rw [(List.append_eq_nil_iff.mp whole.symm).1] at long
      cases long
  | cons c rest ih =>
    have wide : 0 < c.utf8Size := Char.utf8Size_pos c
    cases size with
    | zero =>
      rw [takeBytes]
      constructor
      · rintro ⟨⟩
        exact ⟨c :: rest, rfl, rfl⟩
      · rintro ⟨back, whole, long⟩
        cases front with
        | nil => rfl
        | cons first front =>
          rw [byteLength, ← (List.cons.inj whole).1] at long
          omega
    | succ size =>
      rw [takeBytes]
      constructor
      · intro taken
        split at taken
        next fits =>
          obtain ⟨front, read, rfl⟩ := Option.map_eq_some_iff.mp taken
          obtain ⟨back, rfl, long⟩ := ih.mp read
          refine ⟨back, rfl, ?_⟩
          rw [byteLength, long]
          omega
        next => cases taken
      · rintro ⟨back, whole, long⟩
        cases front with
        | nil => cases long
        | cons first front =>
          obtain ⟨rfl, rfl⟩ := List.cons.inj whole
          rw [byteLength] at long
          rw [if_pos (by omega), ih.mpr ⟨back, rfl, by omega⟩]
          rfl

end AiGateway.Lib.ByteSlices
