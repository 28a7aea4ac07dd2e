import AiGateway.Lib.Matches
import Mathlib.Data.List.TakeWhile

/-! Patterns that are read in one pass, because no part of them can begin with what the part
before it takes: single elements, runs that are passed over, and words that are captured. -/

namespace AiGateway.Lib.Sequences

open AiGateway.Lib.Matches
variable {α : Type} [DecidableEq α]

inductive Stretch (α : Type) where
  | exactly (element : α)
  | skip (among : α → Bool)
  | word (start more : α → Bool)

/-- An element that a part may take. -/
def Stretch.Takes : Stretch α → α → Prop
  | .exactly expected, element => element = expected
  | .skip among, element => among element = true
  | .word start more, element => start element = true ∨ more element = true

/-- The words of the parts at the front of a text, and what comes after them. -/
def read : List (Stretch α) → List α → Option (List (List α) × List α)
  | [], text => some ([], text)
  | .exactly expected :: parts, text =>
    match text with
    | [] => none
    | element :: rest => if element = expected then read parts rest else none
  | .skip among :: parts, text => read parts (text.dropWhile among)
  | .word start more :: parts, text =>
    match text with
    | [] => none
    | element :: rest =>
      if start element then
        (read parts (rest.dropWhile more)).map fun (words, rest') => ((element :: rest.takeWhile more) :: words, rest')
      else none

def Takes (parts : List (Stretch α)) (element : α) : Prop := ∃ part ∈ parts, part.Takes element

/-- The last part is a single element, so that what follows a match cannot lengthen it. -/
def Tight : List (Stretch α) → Prop
  | [] => True
  | .exactly _ :: parts => Tight parts
  | .skip _ :: parts | .word _ _ :: parts => parts ≠ [] ∧ Tight parts

variable {parts : List (Stretch α)}

omit [DecidableEq α] in
theorem Takes.cons {part : Stretch α} {element : α} (takes : Takes parts element) : Takes (part :: parts) element := by
  obtain ⟨other, member, taken⟩ := takes
  exact ⟨other, List.mem_cons_of_mem part member, taken⟩

omit [DecidableEq α] in
theorem Takes.head {part : Stretch α} {element : α} (taken : part.Takes element) : Takes (part :: parts) element :=
  ⟨part, List.mem_cons_self, taken⟩

/-- What is read is made of elements that the parts take. -/
theorem read_used {text : List α} {words : List (List α)} {rest : List α} (done : read parts text = some (words, rest)) :
    ∃ used, text = used ++ rest ∧ ∀ element ∈ used, Takes parts element := by
  induction parts generalizing text words with
  | nil =>
    cases done
    exact ⟨[], rfl, nofun⟩
  | cons part parts ih =>
    cases part with
    | exactly expected =>
      cases text with
      | nil => cases done
      | cons element text =>
        unfold read at done
        dsimp only at done
        split at done
        · next same =>
          obtain ⟨used, rfl, taken⟩ := ih done
          refine ⟨element :: used, rfl, ?_⟩
          intro other member
          obtain rfl | later := List.mem_cons.mp member
          · exact .head same
          · exact (taken other later).cons
        · cases done
    | skip among =>
      obtain ⟨used, same, taken⟩ := ih done
      refine ⟨text.takeWhile among ++ used, ?_, ?_⟩
      · rw [List.append_assoc, ← same, List.takeWhile_append_dropWhile]
      · intro other member
        obtain blank | later := List.mem_append.mp member
        · exact .head (List.mem_takeWhile_imp blank)
        · exact (taken other later).cons
    | word start more =>
      cases text with
      | nil => cases done
      | cons element text =>
        unfold read at done
        dsimp only at done
        split at done
        · next begins =>
          obtain ⟨⟨words, rest'⟩, inner, same⟩ := Option.map_eq_some_iff.mp done
          cases same
          obtain ⟨used, cut, taken⟩ := ih inner
          refine ⟨element :: (text.takeWhile more ++ used), ?_, ?_⟩
          · rw [List.cons_append, List.append_assoc, ← cut, List.takeWhile_append_dropWhile]
          · intro other member
            obtain rfl | later := List.mem_cons.mp member
            · exact .head (.inl begins)
            · obtain inside | later := List.mem_append.mp later
              · exact .head (.inr (List.mem_takeWhile_imp inside))
              · exact (taken other later).cons
        · cases done

theorem read_shorter {expected : α} {text : List α} {words : List (List α)} {rest : List α}
    (done : read (.exactly expected :: parts) text = some (words, rest)) : rest.length < text.length := by
  cases text with
  | nil => cases done
  | cons element text =>
    unfold read at done
    dsimp only at done
    split at done
    · obtain ⟨used, rfl, _⟩ := read_used done
      rw [List.length_cons, List.length_append]
      omega
    · cases done

omit [DecidableEq α] in
theorem dropWhile_stop {among : α → Bool} {stop : α} (other : ¬ among stop = true) (before after : List α) :
    (before ++ stop :: after).dropWhile among = before.dropWhile among ++ stop :: after := by
  induction before with
  | nil => simp [other]
  | cons element before ih =>
    rw [List.cons_append, List.dropWhile_cons, List.dropWhile_cons]
    split
    · exact ih
    · rfl

omit [DecidableEq α] in
theorem takeWhile_stop {among : α → Bool} {stop : α} (other : ¬ among stop = true) (before after : List α) :
    (before ++ stop :: after).takeWhile among = before.takeWhile among := by
  induction before with
  | nil => simp [other]
  | cons element before ih =>
    rw [List.cons_append, List.takeWhile_cons, List.takeWhile_cons, ih]

/-- An element that no part takes ends the reading like the end of the text. -/
theorem read_stop {stop : α} (untaken : ¬ Takes parts stop) (before after : List α) :
    read parts (before ++ stop :: after) =
      (read parts before).map fun (words, rest) => (words, rest ++ stop :: after) := by
  induction parts generalizing before with
  | nil => rfl
  | cons part parts ih =>
    have later : ¬ Takes parts stop := fun takes => untaken takes.cons
    have here : ¬ part.Takes stop := fun taken => untaken (.head taken)
    cases part with
    | exactly expected =>
      cases before with
      | nil => exact if_neg here
      | cons element before =>
        unfold read
        dsimp only [List.cons_append]
        split
        · exact ih later before
        · rfl
    | skip among =>
      show read parts _ = (read parts _).map _
      rw [dropWhile_stop here, ih later]
    | word start more =>
      cases before with
      | nil => exact if_neg fun begins => here (.inl begins)
      | cons element before =>
        unfold read
        dsimp only [List.cons_append]
        split
        · rw [dropWhile_stop (fun inside => here (.inr inside)), takeWhile_stop (fun inside => here (.inr inside)), ih later,
            Option.map_map, Option.map_map]
          rfl
        · rfl

theorem read_nil (nonempty : parts ≠ []) (tight : Tight parts) : read parts [] = none := by
  induction parts with
  | nil => exact absurd rfl nonempty
  | cons part parts ih =>
    cases part with
    | exactly expected => rfl
    | skip among => exact ih tight.1 tight.2
    | word start more => rfl

end AiGateway.Lib.Sequences
