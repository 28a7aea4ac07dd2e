import Mathlib.Data.List.Basic

/-! Words: the pieces of a text between its blanks, and texts made of words with one blank
between each two. -/

namespace AiGateway.Lib.Words
variable {α : Type} {blank : α → Bool}

/-- No piece of a split has an item that is split at. -/
theorem mem_splitOnP {text piece : List α} (member : piece ∈ text.splitOnP blank) : ∀ item ∈ piece, blank item = false := by
  induction text generalizing piece with
  | nil =>
    rw [List.splitOnP_nil, List.mem_singleton] at member
    simp [member]
  | cons first rest ih =>
    rw [List.splitOnP_cons_eq_if_modifyHead] at member
    cases separates : blank first with
    | true =>
      rw [separates, if_pos rfl] at member
      rcases List.mem_cons.mp member with rfl | later
      · simp
      · exact ih later
    | false =>
      rw [separates, if_neg Bool.false_ne_true] at member
      cases pieces : rest.splitOnP blank with
      | nil => exact absurd pieces (List.splitOnP_ne_nil blank rest)
      | cons head tail =>
        rw [pieces, List.modifyHead_cons] at member
        rcases List.mem_cons.mp member with rfl | later
        · intro c inside
          rcases List.mem_cons.mp inside with rfl | inside
          · exact separates
          · exact ih (pieces ▸ List.mem_cons_self) c inside
        · exact ih (pieces ▸ List.mem_cons_of_mem _ later)

variable (blank)

def words (text : List α) : List (List α) := (text.splitOnP blank).filter fun word => !word.isEmpty

/-- A word has items, and none of them is blank. -/
def Word (word : List α) : Prop := word ≠ [] ∧ ∀ item ∈ word, blank item = false

variable {blank}

theorem word_of_mem {text word : List α} (member : word ∈ words blank text) : Word blank word := by
  obtain ⟨piece, nonempty⟩ := List.mem_filter.mp member
  exact ⟨by simpa using nonempty, mem_splitOnP piece⟩

/-- The words on the two sides of a blank. -/
theorem words_append_cons {separator : α} (separates : blank separator = true) (before after : List α) :
    words blank (before ++ separator :: after) = words blank before ++ words blank after := by
  rw [words, List.splitOnP_append_cons before after separates, List.filter_append]
  rfl

theorem words_word {word : List α} (whole : Word blank word) : words blank word = [word] := by
  rw [words, List.splitOnP_eq_singleton whole.2]
  simp [whole.1]

/-- The words of a text are all of it that is not blank, in its order. -/
theorem flatten_words (text : List α) : (words blank text).flatten = text.filter fun item => !blank item := by
  induction text with
  | nil => rfl
  | cons first rest ih =>
    cases separates : blank first with
    | true =>
      have cut := words_append_cons separates [] rest
      rw [List.nil_append] at cut
      rw [cut, List.flatten_append, ih, List.filter_cons_of_neg (by simp [separates])]
      rfl
    | false =>
      rw [List.filter_cons_of_pos (by simp [separates]), ← ih, words, words,
        List.splitOnP_cons_eq_if_modifyHead, separates, if_neg Bool.false_ne_true]
      cases pieces : rest.splitOnP blank with
      | nil => exact absurd pieces (List.splitOnP_ne_nil blank rest)
      | cons head tail => cases head <;> simp

/-- Words with a blank between each two are the words of their text. -/
theorem words_intercalate {separator : α} (separates : blank separator = true) {pieces : List (List α)}
    (whole : ∀ piece ∈ pieces, Word blank piece) : words blank ([separator].intercalate pieces) = pieces := by
  induction pieces with
  | nil => rfl
  | cons first rest ih =>
    have head := words_word (whole first List.mem_cons_self)
    cases rest with
    | nil => simpa using head
    | cons second others =>
      have later := ih fun piece member => whole piece (List.mem_cons_of_mem _ member)
      rw [List.intercalate_cons_cons, List.append_assoc, List.singleton_append, words_append_cons separates, head, later]
      rfl

/-- Before each blank of such a text a word ends. -/
theorem word_before_blank {separator item : α} {pieces : List (List α)} {before after : List α}
    (whole : ∀ piece ∈ pieces, Word blank piece) (joined : [separator].intercalate pieces = before ++ item :: after)
    (separates : blank item = true) : ∃ front last, before = front ++ [last] ∧ blank last = false := by
  have inside {word : List α} (isWord : Word blank word) (member : item ∈ word) : False := by
    have filled := isWord.2 item member
    rw [separates] at filled
    cases filled
  induction pieces generalizing before with
  | nil => simp at joined
  | cons first rest ih =>
    have head := whole first List.mem_cons_self
    have ending : ∃ front last, first = front ++ [last] ∧ blank last = false :=
      ⟨first.dropLast, first.getLast head.1, (List.dropLast_append_getLast head.1).symm,
        head.2 _ (List.getLast_mem head.1)⟩
    cases rest with
    | nil =>
      rw [List.intercalate_singleton] at joined
      exact absurd (joined ▸ List.mem_append_right before List.mem_cons_self) (inside head)
    | cons second others =>
      rw [List.intercalate_cons_cons, List.append_assoc, List.append_eq_append_iff] at joined
      obtain ⟨between, rfl, later⟩ | ⟨between, rfl, later⟩ := joined
      · cases between with
        | nil => rwa [List.append_nil]
        | cons mark between =>
          rw [List.singleton_append, List.cons_append] at later
          obtain ⟨front, last, rfl, filled⟩ :=
            ih (fun piece member => whole piece (List.mem_cons_of_mem _ member)) (List.cons.inj later).2
          exact ⟨first ++ mark :: front, last, by simp, filled⟩
      · cases between with
        | nil => rwa [List.append_nil] at ending
        | cons mark between =>
          cases (List.cons.inj later).1
          exact absurd (List.mem_append_right before List.mem_cons_self) (inside head)

end AiGateway.Lib.Words
