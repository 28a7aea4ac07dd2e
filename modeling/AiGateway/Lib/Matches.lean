import Mathlib.Data.List.Basic

/-! Patterns searched in a text from left to right: the pieces that a search cuts it into, and
the text with every match replaced. A pattern is given by what it matches at the front. -/

namespace AiGateway.Lib.Matches
variable {α β γ : Type}

/-- A pattern that matches some of the front of a text, and what it captures there. -/
structure Pattern (α β : Type) where
  front : List α → Option (Nat × β)
  bounded : ∀ {text width capture}, front text = some (width, capture) → 0 < width ∧ width ≤ text.length

inductive Piece (α β : Type) where
  | plain (element : α)
  | hit (text : List α) (capture : β)
  deriving DecidableEq, Repr

namespace Piece

def text : Piece α β → List α
  | .plain element => [element]
  | .hit text _ => text

def hit? : Piece α β → Option (List α × β)
  | .plain _ => none
  | .hit text capture => some (text, capture)

/-- What stands for a piece once the matches are replaced. -/
def replaced (replace : List α → β → List α) : Piece α β → List α
  | .plain element => [element]
  | .hit text capture => replace text capture

def map (f : α → γ) : Piece α β → Piece γ β
  | .plain element => .plain (f element)
  | .hit text capture => .hit (text.map f) capture

end Piece

namespace Pattern
variable (pattern : Pattern α β)

/-- The first elements, as many as the last match still covers, are passed over. -/
def scan : Nat → List α → List (Piece α β)
  | _, [] => []
  | covered + 1, _ :: rest => scan covered rest
  | 0, element :: rest =>
    match pattern.front (element :: rest) with
    | none => .plain element :: scan 0 rest
    | some (width, capture) => .hit ((element :: rest).take width) capture :: scan (width - 1) rest

/-- The matches, leftmost first and none within another, and what stands between them. -/
def pieces (text : List α) : List (Piece α β) := pattern.scan 0 text

def hits (text : List α) : List (List α × β) := (pattern.pieces text).filterMap Piece.hit?

def first (text : List α) : Option (List α × β) := (pattern.hits text).head?

def replaceAll (replace : List α → β → List α) (text : List α) : List α :=
  (pattern.pieces text).flatMap (Piece.replaced replace)

variable {pattern}

theorem scan_eq (covered : Nat) (text : List α) : pattern.scan covered text = pattern.pieces (text.drop covered) := by
  induction covered generalizing text with
  | zero => rfl
  | succ covered ih =>
    cases text with
    | nil => rfl
    | cons element rest => exact ih rest

theorem pieces_plain {element : α} {rest : List α} (missed : pattern.front (element :: rest) = none) :
    pattern.pieces (element :: rest) = .plain element :: pattern.pieces rest := by
  show pattern.scan 0 (element :: rest) = _
  unfold scan
  rw [missed]
  rfl

theorem pieces_hit {text : List α} {width : Nat} {capture : β} (matched : pattern.front text = some (width, capture)) :
    pattern.pieces text = .hit (text.take width) capture :: pattern.pieces (text.drop width) := by
  obtain ⟨positive, inside⟩ := pattern.bounded matched
  cases text with
  | nil => simp at inside; omega
  | cons element rest =>
    obtain ⟨less, rfl⟩ : ∃ less, width = less + 1 := ⟨width - 1, by omega⟩
    show pattern.scan 0 (element :: rest) = _
    unfold scan
    rw [matched]
    dsimp only
    rw [scan_eq]
    rfl

/-- The front of a text is a match, or an element that stands for itself. -/
theorem front_induction {motive : List α → Prop} (pattern : Pattern α β) (nil : motive [])
    (hit : ∀ text width capture, pattern.front text = some (width, capture) → motive (text.drop width) → motive text)
    (plain : ∀ element rest, pattern.front (element :: rest) = none → motive rest → motive (element :: rest))
    (text : List α) : motive text := by
  induction size : text.length using Nat.strongRecOn generalizing text with
  | ind size ih =>
    cases text with
    | nil => exact nil
    | cons element rest =>
      cases found : pattern.front (element :: rest) with
      | none =>
        apply plain element rest found
        apply ih rest.length _ rest rfl
        rw [← size, List.length_cons]
        omega
      | some entry =>
        obtain ⟨width, capture⟩ := entry
        obtain ⟨positive, inside⟩ := pattern.bounded found
        apply hit (element :: rest) width capture found
        apply ih _ _ _ rfl
        rw [List.length_drop, ← size]
        omega

theorem flatMap_pieces (text : List α) : (pattern.pieces text).flatMap Piece.text = text := by
  induction text using front_induction pattern with
  | nil => rfl
  | hit text width capture matched ih =>
    rw [pieces_hit matched, List.flatMap_cons, ih]
    exact List.take_append_drop width text
  | plain element rest missed ih =>
    rw [pieces_plain missed, List.flatMap_cons, ih]
    rfl

theorem mem_hits {text matched : List α} {capture : β} :
    (matched, capture) ∈ pattern.hits text ↔ .hit matched capture ∈ pattern.pieces text := by
  unfold hits
  rw [List.mem_filterMap]
  constructor
  · intro found
    obtain ⟨piece, member, same⟩ := found
    cases piece <;> cases same
    exact member
  · intro member
    exact ⟨_, member, rfl⟩

theorem mem_of_mem_piece {text : List α} {piece : Piece α β} (member : piece ∈ pattern.pieces text) {element : α}
    (inside : element ∈ piece.text) : element ∈ text := by
  rw [← flatMap_pieces text]
  exact List.mem_flatMap.mpr ⟨piece, member, inside⟩

theorem hit_ne_nil {text matched : List α} {capture : β} (member : .hit matched capture ∈ pattern.pieces text) :
    matched ≠ [] := by
  induction text using front_induction pattern with
  | nil => cases member
  | hit text width other here ih =>
    rw [pieces_hit here] at member
    obtain same | later := List.mem_cons.mp member
    · obtain ⟨positive, inside⟩ := pattern.bounded here
      injection same with taken
      intro empty
      have size := congrArg List.length (taken.symm.trans empty)
      rw [List.length_take_of_le inside] at size
      simp at size
      omega
    · exact ih later
  | plain element rest missed ih =>
    rw [pieces_plain missed] at member
    obtain same | later := List.mem_cons.mp member
    · cases same
    · exact ih later

theorem first_plain {element : α} {rest : List α} (missed : pattern.front (element :: rest) = none) :
    pattern.first (element :: rest) = pattern.first rest := by
  unfold first hits
  rw [pieces_plain missed]
  rfl

theorem first_hit {text : List α} {width : Nat} {capture : β} (matched : pattern.front text = some (width, capture)) :
    pattern.first text = some (text.take width, capture) := by
  unfold first hits
  rw [pieces_hit matched]
  rfl

/-- The first match is found at the leftmost place where there is one. -/
theorem first_eq_some_iff {text matched : List α} {capture : β} :
    pattern.first text = some (matched, capture) ↔ ∃ before after, text = before ++ (matched ++ after) ∧
      pattern.front (matched ++ after) = some (matched.length, capture) ∧
      ∀ earlier later, before = earlier ++ later → later ≠ [] → pattern.front (later ++ (matched ++ after)) = none := by
  constructor
  · intro found
    induction text using front_induction pattern with
    | nil => cases found
    | hit text width other here _ =>
      rw [first_hit here] at found
      cases found
      have inside := (pattern.bounded here).2
      refine ⟨[], text.drop width, (List.take_append_drop width text).symm, ?_, ?_⟩
      · rw [List.take_append_drop, List.length_take_of_le inside]
        exact here
      · intro earlier later empty nonempty
        exact absurd (List.append_eq_nil_iff.mp empty.symm).2 nonempty
    | plain element rest missed ih =>
      rw [first_plain missed] at found
      obtain ⟨before, after, rfl, here, leftmost⟩ := ih found
      refine ⟨element :: before, after, rfl, here, ?_⟩
      intro earlier later cut nonempty
      cases earlier with
      | nil =>
        rw [← show element :: before = later from cut]
        exact missed
      | cons first earlier => exact leftmost earlier later (List.cons.inj cut).2 nonempty
  · intro place
    obtain ⟨before, after, rfl, here, leftmost⟩ := place
    induction before with
    | nil =>
      rw [List.nil_append, first_hit here, List.take_left]
    | cons element before ih =>
      have missed : pattern.front (element :: (before ++ (matched ++ after))) = none :=
        leftmost [] (element :: before) rfl (List.cons_ne_nil _ _)
      rw [List.cons_append, first_plain missed]
      apply ih
      intro earlier later cut nonempty
      exact leftmost (element :: earlier) later (congrArg (element :: ·) cut) nonempty

/-- A replacement that leaves every match as it is leaves the text as it is. -/
theorem replaceAll_eq_self {replace : List α → β → List α} {text : List α}
    (same : ∀ matched capture, (matched, capture) ∈ pattern.hits text → replace matched capture = matched) :
    pattern.replaceAll replace text = text := by
  have pieces : (pattern.pieces text).flatMap (Piece.replaced replace) = (pattern.pieces text).flatMap Piece.text := by
    apply List.flatMap_congr
    intro piece member
    cases piece with
    | plain element => rfl
    | hit matched capture => exact same matched capture (mem_hits.mpr member)
  exact pieces.trans (flatMap_pieces text)

/-- An element that no match reads over cuts the search in two. -/
def Stops (pattern : Pattern α β) (stop : α) : Prop := ∀ before after, pattern.front (before ++ stop :: after) = pattern.front before

theorem front_stop {stop : α} (stops : pattern.Stops stop) (after : List α) : pattern.front (stop :: after) = none := by
  have empty : pattern.front [] = none := by
    cases found : pattern.front [] with
    | none => rfl
    | some entry =>
      obtain ⟨width, capture⟩ := entry
      have bounds := pattern.bounded found
      simp at bounds
      omega
  exact (stops [] after).trans empty

theorem pieces_stop {stop : α} (stops : pattern.Stops stop) (before after : List α) :
    pattern.pieces (before ++ stop :: after) = pattern.pieces before ++ .plain stop :: pattern.pieces after := by
  induction before using front_induction pattern with
  | nil => exact pieces_plain (front_stop stops after)
  | hit text width capture matched ih =>
    have inside := (pattern.bounded matched).2
    rw [pieces_hit ((stops text after).trans matched), pieces_hit matched, List.take_append_of_le_length inside,
      List.drop_append_of_le_length inside, ih]
    rfl
  | plain element rest missed ih =>
    have passed : pattern.front (element :: (rest ++ stop :: after)) = none := (stops (element :: rest) after).trans missed
    rw [List.cons_append, pieces_plain passed, pieces_plain missed, ih]
    rfl

/-- The pattern, on elements that carry more than it reads. -/
def comap (f : γ → α) (pattern : Pattern α β) : Pattern γ β where
  front text := pattern.front (text.map f)
  bounded matched := by simpa using pattern.bounded matched

theorem pieces_map (f : γ → α) (text : List γ) :
    pattern.pieces (text.map f) = ((pattern.comap f).pieces text).map (Piece.map f) := by
  induction text using front_induction (pattern.comap f) with
  | nil => rfl
  | hit text width capture matched ih =>
    have read : pattern.front (text.map f) = some (width, capture) := matched
    rw [pieces_hit matched, pieces_hit read, List.map_cons, ← ih, ← List.map_take, ← List.map_drop]
    rfl
  | plain element rest missed ih =>
    have unread : pattern.front (f element :: rest.map f) = none := missed
    rw [pieces_plain missed, List.map_cons, pieces_plain unread, List.map_cons, ih]
    rfl

end Pattern

end AiGateway.Lib.Matches
