import AiGateway.Lib.Splits
import AiGateway.Lib.Utf8

/-! Bytes read as lines of text: joined bytes are read piece by piece where the pieces are
text, and a text is cut at its line feeds. -/

namespace AiGateway.Lib.Utf8

/-- `str::from_utf8`. -/
def fromUtf8 (bytes : List UInt8) : Option (List Char) := if valid bytes then some (chars bytes) else none

theorem chars_append {bytes : List UInt8} (accepted : valid bytes = true) (other : List UInt8) :
    chars (bytes ++ other) = chars bytes ++ chars other := by
  induction bytes using lossy.induct with
  | case1 => rw [chars.eq_def []]; rfl
  | case2 first rest width found ih =>
    obtain ⟨fits, local'⟩ := front_scalar found
    have joined := local' (rest.drop (width - 1) ++ other)
    rw [← List.append_assoc, List.take_append_drop] at joined
    rw [valid, found] at accepted
    rw [List.cons_append, chars, joined, chars, found]
    simp only [List.take_append_of_le_length fits, List.drop_append_of_le_length fits, ih accepted, List.cons_append]
  | case3 first rest width found ih =>
    rw [valid, found] at accepted
    cases accepted

theorem valid_append {bytes : List UInt8} (accepted : valid bytes = true) (other : List UInt8) :
    valid (bytes ++ other) = valid other := by
  induction bytes using lossy.induct with
  | case1 => rfl
  | case2 first rest width found ih =>
    obtain ⟨fits, local'⟩ := front_scalar found
    have joined := local' (rest.drop (width - 1) ++ other)
    rw [← List.append_assoc, List.take_append_drop] at joined
    rw [valid, found] at accepted
    rw [List.cons_append, valid, joined]
    simp only [List.drop_append_of_le_length fits, ih accepted]
  | case3 first rest width found ih =>
    rw [valid, found] at accepted
    cases accepted

theorem not_ascii_of_continuation {byte : UInt8} (continues : continuation byte = true) : ¬byte < 0x80 := by
  rw [continuation, Bool.and_eq_true, decide_eq_true_eq] at continues
  exact UInt8.not_lt.mpr continues.1

theorem not_ascii_of_secondByte {first byte : UInt8} (accepted : secondByte first byte = true) : ¬byte < 0x80 := by
  apply not_ascii_of_continuation
  unfold secondByte at accepted
  split_ifs at accepted
  all_goals simp only [continuation, Bool.and_eq_true, decide_eq_true_eq, UInt8.le_iff_toNat_le, UInt8.reduceToNat] at accepted ⊢
  all_goals omega

/-- The bytes after the first of a scalar value are none of ASCII. -/
theorem front_scalar_high {first : UInt8} {rest : List UInt8} {width : Nat} (found : front first rest = .scalar width) :
    ∀ byte ∈ rest.take (width - 1), ¬byte < 0x80 := by
  unfold front at found
  split at found
  next => cases found; simp
  next second rest announced =>
    split at found <;> cases found
    next continues => simpa using UInt8.not_lt.mp (not_ascii_of_continuation continues)
  next second rest announced =>
    split at found
    next accepted =>
      split at found
      next third rest =>
        split at found <;> cases found
        next continues =>
          simpa using ⟨UInt8.not_lt.mp (not_ascii_of_secondByte accepted), UInt8.not_lt.mp (not_ascii_of_continuation continues)⟩
      next => cases found
    next => cases found
  next second rest announced =>
    split at found
    next accepted =>
      split at found
      next third rest =>
        split at found
        next continues =>
          split at found
          next fourth rest =>
            split at found <;> cases found
            next last =>
              simpa using ⟨UInt8.not_lt.mp (not_ascii_of_secondByte accepted),
                UInt8.not_lt.mp (not_ascii_of_continuation continues), UInt8.not_lt.mp (not_ascii_of_continuation last)⟩
          next => cases found
        next => cases found
      next => cases found
    next => cases found
  next => cases found

/-- What a byte of ASCII follows is not completed by it. -/
theorem valid_append_ascii (bytes : List UInt8) {byte : UInt8} (ascii : byte < 0x80) (other : List UInt8) :
    valid (bytes ++ byte :: other) = (valid bytes && valid (byte :: other)) := by
  induction bytes using lossy.induct with
  | case1 => rw [List.nil_append, valid.eq_def [], Bool.true_and]
  | case2 first rest width found ih =>
    obtain ⟨fits, local'⟩ := front_scalar found
    have joined := local' (rest.drop (width - 1) ++ byte :: other)
    rw [← List.append_assoc, List.take_append_drop] at joined
    rw [List.cons_append, valid, joined, valid, found]
    simp only [List.drop_append_of_le_length fits, ih]
  | case3 first rest width found ih =>
    rw [valid, found, Bool.false_and, List.cons_append, valid]
    split
    next longer completed =>
      have high := front_scalar_high completed
      obtain ⟨_, local'⟩ := front_scalar completed
      rcases Nat.lt_or_ge rest.length (longer - 1) with beyond | fits
      · refine absurd ascii (high byte ?_)
        rw [List.take_append, List.mem_append]
        exact .inr (by rw [List.take_cons (by omega)]; exact List.mem_cons_self)
      · rw [List.take_append_of_le_length fits] at local'
        have same := local' (rest.drop (longer - 1))
        rw [List.take_append_drop, found] at same
        cases same
    next => rfl

theorem chars_flatten {pieces : List (List UInt8)} (accepted : ∀ piece ∈ pieces, valid piece = true) :
    chars pieces.flatten = (pieces.map chars).flatten := by
  induction pieces with
  | nil => rw [List.flatten_nil, chars]; rfl
  | cons piece rest ih =>
    rw [List.flatten_cons, chars_append (accepted piece (List.mem_cons_self ..)), List.map_cons, List.flatten_cons,
      ih fun other member => accepted other (List.mem_cons_of_mem _ member)]

end AiGateway.Lib.Utf8

namespace AiGateway.Lib.Lines

open Splits

def stripReturn (line : List Char) : List Char := if line.getLast? = some '\r' then line.dropLast else line

theorem splitOnce_shorter {separator : Char} {text before after : List Char}
    (split : splitOnce separator text = some (before, after)) : after.length < text.length := by
  obtain ⟨_, none⟩ | ⟨first, second, rfl, _, found⟩ := splitOnce_cases separator text
  · rw [none] at split
    cases split
  · rw [found] at split
    cases split
    simp only [List.length_append, List.length_cons]
    omega

/-- `str::lines`: a line ends in a line feed, before which one carriage return does not
count; what follows the last line feed is a line unless it is empty. -/
def lines (text : List Char) : List (List Char) :=
  match _cut : splitOnce '\n' text with
  | some (before, after) => stripReturn before :: lines after
  | none => if text.isEmpty then [] else [text]
termination_by text.length
decreasing_by exact splitOnce_shorter _cut

theorem lines_nil : lines [] = [] := by
  rw [lines]
  rfl

theorem lines_cons {line : List Char} (whole : '\n' ∉ line) (rest : List Char) :
    lines (line ++ '\n' :: rest) = stripReturn line :: lines rest := by
  rw [lines]
  split
  next before after cut =>
    rw [splitOnce_eq_some whole] at cut
    cases cut
    rfl
  next cut =>
    rw [splitOnce_eq_some whole] at cut
    cases cut

/-- A text is cut at any of its line feeds. -/
theorem lines_append (text rest : List Char) : lines (text ++ '\n' :: rest) = lines (text ++ ['\n']) ++ lines rest := by
  induction size : text.length using Nat.strong_induction_on generalizing text with
  | _ bound ih =>
    by_cases fed : '\n' ∈ text
    · obtain ⟨line, more, rfl, whole⟩ := List.eq_append_cons_of_mem fed
      have shorter : more.length < bound := by
        rw [← size, List.length_append, List.length_cons]
        omega
      rw [List.append_assoc, List.append_assoc, List.cons_append, List.cons_append, lines_cons whole, lines_cons whole,
        ih _ shorter more rfl, List.cons_append]
    · rw [lines_cons fed, lines_cons fed, lines_nil]
      rfl

end AiGateway.Lib.Lines
