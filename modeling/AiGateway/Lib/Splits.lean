import Mathlib.Data.List.Basic
import Mathlib.Data.List.TakeWhile

/-! Texts cut at a separator: at its first occurrences, at a pattern's last one, and in
every possible place. -/

namespace AiGateway.Lib.Splits

def splitOnce (separator : Char) (text : List Char) : Option (List Char × List Char) :=
  match text.dropWhile (· != separator) with
  | _ :: rest => some (text.takeWhile (· != separator), rest)
  | [] => none

theorem splitOnce_eq_some {separator : Char} {before after : List Char} (absent : separator ∉ before) :
    splitOnce separator (before ++ separator :: after) = some (before, after) := by
  have keeps : ∀ c ∈ before, (c != separator) = true := by
    intro c member
    simpa using fun same : c = separator => absent (same ▸ member)
  simp [splitOnce, List.takeWhile_append_of_pos keeps, List.dropWhile_append_of_pos keeps]

theorem splitOnce_eq_none {separator : Char} {text : List Char} (absent : separator ∉ text) :
    splitOnce separator text = none := by
  have nothing : text.dropWhile (· != separator) = [] := by
    rw [List.dropWhile_eq_nil_iff]
    intro c member
    simpa using fun same : c = separator => absent (same ▸ member)
  simp [splitOnce, nothing]

theorem splitOnce_cases (separator : Char) (text : List Char) :
    (separator ∉ text ∧ splitOnce separator text = none) ∨
      ∃ before after, text = before ++ separator :: after ∧ separator ∉ before ∧
        splitOnce separator text = some (before, after) := by
  by_cases present : separator ∈ text
  · obtain ⟨before, after, rfl, absent⟩ := List.eq_append_cons_of_mem present
    exact .inr ⟨before, after, rfl, absent, splitOnce_eq_some absent⟩
  · exact .inl ⟨present, splitOnce_eq_none present⟩

/-- Two texts cut at their first separator are equal piece by piece. -/
theorem cut_first {separator : Char} {before after first second : List Char} (absent : separator ∉ before)
    (missing : separator ∉ first) (same : before ++ separator :: after = first ++ separator :: second) :
    before = first ∧ after = second := by
  have split := congrArg (splitOnce separator) same
  rw [splitOnce_eq_some absent, splitOnce_eq_some missing] at split
  simpa using split

/-- Two texts cut at their last separator are equal piece by piece. -/
theorem cut_last {separator : Char} {before after first second : List Char} (absent : separator ∉ after)
    (missing : separator ∉ second) (same : before ++ separator :: after = first ++ separator :: second) :
    before = first ∧ after = second := by
  have mirrored : after.reverse ++ separator :: before.reverse = second.reverse ++ separator :: first.reverse := by
    simpa using congrArg List.reverse same
  obtain ⟨ending, front⟩ := cut_first (by simpa using absent) (by simpa using missing) mirrored
  exact ⟨List.reverse_injective front, List.reverse_injective ending⟩

/-- At most the given number of pieces; the last one may contain the separator. -/
def splitn (separator : Char) : Nat → List Char → List (List Char)
  | 0, _ => []
  | 1, text => [text]
  | pieces + 2, text =>
    match splitOnce separator text with
    | none => [text]
    | some (before, after) => before :: splitn separator (pieces + 1) after

theorem splitn_cases (separator : Char) (pieces : Nat) (text : List Char) :
    (separator ∉ text ∧ splitn separator (pieces + 2) text = [text]) ∨
      ∃ before after, text = before ++ separator :: after ∧ separator ∉ before ∧
        splitn separator (pieces + 2) text = before :: splitn separator (pieces + 1) after := by
  rw [splitn]
  obtain ⟨absent, none⟩ | ⟨before, after, split, absent, found⟩ := splitOnce_cases separator text
  · rw [none]
    exact .inl ⟨absent, rfl⟩
  · rw [found]
    exact .inr ⟨before, after, split, absent, rfl⟩

/-- What stands before and after the last occurrence of the pattern. -/
def rsplitOnce (pattern : List Char) : List Char → Option (List Char × List Char)
  | [] => if pattern.isEmpty then some ([], []) else none
  | c :: rest =>
    match rsplitOnce pattern rest with
    | some (before, after) => some (c :: before, after)
    | none => ((c :: rest).dropPrefix? pattern).map fun after => ([], after)

theorem rsplitOnce_eq {pattern text before after : List Char} (found : rsplitOnce pattern text = some (before, after)) :
    text = before ++ pattern ++ after := by
  induction text generalizing before with
  | nil =>
    rw [rsplitOnce] at found
    split at found
    next empty =>
      cases found
      simp [List.isEmpty_iff.mp empty]
    next => cases found
  | cons c rest ih =>
    rw [rsplitOnce] at found
    split at found
    next first _ later =>
      cases found
      rw [ih later]
      rfl
    next =>
      obtain ⟨_, dropped, same⟩ := Option.map_eq_some_iff.mp found
      cases same
      obtain ⟨front, split, equal⟩ := List.dropPrefix?_eq_some_iff.mp dropped
      rw [split, eq_of_beq equal]
      rfl

/-- More in front does not matter once the pattern is found. -/
theorem rsplitOnce_append_left {pattern text before after : List Char}
    (found : rsplitOnce pattern text = some (before, after)) (front : List Char) :
    rsplitOnce pattern (front ++ text) = some (front ++ before, after) := by
  induction front with
  | nil => exact found
  | cons c front ih => rw [List.cons_append, rsplitOnce, ih, List.cons_append]

/-- What stands before the last occurrence does not matter to where it is. -/
theorem rsplitOnce_swap {pattern before after : List Char} (nonempty : pattern ≠ [])
    (found : rsplitOnce pattern (before ++ pattern ++ after) = some (before, after)) (other : List Char) :
    rsplitOnce pattern (other ++ pattern ++ after) = some (other, after) := by
  have present : ∃ cut, rsplitOnce pattern (pattern ++ after) = some cut := by
    obtain ⟨c, rest, rfl⟩ := List.exists_cons_of_ne_nil nonempty
    rw [List.cons_append, rsplitOnce]
    cases later : rsplitOnce (c :: rest) (rest ++ after) with
    | some cut => exact ⟨_, rfl⟩
    | none =>
      rw [← List.cons_append, List.dropPrefix?_append_of_beq _ (beq_self_eq_true (c :: rest))]
      exact ⟨_, rfl⟩
  obtain ⟨⟨first, last⟩, alone⟩ := present
  rw [List.append_assoc, rsplitOnce_append_left alone before] at found
  obtain ⟨same, rfl⟩ := Prod.mk.inj (Option.some.inj found)
  obtain rfl : first = [] := by simpa using same
  rw [List.append_assoc, rsplitOnce_append_left alone other, List.append_nil]

/-- More behind does not matter if the pattern does not reach into it. -/
theorem rsplitOnce_append_right {pattern text tail : List Char} (nonempty : pattern ≠ [])
    (absent : rsplitOnce pattern tail = none)
    (inside : ∀ rest, rest <:+ text → pattern <+: rest ++ tail → pattern <+: rest) :
    rsplitOnce pattern (text ++ tail) = (rsplitOnce pattern text).map fun cut => (cut.1, cut.2 ++ tail) := by
  induction text with
  | nil => simp [rsplitOnce, absent, nonempty]
  | cons c text ih =>
    have later := ih fun rest ending => inside rest (ending.trans (List.suffix_cons c text))
    rw [List.cons_append, rsplitOnce, rsplitOnce, later]
    cases found : rsplitOnce pattern text with
    | some cut => rfl
    | none =>
      rw [Option.map_none]
      by_cases starts : pattern <+: c :: text
      · obtain ⟨after, split⟩ := starts
        have longer : c :: (text ++ tail) = pattern ++ (after ++ tail) := by
          rw [← List.cons_append, ← split, List.append_assoc]
        rw [longer, ← split, List.dropPrefix?_append_of_beq _ (beq_self_eq_true pattern),
          List.dropPrefix?_append_of_beq _ (beq_self_eq_true pattern)]
        rfl
      · have missing {text : List Char} (fails : ¬ pattern <+: text) : text.dropPrefix? pattern = none := by
          rw [Option.eq_none_iff_forall_not_mem]
          intro after found
          obtain ⟨front, split, same⟩ := List.dropPrefix?_eq_some_iff.mp found
          exact fails ⟨after, by rw [split, eq_of_beq same]⟩
        have beyond : ¬ pattern <+: c :: (text ++ tail) := fun more => starts (inside _ List.suffix_rfl more)
        rw [missing starts, missing beyond]
        rfl

theorem dropSuffix?_eq {suffix text before : List Char} (found : text.dropSuffix? suffix = some before) :
    text = before ++ suffix := by
  obtain ⟨tail, split, equal⟩ := List.dropSuffix?_eq_some_iff.mp found
  rw [split, eq_of_beq equal]

/-- What stands before and after the separator, for each of its occurrences. -/
def cutsAt (separator : Char) : List Char → List (List Char × List Char)
  | [] => []
  | c :: rest =>
    let later := (cutsAt separator rest).map fun (before, after) => (c :: before, after)
    if c = separator then ([], rest) :: later else later

theorem eq_of_mem_cutsAt {separator : Char} {text before after : List Char}
    (cut : (before, after) ∈ cutsAt separator text) : text = before ++ separator :: after := by
  induction text generalizing before with
  | nil => cases cut
  | cons c rest ih =>
    have later (inside : (before, after) ∈ (cutsAt separator rest).map fun (before, after) => (c :: before, after)) :
        c :: rest = before ++ separator :: after := by
      obtain ⟨⟨first, _⟩, member, same⟩ := List.mem_map.mp inside
      cases same
      rw [ih member]
      rfl
    simp only [cutsAt] at cut
    split at cut
    next here =>
      obtain same | inside := List.mem_cons.mp cut
      · cases same
        rw [here]
        rfl
      · exact later inside
    next => exact later cut

/-- The cuts before a separator come first, and those after it last. -/
theorem cutsAt_append (separator : Char) (text rest : List Char) :
    cutsAt separator (text ++ separator :: rest) =
      (cutsAt separator text).map (fun cut => (cut.1, cut.2 ++ separator :: rest)) ++
        (text, rest) :: (cutsAt separator rest).map fun cut => (text ++ separator :: cut.1, cut.2) := by
  induction text with
  | nil => simp [cutsAt]
  | cons c text ih =>
    simp only [List.cons_append, cutsAt, ih]
    split
    · simp [Function.comp_def]
    · simp [Function.comp_def]

/-- An ending without the separator is an ending of what follows it. -/
theorem suffix_append_cons_iff {separator : Char} {ending before after : List Char} (absent : separator ∉ ending) :
    ending <:+ before ++ separator :: after ↔ ending <:+ after := by
  constructor
  · intro ⟨front, split⟩
    obtain ⟨more, _, rest⟩ | ⟨more, _, rest⟩ := List.append_eq_append_iff.mp split
    · exact absurd (by simp [rest]) absent
    · cases more with
      | nil =>
        rw [List.nil_append] at rest
        exact absurd (rest ▸ List.mem_cons_self) absent
      | cons c more => exact ⟨more, (List.cons.inj rest).2.symm⟩
  · intro ⟨front, split⟩
    exact ⟨before ++ separator :: front, by simp [split]⟩

end AiGateway.Lib.Splits
