import AiGateway.Lib.Splits

/-! Dates read and printed with the numeric patterns for years, months and days. A number may
have blanks before it and fewer digits than its pattern; a year may also have a sign, and then
takes every digit that follows. -/

namespace AiGateway.Lib.Strftime

open AiGateway.Lib.Splits

def value (digits : List Char) : Nat := Nat.ofDigitChars 10 digits 0

def number (width : Nat) (text : List Char) : Option (Nat × List Char) :=
  let digits := (text.take width).takeWhile Char.isDigit
  if digits.isEmpty then none else some (value digits, text.drop digits.length)

section Reading
variable (blank : Char → Bool)

def field (width : Nat) (text : List Char) : Option (Nat × List Char) := number width (text.dropWhile blank)

def year (text : List Char) : Option (Int × List Char) :=
  match text.dropWhile blank with
  | '-' :: digits => (number digits.length digits).map fun (count, rest) => (-(count : Int), rest)
  | '+' :: digits => (number digits.length digits).map fun (count, rest) => ((count : Int), rest)
  | digits => (number 4 digits).map fun (count, rest) => ((count : Int), rest)

/-- The whole text is a year, a month and a day. -/
def date (separator text : List Char) : Option (Int × Nat × Nat) := do
  let (year, text) ← year blank text
  let text ← text.dropPrefix? separator
  let (month, text) ← field blank 2 text
  let text ← text.dropPrefix? separator
  let (day, text) ← field blank 2 text
  if text.isEmpty then some (year, month, day) else none

/-- What is taken for a number, in full. -/
inductive Field (width : Nat) : List Char → Nat → Prop where
  | mk {blanks digits : List Char} (blanks_all : ∀ c ∈ blanks, blank c = true)
      (digits_all : ∀ c ∈ digits, c.isDigit = true) (nonempty : digits ≠ []) (fits : digits.length ≤ width) :
      Field width (blanks ++ digits) (value digits)

inductive Year : List Char → Int → Prop where
  | negative {blanks digits : List Char} (blanks_all : ∀ c ∈ blanks, blank c = true)
      (digits_all : ∀ c ∈ digits, c.isDigit = true) (nonempty : digits ≠ []) :
      Year (blanks ++ '-' :: digits) (-(value digits : Int))
  | positive {blanks digits : List Char} (blanks_all : ∀ c ∈ blanks, blank c = true)
      (digits_all : ∀ c ∈ digits, c.isDigit = true) (nonempty : digits ≠ []) :
      Year (blanks ++ '+' :: digits) (value digits)
  | unsigned {text : List Char} {count : Nat} (whole : Field blank 4 text count) : Year text count

/-- The characters of a date. -/
def Written (c : Char) : Prop := blank c = true ∨ c.isDigit = true ∨ c = '-' ∨ c = '+'

/-- Blanks are neither digits nor signs. -/
def Visible : Prop := ∀ c, blank c = true → c.isDigit = false ∧ c ≠ '-' ∧ c ≠ '+'

end Reading

/-- No number goes on here. -/
def Stops (rest : List Char) : Prop := ∀ c ∈ rest.head?, c.isDigit = false

theorem stops_nil : Stops [] := nofun

theorem stops_dash (rest : List Char) : Stops ('-' :: rest) := by
  intro c first
  cases first
  rfl

theorem number_append {width : Nat} {digits rest : List Char} (all : ∀ c ∈ digits, c.isDigit = true)
    (nonempty : digits ≠ []) (fits : digits.length ≤ width) (ends : digits.length = width ∨ Stops rest) :
    number width (digits ++ rest) = some (value digits, rest) := by
  have taken : ((digits ++ rest).take width).takeWhile Char.isDigit = digits := by
    rw [List.take_append, List.take_of_length_le fits, List.takeWhile_append_of_pos all]
    obtain full | stops := ends
    · simp [full]
    · cases rest with
      | nil => simp
      | cons c rest =>
        have other : c.isDigit = false := stops c rfl
        cases remaining : width - digits.length <;> simp [other]
  simp [number, taken, nonempty]

theorem number_inv {width count : Nat} {text rest : List Char} (read : number width text = some (count, rest)) :
    ∃ digits, text = digits ++ rest ∧ (∀ c ∈ digits, c.isDigit = true) ∧ digits ≠ [] ∧ digits.length ≤ width ∧
      count = value digits ∧ (digits.length = width ∨ Stops rest) := by
  simp only [number] at read
  split at read
  next => cases read
  next nonempty =>
    cases read
    have fits : ((text.take width).takeWhile Char.isDigit).length ≤ width :=
      Nat.le_trans (List.takeWhile_sublist _).length_le (List.length_take_le _ _)
    have whole : (text.take width).takeWhile Char.isDigit ++
        ((text.take width).dropWhile Char.isDigit ++ text.drop width) = text := by
      rw [← List.append_assoc, List.takeWhile_append_dropWhile, List.take_append_drop]
    have remaining : text.drop ((text.take width).takeWhile Char.isDigit).length =
        (text.take width).dropWhile Char.isDigit ++ text.drop width := by
      nth_rewrite 2 [← whole]
      exact List.drop_left
    refine ⟨_, by rw [remaining, whole], fun c member => List.mem_takeWhile_imp member, by simpa using nonempty, fits,
      rfl, ?_⟩
    by_cases full : ((text.take width).takeWhile Char.isDigit).length = width
    · exact .inl full
    · refine .inr fun c first => ?_
      rw [remaining] at first
      have stopped := List.head?_dropWhile_not Char.isDigit (text.take width)
      cases after : (text.take width).dropWhile Char.isDigit with
      | cons next rest =>
        rw [after] at first stopped
        cases first
        simpa using stopped
      | nil =>
        -- The digits are all of the text, as they are fewer than there is room for.
        have all := List.takeWhile_append_dropWhile (p := Char.isDigit) (l := text.take width)
        rw [after, List.append_nil] at all
        rw [all, List.length_take] at full fits
        rw [after, List.nil_append, List.drop_of_length_le (by omega)] at first
        cases first

section Shapes
variable {blank : Char → Bool}

theorem dropWhile_blanks {blanks : List Char} (all : ∀ c ∈ blanks, blank c = true) {first : Char}
    (seen : blank first = false) (rest : List Char) : (blanks ++ first :: rest).dropWhile blank = first :: rest := by
  rw [List.dropWhile_append_of_pos all, List.dropWhile_cons_of_neg (by simp [seen])]

theorem number_map_inv (sign : Nat → Int) {width : Nat} {text rest : List Char} {count : Int}
    (read : ((number width text).map fun found => (sign found.1, found.2)) = some (count, rest)) :
    ∃ digits, text = digits ++ rest ∧ (∀ c ∈ digits, c.isDigit = true) ∧ digits ≠ [] ∧ digits.length ≤ width ∧
      count = sign (value digits) ∧ (digits.length = width ∨ Stops rest) := by
  obtain ⟨⟨found, _⟩, inner, same⟩ := Option.map_eq_some_iff.mp read
  cases same
  obtain ⟨digits, split, all, nonempty, fits, rfl, ends⟩ := number_inv inner
  exact ⟨digits, split, all, nonempty, fits, rfl, ends⟩

/-- A number after all the digits there are does not stop before a digit. -/
theorem stops_of_whole {digits rest : List Char} (ends : digits.length = (digits ++ rest).length ∨ Stops rest) :
    Stops rest := by
  obtain full | stops := ends
  · have empty : rest = [] := by simpa using full
    rw [empty]
    exact stops_nil
  · exact stops

theorem field_inv {width count : Nat} {text rest : List Char} (read : field blank width text = some (count, rest)) :
    ∃ whole, text = whole ++ rest ∧ Field blank width whole count := by
  obtain ⟨digits, split, all, nonempty, fits, rfl, _⟩ := number_inv read
  have blanks : ∀ c ∈ text.takeWhile blank, blank c = true := fun c member => List.mem_takeWhile_imp member
  refine ⟨text.takeWhile blank ++ digits, ?_, .mk blanks all nonempty fits⟩
  rw [List.append_assoc, ← split, List.takeWhile_append_dropWhile]

theorem Field.char {width count : Nat} {text : List Char} (whole : Field blank width text count) :
    ∀ c ∈ text, blank c = true ∨ c.isDigit = true := by
  obtain ⟨blanks_all, digits_all, _, _⟩ := whole
  intro c member
  obtain seen | digit := List.mem_append.mp member
  · exact .inl (blanks_all c seen)
  · exact .inr (digits_all c digit)

theorem Field.written {width count : Nat} {text : List Char} (whole : Field blank width text count) :
    ∀ c ∈ text, Written blank c := fun c member => (whole.char c member).imp_right .inl

theorem Year.written {count : Int} {text : List Char} (whole : Year blank text count) :
    ∀ c ∈ text, Written blank c := by
  have signed {blanks digits : List Char} {sign : Char} (blanks_all : ∀ c ∈ blanks, blank c = true)
      (digits_all : ∀ c ∈ digits, c.isDigit = true) (isSign : sign = '-' ∨ sign = '+') :
      ∀ c ∈ blanks ++ sign :: digits, Written blank c := by
    intro c member
    simp only [List.mem_append, List.mem_cons] at member
    obtain seen | rfl | digit := member
    · exact .inl (blanks_all c seen)
    · exact .inr (.inr isSign)
    · exact .inr (.inl (digits_all c digit))
  cases whole with
  | negative blanks_all digits_all _ => exact signed blanks_all digits_all (.inl rfl)
  | positive blanks_all digits_all _ => exact signed blanks_all digits_all (.inr rfl)
  | unsigned whole => exact whole.written

variable (visible : Visible blank)
include visible

theorem digit_visible {c : Char} (digit : c.isDigit = true) : blank c = false := by
  cases seen : blank c with
  | false => rfl
  | true => simp [(visible c seen).1] at digit

theorem sign_visible {c : Char} (sign : c = '-' ∨ c = '+') : blank c = false := by
  cases seen : blank c with
  | false => rfl
  | true => exact absurd sign (by simp [(visible c seen).2])

theorem field_digits {width : Nat} {blanks digits rest : List Char} (blanks_all : ∀ c ∈ blanks, blank c = true)
    (digits_all : ∀ c ∈ digits, c.isDigit = true) (nonempty : digits ≠ []) (fits : digits.length ≤ width)
    (ends : digits.length = width ∨ Stops rest) :
    field blank width (blanks ++ digits ++ rest) = some (value digits, rest) := by
  have read := number_append digits_all nonempty fits ends
  obtain ⟨first, others, rfl⟩ := List.exists_cons_of_ne_nil nonempty
  have seen := digit_visible visible (digits_all first (by simp))
  rw [field, List.append_assoc, List.cons_append, dropWhile_blanks blanks_all seen]
  exact read

theorem Field.read {width count : Nat} {text rest : List Char} (whole : Field blank width text count)
    (stops : Stops rest) : field blank width (text ++ rest) = some (count, rest) := by
  obtain ⟨blanks_all, digits_all, nonempty, fits⟩ := whole
  exact field_digits visible blanks_all digits_all nonempty fits (.inr stops)

theorem year_digits {blanks digits rest : List Char} (blanks_all : ∀ c ∈ blanks, blank c = true)
    (digits_all : ∀ c ∈ digits, c.isDigit = true) (nonempty : digits ≠ []) (fits : digits.length ≤ 4)
    (ends : digits.length = 4 ∨ Stops rest) :
    year blank (blanks ++ digits ++ rest) = some ((value digits : Int), rest) := by
  have read := field_digits visible blanks_all digits_all nonempty fits ends
  obtain ⟨first, others, rfl⟩ := List.exists_cons_of_ne_nil nonempty
  have digit := digits_all first (by simp)
  rw [field] at read
  rw [year]
  rw [List.append_assoc, List.cons_append, dropWhile_blanks blanks_all (digit_visible visible digit)] at read ⊢
  split
  next same => cases same; cases digit
  next same => cases same; cases digit
  next => rw [read, Option.map_some]

theorem Year.read {count : Int} {text rest : List Char} (whole : Year blank text count) (stops : Stops rest) :
    year blank (text ++ rest) = some (count, rest) := by
  cases whole with
  | @negative blanks digits blanks_all digits_all nonempty =>
    have read := number_append digits_all nonempty (Nat.le_add_right _ rest.length) (.inr stops)
    rw [year, List.append_assoc, List.cons_append, dropWhile_blanks blanks_all (sign_visible visible (.inl rfl))]
    simp [read]
  | @positive blanks digits blanks_all digits_all nonempty =>
    have read := number_append digits_all nonempty (Nat.le_add_right _ rest.length) (.inr stops)
    rw [year, List.append_assoc, List.cons_append, dropWhile_blanks blanks_all (sign_visible visible (.inr rfl))]
    simp [read]
  | unsigned whole =>
    obtain ⟨blanks_all, digits_all, nonempty, fits⟩ := whole
    exact year_digits visible blanks_all digits_all nonempty fits (.inr stops)

theorem year_inv {count : Int} {text rest : List Char} (read : year blank text = some (count, rest)) :
    ∃ whole, text = whole ++ rest ∧ Year blank whole count ∧ ('-' ∈ whole → Stops rest) := by
  have blanks : ∀ c ∈ text.takeWhile blank, blank c = true := fun c member => List.mem_takeWhile_imp member
  have whole := List.takeWhile_append_dropWhile (p := blank) (l := text)
  simp only [year] at read
  split at read
  next text after =>
    obtain ⟨digits, rfl, all, nonempty, _, rfl, ends⟩ := number_map_inv (fun count => -(count : Int)) read
    refine ⟨_, ?_, .negative blanks all nonempty, fun _ => stops_of_whole ends⟩
    rw [List.append_assoc, List.cons_append, ← after, whole]
  next text after =>
    obtain ⟨digits, rfl, all, nonempty, _, rfl, ends⟩ := number_map_inv Int.ofNat read
    refine ⟨_, ?_, .positive blanks all nonempty, fun _ => stops_of_whole ends⟩
    rw [List.append_assoc, List.cons_append, ← after, whole]
  next =>
    obtain ⟨digits, split, all, nonempty, fits, rfl, ends⟩ := number_map_inv Int.ofNat read
    refine ⟨text.takeWhile blank ++ digits, ?_, .unsigned (.mk blanks all nonempty fits), fun signed => ?_⟩
    · rw [List.append_assoc, ← split, whole]
    · obtain seen | digit := List.mem_append.mp signed
      · exact absurd rfl (visible _ (blanks _ seen)).2.1
      · exact absurd (all _ digit) (by decide)

theorem Field.unique {width count other : Nat} {text : List Char} (whole : Field blank width text count)
    (again : Field blank width text other) : count = other := by
  have read := whole.read visible stops_nil
  rw [again.read visible stops_nil] at read
  cases read
  rfl

theorem Field.undashed {width count : Nat} {text : List Char} (whole : Field blank width text count) : '-' ∉ text := by
  intro member
  obtain seen | digit := whole.char _ member
  · exact absurd rfl (visible _ seen).2.1
  · cases digit

theorem Field.length_le {width count : Nat} {text : List Char} (whole : Field blank width text count)
    (digits : ∀ c ∈ text, c.isDigit = true) : text.length ≤ width := by
  cases whole with
  | @mk blanks counted blanks_all _ _ fits =>
    cases blanks with
    | nil => exact fits
    | cons c blanks =>
      have hidden := (visible c (blanks_all c (by simp))).1
      rw [digits c (by simp)] at hidden
      cases hidden

/-- A dash in a year is its sign. -/
theorem Year.dashed {count : Int} {before after : List Char} (whole : Year blank (before ++ '-' :: after) count) :
    (∀ c ∈ before, blank c = true) ∧ ∀ c ∈ after, c.isDigit = true := by
  generalize written : before ++ '-' :: after = text at whole
  have dashed : '-' ∈ text := by simp [← written]
  cases whole with
  | @negative blanks digits blanks_all digits_all _ =>
    have noBlank : '-' ∉ blanks := fun member => absurd rfl (visible _ (blanks_all _ member)).2.1
    have noDigit : '-' ∉ digits := fun member => absurd (digits_all _ member) (by decide)
    have once := congrArg (List.count '-') written
    simp only [List.count_append, List.count_cons_self, List.count_eq_zero.mpr noBlank,
      List.count_eq_zero.mpr noDigit] at once
    have first : '-' ∉ before := List.count_eq_zero.mp (by omega)
    obtain ⟨rfl, rfl⟩ := cut_first first noBlank written
    exact ⟨blanks_all, digits_all⟩
  | @positive blanks digits blanks_all digits_all _ =>
    simp only [List.mem_append, List.mem_cons] at dashed
    obtain member | sign | member := dashed
    · exact absurd rfl (visible _ (blanks_all _ member)).2.1
    · exact absurd sign (by decide)
    · exact absurd (digits_all _ member) (by decide)
  | unsigned whole => exact absurd dashed (whole.undashed visible)

theorem dashed_iff {text : List Char} {count : Int} {month day : Nat} :
    date blank ['-'] text = some (count, month, day) ↔
      ∃ yearText monthText dayText, text = yearText ++ '-' :: (monthText ++ '-' :: dayText) ∧
        Year blank yearText count ∧ Field blank 2 monthText month ∧ Field blank 2 dayText day := by
  constructor
  · intro read
    simp only [date, Option.bind_eq_bind, Option.bind_eq_some_iff] at read
    obtain ⟨⟨_, afterYear⟩, readYear, _, first, ⟨_, afterMonth⟩, readMonth, _, second, ⟨_, afterDay⟩, readDay, last⟩ := read
    obtain ⟨yearText, rfl, isYear, _⟩ := year_inv visible readYear
    obtain ⟨_, rfl, same⟩ := List.dropPrefix?_eq_some_iff.mp first
    obtain rfl := eq_of_beq same
    obtain ⟨monthText, rfl, isMonth⟩ := field_inv readMonth
    obtain ⟨_, rfl, same⟩ := List.dropPrefix?_eq_some_iff.mp second
    obtain rfl := eq_of_beq same
    obtain ⟨dayText, rfl, isDay⟩ := field_inv readDay
    split at last
    next empty =>
      cases last
      obtain rfl := List.isEmpty_iff.mp empty
      exact ⟨yearText, monthText, dayText, by simp, isYear, isMonth, isDay⟩
    next => cases last
  · intro ⟨yearText, monthText, dayText, split, isYear, isMonth, isDay⟩
    have readDay := isDay.read visible stops_nil
    rw [List.append_nil] at readDay
    simp [date, split, isYear.read visible (stops_dash _), isMonth.read visible (stops_dash _), readDay,
      List.dropPrefix?]

theorem dashed_count {text : List Char} {read : Int × Nat × Nat} (found : date blank ['-'] text = some read) :
    2 ≤ text.count '-' := by
  obtain ⟨count, month, day⟩ := read
  obtain ⟨_, _, _, rfl, _⟩ := (dashed_iff visible).mp found
  simp only [List.count_append, List.count_cons_self]
  omega

/-- What stands before the first dash after a year is that year. -/
theorem dashed_year_inv {yearText rest : List Char} {first count : Int} {month day : Nat}
    (isYear : Year blank yearText first) (found : date blank ['-'] (yearText ++ '-' :: rest) = some (count, month, day)) :
    count = first ∧ ∃ monthText dayText, rest = monthText ++ '-' :: dayText ∧ Field blank 2 monthText month ∧
      Field blank 2 dayText day := by
  have read := isYear.read visible (stops_dash rest)
  obtain ⟨_, monthText, dayText, split, other, isMonth, isDay⟩ := (dashed_iff visible).mp found
  rw [split, other.read visible (stops_dash _)] at read
  cases read
  exact ⟨rfl, monthText, dayText, rfl, isMonth, isDay⟩

theorem compact_inv {text : List Char} {count : Int} {month day : Nat}
    (read : date blank [] text = some (count, month, day)) :
    ∃ yearText monthText dayText, text = yearText ++ (monthText ++ dayText) ∧ Year blank yearText count ∧
      Field blank 2 monthText month ∧ Field blank 2 dayText day ∧ ('-' ∈ yearText → Stops (monthText ++ dayText)) := by
  simp only [date, Option.bind_eq_bind, Option.bind_eq_some_iff] at read
  obtain ⟨⟨_, afterYear⟩, readYear, _, first, ⟨_, afterMonth⟩, readMonth, _, second, ⟨_, afterDay⟩, readDay, last⟩ := read
  obtain ⟨yearText, rfl, isYear, stops⟩ := year_inv visible readYear
  obtain ⟨_, rfl, same⟩ := List.dropPrefix?_eq_some_iff.mp first
  obtain rfl := eq_of_beq same
  obtain ⟨monthText, rfl, isMonth⟩ := field_inv readMonth
  obtain ⟨_, rfl, same⟩ := List.dropPrefix?_eq_some_iff.mp second
  obtain rfl := eq_of_beq same
  obtain ⟨dayText, rfl, isDay⟩ := field_inv readDay
  split at last
  next empty =>
    cases last
    obtain rfl := List.isEmpty_iff.mp empty
    rw [List.append_nil] at stops
    exact ⟨yearText, monthText, dayText, by simp, isYear, isMonth, isDay, stops⟩
  next => cases last

theorem dashed_written {text : List Char} {read : Int × Nat × Nat} (found : date blank ['-'] text = some read) :
    ∀ c ∈ text, Written blank c := by
  obtain ⟨count, month, day⟩ := read
  obtain ⟨yearText, monthText, dayText, rfl, isYear, isMonth, isDay⟩ := (dashed_iff visible).mp found
  intro c member
  simp only [List.mem_append, List.mem_cons] at member
  obtain member | rfl | member | rfl | member := member
  · exact isYear.written c member
  · exact .inr (.inr (.inl rfl))
  · exact isMonth.written c member
  · exact .inr (.inr (.inl rfl))
  · exact isDay.written c member

theorem compact_written {text : List Char} {read : Int × Nat × Nat} (found : date blank [] text = some read) :
    ∀ c ∈ text, Written blank c := by
  obtain ⟨count, month, day⟩ := read
  obtain ⟨yearText, monthText, dayText, rfl, isYear, isMonth, isDay, _⟩ := compact_inv visible found
  intro c member
  simp only [List.mem_append] at member
  obtain member | member | member := member
  · exact isYear.written c member
  · exact isMonth.written c member
  · exact isDay.written c member

/-- A text that is a year leaves nothing for a month. -/
theorem Year.not_compact {count : Int} {text : List Char} (whole : Year blank text count) : date blank [] text = none := by
  have read := whole.read visible stops_nil
  rw [List.append_nil] at read
  simp [date, read, field, number]

/-- Without separators, a dash is a sign, and the digits after it do not go on to the end. -/
theorem compact_dash {before after : List Char} {read : Int × Nat × Nat}
    (found : date blank [] (before ++ '-' :: after) = some read) :
    (∀ c ∈ before, blank c = true) ∧ '-' ∉ after ∧ ∃ c ∈ after, c.isDigit = false := by
  obtain ⟨count, month, day⟩ := read
  obtain ⟨yearText, monthText, dayText, split, isYear, isMonth, isDay, stops⟩ := compact_inv visible found
  have noMonth := isMonth.undashed visible
  have noDay := isDay.undashed visible
  have dashed : '-' ∈ yearText := by
    have member : '-' ∈ yearText ++ (monthText ++ dayText) := by simp [← split]
    simpa [noMonth, noDay] using member
  obtain ⟨first, digits, rfl, _⟩ := List.eq_append_cons_of_mem dashed
  obtain ⟨blanks_all, digits_all⟩ := isYear.dashed visible
  have noBlank : '-' ∉ first := fun member => absurd rfl (visible _ (blanks_all _ member)).2.1
  have noDigit : '-' ∉ digits := fun member => absurd (digits_all _ member) (by decide)
  rw [List.append_assoc, List.cons_append] at split
  have once := congrArg (List.count '-') split
  simp only [List.count_append, List.count_cons_self, List.count_eq_zero.mpr noBlank, List.count_eq_zero.mpr noDigit,
    List.count_eq_zero.mpr noMonth, List.count_eq_zero.mpr noDay] at once
  have absent : '-' ∉ before := List.count_eq_zero.mp (by omega)
  obtain ⟨rfl, rfl⟩ := cut_first absent noBlank split
  refine ⟨blanks_all, List.count_eq_zero.mp (by simp only [List.count_append] at once ⊢; omega), ?_⟩
  have nonempty : monthText ≠ [] := by
    obtain ⟨_, _, nonempty, _⟩ := isMonth
    simp [nonempty]
  obtain ⟨c, rest, rfl⟩ := List.exists_cons_of_ne_nil nonempty
  exact ⟨c, by simp, stops dashed c rfl⟩

end Shapes

def padded (width count : Nat) : List Char :=
  List.replicate (width - (Nat.toDigits 10 count).length) '0' ++ Nat.toDigits 10 count

def FourDigits (year : Int) : Prop := 0 ≤ year ∧ year ≤ 9999

instance (year : Int) : Decidable (FourDigits year) := inferInstanceAs (Decidable (_ ∧ _))

/-- A year is printed with a sign if it does not fit into four digits. -/
def yearText (year : Int) : List Char :=
  if FourDigits year then padded 4 year.natAbs else (if year < 0 then '-' else '+') :: padded 4 year.natAbs

theorem padded_digits (width count : Nat) : ∀ c ∈ padded width count, c.isDigit = true := by
  intro c member
  obtain zero | digit := List.mem_append.mp member
  · rw [List.eq_of_mem_replicate zero]
    rfl
  · exact Nat.isDigit_of_mem_toDigits (by decide) (by decide) digit

theorem padded_ne_nil (width count : Nat) : padded width count ≠ [] := by
  simp [padded, Nat.toDigits_ne_nil]

theorem value_padded (width count : Nat) : value (padded width count) = count := by
  rw [value, padded, Nat.ofDigitChars_append, Nat.ofDigitChars_replicate_zero, Nat.mul_zero]
  exact Nat.ofDigitChars_ten_toDigits

theorem padded_length {width count : Nat} (short : (Nat.toDigits 10 count).length ≤ width) :
    (padded width count).length = width := by
  rw [padded, List.length_append, List.length_replicate]
  omega

theorem padded_two {count : Nat} (fits : count < 100) : (padded 2 count).length = 2 :=
  padded_length ((Nat.length_toDigits_le_iff (by decide) (by decide)).mpr fits)

theorem padded_four {count : Nat} (fits : count < 10000) : (padded 4 count).length = 4 :=
  padded_length ((Nat.length_toDigits_le_iff (by decide) (by decide)).mpr fits)

theorem padded_of_length {width count : Nat} (exactly : (Nat.toDigits 10 count).length = width) :
    padded width count = Nat.toDigits 10 count := by
  simp [padded, exactly]

theorem FourDigits.natAbs {year : Int} (short : FourDigits year) : (year.natAbs : Int) = year ∧ year.natAbs < 10000 := by
  obtain ⟨low, high⟩ := short
  omega

theorem FourDigits.yearText_eq {year : Int} (short : FourDigits year) : yearText year = padded 4 year.natAbs :=
  if_pos short

section Printing
variable {blank : Char → Bool} (visible : Visible blank)

theorem field_padded {count : Nat} (fits : count < 100) : Field blank 2 (padded 2 count) count := by
  have length : (padded 2 count).length = 2 := padded_two fits
  have whole : Field blank 2 ([] ++ padded 2 count) (value (padded 2 count)) :=
    .mk (by simp) (padded_digits 2 count) (padded_ne_nil 2 count) (by omega)
  rwa [List.nil_append, value_padded] at whole

theorem year_yearText (year : Int) : Year blank (yearText year) year := by
  have digits := padded_digits 4 year.natAbs
  have nonempty := padded_ne_nil 4 year.natAbs
  unfold yearText
  split
  next short =>
    obtain ⟨same, fits⟩ := short.natAbs
    have length : (padded 4 year.natAbs).length = 4 := padded_four fits
    have whole : Field blank 4 ([] ++ padded 4 year.natAbs) (value (padded 4 year.natAbs)) :=
      .mk (by simp) digits nonempty (by omega)
    rw [List.nil_append, value_padded] at whole
    exact same ▸ Year.unsigned whole
  next =>
    split
    next below =>
      have whole : Year blank ([] ++ '-' :: padded 4 year.natAbs) (-(value (padded 4 year.natAbs) : Int)) :=
        .negative (by simp) digits nonempty
      have same : -((year.natAbs : Nat) : Int) = year := by omega
      rwa [List.nil_append, value_padded, same] at whole
    next above =>
      have whole : Year blank ([] ++ '+' :: padded 4 year.natAbs) (value (padded 4 year.natAbs)) :=
        .positive (by simp) digits nonempty
      have same : ((year.natAbs : Nat) : Int) = year := by omega
      rwa [List.nil_append, value_padded, same] at whole

include visible

theorem dashed_printed (year : Int) {month day : Nat} (months : month < 100) (days : day < 100) :
    date blank ['-'] (yearText year ++ '-' :: (padded 2 month ++ '-' :: padded 2 day)) = some (year, month, day) :=
  (dashed_iff visible).mpr ⟨_, _, _, rfl, year_yearText year, field_padded months, field_padded days⟩

theorem year_padded {year : Int} (short : FourDigits year) (rest : List Char) :
    Strftime.year blank (yearText year ++ rest) = some (year, rest) := by
  obtain ⟨same, fits⟩ := short.natAbs
  have length : (padded 4 year.natAbs).length = 4 := padded_four fits
  have read : Strftime.year blank ([] ++ padded 4 year.natAbs ++ rest) = some ((value (padded 4 year.natAbs) : Int), rest) :=
    year_digits visible (by simp) (padded_digits 4 _) (padded_ne_nil 4 _) (by omega) (.inl length)
  rwa [List.nil_append, value_padded, same, ← short.yearText_eq] at read

theorem compact_year_inv {year count : Int} (short : FourDigits year) {rest : List Char} {month day : Nat}
    (found : date blank [] (yearText year ++ rest) = some (count, month, day)) : count = year := by
  simp only [date, year_padded visible short, Option.bind_eq_bind, Option.bind_some, Option.bind_eq_some_iff] at found
  obtain ⟨_, _, ⟨_, _⟩, _, _, _, ⟨_, _⟩, _, last⟩ := found
  split at last
  · cases last
    rfl
  · cases last

theorem compact_printed {year : Int} (short : FourDigits year) {month day : Nat} (months : month < 100)
    (days : day < 100) :
    date blank [] (yearText year ++ (padded 2 month ++ padded 2 day)) = some (year, month, day) := by
  have monthLength : (padded 2 month).length = 2 := padded_two months
  have readMonth : field blank 2 ([] ++ padded 2 month ++ padded 2 day) = some (value (padded 2 month), padded 2 day) :=
    field_digits visible (by simp) (padded_digits 2 month) (padded_ne_nil 2 month) (by omega) (.inl monthLength)
  have readDay : field blank 2 (padded 2 day ++ []) = some (day, []) := (field_padded days).read visible stops_nil
  rw [List.append_nil] at readDay
  rw [List.nil_append, value_padded] at readMonth
  simp [date, year_padded visible short, readMonth, readDay]

/-- A signed year takes the digits of the month and the day too. -/
theorem compact_signed {year : Int} (long : ¬ FourDigits year) (month day : Nat) :
    date blank [] (yearText year ++ (padded 2 month ++ padded 2 day)) = none := by
  have digits : ∀ c ∈ padded 4 year.natAbs ++ (padded 2 month ++ padded 2 day), c.isDigit = true := by
    intro c member
    simp only [List.mem_append] at member
    obtain member | member | member := member
    · exact padded_digits _ _ c member
    · exact padded_digits _ _ c member
    · exact padded_digits _ _ c member
  have nonempty : padded 4 year.natAbs ++ (padded 2 month ++ padded 2 day) ≠ [] := by
    simp [padded_ne_nil]
  rw [yearText, if_neg long]
  split
  · have whole : Year blank ([] ++ '-' :: (padded 4 year.natAbs ++ (padded 2 month ++ padded 2 day))) _ :=
      .negative (by simp) digits nonempty
    exact whole.not_compact visible
  · have whole : Year blank ([] ++ '+' :: (padded 4 year.natAbs ++ (padded 2 month ++ padded 2 day))) _ :=
      .positive (by simp) digits nonempty
    exact whole.not_compact visible

end Printing

end AiGateway.Lib.Strftime
