import AiGateway.Lib.Strftime
import AiGateway.Proofs.ModelNames

/-! Dates in model names, read again after they are printed. The calendar library reads more
spellings of a date than the one it prints. -/

namespace AiGateway.ModelIds

open Lib.Splits Lib.Strftime

def printedDate (date : NaiveDate) : DateFormat → List Char
  | .yearMonthDayDashed => yearText date.year ++ '-' :: (padded 2 date.month ++ '-' :: padded 2 date.day)
  | .yearMonthDay => yearText date.year ++ (padded 2 date.month ++ padded 2 date.day)
  | .monthDayDashed => padded 2 date.month ++ '-' :: padded 2 date.day
  | .monthDay => padded 2 date.month ++ padded 2 date.day

/-- What the calendar library documents of its patterns, for the dates that there are. A leap
year is one before the year zero too. -/
structure Documented (chrono : Chrono) (real : NaiveDate → Prop) : Prop where
  bounded : ∀ date, real date → date.month ≤ 12 ∧ date.day ≤ 31
  mirrored : ∀ date : NaiveDate, FourDigits date.year → real date → real { date with year := -date.year }
  parse_dashed : ∀ text date, chrono.parseFromStr text .yearMonthDayDashed = some date ↔
    Lib.Strftime.date isWhitespace ['-'] text = some (date.year, date.month, date.day) ∧ real date
  parse_compact : ∀ text date, chrono.parseFromStr text .yearMonthDay = some date ↔
    Lib.Strftime.date isWhitespace [] text = some (date.year, date.month, date.day) ∧ real date
  format : ∀ date format, real date → chrono.format date format = printedDate date format
  year : 1000 ≤ chrono.year ∧ chrono.year ≤ 9999

/-- How a text is written that is read as a date, with the year added where it has none. -/
def WrittenAs (year : Int) (text : List Char) (date : NaiveDate) : DateFormat → Prop
  | .yearMonthDayDashed => Lib.Strftime.date isWhitespace ['-'] text = some (date.year, date.month, date.day)
  | .yearMonthDay => Lib.Strftime.date isWhitespace [] text = some (date.year, date.month, date.day)
  | .monthDayDashed =>
    Lib.Strftime.date isWhitespace ['-'] (yearText year ++ '-' :: text) = some (date.year, date.month, date.day)
  | .monthDay => Lib.Strftime.date isWhitespace [] (yearText year ++ text) = some (date.year, date.month, date.day)

theorem isWhitespace_visible : Visible isWhitespace := by
  intro c seen
  have code : (9 ≤ c.toNat ∧ c.toNat ≤ 13) ∨ c.toNat = 32 ∨ 128 ≤ c.toNat := by
    simp only [isWhitespace, Bool.or_eq_true, Bool.and_eq_true, decide_eq_true_eq, List.contains_eq_mem,
      List.mem_cons, List.not_mem_nil, or_false] at seen
    omega
  have other {d : Char} (different : d.toNat ≠ c.toNat) : c ≠ d := fun same => different (by rw [same])
  refine ⟨?_, other ?_, other ?_⟩
  · rw [Bool.eq_false_iff]
    intro digit
    simp only [Char.isDigit, Bool.and_eq_true, decide_eq_true_eq, UInt32.le_iff_toNat_le] at digit
    have low : 48 ≤ c.toNat := digit.1
    have high : c.toNat ≤ 57 := digit.2
    omega
  · change 45 ≠ c.toNat
    omega
  · change 43 ≠ c.toNat
    omega

section Reading
variable {chrono : Chrono} {real : NaiveDate → Prop} (documented : Documented chrono real)
include documented

theorem yearText_current : chrono.yearText = yearText chrono.year := by
  obtain ⟨low, high⟩ := documented.year
  have short : FourDigits chrono.year := ⟨by omega, high⟩
  have upper : (Nat.toDigits 10 chrono.year.natAbs).length ≤ 4 :=
    (Nat.length_toDigits_le_iff (by decide) (by decide)).mpr (by omega)
  have lower : ¬ (Nat.toDigits 10 chrono.year.natAbs).length ≤ 3 := by
    rw [Nat.length_toDigits_le_iff (by decide) (by decide)]
    omega
  rw [short.yearText_eq, padded_of_length (by omega), Chrono.yearText, if_neg (by omega)]

theorem current_fourDigits : FourDigits chrono.year := by
  obtain ⟨low, high⟩ := documented.year
  exact ⟨by omega, high⟩

theorem parseDate_inv {text : List Char} {date : NaiveDate} {format : DateFormat}
    (read : parseDate chrono text = some (date, format)) :
    real date ∧ WrittenAs chrono.year text date format := by
  simp only [parseDate, yearText_current documented] at read
  split at read
  next found =>
    cases read
    exact ((documented.parse_dashed _ _).mp found).symm
  next =>
    split at read
    next found =>
      cases read
      exact ((documented.parse_compact _ _).mp found).symm
    next =>
      split at read
      next found =>
        cases read
        exact ((documented.parse_dashed _ _).mp found).symm
      next =>
        split at read
        next found =>
          cases read
          exact ((documented.parse_compact _ _).mp found).symm
        next => cases read

theorem parseDate_written {text : List Char} {date : NaiveDate} {format : DateFormat}
    (read : parseDate chrono text = some (date, format)) : ∀ c ∈ text, Written isWhitespace c := by
  obtain ⟨_, found⟩ := parseDate_inv documented read
  cases format with
  | yearMonthDayDashed => exact dashed_written isWhitespace_visible found
  | yearMonthDay => exact compact_written isWhitespace_visible found
  | monthDayDashed =>
    intro c member
    exact dashed_written isWhitespace_visible found c (by simp [member])
  | monthDay =>
    intro c member
    exact compact_written isWhitespace_visible found c (by simp [member])

/-- A date without a year is one of the current year. -/
theorem parseDate_year {text : List Char} {date : NaiveDate} {format : DateFormat}
    (read : parseDate chrono text = some (date, format)) (short : format.isFullDate = false) :
    date.year = chrono.year := by
  obtain ⟨_, found⟩ := parseDate_inv documented read
  cases format with
  | yearMonthDayDashed | yearMonthDay => cases short
  | monthDayDashed => exact (dashed_year_inv isWhitespace_visible (year_yearText _) found).1
  | monthDay => exact compact_year_inv isWhitespace_visible (current_fourDigits documented) found

theorem parseFromStr_dashed_none {text : List Char} (missing : Lib.Strftime.date isWhitespace ['-'] text = none) :
    chrono.parseFromStr text .yearMonthDayDashed = none := by
  rw [Option.eq_none_iff_forall_ne_some]
  intro date found
  cases missing.symm.trans ((documented.parse_dashed _ _).mp found).1

theorem parseFromStr_compact_none {text : List Char} (missing : Lib.Strftime.date isWhitespace [] text = none) :
    chrono.parseFromStr text .yearMonthDay = none := by
  rw [Option.eq_none_iff_forall_ne_some]
  intro date found
  cases missing.symm.trans ((documented.parse_compact _ _).mp found).1

omit documented in
theorem not_dashed {text : List Char} (few : text.count '-' < 2) : Lib.Strftime.date isWhitespace ['-'] text = none := by
  rw [Option.eq_none_iff_forall_ne_some]
  intro read found
  have many := dashed_count isWhitespace_visible found
  omega

omit documented in
theorem padded_count (width count : Nat) : (padded width count).count '-' = 0 := by
  rw [List.count_eq_zero]
  intro member
  exact absurd (padded_digits _ _ _ member) (by decide)

omit documented in
theorem yearText_count {year : Int} (short : FourDigits year) : (yearText year).count '-' = 0 := by
  rw [short.yearText_eq, padded_count]

omit documented in
/-- Without separators a date is printed in digits, unless its year has a sign. -/
theorem undashed_digits {date : NaiveDate} {format : DateFormat} (undashed : format = .yearMonthDay ∨ format = .monthDay)
    (compact : format = .yearMonthDay → FourDigits date.year) :
    ∀ c ∈ printedDate date format, c.isDigit = true := by
  have parts : ∀ c ∈ padded 2 date.month ++ padded 2 date.day, c.isDigit = true := by
    intro c member
    obtain member | member := List.mem_append.mp member
    · exact padded_digits _ _ c member
    · exact padded_digits _ _ c member
  intro c member
  obtain rfl | rfl := undashed
  · rw [printedDate, (compact rfl).yearText_eq] at member
    obtain member | member := List.mem_append.mp member
    · exact padded_digits _ _ c member
    · exact parts c member
  · exact parts c member

/-- The dates that are read as they are printed. -/
structure Readable (chrono : Chrono) (real : NaiveDate → Prop) (date : NaiveDate) (format : DateFormat) : Prop where
  isReal : real date
  compact : format = .yearMonthDay → FourDigits date.year
  current : format.isFullDate = false → date.year = chrono.year

theorem parseDate_printed {date : NaiveDate} {format : DateFormat} (readable : Readable chrono real date format) :
    parseDate chrono (printedDate date format) = some (date, format) := by
  obtain ⟨isReal, compact, current⟩ := readable
  obtain ⟨months, days⟩ := documented.bounded date isReal
  have months : date.month < 100 := by omega
  have days : date.day < 100 := by omega
  have short := current_fourDigits documented
  simp only [parseDate, yearText_current documented]
  cases format with
  | yearMonthDayDashed =>
    have found := dashed_printed isWhitespace_visible date.year months days
    rw [printedDate, (documented.parse_dashed _ date).mpr ⟨found, isReal⟩]
  | yearMonthDay =>
    have fits := compact rfl
    have found := compact_printed isWhitespace_visible fits months days
    have undashed : (printedDate date .yearMonthDay).count '-' < 2 := by
      simp only [printedDate, List.count_append, padded_count, yearText_count fits]
      omega
    rw [parseFromStr_dashed_none documented (not_dashed undashed), printedDate,
      (documented.parse_compact _ date).mpr ⟨found, isReal⟩]
  | monthDayDashed =>
    have found := dashed_printed isWhitespace_visible chrono.year months days
    rw [← current rfl] at found
    have once : (printedDate date .monthDayDashed).count '-' < 2 := by
      simp only [printedDate, List.count_append, List.count_cons_self, padded_count]
      omega
    have separated : Lib.Strftime.date isWhitespace [] (printedDate date .monthDayDashed) = none := by
      rw [Option.eq_none_iff_forall_ne_some]
      intro read compact
      obtain ⟨blank, _⟩ := compact_dash isWhitespace_visible compact
      obtain ⟨c, digit⟩ := List.exists_mem_of_ne_nil _ (padded_ne_nil 2 date.month)
      have seen := (isWhitespace_visible c (blank c digit)).1
      rw [padded_digits _ _ c digit] at seen
      cases seen
    rw [parseFromStr_dashed_none documented (not_dashed once), parseFromStr_compact_none documented separated,
      printedDate, ← current rfl, (documented.parse_dashed _ date).mpr ⟨found, isReal⟩]
  | monthDay =>
    have found := compact_printed isWhitespace_visible short months days
    rw [← current rfl] at found
    have digits : ∀ c ∈ printedDate date .monthDay, c.isDigit = true := undashed_digits (.inr rfl) compact
    have undashed : (printedDate date .monthDay).count '-' < 2 := by
      simp only [printedDate, List.count_append, padded_count]
      omega
    have once : (yearText date.year ++ '-' :: printedDate date .monthDay).count '-' < 2 := by
      simp only [printedDate, List.count_append, List.count_cons_self, padded_count, current rfl, yearText_count short]
      omega
    have isYear : Field isWhitespace 4 ([] ++ printedDate date .monthDay) (value (printedDate date .monthDay)) := by
      have monthLength : (padded 2 date.month).length = 2 := padded_two months
      have dayLength : (padded 2 date.day).length = 2 := padded_two days
      refine .mk (by simp) digits (by simp [printedDate, padded_ne_nil]) ?_
      simp [printedDate, monthLength, dayLength]
    rw [List.nil_append] at isYear
    rw [parseFromStr_dashed_none documented (not_dashed undashed),
      parseFromStr_compact_none documented (Year.not_compact isWhitespace_visible (.unsigned isYear)), ← current rfl,
      parseFromStr_dashed_none documented (not_dashed once)]
    rw [printedDate, (documented.parse_compact _ date).mpr ⟨found, isReal⟩]

omit documented in
theorem undashed_length (date : NaiveDate) {format : DateFormat}
    (undashed : format = .yearMonthDay ∨ format = .monthDay) : 2 < (printedDate date format).length := by
  have width (width count : Nat) : width ≤ (padded width count).length := by
    rw [padded, List.length_append, List.length_replicate]
    omega
  have month := width 2 date.month
  have day := width 2 date.day
  obtain rfl | rfl := undashed <;> simp only [printedDate, List.length_append] <;> omega

omit documented in
/-- A date without separators is no day or month. -/
theorem undashed_not_field {date : NaiveDate} {format : DateFormat}
    (undashed : format = .yearMonthDay ∨ format = .monthDay) (compact : format = .yearMonthDay → FourDigits date.year)
    {count : Nat} : ¬ Field isWhitespace 2 (printedDate date format) count := by
  intro whole
  have short := whole.length_le isWhitespace_visible (undashed_digits undashed compact)
  have long := undashed_length date undashed
  omega

omit documented in
theorem undashed_or_dash (date : NaiveDate) (format : DateFormat) :
    (format = .yearMonthDay ∨ format = .monthDay) ∨ '-' ∈ printedDate date format := by
  cases format with
  | yearMonthDayDashed | monthDayDashed => exact .inr (by simp [printedDate])
  | yearMonthDay => exact .inl (.inl rfl)
  | monthDay => exact .inl (.inr rfl)

/-- What a text has to be in front of a printed date, to be a date together with it: blanks
before a dash that is then taken for a sign, or the year of a month and a day. -/
inductive Fronts (real : NaiveDate → Prop) (date : NaiveDate) : DateFormat → List Char → Prop where
  | sign {front : List Char} (short : FourDigits date.year) (blanks : ∀ c ∈ front, isWhitespace c = true) :
      Fronts real date .yearMonthDayDashed front
  | year {front : List Char} {count : Int} (isYear : Year isWhitespace front count)
      (isReal : real ⟨count, date.month, date.day⟩) : Fronts real date .monthDayDashed front

omit documented in
theorem dashed_behind {date : NaiveDate} {format : DateFormat} (bounded : date.month < 100 ∧ date.day < 100)
    (compact : format = .yearMonthDay → FourDigits date.year) {front : List Char} {read : NaiveDate} (isReal : real read)
    (found : Lib.Strftime.date isWhitespace ['-'] (front ++ '-' :: printedDate date format) =
      some (read.year, read.month, read.day)) : Fronts real date format front := by
  obtain ⟨yearPart, monthPart, dayPart, split, isYear, isMonth, isDay⟩ := (dashed_iff isWhitespace_visible).mp found
  have noMonth := isMonth.undashed isWhitespace_visible
  have noDay := isDay.undashed isWhitespace_visible
  have noDash (count : Nat) : '-' ∉ padded 2 count := fun member => absurd (padded_digits _ _ _ member) (by decide)
  have last : yearPart ++ '-' :: (monthPart ++ '-' :: dayPart) = (yearPart ++ '-' :: monthPart) ++ '-' :: dayPart := by
    simp
  rw [last] at split
  cases format with
  | yearMonthDay =>
    obtain ⟨_, same⟩ := cut_last (fun member => absurd (undashed_digits (.inl rfl) compact _ member) (by decide)) noDay split
    rw [← same] at isDay
    exact absurd isDay (undashed_not_field (.inl rfl) compact)
  | monthDay =>
    obtain ⟨_, same⟩ := cut_last (fun member => absurd (undashed_digits (.inr rfl) compact _ member) (by decide)) noDay split
    rw [← same] at isDay
    exact absurd isDay (undashed_not_field (.inr rfl) compact)
  | monthDayDashed =>
    have whole : front ++ '-' :: printedDate date .monthDayDashed =
        (front ++ '-' :: padded 2 date.month) ++ '-' :: padded 2 date.day := by
      simp [printedDate]
    rw [whole] at split
    obtain ⟨rest, rfl⟩ := cut_last (noDash _) noDay split
    obtain ⟨rfl, rfl⟩ := cut_last (noDash _) noMonth rest
    have month := isMonth.unique isWhitespace_visible (field_padded bounded.1)
    have day := isDay.unique isWhitespace_visible (field_padded bounded.2)
    refine .year isYear ?_
    rwa [← month, ← day]
  | yearMonthDayDashed =>
    have whole : front ++ '-' :: printedDate date .yearMonthDayDashed =
        (front ++ '-' :: yearText date.year ++ '-' :: padded 2 date.month) ++ '-' :: padded 2 date.day := by
      simp [printedDate]
    rw [whole] at split
    obtain ⟨rest, rfl⟩ := cut_last (noDash _) noDay split
    obtain ⟨rfl, rfl⟩ := cut_last (noDash _) noMonth rest
    obtain ⟨blanks, digits⟩ := isYear.dashed isWhitespace_visible
    refine .sign ?_ blanks
    by_contra long
    rw [yearText, if_neg long] at digits
    have sign := digits _ List.mem_cons_self
    split at sign <;> cases sign

theorem parseDate_behind {date : NaiveDate} {format : DateFormat} (readable : Readable chrono real date format)
    {front : List Char} {read : NaiveDate × DateFormat}
    (found : parseDate chrono (front ++ '-' :: printedDate date format) = some read) :
    Fronts real date format front := by
  obtain ⟨readDate, readFormat⟩ := read
  obtain ⟨isReal, found⟩ := parseDate_inv documented found
  obtain ⟨months, days⟩ := documented.bounded date readable.isReal
  have compact := readable.compact
  have separated {text : List Char} {read : Int × Nat × Nat}
      (found : Lib.Strftime.date isWhitespace [] (text ++ '-' :: printedDate date format) = some read) : False := by
    obtain ⟨_, undashed, c, member, other⟩ := compact_dash isWhitespace_visible found
    obtain kind | dashed := undashed_or_dash date format
    · rw [undashed_digits kind compact c member] at other
      cases other
    · exact undashed dashed
  cases readFormat with
  | yearMonthDayDashed => exact dashed_behind ⟨by omega, by omega⟩ compact isReal found
  | yearMonthDay => exact (separated found).elim
  | monthDayDashed =>
    obtain ⟨_, monthPart, dayPart, split, isMonth, isDay⟩ :=
      dashed_year_inv isWhitespace_visible (year_yearText _) found
    have noMonth := isMonth.undashed isWhitespace_visible
    have noDay := isDay.undashed isWhitespace_visible
    have once := congrArg (List.count '-') split
    simp only [List.count_append, List.count_cons_self, List.count_eq_zero.mpr noMonth,
      List.count_eq_zero.mpr noDay] at once
    have absent : '-' ∉ printedDate date format := List.count_eq_zero.mp (by omega)
    obtain kind | dashed := undashed_or_dash date format
    · obtain ⟨_, rfl⟩ := cut_last absent noDay split
      exact absurd isDay (undashed_not_field kind compact)
    · exact absurd dashed absent
  | monthDay =>
    rw [WrittenAs, ← List.append_assoc] at found
    exact (separated found).elim

/-- Blanks and a dash make a date of a year before the year zero. -/
theorem parseDate_signed {date : NaiveDate} (isReal : real date) (short : FourDigits date.year) {front : List Char}
    (blanks : ∀ c ∈ front, isWhitespace c = true) :
    parseDate chrono (front ++ '-' :: printedDate date .yearMonthDayDashed) =
      some ({ date with year := -date.year }, .yearMonthDayDashed) := by
  obtain ⟨months, days⟩ := documented.bounded date isReal
  have isYear : Year isWhitespace (front ++ '-' :: padded 4 date.year.natAbs)
      (-(value (padded 4 date.year.natAbs) : Int)) :=
    .negative blanks (padded_digits 4 _) (padded_ne_nil 4 _)
  rw [value_padded, short.natAbs.1] at isYear
  have found : Lib.Strftime.date isWhitespace ['-'] (front ++ '-' :: printedDate date .yearMonthDayDashed) =
      some (-date.year, date.month, date.day) := by
    refine (dashed_iff isWhitespace_visible).mpr ⟨_, _, _, ?_, isYear, field_padded ?_, field_padded ?_⟩
    · simp [printedDate, short.yearText_eq]
    · omega
    · omega
  have read := (documented.parse_dashed _ { date with year := -date.year }).mpr ⟨found, documented.mirrored date short isReal⟩
  simp only [parseDate, read]

/-- What makes a printed date longer would have made the date longer as it was written, but for a
sign. -/
theorem Fronts.written {date : NaiveDate} {format : DateFormat} {front text : List Char}
    (fronts : Fronts real date format front) (read : parseDate chrono text = some (date, format)) :
    (format = .yearMonthDayDashed ∧ FourDigits date.year ∧ ∀ c ∈ front, isWhitespace c = true) ∨
      ∃ longer, parseDate chrono (front ++ '-' :: text) = some (longer, .yearMonthDayDashed) := by
  cases fronts with
  | sign short blanks => exact .inl ⟨rfl, short, blanks⟩
  | @year _ count isYear isReal =>
    obtain ⟨_, found⟩ := parseDate_inv documented read
    obtain ⟨_, monthPart, dayPart, rfl, isMonth, isDay⟩ := dashed_year_inv isWhitespace_visible (year_yearText _) found
    have longer : Lib.Strftime.date isWhitespace ['-'] (front ++ '-' :: (monthPart ++ '-' :: dayPart)) =
        some (count, date.month, date.day) :=
      (dashed_iff isWhitespace_visible).mpr ⟨_, _, _, rfl, isYear, isMonth, isDay⟩
    have parsed := (documented.parse_dashed _ ⟨count, date.month, date.day⟩).mpr ⟨longer, isReal⟩
    exact .inr ⟨⟨count, date.month, date.day⟩, by simp only [parseDate, parsed]⟩

omit documented in
theorem printedDate_char (date : NaiveDate) (format : DateFormat) :
    ∀ c ∈ printedDate date format, c.isDigit = true ∨ c = '-' ∨ c = '+' := by
  have years : ∀ c ∈ yearText date.year, c.isDigit = true ∨ c = '-' ∨ c = '+' := by
    intro c member
    unfold yearText at member
    split at member
    · exact .inl (padded_digits _ _ c member)
    · obtain rfl | member := List.mem_cons.mp member
      · split
        · exact .inr (.inl rfl)
        · exact .inr (.inr rfl)
      · exact .inl (padded_digits _ _ c member)
  have digits (count : Nat) (c : Char) (member : c ∈ padded 2 count) : c.isDigit = true ∨ c = '-' ∨ c = '+' :=
    .inl (padded_digits _ _ c member)
  intro c member
  cases format with
  | yearMonthDayDashed =>
    simp only [printedDate, List.mem_append, List.mem_cons] at member
    obtain member | dash | member | dash | member := member
    · exact years c member
    · exact .inr (.inl dash)
    · exact digits _ c member
    · exact .inr (.inl dash)
    · exact digits _ c member
  | yearMonthDay =>
    simp only [printedDate, List.mem_append] at member
    obtain member | member | member := member
    · exact years c member
    · exact digits _ c member
    · exact digits _ c member
  | monthDayDashed =>
    simp only [printedDate, List.mem_append, List.mem_cons] at member
    obtain member | dash | member := member
    · exact digits _ c member
    · exact .inr (.inl dash)
    · exact digits _ c member
  | monthDay =>
    obtain member | member := List.mem_append.mp member
    · exact digits _ c member
    · exact digits _ c member

omit documented in
theorem printedDate_last (date : NaiveDate) (format : DateFormat) :
    ∃ c, (printedDate date format).getLast? = some c ∧ c.isDigit = true := by
  have nonempty := padded_ne_nil 2 date.day
  have ending : (printedDate date format).getLast? = (padded 2 date.day).getLast? := by
    cases format <;> simp [printedDate, List.getLast?_append, List.getLast?_cons, List.getLast?_eq_some_getLast nonempty]
  rw [ending, List.getLast?_eq_some_getLast nonempty]
  exact ⟨_, rfl, padded_digits 2 _ _ (List.getLast_mem nonempty)⟩

end Reading

end AiGateway.ModelIds
