import AiGateway.Proofs.PrintedDates

/-! Names read again after their version is printed. The printed version is cut off where the
version was, unless the name in front of it makes a longer date of it. -/

namespace AiGateway.ModelIds

open Lib.Splits Lib.Strftime

/-- The name ends in blanks after a dash. -/
def BlankTail (model : List Char) : Prop :=
  ∃ before blanks, model = before ++ '-' :: blanks ∧ ∀ c ∈ blanks, isWhitespace c = true

/-- The versions that are read again from what is printed. Without separators a year has to fit
into four digits, and a dash in front of a year must not be taken for its sign. -/
def VersionKept (model : List Char) : Version → Prop
  | .dateVersionedPreview date format => format = .yearMonthDay → FourDigits date.year
  | .date date format =>
    (format = .yearMonthDay → FourDigits date.year) ∧
      (format = .yearMonthDayDashed → FourDigits date.year → ¬ BlankTail model)
  | .implicitLatest | .latest | .preview => True

section Candidates
variable {chrono : Chrono}

theorem mem_cutsAt {separator : Char} {text before after : List Char} (split : text = before ++ separator :: after) :
    (before, after) ∈ cutsAt separator text := by
  rw [split, cutsAt_append]
  simp

theorem versionCandidates_append (model version : List Char) :
    versionCandidates (model ++ '-' :: version) '-' =
      (cutsAt '-' model).map (fun cut => (cut.1, cut.2 ++ '-' :: version)) ++
        ((model, version) :: (cutsAt '-' version).map fun cut => (model ++ '-' :: cut.1, cut.2)).filter
          fun cut => !cut.2.isEmpty := by
  rw [versionCandidates, cutsAt_append, List.filter_append]
  congr 1
  rw [List.filter_eq_self]
  intro cut member
  obtain ⟨_, _, rfl⟩ := List.mem_map.mp member
  simp

/-- A search that ends at a cut has passed those before it. -/
theorem passed_longer {model version : List Char} {p : List Char → Bool}
    (found : (versionCandidates (model ++ '-' :: version) '-').find? (fun cut => p cut.2) = some (model, version)) :
    ∀ cut ∈ cutsAt '-' model, p (cut.2 ++ '-' :: version) = false := by
  rw [versionCandidates_append, List.find?_append, Option.or_eq_some_iff] at found
  obtain first | ⟨missing, _⟩ := found
  · obtain ⟨cut, member, same⟩ := List.mem_map.mp (List.mem_of_find?_eq_some first)
    have split := eq_of_mem_cutsAt member
    have length := congrArg List.length (congrArg Prod.fst same)
    rw [split, List.length_append, List.length_cons] at length
    dsimp only at length
    omega
  · intro cut member
    have passed := List.find?_eq_none.mp missing _ (List.mem_map_of_mem member)
    simpa using passed

/-- No longer candidate than the one that is taken is a full date. -/
theorem versionCandidate_longest {model version : List Char}
    (found : versionCandidate chrono (model ++ '-' :: version) = some (model, version)) :
    ∀ cut ∈ cutsAt '-' model, fullDateVersion chrono (cut.2 ++ '-' :: version) = none := by
  intro cut member
  obtain full | ⟨missing, _⟩ := Option.or_eq_some_iff.mp found
  · simpa using passed_longer (p := fun candidate => (fullDateVersion chrono candidate).isSome) full cut member
  · rw [versionCandidates_append, List.find?_append, Option.or_eq_none_iff] at missing
    simpa using List.find?_eq_none.mp missing.1 _ (List.mem_map_of_mem member)

theorem fullDateVersion_none {candidate : List Char} (undated : parseDate chrono candidate = none) :
    fullDateVersion chrono candidate = none := by
  simp only [fullDateVersion, undated]

theorem eqIgnoreAsciiCase_dash {text word : List Char} (dashed : '-' ∈ text) (plain : '-' ∉ word.map Char.toLower) :
    eqIgnoreAsciiCase text word = false := by
  rw [eqIgnoreAsciiCase, beq_eq_false_iff_ne]
  intro same
  exact plain (same ▸ List.mem_map.mpr ⟨'-', dashed, by decide⟩)

theorem anyVersion_none {candidate : List Char} (dashed : '-' ∈ candidate) (undated : parseDate chrono candidate = none) :
    anyVersion chrono candidate = none := by
  have latest : eqIgnoreAsciiCase candidate "latest".toList = false := eqIgnoreAsciiCase_dash dashed (by decide)
  have preview : eqIgnoreAsciiCase candidate "preview".toList = false := eqIgnoreAsciiCase_dash dashed (by decide)
  simp only [anyVersion, undated, latest, preview, Bool.false_eq_true, if_false]

/-- A candidate is taken if no longer one is a date, and no shorter one is preferred. -/
theorem versionCandidate_of_longest {model version : List Char} {date : NaiveDate} {format : DateFormat}
    (read : parseDate chrono version = some (date, format)) (nonempty : version ≠ [])
    (longer : ∀ cut ∈ cutsAt '-' model, parseDate chrono (cut.2 ++ '-' :: version) = none)
    (shorter : format.isFullDate = false → ∀ cut ∈ cutsAt '-' version, fullDateVersion chrono cut.2 = none) :
    versionCandidate chrono (model ++ '-' :: version) = some (model, version) := by
  have kept : ((model, version) :: (cutsAt '-' version).map fun cut => (model ++ '-' :: cut.1, cut.2)).filter
      (fun cut => !cut.2.isEmpty) = (model, version) ::
        ((cutsAt '-' version).map fun cut => (model ++ '-' :: cut.1, cut.2)).filter fun cut => !cut.2.isEmpty :=
    List.filter_cons_of_pos (by simp [nonempty])
  have passed {find : List Char → Option Version} (missing : ∀ cut ∈ cutsAt '-' model, find (cut.2 ++ '-' :: version) = none) :
      ((cutsAt '-' model).map fun cut => (cut.1, cut.2 ++ '-' :: version)).find? (fun cut => (find cut.2).isSome) = none := by
    rw [List.find?_eq_none]
    intro cut member
    obtain ⟨first, inside, rfl⟩ := List.mem_map.mp member
    simp [missing first inside]
  have full := passed fun cut member => fullDateVersion_none (longer cut member)
  have any := passed fun cut member => anyVersion_none (by simp) (longer cut member)
  have isAny : (anyVersion chrono version).isSome = true := by simp [anyVersion, read]
  simp only [versionCandidate, versionCandidates_append, List.find?_append, full, any, Option.none_or, kept]
  cases isFull : format.isFullDate with
  | true =>
    have here : (fullDateVersion chrono version).isSome = true := by simp [fullDateVersion, read, isFull]
    rw [List.find?_cons, here]
    rfl
  | false =>
    have notHere : (fullDateVersion chrono version).isSome = false := by simp [fullDateVersion, read, isFull]
    have none : ((model, version) ::
        ((cutsAt '-' version).map fun cut => (model ++ '-' :: cut.1, cut.2)).filter fun cut => !cut.2.isEmpty).find?
          (fun cut => (fullDateVersion chrono cut.2).isSome) = none := by
      rw [List.find?_cons_of_neg (by simp [notHere]), List.find?_eq_none]
      intro cut member
      obtain ⟨first, inside, rfl⟩ := List.mem_map.mp (List.mem_filter.mp member).1
      simp [shorter isFull first inside]
    rw [none, Option.none_or, List.find?_cons, isAny]

end Candidates

section Previews

theorem letter_unwritten : ¬ Written isWhitespace 'w' ∧ ¬ Written isWhitespace 't' := by
  unfold Written
  decide

theorem preview_cuts : ∀ length ≤ 9, 'w' ∈ "-preview-".toList.drop length ∨
    ("-preview-".toList.take length).getLast? = some 'w' ∨ "-preview-".toList.take length = "-preview-".toList := by
  decide

/-- No dated preview reaches into a text without its letters, behind a dash. -/
theorem rsplitOnce_preview {text tail : List Char} (ended : text.getLast? = some '-')
    (written : ∀ c ∈ tail, Written isWhitespace c) :
    rsplitOnce "-preview-".toList (text ++ tail) =
      (rsplitOnce "-preview-".toList text).map fun cut => (cut.1, cut.2 ++ tail) := by
  have noLetter : 'w' ∉ tail := fun member => letter_unwritten.1 (written _ member)
  refine rsplitOnce_append_right (by decide) ?_ fun rest suffix front => ?_
  · rw [Option.eq_none_iff_forall_ne_some]
    intro cut found
    have member : 'w' ∈ cut.1 ++ "-preview-".toList ++ cut.2 := by simp
    rw [← rsplitOnce_eq found] at member
    exact noLetter member
  · obtain ⟨after, split⟩ := front
    obtain ⟨more, rfl, _⟩ | ⟨more, whole, shared⟩ := List.append_eq_append_iff.mp split
    · exact List.prefix_append _ _
    · -- A pattern that goes on behind the rest has a letter there, or the rest ends in one.
      have length : rest.length ≤ 9 := by
        have sizes : 9 = (rest ++ more).length := congrArg List.length whole
        rw [List.length_append] at sizes
        omega
      have front : "-preview-".toList.take rest.length = rest := by rw [whole, List.take_left]
      have back : "-preview-".toList.drop rest.length = more := by rw [whole, List.drop_left]
      obtain letter | letter | all := preview_cuts rest.length length
      · rw [back] at letter
        exact absurd (by simp [shared, letter]) noLetter
      · rw [front] at letter
        obtain ⟨before, rfl⟩ := suffix
        rw [List.getLast?_append, letter, Option.some_or] at ended
        exact absurd ended (by decide)
      · rw [front] at all
        rw [all]

theorem rsplitOnce_dated (model : List Char) {version : List Char} (written : ∀ c ∈ version, Written isWhitespace c) :
    rsplitOnce "-preview-".toList (model ++ "-preview-".toList ++ version) = some (model, version) := by
  have alone : rsplitOnce "-preview-".toList ("-preview-".toList ++ version) = some ([], version) := by
    rw [rsplitOnce_preview rfl written]
    rfl
  have found := rsplitOnce_append_left alone model
  rwa [← List.append_assoc, List.append_nil] at found

variable {chrono : Chrono}

theorem datedPreview_none {text : List Char}
    (undated : ∀ model date, rsplitOnce "-preview-".toList text = some (model, date) → parseDate chrono date = none) :
    datedPreview chrono text = none := by
  unfold datedPreview
  split
  next => rfl
  next model date found => rw [undated model date found]

/-- Another version behind the name makes no dated preview of it, if it makes no date of what
stands in front of it. -/
theorem datedPreview_swapped {model version other : List Char} {read : NaiveDate × DateFormat}
    (undated : datedPreview chrono (model ++ '-' :: version) = none) (dated : parseDate chrono version = some read)
    (written : ∀ c ∈ version, Written isWhitespace c) (otherWritten : ∀ c ∈ other, Written isWhitespace c)
    (swapped : ∀ before front, model = before ++ '-' :: front → parseDate chrono (front ++ '-' :: version) = none →
      parseDate chrono (front ++ '-' :: other) = none) :
    datedPreview chrono (model ++ '-' :: other) = none := by
  have joined (tail : List Char) : model ++ '-' :: tail = (model ++ ['-']) ++ tail := by simp
  have ended : (model ++ ['-']).getLast? = some '-' := by simp
  apply datedPreview_none
  intro _ _ found
  rw [joined, rsplitOnce_preview ended otherWritten, Option.map_eq_some_iff] at found
  obtain ⟨⟨first, inside⟩, cut, same⟩ := found
  obtain ⟨rfl, rfl⟩ := Prod.mk.inj same
  have unread : parseDate chrono (inside ++ version) = none := by
    cases read : parseDate chrono (inside ++ version) with
    | none => rfl
    | some parts =>
      have last : rsplitOnce "-preview-".toList (model ++ '-' :: version) = some (first, inside ++ version) := by
        rw [joined, rsplitOnce_preview ended written, cut]
        rfl
      rw [datedPreview_of_read last read] at undated
      cases undated
  have split := rsplitOnce_eq cut
  obtain rfl | ⟨front, c, rfl⟩ := List.eq_nil_or_concat inside
  · rw [List.nil_append, dated] at unread
    cases unread
  · rw [List.concat_eq_append] at *
    rw [← List.append_assoc] at split
    obtain ⟨rfl, dash⟩ := List.append_inj' split rfl
    cases dash
    have cutModel : first ++ "-preview-".toList ++ front = (first ++ "-preview".toList) ++ '-' :: front := by simp
    have swapped := swapped _ _ cutModel
    simpa using swapped (by simpa using unread)

/-- A name that ends in a letter has no date at its end. -/
theorem datedPreview_letter {text : List Char} {c : Char} (ends : text.getLast? = some c)
    (undated : ∀ date, date.getLast? = some c → parseDate chrono date = none) (letter : c ≠ '-') :
    datedPreview chrono text = none := by
  apply datedPreview_none
  intro model date found
  apply undated
  rw [rsplitOnce_eq found, List.getLast?_append] at ends
  cases last : date.getLast? with
  | some other => rwa [last, Option.some_or] at ends
  | none =>
    rw [last, Option.none_or, List.getLast?_append] at ends
    exact absurd (Option.some.inj ends).symm letter

end Previews

theorem dropSuffix?_none {text ending : List Char} {c other : Char} (ends : text.getLast? = some c)
    (last : ending.getLast? = some other) (different : c ≠ other) : text.dropSuffix? ending = none := by
  rw [Option.eq_none_iff_forall_ne_some]
  intro before found
  rw [dropSuffix?_eq found, List.getLast?_append, last, Option.some_or] at ends
  exact different (Option.some.inj ends).symm

section Rereading
variable {chrono : Chrono} {real : NaiveDate → Prop} (documented : Documented chrono real)
include documented

theorem parseDate_letter {text : List Char} {c : Char} (member : c ∈ text) (letter : ¬ Written isWhitespace c) :
    parseDate chrono text = none := by
  rw [Option.eq_none_iff_forall_ne_some]
  intro ⟨date, format⟩ read
  exact letter (parseDate_written documented read c member)

theorem not_fullDate {text : List Char} (dashed : Lib.Strftime.date isWhitespace ['-'] text = none)
    (compact : Lib.Strftime.date isWhitespace [] text = none) : fullDateVersion chrono text = none := by
  unfold fullDateVersion
  split
  next date format read =>
    obtain ⟨_, found⟩ := parseDate_inv documented read
    cases format with
    | yearMonthDayDashed => cases dashed.symm.trans found
    | yearMonthDay => cases compact.symm.trans found
    | monthDayDashed | monthDay => rfl
  next => rfl

/-- The day of a printed month and day is no full date. -/
theorem printed_shorter (date : NaiveDate) (isReal : real date) {format : DateFormat} (short : format.isFullDate = false) :
    ∀ cut ∈ cutsAt '-' (printedDate date format), fullDateVersion chrono cut.2 = none := by
  obtain ⟨_, days⟩ := documented.bounded date isReal
  have noDash (count : Nat) : '-' ∉ padded 2 count := fun member => absurd (padded_digits _ _ _ member) (by decide)
  intro ⟨before, after⟩ member
  have split := eq_of_mem_cutsAt member
  cases format with
  | yearMonthDayDashed | yearMonthDay => cases short
  | monthDay =>
    have dash : '-' ∈ printedDate date .monthDay := by simp [split]
    cases undashed_digits (.inr rfl) nofun _ dash
  | monthDayDashed =>
    rw [printedDate] at split
    have absent : '-' ∉ before := by
      have once := congrArg (List.count '-') split
      simp only [List.count_append, List.count_cons_self, padded_count] at once
      exact List.count_eq_zero.mp (by omega)
    obtain ⟨rfl, rfl⟩ := cut_first (noDash _) absent split
    have isDay : Field isWhitespace 4 ([] ++ padded 2 date.day) (value (padded 2 date.day)) := by
      have length : (padded 2 date.day).length = 2 := padded_two (by omega)
      exact .mk (by simp) (padded_digits _ _) (padded_ne_nil _ _) (by omega)
    have undashed : ([] ++ padded 2 date.day).count '-' < 2 := by simp [padded_count]
    have first := not_dashed undashed
    have second := Year.not_compact isWhitespace_visible (.unsigned isDay)
    rw [List.nil_append] at first second
    exact not_fullDate documented first second

/-- The date that a name ends in is read again, with nothing more of the name. -/
theorem reparse_date {text model version : List Char} {date : NaiveDate} {format : DateFormat}
    (undecided : Undecided chrono text) (found : versionCandidate chrono text = some (model, version))
    (read : parseDate chrono version = some (date, format)) (kept : VersionKept model (.date date format)) :
    parseModelAndVersion chrono (model ++ '-' :: printedDate date format) '-' = (model, some (.date date format)) := by
  have isReal := (parseDate_inv documented read).1
  have readable : Readable chrono real date format := ⟨isReal, kept.1, parseDate_year documented read⟩
  have again := parseDate_printed documented readable
  obtain rfl := (versionCandidate_eq_some found).1
  obtain ⟨last, ends, digit⟩ := printedDate_last date format
  have nonempty : printedDate date format ≠ [] := by
    intro empty
    rw [empty] at ends
    cases ends
  have behind : ∀ before front, model = before ++ '-' :: front →
      fullDateVersion chrono (front ++ '-' :: version) = none →
      parseDate chrono (front ++ '-' :: printedDate date format) = none := by
    intro before front split unread
    rw [Option.eq_none_iff_forall_ne_some]
    intro longer found
    obtain ⟨rfl, short, blanks⟩ | ⟨_, longer⟩ := (parseDate_behind documented readable found).written documented read
    · exact kept.2 rfl short ⟨before, front, split, blanks⟩
    · simp [fullDateVersion, longer, DateFormat.isFullDate] at unread
  have ending : (model ++ '-' :: printedDate date format).getLast? = some last := by
    rw [List.getLast?_append, List.getLast?_cons, ends]
    rfl
  have undecided : Undecided chrono (model ++ '-' :: printedDate date format) := by
    refine ⟨?_, ?_, ?_⟩
    · exact datedPreview_swapped undecided.dated read (parseDate_written documented read)
        (parseDate_written documented again) fun before front split unread =>
          behind before front split (fullDateVersion_none unread)
    · refine dropSuffix?_none ending rfl ?_
      rintro rfl
      cases digit
    · refine dropSuffix?_none ending rfl ?_
      rintro rfl
      cases digit
  rw [parseModelAndVersion_undecided undecided]
  have taken : versionCandidate chrono (model ++ '-' :: printedDate date format) =
      some (model, printedDate date format) := by
    refine versionCandidate_of_longest again nonempty (fun cut member => ?_) (printed_shorter documented date isReal)
    exact behind _ _ (eq_of_mem_cutsAt member) (versionCandidate_longest found cut member)
  rw [taken]
  simp only [anyVersion, again]

theorem reparse_dated (model : List Char) {version : List Char} {date : NaiveDate} {format : DateFormat}
    (read : parseDate chrono version = some (date, format)) (kept : format = .yearMonthDay → FourDigits date.year) :
    parseModelAndVersion chrono (model ++ "-preview-".toList ++ printedDate date format) '-' =
      (model, some (.dateVersionedPreview date format)) := by
  have isReal := (parseDate_inv documented read).1
  have again := parseDate_printed documented ⟨isReal, kept, parseDate_year documented read⟩
  have cut := rsplitOnce_dated model (parseDate_written documented again)
  rw [parseModelAndVersion, datedPreview_of_read cut again]

omit documented in
theorem parseModelAndVersion_preview {text model : List Char} (undated : datedPreview chrono text = none)
    (ends : text.dropSuffix? "-preview".toList = some model) :
    parseModelAndVersion chrono text '-' = (model, some .preview) := by
  rw [parseModelAndVersion, undated, ends]

omit documented in
theorem parseModelAndVersion_latest {text model : List Char} (undated : datedPreview chrono text = none)
    (other : text.dropSuffix? "-preview".toList = none) (ends : text.dropSuffix? "-latest".toList = some model) :
    parseModelAndVersion chrono text '-' = (model, some .latest) := by
  rw [parseModelAndVersion, undated, other, ends]

/-- A keyword is printed in lower case, and then ends the name as such. -/
theorem reparse_keyword (model : List Char) {version : Version} (keyword : version = .latest ∨ version = .preview) :
    parseModelAndVersion chrono (model ++ '-' :: version.fmt chrono) '-' = (model, some version) := by
  have undated {c : Char} (letter : ¬ Written isWhitespace c) (date : List Char) (ends : date.getLast? = some c) :
      parseDate chrono date = none := parseDate_letter documented (List.mem_of_getLast? ends) letter
  obtain rfl | rfl := keyword
  · have ends : (model ++ '-' :: "latest".toList).getLast? = some 't' := by simp
    have unsuffixed : (model ++ '-' :: "latest".toList).dropSuffix? "-preview".toList = none :=
      dropSuffix?_none ends (by decide) (by decide : 't' ≠ 'w')
    have cut : (model ++ '-' :: "latest".toList).dropSuffix? "-latest".toList = some model :=
      List.dropSuffix?_eq_some_iff.mpr ⟨'-' :: "latest".toList, rfl, by decide⟩
    have dated := datedPreview_letter ends (undated letter_unwritten.2) (by decide)
    exact parseModelAndVersion_latest dated unsuffixed cut
  · have ends : (model ++ '-' :: "preview".toList).getLast? = some 'w' := by simp
    have cut : (model ++ '-' :: "preview".toList).dropSuffix? "-preview".toList = some model :=
      List.dropSuffix?_eq_some_iff.mpr ⟨'-' :: "preview".toList, rfl, by decide⟩
    have dated := datedPreview_letter ends (undated letter_unwritten.1) (by decide)
    exact parseModelAndVersion_preview dated cut

omit documented in
theorem printed_date (model : List Char) (date : NaiveDate) (format : DateFormat) :
    printed chrono (model, some (.date date format)) = model ++ '-' :: chrono.format date format := rfl

omit documented in
theorem printed_dated (model : List Char) (date : NaiveDate) (format : DateFormat) :
    printed chrono (model, some (.dateVersionedPreview date format)) =
      model ++ "-preview-".toList ++ chrono.format date format := by
  have word : "-preview-".toList = '-' :: "preview-".toList := by decide
  rw [word, List.append_assoc]
  rfl

theorem reparse_of_kept {text : List Char} {parts : List Char × Option Version}
    (reads : parseModelAndVersion chrono text '-' = parts)
    (kept : VersionKept parts.1 (parts.2.getD .implicitLatest)) :
    parseModelAndVersion chrono (printed chrono parts) '-' = parts := by
  have parsed := parsed chrono text
  rw [reads] at parsed
  cases parsed with
  | @dated model version date format last read =>
    rw [printed_dated, documented.format date format (parseDate_inv documented read).1]
    exact reparse_dated documented model read kept
  | @preview model undated ends =>
    rw [dropSuffix?_eq ends] at reads
    exact reads
  | @latest model undated ends =>
    rw [dropSuffix?_eq ends] at reads
    exact reads
  | @date model version date format undecided found read =>
    rw [printed_date, documented.format date format (parseDate_inv documented read).1]
    exact reparse_date documented undecided found read kept
  | keyword _ _ _ keyword => exact reparse_keyword documented _ keyword
  | plain => exact reads

theorem kept_of_reparse {text : List Char} {parts : List Char × Option Version}
    (reads : parseModelAndVersion chrono text '-' = parts)
    (again : parseModelAndVersion chrono (printed chrono parts) '-' = parts) :
    VersionKept parts.1 (parts.2.getD .implicitLatest) := by
  have parsed := parsed chrono text
  rw [reads] at parsed
  have reparsed := ModelIds.parsed chrono (printed chrono parts)
  rw [again] at reparsed
  -- A date without separators is read from its digits, which a signed year would use up.
  have compact {date : NaiveDate} (isReal : real date)
      (read : parseDate chrono (chrono.format date .yearMonthDay) = some (date, .yearMonthDay)) : FourDigits date.year := by
    rw [documented.format _ _ isReal] at read
    by_contra long
    have found : Lib.Strftime.date isWhitespace [] (printedDate date .yearMonthDay) =
        some (date.year, date.month, date.day) := (parseDate_inv documented read).2
    rw [printedDate, compact_signed isWhitespace_visible long] at found
    cases found
  cases parsed with
  | @dated model version date format last read =>
    have isReal := (parseDate_inv documented read).1
    rintro rfl
    rw [printed_dated] at reparsed
    generalize written : model ++ "-preview-".toList ++ chrono.format date .yearMonthDay = whole at reparsed
    cases reparsed with
    | @dated _ version _ _ last read =>
      have same : chrono.format date .yearMonthDay = version :=
        List.append_cancel_left (written.trans (rsplitOnce_eq last))
      exact compact isReal (same ▸ read)
    | keyword _ _ _ keyword => obtain keyword | keyword := keyword <;> cases keyword
  | @date model version date format undecided found read =>
    have isReal := (parseDate_inv documented read).1
    rw [printed_date] at reparsed
    generalize written : model ++ '-' :: chrono.format date format = whole at reparsed
    cases reparsed with
    | @date _ version _ _ _ found read =>
      have split := (versionCandidate_eq_some found).1
      have same : '-' :: chrono.format date format = '-' :: version := List.append_cancel_left (written.trans split)
      obtain rfl := (List.cons.inj same).2
      refine ⟨?_, ?_⟩
      · rintro rfl
        exact compact isReal read
      · rintro rfl short ⟨before, blanks, rfl, blank⟩
        rw [split] at found
        have unread := versionCandidate_longest found _ (mem_cutsAt rfl)
        have signed := parseDate_signed documented isReal short blank
        rw [documented.format _ _ isReal] at unread
        simp [fullDateVersion, signed, DateFormat.isFullDate] at unread
    | keyword _ _ _ keyword => obtain keyword | keyword := keyword <;> cases keyword
  | preview | latest | plain => trivial
  | keyword _ _ _ keyword =>
    obtain rfl | rfl := keyword
    · trivial
    · trivial

theorem reparse_iff {text : List Char} {parts : List Char × Option Version}
    (reads : parseModelAndVersion chrono text '-' = parts) :
    parseModelAndVersion chrono (printed chrono parts) '-' = parts ↔
      VersionKept parts.1 (parts.2.getD .implicitLatest) :=
  ⟨kept_of_reparse documented reads, reparse_of_kept documented reads⟩

end Rereading

end AiGateway.ModelIds
