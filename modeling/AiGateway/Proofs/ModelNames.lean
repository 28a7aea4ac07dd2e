import AiGateway.ModelIds
import AiGateway.Lib.Runs

/-! Which model names are printed as they were read. A version is printed from what was
read of it, so that a name keeps its spelling if its version was written the way it is
printed. -/

namespace AiGateway.ModelIds

open Lib.Splits Lib.Runs

section Versions
variable (chrono : Chrono)

/-- A date that is printed another way than it is written. -/
def Respelled (text : List Char) : Prop :=
  ∃ date format, parseDate chrono text = some (date, format) ∧ chrono.format date format ≠ text

/-- The name ends neither in a dated preview nor in a keyword. -/
structure Undecided (text : List Char) : Prop where
  dated : datedPreview chrono text = none
  preview : text.dropSuffix? "-preview".toList = none
  latest : text.dropSuffix? "-latest".toList = none

/-- The first candidate that is a full date, or else the first one that is a date or, in
any letter case, a keyword. -/
def versionCandidate (text : List Char) : Option (List Char × List Char) :=
  let candidates := versionCandidates text '-'
  (candidates.find? fun cut => (fullDateVersion chrono cut.2).isSome).or
    (candidates.find? fun cut => (anyVersion chrono cut.2).isSome)

/-- The names that are printed otherwise: those whose version is a date that is printed
otherwise, and those that end in a keyword with capital letters. -/
inductive Reworded (text : List Char) : Prop where
  | preview {model date : List Char} (last : rsplitOnce "-preview-".toList text = some (model, date))
      (respelled : Respelled chrono date)
  | date {model date : List Char} (undecided : Undecided chrono text)
      (found : versionCandidate chrono text = some (model, date)) (respelled : Respelled chrono date)
  | keyword {model word : List Char} (undecided : Undecided chrono text)
      (found : versionCandidate chrono text = some (model, word)) (undated : parseDate chrono word = none)

variable {chrono}

theorem respelled_iff {text : List Char} {date : NaiveDate} {format : DateFormat}
    (read : parseDate chrono text = some (date, format)) : Respelled chrono text ↔ chrono.format date format ≠ text := by
  constructor
  · intro ⟨_, _, other, different⟩
    cases read.symm.trans other
    exact different
  · exact fun different => ⟨date, format, read, different⟩

theorem firstVersion_eq (read : List Char → Option Version) (candidates : List (List Char × List Char)) :
    firstVersion read candidates =
      (candidates.find? fun cut => (read cut.2).isSome).bind fun cut =>
        (read cut.2).map fun version => (cut.1, version) := by
  induction candidates with
  | nil => rfl
  | cons first rest ih =>
    rw [firstVersion, List.findSome?_cons, List.find?_cons]
    rcases found : read first.2 with _ | version
    · simpa [found, firstVersion] using ih
    · simp [found]

theorem anyVersion_of_fullDate {candidate : List Char} {version : Version}
    (read : fullDateVersion chrono candidate = some version) : anyVersion chrono candidate = some version := by
  rw [fullDateVersion] at read
  split at read
  next date format found =>
    split at read
    next => cases read; simp only [anyVersion, found]
    next => cases read
  next => cases read

theorem anyVersion_eq_some {candidate : List Char} {version : Version} (read : anyVersion chrono candidate = some version) :
    (∃ date format, parseDate chrono candidate = some (date, format) ∧ version = .date date format) ∨
      (parseDate chrono candidate = none ∧ (version = .latest ∨ version = .preview)) := by
  rw [anyVersion] at read
  split at read
  next date format found => cases read; exact .inl ⟨date, format, found, rfl⟩
  next undated =>
    split at read
    next => cases read; exact .inr ⟨undated, .inl rfl⟩
    next =>
      split at read
      next => cases read; exact .inr ⟨undated, .inr rfl⟩
      next => cases read

theorem datedPreview_of_read {text model date : List Char} {day : NaiveDate} {format : DateFormat}
    (last : rsplitOnce "-preview-".toList text = some (model, date)) (read : parseDate chrono date = some (day, format)) :
    datedPreview chrono text = some (model, .dateVersionedPreview day format) := by
  rw [datedPreview, last]
  simp only [read]

/-- The two loops, as one search. -/
theorem parseModelAndVersion_undecided {text : List Char} (undecided : Undecided chrono text) :
    parseModelAndVersion chrono text '-' =
      match versionCandidate chrono text with
      | none => (text, none)
      | some (model, candidate) => (model, anyVersion chrono candidate) := by
  rw [parseModelAndVersion, undecided.dated, undecided.preview, undecided.latest]
  simp only [firstVersion_eq, versionCandidate]
  cases full : (versionCandidates text '-').find? fun cut => (fullDateVersion chrono cut.2).isSome with
  | none =>
    cases any : (versionCandidates text '-').find? fun cut => (anyVersion chrono cut.2).isSome with
    | none => rfl
    | some cut =>
      have found := List.find?_some any
      obtain ⟨version, read⟩ := Option.isSome_iff_exists.mp found
      simp only [Option.bind_none, Option.bind_some, Option.none_or, read, Option.map_some]
  | some cut =>
    have found := List.find?_some full
    obtain ⟨version, read⟩ := Option.isSome_iff_exists.mp found
    simp only [Option.bind_some, Option.some_or, read, Option.map_some, anyVersion_of_fullDate read]

theorem versionCandidate_eq_some {text model candidate : List Char}
    (found : versionCandidate chrono text = some (model, candidate)) :
    text = model ++ '-' :: candidate ∧ ∃ version, anyVersion chrono candidate = some version := by
  have searched {read : List Char → Option Version}
      (found : (versionCandidates text '-').find? (fun cut => (read cut.2).isSome) = some (model, candidate)) :
      text = model ++ '-' :: candidate ∧ ∃ version, read candidate = some version := by
    have member := List.mem_of_find?_eq_some found
    have taken := List.find?_some found
    exact ⟨eq_of_mem_cutsAt (List.mem_filter.mp member).1, Option.isSome_iff_exists.mp taken⟩
  obtain full | ⟨_, any⟩ := Option.or_eq_some_iff.mp found
  · obtain ⟨split, version, read⟩ := searched full
    exact ⟨split, version, anyVersion_of_fullDate read⟩
  · exact searched any

/-- Everything the parser can make of a name. -/
inductive Parsed (chrono : Chrono) (text : List Char) : List Char × Option Version → Prop where
  | dated {model date : List Char} {day : NaiveDate} {format : DateFormat}
      (last : rsplitOnce "-preview-".toList text = some (model, date))
      (read : parseDate chrono date = some (day, format)) :
      Parsed chrono text (model, some (.dateVersionedPreview day format))
  | preview {model : List Char} (undated : datedPreview chrono text = none)
      (ends : text.dropSuffix? "-preview".toList = some model) : Parsed chrono text (model, some .preview)
  | latest {model : List Char} (undated : datedPreview chrono text = none)
      (ends : text.dropSuffix? "-latest".toList = some model) : Parsed chrono text (model, some .latest)
  | date {model date : List Char} {day : NaiveDate} {format : DateFormat} (undecided : Undecided chrono text)
      (found : versionCandidate chrono text = some (model, date))
      (read : parseDate chrono date = some (day, format)) : Parsed chrono text (model, some (.date day format))
  | keyword {model word : List Char} {version : Version} (undecided : Undecided chrono text)
      (found : versionCandidate chrono text = some (model, word)) (undated : parseDate chrono word = none)
      (keyword : version = .latest ∨ version = .preview) : Parsed chrono text (model, some version)
  | plain (undecided : Undecided chrono text) (missing : versionCandidate chrono text = none) :
      Parsed chrono text (text, none)

theorem parsed_undecided {text : List Char} (undecided : Undecided chrono text) :
    Parsed chrono text (parseModelAndVersion chrono text '-') := by
  rw [parseModelAndVersion_undecided undecided]
  cases found : versionCandidate chrono text with
  | none => exact .plain undecided found
  | some cut =>
    obtain ⟨_, version, read⟩ := versionCandidate_eq_some found
    simp only [read]
    obtain ⟨day, format, dated, rfl⟩ | ⟨undated, keyword⟩ := anyVersion_eq_some read
    · exact .date undecided found dated
    · exact .keyword undecided found undated keyword

theorem parsed (chrono : Chrono) (text : List Char) : Parsed chrono text (parseModelAndVersion chrono text '-') := by
  cases dated : datedPreview chrono text with
  | some parts =>
    rw [parseModelAndVersion, dated]
    rw [datedPreview] at dated
    split at dated
    next => cases dated
    next last =>
      split at dated
      next read => cases dated; exact .dated last read
      next => cases dated
  | none =>
    cases preview : text.dropSuffix? "-preview".toList with
    | some model =>
      rw [parseModelAndVersion, dated, preview]
      exact .preview dated preview
    | none =>
      cases latest : text.dropSuffix? "-latest".toList with
      | some model =>
        rw [parseModelAndVersion, dated, preview, latest]
        exact .latest dated latest
      | none => exact parsed_undecided ⟨dated, preview, latest⟩

/-- What both kinds of name print for a model and its version. -/
def printed (chrono : Chrono) (parts : List Char × Option Version) : List Char :=
  match parts.2 with
  | none => parts.1
  | some version => parts.1 ++ '-' :: version.fmt chrono

theorem reworded_of_dated {text model date : List Char} {day : NaiveDate} {format : DateFormat}
    (last : rsplitOnce "-preview-".toList text = some (model, date)) (read : parseDate chrono date = some (day, format)) :
    Reworded chrono text ↔ chrono.format day format ≠ date := by
  have dated := datedPreview_of_read last read
  constructor
  · intro reworded
    cases reworded with
    | preview other respelled =>
      cases last.symm.trans other
      exact (respelled_iff read).mp respelled
    | date undecided => cases undecided.dated.symm.trans dated
    | keyword undecided => cases undecided.dated.symm.trans dated
  · exact fun different => .preview last ((respelled_iff read).mpr different)

theorem reworded_undated {text : List Char} (undated : datedPreview chrono text = none) (reworded : Reworded chrono text) :
    Undecided chrono text ∧ ∃ model candidate, versionCandidate chrono text = some (model, candidate) ∧
      (Respelled chrono candidate ∨ parseDate chrono candidate = none) := by
  cases reworded with
  | preview last respelled =>
    obtain ⟨_, _, read, _⟩ := respelled
    cases undated.symm.trans (datedPreview_of_read last read)
  | date undecided found respelled => exact ⟨undecided, _, _, found, .inl respelled⟩
  | keyword undecided found undated => exact ⟨undecided, _, _, found, .inr undated⟩

/-- A keyword among the candidates is not in lower case: the name would end in it. -/
theorem Undecided.capital {text model word : List Char} (undecided : Undecided chrono text)
    (split : text = model ++ '-' :: word) : word ≠ "latest".toList ∧ word ≠ "preview".toList := by
  constructor
  · intro same
    have found : text.dropSuffix? "-latest".toList = some model :=
      List.dropSuffix?_eq_some_iff.mpr ⟨'-' :: word, split, by rw [same]; rfl⟩
    cases undecided.latest.symm.trans found
  · intro same
    have found : text.dropSuffix? "-preview".toList = some model :=
      List.dropSuffix?_eq_some_iff.mpr ⟨'-' :: word, split, by rw [same]; rfl⟩
    cases undecided.preview.symm.trans found

private theorem printed_version_iff {text model written : List Char} {version : Version}
    (split : text = model ++ '-' :: written) : printed chrono (model, some version) = text ↔ version.fmt chrono = written := by
  rw [split, printed]
  simp

/-- A version is cut off the name at a dash and printed after one: the name stays as it
is if what is printed of the version is what was cut off. -/
theorem Parsed.printed_iff {text : List Char} {parts : List Char × Option Version} (parsed : Parsed chrono text parts) :
    printed chrono parts = text ↔ ¬ Reworded chrono text := by
  cases parsed with
  | @dated model date day format last read =>
    have split : text = model ++ '-' :: ("preview-".toList ++ date) := by
      rw [rsplitOnce_eq last]
      simp
    rw [printed_version_iff split, reworded_of_dated last read, not_not]
    exact List.append_right_inj "preview-".toList
  | preview undated ends =>
    rw [printed_version_iff (dropSuffix?_eq ends)]
    apply iff_of_true rfl
    intro reworded
    cases (reworded_undated undated reworded).1.preview.symm.trans ends
  | latest undated ends =>
    rw [printed_version_iff (dropSuffix?_eq ends)]
    apply iff_of_true rfl
    intro reworded
    cases (reworded_undated undated reworded).1.latest.symm.trans ends
  | @date model date day format undecided found read =>
    rw [printed_version_iff (versionCandidate_eq_some found).1]
    have spelled : chrono.format day format ≠ date ↔ Reworded chrono text := by
      rw [← respelled_iff read]
      constructor
      · exact fun respelled => .date undecided found respelled
      · intro reworded
        obtain ⟨_, _, _, other, respelled | undated⟩ := reworded_undated undecided.dated reworded
        · cases found.symm.trans other
          exact respelled
        · cases found.symm.trans other
          cases read.symm.trans undated
    rw [← spelled, not_not]
    rfl
  | keyword undecided found undated keyword =>
    have split := (versionCandidate_eq_some found).1
    obtain ⟨notLatest, notPreview⟩ := undecided.capital split
    have reworded : Reworded chrono text := .keyword undecided found undated
    rw [printed_version_iff split]
    refine iff_of_false ?_ (not_not_intro reworded)
    obtain rfl | rfl := keyword
    · exact fun same => notLatest same.symm
    · exact fun same => notPreview same.symm
  | plain undecided missing =>
    apply iff_of_true rfl
    intro reworded
    obtain ⟨_, _, _, other, _⟩ := reworded_undated undecided.dated reworded
    cases missing.symm.trans other

theorem Parsed.versioned {text model : List Char} {version : Version} (parsed : Parsed chrono text (model, some version)) :
    version ≠ .implicitLatest := by
  cases parsed with
  | dated | preview | latest | date => nofun
  | keyword _ _ _ keyword =>
    obtain rfl | rfl := keyword
    · nofun
    · nofun

end Versions

section Names
variable (chrono : Chrono)

theorem fmt_modelIdWithVersion {text model : List Char} {version : Option Version}
    (parsed : Parsed chrono text (model, version)) :
    ModelIdWithVersion.fmt chrono ⟨String.ofList model, version.getD .implicitLatest⟩ = printed chrono (model, version) := by
  cases version with
  | none => simp [ModelIdWithVersion.fmt, printed]
  | some version =>
    have versioned := parsed.versioned
    cases version <;> simp_all [ModelIdWithVersion.fmt, printed]

theorem fmt_bedrock {text model provider internal : List Char} {version : Option Version} {geo : Option (List Char)}
    (parsed : Parsed chrono text (model, version)) :
    BedrockModelId.fmt chrono ⟨geo.map String.ofList, String.ofList provider, String.ofList model,
        version.getD .implicitLatest, String.ofList internal⟩ =
      (geo.elim [] (· ++ ['.'])) ++ provider ++ '.' :: printed chrono (model, version) ++ '-' :: internal := by
  cases version with
  | none => cases geo <;> simp [BedrockModelId.fmt, printed]
  | some version =>
    have versioned := parsed.versioned
    cases version <;> cases geo <;> simp_all [BedrockModelId.fmt, printed]

theorem bedrockSections_inv {text vendor rest : List Char} {geo : Option (List Char)}
    (found : bedrockSections text = some (geo, vendor, rest)) :
    text = (geo.elim [] (· ++ ['.'])) ++ vendor ++ '.' :: rest ∧ '.' ∉ vendor ∧ (∀ place ∈ geo, '.' ∉ place) ∧
      (geo = none → '.' ∉ rest) := by
  simp only [bedrockSections] at found
  split at found
  next many =>
    obtain ⟨_, whole⟩ | ⟨first, after, rfl, noFirst, cut⟩ := splitn_cases '.' 1 text
    · rw [whole] at found
      cases found
    · obtain ⟨_, whole⟩ | ⟨second, last, rfl, noSecond, again⟩ := splitn_cases '.' 0 after
      · rw [cut, whole] at found
        cases found
      · rw [cut, again] at found
        cases found
        exact ⟨by simp, noSecond, by simpa using noFirst, nofun⟩
  next =>
    split at found
    next once =>
      obtain ⟨_, whole⟩ | ⟨first, last, rfl, noFirst, cut⟩ := splitn_cases '.' 0 text
      · rw [whole] at found
        cases found
      · rw [cut] at found
        cases found
        refine ⟨by simp, noFirst, by simp, fun _ => List.count_eq_zero.mp ?_⟩
        simp only [List.count_append, List.count_cons_self] at once
        omega
    next => cases found

theorem fmt_ollama_iff {text : List Char} {id : OllamaModelId} (accepted : OllamaModelId.fromStr text = .ok id) :
    id.fmt = text ↔ ¬ ∃ model, ':' ∉ model ∧ text = model ++ [':'] := by
  rw [OllamaModelId.fromStr] at accepted
  obtain ⟨absent, whole⟩ | ⟨model, tag, rfl, absent, cut⟩ := splitn_cases ':' 0 text
  · rw [whole] at accepted
    cases accepted
    apply iff_of_true (by simp [OllamaModelId.fmt])
    intro ⟨model, _, split⟩
    exact absent (by simp [split])
  · rw [cut] at accepted
    cases tag with
    | nil =>
      cases accepted
      refine iff_of_false (by simp [OllamaModelId.fmt]) (not_not_intro ⟨model, absent, rfl⟩)
    | cons c rest =>
      cases accepted
      apply iff_of_true (by simp [OllamaModelId.fmt])
      intro ⟨other, missing, split⟩
      have first : splitOnce ':' (model ++ ':' :: c :: rest) = some (model, c :: rest) := splitOnce_eq_some absent
      rw [split, splitOnce_eq_some missing] at first
      cases first

/-- The names that are printed otherwise. Of an Ollama name, an empty tag is lost; of a
Bedrock name, the version before its revision is read and printed. -/
def Rewritten (chrono : Chrono) (provider : InferenceProvider) (text : List Char) : Prop :=
  match provider with
  | .ollama => ∃ model, ':' ∉ model ∧ text = model ++ [':']
  | .bedrock =>
    ∃ geo vendor rest modelPart revision, bedrockSections text = some (geo, vendor, rest) ∧
      rsplitOnce "-v".toList rest = some (modelPart, revision) ∧ Reworded chrono modelPart
  | .openAI | .anthropic | .googleGemini | .custom | .named _ => Reworded chrono text

theorem fmt_modelIdWithVersion_iff {text : List Char} {id : ModelIdWithVersion}
    (accepted : ModelIdWithVersion.fromStr chrono text = .ok id) : id.fmt chrono = text ↔ ¬ Reworded chrono text := by
  rw [ModelIdWithVersion.fromStr] at accepted
  split at accepted
  · cases accepted
  split at accepted
  · cases accepted
  split at accepted
  · cases accepted
  split at accepted
  · cases accepted
  have parts := parsed chrono text
  generalize parseModelAndVersion chrono text '-' = parse at parts accepted
  cases accepted
  rw [fmt_modelIdWithVersion chrono parts]
  exact parts.printed_iff

theorem fmt_bedrock_iff {text : List Char} {id : BedrockModelId} (accepted : BedrockModelId.fromStr chrono text = .ok id) :
    id.fmt chrono = text ↔ ¬ Rewritten chrono .bedrock text := by
  rw [BedrockModelId.fromStr] at accepted
  split at accepted
  next => cases accepted
  next geo vendor rest sections =>
    split at accepted
    next => cases accepted
    next modelPart revision cut =>
      have parts := parsed chrono modelPart
      generalize parseModelAndVersion chrono modelPart '-' = parse at parts accepted
      cases accepted
      rw [fmt_bedrock chrono parts]
      have split : text = (geo.elim [] (· ++ ['.'])) ++ vendor ++ '.' :: modelPart ++ '-' :: 'v' :: revision := by
        rw [(bedrockSections_inv sections).1, rsplitOnce_eq cut]
        simp
      have rewritten : Rewritten chrono .bedrock text ↔ Reworded chrono modelPart := by
        constructor
        · intro ⟨_, _, _, _, _, found, revised, reworded⟩
          cases sections.symm.trans found
          cases cut.symm.trans revised
          exact reworded
        · exact fun reworded => ⟨geo, vendor, rest, modelPart, revision, sections, cut, reworded⟩
      rw [rewritten, ← parts.printed_iff]
      nth_rewrite 1 [split]
      simp

/-- The model part of every accepted name is printed as it was written, except for the
names that are rewritten. -/
theorem fmt_fromStrAndProvider_iff (provider : InferenceProvider) (text : List Char) (id : ModelId)
    (accepted : ModelId.fromStrAndProvider chrono provider text = .ok id) :
    id.fmt chrono = text ↔ ¬ Rewritten chrono provider text := by
  cases provider with
  | bedrock =>
    obtain ⟨read, found, rfl⟩ := map_ok accepted
    exact fmt_bedrock_iff chrono found
  | ollama =>
    obtain ⟨read, found, rfl⟩ := map_ok accepted
    exact fmt_ollama_iff found
  | openAI | anthropic | googleGemini | custom | named =>
    obtain ⟨read, found, rfl⟩ := map_ok accepted
    exact fmt_modelIdWithVersion_iff chrono found

end Names

namespace Calendar

/-- A number of at most the given width, after blanks. -/
def scan (width : Nat) (text : List Char) : Option (Nat × List Char) :=
  let text := text.dropWhile isWhitespace
  let digits := (text.take width).takeWhile Char.isDigit
  if digits.isEmpty then none
  else some (digits.foldl (fun number c => 10 * number + (c.toNat - '0'.toNat)) 0, text.drop digits.length)

def daysIn (year month : Nat) : Nat :=
  if month = 2 then if (year % 4 = 0 ∧ year % 100 ≠ 0) ∨ year % 400 = 0 then 29 else 28
  else if month ∈ [4, 6, 9, 11] then 30
  else 31

def readDate (separator : List Char) (text : List Char) : Option NaiveDate := do
  let (year, text) ← scan 4 text
  let text ← text.dropPrefix? separator
  let (month, text) ← scan 2 text
  let text ← text.dropPrefix? separator
  let (day, text) ← scan 2 text
  if text.isEmpty ∧ 1 ≤ month ∧ month ≤ 12 ∧ 1 ≤ day ∧ day ≤ daysIn year month then return ⟨year, month, day⟩ else none

def padded (width number : Nat) : List Char :=
  let digits := Nat.toDigits 10 number
  List.replicate (width - digits.length) '0' ++ digits

/-- The library's patterns, for years without a sign: numbers are read without their
leading zeros too, and printed with them. -/
def chrono (year : Int) : Chrono where
  parseFromStr text format :=
    match format with
    | .yearMonthDayDashed => readDate ['-'] text
    | .yearMonthDay => readDate [] text
    | .monthDayDashed | .monthDay => none
  format date format :=
    match format with
    | .yearMonthDayDashed => padded 4 date.year.toNat ++ '-' :: padded 2 date.month ++ '-' :: padded 2 date.day
    | .yearMonthDay => padded 4 date.year.toNat ++ padded 2 date.month ++ padded 2 date.day
    | .monthDayDashed => padded 2 date.month ++ '-' :: padded 2 date.day
    | .monthDay => padded 2 date.month ++ padded 2 date.day
  year := year

end Calendar

theorem dated_name_printed :
    ModelId.fromStrAndProvider (Calendar.chrono 2026) .anthropic "claude-opus-4-20250514".toList =
        .ok (.modelIdWithVersion .anthropic ⟨"claude-opus-4", .date ⟨2025, 5, 14⟩ .yearMonthDay⟩) ∧
      ¬ Rewritten (Calendar.chrono 2026) .anthropic "claude-opus-4-20250514".toList := by
  have accepted : ModelId.fromStrAndProvider (Calendar.chrono 2026) .anthropic "claude-opus-4-20250514".toList =
      .ok (.modelIdWithVersion .anthropic ⟨"claude-opus-4", .date ⟨2025, 5, 14⟩ .yearMonthDay⟩) := by decide
  exact ⟨accepted, (fmt_fromStrAndProvider_iff _ _ _ _ accepted).mp (by decide)⟩

/-- The last two numbers of the name are taken for a month and a day. -/
theorem numbered_name_rewritten :
    ¬ ∀ (provider : InferenceProvider) (text : List Char) (id : ModelId),
      ModelId.fromStrAndProvider (Calendar.chrono 2026) provider text = .ok id → id.fmt (Calendar.chrono 2026) = text := by
  intro printed
  have rewritten := printed .anthropic "claude-opus-4-1".toList
    (.modelIdWithVersion .anthropic ⟨"claude-opus", .date ⟨2026, 4, 1⟩ .monthDayDashed⟩) (by decide)
  exact absurd rewritten (by decide)

end AiGateway.ModelIds
