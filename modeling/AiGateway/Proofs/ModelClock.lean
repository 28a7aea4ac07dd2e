import AiGateway.Proofs.ModelNames

/-! Reading one model name in two different years. The current year enters only where a date
is written without one. -/

namespace AiGateway.ModelIds

open AiGateway Lib.Splits

/-- The calendar at another time. -/
def inYear (chrono : Chrono) (year : Int) : Chrono := { chrono with year := year }

/-- Whether the version is a date that was completed with the current year. -/
def yearlessVersion : Version → Bool
  | .date _ format | .dateVersionedPreview _ format => !format.isFullDate
  | .implicitLatest | .latest | .preview => false

def yearless : ModelId → Bool
  | .modelIdWithVersion _ id => yearlessVersion id.version
  | .bedrock id => yearlessVersion id.version
  | .ollama _ | .unknown _ => false

/-- Two results are equal, or one of them is marked. -/
def SameUnless {α : Type} (marked : α → Bool) (first second : Option α) : Prop :=
  first.any marked = true ∨ second.any marked = true ∨ first = second

section SameUnless
variable {α β : Type} {marked : α → Bool}

theorem SameUnless.of_eq {first second : Option α} (same : first = second) : SameUnless marked first second :=
  .inr (.inr same)

theorem SameUnless.map {first second : Option α} (same : SameUnless marked first second) {image : β → Bool} {f : α → β}
    (kept : ∀ value, marked value = true → image (f value) = true) : SameUnless image (first.map f) (second.map f) := by
  have marks {result : Option α} (found : result.any marked = true) : (result.map f).any image = true := by
    cases result with
    | none => cases found
    | some value => exact kept value found
  obtain left | right | same := same
  · exact .inl (marks left)
  · exact .inr (.inl (marks right))
  · exact .inr (.inr (congrArg (Option.map f) same))

theorem SameUnless.or {first second rest rest' : Option α} (same : SameUnless marked first second)
    (later : SameUnless marked rest rest') : SameUnless marked (first.or rest) (second.or rest') := by
  have marks {result other : Option α} (found : result.any marked = true) : (result.or other).any marked = true := by
    cases result with
    | none => cases found
    | some value => exact found
  obtain left | right | rfl := same
  · exact .inl (marks left)
  · exact .inr (.inl (marks right))
  · cases first with
    | none => exact later
    | some value => exact .of_eq rfl

/-- A search through one list finds the same, unless it finds something marked. -/
theorem SameUnless.findSome {items : List β} {find find' : β → Option α}
    (same : ∀ item, SameUnless marked (find item) (find' item)) :
    SameUnless marked (items.findSome? find) (items.findSome? find') := by
  induction items with
  | nil => exact .of_eq rfl
  | cons item rest ih =>
    rw [List.findSome?_cons, List.findSome?_cons]
    obtain left | right | same := same item
    · cases found : find item with
      | none => simp [found] at left
      | some value =>
        rw [found] at left
        exact .inl left
    · cases found : find' item with
      | none => simp [found] at right
      | some value =>
        rw [found] at right
        exact .inr (.inl right)
    · rw [same]
      cases find' item with
      | none => exact ih
      | some value => exact .of_eq rfl

end SameUnless

section Dates
variable (chrono : Chrono) (year year' : Int)

/-- The dates that are written in full, which are tried first. -/
def fullDate (input : List Char) : Option (NaiveDate × DateFormat) :=
  match chrono.parseFromStr input .yearMonthDayDashed with
  | some date => some (date, .yearMonthDayDashed)
  | none => (chrono.parseFromStr input .yearMonthDay).map fun date => (date, .yearMonthDay)

theorem parseDate_full {input : List Char} {read : NaiveDate × DateFormat} (full : fullDate chrono input = some read) :
    parseDate chrono input = some read ∧ read.2.isFullDate = true := by
  rw [fullDate] at full
  rw [parseDate]
  cases dashed : chrono.parseFromStr input .yearMonthDayDashed with
  | some date =>
    rw [dashed] at full
    cases full
    exact ⟨rfl, rfl⟩
  | none =>
    rw [dashed] at full
    cases compact : chrono.parseFromStr input .yearMonthDay with
    | some date =>
      rw [compact] at full
      cases full
      exact ⟨rfl, rfl⟩
    | none =>
      rw [compact] at full
      cases full

theorem parseDate_yearless {input : List Char} (partly : fullDate chrono input = none)
    {read : NaiveDate × DateFormat} (found : parseDate chrono input = some read) : read.2.isFullDate = false := by
  rw [fullDate] at partly
  rw [parseDate] at found
  cases dashed : chrono.parseFromStr input .yearMonthDayDashed with
  | some date => simp [dashed] at partly
  | none =>
    cases compact : chrono.parseFromStr input .yearMonthDay with
    | some date => simp [dashed, compact] at partly
    | none =>
      rw [dashed, compact] at found
      dsimp only at found
      split at found
      · cases found
        rfl
      · split at found
        · cases found
          rfl
        · cases found

def yearlessDate (read : NaiveDate × DateFormat) : Bool := !read.2.isFullDate

theorem parseDate_same (input : List Char) :
    SameUnless yearlessDate (parseDate (inYear chrono year) input) (parseDate (inYear chrono year') input) := by
  cases full : fullDate chrono input with
  | some read =>
    apply SameUnless.of_eq
    exact (parseDate_full (inYear chrono year) full).1.trans (parseDate_full (inYear chrono year') full).1.symm
  | none =>
    cases first : parseDate (inYear chrono year) input with
    | some read =>
      have partly := parseDate_yearless (inYear chrono year) full first
      exact .inl (by simp [yearlessDate, partly])
    | none =>
      cases second : parseDate (inYear chrono year') input with
      | some read =>
        have partly := parseDate_yearless (inYear chrono year') full second
        exact .inr (.inl (by simp [yearlessDate, partly]))
      | none => exact .of_eq rfl

/-- A full date does not depend on the year. -/
theorem fullDateVersion_inYear : fullDateVersion (inYear chrono year) = fullDateVersion (inYear chrono year') := by
  funext candidate
  have read (year : Int) : fullDateVersion (inYear chrono year) candidate =
      (fullDate chrono candidate).map fun read => .date read.1 read.2 := by
    rw [fullDateVersion]
    cases full : fullDate chrono candidate with
    | some read =>
      obtain ⟨found, whole⟩ := parseDate_full (inYear chrono year) full
      simp [found, whole]
    | none =>
      cases found : parseDate (inYear chrono year) candidate with
      | none => rfl
      | some read =>
        have partly := parseDate_yearless (inYear chrono year) full found
        simp [partly]
  rw [read year, read year']

theorem anyVersion_same (candidate : List Char) :
    SameUnless yearlessVersion (anyVersion (inYear chrono year) candidate) (anyVersion (inYear chrono year') candidate) := by
  have marks {year : Int} (found : (parseDate (inYear chrono year) candidate).any yearlessDate = true) :
      (anyVersion (inYear chrono year) candidate).any yearlessVersion = true := by
    rw [anyVersion]
    cases read : parseDate (inYear chrono year) candidate with
    | none => simp [read] at found
    | some date =>
      rw [read] at found
      exact found
  obtain left | right | same := parseDate_same chrono year year' candidate
  · exact .inl (marks left)
  · exact .inr (.inl (marks right))
  · apply SameUnless.of_eq
    rw [anyVersion, anyVersion, same]

end Dates

section Names
variable (chrono : Chrono) (year year' : Int)

def yearlessCut (cut : List Char × Version) : Bool := yearlessVersion cut.2

theorem firstVersion_same (candidates : List (List Char × List Char)) :
    SameUnless yearlessCut (firstVersion (anyVersion (inYear chrono year)) candidates)
      (firstVersion (anyVersion (inYear chrono year')) candidates) := by
  apply SameUnless.findSome
  intro ⟨model, candidate⟩
  exact (anyVersion_same chrono year year' candidate).map fun version found => found

theorem datedPreview_same (text : List Char) :
    SameUnless yearlessCut (datedPreview (inYear chrono year) text) (datedPreview (inYear chrono year') text) := by
  have read (year : Int) : datedPreview (inYear chrono year) text =
      (rsplitOnce "-preview-".toList text).bind fun cut =>
        (parseDate (inYear chrono year) cut.2).map fun read => (cut.1, .dateVersionedPreview read.1 read.2) := by
    rw [datedPreview]
    cases rsplitOnce "-preview-".toList text with
    | none => rfl
    | some cut =>
      obtain ⟨model, afterPreview⟩ := cut
      dsimp only [Option.bind_some]
      cases parseDate (inYear chrono year) afterPreview <;> rfl
  rw [read year, read year']
  cases rsplitOnce "-preview-".toList text with
  | none => exact .of_eq rfl
  | some cut => exact (parseDate_same chrono year year' cut.2).map fun read found => found

/-- The endings that need no calendar. -/
def suffixCut (text : List Char) : Option (List Char × Version) :=
  ((text.dropSuffix? "-preview".toList).map fun model => (model, .preview)).or
    ((text.dropSuffix? "-latest".toList).map fun model => (model, .latest))

def versionCut (text : List Char) (separator : Char) : Option (List Char × Version) :=
  (datedPreview chrono text).or ((suffixCut text).or
    ((firstVersion (fullDateVersion chrono) (versionCandidates text separator)).or
      (firstVersion (anyVersion chrono) (versionCandidates text separator))))

theorem parseModelAndVersion_eq (text : List Char) (separator : Char) :
    parseModelAndVersion chrono text separator =
      (versionCut chrono text separator).elim (text, none) fun cut => (cut.1, some cut.2) := by
  rw [parseModelAndVersion, versionCut, suffixCut]
  cases datedPreview chrono text with
  | some cut => rfl
  | none =>
    cases text.dropSuffix? "-preview".toList with
    | some model => rfl
    | none =>
      cases text.dropSuffix? "-latest".toList with
      | some model => rfl
      | none =>
        dsimp only [Option.map_none, Option.none_or]
        cases firstVersion (fullDateVersion chrono) (versionCandidates text separator) with
        | some cut => rfl
        | none => cases firstVersion (anyVersion chrono) (versionCandidates text separator) <;> rfl

theorem versionCut_same (text : List Char) (separator : Char) :
    SameUnless yearlessCut (versionCut (inYear chrono year) text separator)
      (versionCut (inYear chrono year') text separator) := by
  apply SameUnless.or (datedPreview_same chrono year year' text)
  apply SameUnless.or (.of_eq rfl)
  apply SameUnless.or
  · rw [fullDateVersion_inYear chrono year year']
    exact .of_eq rfl
  · exact firstVersion_same chrono year year' _

def yearlessParts (parts : List Char × Option Version) : Bool := parts.2.any yearlessVersion

/-- A name is cut the same way, unless its version lacks a year. -/
theorem parseModelAndVersion_same (text : List Char) (separator : Char) :
    SameUnless yearlessParts (some (parseModelAndVersion (inYear chrono year) text separator))
      (some (parseModelAndVersion (inYear chrono year') text separator)) := by
  have marks {year : Int} (found : (versionCut (inYear chrono year) text separator).any yearlessCut = true) :
      yearlessParts (parseModelAndVersion (inYear chrono year) text separator) = true := by
    rw [parseModelAndVersion_eq]
    cases cut : versionCut (inYear chrono year) text separator with
    | none => simp [cut] at found
    | some cut =>
      rw [cut] at found
      exact found
  obtain left | right | same := versionCut_same chrono year year' text separator
  · exact .inl (marks left)
  · exact .inr (.inl (marks right))
  · apply SameUnless.of_eq
    rw [parseModelAndVersion_eq, parseModelAndVersion_eq, same]

end Names

/-- The readings of one name: rejected with one error, or accepted as one model unless a
year was filled in. -/
def SameReading (first second : Except ModelNameError ModelId) : Prop :=
  match first, second with
  | .ok id, .ok id' => yearless id = true ∨ yearless id' = true ∨ id = id'
  | .error error, .error error' => error = error'
  | _, _ => False

section Readings
variable (chrono : Chrono) (year year' : Int) (text : List Char)

theorem yearlessVersion_getD {version : Option Version} (found : version.any yearlessVersion = true) :
    yearlessVersion (version.getD .implicitLatest) = true := by
  cases version with
  | none => cases found
  | some version => exact found

theorem modelIdWithVersion_same (provider : InferenceProvider) :
    SameReading ((ModelIdWithVersion.fromStr (inYear chrono year) text).map (.modelIdWithVersion provider))
      ((ModelIdWithVersion.fromStr (inYear chrono year') text).map (.modelIdWithVersion provider)) := by
  unfold ModelIdWithVersion.fromStr
  split
  · rfl
  · split
    · rfl
    · split
      · rfl
      · split
        · rfl
        · obtain left | right | same := parseModelAndVersion_same chrono year year' text '-'
          · exact .inl (yearlessVersion_getD left)
          · exact .inr (.inl (yearlessVersion_getD right))
          · rw [Option.some.inj same]
            exact .inr (.inr rfl)

theorem bedrock_same :
    SameReading ((BedrockModelId.fromStr (inYear chrono year) text).map .bedrock)
      ((BedrockModelId.fromStr (inYear chrono year') text).map .bedrock) := by
  unfold BedrockModelId.fromStr
  cases bedrockSections text with
  | none => rfl
  | some sections =>
    obtain ⟨geo, provider, rest⟩ := sections
    dsimp only
    cases rsplitOnce "-v".toList rest with
    | none => rfl
    | some cut =>
      obtain ⟨modelPart, revision⟩ := cut
      dsimp only
      obtain left | right | same := parseModelAndVersion_same chrono year year' modelPart '-'
      · exact .inl (yearlessVersion_getD left)
      · exact .inr (.inl (yearlessVersion_getD right))
      · rw [Option.some.inj same]
        exact .inr (.inr rfl)

end Readings

/-- The clock decides neither whether a name is accepted nor, where no date lacks its year,
as what. -/
theorem reading_across_years (chrono : Chrono) (year year' : Int) (provider : InferenceProvider) (text : List Char) :
    SameReading (ModelId.fromStrAndProvider (inYear chrono year) provider text)
      (ModelId.fromStrAndProvider (inYear chrono year') provider text) := by
  unfold ModelId.fromStrAndProvider
  cases provider with
  | bedrock => exact bedrock_same chrono year year' text
  | ollama =>
    dsimp only
    cases OllamaModelId.fromStr text with
    | error error => rfl
    | ok id => exact .inr (.inr rfl)
  | openAI | anthropic | googleGemini | custom | named => exact modelIdWithVersion_same chrono year year' text _

/-- The same name before and after New Year. -/
theorem reading_differs_across_years :
    ¬ ModelId.fromStrAndProvider (inYear (Calendar.chrono 2025) 2025) .openAI "gpt-4-0314".toList =
      ModelId.fromStrAndProvider (inYear (Calendar.chrono 2025) 2026) .openAI "gpt-4-0314".toList := by
  decide

end AiGateway.ModelIds
