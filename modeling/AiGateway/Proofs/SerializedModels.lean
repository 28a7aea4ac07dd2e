import AiGateway.Proofs.PrintedVersions
import AiGateway.Proofs.ProviderNames

/-! Which model ids come back from what they are serialized to. -/

namespace AiGateway.ModelIds

open Lib.Splits Lib.Strftime Lib.Runs

/-- The ids that are read again as they are. -/
def SerializationKept : ModelId → Prop
  | .modelIdWithVersion _ id => VersionKept id.model.toList id.version
  | .bedrock id => VersionKept id.model.toList id.version
  | .ollama id => id ≠ ⟨"", none⟩
  | .unknown _ => True

section Versions
variable {chrono : Chrono}

theorem Parsed.version_inj {text other model : List Char} {first second : Option Version}
    (parsed : Parsed chrono text (model, first)) (again : Parsed chrono other (model, second))
    (same : first.getD .implicitLatest = second.getD .implicitLatest) : first = second := by
  cases first with
  | none =>
    cases second with
    | none => rfl
    | some version => exact absurd same.symm again.versioned
  | some version =>
    cases second with
    | none => exact absurd same parsed.versioned
    | some version => exact congrArg some same

/-- An id has the model and version it was made from. -/
theorem parts_eq_iff {text other : List Char} {parts again : List Char × Option Version}
    (parsed : Parsed chrono text parts) (reparsed : Parsed chrono other again) :
    (String.ofList again.1 = String.ofList parts.1 ∧ again.2.getD .implicitLatest = parts.2.getD .implicitLatest) ↔
      again = parts := by
  obtain ⟨model, version⟩ := parts
  obtain ⟨other, second⟩ := again
  constructor
  · intro ⟨names, versions⟩
    obtain rfl : other = model := by simpa using congrArg String.toList names
    rw [reparsed.version_inj parsed versions]
  · intro same
    cases same
    exact ⟨rfl, rfl⟩

end Versions

section Readings

/-- The names that `FromStr` does not refuse. -/
def Admitted (text : List Char) : Prop :=
  text ≠ [] ∧ text.getLast? ≠ some '-' ∧ text.getLast? ≠ some '.' ∧ text.getLast? ≠ some '@'

theorem modelIdWithVersion_of {chrono : Chrono} {text : List Char} (admitted : Admitted text) :
    ModelIdWithVersion.fromStr chrono text =
      .ok ⟨String.ofList (parseModelAndVersion chrono text '-').1,
        (parseModelAndVersion chrono text '-').2.getD .implicitLatest⟩ := by
  obtain ⟨nonempty, dash, dot, sign⟩ := admitted
  simp [ModelIdWithVersion.fromStr, nonempty, dash, dot, sign]

theorem modelIdWithVersion_inv {chrono : Chrono} {text : List Char} {id : ModelIdWithVersion}
    (accepted : ModelIdWithVersion.fromStr chrono text = .ok id) :
    Admitted text ∧ id = ⟨String.ofList (parseModelAndVersion chrono text '-').1,
      (parseModelAndVersion chrono text '-').2.getD .implicitLatest⟩ := by
  rw [ModelIdWithVersion.fromStr] at accepted
  split at accepted
  · cases accepted
  next nonempty =>
    split at accepted
    · cases accepted
    next dash =>
      split at accepted
      · cases accepted
      next dot =>
        split at accepted
        · cases accepted
        next sign =>
          cases accepted
          exact ⟨⟨by simpa using nonempty, dash, dot, sign⟩, rfl⟩

theorem ollama_reread {text : List Char} {id : OllamaModelId} (accepted : OllamaModelId.fromStr text = .ok id) :
    OllamaModelId.fromStr id.fmt = .ok id := by
  rw [OllamaModelId.fromStr] at accepted
  obtain ⟨absent, whole⟩ | ⟨model, tag, rfl, absent, cut⟩ := splitn_cases ':' 0 text
  · rw [whole] at accepted
    cases accepted
    simp [OllamaModelId.fromStr, OllamaModelId.fmt, whole]
  · rw [cut] at accepted
    cases tag with
    | nil =>
      cases accepted
      have alone : splitn ':' 2 model = [model] := by rw [splitn, splitOnce_eq_none absent]
      simp [OllamaModelId.fromStr, OllamaModelId.fmt, alone]
    | cons c rest =>
      cases accepted
      have again : splitn ':' 2 (model ++ ':' :: c :: rest) = [model, c :: rest] := by
        rw [splitn, splitOnce_eq_some absent]
        rfl
      simp [OllamaModelId.fromStr, OllamaModelId.fmt, again]

theorem ollama_fmt_nil_iff (id : OllamaModelId) : id.fmt = [] ↔ id = ⟨"", none⟩ := by
  obtain ⟨model, tag⟩ := id
  cases tag with
  | none => simp [OllamaModelId.fmt]
  | some tag => simp [OllamaModelId.fmt]

theorem bedrockSections_of {vendor rest : List Char} {geo : Option (List Char)} (noVendor : '.' ∉ vendor)
    (noGeo : ∀ place ∈ geo, '.' ∉ place) (noRest : geo = none → '.' ∉ rest) :
    bedrockSections ((geo.elim [] (· ++ ['.'])) ++ vendor ++ '.' :: rest) = some (geo, vendor, rest) := by
  cases geo with
  | none =>
    have once : (vendor ++ '.' :: rest).count '.' = 1 := by
      simp [List.count_append, List.count_eq_zero.mpr noVendor, List.count_eq_zero.mpr (noRest rfl)]
    have cut : splitn '.' 2 (vendor ++ '.' :: rest) = [vendor, rest] := by
      rw [splitn, splitOnce_eq_some noVendor]
      rfl
    simp [bedrockSections, once, cut]
  | some place =>
    have many : 2 ≤ (place ++ '.' :: (vendor ++ '.' :: rest)).count '.' := by
      simp only [List.count_append, List.count_cons_self]
      omega
    have cut : splitn '.' 3 (place ++ '.' :: (vendor ++ '.' :: rest)) = [place, vendor, rest] := by
      rw [splitn, splitOnce_eq_some (noGeo place rfl)]
      simp only [splitn, splitOnce_eq_some noVendor]
    have whole : (some place).elim [] (· ++ ['.']) ++ vendor ++ '.' :: rest = place ++ '.' :: (vendor ++ '.' :: rest) := by
      simp
    rw [whole]
    simp only [bedrockSections, many, if_true, cut]

end Readings

section Names
variable {chrono : Chrono} {real : NaiveDate → Prop} (documented : Documented chrono real)
include documented

/-- What is printed of a name ends as the name does, or in a digit or a letter of a keyword. -/
theorem printed_last {text : List Char} {parts : List Char × Option Version} (parsed : Parsed chrono text parts) :
    printed chrono parts = text ∨
      ∃ c, (printed chrono parts).getLast? = some c ∧ (c.isDigit = true ∨ c = 't' ∨ c = 'w') := by
  cases parsed with
  | @dated model version date format last read =>
    obtain ⟨c, ends, digit⟩ := printedDate_last date format
    rw [printed_dated, documented.format date format (parseDate_inv documented read).1]
    exact .inr ⟨c, by rw [List.getLast?_append, ends]; rfl, .inl digit⟩
  | @date model version date format undecided found read =>
    obtain ⟨c, ends, digit⟩ := printedDate_last date format
    rw [printed_date, documented.format date format (parseDate_inv documented read).1]
    exact .inr ⟨c, by rw [List.getLast?_append, List.getLast?_cons, ends]; rfl, .inl digit⟩
  | preview undated ends => exact .inl (dropSuffix?_eq ends).symm
  | latest undated ends => exact .inl (dropSuffix?_eq ends).symm
  | @keyword model word version undecided found undated keyword =>
    obtain rfl | rfl := keyword
    · have ends : (model ++ '-' :: "latest".toList).getLast? = some 't' := by simp
      exact .inr ⟨'t', ends, .inr (.inl rfl)⟩
    · have ends : (model ++ '-' :: "preview".toList).getLast? = some 'w' := by simp
      exact .inr ⟨'w', ends, .inr (.inr rfl)⟩
  | plain => exact .inl rfl

theorem printed_admitted {text : List Char} {parts : List Char × Option Version} (parsed : Parsed chrono text parts)
    (admitted : Admitted text) : Admitted (printed chrono parts) := by
  obtain same | ⟨c, ends, kind⟩ := printed_last documented parsed
  · rwa [same]
  · have other : c ≠ '-' ∧ c ≠ '.' ∧ c ≠ '@' := by
      refine ⟨?_, ?_, ?_⟩ <;> rintro rfl <;> exact absurd kind (by decide)
    refine ⟨?_, ?_, ?_, ?_⟩
    · intro empty
      rw [empty] at ends
      cases ends
    · simpa [ends] using other.1
    · simpa [ends] using other.2.1
    · simpa [ends] using other.2.2

/-- A name with a version is read again if its version is. -/
theorem modelIdWithVersion_reread_iff {text : List Char} {id : ModelIdWithVersion}
    (accepted : ModelIdWithVersion.fromStr chrono text = .ok id) :
    id.fmt chrono ≠ [] ∧
      (ModelIdWithVersion.fromStr chrono (id.fmt chrono) = .ok id ↔ VersionKept id.model.toList id.version) := by
  obtain ⟨admitted, rfl⟩ := modelIdWithVersion_inv accepted
  have parts := parsed chrono text
  generalize reads : parseModelAndVersion chrono text '-' = parse at parts
  have again := printed_admitted documented parts admitted
  have reparts := parsed chrono (printed chrono parse)
  rw [fmt_modelIdWithVersion chrono parts, modelIdWithVersion_of again]
  refine ⟨again.1, ?_⟩
  rw [Except.ok.injEq, ModelIdWithVersion.mk.injEq, parts_eq_iff parts reparts, reparse_iff documented reads,
    String.toList_ofList]

/-- No dot comes into a name with the version that is printed. -/
theorem printed_dot {text : List Char} {parts : List Char × Option Version} (parsed : Parsed chrono text parts)
    (dot : '.' ∈ printed chrono parts) : '.' ∈ text := by
  have dated {date : NaiveDate} {format : DateFormat} (isReal : real date) : '.' ∉ chrono.format date format := by
    rw [documented.format date format isReal]
    intro member
    exact absurd (printedDate_char date format _ member) (by decide)
  cases parsed with
  | @dated model version date format last read =>
    rw [printed_dated, List.mem_append] at dot
    rw [rsplitOnce_eq last, List.mem_append]
    exact .inl (dot.resolve_right (dated (parseDate_inv documented read).1))
  | @date model version date format undecided found read =>
    rw [printed_date, List.mem_append, List.mem_cons] at dot
    rw [(versionCandidate_eq_some found).1, List.mem_append]
    refine .inl (dot.resolve_right fun behind => ?_)
    exact behind.elim (by decide) (dated (parseDate_inv documented read).1)
  | preview undated ends => exact dropSuffix?_eq ends ▸ dot
  | latest undated ends => exact dropSuffix?_eq ends ▸ dot
  | @keyword model word version undecided found undated keyword =>
    rw [(versionCandidate_eq_some found).1, List.mem_append]
    refine .inl ((List.mem_append.mp dot).resolve_right ?_)
    obtain rfl | rfl := keyword
    · show '.' ∉ '-' :: "latest".toList
      decide
    · show '.' ∉ '-' :: "preview".toList
      decide
  | plain => exact dot

theorem bedrock_reread_iff {text : List Char} {id : BedrockModelId}
    (accepted : BedrockModelId.fromStr chrono text = .ok id) :
    id.fmt chrono ≠ [] ∧
      (BedrockModelId.fromStr chrono (id.fmt chrono) = .ok id ↔ VersionKept id.model.toList id.version) := by
  rw [BedrockModelId.fromStr] at accepted
  split at accepted
  next => cases accepted
  next geo vendor rest sections =>
    split at accepted
    next => cases accepted
    next modelPart revision cut =>
      have parts := parsed chrono modelPart
      generalize reads : parseModelAndVersion chrono modelPart '-' = parse at parts accepted
      cases accepted
      obtain ⟨_, noVendor, noGeo, noRest⟩ := bedrockSections_inv sections
      have last := rsplitOnce_eq cut
      have again : bedrockSections ((geo.elim [] (· ++ ['.'])) ++ vendor ++ '.' ::
          (printed chrono parse ++ "-v".toList ++ revision)) =
            some (geo, vendor, printed chrono parse ++ "-v".toList ++ revision) := by
        refine bedrockSections_of noVendor noGeo fun none member => ?_
        have absent := noRest none
        rw [last] at absent
        simp only [List.mem_append, not_or] at absent member
        obtain (member | member) | member := member
        · exact absent.1.1 (printed_dot documented parts member)
        · exact absent.1.2 member
        · exact absent.2 member
      have recut := rsplitOnce_swap (by decide) (last ▸ cut) (printed chrono parse)
      have text : (geo.elim [] (· ++ ['.'])) ++ vendor ++ '.' :: printed chrono parse ++ '-' :: 'v' :: revision =
          (geo.elim [] (· ++ ['.'])) ++ vendor ++ '.' :: (printed chrono parse ++ "-v".toList ++ revision) := by
        simp
      have reparts := parsed chrono (printed chrono parse)
      rw [fmt_bedrock chrono parts, text, BedrockModelId.fromStr, again]
      refine ⟨by simp, ?_⟩
      simp only [recut, Except.ok.injEq, BedrockModelId.mk.injEq, true_and, and_true]
      rw [parts_eq_iff parts reparts, reparse_iff documented reads, String.toList_ofList]

/-- The model part of an id is read again if it is not empty and its version is kept. -/
theorem fromStrAndProvider_reread_iff {provider : InferenceProvider} {text : List Char} {id : ModelId}
    (accepted : ModelId.fromStrAndProvider chrono provider text = .ok id) :
    (id.fmt chrono ≠ [] ∧ ModelId.fromStrAndProvider chrono provider (id.fmt chrono) = .ok id) ↔
      SerializationKept id := by
  cases provider with
  | bedrock =>
    obtain ⟨read, found, rfl⟩ := map_ok accepted
    obtain ⟨nonempty, again⟩ := bedrock_reread_iff documented found
    refine Iff.trans (and_iff_right nonempty) (Iff.trans ?_ again)
    exact map_ok_iff (fun _ _ => ModelId.bedrock.inj)
  | ollama =>
    obtain ⟨read, found, rfl⟩ := map_ok accepted
    have again : ModelId.fromStrAndProvider chrono .ollama (ModelId.fmt chrono (.ollama read)) = .ok (.ollama read) :=
      (map_ok_iff fun _ _ => ModelId.ollama.inj).mpr (ollama_reread found)
    exact Iff.trans (and_iff_left again) (not_congr (ollama_fmt_nil_iff read))
  | openAI | anthropic | googleGemini | custom | named =>
    obtain ⟨read, found, rfl⟩ := map_ok accepted
    obtain ⟨nonempty, again⟩ := modelIdWithVersion_reread_iff documented found
    refine Iff.trans (and_iff_right nonempty) (Iff.trans ?_ again)
    exact map_ok_iff (fun _ _ same => (ModelId.modelIdWithVersion.inj same).2)

end Names

section Ids
variable {chrono : Chrono}

theorem fromStr_inv {text : List Char} {id : ModelId} (accepted : ModelId.fromStr chrono text = .ok id) :
    ∃ code name, '/' ∉ code ∧ ModelId.fromStrAndProvider chrono (InferenceProvider.fromStr code) name = .ok id := by
  rw [ModelId.fromStr] at accepted
  obtain ⟨_, whole⟩ | ⟨code, name, _, absent, cut⟩ := splitn_cases '/' 0 text
  · rw [whole] at accepted
    cases accepted
  · rw [cut] at accepted
    simp only [splitn] at accepted
    split at accepted
    next => cases accepted
    next => exact ⟨code, name, absent, accepted⟩

/-- The id behind the printed name of its provider. -/
theorem serialize_reread_iff {real : NaiveDate → Prop} (documented : Documented chrono real) {text : List Char}
    {id : ModelId} (accepted : ModelId.fromStr chrono text = .ok id) :
    ModelId.deserialize chrono (id.serialize chrono) = .ok id ↔ SerializationKept id := by
  obtain ⟨code, name, absent, accepted⟩ := fromStr_inv accepted
  obtain ⟨again, plain⟩ := InferenceProvider.fromStr_reread code
  have provider := ModelId.fromStrAndProvider_inferenceProvider accepted
  rw [ModelId.serialize, provider, ModelId.deserialize, fromStr_slash (plain absent), again,
    ← fromStrAndProvider_reread_iff documented accepted]
  by_cases empty : id.fmt chrono = []
  · simp [empty]
  · simp [empty]

/-- Every id that is read from a text, and every provider. -/
theorem serialization_round_trip_iff {real : NaiveDate → Prop} (documented : Documented chrono real) :
    (∀ text id, ModelId.fromStr chrono text = .ok id →
      (ModelId.deserialize chrono (id.serialize chrono) = .ok id ↔ SerializationKept id)) ∧
      ∀ provider : InferenceProvider, InferenceProvider.fromStr provider.fmt.toList = provider ↔
        ∀ name, provider = .named name → InferenceProvider.OwnName name :=
  ⟨fun _ _ accepted => serialize_reread_iff documented accepted, InferenceProvider.fromStr_fmt_iff⟩

end Ids

namespace Calendar

/-- The dates of the library's calendar. -/
def isReal (date : NaiveDate) : Bool :=
  -262143 ≤ date.year && date.year ≤ 262142 && 1 ≤ date.month && date.month ≤ 12 && 1 ≤ date.day &&
    date.day ≤ daysIn date.year.natAbs date.month

def readReal (separator text : List Char) : Option NaiveDate :=
  match Lib.Strftime.date isWhitespace separator text with
  | some (year, month, day) => if isReal ⟨year, month, day⟩ then some ⟨year, month, day⟩ else none
  | none => none

/-- The library's patterns, with signs. -/
def signed (year : Int) : Chrono where
  parseFromStr text format :=
    match format with
    | .yearMonthDayDashed => readReal ['-'] text
    | .yearMonthDay => readReal [] text
    | .monthDayDashed | .monthDay => none
  format := printedDate
  year := year

theorem readReal_iff (separator text : List Char) (date : NaiveDate) :
    readReal separator text = some date ↔
      Lib.Strftime.date isWhitespace separator text = some (date.year, date.month, date.day) ∧ isReal date = true := by
  rw [readReal]
  constructor
  · intro read
    split at read
    next year month day found =>
      split at read
      next real =>
        cases read
        exact ⟨found, real⟩
      next => cases read
    next => cases read
  · intro ⟨found, real⟩
    rw [found]
    exact if_pos real

theorem daysIn_le (year month : Nat) : daysIn year month ≤ 31 := by
  rw [daysIn]
  split
  · split <;> omega
  · split <;> omega

theorem signed_documented {year : Int} (low : 1000 ≤ year) (high : year ≤ 9999) :
    Documented (signed year) (fun date => isReal date = true) where
  bounded date real := by
    simp only [isReal, Bool.and_eq_true, decide_eq_true_eq] at real
    have days := daysIn_le date.year.natAbs date.month
    omega
  mirrored date short real := by
    obtain ⟨low, high⟩ := short
    simp only [isReal, Bool.and_eq_true, decide_eq_true_eq, Int.natAbs_neg] at real ⊢
    omega
  parse_dashed := readReal_iff ['-']
  parse_compact := readReal_iff []
  format _ _ _ := rfl
  year := ⟨low, high⟩

end Calendar

theorem dated_id_returns :
    ModelId.deserialize (Calendar.signed 2026) "anthropic/claude-opus-4-20250514".toList =
        .ok (.modelIdWithVersion .anthropic ⟨"claude-opus-4", .date ⟨2025, 5, 14⟩ .yearMonthDay⟩) ∧
      InferenceProvider.fromStr InferenceProvider.googleGemini.fmt.toList = .googleGemini := by
  obtain ⟨ids, providers⟩ := serialization_round_trip_iff (Calendar.signed_documented (by decide) (by decide : (2026 : Int) ≤ 9999))
  have kept : SerializationKept (.modelIdWithVersion .anthropic ⟨"claude-opus-4", .date ⟨2025, 5, 14⟩ .yearMonthDay⟩) :=
    ⟨fun _ => by decide, nofun⟩
  exact ⟨(ids "Anthropic/claude-opus-4-2025 5 14".toList _ (by rfl)).mpr kept, (providers _).mpr nofun⟩

/-- Of an Ollama name that is nothing but the separator of its tag, nothing is printed. -/
theorem empty_name_lost :
    ¬ ((∀ text id, ModelId.fromStr (Calendar.signed 2026) text = .ok id →
        ModelId.deserialize (Calendar.signed 2026) (id.serialize (Calendar.signed 2026)) = .ok id) ∧
      ∀ provider : InferenceProvider, InferenceProvider.fromStr provider.fmt.toList = provider) := by
  intro ⟨returns, _⟩
  have lost := returns "ollama/:".toList (.ollama ⟨"", none⟩) (by decide +kernel)
  exact absurd lost (by decide +kernel)

end AiGateway.ModelIds
