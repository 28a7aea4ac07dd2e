import AiGateway.AnthropicRequests
import AiGateway.Proofs.SerializedModels

/-! Pinned versions of Anthropic's models. The alias of the latest version takes the place of
every version, so that no date that was asked for is sent. -/

namespace AiGateway.Anthropic

open OpenAi ModelIds Lib.Strftime

/-- The date of a version that has one. -/
def pinnedDate : Version → Option NaiveDate
  | .date date _ | .dateVersionedPreview date _ => some date
  | .implicitLatest | .latest | .preview => none

theorem printedDate_digit (date : NaiveDate) (format : DateFormat) : ∃ c ∈ printedDate date format, c.isDigit = true := by
  obtain ⟨c, member⟩ := List.exists_mem_of_ne_nil _ (padded_ne_nil 2 date.day)
  refine ⟨c, ?_, padded_digits 2 date.day c member⟩
  cases format <;> simp [printedDate, member]

theorem pinned_cases {version : Version} {date : NaiveDate} (pinned : pinnedDate version = some date) :
    ∃ format, version = .date date format ∨ version = .dateVersionedPreview date format := by
  cases version with
  | implicitLatest | latest | preview => cases pinned
  | dateVersionedPreview day format => exact ⟨format, .inr (by rw [Option.some.inj pinned])⟩
  | date day format => exact ⟨format, .inl (by rw [Option.some.inj pinned])⟩

theorem fmt_of_pinned {chrono : Chrono} {id : ModelIdWithVersion} {date : NaiveDate}
    (pinned : pinnedDate id.version = some date) : id.fmt chrono = id.model.toList ++ '-' :: id.version.fmt chrono := by
  obtain ⟨model, version⟩ := id
  obtain ⟨format, rfl | rfl⟩ := pinned_cases pinned
  · rfl
  · rfl

section Versions
variable {chrono : Chrono} {real : NaiveDate → Prop} (documented : Documented chrono real)
include documented

/-- A version with a date is not printed as an alias. -/
theorem pinned_ne_latest {version : Version} {date : NaiveDate} (pinned : pinnedDate version = some date)
    (isReal : real date) : version.fmt chrono ≠ "latest".toList := by
  obtain ⟨format, rfl | rfl⟩ := pinned_cases pinned
  · intro same
    obtain ⟨c, member, digit⟩ := printedDate_digit date format
    have printed : printedDate date format = "latest".toList := (documented.format date format isReal).symm.trans same
    rw [printed] at member
    have none : ("latest".toList.all fun c => !c.isDigit) = true := by decide
    have other := List.all_eq_true.mp none c member
    rw [digit] at other
    cases other
  · have printed : (Version.dateVersionedPreview date format).fmt chrono =
        "preview-".toList ++ chrono.format date format := rfl
    rw [printed]
    simp

/-- No alias is printed like a model with a date. -/
theorem alias_drops_date {id : ModelIdWithVersion} {date : NaiveDate} (pinned : pinnedDate id.version = some date)
    (isReal : real date) : (aliasVersion (.modelIdWithVersion .anthropic id)).fmt chrono ≠ id.fmt chrono := by
  rw [fmt_of_pinned pinned]
  by_cases third : "claude-3".toList <:+: id.model.toList
  · have replaced : aliasVersion (.modelIdWithVersion .anthropic id) =
        .modelIdWithVersion .anthropic { id with version := .latest } := if_pos third
    have printed : (aliasVersion (.modelIdWithVersion .anthropic id)).fmt chrono =
        id.model.toList ++ '-' :: "latest".toList := congrArg (ModelId.fmt chrono) replaced
    rw [printed]
    intro same
    have versions := (List.cons.inj (List.append_cancel_left same)).2
    exact pinned_ne_latest documented pinned isReal versions.symm
  · have replaced : aliasVersion (.modelIdWithVersion .anthropic id) =
        .modelIdWithVersion .anthropic { id with version := .implicitLatest } := if_neg third
    have printed : (aliasVersion (.modelIdWithVersion .anthropic id)).fmt chrono = id.model.toList :=
      congrArg (ModelId.fmt chrono) replaced
    rw [printed]
    intro same
    have lengths := congrArg List.length same
    rw [List.length_append, List.length_cons] at lengths
    omega

end Versions

section Requests
variable (chrono : Chrono) (catalog : Catalog) (json : JsonText) (mimeFromDataUri : String → Option String)
variable (modelMapper : ModelMapper)

theorem tryConvert_model {request : CreateChatCompletionRequest} {source target : ModelId}
    (read : ModelId.fromStr chrono request.model.toList = .ok source)
    (mapped : modelMapper.mapModel catalog source .anthropic = .ok target) {params : CreateMessageParams}
    (converted : tryConvert chrono catalog json mimeFromDataUri modelMapper request = .ok params) :
    params.model = String.ofList ((aliasVersion target).fmt chrono) := by
  obtain ⟨other, found, readOther, mappedOther, rfl⟩ := conversion_ok_iff.mp converted
  rw [read] at readOther
  cases readOther
  rw [mapped] at mappedOther
  cases mappedOther
  rfl

/-- Where the model of a request comes to one of Anthropic with a date, a request in Anthropic's
own format is sent with that date, and a chat completion without it. -/
theorem pinned_version_lost {real : NaiveDate → Prop} (documented : Documented chrono real)
    (request : CreateChatCompletionRequest) {source : ModelId} {id : ModelIdWithVersion} {date : NaiveDate}
    (read : ModelId.fromStr chrono request.model.toList = .ok source)
    (mapped : modelMapper.mapModel catalog source .anthropic = .ok (.modelIdWithVersion .anthropic id))
    (pinned : pinnedDate id.version = some date) (isReal : real date) :
    (∀ own : CreateMessageParams, own.model = request.model →
      ∃ kept, tryConvertParams chrono catalog modelMapper own = .ok kept ∧ kept.model = String.ofList (id.fmt chrono)) ∧
    ¬∃ params, tryConvert chrono catalog json mimeFromDataUri modelMapper request = .ok params ∧
      params.model = String.ofList (id.fmt chrono) := by
  constructor
  · intro own same
    rw [← same] at read
    exact ⟨_, conversion_ok_iff.mpr ⟨source, _, read, mapped, rfl⟩, rfl⟩
  · rintro ⟨params, converted, model⟩
    rw [tryConvert_model chrono catalog json mimeFromDataUri modelMapper read mapped converted] at model
    exact alias_drops_date documented pinned isReal (String.ofList_injective model)

end Requests

def datedSonnet : ModelIdWithVersion := ⟨"claude-3-5-sonnet", .date ⟨2024, 10, 22⟩ .yearMonthDay⟩

/-- A catalog in which Anthropic offers one model of a date. -/
def datedCatalog : Catalog :=
  { providerModels := [(.anthropic, [.modelIdWithVersion .anthropic datedSonnet])]
    defaultModelMapping :=
      ⟨[("gpt-4o", ⟨[.modelIdWithVersion .anthropic datedSonnet], by simp, by decide⟩)], by simp, by simp⟩
    providerIsRouterFlags := [] }

def datedRequest : CreateChatCompletionRequest :=
  ⟨[.user (.text "Hello")], "anthropic/claude-3-5-sonnet-20241022", none, none, none, none, none, none, none, none, none,
    none⟩

theorem dated_read : ModelId.fromStr (Calendar.signed 2026) datedRequest.model.toList =
    .ok (.modelIdWithVersion .anthropic datedSonnet) := by
  rfl

theorem dated_mapped : ModelMapper.mapModel ⟨none, none⟩ datedCatalog (.modelIdWithVersion .anthropic datedSonnet) .anthropic =
    .ok (.modelIdWithVersion .anthropic datedSonnet) := by
  decide

theorem dated_sonnet_lost :
    (∀ own : CreateMessageParams, own.model = datedRequest.model →
      ∃ kept, tryConvertParams (Calendar.signed 2026) datedCatalog ⟨none, none⟩ own = .ok kept ∧
        kept.model = String.ofList (datedSonnet.fmt (Calendar.signed 2026))) ∧
    ¬∃ params, tryConvert (Calendar.signed 2026) datedCatalog .sample (fun _ => none) ⟨none, none⟩ datedRequest = .ok params ∧
      params.model = String.ofList (datedSonnet.fmt (Calendar.signed 2026)) :=
  pinned_version_lost (Calendar.signed 2026) datedCatalog .sample (fun _ => none) ⟨none, none⟩
    (Calendar.signed_documented (by decide) (by decide : (2026 : Int) ≤ 9999)) datedRequest dated_read dated_mapped rfl
    (by decide)

/-- The model of October 22 is asked for, and the latest one is sent. -/
theorem dated_sonnet_becomes_latest :
    datedRequest.model = "anthropic/claude-3-5-sonnet-20241022" ∧
      ∃ params, tryConvert (Calendar.signed 2026) datedCatalog .sample (fun _ => none) ⟨none, none⟩ datedRequest =
          .ok params ∧ params.model = "claude-3-5-sonnet-latest" ∧
        params.model ≠ String.ofList (datedSonnet.fmt (Calendar.signed 2026)) := by
  obtain ⟨params, converted⟩ : ∃ params, tryConvert (Calendar.signed 2026) datedCatalog .sample (fun _ => none) ⟨none, none⟩
      datedRequest = .ok params := ⟨_, conversion_ok_iff.mpr ⟨_, _, dated_read, dated_mapped, rfl⟩⟩
  have model := tryConvert_model (Calendar.signed 2026) datedCatalog .sample (fun _ => none) ⟨none, none⟩ dated_read
    dated_mapped converted
  have latest : params.model = "claude-3-5-sonnet-latest" := by
    rw [model]
    decide
  refine ⟨rfl, params, converted, latest, ?_⟩
  rw [latest]
  decide

end AiGateway.Anthropic
