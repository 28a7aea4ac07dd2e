import AiGateway.Types
import AiGateway.Lib.Splits

/-! Model names: how a provider's spelling of a model is read, with the version it may
end in, and how it is printed again. -/

namespace AiGateway

open Lib.Splits

/-- What the code takes from the calendar library: a date read with a pattern, a date
printed with one, and the year it is now. -/
structure Chrono where
  parseFromStr : List Char → DateFormat → Option NaiveDate
  format : NaiveDate → DateFormat → List Char
  year : Int

/-- The variants of `MapperError` that reading a model name can end in. -/
inductive ModelNameError where
  | invalidModelName (message : String)
  | providerNotSupported (provider : String)
  deriving DecidableEq, Repr

def eqIgnoreAsciiCase (text other : List Char) : Bool := text.map Char.toLower == other.map Char.toLower

section Reading
variable (chrono : Chrono)

/-- The printed year. -/
def Chrono.yearText : List Char :=
  if chrono.year < 0 then '-' :: Nat.toDigits 10 chrono.year.natAbs else Nat.toDigits 10 chrono.year.natAbs

/-- A full date first; without a year, one of the current year. -/
def parseDate (input : List Char) : Option (NaiveDate × DateFormat) :=
  match chrono.parseFromStr input .yearMonthDayDashed with
  | some date => some (date, .yearMonthDayDashed)
  | none =>
    match chrono.parseFromStr input .yearMonthDay with
    | some date => some (date, .yearMonthDay)
    | none =>
      match chrono.parseFromStr (chrono.yearText ++ '-' :: input) .yearMonthDayDashed with
      | some date => some (date, .monthDayDashed)
      | none =>
        match chrono.parseFromStr (chrono.yearText ++ input) .yearMonthDay with
        | some date => some (date, .monthDay)
        | none => none

/-- The ways to cut a version off the name, the longest version first; a separator at the
end cuts nothing off. -/
def versionCandidates (text : List Char) (separator : Char) : List (List Char × List Char) :=
  (cutsAt separator text).filter fun (_, candidate) => !candidate.isEmpty

def DateFormat.isFullDate : DateFormat → Bool
  | .yearMonthDayDashed | .yearMonthDay => true
  | .monthDayDashed | .monthDay => false

def fullDateVersion (candidate : List Char) : Option Version :=
  match parseDate chrono candidate with
  | some (date, format) => if format.isFullDate then some (.date date format) else none
  | none => none

def anyVersion (candidate : List Char) : Option Version :=
  match parseDate chrono candidate with
  | some (date, format) => some (.date date format)
  | none =>
    if eqIgnoreAsciiCase candidate "latest".toList then some .latest
    else if eqIgnoreAsciiCase candidate "preview".toList then some .preview
    else none

/-- The first candidate that the loop takes for a version. -/
def firstVersion (read : List Char → Option Version) (candidates : List (List Char × List Char)) :
    Option (List Char × Version) :=
  candidates.findSome? fun (model, candidate) => (read candidate).map fun version => (model, version)

def datedPreview (text : List Char) : Option (List Char × Version) :=
  match rsplitOnce "-preview-".toList text with
  | none => none
  | some (model, afterPreview) =>
    match parseDate chrono afterPreview with
    | some (date, format) => some (model, .dateVersionedPreview date format)
    | none => none

def parseModelAndVersion (text : List Char) (separator : Char) : List Char × Option Version :=
  match datedPreview chrono text with
  | some (model, version) => (model, some version)
  | none =>
    match text.dropSuffix? "-preview".toList with
    | some model => (model, some .preview)
    | none =>
      match text.dropSuffix? "-latest".toList with
      | some model => (model, some .latest)
      | none =>
        let candidates := versionCandidates text separator
        match firstVersion (fullDateVersion chrono) candidates with
        | some (model, version) => (model, some version)
        | none =>
          match firstVersion (anyVersion chrono) candidates with
          | some (model, version) => (model, some version)
          | none => (text, none)

def ModelIdWithVersion.fromStr (text : List Char) : Except ModelNameError ModelIdWithVersion :=
  if text.isEmpty then .error (.invalidModelName "Model name cannot be empty")
  else if text.getLast? = some '-' then .error (.invalidModelName "Model name cannot end with dash")
  else if text.getLast? = some '.' then .error (.invalidModelName "Model name cannot end with dot")
  else if text.getLast? = some '@' then .error (.invalidModelName "Model name cannot end with @ symbol")
  else
    let (model, version) := parseModelAndVersion chrono text '-'
    .ok ⟨String.ofList model, version.getD .implicitLatest⟩

def OllamaModelId.fromStr (text : List Char) : Except ModelNameError OllamaModelId :=
  match splitn ':' 2 text with
  | [] => .error (.invalidModelName (String.ofList text))
  | model :: parts =>
    match parts with
    | tag :: _ => .ok ⟨String.ofList model, if tag.isEmpty then none else some (String.ofList tag)⟩
    | [] => .ok ⟨String.ofList model, none⟩

/-- The geography if there are two dots, the vendor, and the rest. -/
def bedrockSections (text : List Char) : Option (Option (List Char) × List Char × List Char) :=
  let dotCount := text.count '.'
  if 2 ≤ dotCount then
    match splitn '.' 3 text with
    | [geo, provider, rest] => some (some geo, provider, rest)
    | _ => none
  else if dotCount = 1 then
    match splitn '.' 2 text with
    | [provider, rest] => some (none, provider, rest)
    | _ => none
  else none

def BedrockModelId.fromStr (text : List Char) : Except ModelNameError BedrockModelId :=
  match bedrockSections text with
  | none => .error (.invalidModelName (String.ofList text))
  | some (geo, provider, rest) =>
    match rsplitOnce "-v".toList rest with
    | none => .error (.invalidModelName (String.ofList text))
    | some (modelPart, revision) =>
      let (model, version) := parseModelAndVersion chrono modelPart '-'
      .ok ⟨geo.map String.ofList, String.ofList provider, String.ofList model, version.getD .implicitLatest,
        String.ofList ('v' :: revision)⟩

namespace ModelId

def fromStrAndProvider (requestStyle : InferenceProvider) (text : List Char) : Except ModelNameError ModelId :=
  match requestStyle with
  | .bedrock => (BedrockModelId.fromStr chrono text).map .bedrock
  | .ollama => (OllamaModelId.fromStr text).map .ollama
  | .openAI | .anthropic | .googleGemini | .custom | .named _ =>
    (ModelIdWithVersion.fromStr chrono text).map (.modelIdWithVersion requestStyle)

/-- Reading the provider's name cannot fail. -/
def fromStr (text : List Char) : Except ModelNameError ModelId :=
  match splitn '/' 2 text with
  | [provider, modelName] =>
    if modelName.isEmpty then .error (.invalidModelName "Model name cannot be empty after provider")
    else fromStrAndProvider chrono (InferenceProvider.fromStr provider) modelName
  | _ =>
    .error (.invalidModelName
      ("Model string must be in format '\x7bprovider\x7d/\x7bmodel_name\x7d', got '" ++ String.ofList text ++ "'"))

def withLatestVersion : ModelId → ModelId
  | .modelIdWithVersion provider id => .modelIdWithVersion provider { id with version := .latest }
  | .bedrock id => .bedrock { id with version := .latest }
  | .ollama id => .ollama id
  | .unknown model => .unknown model

variable {chrono} in
theorem fromStrAndProvider_inferenceProvider {provider : InferenceProvider} {text : List Char}
    {id : ModelId} (read : fromStrAndProvider chrono provider text = .ok id) :
    id.inferenceProvider = some provider := by
  have mapped {α : Type} {parsed : Except ModelNameError α} {make : α → ModelId}
      (own : ∀ value, (make value).inferenceProvider = some provider) (done : parsed.map make = .ok id) :
      id.inferenceProvider = some provider := by
    cases parsed with
    | error => cases done
    | ok value => cases done; exact own value
  cases provider with
  | bedrock | ollama | openAI | anthropic | googleGemini | custom | named => exact mapped (fun _ => rfl) read

end ModelId

end Reading

section Printing
variable (chrono : Chrono)

def Version.fmt : Version → List Char
  | .implicitLatest => []
  | .latest => "latest".toList
  | .preview => "preview".toList
  | .dateVersionedPreview day format => "preview-".toList ++ chrono.format day format
  | .date day format => chrono.format day format

def ModelIdWithVersion.fmt (id : ModelIdWithVersion) : List Char :=
  match id.version with
  | .implicitLatest => id.model.toList
  | version => id.model.toList ++ '-' :: version.fmt chrono

def OllamaModelId.fmt (id : OllamaModelId) : List Char :=
  match id.tag with
  | some tag => id.model.toList ++ ':' :: tag.toList
  | none => id.model.toList

def BedrockModelId.fmt (id : BedrockModelId) : List Char :=
  match id.geo, id.version with
  | some geo, .implicitLatest =>
    geo.toList ++ '.' :: id.provider.toList ++ '.' :: id.model.toList ++ '-' :: id.bedrockInternalVersion.toList
  | some geo, version =>
    geo.toList ++ '.' :: id.provider.toList ++ '.' :: id.model.toList ++ '-' :: version.fmt chrono ++
      '-' :: id.bedrockInternalVersion.toList
  | none, .implicitLatest => id.provider.toList ++ '.' :: id.model.toList ++ '-' :: id.bedrockInternalVersion.toList
  | none, version =>
    id.provider.toList ++ '.' :: id.model.toList ++ '-' :: version.fmt chrono ++ '-' :: id.bedrockInternalVersion.toList

def ModelId.fmt : ModelId → List Char
  | .modelIdWithVersion _ id => id.fmt chrono
  | .bedrock id => id.fmt chrono
  | .ollama id => id.fmt
  | .unknown model => model.toList

def ModelId.serialize (id : ModelId) : List Char :=
  match id.inferenceProvider with
  | some provider => provider.fmt.toList ++ '/' :: id.fmt chrono
  | none => id.fmt chrono

def ModelId.deserialize (text : List Char) : Except ModelNameError ModelId := ModelId.fromStr chrono text

end Printing

end AiGateway
