import AiGateway.Discover
import AiGateway.ModelIds
import AiGateway.Json
import AiGateway.OpenAiChat
import AiGateway.Lib.Runs

/-! What the converters between the providers' chat formats share: the profile a response is
converted under, the errors they end in and the text of JSON values. -/

namespace AiGateway

/-- `serde_json::to_string` and `serde_json::from_str`. Printing a value cannot fail. -/
structure JsonText where
  print : Json → String
  parse : String → Option Json

/-- What the library does with the values of the examples. -/
def JsonText.sample : JsonText where
  print
    | .object [] => "\x7b\x7d"
    | .object [("city", .string "Paris")] => "\x7b\"city\":\"Paris\"\x7d"
    | _ => "null"
  parse
    | "\x7b\x7d" => some (.object [])
    | "\x7b\"city\":\"Paris\"\x7d" => some (.object [("city", .string "Paris")])
    | _ => none

inductive ResponseContentMode where
  | passthrough
  | anthropicMessageContent
  | bedrockOutputMessage
  deriving DecidableEq, Repr

inductive ToolCallMappingMode where
  | native
  | providerSpecificHelper
  deriving DecidableEq, Repr

inductive FinishReasonMappingMode where
  | passthrough
  | providerSpecificHelper
  deriving DecidableEq, Repr

inductive UsageMappingMode where
  | passthrough
  | providerSpecificHelper
  deriving DecidableEq, Repr

structure ResponseProfile where
  contentMode : ResponseContentMode
  toolCallMappingMode : ToolCallMappingMode
  finishReasonMappingMode : FinishReasonMappingMode
  usageMappingMode : UsageMappingMode
  deriving DecidableEq, Repr

structure NonStreamFormatProfile where
  provider : InferenceProvider
  response : ResponseProfile
  deriving DecidableEq, Repr

/-- The variants of `MapperError` a conversion can end in. -/
inductive ConvertError where
  | model (error : ModelNameError)
  | mapping (error : MapperError)
  | providerNotSupported (message : String)
  | invalidRequest
  deriving DecidableEq, Repr

/-- Every conversion of a request reads the model's name and maps the model before anything else. -/
theorem conversion_ok_iff {α : Type} {chrono : Chrono} {catalog : Catalog} {modelMapper : ModelMapper} {model : List Char}
    {provider : InferenceProvider} {build : ModelId → α} {params : α} :
    (do
      let source ← (ModelId.fromStr chrono model).mapError ConvertError.model
      let target ← (modelMapper.mapModel catalog source provider).mapError ConvertError.mapping
      pure (build target)) = Except.ok params ↔
      ∃ source target, ModelId.fromStr chrono model = .ok source ∧
        modelMapper.mapModel catalog source provider = .ok target ∧ build target = params := by
  constructor
  · intro done
    obtain ⟨source, read, done⟩ := Lib.Runs.bind_ok done
    obtain ⟨target, mapped, done⟩ := Lib.Runs.bind_ok done
    exact ⟨source, target, Lib.Runs.mapError_ok_iff.mp read, Lib.Runs.mapError_ok_iff.mp mapped, Except.ok.inj done⟩
  · rintro ⟨source, target, read, mapped, rfl⟩
    rw [Lib.Runs.mapError_ok_iff.mpr read]
    change (Except.mapError ConvertError.mapping (modelMapper.mapModel catalog source provider) >>= _) = _
    rw [Lib.Runs.mapError_ok_iff.mpr mapped]
    rfl

/-- The check of both response interpreters, which differ in the provider and the content
mode they ask for. -/
def validateResponseProfile (provider : InferenceProvider) (contentMode : ResponseContentMode)
    (profile : NonStreamFormatProfile) : Except ConvertError Unit :=
  if profile.provider ≠ provider then
    .error (.providerNotSupported
      (provider.fmt ++ " response interpreter does not support provider " ++ profile.provider.fmt))
  else if profile.response.contentMode ≠ contentMode then .error .invalidRequest
  else if profile.response.toolCallMappingMode ≠ .providerSpecificHelper then .error .invalidRequest
  else if profile.response.finishReasonMappingMode ≠ .providerSpecificHelper then .error .invalidRequest
  else if profile.response.usageMappingMode ≠ .providerSpecificHelper then .error .invalidRequest
  else .ok ()

def validateAnthropicResponseProfile : NonStreamFormatProfile → Except ConvertError Unit :=
  validateResponseProfile .anthropic .anthropicMessageContent

def validateBedrockResponseProfile : NonStreamFormatProfile → Except ConvertError Unit :=
  validateResponseProfile .bedrock .bedrockOutputMessage

/-- The profiles the gateway ships with. -/
def anthropicProfile : NonStreamFormatProfile :=
  ⟨.anthropic, .anthropicMessageContent, .providerSpecificHelper, .providerSpecificHelper, .providerSpecificHelper⟩

def bedrockProfile : NonStreamFormatProfile :=
  ⟨.bedrock, .bedrockOutputMessage, .providerSpecificHelper, .providerSpecificHelper, .providerSpecificHelper⟩

def defaultMaxTokens : UInt32 := 2000

/-- `u32::try_from(index).unwrap_or(0)` for an index of a block. -/
def chunkIndex (index : Nat) : UInt32 := if index < UInt32.size then UInt32.ofNat index else 0

end AiGateway
