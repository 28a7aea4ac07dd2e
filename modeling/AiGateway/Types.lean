import Mathlib.Data.Finset.Basic

/-! Names the gateway routes by: providers, endpoint kinds, models and the endpoints of
each provider's API. -/

namespace AiGateway

inductive InferenceProvider where
  | openAI
  | anthropic
  | bedrock
  | ollama
  | googleGemini
  | custom
  | named (name : String)
  deriving DecidableEq, Repr

/-- The characters `str::trim` removes. -/
def isWhitespace (c : Char) : Bool :=
  (0x09 ≤ c.toNat && c.toNat ≤ 0x0D) || (0x2000 ≤ c.toNat && c.toNat ≤ 0x200A) ||
    [0x20, 0x85, 0xA0, 0x1680, 0x2028, 0x2029, 0x202F, 0x205F, 0x3000].contains c.toNat

def trim (text : List Char) : List Char :=
  ((text.dropWhile isWhitespace).reverse.dropWhile isWhitespace).reverse

namespace InferenceProvider

/-- The `providers.code` values that name a provider by themselves. -/
def providerCodes : List String :=
  ["ai21", "aion-labs", "alfredpros", "alibaba", "allenai", "alpindale", "anthracite-org", "arcee-ai", "baidu",
    "bytedance", "bytedance-seed", "cognitivecomputations", "cohere", "deepcogito", "deepseek", "eleutherai",
    "essentialai", "gryphe", "groq", "hyperbolic", "ibm-granite", "inception", "inflection", "kwaipilot", "liquid",
    "mancer", "meituan", "meta-llama", "microsoft", "minimax", "mistral", "mistralai", "moonshotai", "morph",
    "nex-agi", "nousresearch", "nvidia", "openrouter", "perplexity", "prime-intellect", "qwen", "reka", "rekaai",
    "relace", "sao10k", "stepfun", "switchpoint", "tencent", "thedrummer", "tngtech", "undi95", "upstage", "writer",
    "x-ai", "xiaomi", "z-ai"]

def fromProviderCode (providerName : List Char) : Option InferenceProvider :=
  let normalized := String.ofList ((trim providerName).map Char.toLower)
  match normalized with
  | "openai" => some .openAI
  | "anthropic" => some .anthropic
  | "aws bedrock" | "bedrock" | "amazon" => some .bedrock
  | "ollama" => some .ollama
  | "google" | "google ai (gemini)" | "gemini" => some .googleGemini
  | "custom" => some .custom
  | "mistral ai" => some (.named "mistral")
  | "zai" => some (.named "z-ai")
  | "x.ai (grok)" | "xai" => some (.named "x-ai")
  | _ => if providerCodes.contains normalized then some (.named normalized) else none

def fromStr (text : List Char) : InferenceProvider :=
  let normalized := trim text
  (fromProviderCode normalized).getD (.named (String.ofList normalized))

def fmt : InferenceProvider → String
  | .named name => name
  | .openAI => "openai"
  | .anthropic => "anthropic"
  | .bedrock => "bedrock"
  | .ollama => "ollama"
  | .googleGemini => "gemini"
  | .custom => "custom"

/-- The derived `Deserialize`: the variants by their names, and any other text as a name. -/
def deserialize (text : List Char) : InferenceProvider :=
  match String.ofList text with
  | "openai" => .openAI
  | "anthropic" => .anthropic
  | "bedrock" => .bedrock
  | "ollama" => .ollama
  | "gemini" => .googleGemini
  | "custom" => .custom
  | name => .named name

end InferenceProvider

inductive EndpointType where
  | chat
  | embeddings
  | image
  | audio
  deriving DecidableEq, Repr

structure RouterId where
  named : String
  deriving DecidableEq, Repr

abbrev Uuid := BitVec 128

/-- A calendar day, which the code holds as that day's midnight in UTC. -/
structure NaiveDate where
  year : Int
  month : Nat
  day : Nat
  deriving DecidableEq, Repr

/-- The patterns `parse_date` tries, kept to print the date the way it was read. -/
inductive DateFormat where
  | yearMonthDayDashed
  | yearMonthDay
  | monthDayDashed
  | monthDay
  deriving DecidableEq, Repr

inductive Version where
  | implicitLatest
  | latest
  | preview
  | dateVersionedPreview (date : NaiveDate) (format : DateFormat)
  | date (date : NaiveDate) (format : DateFormat)
  deriving DecidableEq, Repr

structure ModelIdWithVersion where
  model : String
  version : Version
  deriving DecidableEq, Repr

structure BedrockModelId where
  geo : Option String
  provider : String
  model : String
  version : Version
  bedrockInternalVersion : String
  deriving DecidableEq, Repr

structure OllamaModelId where
  model : String
  tag : Option String
  deriving DecidableEq, Repr

inductive ModelId where
  | modelIdWithVersion (provider : InferenceProvider) (id : ModelIdWithVersion)
  | bedrock (id : BedrockModelId)
  | ollama (id : OllamaModelId)
  | unknown (model : String)
  deriving DecidableEq, Repr

namespace ModelId

def inferenceProvider : ModelId → Option InferenceProvider
  | .modelIdWithVersion provider _ => some provider
  | .bedrock _ => some .bedrock
  | .ollama _ => some .ollama
  | .unknown _ => none

/-- `ModelName::from_model`. -/
def modelName : ModelId → String
  | .modelIdWithVersion _ id => id.model
  | .bedrock id => id.model
  | .ollama id => id.model
  | .unknown model => model

/-- Equality of `ModelIdWithoutVersion`. -/
def sameWithoutVersion : ModelId → ModelId → Bool
  | .modelIdWithVersion provider id, .modelIdWithVersion otherProvider otherId =>
    provider == otherProvider && id.model == otherId.model
  | .bedrock this, .bedrock other =>
    this.provider == other.provider && this.model == other.model &&
      this.bedrockInternalVersion == other.bedrockInternalVersion
  | .ollama this, .ollama other => this.model == other.model && this.tag == other.tag
  | .unknown this, .unknown other => this == other
  | _, _ => false

end ModelId

structure NESet (α : Type) where
  items : List α
  nonempty : items ≠ []
  nodup : items.Nodup

inductive OpenAI where
  | chatCompletions
  | completions
  | embeddings
  | imageGenerations
  | responses
  deriving DecidableEq, Repr

def OpenAI.endpointType : OpenAI → EndpointType
  | .chatCompletions | .completions | .responses => .chat
  | .embeddings => .embeddings
  | .imageGenerations => .image

/-- The other providers' APIs have one endpoint each. -/
inductive ApiEndpoint where
  | openAI (endpoint : OpenAI)
  | anthropicMessages
  | googleGenerateContents
  | ollamaChatCompletions
  | bedrockConverse
  | openAICompatible (provider : InferenceProvider) (endpoint : OpenAI)
  deriving DecidableEq, Repr

namespace ApiEndpoint

/-- `EndpointRoute::from_path` followed by `ApiEndpoint::new`. -/
def new (path : String) : Option ApiEndpoint :=
  match path with
  | "chat/completions" => some (.openAI .chatCompletions)
  | "completions" => some (.openAI .completions)
  | "embeddings" => some (.openAI .embeddings)
  | "images/generations" => some (.openAI .imageGenerations)
  | "responses" => some (.openAI .responses)
  | "messages" => some .anthropicMessages
  | _ => none

inductive MapError where
  | unsupportedEndpoint (message : String)
  | unsupportedProvider (provider : InferenceProvider)
  deriving DecidableEq, Repr

def crossFamily : String :=
  "this path is only routed to the same OpenAPI family (e.g. OpenAI or a named OpenAI-compatible); use chat/completions for cross-vendor chat mapping"

/-- Only chat completions cross vendors; the other OpenAI endpoints stay in the family. -/
def mapped (source : ApiEndpoint) (target : InferenceProvider) : Except MapError ApiEndpoint :=
  match source with
  | .openAI .chatCompletions =>
    match target with
    | .anthropic => .ok .anthropicMessages
    | .openAI => .ok (.openAI .chatCompletions)
    | .googleGemini => .ok .googleGenerateContents
    | .ollama => .ok .ollamaChatCompletions
    | .bedrock => .ok .bedrockConverse
    | .named name => .ok (.openAICompatible (.named name) .chatCompletions)
    | .custom => .ok (.openAICompatible .custom .chatCompletions)
  | .openAI endpoint =>
    match target with
    | .openAI => .ok (.openAI endpoint)
    | .named name => .ok (.openAICompatible (.named name) endpoint)
    | _ => .error (.unsupportedEndpoint crossFamily)
  | _ => .error (.unsupportedProvider target)

def provider : ApiEndpoint → InferenceProvider
  | .openAI _ => .openAI
  | .anthropicMessages => .anthropic
  | .googleGenerateContents => .googleGemini
  | .ollamaChatCompletions => .ollama
  | .bedrockConverse => .bedrock
  | .openAICompatible provider _ => provider

def endpointType : ApiEndpoint → EndpointType
  | .openAI endpoint => endpoint.endpointType
  | .openAICompatible _ endpoint => endpoint.endpointType
  | .anthropicMessages | .googleGenerateContents | .ollamaChatCompletions | .bedrockConverse => .chat

theorem mapped_provider {source target : ApiEndpoint} {provider : InferenceProvider}
    (mapping : mapped source provider = .ok target) : target.provider = provider := by
  unfold mapped at mapping
  split at mapping
  all_goals first | (split at mapping <;> cases mapping <;> rfl) | cases mapping

theorem mapped_endpointType {source target : ApiEndpoint} {provider : InferenceProvider}
    (mapping : mapped source provider = .ok target) : target.endpointType = source.endpointType := by
  unfold mapped at mapping
  split at mapping
  all_goals first | (split at mapping <;> cases mapping <;> rfl) | cases mapping

end ApiEndpoint

end AiGateway
