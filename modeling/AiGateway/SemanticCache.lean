import AiGateway.Types
import AiGateway.Json
import AiGateway.Lib.Base64
import AiGateway.Lib.Splits
import AiGateway.Lib.Runs
import Mathlib.Data.List.Infix

/-! The semantic cache: answers found again by how near a request's last user text lies to
that of an earlier request, among the points stored under the same parameters. -/

namespace AiGateway.SemanticCache

open Lib.Splits

/-- What the code takes from floating point: a number as a double, a double's text, a single
read from text, whether it lies between zero and one, and how singles compare. -/
structure Floats where
  asF64 : Number → UInt64
  display : UInt64 → List Char
  parse : List Char → Option UInt32
  inUnit : UInt32 → Bool
  less : UInt32 → UInt32 → Bool

/-- A header's value, which is text where all its characters are visible. -/
inductive HeaderValue where
  | visible (text : List Char) (plain : ∀ c ∈ text, c = '\t' ∨ (32 ≤ c.toNat ∧ c.toNat < 127))
  | binary

theorem visible_of_all {text : List Char} (all : (text.all fun c => c = '\t' || (32 ≤ c.toNat && c.toNat < 127)) = true) :
    ∀ c ∈ text, c = '\t' ∨ (32 ≤ c.toNat ∧ c.toNat < 127) := by
  simpa using all

structure HeaderMap where
  get : String → Option HeaderValue

/-- Text that comes from a request's URI or from the configuration, without the null
character. -/
structure PlainText where
  text : List Char
  plain : '\x00' ∉ text

structure EmbeddingIdentity where
  provider : List Char
  model : List Char
  providerDefaulted : Bool
  deriving DecidableEq, Repr

structure SemanticPolicy where
  threshold : UInt32
  ttlSeconds : UInt64
  deriving DecidableEq, Repr

structure PreparedSemanticRequest where
  path : PlainText
  body : List UInt8
  embedText : List Char
  policy : SemanticPolicy
  embeddingIdentity : EmbeddingIdentity
  apiKey : List Char

structure BuiltKey where
  embedText : List Char
  paramsHash : List Char
  cacheKey : List Char
  deriving DecidableEq, Repr

structure SemanticWriteContext where
  collection : List Char
  cacheKey : List Char
  paramsHash : List Char
  vector : List UInt32
  response : List UInt8
  ttlSeconds : UInt64
  deriving DecidableEq, Repr

structure SemanticHit where
  cacheReferenceId : List Char
  responseBytes : List UInt8
  score : UInt32
  deriving DecidableEq, Repr

structure SemanticLookupOutcome where
  hit : Option SemanticHit
  write : Option SemanticWriteContext
  deriving DecidableEq, Repr

/-- `to_string` of an `i64`. -/
def displayI64 (value : Int64) : List Char :=
  if value.toInt < 0 then '-' :: Nat.toDigits 10 value.toInt.natAbs else Nat.toDigits 10 value.toInt.natAbs

section EmbedText

/-- The texts of a message's parts, trimmed and joined by blanks. -/
def mergeTexts (parts : List Json) : List Char :=
  parts.foldl (fun merged part =>
    if part.getStr "type" ≠ some "text" then merged
    else
      match part.getStr "text" with
      | none => merged
      | some text =>
        let trimmed := trim text.toList
        if trimmed.isEmpty then merged
        else if merged.isEmpty then trimmed
        else merged ++ ' ' :: trimmed) []

def contentText : Json → List Char
  | .string text => trim text.toList
  | .array parts => mergeTexts parts
  | _ => []

/-- The messages are given from the last one on. A user message without content ends the
search. -/
def lastUserText : List Json → Option (List Char)
  | [] => none
  | message :: earlier =>
    if message.getStr "role" ≠ some "user" then lastUserText earlier
    else
      match message.get "content" with
      | none => none
      | some content =>
        let text := contentText content
        if text.isEmpty then lastUserText earlier else some text

def extractLastUserText (root : Json) : Option (List Char) :=
  ((root.get "messages").bind Json.asArray).bind fun messages => lastUserText messages.reverse

end EmbedText

section Key
variable (floats : Floats) (sha256Hex : List Char → List Char) (fromSlice : List UInt8 → Option Json)

def asNumber : Json → Option Number
  | .number value => some value
  | _ => none

def numberField (root : Json) (key : String) : List Char :=
  (((root.get key).bind asNumber).map fun value => floats.display (floats.asF64 value)).getD []

def intField (root : Json) (key : String) : List Char := (((root.get key).bind Json.asI64).map displayI64).getD []

/-- The escapes at the ends of the literal's lines leave a backslash, a line break, blanks and
a zero where a null character was meant. -/
def brokenSeparator : List Char := "\\\n         0".toList

def paramsPayload (path : List Char) (root : Json) (embedderIdentity : List Char) : List Char :=
  let model := ((root.getStr "model").getD "").toList
  let stream := if ((root.get "stream").bind Json.asBool).getD false then "true".toList else "false".toList
  "path=".toList ++ path ++ '\x00' :: "model=".toList ++ model ++
    '\x00' :: "temperature=".toList ++ numberField floats root "temperature" ++
    '\x00' :: "top_p=".toList ++ numberField floats root "top_p" ++
    brokenSeparator ++ "max_tokens=".toList ++ intField root "max_tokens" ++
    brokenSeparator ++ "max_completion_tokens=".toList ++ intField root "max_completion_tokens" ++
    '\x00' :: "stream=".toList ++ stream ++ brokenSeparator ++ "embedder=".toList ++ embedderIdentity

def computeParamsHash (path : List Char) (root : Json) (embedderIdentity : List Char) : List Char :=
  sha256Hex (paramsPayload floats path root embedderIdentity)

def buildCacheKey (path : List Char) (body : List UInt8) (embedderIdentity : List Char) : Except String BuiltKey := do
  let root ← (fromSlice body).elim (.error "invalid json body") .ok
  let embedText ← (extractLastUserText root).elim (.error "no user text") .ok
  let paramsHash := computeParamsHash floats sha256Hex path root embedderIdentity
  pure ⟨embedText, paramsHash, sha256Hex (embedText ++ '\x00' :: paramsHash)⟩

def extractEmbedTextFromBody (body : List UInt8) : Except String (List Char) := do
  let root ← (fromSlice body).elim (.error "invalid json body") .ok
  (extractLastUserText root).elim (.error "no user text") .ok

end Key

section Identity

def trimEndSlashes (text : List Char) : List Char := (text.reverse.dropWhile (· == '/')).reverse

def paramsHashIdentity (identity : EmbeddingIdentity) (baseUrl : List Char) (dimension : Nat) : List Char :=
  "provider=".toList ++ identity.provider ++ '\x00' :: "model=".toList ++ identity.model ++
    '\x00' :: "base_url=".toList ++ trimEndSlashes baseUrl ++ '\x00' :: "dimension=".toList ++ Nat.toDigits 10 dimension

def parseEmbeddingIdentity (raw : List Char) : Except String EmbeddingIdentity :=
  let trimmed := trim raw
  if trimmed.isEmpty then .error "embedding model is empty"
  else
    let (provider, model, defaulted) :=
      match splitOnce '/' trimmed with
      | some (provider, model) => (trim provider, trim model, false)
      | none => ("openai".toList, trimmed, true)
    if provider.isEmpty then .error "embedding provider is empty"
    else if model.isEmpty then .error "embedding model is empty"
    else .ok ⟨provider, model, defaulted⟩

/-- A name of lowercase letters, digits and hyphens, with single underscores for all else. The
flag says that the last character was one. -/
def slugFrom : Bool → List Char → List Char
  | _, [] => []
  | lastWasUnderscore, c :: rest =>
    let lower := c.toLower
    if lower = '_' then (if lastWasUnderscore then [] else [lower]) ++ slugFrom true rest
    else if lower.isAlphanum ∨ lower = '-' then lower :: slugFrom false rest
    else (if lastWasUnderscore then [] else ['_']) ++ slugFrom true rest

def slug (input : List Char) : Except String (List Char) :=
  let out := slugFrom false input
  let trimmed := ((out.dropWhile (· == '_')).reverse.dropWhile (· == '_')).reverse
  if trimmed.isEmpty then .error "embedding identity slug is empty" else .ok trimmed

def collectionNameForEmbedding (identity : EmbeddingIdentity) (dimension : Nat) : Except String (List Char) := do
  if dimension = 0 then .error "embedding dimension must be greater than zero"
  else
    let provider ← slug identity.provider
    let model ← slug identity.model
    pure ("semantic_cache__".toList ++ provider ++ "__".toList ++ model ++ "__".toList ++ Nat.toDigits 10 dimension)

end Identity

section Prepare
variable (floats : Floats) (fromSlice : List UInt8 → Option Json)

structure SemanticDefaults where
  threshold : UInt32
  ttlSeconds : UInt64
  deriving DecidableEq, Repr

def headerValue (headers : HeaderMap) (key : String) : Option (List Char) :=
  match headers.get key with
  | some (.visible text _) =>
    let value := trim text
    if value.isEmpty then none else some value
  | some .binary | none => none

def parseThreshold (headers : HeaderMap) (default : UInt32) : Except String UInt32 :=
  match headers.get "Alephant-Cache-Semantic-Threshold" with
  | none => .ok default
  | some .binary => .error "invalid Alephant-Cache-Semantic-Threshold"
  | some (.visible text _) =>
    match floats.parse text with
    | none => .error "invalid Alephant-Cache-Semantic-Threshold"
    | some value =>
      if floats.inUnit value then .ok value else .error "Alephant-Cache-Semantic-Threshold out of range"

/-- `str::parse::<u64>`. -/
def parseU64 (text : List Char) : Option UInt64 :=
  let digits := if text.head? = some '+' then text.tail else text
  let value := digits.foldl (fun number c => 10 * number + (c.toNat - '0'.toNat)) 0
  if digits.isEmpty ∨ ¬ digits.all Char.isDigit ∨ UInt64.size ≤ value then none else some (UInt64.ofNat value)

def parseTtl (headers : HeaderMap) (default : UInt64) : Except String UInt64 :=
  match headers.get "Alephant-Cache-Ttl" with
  | none => .ok default
  | some .binary => .error "invalid Alephant-Cache-Ttl"
  | some (.visible text _) => (parseU64 text).elim (.error "invalid Alephant-Cache-Ttl") .ok

def SemanticPolicy.fromHeaders (headers : HeaderMap) (defaults : SemanticDefaults) : Except String SemanticPolicy := do
  let threshold ← parseThreshold floats headers defaults.threshold
  let ttlSeconds ← parseTtl headers defaults.ttlSeconds
  pure ⟨threshold, ttlSeconds⟩

def semanticPathSupported (path : List Char) : Bool := !decide ("/embeddings".toList <:+: path)

def prepareRequest (defaults : SemanticDefaults) (path : PlainText) (headers : HeaderMap) (body : List UInt8) :
    Except String (Option PreparedSemanticRequest) := do
  if semanticPathSupported path.text then
    match headerValue headers "Alephant-Embeddings-Model" with
    | none => pure none
    | some rawModel =>
      let embeddingIdentity ← parseEmbeddingIdentity rawModel
      match headerValue headers "Alephant-Embeddings-Key" with
      | none => pure none
      | some apiKey =>
        let policy ← SemanticPolicy.fromHeaders floats headers defaults
        let embedText ← extractEmbedTextFromBody fromSlice body
        pure (some ⟨path, body, embedText, policy, embeddingIdentity, apiKey⟩)
  else pure none

end Prepare

/-- What the services a call depends on answer: the base URL, the embedding of its text, and
whether its collection is there. -/
structure Answers where
  baseUrl : Except String PlainText
  embedding : Except String (List UInt32)
  ensured : Except String Unit

/-- A request that comes to the cache, and what it is answered on its way. -/
structure Call where
  path : PlainText
  headers : HeaderMap
  body : List UInt8
  answers : Answers

structure QdrantPointPayload where
  cacheKey : List Char
  paramsHash : List Char
  responseB64 : List Char
  expiresAt : Option Int64
  deriving DecidableEq, Repr

structure Point where
  collection : List Char
  id : UInt64
  vector : List UInt32
  payload : QdrantPointPayload
  deriving DecidableEq, Repr

/-- The store's answer to a search: none, or a point by its position with its score. -/
abbrev SearchAnswer := Except String (Option (Nat × UInt32))

section Store

def isFresh (payload : QdrantPointPayload) (now : Int64) : Bool :=
  match payload.expiresAt with
  | some expiresAt => !(0 < expiresAt && expiresAt < now)
  | none => true

structure DecodedPayload where
  cacheKey : List Char
  response : List UInt8
  deriving DecidableEq, Repr

def decodePayloadIfFresh (payload : QdrantPointPayload) (now : Int64) : Option DecodedPayload :=
  if isFresh payload now then (Lib.Base64.decode payload.responseB64).map fun response => ⟨payload.cacheKey, response⟩
  else none

/-- `i64::try_from(..).unwrap_or(i64::MAX)`. -/
def clampI64 (value : UInt64) : Int64 := if value.toNat < UInt64.size / 2 then value.toInt64 else Int64.maxValue

def nowUnix (secs : UInt64) : Int64 := clampI64 secs

/-- The store searches one collection and returns only points that match the filter. -/
def searchTop1 (points : List Point) (answer : SearchAnswer) (collection : List Char) (vector : List UInt32)
    (paramsHash : List Char) (now : Int64) : Except String (Option SemanticHit) := do
  if vector.isEmpty then pure none
  else
    match ← answer with
    | none => pure none
    | some (index, score) =>
      match points[index]? with
      | none => pure none
      | some point =>
        if point.collection = collection ∧ point.payload.paramsHash = paramsHash then
          match decodePayloadIfFresh point.payload now with
          | some decoded => pure (some ⟨decoded.cacheKey, decoded.response, score⟩)
          | none => pure none
        else pure none

variable (pointId : List Char → List Char → UInt64)

/-- What is sent to the store. -/
def pointStruct (write : SemanticWriteContext) (now : Int64) : Point :=
  let expiresAt :=
    if write.ttlSeconds = 0 then none
    else some (now + if write.ttlSeconds.toNat < UInt64.size / 2 then write.ttlSeconds.toInt64 else Int64.maxValue)
  ⟨write.collection, pointId write.cacheKey write.paramsHash, write.vector,
    ⟨write.cacheKey, write.paramsHash, Lib.Base64.encode write.response, expiresAt⟩⟩

/-- A point with the same id in the collection is replaced. -/
def upsert (points : List Point) (write : SemanticWriteContext) (now : Int64) : List Point :=
  let point := pointStruct pointId write now
  points.filter (fun other => other.collection ≠ point.collection ∨ other.id ≠ point.id) ++ [point]

end Store

section Service
variable (floats : Floats) (sha256Hex : List Char → List Char) (fromSlice : List UInt8 → Option Json)
variable (pointId : List Char → List Char → UInt64) (defaults : SemanticDefaults)

def resolveVectorContext (prepared : PreparedSemanticRequest) (answers : Answers) :
    Except String SemanticWriteContext := do
  let baseUrl ← answers.baseUrl
  let vector ← answers.embedding
  let dimension := vector.length
  let collection ← collectionNameForEmbedding prepared.embeddingIdentity dimension
  answers.ensured
  let identity := paramsHashIdentity prepared.embeddingIdentity baseUrl.text dimension
  let built ← buildCacheKey floats sha256Hex fromSlice prepared.path.text prepared.body identity
  pure ⟨collection, built.cacheKey, built.paramsHash, vector, [], prepared.policy.ttlSeconds⟩

def tryHitPrepared (points : List Point) (prepared : PreparedSemanticRequest) (answers : Answers)
    (answer : SearchAnswer) (now : Int64) : Except String SemanticLookupOutcome := do
  let write ← resolveVectorContext floats sha256Hex fromSlice prepared answers
  match ← searchTop1 points answer write.collection write.vector write.paramsHash now with
  | none => pure ⟨none, some write⟩
  | some hit =>
    if floats.less hit.score prepared.policy.threshold then pure ⟨none, some write⟩
    else pure ⟨some hit, none⟩

def tryHit (points : List Point) (call : Call) (answer : SearchAnswer) (now : Int64) :
    Except String (Option SemanticHit) := do
  match ← prepareRequest floats fromSlice defaults call.path call.headers call.body with
  | none => pure none
  | some prepared =>
    let outcome ← tryHitPrepared floats sha256Hex fromSlice points prepared call.answers answer now
    pure outcome.hit

/-- The context a call writes under, resolved for the store or kept from its lookup. -/
def writeContext (call : Call) : Except String (Option SemanticWriteContext) := do
  match ← prepareRequest floats fromSlice defaults call.path call.headers call.body with
  | none => pure none
  | some prepared => some <$> resolveVectorContext floats sha256Hex fromSlice prepared call.answers

def storeResponseWithContext (points : List Point) (write : SemanticWriteContext) (response : List UInt8)
    (now : Int64) : List Point :=
  upsert pointId points (if response.isEmpty then write else { write with response }) now

/-- What happens to the store: lookups, stores that it may refuse, and points it gives up. -/
inductive Event where
  | lookup (call : Call) (answer : SearchAnswer) (now : Int64)
  | store (call : Call) (response : List UInt8) (now : Int64) (accepted : Bool)
  | forget (index : Nat)

def step (points : List Point) : Event → Option (List Point)
  | .lookup _ _ _ => some points
  | .store call response now accepted =>
    match writeContext floats sha256Hex fromSlice defaults call with
    | .ok (some write) =>
      if accepted then some (storeResponseWithContext pointId points write response now) else some points
    | .ok none | .error _ => some points
  | .forget index => some (points.eraseIdx index)

end Service

end AiGateway.SemanticCache
