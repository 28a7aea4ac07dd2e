import AiGateway.SemanticCache
import AiGateway.Proofs.ProviderNames
import Mathlib.Data.List.Basic

/-! What a semantic hit has in common with the request that stored it. -/

namespace AiGateway.SemanticCache

open Lib.Splits Lib.Runs

/-- The parameters the key is built from, as they are read from a request. -/
structure Params where
  path : List Char
  model : String
  temperature : Option UInt64
  topP : Option UInt64
  maxTokens : Option Int64
  maxCompletionTokens : Option Int64
  stream : Bool
  deriving DecidableEq, Repr

/-- Where an embedding comes from. -/
structure Embedder where
  provider : List Char
  model : List Char
  baseUrl : List Char
  dimension : Nat
  deriving DecidableEq, Repr

/-- A double that is neither infinite nor a NaN. JSON has no other numbers. -/
def isFinite : Number → Bool
  | .float bits => (bits >>> 52) % 2048 ≠ 2047
  | .posInt _ | .negInt _ => true

/-- What the key relies on: the text of a finite double is not empty, has no null character
and no backslash, and reads back as that double. -/
structure Floats.Lawful (floats : Floats) : Prop where
  nonempty : ∀ bits, floats.display bits ≠ []
  plain : ∀ bits, '\x00' ∉ floats.display bits ∧ '\\' ∉ floats.display bits
  faithful : ∀ first second : Number, isFinite first → isFinite second →
    floats.display (floats.asF64 first) = floats.display (floats.asF64 second) →
    floats.asF64 first = floats.asF64 second

section Numbers

theorem mem_toDigits {c : Char} {number : Nat} (member : c ∈ Nat.toDigits 10 number) : c.isDigit = true :=
  Nat.isDigit_of_mem_toDigits (by omega) (by omega) member

theorem toDigits_injective {first second : Nat} (same : Nat.toDigits 10 first = Nat.toDigits 10 second) :
    first = second := by
  have read := congrArg (fun digits => Nat.ofDigitChars 10 digits 0) same
  simpa [Nat.ofDigitChars_toDigits] using read

theorem displayI64_plain {c : Char} (special : c = '\x00' ∨ c = '\\') (value : Int64) : c ∉ displayI64 value := by
  intro member
  unfold displayI64 at member
  have digit : ¬ c.isDigit = true := by rcases special with rfl | rfl <;> decide
  have sign : c ≠ '-' := by rcases special with rfl | rfl <;> decide
  split at member
  · rcases List.mem_cons.mp member with minus | later
    · exact sign minus
    · exact digit (mem_toDigits later)
  · exact digit (mem_toDigits member)

theorem displayI64_injective {first second : Int64} (same : displayI64 first = displayI64 second) : first = second := by
  have unsigned (number : Nat) : '-' ∉ Nat.toDigits 10 number := by
    intro member
    exact absurd (mem_toDigits member) (by decide)
  apply Int64.toInt_inj.mp
  unfold displayI64 at same
  split at same <;> split at same
  · have digits := toDigits_injective (List.cons.inj same).2
    omega
  · exact absurd (same ▸ List.mem_cons_self) (unsigned _)
  · exact absurd (same.symm ▸ List.mem_cons_self) (unsigned _)
  · have digits := toDigits_injective same
    omega

theorem displayI64_nonempty (value : Int64) : displayI64 value ≠ [] := by
  unfold displayI64
  split
  · exact List.cons_ne_nil _ _
  · exact Nat.toDigits_ne_nil

end Numbers

section Reading
variable (floats : Floats)

def readParams (path : List Char) (root : Json) : Params where
  path := path
  model := (root.getStr "model").getD ""
  temperature := ((root.get "temperature").bind asNumber).map floats.asF64
  topP := ((root.get "top_p").bind asNumber).map floats.asF64
  maxTokens := (root.get "max_tokens").bind Json.asI64
  maxCompletionTokens := (root.get "max_completion_tokens").bind Json.asI64
  stream := ((root.get "stream").bind Json.asBool).getD false

def readEmbedder (identity : EmbeddingIdentity) (baseUrl : List Char) (dimension : Nat) : Embedder :=
  ⟨identity.provider, identity.model, trimEndSlashes baseUrl, dimension⟩

/-- The numbers of a value are those of JSON. -/
def FiniteNumbers (root : Json) : Prop := ∀ key value, root.get key = some (.number value) → isFinite value

variable {floats}

/-- A field that is absent prints as nothing, and one that is present as something. -/
theorem field_injective {α β : Type} {display : α → List Char} (nonempty : ∀ value, display value ≠ [])
    {read : α → β} {first second : Option α}
    (faithful : ∀ value other, first = some value → second = some other → display value = display other →
      read value = read other)
    (same : (first.map display).getD [] = (second.map display).getD []) : first.map read = second.map read := by
  cases first with
  | none =>
    cases second with
    | none => rfl
    | some other => exact absurd same.symm (nonempty other)
  | some value =>
    cases second with
    | none => exact absurd same (nonempty value)
    | some other => exact congrArg some (faithful value other rfl rfl same)

theorem field_plain {α : Type} {display : α → List Char} {c : Char} (plain : ∀ value, c ∉ display value)
    (field : Option α) : c ∉ (field.map display).getD [] := by
  cases field with
  | none => exact List.not_mem_nil
  | some value => exact plain value

theorem number_finite {root : Json} (finite : FiniteNumbers root) {key : String} {value : Number}
    (found : (root.get key).bind asNumber = some value) : isFinite value := by
  obtain ⟨field, held, number⟩ := Option.bind_eq_some_iff.mp found
  cases field <;> cases number
  exact finite key value held

theorem numberField_injective (lawful : floats.Lawful) {first second : Json} (finite : FiniteNumbers first)
    (fixed : FiniteNumbers second) {key : String}
    (same : numberField floats first key = numberField floats second key) :
    ((first.get key).bind asNumber).map floats.asF64 = ((second.get key).bind asNumber).map floats.asF64 := by
  apply field_injective (fun value => lawful.nonempty (floats.asF64 value)) _ same
  intro value other left right equal
  exact lawful.faithful value other (number_finite finite left) (number_finite fixed right) equal

theorem intField_injective {first second : Json} {key : String} (same : intField first key = intField second key) :
    (first.get key).bind Json.asI64 = (second.get key).bind Json.asI64 := by
  have equal : Option.map id _ = Option.map id _ :=
    field_injective displayI64_nonempty (fun _ _ _ _ => displayI64_injective) same
  simpa using equal

end Reading

section Payload
variable {floats : Floats}

/-- The part of the payload between its third and its fourth null character. -/
def rangeText (topP maxTokens maxCompletionTokens : List Char) : List Char :=
  ("top_p=".toList ++ topP) ++ '\\' ::
    (("\n         0max_tokens=".toList ++ maxTokens) ++ '\\' ::
      ("\n         0max_completion_tokens=".toList ++ maxCompletionTokens))

/-- The part that tells whether the answer is streamed, and the embedder's provider. -/
def streamText (stream : Bool) (provider : List Char) : List Char :=
  ("stream=".toList ++ if stream then "true".toList else "false".toList) ++ '\\' ::
    ("\n         0embedder=provider=".toList ++ provider)

/-- The payload, cut at its null characters. -/
theorem paramsPayload_eq (path : List Char) (root : Json) (identity : EmbeddingIdentity) (baseUrl : List Char)
    (dimension : Nat) :
    paramsPayload floats path root (paramsHashIdentity identity baseUrl dimension) =
      ("path=".toList ++ path) ++ '\x00' :: ("model=".toList ++ ((root.getStr "model").getD "").toList) ++
        '\x00' :: ("temperature=".toList ++ numberField floats root "temperature") ++
        '\x00' :: rangeText (numberField floats root "top_p") (intField root "max_tokens")
          (intField root "max_completion_tokens") ++
        '\x00' :: streamText (((root.get "stream").bind Json.asBool).getD false) identity.provider ++
        '\x00' :: ("model=".toList ++ identity.model) ++ '\x00' :: ("base_url=".toList ++ trimEndSlashes baseUrl) ++
        '\x00' :: ("dimension=".toList ++ Nat.toDigits 10 dimension) := by
  have maxTokens : "\n         0max_tokens=".toList = "\n         0".toList ++ "max_tokens=".toList := rfl
  have maxCompletionTokens :
      "\n         0max_completion_tokens=".toList = "\n         0".toList ++ "max_completion_tokens=".toList := rfl
  have embedder : "\n         0embedder=provider=".toList =
      "\n         0".toList ++ "embedder=".toList ++ "provider=".toList := rfl
  have separator : brokenSeparator = '\\' :: "\n         0".toList := rfl
  unfold paramsPayload paramsHashIdentity rangeText streamText
  simp only [maxTokens, maxCompletionTokens, embedder, separator, List.append_assoc, List.cons_append]

theorem not_mem_label {c : Char} {label text : List Char} (absent : c ∉ label) (plain : c ∉ text) :
    c ∉ label ++ text := by
  simp [absent, plain]

theorem rangeText_injective {topP maxTokens maxCompletionTokens topP' maxTokens' maxCompletionTokens' : List Char}
    (plain : '\\' ∉ topP) (plain' : '\\' ∉ topP') (bounded : '\\' ∉ maxTokens) (bounded' : '\\' ∉ maxTokens')
    (same : rangeText topP maxTokens maxCompletionTokens = rangeText topP' maxTokens' maxCompletionTokens') :
    topP = topP' ∧ maxTokens = maxTokens' ∧ maxCompletionTokens = maxCompletionTokens' := by
  obtain ⟨first, rest⟩ := cut_first (not_mem_label (by decide) plain) (not_mem_label (by decide) plain') same
  obtain ⟨second, third⟩ := cut_first (not_mem_label (by decide) bounded) (not_mem_label (by decide) bounded') rest
  exact ⟨List.append_cancel_left first, List.append_cancel_left second, List.append_cancel_left third⟩

theorem streamText_injective {stream stream' : Bool} {provider provider' : List Char}
    (same : streamText stream provider = streamText stream' provider') : stream = stream' ∧ provider = provider' := by
  have plain (stream : Bool) : '\\' ∉ "stream=".toList ++ if stream then "true".toList else "false".toList := by
    cases stream <;> decide
  obtain ⟨flag, rest⟩ := cut_first (plain stream) (plain stream') same
  refine ⟨?_, List.append_cancel_left rest⟩
  revert flag
  cases stream <;> cases stream' <;> decide

theorem toDigits_plain (number : Nat) : '\x00' ∉ Nat.toDigits 10 number := by
  intro member
  exact absurd (mem_toDigits member) (by decide)

theorem trimEndSlashes_plain {text : List Char} (plain : '\x00' ∉ text) : '\x00' ∉ trimEndSlashes text := by
  intro member
  have kept := (List.dropWhile_sublist _).subset (List.mem_reverse.mp member)
  exact plain (List.mem_reverse.mp kept)

theorem rangeText_plain (lawful : floats.Lawful) (root : Json) :
    '\x00' ∉ rangeText (numberField floats root "top_p") (intField root "max_tokens")
      (intField root "max_completion_tokens") := by
  have topP : '\x00' ∉ numberField floats root "top_p" := field_plain (fun value => (lawful.plain _).1) _
  have bounded (key : String) : '\x00' ∉ intField root key := field_plain (displayI64_plain (.inl rfl)) _
  intro member
  unfold rangeText at member
  simp only [List.mem_append, List.mem_cons] at member
  rcases member with (label | value) | separator | (label | value) | separator | (label | value)
  · exact absurd label (by decide)
  · exact topP value
  · exact absurd separator (by decide)
  · exact absurd label (by decide)
  · exact bounded _ value
  · exact absurd separator (by decide)
  · exact absurd label (by decide)
  · exact bounded _ value

theorem streamText_plain {provider : List Char} (plain : '\x00' ∉ provider) (stream : Bool) :
    '\x00' ∉ streamText stream provider := by
  intro member
  unfold streamText at member
  simp only [List.mem_append, List.mem_cons] at member
  rcases member with (label | flag) | separator | (label | value)
  · exact absurd label (by decide)
  · cases stream <;> exact absurd flag (by decide)
  · exact absurd separator (by decide)
  · exact absurd label (by decide)
  · exact plain value

/-- The name of an embedder, without the null character. -/
def EmbeddingIdentity.Plain (identity : EmbeddingIdentity) : Prop :=
  '\x00' ∉ identity.provider ∧ '\x00' ∉ identity.model

/-- All that stands in the payload can be read back from it. It is cut at its null characters
from the right, because the model a request names may hold some. -/
theorem paramsPayload_injective (lawful : floats.Lawful) {path path' : PlainText} {root root' : Json}
    (finite : FiniteNumbers root) (finite' : FiniteNumbers root') {identity identity' : EmbeddingIdentity}
    (plain : identity.Plain) (plain' : identity'.Plain) {baseUrl baseUrl' : PlainText} {dimension dimension' : Nat}
    (same : paramsPayload floats path.text root (paramsHashIdentity identity baseUrl.text dimension) =
      paramsPayload floats path'.text root' (paramsHashIdentity identity' baseUrl'.text dimension')) :
    readParams floats path.text root = readParams floats path'.text root' ∧
      readEmbedder identity baseUrl.text dimension = readEmbedder identity' baseUrl'.text dimension' := by
  have number (root : Json) (key : String) : '\x00' ∉ numberField floats root key ∧ '\\' ∉ numberField floats root key :=
    ⟨field_plain (fun value => (lawful.plain _).1) _, field_plain (fun value => (lawful.plain _).2) _⟩
  have bounded (root : Json) (key : String) : '\\' ∉ intField root key := field_plain (displayI64_plain (.inr rfl)) _
  rw [paramsPayload_eq, paramsPayload_eq] at same
  obtain ⟨same, dimensions⟩ := cut_last (not_mem_label (by decide) (toDigits_plain dimension))
    (not_mem_label (by decide) (toDigits_plain dimension')) same
  obtain ⟨same, baseUrls⟩ := cut_last (not_mem_label (by decide) (trimEndSlashes_plain baseUrl.plain))
    (not_mem_label (by decide) (trimEndSlashes_plain baseUrl'.plain)) same
  obtain ⟨same, embedders⟩ := cut_last (not_mem_label (by decide) plain.2) (not_mem_label (by decide) plain'.2) same
  obtain ⟨same, streams⟩ := cut_last (streamText_plain plain.1 _) (streamText_plain plain'.1 _) same
  obtain ⟨same, ranges⟩ := cut_last (rangeText_plain lawful root) (rangeText_plain lawful root') same
  obtain ⟨same, temperatures⟩ := cut_last (not_mem_label (by decide) (number root _).1)
    (not_mem_label (by decide) (number root' _).1) same
  obtain ⟨paths, models⟩ := cut_first (not_mem_label (by decide) path.plain) (not_mem_label (by decide) path'.plain) same
  obtain ⟨stream, provider⟩ := streamText_injective streams
  obtain ⟨topP, maxTokens, maxCompletionTokens⟩ := rangeText_injective (number root _).2 (number root' _).2
    (bounded root _) (bounded root' _) ranges
  constructor
  · unfold readParams
    rw [List.append_cancel_left paths, String.toList_inj.mp (List.append_cancel_left models),
      numberField_injective lawful finite finite' (List.append_cancel_left temperatures),
      numberField_injective lawful finite finite' topP, intField_injective maxTokens,
      intField_injective maxCompletionTokens, stream]
  · unfold readEmbedder
    rw [provider, List.append_cancel_left embedders, List.append_cancel_left baseUrls,
      toDigits_injective (List.append_cancel_left dimensions)]

theorem paramsHashIdentity_of_readEmbedder {identity identity' : EmbeddingIdentity} {baseUrl baseUrl' : List Char}
    {dimension dimension' : Nat}
    (same : readEmbedder identity baseUrl dimension = readEmbedder identity' baseUrl' dimension') :
    paramsHashIdentity identity baseUrl dimension = paramsHashIdentity identity' baseUrl' dimension' := by
  unfold readEmbedder at same
  injection same with provider model trimmed number
  unfold paramsHashIdentity
  rw [provider, model, trimmed, number]

/-- Two bodies that share a hash agree in their paths, in all that is read from them, and in the
embedder they are hashed with, whatever the models they name hold. -/
theorem computeParamsHash_separates {sha256Hex : List Char → List Char} {fromSlice : List UInt8 → Option Json}
    (lawful : floats.Lawful) (injective : Function.Injective sha256Hex)
    (finite : ∀ body root, fromSlice body = some root → FiniteNumbers root) {path path' : PlainText}
    {body body' : List UInt8} {root root' : Json} (parsed : fromSlice body = some root)
    (parsed' : fromSlice body' = some root') {identity identity' : EmbeddingIdentity} (plain : identity.Plain)
    (plain' : identity'.Plain) {baseUrl baseUrl' : PlainText} {dimension dimension' : Nat}
    (same : computeParamsHash floats sha256Hex path.text root (paramsHashIdentity identity baseUrl.text dimension) =
      computeParamsHash floats sha256Hex path'.text root' (paramsHashIdentity identity' baseUrl'.text dimension')) :
    readParams floats path.text root = readParams floats path'.text root' ∧
      readEmbedder identity baseUrl.text dimension = readEmbedder identity' baseUrl'.text dimension' ∧
      paramsHashIdentity identity baseUrl.text dimension = paramsHashIdentity identity' baseUrl'.text dimension' := by
  obtain ⟨params, embedder⟩ := paramsPayload_injective lawful (finite body root parsed) (finite body' root' parsed')
    plain plain' (injective same)
  exact ⟨params, embedder, paramsHashIdentity_of_readEmbedder embedder⟩

end Payload

section Names

theorem headerValue_plain {headers : HeaderMap} {key : String} {value : List Char}
    (found : headerValue headers key = some value) : '\x00' ∉ value := by
  rw [headerValue] at found
  split at found
  · next text plain _ =>
    dsimp only at found
    split at found
    · cases found
    · cases found
      intro member
      obtain tab | visible := plain _ (trim_subset text member)
      · exact absurd tab (by decide)
      · exact absurd visible.1 (by decide)
  · cases found
  · cases found

theorem parseEmbeddingIdentity_plain {raw : List Char} {identity : EmbeddingIdentity} (plain : '\x00' ∉ raw)
    (parsed : parseEmbeddingIdentity raw = .ok identity) : identity.Plain := by
  have trimmed : '\x00' ∉ trim raw := fun member => plain (trim_subset raw member)
  have defaulted : '\x00' ∉ "openai".toList := by decide
  rw [parseEmbeddingIdentity] at parsed
  generalize "openai".toList = openai at parsed defaulted
  dsimp only at parsed
  split at parsed
  · cases parsed
  · obtain ⟨_, whole⟩ | ⟨before, after, split, _, whole⟩ := splitOnce_cases '/' (trim raw)
    · rw [whole] at parsed
      dsimp only at parsed
      split at parsed
      · cases parsed
      · cases parsed
        exact ⟨defaulted, trimmed⟩
    · rw [whole] at parsed
      dsimp only at parsed
      split at parsed
      · cases parsed
      · split at parsed
        · cases parsed
        · cases parsed
          rw [split] at trimmed
          refine ⟨fun member => trimmed ?_, fun member => trimmed ?_⟩
          · exact List.mem_append_left _ (trim_subset before member)
          · exact List.mem_append_right _ (List.mem_cons_of_mem _ (trim_subset after member))

end Names

section Calls
variable (floats : Floats) (sha256Hex : List Char → List Char) (fromSlice : List UInt8 → Option Json)
variable (pointId : List Char → List Char → UInt64) (defaults : SemanticDefaults)

/-- The parameters of a call and the embedder it is answered by. -/
def readCall (call : Call) : Option (Params × Embedder) := do
  let root ← fromSlice call.body
  let rawModel ← headerValue call.headers "Alephant-Embeddings-Model"
  let identity ← (parseEmbeddingIdentity rawModel).toOption
  let baseUrl ← call.answers.baseUrl.toOption
  let vector ← call.answers.embedding.toOption
  pure (readParams floats call.path.text root, readEmbedder identity baseUrl.text vector.length)

variable {floats sha256Hex fromSlice pointId defaults}

theorem prepareRequest_ok {path : PlainText} {headers : HeaderMap} {body : List UInt8}
    {prepared : PreparedSemanticRequest}
    (done : prepareRequest floats fromSlice defaults path headers body = .ok (some prepared)) :
    prepared.path = path ∧ prepared.body = body ∧
      ∃ rawModel, headerValue headers "Alephant-Embeddings-Model" = some rawModel ∧
        parseEmbeddingIdentity rawModel = .ok prepared.embeddingIdentity := by
  rw [prepareRequest] at done
  split at done
  · split at done
    · cases done
    · next rawModel named =>
      obtain ⟨identity, parsed, done⟩ := bind_ok done
      split at done
      · cases done
      · obtain ⟨policy, _, done⟩ := bind_ok done
        obtain ⟨embedText, _, done⟩ := bind_ok done
        cases done
        exact ⟨rfl, rfl, rawModel, named, parsed⟩
  · cases done

theorem elim_ok {α : Type} {value : Option α} {error : String} {result : α}
    (done : value.elim (.error error) .ok = (.ok result : Except String α)) : value = some result := by
  cases value <;> cases done
  rfl

theorem resolveVectorContext_ok {prepared : PreparedSemanticRequest} {answers : Answers} {write : SemanticWriteContext}
    (done : resolveVectorContext floats sha256Hex fromSlice prepared answers = .ok write) :
    ∃ baseUrl vector root, answers.baseUrl = .ok baseUrl ∧ answers.embedding = .ok vector ∧
      fromSlice prepared.body = some root ∧ write.response = [] ∧
      write.paramsHash = computeParamsHash floats sha256Hex prepared.path.text root
        (paramsHashIdentity prepared.embeddingIdentity baseUrl.text vector.length) := by
  rw [resolveVectorContext] at done
  obtain ⟨baseUrl, resolved, done⟩ := bind_ok done
  obtain ⟨vector, embedded, done⟩ := bind_ok done
  obtain ⟨collection, _, done⟩ := bind_ok done
  obtain ⟨_, _, done⟩ := bind_ok done
  obtain ⟨built, key, done⟩ := bind_ok done
  cases done
  rw [buildCacheKey] at key
  obtain ⟨root, parsed, key⟩ := bind_ok key
  obtain ⟨embedText, _, key⟩ := bind_ok key
  cases key
  exact ⟨baseUrl, vector, root, resolved, embedded, elim_ok parsed, rfl, rfl⟩

/-- The hash a call is looked up and stored under is that of what it reads. -/
theorem writeContext_ok {call : Call} {write : SemanticWriteContext}
    (done : writeContext floats sha256Hex fromSlice defaults call = .ok (some write)) :
    write.response = [] ∧ ∃ root identity baseUrl dimension, fromSlice call.body = some root ∧ identity.Plain ∧
      readCall floats fromSlice call =
        some (readParams floats call.path.text root, readEmbedder identity (PlainText.text baseUrl) dimension) ∧
      write.paramsHash = computeParamsHash floats sha256Hex call.path.text root
        (paramsHashIdentity identity baseUrl.text dimension) := by
  rw [writeContext] at done
  obtain ⟨prepared?, ready, done⟩ := bind_ok done
  cases prepared? with
  | none => cases done
  | some prepared =>
    obtain ⟨path, body, rawModel, named, parsed⟩ := prepareRequest_ok ready
    rcases resolved : resolveVectorContext floats sha256Hex fromSlice prepared call.answers with error | context
    · dsimp only at done
      rw [resolved] at done
      cases done
    · dsimp only at done
      rw [resolved] at done
      cases done
      obtain ⟨baseUrl, vector, root, based, embedded, held, empty, hash⟩ := resolveVectorContext_ok resolved
      rw [body] at held
      rw [path] at hash
      refine ⟨empty, root, prepared.embeddingIdentity, baseUrl, vector.length, held,
        parseEmbeddingIdentity_plain (headerValue_plain named) parsed, ?_, hash⟩
      rw [readCall]
      rw [held, named, based, embedded]
      dsimp only [Option.bind_eq_bind, Option.bind_some]
      rw [parsed]
      rfl

/-- Calls that share a hash read the same. -/
theorem readCall_eq (lawful : floats.Lawful) (injective : Function.Injective sha256Hex)
    (finite : ∀ body root, fromSlice body = some root → FiniteNumbers root) {call other : Call}
    {write kept : SemanticWriteContext}
    (done : writeContext floats sha256Hex fromSlice defaults call = .ok (some write))
    (stored : writeContext floats sha256Hex fromSlice defaults other = .ok (some kept))
    (same : kept.paramsHash = write.paramsHash) :
    ∃ read, readCall floats fromSlice call = some read ∧ readCall floats fromSlice other = some read := by
  obtain ⟨_, root, identity, baseUrl, dimension, held, plain, reads, hash⟩ := writeContext_ok done
  obtain ⟨_, root', identity', baseUrl', dimension', held', plain', reads', hash'⟩ := writeContext_ok stored
  rw [hash, hash'] at same
  obtain ⟨params, embedder⟩ := paramsPayload_injective lawful (finite _ _ held') (finite _ _ held) plain' plain
    (injective same)
  rw [params, embedder] at reads'
  exact ⟨_, reads, reads'⟩

theorem decodePayloadIfFresh_some {payload : QdrantPointPayload} {now : Int64} {decoded : DecodedPayload}
    (read : decodePayloadIfFresh payload now = some decoded) :
    decoded.cacheKey = payload.cacheKey ∧ Lib.Base64.decode payload.responseB64 = some decoded.response := by
  unfold decodePayloadIfFresh at read
  split at read
  · obtain ⟨response, decodes, rfl⟩ := Option.map_eq_some_iff.mp read
    exact ⟨rfl, decodes⟩
  · cases read

theorem searchTop1_ok {points : List Point} {answer : SearchAnswer} {collection : List Char} {vector : List UInt32}
    {paramsHash : List Char} {now : Int64} {hit : SemanticHit}
    (found : searchTop1 points answer collection vector paramsHash now = .ok (some hit)) :
    ∃ point ∈ points, point.payload.paramsHash = paramsHash ∧ hit.cacheReferenceId = point.payload.cacheKey ∧
      Lib.Base64.decode point.payload.responseB64 = some hit.responseBytes := by
  unfold searchTop1 at found
  split at found
  · cases found
  · obtain ⟨top, _, found⟩ := bind_ok found
    split at found
    · cases found
    · split at found
      · cases found
      · next point held =>
        split at found
        · next matched =>
          split at found
          · next decoded read =>
            cases found
            obtain ⟨reference, decodes⟩ := decodePayloadIfFresh_some read
            exact ⟨point, List.mem_of_getElem? held, matched.2, reference, decodes⟩
          · cases found
        · cases found

/-- A hit is a point that lies under the hash of the call. -/
theorem tryHit_ok {points : List Point} {call : Call} {answer : SearchAnswer} {now : Int64} {hit : SemanticHit}
    (found : tryHit floats sha256Hex fromSlice defaults points call answer now = .ok (some hit)) :
    ∃ write, writeContext floats sha256Hex fromSlice defaults call = .ok (some write) ∧
      ∃ point ∈ points, point.payload.paramsHash = write.paramsHash ∧
        hit.cacheReferenceId = point.payload.cacheKey ∧
        Lib.Base64.decode point.payload.responseB64 = some hit.responseBytes := by
  rw [tryHit] at found
  obtain ⟨prepared?, ready, found⟩ := bind_ok found
  cases prepared? with
  | none => cases found
  | some prepared =>
    obtain ⟨outcome, looked, found⟩ := bind_ok found
    rw [tryHitPrepared] at looked
    obtain ⟨write, resolved, looked⟩ := bind_ok looked
    obtain ⟨top, searched, looked⟩ := bind_ok looked
    refine ⟨write, ?_, ?_⟩
    · rw [writeContext]
      rw [ready]
      show some <$> resolveVectorContext floats sha256Hex fromSlice prepared call.answers = .ok (some write)
      rw [resolved]
      rfl
    · cases top with
      | none =>
        cases looked
        cases found
      | some top =>
        dsimp only at looked
        split at looked
        · cases looked
          cases found
        · cases looked
          cases found
          exact searchTop1_ok searched

variable (floats sha256Hex fromSlice pointId defaults)

/-- Every point was written by a store of the run, under what its call reads. -/
def Authored (events : List Event) (points : List Point) : Prop :=
  ∀ point ∈ points, ∃ call response now write,
    Event.store call response now true ∈ events ∧
      writeContext floats sha256Hex fromSlice defaults call = .ok (some write) ∧
      point = pointStruct pointId { write with response } now

variable {floats sha256Hex fromSlice pointId defaults}

theorem mem_storeResponseWithContext {points : List Point} {write : SemanticWriteContext} {response : List UInt8}
    {now : Int64} {point : Point} (fresh : write.response = [])
    (member : point ∈ storeResponseWithContext pointId points write response now) :
    point ∈ points ∨ point = pointStruct pointId { write with response } now := by
  have written : (if response.isEmpty then write else { write with response }) = { write with response } := by
    cases response with
    | nil =>
      show write = { write with response := [] }
      rw [← fresh]
    | cons _ _ => rfl
  rw [storeResponseWithContext] at member
  rw [written] at member
  obtain old | new := List.mem_append.mp member
  · exact .inl (List.mem_filter.mp old).1
  · exact .inr (List.mem_singleton.mp new)

theorem step_authored {events : List Event} {points next : List Point} {event : Event}
    (authored : Authored floats sha256Hex fromSlice pointId defaults events points) (member : event ∈ events)
    (taken : step floats sha256Hex fromSlice pointId defaults points event = some next) :
    Authored floats sha256Hex fromSlice pointId defaults events next := by
  cases event with
  | lookup call answer now =>
    cases taken
    exact authored
  | store call response now accepted =>
    unfold step at taken
    dsimp only at taken
    split at taken
    · next write done =>
      split at taken
      · next accept =>
        cases taken
        intro point inside
        obtain old | rfl := mem_storeResponseWithContext (writeContext_ok done).1 inside
        · exact authored point old
        · exact ⟨call, response, now, write, accept ▸ member, done, rfl⟩
      · cases taken
        exact authored
    · cases taken
      exact authored
    · cases taken
      exact authored
  | forget index =>
    cases taken
    intro point inside
    exact authored point (List.mem_of_mem_eraseIdx inside)

theorem run_authored {events : List Event} {points : List Point}
    (ran : run (step floats sha256Hex fromSlice pointId defaults) [] events = some points) :
    Authored floats sha256Hex fromSlice pointId defaults events points := by
  have kept (state : List Point) (event : Event) (next : List Point)
      (authored : Authored floats sha256Hex fromSlice pointId defaults events state) (member : event ∈ events)
      (taken : step floats sha256Hex fromSlice pointId defaults state event = some next) :
      Authored floats sha256Hex fromSlice pointId defaults events next := step_authored authored member taken
  exact run_invariant kept (List.forall_mem_nil _) (along_of_forall [] fun _ member => member) ran

/-- In every run, an answer that is found again was stored by a call with the same path, model,
temperature, nucleus, bounds and stream flag, answered by the same embedder. The messages of the
two are not compared: a hit only needs their last user texts to lie near each other. -/
theorem semantic_hit_isolated (lawful : floats.Lawful) (injective : Function.Injective sha256Hex)
    (finite : ∀ body root, fromSlice body = some root → FiniteNumbers root) {events : List Event}
    {points : List Point} (ran : run (step floats sha256Hex fromSlice pointId defaults) [] events = some points)
    {call : Call} {answer : SearchAnswer} {now : Int64} {hit : SemanticHit}
    (found : tryHit floats sha256Hex fromSlice defaults points call answer now = .ok (some hit)) :
    ∃ author before write read, Event.store author hit.responseBytes before true ∈ events ∧
      writeContext floats sha256Hex fromSlice defaults author = .ok (some write) ∧
      hit.cacheReferenceId = write.cacheKey ∧ readCall floats fromSlice author = some read ∧
      readCall floats fromSlice call = some read := by
  obtain ⟨kept, looked, point, member, hash, reference, decodes⟩ := tryHit_ok found
  obtain ⟨author, response, before, write, stored, done, rfl⟩ := run_authored ran point member
  obtain ⟨read, reads, authored⟩ := readCall_eq lawful injective finite looked done hash
  have bytes : response = hit.responseBytes := Option.some.inj ((Lib.Base64.decode_encode response).symm.trans decodes)
  exact ⟨author, before, write, read, bytes ▸ stored, done, reference, authored, reads⟩

end Calls

section Hello

/-- Doubles by their bits. The requests of the examples hold no numbers, and bits order the
scores that are not negative. -/
def Floats.byBits : Floats where
  asF64
    | .float bits => bits
    | .posInt value => value
    | .negInt value => value.toUInt64
  display bits := Nat.toDigits 10 bits.toNat
  parse _ := none
  inUnit bits := bits ≤ 0x3F800000
  less first second := first < second

theorem Floats.byBits_lawful : Floats.byBits.Lawful where
  nonempty _ := Nat.toDigits_ne_nil
  plain bits := by
    constructor
    · exact toDigits_plain bits.toNat
    · intro member
      exact absurd (mem_toDigits member) (by decide)
  faithful _ _ _ _ same := UInt64.toNat_inj.mp (toDigits_injective same)

/-- A request whose model holds a null character, as JSON writes it. -/
def nullText (more : String) : String := "\x7b\"model\":\"a\\u0000temperature=1\"" ++ more ++ "\x7d"

def nullRoot (more : List (String × Json)) : Json := .object (("model", .string "a\x00temperature=1") :: more)

/-- What the parser makes of two bodies: such a request alone, and one with a flag that says what
its absence says. -/
def nullSlice (body : List UInt8) : Option Json :=
  if body = asciiBytes (nullText "") then some (nullRoot [])
  else if body = asciiBytes (nullText ",\"stream\":false") then some (nullRoot [("stream", .bool false)])
  else none

theorem nullSlice_finite (body : List UInt8) (root : Json) (found : nullSlice body = some root) :
    FiniteNumbers root := by
  intro key value held
  unfold nullSlice at found
  split at found
  · cases found
    unfold nullRoot Json.get at held
    simp only [List.lookup_cons, List.lookup_nil] at held
    split at held <;> cases held
  · split at found
    · cases found
      unfold nullRoot Json.get at held
      simp only [List.lookup_cons, List.lookup_nil] at held
      split at held
      · cases held
      · split at held <;> cases held
    · cases found

theorem null_model_separated :
    readParams .byBits "/v1/chat/completions".toList (nullRoot []) =
      readParams .byBits "/v1/chat/completions".toList (nullRoot [("stream", .bool false)]) := by
  have plain : EmbeddingIdentity.Plain ⟨"openai".toList, "text-embedding-3-small".toList, true⟩ := by
    constructor <;> decide
  exact (computeParamsHash_separates Floats.byBits_lawful Function.injective_id nullSlice_finite
    (show nullSlice (asciiBytes (nullText "")) = some (nullRoot []) from by rfl)
    (show nullSlice (asciiBytes (nullText ",\"stream\":false")) = some (nullRoot [("stream", .bool false)]) from by rfl)
    plain plain
    (show computeParamsHash .byBits id (⟨"/v1/chat/completions".toList, by decide⟩ : PlainText).text _
        (paramsHashIdentity _ (⟨"https://api.openai.com".toList, by decide⟩ : PlainText).text 1536) =
      computeParamsHash .byBits id (⟨"/v1/chat/completions".toList, by decide⟩ : PlainText).text _
        (paramsHashIdentity _ (⟨"https://api.openai.com/".toList, by decide⟩ : PlainText).text 1536) from
      by rfl)).1

def helloText (system : String) : String :=
  "\x7b\"model\":\"gpt-4o\",\"messages\":[\x7b\"role\":\"system\",\"content\":\"" ++ system ++
    "\"\x7d,\x7b\"role\":\"user\",\"content\":\"Hello\"\x7d]\x7d"

def helloBody (system : String) : List UInt8 := asciiBytes (helloText system)

def helloRoot (system : String) : Json :=
  .object [("model", .string "gpt-4o"),
    ("messages", .array [.object [("role", .string "system"), ("content", .string system)],
      .object [("role", .string "user"), ("content", .string "Hello")]])]

/-- What the parser makes of the bodies of the examples. -/
def helloSlice (body : List UInt8) : Option Json :=
  ["Be brief.", "Be thorough."].findSome? fun system =>
    if body = helloBody system then some (helloRoot system) else none

def helloHeaders : HeaderMap where
  get
    | "Alephant-Embeddings-Model" =>
      some (.visible "openai/text-embedding-3-small".toList (visible_of_all (by decide)))
    | "Alephant-Embeddings-Key" => some (.visible "sk-1".toList (visible_of_all (by decide)))
    | _ => none

def helloCall (system : String) : Call where
  path := ⟨"/v1/chat/completions".toList, by decide⟩
  headers := helloHeaders
  body := helloBody system
  answers := ⟨.ok ⟨"https://api.openai.com".toList, by decide⟩, .ok [0x3F800000], .ok ()⟩

def helloAnswer : List UInt8 := [0x7B, 0x7D]

def helloDefaults : SemanticDefaults := ⟨0x3F6B851F, 3600⟩

def helloEvents : List Event := [.store (helloCall "Be brief.") helloAnswer 1000 true]

/-- The store's answer to every lookup: its first point, with a score close to one. -/
def helloSearch : SearchAnswer := .ok (some (0, 0x3F7FFFFF))

theorem helloSlice_finite (body : List UInt8) (root : Json) (found : helloSlice body = some root) :
    FiniteNumbers root := by
  intro key value held
  obtain ⟨system, _, same⟩ := List.exists_of_findSome?_eq_some found
  split at same
  · cases same
    -- The root's members are a text and a list.
    unfold helloRoot Json.get at held
    simp only [List.lookup_cons, List.lookup_nil] at held
    split at held
    · cases held
    · split at held <;> cases held
  · cases same

theorem ok_of_join {α : Type} {result : Except String (Option α)} {value : α}
    (found : result.toOption.join = some value) : result = .ok (some value) := by
  cases result with
  | error error => cases found
  | ok outcome => exact congrArg Except.ok found

theorem hello_hit {system : String} (one : system ∈ ["Be brief.", "Be thorough."]) :
    ∃ points hit, run (step .byBits id helloSlice (fun _ _ => 7) helloDefaults) [] helloEvents = some points ∧
      tryHit .byBits id helloSlice helloDefaults points (helloCall system) helloSearch 1060 = .ok (some hit) ∧
      hit.responseBytes = helloAnswer := by
  have answered : ∀ system ∈ ["Be brief.", "Be thorough."],
      ((run (step .byBits id helloSlice (fun _ _ => 7) helloDefaults) [] helloEvents).bind fun points =>
        (tryHit .byBits id helloSlice helloDefaults points (helloCall system) helloSearch 1060).toOption.join).map
          SemanticHit.responseBytes = some helloAnswer := by
    decide +kernel
  obtain ⟨hit, found, same⟩ := Option.map_eq_some_iff.mp (answered system one)
  obtain ⟨points, ran, looked⟩ := Option.bind_eq_some_iff.mp found
  exact ⟨points, hit, ran, ok_of_join looked, same⟩

theorem semantic_hit_isolated_hello :
    ∃ points hit author before write read,
      run (step .byBits id helloSlice (fun _ _ => 7) helloDefaults) [] helloEvents = some points ∧
      tryHit .byBits id helloSlice helloDefaults points (helloCall "Be brief.") helloSearch 1060 = .ok (some hit) ∧
      Event.store author hit.responseBytes before true ∈ helloEvents ∧
      writeContext .byBits id helloSlice helloDefaults author = .ok (some write) ∧
      hit.cacheReferenceId = write.cacheKey ∧ readCall .byBits helloSlice author = some read ∧
      readCall .byBits helloSlice (helloCall "Be brief.") = some read := by
  obtain ⟨points, hit, ran, found, _⟩ := hello_hit (List.mem_cons_self (a := "Be brief."))
  obtain ⟨author, before, write, read, rest⟩ := semantic_hit_isolated Floats.byBits_lawful
    Function.injective_id helloSlice_finite ran found
  exact ⟨points, hit, author, before, write, read, ran, found, rest⟩

def systemPrompts (root : Json) : List (Option String) :=
  (((root.get "messages").bind Json.asArray).getD []).filterMap fun message =>
    if message.getStr "role" = some "system" then some (message.getStr "content") else none

/-- The only answer ever stored, to a request with another system prompt, is served. -/
theorem semantic_hit_across_system_prompts :
    Floats.byBits.Lawful ∧ Function.Injective (id : List Char → List Char) ∧
      ∃ points hit, run (step .byBits id helloSlice (fun _ _ => 7) helloDefaults) []
          [.store (helloCall "Be brief.") helloAnswer 1000 true] = some points ∧
        tryHit .byBits id helloSlice helloDefaults points (helloCall "Be thorough.") helloSearch 1060 = .ok (some hit) ∧
        hit.responseBytes = helloAnswer ∧
        (helloSlice (helloCall "Be brief.").body).map systemPrompts = some [some "Be brief."] ∧
        (helloSlice (helloCall "Be thorough.").body).map systemPrompts = some [some "Be thorough."] := by
  obtain ⟨points, hit, ran, found, same⟩ := hello_hit (List.mem_of_mem_tail (List.mem_cons_self (a := "Be thorough.")))
  exact ⟨Floats.byBits_lawful, Function.injective_id, points, hit, ran, found, same, by rfl, by rfl⟩

end Hello

end AiGateway.SemanticCache
