import AiGateway.DataUris
import AiGateway.Lib.Runs
import AiGateway.Lib.Subsequences
import AiGateway.Proofs.AnthropicConversations

/-! Images that are kept. A payload of base64 is never sliced inside a character, and the bytes
that are looked at are the first 48 of those it encodes. -/

namespace AiGateway.DataUris

open OpenAi Lib Lib.Splits Lib.ByteSlices

section Payloads
variable {libraries : ImageLibraries}

/-- The payload has no more than 64 bytes, or a character of it starts right after them. -/
def Sliceable (b64 : List Char) : Prop :=
  byteLength b64 ≤ 64 ∨ ∃ front back, b64 = front ++ back ∧ byteLength front = 64

theorem mimeFromPayload_ok_iff (b64 : List Char) : (∃ mime, mimeFromPayload libraries b64 = .ok mime) ↔ Sliceable b64 := by
  rw [mimeFromPayload, Sliceable]
  cases taken : takeBytes b64 (if byteLength b64 ≤ 64 then byteLength b64 else 64) with
  | none =>
    refine iff_of_false (fun ⟨_, impossible⟩ => nomatch impossible) fun sliceable => ?_
    have nowhere (front back : List Char) (whole : b64 = front ++ back)
        (long : byteLength front = if byteLength b64 ≤ 64 then byteLength b64 else 64) : False := by
      rw [takeBytes_eq_some_iff.mpr ⟨back, whole, long⟩] at taken
      cases taken
    by_cases short : byteLength b64 ≤ 64
    · exact nowhere b64 [] (List.append_nil b64).symm (if_pos short).symm
    · obtain ⟨front, back, whole, long⟩ := sliceable.resolve_left short
      exact nowhere front back whole (long.trans (if_neg short).symm)
  | some front =>
    refine iff_of_true ⟨_, rfl⟩ ?_
    obtain ⟨back, whole, long⟩ := takeBytes_eq_some_iff.mp taken
    by_cases short : byteLength b64 ≤ 64
    · exact .inl short
    · exact .inr ⟨front, back, whole, long.trans (if_neg short)⟩

/-- What is taken for the media type of a payload of base64. -/
theorem mimeFromPayload_of_decoded {b64 : List Char} {bytes : List UInt8} (read : libraries.base64.decode b64 = some bytes) :
    mimeFromPayload libraries b64 = .ok (libraries.infer (bytes.take 48)) := by
  have ascii := libraries.base64.ascii read
  have bounded := libraries.base64.bounded read
  have length := byteLength_of_ascii ascii
  have sliced (front : List Char) (back : List Char) (whole : b64 = front ++ back)
      (long : byteLength front = if byteLength b64 ≤ 64 then byteLength b64 else 64)
      (frontRead : libraries.base64.decode front = some (bytes.take 48)) :
      mimeFromPayload libraries b64 = .ok (libraries.infer (bytes.take 48)) := by
    have fits : (bytes.take 48).length ≤ 48 := List.length_take_le 48 bytes
    rw [mimeFromPayload, takeBytes_eq_some_iff.mpr ⟨back, whole, long⟩]
    simp only [decodeSlice, frontRead, Option.filter_some, fits, decide_true, if_true, Option.bind_some]
  by_cases short : byteLength b64 ≤ 64
  · have all : bytes.take 48 = bytes := List.take_of_length_le (by omega)
    exact sliced b64 [] (List.append_nil b64).symm (if_pos short).symm (all.symm ▸ read)
  · have inside : 4 * 16 < b64.length := by omega
    have frontLength : byteLength (b64.take 64) = 64 := by
      rw [byteLength_of_ascii fun c member => ascii c (List.mem_of_mem_take member), List.length_take]
      omega
    exact sliced (b64.take 64) (b64.drop 64) (List.take_append_drop 64 b64).symm (frontLength.trans (if_neg short).symm)
      (libraries.base64.front read inside)

end Payloads

section Urls
variable (libraries : ImageLibraries)

/-- What follows the first comma of a data URI. -/
def payloadOf (url : String) : Option (List Char) := (splitOnce ',' url.toList).map Prod.snd

/-- The payload and the bytes of a data URI in base64 that hold an image of a known type. -/
def imageOf (known : String → Bool) (url : String) : Option (List Char × List UInt8) := do
  let b64 ← payloadOf url
  let bytes ← libraries.base64.decode b64
  let mime ← libraries.infer bytes
  if known mime then some (b64, bytes) else none

/-- The payload can be sliced, and an image of a known type shows an accepted type in its first
48 bytes. -/
structure Readable (known accepted : String → Bool) (b64 : List Char) : Prop where
  sliceable : Sliceable b64
  early : ∀ bytes mime, libraries.base64.decode b64 = some bytes → libraries.infer bytes = some mime → known mime →
    ∃ seen, libraries.infer (bytes.take 48) = some seen ∧ accepted seen

variable {libraries}

theorem imageOf_eq_some_iff {known : String → Bool} {url : String} {b64 : List Char} {bytes : List UInt8} :
    imageOf libraries known url = some (b64, bytes) ↔
      payloadOf url = some b64 ∧ libraries.base64.decode b64 = some bytes ∧
        ∃ mime, libraries.infer bytes = some mime ∧ known mime := by
  simp [imageOf, Option.bind_eq_some_iff]

theorem mimeFromDataUri_of_payload {url : String} {b64 : List Char} (payload : payloadOf url = some b64) :
    mimeFromDataUri libraries url = mimeFromPayload libraries b64 := by
  obtain ⟨⟨before, after⟩, split, rfl⟩ := Option.map_eq_some_iff.mp payload
  rw [mimeFromDataUri, split]

theorem mimeFromDataUri_ok_iff (url : String) :
    (∃ mime, mimeFromDataUri libraries url = .ok mime) ↔ ∀ b64, payloadOf url = some b64 → Sliceable b64 := by
  cases payload : payloadOf url with
  | none =>
    rw [mimeFromDataUri, Option.map_eq_none_iff.mp payload]
    exact iff_of_true ⟨_, rfl⟩ fun b64 impossible => nomatch impossible
  | some b64 =>
    rw [mimeFromDataUri_of_payload payload, mimeFromPayload_ok_iff]
    simp

theorem mimeOf_of_decoded {url : String} {b64 : List Char} {bytes : List UInt8} (payload : payloadOf url = some b64)
    (read : libraries.base64.decode b64 = some bytes) : mimeOf libraries url = libraries.infer (bytes.take 48) := by
  rw [mimeOf, mimeFromDataUri_of_payload payload, mimeFromPayload_of_decoded read]

theorem mimeOf_congr {url other : String} {b64 : List Char} (payload : payloadOf url = some b64)
    (same : payloadOf other = some b64) : mimeOf libraries url = mimeOf libraries other := by
  rw [mimeOf, mimeOf, mimeFromDataUri_of_payload payload, mimeFromDataUri_of_payload same]

/-- A URL neither panics nor loses an image, where an image is found just if its type has been
accepted. -/
theorem readable_iff {β : Type} {known accepted : String → Bool} {found : String → Option β}
    {shown : List Char × List UInt8 → β}
    (accepts : ∀ url image, imageOf libraries known url = some image →
      (found url = some (shown image) ↔ ∃ seen, mimeOf libraries url = some seen ∧ accepted seen)) (url : String) :
    ((∃ mime, mimeFromDataUri libraries url = .ok mime) ∧
        ∀ image, (imageOf libraries known url).map shown = some image → found url = some image) ↔
      ∀ b64, payloadOf url = some b64 → Readable libraries known accepted b64 := by
  rw [mimeFromDataUri_ok_iff]
  constructor
  · rintro ⟨sliceable, each⟩ b64 payload
    refine ⟨sliceable b64 payload, fun bytes mime read inferred named => ?_⟩
    have whole := imageOf_eq_some_iff.mpr ⟨payload, read, mime, inferred, named⟩
    obtain ⟨seen, looked, taken⟩ := (accepts url _ whole).mp (each _ (congrArg (Option.map shown) whole))
    rw [mimeOf_of_decoded payload read] at looked
    exact ⟨seen, looked, taken⟩
  · intro readable
    refine ⟨fun b64 payload => (readable b64 payload).sliceable, fun image wanted => ?_⟩
    obtain ⟨⟨b64, bytes⟩, whole, rfl⟩ := Option.map_eq_some_iff.mp wanted
    obtain ⟨payload, read, mime, inferred, named⟩ := imageOf_eq_some_iff.mp whole
    obtain ⟨seen, looked, taken⟩ := (readable b64 payload).early bytes mime read inferred named
    rw [← mimeOf_of_decoded payload read] at looked
    exact (accepts url _ whole).mpr ⟨seen, looked, taken⟩

end Urls

section Conversions
variable {libraries : ImageLibraries} {α β : Type} {convert : (String → Option String) → Except ConvertError α}
variable {value : CreateChatCompletionRequest} {kept : α → List β} {found : String → Option β}

theorem withMimes_ok_iff {result : Except ConvertError α} :
    withMimes libraries convert value = .ok result ↔
      convert (mimeOf libraries) = result ∧
        ∀ params, result = .ok params → ∀ url ∈ imageUrls value, ∃ mime, mimeFromDataUri libraries url = .ok mime := by
  rw [withMimes]
  cases convert (mimeOf libraries) with
  | error error =>
    constructor
    · rintro ⟨⟩
      exact ⟨rfl, fun _ impossible => nomatch impossible⟩
    · rintro ⟨rfl, _⟩
      rfl
  | ok params =>
    have inspected : (imageUrls value).forM (fun url => (mimeFromDataUri libraries url).map fun _ => ()) = .ok () ↔
        ∀ url ∈ imageUrls value, ∃ mime, mimeFromDataUri libraries url = .ok mime := by
      rw [Runs.forM_ok_iff]
      refine forall_congr' fun url => imp_congr_right fun _ => ?_
      cases mimeFromDataUri libraries url <;> simp [Except.map]
    constructor
    · intro done
      obtain ⟨_, first, later⟩ := Runs.bind_ok done
      cases later
      exact ⟨rfl, fun _ _ => inspected.mp first⟩
    · rintro ⟨rfl, sound⟩
      simp only [inspected.mpr (sound params rfl)]
      rfl

/-- A conversion returns with every image of a known type just where, if it gets to the images,
each of their payloads is readable. -/
theorem keepsImages_iff {mapped : Prop} {known accepted : String → Bool} {shown : List Char × List UInt8 → β}
    (converts : (∃ params, convert (mimeOf libraries) = .ok params) ↔ mapped)
    (images : ∀ params, convert (mimeOf libraries) = .ok params → kept params = (imageUrls value).filterMap found)
    (accepts : ∀ url image, imageOf libraries known url = some image →
      (found url = some (shown image) ↔ ∃ seen, mimeOf libraries url = some seen ∧ accepted seen))
    (determined : ∀ url other image, (imageOf libraries known url).map shown = some image → found other = some image →
      found url = some image) :
    (∃ result, withMimes libraries convert value = .ok result ∧ ∀ params, result = .ok params →
        ((imageUrls value).filterMap fun url => (imageOf libraries known url).map shown).Sublist (kept params)) ↔
      (mapped → ∀ url ∈ imageUrls value, ∀ b64, payloadOf url = some b64 → Readable libraries known accepted b64) := by
  constructor
  · rintro ⟨result, returned, sublist⟩ arrived url member
    obtain ⟨params, converted⟩ := converts.mpr arrived
    obtain ⟨rfl, sound⟩ := withMimes_ok_iff.mp returned
    have fewer := sublist params converted
    rw [images params converted] at fewer
    have each := (Subsequences.filterMap_sublist_iff determined).mp fewer url member
    exact (readable_iff accepts url).mp ⟨sound params converted url member, each⟩
  · intro readable
    have held (params : α) (converted : convert (mimeOf libraries) = .ok params) (url : String)
        (member : url ∈ imageUrls value) := (readable_iff accepts url).mpr (readable (converts.mp ⟨params, converted⟩) url member)
    refine ⟨_, withMimes_ok_iff.mpr ⟨rfl, fun params converted url member => (held params converted url member).1⟩, ?_⟩
    intro params converted
    rw [images params converted]
    exact (Subsequences.filterMap_sublist_iff determined).mpr fun url member => (held params converted url member).2

end Conversions

/-- The model of the request is mapped to one of the provider. -/
def Mapped (chrono : Chrono) (catalog : Catalog) (modelMapper : ModelMapper) (value : CreateChatCompletionRequest)
    (provider : InferenceProvider) : Prop :=
  ∃ source target, ModelId.fromStr chrono value.model.toList = .ok source ∧
    modelMapper.mapModel catalog source provider = .ok target

section Anthropic
variable (libraries : ImageLibraries)

/-- A type of images. -/
def isImage (mime : String) : Bool := "image/".toList.isPrefixOf mime.toList

/-- The payload of an image that Anthropic is sent. -/
def sentPayload : Anthropic.ContentBlock → Option String
  | .image source => if source.type = "base64" then some source.data else none
  | _ => none

def sentPayloads (message : Anthropic.Message) : List String :=
  match message.content with
  | .blocks blocks => blocks.filterMap sentPayload
  | .text _ => []

theorem sentPayloads_blocks (role : Anthropic.Role) (blocks : List Anthropic.ContentBlock) :
    sentPayloads ⟨role, .blocks blocks⟩ = blocks.filterMap sentPayload := rfl

def keptPayload (url : String) : Option String :=
  (mimeOf libraries url).bind fun _ => (payloadOf url).map String.ofList

theorem userPart_sent (part : UserPart) :
    ((Anthropic.mapUserPart (mimeOf libraries) part).bind sentPayload).toList =
      (partUrls part).filterMap (keptPayload libraries) := by
  cases part with
  | text text => rfl
  | inputAudio data => rfl
  | imageUrl url =>
    rw [Anthropic.mapUserPart, Anthropic.mapImage, partUrls]
    split
    next => rfl
    next =>
      rw [List.filterMap_cons, List.filterMap_nil, keptPayload, payloadOf]
      cases mimeOf libraries url with
      | none => rfl
      | some mime => cases splitOnce ',' url.toList <;> rfl

theorem assistantContent_imageless (content : Option AssistantContent) :
    (Anthropic.mapAssistantContent content).filterMap sentPayload = [] := by
  rw [List.filterMap_eq_nil_iff]
  cases content with
  | none => exact List.forall_mem_nil _
  | some content =>
    cases content with
    | text text =>
      rw [Anthropic.mapAssistantContent]
      split
      · exact List.forall_mem_nil _
      · exact List.forall_mem_singleton.mpr rfl
    | array parts =>
      rw [Anthropic.mapAssistantContent, List.forall_mem_map]
      intro part _
      cases part <;> rfl

theorem toolContent_imageless (toolCallId : String) (content : TextContent) :
    (Anthropic.mapToolContent toolCallId content).filterMap sentPayload = [] := by
  rw [List.filterMap_eq_nil_iff]
  cases content with
  | text text => exact List.forall_mem_singleton.mpr rfl
  | array parts => exact List.forall_mem_map.mpr fun _ _ => rfl

theorem message_sent (json : JsonText) (tools : Option (List Anthropic.Tool)) (message : RequestMessage) :
    (Anthropic.mapMessage json (mimeOf libraries) tools message).toList.flatMap sentPayloads =
      (messageUrls message).filterMap (keptPayload libraries) := by
  cases message with
  | developer content => rfl
  | system content => rfl
  | user content =>
    cases content with
    | text text => rfl
    | array parts =>
      have each := Subsequences.filterMap_parts fun part (_ : part ∈ parts) => userPart_sent libraries part
      rw [messageUrls, ← each, ← List.filterMap_filterMap]
      exact List.append_nil _
  | assistant content toolCalls =>
    have calls : ((toolCalls.getD []).map (Anthropic.mapToolCall json)).filterMap sentPayload = [] :=
      List.filterMap_eq_nil_iff.mpr (List.forall_mem_map.mpr fun _ _ => rfl)
    rw [Anthropic.mapMessage]
    split
    · rfl
    · rw [Option.toList_some, List.flatMap_singleton, sentPayloads_blocks, List.filterMap_append,
        assistantContent_imageless, calls]
      rfl
  | tool content toolCallId =>
    rw [Anthropic.mapMessage, Option.toList_some, List.flatMap_singleton, sentPayloads_blocks, toolContent_imageless]
    rfl
  | function content name =>
    rw [Anthropic.mapMessage]
    cases tools.bind fun tools => tools.find? fun tool => tool.name == name <;> rfl

variable (chrono : Chrono) (catalog : Catalog) (modelMapper : ModelMapper) (json : JsonText)
variable (value : CreateChatCompletionRequest)

theorem anthropic_converts_iff {mimes : String → Option String} :
    (∃ params, Anthropic.tryConvert chrono catalog json mimes modelMapper value = .ok params) ↔
      Mapped chrono catalog modelMapper value .anthropic := by
  constructor
  · rintro ⟨params, converted⟩
    obtain ⟨source, target, read, mapped, _⟩ := conversion_ok_iff.mp converted
    exact ⟨source, target, read, mapped⟩
  · rintro ⟨source, target, read, mapped⟩
    exact ⟨_, conversion_ok_iff.mpr ⟨source, target, read, mapped, rfl⟩⟩

theorem anthropic_images (params : Anthropic.CreateMessageParams)
    (converted : Anthropic.tryConvert chrono catalog json (mimeOf libraries) modelMapper value = .ok params) :
    params.messages.flatMap sentPayloads = (imageUrls value).filterMap (keptPayload libraries) := by
  obtain ⟨source, target, _, _, rfl⟩ := conversion_ok_iff.mp converted
  rw [Subsequences.flatMap_filterMap, imageUrls, List.filterMap_flatMap]
  exact List.flatMap_congr fun message _ => message_sent libraries json _ message

theorem keptPayload_eq_some_iff {url payload : String} :
    keptPayload libraries url = some payload ↔
      payloadOf url = some payload.toList ∧ ∃ mime, mimeOf libraries url = some mime := by
  rw [keptPayload]
  cases mimeOf libraries url with
  | none => simp
  | some mime =>
    cases payloadOf url with
    | none => simp
    | some b64 =>
      rw [Option.bind_some, Option.map_some, Option.some_inj, Option.some_inj]
      constructor
      · rintro rfl
        exact ⟨String.toList_ofList.symm, mime, rfl⟩
      · rintro ⟨rfl, _⟩
        exact String.ofList_toList

/-- What is asked of the conversion of a request's images: it returns, and where it does not fail
each payload that is an image in base64 is among those that are sent, unchanged and in order. -/
def AnthropicKeepsImages : Prop :=
  ∃ result, anthropicTryConvert libraries chrono catalog modelMapper json value = .ok result ∧
    ∀ params, result = .ok params →
      ((imageUrls value).filterMap fun url => (imageOf libraries isImage url).map fun image => String.ofList image.1).Sublist
        (params.messages.flatMap sentPayloads)

theorem anthropicKeepsImages_iff :
    AnthropicKeepsImages libraries chrono catalog modelMapper json value ↔
      (Mapped chrono catalog modelMapper value .anthropic → ∀ url ∈ imageUrls value, ∀ b64, payloadOf url = some b64 →
        Readable libraries isImage (fun _ => true) b64) := by
  have accepts (url : String) (image : List Char × List UInt8) (whole : imageOf libraries isImage url = some image) :
      keptPayload libraries url = some (String.ofList image.1) ↔ ∃ seen, mimeOf libraries url = some seen ∧ true := by
    have payload := (imageOf_eq_some_iff.mp whole).1
    rw [keptPayload_eq_some_iff, String.toList_ofList]
    simp [payload]
  have determined (url other : String) (payload : String)
      (wanted : (imageOf libraries isImage url).map (fun image => String.ofList image.1) = some payload)
      (found : keptPayload libraries other = some payload) : keptPayload libraries url = some payload := by
    obtain ⟨image, whole, rfl⟩ := Option.map_eq_some_iff.mp wanted
    have first := (imageOf_eq_some_iff.mp whole).1
    obtain ⟨second, mime, looked⟩ := (keptPayload_eq_some_iff libraries).mp found
    rw [String.toList_ofList] at second
    rw [keptPayload_eq_some_iff, String.toList_ofList]
    exact ⟨first, mime, by rw [mimeOf_congr first second, looked]⟩
  exact keepsImages_iff (anthropic_converts_iff chrono catalog modelMapper json value)
    (anthropic_images libraries chrono catalog modelMapper json value) accepts determined

end Anthropic

section Bedrock
variable (libraries : ImageLibraries)

/-- A type of the images that Bedrock takes. -/
def isBedrockImage (mime : String) : Bool := (Bedrock.bedrockImageFormat mime).isSome

/-- The bytes of an image that Bedrock is sent. -/
def sentBytes : Bedrock.ContentBlock → Option (List UInt8)
  | .image _ bytes => some bytes
  | _ => none

def keptBytes (url : String) : Option (List UInt8) :=
  (mimeOf libraries url).bind fun mime =>
    (Bedrock.bedrockImageFormat mime).bind fun _ => (payloadOf url).bind libraries.base64.decode

variable (document : Json → Option Json)

def decoders : Bedrock.Decoders := ⟨mimeOf libraries, libraries.base64.decode, document⟩

theorem mapImage_sentBytes {url : String} (local' : ¬"http".toList <+: url.toList) :
    (Bedrock.mapImage (decoders libraries document) url).bind sentBytes = keptBytes libraries url := by
  rw [Bedrock.mapImage, if_neg local', keptBytes, payloadOf]
  cases looked : mimeOf libraries url with
  | none => simp [decoders, looked]
  | some mime =>
    cases format : Bedrock.bedrockImageFormat mime with
    | none => simp [decoders, looked, format]
    | some known =>
      cases splitOnce ',' url.toList with
      | none => simp [decoders, looked]
      | some halves => cases read : libraries.base64.decode halves.2 <;> simp [decoders, looked, format, read, sentBytes]

theorem userPart_sentBytes (part : UserPart) :
    ((Bedrock.mapUserPart (decoders libraries document) part).bind sentBytes).toList =
      (partUrls part).filterMap (keptBytes libraries) := by
  cases part with
  | text text => rfl
  | inputAudio data => rfl
  | imageUrl url =>
    rw [Bedrock.mapUserPart, partUrls]
    split
    next remote => rw [Bedrock.mapImage, if_pos remote]; rfl
    next remote =>
      rw [mapImage_sentBytes libraries document remote, List.filterMap_cons, List.filterMap_nil]
      cases keptBytes libraries url <;> rfl

theorem message_sentBytes (tools : Option (List Bedrock.ToolSpecification)) (message : RequestMessage) :
    (Bedrock.mapMessage (decoders libraries document) tools message).toList.flatMap (fun turn => turn.content.filterMap sentBytes) =
      (messageUrls message).filterMap (keptBytes libraries) := by
  cases message with
  | developer content => rfl
  | system content => rfl
  | user content =>
    cases content with
    | text text => rfl
    | array parts =>
      have each := Subsequences.filterMap_parts fun part (_ : part ∈ parts) => userPart_sentBytes libraries document part
      rw [messageUrls, ← each, ← List.filterMap_filterMap]
      exact List.append_nil _
  | assistant content toolCalls =>
    cases content with
    | none => rfl
    | some content =>
      cases content with
      | text text => rfl
      | array parts =>
        have silent : (parts.map Bedrock.mapAssistantPart).filterMap sentBytes = [] := by
          rw [List.filterMap_eq_nil_iff, List.forall_mem_map]
          intro part _
          cases part <;> rfl
        exact (List.append_nil _).trans silent
  | tool content toolCallId =>
    cases content with
    | text text => rfl
    | array parts =>
      have silent : (parts.map (Bedrock.ContentBlock.toolResult toolCallId)).filterMap sentBytes = [] :=
        List.filterMap_eq_nil_iff.mpr (List.forall_mem_map.mpr fun _ _ => rfl)
      exact (List.append_nil _).trans silent
  | function content name =>
    rw [Bedrock.mapMessage]
    cases tools.bind fun tools => tools.find? fun spec => spec.name == name with
    | none => rfl
    | some spec =>
      obtain ⟨_, _, schema⟩ := spec
      cases schema <;> rfl

variable (chrono : Chrono) (catalog : Catalog) (modelMapper : ModelMapper) (value : CreateChatCompletionRequest)

theorem bedrock_converts_iff :
    (∃ input, Bedrock.tryConvert chrono catalog (decoders libraries document) modelMapper value = .ok input) ↔
      Mapped chrono catalog modelMapper value .bedrock := by
  constructor
  · rintro ⟨input, converted⟩
    obtain ⟨source, target, read, mapped, _⟩ := conversion_ok_iff.mp converted
    exact ⟨source, target, read, mapped⟩
  · rintro ⟨source, target, read, mapped⟩
    exact ⟨_, conversion_ok_iff.mpr ⟨source, target, read, mapped, rfl⟩⟩

theorem bedrock_images (input : Bedrock.ConverseInput)
    (converted : Bedrock.tryConvert chrono catalog (decoders libraries document) modelMapper value = .ok input) :
    input.messages.flatMap (fun turn => turn.content.filterMap sentBytes) =
      (imageUrls value).filterMap (keptBytes libraries) := by
  obtain ⟨source, target, _, _, rfl⟩ := conversion_ok_iff.mp converted
  rw [Subsequences.flatMap_filterMap, imageUrls, List.filterMap_flatMap]
  exact List.flatMap_congr fun message _ => message_sentBytes libraries document _ message

theorem keptBytes_eq_some_iff {url : String} {bytes : List UInt8} :
    keptBytes libraries url = some bytes ↔
      (∃ b64, payloadOf url = some b64 ∧ libraries.base64.decode b64 = some bytes) ∧
        ∃ mime, mimeOf libraries url = some mime ∧ isBedrockImage mime := by
  rw [keptBytes]
  cases mimeOf libraries url with
  | none => simp
  | some mime =>
    cases format : Bedrock.bedrockImageFormat mime with
    | none => simp [isBedrockImage, format]
    | some known => simp [isBedrockImage, format, Option.bind_eq_some_iff]

/-- The same for Bedrock, which is sent the bytes that a payload encodes. -/
def BedrockKeepsImages : Prop :=
  ∃ result, bedrockTryConvert libraries chrono catalog modelMapper document value = .ok result ∧
    ∀ input, result = .ok input →
      ((imageUrls value).filterMap fun url => (imageOf libraries isBedrockImage url).map Prod.snd).Sublist
        (input.messages.flatMap fun turn => turn.content.filterMap sentBytes)

theorem bedrockKeepsImages_iff :
    BedrockKeepsImages libraries document chrono catalog modelMapper value ↔
      (Mapped chrono catalog modelMapper value .bedrock → ∀ url ∈ imageUrls value, ∀ b64, payloadOf url = some b64 →
        Readable libraries isBedrockImage isBedrockImage b64) := by
  have accepts (url : String) (image : List Char × List UInt8) (whole : imageOf libraries isBedrockImage url = some image) :
      keptBytes libraries url = some image.2 ↔ ∃ seen, mimeOf libraries url = some seen ∧ isBedrockImage seen := by
    obtain ⟨payload, read, _⟩ := imageOf_eq_some_iff.mp whole
    rw [keptBytes_eq_some_iff]
    exact and_iff_right ⟨image.1, payload, read⟩
  have determined (url other : String) (bytes : List UInt8)
      (wanted : (imageOf libraries isBedrockImage url).map Prod.snd = some bytes)
      (found : keptBytes libraries other = some bytes) : keptBytes libraries url = some bytes := by
    obtain ⟨image, whole, rfl⟩ := Option.map_eq_some_iff.mp wanted
    obtain ⟨payload, read, _⟩ := imageOf_eq_some_iff.mp whole
    obtain ⟨⟨b64, second, decoded⟩, mime, looked, taken⟩ := (keptBytes_eq_some_iff libraries).mp found
    refine (accepts url image whole).mpr ⟨mime, ?_, taken⟩
    rw [mimeOf_of_decoded payload read, ← mimeOf_of_decoded second decoded, looked]
  exact keepsImages_iff (bedrock_converts_iff libraries document chrono catalog modelMapper value)
    (bedrock_images libraries document chrono catalog modelMapper value) accepts determined

end Bedrock

section Requests
variable (libraries : ImageLibraries) (chrono : Chrono) (catalog : Catalog) (modelMapper : ModelMapper)

/-- Both conversions return with every image of a known type just where, if the model has been
mapped, each payload can be sliced and each image shows its type in its first 48 bytes. -/
theorem images_kept_iff (json : JsonText) (document : Json → Option Json) (value : CreateChatCompletionRequest) :
    (AnthropicKeepsImages libraries chrono catalog modelMapper json value ∧
      BedrockKeepsImages libraries document chrono catalog modelMapper value) ↔
      (Mapped chrono catalog modelMapper value .anthropic → ∀ url ∈ imageUrls value, ∀ b64, payloadOf url = some b64 →
        Readable libraries isImage (fun _ => true) b64) ∧
      (Mapped chrono catalog modelMapper value .bedrock → ∀ url ∈ imageUrls value, ∀ b64, payloadOf url = some b64 →
        Readable libraries isBedrockImage isBedrockImage b64) :=
  and_congr (anthropicKeepsImages_iff libraries chrono catalog modelMapper json value)
    (bedrockKeepsImages_iff libraries document chrono catalog modelMapper value)

/-- Byte 64 of the payload is the second of its last character. -/
def accentPayload : List Char := List.replicate 63 'A' ++ ['é']

def accentUrl : String := String.ofList ("data:image/png;base64".toList ++ ',' :: accentPayload)

theorem accentUrl_toList : accentUrl.toList = "data:image/png;base64".toList ++ ',' :: accentPayload :=
  String.toList_ofList

def accentRequest : CreateChatCompletionRequest :=
  Anthropic.sonnetRequest [.user (.array [.text "What is this?", .imageUrl accentUrl])]

/-- Images that nothing is known of. -/
def plainLibraries : ImageLibraries := ⟨Lib.Base64.standard, fun _ => none⟩

theorem accent_panics :
    anthropicTryConvert plainLibraries (ModelIds.Calendar.chrono 2026) Anthropic.sonnetCatalog ⟨none, none⟩ .sample
        accentRequest = .error .notCharBoundary ∧
      ¬AnthropicKeepsImages plainLibraries (ModelIds.Calendar.chrono 2026) Anthropic.sonnetCatalog ⟨none, none⟩ .sample
        accentRequest := by
  have panics : mimeFromDataUri plainLibraries accentUrl = .error .notCharBoundary := by
    have long : ¬byteLength accentPayload ≤ 64 := by decide
    have cut : takeBytes accentPayload 64 = none := by decide
    rw [mimeFromDataUri, accentUrl_toList, splitOnce_eq_some (by decide)]
    simp only [mimeFromPayload, if_neg long, cut]
  have asked : accentUrl ∈ imageUrls accentRequest := by
    have local' : ¬"http".toList <+: accentUrl.toList := by
      rw [accentUrl_toList]
      decide
    rw [imageUrls, accentRequest, Anthropic.sonnetRequest, List.flatMap_singleton, messageUrls, List.flatMap_cons,
      List.flatMap_singleton, partUrls, partUrls, if_neg local']
    exact List.mem_singleton_self accentUrl
  have mapped : Mapped (ModelIds.Calendar.chrono 2026) Anthropic.sonnetCatalog ⟨none, none⟩ accentRequest .anthropic :=
    ⟨_, _, Anthropic.sonnet_read, Anthropic.sonnet_mapped⟩
  obtain ⟨params, converted⟩ :=
    (anthropic_converts_iff (ModelIds.Calendar.chrono 2026) Anthropic.sonnetCatalog ⟨none, none⟩ .sample accentRequest).mpr
      mapped
  cases outcome : anthropicTryConvert plainLibraries (ModelIds.Calendar.chrono 2026) Anthropic.sonnetCatalog ⟨none, none⟩
    .sample accentRequest with
  | error panic =>
    refine ⟨rfl, ?_⟩
    rintro ⟨result, returned, _⟩
    rw [outcome] at returned
    cases returned
  | ok result =>
    obtain ⟨rfl, sound⟩ := withMimes_ok_iff.mp outcome
    obtain ⟨mime, looked⟩ := sound params converted accentUrl asked
    rw [panics] at looked
    cases looked

end Requests

end AiGateway.DataUris
