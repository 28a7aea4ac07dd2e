import AiGateway.AnthropicRequests
import AiGateway.BedrockRequests
import AiGateway.Lib.Base64
import AiGateway.Lib.ByteSlices

/-! The media types of the images of a request. They are found from the front of the payload of
a data URI, which is sliced before it is decoded: a slice that ends inside a character panics. -/

namespace AiGateway.DataUris

open OpenAi Lib.Splits Lib.ByteSlices

inductive Panic where
  | notCharBoundary
  deriving DecidableEq, Repr

/-- The decoder of base64, and what `infer` takes bytes for. -/
structure ImageLibraries where
  base64 : Lib.Base64.Decoder
  infer : List UInt8 → Option String

variable (libraries : ImageLibraries)

/-- `decode_slice`, into a buffer of so many bytes. -/
def decodeSlice (text : List Char) (size : Nat) : Option (List UInt8) :=
  (libraries.base64.decode text).filter fun bytes => bytes.length ≤ size

def mimeFromPayload (b64 : List Char) : Except Panic (Option String) :=
  match takeBytes b64 (if byteLength b64 ≤ 64 then byteLength b64 else 64) with
  | none => .error .notCharBoundary
  | some front => .ok ((decodeSlice libraries front 48).bind libraries.infer)

def mimeFromDataUri (uri : String) : Except Panic (Option String) :=
  match splitOnce ',' uri.toList with
  | none => .ok none
  | some (_, b64) => mimeFromPayload libraries b64

section Requests

/-- The URLs whose media types both converters ask for. -/
def partUrls : UserPart → List String
  | .imageUrl url => if "http".toList <+: url.toList then [] else [url]
  | .text _ | .inputAudio _ => []

def messageUrls : RequestMessage → List String
  | .user (.array parts) => parts.flatMap partUrls
  | _ => []

def imageUrls (value : CreateChatCompletionRequest) : List String := value.messages.flatMap messageUrls

/-- The media type of a URL that does not panic. -/
def mimeOf (url : String) : Option String :=
  match mimeFromDataUri libraries url with
  | .ok mime => mime
  | .error _ => none

/-- A conversion fails only before it comes to the messages, and ends at the first image that panics. -/
def withMimes {α : Type} (convert : (String → Option String) → Except ConvertError α)
    (value : CreateChatCompletionRequest) : Except Panic (Except ConvertError α) :=
  match convert (mimeOf libraries) with
  | .error error => .ok (.error error)
  | .ok params => do
    (imageUrls value).forM fun url => (mimeFromDataUri libraries url).map fun _ => ()
    .ok (.ok params)

variable (chrono : Chrono) (catalog : Catalog) (modelMapper : ModelMapper)

def anthropicTryConvert (json : JsonText) (value : CreateChatCompletionRequest) :
    Except Panic (Except ConvertError Anthropic.CreateMessageParams) :=
  withMimes libraries (fun mimes => Anthropic.tryConvert chrono catalog json mimes modelMapper value) value

def bedrockTryConvert (document : Json → Option Json) (value : CreateChatCompletionRequest) :
    Except Panic (Except ConvertError Bedrock.ConverseInput) :=
  withMimes libraries
    (fun mimes => Bedrock.tryConvert chrono catalog ⟨mimes, libraries.base64.decode, document⟩ modelMapper value) value

end Requests

end AiGateway.DataUris
