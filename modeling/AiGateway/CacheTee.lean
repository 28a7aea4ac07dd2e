import AiGateway.KvCache

/-! The tee of a response body into the cache. The client's polls forward each chunk to
an unbounded channel; a task collects the chunks and saves an entry once the channel has
no sender left. A hit replays the entry's chunks. -/

namespace AiGateway.CacheTee

open Lib.Utf8 KvCache

inductive ApiError where
  | streamError (message : String)
  deriving DecidableEq, Repr

/-- What the save task captures when it is spawned. A header value that is no printable
text is `none`. -/
structure SaveConfig where
  statusIsSuccess : Bool
  llmKvWriteEnabled : Bool
  llmKvKeys : Option (List (List UInt8))
  responseHeaders : List (List UInt8 × Option (List UInt8))

def insertHeader (headers : List (List UInt8 × List UInt8)) (name value : List UInt8) :
    List (List UInt8 × List UInt8) :=
  headers.filter (fun header => header.1 != name) ++ [(name, value)]

def headersJson (headers : List (List UInt8 × Option (List UInt8))) : List (List UInt8 × List UInt8) :=
  headers.foldl
    (fun json (name, value) =>
      match value with
      | some value => insertHeader json name value
      | none => json)
    []

structure SaveRequest where
  keys : List (List UInt8)
  entry : LlmCacheEntry
  deriving DecidableEq

def saveRequest (config : SaveConfig) (bodyChunks : List Text) (latency : UInt64) : Option SaveRequest :=
  if config.llmKvWriteEnabled then
    config.llmKvKeys.map fun keys => ⟨keys, ⟨headersJson config.responseHeaders, latency, bodyChunks⟩⟩
  else none

inductive TaskPhase where
  | collecting (bodyChunks : List Text)
  | ended (saved : Option SaveRequest)
  deriving DecidableEq

/-- `upstream` is what the provider's stream has still to yield, and `channel` what was
sent and not received. The body holds one sender, and so does `dispatch` until it returns. -/
structure TeeState where
  upstream : List (Except ApiError (List UInt8))
  delivered : List (Except ApiError (List UInt8))
  bodyHeld : Bool
  dispatching : Bool
  channel : List (List UInt8)
  task : TaskPhase

inductive TeeEvent where
  | poll
  | dropBody
  | dispatchReturns
  | receive
  | closed (latency : UInt64)
  deriving DecidableEq, Repr

section Tee
variable (config : SaveConfig)

def TeeState.start (upstream : List (Except ApiError (List UInt8))) : TeeState :=
  ⟨upstream, [], true, true, [], if config.statusIsSuccess then .collecting [] else .ended none⟩

/-- `wrap_stream`: what goes past the client's poll goes to the channel, unless it is an
error. -/
def tap (item : Except ApiError (List UInt8)) (channel : List (List UInt8)) : List (List UInt8) :=
  match item with
  | .ok chunk => channel ++ [chunk]
  | .error _ => channel

def teeStep (state : TeeState) : TeeEvent → Option TeeState
  | .poll =>
    match state.bodyHeld, state.upstream with
    | true, item :: rest =>
      some { state with
        upstream := rest
        delivered := state.delivered ++ [item]
        channel := tap item state.channel }
    | true, [] => some state
    | false, _ => none
  | .dropBody => if state.bodyHeld then some { state with bodyHeld := false } else none
  | .dispatchReturns => if state.dispatching then some { state with dispatching := false } else none
  | .receive =>
    match state.task, state.channel with
    | .collecting bodyChunks, chunk :: rest =>
      some { state with channel := rest, task := .collecting (bodyChunks ++ [Text.ofBytesLossy chunk]) }
    | _, _ => none
  | .closed latency =>
    match state.task, state.channel, state.bodyHeld || state.dispatching with
    | .collecting bodyChunks, [], false =>
      some { state with task := .ended (saveRequest config bodyChunks latency) }
    | _, _, _ => none

end Tee

structure HitResponse where
  status : Nat
  headers : List (List UInt8 × List UInt8)
  body : List (List UInt8)
  deriving DecidableEq

structure HeaderSyntax where
  isName : List UInt8 → Bool
  isValue : List UInt8 → Bool

section Hit
variable (http : HeaderSyntax)

def mergeCachedHeaders (cached : List (List UInt8 × List UInt8)) : List (List UInt8 × List UInt8) :=
  cached.foldl
    (fun headers (name, value) =>
      if http.isName name && http.isValue value then insertHeader headers name value else headers)
    []

def applyAlephantCacheHitHeaders (headers : List (List UInt8 × List UInt8)) (bucketIdx : Nat) (latency : UInt64) :
    List (List UInt8 × List UInt8) :=
  let hit := insertHeader headers "alephant-cache".toUTF8.toList "HIT".toUTF8.toList
  let indexed := insertHeader hit "alephant-cache-bucket-idx".toUTF8.toList (toString bucketIdx).toUTF8.toList
  insertHeader indexed "alephant-cache-latency".toUTF8.toList (toString latency.toNat).toUTF8.toList

def buildLlmCacheHitResponse (entry : LlmCacheEntry) (bucketIdx : Nat) : HitResponse :=
  ⟨200, applyAlephantCacheHitHeaders (mergeCachedHeaders http entry.headers) bucketIdx entry.latency,
    entry.body.map fun chunk => chunk.bytes⟩

end Hit

end AiGateway.CacheTee
