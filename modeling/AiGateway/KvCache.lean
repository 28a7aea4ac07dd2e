import Mathlib.Logic.Function.Basic
import AiGateway.Lib.Utf8
import AiGateway.Lib.Runs

/-! The response cache in a key-value store. A request has a bucket of slots, each under
the hash of the request's texts and the slot's index; a save probes all slots and puts
its entry into the first one that answered empty. Strings are their UTF-8 bytes. -/

namespace AiGateway.KvCache

open Lib.Utf8

structure LlmCacheEntry where
  headers : List (List UInt8 × List UInt8)
  latency : UInt64
  body : List Text
  deriving DecidableEq

inductive LlmKvCacheError where
  | http (message : String)
  | serde (message : String)
  | config (message : String)
  | tikv (message : String)
  deriving DecidableEq, Repr

/-- What the key needs of `serde_json`. Removing a member changes objects only. -/
structure SerdeJson where
  Value : Type
  fromStr : List UInt8 → Option Value
  remove : Value → List UInt8 → Value
  print : Value → List UInt8

section Key
variable (sha256Hex : List UInt8 → List UInt8) (serde : SerdeJson)

def bodyForCache (body : List UInt8) (ignoreKeys : List (List UInt8)) : List UInt8 :=
  match serde.fromStr body with
  | none => body
  | some value => serde.print (ignoreKeys.foldl serde.remove value)

/-- `u8::to_string`. -/
def decimal (index : UInt8) : List UInt8 := (Nat.toDigits 10 index.toNat).map fun digit => UInt8.ofNat digit.toNat

def kvKeySha256Hex (cacheSeed url body : List UInt8) (cacheIgnoreKeys : List (List UInt8)) (bucketIndex : UInt8) :
    List UInt8 :=
  let material := cacheSeed ++ url ++ bodyForCache serde body cacheIgnoreKeys
  sha256Hex (if 1 ≤ bucketIndex then material ++ decimal bucketIndex else material)

structure CacheSettings where
  shouldRead : Bool
  shouldWrite : Bool
  bucketSize : UInt8
  cacheSeed : Option (List UInt8)
  inRange : 1 ≤ bucketSize ∧ bucketSize ≤ 20

def llmKvSlotKey (cacheSeed : Option (List UInt8)) (targetUrl body : List UInt8) (index : UInt8) : List UInt8 :=
  kvKeySha256Hex sha256Hex serde (cacheSeed.getD []) targetUrl (lossy body) [] index

def llmKvSlotKeys (settings : CacheSettings) (targetUrl body : List UInt8) : List (List UInt8) :=
  (List.range settings.bucketSize.toNat).map fun index =>
    llmKvSlotKey sha256Hex serde settings.cacheSeed targetUrl body (UInt8.ofNat index)

end Key

inductive Backend where
  | cloudflare
  | lazyCloudflare
  | tikv (maxValueBytes : Nat)
  | lazyTikv (maxValueBytes : Nat)
  | internalStub
  deriving DecidableEq, Repr

/-- How one request to the store goes. A lazy backend may hold it back, because its gate
is closed or it has no connection. A failed put may have been written all the same. -/
inductive Contact where
  | heldBack
  | answered
  | failed (message : String) (written : Bool)
  deriving DecidableEq, Repr

def maxKvValueBytes : Nat := 25 * 1024 * 1024

namespace Backend

/-- Only the lazy backends can hold a request back. -/
def admits : Backend → Contact → Bool
  | .lazyCloudflare, _ | .lazyTikv _, _ => true
  | _, .heldBack => false
  | _, _ => true

/-- The lazy Cloudflare backend takes every failure for an empty slot. -/
def get (backend : Backend) (contact : Contact) (stored : Option (List UInt8)) :
    Except LlmKvCacheError (Option (List UInt8)) :=
  match backend, contact with
  | .internalStub, _ => .ok none
  | _, .answered => .ok stored
  | _, .heldBack => .ok none
  | .cloudflare, .failed message _ => .error (.http message)
  | .lazyCloudflare, .failed _ _ => .ok none
  | .tikv _, .failed message _ => .error (.tikv message)
  | .lazyTikv _, .failed message _ => .error (.tikv message)

def maxValueBytes : Backend → Nat
  | .cloudflare | .lazyCloudflare => maxKvValueBytes
  | .tikv max | .lazyTikv max => max
  | .internalStub => 0

/-- Whether the value was written, and what the caller is told. Oversized values, a
request held back and every failure of the lazy Cloudflare backend count as success. -/
def put (backend : Backend) (contact : Contact) (value : List UInt8) : Bool × Except LlmKvCacheError Unit :=
  match backend, contact with
  | .internalStub, _ => (false, .ok ())
  | _, .heldBack => (false, .ok ())
  | backend, contact =>
    if backend.maxValueBytes < value.length then (false, .ok ())
    else
      match contact, backend with
      | .failed _ written, .lazyCloudflare => (written, .ok ())
      | .failed message written, .cloudflare => (written, .error (.http message))
      | .failed message written, _ => (written, .error (.tikv message))
      | _, _ => (true, .ok ())

end Backend

structure Bucket where
  keys : List (List UInt8)
  nodup : keys.Nodup

inductive Phase where
  | probing (answers : List (Option (Except LlmKvCacheError (Option (List UInt8)))))
  | putting (slot : Nat) (json : List UInt8)
  | returned (slot : Option Nat) (result : Except LlmKvCacheError Bool)

/-- One running call of `try_save_to_first_free_slot`, with what its entry serializes to. -/
structure SaveCall where
  json : Except LlmKvCacheError (List UInt8)
  phase : Phase

structure BucketState where
  store : List UInt8 → Option (List UInt8)
  calls : List SaveCall

inductive BucketEvent where
  | probe (call slot : Nat) (contact : Contact)
  | choose (call : Nat)
  | put (call : Nat) (contact : Contact)
  deriving DecidableEq, Repr

def chooseSlot (json : Except LlmKvCacheError (List UInt8)) (outs : List (Except LlmKvCacheError (Option (List UInt8)))) :
    Phase :=
  if outs.any (fun out => out matches .error _) then .returned none (.ok false)
  else
    match outs.findIdx? (fun out => out matches .ok none) with
    | none => .returned none (.ok false)
    | some freeIdx =>
      match json with
      | .error error => .returned none (.error error)
      | .ok json => .putting freeIdx json

section Saving
variable (backend : Backend) (bucket : Bucket)

def BucketState.setPhase (state : BucketState) (index : Nat) (call : SaveCall) (phase : Phase) : BucketState :=
  { state with calls := state.calls.set index { call with phase := phase } }

/-- Each probe, the choice and the put are separate steps, so those of other calls may
come between. -/
def saveStep (state : BucketState) : BucketEvent → Option BucketState
  | .probe index slot contact =>
    match state.calls[index]?, bucket.keys[slot]?, backend.admits contact with
    | some call, some key, true =>
      match call.phase with
      | .probing answers =>
        if answers[slot]? = some none then
          let answer := backend.get contact (state.store key)
          some (state.setPhase index call (.probing (answers.set slot (some answer))))
        else none
      | _ => none
    | _, _, _ => none
  | .choose index =>
    match state.calls[index]? with
    | none => none
    | some call =>
      match call.phase with
      | .probing answers =>
        if answers.all Option.isSome then
          some (state.setPhase index call (chooseSlot call.json (answers.filterMap id)))
        else none
      | _ => none
  | .put index contact =>
    match state.calls[index]?, backend.admits contact with
    | some call, true =>
      match call.phase with
      | .putting slot json =>
        match bucket.keys[slot]? with
        | none => none
        | some key =>
          let (written, result) := backend.put contact json
          let store := if written then Function.update state.store key (some json) else state.store
          some ({ state with store := store }.setPhase index call (.returned (some slot) (result.map fun _ => true)))
      | _ => none
    | _, _ => none

def BucketState.start (store : List UInt8 → Option (List UInt8)) (entries : List (Except LlmKvCacheError (List UInt8))) :
    BucketState :=
  ⟨store, entries.map fun json => ⟨json, .probing (List.replicate bucket.keys.length none)⟩⟩

def occupied (state : BucketState) : Nat := bucket.keys.countP fun key => (state.store key).isSome

end Saving

def SaveCall.saved (call : SaveCall) : Bool := call.phase matches .returned _ (.ok true)

def SaveCall.reachedPut (call : SaveCall) : Bool := call.phase matches .returned (some _) _

abbrev Store := List UInt8 → Option (List UInt8)

section Sequential
variable (parse : List UInt8 → Option LlmCacheEntry) (backend : Backend) (keys : List (List UInt8))

/-- The gets of a bucket's keys, all of them answered. -/
def probe (store : Store) : List (Except LlmKvCacheError (Option (List UInt8))) :=
  keys.map fun key => backend.get .answered (store key)

/-- What the gets came back with, within the budget. `draw` is the random number behind the
choice among the slots. -/
def readBucket (outs : List (Except LlmKvCacheError (Option (List UInt8)))) (draw : Nat) :
    Option (LlmCacheEntry × Nat) :=
  if outs.any (fun out => out matches .error _) then none
  else
    let slots := outs.map fun out =>
      match out with
      | .ok (some text) => parse text
      | _ => none
    if slots.any Option.isNone then none
    else
      let entries := slots.filterMap id
      match (List.range entries.length)[draw % entries.length]? with
      | none => none
      | some idx => entries[idx]?.map fun entry => (entry, idx)

/-- One call with nothing in between, its put answered. -/
def trySaveToFirstFreeSlot (json : Except LlmKvCacheError (List UInt8)) (store : Store) :
    Store × Except LlmKvCacheError Bool :=
  match chooseSlot json (probe backend keys store) with
  | .putting slot json =>
    match keys[slot]? with
    | none => (store, .ok false)
    | some key =>
      let (written, result) := backend.put .answered json
      (if written then Function.update store key (some json) else store, result.map fun _ => true)
  | .returned _ result => (store, result)
  | .probing _ => (store, .ok false)

end Sequential

end AiGateway.KvCache
