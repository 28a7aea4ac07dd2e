import AiGateway.Lib.Runs
import Mathlib.Data.List.Perm.Basic

/-! The virtual keys in memory, between the two that write them: the listener, which polls
the database for rows changed since its last poll, and the authentication of requests,
which falls back to the database for a key it does not find. -/

namespace AiGateway.VirtualKeyStore

/-- A row of `virtual_keys`, times in microseconds; the columns that only logs and
authorisation read are left out. -/
structure DbVirtualKey where
  keyHash : String
  status : String
  deletedAt : Option Nat
  updatedAt : Nat
  rateLimitRpm : Option Int
  rateLimitRph : Option Int
  allowedModels : Option (List String)
  blockedModels : Option (List String)
  deriving DecidableEq, Repr

/-- Neither deleted nor inactive, in the words of the queries. -/
def DbVirtualKey.isActive (vk : DbVirtualKey) : Bool := vk.deletedAt.isNone && vk.status == "active"

inductive VirtualKeyUpdateAction where
  | upsert (vk : DbVirtualKey)
  | remove (keyHash : String)
  | skip
  deriving DecidableEq, Repr

def classifyVirtualKeyUpdate (lastSeen : Option Nat) (vk : DbVirtualKey) : VirtualKeyUpdateAction :=
  let shouldProcess :=
    match lastSeen with
    | none => true
    | some lastSeen => decide (lastSeen < vk.updatedAt)
  if !shouldProcess then .skip
  else if vk.deletedAt.isSome || vk.status != "active" then .remove vk.keyHash
  else .upsert vk

/-- The rows of `virtual_keys`, one for each key hash. -/
abbrev Table := List DbVirtualKey

namespace Table

def write (table : Table) (vk : DbVirtualKey) : Table := table.filter (fun row => row.keyHash != vk.keyHash) ++ [vk]

/-- `GET_ALL_DB_VIRTUAL_KEYS_SQL`. -/
def active (table : Table) : List DbVirtualKey := table.filter DbVirtualKey.isActive

/-- `GET_DB_VIRTUAL_KEYS_UPDATED_AFTER_SQL`, which does not order its rows. -/
def updatedAfter (table : Table) (since : Nat) : List DbVirtualKey := table.filter fun row => since < row.updatedAt

/-- `GET_DB_VIRTUAL_KEY_BY_KEY_HASH_SQL`. -/
def byKeyHash (table : Table) (keyHash : String) : Option DbVirtualKey :=
  table.find? fun row => row.keyHash == keyHash && row.isActive

end Table

abbrev Cache := String → Option DbVirtualKey

/-- The map that startup fills. -/
def loadCache (rows : List DbVirtualKey) : Cache :=
  rows.foldl (fun cache vk => Function.update cache vk.keyHash (some vk)) fun _ => none

/-- The listener between the steps of `poll_database`. -/
inductive PollStage where
  | idle
  | started
  | processing (rows : List DbVirtualKey)
  deriving DecidableEq, Repr

/-- `resolve_virtual_key_for_auth` between its steps. -/
inductive Lookup where
  | started (keyHash : String)
  | missed (keyHash : String)
  | loaded (vk : DbVirtualKey)
  | returned (keyHash : String) (result : Option DbVirtualKey)
  deriving DecidableEq, Repr

/-- `unread` are the rows that were written since the last query of a poll, or since the
cache was loaded; no part of the program knows them. -/
structure System where
  table : Table
  cache : Option Cache
  lastPollTime : Option Nat
  lastSeen : String → Option Nat
  poll : PollStage
  lookups : List Lookup
  unread : List DbVirtualKey

def System.start (table : Table) : System :=
  ⟨table, some (loadCache table.active), none, fun _ => none, .idle, [], []⟩

namespace System

def checkVirtualKey (system : System) (keyHash : String) : Option DbVirtualKey :=
  system.cache.bind fun cache => cache keyHash

def setVirtualKey (system : System) (vk : DbVirtualKey) : System :=
  { system with cache := system.cache.map fun cache => Function.update cache vk.keyHash (some vk) }

def removeVirtualKey (system : System) (keyHash : String) : System :=
  { system with cache := system.cache.map fun cache => Function.update cache keyHash none }

/-- One round of the loop over the changed rows. -/
def processRow (system : System) (vk : DbVirtualKey) : System :=
  match classifyVirtualKeyUpdate (system.lastSeen vk.keyHash) vk with
  | .upsert vk =>
    { system.setVirtualKey vk with lastSeen := Function.update system.lastSeen vk.keyHash (some vk.updatedAt) }
  | .remove keyHash =>
    { system.removeVirtualKey keyHash with lastSeen := Function.update system.lastSeen keyHash none }
  | .skip => system

def moveLookup (system : System) (index : Nat) (lookup : Lookup) : System :=
  { system with lookups := system.lookups.set index lookup }

end System

inductive Event where
  | update (vk : DbVirtualKey)
  | beginPoll
  | query (rows : List DbVirtualKey)
  | process
  | failPoll
  | finishPoll (finished : Nat)
  | lookup (keyHash : String)
  | checkMemory (index : Nat)
  | readRow (index : Nat) (ok : Bool)
  | insert (index : Nat)
  deriving DecidableEq, Repr

def step (system : System) : Event → Option System
  | .update vk => some { system with table := system.table.write vk, unread := vk :: system.unread }
  | .beginPoll =>
    match system.poll with
    | .idle => some { system with poll := .started }
    | _ => none
  | .query rows =>
    match system.poll, system.lastPollTime with
    | .started, some since =>
      if rows.isPerm (system.table.updatedAfter since) then
        some { system with poll := .processing rows, unread := [] }
      else none
    | .started, none => if rows = [] then some { system with poll := .processing [] } else none
    | _, _ => none
  | .process =>
    match system.poll with
    | .processing (vk :: rows) => some { system.processRow vk with poll := .processing rows }
    | _ => none
  | .failPoll =>
    match system.poll with
    | .idle => none
    | _ => some { system with poll := .idle }
  | .finishPoll finished =>
    match system.poll with
    | .processing [] => some { system with poll := .idle, lastPollTime := some finished }
    | _ => none
  | .lookup keyHash => some { system with lookups := system.lookups ++ [.started keyHash] }
  | .checkMemory index =>
    match system.lookups[index]? with
    | some (.started keyHash) =>
      match system.checkVirtualKey keyHash with
      | some vk => some (system.moveLookup index (.returned keyHash (some vk)))
      | none =>
        if system.cache.isNone then some (system.moveLookup index (.returned keyHash none))
        else some (system.moveLookup index (.missed keyHash))
    | _ => none
  | .readRow index ok =>
    match system.lookups[index]? with
    | some (.missed keyHash) =>
      match if ok then system.table.byKeyHash keyHash else none with
      | some vk => some (system.moveLookup index (.loaded vk))
      | none => some (system.moveLookup index (.returned keyHash none))
    | _ => none
  | .insert index =>
    match system.lookups[index]? with
    | some (.loaded vk) => some ((system.setVirtualKey vk).moveLookup index (.returned vk.keyHash (some vk)))
    | _ => none

end AiGateway.VirtualKeyStore
