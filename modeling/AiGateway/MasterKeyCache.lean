import AiGateway.Types
import AiGateway.Lib.Lru
import AiGateway.Lib.Runs
import AiGateway.Lib.Utf8

/-! The cache of decrypted master keys. A lookup holds the lock while it reads the cache
and while it puts an entry, not while it fetches and decrypts the row in between. -/

namespace AiGateway.MasterKeyCache

/-- A row of `master_keys` joined with its provider's code, times in microseconds. -/
structure DbMasterKeyRow where
  id : Uuid
  keyCiphertext : List UInt8
  keyNonce : List UInt8
  baseUrl : Option String
  status : String
  deletedAt : Option Nat
  updatedAt : Nat
  providerCode : String
  deriving DecidableEq, Repr

/-- `plaintext` is the text's UTF-8. -/
structure DecryptedMasterKey where
  plaintext : List UInt8
  provider : InferenceProvider
  baseUrl : Option String
  updatedAt : Nat
  deriving DecidableEq, Repr

inductive DecryptError where
  | invalidKeyLen (length : Nat)
  | invalidNonceLen (length : Nat)
  | decryptFailed
  deriving DecidableEq, Repr

inductive MasterKeyCacheError where
  | notFound (id : Uuid)
  | unknownProvider (code : String)
  | decrypt (error : DecryptError)
  | db
  deriving DecidableEq, Repr

abbrev Table := List DbMasterKeyRow

namespace Table

def write (table : Table) (row : DbMasterKeyRow) : Table := table.filter (fun other => other.id != row.id) ++ [row]

def getMasterKeyRow (table : Table) (masterKeyId : Uuid) : Option DbMasterKeyRow :=
  table.find? fun row => row.id == masterKeyId && row.deletedAt.isNone && row.status == "active"

end Table

/-- The encryption key, and AES-256-GCM opening a ciphertext with the key and a nonce. -/
structure Cipher where
  encKey : List UInt8
  aesGcm : List UInt8 → List UInt8 → List UInt8 → Option (List UInt8)

section Resolve
variable (cipher : Cipher) (lru : Lib.Lru Uuid DecryptedMasterKey)

def decrypt (ciphertext nonce : List UInt8) : Except DecryptError (List UInt8) :=
  if cipher.encKey.length ≠ 32 then .error (.invalidKeyLen cipher.encKey.length)
  else if nonce.length ≠ 12 then .error (.invalidNonceLen nonce.length)
  else
    match cipher.aesGcm cipher.encKey nonce ciphertext with
    | none => .error .decryptFailed
    | some plaintext => .ok plaintext

/-- The entry `get` builds from a row. -/
def entryOf (row : DbMasterKeyRow) : Except MasterKeyCacheError DecryptedMasterKey :=
  match InferenceProvider.fromProviderCode row.providerCode.toList with
  | none => .error (.unknownProvider row.providerCode)
  | some provider =>
    match decrypt cipher row.keyCiphertext row.keyNonce with
    | .error error => .error (.decrypt error)
    | .ok plaintextBytes => .ok ⟨Lib.Utf8.lossy plaintextBytes, provider, row.baseUrl, row.updatedAt⟩

/-- The slow path of `get` against one state of the table. -/
def resolve (table : Table) (masterKeyId : Uuid) : Except MasterKeyCacheError DecryptedMasterKey :=
  match table.getMasterKeyRow masterKeyId with
  | none => .error (.notFound masterKeyId)
  | some row => entryOf cipher row

/-- A call of `get` between its steps. -/
inductive Get where
  | started (id : Uuid)
  | missed (id : Uuid)
  | loaded (id : Uuid) (entry : DecryptedMasterKey)
  | returned (id : Uuid) (result : Except MasterKeyCacheError DecryptedMasterKey)
  deriving DecidableEq

def defaultCapacity : Nat := 256

structure System where
  table : Table
  cache : lru.Cache
  gets : List Get

def System.start (table : Table) : System lru := ⟨table, lru.new defaultCapacity, []⟩

def System.moveGet {lru : Lib.Lru Uuid DecryptedMasterKey} (system : System lru) (index : Nat) (get : Get) : System lru :=
  { system with gets := system.gets.set index get }

inductive Event where
  | update (row : DbMasterKeyRow)
  | invalidate (id : Uuid)
  | get (id : Uuid)
  | readCache (index : Nat)
  | fetchRow (index : Nat) (ok : Bool)
  | put (index : Nat)
  deriving DecidableEq, Repr

def step (system : System lru) : Event → Option (System lru)
  | .update row => some { system with table := system.table.write row }
  | .invalidate id => some { system with cache := lru.pop system.cache id }
  | .get id => some { system with gets := system.gets ++ [.started id] }
  | .readCache index =>
    match system.gets[index]? with
    | some (.started id) =>
      let (found, cache) := lru.get system.cache id
      match found with
      | some entry => some { system.moveGet index (.returned id (.ok entry)) with cache := cache }
      | none => some { system.moveGet index (.missed id) with cache := cache }
    | _ => none
  | .fetchRow index ok =>
    match system.gets[index]? with
    | some (.missed id) =>
      match if ok then resolve cipher system.table id else .error .db with
      | .ok entry => some (system.moveGet index (.loaded id entry))
      | .error error => some (system.moveGet index (.returned id (.error error)))
    | _ => none
  | .put index =>
    match system.gets[index]? with
    | some (.loaded id entry) =>
      some { system.moveGet index (.returned id (.ok entry)) with cache := lru.put system.cache id entry }
    | _ => none

end Resolve

end AiGateway.MasterKeyCache
