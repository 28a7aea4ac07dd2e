import AiGateway.ResolveIp
import Mathlib.Data.List.TakeWhile

/-! Addresses behind a chain of proxies. Each proxy writes its peer's address after what it was
given, so that the first element of the header stays what the client made it. -/

namespace AiGateway.ResolveIp

open ClientIpLimit (IpAddr)

/-- A text that names the address, as one element of a header's value. -/
def Spells (spelling : List UInt8) (address : IpAddr) : Prop :=
  ∃ text, toStr spelling = some text ∧ ',' ∉ text ∧ parseIpAddr (trim text) = some address

/-- The value that a proxy sends on to the next hop. -/
def Appends (value : Option (List UInt8)) (peer : IpAddr) (sent : List UInt8) : Prop :=
  ∃ spelling, Spells spelling peer ∧
    sent = match value with
      | none => spelling
      | some value => value ++ 44 :: spelling

section Chain
variable {ν : Type} (contains : ν → IpAddr → Bool) (trusted : List ν)

def Trusts (address : IpAddr) : Prop := (trusted.any fun network => contains network address) = true

instance (address : IpAddr) : Decidable (Trusts contains trusted address) := inferInstanceAs (Decidable (_ = true))

/-- One or more trusted proxies between a client and the gateway: the address that the gateway
sees, and the header it is sent, where the client wrote `written`. -/
inductive Forwarded (client : IpAddr) (written : Option (List UInt8)) : IpAddr → List UInt8 → Prop where
  | first {proxy sent} (trusts : Trusts contains trusted proxy) (appends : Appends written client sent) :
      Forwarded client written proxy sent
  | next {peer value proxy sent} (before : Forwarded client written peer value)
      (trusts : Trusts contains trusted proxy) (appends : Appends (some value) peer sent) :
      Forwarded client written proxy sent

end Chain

section Elements
variable {spelling value : List UInt8} {address : IpAddr}

theorem toStr_append (value rest : List UInt8) :
    toStr (value ++ rest) = (toStr value).bind fun before => (toStr rest).map fun after => before ++ after := by
  unfold toStr
  rw [List.all_append, List.map_append]
  cases value.all fun byte => (32 ≤ byte && byte < 127) || byte == 9 with
  | false => rfl
  | true =>
    cases rest.all fun byte => (32 ≤ byte && byte < 127) || byte == 9 <;> rfl

theorem toStr_comma (rest : List UInt8) : toStr (44 :: rest) = (toStr rest).map fun after => ',' :: after := by
  have head := toStr_append [44] rest
  rw [List.singleton_append] at head
  rw [head]
  rfl

theorem takeWhile_comma (before after : List Char) :
    (before ++ ',' :: after).takeWhile (fun c => c ≠ ',') = before.takeWhile fun c => c ≠ ',' := by
  induction before with
  | nil => rfl
  | cons c rest ih =>
    by_cases same : c = ','
    · simp [same]
    · simpa [same] using ih

/-- What stands before a comma decides what the first element is. -/
theorem firstAddress_append (value : List UInt8) (spells : Spells spelling address) :
    firstAddress (value ++ 44 :: spelling) = firstAddress value := by
  obtain ⟨text, visible, _⟩ := spells
  rw [firstAddress, firstAddress, toStr_append, toStr_comma, visible]
  cases toStr value with
  | none => rfl
  | some before => simp only [Option.map_some, Option.bind_some, takeWhile_comma]

theorem firstAddress_of_spells (spells : Spells spelling address) : firstAddress spelling = some address := by
  obtain ⟨text, visible, single, named⟩ := spells
  have whole : text.takeWhile (fun c => c ≠ ',') = text := by
    rw [List.takeWhile_eq_self_iff]
    intro c member
    have different : c ≠ ',' := fun same => single (same ▸ member)
    simpa using different
  rw [firstAddress, visible, Option.bind_some, whole, named]

end Elements

section Clients
variable {ν : Type} {contains : ν → IpAddr → Bool} {trusted : List ν} {client peer : IpAddr}
  {written : Option (List UInt8)} {value : List UInt8}

/-- What the first element names: the client itself, where the client wrote nothing. -/
def named (client : IpAddr) : Option (List UInt8) → Option IpAddr
  | none => some client
  | some value => firstAddress value

theorem Appends.firstAddress_eq {sent : List UInt8} (appends : Appends written client sent) :
    firstAddress sent = named client written := by
  obtain ⟨spelling, spells, rfl⟩ := appends
  cases written with
  | none => exact firstAddress_of_spells spells
  | some value => exact firstAddress_append value spells

/-- No proxy changes the first element, and the gateway's peer is a trusted one. -/
theorem Forwarded.first_kept (forwarded : Forwarded contains trusted client written peer value) :
    Trusts contains trusted peer ∧ firstAddress value = named client written := by
  induction forwarded with
  | first trusts appends => exact ⟨trusts, appends.firstAddress_eq⟩
  | next before trusts appends ih => exact ⟨trusts, appends.firstAddress_eq.trans ih.2⟩

/-- Behind trusted proxies a request is counted under what the first element of the client's own
value is read as, or under the last proxy where that is no address; the client's address it is
exactly when the client wrote nothing, or its own address first. -/
theorem client_address_iff (untrusted : ¬Trusts contains trusted client)
    (forwarded : Forwarded contains trusted client written peer value) :
    effectiveClientIp contains peer (some value) trusted = (named client written).getD peer ∧
      (effectiveClientIp contains peer (some value) trusted = client ↔
        ∀ text, written = some text → firstAddress text = some client) := by
  obtain ⟨trusts, first⟩ := forwarded.first_kept
  have counted : effectiveClientIp contains peer (some value) trusted = (named client written).getD peer := by
    rw [effectiveClientIp, if_pos (show _ = true from trusts), Option.bind_some, first]
  refine ⟨counted, ?_⟩
  rw [counted]
  have other : peer ≠ client := fun same => untrusted (same ▸ trusts)
  cases written with
  | none => simp [named]
  | some text =>
    simp only [named, Option.some.injEq, forall_eq']
    cases firstAddress text with
    | none => simpa using other
    | some address => simp

/-- The networks of the examples are single addresses. -/
def single (network address : IpAddr) : Bool := network == address

def proxyIp : IpAddr := .v4 0x0A000001

def clientIp : IpAddr := .v4 0xCB007105

def clientText : List UInt8 := " 203.0.113.5".toList.map fun c => c.toNat.toUInt8

theorem clientText_spells : Spells clientText clientIp := ⟨" 203.0.113.5".toList, by decide, by decide, by decide⟩

theorem silent_client_counted : effectiveClientIp single proxyIp (some clientText) [proxyIp] = clientIp := by
  have forwarded : Forwarded single [proxyIp] clientIp none proxyIp clientText :=
    .first (by decide) ⟨clientText, clientText_spells, rfl⟩
  have untrusted : ¬Trusts single [proxyIp] clientIp := by decide
  exact (client_address_iff untrusted forwarded).2.mpr (by simp)

/-- The value of a client that claims to be `1.2.3.4`. -/
def forgedText : List UInt8 := "1.2.3.4".toList.map fun c => c.toNat.toUInt8

/-- One honest proxy, and a request counted under the address that the client made up. -/
theorem forged_address_counted :
    ¬Trusts single [proxyIp] clientIp ∧
      Forwarded single [proxyIp] clientIp (some forgedText) proxyIp (forgedText ++ 44 :: clientText) ∧
      effectiveClientIp single proxyIp (some (forgedText ++ 44 :: clientText)) [proxyIp] = .v4 0x01020304 ∧
      clientIp ≠ .v4 0x01020304 := by
  refine ⟨by decide, ?_, by decide, by decide⟩
  exact .first (by decide) ⟨clientText, clientText_spells, rfl⟩

end Clients

end AiGateway.ResolveIp
