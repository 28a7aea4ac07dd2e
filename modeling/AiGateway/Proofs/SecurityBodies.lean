import AiGateway.Security
import Mathlib.Data.List.TakeDrop

/-! What the security layer does to the bodies it lets through. -/

namespace AiGateway.Security

/-- A body that can be read is collected up to the cap, which cuts nothing off a body that
fits. -/
theorem collectLimitedBody_ok (bytes : Bytes) : collectLimitedBody (.ok bytes) = .ok (bytes.take maxSecurityBodySize) := by
  unfold collectLimitedBody
  dsimp only
  split
  · rfl
  · next fits => rw [List.take_of_length_le (Nat.not_lt.mp fits)]

/-- No plugin changes the body, whatever it notes beside it. -/
def LeavesBody (loader : PluginLoader) (body : Bytes) : Prop :=
  ∀ plugin ∈ loader.plugins, ∀ sensitive, ∃ noted, plugin.maskResponse ⟨body, sensitive⟩ = .ok ⟨body, noted⟩

theorem maskResponse_left {loader : PluginLoader} {body : Bytes} (leaves : LeavesBody loader body) (sensitive : Bool) :
    ∃ noted, loader.maskResponse ⟨body, sensitive⟩ = .ok ⟨body, noted⟩ := by
  obtain ⟨plugins⟩ := loader
  unfold PluginLoader.maskResponse
  induction plugins generalizing sensitive with
  | nil => exact ⟨sensitive, rfl⟩
  | cons plugin rest ih =>
    obtain ⟨noted, masked⟩ := leaves plugin List.mem_cons_self sensitive
    obtain ⟨last, later⟩ := ih noted (fun other member => leaves other (List.mem_cons_of_mem plugin member))
    refine ⟨last, ?_⟩
    rw [List.foldlM_cons, masked]
    exact later

section Call
variable {ε : Type} {loader : PluginLoader} {inner : Request → Except ε Response} {parts : Parts} {bytes : Bytes}

theorem call_accepted
    (accepted : loader.checkRequest (buildContext parts (bytes.take maxSecurityBodySize)) = .ok ()) :
    call loader inner ⟨parts, .ok bytes⟩ =
      ⟨some ⟨parts, .ok (bytes.take maxSecurityBodySize)⟩,
        finish loader (inner ⟨parts, .ok (bytes.take maxSecurityBodySize)⟩)⟩ := by
  unfold call
  rw [collectLimitedBody_ok]
  dsimp only
  rw [accepted]

theorem finish_left {response : Response} (read : response.body = .ok bytes)
    (leaves : LeavesBody loader (bytes.take maxSecurityBodySize)) :
    finish loader (.ok response : Except ε Response) =
      .ok ⟨response.status, response.headers.filter fun header => header.1 != "content-length",
        .ok (bytes.take maxSecurityBodySize)⟩ := by
  obtain ⟨noted, masked⟩ := maskResponse_left leaves false
  unfold finish
  dsimp only
  rw [read, collectLimitedBody_ok]
  dsimp only
  rw [masked]

end Call

/-- What the plugins accept reaches the inner service, and what they leave alone the client,
in both directions up to the cap: byte for byte exactly when the body fits. -/
theorem security_transparent {ε : Type} (loader : PluginLoader) (inner : Request → Except ε Response) (parts : Parts)
    (sent : Bytes) (accepted : loader.checkRequest (buildContext parts (sent.take maxSecurityBodySize)) = .ok ()) :
    (∃ received, (call loader inner ⟨parts, .ok sent⟩).forwarded = some ⟨parts, .ok received⟩ ∧
      received = sent.take maxSecurityBodySize ∧ (received = sent ↔ sent.length ≤ maxSecurityBodySize)) ∧
    ∀ response returned, inner ⟨parts, .ok (sent.take maxSecurityBodySize)⟩ = .ok response → response.body = .ok returned →
      LeavesBody loader (returned.take maxSecurityBodySize) →
      ∃ received, (call loader inner ⟨parts, .ok sent⟩).response =
          .ok ⟨response.status, response.headers.filter fun header => header.1 != "content-length", .ok received⟩ ∧
        received = returned.take maxSecurityBodySize ∧ (received = returned ↔ returned.length ≤ maxSecurityBodySize) := by
  rw [call_accepted accepted]
  refine ⟨⟨_, rfl, rfl, List.take_eq_self_iff sent⟩, ?_⟩
  intro response returned answered read leaves
  refine ⟨_, ?_, rfl, List.take_eq_self_iff returned⟩
  dsimp only
  rw [answered]
  exact finish_left read leaves

/-- An inner service that answers with the body it was sent. -/
def echo (request : Request) : Except Empty Response := .ok ⟨200, [], request.body⟩

def healthParts : Parts := ⟨"/v1/chat/completions".toList, none, []⟩

def noOpLoader : PluginLoader := ⟨[noOpSecurityPlugin]⟩

theorem noOpLoader_leaves (body : Bytes) : LeavesBody noOpLoader body := by
  intro plugin member sensitive
  rw [List.mem_singleton.mp member]
  exact ⟨sensitive, rfl⟩

theorem small_body_transparent :
    (∃ received, (call noOpLoader echo ⟨healthParts, .ok [1, 2, 3]⟩).forwarded = some ⟨healthParts, .ok received⟩ ∧
        received = [1, 2, 3].take maxSecurityBodySize ∧ (received = [1, 2, 3] ↔ [1, 2, 3].length ≤ maxSecurityBodySize)) ∧
      ∃ received, (call noOpLoader echo ⟨healthParts, .ok [1, 2, 3]⟩).response = .ok ⟨200, [], .ok received⟩ ∧
        received = [1, 2, 3].take maxSecurityBodySize ∧ (received = [1, 2, 3] ↔ [1, 2, 3].length ≤ maxSecurityBodySize) := by
  have transparent := security_transparent noOpLoader echo healthParts [1, 2, 3] rfl
  exact ⟨transparent.1, transparent.2 ⟨200, [], .ok [1, 2, 3]⟩ [1, 2, 3] rfl rfl (noOpLoader_leaves _)⟩

/-- One byte more than the cap does not reach the inner service, though no plugin objects. -/
theorem large_body_cut :
    ¬ ∀ (loader : PluginLoader) (inner : Request → Except Empty Response) (parts : Parts) (sent : Bytes),
      loader.checkRequest (buildContext parts sent) = .ok () →
        (call loader inner ⟨parts, .ok sent⟩).forwarded = some ⟨parts, .ok sent⟩ := by
  intro transparent
  have whole := transparent ⟨[]⟩ echo healthParts (List.replicate (maxSecurityBodySize + 1) 0) rfl
  rw [call_accepted rfl] at whole
  have same := Except.ok.inj (congrArg Request.body (Option.some.inj whole))
  have lengths := congrArg List.length same
  rw [List.length_take, List.length_replicate] at lengths
  omega

end AiGateway.Security
