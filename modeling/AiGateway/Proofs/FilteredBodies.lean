import AiGateway.ContentFilter
import AiGateway.Lib.Runs

/-! What the content filter forwards when the policy service changes nothing: the service is
given a body up to a cap, and what it gives back is taken for the whole. -/

namespace AiGateway.ContentFilter

open Lib.Runs
open DefaultModel (trimmed)
open SemanticCache (HeaderMap)

variable {Fields : Type} {filter : Filter Fields} {evaluate : EvaluateRequest Fields → Evaluation}

/-- The service allows everything and returns the text as it got it. -/
def Echoes (evaluate : EvaluateRequest Fields → Evaluation) : Prop :=
  ∀ request, ∃ response, evaluate request = .response response ∧ response.allowed = true ∧
    response.outBody = request.body ∧ (trimmed response.changeModel).isEmpty = true

/-- The request is evaluated with its body. -/
def Attached (filter : Filter Fields) (auth : Option FilterAuth) : Prop :=
  filter.enabled = true ∧ ∃ key, auth = some key ∧ key.virtualKeyId.isSome = true ∧
    piicacheEnabled filter.redis key.orgId = true

theorem truncateRequestBodyBytes_fst (body : Bytes) (max : Nat) :
    (truncateRequestBodyBytes body max).1 = body.take max := by
  unfold truncateRequestBodyBytes
  split
  · next short => exact (List.take_of_length_le short).symm
  · rfl

theorem attach_body {redis : Option Redis} {workspaceId : String} {body : Bytes} {request : EvaluateRequest Fields}
    (bare : request.body = []) :
    (attachRequestBodyFromPiicacheRedis redis workspaceId body request).body =
      if piicacheEnabled redis workspaceId then body.take policyMaxRequestBodyBytes else [] := by
  unfold attachRequestBodyFromPiicacheRedis
  split
  · exact truncateRequestBodyBytes_fst body policyMaxRequestBodyBytes
  · exact bare

/-- What comes back of a body that is sent: what was attached of it, or the original. -/
theorem evaluateForVkRequest_sent (client : filter.client = some evaluate) (echo : Echoes evaluate)
    (enabled : filter.enabled = true) {key : FilterAuth} (virtual : key.virtualKeyId.isSome = true) (body : Bytes) :
    ∃ plan, evaluateForVkRequest filter (some key) body = .ok ⟨plan, none⟩ ∧
      forwarded body plan =
        if piicacheEnabled filter.redis key.orgId then body.take policyMaxRequestBodyBytes else body := by
  obtain ⟨id, named⟩ := Option.isSome_iff_exists.mp virtual
  let request := attachRequestBodyFromPiicacheRedis filter.redis key.orgId body ⟨key.orgId, [], filter.describe body⟩
  obtain ⟨response, answered, allowed, returned, same⟩ := echo request
  have attached : request.body =
      if piicacheEnabled filter.redis key.orgId then body.take policyMaxRequestBodyBytes else [] := attach_body rfl
  have decided (plan : ContentFilterForwardBody)
      (forwards : forwardBodyForAllowedEvaluateResponse (!request.body.isEmpty) request.body response.reasonMessage
        response.reason = .ok plan) :
      evaluateForVkRequest filter (some key) body = .ok ⟨plan, none⟩ := by
    unfold evaluateForVkRequest
    simp only [enabled, vkAuthPresent, Option.bind_some, named, Option.isSome_some, Bool.not_true, Bool.or_false,
      Bool.false_eq_true, if_false, client, buildEvaluateRequest, Option.map_some]
    have sent : evaluate (attachRequestBodyFromPiicacheRedis filter.redis key.orgId body
        ⟨key.orgId, [], filter.describe body⟩) = .response response := answered
    rw [sent]
    simp only [allowed, if_true, same, returned]
    rw [forwards]
  cases empty : request.body with
  | nil =>
    refine ⟨.useOriginal, decided _ (by rw [empty]; rfl), ?_⟩
    -- Nothing is attached, or all there is, which is nothing.
    rw [empty] at attached
    split
    · next flagged =>
      rw [if_pos flagged] at attached
      have none : body = [] := by
        rcases List.take_eq_nil_iff.mp attached.symm with zero | none
        · exact absurd zero (by decide)
        · exact none
      rw [none]
      rfl
    · rfl
  | cons first rest =>
    refine ⟨.useReplaced request.body, decided _ (by rw [empty]; rfl), ?_⟩
    split
    · next flagged =>
      rw [if_pos flagged] at attached
      exact attached
    · next unflagged =>
      rw [if_neg unflagged, empty] at attached
      cases attached

/-- What an evaluation leaves of a body. -/
theorem evaluateForVkRequest_echo (client : filter.client = some evaluate) (echo : Echoes evaluate)
    (auth : Option FilterAuth) (body : Bytes) :
    ∃ plan, evaluateForVkRequest filter auth body = .ok ⟨plan, none⟩ ∧
      (Attached filter auth → forwarded body plan = body.take policyMaxRequestBodyBytes) ∧
      (¬ Attached filter auth → forwarded body plan = body) := by
  by_cases sent : filter.enabled = true ∧ vkAuthPresent auth = true
  · obtain ⟨enabled, present⟩ := sent
    cases auth with
    | none => cases present
    | some key =>
      obtain ⟨plan, evaluated, forwards⟩ := evaluateForVkRequest_sent client echo enabled present body
      refine ⟨plan, evaluated, ?_, ?_⟩
      · intro ⟨_, other, same, _, flagged⟩
        cases same
        rw [forwards, if_pos flagged]
      · intro unattached
        rw [forwards, if_neg]
        intro flagged
        exact unattached ⟨enabled, key, rfl, present, flagged⟩
  · refine ⟨.useOriginal, ?_, ?_, fun _ => rfl⟩
    · unfold evaluateForVkRequest
      rw [if_pos]
      · rfl
      · by_contra passes
        simp only [Bool.or_eq_true, Bool.not_eq_true', not_or, Bool.not_eq_false] at passes
        exact sent passes
    · intro ⟨enabled, key, same, virtual, _⟩
      rw [same] at sent
      exact absurd ⟨enabled, virtual⟩ sent

section Forwarding
variable {templating : Templating} {headers : HeaderMap} {auth : Option FilterAuth} {body merged : Bytes}
  {log : Option PromptHeaderForRequestLog}

/-- A body that is attached is forwarded up to the cap, any other one whole. -/
theorem filterBody_echo (client : filter.client = some evaluate) (echo : Echoes evaluate)
    (merges : mergePromptCacheMessagesIntoBody templating filter.redis headers ((auth.map FilterAuth.orgId).getD "")
      body = .ok (merged, log)) :
    (Attached filter auth →
        filterBody filter templating headers auth body = .ok (merged.take policyMaxRequestBodyBytes)) ∧
      (¬ Attached filter auth → filterBody filter templating headers auth body = .ok merged) := by
  obtain ⟨plan, evaluated, attached, unattached⟩ := evaluateForVkRequest_echo client echo auth merged
  have filtered : filterBody filter templating headers auth body = .ok (forwarded merged plan) := by
    unfold filterBody
    simp only [merges, bind, Except.bind, evaluated, pure, Except.pure]
  rw [filtered]
  exact ⟨fun sent => congrArg Except.ok (attached sent), fun kept => congrArg Except.ok (unattached kept)⟩

/-- The body is forwarded whole just where it is not attached or is within the cap. -/
theorem filterBody_whole_iff (client : filter.client = some evaluate) (echo : Echoes evaluate)
    (merges : mergePromptCacheMessagesIntoBody templating filter.redis headers ((auth.map FilterAuth.orgId).getD "")
      body = .ok (merged, log)) :
    filterBody filter templating headers auth body = .ok merged ↔
      (Attached filter auth → merged.length ≤ policyMaxRequestBodyBytes) := by
  obtain ⟨attached, unattached⟩ := filterBody_echo client echo merges
  by_cases sent : Attached filter auth
  · rw [attached sent, Except.ok.injEq, List.take_eq_self_iff]
    exact ⟨fun short _ => short, fun short => short sent⟩
  · exact iff_of_true (unattached sent) (fun other => absurd other sent)

end Forwarding

/-! A workspace whose bodies are sent to a service that has nothing to rewrite. -/

def echoService (request : EvaluateRequest Unit) : Evaluation := .response ⟨true, "", "", "", request.body, ""⟩

theorem echoService_echoes : Echoes echoService := by
  intro request
  exact ⟨_, rfl, rfl, rfl, rfl⟩

def piicacheFilter : Filter Unit where
  enabled := true
  onUnavailable := .deny
  client := some echoService
  redis := some fun key => .ok (if key = "policy:piicache:ws-1" then some "true" else none)
  describe _ := ()

def workspaceKey : FilterAuth := ⟨"ws-1", some "vk-1"⟩

/-- Nothing is asked of the libraries where no prompt is. -/
def noTemplating : Templating := ⟨⟨fun _ => none, fun _ => []⟩, fun _ => none, fun _ => "", .ok⟩

def noHeaders : HeaderMap := ⟨fun _ => none⟩

theorem piicacheFilter_attached : Attached piicacheFilter (some workspaceKey) :=
  ⟨rfl, workspaceKey, rfl, rfl, by decide +kernel⟩

theorem noHeaders_merged (redis : Option Redis) (workspaceId : String) (body : Bytes) :
    mergePromptCacheMessagesIntoBody noTemplating redis noHeaders workspaceId body = .ok (body, none) := rfl

theorem short_body_forwarded :
    filterBody piicacheFilter noTemplating noHeaders (some workspaceKey) [0x7B, 0x7D] = .ok [0x7B, 0x7D] := by
  apply (filterBody_whole_iff rfl echoService_echoes (noHeaders_merged _ _ _)).mpr
  intro _
  decide

/-- The last byte of a body of one more than the cap is not forwarded. -/
theorem long_body_cut :
    Echoes echoService ∧
      filterBody piicacheFilter noTemplating noHeaders (some workspaceKey) (List.replicate 1048577 0x20) =
        .ok (List.replicate 1048576 0x20) ∧
      filterBody piicacheFilter noTemplating noHeaders (some workspaceKey) (List.replicate 1048577 0x20) ≠
        .ok (List.replicate 1048577 0x20) := by
  have cut : filterBody piicacheFilter noTemplating noHeaders (some workspaceKey) (List.replicate 1048577 0x20) =
      .ok (List.replicate 1048576 0x20) := by
    rw [(filterBody_echo rfl echoService_echoes (noHeaders_merged _ _ _)).1 piicacheFilter_attached,
      List.take_replicate]
    rfl
  refine ⟨echoService_echoes, cut, ?_⟩
  rw [cut]
  intro same
  have lengths := congrArg List.length (Except.ok.inj same)
  rw [List.length_replicate, List.length_replicate] at lengths
  omega

end AiGateway.ContentFilter
