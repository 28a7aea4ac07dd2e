import AiGateway.RequestAdmission
import AiGateway.Proofs.SupportedCandidates

/-! Which requests are admitted, said without the order of the checks: the precheck keeps off
no request that would find a handler, other than by its method. -/

namespace AiGateway.RequestAdmission

variable {gateway : Gateway} {now : Nat} {parser : PathAndQueryParser} {http : HttpRequest} {route : RouteExtensions}

theorem tryFrom_api {path : List Char} {api : UnifiedApi} (found : UnifiedApi.tryFrom path = .ok api) :
    ApiEndpoint.new (String.ofList path) = some api.api := by
  unfold UnifiedApi.tryFrom at found
  split at found <;> cases found <;> (rename_i same; rw [same]; rfl)

/-- Every path with an endpoint takes nothing but a body that is posted. -/
theorem endpoint_requires_post {path : List Char} {endpoint : ApiEndpoint}
    (found : ApiEndpoint.new (String.ofList path) = some endpoint) : pathRequiresPost path = true := by
  have whole : path = (String.ofList path).toList := (String.toList_ofList).symm
  rw [whole]
  unfold ApiEndpoint.new at found
  split at found
  all_goals first | cases found; done | (rename_i same; rw [same]; decide)

theorem checkMethod_ok_iff {method : String} {path : List Char} :
    checkMethod method path = .ok () ↔ method = "OPTIONS" ∨ method = "POST" ∨ pathRequiresPost path = false := by
  unfold checkMethod
  by_cases options : method = "OPTIONS"
  · simp [options]
  · by_cases post : method = "POST"
    · simp [post]
    · cases pathRequiresPost path <;> simp [options, post]

/-- The methods that pass: any on the paths of a direct proxy that take no posted body. -/
def MethodAllowed (http : HttpRequest) (route : RouteExtensions) : Prop :=
  http.method = "OPTIONS" ∨ http.method = "POST" ∨
    ∃ provider path, route.routeType = .directProxy provider path ∧
      pathRequiresPost (pathOf route.extractedPathAndQuery) = false

/-- A virtual key that is stored and has not expired. It opens a router of its own organization
only, and a custom provider only with an address. -/
structure KeyAccepted (gateway : Gateway) (now : Nat) (routeType : RouteType) (apiKey : List Char) (vk : DbVirtualKey) :
    Prop where
  stored : gateway.resolveVirtualKeyForAuth (gateway.hashKey (stripBearerPrefix apiKey)) = some vk
  live : ∀ expiresAt, vk.expiresAt = some expiresAt → now < expiresAt
  reachable : (authContext gateway (stripBearerPrefix apiKey) vk).isCustomProvider = true →
    (authContext gateway (stripBearerPrefix apiKey) vk).masterKeyBaseUrl.isSome = true
  owned : ∀ id path, routeType = .router id path → gateway.routerOrganization id = some vk.workspaceId

/-- What stands behind the context of a request: no authentication at all, or a key. -/
inductive Authenticated (gateway : Gateway) (now : Nat) (http : HttpRequest) (route : RouteExtensions) :
    Option AuthContext → Prop where
  | disabled (off : gateway.authDisabled = true) : Authenticated gateway now http route none
  | key {apiKey : List Char} {vk : DbVirtualKey} (on : gateway.authDisabled = false)
      (presented : http.authorization = some apiKey) (accepted : KeyAccepted gateway now route.routeType apiKey vk) :
      Authenticated gateway now http route (some (authContext gateway (stripBearerPrefix apiKey) vk))

/-- The handler at the end of a route. Of the providers a balancer chooses from, the workspace
may use one at least. -/
inductive Reaches (gateway : Gateway) (route : RouteExtensions) (auth : Option AuthContext) : Handler → Prop where
  | balancer {id : RouterId} {path : List Char} {config : RouterConfig} {endpoint : ApiEndpoint}
      {balance : BalanceConfigInner} (routed : route.routeType = .router id path) (known : gateway.routers id = some config)
      (found : ApiEndpoint.new (String.ofList (pathOf route.extractedPathAndQuery)) = some endpoint)
      (balanced : config.loadBalance.get endpoint.endpointType = some balance)
      (allowed : ∀ context, auth = some context → balance.providers ≠ [] → ∃ provider ∈ balance.providers,
        WorkspaceAllowlist.isProviderAllowedForWorkspace gateway.allowlist context.orgId provider = true) :
      Reaches gateway route auth (.balancer id endpoint)
  | unifiedApi {path : List Char} {api : UnifiedApi} (routed : route.routeType = .unifiedApi path)
      (found : UnifiedApi.tryFrom (pathOf route.extractedPathAndQuery) = .ok api) :
      Reaches gateway route auth (.unifiedApi api.api)
  | directProxy {provider : InferenceProvider} {path : List Char} (routed : route.routeType = .directProxy provider path)
      (configured : provider ∈ gateway.directProxies) : Reaches gateway route auth (.directProxy provider)

theorem live_iff {vk : DbVirtualKey} :
    virtualKeyIsExpired vk now = false ↔ ∀ expiresAt, vk.expiresAt = some expiresAt → now < expiresAt := by
  unfold virtualKeyIsExpired
  cases vk.expiresAt <;> simp

theorem reachable_iff {context : AuthContext} :
    (context.isCustomProvider && context.masterKeyBaseUrl.isNone) = false ↔
      (context.isCustomProvider = true → context.masterKeyBaseUrl.isSome = true) := by
  cases context.isCustomProvider <;> cases context.masterKeyBaseUrl <;> simp

theorem authenticate_ok_iff {apiKey : List Char} {routeType : RouteType} {context : AuthContext} :
    authenticateRequestInner gateway now apiKey routeType = .ok context ↔
      ∃ vk, KeyAccepted gateway now routeType apiKey vk ∧ context = authContext gateway (stripBearerPrefix apiKey) vk := by
  constructor
  · intro passed
    unfold authenticateRequestInner at passed
    simp only at passed
    split at passed
    next => cases passed
    next vk stored =>
      split at passed
      next => cases passed
      next live =>
        have alive := live_iff.mp (Bool.eq_false_iff.mpr live)
        split at passed
        next => cases passed
        next based =>
          have reachable := reachable_iff.mp (Bool.eq_false_iff.mpr based)
          split at passed
          next id path =>
            split at passed
            next => cases passed
            next organization found =>
              split at passed
              next same =>
                cases passed
                refine ⟨vk, ⟨stored, alive, reachable, fun other rest also => ?_⟩, rfl⟩
                cases also
                exact found.trans (congrArg some same)
              next => cases passed
          next => cases passed; exact ⟨vk, ⟨stored, alive, reachable, nofun⟩, rfl⟩
          next => cases passed; exact ⟨vk, ⟨stored, alive, reachable, nofun⟩, rfl⟩
  · rintro ⟨vk, ⟨stored, live, reachable, owned⟩, rfl⟩
    simp only [authenticateRequestInner, stored, live_iff.mpr live, reachable_iff.mpr reachable, Bool.false_eq_true, if_false]
    cases routeType with
    | router id path =>
      simp only [owned id path rfl]
      exact if_pos rfl
    | unifiedApi path => rfl
    | directProxy provider path => rfl

theorem authorize_ok_iff {auth : Option AuthContext} :
    authorize gateway now http route = .ok auth ↔ Authenticated gateway now http route auth := by
  constructor
  · intro passed
    unfold authorize at passed
    split at passed
    next off => cases passed; exact .disabled off
    next on =>
      split at passed
      next => cases passed
      next apiKey presented =>
        cases found : authenticateRequestInner gateway now apiKey route.routeType with
        | error error => rw [found] at passed; cases passed
        | ok context =>
          rw [found] at passed
          cases passed
          obtain ⟨vk, accepted, rfl⟩ := authenticate_ok_iff.mp found
          exact .key (Bool.eq_false_iff.mpr on) presented accepted
  · intro authenticated
    cases authenticated with
    | disabled off => rw [authorize, if_pos off]
    | key on presented accepted =>
      rw [authorize, if_neg (by simp [on]), presented]
      exact congrArg (Except.map some) (authenticate_ok_iff.mpr ⟨_, accepted, rfl⟩)

theorem intersection_none_iff {config : RouterConfig} {endpointType : EndpointType} {balance : BalanceConfigInner}
    {auth : Option AuthContext} (balanced : config.loadBalance.get endpointType = some balance) :
    precheckWorkspaceCandidateIntersection gateway config endpointType auth = none ↔
      ∀ context, auth = some context → balance.providers ≠ [] → ∃ provider ∈ balance.providers,
        WorkspaceAllowlist.isProviderAllowedForWorkspace gateway.allowlist context.orgId provider = true := by
  unfold precheckWorkspaceCandidateIntersection
  rw [balanced]
  cases auth with
  | none => simp
  | some context =>
    cases candidates : balance.providers with
    | nil => simp [candidates]
    | cons first rest =>
      simp only [candidates, Option.some.injEq, forall_eq', ne_eq, reduceCtorEq, not_false_eq_true, forall_true_left]
      rw [← List.any_eq_true]
      split
      next allowed => exact iff_of_true rfl allowed
      next denied => exact iff_of_false nofun denied

theorem metaCall_ok_iff {auth : Option AuthContext} {handler : Handler} :
    metaCall gateway route auth = .ok handler ↔ Reaches gateway route auth handler := by
  constructor
  · intro called
    unfold metaCall at called
    simp only at called
    split at called
    next id path routed =>
      split at called
      next => cases called
      next config known =>
        unfold routerCall at called
        split at called
        next => cases called
        next endpoint found =>
          split at called
          next => cases called
          next allowed =>
            split at called
            next balance balanced =>
              cases called
              exact .balancer routed known found balanced ((intersection_none_iff balanced).mp allowed)
            next => cases called
    next path routed =>
      split at called <;> cases called
      exact .unifiedApi routed ‹_›
    next provider path routed =>
      split at called
      next configured =>
        cases called
        exact .directProxy routed (by simpa using configured)
      next => cases called
  · intro reached
    unfold metaCall
    cases reached with
    | balancer routed known found balanced allowed =>
      simp only [routed, known, routerCall, found, (intersection_none_iff balanced).mpr allowed, balanced]
    | unifiedApi routed found => simp only [routed, found]
    | directProxy routed configured => simp [routed, configured]

/-- Where a handler is reached, the precheck has nothing against the request but its method. -/
theorem precheck_ok_iff {auth : Option AuthContext} {handler : Handler} (reached : Reaches gateway route auth handler) :
    precheck gateway http route = .ok () ↔ MethodAllowed http route := by
  have posted {path : List Char} {endpoint : ApiEndpoint}
      (found : ApiEndpoint.new (String.ofList path) = some endpoint) :
      checkMethod http.method path = .ok () ↔ http.method = "OPTIONS" ∨ http.method = "POST" := by
    rw [checkMethod_ok_iff, endpoint_requires_post found]
    simp
  unfold precheck MethodAllowed
  cases reached with
  | balancer routed known found balanced allowed => simp [routed, found, posted found]
  | unifiedApi routed found => simp [routed, found, posted (tryFrom_api found)]
  | directProxy routed configured => simp [routed, configured, checkMethod_ok_iff]

/-- The request can be read as far as it is looked at and every model it names is supported;
this is the body with the full names in it. -/
def ModelsSupported (gateway : Gateway) (request : ModelSupport.SupportRequest) (body : List UInt8) : Prop :=
  ModelSupport.Forwardable gateway.catalog request (ModelSupport.requestCandidates gateway.json request) ∧
    body = if ModelSupport.inspected request then
        (ModelSupport.requestCandidates gateway.json request).foldl
          (ModelSupport.rewriteStep gateway.catalog gateway.json) request.body
      else request.body

end AiGateway.RequestAdmission
