import AiGateway.ProviderReload

/-! The providers a workspace may use: the tables, the snapshot read from them, and the
question that is put to the snapshot. -/

namespace AiGateway.WorkspaceAllowlist

open ProviderReload (DbGatewayProvider)

/-- A row of `provider_configs`. -/
structure DbProviderConfig where
  workspaceId : Uuid
  providerId : Uuid
  enabled : Bool
  deriving DecidableEq, Repr

structure Database where
  providers : List DbGatewayProvider
  providerConfigs : List DbProviderConfig
  deriving DecidableEq, Repr

/-- The sets by workspace; every workspace is listed once. -/
abbrev WorkspaceProviderAllowlist := List (Uuid × List InferenceProvider)

/-- `entry(workspace_id).or_default().insert(provider)`. -/
def insert (map : WorkspaceProviderAllowlist) (workspaceId : Uuid) (provider : InferenceProvider) :
    WorkspaceProviderAllowlist :=
  let allowed := (map.lookup workspaceId).getD []
  let allowed := if allowed.contains provider then allowed else allowed ++ [provider]
  (workspaceId, allowed) :: map.filter fun entry => entry.1 != workspaceId

/-- The rows of the query: the workspace and the provider's code, both records enabled. -/
def enabledRows (db : Database) : List (Uuid × String) :=
  db.providerConfigs.flatMap fun config =>
    (db.providers.filter fun provider => provider.id == config.providerId && config.enabled && provider.enabled).map
      fun provider => (config.workspaceId, provider.code)

/-- An unknown code is skipped. -/
def collect (map : WorkspaceProviderAllowlist) (row : Uuid × String) : WorkspaceProviderAllowlist :=
  match InferenceProvider.fromProviderCode row.2.toList with
  | some provider => insert map row.1 provider
  | none => map

def getWorkspaceProviderAllowlist (db : Database) : WorkspaceProviderAllowlist := (enabledRows db).foldl collect []

def isProviderAllowedForWorkspace (allowlist : WorkspaceProviderAllowlist) (workspaceId : Uuid)
    (provider : InferenceProvider) : Bool :=
  if allowlist.isEmpty then true
  else
    match allowlist.lookup workspaceId with
    | none => true
    | some allowed => if allowed.isEmpty then true else allowed.contains provider

end AiGateway.WorkspaceAllowlist
