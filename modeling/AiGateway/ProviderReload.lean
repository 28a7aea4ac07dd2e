import AiGateway.ModelIds
import AiGateway.Lib.Runs

/-! The hot reload of the providers: the tables, what the gateway derives from them, the
listener's poll that reloads them, and the routers of the dynamic router, which applies
the changes the listener sends in the order they are sent. -/

namespace AiGateway.ProviderReload

/-- A row of `providers`, times in microseconds. -/
structure DbGatewayProvider where
  id : Uuid
  code : String
  defaultBaseUrl : Option String
  isRouter : Bool
  enabled : Bool
  updatedAt : Nat
  deriving DecidableEq, Repr

/-- A row of `provider_models`. -/
structure DbGatewayProviderModel where
  providerId : Uuid
  modelId : String
  enabled : Bool
  updatedAt : Nat
  deriving DecidableEq, Repr

structure Database where
  providers : List DbGatewayProvider
  providerModels : List DbGatewayProviderModel
  deriving DecidableEq, Repr

namespace Database

def getAllProvidersForGateway (db : Database) : List DbGatewayProvider := db.providers.filter DbGatewayProvider.enabled

def getAllProviderModelsForGateway (db : Database) : List DbGatewayProviderModel :=
  db.providerModels.filter DbGatewayProviderModel.enabled

def hasProvidersUpdatedSince (db : Database) (since : Nat) : Bool :=
  db.providers.any (fun row => since < row.updatedAt) || db.providerModels.any fun row => since < row.updatedAt

end Database

inductive UpstreamAuthStyle where
  | bearer
  | apiKey
  deriving DecidableEq, Repr

/-- The base URL is kept as its text. -/
structure GlobalProviderConfig where
  models : List ModelId
  baseUrl : String
  version : Option String
  upstreamAuth : UpstreamAuthStyle
  deriving DecidableEq, Repr

/-- Lowercased model names, each with the full names it may stand for. -/
abbrev BareModelExpandIndex := List (String × List String)

def BareModelExpandIndex.push (index : BareModelExpandIndex) (providerCode modelIdInDb : String) : BareModelExpandIndex :=
  if modelIdInDb.isEmpty then index
  else
    let key := String.ofList (modelIdInDb.toList.map Char.toLower)
    let full := providerCode ++ "/" ++ modelIdInDb
    let names := (index.lookup key).getD []
    let names := if names.contains full then names else names ++ [full]
    index.filter (fun entry => entry.1 != key) ++ [(key, names)]

/-- The full names that a bare name may stand for. -/
def BareModelExpandIndex.gatewayModelsForBareId (index : BareModelExpandIndex) (bareTrimmed : String) : List String :=
  (index.lookup (String.ofList (bareTrimmed.toList.map Char.toLower))).getD []

/-- The URL parser, the calendar for model names and the bundled provider configuration. -/
structure Environment where
  parseUrl : String → Option String
  chrono : Chrono
  embeddedDefaults : InferenceProvider → Option GlobalProviderConfig

/-- What `build_from_db` has collected; a route is determined by its one provider. -/
structure Built where
  providersConfig : List (InferenceProvider × GlobalProviderConfig)
  routerMap : List (RouterId × InferenceProvider)
  bareModelExpand : BareModelExpandIndex

namespace Built

def empty : Built := ⟨[], [], []⟩

/-- Of the entries for one provider, the map that is collected from them keeps the last. -/
def get (built : Built) (provider : InferenceProvider) : Option GlobalProviderConfig :=
  built.providersConfig.reverse.lookup provider

def routerIds (built : Built) : List RouterId := built.routerMap.map Prod.fst

end Built

section Build
variable (environment : Environment)

def baseUrlOf (provider : InferenceProvider) (row : DbGatewayProvider) : Option String :=
  let embedded := (environment.embeddedDefaults provider).map GlobalProviderConfig.baseUrl
  match row.defaultBaseUrl with
  | some url => (environment.parseUrl url).or embedded
  | none => embedded

/-- The model names of a provider that can be read, as they stand in the table. -/
def readableModels (provider : InferenceProvider) (names : List String) : List (String × ModelId) :=
  names.filterMap fun name =>
    match ModelId.fromStrAndProvider environment.chrono provider name.toList with
    | .ok model => some (name, model)
    | .error _ => none

/-- The provider a row registers and its base URL; a row without one is skipped. -/
def registered (row : DbGatewayProvider) : Option (InferenceProvider × String) := do
  let provider ← InferenceProvider.fromProviderCode row.code.toList
  let baseUrl ← baseUrlOf environment provider row
  pure (provider, baseUrl)

/-- One round over a registered row, with the model rows that no earlier row took. -/
def register (built : Built) (rawModels : List String) (row : DbGatewayProvider) (provider : InferenceProvider)
    (baseUrl : String) : Built :=
  let models := readableModels environment provider rawModels
  let embedded := environment.embeddedDefaults provider
  let config : GlobalProviderConfig :=
    ⟨(models.map Prod.snd).eraseDups, baseUrl, embedded.bind GlobalProviderConfig.version,
      (embedded.map GlobalProviderConfig.upstreamAuth).getD .bearer⟩
  let routerId : RouterId := ⟨row.code⟩
  { providersConfig := built.providersConfig ++ [(provider, config)]
    routerMap := built.routerMap.filter (fun entry => entry.1 != routerId) ++ [(routerId, provider)]
    bareModelExpand := models.foldl (fun index model => index.push row.code model.1) built.bareModelExpand }

def buildLoop : List DbGatewayProvider → List DbGatewayProviderModel → Built → Built
  | [], _, built => built
  | row :: rows, models, built =>
    match registered environment row with
    | none => buildLoop rows models built
    | some (provider, baseUrl) =>
      let rawModels := (models.filter fun model => model.providerId == row.id).map DbGatewayProviderModel.modelId
      buildLoop rows (models.filter fun model => model.providerId != row.id)
        (register environment built rawModels row provider baseUrl)

def buildFromDb (dbProviders : List DbGatewayProvider) (dbModels : List DbGatewayProviderModel) : Built :=
  buildLoop environment dbProviders dbModels .empty

/-- The router ids derived from the tables. -/
def derivedRouterIds (db : Database) : List RouterId :=
  (buildFromDb environment db.getAllProvidersForGateway db.getAllProviderModelsForGateway).routerIds

end Build

def shouldReloadProviders (lastPollTime : Option Nat) (providerProbe : Option Bool) : Bool :=
  if lastPollTime.isNone then true else providerProbe.getD false

/-- The listener between the steps of `poll_database` and of `reload_providers` in it.
`seen` counts the changes of the tables that came before the reload began to read. -/
inductive Poll where
  | idle
  | started
  | reloading
  | fetched (dbProviders : List DbGatewayProvider) (seen : Nat)
  | sending (newRouterIds removes inserts : List RouterId) (seen : Nat)
  | checked
  deriving DecidableEq, Repr

/-- `changes` counts the changes of the tables, `loaded` those that came before the last
successful reload began to read; no part of the program knows them. -/
structure System where
  db : Database
  providerIsRouterFlags : List (String × Bool)
  built : Built
  routers : List RouterId
  lastPollTime : Option Nat
  currentProviderRouterIds : List RouterId
  poll : Poll
  changes : Nat
  loaded : Nat

inductive Event where
  | change (db : Database)
  | beginPoll
  | failPoll
  | probe (ok : Bool)
  | fetchProviders (ok : Bool)
  | fetchModels (ok : Bool)
  | sendRemove (id : RouterId) (ok : Bool)
  | sendInsert (id : RouterId) (ok : Bool)
  | skipRouter (id : RouterId)
  | finishReload
  | finishPoll (finished : Nat)
  deriving DecidableEq, Repr

section Run
variable (environment : Environment)

/-- Startup inserts the routers it derives, except those it cannot build. -/
def System.start (db : Database) (unbuilt : List RouterId) : System where
  db := db
  providerIsRouterFlags := db.getAllProvidersForGateway.map fun row => (row.code, row.isRouter)
  built := buildFromDb environment db.getAllProvidersForGateway db.getAllProviderModelsForGateway
  routers := (derivedRouterIds environment db).filter fun id => !unbuilt.contains id
  lastPollTime := none
  currentProviderRouterIds := []
  poll := .idle
  changes := 0
  loaded := 0

/-- `failPoll` is an error of the queries before the probe, `skipRouter` a router that
cannot be built; the maps and sets the source iterates over have no order. -/
def step (system : System) : Event → Option System
  | .change db => some { system with db := db, changes := system.changes + 1 }
  | .beginPoll =>
    match system.poll with
    | .idle => some { system with poll := .started }
    | _ => none
  | .failPoll =>
    match system.poll with
    | .started => some { system with poll := .idle }
    | _ => none
  | .probe ok =>
    match system.poll with
    | .started =>
      let providerProbe := system.lastPollTime.map fun since => ok && system.db.hasProvidersUpdatedSince since
      if shouldReloadProviders system.lastPollTime providerProbe then some { system with poll := .reloading }
      else some { system with poll := .checked }
    | _ => none
  | .fetchProviders ok =>
    match system.poll with
    | .reloading =>
      if ok then some { system with poll := .fetched system.db.getAllProvidersForGateway system.changes }
      else some { system with poll := .checked }
    | _ => none
  | .fetchModels ok =>
    match system.poll with
    | .fetched dbProviders seen =>
      if ok then
        let built := buildFromDb environment dbProviders system.db.getAllProviderModelsForGateway
        some { system with
          providerIsRouterFlags := dbProviders.map fun row => (row.code, row.isRouter)
          built := built
          poll := .sending built.routerIds
            (system.currentProviderRouterIds.filter fun id => !built.routerIds.contains id) built.routerIds seen }
      else some { system with poll := .checked }
    | _ => none
  | .sendRemove id ok =>
    match system.poll with
    | .sending newRouterIds removes inserts seen =>
      if removes.contains id then
        if ok then
          some { system with
            routers := system.routers.filter fun router => router != id
            poll := .sending newRouterIds (removes.filter fun other => other != id) inserts seen }
        else some { system with poll := .checked }
      else none
    | _ => none
  | .sendInsert id ok =>
    match system.poll with
    | .sending newRouterIds [] inserts seen =>
      if inserts.contains id then
        if ok then
          some { system with
            routers := id :: system.routers.filter fun router => router != id
            poll := .sending newRouterIds [] (inserts.filter fun other => other != id) seen }
        else some { system with poll := .checked }
      else none
    | _ => none
  | .skipRouter id =>
    match system.poll with
    | .sending newRouterIds [] inserts seen =>
      if inserts.contains id then
        some { system with poll := .sending newRouterIds [] (inserts.filter fun other => other != id) seen }
      else none
    | _ => none
  | .finishReload =>
    match system.poll with
    | .sending newRouterIds [] [] seen =>
      some { system with currentProviderRouterIds := newRouterIds, loaded := seen, poll := .checked }
    | _ => none
  | .finishPoll finished =>
    match system.poll with
    | .checked => some { system with lastPollTime := some finished, poll := .idle }
    | _ => none

end Run

end AiGateway.ProviderReload
