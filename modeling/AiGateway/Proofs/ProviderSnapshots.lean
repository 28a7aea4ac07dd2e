import AiGateway.Proofs.ProviderReloads
import AiGateway.Proofs.ProviderNames
import AiGateway.Lib.Entries

/-! The three structures built from the provider tables, held against each other: the
configuration by provider, the routers by code, and the full names by bare model name. -/

namespace AiGateway.ProviderReload

open Lib.Entries

/-- A row that is registered, with the model names that it takes. -/
structure Registration where
  row : DbGatewayProvider
  rawModels : List String
  provider : InferenceProvider
  baseUrl : String

section Registrations
variable (environment : Environment)

/-- The rows that are registered; the model rows of an id go to the first of them. -/
def registrations : List DbGatewayProvider → List DbGatewayProviderModel → List Registration
  | [], _ => []
  | row :: rows, models =>
    match registered environment row with
    | none => registrations rows models
    | some (provider, baseUrl) =>
      let rawModels := (models.filter fun model => model.providerId == row.id).map DbGatewayProviderModel.modelId
      ⟨row, rawModels, provider, baseUrl⟩ :: registrations rows (models.filter fun model => model.providerId != row.id)

def Registration.models (registration : Registration) : List (String × ModelId) :=
  readableModels environment registration.provider registration.rawModels

def Registration.config (registration : Registration) : GlobalProviderConfig :=
  let embedded := environment.embeddedDefaults registration.provider
  ⟨((registration.models environment).map Prod.snd).eraseDups, registration.baseUrl,
    embedded.bind GlobalProviderConfig.version, (embedded.map GlobalProviderConfig.upstreamAuth).getD .bearer⟩

def Registration.apply (built : Built) (registration : Registration) : Built :=
  register environment built registration.rawModels registration.row registration.provider registration.baseUrl

variable {environment}

theorem buildLoop_eq (rows : List DbGatewayProvider) (models : List DbGatewayProviderModel) (built : Built) :
    buildLoop environment rows models built =
      (registrations environment rows models).foldl (Registration.apply environment) built := by
  induction rows generalizing models built with
  | nil => rfl
  | cons row rows ih =>
    rw [buildLoop, registrations]
    cases registered environment row with
    | none => exact ih models built
    | some entry => exact ih _ _

/-- What is registered is what the row itself says. -/
theorem registrations_registered {rows : List DbGatewayProvider} {models : List DbGatewayProviderModel}
    {registration : Registration} (member : registration ∈ registrations environment rows models) :
    registered environment registration.row = some (registration.provider, registration.baseUrl) := by
  induction rows generalizing models with
  | nil => cases member
  | cons row rows ih =>
    rw [registrations] at member
    cases found : registered environment row with
    | none =>
      rw [found] at member
      exact ih member
    | some entry =>
      rw [found] at member
      obtain rfl | later := List.mem_cons.mp member
      · exact found
      · exact ih later

theorem registrations_code {rows : List DbGatewayProvider} {models : List DbGatewayProviderModel}
    {registration : Registration} (member : registration ∈ registrations environment rows models) :
    InferenceProvider.fromProviderCode registration.row.code.toList = some registration.provider := by
  have found := registrations_registered member
  unfold registered at found
  cases read : InferenceProvider.fromProviderCode registration.row.code.toList with
  | none => simp [read] at found
  | some provider =>
    cases url : baseUrlOf environment provider registration.row with
    | none => simp [read, url] at found
    | some baseUrl =>
      simp only [read, url, Option.bind_eq_bind, Option.bind_some, Option.pure_def, Option.some.injEq,
        Prod.mk.injEq] at found
      rw [found.1]

theorem registrations_rows (rows : List DbGatewayProvider) (models : List DbGatewayProviderModel) :
    (registrations environment rows models).map (fun registration => (registration.row, registration.baseUrl)) =
      rows.filterMap fun row => (registered environment row).map fun entry => (row, entry.2) := by
  induction rows generalizing models with
  | nil => rfl
  | cons row rows ih =>
    rw [registrations, List.filterMap_cons]
    cases registered environment row with
    | none => exact ih models
    | some entry => simp [ih]

end Registrations

section Snapshot
variable {environment : Environment}

theorem providersConfig_foldl (list : List Registration) (built : Built) :
    (list.foldl (Registration.apply environment) built).providersConfig =
      built.providersConfig ++ list.map fun registration => (registration.provider, registration.config environment) := by
  induction list generalizing built with
  | nil => simp
  | cons first rest ih =>
    rw [List.foldl_cons, ih]
    simp [Registration.apply, register, Registration.config, Registration.models]

theorem get_foldl (list : List Registration) (provider : InferenceProvider) :
    (list.foldl (Registration.apply environment) .empty).get provider =
      (list.reverse.find? fun registration => registration.provider = provider).map (Registration.config environment) := by
  rw [Built.get, providersConfig_foldl, Built.empty, List.nil_append, ← List.map_reverse]
  exact lookup_map Registration.provider (Registration.config environment) list.reverse provider

theorem mem_routerMap_foldl {list : List Registration}
    (read : ∀ registration ∈ list,
      InferenceProvider.fromProviderCode registration.row.code.toList = some registration.provider)
    {built : Built}
    (held : ∀ entry ∈ built.routerMap, InferenceProvider.fromProviderCode entry.1.named.toList = some entry.2)
    {id : RouterId} {provider : InferenceProvider} :
    (id, provider) ∈ (list.foldl (Registration.apply environment) built).routerMap ↔
      (id, provider) ∈ built.routerMap ∨
        ∃ registration ∈ list, id = ⟨registration.row.code⟩ ∧ provider = registration.provider := by
  induction list generalizing built with
  | nil => simp
  | cons first rest ih =>
    have own := read first List.mem_cons_self
    have entries : (Registration.apply environment built first).routerMap =
        built.routerMap.filter (fun entry => entry.1 != ⟨first.row.code⟩) ++ [(⟨first.row.code⟩, first.provider)] := rfl
    have kept : ∀ entry ∈ (Registration.apply environment built first).routerMap,
        InferenceProvider.fromProviderCode entry.1.named.toList = some entry.2 := by
      intro entry member
      rw [entries] at member
      obtain old | new := List.mem_append.mp member
      · exact held entry (List.mem_filter.mp old).1
      · rw [List.mem_singleton.mp new]
        exact own
    rw [List.foldl_cons, ih (fun other member => read other (List.mem_cons_of_mem first member)) kept, entries]
    simp only [List.mem_append, List.mem_filter, Prod.mk.injEq, List.mem_cons, List.not_mem_nil, or_false, bne_iff_ne]
    constructor
    · rintro ((⟨old, _⟩ | ⟨same, named⟩) | ⟨registration, member, same, named⟩)
      · exact .inl old
      · exact .inr ⟨first, .inl rfl, same, named⟩
      · exact .inr ⟨registration, .inr member, same, named⟩
    · rintro (old | ⟨registration, rfl | member, same, named⟩)
      · by_cases replaced : id = ⟨first.row.code⟩
        · -- The router that is replaced led to the same provider, since its code is the same.
          have before := held (id, provider) old
          subst replaced
          rw [own] at before
          exact .inl (.inr ⟨rfl, (Option.some.inj before).symm⟩)
        · exact .inl (.inl ⟨old, replaced⟩)
      · exact .inl (.inr ⟨same, named⟩)
      · exact .inr ⟨registration, member, same, named⟩

def lowered (text : String) : String := String.ofList (text.toList.map Char.toLower)

theorem mem_push (index : BareModelExpandIndex) (code name bare full : String) :
    full ∈ (index.push code name).gatewayModelsForBareId bare ↔
      full ∈ index.gatewayModelsForBareId bare ∨
        (name ≠ "" ∧ lowered name = lowered bare ∧ full = code ++ "/" ++ name) := by
  unfold BareModelExpandIndex.push BareModelExpandIndex.gatewayModelsForBareId
  by_cases nameless : name.isEmpty = true
  · rw [if_pos nameless]
    have nothing : name = "" := String.isEmpty_iff.mp nameless
    simp [nothing]
  · have named : name ≠ "" := fun nothing => nameless (String.isEmpty_iff.mpr nothing)
    rw [if_neg nameless]
    dsimp only
    rw [List.lookup_append]
    by_cases same : lowered bare = lowered name
    · unfold lowered at same
      rw [same, lookup_filter_self, Option.none_or, List.lookup_cons, beq_self_eq_true]
      simp only [Option.getD_some]
      split
      · next present =>
        rw [List.contains_iff_mem] at present
        constructor
        · exact .inl
        · rintro (old | ⟨_, _, rfl⟩)
          · exact old
          · exact present
      · rw [List.mem_append, List.mem_singleton]
        simp [named, lowered, same]
    · have other : ¬ lowered name = lowered bare := fun equal => same equal.symm
      unfold lowered at same
      rw [lookup_filter_ne same, List.lookup_cons, beq_false_of_ne same, List.lookup_nil, Option.or_none]
      simp [other]

theorem mem_pushed (code : String) (models : List (String × ModelId)) (index : BareModelExpandIndex) (bare full : String) :
    full ∈ (models.foldl (fun index model => index.push code model.1) index).gatewayModelsForBareId bare ↔
      full ∈ index.gatewayModelsForBareId bare ∨
        ∃ model ∈ models, model.1 ≠ "" ∧ lowered model.1 = lowered bare ∧ full = code ++ "/" ++ model.1 := by
  induction models generalizing index with
  | nil => simp
  | cons first rest ih =>
    rw [List.foldl_cons, ih, mem_push]
    simp only [List.mem_cons, exists_eq_or_imp, or_assoc]

theorem mem_index_foldl (list : List Registration) (built : Built) (bare full : String) :
    full ∈ (list.foldl (Registration.apply environment) built).bareModelExpand.gatewayModelsForBareId bare ↔
      full ∈ built.bareModelExpand.gatewayModelsForBareId bare ∨
        ∃ registration ∈ list, ∃ model ∈ registration.models environment,
          model.1 ≠ "" ∧ lowered model.1 = lowered bare ∧ full = registration.row.code ++ "/" ++ model.1 := by
  induction list generalizing built with
  | nil => simp
  | cons first rest ih =>
    have pushed := mem_pushed first.row.code (first.models environment) built.bareModelExpand bare full
    rw [List.foldl_cons, ih]
    simp only [List.mem_cons, exists_eq_or_imp, ← or_assoc, ← pushed]
    rfl

end Snapshot

/-- The registration that the configuration of a provider is taken from. -/
def lastOf (list : List Registration) (provider : InferenceProvider) : Option Registration :=
  list.reverse.find? fun registration => registration.provider = provider

/-- The registration that the router of a code is made for. -/
def lastOfCode (list : List Registration) (code : String) : Option Registration :=
  list.reverse.find? fun registration => registration.row.code = code

section Consistency
variable (environment : Environment) (rows : List DbGatewayProvider) (dbModels : List DbGatewayProviderModel)

/-- The base URL of the row that a router was made for. -/
def ownBaseUrl (id : RouterId) : Option String :=
  rows.reverse.findSome? fun row => if row.code = id.named then (registered environment row).map Prod.snd else none

/-- Every full name is the name of a model that its provider has, and every router leads to
a provider at the base URL of the router's own row. -/
structure Consistent (built : Built) : Prop where
  names : ∀ bare, ∀ full ∈ built.bareModelExpand.gatewayModelsForBareId bare,
    ∃ model provider config, ModelId.fromStr environment.chrono full.toList = .ok model ∧
      model.inferenceProvider = some provider ∧ built.get provider = some config ∧ model ∈ config.models
  routers : ∀ id provider, (id, provider) ∈ built.routerMap →
    ∃ config, built.get provider = some config ∧ ownBaseUrl environment rows id = some config.baseUrl

/-- Of the rows registered for one provider, the last one has the models of all of them, and
the base URL of each that is the last one of its code. -/
structure Aligned : Prop where
  names : ∀ registration ∈ registrations environment rows dbModels, ∀ last,
    lastOf (registrations environment rows dbModels) registration.provider = some last →
      ∀ model ∈ registration.models environment, model.1 ≠ "" → ∃ other ∈ last.models environment, other.2 = model.2
  urls : ∀ registration last,
    lastOfCode (registrations environment rows dbModels) registration.row.code = some registration →
      lastOf (registrations environment rows dbModels) registration.provider = some last →
        registration.baseUrl = last.baseUrl

variable {environment rows dbModels}

theorem buildFromDb_eq : buildFromDb environment rows dbModels =
    (registrations environment rows dbModels).foldl (Registration.apply environment) .empty := buildLoop_eq _ _ _

theorem get_build (provider : InferenceProvider) :
    (buildFromDb environment rows dbModels).get provider =
      (lastOf (registrations environment rows dbModels) provider).map (Registration.config environment) := by
  rw [buildFromDb_eq]
  exact get_foldl _ provider

theorem mem_routerMap_build {id : RouterId} {provider : InferenceProvider} :
    (id, provider) ∈ (buildFromDb environment rows dbModels).routerMap ↔
      ∃ registration ∈ registrations environment rows dbModels,
        id = ⟨registration.row.code⟩ ∧ provider = registration.provider := by
  rw [buildFromDb_eq, mem_routerMap_foldl (fun _ member => registrations_code member) (List.forall_mem_nil _)]
  simp [Built.empty]

theorem mem_index_build {bare full : String} :
    full ∈ (buildFromDb environment rows dbModels).bareModelExpand.gatewayModelsForBareId bare ↔
      ∃ registration ∈ registrations environment rows dbModels, ∃ model ∈ registration.models environment,
        model.1 ≠ "" ∧ lowered model.1 = lowered bare ∧ full = registration.row.code ++ "/" ++ model.1 := by
  rw [buildFromDb_eq, mem_index_foldl]
  simp [Built.empty, BareModelExpandIndex.gatewayModelsForBareId]

theorem mem_models {registration : Registration} {name : String} {model : ModelId} :
    (name, model) ∈ registration.models environment ↔ name ∈ registration.rawModels ∧
      ModelId.fromStrAndProvider environment.chrono registration.provider name.toList = .ok model := by
  simp only [Registration.models, readableModels, List.mem_filterMap]
  constructor
  · intro ⟨raw, member, read⟩
    split at read
    · next found =>
      cases read
      exact ⟨member, found⟩
    · cases read
  · intro ⟨member, read⟩
    exact ⟨name, member, by rw [read]⟩

theorem mem_config_models {registration : Registration} {model : ModelId} :
    model ∈ (registration.config environment).models ↔ ∃ other ∈ registration.models environment, other.2 = model := by
  simp only [Registration.config, List.mem_eraseDups, List.mem_map]

/-- The full name of a registered model is read as that model. -/
theorem fromStr_registered {registration : Registration} (member : registration ∈ registrations environment rows dbModels)
    {name : String} (named : name ≠ "") {model : ModelId} (read : (name, model) ∈ registration.models environment) :
    ModelId.fromStr environment.chrono (registration.row.code ++ "/" ++ name).toList = .ok model ∧
      model.inferenceProvider = some registration.provider := by
  have own := (mem_models.mp read).2
  have characters : name.toList ≠ [] := fun nothing => named (String.toList_eq_nil_iff.mp nothing)
  have spelled : (registration.row.code ++ "/" ++ name).toList = registration.row.code.toList ++ '/' :: name.toList := by
    simp
  rw [spelled, fromStr_fullName (registrations_code member) characters]
  exact ⟨own, ModelId.fromStrAndProvider_inferenceProvider own⟩

theorem lastOf_exists {list : List Registration} {registration : Registration} (member : registration ∈ list) :
    ∃ last, lastOf list registration.provider = some last := by
  apply Option.isSome_iff_exists.mp
  rw [lastOf, List.find?_isSome]
  exact ⟨registration, List.mem_reverse.mpr member, by simp⟩

theorem lastOf_some {list : List Registration} {provider : InferenceProvider} {registration : Registration}
    (found : lastOf list provider = some registration) : registration ∈ list ∧ registration.provider = provider :=
  ⟨List.mem_reverse.mp (List.mem_of_find?_eq_some found), by simpa using List.find?_some found⟩

theorem lastOfCode_exists {list : List Registration} {registration : Registration} (member : registration ∈ list) :
    ∃ last, lastOfCode list registration.row.code = some last := by
  apply Option.isSome_iff_exists.mp
  rw [lastOfCode, List.find?_isSome]
  exact ⟨registration, List.mem_reverse.mpr member, by simp⟩

theorem lastOfCode_some {list : List Registration} {code : String} {registration : Registration}
    (found : lastOfCode list code = some registration) : registration ∈ list ∧ registration.row.code = code :=
  ⟨List.mem_reverse.mp (List.mem_of_find?_eq_some found), by simpa using List.find?_some found⟩

theorem ownBaseUrl_eq (dbModels : List DbGatewayProviderModel) (id : RouterId) : ownBaseUrl environment rows id =
    (lastOfCode (registrations environment rows dbModels) id.named).map Registration.baseUrl := by
  have rowwise : ∀ list : List Registration, (list.find? fun registration => registration.row.code = id.named).map
      Registration.baseUrl = (list.map fun registration => (registration.row, registration.baseUrl)).findSome?
        fun entry => if entry.1.code = id.named then some entry.2 else none := by
    intro list
    induction list with
    | nil => rfl
    | cons first rest ih =>
      rw [List.find?_cons, List.map_cons, List.findSome?_cons, ← ih]
      by_cases same : first.row.code = id.named
      · simp [same]
      · simp [same]
  rw [lastOfCode, rowwise, List.map_reverse, registrations_rows, ← List.filterMap_reverse, ← List.head?_filterMap,
    List.filterMap_filterMap, List.head?_filterMap, ownBaseUrl]
  congr 1
  funext row
  cases registered environment row <;> simp

theorem Aligned.consistent (aligned : Aligned environment rows dbModels) :
    Consistent environment rows (buildFromDb environment rows dbModels) where
  names bare full member := by
    obtain ⟨registration, inside, ⟨name, model⟩, read, named, _, rfl⟩ := mem_index_build.mp member
    obtain ⟨parsed, owner⟩ := fromStr_registered inside named read
    obtain ⟨last, found⟩ := lastOf_exists inside
    refine ⟨model, registration.provider, last.config environment, parsed, owner, ?_, ?_⟩
    · rw [get_build, found]
      rfl
    · exact mem_config_models.mpr (aligned.names registration inside last found (name, model) read named)
  routers id provider member := by
    obtain ⟨registration, inside, rfl, rfl⟩ := mem_routerMap_build.mp member
    obtain ⟨own, ownFound⟩ := lastOfCode_exists inside
    obtain ⟨ownInside, sameCode⟩ := lastOfCode_some ownFound
    have sameProvider : own.provider = registration.provider := by
      have read := registrations_code ownInside
      rw [sameCode, registrations_code inside] at read
      exact (Option.some.inj read).symm
    obtain ⟨last, found⟩ := lastOf_exists inside
    refine ⟨last.config environment, ?_, ?_⟩
    · rw [get_build, found]
      rfl
    · rw [ownBaseUrl_eq dbModels, ownFound]
      have url := aligned.urls own last (by rw [sameCode, ownFound]) (by rw [sameProvider, found])
      exact congrArg some url

theorem Consistent.aligned (consistent : Consistent environment rows (buildFromDb environment rows dbModels)) :
    Aligned environment rows dbModels where
  names registration inside last found := by
    rintro ⟨name, model⟩ read named
    have listed := mem_index_build.mpr ⟨registration, inside, (name, model), read, named, rfl, rfl⟩
    obtain ⟨model', provider, config, parsed, owner, held, has⟩ := consistent.names name _ listed
    obtain ⟨own, ownProvider⟩ := fromStr_registered inside named read
    obtain rfl : model = model' := Except.ok.inj (own.symm.trans parsed)
    obtain rfl : registration.provider = provider := Option.some.inj (ownProvider.symm.trans owner)
    rw [get_build, found] at held
    obtain rfl : last.config environment = config := Option.some.inj held
    exact mem_config_models.mp has
  urls registration last own found := by
    have inside := (lastOfCode_some own).1
    obtain ⟨config, held, url⟩ :=
      consistent.routers ⟨registration.row.code⟩ registration.provider (mem_routerMap_build.mpr ⟨registration, inside, rfl, rfl⟩)
    rw [get_build, found] at held
    obtain rfl : last.config environment = config := Option.some.inj held
    rw [ownBaseUrl_eq dbModels, own] at url
    exact Option.some.inj url

/-- Where no two registered rows name one provider, each is the last of its own. -/
theorem aligned_of_distinct (distinct : ((registrations environment rows dbModels).map Registration.provider).Nodup) :
    Aligned environment rows dbModels := by
  have only {registration last : Registration} (inside : registration ∈ registrations environment rows dbModels)
      (found : lastOf (registrations environment rows dbModels) registration.provider = some last) :
      last = registration := by
    obtain ⟨member, same⟩ := lastOf_some found
    exact List.inj_on_of_nodup_map distinct member inside same
  constructor
  · intro registration inside last found model read _
    rw [only inside found]
    exact ⟨model, read, rfl⟩
  · intro registration last own found
    rw [only (lastOfCode_some own).1 found]

end Consistency

/-- The three structures fit together exactly when the last row registered for a provider
stands for all of them. -/
theorem snapshot_consistent_iff (environment : Environment) (rows : List DbGatewayProvider)
    (dbModels : List DbGatewayProviderModel) :
    Consistent environment rows (buildFromDb environment rows dbModels) ↔ Aligned environment rows dbModels :=
  ⟨Consistent.aligned, Aligned.consistent⟩

/-- Two codes of one provider, each with a URL of its own. -/
def aliasRows : List DbGatewayProvider :=
  [⟨1, "google", some "https://generativelanguage.googleapis.com/", false, true, 0⟩,
    ⟨2, "gemini", some "https://gemini.example/", false, true, 0⟩]

theorem aliasRows_inconsistent :
    ¬ Consistent plainEnvironment aliasRows (buildFromDb plainEnvironment aliasRows [⟨1, "gemini-pro", true, 0⟩]) := by
  intro consistent
  obtain ⟨config, held, url⟩ := consistent.routers ⟨"google"⟩ .googleGemini (by decide)
  have last : (buildFromDb plainEnvironment aliasRows [⟨1, "gemini-pro", true, 0⟩]).get .googleGemini =
      some ⟨[], "https://gemini.example/", none, .bearer⟩ := by decide
  have own : ownBaseUrl plainEnvironment aliasRows ⟨"google"⟩ = some "https://generativelanguage.googleapis.com/" := by
    decide
  rw [last] at held
  rw [own, ← Option.some.inj held] at url
  exact absurd url (by decide)

end AiGateway.ProviderReload
