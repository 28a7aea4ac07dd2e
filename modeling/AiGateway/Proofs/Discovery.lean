import AiGateway.Discover
import AiGateway.Lib.Runs

/-! What a router that was accepted has discovered. -/

namespace AiGateway.Proofs
open Lib.Runs

private theorem mem_insertService {services : List (Key × Dispatcher)} {item new : Key × Dispatcher}
    (member : item ∈ insertService services new.1 new.2) : item ∈ services ∨ item = new := by
  rcases List.mem_append.mp member with old | same
  · exact .inl (List.mem_of_mem_filter old)
  · exact .inr (List.mem_singleton.mp same)

private theorem mem_inserted {found services : List (Key × Dispatcher)} {item : Key × Dispatcher}
    (member : item ∈ found.foldl (fun services (key, service) => insertService services key service) services) :
    item ∈ services ∨ item ∈ found := by
  induction found generalizing services with
  | nil => exact .inl member
  | cons first rest ih =>
    rcases ih member with inserted | later
    · rcases mem_insertService inserted with old | rfl
      · exact .inl old
      · exact .inr List.mem_cons_self
    · exact .inr (List.mem_cons_of_mem _ later)

section Discovery
variable {decimals : DecimalLibrary} {clients : Clients} {routerId : RouterId} {routerConfig : RouterConfig}
  {strategy : Strategy} {services : List (Key × Dispatcher)}

private theorem discover_ok (accepted : discover decimals clients routerId routerConfig strategy = .ok services) :
    ∃ found, (routerConfig.loadBalance.entries.mapM fun entry =>
        discoverEndpoint decimals clients routerId routerConfig strategy entry.1 entry.2) = .ok found ∧
      services = found.flatten.foldl (fun services (key, service) => insertService services key service) [] := by
  unfold discover at accepted
  rcases collected : routerConfig.loadBalance.entries.mapM fun entry =>
    discoverEndpoint decimals clients routerId routerConfig strategy entry.1 entry.2 with error | found
  · rw [collected] at accepted
    cases accepted
  · rw [collected] at accepted
    cases accepted
    exact ⟨found, collected, rfl⟩

theorem discoverEndpoint_ok (accepted : discover decimals clients routerId routerConfig strategy = .ok services)
    {entry : EndpointType × BalanceConfigInner} (member : entry ∈ routerConfig.loadBalance.entries) :
    ∃ found, discoverEndpoint decimals clients routerId routerConfig strategy entry.1 entry.2 = .ok found := by
  obtain ⟨found, collected, -⟩ := discover_ok accepted
  obtain ⟨here, -, done⟩ := result_of_mapM_ok collected member
  exact ⟨here, done⟩

/-- Every service comes from the discovery of an endpoint kind. -/
theorem discovered (accepted : discover decimals clients routerId routerConfig strategy = .ok services)
    {item : Key × Dispatcher} (member : item ∈ services) :
    ∃ entry ∈ routerConfig.loadBalance.entries, ∃ found,
      discoverEndpoint decimals clients routerId routerConfig strategy entry.1 entry.2 = .ok found ∧ item ∈ found := by
  obtain ⟨found, collected, rfl⟩ := discover_ok accepted
  rcases mem_inserted member with none | member
  · cases none
  · obtain ⟨here, inside, member⟩ := List.mem_flatten.mp member
    obtain ⟨entry, listed, done⟩ := item_of_mapM_ok collected inside
    exact ⟨entry, listed, here, done, member⟩

end Discovery

end AiGateway.Proofs
