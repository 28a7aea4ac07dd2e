import AiGateway.Proofs.ClientIpAgreement

/-! What the limiter of this process promises a client: at most the limit in any second, no
less than the limit while there is room, and nothing that depends on other clients. -/

namespace AiGateway.ClientIpLimit

open Lib.Windows

/-- The answers that one client gets. -/
def answersTo (ip : IpAddr) (requests : List Request) (decisions : List Bool) : List Bool :=
  (requests.zip decisions).filterMap fun (request, allowed) => if request.ip = ip then some allowed else none

/-- The moments at which one client is admitted. -/
def admittedTimes (ip : IpAddr) (requests : List Request) (decisions : List Bool) : List Nat :=
  (requests.zip decisions).filterMap fun (request, allowed) =>
    if request.ip = ip ∧ allowed = true then some request.time else none

/-- The check, as far as it concerns the client that is checked. -/
def clientCheck (limit : UInt32) (deque : List Nat) (now : Nat) : List Nat × Bool :=
  let deque := MemoryLimiter.active now deque
  if limit.toNat ≤ min deque.length (2 ^ 32 - 1) then (deque, false) else (deque ++ [now], true)

def clientAnswers (limit : UInt32) : List Nat → List Nat → List Bool
  | _, [] => []
  | deque, now :: later => (clientCheck limit deque now).2 :: clientAnswers limit (clientCheck limit deque now).1 later

section Separate
variable {firstKey : MemoryLimiter.Map → Option IpAddr} {limit : UInt32} {clients : List IpAddr} {map : MemoryLimiter.Map}

/-- The clients in the map are known ones, each listed once. -/
structure Listed (clients : List IpAddr) (map : MemoryLimiter.Map) : Prop where
  distinct : (map.map fun entry => entry.1).Nodup
  known : ∀ ip ∈ map.map (fun entry => entry.1), ip ∈ clients

/-- A client that comes new finds room in the map, because it is one of the known ones. -/
theorem Listed.evict_eq (listed : Listed clients map) (few : clients.length ≤ maxTrackedIps) {ip : IpAddr}
    (client : ip ∈ clients) : MemoryLimiter.evict firstKey map ip = map := by
  rw [MemoryLimiter.evict]
  rw [if_neg]
  intro full
  simp only [Bool.and_eq_true, decide_eq_true_eq, Bool.not_eq_true', List.any_eq_false] at full
  obtain ⟨full, absent⟩ := full
  have fresh : ip ∉ map.map fun entry => entry.1 := by
    intro member
    obtain ⟨entry, inside, same⟩ := List.mem_map.mp member
    exact absent entry inside (by simpa using same)
  have distinct : (ip :: map.map fun entry => entry.1).Nodup := List.nodup_cons.mpr ⟨fresh, listed.distinct⟩
  have shorter := (distinct.subperm (List.cons_subset.mpr ⟨client, listed.known⟩)).length_le
  rw [List.length_cons, List.length_map] at shorter
  omega

theorem Listed.insert (listed : Listed clients map) {ip : IpAddr} (client : ip ∈ clients) (deque : List Nat) :
    Listed clients (MemoryLimiter.insert map ip deque) := by
  obtain ⟨distinct, known⟩ := listed_insert listed.distinct listed.known client deque
  exact ⟨distinct, known⟩

theorem check_client (positive : limit ≠ 0) (listed : Listed clients map) (few : clients.length ≤ maxTrackedIps)
    {request : Request} (client : request.ip ∈ clients) :
    MemoryLimiter.check firstKey limit map request =
      (MemoryLimiter.insert map request.ip
          (clientCheck limit (MemoryLimiter.deque map request.ip) request.time).1,
        (clientCheck limit (MemoryLimiter.deque map request.ip) request.time).2) := by
  rw [MemoryLimiter.check, clientCheck]
  rw [if_neg positive, listed.evict_eq few client]
  dsimp only
  split <;> rfl

/-- A client is answered as if it were alone: what its deque becomes depends on its own
requests only. -/
theorem answersTo_decisions (positive : limit ≠ 0) (few : clients.length ≤ maxTrackedIps) (listed : Listed clients map)
    (ip : IpAddr) (requests : List Request) (known : ∀ request ∈ requests, request.ip ∈ clients) :
    answersTo ip requests (decisions (MemoryLimiter.check firstKey limit) map requests) =
      clientAnswers limit (MemoryLimiter.deque map ip)
        ((requests.filter fun request => request.ip = ip).map Request.time) := by
  induction requests generalizing map with
  | nil => rfl
  | cons request rest ih =>
    have client := known request List.mem_cons_self
    have others := fun other member => known other (List.mem_cons_of_mem request member)
    have later := ih (listed.insert client (clientCheck limit (MemoryLimiter.deque map request.ip) request.time).1) others
    rw [answersTo] at later ⊢
    rw [decisions, check_client positive listed few client]
    dsimp only
    by_cases same : request.ip = ip
    · subst same
      rw [deque_insert_self] at later
      simp [clientAnswers, later]
    · rw [deque_insert_other (Ne.symm same)] at later
      simp [same, later]

end Separate

/-- The moments of one client that are admitted. -/
def clientAdmitted (times : List Nat) (answers : List Bool) : List Nat :=
  (times.zip answers).filterMap fun (time, allowed) => if allowed = true then some time else none

/-- Whether a moment lies in the second that begins at `start`. -/
def within (start time : Nat) : Bool := start ≤ time && time ≤ start + MemoryLimiter.window

section Client
variable {limit : UInt32} {last : Nat} {deque log : List Nat}

/-- The deque of a client, beside the log of all that was admitted. -/
structure Logged (limit : UInt32) (last : Nat) (deque log : List Nat) : Prop where
  sorted : log.Pairwise (· ≤ ·)
  past : ∀ time ∈ log, time ≤ last
  active : ∀ now, last ≤ now → MemoryLimiter.active now deque = memoryWindow.seen now log
  spread : ∀ start, (log.filter (within start)).length ≤ limit.toNat

theorem logged_start (limit : UInt32) : Logged limit 0 [] [] where
  sorted := .nil
  past _ member := nomatch member
  active _ _ := rfl
  spread _ := Nat.zero_le _

theorem clientCheck_eq (logged : Logged limit last deque log) {now : Nat} (order : last ≤ now) :
    clientCheck limit deque now =
      if (memoryWindow.seen now log).length < limit.toNat then (memoryWindow.seen now log ++ [now], true)
      else (memoryWindow.seen now log, false) := by
  have bounded := limit.toNat_lt
  unfold clientCheck
  rw [logged.active now order]
  dsimp only
  by_cases room : (memoryWindow.seen now log).length < limit.toNat
  · rw [if_neg (by omega), if_pos room]
  · rw [if_pos (by omega), if_neg room]

theorem Logged.rejected (logged : Logged limit last deque log) {now : Nat} (order : last ≤ now) :
    Logged limit now (memoryWindow.seen now log) log where
  sorted := logged.sorted
  past time member := Nat.le_trans (logged.past time member) order
  active later after := by
    have sorted := logged.sorted.sublist (memoryWindow.seen_sublist now log)
    rw [active_eq later sorted, memoryWindow.seen_seen after]
  spread := logged.spread

/-- Every moment of a second that ends no earlier than `now` still counts at `now`. -/
theorem within_seen {now start : Nat} (present : within start now = true) {time : Nat}
    (inside : within start time = true) : memoryWindow.inside now time = true := by
  simp only [within, memoryWindow, Bool.and_eq_true, decide_eq_true_eq, Bool.not_eq_true', decide_eq_false_iff_not]
    at present inside ⊢
  omega

theorem Logged.admitted (logged : Logged limit last deque log) {now : Nat} (order : last ≤ now)
    (room : (memoryWindow.seen now log).length < limit.toNat) :
    Logged limit now (memoryWindow.seen now log ++ [now]) (log ++ [now]) where
  sorted := by
    apply List.pairwise_append.mpr
    refine ⟨logged.sorted, List.pairwise_singleton _ _, ?_⟩
    intro time member other new
    rw [List.mem_singleton.mp new]
    exact Nat.le_trans (logged.past time member) order
  past time member := by
    obtain old | new := List.mem_append.mp member
    · exact Nat.le_trans (logged.past time old) order
    · exact Nat.le_of_eq (List.mem_singleton.mp new)
  active later after := by
    have recorded : (memoryWindow.seen now log ++ [now]).Pairwise (· ≤ ·) := by
      apply List.pairwise_append.mpr
      refine ⟨logged.sorted.sublist (memoryWindow.seen_sublist now log), List.pairwise_singleton _ _, ?_⟩
      intro time member other new
      rw [List.mem_singleton.mp new]
      exact Nat.le_trans (logged.past time ((memoryWindow.seen_sublist now log).subset member)) order
    rw [active_eq later recorded, memoryWindow.seen_append, memoryWindow.seen_append, memoryWindow.seen_seen after]
  spread start := by
    rw [List.filter_append, List.length_append]
    by_cases present : within start now = true
    · -- The window holds the new moment, so all it holds of the log counted just before.
      have counted : (log.filter (within start)).length ≤ (memoryWindow.seen now log).length := by
        apply List.Sublist.length_le
        apply List.monotone_filter_right
        intro time inside
        exact within_seen present inside
      rw [List.filter_cons_of_pos present, List.filter_nil, List.length_singleton]
      omega
    · rw [List.filter_cons_of_neg present, List.filter_nil, List.length_nil, Nat.add_zero]
      exact logged.spread start

/-- In every second, what was admitted before and what is admitted now stay within the limit. -/
theorem clientAnswers_spread (logged : Logged limit last deque log) (times : List Nat) (ordered : times.Pairwise (· ≤ ·))
    (later : ∀ time ∈ times, last ≤ time) (start : Nat) :
    ((log ++ clientAdmitted times (clientAnswers limit deque times)).filter (within start)).length ≤ limit.toNat := by
  induction times generalizing last deque log with
  | nil => simpa [clientAdmitted, clientAnswers] using logged.spread start
  | cons now rest ih =>
    obtain ⟨onward, ordered⟩ := List.pairwise_cons.mp ordered
    have order := later now List.mem_cons_self
    rw [clientAnswers, clientCheck_eq logged order]
    by_cases room : (memoryWindow.seen now log).length < limit.toNat
    · rw [if_pos room]
      have bound := ih (logged.admitted order room) ordered onward
      simpa [clientAdmitted] using bound
    · rw [if_neg room]
      have bound := ih (logged.rejected order) ordered onward
      simpa [clientAdmitted] using bound

/-- A moment is admitted exactly when fewer than the limit count at it. -/
theorem clientAnswers_room (logged : Logged limit last deque log) (before : List Nat) (now : Nat) (after : List Nat)
    (ordered : (before ++ now :: after).Pairwise (· ≤ ·)) (later : ∀ time ∈ before ++ now :: after, last ≤ time) :
    ∃ rest, clientAnswers limit deque (before ++ now :: after) = clientAnswers limit deque before ++
      decide ((memoryWindow.seen now (log ++ clientAdmitted before (clientAnswers limit deque before))).length <
        limit.toNat) :: rest := by
  induction before generalizing last deque log with
  | nil =>
    have order := later now List.mem_cons_self
    refine ⟨clientAnswers limit (clientCheck limit deque now).1 after, ?_⟩
    have answer : (clientCheck limit deque now).2 = decide ((memoryWindow.seen now log).length < limit.toNat) := by
      rw [clientCheck_eq logged order]
      split <;> simp [*]
    simp [clientAnswers, clientAdmitted, answer]
  | cons first before ih =>
    obtain ⟨onward, ordered⟩ := List.pairwise_cons.mp ordered
    have order := later first List.mem_cons_self
    simp only [List.cons_append, clientAnswers, clientCheck_eq logged order]
    by_cases room : (memoryWindow.seen first log).length < limit.toNat
    · obtain ⟨rest, same⟩ := ih (logged.admitted order room) ordered onward
      refine ⟨rest, ?_⟩
      simpa [room, clientAdmitted] using same
    · obtain ⟨rest, same⟩ := ih (logged.rejected order) ordered onward
      refine ⟨rest, ?_⟩
      simpa [room, clientAdmitted] using same

end Client

section Sequence
variable {firstKey : MemoryLimiter.Map → Option IpAddr} {limit : UInt32}

def ownTimes (ip : IpAddr) (requests : List Request) : List Nat :=
  (requests.filter fun request => request.ip = ip).map Request.time

theorem admittedTimes_eq (ip : IpAddr) (requests : List Request) (decisions : List Bool) :
    admittedTimes ip requests decisions = clientAdmitted (ownTimes ip requests) (answersTo ip requests decisions) := by
  induction requests generalizing decisions with
  | nil => rfl
  | cons request rest ih =>
    cases decisions with
    | nil => simp [admittedTimes, answersTo, clientAdmitted]
    | cons allowed others =>
      have later := ih others
      rw [admittedTimes, answersTo, ownTimes, clientAdmitted] at later ⊢
      by_cases same : request.ip = ip
      · cases allowed <;> simp [same, later]
      · simp [same, later]

theorem length_decisions {σ : Type} (check : σ → Request → σ × Bool) (state : σ) (requests : List Request) :
    (decisions check state requests).length = requests.length := by
  induction requests generalizing state with
  | nil => rfl
  | cons request rest ih => simp [decisions, ih]

/-- What was decided earlier does not depend on what comes later. -/
theorem decisions_append {σ : Type} (check : σ → Request → σ × Bool) (state : σ) (before : List Request)
    (request : Request) (after : List Request) :
    ∃ allowed rest, decisions check state (before ++ request :: after) =
      decisions check state before ++ allowed :: rest := by
  induction before generalizing state with
  | nil => exact ⟨_, _, rfl⟩
  | cons first before ih =>
    obtain ⟨allowed, rest, same⟩ := ih (check state first).1
    exact ⟨allowed, rest, by simp [decisions, same]⟩

theorem length_memoryDecisions (requests : List Request) :
    (memoryDecisions firstKey limit requests).length = requests.length := length_decisions _ _ _

theorem memoryDecisions_append (before : List Request) (request : Request) (after : List Request) :
    ∃ allowed rest, memoryDecisions firstKey limit (before ++ request :: after) =
      memoryDecisions firstKey limit before ++ allowed :: rest := decisions_append _ _ _ _ _

/-- A client that is alone gets all the answers. -/
theorem answersTo_alone {ip : IpAddr} {requests : List Request} (alone : ∀ request ∈ requests, request.ip = ip)
    {decisions : List Bool} (answered : decisions.length = requests.length) :
    answersTo ip requests decisions = decisions := by
  induction requests generalizing decisions with
  | nil =>
    rw [List.eq_nil_of_length_eq_zero answered]
    rfl
  | cons request rest ih =>
    cases decisions with
    | nil => cases answered
    | cons allowed others =>
      have later := ih (fun other member => alone other (List.mem_cons_of_mem request member)) (Nat.succ.inj answered)
      rw [answersTo] at later ⊢
      simp [alone request List.mem_cons_self, later]

variable (firstKey)

theorem answersTo_memory (positive : limit ≠ 0) (ip : IpAddr) {requests : List Request}
    (few : (requests.map Request.ip).dedup.length ≤ maxTrackedIps) :
    answersTo ip requests (memoryDecisions firstKey limit requests) = clientAnswers limit [] (ownTimes ip requests) := by
  have start : Listed (requests.map Request.ip).dedup [] := ⟨.nil, fun _ member => nomatch member⟩
  apply answersTo_decisions positive few start
  exact fun request member => List.mem_dedup.mpr (List.mem_map_of_mem member)

variable {firstKey}

theorem ownTimes_ordered (ip : IpAddr) {requests : List Request}
    (ordered : (requests.map Request.time).Pairwise (· ≤ ·)) : (ownTimes ip requests).Pairwise (· ≤ ·) :=
  ordered.sublist (List.filter_sublist.map Request.time)

theorem dedup_length_le {first second : List IpAddr} (subset : first ⊆ second) :
    first.dedup.length ≤ second.dedup.length := by
  apply ((List.nodup_dedup first).subperm _).length_le
  intro ip member
  exact List.mem_dedup.mpr (subset (List.mem_dedup.mp member))

theorem seen_length (now : Nat) (log : List Nat) :
    (memoryWindow.seen now log).length = log.countP fun time => now ≤ time + MemoryLimiter.window := by
  rw [Window.seen, ← List.countP_eq_length_filter]
  apply List.countP_congr
  intro time _
  simp only [memoryWindow, Bool.not_eq_true', decide_eq_false_iff_not, decide_eq_true_eq]
  omega

/-- A request is admitted while fewer than the limit of its client's were in the second before it. -/
theorem memoryDecisions_room (positive : limit ≠ 0) {before after : List Request} {request : Request}
    (ordered : ((before ++ request :: after).map Request.time).Pairwise (· ≤ ·))
    (few : ((before ++ request :: after).map Request.ip).dedup.length ≤ maxTrackedIps)
    (room : (admittedTimes request.ip before (memoryDecisions firstKey limit before)).countP
      (fun time => request.time ≤ time + MemoryLimiter.window) < limit.toNat) :
    (memoryDecisions firstKey limit (before ++ request :: after))[before.length]? = some true := by
  have fewBefore : (before.map Request.ip).dedup.length ≤ maxTrackedIps := by
    apply Nat.le_trans (dedup_length_le _) few
    rw [List.map_append]
    exact List.subset_append_left _ _
  have own : ownTimes request.ip (before ++ request :: after) =
      ownTimes request.ip before ++ request.time :: ownTimes request.ip after := by
    simp [ownTimes]
  have times := ownTimes_ordered request.ip ordered
  have early := answersTo_memory firstKey positive request.ip fewBefore
  have whole := answersTo_memory firstKey positive request.ip few
  rw [own] at times whole
  obtain ⟨others, answered⟩ := clientAnswers_room (logged_start limit) _ _ _ times fun time _ => Nat.zero_le time
  obtain ⟨allowed, rest, split⟩ := memoryDecisions_append before request after
  have cut : answersTo request.ip (before ++ request :: after) (memoryDecisions firstKey limit before ++ allowed :: rest) =
      answersTo request.ip before (memoryDecisions firstKey limit before) ++ allowed :: answersTo request.ip after rest := by
    unfold answersTo
    rw [List.zip_append (length_memoryDecisions before).symm]
    simp
  rw [split] at whole ⊢
  rw [cut, answered, early] at whole
  have same := (List.cons.inj (List.append_cancel_left whole)).1
  rw [admittedTimes_eq, early, ← seen_length] at room
  have admitted : allowed = true := by
    rw [same, List.nil_append]
    exact decide_eq_true room
  rw [List.getElem?_append_right (Nat.le_of_eq (length_memoryDecisions before)), length_memoryDecisions, Nat.sub_self,
    admitted]
  rfl

end Sequence

/-- In every sequence of requests of not too many clients, each client gets at most the limit
in any second, gets every request that has fewer than the limit in the second before it, and
is answered as if the others were absent. -/
theorem client_window_bound (firstKey : MemoryLimiter.Map → Option IpAddr) (limit : UInt32) (requests : List Request)
    (positive : 1 ≤ limit) (ordered : (requests.map Request.time).Pairwise (· ≤ ·))
    (few : (requests.map Request.ip).dedup.length ≤ maxTrackedIps) :
    (∀ ip start, ((admittedTimes ip requests (memoryDecisions firstKey limit requests)).filter (within start)).length ≤
      limit.toNat) ∧
    (∀ before request after, requests = before ++ request :: after →
      (admittedTimes request.ip before (memoryDecisions firstKey limit before)).countP
        (fun time => request.time ≤ time + MemoryLimiter.window) < limit.toNat →
        (memoryDecisions firstKey limit requests)[before.length]? = some true) ∧
    ∀ ip, answersTo ip requests (memoryDecisions firstKey limit requests) =
      memoryDecisions firstKey limit (requests.filter fun request => request.ip = ip) := by
  have positive : limit ≠ 0 := by
    rintro rfl
    exact absurd positive (by decide)
  refine ⟨?_, ?_, ?_⟩
  · intro ip start
    rw [admittedTimes_eq, answersTo_memory firstKey positive ip few]
    exact clientAnswers_spread (logged_start limit) _ (ownTimes_ordered ip ordered) (fun time _ => Nat.zero_le time) start
  · rintro before request after rfl room
    exact memoryDecisions_room positive ordered few room
  · intro ip
    have fewOwn : ((requests.filter fun request => request.ip = ip).map Request.ip).dedup.length ≤ maxTrackedIps := by
      apply Nat.le_trans (dedup_length_le _) few
      exact (List.filter_sublist.map Request.ip).subset
    have own : ∀ request ∈ requests.filter (fun request => request.ip = ip), request.ip = ip := by
      intro request member
      simpa using (List.mem_filter.mp member).2
    have alone := answersTo_memory firstKey positive ip fewOwn
    have all : ownTimes ip (requests.filter fun request => request.ip = ip) = ownTimes ip requests := by
      simp [ownTimes]
    rw [all, ← answersTo_memory firstKey positive ip few, answersTo_alone own (length_memoryDecisions _)] at alone
    exact alone.symm

theorem spaced_bounded :
    (1 : UInt32) ≤ 1 ∧
      (∀ ip start, ((admittedTimes ip spaced (memoryDecisions (fun _ => none) 1 spaced)).filter (within start)).length ≤ 1) :=
  ⟨by decide, (client_window_bound (fun _ => none) 1 spaced (by decide) (by decide) (by decide)).1⟩

end AiGateway.ClientIpLimit
