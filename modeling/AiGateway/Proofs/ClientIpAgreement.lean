import AiGateway.ClientIpLimit
import Mathlib.Data.List.Perm.Subperm
import Mathlib.Data.List.Dedup
import AiGateway.Lib.Entries

/-! The two client limiters admit the same requests as long as no full window has an
oldest request at the boundary: the process keeps a request for one second inclusive, the
script for less than a thousand of its milliseconds. -/

namespace AiGateway.ClientIpLimit

open Lib.Windows Lib.Runs

theorem scriptNow_eq (time : Nat) : SlidingScript.now time = time / 1000000 := by
  simp only [SlidingScript.now]
  omega

def memoryWindow : Window where
  inside now time := !decide (MemoryLimiter.window < now - time)
  leaves := by
    intro now later time order counts
    simp only [Bool.not_eq_true', decide_eq_false_iff_not] at counts ⊢
    omega
  inOrder := by
    intro now earlier time order counts
    simp only [Bool.not_eq_true', decide_eq_false_iff_not] at counts ⊢
    omega

def redisWindow : Window where
  inside now time := decide (SlidingScript.now now < SlidingScript.now time + SlidingScript.window)
  leaves := by
    intro now later time order counts
    simp only [scriptNow_eq, decide_eq_true_eq] at counts ⊢
    omega
  inOrder := by
    intro now earlier time order counts
    simp only [scriptNow_eq, decide_eq_true_eq] at counts ⊢
    omega

/-- Whatever the script still counts, the process counts too. -/
theorem redis_inside_memory {now time : Nat} (counts : redisWindow.inside now time = true) :
    memoryWindow.inside now time = true := by
  simp only [redisWindow, scriptNow_eq, SlidingScript.window, decide_eq_true_eq] at counts
  have young : ¬ MemoryLimiter.window < now - time := by
    rw [MemoryLimiter.window]
    omega
  simp [memoryWindow, young]

section Memory

theorem active_eq (now : Nat) {deque : List Nat} (sorted : deque.Pairwise (· ≤ ·)) :
    MemoryLimiter.active now deque = memoryWindow.seen now deque := by
  rw [← memoryWindow.dropWhile_eq_seen now sorted]
  simp only [MemoryLimiter.active, memoryWindow, Bool.not_not]

theorem deque_insert_self (map : MemoryLimiter.Map) (ip : IpAddr) (deque : List Nat) :
    MemoryLimiter.deque (MemoryLimiter.insert map ip deque) ip = deque := by
  simp [MemoryLimiter.deque, MemoryLimiter.insert, List.lookup_append, Lib.Entries.lookup_filter_self]

theorem deque_insert_other {map : MemoryLimiter.Map} {ip other : IpAddr} (different : other ≠ ip) (deque : List Nat) :
    MemoryLimiter.deque (MemoryLimiter.insert map ip deque) other = MemoryLimiter.deque map other := by
  simp [MemoryLimiter.deque, MemoryLimiter.insert, List.lookup_append, Lib.Entries.lookup_filter_ne different,
    List.lookup_cons, beq_false_of_ne different]

end Memory

section Redis

private def counts (now score : Nat) : Bool := decide (now < score + SlidingScript.window)

private theorem remaining_eq (set : SlidingScript.SortedSet) (now : Nat) :
    SlidingScript.remaining set now =
      (if set.expireAt < now then [] else set.members).filter fun entry => counts now entry.2 := by
  apply List.filter_congr
  intro entry member
  simp only [counts]
  apply decide_eq_decide.mpr
  omega

private theorem counts_earlier {now later score : Nat} (order : now ≤ later) (alive : counts later score = true) :
    counts now score = true := by
  simp only [counts, decide_eq_true_eq] at alive ⊢
  omega

/-- Pruning early does not change what is read later. -/
theorem remaining_remaining (set : SlidingScript.SortedSet) {now later : Nat} (order : now ≤ later) :
    SlidingScript.remaining ⟨SlidingScript.remaining set now, set.expireAt⟩ later = SlidingScript.remaining set later := by
  simp only [remaining_eq]
  by_cases expired : set.expireAt < later
  · simp only [expired, if_true, List.filter_nil]
  · rw [if_neg expired, if_neg expired, if_neg (by omega), List.filter_filter]
    apply List.filter_congr
    intro entry member
    cases alive : counts later entry.2 with
    | false => rfl
    | true => rw [counts_earlier order alive]; rfl

/-- The scores of the log, as the script counts them. -/
theorem seen_scores (now : Nat) (log : List Nat) :
    (redisWindow.seen now log).map SlidingScript.now = (log.map SlidingScript.now).filter (counts (SlidingScript.now now)) := by
  rw [List.filter_map]
  rfl

theorem zadd_fresh {members : List (String × Nat)} {member : String} (fresh : ∀ entry ∈ members, entry.1 ≠ member)
    (score : Nat) : SlidingScript.zadd members member score = members ++ [(member, score)] := by
  rw [SlidingScript.zadd]
  rw [List.filter_eq_self.mpr]
  intro entry inside
  simpa using fresh entry inside

private theorem scores_eq (entries : List (String × Nat)) (now : Nat) :
    (entries.filter fun entry => counts now entry.2).map (fun entry => entry.2) =
      (entries.map fun entry => entry.2).filter (counts now) := by
  rw [List.filter_map]
  rfl

/-- After a request is recorded the set reads as the log with that request. -/
theorem remaining_added {set : SlidingScript.SortedSet} {log : List Nat} {now later : Nat} (member : String)
    (order : now ≤ later) (past : ∀ time ∈ log, time ≤ now)
    (held : (SlidingScript.remaining set (SlidingScript.now now)).map (fun entry => entry.2) =
      (redisWindow.seen now log).map SlidingScript.now) :
    (SlidingScript.remaining
        ⟨SlidingScript.remaining set (SlidingScript.now now) ++ [(member, SlidingScript.now now)],
          SlidingScript.now now + SlidingScript.window + 1000⟩ (SlidingScript.now later)).map (fun entry => entry.2) =
      (redisWindow.seen later (log ++ [now])).map SlidingScript.now := by
  rw [remaining_eq]
  by_cases expired : SlidingScript.now now + SlidingScript.window + 1000 < SlidingScript.now later
  · rw [if_pos expired, seen_scores, List.filter_nil, List.map_nil]
    apply Eq.symm
    apply List.filter_eq_nil_iff.mpr
    intro score inside
    obtain ⟨time, recorded, rfl⟩ := List.mem_map.mp inside
    have before : time ≤ now := by
      obtain old | new := List.mem_append.mp recorded
      · exact past time old
      · exact Nat.le_of_eq (List.mem_singleton.mp new)
    simp only [counts, scriptNow_eq, SlidingScript.window, decide_eq_true_eq] at expired ⊢
    omega
  · rw [if_neg expired, scores_eq, List.map_append, held, List.filter_append, ← seen_scores, redisWindow.seen_seen order,
      redisWindow.seen_append, List.map_append, seen_scores later [now]]
    rfl

end Redis

/-- The answers are about to part: the window of the process is full, and its oldest
request is no longer in the script's. -/
def AtBoundary (limit : UInt32) (map : MemoryLimiter.Map) (request : Request) : Prop :=
  match MemoryLimiter.active request.time (MemoryLimiter.deque map request.ip) with
  | [] => False
  | oldest :: rest =>
    limit.toNat ≤ (oldest :: rest).length ∧
      SlidingScript.now oldest + SlidingScript.window ≤ SlidingScript.now request.time

instance (limit : UInt32) (map : MemoryLimiter.Map) (request : Request) : Decidable (AtBoundary limit map request) := by
  rw [AtBoundary]
  split <;> infer_instance

/-- Both stores hold what their windows leave of one log of admitted requests. -/
structure Tracks (limit : UInt32) (clients : List IpAddr) (used : List String) (last : Nat) (map : MemoryLimiter.Map)
    (keys : SlidingScript.Keys) (log : IpAddr → List Nat) : Prop where
  sorted : ∀ ip, (log ip).Pairwise (· ≤ ·)
  past : ∀ ip, ∀ time ∈ log ip, time ≤ last
  few : ∀ ip now, last ≤ now → (memoryWindow.seen now (log ip)).length ≤ limit.toNat
  memory : ∀ ip now, last ≤ now →
    MemoryLimiter.active now (MemoryLimiter.deque map ip) = memoryWindow.seen now (log ip)
  redis : ∀ ip now, last ≤ now →
    (SlidingScript.remaining (keys ip) (SlidingScript.now now)).map (fun entry => entry.2) =
      (redisWindow.seen now (log ip)).map SlidingScript.now
  fresh : ∀ ip, ∀ entry ∈ (keys ip).members, entry.1 ∈ used
  distinct : (map.map fun entry => entry.1).Nodup
  listed : ∀ ip ∈ map.map (fun entry => entry.1), ip ∈ clients

theorem tracks_start (limit : UInt32) (clients : List IpAddr) :
    Tracks limit clients [] 0 [] (fun _ => .empty) fun _ => [] where
  sorted _ := .nil
  past _ _ member := nomatch member
  few _ _ _ := Nat.zero_le _
  memory _ _ _ := rfl
  redis _ now _ := by
    rw [remaining_eq]
    split <;> rfl
  fresh _ _ member := nomatch member
  distinct := .nil
  listed _ member := nomatch member

section Step
variable {limit : UInt32} {clients : List IpAddr} {used : List String} {last : Nat} {map : MemoryLimiter.Map}
  {keys : SlidingScript.Keys} {log : IpAddr → List Nat} {firstKey : MemoryLimiter.Map → Option IpAddr}

private theorem keys_insert (map : MemoryLimiter.Map) (ip : IpAddr) (deque : List Nat) :
    (MemoryLimiter.insert map ip deque).map (fun entry => entry.1) =
      (map.map fun entry => entry.1).filter (fun key => key != ip) ++ [ip] := by
  rw [MemoryLimiter.insert, List.map_append, List.filter_map]
  rfl

theorem evict_eq (tracks : Tracks limit clients used last map keys log) (few : clients.length < maxTrackedIps) (ip : IpAddr) :
    MemoryLimiter.evict firstKey map ip = map := by
  have shorter := (tracks.distinct.subperm tracks.listed).length_le
  rw [List.length_map] at shorter
  rw [MemoryLimiter.evict]
  rw [if_neg]
  simp only [Bool.and_eq_true, decide_eq_true_eq, not_and]
  intro full
  omega

theorem listed_insert (distinct : (map.map fun entry => entry.1).Nodup)
    (listed : ∀ ip ∈ map.map (fun entry => entry.1), ip ∈ clients) {ip : IpAddr} (known : ip ∈ clients)
    (deque : List Nat) :
    ((MemoryLimiter.insert map ip deque).map fun entry => entry.1).Nodup ∧
      ∀ other ∈ (MemoryLimiter.insert map ip deque).map (fun entry => entry.1), other ∈ clients := by
  rw [keys_insert]
  refine ⟨?_, ?_⟩
  · apply List.nodup_append.mpr
    refine ⟨distinct.filter _, List.pairwise_singleton _ ip, ?_⟩
    intro other kept new added equal
    cases List.mem_singleton.mp added
    simp [equal] at kept
  · intro other member
    obtain kept | new := List.mem_append.mp member
    · exact listed other (List.mem_filter.mp kept).1
    · exact List.mem_singleton.mp new ▸ known

private theorem remaining_subset {set : SlidingScript.SortedSet} {now : Nat} {entry : String × Nat}
    (member : entry ∈ SlidingScript.remaining set now) : entry ∈ set.members := by
  rw [remaining_eq] at member
  have kept := (List.mem_filter.mp member).1
  split at kept
  · cases kept
  · exact kept

/-- Both limiters reject: the stores are pruned and nothing is recorded. -/
theorem Tracks.rejected (tracks : Tracks limit clients used last map keys log) {request : Request}
    (order : last ≤ request.time) (known : request.ip ∈ clients) :
    Tracks limit clients (request.member :: used) request.time
      (MemoryLimiter.insert map request.ip
        (MemoryLimiter.active request.time (MemoryLimiter.deque map request.ip)))
      (Function.update keys request.ip
        ⟨SlidingScript.remaining (keys request.ip) (SlidingScript.now request.time), (keys request.ip).expireAt⟩)
      log where
  sorted := tracks.sorted
  past ip time member := Nat.le_trans (tracks.past ip time member) order
  few ip now later := tracks.few ip now (Nat.le_trans order later)
  memory ip now later := by
    by_cases same : ip = request.ip
    · subst same
      have sorted := (tracks.sorted request.ip).sublist (memoryWindow.seen_sublist request.time (log request.ip))
      rw [deque_insert_self, tracks.memory _ _ order, active_eq now sorted, memoryWindow.seen_seen later]
    · rw [deque_insert_other same]
      exact tracks.memory ip now (Nat.le_trans order later)
  redis ip now later := by
    by_cases same : ip = request.ip
    · subst same
      have clock : SlidingScript.now request.time ≤ SlidingScript.now now := by
        simp only [scriptNow_eq]
        omega
      rw [Function.update_self, remaining_remaining _ clock]
      exact tracks.redis _ now (Nat.le_trans order later)
    · rw [Function.update_of_ne same]
      exact tracks.redis ip now (Nat.le_trans order later)
  fresh ip entry member := by
    by_cases same : ip = request.ip
    · subst same
      rw [Function.update_self] at member
      exact List.mem_cons_of_mem _ (tracks.fresh _ entry (remaining_subset member))
    · rw [Function.update_of_ne same] at member
      exact List.mem_cons_of_mem _ (tracks.fresh ip entry member)
  distinct := (listed_insert tracks.distinct tracks.listed known _).1
  listed := (listed_insert tracks.distinct tracks.listed known _).2

/-- Both limiters admit: the request joins the log. -/
theorem Tracks.admitted (tracks : Tracks limit clients used last map keys log) {request : Request}
    (order : last ≤ request.time) (known : request.ip ∈ clients) (unused : request.member ∉ used)
    (room : (memoryWindow.seen request.time (log request.ip)).length < limit.toNat) :
    Tracks limit clients (request.member :: used) request.time
      (MemoryLimiter.insert map request.ip
        (MemoryLimiter.active request.time (MemoryLimiter.deque map request.ip) ++ [request.time]))
      (Function.update keys request.ip
        ⟨SlidingScript.zadd (SlidingScript.remaining (keys request.ip) (SlidingScript.now request.time)) request.member
            (SlidingScript.now request.time),
          SlidingScript.now request.time + SlidingScript.window + 1000⟩)
      (Function.update log request.ip (log request.ip ++ [request.time])) where
  sorted ip := by
    by_cases same : ip = request.ip
    · subst same
      rw [Function.update_self]
      apply List.pairwise_append.mpr
      refine ⟨tracks.sorted _, List.pairwise_singleton _ _, ?_⟩
      intro time member other new
      rw [List.mem_singleton.mp new]
      exact Nat.le_trans (tracks.past _ time member) order
    · rw [Function.update_of_ne same]
      exact tracks.sorted ip
  past ip time member := by
    by_cases same : ip = request.ip
    · subst same
      rw [Function.update_self] at member
      obtain old | new := List.mem_append.mp member
      · exact Nat.le_trans (tracks.past _ time old) order
      · exact Nat.le_of_eq (List.mem_singleton.mp new)
    · rw [Function.update_of_ne same] at member
      exact Nat.le_trans (tracks.past ip time member) order
  few ip now later := by
    by_cases same : ip = request.ip
    · subst same
      rw [Function.update_self, memoryWindow.seen_append, List.length_append, ← memoryWindow.seen_seen later]
      have kept := (memoryWindow.seen_sublist now (memoryWindow.seen request.time (log request.ip))).length_le
      have new := (memoryWindow.seen_sublist now [request.time]).length_le
      rw [List.length_singleton] at new
      omega
    · rw [Function.update_of_ne same]
      exact tracks.few ip now (Nat.le_trans order later)
  memory ip now later := by
    by_cases same : ip = request.ip
    · subst same
      have recorded : (memoryWindow.seen request.time (log request.ip) ++ [request.time]).Pairwise (· ≤ ·) := by
        apply List.pairwise_append.mpr
        refine ⟨(tracks.sorted _).sublist (memoryWindow.seen_sublist _ _), List.pairwise_singleton _ _, ?_⟩
        intro time member other new
        rw [List.mem_singleton.mp new]
        exact Nat.le_trans (tracks.past _ time ((memoryWindow.seen_sublist _ _).subset member)) order
      rw [deque_insert_self, Function.update_self, tracks.memory _ _ order, active_eq now recorded,
        memoryWindow.seen_append, memoryWindow.seen_append, memoryWindow.seen_seen later]
    · rw [deque_insert_other same, Function.update_of_ne same]
      exact tracks.memory ip now (Nat.le_trans order later)
  redis ip now later := by
    by_cases same : ip = request.ip
    · subst same
      have new : ∀ entry ∈ SlidingScript.remaining (keys request.ip) (SlidingScript.now request.time),
          entry.1 ≠ request.member := by
        intro entry member equal
        exact unused (equal ▸ tracks.fresh _ entry (remaining_subset member))
      rw [Function.update_self, Function.update_self, zadd_fresh new]
      apply remaining_added request.member later
      · exact fun time member => Nat.le_trans (tracks.past _ time member) order
      · exact tracks.redis _ _ order
    · rw [Function.update_of_ne same, Function.update_of_ne same]
      exact tracks.redis ip now (Nat.le_trans order later)
  fresh ip entry member := by
    by_cases same : ip = request.ip
    · subst same
      rw [Function.update_self] at member
      obtain kept | new := List.mem_append.mp member
      · exact List.mem_cons_of_mem _ (tracks.fresh _ entry (remaining_subset (List.mem_filter.mp kept).1))
      · rw [List.mem_singleton.mp new]
        exact List.mem_cons_self
    · rw [Function.update_of_ne same] at member
      exact List.mem_cons_of_mem _ (tracks.fresh ip entry member)
  distinct := (listed_insert tracks.distinct tracks.listed known _).1
  listed := (listed_insert tracks.distinct tracks.listed known _).2

/-- What the script sees of the log is what it sees of the moments the process keeps. -/
private theorem redis_seen_memory (now : Nat) (log : List Nat) :
    redisWindow.seen now (memoryWindow.seen now log) = redisWindow.seen now log := by
  unfold Window.seen
  rw [List.filter_filter]
  apply List.filter_congr
  intro time member
  cases counts : redisWindow.inside now time with
  | false => rfl
  | true => rw [redis_inside_memory counts]; rfl

theorem full_iff (tracks : Tracks limit clients used last map keys log) {request : Request} (order : last ≤ request.time)
    (clear : ¬ AtBoundary limit map request) :
    limit.toNat ≤ (memoryWindow.seen request.time (log request.ip)).length ↔
      limit.toNat ≤ (redisWindow.seen request.time (log request.ip)).length := by
  have kept := tracks.memory request.ip _ order
  have sorted := (tracks.sorted request.ip).sublist (memoryWindow.seen_sublist request.time (log request.ip))
  rw [AtBoundary] at clear
  rw [kept] at clear
  rw [← redis_seen_memory]
  generalize memoryWindow.seen request.time (log request.ip) = window at clear sorted
  refine ⟨?_, fun full => Nat.le_trans full (redisWindow.seen_sublist _ _).length_le⟩
  intro full
  cases window with
  | nil => exact full
  | cons oldest rest =>
    have young : redisWindow.inside request.time oldest = true := by
      simp only [redisWindow, decide_eq_true_eq]
      have recent := fun old => clear ⟨full, old⟩
      omega
    rw [redisWindow.seen_all sorted young]
    exact full

theorem parted (tracks : Tracks limit clients used last map keys log) {request : Request} (order : last ≤ request.time)
    (boundary : AtBoundary limit map request) :
    limit.toNat ≤ (memoryWindow.seen request.time (log request.ip)).length ∧
      (redisWindow.seen request.time (log request.ip)).length < limit.toNat := by
  have few := tracks.few request.ip _ order
  rw [AtBoundary] at boundary
  rw [tracks.memory request.ip _ order] at boundary
  rw [← redis_seen_memory]
  generalize memoryWindow.seen request.time (log request.ip) = window at boundary few
  cases window with
  | nil => exact boundary.elim
  | cons oldest rest =>
    obtain ⟨full, old⟩ := boundary
    have gone : redisWindow.inside request.time oldest = false := by
      simp only [redisWindow, decide_eq_false_iff_not]
      omega
    have fewer := redisWindow.seen_fewer gone rest
    rw [List.length_cons] at few full
    exact ⟨full, by omega⟩

private theorem check_eq (tracks : Tracks limit clients used last map keys log) (few : clients.length < maxTrackedIps)
    (positive : limit ≠ 0) {request : Request} (order : last ≤ request.time) :
    MemoryLimiter.check firstKey limit map request =
      let kept := MemoryLimiter.active request.time (MemoryLimiter.deque map request.ip)
      if limit.toNat ≤ (memoryWindow.seen request.time (log request.ip)).length then
        (MemoryLimiter.insert map request.ip kept, false)
      else (MemoryLimiter.insert map request.ip (kept ++ [request.time]), true) := by
  have bounded := limit.toNat_lt
  simp only [MemoryLimiter.check, if_neg positive, evict_eq tracks few, ← tracks.memory _ _ order]
  congr 1
  simp only [eq_iff_iff]
  omega

private theorem script_eq (tracks : Tracks limit clients used last map keys log) {request : Request}
    (order : last ≤ request.time) :
    SlidingScript.run limit keys request =
      let now := SlidingScript.now request.time
      let members := SlidingScript.remaining (keys request.ip) now
      if limit.toNat ≤ (redisWindow.seen request.time (log request.ip)).length then
        (Function.update keys request.ip ⟨members, (keys request.ip).expireAt⟩, false)
      else
        (Function.update keys request.ip
          ⟨SlidingScript.zadd members request.member now, now + SlidingScript.window + 1000⟩, true) := by
  have same := congrArg List.length (tracks.redis request.ip _ order)
  rw [List.length_map, List.length_map] at same
  simp only [SlidingScript.run, same]

/-- From stores that hold one log, the limiters agree on what follows exactly as long as
no request comes at the boundary. -/
theorem decisions_agree_iff (tracks : Tracks limit clients used last map keys log) (few : clients.length < maxTrackedIps)
    (positive : limit ≠ 0) (requests : List Request) (known : ∀ request ∈ requests, request.ip ∈ clients)
    (ordered : (requests.map Request.time).Pairwise (· ≤ ·)) (later : ∀ request ∈ requests, last ≤ request.time)
    (unique : (requests.map Request.member).Nodup) (unused : ∀ request ∈ requests, request.member ∉ used) :
    decisions (MemoryLimiter.check firstKey limit) map requests = decisions (SlidingScript.run limit) keys requests ↔
      Along (fun map request => some (MemoryLimiter.check firstKey limit map request).1)
        (fun map request => ¬ AtBoundary limit map request) map requests := by
  induction requests generalizing used last map keys log with
  | nil => exact ⟨fun _ => trivial, fun _ => rfl⟩
  | cons request rest ih =>
    obtain ⟨before, ordered⟩ := List.pairwise_cons.mp ordered
    obtain ⟨new, unique⟩ := List.nodup_cons.mp unique
    have order := later request List.mem_cons_self
    have onward : ∀ other ∈ rest, request.time ≤ other.time := fun other member => before _ (List.mem_map_of_mem member)
    have apart : ∀ other ∈ rest, other.member ∉ request.member :: used := by
      intro other member inside
      obtain equal | old := List.mem_cons.mp inside
      · exact new (equal ▸ List.mem_map_of_mem member)
      · exact unused other (List.mem_cons_of_mem _ member) old
    have following (map' : MemoryLimiter.Map) (keys' : SlidingScript.Keys) (log' : IpAddr → List Nat)
        (tracks' : Tracks limit clients (request.member :: used) request.time map' keys' log') :=
      ih tracks' (fun other member => known other (List.mem_cons_of_mem _ member)) ordered onward unique apart
    simp only [decisions, Along, List.cons.injEq]
    rw [check_eq tracks few positive order, script_eq tracks order]
    by_cases boundary : AtBoundary limit map request
    · obtain ⟨full, room⟩ := parted tracks order boundary
      simp only [if_pos full, if_neg (Nat.not_le.mpr room), boundary, not_true, false_and, iff_false]
      exact fun same => Bool.noConfusion same.1
    · have both := full_iff tracks order boundary
      by_cases full : limit.toNat ≤ (memoryWindow.seen request.time (log request.ip)).length
      · simp only [if_pos full, if_pos (both.mp full), boundary, not_false_eq_true, true_and]
        exact following _ _ _ (tracks.rejected order (known request List.mem_cons_self))
      · simp only [if_neg full, if_neg (fun redis => full (both.mpr redis)), boundary, not_false_eq_true, true_and]
        exact following _ _ _ (tracks.admitted order (known request List.mem_cons_self)
          (unused request List.mem_cons_self) (Nat.not_le.mp full))

end Step

/-- The process and the script answer a sequence of requests alike exactly when no
request of it finds a full window whose oldest request is at the boundary. -/
theorem limiters_agree_iff (firstKey : MemoryLimiter.Map → Option IpAddr) (limit : UInt32) (requests : List Request)
    (positive : limit ≠ 0) (ordered : (requests.map Request.time).Pairwise (· ≤ ·))
    (few : (requests.map Request.ip).dedup.length < maxTrackedIps) (unique : (requests.map Request.member).Nodup) :
    memoryDecisions firstKey limit requests = redisDecisions limit requests ↔
      Along (fun map request => some (MemoryLimiter.check firstKey limit map request).1)
        (fun map request => ¬ AtBoundary limit map request) [] requests := by
  apply decisions_agree_iff (tracks_start limit _) few positive requests
  · exact fun request member => List.mem_dedup.mpr (List.mem_map_of_mem member)
  · exact ordered
  · exact fun request _ => Nat.zero_le _
  · exact unique
  · exact fun request _ => List.not_mem_nil

def localhost : IpAddr := .v4 0x7F000001

/-- Half a second and one and a half after the first request. -/
def spaced : List Request :=
  [⟨localhost, 0, "a"⟩, ⟨localhost, 500000000, "b"⟩, ⟨localhost, 1500000000, "c"⟩]

theorem spaced_agree :
    memoryDecisions (fun _ => none) 1 spaced = [true, false, true] ∧
      (memoryDecisions (fun _ => none) 1 spaced = redisDecisions 1 spaced ↔
        Along (fun map request => some (MemoryLimiter.check (fun _ => none) 1 map request).1)
          (fun map request => ¬ AtBoundary 1 map request) [] spaced) :=
  ⟨by decide, limiters_agree_iff (fun _ => none) 1 spaced (by decide) (by decide) (by decide) (by decide)⟩

/-- Exactly one second after the first request. -/
def onTheSecond : List Request := [⟨localhost, 0, "a"⟩, ⟨localhost, 1000000000, "b"⟩]

theorem onTheSecond_disagree :
    ¬ ∀ (firstKey : MemoryLimiter.Map → Option IpAddr) (limit : UInt32) (requests : List Request), limit ≠ 0 →
      (requests.map Request.time).Pairwise (· ≤ ·) → (requests.map Request.ip).dedup.length < maxTrackedIps →
        (requests.map Request.member).Nodup → memoryDecisions firstKey limit requests = redisDecisions limit requests := by
  intro agree
  have same := agree (fun _ => none) 1 onTheSecond (by decide) (by decide) (by decide) (by decide)
  have memory : memoryDecisions (fun _ => none) 1 onTheSecond = [true, false] := by decide
  have redis : redisDecisions 1 onTheSecond = [true, true] := by decide
  rw [memory, redis] at same
  cases same

end AiGateway.ClientIpLimit
