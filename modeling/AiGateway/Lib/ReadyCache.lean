import AiGateway.Lib.Entries

/-! Services under keys, each ready or pending. The ready ones have an order by which they are
referred to, and a service that is pending replaces the ready one of its key when it becomes ready
itself. What is promised of such a cache are its contents; the order in which it keeps them is its
own affair. -/

namespace AiGateway.Lib

structure ReadyLibrary (κ σ : Type) where
  Cache : Type
  empty : Cache
  ready : Cache → List (κ × σ)
  pending : Cache → List (κ × σ)
  /-- A new service starts out pending, in the place of one of its key that is pending. -/
  push : Cache → κ → σ → Cache
  evict : Cache → κ → Cache
  /-- A pending service has become ready. -/
  promote : Cache → κ → σ → Cache
  /-- A pending service has failed. -/
  fail : Cache → κ → Cache
  /-- The ready service at the index leaves the cache. -/
  drop : Cache → Nat → Cache
  /-- The ready service at the index becomes pending, unless its key is pending already. -/
  release : Cache → Nat → Cache
  readyDistinct : ∀ cache, ((ready cache).map Prod.fst).Nodup
  pendingDistinct : ∀ cache, ((pending cache).map Prod.fst).Nodup
  ready_empty : ready empty = []
  pending_empty : pending empty = []
  evict_empty : ∀ key, evict empty key = empty
  mem_ready_push : ∀ {cache key service entry}, entry ∈ ready (push cache key service) ↔ entry ∈ ready cache
  mem_pending_push : ∀ {cache key service entry}, entry ∈ pending (push cache key service) ↔
    entry = (key, service) ∨ entry ∈ pending cache ∧ entry.1 ≠ key
  mem_ready_evict : ∀ {cache key entry}, entry ∈ ready (evict cache key) ↔ entry ∈ ready cache ∧ entry.1 ≠ key
  mem_pending_evict : ∀ {cache key entry}, entry ∈ pending (evict cache key) ↔ entry ∈ pending cache ∧ entry.1 ≠ key
  mem_ready_promote : ∀ {cache key service entry}, entry ∈ ready (promote cache key service) ↔
    entry = (key, service) ∨ entry ∈ ready cache ∧ entry.1 ≠ key
  mem_pending_promote : ∀ {cache key service entry}, entry ∈ pending (promote cache key service) ↔
    entry ∈ pending cache ∧ entry.1 ≠ key
  mem_ready_fail : ∀ {cache key entry}, entry ∈ ready (fail cache key) ↔ entry ∈ ready cache
  mem_pending_fail : ∀ {cache key entry}, entry ∈ pending (fail cache key) ↔ entry ∈ pending cache ∧ entry.1 ≠ key
  mem_ready_drop : ∀ {cache index entry other}, (ready cache)[index]? = some entry →
    (other ∈ ready (drop cache index) ↔ other ∈ ready cache ∧ other.1 ≠ entry.1)
  mem_pending_drop : ∀ {cache index entry}, entry ∈ pending (drop cache index) ↔ entry ∈ pending cache
  mem_ready_release : ∀ {cache index entry other}, (ready cache)[index]? = some entry →
    (other ∈ ready (release cache index) ↔ other ∈ ready cache ∧ other.1 ≠ entry.1)
  mem_pending_release : ∀ {cache index entry other}, (ready cache)[index]? = some entry →
    (other ∈ pending (release cache index) ↔
      other ∈ pending cache ∨ (∀ waiting ∈ pending cache, waiting.1 ≠ entry.1) ∧ other = entry)

def ReadyCache {κ σ : Type} (library : ReadyLibrary κ σ) : Type := library.Cache

namespace ReadyCache

variable {κ σ : Type} {library : ReadyLibrary κ σ}

def empty : ReadyCache library := library.empty

section Operations
variable (cache : ReadyCache library)

def ready : List (κ × σ) := library.ready cache

def pending : List (κ × σ) := library.pending cache

def push (key : κ) (service : σ) : ReadyCache library := library.push cache key service

def evict (key : κ) : ReadyCache library := library.evict cache key

def promote (key : κ) (service : σ) : ReadyCache library := library.promote cache key service

def fail (key : κ) : ReadyCache library := library.fail cache key

def drop (index : Nat) : ReadyCache library := library.drop cache index

def release (index : Nat) : ReadyCache library := library.release cache index

end Operations

@[simp] theorem ready_empty : (empty : ReadyCache library).ready = [] := library.ready_empty

@[simp] theorem pending_empty : (empty : ReadyCache library).pending = [] := library.pending_empty

/-- The service is the newest one of its key: pending, or ready with none pending. -/
def Holds (cache : ReadyCache library) (key : κ) (service : σ) : Prop :=
  (key, service) ∈ cache.pending ∨ ((∀ entry ∈ cache.pending, entry.1 ≠ key) ∧ (key, service) ∈ cache.ready)

section Holding
variable {cache : ReadyCache library} {key other : κ} {service : σ}

theorem holds_push (cache : ReadyCache library) (key : κ) (service : σ) : (cache.push key service).Holds key service :=
  .inl (library.mem_pending_push.mpr (.inl rfl))

theorem Holds.push (holds : cache.Holds key service) (different : key ≠ other) (added : σ) :
    (cache.push other added).Holds key service := by
  obtain pending | ⟨absent, ready⟩ := holds
  · exact .inl (library.mem_pending_push.mpr (.inr ⟨pending, different⟩))
  · refine .inr ⟨?_, library.mem_ready_push.mpr ready⟩
    intro entry member
    obtain rfl | ⟨old, _⟩ := library.mem_pending_push.mp member
    · exact different.symm
    · exact absent entry old

theorem Holds.evict (holds : cache.Holds key service) (different : key ≠ other) : (cache.evict other).Holds key service := by
  obtain pending | ⟨absent, ready⟩ := holds
  · exact .inl (library.mem_pending_evict.mpr ⟨pending, different⟩)
  · refine .inr ⟨?_, library.mem_ready_evict.mpr ⟨ready, different⟩⟩
    exact fun entry member => absent entry (library.mem_pending_evict.mp member).1

theorem Holds.fail (holds : cache.Holds key service) (different : key ≠ other) : (cache.fail other).Holds key service := by
  obtain pending | ⟨absent, ready⟩ := holds
  · exact .inl (library.mem_pending_fail.mpr ⟨pending, different⟩)
  · refine .inr ⟨?_, library.mem_ready_fail.mpr ready⟩
    exact fun entry member => absent entry (library.mem_pending_fail.mp member).1

theorem pending_unique {first second : σ} (one : (key, first) ∈ cache.pending) (two : (key, second) ∈ cache.pending) :
    first = second := by
  have same := List.inj_on_of_nodup_map (library.pendingDistinct cache) one two rfl
  exact congrArg Prod.snd same

theorem Holds.promote (holds : cache.Holds key service) {promoted : σ} (waiting : (other, promoted) ∈ cache.pending) :
    (cache.promote other promoted).Holds key service := by
  by_cases same : key = other
  · subst same
    obtain pending | ⟨absent, _⟩ := holds
    · obtain rfl := pending_unique pending waiting
      refine .inr ⟨?_, library.mem_ready_promote.mpr (.inl rfl)⟩
      exact fun entry member => (library.mem_pending_promote.mp member).2
    · exact absurd rfl (absent _ waiting)
  · obtain pending | ⟨absent, ready⟩ := holds
    · exact .inl (library.mem_pending_promote.mpr ⟨pending, same⟩)
    · refine .inr ⟨?_, library.mem_ready_promote.mpr (.inr ⟨ready, same⟩)⟩
      exact fun entry member => absent entry (library.mem_pending_promote.mp member).1

/-- A service that is dropped leaves the others in the cache. -/
theorem Holds.drop (holds : cache.Holds key service) {index : Nat} {entry : κ × σ}
    (found : cache.ready[index]? = some entry) (kept : entry.1 = key → (key, service) ∈ cache.pending) :
    (cache.drop index).Holds key service := by
  obtain pending | ⟨absent, ready⟩ := holds
  · exact .inl (library.mem_pending_drop.mpr pending)
  · refine .inr ⟨?_, (library.mem_ready_drop found).mpr ⟨ready, ?_⟩⟩
    · exact fun entry member => absent entry (library.mem_pending_drop.mp member)
    · intro same
      exact absent _ (kept same.symm) rfl

theorem ready_unique {index : Nat} {first second : σ} (found : cache.ready[index]? = some (key, first))
    (ready : (key, second) ∈ cache.ready) : first = second := by
  have same := List.inj_on_of_nodup_map (library.readyDistinct cache) (List.mem_of_getElem? found) ready rfl
  exact congrArg Prod.snd same

/-- Using a service loses none: it comes back unless a newer one of its key is there. -/
theorem Holds.release (holds : cache.Holds key service) {index : Nat} {entry : κ × σ}
    (found : cache.ready[index]? = some entry) : (cache.release index).Holds key service := by
  obtain pending | ⟨absent, ready⟩ := holds
  · exact .inl ((library.mem_pending_release found).mpr (.inl pending))
  · by_cases same : key = entry.1
    · subst same
      have own : (entry.1, service) = entry := congrArg (Prod.mk entry.1) (ready_unique found ready).symm
      exact .inl ((library.mem_pending_release found).mpr (.inr ⟨absent, own⟩))
    · refine .inr ⟨?_, (library.mem_ready_release found).mpr ⟨ready, same⟩⟩
      intro waiting member
      obtain old | ⟨_, rfl⟩ := (library.mem_pending_release found).mp member
      · exact absent waiting old
      · exact Ne.symm same

end Holding

/-- What can happen to a cache; `call` is the use of the ready service of the key. -/
inductive Effect (κ σ : Type) where
  | push (key : κ) (service : σ)
  | evict (key : κ)
  | promote (key : κ) (service : σ)
  | fail (key : κ)
  | call (key : κ)

namespace Effect

def key : Effect κ σ → κ
  | push key _ | evict key | promote key _ | fail key | call key => key

/-- The ready service of the key, if there is one, is gone or another one. -/
def Takes (effect : Effect κ σ) (key : κ) : Prop :=
  match effect with
  | push _ _ | fail _ => False
  | evict other | promote other _ | call other => other = key

/-- The effects that leave the newest service of the key where it is. -/
def Spares (effect : Effect κ σ) (key : κ) : Prop :=
  match effect with
  | promote _ _ | call _ => True
  | push other _ | evict other | fail other => other ≠ key

end Effect

variable [DecidableEq κ]

def callReady (cache : ReadyCache library) (key : κ) : ReadyCache library :=
  match cache.ready.findIdx? fun entry => entry.1 == key with
  | none => cache
  | some index => cache.release index

def apply (cache : ReadyCache library) : Effect κ σ → ReadyCache library
  | .push key service => cache.push key service
  | .evict key => cache.evict key
  | .promote key service => cache.promote key service
  | .fail key => cache.fail key
  | .call key => cache.callReady key

section Effects
variable {cache : ReadyCache library} {key : κ} {service : σ}

theorem findIdx_ready {index : Nat} (found : cache.ready[index]? = some (key, service)) :
    (cache.ready.findIdx? fun entry => entry.1 == key) = some index := by
  obtain ⟨inside, same⟩ := List.getElem?_eq_some_iff.mp found
  refine List.findIdx?_eq_some_iff_getElem.mpr ⟨inside, by simp [same], ?_⟩
  intro earlier before matched
  have equal : (cache.ready.map Prod.fst).get ⟨earlier, by simp; omega⟩ = (cache.ready.map Prod.fst).get ⟨index, by simpa⟩ := by
    simpa [same] using matched
  have distinct : (cache.ready.map Prod.fst).Nodup := library.readyDistinct cache
  have := Fin.mk.inj (distinct.get_inj_iff.mp equal)
  omega

theorem callReady_of_ready {index : Nat} (found : cache.ready[index]? = some (key, service)) :
    cache.callReady key = cache.release index := by
  rw [callReady, findIdx_ready found]

theorem callReady_cases (cache : ReadyCache library) (key : κ) :
    ((∀ entry ∈ cache.ready, entry.1 ≠ key) ∧ cache.callReady key = cache) ∨
      ∃ index service, cache.ready[index]? = some (key, service) ∧ cache.callReady key = cache.release index := by
  by_cases absent : ∀ entry ∈ cache.ready, entry.1 ≠ key
  · left
    have none : (cache.ready.findIdx? fun entry => entry.1 == key) = none := by
      simpa using absent
    exact ⟨absent, by rw [callReady, none]⟩
  · right
    simp only [not_forall, not_not] at absent
    obtain ⟨⟨_, service⟩, member, rfl⟩ := absent
    obtain ⟨index, found⟩ := List.getElem?_of_mem member
    exact ⟨index, service, found, callReady_of_ready found⟩

/-- A service is ready if it has been promoted and has not been called, evicted or replaced since. -/
theorem mem_ready_apply (effect : Effect κ σ) :
    (key, service) ∈ (cache.apply effect).ready ↔
      effect = .promote key service ∨ ((key, service) ∈ cache.ready ∧ ¬ effect.Takes key) := by
  cases effect with
  | push other added =>
    refine library.mem_ready_push.trans ?_
    simp [Effect.Takes, ready]
  | fail other =>
    refine library.mem_ready_fail.trans ?_
    simp [Effect.Takes, ready]
  | evict other =>
    refine library.mem_ready_evict.trans ?_
    simp only [Effect.Takes, reduceCtorEq, false_or]
    exact and_congr_right' ne_comm
  | promote other promoted =>
    refine library.mem_ready_promote.trans ?_
    simp only [Effect.Takes, Effect.promote.injEq, Prod.mk.injEq]
    exact or_congr (and_congr eq_comm eq_comm) (and_congr_right' ne_comm)
  | call other =>
    simp only [apply, Effect.Takes, reduceCtorEq, false_or]
    obtain ⟨absent, same⟩ | ⟨index, called, found, same⟩ := callReady_cases cache other
    · rw [same]
      exact ⟨fun member => ⟨member, (absent _ member).symm⟩, And.left⟩
    · rw [same]
      exact (library.mem_ready_release found).trans (and_congr_right' ne_comm)

/-- Services come into a cache by being pushed. -/
theorem contains_apply (effect : Effect κ σ) (waiting : ∀ key service, effect = .promote key service → (key, service) ∈ cache.pending)
    (inside : (key, service) ∈ (cache.apply effect).ready ∨ (key, service) ∈ (cache.apply effect).pending) :
    effect = .push key service ∨
      (((key, service) ∈ cache.ready ∨ (key, service) ∈ cache.pending) ∧ effect ≠ .evict key) := by
  obtain ready | pending := inside
  · obtain rfl | ⟨ready, kept⟩ := (mem_ready_apply effect).mp ready
    · exact .inr ⟨.inr (waiting key service rfl), nofun⟩
    · refine .inr ⟨.inl ready, ?_⟩
      rintro rfl
      exact kept rfl
  · cases effect with
    | push other added =>
      obtain same | ⟨old, _⟩ := library.mem_pending_push.mp pending
      · cases same
        exact .inl rfl
      · exact .inr ⟨.inr old, nofun⟩
    | evict other =>
      obtain ⟨old, different⟩ := library.mem_pending_evict.mp pending
      refine .inr ⟨.inr old, ?_⟩
      rintro ⟨⟩
      exact different rfl
    | promote other promoted => exact .inr ⟨.inr (library.mem_pending_promote.mp pending).1, nofun⟩
    | fail other => exact .inr ⟨.inr (library.mem_pending_fail.mp pending).1, nofun⟩
    | call other =>
      refine .inr ⟨?_, nofun⟩
      obtain ⟨_, same⟩ | ⟨index, called, found, same⟩ := callReady_cases cache other
      · rw [apply, same] at pending
        exact .inr pending
      · rw [apply, same] at pending
        obtain old | ⟨_, own⟩ := (library.mem_pending_release found).mp pending
        · exact .inr old
        · exact .inl (own ▸ List.mem_of_getElem? found)

theorem Holds.apply (holds : cache.Holds key service) {effect : Effect κ σ} (spares : effect.Spares key)
    (waiting : ∀ key service, effect = .promote key service → (key, service) ∈ cache.pending) :
    (cache.apply effect).Holds key service := by
  cases effect with
  | push other added => exact holds.push (Ne.symm spares) added
  | evict other => exact holds.evict (Ne.symm spares)
  | fail other => exact holds.fail (Ne.symm spares)
  | promote other promoted => exact holds.promote (waiting other promoted rfl)
  | call other =>
    obtain ⟨_, same⟩ | ⟨index, called, found, same⟩ := callReady_cases cache other
    · rw [ReadyCache.apply, same]
      exact holds
    · rw [ReadyCache.apply, same]
      exact holds.release found

end Effects

end ReadyCache

end AiGateway.Lib
