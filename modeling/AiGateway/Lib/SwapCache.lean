import AiGateway.Lib.ReadyCache
import Mathlib.Data.List.Perm.Basic

/-! A cache of services that keeps the ready ones in an order where removing one moves the last
one into its place. -/

namespace AiGateway.Lib

section SwapRemove
variable {α : Type}

/-- The entry at the index is removed and the last entry takes its place. -/
def swapRemove (entries : List α) (index : Nat) : List α :=
  match entries.getLast? with
  | none => []
  | some last => (entries.set index last).dropLast

theorem swapRemove_perm {entries : List α} {index : Nat} {entry : α} (found : entries[index]? = some entry) :
    entries.Perm (entry :: swapRemove entries index) := by
  obtain ⟨inside, rfl⟩ := List.getElem?_eq_some_iff.mp found
  obtain rfl | ⟨front, last, rfl⟩ := List.eq_nil_or_concat' entries
  · simp at inside
  · rw [swapRemove, List.getLast?_append, List.getLast?_singleton, Option.some_or]
    dsimp only
    by_cases atEnd : index = front.length
    · subst atEnd
      rw [List.set_append_right _ _ (Nat.le_refl _)]
      simp
    · have before : index < front.length := by
        rw [List.length_append, List.length_singleton] at inside
        omega
      rw [List.set_append_left _ _ before, List.dropLast_concat, List.getElem_append_left before]
      have moved := (List.set_perm_cons_eraseIdx before last).cons front[index]
      have whole := (List.getElem_cons_eraseIdx_perm before).append_right [last]
      refine whole.symm.trans (List.Perm.trans ?_ moved.symm)
      rw [List.cons_append]
      exact (List.perm_append_singleton last _).cons _

section Keyed
variable {κ σ : Type} {entries : List (κ × σ)}

theorem distinct_swapRemove (distinct : (entries.map Prod.fst).Nodup) {index : Nat} {entry : κ × σ}
    (found : entries[index]? = some entry) : ((swapRemove entries index).map Prod.fst).Nodup := by
  have keys := ((swapRemove_perm found).map Prod.fst).nodup_iff.mp distinct
  exact (List.nodup_cons.mp keys).2

/-- What is left after a removal are the entries of the other keys. -/
theorem mem_swapRemove (distinct : (entries.map Prod.fst).Nodup) {index : Nat} {entry : κ × σ}
    (found : entries[index]? = some entry) {other : κ × σ} :
    other ∈ swapRemove entries index ↔ other ∈ entries ∧ other.1 ≠ entry.1 := by
  have keys := ((swapRemove_perm found).map Prod.fst).nodup_iff.mp distinct
  rw [(swapRemove_perm found).mem_iff, List.mem_cons]
  constructor
  · intro member
    refine ⟨.inr member, ?_⟩
    intro same
    exact (List.nodup_cons.mp keys).1 (List.mem_map.mpr ⟨other, member, same⟩)
  · rintro ⟨rfl | member, different⟩
    · exact absurd rfl different
    · exact member

end Keyed

end SwapRemove

/-- Every key is at most once among the ready and at most once among the pending services. -/
structure SwapCache (κ σ : Type) where
  ready : List (κ × σ)
  pending : List (κ × σ)
  readyDistinct : (ready.map Prod.fst).Nodup
  pendingDistinct : (pending.map Prod.fst).Nodup

namespace SwapCache

open Entries

variable {κ σ : Type} [DecidableEq κ]

def empty : SwapCache κ σ := ⟨[], [], List.nodup_nil, List.nodup_nil⟩

def pendingContains (cache : SwapCache κ σ) (key : κ) : Bool := cache.pending.any fun entry => entry.1 == key

/-- The entry of the key is replaced where it stands, or appended. -/
def insertEntry (entries : List (κ × σ)) (key : κ) (service : σ) : List (κ × σ) :=
  if entries.any fun entry => entry.1 == key then
    entries.map fun entry => if entry.1 = key then (key, service) else entry
  else entries ++ [(key, service)]

def removeKey (entries : List (κ × σ)) (key : κ) : List (κ × σ) :=
  match entries.findIdx? fun entry => entry.1 == key with
  | none => entries
  | some index => swapRemove entries index

section Keys
variable {entries : List (κ × σ)} {key : κ}

theorem removeKey_cases (entries : List (κ × σ)) (key : κ) :
    ((∀ entry ∈ entries, entry.1 ≠ key) ∧ removeKey entries key = entries) ∨
      ∃ index entry, entries[index]? = some entry ∧ entry.1 = key ∧ removeKey entries key = swapRemove entries index := by
  unfold removeKey
  cases found : entries.findIdx? fun entry => entry.1 == key with
  | none =>
    left
    refine ⟨?_, rfl⟩
    intro entry member same
    have absent := List.findIdx?_eq_none_iff.mp found entry member
    simp [same] at absent
  | some index =>
    right
    obtain ⟨inside, same, _⟩ := List.findIdx?_eq_some_iff_getElem.mp found
    exact ⟨index, entries[index], List.getElem?_eq_getElem inside, by simpa using same, rfl⟩

theorem distinct_removeKey (distinct : (entries.map Prod.fst).Nodup) (key : κ) :
    ((removeKey entries key).map Prod.fst).Nodup := by
  obtain ⟨_, same⟩ | ⟨index, entry, found, _, same⟩ := removeKey_cases entries key
  · rw [same]
    exact distinct
  · rw [same]
    exact distinct_swapRemove distinct found

theorem mem_removeKey (distinct : (entries.map Prod.fst).Nodup) {other : κ × σ} :
    other ∈ removeKey entries key ↔ other ∈ entries ∧ other.1 ≠ key := by
  obtain ⟨absent, same⟩ | ⟨index, entry, found, rfl, same⟩ := removeKey_cases entries key
  · rw [same]
    exact ⟨fun member => ⟨member, absent other member⟩, And.left⟩
  · rw [same]
    exact mem_swapRemove distinct found

theorem distinct_insertEntry (distinct : (entries.map Prod.fst).Nodup) (key : κ) (service : σ) :
    ((insertEntry entries key service).map Prod.fst).Nodup := by
  unfold insertEntry
  split
  · have same : (entries.map fun entry => if entry.1 = key then (key, service) else entry).map Prod.fst =
        entries.map Prod.fst := by
      rw [List.map_map]
      apply List.map_congr_left
      intro entry _
      by_cases own : entry.1 = key
      · simp [own]
      · simp [own]
    rw [same]
    exact distinct
  · next absent =>
    rw [List.map_append, List.nodup_append]
    refine ⟨distinct, List.nodup_singleton _, ?_⟩
    intro name member other single same
    obtain ⟨entry, inside, rfl⟩ := List.mem_map.mp member
    have own := List.mem_singleton.mp single
    apply absent
    rw [List.any_eq_true]
    exact ⟨entry, inside, by simp [same, own]⟩

theorem mem_insertEntry {service : σ} {other : κ × σ} :
    other ∈ insertEntry entries key service ↔ other = (key, service) ∨ (other ∈ entries ∧ other.1 ≠ key) := by
  unfold insertEntry
  split
  · next present =>
    obtain ⟨entry, inside, same⟩ := List.any_eq_true.mp present
    rw [List.mem_map]
    constructor
    · rintro ⟨old, member, rfl⟩
      by_cases own : old.1 = key
      · exact .inl (if_pos own)
      · rw [if_neg own]
        exact .inr ⟨member, own⟩
    · rintro (rfl | ⟨member, different⟩)
      · exact ⟨entry, inside, if_pos (by simpa using same)⟩
      · exact ⟨other, member, if_neg different⟩
  · next absent =>
    rw [List.mem_append, List.mem_singleton]
    constructor
    · rintro (member | own)
      · refine .inr ⟨member, ?_⟩
        intro same
        exact absent (List.any_eq_true.mpr ⟨other, member, by simpa using same⟩)
      · exact .inl own
    · rintro (own | ⟨member, _⟩)
      · exact .inr own
      · exact .inl member

end Keys

section Operations
variable (cache : SwapCache κ σ)

def push (key : κ) (service : σ) : SwapCache κ σ where
  ready := cache.ready
  pending := (key, service) :: others cache.pending key
  readyDistinct := cache.readyDistinct
  pendingDistinct := distinct_cons_others cache.pendingDistinct key service

def evict (key : κ) : SwapCache κ σ where
  ready := removeKey cache.ready key
  pending := others cache.pending key
  readyDistinct := distinct_removeKey cache.readyDistinct key
  pendingDistinct := distinct_others cache.pendingDistinct key

def promote (key : κ) (service : σ) : SwapCache κ σ where
  ready := insertEntry cache.ready key service
  pending := others cache.pending key
  readyDistinct := distinct_insertEntry cache.readyDistinct key service
  pendingDistinct := distinct_others cache.pendingDistinct key

def fail (key : κ) : SwapCache κ σ :=
  ⟨cache.ready, others cache.pending key, cache.readyDistinct, distinct_others cache.pendingDistinct key⟩

def drop (index : Nat) : SwapCache κ σ where
  ready := if cache.ready[index]?.isSome then swapRemove cache.ready index else cache.ready
  pending := cache.pending
  readyDistinct := by
    cases found : cache.ready[index]? with
    | none => exact cache.readyDistinct
    | some entry => exact distinct_swapRemove cache.readyDistinct found
  pendingDistinct := cache.pendingDistinct

def release (index : Nat) : SwapCache κ σ :=
  match cache.ready[index]? with
  | none => cache
  | some (key, service) => if cache.pendingContains key then cache.drop index else (cache.drop index).push key service

end Operations

section Contents
variable {cache : SwapCache κ σ} {index : Nat} {entry other : κ × σ}

omit [DecidableEq κ] in
theorem mem_ready_drop (found : cache.ready[index]? = some entry) :
    other ∈ (cache.drop index).ready ↔ other ∈ cache.ready ∧ other.1 ≠ entry.1 := by
  have same : (cache.drop index).ready = swapRemove cache.ready index := by
    simp [drop, found]
  rw [same]
  exact mem_swapRemove cache.readyDistinct found

theorem mem_ready_release (found : cache.ready[index]? = some entry) :
    other ∈ (cache.release index).ready ↔ other ∈ cache.ready ∧ other.1 ≠ entry.1 := by
  have same : (cache.release index).ready = (cache.drop index).ready := by
    rw [release, found]
    dsimp only
    split
    · rfl
    · rfl
  rw [same]
  exact mem_ready_drop found

theorem mem_pending_release (found : cache.ready[index]? = some entry) :
    other ∈ (cache.release index).pending ↔
      other ∈ cache.pending ∨ (∀ waiting ∈ cache.pending, waiting.1 ≠ entry.1) ∧ other = entry := by
  rw [release, found]
  dsimp only
  split
  next newer =>
    obtain ⟨waiting, member, same⟩ := List.any_eq_true.mp newer
    constructor
    · exact .inl
    · rintro (old | ⟨absent, _⟩)
      · exact old
      · exact absurd (by simpa using same) (absent waiting member)
  next alone =>
    have absent (waiting : κ × σ) (member : waiting ∈ cache.pending) : waiting.1 ≠ entry.1 := by
      intro same
      exact alone (List.any_eq_true.mpr ⟨waiting, member, by simpa using same⟩)
    constructor
    · intro member
      obtain rfl | old := List.mem_cons.mp member
      · exact .inr ⟨absent, rfl⟩
      · exact .inl (mem_others.mp old).1
    · rintro (old | ⟨_, rfl⟩)
      · exact List.mem_cons_of_mem _ (mem_others.mpr ⟨old, absent other old⟩)
      · exact List.mem_cons_self

end Contents

end SwapCache

def swapLibrary (κ σ : Type) [DecidableEq κ] : ReadyLibrary κ σ where
  Cache := SwapCache κ σ
  empty := .empty
  ready := SwapCache.ready
  pending := SwapCache.pending
  push := SwapCache.push
  evict := SwapCache.evict
  promote := SwapCache.promote
  fail := SwapCache.fail
  drop := SwapCache.drop
  release := SwapCache.release
  readyDistinct := SwapCache.readyDistinct
  pendingDistinct := SwapCache.pendingDistinct
  ready_empty := rfl
  pending_empty := rfl
  evict_empty _ := rfl
  mem_ready_push := Iff.rfl
  mem_pending_push := List.mem_cons.trans (or_congr_right Entries.mem_others)
  mem_ready_evict := @fun cache _ _ => SwapCache.mem_removeKey cache.readyDistinct
  mem_pending_evict := Entries.mem_others
  mem_ready_promote := SwapCache.mem_insertEntry
  mem_pending_promote := Entries.mem_others
  mem_ready_fail := Iff.rfl
  mem_pending_fail := Entries.mem_others
  mem_ready_drop := SwapCache.mem_ready_drop
  mem_pending_drop := Iff.rfl
  mem_ready_release := SwapCache.mem_ready_release
  mem_pending_release := SwapCache.mem_pending_release

end AiGateway.Lib
