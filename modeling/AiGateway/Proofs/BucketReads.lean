import AiGateway.KvCache
import Mathlib.Data.List.Dedup
import Mathlib.Order.Nat

/-! Saving until the bucket is full, and reading it then. The writer takes a slot for
occupied when something is stored under its key, the reader when that is an entry. -/

namespace AiGateway.KvCache

section Saves
variable (backend : Backend) (keys : List (List UInt8))

/-- What an answered get shows of what is stored. -/
def visible (stored : Option (List UInt8)) : Option (List UInt8) :=
  if backend = .internalStub then none else stored

/-- Whether an answered put stores the value. -/
def writes (json : List UInt8) : Bool := backend ≠ .internalStub ∧ json.length ≤ backend.maxValueBytes

theorem get_answered (stored : Option (List UInt8)) : backend.get .answered stored = .ok (visible backend stored) := by
  cases backend <;> rfl

theorem put_answered (json : List UInt8) : backend.put .answered json = (writes backend json, .ok ()) := by
  by_cases stub : backend = .internalStub
  · subst stub
    rfl
  · have sized : backend.put .answered json =
        if backend.maxValueBytes < json.length then (false, .ok ()) else (true, .ok ()) := by
      cases backend with
      | internalStub => exact absurd rfl stub
      | cloudflare | lazyCloudflare | tikv | lazyTikv => rfl
    rw [sized, writes]
    by_cases large : backend.maxValueBytes < json.length
    · simp [large, Nat.not_le.mpr large]
    · simp [large, stub, Nat.not_lt.mp large]

theorem chooseSlot_answered (json : List UInt8) (values : List (Option (List UInt8))) :
    chooseSlot (.ok json) (values.map .ok) =
      match values.findIdx? Option.isNone with
      | none => .returned none (.ok false)
      | some slot => .putting slot json := by
  have empties {f : Except LlmKvCacheError (Option (List UInt8)) → Bool} (same : ∀ value, f (.ok value) = value.isNone) :
      (values.map Except.ok).findIdx? f = values.findIdx? Option.isNone := by
    rw [List.findIdx?_map]
    congr 1
    funext value
    exact same value
  unfold chooseSlot
  rewrite [if_neg (by simp), empties (by rintro (_ | _) <;> rfl)]
  cases values.findIdx? Option.isNone <;> rfl

variable {backend keys}

/-- A save finds every slot occupied, or puts its entry into one that is free. -/
theorem trySave_cases (json : List UInt8) (store : Store) :
    ((∀ key ∈ keys, visible backend (store key) ≠ none) ∧
        trySaveToFirstFreeSlot backend keys (.ok json) store = (store, .ok false)) ∨
      ∃ key ∈ keys, visible backend (store key) = none ∧
        trySaveToFirstFreeSlot backend keys (.ok json) store =
          (if writes backend json then Function.update store key (some json) else store, .ok true) := by
  have outs : probe backend keys store = (keys.map fun key => visible backend (store key)).map .ok := by
    simp only [probe, get_answered, List.map_map, Function.comp_def]
  unfold trySaveToFirstFreeSlot
  rw [outs, chooseSlot_answered, List.findIdx?_map]
  cases found : keys.findIdx? (Option.isNone ∘ fun key => visible backend (store key)) with
  | none =>
    left
    refine ⟨?_, rfl⟩
    intro key member empty
    have full := List.findIdx?_eq_none_iff.mp found key member
    simp [empty] at full
  | some slot =>
    right
    obtain ⟨inside, empty, _⟩ := List.findIdx?_eq_some_iff_getElem.mp found
    refine ⟨keys[slot], List.getElem_mem inside, Option.isNone_iff_eq_none.mp empty, ?_⟩
    dsimp only
    rw [List.getElem?_eq_getElem inside, put_answered]
    rfl

variable (backend keys)

/-- The keys under which a save would put its entry, each once. -/
def freeKeys (store : Store) : List (List UInt8) := keys.dedup.filter fun key => visible backend (store key) = none

/-- The store after some saves, whose values are given by their number. -/
def savedStore (store : Store) (jsons : Nat → List UInt8) : Nat → Store
  | 0 => store
  | count + 1 => (trySaveToFirstFreeSlot backend keys (.ok (jsons count)) (savedStore store jsons count)).1

def saveResult (store : Store) (jsons : Nat → List UInt8) (number : Nat) : Except LlmKvCacheError Bool :=
  (trySaveToFirstFreeSlot backend keys (.ok (jsons number)) (savedStore backend keys store jsons number)).2

/-- How many of the first values the store takes. -/
def writtenCount (jsons : Nat → List UInt8) (count : Nat) : Nat :=
  (List.range count).countP fun number => writes backend (jsons number)

variable {backend keys} {store : Store} {jsons : Nat → List UInt8}

theorem freeKeys_eq_nil : freeKeys backend keys store = [] ↔ ∀ key ∈ keys, visible backend (store key) ≠ none := by
  simp [freeKeys, List.filter_eq_nil_iff]

theorem writes_visible {json : List UInt8} (written : writes backend json = true) (stored : Option (List UInt8)) :
    visible backend stored = stored := by
  have real : backend ≠ .internalStub := (of_decide_eq_true written).1
  rw [visible, if_neg real]

/-- A value that is written takes one key from the free ones. -/
theorem length_freeKeys_update {key json : List UInt8} (member : key ∈ keys) (empty : visible backend (store key) = none)
    (written : writes backend json = true) :
    (freeKeys backend keys (Function.update store key (some json))).length + 1 = (freeKeys backend keys store).length := by
  have listed : key ∈ freeKeys backend keys store :=
    List.mem_filter.mpr ⟨List.mem_dedup.mpr member, decide_eq_true empty⟩
  have distinct : (freeKeys backend keys store).Nodup := (List.nodup_dedup keys).filter _
  have removed : freeKeys backend keys (Function.update store key (some json)) = (freeKeys backend keys store).erase key := by
    rw [distinct.erase_eq_filter, freeKeys, freeKeys, List.filter_filter]
    apply List.filter_congr
    intro other _
    by_cases same : other = key
    · subst same
      simp [writes_visible written]
    · simp [same]
  have positive := List.length_pos_of_mem listed
  rw [removed, List.length_erase_of_mem listed]
  omega

theorem length_freeKeys_step (json : List UInt8) :
    (freeKeys backend keys (trySaveToFirstFreeSlot backend keys (.ok json) store).1).length =
      (freeKeys backend keys store).length - if writes backend json then 1 else 0 := by
  obtain ⟨full, same⟩ | ⟨key, member, empty, same⟩ := trySave_cases json store
  · rw [same, freeKeys_eq_nil.mpr full]
    simp
  · rw [same]
    by_cases written : writes backend json = true
    · have fewer := length_freeKeys_update member empty written
      simp only [written, if_true]
      omega
    · simp [written]

theorem writtenCount_succ (count : Nat) : writtenCount backend jsons (count + 1) =
    writtenCount backend jsons count + if writes backend (jsons count) then 1 else 0 := by
  unfold writtenCount
  rw [List.range_succ, List.countP_append, List.countP_singleton]

theorem length_freeKeys_saved (backend : Backend) (keys : List (List UInt8)) (store : Store) (jsons : Nat → List UInt8)
    (count : Nat) :
    (freeKeys backend keys (savedStore backend keys store jsons count)).length =
      (freeKeys backend keys store).length - writtenCount backend jsons count := by
  induction count with
  | zero => rfl
  | succ count ih =>
    rw [savedStore, length_freeKeys_step, ih, writtenCount_succ]
    omega

/-- A save is refused exactly when no key is free. -/
theorem saveResult_eq (number : Nat) :
    saveResult backend keys store jsons number =
      .ok (decide (freeKeys backend keys (savedStore backend keys store jsons number) ≠ [])) := by
  unfold saveResult
  obtain ⟨full, same⟩ | ⟨key, member, empty, same⟩ :=
    trySave_cases (jsons number) (savedStore backend keys store jsons number)
  · rw [same, freeKeys_eq_nil.mpr full]
    rfl
  · have free : freeKeys backend keys (savedStore backend keys store jsons number) ≠ [] := by
      intro nothing
      exact freeKeys_eq_nil.mp nothing key member empty
    rw [same, decide_eq_true free]

/-- What is stored under a key was stored there before, or is one of the values saved. -/
theorem savedStore_origin (key : List UInt8) (count : Nat) :
    savedStore backend keys store jsons count key = store key ∨
      ∃ number, savedStore backend keys store jsons count key = some (jsons number) := by
  induction count with
  | zero => exact .inl rfl
  | succ count ih =>
    rw [savedStore]
    obtain ⟨_, same⟩ | ⟨other, _, _, same⟩ :=
      trySave_cases (jsons count) (savedStore backend keys store jsons count)
    · rw [same]
      exact ih
    · rw [same]
      split
      · by_cases own : key = other
        · subst own
          exact .inr ⟨count, Function.update_self ..⟩
        · dsimp only
          rw [Function.update_of_ne own]
          exact ih
      · exact ih

end Saves

section Reads
variable {parse : List UInt8 → Option LlmCacheEntry} {backend : Backend} {keys : List (List UInt8)} {store : Store}

/-- What the reader makes of a slot. -/
def readSlot (parse : List UInt8 → Option LlmCacheEntry) (backend : Backend) (stored : Option (List UInt8)) :
    Option LlmCacheEntry :=
  (visible backend stored).bind parse

theorem readBucket_eq (draw : Nat) :
    readBucket parse (probe backend keys store) draw =
      if (keys.map fun key => readSlot parse backend (store key)).any Option.isNone then none
      else
        let entries := (keys.map fun key => readSlot parse backend (store key)).filterMap id
        match (List.range entries.length)[draw % entries.length]? with
        | none => none
        | some idx => entries[idx]?.map fun entry => (entry, idx) := by
  have outs : probe backend keys store = keys.map fun key => .ok (visible backend (store key)) := by
    simp only [probe, get_answered]
  have slots {f : Except LlmKvCacheError (Option (List UInt8)) → Option LlmCacheEntry}
      (same : ∀ value, f (.ok value) = value.bind parse) :
      (keys.map fun key => .ok (visible backend (store key))).map f =
        keys.map fun key => readSlot parse backend (store key) := by
    rw [List.map_map]
    apply List.map_congr_left
    intro key _
    exact same _
  unfold readBucket
  rewrite [outs, if_neg (by simp), slots (by rintro (_ | _) <;> rfl)]
  rfl

theorem readBucket_miss {key : List UInt8} (member : key ∈ keys) (empty : readSlot parse backend (store key) = none)
    (draw : Nat) : readBucket parse (probe backend keys store) draw = none := by
  rw [readBucket_eq, if_pos]
  simpa using ⟨key, member, empty⟩

/-- Slots that are all read are entries. -/
theorem all_read {slot : List UInt8 → Option LlmCacheEntry} (full : ∀ key ∈ keys, slot key ≠ none) :
    ∃ entries : List LlmCacheEntry, keys.map slot = entries.map some := by
  induction keys with
  | nil => exact ⟨[], rfl⟩
  | cons key rest ih =>
    obtain ⟨entries, same⟩ := ih fun other member => full other (List.mem_cons_of_mem key member)
    obtain ⟨entry, read⟩ := Option.ne_none_iff_exists'.mp (full key List.mem_cons_self)
    exact ⟨entry :: entries, by rw [List.map_cons, List.map_cons, read, same]⟩

theorem readBucket_hit (nonempty : keys ≠ []) (full : ∀ key ∈ keys, readSlot parse backend (store key) ≠ none) (draw : Nat) :
    ∃ entry idx key, readBucket parse (probe backend keys store) draw = some (entry, idx) ∧ keys[idx]? = some key ∧
      readSlot parse backend (store key) = some entry := by
  obtain ⟨entries, same⟩ := all_read full
  have count : keys.length = entries.length := by
    have lengths := congrArg List.length same
    simpa using lengths
  have inside : draw % entries.length < entries.length := by
    apply Nat.mod_lt
    rw [← count]
    exact List.length_pos_iff.mpr nonempty
  have present : draw % entries.length < keys.length := count ▸ inside
  refine ⟨entries[draw % entries.length], draw % entries.length, keys[draw % entries.length], ?_, ?_, ?_⟩
  · rw [readBucket_eq, same, if_neg (by simp)]
    simp [List.filterMap_map, inside]
  · exact List.getElem?_eq_getElem present
  · have slot := congrArg (fun list => list[draw % entries.length]?) same
    simpa [List.getElem?_eq_getElem, present, inside] using slot

end Reads

/-- Saving until it is refused comes to an end, with a bucket that is read whatever slot is
drawn; and no slot is occupied for the writer and empty for the reader. -/
structure SlotsAgree (parse : List UInt8 → Option LlmCacheEntry) (backend : Backend) (keys : List (List UInt8)) (store : Store)
    (jsons : Nat → List UInt8) : Prop where
  fills : ∃ count, saveResult backend keys store jsons count = .ok false ∧
    (∀ number < count, saveResult backend keys store jsons number = .ok true) ∧
    ∀ draw, ∃ entry idx key value,
      readBucket parse (probe backend keys (savedStore backend keys store jsons count)) draw = some (entry, idx) ∧
        keys[idx]? = some key ∧ savedStore backend keys store jsons count key = some value ∧ parse value = some entry
  same : ∀ key ∈ keys, ∀ value, backend.get .answered (store key) = .ok (some value) → parse value ≠ none

section Agreement
variable {parse : List UInt8 → Option LlmCacheEntry} {backend : Backend} {keys : List (List UInt8)} {store : Store}
  {jsons : Nat → List UInt8}

/-- The saves come to an end exactly when enough values are written for the free keys. -/
theorem saves_end_iff :
    (∃ count, saveResult backend keys store jsons count = .ok false) ↔
      ∃ count, (freeKeys backend keys store).length ≤ writtenCount backend jsons count := by
  apply exists_congr
  intro count
  have left := length_freeKeys_saved backend keys store jsons count
  rw [saveResult_eq, Except.ok.injEq, decide_eq_false_iff_not, not_not, ← List.length_eq_zero_iff]
  omega

/-- A backend that takes enough values for a bucket is a real one. -/
theorem real_of_written (nonempty : keys ≠ []) {count : Nat}
    (enough : (freeKeys backend keys store).length ≤ writtenCount backend jsons count) : backend ≠ .internalStub := by
  rintro rfl
  have nothing : writtenCount .internalStub jsons count = 0 := by simp [writtenCount, writes]
  rw [nothing] at enough
  have full := freeKeys_eq_nil.mp (List.eq_nil_of_length_eq_zero (Nat.le_zero.mp enough))
  obtain ⟨key, member⟩ := List.exists_mem_of_ne_nil keys nonempty
  exact full key member rfl

/-- A full bucket whose values are all entries is read. -/
theorem filled_read (nonempty : keys ≠ []) (real : backend ≠ .internalStub) {filled : Store}
    (full : freeKeys backend keys filled = []) (parsed : ∀ key ∈ keys, ∀ value, filled key = some value → parse value ≠ none)
    (draw : Nat) : ∃ entry idx key value, readBucket parse (probe backend keys filled) draw = some (entry, idx) ∧
      keys[idx]? = some key ∧ filled key = some value ∧ parse value = some entry := by
  have slot (key : List UInt8) : readSlot parse backend (filled key) = (filled key).bind parse := by
    rw [readSlot, visible, if_neg real]
  have readable : ∀ key ∈ keys, readSlot parse backend (filled key) ≠ none := by
    intro key member
    have stored := freeKeys_eq_nil.mp full key member
    rw [visible, if_neg real] at stored
    obtain ⟨value, held⟩ := Option.ne_none_iff_exists'.mp stored
    rw [slot, held]
    exact parsed key member value held
  obtain ⟨entry, idx, key, hit, listed, read⟩ := readBucket_hit nonempty readable draw
  rw [slot] at read
  obtain ⟨value, held, found⟩ := Option.bind_eq_some_iff.mp read
  exact ⟨entry, idx, key, value, hit, listed, held, found⟩

end Agreement

/-- Reader and writer agree exactly when what the bucket's keys hold are entries and enough
of the values to save are taken by the store. -/
theorem slots_agree_iff (parse : List UInt8 → Option LlmCacheEntry) (print : LlmCacheEntry → List UInt8) (backend : Backend)
    (keys : List (List UInt8)) (store : Store) (entries : Nat → LlmCacheEntry) (nonempty : keys ≠ [])
    (roundTrip : ∀ number, parse (print (entries number)) = some (entries number)) :
    SlotsAgree parse backend keys store (fun number => print (entries number)) ↔
      (∀ key ∈ keys, ∀ value, store key = some value → parse value ≠ none) ∧
        ∃ count, (freeKeys backend keys store).length ≤ writtenCount backend (fun number => print (entries number)) count := by
  constructor
  · intro ⟨⟨count, refused, _⟩, same⟩
    obtain ⟨count, enough⟩ := saves_end_iff.mp ⟨count, refused⟩
    refine ⟨?_, count, enough⟩
    intro key member value stored
    apply same key member value
    rw [get_answered, visible, if_neg (real_of_written nonempty enough), stored]
  · intro ⟨parsed, enough⟩
    have real : backend ≠ .internalStub := real_of_written nonempty enough.choose_spec
    have ends := saves_end_iff.mpr enough
    refine ⟨?_, ?_⟩
    · classical
      refine ⟨Nat.find ends, Nat.find_spec ends, ?_, ?_⟩
      · intro number earlier
        have accepted := Nat.find_min ends earlier
        rw [saveResult_eq] at accepted ⊢
        simpa using accepted
      · have full := Nat.find_spec ends
        rw [saveResult_eq, Except.ok.injEq, decide_eq_false_iff_not, not_not] at full
        apply filled_read nonempty real full
        intro key member value stored
        obtain before | ⟨number, saved⟩ := savedStore_origin key (Nat.find ends)
        · exact parsed key member value (before.symm.trans stored)
        · rw [stored] at saved
          rw [Option.some.inj saved, roundTrip]
          exact Option.some_ne_none _
    · intro key member value seen
      rw [get_answered, visible, if_neg real] at seen
      exact parsed key member value (Except.ok.inj seen)

def sampleEntry : LlmCacheEntry := ⟨[], 1, []⟩

/-- The text that the sample is stored as. -/
def sampleJson : List UInt8 :=
  "\x7b\"headers\":\x7b\x7d,\"latency\":1,\"body\":[]\x7d".toList.map fun c => UInt8.ofNat c.toNat

def parseSample (text : List UInt8) : Option LlmCacheEntry := if text = sampleJson then some sampleEntry else none

theorem empty_slots_agree :
    parseSample sampleJson = some sampleEntry ∧
      SlotsAgree parseSample .cloudflare [[1], [2]] (fun _ => none) (fun _ => sampleJson) := by
  have roundTrip : parseSample sampleJson = some sampleEntry := if_pos rfl
  refine ⟨roundTrip, ?_⟩
  apply (slots_agree_iff parseSample (fun _ => sampleJson) .cloudflare [[1], [2]] (fun _ => none) (fun _ => sampleEntry)
    (List.cons_ne_nil _ _) (fun _ => roundTrip)).mpr
  refine ⟨fun _ _ _ stored => absurd stored (Option.some_ne_none _).symm, 2, ?_⟩
  decide

/-- Every slot holds a text that is no entry. -/
def unreadable : Store := fun _ => some [120]

theorem unreadable_slot_disagrees :
    saveResult .cloudflare [[1]] unreadable (fun _ => sampleJson) 0 = .ok false ∧
      (∀ draw, readBucket parseSample (probe .cloudflare [[1]] unreadable) draw = none) ∧
      ¬ SlotsAgree parseSample .cloudflare [[1]] unreadable (fun _ => sampleJson) := by
  have rejected : parseSample [120] = none := by decide
  have empty : readSlot parseSample .cloudflare (unreadable [1]) = none := rejected
  refine ⟨by decide, ?_, ?_⟩
  · intro draw
    exact readBucket_miss List.mem_cons_self empty draw
  · intro agree
    exact agree.same [1] List.mem_cons_self [120] rfl rejected

end AiGateway.KvCache
