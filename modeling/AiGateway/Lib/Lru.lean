import Mathlib.Data.List.Nodup
import Mathlib.Data.List.Lookmap
import AiGateway.Lib.Entries

/-! Maps that hold a bounded number of entries and drop the one used least recently. What is
promised of them is that nothing is found but what was put last under its key, and nothing once it
was popped; what they drop besides is their own affair. -/

namespace AiGateway.Lib

structure Lru (κ α : Type) where
  Cache : Type
  new : Nat → Cache
  /-- The value under the key, which does not count as a use. -/
  peek : Cache → κ → Option α
  get : Cache → κ → Option α × Cache
  put : Cache → κ → α → Cache
  pop : Cache → κ → Cache
  get_fst : ∀ cache key, (get cache key).1 = peek cache key
  peek_get : ∀ {cache key other found}, peek (get cache key).2 other = some found → peek cache other = some found
  peek_put : ∀ {cache key value other found}, peek (put cache key value) other = some found →
    other = key ∧ found = value ∨ other ≠ key ∧ peek cache other = some found
  peek_pop : ∀ {cache key other found}, peek (pop cache key) other = some found →
    other ≠ key ∧ peek cache other = some found

namespace Lru

open Entries

/-- The entries, the most recently used one first. -/
structure Recent (κ α : Type) where
  capacity : Nat
  entries : List (κ × α)
  distinct : (entries.map Prod.fst).Nodup
  bounded : entries.length ≤ capacity

namespace Recent

variable {κ α : Type} [DecidableEq κ]

def peek (cache : Recent κ α) (key : κ) : Option α := cache.entries.lookup key

def pop (cache : Recent κ α) (key : κ) : Recent κ α where
  capacity := cache.capacity
  entries := others cache.entries key
  distinct := distinct_others cache.distinct key
  bounded := Nat.le_trans (List.length_filter_le _ _) cache.bounded

/-- The entry that does not fit any more is the last one. -/
def put (cache : Recent κ α) (key : κ) (value : α) : Recent κ α where
  capacity := cache.capacity
  entries := ((key, value) :: others cache.entries key).take cache.capacity
  distinct := by
    have whole := distinct_cons_others cache.distinct key value
    exact whole.sublist ((List.take_sublist _ _).map Prod.fst)
  bounded := List.length_take_le _ _

/-- The entry that is used moves to the front. -/
def get (cache : Recent κ α) (key : κ) : Option α × Recent κ α :=
  match cache.peek key with
  | none => (none, cache)
  | some value => (some value, cache.put key value)

section Lookup

/-- What is found among the first entries is found among all of them. -/
theorem lookup_take {entries : List (κ × α)} {count : Nat} {key : κ} {value : α}
    (found : (entries.take count).lookup key = some value) : entries.lookup key = some value := by
  induction entries generalizing count with
  | nil => simp at found
  | cons entry rest ih =>
    cases count with
    | zero => simp at found
    | succ count =>
      rw [List.take_succ_cons, List.lookup_cons] at found
      rw [List.lookup_cons]
      split
      · next here => simpa only [here] using found
      · next elsewhere =>
        simp only [elsewhere] at found
        exact ih found

end Lookup

variable {cache : Recent κ α}

theorem peek_pop {key other : κ} {found : α} (held : (cache.pop key).peek other = some found) :
    other ≠ key ∧ cache.peek other = some found := by
  by_cases same : other = key
  · subst same
    cases (lookup_filter_self cache.entries other).symm.trans held
  · exact ⟨same, (lookup_filter_ne same).symm.trans held⟩

/-- Putting an entry may drop others, and changes none. -/
theorem peek_put {key other : κ} {value found : α} (held : (cache.put key value).peek other = some found) :
    other = key ∧ found = value ∨ other ≠ key ∧ cache.peek other = some found := by
  have held := lookup_take held
  rw [List.lookup_cons] at held
  by_cases same : other = key
  · subst same
    rw [beq_self_eq_true] at held
    exact .inl ⟨rfl, (Option.some.inj held).symm⟩
  · rw [beq_false_of_ne same] at held
    exact .inr ⟨same, (lookup_filter_ne same).symm.trans held⟩

/-- Using an entry may reorder the others, and invents none. -/
theorem peek_get {key other : κ} {found : α} (held : (cache.get key).2.peek other = some found) :
    cache.peek other = some found := by
  rw [get] at held
  split at held
  · exact held
  · next value used =>
    obtain ⟨rfl, rfl⟩ | ⟨_, kept⟩ := peek_put held
    · exact used
    · exact kept

theorem get_fst (cache : Recent κ α) (key : κ) : (cache.get key).1 = cache.peek key := by
  rw [get]
  split
  · next absent => exact absent.symm
  · next used => exact used.symm

end Recent

/-- A list of its entries, with the last one dropped when there are too many, is such a map. -/
def recent (κ α : Type) [DecidableEq κ] : Lru κ α where
  Cache := Recent κ α
  new capacity := ⟨capacity, [], .nil, Nat.zero_le _⟩
  peek := Recent.peek
  get := Recent.get
  put := Recent.put
  pop := Recent.pop
  get_fst := Recent.get_fst
  peek_get := Recent.peek_get
  peek_put := Recent.peek_put
  peek_pop := Recent.peek_pop

end Lru

end AiGateway.Lib
