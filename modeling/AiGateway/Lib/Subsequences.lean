import Mathlib.Data.List.Forall2
import Mathlib.Data.List.Infix
import Mathlib.Data.List.Flatten

/-! Lists whose elements all have their counterparts in another list, in the same order. -/

namespace AiGateway.Lib.Subsequences

open List

variable {α β γ ι : Type} {related : α → β → Prop}

theorem sublistForall₂_append {first second : List α} {found other : List β}
    (early : SublistForall₂ related first found) (late : SublistForall₂ related second other) :
    SublistForall₂ related (first ++ second) (found ++ other) := by
  induction early with
  | @nil found =>
    induction found with
    | nil => exact late
    | cons extra rest ih => exact .cons_right ih
  | cons pair rest ih => exact .cons pair ih
  | cons_right rest ih => exact .cons_right ih

theorem sublistForall₂_of_sublist {first second : List α} {found : List β} (fewer : first <+ second)
    (held : SublistForall₂ related second found) : SublistForall₂ related first found := by
  induction held generalizing first with
  | nil => rw [sublist_nil.mp fewer]; exact .nil
  | cons pair rest ih =>
    cases fewer with
    | cons _ fewer => exact .cons_right (ih fewer)
    | cons_cons _ fewer => exact .cons pair (ih fewer)
  | cons_right rest ih => exact .cons_right (ih fewer)

theorem sublistForall₂_map {items : List ι} {image : ι → α} {counterpart : ι → β}
    (pairs : ∀ item ∈ items, related (image item) (counterpart item)) :
    SublistForall₂ related (items.map image) (items.map counterpart) := by
  induction items with
  | nil => exact .nil
  | cons item rest ih =>
    exact .cons (pairs item mem_cons_self) (ih fun other member => pairs other (mem_cons_of_mem _ member))

/-- What each item asks for is found in what it turns into. -/
theorem sublistForall₂_filterMap {items : List ι} {asked : ι → List α} {turned : ι → Option γ} {held : γ → List β}
    (each : ∀ item ∈ items, SublistForall₂ related (asked item) ((turned item).toList.flatMap held)) :
    SublistForall₂ related (items.flatMap asked) ((items.filterMap turned).flatMap held) := by
  induction items with
  | nil => exact .nil
  | cons item rest ih =>
    have first := each item mem_cons_self
    have later := ih fun other member => each other (mem_cons_of_mem _ member)
    have joined := sublistForall₂_append first later
    cases become : turned item with
    | none => rw [flatMap_cons, filterMap_cons_none become]; simpa [become] using joined
    | some value => rw [flatMap_cons, filterMap_cons_some become]; simpa [become] using joined

/-- What is wanted of the items is found in order just when each item that wants something finds
it, where what an item wants does not depend on where else it is found. -/
theorem filterMap_sublist_iff {wanted found : ι → Option α} {items : List ι}
    (determined : ∀ item other value, wanted item = some value → found other = some value → found item = some value) :
    items.filterMap wanted <+ items.filterMap found ↔
      ∀ item ∈ items, ∀ value, wanted item = some value → found item = some value := by
  constructor
  · intro fewer item member value asked
    obtain ⟨other, _, held⟩ := mem_filterMap.mp (fewer.subset (mem_filterMap.mpr ⟨item, member, asked⟩))
    exact determined item other value asked held
  · intro each
    induction items with
    | nil => exact .slnil
    | cons item rest ih =>
      have later := ih fun other member => each other (mem_cons_of_mem _ member)
      cases asked : wanted item with
      | none =>
        rw [filterMap_cons_none asked, filterMap_cons]
        cases found item with
        | none => exact later
        | some => exact later.cons _
      | some value =>
        rw [filterMap_cons_some asked, filterMap_cons_some (each item mem_cons_self value asked)]
        exact later.cons_cons _

/-- What is held of the values that items turn into, item by item. -/
theorem flatMap_filterMap {items : List ι} {turned : ι → Option γ} {held : γ → List β} :
    (items.filterMap turned).flatMap held = items.flatMap fun item => (turned item).toList.flatMap held := by
  induction items with
  | nil => rfl
  | cons item rest ih =>
    rw [flatMap_cons, ← ih]
    cases become : turned item with
    | none => rw [filterMap_cons_none become]; rfl
    | some value => rw [filterMap_cons_some become, flatMap_cons]; simp

/-- What is found in an item is what can be read in its parts. -/
theorem filterMap_parts {items : List ι} {found : ι → Option α} {parts : ι → List γ} {read : γ → Option α}
    (each : ∀ item ∈ items, (found item).toList = (parts item).filterMap read) :
    items.filterMap found = (items.flatMap parts).filterMap read := by
  rw [filterMap_eq_flatMap_toList, filterMap_flatMap]
  exact flatMap_congr each

theorem exists_of_sublistForall₂ {items : List α} {found : List β} (held : SublistForall₂ related items found)
    {item : α} (member : item ∈ items) : ∃ other ∈ found, related item other := by
  induction held with
  | nil => cases member
  | @cons first other _ _ pair rest ih =>
    rcases mem_cons.mp member with rfl | later
    · exact ⟨other, mem_cons_self, pair⟩
    · obtain ⟨counterpart, inside, same⟩ := ih later
      exact ⟨counterpart, mem_cons_of_mem _ inside, same⟩
  | cons_right rest ih =>
    obtain ⟨counterpart, inside, same⟩ := ih member
    exact ⟨counterpart, mem_cons_of_mem _ inside, same⟩

section Counts
variable {counted : α → Bool} {counts : β → Bool}

/-- Counterparts are counted where the elements are. -/
theorem countP_le_of_sublistForall₂ {items : List α} {found : List β} (held : SublistForall₂ related items found)
    (kept : ∀ item other, related item other → counted item = true → counts other = true) :
    items.countP counted ≤ found.countP counts := by
  induction held with
  | nil => exact Nat.zero_le _
  | @cons first other _ _ pair rest ih =>
    rw [countP_cons, countP_cons]
    have step := kept first other pair
    split <;> split <;> grind
  | cons_right rest ih =>
    rw [countP_cons]
    omega

variable {asked : ι → List α} {held : ι → List β} {items : List ι}

theorem countP_flatMap_le (fewer : ∀ item ∈ items, (held item).countP counts ≤ (asked item).countP counted) :
    (items.flatMap held).countP counts ≤ (items.flatMap asked).countP counted := by
  induction items with
  | nil => exact Nat.le_refl 0
  | cons item rest ih =>
    have first := fewer item mem_cons_self
    have later := ih fun other member => fewer other (mem_cons_of_mem _ member)
    rw [flatMap_cons, flatMap_cons, countP_append, countP_append]
    omega

/-- Where no item holds more than it is asked for, they can only hold enough together if each
does. -/
theorem countP_le_of_flatMap (fewer : ∀ item ∈ items, (held item).countP counts ≤ (asked item).countP counted)
    (enough : (items.flatMap asked).countP counted ≤ (items.flatMap held).countP counts) :
    ∀ item ∈ items, (asked item).countP counted ≤ (held item).countP counts := by
  induction items with
  | nil => exact fun item none => nomatch none
  | cons head rest ih =>
    have first := fewer head mem_cons_self
    have fewerLater := fun other member => fewer other (mem_cons_of_mem head member)
    have later := countP_flatMap_le fewerLater
    rw [flatMap_cons, flatMap_cons, countP_append, countP_append] at enough
    intro item member
    rcases mem_cons.mp member with rfl | inside
    · omega
    · exact ih fewerLater (by omega) item inside

end Counts

theorem infix_intercalate {separator part : List α} {parts : List (List α)} (member : part ∈ parts) :
    part <:+: separator.intercalate parts := by
  induction parts with
  | nil => cases member
  | cons head rest ih =>
    cases rest with
    | nil =>
      obtain rfl := mem_singleton.mp member
      exact ⟨[], [], by simp⟩
    | cons next rest =>
      rw [intercalate_cons_cons]
      rcases mem_cons.mp member with rfl | later
      · exact ⟨[], _, by rw [nil_append, append_assoc]⟩
      · exact (ih later).trans (suffix_append _ _).isInfix

end AiGateway.Lib.Subsequences
