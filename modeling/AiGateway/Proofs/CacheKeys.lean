import Mathlib.Data.List.Infix
import Mathlib.Data.List.Nodup
import AiGateway.KvCache
import AiGateway.Lib.Cuts

/-! Which requests share cache slots. The key joins seed, URL, body and slot index without
separators, so two requests are kept apart exactly when no cut of one text can be moved to
give the other. -/

namespace AiGateway.Proofs
open KvCache Lib.Utf8 Lib.Cuts

structure CacheableRequest where
  cacheSeed : Option (List UInt8)
  targetUrl : List UInt8
  body : List UInt8

def CacheableRequest.fields (serde : SerdeJson) (request : CacheableRequest) : List (List UInt8) :=
  [request.cacheSeed.getD [], request.targetUrl, bodyForCache serde (lossy request.body) []]

def CacheableRequest.key (sha256Hex : List UInt8 → List UInt8) (serde : SerdeJson) (request : CacheableRequest)
    (index : UInt8) : List UInt8 :=
  llmKvSlotKey sha256Hex serde request.cacheSeed request.targetUrl request.body index

/-- The fields of one request are a recut of the other's, as they are or with a decimal
slot index at the end of one of them. -/
def Confusable (left right : List (List UInt8)) : Prop :=
  Recut left right ∨ ∃ index : UInt8, 1 ≤ index ∧
    (Recut left (right ++ [decimal index]) ∨ Recut (left ++ [decimal index]) right)

private def indexText (index : UInt8) : List UInt8 := if 1 ≤ index then decimal index else []

private def decimalValue (digits : List UInt8) : UInt8 :=
  digits.foldl (fun value digit => value * 10 + (digit - 48)) 0

private theorem decimal_checked :
    ∀ index : Fin 256, 1 ≤ index.val → decimal (UInt8.ofNat index) ≠ [] ∧
      decimalValue (decimal (UInt8.ofNat index)) = UInt8.ofNat index ∧
      ∀ digits ∈ (decimal (UInt8.ofNat index)).inits, digits ≠ [] →
        1 ≤ decimalValue digits ∧ decimal (decimalValue digits) = digits := by
  decide +kernel

private theorem decimal_facts {index : UInt8} (positive : 1 ≤ index) :
    decimal index ≠ [] ∧ decimalValue (decimal index) = index ∧
      ∀ digits ∈ (decimal index).inits, digits ≠ [] →
        1 ≤ decimalValue digits ∧ decimal (decimalValue digits) = digits := by
  have checked := decimal_checked ⟨index.toNat, index.toNat_lt⟩ (by simpa [UInt8.le_iff_toNat_le] using positive)
  simpa using checked

private theorem decimal_leading {index : UInt8} {digits rest : List UInt8} (positive : 1 ≤ index)
    (split : digits ++ rest = decimal index) (nonempty : digits ≠ []) :
    ∃ shorter : UInt8, 1 ≤ shorter ∧ digits = decimal shorter := by
  have leading : digits ∈ (decimal index).inits := (List.mem_inits digits _).mpr ⟨rest, split⟩
  obtain ⟨shorter, same⟩ := (decimal_facts positive).2.2 digits leading nonempty
  exact ⟨decimalValue digits, shorter, same.symm⟩

private theorem indexText_leading {index : UInt8} {digits rest : List UInt8} (split : indexText index = digits ++ rest)
    (nonempty : digits ≠ []) : ∃ shorter : UInt8, 1 ≤ shorter ∧ digits = decimal shorter := by
  unfold indexText at split
  split at split
  next positive => exact decimal_leading positive split.symm nonempty
  next =>
    obtain ⟨empty, _⟩ := List.append_eq_nil_iff.mp split.symm
    exact absurd empty nonempty

private theorem indexText_injective {left right : UInt8} (same : indexText left = indexText right) : left = right := by
  unfold indexText at same
  split at same <;> split at same
  next leftPositive rightPositive =>
    rw [← (decimal_facts leftPositive).2.1, same, (decimal_facts rightPositive).2.1]
  next leftPositive _ => exact absurd same (decimal_facts leftPositive).1
  next rightPositive => exact absurd same.symm (decimal_facts rightPositive).1
  next leftZero rightZero =>
    simp only [UInt8.le_iff_toNat_le, UInt8.toNat_one, not_le] at leftZero rightZero
    exact UInt8.toNat_inj.mp (by omega)

private theorem meet_iff (left right : List UInt8) :
    (∃ i j, left ++ indexText i = right ++ indexText j) ↔
      left = right ∨ ∃ index : UInt8, 1 ≤ index ∧ (left = right ++ decimal index ∨ left ++ decimal index = right) := by
  constructor
  · intro ⟨i, j, meet⟩
    obtain ⟨excess, rfl, rest⟩ | ⟨excess, rfl, rest⟩ := List.append_eq_append_iff.mp meet
    · by_cases empty : excess = []
      · exact .inl (by simp [empty])
      · obtain ⟨index, positive, rfl⟩ := indexText_leading rest empty
        exact .inr ⟨index, positive, .inr rfl⟩
    · by_cases empty : excess = []
      · exact .inl (by simp [empty])
      · obtain ⟨index, positive, rfl⟩ := indexText_leading rest empty
        exact .inr ⟨index, positive, .inl rfl⟩
  · rintro (rfl | ⟨index, positive, rfl | rfl⟩)
    · exact ⟨0, 0, rfl⟩
    · exact ⟨0, index, by simp [indexText, positive]⟩
    · exact ⟨index, 0, by simp [indexText, positive]⟩

private theorem confusable_iff (left right : List (List UInt8)) :
    Confusable left right ↔ ∃ i j, left.flatten ++ indexText i = right.flatten ++ indexText j := by
  simp only [Confusable, recut_iff, List.flatten_append, List.flatten_singleton]
  exact (meet_iff left.flatten right.flatten).symm

private theorem key_eq (sha256Hex : List UInt8 → List UInt8) (serde : SerdeJson) (request : CacheableRequest)
    (index : UInt8) :
    request.key sha256Hex serde index = sha256Hex ((request.fields serde).flatten ++ indexText index) := by
  unfold CacheableRequest.key llmKvSlotKey kvKeySha256Hex CacheableRequest.fields indexText
  split <;> simp

section Separation
variable {sha256Hex : List UInt8 → List UInt8} (serde : SerdeJson)

private theorem own_slots_distinct (injective : Function.Injective sha256Hex) (request : CacheableRequest)
    {i j : UInt8} (different : i ≠ j) : request.key sha256Hex serde i ≠ request.key sha256Hex serde j := by
  rw [key_eq, key_eq]
  intro same
  exact different (indexText_injective (List.append_cancel_left (injective same)))

private theorem separate_iff (injective : Function.Injective sha256Hex) (left right : CacheableRequest) :
    (∀ i j, left.key sha256Hex serde i ≠ right.key sha256Hex serde j) ↔
      ¬ Confusable (left.fields serde) (right.fields serde) := by
  rw [confusable_iff]
  simp only [key_eq, not_exists, ne_eq, injective.eq_iff]

/-- Requests that differ have no slot in common, and a request's own slots differ, exactly
when the requests are the same or cannot be confused. -/
theorem slot_keys_separate_iff (injective : Function.Injective sha256Hex) (left right : CacheableRequest) :
    ((left.fields serde ≠ right.fields serde →
        ∀ i j, left.key sha256Hex serde i ≠ right.key sha256Hex serde j) ∧
      ∀ i j, i ≠ j → left.key sha256Hex serde i ≠ left.key sha256Hex serde j) ↔
      (left.fields serde = right.fields serde ∨ ¬ Confusable (left.fields serde) (right.fields serde)) := by
  rw [separate_iff serde injective]
  constructor
  · intro ⟨separate, _⟩
    exact or_iff_not_imp_left.mpr separate
  · intro apart
    exact ⟨fun different => apart.resolve_left different, fun i j => own_slots_distinct serde injective left⟩

/-- A request's slots, as the dispatcher hands them to a save. -/
def requestBucket (injective : Function.Injective sha256Hex) (settings : CacheSettings) (targetUrl body : List UInt8) :
    Bucket where
  keys := llmKvSlotKeys sha256Hex serde settings targetUrl body
  nodup := by
    refine List.Nodup.map_on ?_ List.nodup_range
    intro i inside j alsoInside same
    by_contra different
    have short := settings.inRange.2
    simp only [List.mem_range, UInt8.le_iff_toNat_le] at inside alsoInside short
    have bound : (20 : UInt8).toNat = 20 := rfl
    have size : UInt8.size = 256 := rfl
    refine own_slots_distinct serde injective ⟨settings.cacheSeed, targetUrl, body⟩ ?_ same
    intro equal
    have numbers := congrArg UInt8.toNat equal
    rw [UInt8.toNat_ofNat_of_lt' (by omega), UInt8.toNat_ofNat_of_lt' (by omega)] at numbers
    exact different numbers

end Separation

/-- Bodies taken as they are, which is what printing gives for a body already in the
printed form. -/
def verbatimJson : SerdeJson := ⟨List UInt8, some, fun value _ => value, id⟩

def embeddingRequest (cacheSeed body : List UInt8) : CacheableRequest :=
  ⟨some cacheSeed, "https://api.openai.com/v1/embeddings".toUTF8.toList, body⟩

private theorem seeds_not_confusable :
    ¬ Confusable ((embeddingRequest [97] [49]).fields verbatimJson) ((embeddingRequest [98] [49]).fields verbatimJson) := by
  rintro (cut | ⟨index, _, cut | cut⟩)
  all_goals
    have heads := congrArg List.head? cut.flatten_eq
    exact absurd heads (by simp [CacheableRequest.fields, embeddingRequest])

theorem seeds_separate :
    (embeddingRequest [97] [49]).key id verbatimJson 1 ≠ (embeddingRequest [98] [49]).key id verbatimJson 1 :=
  ((slot_keys_separate_iff verbatimJson Function.injective_id _ _).mpr (.inr seeds_not_confusable)).1
    (by decide +kernel) 1 1

/-- The bodies `11` and `1` differ, and slot 0 of the one is slot 1 of the other. -/
theorem slot_keys_shared :
    ¬ ∀ (left right : CacheableRequest), left.fields verbatimJson ≠ right.fields verbatimJson →
      ∀ i j, left.key id verbatimJson i ≠ right.key id verbatimJson j := by
  intro separate
  exact separate (embeddingRequest [] [49, 49]) (embeddingRequest [] [49]) (by decide +kernel) 0 1 (by decide +kernel)

end AiGateway.Proofs
