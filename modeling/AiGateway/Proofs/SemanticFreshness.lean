import Mathlib
import AiGateway.Proofs.SemanticIsolation

/-! How long the semantic cache keeps an answer: when a point expires, and whether points that
have expired stand in the way of those that have not. -/

namespace AiGateway.SemanticCache

open Lib.Runs

section Expiry
variable (pointId : List Char → List Char → UInt64)

/-- The point carries the time of its storing and its time to live added as whole numbers, and
is read again up to just the time that these make. -/
def ExpiresExactly (write : SemanticWriteContext) (now : Int64) : Prop :=
  let payload := (pointStruct pointId write now).payload
  payload.expiresAt.map Int64.toInt =
      (if write.ttlSeconds = 0 then none else some (now.toInt + min write.ttlSeconds.toNat (2 ^ 63 - 1))) ∧
    (write.ttlSeconds ≠ 0 → ∀ later : Int64,
      (decodePayloadIfFresh payload later).isSome ↔ later.toInt ≤ now.toInt + write.ttlSeconds.toNat)

variable {pointId}

theorem clampI64_toInt (value : UInt64) : (clampI64 value).toInt = min value.toNat (2 ^ 63 - 1) := by
  have size : UInt64.size / 2 = 2 ^ 63 := rfl
  unfold clampI64
  split
  · have read : value.toInt64.toInt = Int.bmod value.toNat (2 ^ 64) := BitVec.toInt_eq_toNat_bmod value.toBitVec
    rw [read, Int.bmod_eq_of_le (by omega) (by omega)]
    omega
  · have largest : Int64.maxValue.toInt = 2 ^ 63 - 1 := rfl
    omega

theorem isFresh_iff {payload : QdrantPointPayload} {expiresAt : Int64} (expires : payload.expiresAt = some expiresAt)
    (later : Int64) : isFresh payload later = true ↔ (0 < expiresAt.toInt → later.toInt ≤ expiresAt.toInt) := by
  unfold isFresh
  rw [expires]
  simp only [Bool.not_eq_true', Bool.and_eq_false_imp, decide_eq_true_eq, decide_eq_false_iff_not,
    Int64.lt_iff_toInt_lt, Int64.toInt_zero, Int.not_lt]

theorem decodePayloadIfFresh_isSome (payload : QdrantPointPayload) (now : Int64) :
    (decodePayloadIfFresh payload now).isSome ↔
      isFresh payload now = true ∧ (Lib.Base64.decode payload.responseB64).isSome = true := by
  unfold decodePayloadIfFresh
  cases isFresh payload now with
  | false => simp
  | true => simp

/-- What was stored can be decoded, so only its expiry counts. -/
theorem pointStruct_decodes (write : SemanticWriteContext) (now later : Int64) :
    (decodePayloadIfFresh (pointStruct pointId write now).payload later).isSome ↔
      isFresh (pointStruct pointId write now).payload later = true := by
  rw [decodePayloadIfFresh_isSome]
  simp [pointStruct, Lib.Base64.decode_encode]

/-- The sum of two times that are not negative either stays within an `i64` or wraps to a
negative one. -/
theorem toInt_add_nonneg {now ttl : Int64} (nowNonneg : 0 ≤ now.toInt) (ttlNonneg : 0 ≤ ttl.toInt) :
    (now.toInt + ttl.toInt < 2 ^ 63 ∧ (now + ttl).toInt = now.toInt + ttl.toInt) ∨
      (2 ^ 63 ≤ now.toInt + ttl.toInt ∧ (now + ttl).toInt < 0) := by
  have nowBound := now.toInt_lt
  have ttlBound := ttl.toInt_lt
  rw [Int64.toInt_add]
  by_cases fits : now.toInt + ttl.toInt < 2 ^ 63
  · exact Or.inl ⟨fits, Int.bmod_eq_of_le (by omega) (by omega)⟩
  · refine Or.inr ⟨by omega, ?_⟩
    have wrapped : (now.toInt + ttl.toInt).bmod (2 ^ 64) = now.toInt + ttl.toInt - 2 ^ 64 := by
      rw [← Int.sub_bmod_right, Int.bmod_eq_of_le (by omega) (by omega)]
      rfl
    omega

/-- The sum is read as it was meant just where it fits; a wrapped one is read as no expiry,
which no time tells from the one that was meant. -/
theorem expiresExactly_iff (write : SemanticWriteContext) (secs : UInt64) :
    ExpiresExactly pointId write (nowUnix secs) ↔
      write.ttlSeconds = 0 ∨ (nowUnix secs).toInt + min write.ttlSeconds.toNat (2 ^ 63 - 1) < 2 ^ 63 := by
  unfold ExpiresExactly
  by_cases zero : write.ttlSeconds = 0
  · simp [pointStruct, zero]
  · have expires : (pointStruct pointId write (nowUnix secs)).payload.expiresAt =
        some (nowUnix secs + clampI64 write.ttlSeconds) := by
      simp [pointStruct, zero, clampI64]
    have positive : 0 < write.ttlSeconds.toNat := by
      rw [Nat.pos_iff_ne_zero]
      intro none
      exact zero (UInt64.toNat_inj.mp none)
    have held := clampI64_toInt write.ttlSeconds
    have nonneg : 0 ≤ (nowUnix secs).toInt := by
      rw [nowUnix, clampI64_toInt]
      omega
    have heldNonneg : 0 ≤ (clampI64 write.ttlSeconds).toInt := by omega
    have sum := toInt_add_nonneg nonneg heldNonneg
    simp only [zero, if_false, false_or, not_false_eq_true, ne_eq, forall_const, expires, Option.map_some,
      Option.some.injEq]
    constructor
    · intro ⟨exact, _⟩
      omega
    · intro fits
      refine ⟨by omega, fun later => ?_⟩
      rw [pointStruct_decodes, isFresh_iff expires]
      have bound := later.toInt_lt
      omega

def endlessTtl : HeaderMap where
  get
    | "Alephant-Cache-Ttl" => some (.visible "18446744073709551615".toList (visible_of_all (by decide)))
    | _ => none

/-- The largest time to live is taken for the largest `i64`, and the sum with the time of the
storing is negative. -/
theorem endless_ttl_wraps :
    ∃ policy, SemanticPolicy.fromHeaders .byBits endlessTtl helloDefaults = .ok policy ∧
      (pointStruct (fun _ _ => 7) ⟨[], [], [], [], [], policy.ttlSeconds⟩ (nowUnix 1700000000)).payload.expiresAt =
        some (-9223372035154775809) ∧
      ¬ ExpiresExactly (fun _ _ => 7) ⟨[], [], [], [], [], policy.ttlSeconds⟩ (nowUnix 1700000000) := by
  refine ⟨⟨0x3F6B851F, 18446744073709551615⟩, by decide +kernel, by decide +kernel, ?_⟩
  intro ⟨exact, _⟩
  have wrapped : ¬ some (-9223372035154775809 : Int) = some (1700000000 + (2 ^ 63 - 1)) := by decide
  exact wrapped exact

end Expiry

section Hidden
variable {floats : Floats} {sha256Hex : List Char → List Char} {fromSlice : List UInt8 → Option Json}
variable {points : List Point} {prepared : PreparedSemanticRequest} {answers : Answers} {write : SemanticWriteContext}
variable {score : Point → UInt32} {ranking : List (Nat × UInt32)} {now : Int64}

/-- The bits of a single that is a number. -/
def isNumber (bits : UInt32) : Bool := bits &&& 0x7FFFFFFF ≤ 0x7F800000

/-- Not being less passes on through numbers. -/
def Floats.Ordered (floats : Floats) : Prop :=
  ∀ first second third, isNumber second = true → floats.less first second = false →
    floats.less second third = false → floats.less first third = false

def Floats.atLeast (floats : Floats) (value bound : UInt32) : Bool :=
  isNumber value && isNumber bound && !floats.less value bound

/-- What the filter of a search lets through. -/
def Matches (write : SemanticWriteContext) (point : Point) : Prop :=
  point.collection = write.collection ∧ point.payload.paramsHash = write.paramsHash

/-- The matching points by their positions, each with its score, the best ones first. -/
structure Ranks (floats : Floats) (score : Point → UInt32) (points : List Point) (write : SemanticWriteContext)
    (ranking : List (Nat × UInt32)) : Prop where
  listed : ∀ index value, (index, value) ∈ ranking ↔
    ∃ point, points[index]? = some point ∧ Matches write point ∧ value = score point
  ordered : ranking.Pairwise fun better worse => floats.less better.2 worse.2 = false

/-- The store answers with the best of the matching points up to the limit, which is one. -/
def searched (ranking : List (Nat × UInt32)) : SearchAnswer := .ok (ranking.take 1).head?

/-- A point that a lookup could be answered with. -/
def Servable (floats : Floats) (score : Point → UInt32) (prepared : PreparedSemanticRequest)
    (write : SemanticWriteContext) (now : Int64) (point : Point) : Prop :=
  Matches write point ∧ isFresh point.payload now = true ∧ floats.atLeast (score point) prepared.policy.threshold = true

/-- The point that the store ranks first has not expired, and its answer is base64. -/
def FirstUsable (points : List Point) (ranking : List (Nat × UInt32)) (now : Int64) : Prop :=
  ∀ index value, ranking.head? = some (index, value) → ∀ point, points[index]? = some point →
    isFresh point.payload now = true ∧ (Lib.Base64.decode point.payload.responseB64).isSome = true

theorem resolved_vector (resolved : resolveVectorContext floats sha256Hex fromSlice prepared answers = .ok write) :
    write.vector.isEmpty = false := by
  unfold resolveVectorContext at resolved
  obtain ⟨baseUrl, _, resolved⟩ := bind_ok resolved
  obtain ⟨vector, _, resolved⟩ := bind_ok resolved
  obtain ⟨collection, named, resolved⟩ := bind_ok resolved
  obtain ⟨_, _, resolved⟩ := bind_ok resolved
  obtain ⟨built, _, resolved⟩ := bind_ok resolved
  cases resolved
  -- No collection is named for a vector without elements.
  cases vector with
  | nil => cases named
  | cons _ _ => rfl

theorem Ranks.first (ranks : Ranks floats score points write ranking) {index : Nat} {value : UInt32}
    (first : ranking.head? = some (index, value)) :
    ∃ point, points[index]? = some point ∧ Matches write point ∧ value = score point :=
  (ranks.listed index value).mp (List.mem_of_mem_head? first)

theorem Ranks.best (ranks : Ranks floats score points write ranking) {index : Nat} {value : UInt32}
    (first : ranking.head? = some (index, value)) {point : Point} (member : point ∈ points)
    (passes : Matches write point) : value = score point ∨ floats.less value (score point) = false := by
  obtain ⟨position, bound, rfl⟩ := List.getElem_of_mem member
  have listed := (ranks.listed position (score points[position])).mpr
    ⟨_, List.getElem?_eq_getElem bound, passes, rfl⟩
  have ordered := ranks.ordered
  cases ranking with
  | nil => cases first
  | cons head rest =>
    cases first
    rcases List.mem_cons.mp listed with same | later
    · exact Or.inl (congrArg Prod.snd same).symm
    · exact Or.inr ((List.pairwise_cons.mp ordered).1 _ later)

variable (floats sha256Hex fromSlice) in
/-- The lookup is answered from the cache. -/
def Hits (points : List Point) (prepared : PreparedSemanticRequest) (answers : Answers) (answer : SearchAnswer)
    (now : Int64) : Prop :=
  ∃ hit, tryHitPrepared floats sha256Hex fromSlice points prepared answers answer now = .ok ⟨some hit, none⟩

/-- Only the point ranked first is looked at. -/
theorem hits_first (resolved : resolveVectorContext floats sha256Hex fromSlice prepared answers = .ok write)
    {index : Nat} {value : UInt32} (first : ranking.head? = some (index, value)) {point : Point}
    (held : points[index]? = some point) (passes : Matches write point) :
    Hits floats sha256Hex fromSlice points prepared answers (searched ranking) now ↔
      (decodePayloadIfFresh point.payload now).isSome ∧ floats.less value prepared.policy.threshold = false := by
  have answered : searched ranking = .ok (some (index, value)) := by
    rw [searched, List.head?_take, if_neg Nat.one_ne_zero, first]
  have found : searchTop1 points (searched ranking) write.collection write.vector write.paramsHash now =
      .ok ((decodePayloadIfFresh point.payload now).map fun decoded => ⟨decoded.cacheKey, decoded.response, value⟩) := by
    rw [answered, searchTop1, resolved_vector resolved]
    simp only [Bool.false_eq_true, if_false, bind, Except.bind, held, passes.1, passes.2, and_self, if_true]
    cases decodePayloadIfFresh point.payload now <;> rfl
  unfold Hits tryHitPrepared
  rw [resolved]
  simp only [bind, Except.bind, found]
  cases decodePayloadIfFresh point.payload now with
  | none => simp [pure, Except.pure]
  | some decoded =>
    simp only [Option.map_some, Option.isSome_some, true_and]
    cases floats.less value prepared.policy.threshold with
    | false => simp [pure, Except.pure]
    | true => simp [pure, Except.pure]

/-- A point that could be served is a hit just where the one ranked first has not expired and can
be decoded. -/
theorem servable_hit_iff (lawful : floats.Ordered)
    (resolved : resolveVectorContext floats sha256Hex fromSlice prepared answers = .ok write)
    (ranks : Ranks floats score points write ranking) :
    ((∃ point ∈ points, Servable floats score prepared write now point) →
        Hits floats sha256Hex fromSlice points prepared answers (searched ranking) now) ↔
      ((∃ point ∈ points, Servable floats score prepared write now point) → FirstUsable points ranking now) := by
  apply imp_congr_right
  intro ⟨point, member, passes, fresh, enough⟩
  obtain ⟨position, bound, rfl⟩ := List.getElem_of_mem member
  have listed := (ranks.listed position (score points[position])).mpr ⟨_, List.getElem?_eq_getElem bound, passes, rfl⟩
  obtain ⟨⟨index, value⟩, first⟩ := Option.isSome_iff_exists.mp (List.isSome_head?.mpr (List.ne_nil_of_mem listed))
  obtain ⟨top, held, topPasses, _⟩ := ranks.first first
  rw [hits_first resolved first held topPasses, decodePayloadIfFresh_isSome]
  constructor
  · rintro ⟨usable, _⟩ index' value' first' point' held'
    rw [first] at first'
    cases first'
    rw [held] at held'
    cases held'
    exact usable
  · intro firstUsable
    refine ⟨firstUsable index value first top held, ?_⟩
    simp only [Floats.atLeast, Bool.and_eq_true, Bool.not_eq_true'] at enough
    obtain ⟨⟨number, _⟩, reached⟩ := enough
    rcases ranks.best first member passes with same | better
    · rw [same]
      exact reached
    · exact lawful _ _ _ number better reached

theorem Floats.byBits_ordered : Floats.byBits.Ordered := by
  intro first second third _ better reached
  simp only [Floats.byBits, decide_eq_false_iff_not, UInt32.not_lt] at *
  exact UInt32.le_trans reached better

def helloPrepared : PreparedSemanticRequest where
  path := (helloCall "Be brief.").path
  body := helloBody "Be brief."
  embedText := "Hello".toList
  policy := ⟨0x3F6B851F, 3600⟩
  embeddingIdentity := ⟨"openai".toList, "text-embedding-3-small".toList, false⟩
  apiKey := "sk-1".toList

theorem hello_resolved :
    ∃ write, resolveVectorContext .byBits id helloSlice helloPrepared (helloCall "Be brief.").answers = .ok write := by
  have found : (resolveVectorContext .byBits id helloSlice helloPrepared
      (helloCall "Be brief.").answers).toOption.isSome = true := by
    decide +kernel
  cases resolved : resolveVectorContext .byBits id helloSlice helloPrepared (helloCall "Be brief.").answers with
  | error => rw [resolved] at found; cases found
  | ok write => exact ⟨write, rfl⟩

/-- Two points under one hash: the nearer one expires first. -/
def agedPoints (write : SemanticWriteContext) : List Point :=
  let response := Lib.Base64.encode helloAnswer
  [⟨write.collection, 1, [0x3F800000], ⟨"near".toList, write.paramsHash, response, some 1500⟩⟩,
    ⟨write.collection, 2, [0x3F800001], ⟨"far".toList, write.paramsHash, response, some 5000⟩⟩]

def agedScore (point : Point) : UInt32 := if point.id = 1 then 0x3F7FFFFF else 0x3F7FFFFE

def agedRanking : List (Nat × UInt32) := [(0, 0x3F7FFFFF), (1, 0x3F7FFFFE)]

theorem agedPoints_ranked (write : SemanticWriteContext) :
    Ranks .byBits agedScore (agedPoints write) write agedRanking where
  listed index value := by
    match index with
    | 0 => simp [agedRanking, agedPoints, Matches, agedScore]
    | 1 => simp [agedRanking, agedPoints, Matches, agedScore]
    | _ + 2 => simp [agedRanking, agedPoints]
  ordered := by decide

theorem agedPoints_servable (write : SemanticWriteContext) {now : Int64} (early : now ≤ 5000) :
    ∃ point ∈ agedPoints write, Servable .byBits agedScore helloPrepared write now point := by
  have enough : Floats.byBits.atLeast 0x3F7FFFFE 0x3F6B851F = true := by decide
  refine ⟨_, List.mem_cons_of_mem _ (List.mem_singleton_self _), ⟨rfl, rfl⟩, ?_, enough⟩
  simp only [isFresh, Bool.not_eq_true', Bool.and_eq_false_imp, decide_eq_false_iff_not, Int64.not_lt]
  intro _
  exact early

theorem nearer_point_hit :
    ∃ write, resolveVectorContext .byBits id helloSlice helloPrepared (helloCall "Be brief.").answers = .ok write ∧
      Hits .byBits id helloSlice (agedPoints write) helloPrepared (helloCall "Be brief.").answers (searched agedRanking)
        1000 := by
  obtain ⟨write, resolved⟩ := hello_resolved
  refine ⟨write, resolved, ?_⟩
  apply (servable_hit_iff Floats.byBits_ordered resolved (agedPoints_ranked write)).mpr
  · intro _ index value first point held
    cases first
    cases held
    exact ⟨rfl, by rfl⟩
  · exact agedPoints_servable write (by decide)

/-- The nearer point has expired, and the other one is not asked for. -/
theorem expired_point_hides :
    Floats.byBits.Ordered ∧
      ∃ write, resolveVectorContext .byBits id helloSlice helloPrepared (helloCall "Be brief.").answers = .ok write ∧
        Ranks .byBits agedScore (agedPoints write) write agedRanking ∧
        (∃ point ∈ agedPoints write, Servable .byBits agedScore helloPrepared write 2000 point) ∧
        ¬ Hits .byBits id helloSlice (agedPoints write) helloPrepared (helloCall "Be brief.").answers
            (searched agedRanking) 2000 := by
  obtain ⟨write, resolved⟩ := hello_resolved
  refine ⟨Floats.byBits_ordered, write, resolved, agedPoints_ranked write, agedPoints_servable write (by decide), ?_⟩
  have first : agedRanking.head? = some (0, 0x3F7FFFFF) := rfl
  intro hits
  obtain ⟨usable, _⟩ := (hits_first resolved first rfl ⟨rfl, rfl⟩).mp hits
  obtain ⟨fresh, _⟩ := (decodePayloadIfFresh_isSome _ _).mp usable
  exact Bool.false_ne_true fresh

end Hidden

end AiGateway.SemanticCache
