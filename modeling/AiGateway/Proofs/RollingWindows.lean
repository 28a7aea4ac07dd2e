import AiGateway.Metrics
import Mathlib.Algebra.BigOperators.Group.Finset.Piecewise
import Mathlib.Algebra.Order.Floor.Semifield

/-! What the rolling counter counts: the lap in which it is read, and how much of the window
that is. -/

namespace AiGateway.Metrics

section Laps

theorem quotient_mono {numerator other denominator : ℚ} (positive : 0 ≤ numerator) (less : numerator ≤ other)
    (nonneg : 0 ≤ denominator) : quotient numerator denominator ≤ quotient other denominator := by
  unfold quotient
  by_cases zero : denominator = 0
  · rw [if_pos zero, if_pos zero]
    by_cases start : numerator = 0
    · rw [if_pos start]
      exact Nat.zero_le _
    · have later : other ≠ 0 := by
        intro same
        apply start
        rw [same] at less
        exact le_antisymm less positive
      rw [if_neg start, if_neg later]
  · have floors : ⌊numerator / denominator⌋₊ ≤ ⌊other / denominator⌋₊ :=
      Nat.floor_le_floor (div_le_div_of_nonneg_right less nonneg)
    rw [if_neg zero, if_neg zero]
    split <;> split <;> omega

variable {counter : RollingCounter}

theorem elapsed_nonneg (now : ℚ) : 0 ≤ counter.elapsed now := by
  rw [RollingCounter.elapsed]
  split
  · next after => exact sub_nonneg.mpr after
  · exact le_refl 0

theorem elapsed_mono {time now : ℚ} (before : time ≤ now) : counter.elapsed time ≤ counter.elapsed now := by
  unfold RollingCounter.elapsed
  split
  · next after =>
    rw [if_pos (after.trans before)]
    linarith
  · exact elapsed_nonneg now

/-- Time that has passed for the counter has passed. -/
theorem elapsed_sub_le {time now : ℚ} (before : time ≤ now) : counter.elapsed now - counter.elapsed time ≤ now - time := by
  unfold RollingCounter.elapsed
  split <;> split <;> linarith

theorem lap_mono (nonneg : 0 ≤ counter.bucketDuration) {time now : ℚ} (before : time ≤ now) :
    counter.lap time ≤ counter.lap now := by
  apply quotient_mono (elapsed_nonneg time) (elapsed_mono before)
  exact mul_nonneg nonneg (Nat.cast_nonneg counter.buckets)

theorem index_lt (some : 0 < counter.buckets) (time : ℚ) : counter.index time < counter.buckets := Nat.mod_lt _ some

end Laps

section Cells

/-- The increments of the past that fell into a bucket in a lap. -/
def countIn (origin : RollingCounter) (log : List ℚ) (index lap : Nat) : Nat :=
  log.countP fun time => origin.index time = index ∧ origin.lap time = lap

/-- What a bucket holds: the increments of the last lap that touched it. -/
structure CellHolds (origin counter : RollingCounter) (log : List ℚ) (index lap : Nat) : Prop where
  kept : counter.laps[index]? = some lap
  counted : counter.counters[index]? = some (UInt32.ofNat (countIn origin log index lap))
  last : ∀ time ∈ log, origin.index time = index → origin.lap time ≤ lap
  touched : lap = 0 ∨ ∃ time ∈ log, origin.lap time = lap

/-- A counter after the increments of a log. The origin is the counter as it was made. -/
structure Holds (origin counter : RollingCounter) (log : List ℚ) : Prop where
  buckets : counter.buckets = origin.buckets
  bucketDuration : counter.bucketDuration = origin.bucketDuration
  start : counter.start = origin.start
  counterCount : counter.counters.length = origin.buckets
  lapCount : counter.laps.length = origin.buckets
  cells : ∀ index, index < origin.buckets → ∃ lap, CellHolds origin counter log index lap

variable {origin counter : RollingCounter} {log : List ℚ}

theorem Holds.lap_eq (holds : Holds origin counter log) (now : ℚ) : counter.lap now = origin.lap now := by
  unfold RollingCounter.lap RollingCounter.elapsed
  rw [holds.buckets, holds.bucketDuration, holds.start]

theorem Holds.index_eq (holds : Holds origin counter log) (now : ℚ) : counter.index now = origin.index now := by
  unfold RollingCounter.index RollingCounter.elapsed
  rw [holds.buckets, holds.bucketDuration, holds.start]

theorem countIn_append (origin : RollingCounter) (log : List ℚ) (now : ℚ) (index lap : Nat) :
    countIn origin (log ++ [now]) index lap =
      countIn origin log index lap + if origin.index now = index ∧ origin.lap now = lap then 1 else 0 := by
  unfold countIn
  rw [List.countP_append, List.countP_singleton]
  simp

/-- A bucket that an increment does not touch. -/
theorem CellHolds.other {next : RollingCounter} {index lap : Nat} {now : ℚ} (cell : CellHolds origin counter log index lap)
    (different : origin.index now ≠ index) (laps : next.laps[index]? = counter.laps[index]?)
    (counters : next.counters[index]? = counter.counters[index]?) : CellHolds origin next (log ++ [now]) index lap := by
  refine ⟨laps.trans cell.kept, ?_, ?_, ?_⟩
  · rw [counters, cell.counted, countIn_append, if_neg (fun both => different both.1), Nat.add_zero]
  · intro time member same
    obtain old | new := List.mem_append.mp member
    · exact cell.last time old same
    · rw [List.mem_singleton.mp new] at same
      exact absurd same different
  · obtain zero | ⟨time, member, same⟩ := cell.touched
    · exact .inl zero
    · exact .inr ⟨time, List.mem_append_left _ member, same⟩

theorem lap_le_now (nonneg : 0 ≤ origin.bucketDuration) {now : ℚ} (latest : ∀ time ∈ log, time ≤ now) {index lap : Nat}
    (cell : CellHolds origin counter log index lap) : lap ≤ origin.lap now := by
  obtain rfl | ⟨time, member, rfl⟩ := cell.touched
  · exact Nat.zero_le _
  · exact lap_mono nonneg (latest time member)

/-- A lap after the last one that touched a bucket has no increments in it yet. -/
theorem countIn_later {index lap later : Nat} (cell : CellHolds origin counter log index lap) (after : lap < later) :
    countIn origin log index later = 0 := by
  apply List.countP_eq_zero.mpr
  intro time member both
  have same := of_decide_eq_true both
  have less := cell.last time member same.1
  omega

/-- The bucket that an increment touches counts it, from zero where a new lap begins. -/
theorem CellHolds.incr {index lap : Nat} {now : ℚ} (holds : Holds origin counter log)
    (cell : CellHolds origin counter log index lap) (here : origin.index now = index) (less : lap ≤ origin.lap now)
    (latest : ∀ time ∈ log, origin.lap time ≤ origin.lap now) :
    CellHolds origin (counter.incr now) (log ++ [now]) index (origin.lap now) := by
  have inside : index < counter.laps.length := (List.getElem?_eq_some_iff.mp cell.kept).1
  have counted : index < counter.counters.length := (List.getElem?_eq_some_iff.mp cell.counted).1
  have last : ∀ time ∈ log ++ [now], origin.index time = index → origin.lap time ≤ origin.lap now := by
    intro time member _
    obtain old | new := List.mem_append.mp member
    · exact latest time old
    · rw [List.mem_singleton.mp new]
  have touched : origin.lap now = 0 ∨ ∃ time ∈ log ++ [now], origin.lap time = origin.lap now :=
    .inr ⟨now, List.mem_append_right _ List.mem_cons_self, rfl⟩
  rw [RollingCounter.incr, RollingCounter.getIndexAndLap]
  rw [holds.index_eq, holds.lap_eq, here]
  dsimp only
  by_cases same : lap = origin.lap now
  · have present : counter.laps[index]? = some (origin.lap now) := same ▸ cell.kept
    rw [if_neg (fun other => other present)]
    refine ⟨present, ?_, last, touched⟩
    rw [List.getElem?_modify_eq, cell.counted, same, countIn_append, if_pos ⟨here, rfl⟩]
    simp [UInt32.ofNat_add]
  · have fresh : counter.laps[index]? ≠ some (origin.lap now) := by
      rw [cell.kept]
      intro equal
      exact same (Option.some.inj equal)
    rw [if_pos fresh]
    refine ⟨List.getElem?_set_self inside, ?_, last, touched⟩
    dsimp only
    rw [List.getElem?_modify_eq, List.getElem?_set_self counted, countIn_append, if_pos ⟨here, rfl⟩,
      countIn_later cell (by omega)]
    simp

/-- An increment touches its own bucket and no other. -/
theorem incr_other {index : Nat} {now : ℚ} (different : counter.index now ≠ index) :
    (counter.incr now).laps[index]? = counter.laps[index]? ∧ (counter.incr now).counters[index]? = counter.counters[index]? := by
  rw [RollingCounter.incr, RollingCounter.getIndexAndLap]
  dsimp only
  split
  · exact ⟨List.getElem?_set_ne different, (List.getElem?_modify_ne _ _ different).trans (List.getElem?_set_ne different)⟩
  · exact ⟨rfl, List.getElem?_modify_ne _ _ different⟩

theorem incr_lengths (counter : RollingCounter) (now : ℚ) :
    (counter.incr now).counters.length = counter.counters.length ∧ (counter.incr now).laps.length = counter.laps.length := by
  rw [RollingCounter.incr, RollingCounter.getIndexAndLap]
  dsimp only
  rw [List.length_modify]
  split
  · exact ⟨List.length_set, List.length_set⟩
  · exact ⟨rfl, rfl⟩

theorem Holds.incr (holds : Holds origin counter log) (nonneg : 0 ≤ origin.bucketDuration) {now : ℚ}
    (latest : ∀ time ∈ log, time ≤ now) : Holds origin (counter.incr now) (log ++ [now]) := by
  obtain ⟨counters, laps⟩ := incr_lengths counter now
  refine ⟨holds.buckets, holds.bucketDuration, holds.start, counters.trans holds.counterCount,
    laps.trans holds.lapCount, ?_⟩
  intro index inside
  obtain ⟨lap, cell⟩ := holds.cells index inside
  by_cases here : origin.index now = index
  · refine ⟨origin.lap now, CellHolds.incr holds cell here (lap_le_now nonneg latest cell) ?_⟩
    intro time member
    exact lap_mono nonneg (latest time member)
  · obtain ⟨laps, counters⟩ := incr_other (holds.index_eq now ▸ here)
    exact ⟨lap, cell.other here laps counters⟩

end Cells

section Runs
variable {origin : RollingCounter}

/-- The times of the increments of a run. -/
def increments : List Event → List ℚ
  | [] => []
  | .incr now :: rest => now :: increments rest
  | .total _ :: rest => increments rest

/-- The counter as it was made, which holds no increments. -/
theorem holds_new {window : ℚ≥0} {buckets : Nat} {start : ℚ} (made : RollingCounter.new window buckets start = some origin) :
    Holds origin origin [] ∧ 0 < origin.buckets ∧ 0 ≤ origin.bucketDuration ∧
      origin.bucketDuration * origin.buckets = window := by
  rw [RollingCounter.new] at made
  split at made
  · next positive =>
    cases made
    refine ⟨⟨rfl, rfl, rfl, List.length_replicate, List.length_replicate, ?_⟩, positive, ?_, ?_⟩
    · intro index inside
      refine ⟨0, ?_, ?_, nofun, .inl rfl⟩
      · exact List.getElem?_replicate_of_lt inside
      · exact List.getElem?_replicate_of_lt inside
    · exact div_nonneg window.2 (Nat.cast_nonneg buckets)
    · exact div_mul_cancel₀ _ (Nat.cast_ne_zero.mpr positive.ne')
  · cases made

theorem mem_increments {events : List Event} {time : ℚ} (member : time ∈ increments events) :
    ∃ event ∈ events, event.now = time := by
  induction events with
  | nil => cases member
  | cons event rest ih =>
    cases event with
    | incr now =>
      obtain rfl | later := List.mem_cons.mp member
      · exact ⟨_, List.mem_cons_self, rfl⟩
      · obtain ⟨event, inside, same⟩ := ih later
        exact ⟨event, List.mem_cons_of_mem _ inside, same⟩
    | total now =>
      obtain ⟨event, inside, same⟩ := ih member
      exact ⟨event, List.mem_cons_of_mem _ inside, same⟩

/-- Reads change nothing, and each increment is added to the log. -/
theorem Holds.run {counter : RollingCounter} {log : List ℚ} {events : List Event} (holds : Holds origin counter log)
    (nonneg : 0 ≤ origin.bucketDuration) (ordered : events.Pairwise fun first second => first.now ≤ second.now)
    (later : ∀ time ∈ log, ∀ event ∈ events, time ≤ event.now) :
    Holds origin (run counter events) (log ++ increments events) := by
  induction events generalizing counter log with
  | nil =>
    show Holds origin counter (log ++ [])
    rw [List.append_nil]
    exact holds
  | cons event rest ih =>
    obtain ⟨first, sorted⟩ := List.pairwise_cons.mp ordered
    cases event with
    | incr now =>
      have next := holds.incr nonneg fun time member => later time member _ List.mem_cons_self
      have whole := ih next sorted (by
        intro time member event inside
        obtain old | new := List.mem_append.mp member
        · exact later time old event (List.mem_cons_of_mem _ inside)
        · rw [List.mem_singleton.mp new]
          exact first event inside)
      rw [List.append_assoc] at whole
      exact whole
    | total now => exact ih holds sorted fun time member event inside => later time member event (List.mem_cons_of_mem _ inside)

end Runs

section Totals
variable {origin counter : RollingCounter} {log : List ℚ}

theorem sum_filterMap_lap (cells : List (UInt32 × Nat)) (now : Nat) :
    (cells.filterMap fun (count, lap) => if lap = now then some count else none).sum =
      (cells.map fun cell => if cell.2 = now then cell.1 else 0).sum := by
  induction cells with
  | nil => rfl
  | cons cell rest ih =>
    obtain ⟨count, lap⟩ := cell
    rw [List.filterMap_cons, List.map_cons, List.sum_cons, ← ih]
    by_cases same : lap = now
    · simp [same]
    · simp [same]

theorem sum_ofNat (counts : List Nat) : (counts.map UInt32.ofNat).sum = UInt32.ofNat counts.sum := by
  induction counts with
  | nil => rfl
  | cons count rest ih => rw [List.map_cons, List.sum_cons, List.sum_cons, ih, UInt32.ofNat_add]

/-- Each increment of a lap is in one of the buckets. -/
theorem sum_countIn (inside : ∀ time ∈ log, origin.index time < origin.buckets) (lap : Nat) :
    ((List.range origin.buckets).map fun index => countIn origin log index lap).sum =
      log.countP fun time => origin.lap time = lap := by
  induction log with
  | nil => simp [countIn]
  | cons time rest ih =>
    have split (index : Nat) : countIn origin (time :: rest) index lap =
        countIn origin rest index lap + if origin.index time = index ∧ origin.lap time = lap then 1 else 0 := by
      unfold countIn
      rw [List.countP_cons]
      simp
    have one : ((List.range origin.buckets).map fun index =>
        if origin.index time = index ∧ origin.lap time = lap then 1 else 0).sum = if origin.lap time = lap then 1 else 0 := by
      show (∑ index ∈ Finset.range origin.buckets, if origin.index time = index ∧ origin.lap time = lap then 1 else 0) = _
      have here := Finset.mem_range.mpr (inside time List.mem_cons_self)
      by_cases same : origin.lap time = lap
      · simp [same, Finset.mem_range.mp here]
      · simp [same]
    simp only [split, List.sum_map_add, one, ih fun other member => inside other (List.mem_cons_of_mem _ member)]
    rw [List.countP_cons]
    simp

/-- The buckets of this lap hold what was counted in it, as far as their numbers reach. -/
theorem Holds.total (holds : Holds origin counter log) (nonneg : 0 ≤ origin.bucketDuration) (some : 0 < origin.buckets)
    {now : ℚ} (latest : ∀ time ∈ log, time ≤ now) :
    counter.total now = UInt32.ofNat (log.countP fun time => origin.lap time = origin.lap now) := by
  have cells : counter.counters.zip counter.laps =
      (List.range origin.buckets).map fun index => (counter.counters.getD index 0, counter.laps.getD index 0) := by
    apply List.ext_getElem?
    intro index
    by_cases inside : index < origin.buckets
    · obtain ⟨lap, cell⟩ := holds.cells index inside
      simp [List.getElem?_zip_eq_some, List.getD_eq_getElem?_getD, cell.kept, cell.counted, inside]
    · have long : origin.buckets ≤ index := Nat.le_of_not_lt inside
      rw [List.getElem?_eq_none (by simp [holds.counterCount, holds.lapCount, long]),
        List.getElem?_eq_none (by simpa using long)]
  have each : ∀ index ∈ List.range origin.buckets,
      (if counter.laps.getD index 0 = origin.lap now then counter.counters.getD index 0 else 0) =
        UInt32.ofNat (countIn origin log index (origin.lap now)) := by
    intro index member
    obtain ⟨lap, cell⟩ := holds.cells index (List.mem_range.mp member)
    rw [List.getD_eq_getElem?_getD, List.getD_eq_getElem?_getD, cell.kept, cell.counted, Option.getD_some, Option.getD_some]
    split
    · next same => rw [same]
    · next different =>
      have less := lap_le_now nonneg latest cell
      rw [countIn_later cell (by omega)]
      rfl
  rw [RollingCounter.total, RollingCounter.getIndexAndLap]
  dsimp only
  rw [holds.lap_eq, sum_filterMap_lap, cells, List.map_map, ← sum_countIn fun time _ => index_lt some time, ← sum_ofNat,
    List.map_map]
  exact congrArg List.sum (List.map_congr_left each)

end Totals

section Windows
variable (origin : RollingCounter)

/-- The number of the bucket that a time falls into, from the start on and without laps. -/
def bucketOf (time : ℚ) : Nat := ⌊origin.elapsed time / origin.bucketDuration⌋₊

/-- The bucket of a time is one of those that cover the last window: that of the read, and as
many before it as there are buckets in all. -/
def Covered (now time : ℚ) : Prop := bucketOf origin now < bucketOf origin time + origin.buckets

instance (now time : ℚ) : Decidable (Covered origin now time) := inferInstanceAs (Decidable (_ < _))

/-- A time less than the window without one bucket ago. -/
def Young (now time : ℚ) : Prop := now - time < origin.bucketDuration * origin.buckets - origin.bucketDuration

instance (now time : ℚ) : Decidable (Young origin now time) := inferInstanceAs (Decidable (_ < _))

/-- A read counts the increments in the buckets of the window, and with them all young ones. -/
structure CountsWindow (log : List ℚ) (counted : UInt32) (now : ℚ) : Prop where
  exact : counted.toNat = log.countP fun time => Covered origin now time
  young : (log.countP fun time => Young origin now time) ≤ counted.toNat

/-- The increments in the buckets of the window are those of the lap of the read, and few
enough for the type that counts them. -/
structure WithinLap (log : List ℚ) (now : ℚ) : Prop where
  lap : ∀ time ∈ log, Covered origin now time ↔ origin.lap time = origin.lap now
  few : (log.countP fun time => Covered origin now time) < UInt32.size

variable {origin} {log : List ℚ} {now : ℚ}

/-- Before the laps are too many for their type, a lap is as many buckets as there are. -/
theorem lap_eq_div {time : ℚ} (some : 0 < origin.buckets) (nonzero : origin.bucketDuration ≠ 0)
    (early : origin.lap time < maxU64) : origin.lap time = bucketOf origin time / origin.buckets := by
  have whole : ⌊origin.elapsed time / (origin.bucketDuration * origin.buckets)⌋₊ = bucketOf origin time / origin.buckets := by
    rw [← div_div, Nat.floor_div_natCast]
    rfl
  have window : origin.bucketDuration * origin.buckets ≠ 0 := mul_ne_zero nonzero (Nat.cast_ne_zero.mpr some.ne')
  rw [RollingCounter.lap, quotient] at early ⊢
  rw [if_neg window] at early ⊢
  split at early
  · next fits => rw [if_pos fits, whole]
  · omega

/-- A lap is no longer than the window. -/
theorem covered_of_lap (some : 0 < origin.buckets) {time : ℚ} (early : origin.lap now < maxU64)
    (same : origin.lap time = origin.lap now) : Covered origin now time := by
  unfold Covered
  by_cases zero : origin.bucketDuration = 0
  · unfold bucketOf
    rw [zero, div_zero, div_zero, Nat.floor_zero]
    omega
  · have earlier : origin.lap time < maxU64 := same.trans_lt early
    rw [lap_eq_div some zero earlier, lap_eq_div some zero early] at same
    have first := Nat.div_add_mod (bucketOf origin now) origin.buckets
    have second := Nat.div_add_mod (bucketOf origin time) origin.buckets
    have rest := Nat.mod_lt (bucketOf origin now) some
    rw [same] at second
    omega

/-- The buckets of the window cover all of it but one bucket. -/
theorem covered_of_young (some : 0 < origin.buckets) (nonneg : 0 ≤ origin.bucketDuration) {time : ℚ} (before : time ≤ now)
    (young : Young origin now time) : Covered origin now time := by
  unfold Covered
  by_cases zero : origin.bucketDuration = 0
  · unfold bucketOf
    rw [zero, div_zero, div_zero, Nat.floor_zero]
    omega
  · have positive : 0 < origin.bucketDuration := lt_of_le_of_ne nonneg (Ne.symm zero)
    have passed : origin.elapsed now - origin.elapsed time ≤ now - time := elapsed_sub_le before
    have apart : origin.elapsed now / origin.bucketDuration <
        origin.elapsed time / origin.bucketDuration + origin.buckets - 1 := by
      rw [div_lt_iff₀ positive, sub_mul, add_mul, div_mul_cancel₀ _ zero]
      unfold Young at young
      linarith
    have below : (bucketOf origin now : ℚ) ≤ origin.elapsed now / origin.bucketDuration :=
      Nat.floor_le (div_nonneg (elapsed_nonneg now) nonneg)
    have above : origin.elapsed time / origin.bucketDuration < (bucketOf origin time : ℚ) + 1 := Nat.lt_floor_add_one _
    have cast : (bucketOf origin now : ℚ) < (bucketOf origin time + origin.buckets : Nat) := by
      push_cast
      linarith
    exact Nat.cast_lt.mp cast

theorem young_le_covered (some : 0 < origin.buckets) (nonneg : 0 ≤ origin.bucketDuration)
    (latest : ∀ time ∈ log, time ≤ now) :
    (log.countP fun time => Young origin now time) ≤ log.countP fun time => Covered origin now time := by
  apply List.countP_mono_left
  intro time member young
  exact decide_eq_true (covered_of_young some nonneg (latest time member) (of_decide_eq_true young))

theorem countP_lt {α : Type} {first second : α → Bool} {items : List α} {item : α} (member : item ∈ items)
    (second_item : second item = true) (first_item : ¬ first item = true)
    (implies : ∀ other ∈ items, first other = true → second other = true) : items.countP first < items.countP second := by
  induction items with
  | nil => cases member
  | cons head rest ih =>
    have below : rest.countP first ≤ rest.countP second :=
      List.countP_mono_left fun other inside => implies other (List.mem_cons_of_mem _ inside)
    have here := implies head List.mem_cons_self
    rw [List.countP_cons, List.countP_cons]
    obtain rfl | later := List.mem_cons.mp member
    · rw [if_neg first_item, if_pos second_item]
      omega
    · have strict := ih later fun other inside => implies other (List.mem_cons_of_mem _ inside)
      split
      · next holds =>
        rw [if_pos (here holds)]
        omega
      · omega

/-- What a read counts: the increments of its lap, in the type of the counters. -/
def countOfLap (origin : RollingCounter) (log : List ℚ) (now : ℚ) : UInt32 :=
  UInt32.ofNat (log.countP fun time => origin.lap time = origin.lap now)

theorem countsWindow_of_withinLap (some : 0 < origin.buckets) (nonneg : 0 ≤ origin.bucketDuration)
    (latest : ∀ time ∈ log, time ≤ now) (within : WithinLap origin log now) :
    CountsWindow origin log (countOfLap origin log now) now := by
  have same : (log.countP fun time => origin.lap time = origin.lap now) = log.countP fun time => Covered origin now time := by
    apply List.countP_congr
    intro time member
    simp only [decide_eq_true_eq]
    exact (within.lap time member).symm
  have number : (countOfLap origin log now).toNat = log.countP fun time => Covered origin now time := by
    rw [countOfLap, same]
    exact UInt32.toNat_ofNat_of_lt within.few
  exact ⟨number, (young_le_covered some nonneg latest).trans_eq number.symm⟩

theorem withinLap_of_countsWindow (some : 0 < origin.buckets) (early : origin.lap now < maxU64)
    (counts : CountsWindow origin log (countOfLap origin log now) now) : WithinLap origin log now := by
  have less : (countOfLap origin log now).toNat ≤ log.countP fun time => origin.lap time = origin.lap now := by
    rw [countOfLap, UInt32.toNat_ofNat']
    exact Nat.mod_le _ _
  have small : (countOfLap origin log now).toNat < UInt32.size := UInt32.toNat_lt_size _
  have counted := counts.exact
  refine ⟨?_, by omega⟩
  intro time member
  constructor
  · intro covered
    by_contra other
    -- A covered increment of another lap would make the window count more than the lap.
    have fewer : (log.countP fun time => origin.lap time = origin.lap now) < log.countP fun time => Covered origin now time := by
      apply countP_lt member (decide_eq_true covered) (by simpa using other)
      intro another _ same
      exact decide_eq_true (covered_of_lap some early (of_decide_eq_true same))
    omega
  · exact covered_of_lap some early

/-- In every run, a read counts the window where no increment of an earlier lap is still in it,
and only there, as long as the laps are not too many for their type. -/
theorem total_counts_window {window : ℚ≥0} {buckets : Nat} {start : ℚ}
    (made : RollingCounter.new window buckets start = some origin) {events : List Event}
    (ordered : events.Pairwise fun first second => first.now ≤ second.now) (latest : ∀ event ∈ events, event.now ≤ now) :
    (WithinLap origin (increments events) now →
        CountsWindow origin (increments events) ((run origin events).total now) now) ∧
      (origin.lap now < maxU64 → CountsWindow origin (increments events) ((run origin events).total now) now →
        WithinLap origin (increments events) now) := by
  obtain ⟨empty, some, nonneg, _⟩ := holds_new made
  have past : ∀ time ∈ increments events, time ≤ now := by
    intro time member
    obtain ⟨event, inside, rfl⟩ := mem_increments member
    exact latest event inside
  have holds : Holds origin (run origin events) (increments events) := empty.run nonneg ordered nofun
  have read : (run origin events).total now = countOfLap origin (increments events) now := holds.total nonneg some past
  rw [read]
  exact ⟨countsWindow_of_withinLap some nonneg past, withinLap_of_countsWindow some⟩

/-- A minute in ten buckets, as every counter of the gateway is made. -/
def minute : RollingCounter := ⟨10, 6, 0, List.replicate 10 0, List.replicate 10 0⟩

theorem minute_made : RollingCounter.new 60 10 0 = some minute := by
  decide +kernel

theorem same_lap_counted :
    CountsWindow minute (increments [.incr 50, .total 52, .incr 55]) ((run minute [.incr 50, .total 52, .incr 55]).total 59) 59 := by
  have ordered : [Event.incr 50, .total 52, .incr 55].Pairwise fun first second => first.now ≤ second.now := by decide +kernel
  have latest : ∀ event ∈ [Event.incr 50, .total 52, .incr 55], event.now ≤ 59 := by decide +kernel
  apply (total_counts_window minute_made ordered latest).1
  constructor <;> decide +kernel

/-- An increment of a second ago is not counted once a new lap has begun. -/
theorem new_lap_drops_increment :
    RollingCounter.new 60 10 0 = some minute ∧ (run minute [.incr 59]).total 60 = 0 ∧
      ¬ CountsWindow minute (increments [.incr 59]) ((run minute [.incr 59]).total 60) 60 := by
  have zero : (run minute [.incr 59]).total 60 = 0 := by decide +kernel
  refine ⟨minute_made, zero, ?_⟩
  intro counts
  have young := counts.young
  rw [zero] at young
  have one : ((increments [.incr 59]).countP fun time => Young minute 60 time) = 1 := by decide +kernel
  rw [one] at young
  exact absurd young (by decide)

end Windows

end AiGateway.Metrics
