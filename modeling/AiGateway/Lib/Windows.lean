import Mathlib.Data.List.Basic

/-! Sliding windows over a log of times. Two limiters that prune their stores in different
ways are compared through the log of what both admitted. -/

namespace AiGateway.Lib.Windows

/-- Which times count at a moment. What has left the window does not come back, and of two
times the earlier leaves first. -/
structure Window where
  inside : Nat → Nat → Bool
  leaves : ∀ {now later time : Nat}, now ≤ later → inside later time = true → inside now time = true
  inOrder : ∀ {now earlier time : Nat}, earlier ≤ time → inside now earlier = true → inside now time = true

namespace Window
variable (window : Window)

def seen (now : Nat) (log : List Nat) : List Nat := log.filter (window.inside now)

theorem seen_append (now : Nat) (log more : List Nat) :
    window.seen now (log ++ more) = window.seen now log ++ window.seen now more :=
  List.filter_append log more

/-- A log that was pruned earlier is as good as the whole log. -/
theorem seen_seen {now later : Nat} (order : now ≤ later) (log : List Nat) :
    window.seen later (window.seen now log) = window.seen later log := by
  unfold seen
  rw [List.filter_filter]
  apply List.filter_congr
  intro time member
  cases counts : window.inside later time with
  | false => rfl
  | true => rw [window.leaves order counts]; rfl

/-- Dropping from the front is enough in a log in order. -/
theorem dropWhile_eq_seen (now : Nat) {log : List Nat} (sorted : log.Pairwise (· ≤ ·)) :
    log.dropWhile (fun time => !window.inside now time) = window.seen now log := by
  induction log with
  | nil => rfl
  | cons first rest ih =>
    obtain ⟨least, sorted⟩ := List.pairwise_cons.mp sorted
    cases counts : window.inside now first with
    | false =>
      rw [List.dropWhile_cons_of_pos (by simp [counts]), ih sorted]
      simp [seen, counts]
    | true =>
      rw [List.dropWhile_cons_of_neg (by simp [counts])]
      apply Eq.symm
      apply List.filter_eq_self.mpr
      intro time member
      obtain rfl | later := List.mem_cons.mp member
      · exact counts
      · exact window.inOrder (least time later) counts

theorem seen_sublist (now : Nat) (log : List Nat) : (window.seen now log).Sublist log := List.filter_sublist

/-- A look through a narrower window loses something exactly when it loses the oldest. -/
theorem seen_all {now oldest : Nat} {rest : List Nat} (sorted : (oldest :: rest).Pairwise (· ≤ ·))
    (counts : window.inside now oldest = true) : window.seen now (oldest :: rest) = oldest :: rest := by
  apply List.filter_eq_self.mpr
  intro time member
  obtain rfl | later := List.mem_cons.mp member
  · exact counts
  · exact window.inOrder ((List.pairwise_cons.mp sorted).1 time later) counts

theorem seen_fewer {now oldest : Nat} (gone : window.inside now oldest = false) (rest : List Nat) :
    (window.seen now (oldest :: rest)).length ≤ rest.length := by
  simp only [seen, List.filter_cons, gone, Bool.false_eq_true, if_false]
  exact List.length_filter_le _ _

end Window

end AiGateway.Lib.Windows
