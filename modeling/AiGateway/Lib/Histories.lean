import AiGateway.Lib.Runs

/-! What has happened since when, read off the events of a run: something has begun, and
nothing that ends it has come after. -/

namespace AiGateway.Lib.Histories

open Runs

variable {ε : Type} {starts ends : ε → Prop} {events : List ε}

def Since (starts ends : ε → Prop) (events : List ε) : Prop :=
  ∃ earlier event later, events = earlier ++ event :: later ∧ starts event ∧ ∀ other ∈ later, ¬ ends other

theorem not_since_nil : ¬ Since starts ends ([] : List ε) := by
  rintro ⟨earlier, event, later, same, _⟩
  simp at same

/-- An event of a run that goes on is the last one or one from before. -/
theorem concat_cases {front earlier later : List ε} {last event : ε} (same : front ++ [last] = earlier ++ event :: later) :
    (earlier = front ∧ event = last ∧ later = []) ∨ ∃ rest, later = rest ++ [last] ∧ front = earlier ++ event :: rest := by
  obtain rfl | ⟨rest, final, rfl⟩ := List.eq_nil_or_concat' later
  · obtain ⟨rfl, single⟩ := List.append_inj' same rfl
    exact .inl ⟨rfl, (List.singleton_inj.mp single).symm, rfl⟩
  · rw [← List.cons_append, ← List.append_assoc] at same
    obtain ⟨rfl, single⟩ := List.append_inj' same rfl
    obtain rfl := List.singleton_inj.mp single
    exact .inr ⟨rest, rfl, rfl⟩

theorem since_concat {last : ε} :
    Since starts ends (events ++ [last]) ↔ starts last ∨ (Since starts ends events ∧ ¬ ends last) := by
  constructor
  · rintro ⟨earlier, event, later, same, begun, lasting⟩
    obtain ⟨_, rfl, _⟩ | ⟨rest, rfl, rfl⟩ := concat_cases same
    · exact .inl begun
    · refine .inr ⟨⟨earlier, event, rest, rfl, begun, ?_⟩, lasting _ (by simp)⟩
      exact fun other member => lasting other (by simp [member])
  · rintro (begun | ⟨⟨earlier, event, later, rfl, begun, lasting⟩, kept⟩)
    · exact ⟨events, last, [], rfl, begun, nofun⟩
    · refine ⟨earlier, event, later ++ [last], by simp, begun, ?_⟩
      intro other member
      obtain old | new := List.mem_append.mp member
      · exact lasting other old
      · obtain rfl := List.mem_singleton.mp new
        exact kept

section Machine
variable {σ : Type} {step : σ → ε → Option σ} {start final : σ} (invariant holds : σ → Prop)

/-- What only the events that start it bring about, and those that end it take away, holds at
the end of a run only if one has come since the last of the others. -/
theorem run_since (initial : invariant start) (absent : ¬ holds start)
    (kept : ∀ state event next, invariant state → step state event = some next → invariant next)
    (brought : ∀ state event next, invariant state → step state event = some next → holds next →
      starts event ∨ (holds state ∧ ¬ ends event))
    (ran : run step start events = some final) (held : holds final) : Since starts ends events := by
  have reached (events : List ε) (final : σ) (ran : run step start events = some final) :
      invariant final ∧ (holds final → Since starts ends events) := by
    induction events using List.reverseRecOn generalizing final with
    | nil => cases ran; exact ⟨initial, fun held => absurd held absent⟩
    | append_singleton front last ih =>
      obtain ⟨middle, before, after⟩ := run_append ran
      obtain ⟨next, taken, done⟩ := run_cons after
      cases done
      obtain ⟨valid, earlier⟩ := ih middle before
      refine ⟨kept middle last _ valid taken, fun held => since_concat.mpr ?_⟩
      exact (brought middle last _ valid taken held).imp_right (And.imp_left earlier)
  exact (reached events final ran).2 held

theorem run_since_iff (initial : invariant start) (absent : ¬ holds start)
    (kept : ∀ state event next, invariant state → step state event = some next → invariant next)
    (tracks : ∀ state event next, invariant state → step state event = some next →
      (holds next ↔ starts event ∨ (holds state ∧ ¬ ends event)))
    (ran : run step start events = some final) : holds final ↔ Since starts ends events := by
  have reached (events : List ε) (final : σ) (ran : run step start events = some final) :
      invariant final ∧ (holds final ↔ Since starts ends events) := by
    induction events using List.reverseRecOn generalizing final with
    | nil => cases ran; exact ⟨initial, iff_of_false absent not_since_nil⟩
    | append_singleton front last ih =>
      obtain ⟨middle, before, after⟩ := run_append ran
      obtain ⟨next, taken, done⟩ := run_cons after
      cases done
      obtain ⟨valid, earlier⟩ := ih middle before
      refine ⟨kept middle last _ valid taken, ?_⟩
      rw [since_concat, tracks middle last _ valid taken, earlier]
  exact (reached events final ran).2

end Machine

end AiGateway.Lib.Histories
