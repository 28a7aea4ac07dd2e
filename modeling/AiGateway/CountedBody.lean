import Mathlib.Data.List.Basic

/-! A response body that calls back once, when it has been read to its end, has failed,
or is dropped. The in-flight limits give their slots back through it. -/

namespace AiGateway

/-- The `released` flag, and what the callback has captured. -/
structure CountedBody (ρ : Type) where
  released : Bool
  onRelease : ρ
  deriving DecidableEq, Repr

namespace CountedBody
variable {ρ : Type}

def new (onRelease : ρ) : CountedBody ρ := ⟨false, onRelease⟩

/-- The body afterwards, and what the callback was called for, if it was called. -/
def fireRelease (body : CountedBody ρ) : CountedBody ρ × Option ρ :=
  if body.released then (body, none) else ({ body with released := true }, some body.onRelease)

/-- `terminate` says that the inner body had no further frame, or failed. -/
def pollFrame (body : CountedBody ρ) (terminate : Bool) : CountedBody ρ × Option ρ :=
  if terminate then body.fireRelease else (body, none)

def drop (body : CountedBody ρ) : Option ρ := body.fireRelease.2

/-- The flag follows what happens to the inner body. -/
@[simp] theorem pollFrame_released (body : CountedBody ρ) (terminate : Bool) :
    (body.pollFrame terminate).1.released = (body.released || terminate) := by
  obtain ⟨released, onRelease⟩ := body
  cases terminate <;> cases released <;> rfl

@[simp] theorem pollFrame_onRelease (body : CountedBody ρ) (terminate : Bool) :
    (body.pollFrame terminate).1.onRelease = body.onRelease := by
  obtain ⟨released, onRelease⟩ := body
  cases terminate <;> cases released <;> rfl

end CountedBody

end AiGateway
