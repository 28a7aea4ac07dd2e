import Mathlib.Data.List.Basic

/-! Values sent in pieces: each piece names the value it belongs to, the first one carries
the value's header, and the bodies are put together in the order they come in. -/

namespace AiGateway.Lib.Fragments

structure Fragment (κ η β : Type) where
  key : κ
  header : η
  body : β

structure Group (κ η β : Type) where
  key : κ
  header : η
  bodies : List β
  deriving DecidableEq, Repr

variable {κ η β : Type} [DecidableEq κ]

def insert (fragment : Fragment κ η β) : List (Group κ η β) → List (Group κ η β)
  | [] => [⟨fragment.key, fragment.header, [fragment.body]⟩]
  | group :: rest =>
    if group.key = fragment.key then { group with bodies := group.bodies ++ [fragment.body] } :: rest
    else group :: insert fragment rest

/-- The pieces that come in join the groups there are. -/
def collect (groups : List (Group κ η β)) (fragments : List (Fragment κ η β)) : List (Group κ η β) :=
  fragments.foldl (fun groups fragment => insert fragment groups) groups

def assemble (fragments : List (Fragment κ η β)) : List (Group κ η β) := collect [] fragments

theorem collect_append (groups : List (Group κ η β)) (first second : List (Fragment κ η β)) :
    collect groups (first ++ second) = collect (collect groups first) second := List.foldl_append

theorem insert_new {fragment : Fragment κ η β} {groups : List (Group κ η β)}
    (fresh : ∀ group ∈ groups, group.key ≠ fragment.key) :
    insert fragment groups = groups ++ [⟨fragment.key, fragment.header, [fragment.body]⟩] := by
  induction groups with
  | nil => rfl
  | cons group rest ih =>
    have different := fresh group List.mem_cons_self
    rw [insert, if_neg different, ih fun other member => fresh other (List.mem_cons_of_mem _ member)]
    rfl

theorem insert_last {fragment : Fragment κ η β} {groups : List (Group κ η β)} {last : Group κ η β}
    (fresh : ∀ group ∈ groups, group.key ≠ fragment.key) (same : last.key = fragment.key) :
    insert fragment (groups ++ [last]) = groups ++ [{ last with bodies := last.bodies ++ [fragment.body] }] := by
  induction groups with
  | nil => rw [List.nil_append, insert, if_pos same]; rfl
  | cons group rest ih =>
    have different := fresh group List.mem_cons_self
    rw [List.cons_append, insert, if_neg different,
      ih fun other member => fresh other (List.mem_cons_of_mem _ member)]
    rfl

theorem collect_last {groups : List (Group κ η β)} {last : Group κ η β} {fragments : List (Fragment κ η β)}
    (fresh : ∀ group ∈ groups, group.key ≠ last.key) (same : ∀ fragment ∈ fragments, fragment.key = last.key) :
    collect (groups ++ [last]) fragments =
      groups ++ [{ last with bodies := last.bodies ++ fragments.map Fragment.body }] := by
  induction fragments generalizing last with
  | nil => simp [collect]
  | cons fragment rest ih =>
    have key := same fragment List.mem_cons_self
    have grown : insert fragment (groups ++ [last]) =
        groups ++ [{ last with bodies := last.bodies ++ [fragment.body] }] :=
      insert_last (fun group member => key ▸ fresh group member) key.symm
    have tail : collect (groups ++ [{ last with bodies := last.bodies ++ [fragment.body] }]) rest = _ :=
      ih fresh fun other member => same other (List.mem_cons_of_mem _ member)
    simp only [collect, List.foldl_cons, grown] at tail ⊢
    rw [tail]
    simp

/-- The pieces of one value, none of which came in before, make one group. -/
theorem collect_run {groups : List (Group κ η β)} {first : Fragment κ η β} {rest : List (Fragment κ η β)}
    (fresh : ∀ group ∈ groups, group.key ≠ first.key) (same : ∀ fragment ∈ rest, fragment.key = first.key) :
    collect groups (first :: rest) =
      groups ++ [⟨first.key, first.header, first.body :: rest.map Fragment.body⟩] := by
  have started : collect groups (first :: rest) = collect (insert first groups) rest := rfl
  rw [started, insert_new fresh, collect_last fresh same]
  rfl

end AiGateway.Lib.Fragments
