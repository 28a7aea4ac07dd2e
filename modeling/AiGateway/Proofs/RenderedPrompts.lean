import AiGateway.PromptTemplates
import AiGateway.Lib.Runs

/-! What a template is rendered to, and which of its variables are read out of the values that
were put into it. -/

namespace AiGateway.PromptTemplates

open Lib.Matches Lib.Sequences Lib.Runs

section Patterns

theorem takes_append {first second : List (Stretch Char)} {c : Char} :
    Takes (first ++ second) c ↔ Takes first c ∨ Takes second c := by
  simp only [Takes, List.mem_append, or_and_right, exists_or]

theorem legacyTail_takes {c : Char} (takes : Takes legacyTail c) :
    isWhitespace c = true ∨ continuesName c = true ∨ c = '}' := by
  obtain ⟨part, member, taken⟩ := takes
  have starts : startsName c = true → continuesName c = true := by
    intro letter
    rw [startsName] at letter
    rw [continuesName, Char.isAlphanum]
    simp only [Bool.or_eq_true] at letter ⊢
    tauto
  simp only [legacyTail, closingBraces, List.mem_append, List.mem_cons, List.not_mem_nil, or_false] at member
  obtain (rfl | rfl | rfl) | (rfl | rfl) := member
  · exact .inl taken
  · obtain first | later := taken
    · exact .inr (.inl (starts first))
    · exact .inr (.inl later)
  · exact .inl taken
  · exact .inr (.inr taken)
  · exact .inr (.inr taken)

theorem legacyTail_takes_not {c : Char} (blank : ¬ isWhitespace c = true) (name : ¬ continuesName c = true) (brace : c ≠ '}') :
    ¬ Takes legacyTail c := by
  intro takes
  obtain space | inside | closing := legacyTail_takes takes
  · exact blank space
  · exact name inside
  · exact brace closing

theorem legacyTail_not_opening : ¬ Takes legacyTail '{' := legacyTail_takes_not (by decide) (by decide) (by decide)

theorem legacyTail_tight : Tight legacyTail := by
  simp [legacyTail, closingBraces, blanks, variableName, Tight]

theorem legacyParts_not_quote : ¬ Takes (openingBraces ++ legacyTail) '"' := by
  rw [takes_append]
  intro either
  obtain opening | tail := either
  · obtain ⟨part, member, taken⟩ := opening
    simp only [openingBraces, List.mem_cons, List.not_mem_nil, or_false, or_self] at member
    subst member
    exact absurd (show '"' = '{' from taken) (by decide)
  · exact legacyTail_takes_not (by decide) (by decide) (by decide) tail

/-- A reading that goes on to the same words gives the same match. -/
theorem legacyFront_append {before after : List Char}
    (same : read (openingBraces ++ legacyTail) (before ++ after) =
      (read (openingBraces ++ legacyTail) before).map fun (words, rest) => (words, rest ++ after)) :
    legacyFront (before ++ after) = legacyFront before := by
  unfold legacyFront
  rw [same]
  cases read (openingBraces ++ legacyTail) before with
  | none => rfl
  | some entry =>
    obtain ⟨words, rest⟩ := entry
    match words with
    | [] => rfl
    | [name] =>
      show some (_, name) = some (_, name)
      rw [List.length_append, List.length_append, Nat.add_sub_add_right]
    | _ :: _ :: _ => rfl

/-- No variable reads over a quotation mark. -/
theorem legacyVariable_stops : legacyVariable.Stops '"' := by
  intro before after
  exact legacyFront_append (read_stop legacyParts_not_quote before after)

/-- A variable that began before two braces does not read over them. -/
theorem legacyFront_braces {before : List Char} (nonempty : before ≠ []) (after : List Char) :
    legacyFront (before ++ '{' :: '{' :: after) = legacyFront before := by
  apply legacyFront_append
  match before with
  | [] => exact absurd rfl nonempty
  | [c] =>
    show (if c = '{' then (if '{' = '{' then read legacyTail ('{' :: after) else none) else none) =
      Option.map _ (if c = '{' then none else none)
    rw [if_pos rfl, show '{' :: after = [] ++ '{' :: after from rfl, read_stop legacyTail_not_opening,
      read_nil (by simp [legacyTail]) legacyTail_tight]
    simp
  | c :: d :: before =>
    show (if c = '{' then (if d = '{' then read legacyTail (before ++ '{' :: ('{' :: after)) else none) else none) =
      Option.map _ (if c = '{' then (if d = '{' then read legacyTail before else none) else none)
    rw [read_stop legacyTail_not_opening]
    split
    · split <;> rfl
    · rfl

/-- Whatever begins with two braces, begins so. -/
theorem read_openingBraces {tail : List (Stretch Char)} {text : List Char} {words : List (List Char)} {rest : List Char}
    (done : read (openingBraces ++ tail) text = some (words, rest)) :
    ∃ more, text = '{' :: '{' :: more ∧ read tail more = some (words, rest) := by
  match text with
  | [] => cases done
  | [c] =>
    change (if c = '{' then none else none) = _ at done
    rw [ite_self] at done
    cases done
  | c :: d :: more =>
    change (if c = '{' then (if d = '{' then read tail more else none) else none) = _ at done
    split at done
    · next first =>
      split at done
      · next second => exact ⟨more, by rw [first, second], done⟩
      · cases done
    · cases done

theorem typedFront_opens {text : List Char} {width : Nat} {found : TypedVariable}
    (matched : typedFront text = some (width, found)) : ∃ more, text = '{' :: '{' :: more := by
  rw [typedFront] at matched
  split at matched
  · next done =>
    obtain ⟨more, opens, _⟩ := read_openingBraces done
    exact ⟨more, opens⟩
  · cases matched

theorem typedFront_eq_none {text : List Char} (unopened : ∀ more, text ≠ '{' :: '{' :: more) : typedFront text = none := by
  cases matched : typedFront text with
  | none => rfl
  | some found =>
    obtain ⟨more, opens⟩ := typedFront_opens matched
    exact absurd opens (unopened more)

/-- A variable without a type is two braces and a rest without such braces. -/
theorem legacyFront_shape {text : List Char} {width : Nat} {name : List Char}
    (matched : legacyFront text = some (width, name)) :
    ∃ inner, text.take width = '{' :: '{' :: inner ∧ '{' ∉ inner ∧
      (inner ++ text.drop width).head? ≠ some '{' := by
  rw [legacyFront] at matched
  split at matched
  · next name rest done =>
    obtain ⟨more, rfl, inside⟩ := read_openingBraces done
    obtain ⟨used, rfl, taken⟩ := read_used inside
    cases matched
    have width : ('{' :: '{' :: (used ++ rest)).length - rest.length = used.length + 2 := by
      simp only [List.length_cons, List.length_append]
      omega
    have untaken : '{' ∉ used := fun member => legacyTail_not_opening (taken '{' member)
    have dropped : ('{' :: '{' :: (used ++ rest)).drop (used.length + 2) = rest := by simp
    refine ⟨used, ?_, untaken, ?_⟩
    · rw [width]
      simp
    · rw [width, dropped]
      intro opens
      obtain ⟨tail, same⟩ := List.head?_eq_some_iff.mp opens
      rw [same, show '{' :: tail = [] ++ '{' :: tail from rfl, read_stop legacyTail_not_opening,
        read_nil (by simp [legacyTail]) legacyTail_tight] at inside
      cases inside
  · cases matched

end Patterns

section Placeholders

inductive Placeholder where
  | typed (found : TypedVariable)
  | legacy (name : List Char)
  deriving DecidableEq, Repr

def placeholderFront (text : List Char) : Option (Nat × Placeholder) :=
  match typedFront text with
  | some (width, found) => some (width, .typed found)
  | none => (legacyFront text).map fun (width, name) => (width, .legacy name)

/-- The two ways in which a text begins with a placeholder. -/
theorem placeholderFront_cases {text : List Char} {width : Nat} {found : Placeholder}
    (matched : placeholderFront text = some (width, found)) :
    (∃ typed, found = .typed typed ∧ typedFront text = some (width, typed)) ∨
      ∃ name, found = .legacy name ∧ typedFront text = none ∧ legacyFront text = some (width, name) := by
  rw [placeholderFront] at matched
  split at matched
  · next width found typed =>
    cases matched
    exact .inl ⟨_, rfl, typed⟩
  · next untyped =>
    obtain ⟨⟨width, name⟩, legacy, same⟩ := Option.map_eq_some_iff.mp matched
    cases same
    exact .inr ⟨_, rfl, untyped, legacy⟩

theorem placeholderFront_none {text : List Char} (missed : placeholderFront text = none) :
    typedFront text = none ∧ legacyFront text = none := by
  rw [placeholderFront] at missed
  split at missed
  · cases missed
  · next untyped => exact ⟨untyped, Option.map_eq_none_iff.mp missed⟩

theorem placeholderFront_bounded {text : List Char} {width : Nat} {found : Placeholder}
    (matched : placeholderFront text = some (width, found)) : 0 < width ∧ width ≤ text.length := by
  obtain ⟨_, _, typed⟩ | ⟨_, _, _, legacy⟩ := placeholderFront_cases matched
  · exact typedFront_bounded typed
  · exact legacyFront_bounded legacy

/-- The placeholders of a template, of both kinds. -/
def placeholder : Pattern Char Placeholder := ⟨placeholderFront, placeholderFront_bounded⟩

theorem typed_pieces_run {inner : List Char} (unbraced : '{' ∉ inner) (rest : List Char) :
    typedVariable.pieces (inner ++ rest) = inner.map Piece.plain ++ typedVariable.pieces rest := by
  induction inner with
  | nil => rfl
  | cons c inner ih =>
    have other : c ≠ '{' := fun same => unbraced (same ▸ List.mem_cons_self)
    have missed : typedVariable.front (c :: (inner ++ rest)) = none :=
      typedFront_eq_none fun more opens => other (List.cons.inj opens).1
    rw [List.cons_append, Pattern.pieces_plain missed, ih (fun member => unbraced (List.mem_cons_of_mem c member))]
    rfl

/-- No typed variable begins within one that has no type. -/
theorem typed_pieces_legacy {text : List Char} {width : Nat} {name : List Char} (untyped : typedFront text = none)
    (legacy : legacyFront text = some (width, name)) :
    typedVariable.pieces text = (text.take width).map Piece.plain ++ typedVariable.pieces (text.drop width) := by
  obtain ⟨inner, taken, unbraced, closed⟩ := legacyFront_shape legacy
  have whole : text = '{' :: '{' :: (inner ++ text.drop width) := by
    conv => lhs; rw [← List.take_append_drop width text, taken]
    rfl
  generalize text.drop width = rest at *
  subst whole
  have second : typedVariable.front ('{' :: (inner ++ rest)) = none := by
    apply typedFront_eq_none
    intro more opens
    rw [(List.cons.inj opens).2] at closed
    exact closed rfl
  rw [taken, Pattern.pieces_plain untyped, Pattern.pieces_plain second, typed_pieces_run unbraced]
  rfl

/-- The pieces that the search for typed variables makes of a placeholder. -/
def typedPieces : Piece Char Placeholder → List (Piece Char TypedVariable)
  | .plain c => [.plain c]
  | .hit matched (.legacy _) => matched.map Piece.plain
  | .hit matched (.typed found) => [.hit matched found]

theorem typed_pieces_eq (text : List Char) : typedVariable.pieces text = (placeholder.pieces text).flatMap typedPieces := by
  induction text using Pattern.front_induction placeholder with
  | nil => rfl
  | hit text width found matched ih =>
    rw [Pattern.pieces_hit matched, List.flatMap_cons, ← ih]
    obtain ⟨typed, rfl, here⟩ | ⟨name, rfl, untyped, legacy⟩ := placeholderFront_cases matched
    · exact Pattern.pieces_hit here
    · exact typed_pieces_legacy untyped legacy
  | plain c rest missed ih =>
    have untyped : typedVariable.front (c :: rest) = none := (placeholderFront_none missed).1
    rw [Pattern.pieces_plain missed, List.flatMap_cons, ← ih, Pattern.pieces_plain untyped]
    rfl

theorem mem_typed_pieces {text matched : List Char} {found : TypedVariable} :
    .hit matched found ∈ typedVariable.pieces text ↔ .hit matched (.typed found) ∈ placeholder.pieces text := by
  rw [typed_pieces_eq, List.mem_flatMap]
  constructor
  · intro some
    obtain ⟨piece, member, inside⟩ := some
    match piece with
    | .plain c => simp [typedPieces] at inside
    | .hit text (.legacy name) => simp [typedPieces] at inside
    | .hit text (.typed other) =>
      have same : matched = text ∧ found = other := by simpa [typedPieces] using inside
      rw [same.1, same.2]
      exact member
  · intro member
    exact ⟨_, member, by simp [typedPieces]⟩

end Placeholders

section Rendering
variable (display : Number → List Char) (inputs : Inputs)

def marks (flag : Bool) (text : List Char) : List (Char × Bool) := text.map fun c => (c, flag)

/-- A piece of a template after the first pass. Its characters are marked where they come from a value. -/
def markedPiece : Piece Char TypedVariable → List (Char × Bool)
  | .plain c => [(c, false)]
  | .hit matched found =>
    match inputs.get found.name with
    | none => marks false matched
    | some value => marks true (toText display value)

def marked (text : List Char) : List (Char × Bool) := (typedVariable.pieces text).flatMap (markedPiece display inputs)

/-- The search of the second pass, which sees the characters without their marks. -/
def secondPass : Pattern (Char × Bool) (List Char) := legacyVariable.comap Prod.fst

/-- The second pass takes text of a value for a variable. -/
def Rescans (text : List Char) : Prop :=
  ∃ matched name, .hit matched name ∈ secondPass.pieces (marked display inputs text) ∧ name ≠ "hc".toList ∧
    (inputs.get name).isSome ∧ ∃ c ∈ matched, c.2 = true

def replacement (matched : List Char) : Placeholder → List Char
  | .typed found => typedReplacement display inputs matched found
  | .legacy name => legacyReplacement display inputs matched name

/-- The template with each of its placeholders replaced, all at once. -/
def once (text : List Char) : List Char := placeholder.replaceAll (replacement display inputs) text

/-- The inputs of the typed variables are there, and are texts. -/
def Known (text : List Char) : Prop :=
  ∀ matched found, .hit matched found ∈ typedVariable.pieces text → ∃ value, inputs.get found.name = some (.string value)

/-- What the second pass makes of a placeholder. -/
def secondPieces : Piece Char Placeholder → List (Piece (Char × Bool) (List Char))
  | .plain c => [.plain (c, false)]
  | .hit matched (.legacy name) => [.hit (marks false matched) name]
  | .hit matched (.typed found) => secondPass.pieces (markedPiece display inputs (.hit matched found))

variable {display inputs}

theorem map_marks (flag : Bool) (text : List Char) : (marks flag text).map Prod.fst = text := by
  rw [marks]
  rw [List.map_map]
  exact List.map_id text

theorem marked_hit {text : List Char} {width : Nat} {found : TypedVariable} (matched : typedFront text = some (width, found)) :
    marked display inputs text =
      markedPiece display inputs (.hit (text.take width) found) ++ marked display inputs (text.drop width) := by
  have here : typedVariable.front text = some (width, found) := matched
  unfold marked
  rw [Pattern.pieces_hit here, List.flatMap_cons]

theorem marked_plain {c : Char} {rest : List Char} (missed : typedFront (c :: rest) = none) :
    marked display inputs (c :: rest) = (c, false) :: marked display inputs rest := by
  have here : typedVariable.front (c :: rest) = none := missed
  rw [marked]
  rw [Pattern.pieces_plain here, List.flatMap_cons]
  rfl

theorem marked_legacy {text : List Char} {width : Nat} {name : List Char} (untyped : typedFront text = none)
    (legacy : legacyFront text = some (width, name)) :
    marked display inputs text = marks false (text.take width) ++ marked display inputs (text.drop width) := by
  rw [marked]
  rw [typed_pieces_legacy untyped legacy, List.flatMap_append, List.flatMap_map]
  congr 1
  exact List.map_eq_flatMap.symm

/-- After the first pass the characters are those that the source's first replacement returns. -/
theorem map_marked (text : List Char) :
    (marked display inputs text).map Prod.fst = typedVariable.replaceAll (typedReplacement display inputs) text := by
  unfold marked Pattern.replaceAll
  rw [List.map_flatMap]
  apply List.flatMap_congr
  intro piece _
  match piece with
  | .plain c => rfl
  | .hit matched found =>
    unfold markedPiece Piece.replaced typedReplacement
    dsimp only
    cases inputs.get found.name with
    | none => exact map_marks false matched
    | some value => exact map_marks true _

theorem Known.drop {text : List Char} {width : Nat} {found : TypedVariable} (known : Known inputs text)
    (matched : typedFront text = some (width, found)) : Known inputs (text.drop width) := by
  have here : typedVariable.front text = some (width, found) := matched
  intro other typed member
  apply known other typed
  rw [Pattern.pieces_hit here]
  exact List.mem_cons_of_mem _ member

theorem Known.tail {c : Char} {rest : List Char} (known : Known inputs (c :: rest))
    (missed : typedFront (c :: rest) = none) : Known inputs rest := by
  have here : typedVariable.front (c :: rest) = none := missed
  intro other typed member
  apply known other typed
  rw [Pattern.pieces_plain here]
  exact List.mem_cons_of_mem _ member

theorem Known.legacy {text : List Char} {width : Nat} {name : List Char} (known : Known inputs text)
    (untyped : typedFront text = none) (legacy : legacyFront text = some (width, name)) : Known inputs (text.drop width) := by
  intro other typed member
  apply known other typed
  rw [typed_pieces_legacy untyped legacy]
  exact List.mem_append_right _ member

theorem markedPiece_typed {matched : List Char} {found : TypedVariable} {value : Json}
    (held : inputs.get found.name = some value) :
    markedPiece display inputs (.hit matched found) = marks true (toText display value) := by
  unfold markedPiece
  dsimp only
  rw [held]

/-- The value of a typed variable at the front is a text in quotation marks. -/
theorem markedPiece_hit {text : List Char} {width : Nat} {found : TypedVariable} (known : Known inputs text)
    (matched : typedFront text = some (width, found)) :
    ∃ value : String, markedPiece display inputs (.hit (text.take width) found) = marks true (quoted value.toList) := by
  have here : typedVariable.front text = some (width, found) := matched
  obtain ⟨value, held⟩ := known (text.take width) found (by rw [Pattern.pieces_hit here]; exact List.mem_cons_self)
  refine ⟨value, ?_⟩
  rw [markedPiece_typed held, toText]

theorem secondPass_stops : secondPass.Stops ('"', true) := by
  intro before after
  show legacyFront ((before ++ ('"', true) :: after).map Prod.fst) = legacyFront (before.map Prod.fst)
  rw [List.map_append, List.map_cons]
  exact legacyVariable_stops _ _

/-- Quotation marks keep the search of a value apart from what comes after it. -/
theorem secondPass_quoted (value : List Char) (rest : List (Char × Bool)) :
    secondPass.pieces (marks true (quoted value) ++ rest) =
      secondPass.pieces (marks true (quoted value)) ++ secondPass.pieces rest := by
  have cut (after : List (Char × Bool)) : marks true (quoted value) ++ after =
      marks true ('"' :: value.flatMap escaped) ++ ('"', true) :: after := by
    simp [marks, quoted]
  have whole := cut []
  rw [List.append_nil] at whole
  rw [cut rest, whole, Pattern.pieces_stop secondPass_stops, Pattern.pieces_stop secondPass_stops, List.append_assoc]
  rfl

/-- A variable without a type that begins before the values begins in the template. -/
theorem legacyFront_marked {rest : List Char} (known : Known inputs rest) {before : List Char} (nonempty : before ≠ []) :
    legacyFront (before ++ (marked display inputs rest).map Prod.fst) = legacyFront (before ++ rest) := by
  induction rest using Pattern.front_induction typedVariable generalizing before with
  | nil => rfl
  | hit text width found matched ih =>
    obtain ⟨value, inside⟩ : ∃ value : String, markedPiece display inputs _ = marks true (quoted value.toList) :=
      markedPiece_hit known matched
    obtain ⟨more, opens⟩ := typedFront_opens matched
    have left : legacyFront (before ++ (marked display inputs text).map Prod.fst) = legacyFront before := by
      rw [marked_hit matched, inside, List.map_append, map_marks]
      exact legacyVariable_stops before _
    have right : legacyFront (before ++ text) = legacyFront before := by
      rw [opens]
      exact legacyFront_braces nonempty more
    rw [left, right]
  | plain c rest missed ih =>
    have longer : before ++ [c] ≠ [] := by simp
    have step := ih (known.tail missed) longer
    rw [List.append_assoc, List.append_assoc] at step
    rw [marked_plain missed]
    exact step

/-- The second pass finds what stands in the template, and what stands in the values. -/
theorem secondPass_pieces {text : List Char} (known : Known inputs text) :
    secondPass.pieces (marked display inputs text) = (placeholder.pieces text).flatMap (secondPieces display inputs) := by
  induction text using Pattern.front_induction placeholder with
  | nil => rfl
  | hit text width found matched ih =>
    rw [Pattern.pieces_hit matched, List.flatMap_cons]
    obtain ⟨typed, rfl, here⟩ | ⟨name, rfl, untyped, legacy⟩ := placeholderFront_cases matched
    · obtain ⟨value, inside⟩ : ∃ value : String, markedPiece display inputs _ = marks true (quoted value.toList) :=
        markedPiece_hit known here
      rw [marked_hit here, ← ih (known.drop here)]
      unfold secondPieces
      dsimp only
      rw [inside, secondPass_quoted]
    · have bounds := legacyFront_bounded legacy
      have nonempty : text.take width ≠ [] := by
        intro empty
        have short := congrArg List.length empty
        rw [List.length_take_of_le bounds.2] at short
        simp at short
        omega
      have here : secondPass.front (marks false (text.take width) ++ marked display inputs (text.drop width)) =
          some (width, name) := by
        show legacyFront (List.map Prod.fst _) = _
        rw [List.map_append, map_marks, legacyFront_marked (known.legacy untyped legacy) nonempty, List.take_append_drop]
        exact legacy
      have size : (marks false (text.take width)).length = width := by
        unfold marks
        rw [List.length_map, List.length_take_of_le bounds.2]
      rw [marked_legacy untyped legacy, Pattern.pieces_hit here, List.take_left' size, List.drop_left' size,
        ih (known.legacy untyped legacy)]
      rfl
  | plain c rest missed ih =>
    obtain ⟨untyped, unread⟩ := placeholderFront_none missed
    have known' := known.tail untyped
    have here : secondPass.front ((c, false) :: marked display inputs rest) = none := by
      show legacyFront ([c] ++ (marked display inputs rest).map Prod.fst) = none
      rw [legacyFront_marked known' (List.cons_ne_nil c [])]
      exact unread
    rw [marked_plain untyped, Pattern.pieces_plain here, Pattern.pieces_plain missed, List.flatMap_cons, ih known']
    rfl

variable (display inputs) in
/-- The text of a value holds no variable that the inputs have. -/
def Inert (value : Json) : Prop :=
  ∀ matched name, .hit matched name ∈ legacyVariable.pieces (toText display value) →
    name = "hc".toList ∨ inputs.get name = none

/-- The second pass over a value by itself. -/
theorem secondPass_marks (flag : Bool) (text : List Char) :
    (secondPass.pieces (marks flag text)).map (Piece.map Prod.fst) = legacyVariable.pieces text := by
  have mapped : legacyVariable.pieces ((marks flag text).map Prod.fst) =
      (secondPass.pieces (marks flag text)).map (Piece.map Prod.fst) := Pattern.pieces_map Prod.fst (marks flag text)
  rw [← mapped, map_marks]

theorem replaceAll_inert {value : Json} (inert : Inert display inputs value) :
    legacyVariable.replaceAll (legacyReplacement display inputs) (toText display value) = toText display value := by
  apply Pattern.replaceAll_eq_self
  intro matched name member
  rw [legacyReplacement]
  split
  · rfl
  · next other =>
    obtain reserved | absent := inert matched name (Pattern.mem_hits.mp member)
    · exact absurd reserved other
    · rw [absent]
      rfl

/-- Where the values hold no variables, the two passes render the template at once. -/
theorem replaceAll_eq_once {text : List Char} (known : Known inputs text)
    (inert : ∀ matched found value, .hit matched found ∈ typedVariable.pieces text → inputs.get found.name = some value →
      Inert display inputs value) :
    legacyVariable.replaceAll (legacyReplacement display inputs)
      (typedVariable.replaceAll (typedReplacement display inputs) text) = once display inputs text := by
  have mapped : legacyVariable.pieces ((marked display inputs text).map Prod.fst) =
      (secondPass.pieces (marked display inputs text)).map (Piece.map Prod.fst) :=
    Pattern.pieces_map Prod.fst (marked display inputs text)
  rw [← map_marked]
  unfold Pattern.replaceAll once
  rw [mapped, secondPass_pieces known, List.map_flatMap, List.flatMap_assoc]
  apply List.flatMap_congr
  intro piece member
  match piece with
  | .plain c => rfl
  | .hit matched (.legacy name) =>
    unfold secondPieces
    simp [Piece.map, Piece.replaced, replacement, map_marks]
  | .hit matched (.typed found) =>
    have typed := mem_typed_pieces.mpr member
    obtain ⟨value, held⟩ := known matched found typed
    have rendered := replaceAll_inert (inert matched found _ typed held)
    rw [secondPieces, markedPiece_typed held, secondPass_marks]
    unfold Piece.replaced replacement typedReplacement
    dsimp only
    rw [held]
    exact rendered

/-- The second pass finds the template's own variables without a type, and those of the values. -/
theorem mem_secondPass {text : List Char} (known : Known inputs text) {matched : List (Char × Bool)} {name : List Char} :
    .hit matched name ∈ secondPass.pieces (marked display inputs text) ↔
      (∃ written, .hit written (.legacy name) ∈ placeholder.pieces text ∧ matched = marks false written) ∨
        ∃ written found value, .hit written found ∈ typedVariable.pieces text ∧ inputs.get found.name = some value ∧
          .hit matched name ∈ secondPass.pieces (marks true (toText display value)) := by
  rw [secondPass_pieces known, List.mem_flatMap]
  constructor
  · rintro ⟨piece, placed, member⟩
    match piece with
    | .plain c => simp [secondPieces] at member
    | .hit written (.legacy other) =>
      have same : matched = marks false written ∧ name = other := by simpa [secondPieces] using member
      obtain ⟨rfl, rfl⟩ := same
      exact .inl ⟨written, placed, rfl⟩
    | .hit written (.typed found) =>
      have typed := mem_typed_pieces.mpr placed
      obtain ⟨value, held⟩ := known written found typed
      rw [secondPieces, markedPiece_typed held] at member
      exact .inr ⟨written, found, _, typed, held, member⟩
  · rintro (⟨written, placed, rfl⟩ | ⟨written, found, value, typed, held, member⟩)
    · exact ⟨_, placed, List.mem_singleton.mpr rfl⟩
    · refine ⟨_, mem_typed_pieces.mp typed, ?_⟩
      rw [secondPieces, markedPiece_typed held]
      exact member

/-- What a pass finds in a value is all of the value. -/
theorem exists_flagged {value : Json} {matched : List (Char × Bool)} {name : List Char}
    (member : .hit matched name ∈ secondPass.pieces (marks true (toText display value))) :
    ∃ entry ∈ matched, entry.2 = true := by
  obtain ⟨c, rest, rfl⟩ := List.exists_cons_of_ne_nil (Pattern.hit_ne_nil member)
  have origin : c ∈ marks true (toText display value) := Pattern.mem_of_mem_piece member List.mem_cons_self
  obtain ⟨char, _, rfl⟩ := List.mem_map.mp origin
  exact ⟨_, List.mem_cons_self, rfl⟩

theorem hit_marks_iff (flag : Bool) {text matched name : List Char} :
    .hit matched name ∈ legacyVariable.pieces text ↔
      ∃ marked, .hit marked name ∈ secondPass.pieces (marks flag text) ∧ marked.map Prod.fst = matched := by
  rw [← secondPass_marks flag, List.mem_map]
  constructor
  · rintro ⟨piece, member, same⟩
    cases piece with
    | plain c => cases same
    | hit marked capture =>
      cases same
      exact ⟨marked, member, rfl⟩
  · rintro ⟨marked, member, rfl⟩
    exact ⟨_, member, rfl⟩

/-- What the second pass finds in the values is what they hold. -/
theorem rescans_iff {text : List Char} (known : Known inputs text) :
    ¬ Rescans display inputs text ↔
      ∀ matched found value, .hit matched found ∈ typedVariable.pieces text → inputs.get found.name = some value →
        Inert display inputs value := by
  constructor
  · intro clean matched found value typed held inner name inside
    by_cases reserved : name = "hc".toList
    · exact .inl reserved
    · refine .inr (Option.not_isSome_iff_eq_none.mp ?_)
      intro given
      obtain ⟨marked, member, _⟩ := (hit_marks_iff true).mp inside
      apply clean
      exact ⟨marked, name, (mem_secondPass known).mpr (.inr ⟨_, _, _, typed, held, member⟩), reserved, given,
        exists_flagged member⟩
  · intro inert rescans
    obtain ⟨matched, name, member, free, given, c, inside, flagged⟩ := rescans
    obtain ⟨written, _, rfl⟩ | ⟨written, found, value, typed, held, member⟩ := (mem_secondPass known).mp member
    · obtain ⟨char, _, rfl⟩ := List.mem_map.mp inside
      cases flagged
    · obtain reserved | absent := inert written found value typed held _ _ ((hit_marks_iff true).mpr ⟨matched, member, rfl⟩)
      · exact free reserved
      · rw [absent] at given
        cases given

theorem replaceVariables_ok {text rendered : List Char} {validated after : List (List Char)}
    (done : replaceVariables display inputs text validated = .ok (rendered, after)) :
    ((typedVariable.hits text).map Prod.snd).foldlM (validateTyped display inputs) validated = .ok after ∧
      rendered = legacyVariable.replaceAll (legacyReplacement display inputs)
        (typedVariable.replaceAll (typedReplacement display inputs) text) := by
  rw [replaceVariables] at done
  obtain ⟨middle, typed, done⟩ := bind_ok done
  obtain ⟨_, _, done⟩ := bind_ok done
  cases done
  exact ⟨typed, rfl⟩

theorem validateTyped_ok {validated after : List (List Char)} {found : TypedVariable}
    (done : validateTyped display inputs validated found = .ok after) :
    (found.name ∈ validated ∧ after = validated) ∨
      ∃ value shown, inputs.get found.name = some value ∧ validateVariableType display value found.type = .ok shown ∧
        after = found.name :: validated := by
  rw [validateTyped] at done
  split at done
  · next seen =>
    cases done
    exact .inl ⟨List.contains_iff_mem.mp seen, rfl⟩
  · split at done
    · cases done
    · next value held =>
      obtain ⟨shown, accepted, rfl⟩ := map_ok done
      exact .inr ⟨value, shown, held, accepted, rfl⟩

/-- Every typed variable that passes has an input. -/
theorem validated_given {occurrences : List TypedVariable} {validated after : List (List Char)}
    (done : occurrences.foldlM (validateTyped display inputs) validated = .ok after)
    (earlier : ∀ name ∈ validated, (inputs.get name).isSome) : ∀ found ∈ occurrences, (inputs.get found.name).isSome := by
  induction occurrences generalizing validated with
  | nil => nofun
  | cons found rest ih =>
    rw [List.foldlM_cons] at done
    obtain ⟨middle, first, done⟩ := bind_ok done
    have given : (inputs.get found.name).isSome ∧ ∀ name ∈ middle, (inputs.get name).isSome := by
      obtain ⟨seen, rfl⟩ | ⟨value, _, held, _, rfl⟩ := validateTyped_ok first
      · exact ⟨earlier found.name seen, earlier⟩
      · have here : (inputs.get found.name).isSome := by rw [held]; rfl
        exact ⟨here, List.forall_mem_cons.mpr ⟨here, earlier⟩⟩
    exact List.forall_mem_cons.mpr ⟨given.1, ih done given.2⟩

/-- A template is rendered at once, and nothing in a value is taken for a variable, exactly
where the values of its typed variables hold none that the inputs have. -/
theorem rendered_once_iff {text rendered : List Char} {validated after : List (List Char)}
    (strings : ∀ name value, inputs.get name = some value → ∃ text, value = .string text)
    (earlier : ∀ name ∈ validated, (inputs.get name).isSome)
    (done : replaceVariables display inputs text validated = .ok (rendered, after)) :
    (rendered = once display inputs text ∧ ¬ Rescans display inputs text) ↔
      ∀ matched found value, .hit matched found ∈ typedVariable.pieces text → inputs.get found.name = some value →
        Inert display inputs value := by
  obtain ⟨typed, rfl⟩ := replaceVariables_ok done
  have known : Known inputs text := by
    intro matched found member
    have listed : found ∈ (typedVariable.hits text).map Prod.snd :=
      List.mem_map.mpr ⟨(matched, found), Pattern.mem_hits.mpr member, rfl⟩
    obtain ⟨value, held⟩ := Option.isSome_iff_exists.mp (validated_given typed earlier found listed)
    obtain ⟨plain, rfl⟩ := strings found.name value held
    exact ⟨plain, held⟩
  rw [rescans_iff known]
  constructor
  · intro both
    exact both.2
  · intro inert
    exact ⟨replaceAll_eq_once known inert, inert⟩

end Rendering

section Injection

/-- The whole numbers; the inputs of the examples hold no others. -/
def wholeNumbers : Number → List Char
  | .posInt value => Nat.toDigits 10 value.toNat
  | .negInt value => '-' :: Nat.toDigits 10 value.toInt.natAbs
  | .float _ => []

def questionInputs (question : String) : Inputs := [("question", .string question), ("key", .string "s3cret")]

theorem questionInputs_strings (question : String) (name : List Char) (value : Json)
    (held : (questionInputs question).get name = some value) : ∃ text, value = .string text := by
  rw [Inputs.get, questionInputs] at held
  simp only [List.lookup_cons, List.lookup_nil] at held
  split at held
  · exact ⟨_, (Option.some.inj held).symm⟩
  · split at held
    · exact ⟨_, (Option.some.inj held).symm⟩
    · cases held

def questionTemplate : List Char := "Q: \x7b\x7bhc:question:string\x7d\x7d".toList

theorem question_hits : typedVariable.hits questionTemplate =
    [("\x7b\x7bhc:question:string\x7d\x7d".toList, ⟨"question".toList, "string".toList⟩)] := by
  rfl

theorem plain_question_rendered_once :
    once wholeNumbers (questionInputs "why?") questionTemplate = "Q: \"why?\"".toList := by
  have done : replaceVariables wholeNumbers (questionInputs "why?") questionTemplate [] =
      .ok ("Q: \"why?\"".toList, ["question".toList]) := by rfl
  have inert : ∀ matched found value, .hit matched found ∈ typedVariable.pieces questionTemplate →
      (questionInputs "why?").get found.name = some value → Inert wholeNumbers (questionInputs "why?") value := by
    intro matched found value member held inner name inside
    rw [← Pattern.mem_hits, question_hits] at member
    cases List.mem_singleton.mp member
    cases held
    rw [← Pattern.mem_hits, show legacyVariable.hits (toText wholeNumbers (.string "why?")) = [] by rfl] at inside
    cases inside
  exact ((rendered_once_iff (questionInputs_strings "why?") (List.forall_mem_nil _) done).mpr inert).1.symm

/-- A value that names another input is rendered as that input's text. -/
theorem question_reads_key :
    replaceVariables wholeNumbers (questionInputs "\x7b\x7bkey\x7d\x7d") questionTemplate [] =
        .ok ("Q: \"s3cret\"".toList, ["question".toList]) ∧
      once wholeNumbers (questionInputs "\x7b\x7bkey\x7d\x7d") questionTemplate = "Q: \"\x7b\x7bkey\x7d\x7d\"".toList := by
  constructor <;> rfl

end Injection

end AiGateway.PromptTemplates
