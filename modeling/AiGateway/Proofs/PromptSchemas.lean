import AiGateway.Proofs.RenderedPrompts
import Mathlib.Data.List.Forall2
import Mathlib.Data.List.Nodup

/-! What the templating of a schema keeps of its shape. -/

namespace AiGateway.PromptTemplates

open Lib.Matches Lib.Runs
open Json (insertMember)

section Inserts

abbrev Members := List (String × Json)

def insertAll (members : Members) (entries : Members) : Members :=
  entries.foldl (fun members entry => insertMember members entry.1 entry.2) members

theorem insertMember_new {members : Members} {name : String} (absent : name ∉ members.map Prod.fst) (value : Json) :
    insertMember members name value = members ++ [(name, value)] := if_neg absent

theorem length_insertMember_le (members : Members) (name : String) (value : Json) :
    (insertMember members name value).length ≤ members.length + 1 := by
  rw [insertMember]
  split
  · rw [List.length_map]
    omega
  · rw [List.length_append]
    rfl

theorem length_insertMember_old {members : Members} {name : String} (present : name ∈ members.map Prod.fst) (value : Json) :
    (insertMember members name value).length = members.length := by
  rw [insertMember]
  rw [if_pos present, List.length_map]

theorem length_insertAll_le (members entries : Members) :
    (insertAll members entries).length ≤ members.length + entries.length := by
  induction entries generalizing members with
  | nil => exact Nat.le_refl _
  | cons entry rest ih =>
    have later := ih (insertMember members entry.1 entry.2)
    have here := length_insertMember_le members entry.1 entry.2
    show (insertAll (insertMember members entry.1 entry.2) rest).length ≤ _
    rw [List.length_cons]
    omega

/-- Entries whose names are new and distinct are all kept, in their order. -/
theorem insertAll_distinct {members entries : Members} (distinct : ((members ++ entries).map Prod.fst).Nodup) :
    insertAll members entries = members ++ entries := by
  induction entries generalizing members with
  | nil => exact (List.append_nil members).symm
  | cons entry rest ih =>
    have absent : entry.1 ∉ members.map Prod.fst := by
      rw [List.map_append, List.map_cons] at distinct
      intro present
      exact (List.nodup_append.mp distinct).2.2 _ present _ List.mem_cons_self rfl
    have again : (((members ++ [entry]) ++ rest).map Prod.fst).Nodup := by
      rw [List.append_assoc]
      exact distinct
    show insertAll (insertMember members entry.1 entry.2) rest = _
    rw [insertMember_new absent]
    exact (ih again).trans (List.append_assoc members [entry] rest)

/-- An entry is lost where two names are the same. -/
theorem insertAll_collides {members entries : Members} (distinct : (members.map Prod.fst).Nodup)
    (collides : ¬ ((members ++ entries).map Prod.fst).Nodup) :
    (insertAll members entries).length < members.length + entries.length := by
  induction entries generalizing members with
  | nil =>
    rw [List.append_nil] at collides
    exact absurd distinct collides
  | cons entry rest ih =>
    show (insertAll (insertMember members entry.1 entry.2) rest).length < _
    rw [List.length_cons]
    by_cases present : entry.1 ∈ members.map Prod.fst
    · have later := length_insertAll_le (insertMember members entry.1 entry.2) rest
      rw [length_insertMember_old present] at later
      omega
    · have next : ((members ++ [entry]).map Prod.fst).Nodup := by
        rw [List.map_append, List.map_singleton]
        exact List.Nodup.append distinct (List.nodup_singleton _) (by simpa using present)
      have again : ¬ (((members ++ [entry]) ++ rest).map Prod.fst).Nodup := by
        rw [List.append_assoc]
        exact collides
      have later := ih next again
      rw [insertMember_new present]
      rw [List.length_append, List.length_singleton] at later
      exact later.trans_eq (by omega)

theorem insertAll_nil_eq_iff {entries : Members} :
    (insertAll [] entries).length = entries.length ↔ (entries.map Prod.fst).Nodup := by
  constructor
  · intro same
    by_contra collides
    have short : (insertAll [] entries).length < ([] : Members).length + entries.length :=
      insertAll_collides List.nodup_nil collides
    rw [List.length_nil] at short
    omega
  · intro distinct
    have kept : insertAll [] entries = [] ++ entries := insertAll_distinct distinct
    rw [kept, List.nil_append]

end Inserts

section Shapes
variable (display : Number → List Char) (inputs : Inputs)

/-- A text that has become another value: itself, where it holds no variable. -/
structure StringReplaced (text : String) (after : Json) : Prop where
  rendered : processString display inputs text.toList = .ok after
  plain : hasVariable text.toList = false → after = .string text

structure KeyReplaced (key after : String) : Prop where
  rendered : processKey display inputs key.toList = .ok after
  plain : hasVariable key.toList = false → after = key

mutual

/-- The same shape at every depth: each text replaced, arrays of the same length, one entry
for each entry of an object, and all else unchanged. -/
def SameShape : Json → Json → Prop
  | .string text, after => StringReplaced display inputs text after
  | .array items, .array after => SameItems items after
  | .object members, .object after => SameMembers members after
  | .array _, _ | .object _, _ => False
  | value, after => after = value

def SameItems : List Json → List Json → Prop
  | [], [] => True
  | item :: rest, other :: after => SameShape item other ∧ SameItems rest after
  | _, _ => False

def SameMembers : Members → Members → Prop
  | [], [] => True
  | (key, value) :: rest, (name, other) :: after =>
    KeyReplaced display inputs key name ∧ SameShape value other ∧ SameMembers rest after
  | _, _ => False

end

mutual

/-- At every depth, the keys of an object are rendered to distinct texts. -/
def KeysApart : Json → Prop
  | .array items => ItemsApart items
  | .object members =>
    (members.map fun member => processKey display inputs member.1.toList).Nodup ∧ MembersApart members
  | _ => True

def ItemsApart : List Json → Prop
  | [] => True
  | item :: rest => KeysApart item ∧ ItemsApart rest

def MembersApart : Members → Prop
  | [] => True
  | (_, value) :: rest => KeysApart value ∧ MembersApart rest

end

variable {display inputs}

theorem hits_nil_of_first {β : Type} {pattern : Pattern Char β} {text : List Char} (missing : (pattern.first text).isSome = false) :
    pattern.hits text = [] := by
  rw [Pattern.first] at missing
  cases found : pattern.hits text with
  | nil => rfl
  | cons entry rest =>
    rw [found] at missing
    cases missing

theorem replaceAll_of_hits_nil {β : Type} {pattern : Pattern Char β} {replace : List Char → β → List Char} {text : List Char}
    (none : pattern.hits text = []) : pattern.replaceAll replace text = text := by
  apply Pattern.replaceAll_eq_self
  intro matched capture member
  rw [none] at member
  cases member

theorem wholeCapture_none {β : Type} {pattern : Pattern Char β} {text : List Char} (missing : (pattern.first text).isSome = false) :
    wholeCapture pattern text = none := by
  have absent : pattern.first text = none := Option.not_isSome_iff_eq_none.mp (by simp [missing])
  rw [wholeCapture]
  rw [absent]
  rfl

/-- A text without variables is left as it is. -/
theorem replaceVariables_plain {text : List Char} (plain : hasVariable text = false) :
    replaceVariables display inputs text [] = .ok (text, []) := by
  rw [hasVariable] at plain
  obtain ⟨typed, legacy⟩ := Bool.or_eq_false_iff.mp plain
  rw [replaceVariables]
  rw [hits_nil_of_first typed, hits_nil_of_first legacy, replaceAll_of_hits_nil (hits_nil_of_first typed)]
  show Except.ok (legacyVariable.replaceAll (legacyReplacement display inputs) text, []) = _
  rw [replaceAll_of_hits_nil (hits_nil_of_first legacy)]

theorem stringReplaced {text : String} {after : Json} (done : processString display inputs text.toList = .ok after) :
    StringReplaced display inputs text after := by
  refine ⟨done, ?_⟩
  intro plain
  obtain ⟨typed, legacy⟩ := Bool.or_eq_false_iff.mp plain
  rw [processString] at done
  rw [wholeCapture_none typed, wholeCapture_none legacy, replaceVariables_plain plain] at done
  cases done
  rw [String.ofList_toList]

theorem keyReplaced {key after : String} (done : processKey display inputs key.toList = .ok after) :
    KeyReplaced display inputs key after := by
  refine ⟨done, ?_⟩
  intro plain
  obtain ⟨typed, legacy⟩ := Bool.or_eq_false_iff.mp plain
  rw [processKey] at done
  rw [wholeCapture_none typed, wholeCapture_none legacy, replaceVariables_plain plain] at done
  cases done
  rw [String.ofList_toList]

variable (display inputs) in
/-- An entry of an object, and what it is rendered to. -/
def EntryRendered (member after : String × Json) : Prop :=
  processKey display inputs member.1.toList = .ok after.1 ∧ processPromptSchema display inputs member.2 = .ok after.2

theorem processMembers_ok {members processed after : Members}
    (done : processMembers display inputs members processed = .ok after) :
    ∃ rendered, List.Forall₂ (EntryRendered display inputs) members rendered ∧ after = insertAll processed rendered := by
  induction members generalizing processed with
  | nil =>
    rw [processMembers] at done
    cases done
    exact ⟨[], .nil, rfl⟩
  | cons member rest ih =>
    obtain ⟨key, value⟩ := member
    rw [processMembers] at done
    obtain ⟨name, keyed, done⟩ := bind_ok done
    obtain ⟨other, valued, done⟩ := bind_ok done
    obtain ⟨rendered, entries, rfl⟩ := ih done
    exact ⟨(name, other) :: rendered, .cons ⟨keyed, valued⟩ entries, rfl⟩

/-- The keys are rendered apart exactly where the names are distinct. -/
theorem keys_nodup_iff {members rendered : Members} (entries : List.Forall₂ (EntryRendered display inputs) members rendered) :
    (members.map fun member => processKey display inputs member.1.toList).Nodup ↔ (rendered.map Prod.fst).Nodup := by
  have same : (members.map fun member => processKey display inputs member.1.toList) =
      (rendered.map Prod.fst).map (Except.ok (ε := String)) := by
    induction entries with
    | nil => rfl
    | cons entry _ ih =>
      rw [List.map_cons, List.map_cons, List.map_cons, ih, entry.1]
  rw [same]
  apply List.nodup_map_iff
  intro first second equal
  exact Except.ok.inj equal

theorem SameMembers.length {members after : Members} (same : SameMembers display inputs members after) :
    members.length = after.length := by
  induction members generalizing after with
  | nil =>
    cases after with
    | nil => rfl
    | cons entry rest => simp [SameMembers] at same
  | cons member rest ih =>
    cases after with
    | nil => simp [SameMembers] at same
    | cons entry after =>
      simp only [SameMembers] at same
      rw [List.length_cons, List.length_cons, ih same.2.2]

mutual

theorem sameShape_iff (value : Json) {after : Json} (done : processPromptSchema display inputs value = .ok after) :
    SameShape display inputs value after ↔ KeysApart display inputs value :=
  match value with
  | .null | .bool _ | .number _ => by
    unfold processPromptSchema at done
    cases done
    simp [SameShape, KeysApart]
  | .string text => by
    unfold processPromptSchema at done
    simp only [SameShape, KeysApart, iff_true]
    exact stringReplaced done
  | .array items => by
    unfold processPromptSchema at done
    obtain ⟨others, ran, done⟩ := bind_ok done
    cases done
    simp only [SameShape, KeysApart]
    exact sameItems_iff items ran
  | .object members => by
    unfold processPromptSchema at done
    obtain ⟨others, ran, done⟩ := bind_ok done
    cases done
    obtain ⟨rendered, entries, rfl⟩ := processMembers_ok ran
    simp only [SameShape, KeysApart, keys_nodup_iff entries]
    constructor
    · intro same
      have distinct : (rendered.map Prod.fst).Nodup := by
        rw [← insertAll_nil_eq_iff, ← same.length, entries.length_eq]
      have kept : insertAll [] rendered = [] ++ rendered := insertAll_distinct distinct
      rw [kept, List.nil_append] at same
      exact ⟨distinct, (sameMembers_iff members entries).mp same⟩
    · intro apart
      have kept : insertAll [] rendered = [] ++ rendered := insertAll_distinct apart.1
      rw [kept, List.nil_append]
      exact (sameMembers_iff members entries).mpr apart.2
  termination_by structural value

theorem sameItems_iff (items : List Json) {after : List Json} (done : processItems display inputs items = .ok after) :
    SameItems display inputs items after ↔ ItemsApart display inputs items :=
  match items with
  | [] => by
    rw [processItems] at done
    cases done
    simp [SameItems, ItemsApart]
  | item :: rest => by
    rw [processItems] at done
    obtain ⟨other, first, done⟩ := bind_ok done
    obtain ⟨others, second, done⟩ := bind_ok done
    cases done
    simp only [SameItems, ItemsApart]
    rw [sameShape_iff item first, sameItems_iff rest second]
  termination_by structural items

theorem sameMembers_iff (members : Members) {rendered : Members}
    (entries : List.Forall₂ (EntryRendered display inputs) members rendered) :
    SameMembers display inputs members rendered ↔ MembersApart display inputs members :=
  match members with
  | [] => by
    cases entries
    simp [SameMembers, MembersApart]
  | (key, value) :: rest => by
    cases entries with
    | cons entry entries =>
      rename_i after others
      obtain ⟨name, other⟩ := after
      simp only [SameMembers, MembersApart]
      rw [sameShape_iff value entry.2, sameMembers_iff rest entries]
      exact and_iff_right (keyReplaced entry.1)
  termination_by structural members

end

/-- What is returned has the shape of the schema exactly where no two keys of one of its
objects are rendered to the same text. -/
theorem schema_shape_kept_iff (value : Json) {after : Json} (done : processPromptSchema display inputs value = .ok after) :
    SameShape display inputs value after ↔ KeysApart display inputs value := sameShape_iff value done

end Shapes

section Collisions

def keyInputs (second : String) : Inputs := [("first", .string "topic"), ("second", .string second)]

def keySchema : Json :=
  .object [("\x7b\x7bfirst\x7d\x7d", .string "a"), ("\x7b\x7bsecond\x7d\x7d", .string "b")]

theorem keySchema_keys (second : String) :
    processKey wholeNumbers (keyInputs second) "\x7b\x7bfirst\x7d\x7d".toList = .ok "topic" ∧
      processKey wholeNumbers (keyInputs second) "\x7b\x7bsecond\x7d\x7d".toList = .ok second := by
  constructor <;> rfl

theorem distinct_keys_kept :
    ∃ after, processPromptSchema wholeNumbers (keyInputs "title") keySchema = .ok after ∧
      SameShape wholeNumbers (keyInputs "title") keySchema after := by
  obtain ⟨after, done⟩ : ∃ after, processPromptSchema wholeNumbers (keyInputs "title") keySchema = .ok after := ⟨_, rfl⟩
  refine ⟨after, done, (schema_shape_kept_iff keySchema done).mpr ?_⟩
  obtain ⟨first, second⟩ := keySchema_keys "title"
  simp only [keySchema, KeysApart, MembersApart, List.map_cons, List.map_nil, first, second]
  decide

/-- Two keys that are rendered to one leave one entry of two. -/
theorem same_keys_collide :
    processPromptSchema wholeNumbers (keyInputs "topic") keySchema = .ok (.object [("topic", .string "b")]) ∧
      ¬ SameShape wholeNumbers (keyInputs "topic") keySchema (.object [("topic", .string "b")]) := by
  refine ⟨rfl, ?_⟩
  intro same
  simp [keySchema, SameShape, SameMembers] at same

end Collisions

end AiGateway.PromptTemplates
