import AiGateway.JsonSyntax
import Mathlib.Data.List.Induction

/-! Where keys stand in a text of JSON. Every quote of a text opens or closes one of its strings, or
is escaped in one, and the keys of the value are those that stand before a colon. -/

namespace AiGateway.JsonSyntax

section Values

/-- Induction over a value, with what holds of the elements of an array and of the members of an
object. -/
theorem Value.induction {motive : Value → Prop} (null : motive .null) (bool : ∀ value, motive (.bool value))
    (number : ∀ number, motive (.number number)) (string : ∀ pieces, motive (.string pieces))
    (blankArray : ∀ gap, motive (.blankArray gap))
    (array : ∀ elements : List (Element Value), (∀ element ∈ elements, motive element.value) → motive (.array elements))
    (blankObject : ∀ gap, motive (.blankObject gap))
    (object : ∀ members : List (Member Value), (∀ member ∈ members, motive member.value) → motive (.object members))
    (value : Value) : motive value := by
  exact @Value.rec motive (fun elements => ∀ element ∈ elements, motive element.value)
    (fun members => ∀ member ∈ members, motive member.value) (fun element => motive element.value)
    (fun member => motive member.value) null bool number string blankArray array blankObject object
    (List.forall_mem_nil _) (fun _ _ first rest => List.forall_mem_cons.mpr ⟨first, rest⟩)
    (List.forall_mem_nil _) (fun _ _ first rest => List.forall_mem_cons.mpr ⟨first, rest⟩)
    (fun _ _ _ held => held) (fun _ _ _ _ _ _ held => held) value

/-- A key with its colon. -/
def keyChunks (key : List Piece) (gap : Gap) : List Chunk := .string key :: gap.chunks ++ [.mark ':']

def memberChunks (member : Member Value) : List Chunk :=
  member.before.chunks ++ keyChunks member.key member.gap ++
    (member.between.chunks ++ member.value.chunks ++ member.after.chunks)

theorem elementsChunks_eq_map (elements : List (Element Value)) : elementsChunks elements = elements.map elementChunks := by
  induction elements with
  | nil => rfl
  | cons element rest ih => rw [elementsChunks, ih]; rfl

theorem membersChunks_eq_map (members : List (Member Value)) : membersChunks members = members.map memberChunks := by
  induction members with
  | nil => rfl
  | cons member rest ih => rw [membersChunks, ih]; rfl

theorem elementsJson_eq_map (elements : List (Element Value)) :
    elementsJson elements = elements.map fun element => element.value.json := by
  induction elements with
  | nil => rfl
  | cons element rest ih => rw [elementsJson, ih]; rfl

theorem membersJson_eq_map (members : List (Member Value)) :
    membersJson members = members.map fun member => (spelled member.key, member.value.json) := by
  induction members with
  | nil => rfl
  | cons member rest ih => rw [membersJson, ih]; rfl

theorem infix_commaSeparated {item : List Chunk} {items : List (List Chunk)} (member : item ∈ items) :
    item <:+: commaSeparated items := by
  induction items with
  | nil => cases member
  | cons first rest ih =>
    cases rest with
    | nil =>
      obtain rfl := List.mem_singleton.mp member
      exact ⟨[], [], by simp [commaSeparated, List.intercalate]⟩
    | cons second rest =>
      have split : commaSeparated (first :: second :: rest) =
          first ++ .mark ',' :: commaSeparated (second :: rest) := by
        simp [commaSeparated, List.intercalate]
      rw [split]
      rcases List.mem_cons.mp member with rfl | later
      · exact (List.prefix_append _ _).isInfix
      · exact (ih later).trans ((List.suffix_cons _ _).trans (List.suffix_append _ _)).isInfix

theorem mem_commaSeparated {chunk : Chunk} {items : List (List Chunk)} (member : chunk ∈ commaSeparated items) :
    chunk = .mark ',' ∨ ∃ item ∈ items, chunk ∈ item := by
  induction items with
  | nil => cases member
  | cons first rest ih =>
    cases rest with
    | nil => exact .inr ⟨first, List.mem_cons_self, by simpa [commaSeparated, List.intercalate] using member⟩
    | cons second rest =>
      have split : commaSeparated (first :: second :: rest) =
          first ++ .mark ',' :: commaSeparated (second :: rest) := by
        simp [commaSeparated, List.intercalate]
      rw [split] at member
      rcases List.mem_append.mp member with here | later
      · exact .inr ⟨first, List.mem_cons_self, here⟩
      · rcases List.mem_cons.mp later with rfl | later
        · exact .inl rfl
        · exact (ih later).imp_right fun ⟨item, listed, inside⟩ => ⟨item, List.mem_cons_of_mem _ listed, inside⟩

end Values

section Quoteless

theorem quote_notMem_marks {text : List Char} (free : '"' ∉ text) : .mark '"' ∉ marks text := by
  intro member
  obtain ⟨c, inside, same⟩ := List.mem_map.mp member
  cases same
  exact free inside

theorem Gap.quoteless (gap : Gap) : .mark '"' ∉ gap.chunks := by
  apply quote_notMem_marks
  intro member
  exact absurd (gap.blank _ member) (by decide)

theorem quote_notMem_commaSeparated {items : List (List Chunk)} (free : ∀ item ∈ items, .mark '"' ∉ item) :
    .mark '"' ∉ commaSeparated items := by
  intro member
  rcases mem_commaSeparated member with comma | ⟨item, listed, inside⟩
  · cases comma
  · exact free item listed inside

/-- Outside the strings there is no quote. -/
theorem Value.quoteless (value : Value) : .mark '"' ∉ value.chunks := by
  induction value using Value.induction with
  | null => exact quote_notMem_marks (by decide)
  | bool value => exact quote_notMem_marks (by cases value <;> decide)
  | number number => exact quote_notMem_marks fun member => absurd (number.numeric _ member) (by decide)
  | string pieces => simp [Value.chunks]
  | blankArray gap | blankObject gap => simp [Value.chunks, gap.quoteless]
  | array elements ih =>
    have free : .mark '"' ∉ commaSeparated (elementsChunks elements) := by
      apply quote_notMem_commaSeparated
      intro item listed
      rw [elementsChunks_eq_map] at listed
      obtain ⟨element, member, rfl⟩ := List.mem_map.mp listed
      simp [elementChunks, Gap.quoteless, ih element member]
    simp [Value.chunks, free]
  | object members ih =>
    have free : .mark '"' ∉ commaSeparated (membersChunks members) := by
      apply quote_notMem_commaSeparated
      intro item listed
      rw [membersChunks_eq_map] at listed
      obtain ⟨member, inside, rfl⟩ := List.mem_map.mp listed
      simp [memberChunks, keyChunks, Gap.quoteless, ih member inside]
    simp [Value.chunks, free]

theorem quoteless (document : Element Value) : .mark '"' ∉ elementChunks document := by
  simp [elementChunks, Gap.quoteless, Value.quoteless]

end Quoteless

section Keys

/-- The keys that stand in a value, with the gaps before their colons. What is inside a member does
not count if a later member has its name. -/
inductive KeyToken (key : List Piece) (gap : Gap) : Value → Prop where
  | here {members : List (Member Value)} {member} (listed : member ∈ members) (named : member.key = key)
      (apart : member.gap = gap) : KeyToken key gap (.object members)
  | member {front back : List (Member Value)} {member}
      (last : ∀ later ∈ back, spelled later.key ≠ spelled member.key)
      (inside : KeyToken key gap member.value) : KeyToken key gap (.object (front ++ member :: back))
  | element {elements : List (Element Value)} {element} (listed : element ∈ elements)
      (inside : KeyToken key gap element.value) : KeyToken key gap (.array elements)

theorem infix_member {member : Member Value} {members : List (Member Value)} (listed : member ∈ members) :
    memberChunks member <:+: (Value.object members).chunks := by
  have inside : memberChunks member <:+: commaSeparated (membersChunks members) := by
    apply infix_commaSeparated
    rw [membersChunks_eq_map]
    exact List.mem_map_of_mem listed
  rw [Value.chunks]
  exact inside.trans ⟨[.mark '\x7b'], [.mark '\x7d'], by simp⟩

theorem infix_element {element : Element Value} {elements : List (Element Value)} (listed : element ∈ elements) :
    elementChunks element <:+: (Value.array elements).chunks := by
  have inside : elementChunks element <:+: commaSeparated (elementsChunks elements) := by
    apply infix_commaSeparated
    rw [elementsChunks_eq_map]
    exact List.mem_map_of_mem listed
  rw [Value.chunks]
  exact inside.trans ⟨[.mark '['], [.mark ']'], by simp⟩

/-- A key stands in the text of the value, before its colon. -/
theorem KeyToken.stands {key : List Piece} {gap : Gap} {value : Value} (token : KeyToken key gap value) :
    keyChunks key gap <:+: value.chunks := by
  induction token with
  | here listed named apart =>
    subst named apart
    exact List.IsInfix.trans ⟨_, _, rfl⟩ (infix_member listed)
  | @member front back member last inside ih =>
    have here : member.value.chunks <:+: memberChunks member :=
      ⟨member.before.chunks ++ keyChunks member.key member.gap ++ member.between.chunks, member.after.chunks, by
        simp [memberChunks]⟩
    exact ih.trans (here.trans (infix_member (List.mem_append_right _ List.mem_cons_self)))
  | element listed inside ih => exact ih.trans (List.IsInfix.trans ⟨_, _, rfl⟩ (infix_element listed))

theorem mem_insertMember_iff {held : List (String × Json)} {name : String} {value : Json} {member : String × Json} :
    member ∈ Json.insertMember held name value ↔ member = (name, value) ∨ member ∈ held ∧ member.1 ≠ name := by
  unfold Json.insertMember
  split
  next there =>
    rw [List.mem_map]
    constructor
    · rintro ⟨before, inside, rfl⟩
      by_cases same : before.1 = name
      · exact .inl (if_pos same)
      · rw [if_neg same]
        exact .inr ⟨inside, same⟩
    · rintro (rfl | ⟨inside, other⟩)
      · obtain ⟨before, inside, same⟩ := List.mem_map.mp there
        exact ⟨before, inside, if_pos same⟩
      · exact ⟨member, inside, if_neg other⟩
  next absent =>
    rw [List.mem_append, List.mem_singleton, or_comm]
    refine or_congr_right ⟨fun inside => ⟨inside, ?_⟩, And.left⟩
    rintro rfl
    exact absent (List.mem_map_of_mem inside)

/-- A member is collected if no later one has its name. -/
theorem mem_collected_iff {members : List (String × Json)} {member : String × Json} :
    member ∈ collected members ↔
      ∃ front back, members = front ++ member :: back ∧ ∀ later ∈ back, later.1 ≠ member.1 := by
  induction members using List.reverseRecOn with
  | nil => simp [collected]
  | append_singleton front last ih =>
    have grown : collected (front ++ [last]) = Json.insertMember (collected front) last.1 last.2 := by
      simp [collected]
    rw [grown, mem_insertMember_iff, ih]
    constructor
    · rintro (rfl | ⟨⟨before, back, rfl, later⟩, other⟩)
      · exact ⟨front, [], rfl, List.forall_mem_nil _⟩
      · refine ⟨before, back ++ [last], by simp, ?_⟩
        intro candidate inside
        rcases List.mem_append.mp inside with old | new
        · exact later candidate old
        · obtain rfl := List.mem_singleton.mp new
          exact other.symm
    · rintro ⟨before, back, whole, later⟩
      rcases List.eq_nil_or_concat back with rfl | ⟨back, final, rfl⟩
      · obtain ⟨rfl, same⟩ := List.append_inj' whole rfl
        exact .inl (List.singleton_inj.mp same).symm
      · rw [List.concat_eq_append] at whole later
        have ends : front ++ [last] = (before ++ member :: back) ++ [final] := by simpa using whole
        obtain ⟨rfl, same⟩ := List.append_inj' ends rfl
        obtain rfl := List.singleton_inj.mp same
        refine .inr ⟨⟨before, back, rfl, ?_⟩, ?_⟩
        · intro candidate inside
          exact later candidate (List.mem_append_left _ inside)
        · exact (later last (List.mem_append_right _ List.mem_cons_self)).symm

/-- Of each name there is a member. -/
theorem name_collected_iff {members : List (String × Json)} {name : String} :
    (∃ member ∈ collected members, member.1 = name) ↔ ∃ member ∈ members, member.1 = name := by
  induction members using List.reverseRecOn with
  | nil => simp [collected]
  | append_singleton front last ih =>
    have grown : collected (front ++ [last]) = Json.insertMember (collected front) last.1 last.2 := by
      simp [collected]
    rw [grown]
    simp only [mem_insertMember_iff, List.mem_append, List.mem_singleton]
    constructor
    · rintro ⟨member, rfl | ⟨inside, -⟩, named⟩
      · exact ⟨last, .inr rfl, named⟩
      · obtain ⟨earlier, listed, same⟩ := ih.mp ⟨member, inside, named⟩
        exact ⟨earlier, .inl listed, same⟩
    · rintro ⟨member, inside | rfl, named⟩
      · by_cases same : last.1 = name
        · exact ⟨_, .inl rfl, same⟩
        · obtain ⟨held, listed, here⟩ := ih.mpr ⟨member, inside, named⟩
          exact ⟨held, .inr ⟨listed, by rwa [here, ne_comm]⟩, here⟩
      · exact ⟨_, .inl rfl, named⟩

/-- The keys of the objects of a value, at every depth. -/
inductive KeyOf (key : String) : Json → Prop where
  | here {members member} (listed : member ∈ members) (named : member.1 = key) : KeyOf key (.object members)
  | member {members member} (listed : member ∈ members) (inside : KeyOf key member.2) : KeyOf key (.object members)
  | item {items item} (listed : item ∈ items) (inside : KeyOf key item) : KeyOf key (.array items)

theorem KeyToken.keyOf {key : List Piece} {gap : Gap} {value : Value} (token : KeyToken key gap value) :
    KeyOf (spelled key) value.json := by
  induction token with
  | @here members member listed named apart =>
    rw [Value.json, membersJson_eq_map]
    obtain ⟨held, inside, same⟩ := name_collected_iff.mpr
      ⟨_, List.mem_map_of_mem (f := fun member : Member Value => (spelled member.key, member.value.json)) listed, rfl⟩
    exact .here inside (same.trans (congrArg spelled named))
  | @member front back member last inside ih =>
    rw [Value.json, membersJson_eq_map]
    have kept : (spelled member.key, member.value.json) ∈
        collected ((front ++ member :: back).map fun member => (spelled member.key, member.value.json)) := by
      apply mem_collected_iff.mpr
      refine ⟨_, _, List.map_append, ?_⟩
      intro later listed
      obtain ⟨other, inside, rfl⟩ := List.mem_map.mp listed
      exact last other inside
    exact .member kept ih
  | element listed inside ih =>
    rw [Value.json, elementsJson_eq_map]
    exact .item (List.mem_map_of_mem listed) ih

theorem keyToken_of_keyOf {key : String} {value : Value} (held : KeyOf key value.json) :
    ∃ token gap, KeyToken token gap value ∧ spelled token = key := by
  induction value using Value.induction with
  | array elements ih =>
    rw [Value.json, elementsJson_eq_map] at held
    cases held with
    | item listed inside =>
      obtain ⟨element, member, rfl⟩ := List.mem_map.mp listed
      obtain ⟨token, gap, found, same⟩ := ih element member inside
      exact ⟨token, gap, .element member found, same⟩
  | object members ih =>
    rw [Value.json, membersJson_eq_map] at held
    cases held with
    | here listed named =>
      obtain ⟨_, inside, same⟩ := name_collected_iff.mp ⟨_, listed, named⟩
      obtain ⟨member, here, rfl⟩ := List.mem_map.mp inside
      exact ⟨member.key, member.gap, .here here rfl rfl, same⟩
    | member listed inside =>
      obtain ⟨front, back, whole, last⟩ := mem_collected_iff.mp listed
      obtain ⟨before, rest, rfl, rfl, parts⟩ := List.map_eq_append_iff.mp whole
      obtain ⟨member, after, rfl, rfl, rfl⟩ := List.map_eq_cons_iff.mp parts
      obtain ⟨token, gap, found, same⟩ := ih member (List.mem_append_right _ List.mem_cons_self) inside
      refine ⟨token, gap, .member ?_ found, same⟩
      intro later listed
      exact last _ (List.mem_map_of_mem listed)
  | blankArray gap =>
    cases held with
    | item listed inside => cases listed
  | blankObject gap =>
    cases held with
    | here listed named => cases listed
    | member listed inside => cases listed
  | _ => cases held

/-- The keys of the value that a text spells are those that stand in it, as they are spelled. -/
theorem keyOf_json_iff {key : String} {value : Value} :
    KeyOf key value.json ↔ ∃ token gap, KeyToken token gap value ∧ spelled token = key :=
  ⟨keyToken_of_keyOf, fun ⟨_, _, token, same⟩ => same ▸ token.keyOf⟩

end Keys

section Quotes

/-- Written as it is, without an escape. -/
def Plain (pieces : List Piece) : Prop := ∀ piece ∈ pieces, ∃ c unescaped, piece = .plain c unescaped

theorem spelled_of_plain {pieces : List Piece} (plain : Plain pieces) : spelled pieces = String.ofList (raw pieces) := by
  have each : pieces.map Piece.char = raw pieces := by
    induction pieces with
    | nil => rfl
    | cons piece rest ih =>
      obtain ⟨c, unescaped, rfl⟩ := plain piece List.mem_cons_self
      have later := ih fun piece listed => plain piece (List.mem_cons_of_mem _ listed)
      rw [List.map_cons, later]
      rfl
  exact congrArg String.ofList each

theorem HexDigit.char_ne_quote (digit : HexDigit) : digit.char ≠ '"' := by
  cases digit with
  | decimal digit | lower digit | upper digit => revert digit; decide

theorem CodeUnit.quote_notMem (unit : CodeUnit) : '"' ∉ unit.text := by
  intro member
  rcases List.mem_append.mp member with sign | digits
  · exact absurd sign (by decide)
  · obtain ⟨digit, -, same⟩ := List.mem_map.mp digits
    exact digit.char_ne_quote same

theorem Piece.quote_mem {piece : Piece} (held : '"' ∈ piece.text) : piece = .escape .quote := by
  cases piece with
  | plain c unescaped => exact absurd (List.mem_singleton.mp held).symm unescaped.2.1
  | escape sign => cases sign <;> first | rfl | exact absurd held (by decide)
  | unicode unit scalar => exact absurd held unit.quote_notMem
  | pair high low isHigh isLow => exact absurd (List.mem_append.mp held) (not_or.mpr ⟨high.quote_notMem, low.quote_notMem⟩)

theorem Piece.plain_or_escaped (piece : Piece) :
    (∃ c unescaped, piece = .plain c unescaped) ∨ ∃ more, piece.text = '\\' :: more := by
  cases piece with
  | plain c unescaped => exact .inl ⟨c, unescaped, rfl⟩
  | escape sign => exact .inr ⟨_, rfl⟩
  | unicode unit scalar => exact .inr ⟨_, rfl⟩
  | pair high low isHigh isLow => exact .inr ⟨_, rfl⟩

/-- A quote within a string is escaped. -/
theorem raw_quote {pieces : List Piece} {before after : List Char} (held : raw pieces = before ++ '"' :: after) :
    ∃ first last, pieces = first ++ .escape .quote :: last ∧ before = raw first ++ ['\\'] ∧ after = raw last := by
  induction pieces generalizing before with
  | nil => simp [raw] at held
  | cons piece rest ih =>
    have parts : piece.text ++ raw rest = before ++ '"' :: after := held
    rcases List.append_eq_append_iff.mp parts with ⟨more, rfl, later⟩ | ⟨more, here, later⟩
    · obtain ⟨first, last, rfl, rfl, rfl⟩ := ih later
      exact ⟨piece :: first, last, rfl, (List.append_assoc _ _ _).symm, rfl⟩
    · cases more with
      | nil =>
        obtain ⟨first, last, -, empty, -⟩ := @ih [] later.symm
        simp at empty
      | cons quote more =>
        obtain ⟨rfl, rfl⟩ := List.cons.inj later
        have escaped : piece = .escape .quote := Piece.quote_mem (here ▸ List.mem_append_right _ List.mem_cons_self)
        subst escaped
        have two : ['\\', '"'] = before ++ '"' :: more := here
        cases before with
        | nil => simp at two
        | cons slash before =>
          obtain ⟨rfl, one⟩ := List.cons.inj two
          rcases List.append_eq_singleton_iff.mp one.symm with ⟨rfl, only⟩ | ⟨-, none⟩
          · obtain ⟨-, rfl⟩ := List.cons.inj only
            exact ⟨[], rest, rfl, rfl, rfl⟩
          · cases none

/-- A string that is closed where a name without quotes and escapes ends is that name. -/
theorem raw_closed {pieces : List Piece} {name after rest : List Char}
    (free : ∀ c ∈ name, c ≠ '"' ∧ c ≠ '\\') (held : raw pieces ++ '"' :: after = name ++ '"' :: rest) :
    Plain pieces ∧ raw pieces = name ∧ after = rest := by
  induction pieces generalizing name with
  | nil =>
    cases name with
    | nil => exact ⟨List.forall_mem_nil _, rfl, (List.cons.inj held).2⟩
    | cons c name => exact absurd (List.cons.inj held).1.symm (free c List.mem_cons_self).1
  | cons piece pieces ih =>
    have parts : piece.text ++ (raw pieces ++ '"' :: after) = name ++ '"' :: rest := by
      rw [← List.append_assoc]
      exact held
    rcases piece.plain_or_escaped with ⟨c, unescaped, rfl⟩ | ⟨more, escaped⟩
    · cases name with
      | nil => exact absurd (List.cons.inj parts).1 unescaped.2.1
      | cons first name =>
        obtain ⟨rfl, later⟩ := List.cons.inj parts
        obtain ⟨plain, rfl, rfl⟩ := ih (fun c listed => free c (List.mem_cons_of_mem _ listed)) later
        exact ⟨List.forall_mem_cons.mpr ⟨⟨c, unescaped, rfl⟩, plain⟩, rfl, rfl⟩
    · rw [escaped] at parts
      cases name with
      | nil => exact absurd (List.cons.inj parts).1 (by decide)
      | cons first name => exact absurd (List.cons.inj parts).1.symm (free first List.mem_cons_self).2

/-- The text around a quote: it opens a string, closes one or is escaped in one. -/
inductive QuoteAt (chunks : List Chunk) (ahead behind : List Char) : Prop where
  | opening {before pieces after} (whole : chunks = before ++ .string pieces :: after)
      (front : ahead = render before) (back : behind = raw pieces ++ '"' :: render after)
  | closing {before pieces after} (whole : chunks = before ++ .string pieces :: after)
      (front : ahead = render before ++ '"' :: raw pieces) (back : behind = render after)
  | escaped {before first last after} (whole : chunks = before ++ .string (first ++ .escape .quote :: last) :: after)
      (front : ahead = render before ++ '"' :: (raw first ++ ['\\'])) (back : behind = raw last ++ '"' :: render after)

theorem QuoteAt.cons {chunks : List Chunk} {ahead behind : List Char} (quote : QuoteAt chunks ahead behind) (chunk : Chunk) :
    QuoteAt (chunk :: chunks) (chunk.text ++ ahead) behind := by
  cases quote with
  | @opening before pieces after whole front back =>
    subst whole front
    exact .opening (List.cons_append ..).symm rfl back
  | @closing before pieces after whole front back =>
    subst whole front
    exact .closing (List.cons_append ..).symm (List.append_assoc ..).symm back
  | @escaped before first last after whole front back =>
    subst whole front
    exact .escaped (List.cons_append ..).symm (List.append_assoc ..).symm back

private theorem string_quote {pieces : List Piece} {rest : List Chunk} {before more : List Char}
    (here : '"' :: (raw pieces ++ ['"']) = before ++ '"' :: more) :
    QuoteAt (.string pieces :: rest) before (more ++ render rest) := by
  cases before with
  | nil =>
    obtain ⟨-, rfl⟩ := List.cons.inj here
    exact .opening (List.nil_append _).symm rfl (List.append_assoc ..)
  | cons first before =>
    obtain ⟨rfl, inner⟩ := List.cons.inj here
    rcases List.append_eq_append_iff.mp inner with ⟨between, rfl, last⟩ | ⟨between, whole, last⟩
    · rcases List.append_eq_singleton_iff.mp last.symm with ⟨rfl, only⟩ | ⟨-, none⟩
      · obtain ⟨-, rfl⟩ := List.cons.inj only
        exact .closing (List.nil_append _).symm (congrArg ('"' :: ·) (List.append_nil _)) rfl
      · cases none
    · cases between with
      | nil =>
        obtain ⟨-, rfl⟩ := List.cons.inj last
        rw [List.append_nil] at whole
        exact .closing (List.nil_append _).symm (congrArg ('"' :: ·) whole.symm) rfl
      | cons quote between =>
        obtain ⟨rfl, rfl⟩ := List.cons.inj last
        obtain ⟨front, back, rfl, rfl, rfl⟩ := raw_quote whole
        exact .escaped (List.nil_append _).symm rfl (List.append_assoc ..)

theorem render_quote {chunks : List Chunk} {before after : List Char} (free : .mark '"' ∉ chunks)
    (held : render chunks = before ++ '"' :: after) : QuoteAt chunks before after := by
  induction chunks generalizing before with
  | nil => simp [render] at held
  | cons chunk rest ih =>
    have later : .mark '"' ∉ rest := fun member => free (List.mem_cons_of_mem _ member)
    have parts : chunk.text ++ render rest = before ++ '"' :: after := held
    rcases List.append_eq_append_iff.mp parts with ⟨more, rfl, behind⟩ | ⟨more, here, behind⟩
    · exact (ih later behind).cons chunk
    · cases more with
      | nil =>
        rw [List.append_nil] at here
        have quote := (@ih [] later behind.symm).cons chunk
        rwa [List.append_nil, here] at quote
      | cons quote more =>
        obtain ⟨rfl, rfl⟩ := List.cons.inj behind
        cases chunk with
        | mark c =>
          have one : [c] = before ++ '"' :: more := here
          cases before with
          | nil =>
            obtain ⟨rfl, -⟩ := List.cons.inj one
            exact absurd List.mem_cons_self free
          | cons first before => simp at one
        | string pieces => exact string_quote here

/-- Outside the strings a text has its marks up to the next string. -/
theorem render_marks {chunks : List Chunk} {name rest : List Char} (free : .mark '"' ∉ chunks) (unquoted : '"' ∉ name)
    (held : render chunks = name ++ '"' :: rest) :
    ∃ pieces after, chunks = marks name ++ .string pieces :: after ∧ rest = raw pieces ++ '"' :: render after := by
  induction chunks generalizing name with
  | nil => simp [render] at held
  | cons chunk chunks ih =>
    have parts : chunk.text ++ render chunks = name ++ '"' :: rest := held
    cases name with
    | nil =>
      cases chunk with
      | mark c =>
        obtain ⟨rfl, -⟩ := List.cons.inj parts
        exact absurd List.mem_cons_self free
      | string pieces =>
        refine ⟨pieces, chunks, rfl, ?_⟩
        exact (List.cons.inj parts).2.symm.trans (List.append_assoc ..)
    | cons first name =>
      cases chunk with
      | mark c =>
        obtain ⟨rfl, later⟩ := List.cons.inj parts
        obtain ⟨pieces, after, rfl, rfl⟩ := ih (fun member => free (List.mem_cons_of_mem _ member))
          (fun member => unquoted (List.mem_cons_of_mem _ member)) later
        exact ⟨pieces, after, rfl, rfl⟩
      | string pieces =>
        obtain ⟨rfl, -⟩ := List.cons.inj parts
        exact absurd List.mem_cons_self unquoted

theorem render_colon {chunks : List Chunk} {rest : List Char} (held : render chunks = ':' :: rest) :
    ∃ after, chunks = .mark ':' :: after := by
  cases chunks with
  | nil => cases held
  | cons chunk after =>
    cases chunk with
    | mark c => exact ⟨after, congrArg (fun c => .mark c :: after) (List.cons.inj held).1⟩
    | string pieces => exact absurd (List.cons.inj held).1 (by decide)

/-- How a name comes to stand in quotes, with a colon right behind them: as a string or its end
after an escaped quote, or as what is between two strings the second of which begins with a
colon. -/
inductive NameAt (chunks : List Chunk) (name : List Char) : Prop where
  | key {pieces} (plain : Plain pieces) (same : raw pieces = name) (directly : [.string pieces, .mark ':'] <:+: chunks)
  | ending {first last} (plain : Plain last) (same : raw last = name)
      (directly : [.string (first ++ .escape .quote :: last), .mark ':'] <:+: chunks)
  | between {first second more} (colon : raw second = ':' :: more)
      (apart : .string first :: marks name ++ [.string second] <:+: chunks)

theorem render_append (first second : List Chunk) : render (first ++ second) = render first ++ render second :=
  List.flatMap_append

theorem render_marks_self (text : List Char) : render (marks text) = text := by
  induction text with
  | nil => rfl
  | cons c text ih => exact congrArg (c :: ·) ih

theorem infix_render {part chunks : List Chunk} (inside : part <:+: chunks) : render part <:+: render chunks := by
  obtain ⟨before, after, rfl⟩ := inside
  exact ⟨render before, render after, by rw [render_append, render_append]⟩

theorem NameAt.quoted {chunks : List Chunk} {name : List Char} (found : NameAt chunks name) :
    '"' :: name ++ ['"', ':'] <:+: render chunks := by
  cases found with
  | @key pieces plain same directly =>
    subst same
    refine List.IsInfix.trans ⟨[], [], ?_⟩ (infix_render directly)
    simp [render, Chunk.text]
  | @ending first last plain same directly =>
    subst same
    refine List.IsInfix.trans ⟨'"' :: raw first ++ ['\\'], [], ?_⟩ (infix_render directly)
    simp [render, Chunk.text, raw, Piece.text, Escape.letter]
  | @between first second more colon apart =>
    refine List.IsInfix.trans ⟨'"' :: raw first, more ++ ['"'], ?_⟩ (infix_render apart)
    have middle : render (.string first :: marks name ++ [.string second]) =
        Chunk.text (.string first) ++ name ++ Chunk.text (.string second) := by
      rw [List.cons_append, ← List.singleton_append, render_append, render_append, render_marks_self]
      simp [render]
    rw [middle]
    simp [Chunk.text, colon]

theorem nameAt_of_quoted {chunks : List Chunk} {name : List Char} (quoteless : .mark '"' ∉ chunks)
    (free : ∀ c ∈ name, c ≠ '"' ∧ c ≠ '\\') (held : '"' :: name ++ ['"', ':'] <:+: render chunks) :
    NameAt chunks name := by
  obtain ⟨front, last, whole⟩ := held
  have parts : render chunks = front ++ '"' :: (name ++ '"' :: ':' :: last) := by
    rw [← whole]
    simp
  cases render_quote quoteless parts with
  | @opening before pieces after opened front back =>
    obtain ⟨plain, same, colon⟩ := raw_closed free back.symm
    obtain ⟨later, rfl⟩ := render_colon colon
    exact .key plain same ⟨before, later, by simp [opened]⟩
  | @closing before first after closed front back =>
    have outside : .mark '"' ∉ after := by
      intro member
      apply quoteless
      rw [closed]
      exact List.mem_append_right _ (List.mem_cons_of_mem _ member)
    obtain ⟨second, later, rfl, colon⟩ := render_marks outside (fun member => (free _ member).1 rfl) back.symm
    rcases head : raw second with _ | ⟨c, more⟩
    · rw [head] at colon
      exact absurd (List.cons.inj colon).1 (by decide)
    · rw [head] at colon
      obtain ⟨rfl, -⟩ := List.cons.inj colon
      exact @NameAt.between _ _ first second more head ⟨before, later, by simp [closed]⟩
  | @escaped before first final after inside front back =>
    obtain ⟨plain, same, colon⟩ := raw_closed free back.symm
    obtain ⟨later, rfl⟩ := render_colon colon
    exact @NameAt.ending _ _ first final plain same ⟨before, later, by simp [inside]⟩

end Quotes

end AiGateway.JsonSyntax
