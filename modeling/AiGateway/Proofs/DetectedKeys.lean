import AiGateway.Lib.Runs
import AiGateway.Proofs.MaskedResponses
import AiGateway.Proofs.SpelledKeys

/-! Detected keys. The request side finds a field wherever a text with its lowercase stands in
quotes right before a colon, whatever the quotes and the colon are to JSON. A key that is written
with an escape or a gap before its colon is not found, and not all that is found is a key. -/

namespace AiGateway.SensitiveData

open Lib JsonSyntax
open Security (Bytes SecurityContext SecurityError)

section Texts
variable (lowercase : UnicodeLowercase)

/-- A quote of the lowercase is one of the text, and what is around it is lowered on its own. -/
theorem lower_split {text before after : List Char} (lowered : lowercase.lower text = before ++ '"' :: after) :
    ∃ front back, text = front ++ '"' :: back ∧ lowercase.lower front = before ∧ lowercase.lower back = after := by
  induction size : text.length using Nat.strong_induction_on generalizing text before with
  | _ bound ih =>
    have quote : '"' ∈ lowercase.lower text := by
      rw [lowered]
      exact List.mem_append_right _ List.mem_cons_self
    -- up to its first quote the text has no quote that the lowercase could have
    obtain ⟨front, back, rfl, free⟩ := List.eq_append_cons_of_mem (lowercase.no_new_quote text quote)
    have none : '"' ∉ lowercase.lower front := fun member => free (lowercase.no_new_quote front member)
    rw [lowercase.around_quote] at lowered
    rcases List.append_eq_append_iff.mp lowered with ⟨more, rfl, rest⟩ | ⟨more, whole, rest⟩
    · cases more with
      | nil => exact ⟨front, back, rfl, (List.append_nil _).symm, (List.cons.inj rest).2⟩
      | cons first more =>
        obtain ⟨rfl, lowerBack⟩ := List.cons.inj rest
        have shorter : back.length < bound := by
          rw [← size, List.length_append, List.length_cons]
          omega
        obtain ⟨middle, last, rfl, lowerMiddle, lowerLast⟩ := ih _ shorter lowerBack rfl
        refine ⟨front ++ '"' :: middle, last, ?_, ?_, lowerLast⟩
        · rw [List.append_assoc, List.cons_append]
        · rw [lowercase.around_quote, lowerMiddle]
    · cases more with
      | nil =>
        rw [List.append_nil] at whole
        exact ⟨front, back, rfl, whole, (List.cons.inj rest).2.symm⟩
      | cons first more =>
        obtain ⟨rfl, _⟩ := List.cons.inj rest
        exact absurd (whole ▸ List.mem_append_right _ List.mem_cons_self) none

/-- The name stands in the text in quotes, the colon right after the closing one. -/
def Quoted (text name : List Char) : Prop := '"' :: name ++ ['"', ':'] <:+: text

theorem pattern_found_iff (field : String) (text : List Char) :
    pattern lowercase field <:+: lowercase.lower text ↔
      ∃ name, Quoted text name ∧ lowercase.lower name = lowercase.lower field.toList := by
  constructor
  · rintro ⟨before, after, found⟩
    have lowered : lowercase.lower text = before ++ '"' :: (lowercase.lower field.toList ++ '"' :: ':' :: after) := by
      rw [← found, pattern]
      simp
    obtain ⟨front, rest, rfl, _, lowerRest⟩ := lower_split lowercase lowered
    obtain ⟨name, back, rfl, lowerName, lowerBack⟩ := lower_split lowercase lowerRest
    obtain ⟨last, rfl⟩ := lowercase.no_new_colon back after lowerBack
    exact ⟨name, ⟨front, last, by simp⟩, lowerName⟩
  · rintro ⟨name, ⟨front, last, rfl⟩, same⟩
    refine ⟨lowercase.lower front, lowercase.lower last, ?_⟩
    have apart : front ++ ('"' :: name ++ ['"', ':']) ++ last = front ++ '"' :: (name ++ '"' :: ':' :: last) := by simp
    rw [apart, lowercase.around_quote, lowercase.around_quote, lowercase.after_colon, same, pattern]
    simp

end Texts

section Requests
variable (lowercase : UnicodeLowercase) (config : SensitiveDataDetectorConfig)

/-- The field is configured, and its level must not persist. -/
def Confidential (field : String) : Prop := field ∈ config.fields ∧ (level lowercase config field).mustNotPersist

theorem checkField_ok_iff (text : List Char) (field : String) :
    checkField lowercase config text field = .ok () ↔
      (pattern lowercase field <:+: lowercase.lower text → (level lowercase config field).mustNotPersist = false) := by
  rw [checkField]
  split
  next found => cases (level lowercase config field).mustNotPersist <;> simp [found]
  next missing => simp [missing]

/-- The text is spelled like the name of a confidential field. -/
def Spells (name : List Char) : Prop :=
  ∃ field, Confidential lowercase config field ∧ lowercase.lower name = lowercase.lower field.toList

/-- A request is refused exactly if a text spelled like a confidential field's name stands in
its body in quotes, right before a colon. -/
theorem refused_iff (ctx : SecurityContext) :
    (∃ error, checkRequest lowercase config ctx = .error error) ↔
      ∃ name, Quoted (Utf8.chars ctx.requestBody) name ∧ Spells lowercase config name := by
  have passed : checkRequest lowercase config ctx = .ok () ↔
      ¬∃ name, Quoted (Utf8.chars ctx.requestBody) name ∧ Spells lowercase config name := by
    rw [checkRequest]
    split
    next empty =>
      rw [List.isEmpty_iff.mp empty, Utf8.chars]
      refine ⟨fun _ => ?_, fun _ => rfl⟩
      rintro ⟨name, quoted, _⟩
      cases List.infix_nil.mp quoted
    next =>
      rw [checkJsonForSensitive, Runs.forM_ok_iff]
      constructor
      · rintro each ⟨name, quoted, field, ⟨configured, hidden⟩, same⟩
        have found := (pattern_found_iff lowercase field _).mpr ⟨name, quoted, same⟩
        have free := (checkField_ok_iff lowercase config _ field).mp (each field configured) found
        rw [free] at hidden
        cases hidden
      · intro none field configured
        refine (checkField_ok_iff lowercase config _ field).mpr fun found => ?_
        obtain ⟨name, quoted, same⟩ := (pattern_found_iff lowercase field _).mp found
        exact Bool.eq_false_iff.mpr fun hidden => none ⟨name, quoted, field, ⟨configured, hidden⟩, same⟩
  rw [← not_iff_not, ← passed]
  cases checkRequest lowercase config ctx <;> simp

end Requests

section Keys

/-- Masking a field leaves a value alone that has no key of the field's name. -/
theorem maskJsonValue_eq_self {field : String} {value : Json}
    (none : ∀ key, KeyOf key value → eqIgnoreAsciiCase key.toList field.toList = false) :
    maskJsonValue field value = value := by
  induction value using Json.induction with
  | array items ih =>
    rw [maskJsonValue, maskItems_eq_map]
    have each (item : Json) (listed : item ∈ items) : maskJsonValue field item = item :=
      ih item listed fun key inside => none key (.item listed inside)
    exact congrArg Json.array ((List.map_congr_left each).trans (List.map_id items))
  | object members ih =>
    rw [maskJsonValue, maskMembers_eq_map]
    refine congrArg Json.object ((List.map_congr_left fun member listed => ?_).trans (List.map_id members))
    rw [none member.1 (.here listed rfl), ih member listed fun key inside => none key (.member listed inside)]
    rfl
  | _ => rfl

variable (lowercase : UnicodeLowercase) (config : SensitiveDataDetectorConfig)

/-- The name of a confidential field, as masking compares them. -/
def Names (key : String) : Prop :=
  ∃ field, Confidential lowercase config field ∧ eqIgnoreAsciiCase key.toList field.toList = true

/-- A key of the value that names a confidential field. -/
def MatchingKey (value : Json) (key : String) : Prop := KeyOf key value ∧ Names lowercase config key

theorem Names.spells {key : String} (names : Names lowercase config key) : Spells lowercase config key.toList := by
  obtain ⟨field, hidden, same⟩ := names
  exact ⟨field, hidden, lowercase.ignores_ascii_case _ _ same⟩

/-- A key that names a confidential field stands in the text without an escape, with its colon
right behind it. -/
def WrittenPlainly (document : Element Value) : Prop :=
  ∃ key, KeyToken key .none document.value ∧ Plain key ∧ Names lowercase config (spelled key)

/-- A text is spelled like a confidential field, in quotes and right before a colon, and is no such
key: it is one only to `str::to_lowercase` or in a member that a later one replaces, it is the end
of a key behind an escaped quote, or it stands between two strings. Names with a quote or a
backslash in them are not told apart. -/
inductive FalseAlarm (document : Element Value) : Prop where
  | key {pieces} (directly : [.string pieces, .mark ':'] <:+: elementChunks document) (plain : Plain pieces)
      (spells : Spells lowercase config (raw pieces))
      (other : ¬(KeyToken pieces .none document.value ∧ Names lowercase config (spelled pieces)))
  | ending {first last} (directly : [.string (first ++ .escape .quote :: last), .mark ':'] <:+: elementChunks document)
      (plain : Plain last) (spells : Spells lowercase config (raw last))
  | between {first second more name} (apart : .string first :: marks name ++ [.string second] <:+: elementChunks document)
      (colon : raw second = ':' :: more) (spells : Spells lowercase config name)
  | signed {name} (sign : '"' ∈ name ∨ '\\' ∈ name) (quoted : Quoted (text document) name)
      (spells : Spells lowercase config name)

/-- What the request side finds is a key that is written plainly, or a false alarm. -/
theorem spelled_iff (document : Element Value) :
    (∃ name, Quoted (text document) name ∧ Spells lowercase config name) ↔
      WrittenPlainly lowercase config document ∨ FalseAlarm lowercase config document := by
  constructor
  · rintro ⟨name, quoted, spells⟩
    by_cases sign : '"' ∈ name ∨ '\\' ∈ name
    · exact .inr (.signed sign quoted spells)
    · obtain ⟨noQuote, noEscape⟩ := not_or.mp sign
      have free (c : Char) (member : c ∈ name) : c ≠ '"' ∧ c ≠ '\\' :=
        ⟨fun same => noQuote (same ▸ member), fun same => noEscape (same ▸ member)⟩
      cases nameAt_of_quoted (quoteless document) free quoted with
      | @key pieces plain same directly =>
        subst same
        by_cases named : KeyToken pieces .none document.value ∧ Names lowercase config (spelled pieces)
        · exact .inl ⟨pieces, named.1, plain, named.2⟩
        · exact .inr (.key directly plain spells named)
      | ending plain same directly =>
        subst same
        exact .inr (.ending directly plain spells)
      | between colon apart => exact .inr (.between apart colon spells)
  · rintro (⟨key, token, plain, names⟩ | alarm)
    · have directly : [.string key, .mark ':'] <:+: elementChunks document := token.stands.trans ⟨_, _, rfl⟩
      refine ⟨raw key, (NameAt.key plain rfl directly).quoted, ?_⟩
      have spells := names.spells
      rwa [spelled_of_plain plain, String.toList_ofList] at spells
    · cases alarm with
      | key directly plain spells other => exact ⟨_, (NameAt.key plain rfl directly).quoted, spells⟩
      | ending directly plain spells => exact ⟨_, (NameAt.ending plain rfl directly).quoted, spells⟩
      | between apart colon spells => exact ⟨_, (NameAt.between colon apart).quoted, spells⟩
      | signed sign quoted spells => exact ⟨_, quoted, spells⟩

/-- The keys that masking would match are those that stand in the text and spell a confidential
field's name, whatever escapes and gaps they are written with. -/
theorem matchingKey_iff (document : Element Value) :
    (∃ key, MatchingKey lowercase config document.value.json key) ↔
      ∃ key gap, KeyToken key gap document.value ∧ Names lowercase config (spelled key) := by
  constructor
  · rintro ⟨key, held, names⟩
    obtain ⟨token, gap, found, rfl⟩ := keyOf_json_iff.mp held
    exact ⟨token, gap, found, names⟩
  · rintro ⟨key, gap, token, names⟩
    exact ⟨_, token.keyOf, names⟩

/-- Detection agrees with masking on a text of JSON where a key that names a confidential field is
written plainly. On another text it does where the body has such a key and raises a false alarm, or
has neither. -/
theorem detection_agrees_iff (document : Element Value) (ctx : SecurityContext)
    (written : Utf8.chars ctx.requestBody = text document) :
    ((∃ error, checkRequest lowercase config ctx = .error error) ↔
        ∃ key, MatchingKey lowercase config document.value.json key) ↔
      WrittenPlainly lowercase config document ∨
        ((∃ key gap, KeyToken key gap document.value ∧ Names lowercase config (spelled key)) ↔
          FalseAlarm lowercase config document) := by
  rw [refused_iff, written, spelled_iff, matchingKey_iff]
  by_cases plainly : WrittenPlainly lowercase config document
  · obtain ⟨key, token, plain, names⟩ := plainly
    refine iff_of_true ?_ (.inl ⟨key, token, plain, names⟩)
    exact iff_of_true (.inl ⟨key, token, plain, names⟩) ⟨key, .none, token, names⟩
  · rw [or_iff_right plainly, or_iff_right plainly]
    exact iff_comm

end Keys

section Bodies

theorem toLower_mark {c mark : Char} (unlettered : mark.val < 65) (lowered : c.toLower = mark) : c = mark := by
  by_cases upper : c.val ≥ 'A'.val ∧ c.val ≤ 'Z'.val
  · have shifted : c.toLower.val = c.val + 32 := congrArg Char.val (dif_pos upper)
    grind
  · exact (dif_neg upper).symm.trans lowered

/-- The lowercase of texts whose only letters are those of ASCII. -/
def asciiLowercase : UnicodeLowercase where
  lower text := text.map Char.toLower
  around_quote before after := by simp
  after_colon after := by simp
  no_new_quote := by
    intro text member
    obtain ⟨c, member, lowered⟩ := List.mem_map.mp member
    rwa [toLower_mark (by decide) lowered] at member
  no_new_colon := by
    intro text rest lowered
    cases text with
    | nil => cases lowered
    | cons c text => exact ⟨text, congrArg (· :: text) (toLower_mark (by decide) (List.cons.inj lowered).1)⟩
  ignores_ascii_case text other same := by
    rw [eqIgnoreAsciiCase, beq_iff_eq] at same
    exact same

theorem one_numeric : ∀ c ∈ ['1'], c ∈ "0123456789+-.eE".toList := by simp

theorem space_blank : ∀ c ∈ [' '], c ∈ [' ', '\t', '\n', '\r'] := by simp

theorem token_unescaped : ∀ c ∈ "token".toList, 32 ≤ c.toNat ∧ c ≠ '"' ∧ c ≠ '\\' := by simp

def tokenKey : List Piece := "token".toList.attach.map fun c => .plain c.val (token_unescaped c.val c.property)

/-- A request with a token, and with a gap between its key and the colon. -/
def tokenDocument (gap : Gap) : Element Value :=
  ⟨.none, .object [⟨.none, tokenKey, gap, .none, .number ⟨['1'], one_numeric, .posInt 1⟩, .none⟩], .none⟩

def spacedDocument : Element Value := tokenDocument ⟨[' '], space_blank⟩

def tokenBody : Bytes := asciiBytes "\x7b\"token\":1\x7d"

def spacedBody : Bytes := asciiBytes "\x7b\"token\" :1\x7d"

def bodyContext (body : Bytes) : SecurityContext := ⟨"unknown", "openai", body, none⟩

theorem tokenKey_plain : Plain tokenKey := by
  intro piece member
  obtain ⟨c, -, rfl⟩ := List.mem_map.mp member
  exact ⟨_, _, rfl⟩

theorem token_names : Names asciiLowercase .default (spelled tokenKey) := ⟨"token", ⟨by decide, by decide⟩, by decide⟩

theorem tokenDocument_key (gap : Gap) : KeyToken tokenKey gap (tokenDocument gap).value :=
  .here List.mem_cons_self rfl rfl

theorem token_detected :
    (∃ error, checkRequest asciiLowercase .default (bodyContext tokenBody) = .error error) ↔
      ∃ key, MatchingKey asciiLowercase .default (tokenDocument .none).value.json key := by
  have written : Utf8.chars tokenBody = text (tokenDocument .none) := (Utf8.chars_ascii (by decide)).trans (by decide)
  exact (detection_agrees_iff asciiLowercase .default (tokenDocument .none) (bodyContext tokenBody) written).mpr
    (.inl ⟨tokenKey, tokenDocument_key .none, tokenKey_plain, token_names⟩)

/-- A blank before the colon hides a key. -/
theorem spaced_key_missed :
    Utf8.chars spacedBody = text spacedDocument ∧
      ¬((∃ error, checkRequest asciiLowercase .default (bodyContext spacedBody) = .error error) ↔
        ∃ key, MatchingKey asciiLowercase .default spacedDocument.value.json key) := by
  have ascii : Utf8.chars spacedBody = "\x7b\"token\" :1\x7d".toList := (Utf8.chars_ascii (by decide)).trans (by decide)
  refine ⟨ascii.trans (by decide), fun agree => ?_⟩
  have matching := (matchingKey_iff asciiLowercase .default spacedDocument).mpr
    ⟨tokenKey, _, tokenDocument_key _, token_names⟩
  obtain ⟨name, quoted, _⟩ := (refused_iff asciiLowercase .default (bodyContext spacedBody)).mp (agree.mpr matching)
  have colon : ['"', ':'] <:+: Utf8.chars spacedBody := (List.suffix_append _ _).isInfix.trans quoted
  rw [ascii] at colon
  exact absurd colon (by decide)

end Bodies

end AiGateway.SensitiveData
