import AiGateway.SensitiveData
import Mathlib.Logic.Function.Iterate

/-! Masked responses. The passes of the fields come to one pass that masks the values of all
their keys at once, whatever their order. Every pass prints the numbers and reads them again. -/

namespace AiGateway.SensitiveData

open Lib
open Security (Bytes ResponseData)

section Values
variable (fields : List String)

mutual

def mapNumbers (become : Number → Number) : Json → Json
  | .number number => .number (become number)
  | .object members => .object (mapNumbersMembers become members)
  | .array items => .array (mapNumbersItems become items)
  | other => other

def mapNumbersMembers (become : Number → Number) : List (String × Json) → List (String × Json)
  | [] => []
  | (key, value) :: rest => (key, mapNumbers become value) :: mapNumbersMembers become rest

def mapNumbersItems (become : Number → Number) : List Json → List Json
  | [] => []
  | item :: rest => mapNumbers become item :: mapNumbersItems become rest

end

/-- The number stands somewhere in the value. -/
inductive HoldsNumber (number : Number) : Json → Prop where
  | here : HoldsNumber number (.number number)
  | item {items item} (member : item ∈ items) (held : HoldsNumber number item) : HoldsNumber number (.array items)
  | member {members : List (String × Json)} {member} (inside : member ∈ members) (held : HoldsNumber number member.2) :
      HoldsNumber number (.object members)

/-- The key is that of a field. -/
def matchesField (key : String) : Bool := fields.any fun field => eqIgnoreAsciiCase key.toList field.toList

mutual

/-- The value with those of the fields' keys masked, outside masked values at every depth. -/
def masked : Json → Json
  | .object members => .object (maskedMembers members)
  | .array items => .array (maskedItems items)
  | other => other

def maskedMembers : List (String × Json) → List (String × Json)
  | [] => []
  | (key, value) :: rest => (key, if matchesField fields key then maskText else masked value) :: maskedMembers rest

def maskedItems : List Json → List Json
  | [] => []
  | item :: rest => masked item :: maskedItems rest

end

end Values

section Passes
variable {fields other : List String}

theorem maskedMembers_eq_map (fields : List String) (members : List (String × Json)) :
    maskedMembers fields members =
      members.map fun member => (member.1, if matchesField fields member.1 then maskText else masked fields member.2) := by
  induction members with
  | nil => rfl
  | cons member rest ih => rw [maskedMembers, ih, List.map_cons]

theorem maskedItems_eq_map (fields : List String) (items : List Json) :
    maskedItems fields items = items.map (masked fields) := by
  induction items with
  | nil => rfl
  | cons item rest ih => rw [maskedItems, ih, List.map_cons]

theorem maskMembers_eq_map (field : String) (members : List (String × Json)) :
    maskMembers field members = members.map fun member =>
      (member.1, if eqIgnoreAsciiCase member.1.toList field.toList then maskText else maskJsonValue field member.2) := by
  induction members with
  | nil => rfl
  | cons member rest ih => rw [maskMembers, ih, List.map_cons]

theorem maskItems_eq_map (field : String) (items : List Json) : maskItems field items = items.map (maskJsonValue field) := by
  induction items with
  | nil => rfl
  | cons item rest ih => rw [maskItems, ih, List.map_cons]

theorem masked_nil (value : Json) : masked [] value = value := by
  induction value using Json.induction with
  | array items ih =>
    rw [masked, maskedItems_eq_map]
    exact congrArg Json.array ((List.map_congr_left ih).trans (List.map_id items))
  | object members ih =>
    rw [masked, maskedMembers_eq_map]
    refine congrArg Json.object ((List.map_congr_left fun member held => ?_).trans (List.map_id members))
    exact congrArg (Prod.mk member.1) (ih member held)
  | _ => rfl

/-- One more pass is one more field. A masked value has no keys that it could mask. -/
theorem maskJsonValue_masked (field : String) (value : Json) :
    maskJsonValue field (masked fields value) = masked (fields ++ [field]) value := by
  induction value using Json.induction with
  | array items ih =>
    rw [masked, masked, maskJsonValue, maskItems_eq_map, maskedItems_eq_map, maskedItems_eq_map, List.map_map]
    exact congrArg Json.array (List.map_congr_left ih)
  | object members ih =>
    rw [masked, masked, maskJsonValue, maskMembers_eq_map, maskedMembers_eq_map, maskedMembers_eq_map, List.map_map]
    refine congrArg Json.object (List.map_congr_left fun member held => ?_)
    have both : matchesField (fields ++ [field]) member.1 =
        (matchesField fields member.1 || eqIgnoreAsciiCase member.1.toList field.toList) := by simp [matchesField]
    rw [Function.comp_apply, both, ← ih member held]
    cases matchesField fields member.1 <;> cases eqIgnoreAsciiCase member.1.toList field.toList <;>
      simp [maskText, maskJsonValue]
  | _ => rfl

theorem masked_congr (same : ∀ key, matchesField fields key = matchesField other key) (value : Json) :
    masked fields value = masked other value := by
  induction value using Json.induction with
  | array items ih =>
    rw [masked, masked, maskedItems_eq_map, maskedItems_eq_map]
    exact congrArg Json.array (List.map_congr_left ih)
  | object members ih =>
    rw [masked, masked, maskedMembers_eq_map, maskedMembers_eq_map]
    refine congrArg Json.object (List.map_congr_left fun member held => ?_)
    rw [same, ih member held]
  | _ => rfl

section Numbers
variable {become other : Number → Number}

theorem mapNumbersMembers_eq_map (become : Number → Number) (members : List (String × Json)) :
    mapNumbersMembers become members = members.map fun member => (member.1, mapNumbers become member.2) := by
  induction members with
  | nil => rfl
  | cons member rest ih => rw [mapNumbersMembers, ih, List.map_cons]

theorem mapNumbersItems_eq_map (become : Number → Number) (items : List Json) :
    mapNumbersItems become items = items.map (mapNumbers become) := by
  induction items with
  | nil => rfl
  | cons item rest ih => rw [mapNumbersItems, ih, List.map_cons]

theorem mapNumbers_mapNumbers (value : Json) :
    mapNumbers other (mapNumbers become value) = mapNumbers (other ∘ become) value := by
  induction value using Json.induction with
  | array items ih =>
    simp only [mapNumbers, mapNumbersItems_eq_map, List.map_map]
    exact congrArg Json.array (List.map_congr_left ih)
  | object members ih =>
    simp only [mapNumbers, mapNumbersMembers_eq_map, List.map_map]
    exact congrArg Json.object (List.map_congr_left fun member held => congrArg (Prod.mk member.1) (ih member held))
  | _ => rfl

theorem map_eq_self_iff {α : Type} {become : α → α} {items : List α} :
    items.map become = items ↔ ∀ item ∈ items, become item = item := by
  have pointwise := List.map_inj_left (l := items) (f := become) (g := id)
  rwa [List.map_id] at pointwise

/-- A value is left as it is just where each of its numbers is. -/
theorem mapNumbers_eq_self_iff (value : Json) :
    mapNumbers become value = value ↔ ∀ number, HoldsNumber number value → become number = number := by
  induction value using Json.induction with
  | number number =>
    rw [mapNumbers, Json.number.injEq]
    constructor
    · rintro same _ ⟨⟩
      exact same
    · exact fun kept => kept number .here
  | array items ih =>
    rw [mapNumbers, mapNumbersItems_eq_map, Json.array.injEq, map_eq_self_iff]
    constructor
    · rintro same number (_ | ⟨member, held⟩)
      exact (ih _ member).mp (same _ member) number held
    · exact fun kept item member => (ih item member).mpr fun number held => kept number (.item member held)
  | object members ih =>
    rw [mapNumbers, mapNumbersMembers_eq_map, Json.object.injEq, map_eq_self_iff]
    constructor
    · rintro same number (_ | _ | ⟨inside, held⟩)
      exact (ih _ inside).mp (congrArg Prod.snd (same _ inside)) number held
    · intro kept member inside
      exact congrArg (Prod.mk member.1) ((ih member inside).mpr fun number held => kept number (.member inside held))
  | _ => exact ⟨fun _ _ held => (nomatch held), fun _ => rfl⟩

theorem mapNumbers_masked (fields : List String) (value : Json) :
    mapNumbers become (masked fields value) = masked fields (mapNumbers become value) := by
  induction value using Json.induction with
  | array items ih =>
    simp only [masked, mapNumbers, maskedItems_eq_map, mapNumbersItems_eq_map, List.map_map]
    exact congrArg Json.array (List.map_congr_left ih)
  | object members ih =>
    simp only [masked, mapNumbers, maskedMembers_eq_map, mapNumbersMembers_eq_map, List.map_map]
    refine congrArg Json.object (List.map_congr_left fun member held => ?_)
    rw [Function.comp_apply, Function.comp_apply, ← ih member held]
    cases matchesField fields member.1 with
    | false => rfl
    | true => rfl
  | _ => rfl

end Numbers

theorem masked_perm (permuted : other.Perm fields) (value : Json) : masked other value = masked fields value :=
  masked_congr (fun _ => permuted.any_eq) value

end Passes

section Library
variable (json : JsonStrings)

/-- What is read of a number that has been printed. -/
def JsonStrings.reread (number : Number) : Number :=
  match json.parse (json.print (.number number)) with
  | some (.number again) => again
  | _ => number

/-- A value that has been read is read again as it is printed, with texts in the place of some of
its members, but for its numbers: these are printed and read each time. -/
structure JsonStrings.ReadsBack : Prop where
  written : ∀ text value, json.parse text = some value → ∀ fields passes,
    json.parse (json.print (masked fields (mapNumbers json.reread^[passes] value))) =
      some (mapNumbers json.reread (masked fields (mapNumbers json.reread^[passes] value)))
  nothing : ∀ text, text.bytes = [] → json.parse text = none

/-- The numbers that stand outside masked values are themselves again after as many passes as
there are fields. -/
def NumbersReturn (fields : List String) (value : Json) : Prop :=
  ∀ number, HoldsNumber number (masked fields value) → json.reread^[fields.length] number = number

/-- The value after the passes of some fields. -/
def passed (value : Json) (fields : List String) : Json := masked fields (mapNumbers json.reread^[fields.length] value)

end Library

section Bodies
variable {json : JsonStrings}

theorem foldl_of_unread {text : Utf8.Text} (unread : json.parse text = none) (fields : List String) :
    fields.foldl (maskJsonStringField json) text = text := by
  induction fields with
  | nil => rfl
  | cons field rest ih =>
    rw [List.foldl_cons, maskJsonStringField, unread]
    exact ih

/-- A pass over a value that some fields have passed over. -/
theorem maskJsonStringField_passed {value : Json} {done : List String} {text : Utf8.Text}
    (read : json.parse text = some (passed json value done)) (field : String) :
    maskJsonStringField json text field = json.print (masked (done ++ [field]) (mapNumbers json.reread^[done.length] value)) := by
  rw [maskJsonStringField, read]
  exact congrArg json.print (maskJsonValue_masked field _)

/-- What is read after the passes. -/
theorem parse_passes (law : json.ReadsBack) {text : Utf8.Text} {value : Json} (read : json.parse text = some value)
    (fields : List String) : json.parse (fields.foldl (maskJsonStringField json) text) = some (passed json value fields) := by
  induction fields using List.reverseRecOn with
  | nil =>
    have unchanged : mapNumbers id value = value := (mapNumbers_eq_self_iff value).mpr fun _ _ => rfl
    rw [List.foldl_nil, read, passed, masked_nil, List.length_nil, Function.iterate_zero, unchanged]
  | append_singleton done field ih =>
    rw [List.foldl_append, List.foldl_cons, List.foldl_nil, maskJsonStringField_passed ih, law.written text value read,
      mapNumbers_masked, mapNumbers_mapNumbers, ← Function.iterate_succ', passed, List.length_append, List.length_singleton]

/-- The text after the passes does not depend on their order. -/
theorem passes_perm (law : json.ReadsBack) {text : Utf8.Text} {value : Json} (read : json.parse text = some value)
    {fields other : List String} (permuted : other.Perm fields) :
    other.foldl (maskJsonStringField json) text = fields.foldl (maskJsonStringField json) text := by
  rcases List.eq_nil_or_concat fields with rfl | ⟨front, last, rfl⟩
  · rw [List.perm_nil.mp permuted]
  · rcases List.eq_nil_or_concat other with rfl | ⟨front', last', rfl⟩
    · exact absurd (List.nil_perm.mp permuted) (by simp)
    · have sizes : front'.length = front.length := by simpa using permuted.length_eq
      rw [List.concat_eq_append, List.concat_eq_append] at permuted ⊢
      rw [List.foldl_append, List.foldl_append]
      simp only [List.foldl_cons, List.foldl_nil]
      rw [maskJsonStringField_passed (parse_passes law read front'), maskJsonStringField_passed (parse_passes law read front),
        sizes, masked_perm permuted]

theorem passed_eq_masked_iff (value : Json) (fields : List String) :
    passed json value fields = masked fields value ↔ NumbersReturn json fields value := by
  rw [passed, ← mapNumbers_masked, mapNumbers_eq_self_iff]
  rfl

theorem ofBytesLossy_bytes {body : Bytes} {text : Utf8.Text} (same : text.bytes = body) : .ofBytesLossy body = text := by
  obtain ⟨bytes, isText⟩ := text
  subst same
  simp only [Utf8.Text.ofBytesLossy, Utf8.lossy_of_valid bytes isText]

/-- What is asked of the masking of a body: of JSON, the values of the fields' keys and nothing
else, whatever the order of the fields, and of other bodies nothing. -/
structure MaskedWell (json : JsonStrings) (fields : List String) (body result : Bytes) : Prop where
  json_masked : ∀ text value, text.bytes = body → json.parse text = some value →
    ∃ printed, printed.bytes = result ∧ json.parse printed = some (masked fields value)
  any_order : ∀ other, other.Perm fields → (maskSensitiveJson json body other).bytes = result
  others_kept : (∀ text, text.bytes = body → json.parse text = none) → result = body

theorem text_eq_of_bytes {text other : Utf8.Text} (same : text.bytes = other.bytes) : text = other := by
  obtain ⟨bytes, isText⟩ := text
  obtain ⟨bytes', isText'⟩ := other
  subst same
  rfl

/-- A body that is text is masked well just where the numbers of its value return. -/
theorem maskedWell_text_iff (law : json.ReadsBack) (fields : List String) (text : Utf8.Text) :
    MaskedWell json fields text.bytes (maskSensitiveJson json text.bytes fields).bytes ↔
      ∀ value, json.parse text = some value → NumbersReturn json fields value := by
  have whole : .ofBytesLossy text.bytes = text := ofBytesLossy_bytes rfl
  have passes (order : List String) :
      maskSensitiveJson json text.bytes order = order.foldl (maskJsonStringField json) text := by
    rw [maskSensitiveJson, whole]
  cases read : json.parse text with
  | none =>
    refine ⟨fun _ value none => (nomatch none), fun _ => ⟨?_, ?_, ?_⟩⟩
    · intro other value same parsed
      rw [text_eq_of_bytes same, read] at parsed
      cases parsed
    · intro other _
      rw [passes, passes, foldl_of_unread read, foldl_of_unread read]
    · intro _
      rw [passes, foldl_of_unread read]
  | some value =>
    have ends := parse_passes law read fields
    constructor
    · rintro well found ⟨⟩
      obtain ⟨printed, same, parsed⟩ := well.json_masked text value rfl read
      rw [text_eq_of_bytes same, passes, ends] at parsed
      exact (passed_eq_masked_iff value fields).mp (Option.some.inj parsed)
    · intro returns
      refine ⟨?_, ?_, ?_⟩
      · intro other found same parsed
        rw [text_eq_of_bytes same, read] at parsed
        cases parsed
        rw [passes]
        exact ⟨_, rfl, ends.trans (congrArg some ((passed_eq_masked_iff value fields).mpr (returns value rfl)))⟩
      · intro order permuted
        rw [passes, passes, passes_perm law read permuted]
      · intro unread
        rw [unread text rfl] at read
        cases read

/-- Masking does what is asked of it for exactly the bodies that are text and whose numbers, in
JSON, survive being printed and read once for each field. -/
theorem masking_complete_iff (law : json.ReadsBack) (config : SensitiveDataDetectorConfig) (data : ResponseData) :
    (∃ after, maskResponse json config data = .ok after ∧ after.sensitive = data.sensitive ∧
        MaskedWell json config.fields data.body after.body) ↔
      Utf8.valid data.body = true ∧
        ∀ text value, text.bytes = data.body → json.parse text = some value → NumbersReturn json config.fields value := by
  by_cases isText : Utf8.valid data.body = true
  · let text : Utf8.Text := ⟨data.body, isText⟩
    have result : maskResponse json config data =
        .ok { data with body := (maskSensitiveJson json data.body config.fields).bytes } := by
      rw [maskResponse]
      split
      · next nothing =>
        have unread := law.nothing text (List.isEmpty_iff.mp nothing)
        have whole : .ofBytesLossy data.body = text := ofBytesLossy_bytes rfl
        rw [maskSensitiveJson, whole, foldl_of_unread unread]
      · rfl
    have well := maskedWell_text_iff law config.fields text
    simp only [result, Except.ok.injEq, exists_eq_left', isText, true_and]
    refine well.trans ⟨fun returns other value same parsed => ?_, fun returns value => returns text value rfl⟩
    have one : other = text := text_eq_of_bytes same
    exact returns value (one ▸ parsed)
  · refine ⟨?_, fun ⟨valid, _⟩ => absurd valid isText⟩
    rintro ⟨after, done, _, well⟩
    have unread (text : Utf8.Text) (same : text.bytes = data.body) : json.parse text = none :=
      absurd (same ▸ text.isText) isText
    have filled : data.body.isEmpty = false := by
      cases held : data.body with
      | nil => rw [held] at isText; exact absurd (by rw [Utf8.valid]) isText
      | cons => rfl
    rw [maskResponse, filled] at done
    cases done
    have kept := well.others_kept unread
    exact absurd (kept ▸ (maskSensitiveJson json data.body config.fields).isText) isText

/-- A body with a number and an address, each of which may be masked. -/
def emailBody (hidden : Bool × Bool) : Bytes :=
  asciiBytes ("\x7b\"id\":" ++ (if hidden.1 then "\"***MASKED***\"" else "7") ++ ",\"Email\":" ++
    (if hidden.2 then "\"***MASKED***\"" else "\"ada@example.com\"") ++ "\x7d")

def emailValue (hidden : Bool × Bool) : Json :=
  .object [("id", if hidden.1 then maskText else .number (.posInt 7)),
    ("Email", if hidden.2 then maskText else .string "ada@example.com")]

theorem emailBody_ascii (hidden : Bool × Bool) : Utf8.isAscii (emailBody hidden) = true := by
  rcases hidden with ⟨_ | _, _ | _⟩ <;> rfl

/-- A library that knows the number, and the body and what becomes of it. -/
def emailStrings : JsonStrings where
  parse text :=
    if text.bytes = [55] then some (.number (.posInt 7))
    else
      [(false, false), (false, true), (true, false), (true, true)].findSome? fun hidden =>
        if text.bytes = emailBody hidden then some (emailValue hidden) else none
  print
    | .number _ => ⟨[55], Utf8.valid_ascii (by rfl)⟩
    | value =>
      let hidden := (value.getStr "id" == some "***MASKED***", value.getStr "Email" == some "***MASKED***")
      ⟨emailBody hidden, Utf8.valid_ascii (emailBody_ascii hidden)⟩

theorem emailStrings_value {text : Utf8.Text} {value : Json} (read : emailStrings.parse text = some value) :
    value = .number (.posInt 7) ∨ ∃ hidden, value = emailValue hidden := by
  simp only [emailStrings] at read
  split at read
  · exact .inl (Option.some.inj read).symm
  · obtain ⟨hidden, _, same⟩ := List.exists_of_findSome?_eq_some read
    split at same
    · exact .inr ⟨hidden, (Option.some.inj same).symm⟩
    · cases same

theorem emailStrings_printed (hidden : Bool × Bool) :
    emailStrings.parse (emailStrings.print (emailValue hidden)) = some (emailValue hidden) := by
  rcases hidden with ⟨_ | _, _ | _⟩ <;> rfl

theorem emailStrings_reread (passes : Nat) : emailStrings.reread^[passes] (.posInt 7) = .posInt 7 :=
  Function.iterate_fixed (by rfl) passes

theorem mapNumbers_emailValue {become : Number → Number} (kept : become (.posInt 7) = .posInt 7) (hidden : Bool × Bool) :
    mapNumbers become (emailValue hidden) = emailValue hidden := by
  rcases hidden with ⟨_ | _, _ | _⟩ <;> simp [emailValue, maskText, mapNumbers, mapNumbersMembers, kept]

theorem masked_emailValue (fields : List String) (hidden : Bool × Bool) :
    masked fields (emailValue hidden) =
      emailValue (hidden.1 || matchesField fields "id", hidden.2 || matchesField fields "Email") := by
  rcases hidden with ⟨_ | _, _ | _⟩ <;>
    cases matched : matchesField fields "id" <;> cases found : matchesField fields "Email" <;>
      simp [emailValue, maskText, masked, maskedMembers, matched, found]

theorem emailStrings_readsBack : emailStrings.ReadsBack where
  written := by
    intro text value read fields passes
    rcases emailStrings_value read with rfl | ⟨hidden, rfl⟩
    · rw [mapNumbers, emailStrings_reread]
      rfl
    · have once : emailStrings.reread (.posInt 7) = .posInt 7 := emailStrings_reread 1
      rw [mapNumbers_emailValue (emailStrings_reread passes), masked_emailValue, emailStrings_printed,
        mapNumbers_emailValue once]
  nothing := by
    rintro ⟨bytes, isText⟩ rfl
    rfl

theorem email_masked :
    ∃ after, maskResponse emailStrings .default ⟨emailBody (false, false), false⟩ = .ok after ∧
      after.sensitive = false ∧
      MaskedWell emailStrings SensitiveDataDetectorConfig.default.fields (emailBody (false, false)) after.body := by
  apply (masking_complete_iff emailStrings_readsBack .default ⟨emailBody (false, false), false⟩).mpr
  refine ⟨Utf8.valid_ascii (emailBody_ascii _), ?_⟩
  intro text value _ read
  apply (passed_eq_masked_iff _ _).mp
  rcases emailStrings_value read with rfl | ⟨hidden, rfl⟩
  · rw [passed, mapNumbers, emailStrings_reread]
  · rw [passed, mapNumbers_emailValue (emailStrings_reread _)]

/-- A body of one byte that is no text is returned as three. -/
theorem stray_byte_replaced :
    maskResponse emailStrings .default ⟨[0xFF], false⟩ = .ok ⟨[0xEF, 0xBF, 0xBD], false⟩ := by
  have bytes : Utf8.lossy [0xFF] = [0xEF, 0xBF, 0xBD] := by
    rw [Utf8.lossy, show Utf8.front 0xFF [] = .broken 1 from rfl]
    simp only [Utf8.replacement, List.drop_nil, Utf8.lossy, List.append_nil]
  have unread : emailStrings.parse (.ofBytesLossy [0xFF]) = none := by
    simp only [emailStrings, Utf8.Text.ofBytesLossy, bytes]
    rfl
  rw [maskResponse, maskSensitiveJson, foldl_of_unread unread]
  simp only [List.isEmpty_cons, Bool.false_eq_true, if_false, Utf8.Text.ofBytesLossy, bytes]

end Bodies

end AiGateway.SensitiveData
