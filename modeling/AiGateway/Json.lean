/-! JSON values as the code holds them once they are parsed. -/

namespace AiGateway

/-- A number is an integer where it fits one, else the bits of a double. -/
inductive Number where
  | posInt (value : UInt64)
  | negInt (value : Int64)
  | float (bits : UInt64)
  deriving DecidableEq, Repr

/-- The members of an object have distinct names. -/
inductive Json where
  | null
  | bool (value : Bool)
  | number (value : Number)
  | string (text : String)
  | array (items : List Json)
  | object (members : List (String × Json))
  deriving Repr

namespace Json

/-- Induction over a value, with what holds of the items of an array and of the members of an
object. -/
theorem induction {motive : Json → Prop} (null : motive .null) (bool : ∀ value, motive (.bool value))
    (number : ∀ value, motive (.number value)) (string : ∀ text, motive (.string text))
    (array : ∀ items, (∀ item ∈ items, motive item) → motive (.array items))
    (object : ∀ members, (∀ member ∈ members, motive member.2) → motive (.object members)) (value : Json) :
    motive value := by
  have none {α : Type} (holds : α → Prop) : ∀ item ∈ ([] : List α), holds item := fun _ member => nomatch member
  exact @Json.rec motive (fun items => ∀ item ∈ items, motive item) (fun members => ∀ member ∈ members, motive member.2)
    (fun member => motive member.2) null bool number string array object (none _)
    (fun _ _ first rest => List.forall_mem_cons.mpr ⟨first, rest⟩) (none _)
    (fun _ _ first rest => List.forall_mem_cons.mpr ⟨first, rest⟩) (fun _ _ held => held) value

def get (value : Json) (key : String) : Option Json :=
  match value with
  | .object members => members.lookup key
  | _ => none

def asStr : Json → Option String
  | .string text => some text
  | _ => none

def asArray : Json → Option (List Json)
  | .array items => some items
  | _ => none

def asBool : Json → Option Bool
  | .bool value => some value
  | _ => none

def asU64 : Json → Option UInt64
  | .number (.posInt value) => some value
  | _ => none

def asI64 : Json → Option Int64
  | .number (.posInt value) => if value.toNat < UInt64.size / 2 then some value.toInt64 else none
  | .number (.negInt value) => some value
  | _ => none

/-- The text under a key, where there is one. -/
def getStr (value : Json) (key : String) : Option String := (value.get key).bind asStr

def modifyFirst (key : String) (change : Json → Json) : List (String × Json) → List (String × Json)
  | [] => []
  | (name, member) :: rest =>
    if name = key then (name, change member) :: rest else (name, member) :: modifyFirst key change rest

/-- What is written through `get_mut(key)`: nothing, where there is no such member. -/
def modify (value : Json) (key : String) (change : Json → Json) : Json :=
  match value with
  | .object members => .object (modifyFirst key change members)
  | other => other

/-- `Map::insert`: the value of a name that is there is replaced in its place. -/
def insertMember (members : List (String × Json)) (name : String) (value : Json) : List (String × Json) :=
  if name ∈ members.map Prod.fst then members.map fun member => if member.1 = name then (name, value) else member
  else members ++ [(name, value)]

def overText (change : String → String) : Json → Json
  | .string text => .string (change text)
  | other => other

theorem overText_overText (change again : String → String) (value : Json) :
    overText again (overText change value) = overText (again ∘ change) value := by
  cases value <;> rfl

theorem asStr_overText (change : String → String) (value : Json) : (overText change value).asStr = value.asStr.map change := by
  cases value <;> rfl

section Modify
variable {key : String} {change : Json → Json}

theorem lookup_modifyFirst_self (members : List (String × Json)) :
    (modifyFirst key change members).lookup key = (members.lookup key).map change := by
  induction members with
  | nil => rfl
  | cons entry rest ih =>
    obtain ⟨name, member⟩ := entry
    unfold modifyFirst
    split
    · next same =>
      subst same
      simp
    · next different =>
      have other : (key == name) = false := beq_false_of_ne (Ne.symm different)
      rw [List.lookup_cons, List.lookup_cons, other]
      exact ih

theorem get_modify_self (value : Json) : (value.modify key change).get key = (value.get key).map change := by
  cases value with
  | object members => exact lookup_modifyFirst_self members
  | _ => rfl

theorem lookup_modifyFirst_ne {other : String} (different : other ≠ key) (members : List (String × Json)) :
    (modifyFirst key change members).lookup other = members.lookup other := by
  induction members with
  | nil => rfl
  | cons entry rest ih =>
    obtain ⟨name, member⟩ := entry
    unfold modifyFirst
    split
    · next same =>
      subst same
      rw [List.lookup_cons, List.lookup_cons, beq_false_of_ne different]
    · rw [List.lookup_cons, List.lookup_cons, ih]

theorem get_modify_ne {other : String} (different : other ≠ key) (value : Json) :
    (value.modify key change).get other = value.get other := by
  cases value with
  | object members => exact lookup_modifyFirst_ne different members
  | _ => rfl

theorem modifyFirst_modifyFirst (again : Json → Json) (members : List (String × Json)) :
    modifyFirst key again (modifyFirst key change members) = modifyFirst key (again ∘ change) members := by
  induction members with
  | nil => rfl
  | cons entry rest ih =>
    obtain ⟨name, member⟩ := entry
    by_cases same : name = key
    · simp [modifyFirst, same]
    · simp [modifyFirst, same, ih]

theorem modify_modify (again : Json → Json) (value : Json) :
    (value.modify key change).modify key again = value.modify key (again ∘ change) := by
  cases value with
  | object members => exact congrArg Json.object (modifyFirst_modifyFirst again members)
  | _ => rfl

theorem modifyFirst_congr {other : Json → Json} {members : List (String × Json)}
    (same : ∀ member, members.lookup key = some member → change member = other member) :
    modifyFirst key change members = modifyFirst key other members := by
  induction members with
  | nil => rfl
  | cons entry rest ih =>
    obtain ⟨name, member⟩ := entry
    by_cases named : name = key
    · subst named
      simp [modifyFirst, same member (by simp)]
    · have passed : (key == name) = false := beq_false_of_ne (Ne.symm named)
      rw [List.lookup_cons, passed] at same
      simp [modifyFirst, named, ih same]

/-- Only what is done to the member that is there matters. -/
theorem modify_congr {other : Json → Json} {value : Json}
    (same : ∀ member, value.get key = some member → change member = other member) :
    value.modify key change = value.modify key other := by
  cases value with
  | object members => exact congrArg Json.object (modifyFirst_congr same)
  | _ => rfl

theorem modifyFirst_id (members : List (String × Json)) : modifyFirst key id members = members := by
  induction members with
  | nil => rfl
  | cons entry rest ih =>
    obtain ⟨name, member⟩ := entry
    by_cases named : name = key
    · simp [modifyFirst, named]
    · simp [modifyFirst, named, ih]

theorem modify_eq_self {value : Json} (same : ∀ member, value.get key = some member → change member = member) :
    value.modify key change = value := by
  have plain : value.modify key change = value.modify key id := modify_congr same
  rw [plain]
  cases value with
  | object members => exact congrArg Json.object (modifyFirst_id members)
  | _ => rfl

end Modify

section Insert
variable (members : List (String × Json)) (name : String) (value : Json)

theorem lookup_insertMember_self : (insertMember members name value).lookup name = some value := by
  unfold insertMember
  split
  · next there =>
    induction members with
    | nil => cases there
    | cons entry rest ih =>
      obtain ⟨first, member⟩ := entry
      by_cases same : first = name
      · simp [same]
      · have passed : (name == first) = false := beq_false_of_ne (Ne.symm same)
        rw [List.map_cons, if_neg same, List.lookup_cons, passed]
        apply ih
        simpa [Ne.symm same] using there
  · next absent =>
    have unnamed : members.lookup name = none := by
      apply List.lookup_eq_none_iff.mpr
      intro entry held
      exact bne_iff_ne.mpr fun same => absent (List.mem_map.mpr ⟨entry, held, same.symm⟩)
    rw [List.lookup_append, unnamed]
    simp

theorem lookup_replaced_ne {other : String} (different : other ≠ name) :
    (members.map fun member => if member.1 = name then (name, value) else member).lookup other = members.lookup other := by
  induction members with
  | nil => rfl
  | cons entry rest ih =>
    obtain ⟨first, member⟩ := entry
    rw [List.map_cons]
    split
    · next same =>
      subst same
      rw [List.lookup_cons, List.lookup_cons, beq_false_of_ne different]
      exact ih
    · rw [List.lookup_cons, List.lookup_cons, ih]

theorem lookup_insertMember_ne {other : String} (different : other ≠ name) :
    (insertMember members name value).lookup other = members.lookup other := by
  unfold insertMember
  split
  · exact lookup_replaced_ne members name value different
  · rw [List.lookup_append, List.lookup_cons, beq_false_of_ne different]
    exact Option.or_none

end Insert

end Json

/-- The bytes of an ASCII text, such as the JSON of a value. -/
def asciiBytes (text : String) : List UInt8 := text.toList.map fun c => c.toNat.toUInt8

end AiGateway
