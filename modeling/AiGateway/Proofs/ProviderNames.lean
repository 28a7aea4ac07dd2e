import AiGateway.ModelIds
import Mathlib.Data.List.DropRight

/-! The names of providers: which of them are read as they are printed, and which are read
by `FromStr` as they are deserialised. -/

namespace AiGateway

open Lib.Splits

section Codes

theorem trim_trim (text : List Char) : trim (trim text) = trim text := by
  have front : (trim text).dropWhile isWhitespace = trim text := by
    apply List.dropWhile_eq_self_iff.mpr
    intro nonempty
    obtain ⟨rest, whole⟩ : trim text <+: text.dropWhile isWhitespace := List.rdropWhile_prefix isWhitespace _
    have first : (text.dropWhile isWhitespace).head? = some (trim text)[0] := by
      rw [← whole, List.head?_append_of_ne_nil _ (List.ne_nil_of_length_pos nonempty), List.head?_eq_getElem?]
      exact List.getElem?_eq_getElem nonempty
    have kept := List.head?_dropWhile_not isWhitespace text
    rw [first] at kept
    simpa using kept
  conv_lhs => rw [trim, front]
  exact List.rdropWhile_idempotent isWhitespace (text.dropWhile isWhitespace)

theorem trim_subset (text : List Char) : trim text ⊆ text := by
  intro c member
  have trailing := (List.dropWhile_sublist _).subset (List.mem_reverse.mp member)
  exact (List.dropWhile_sublist _).subset (List.mem_reverse.mp trailing)

theorem mem_dropWhile {p : Char → Bool} {c : Char} (kept : p c = false) {text : List Char} (member : c ∈ text) :
    c ∈ text.dropWhile p := by
  rw [← List.takeWhile_append_dropWhile (p := p) (l := text)] at member
  obtain dropped | rest := List.mem_append.mp member
  · exact absurd (List.mem_takeWhile_imp dropped) (by simp [kept])
  · exact rest

theorem mem_trim {c : Char} (kept : isWhitespace c = false) {text : List Char} (member : c ∈ text) : c ∈ trim text := by
  apply List.mem_reverse.mpr
  apply mem_dropWhile kept
  apply List.mem_reverse.mpr
  exact mem_dropWhile kept member

theorem providerCodes_plain : InferenceProvider.providerCodes.all (fun code => !code.toList.contains '/') = true := by
  rfl

/-- A code that names a provider has no slash in it. -/
theorem fromProviderCode_plain {code : List Char} {provider : InferenceProvider}
    (read : InferenceProvider.fromProviderCode code = some provider) : '/' ∉ code := by
  intro member
  have kept : '/' ∈ (String.ofList ((trim code).map Char.toLower)).toList := by
    rw [String.toList_ofList]
    exact List.mem_map.mpr ⟨'/', mem_trim (by decide) member, by decide⟩
  unfold InferenceProvider.fromProviderCode at read
  dsimp only at read
  generalize String.ofList ((trim code).map Char.toLower) = normalized at read kept
  split at read
  case h_15 =>
    split at read
    · next known =>
      have plain := List.all_eq_true.mp providerCodes_plain normalized (List.contains_iff_mem.mp known)
      simp [kept] at plain
    · cases read
  all_goals exact absurd kept (by decide)

theorem fromStr_code {code : List Char} {provider : InferenceProvider}
    (read : InferenceProvider.fromProviderCode code = some provider) : InferenceProvider.fromStr code = provider := by
  have same : InferenceProvider.fromProviderCode (trim code) = some provider := by
    rw [InferenceProvider.fromProviderCode, trim_trim]
    exact read
  rw [InferenceProvider.fromStr, same, Option.getD_some]

/-- A name is cut at its first slash. -/
theorem fromStr_slash {chrono : Chrono} {code : List Char} (absent : '/' ∉ code) (name : List Char) :
    ModelId.fromStr chrono (code ++ '/' :: name) =
      if name.isEmpty then .error (.invalidModelName "Model name cannot be empty after provider")
      else ModelId.fromStrAndProvider chrono (InferenceProvider.fromStr code) name := by
  have cut : splitn '/' 2 (code ++ '/' :: name) = [code, name] := by
    rw [splitn, splitOnce_eq_some absent]
    rfl
  rw [ModelId.fromStr, cut]

/-- A full name is read as the model name after its code. -/
theorem fromStr_fullName {chrono : Chrono} {code : List Char} {provider : InferenceProvider}
    (read : InferenceProvider.fromProviderCode code = some provider) {name : List Char} (named : name ≠ []) :
    ModelId.fromStr chrono (code ++ '/' :: name) = ModelId.fromStrAndProvider chrono provider name := by
  rw [fromStr_slash (fromProviderCode_plain read), if_neg (by simpa using named), fromStr_code read]

end Codes

namespace InferenceProvider

theorem fromStr_trim (code : List Char) : fromStr (trim code) = fromStr code := by
  rw [fromStr, fromStr, trim_trim]

/-- What the codes are codes of. -/
def knownProviders : List InferenceProvider :=
  [.openAI, .anthropic, .bedrock, .ollama, .googleGemini, .custom] ++ providerCodes.map .named

theorem knownProviders_trimmed :
    knownProviders.all (fun provider => trim provider.fmt.toList == provider.fmt.toList) = true := by
  rfl

theorem knownProviders_read :
    knownProviders.all (fun provider => fromProviderCode provider.fmt.toList == some provider) = true := by
  rfl

/-- A code may be an alias, but what it names is named again by the name that is printed. -/
theorem fromProviderCode_known {code : List Char} {provider : InferenceProvider}
    (read : fromProviderCode code = some provider) : provider ∈ knownProviders := by
  unfold fromProviderCode at read
  dsimp only at read
  generalize String.ofList ((trim code).map Char.toLower) = normalized at read
  split at read
  case h_15 =>
    split at read
    · next listed =>
      cases read
      exact List.mem_append_right _ (List.mem_map_of_mem (List.contains_iff_mem.mp listed))
    · cases read
  -- Three listed providers have other codes beside their own.
  case h_11 | h_12 | h_13 | h_14 =>
    cases read
    exact List.mem_append_right _ (List.mem_map_of_mem (by decide +kernel))
  all_goals
    cases read
    exact List.mem_append_left _ (by simp)

theorem fromProviderCode_fmt {provider : InferenceProvider} (known : provider ∈ knownProviders) :
    fromProviderCode provider.fmt.toList = some provider := by
  simpa using List.all_eq_true.mp knownProviders_read provider known

theorem fromStr_known {provider : InferenceProvider} (known : provider ∈ knownProviders) :
    fromStr provider.fmt.toList = provider := fromStr_code (fromProviderCode_fmt known)

theorem trim_known {provider : InferenceProvider} (known : provider ∈ knownProviders) :
    trim provider.fmt.toList = provider.fmt.toList := by
  simpa using List.all_eq_true.mp knownProviders_trimmed provider known

/-- A name that is read as itself: without blanks around it, and not the code of a provider,
unless it is listed among the codes as it is written. -/
def OwnName (name : String) : Prop :=
  trim name.toList = name.toList ∧ (fromProviderCode name.toList = none ∨ name ∈ providerCodes)

theorem fromStr_named_iff (name : String) : fromStr name.toList = .named name ↔ OwnName name := by
  constructor
  · intro own
    rw [fromStr] at own
    cases read : fromProviderCode (trim name.toList) with
    | none =>
      rw [read] at own
      have same : trim name.toList = name.toList := by
        have printed := congrArg String.toList (InferenceProvider.named.inj own)
        rwa [String.toList_ofList] at printed
      rw [same] at read
      exact ⟨same, .inl read⟩
    | some provider =>
      have named : provider = .named name := by
        rw [read] at own
        exact own
      have known := fromProviderCode_known read
      rw [named] at known
      refine ⟨?_, .inr ?_⟩
      · simpa only [fmt] using trim_known known
      · obtain variant | listed := List.mem_append.mp known
        · simp at variant
        · obtain ⟨code, inside, same⟩ := List.mem_map.mp listed
          rwa [← InferenceProvider.named.inj same]
  · rintro ⟨trimmed, unknown | listed⟩
    · rw [fromStr, trimmed, unknown, Option.getD_none, String.ofList_toList]
    · have known : .named name ∈ knownProviders := List.mem_append_right _ (List.mem_map_of_mem listed)
      simpa only [fmt] using fromStr_known known

/-- Everything but a name is printed as a code of its own. -/
theorem fromStr_fmt_iff (provider : InferenceProvider) :
    fromStr provider.fmt.toList = provider ↔ ∀ name, provider = .named name → OwnName name := by
  cases provider with
  | named name =>
    refine (fromStr_named_iff name).trans ⟨?_, fun own => own name rfl⟩
    intro own other same
    cases same
    exact own
  | openAI | anthropic | bedrock | ollama | googleGemini | custom =>
    exact iff_of_true (fromStr_known (by decide +kernel)) nofun

/-- What a code is read as is named again by what it is printed as, without a slash if the code
has none. -/
theorem fromStr_reread (code : List Char) :
    fromStr (fromStr code).fmt.toList = fromStr code ∧ ('/' ∉ code → '/' ∉ (fromStr code).fmt.toList) := by
  cases read : fromProviderCode (trim code) with
  | some provider =>
    have known := fromProviderCode_known read
    have same : fromStr code = provider := by rw [fromStr, read, Option.getD_some]
    rw [same]
    exact ⟨fromStr_known known, fun _ => fromProviderCode_plain (fromProviderCode_fmt known)⟩
  | none =>
    have same : fromStr code = .named (String.ofList (trim code)) := by rw [fromStr, read, Option.getD_none]
    have printed : (fromStr code).fmt.toList = trim code := by
      rw [same]
      exact String.toList_ofList
    rw [printed, fromStr_trim]
    exact ⟨rfl, fun absent member => absent (trim_subset code member)⟩

/-- The names of the variants that hold no name. -/
def variantNames : List String := ["openai", "anthropic", "bedrock", "ollama", "gemini", "custom"]

theorem deserialize_variant {name : String} (variant : name ∈ variantNames) :
    deserialize name.toList = fromStr name.toList := by
  simp only [variantNames, List.mem_cons, List.not_mem_nil, or_false] at variant
  obtain rfl | rfl | rfl | rfl | rfl | rfl := variant
  all_goals rfl

theorem deserialize_named {name : String} (other : name ∉ variantNames) : deserialize name.toList = .named name := by
  simp only [variantNames, List.mem_cons, List.not_mem_nil, or_false, not_or] at other
  obtain ⟨first, second, third, fourth, fifth, sixth⟩ := other
  rw [deserialize, String.ofList_toList]
  split <;> first | contradiction | rfl

/-- A text is deserialised to the provider it is read as exactly when it is the name of a
variant or is read as itself. -/
theorem deserialize_eq_fromStr_iff (text : String) :
    deserialize text.toList = fromStr text.toList ↔ text ∈ variantNames ∨ OwnName text := by
  by_cases variant : text ∈ variantNames
  · exact iff_of_true (deserialize_variant variant) (.inl variant)
  · rw [deserialize_named variant, eq_comm, fromStr_named_iff]
    exact (or_iff_right variant).symm

theorem google_deserialized_apart : ¬ ∀ text : String, deserialize text.toList = fromStr text.toList := by
  intro alike
  exact absurd (alike "google") (by decide +kernel)

end InferenceProvider

end AiGateway

