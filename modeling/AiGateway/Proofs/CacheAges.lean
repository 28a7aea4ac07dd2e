import AiGateway.CacheControl
import AiGateway.Proofs.SemanticIsolation

/-! How long an entry is kept, by the number that the cache control of its request names. -/

namespace AiGateway.CacheControl

open Lib.Matches
open SemanticCache (HeaderMap HeaderValue parseU64 visible_of_all)

section Directives

/-- Where a text begins with a label and a digit. -/
def Begins (label text : List Char) : Prop := ∃ c rest, text = label ++ c :: rest ∧ c.isDigit = true

/-- The digits after the first place where the label stands before a digit, up to the first
character that is none. -/
structure Directive (label text digits : List Char) : Prop where
  digits_all : ∀ c ∈ digits, c.isDigit = true
  nonempty : digits ≠ []
  place : ∃ before after, text = before ++ (label ++ digits ++ after) ∧
    (∀ c, after.head? = some c → ¬ c.isDigit = true) ∧
    ∀ earlier later, before = earlier ++ later → later ≠ [] → ¬ Begins label (later ++ (label ++ digits ++ after))

def number (digits : List Char) : Nat := Nat.ofDigitChars 10 digits 0

/-- The age that a cache control asks for: that of `s-maxage`, and without it that of `max-age`. -/
def Requests (text : List Char) (age : Nat) : Prop :=
  (∃ digits, Directive "s-maxage=".toList text digits ∧ number digits = age) ∨
    ((∀ digits, ¬ Directive "s-maxage=".toList text digits) ∧
      ∃ digits, Directive "max-age=".toList text digits ∧ number digits = age)

variable {label text digits after : List Char}

theorem takeWhile_digits (all : ∀ c ∈ digits, c.isDigit = true) (stops : ∀ c, after.head? = some c → ¬ c.isDigit = true) :
    (digits ++ after).takeWhile Char.isDigit = digits := by
  rw [List.takeWhile_append_of_pos all]
  cases after with
  | nil => simp
  | cons c rest => simp [stops c rfl]

theorem numberFront_append (all : ∀ c ∈ digits, c.isDigit = true) (nonempty : digits ≠ [])
    (stops : ∀ c, after.head? = some c → ¬ c.isDigit = true) :
    numberFront label (label ++ digits ++ after) = some ((label ++ digits).length, digits) := by
  rw [numberFront]
  rw [List.append_assoc, if_pos (List.isPrefixOf_iff_prefix.mpr (List.prefix_append _ _)), List.drop_left]
  dsimp only
  rw [takeWhile_digits all stops, if_neg (by simpa using nonempty), List.length_append]

theorem numberFront_eq_none_iff : numberFront label text = none ↔ ¬ Begins label text := by
  constructor
  · intro missed begins
    obtain ⟨c, rest, rfl, digit⟩ := begins
    rw [numberFront] at missed
    rw [if_pos (List.isPrefixOf_iff_prefix.mpr (List.prefix_append _ _)), List.drop_left] at missed
    simp [digit] at missed
  · intro unlike
    rw [numberFront]
    split
    · next starts =>
      obtain ⟨rest, rfl⟩ := List.isPrefixOf_iff_prefix.mp starts
      rw [List.drop_left]
      dsimp only
      split
      · rfl
      · next nonempty =>
        cases rest with
        | nil => simp at nonempty
        | cons c rest =>
          by_cases digit : c.isDigit = true
          · exact absurd ⟨c, rest, rfl, digit⟩ unlike
          · simp [digit] at nonempty
    · rfl

/-- What the front of a text matches, in full. -/
theorem numberFront_eq_some {width : Nat} (matched : numberFront label text = some (width, digits)) :
    ∃ after, text = label ++ digits ++ after ∧ width = (label ++ digits).length ∧ (∀ c ∈ digits, c.isDigit = true) ∧
      digits ≠ [] ∧ ∀ c, after.head? = some c → ¬ c.isDigit = true := by
  rw [numberFront] at matched
  split at matched
  · next starts =>
    obtain ⟨rest, rfl⟩ := List.isPrefixOf_iff_prefix.mp starts
    rw [List.drop_left] at matched
    dsimp only at matched
    split at matched
    · cases matched
    · next nonempty =>
      cases matched
      refine ⟨rest.dropWhile Char.isDigit, ?_, List.length_append.symm, ?_, by simpa using nonempty, ?_⟩
      · rw [List.append_assoc, List.takeWhile_append_dropWhile]
      · intro c member
        exact List.mem_takeWhile_imp member
      · intro c head
        have stopped := List.head?_dropWhile_not Char.isDigit rest
        rw [head] at stopped
        simpa using stopped
  · cases matched

theorem first_numberAfter_iff {matched : List Char} :
    (numberAfter label).first text = some (matched, digits) ↔ matched = label ++ digits ∧ Directive label text digits := by
  rw [Pattern.first_eq_some_iff]
  constructor
  · intro place
    obtain ⟨before, rest, rfl, here, leftmost⟩ := place
    obtain ⟨after, same, size, all, nonempty, stops⟩ := numberFront_eq_some here
    obtain ⟨rfl, rfl⟩ := List.append_inj same size
    refine ⟨rfl, all, nonempty, before, rest, rfl, stops, ?_⟩
    intro earlier later cut kept
    exact numberFront_eq_none_iff.mp (leftmost earlier later cut kept)
  · intro directive
    obtain ⟨rfl, all, nonempty, before, after, rfl, stops, leftmost⟩ := directive
    refine ⟨before, after, rfl, numberFront_append all nonempty stops, ?_⟩
    intro earlier later cut kept
    exact numberFront_eq_none_iff.mpr (leftmost earlier later cut kept)

theorem Directive.unique {other : List Char} (directive : Directive label text digits) (again : Directive label text other) :
    digits = other := by
  have first := first_numberAfter_iff.mpr ⟨rfl, directive⟩
  rw [first_numberAfter_iff.mpr ⟨rfl, again⟩] at first
  exact (Prod.mk.inj (Option.some.inj first)).2.symm

theorem no_directive (missing : (numberAfter label).first text = none) (digits : List Char) : ¬ Directive label text digits := by
  intro directive
  rw [first_numberAfter_iff.mpr ⟨rfl, directive⟩] at missing
  cases missing

end Directives

section Numbers

theorem parseU64_digits {digits : List Char} (all : ∀ c ∈ digits, c.isDigit = true) (nonempty : digits ≠ []) :
    parseU64 digits = if number digits < UInt64.size then some (UInt64.ofNat (number digits)) else none := by
  have unsigned : digits.head? ≠ some '+' := by
    intro sign
    exact absurd (all '+' (List.mem_of_head? sign)) (by decide)
  have every : digits.all Char.isDigit = true := List.all_eq_true.mpr all
  unfold parseU64
  rw [if_neg unsigned]
  show (if digits.isEmpty = true ∨ ¬ digits.all Char.isDigit = true ∨ UInt64.size ≤ number digits then none
    else some (UInt64.ofNat (number digits))) = _
  by_cases fits : number digits < UInt64.size
  · rw [if_pos fits, if_neg (by simp [nonempty, every, fits])]
  · rw [if_neg fits, if_pos (.inr (.inr (by omega)))]

theorem regexOnce_of_directive {label text digits : List Char} (directive : Directive label text digits) :
    regexOnce label text = if number digits < UInt64.size then some (UInt64.ofNat (number digits)) else none := by
  rw [regexOnce]
  rw [first_numberAfter_iff.mpr ⟨rfl, directive⟩]
  exact parseU64_digits directive.digits_all directive.nonempty

theorem regexOnce_of_none {label text : List Char} (absent : ∀ digits, ¬ Directive label text digits) :
    regexOnce label text = none := by
  rw [regexOnce]
  cases found : (numberAfter label).first text with
  | none => rfl
  | some captures =>
    obtain ⟨matched, digits⟩ := captures
    exact absurd (first_numberAfter_iff.mp found).2 (absent digits)

end Numbers

section Ages
variable {headers : HeaderMap} {settings : CacheSettings} {text : List Char} {age : Nat}

/-- An age, or a year where it is more. -/
def capped (age : Nat) : Nat := if age ≤ maxCacheAge.toNat then age else maxCacheAge.toNat

theorem capped_mono {age other : Nat} (less : age ≤ other) : capped age ≤ capped other := by
  unfold capped
  split <;> split <;> omega

/-- A cache control that the settings hold reads back as the number it was made of. -/
theorem parseMaxAgeSeconds_public (seconds : UInt64) :
    parseMaxAgeSeconds ("public, max-age=".toList ++ Nat.toDigits 10 seconds.toNat) = some seconds := by
  have all : ∀ c ∈ Nat.toDigits 10 seconds.toNat, c.isDigit = true := fun _ => SemanticCache.mem_toDigits
  have directive : Directive "max-age=".toList ("public, max-age=".toList ++ Nat.toDigits 10 seconds.toNat)
      (Nat.toDigits 10 seconds.toNat) := by
    refine ⟨all, Nat.toDigits_ne_nil, "public, ".toList, [], ?_, nofun, ?_⟩
    · rw [List.append_nil, ← List.append_assoc]
      rfl
    · intro earlier later cut kept begins
      obtain ⟨c, rest, same, _⟩ := begins
      cases later with
      | nil => exact kept rfl
      | cons first later =>
        have member : first ∈ "public, ".toList := by
          rw [cut]
          simp
        have other : ("public, ".toList.all fun c => c != 'm') = true := by decide
        exact bne_iff_ne.mp (List.all_eq_true.mp other first member) (List.cons.inj same).1
  have reads : number (Nat.toDigits 10 seconds.toNat) = seconds.toNat := Nat.ofDigitChars_ten_toDigits
  have fits : seconds.toNat < UInt64.size := seconds.toNat_lt
  rw [parseMaxAgeSeconds]
  rw [regexOnce_of_directive directive, reads, if_pos fits, UInt64.ofNat_toNat]

/-- The age that the settings are made of. -/
def foundAge (text : List Char) : UInt64 :=
  ((regexOnce "s-maxage=".toList text).or (regexOnce "max-age=".toList text)).getD defaultCacheAge

theorem expiration_eq (parsed : CacheSettings.parse headers = .ok settings)
    (held : lowerGet headers "Alephant-Cache-Control" = some text) :
    settings.expirationTtlSecs.toNat = capped (foundAge text).toNat := by
  unfold CacheSettings.parse at parsed
  dsimp only at parsed
  split at parsed
  · cases parsed
  · cases parsed
    rw [held, Option.getD_some]
    unfold CacheSettings.expirationTtlSecs buildCacheControl
    dsimp only
    rw [parseMaxAgeSeconds_public, Option.getD_some]
    show (if foundAge text ≤ maxCacheAge then foundAge text else maxCacheAge).toNat = _
    unfold capped
    by_cases less : foundAge text ≤ maxCacheAge
    · rw [if_pos less, if_pos (UInt64.le_iff_toNat_le.mp less)]
    · rw [if_neg less, if_neg (fun small => less (UInt64.le_iff_toNat_le.mpr small))]

/-- The text has a `max-age` of a year or more that the code can read. -/
def LongMaxAge (text : List Char) : Prop :=
  ∃ digits, Directive "max-age=".toList text digits ∧ maxCacheAge.toNat ≤ number digits ∧ number digits < UInt64.size

/-- An age within the range of the code's numbers, or an `s-maxage` beyond it with a `max-age`
of a year or more to fall back on. -/
def WithinRange (text : List Char) (age : Nat) : Prop :=
  age < UInt64.size ∨ ((∃ digits, Directive "s-maxage=".toList text digits) ∧ LongMaxAge text)

theorem capped_of_year {age : Nat} (long : maxCacheAge.toNat ≤ age) : capped age = maxCacheAge.toNat := by
  rw [capped]
  split <;> omega

theorem year_le_of_overflow {age : Nat} (large : ¬ age < UInt64.size) : maxCacheAge.toNat ≤ age := by
  have year : maxCacheAge.toNat < UInt64.size := by decide
  omega

theorem toNat_of_fits {age : Nat} (fits : age < UInt64.size) : (UInt64.ofNat age).toNat = age :=
  UInt64.toNat_ofNat_of_lt fits

theorem week_ne_year : capped defaultCacheAge.toNat ≠ maxCacheAge.toNat := by decide

/-- What a number beyond the range falls back on is a year only if the text says so. -/
theorem fallback_iff (text : List Char) :
    capped ((regexOnce "max-age=".toList text).getD defaultCacheAge).toNat = maxCacheAge.toNat ↔ LongMaxAge text := by
  by_cases named : ∃ digits, Directive "max-age=".toList text digits
  · obtain ⟨digits, directive⟩ := named
    rw [regexOnce_of_directive directive]
    by_cases fits : number digits < UInt64.size
    · rw [if_pos fits, Option.getD_some, toNat_of_fits fits]
      constructor
      · intro year
        refine ⟨digits, directive, ?_, fits⟩
        rw [capped] at year
        split at year <;> omega
      · intro long
        obtain ⟨other, again, long, _⟩ := long
        rw [directive.unique again]
        exact capped_of_year long
    · rw [if_neg fits, Option.getD_none]
      refine iff_of_false week_ne_year ?_
      intro long
      obtain ⟨other, again, _, small⟩ := long
      rw [← directive.unique again] at small
      exact fits small
  · rw [regexOnce_of_none (fun digits directive => named ⟨digits, directive⟩), Option.getD_none]
    refine iff_of_false week_ne_year ?_
    intro long
    obtain ⟨digits, directive, _⟩ := long
    exact named ⟨digits, directive⟩

theorem capped_foundAge_iff (requests : Requests text age) :
    capped (foundAge text).toNat = capped age ↔ WithinRange text age := by
  rw [foundAge]
  obtain shared | ⟨alone, digits, directive, rfl⟩ := requests
  · obtain ⟨digits, directive, rfl⟩ := shared
    rw [regexOnce_of_directive directive]
    by_cases fits : number digits < UInt64.size
    · rw [if_pos fits, Option.some_or, Option.getD_some, toNat_of_fits fits]
      exact iff_of_true rfl (.inl fits)
    · rw [if_neg fits, Option.none_or, capped_of_year (year_le_of_overflow fits), fallback_iff]
      constructor
      · intro long
        exact .inr ⟨⟨digits, directive⟩, long⟩
      · intro within
        obtain small | other := within
        · exact absurd small fits
        · exact other.2
  · rw [regexOnce_of_none alone, Option.none_or, regexOnce_of_directive directive]
    by_cases fits : number digits < UInt64.size
    · rw [if_pos fits, Option.getD_some, toNat_of_fits fits]
      exact iff_of_true rfl (.inl fits)
    · rw [if_neg fits, Option.getD_none, capped_of_year (year_le_of_overflow fits)]
      refine iff_of_false week_ne_year ?_
      intro within
      obtain small | other := within
      · exact fits small
      · obtain ⟨shared, directed⟩ := other.1
        exact alone shared directed

/-- An entry is kept for the age that is asked for, up to a year, exactly where that age is
within the range of the code's numbers, and there a larger age keeps it no shorter. -/
theorem expiration_capped_iff (parsed : CacheSettings.parse headers = .ok settings)
    (held : lowerGet headers "Alephant-Cache-Control" = some text) (requests : Requests text age) :
    (settings.expirationTtlSecs.toNat = capped age ↔ WithinRange text age) ∧
      ∀ {headers' : HeaderMap} {settings' : CacheSettings} {text' : List Char} {age' : Nat},
        CacheSettings.parse headers' = .ok settings' → lowerGet headers' "Alephant-Cache-Control" = some text' →
        Requests text' age' → WithinRange text age → WithinRange text' age' → age ≤ age' →
        settings.expirationTtlSecs ≤ settings'.expirationTtlSecs := by
  constructor
  · rw [expiration_eq parsed held]
    exact capped_foundAge_iff requests
  · intro headers' settings' text' age' parsed' held' requests' within within' less
    apply UInt64.le_iff_toNat_le.mpr
    rw [expiration_eq parsed held, expiration_eq parsed' held', (capped_foundAge_iff requests).mpr within,
      (capped_foundAge_iff requests').mpr within']
    exact capped_mono less

def ageHeaders (value : HeaderValue) : HeaderMap where
  get
    | "Alephant-Cache-Control" => some value
    | _ => none

def twoMinutes : HeaderValue := .visible "max-age=120".toList (visible_of_all (by decide))

/-- The least number that the code cannot read. -/
def beyondRange : HeaderValue := .visible "max-age=18446744073709551616".toList (visible_of_all (by decide))

theorem two_minute_age_capped :
    ∃ settings, CacheSettings.parse (ageHeaders twoMinutes) = .ok settings ∧ settings.expirationTtlSecs.toNat = 120 := by
  have named : Directive "max-age=".toList "max-age=120".toList "120".toList :=
    (first_numberAfter_iff.mp (by rfl : (numberAfter "max-age=".toList).first "max-age=120".toList =
      some ("max-age=120".toList, "120".toList))).2
  have requests : Requests "max-age=120".toList 120 := .inr ⟨no_directive (by rfl), _, named, by decide⟩
  have kept := (@expiration_capped_iff (ageHeaders twoMinutes) _ _ _ rfl rfl requests).1.mpr (.inl (by decide))
  exact ⟨_, rfl, kept⟩

/-- More seconds than the code can read are kept for a week, and one second less for a year. -/
theorem beyond_range_kept_for_a_week :
    ∃ settings, CacheSettings.parse (ageHeaders beyondRange) = .ok settings ∧
      lowerGet (ageHeaders beyondRange) "Alephant-Cache-Control" = some "max-age=18446744073709551616".toList ∧
      Requests "max-age=18446744073709551616".toList 18446744073709551616 ∧
      settings.expirationTtlSecs.toNat = 604800 ∧ capped 18446744073709551616 = 31536000 := by
  have named : Directive "max-age=".toList "max-age=18446744073709551616".toList "18446744073709551616".toList :=
    (first_numberAfter_iff.mp (by rfl :
      (numberAfter "max-age=".toList).first "max-age=18446744073709551616".toList =
        some ("max-age=18446744073709551616".toList, "18446744073709551616".toList))).2
  refine ⟨_, rfl, rfl, .inr ⟨no_directive (by rfl), _, named, by decide⟩, ?_, by decide⟩
  rfl

end Ages

end AiGateway.CacheControl
