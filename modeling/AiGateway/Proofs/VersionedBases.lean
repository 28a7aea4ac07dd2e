import AiGateway.Lib.UrlPaths
import AiGateway.Proofs.UpstreamConfinement

/-! Requests joined to a base URL whose path ends in a version. The base path is kept where the
reference that is sent is relative and the URL library takes it as it is written. -/

namespace AiGateway.Proofs
open Lib.Urls Lib.Splits

/-- The path and query of a request, with or without a slash before the path. -/
structure RequestTarget where
  slash : Bool
  path : List Char
  query : Option (List Char)
  leading : slash = false → path.head? ≠ some '/'
  pathOnly : '?' ∉ path
  clean : Clean (path ++ queryText query)
  nonempty : slash = false → path ++ queryText query ≠ []

namespace RequestTarget
variable (target : RequestTarget)

def written : List Char := if target.slash then '/' :: target.path else target.path

def text : List Char := target.written ++ queryText target.query

theorem written_pathOnly : '?' ∉ target.written := by
  have absent := target.pathOnly
  rw [written]
  split
  · simpa using absent
  · exact absent

theorem text_clean : Clean target.text := by
  have clean := target.clean
  rw [text, written]
  split
  · intro c member
    rcases List.mem_cons.mp member with rfl | member
    · decide
    · exact clean c member
  · exact clean

end RequestTarget

def slashEnded (path : List Char) : List Char := if path.getLast? = some '/' then path else path ++ ['/']

/-- The path without the version it starts with. -/
def withoutVersion (path : List Char) : List Char :=
  match splitOnce '/' path with
  | some (first, rest) => if segmentIsVDigitVersion first then rest else path
  | none => if segmentIsVDigitVersion path then [] else path

def KeepsBasePath (library : Library) (base : Url) (target : RequestTarget) : Prop :=
  ∃ url, joinProviderUpstreamUrl library base target.text = some url ∧ url.origin = base.origin ∧
    url.path = slashEnded base.path ++ withoutVersion target.path ∧ url.query = target.query

def slashed (base : Url) : Url := { base with path := slashEnded base.path }

/-- A relative reference that the library appends to the base's path as it is written. -/
structure TakenAsWritten {library : Library} (resolution : Resolution library) (base : Url) (path : List Char)
    (query : Option (List Char)) : Prop where
  unnamed : splitScheme (path ++ queryText query) = none
  relative : ∀ first ∈ path.head?, isSlash (isSpecial base.scheme) first = false
  verbatim : resolution.resolve base path = base.path ++ path

/-- A base keeps its path for a bare query, for a path that is relative once its version is off,
and for a rooted path that is the base's own. -/
def Kept {library : Library} (resolution : Resolution library) (base : Url) (target : RequestTarget) : Prop :=
  base.cannotBeABase = false ∧ target.query.map (resolution.encodeQuery (slashed base)) = target.query ∧
    ((target.path = [] ∧ target.slash = false) ∨
      (withoutVersion target.path ≠ [] ∧ (target.slash = true → withoutVersion target.path ≠ target.path) ∧
        TakenAsWritten resolution (slashed base) (withoutVersion target.path) target.query) ∨
      (target.slash = true ∧ ∃ version, segmentIsVDigitVersion version = true ∧ target.path = version ++ ['/'] ∧
        resolution.kept (slashed base) ++ '/' :: target.path = (slashed base).path))

theorem withoutVersion_cut {version : List Char} (isVersion : segmentIsVDigitVersion version = true) (rest : List Char) :
    withoutVersion (version ++ '/' :: rest) = rest := by
  rw [withoutVersion, splitOnce_eq_some (revision_plain isVersion).1]
  simp [isVersion]

theorem withoutVersion_alone {version : List Char} (isVersion : segmentIsVDigitVersion version = true) :
    withoutVersion version = [] := by
  rw [withoutVersion, splitOnce_eq_none (revision_plain isVersion).1]
  simp [isVersion]

/-- Only a leading version is taken off a path. -/
theorem withoutVersion_cases (path : List Char) :
    (∃ version rest, segmentIsVDigitVersion version = true ∧ path = version ++ '/' :: rest) ∨
      segmentIsVDigitVersion path = true ∨ withoutVersion path = path := by
  obtain ⟨_, missing⟩ | ⟨first, rest, split, _, found⟩ := splitOnce_cases '/' path
  · cases isVersion : segmentIsVDigitVersion path with
    | true => exact .inr (.inl rfl)
    | false => exact .inr (.inr (by simp [withoutVersion, missing, isVersion]))
  · cases isVersion : segmentIsVDigitVersion first with
    | true => exact .inl ⟨first, rest, isVersion, split⟩
    | false => exact .inr (.inr (by simp [withoutVersion, found, isVersion]))

theorem withoutVersion_pathOnly {path : List Char} (pathOnly : '?' ∉ path) : '?' ∉ withoutVersion path := by
  obtain ⟨version, rest, isVersion, split⟩ | isVersion | same := withoutVersion_cases path
  · rw [split, withoutVersion_cut isVersion]
    exact fun member => pathOnly (by simp [split, member])
  · simp [withoutVersion_alone isVersion]
  · rwa [same]

theorem withoutVersion_bare {version tail : List Char} (isVersion : segmentIsVDigitVersion version = true)
    (ended : tail = [] ∨ tail = ['/']) : withoutVersion (version ++ tail) = [] := by
  obtain rfl | rfl := ended
  · rw [List.append_nil, withoutVersion_alone isVersion]
  · exact withoutVersion_cut isVersion []

theorem version_start {version : List Char} (isVersion : segmentIsVDigitVersion version = true) :
    ∃ v digits, version = v :: digits ∧ (v = 'v' ∨ v = 'V') ∧ digits ≠ [] ∧ ∀ c ∈ digits, c.isDigit = true := by
  match version, isVersion with
  | v :: digit :: rest, isVersion =>
    simp only [segmentIsVDigitVersion, Bool.and_eq_true, Bool.or_eq_true, beq_iff_eq, List.all_eq_true] at isVersion
    exact ⟨v, digit :: rest, rfl, isVersion.1, List.cons_ne_nil _ _, isVersion.2⟩

theorem version_words {version : List Char} (isVersion : segmentIsVDigitVersion version = true) :
    version.all Char.isAlphanum = true := by
  rw [List.all_eq_true]
  intro c member
  obtain rfl | rfl | digit := revision_char isVersion c member
  · decide
  · decide
  · simp [Char.isAlphanum, digit]

def isVersionLetter (c : Char) : Bool := c == 'v' || c == 'V'

theorem given_of_two {p : Char → Bool} (first second : Char) (only : ∀ c, p c = true → c = first ∨ c = second)
    (firstOwn : isAdded first = false) (secondOwn : isAdded second = false) (bars : p ':' = p '|') : Given p := by
  refine ⟨fun c added => ?_, bars⟩
  cases counted : p c with
  | false => rfl
  | true =>
    obtain rfl | rfl := only c counted
    · exact absurd added (by simp [firstOwn])
    · exact absurd added (by simp [secondOwn])

theorem isVersionLetter_given : Given isVersionLetter := by
  apply given_of_two 'v' 'V'
  · simp [isVersionLetter]
  · decide
  · decide
  · decide

/-- The colon after a scheme, and the bar that a drive may have in its place. -/
def isSchemeMark (c : Char) : Bool := c == ':' || c == '|'

theorem isSchemeMark_given : Given isSchemeMark := by
  apply given_of_two ':' '|'
  · simp [isSchemeMark]
  · decide
  · decide
  · decide

theorem version_letters {version : List Char} (isVersion : segmentIsVDigitVersion version = true) :
    0 < version.countP isVersionLetter := by
  obtain ⟨v, digits, rfl, letter, _⟩ := version_start isVersion
  have counted : isVersionLetter v = true := by simpa [isVersionLetter] using letter
  rw [List.countP_cons_of_pos counted]
  omega

theorem slashEnded_last (path : List Char) : (slashEnded path).getLast? = some '/' := by
  rw [slashEnded]
  split
  · assumption
  · simp

/-- The version of a base is what its path ends in, but for slashes. -/
theorem versioned_split {base : Url} (versioned : basePathEndsWithVVersionSegment base = true) :
    ∃ before version slashes, slashEnded base.path = before ++ version ++ slashes ∧
      segmentIsVDigitVersion version = true ∧ ∀ c ∈ slashes, c = '/' := by
  simp only [basePathEndsWithVVersionSegment] at versioned
  split at versioned
  next => cases versioned
  next =>
    rw [List.reverse_reverse] at versioned
    have front : base.path.takeWhile (· == '/') ++ trimStartMatches '/' base.path = base.path :=
      List.takeWhile_append_dropWhile
    generalize trimStartMatches '/' base.path = trimmed at versioned front
    have back : trimmed.reverse.takeWhile (· == '/') ++ trimStartMatches '/' trimmed.reverse = trimmed.reverse :=
      List.takeWhile_append_dropWhile
    have slashes : ∀ c ∈ trimmed.reverse.takeWhile (· == '/'), c = '/' := by
      intro c member
      simpa using List.mem_takeWhile_imp member
    generalize trimStartMatches '/' trimmed.reverse = ending at versioned back
    have last : ending.takeWhile (· != '/') ++ ending.dropWhile (· != '/') = ending := List.takeWhile_append_dropWhile
    have whole : base.path = base.path.takeWhile (· == '/') ++ (ending.dropWhile (· != '/')).reverse ++
        (ending.takeWhile (· != '/')).reverse ++ (trimmed.reverse.takeWhile (· == '/')).reverse := by
      rw [← last] at back
      have mirrored := congrArg List.reverse back
      simp only [List.reverse_append, List.reverse_reverse] at mirrored
      simp only [List.append_assoc] at mirrored ⊢
      rw [mirrored]
      exact front.symm
    rw [slashEnded]
    split
    · exact ⟨_, _, _, whole, versioned, by simpa using slashes⟩
    · refine ⟨base.path.takeWhile (· == '/') ++ (ending.dropWhile (· != '/')).reverse, _,
        (trimmed.reverse.takeWhile (· == '/')).reverse ++ ['/'], ?_, versioned, ?_⟩
      · rw [← List.append_assoc, ← whole]
      · intro c member
        simp only [List.mem_append, List.mem_reverse, List.mem_singleton] at member
        exact member.elim (slashes c) id

/-- The reference that a versioned base is joined with. A version alone is sent as it is, and so is
a path that starts with a slash but no version. -/
inductive Referred (target : RequestTarget) : List Char → Prop where
  | relative (unrooted : target.slash = true → withoutVersion target.path ≠ target.path)
      (nonempty : withoutVersion target.path = [] → target.path = []) :
      Referred target (withoutVersion target.path ++ queryText target.query)
  | rooted (slash : target.slash = true) (same : withoutVersion target.path = target.path) :
      Referred target ('/' :: target.path ++ queryText target.query)
  | doubled {slashes version rest : List Char} (slash : target.slash = true)
      (same : withoutVersion target.path = target.path) (isVersion : segmentIsVDigitVersion version = true)
      (split : target.path = slashes ++ version ++ '/' :: rest) (nonempty : rest ≠ []) :
      Referred target (rest ++ queryText target.query)
  | version {version tail : List Char} (isVersion : segmentIsVDigitVersion version = true)
      (ended : tail = [] ∨ tail = ['/']) (split : target.path = version ++ tail) :
      Referred target (target.written ++ queryText target.query)

theorem adjust_target {base : Url} (versioned : basePathEndsWithVVersionSegment base = true) (target : RequestTarget) :
    adjustUpstreamPathForVersionedBase base target.text =
      (stripLeadingNumericVRevisionPrefix target.written).getD target.written ++ queryText target.query := by
  have pathOnly := target.written_pathOnly
  rw [RequestTarget.text]
  cases target.query with
  | none =>
    rw [queryText, List.append_nil, adjustUpstreamPathForVersionedBase, splitOnce_eq_none pathOnly]
    cases stripped : stripLeadingNumericVRevisionPrefix target.written <;> simp [versioned, stripped]
  | some query =>
    rw [queryText, adjustUpstreamPathForVersionedBase, splitOnce_eq_some pathOnly]
    cases stripped : stripLeadingNumericVRevisionPrefix target.written <;> simp [versioned, stripped]

theorem written_append (target : RequestTarget) {version rest : List Char} (split : target.path = version ++ rest) :
    ∃ slashes, (∀ c ∈ slashes, c = '/') ∧ target.written = slashes ++ version ++ rest := by
  cases slash : target.slash with
  | true => exact ⟨['/'], by simp, by simp [RequestTarget.written, slash, split]⟩
  | false => exact ⟨[], by simp, by simp [RequestTarget.written, slash, split]⟩

theorem strip_bare {slashes version tail : List Char} (leading : ∀ c ∈ slashes, c = '/')
    (isVersion : segmentIsVDigitVersion version = true) (ended : tail = [] ∨ tail = ['/']) :
    stripLeadingNumericVRevisionPrefix (slashes ++ version ++ tail) = none := by
  obtain ⟨noSlash, _, nonempty⟩ := revision_plain isVersion
  obtain ⟨first, others, rfl⟩ := List.exists_cons_of_ne_nil nonempty
  have start : first ≠ '/' := fun same => noSlash (by simp [same])
  have trimmed : trimStartMatches '/' (slashes ++ first :: others ++ tail) = first :: others ++ tail := by
    rw [trimStartMatches, List.append_assoc, List.dropWhile_append_of_pos (by simpa using leading)]
    simp [start]
  rw [stripLeadingNumericVRevisionPrefix, trimmed]
  obtain rfl | rfl := ended
  · rw [List.append_nil, splitOnce_eq_none noSlash]
  · rw [splitOnce_eq_some noSlash]
    rfl

theorem referred {base : Url} (versioned : basePathEndsWithVVersionSegment base = true) (target : RequestTarget) :
    Referred target (adjustUpstreamPathForVersionedBase base target.text) := by
  rw [adjust_target versioned]
  obtain ⟨version, rest, isVersion, split⟩ | isVersion | same := withoutVersion_cases target.path
  · obtain ⟨slashes, leading, written⟩ := written_append target split
    have cut : withoutVersion target.path = rest := by rw [split, withoutVersion_cut isVersion]
    by_cases empty : rest = []
    · rw [written, empty, strip_bare leading isVersion (.inr rfl), Option.getD_none, ← empty, ← written]
      exact .version isVersion (.inr (by rw [empty])) split
    · rw [written, strip_of_revision leading isVersion empty, Option.getD_some, ← cut]
      refine .relative (fun _ same => ?_) (fun missing => absurd (cut ▸ missing) empty)
      have length := congrArg List.length (cut.symm.trans (same.trans split))
      simp at length
      omega
  · have whole : target.path = target.path ++ [] := (List.append_nil _).symm
    obtain ⟨slashes, leading, written⟩ := written_append target whole
    rw [written, strip_bare leading isVersion (.inl rfl), Option.getD_none, ← written]
    exact .version isVersion (.inl rfl) whole
  · cases stripped : stripLeadingNumericVRevisionPrefix target.written with
    | none =>
      rw [Option.getD_none]
      cases slash : target.slash with
      | true =>
        simp only [RequestTarget.written, slash, if_true]
        exact .rooted slash same
      | false =>
        have relative : target.written = withoutVersion target.path := by simp [RequestTarget.written, slash, same]
        rw [relative]
        exact .relative (by simp [slash]) (fun missing => same ▸ missing)
    | some rest =>
      obtain ⟨slashes, version, split, leading, isVersion, nonempty⟩ := revision_of_strip stripped
      have unversioned : ∀ rest, target.path ≠ version ++ '/' :: rest := by
        intro rest split
        rw [split, withoutVersion_cut isVersion] at same
        have length := congrArg List.length same
        simp at length
        omega
      rw [Option.getD_some]
      cases slashes with
      | nil =>
        rw [List.nil_append, RequestTarget.written] at split
        split at split
        · obtain ⟨v, digits, rfl, letter, _⟩ := version_start isVersion
          injection split with first
          obtain rfl | rfl := letter
          · exact absurd first (by decide)
          · exact absurd first (by decide)
        · exact absurd split (unversioned rest)
      | cons first slashes =>
        obtain rfl := leading first (by simp)
        have slash : target.slash = true := by
          cases slash : target.slash with
          | true => rfl
          | false =>
            have start := target.leading slash
            simp only [RequestTarget.written, slash, Bool.false_eq_true, if_false] at split
            simp [split] at start
        simp only [RequestTarget.written, slash, if_true, List.cons_append] at split
        injection split with _ split
        exact .doubled slash same isVersion split nonempty

theorem bare_plain {target : RequestTarget} {version tail : List Char}
    (isVersion : segmentIsVDigitVersion version = true) (ended : tail = [] ∨ tail = ['/'])
    (split : target.path = version ++ tail) (special : Bool) :
    splitScheme (target.written ++ queryText target.query) = none ∧
      leadingSlashes special (target.written ++ queryText target.query) < 2 := by
  obtain ⟨v, digits, rfl, letter, nonempty, allDigits⟩ := version_start isVersion
  have noSlash : isSlash special v = false := by
    obtain rfl | rfl := letter <;> cases special <;> decide
  have few : leadingSlashes special (target.written ++ queryText target.query) < 2 := by
    rw [RequestTarget.written, leadingSlashes]
    rw [split]
    split
    · cases slash : isSlash special '/' <;> simp [slash, noSlash]
    · simp [noSlash]
  refine ⟨?_, few⟩
  rw [RequestTarget.written]
  rw [split]
  split
  · rfl
  · have keeps : ∀ c ∈ digits, isSchemeChar c = true := by
      intro c member
      simp [isSchemeChar, Char.isAlphanum, allDigits c member]
    have question : isSchemeChar '?' = false := by decide
    have slash : isSchemeChar '/' = false := by decide
    have after : ((digits ++ tail ++ queryText target.query).dropWhile isSchemeChar).head? ≠ some ':' := by
      rw [List.append_assoc, List.dropWhile_append_of_pos keeps]
      obtain rfl | rfl := ended
      · cases target.query with
        | none => simp [queryText]
        | some query => simp [queryText, question]
      · simp [slash]
    simp only [List.cons_append, splitScheme]
    split
    · split
      next remaining found => exact absurd (congrArg List.head? found) after
      next => rfl
    · rfl

/-- A reference that is a URL of its own, or names an authority, has no more than the path in it. -/
theorem Referred.within {target : RequestTarget} {reference : List Char} (refers : Referred target reference)
    {special : Bool} (other : ¬ (splitScheme reference = none ∧ leadingSlashes special reference < 2))
    {p : Char → Bool} (given : Given p) :
    (pathText reference).countP p ≤ (withoutVersion target.path).countP p := by
  have pathOnly := target.pathOnly
  cases refers with
  | relative _ _ =>
    rw [pathText_append (withoutVersion_pathOnly pathOnly)]
  | rooted _ same =>
    have added := given.1 '/' (by decide)
    rw [same, pathText_append (by simpa using pathOnly), List.countP_cons_of_neg (by simp [added])]
  | doubled _ same _ split _ =>
    rw [split] at pathOnly
    rw [pathText_append (fun member => pathOnly (by simp [member])), same, split]
    simp only [List.countP_append, List.countP_cons]
    omega
  | version isVersion ended split => exact absurd (bare_plain isVersion ended split special) other

section Joined
variable {library : Library} (resolution : Resolution library) {base : Url}

/-- The drive that a rooted path keeps does not reach the version. -/
theorem kept_letters (made : resolution.made (slashed base))
    (versioned : basePathEndsWithVVersionSegment base = true) :
    (resolution.kept (slashed base)).countP isVersionLetter < (slashEnded base.path).countP isVersionLetter := by
  obtain ⟨before, version, slashes, split, isVersion, onlySlashes⟩ := versioned_split versioned
  have counted := version_letters isVersion
  have start : resolution.kept (slashed base) <+: slashEnded base.path := resolution.kept_prefix _ made
  rw [split, List.append_assoc] at start
  have noDrive : ':' ∉ version ++ slashes := by
    intro member
    rcases List.mem_append.mp member with member | member
    · exact absurd (revision_char isVersion _ member) (by decide)
    · exact absurd (onlySlashes _ member) (by decide)
  have inside : resolution.kept (slashed base) <+: before := by
    obtain inside | ⟨more, beyond⟩ := List.prefix_or_prefix_of_prefix start (List.prefix_append before _)
    · exact inside
    · rw [← beyond, List.prefix_append_right_inj] at start
      by_cases nothing : more = []
      · rw [← beyond, nothing, List.append_nil]
      · have drive := resolution.kept_drive _ made (by simp [← beyond, nothing])
        rw [← beyond, List.getLast?_append_of_ne_nil _ nothing] at drive
        exact absurd (start.subset (List.mem_of_getLast? drive)) noDrive
  have fewer := inside.countP_le (p := isVersionLetter)
  rw [split, List.countP_append, List.countP_append]
  omega

theorem base_letters (versioned : basePathEndsWithVVersionSegment base = true) :
    0 < (slashEnded base.path).countP isVersionLetter := by
  obtain ⟨before, version, slashes, split, isVersion, _⟩ := versioned_split versioned
  have counted := version_letters isVersion
  rw [split, List.countP_append, List.countP_append]
  omega

theorem joinProviderUpstreamUrl_normalized (standard : library.Standard) (made : resolution.made base)
    (versioned : basePathEndsWithVVersionSegment base = true) (text : List Char) :
    ∃ normal : Url, normal.scheme = base.scheme ∧ normal.cannotBeABase = base.cannotBeABase ∧
      (base.cannotBeABase = false → normal = slashed base ∧ resolution.made (slashed base)) ∧
      joinProviderUpstreamUrl library base text =
        library.join normal (adjustUpstreamPathForVersionedBase base text) := by
  by_cases ended : base.path.getLast? = some '/'
  · have same : slashed base = base := by simp [slashed, slashEnded, ended]
    refine ⟨base, rfl, rfl, fun _ => ⟨same.symm, same.symm ▸ made⟩, ?_⟩
    simp [joinProviderUpstreamUrl, ended]
  · have added : slashed base = { base with path := base.path ++ ['/'] } := by simp [slashed, slashEnded, ended]
    refine ⟨library.setPath base (base.path ++ ['/']), ?_, standard.setPath_cannotBeABase _ _, fun can => ?_, ?_⟩
    · exact congrArg Origin.scheme (standard.setPath_origin base _)
    · rw [added]
      exact resolution.setPath_slash base made can ended
    · simp [joinProviderUpstreamUrl, versioned, ended]

theorem parse_short (resolution : Resolution library) (versioned : basePathEndsWithVVersionSegment base = true)
    {text scheme rest path : List Char} {url : Url} (named : splitScheme text = some (scheme, rest)) (parsed : library.parse text = some url)
    (within : (pathText rest).countP isVersionLetter ≤ path.countP isVersionLetter) :
    url.path ≠ slashEnded base.path ++ path := by
  intro same
  have given := resolution.parse_given _ isVersionLetter_given _ _ _ _ named parsed
  have letters := base_letters versioned
  rw [same, List.countP_append] at given
  omega

/-- A base path is kept by no reference that is a URL of its own or names an authority. -/
theorem keeps_plain (standard : library.Standard) (made : resolution.made base)
    (versioned : basePathEndsWithVVersionSegment base = true) {target : RequestTarget} (keeps : KeepsBasePath library base target) :
    base.cannotBeABase = false ∧
      splitScheme (adjustUpstreamPathForVersionedBase base target.text) = none ∧
      leadingSlashes (isSpecial base.scheme) (adjustUpstreamPathForVersionedBase base target.text) < 2 := by
  obtain ⟨url, joined, _, kept, _⟩ := keeps
  have refers := referred versioned target
  have clean : Clean (adjustUpstreamPathForVersionedBase base target.text) :=
    sent_clean ((sent_iff base target.text _).mpr rfl) target.text_clean
  obtain ⟨normal, scheme, cannot, normalized, joins⟩ :=
    joinProviderUpstreamUrl_normalized resolution standard made versioned target.text
  rw [joins] at joined
  generalize adjustUpstreamPathForVersionedBase base target.text = reference at refers clean joined ⊢
  have stuck : splitScheme reference = none → base.cannotBeABase = false := by
    intro unnamed
    cases can : base.cannotBeABase with
    | false => rfl
    | true =>
      rw [standard.join_withoutBase normal reference clean unnamed (cannot.trans can)] at joined
      cases joined
  by_cases plain : splitScheme reference = none ∧ leadingSlashes (isSpecial base.scheme) reference < 2
  · exact ⟨stuck plain.1, plain⟩
  · have within := refers.within plain isVersionLetter_given
    exfalso
    cases named : splitScheme reference with
    | none =>
      have can := stuck named
      have many : 2 ≤ leadingSlashes (isSpecial normal.scheme) reference := by
        rw [scheme]
        exact Nat.le_of_not_lt fun few => plain ⟨named, few⟩
      rw [standard.join_authority normal reference clean named (cannot.trans can) many, scheme] at joined
      exact parse_short resolution versioned (resolution.made_scheme base made reference) joined within kept
    | some parts =>
      obtain ⟨own, rest⟩ := parts
      obtain ⟨before, split⟩ := splitScheme_path named
      by_cases under : RelativeUnderScheme normal own rest
      · have can : base.cannotBeABase = false := by
          have special : isSpecial normal.scheme = true := under.1 ▸ under.2.1
          exact cannot ▸ normal.specialIsBase special
        obtain ⟨rfl, made⟩ := normalized can
        have given := resolution.underScheme_given _ isSchemeMark_given _ _ _ _ _ made clean named under joined
        have marks := refers.within plain isSchemeMark_given
        have counted : [':'].countP isSchemeMark = 1 := rfl
        have colon : (pathText reference).countP isSchemeMark =
            before.countP isSchemeMark + (1 + (pathText rest).countP isSchemeMark) := by
          rw [split, List.countP_append, ← List.singleton_append, List.countP_append, counted]
        rw [kept, List.countP_append] at given
        simp only [slashed] at given
        omega
      · rw [standard.join_absolute normal reference own rest clean named under] at joined
        have fewer : (pathText rest).countP isVersionLetter ≤ (pathText reference).countP isVersionLetter := by
          rw [split, List.countP_append, List.countP_cons]
          omega
        exact parse_short resolution versioned named joined (Nat.le_trans fewer within) kept

/-- Which references leave the base path whole when they are neither URLs nor name an authority. -/
theorem kept_relative_iff (made : resolution.made (slashed base)) (can : base.cannotBeABase = false)
    (versioned : basePathEndsWithVVersionSegment base = true) {target : RequestTarget}
    (unrooted : target.slash = true → withoutVersion target.path ≠ target.path)
    (nonempty : withoutVersion target.path ≠ [])
    (unnamed : splitScheme (withoutVersion target.path ++ queryText target.query) = none) :
    (resolution.resolve (slashed base) (withoutVersion target.path) =
        slashEnded base.path ++ withoutVersion target.path ∧
      target.query.map (resolution.encodeQuery (slashed base)) = target.query) ↔ Kept resolution base target := by
  constructor
  · intro ⟨resolved, encoded⟩
    refine ⟨can, encoded, .inr (.inl ⟨nonempty, unrooted, unnamed, fun first leads => ?_, resolved⟩)⟩
    obtain ⟨path, split⟩ := List.head?_eq_some_iff.mp leads
    cases slash : isSlash (isSpecial (slashed base).scheme) first with
    | false => rfl
    | true =>
      have given := resolution.resolve_rooted _ isVersionLetter_given _ first path made slash
      have letters := kept_letters resolution made versioned
      rw [← split, resolved, List.countP_append] at given
      omega
  · intro ⟨_, encoded, kept⟩
    obtain ⟨empty, _⟩ | ⟨_, _, taken⟩ | ⟨_, version, isVersion, split, _⟩ := kept
    · rw [empty] at nonempty
      exact absurd rfl nonempty
    · exact ⟨taken.verbatim, encoded⟩
    · rw [split, withoutVersion_cut isVersion] at nonempty
      exact absurd rfl nonempty

/-- A rooted path without a version takes the place of the base path. -/
theorem not_kept_rooted {target : RequestTarget} (slash : target.slash = true)
    (same : withoutVersion target.path = target.path) : ¬ Kept resolution base target := by
  intro ⟨_, _, kept⟩
  obtain ⟨_, relative⟩ | ⟨_, changed, _⟩ | ⟨_, version, isVersion, split, _⟩ := kept
  · rw [slash] at relative
    cases relative
  · exact changed slash same
  · rw [split, withoutVersion_cut isVersion] at same
    exact absurd same (by simp)

theorem Kept.plain {target : RequestTarget} (kept : Kept resolution base target) {reference : List Char}
    (refers : Referred target reference) :
    splitScheme reference = none ∧ leadingSlashes (isSpecial base.scheme) reference < 2 := by
  cases refers with
  | relative _ empties =>
    obtain ⟨_, _, ⟨empty, _⟩ | ⟨nonempty, _, taken⟩ | ⟨_, version, isVersion, split, _⟩⟩ := kept
    · rw [empty]
      cases target.query with
      | none => exact ⟨rfl, Nat.zero_lt_two⟩
      | some query =>
        refine ⟨rfl, ?_⟩
        cases special : isSpecial base.scheme <;> simp [leadingSlashes, queryText, isSlash, withoutVersion, splitOnce, segmentIsVDigitVersion]
    · refine ⟨taken.unnamed, ?_⟩
      obtain ⟨first, path, split⟩ := List.exists_cons_of_ne_nil nonempty
      have plain : isSlash (isSpecial base.scheme) first = false := taken.relative first (by rw [split]; rfl)
      rw [split]
      simp [leadingSlashes, plain]
    · rw [split, withoutVersion_cut isVersion] at empties
      exact absurd (empties rfl) (by simp)
  | rooted slash same => exact absurd kept (not_kept_rooted resolution slash same)
  | doubled slash same _ _ _ => exact absurd kept (not_kept_rooted resolution slash same)
  | version isVersion ended split => exact bare_plain isVersion ended split _

theorem join_query_iff (made : resolution.made (slashed base)) (can : base.cannotBeABase = false)
    {target : RequestTarget} (unrooted : target.slash = true → withoutVersion target.path ≠ target.path)
    (empty : target.path = []) (clean : Clean (queryText target.query)) :
    (∃ url, library.join (slashed base) (withoutVersion target.path ++ queryText target.query) = some url ∧
        url.origin = base.origin ∧ url.path = slashEnded base.path ++ withoutVersion target.path ∧
        url.query = target.query) ↔
      Kept resolution base target := by
  have without : withoutVersion target.path = [] := by rw [empty]; rfl
  have relative : target.slash = false := by
    cases slash : target.slash with
    | false => rfl
    | true => exact absurd (without.trans empty.symm) (unrooted slash)
  have nonempty := target.nonempty relative
  rw [without, List.nil_append, List.append_nil]
  cases query : target.query with
  | none =>
    rw [empty, query] at nonempty
    exact absurd rfl nonempty
  | some text =>
    rw [query] at clean
    rw [queryText, resolution.join_query (slashed base) text made can clean]
    constructor
    · intro found
      obtain ⟨url, found, _, _, same⟩ := found
      cases found
      exact ⟨can, by rw [query]; exact same, .inl ⟨empty, relative⟩⟩
    · intro kept
      obtain ⟨_, encoded, _⟩ := kept
      rw [query] at encoded
      exact ⟨_, rfl, rfl, rfl, encoded⟩

/-- A version alone is appended to the base path, or takes its place. -/
theorem kept_bare_iff (made : resolution.made (slashed base)) (can : base.cannotBeABase = false)
    {target : RequestTarget} {version tail : List Char} (isVersion : segmentIsVDigitVersion version = true)
    (ended : tail = [] ∨ tail = ['/']) (split : target.path = version ++ tail) :
    (resolution.resolve (slashed base) target.written = slashEnded base.path ++ withoutVersion target.path ∧
        target.query.map (resolution.encodeQuery (slashed base)) = target.query) ↔
      Kept resolution base target := by
  have present := (revision_plain isVersion).2.2
  have words := version_words isVersion
  have without : withoutVersion target.path = [] := split ▸ withoutVersion_bare isVersion ended
  have last := slashEnded_last base.path
  rw [without, List.append_nil]
  cases slash : target.slash with
  | false =>
    have resolved : resolution.resolve (slashed base) target.written = slashEnded base.path ++ version ++ tail := by
      simp only [RequestTarget.written, slash, Bool.false_eq_true, if_false, split]
      exact resolution.resolve_segment _ version tail made last present words ended
    refine iff_of_false (fun ⟨same, _⟩ => ?_) (fun ⟨_, _, kept⟩ => ?_)
    · rw [resolved, List.append_assoc] at same
      simp [present] at same
    · obtain ⟨empty, _⟩ | ⟨nonempty, _, _⟩ | ⟨rooted, _⟩ := kept
      · simp [split, present] at empty
      · exact nonempty without
      · rw [slash] at rooted
        cases rooted
  | true =>
    have resolved : resolution.resolve (slashed base) target.written =
        resolution.kept (slashed base) ++ '/' :: target.path := by
      simp only [RequestTarget.written, slash, if_true, split]
      simpa using resolution.resolve_root (slashed base) version tail made present words ended
    rw [resolved]
    constructor
    · intro ⟨same, encoded⟩
      refine ⟨can, encoded, .inr (.inr ⟨slash, version, isVersion, ?_, same⟩)⟩
      obtain rfl | rfl := ended
      · rw [List.append_nil] at split
        rw [← same, split, List.getLast?_append_of_ne_nil _ (List.cons_ne_nil _ _),
          List.getLast?_cons_of_ne_nil present] at last
        exact absurd (List.mem_of_getLast? last) (revision_plain isVersion).1
      · exact split
    · intro ⟨_, encoded, kept⟩
      obtain ⟨_, relative⟩ | ⟨nonempty, _, _⟩ | ⟨_, _, _, _, same⟩ := kept
      · rw [slash] at relative
        cases relative
      · exact absurd without nonempty
      · exact ⟨same, encoded⟩

theorem join_plain_iff (made : resolution.made (slashed base)) (can : base.cannotBeABase = false)
    (versioned : basePathEndsWithVVersionSegment base = true) {target : RequestTarget} {reference : List Char}
    (refers : Referred target reference) (clean : Clean reference) (unnamed : splitScheme reference = none)
    (few : leadingSlashes (isSpecial base.scheme) reference < 2) :
    (∃ url, library.join (slashed base) reference = some url ∧ url.origin = base.origin ∧
        url.path = slashEnded base.path ++ withoutVersion target.path ∧ url.query = target.query) ↔
      Kept resolution base target := by
  have pathOnly := target.pathOnly
  -- A reference with a path in it keeps the base's where it resolves to it.
  have joined : ∀ path, path ≠ [] → '?' ∉ path → reference = path ++ queryText target.query →
      ((∃ url, library.join (slashed base) reference = some url ∧ url.origin = base.origin ∧
          url.path = slashEnded base.path ++ withoutVersion target.path ∧ url.query = target.query) ↔
        resolution.resolve (slashed base) path = slashEnded base.path ++ withoutVersion target.path ∧
          target.query.map (resolution.encodeQuery (slashed base)) = target.query) := by
    intro path nonempty pathOnly split
    have resolved := resolution.join_path (slashed base) path target.query made can nonempty pathOnly
      (split ▸ clean) (split ▸ unnamed) (split ▸ few)
    rw [split, resolved]
    constructor
    · intro ⟨url, found, _, path, query⟩
      cases found
      exact ⟨path, query⟩
    · intro ⟨path, query⟩
      exact ⟨_, rfl, rfl, path, query⟩
  cases refers with
  | relative unrooted empties =>
    by_cases empty : withoutVersion target.path = []
    · exact join_query_iff resolution made can unrooted (empties empty) (by simpa [empty] using clean)
    · rw [joined _ empty (withoutVersion_pathOnly pathOnly) rfl]
      exact kept_relative_iff resolution made can versioned unrooted empty unnamed
  | rooted slash same =>
    rw [joined _ (List.cons_ne_nil _ _) (by simpa using pathOnly) rfl]
    refine iff_of_false (fun ⟨resolved, _⟩ => ?_) (not_kept_rooted resolution slash same)
    have given := resolution.resolve_rooted _ isVersionLetter_given _ '/' target.path made (by simp [isSlash])
    have letters := kept_letters resolution made versioned
    rw [resolved, same, List.countP_append, List.countP_cons_of_neg (by decide)] at given
    omega
  | @doubled slashes version rest slash same isVersion split nonempty =>
    have inside : '?' ∉ rest := fun member => pathOnly (by simp [split, member])
    rw [joined _ nonempty inside rfl]
    refine iff_of_false (fun ⟨resolved, _⟩ => ?_) (not_kept_rooted resolution slash same)
    have given := resolution.resolve_given _ isVersionLetter_given _ rest made
    have letters := version_letters isVersion
    rw [resolved, same, split, slashed] at given
    simp only [List.countP_append, List.countP_cons] at given
    omega
  | @version version tail isVersion ended split =>
    have nonempty : target.written ≠ [] := by
      obtain ⟨slashes, _, written⟩ := written_append target split
      simp [written, (revision_plain isVersion).2.2]
    rw [joined _ nonempty target.written_pathOnly rfl]
    exact kept_bare_iff resolution made can isVersion ended split

/-- For every base and request, whatever the URL library does to a path. -/
theorem joinProviderUpstreamUrl_keeps_iff (standard : library.Standard) (made : resolution.made base)
    (versioned : basePathEndsWithVVersionSegment base = true) (target : RequestTarget) :
    KeepsBasePath library base target ↔ Kept resolution base target := by
  have refers := referred versioned target
  have clean : Clean (adjustUpstreamPathForVersionedBase base target.text) :=
    sent_clean ((sent_iff base target.text _).mpr rfl) target.text_clean
  obtain ⟨normal, _, _, normalized, joins⟩ :=
    joinProviderUpstreamUrl_normalized resolution standard made versioned target.text
  have plain : base.cannotBeABase = false →
      splitScheme (adjustUpstreamPathForVersionedBase base target.text) = none →
      leadingSlashes (isSpecial base.scheme) (adjustUpstreamPathForVersionedBase base target.text) < 2 →
      (KeepsBasePath library base target ↔ Kept resolution base target) := by
    intro can unnamed few
    obtain ⟨rfl, made⟩ := normalized can
    rw [KeepsBasePath]
    rw [joins]
    exact join_plain_iff resolution made can versioned refers clean unnamed few
  constructor
  · intro keeps
    obtain ⟨can, unnamed, few⟩ := keeps_plain resolution standard made versioned keeps
    exact (plain can unnamed few).mp keeps
  · intro kept
    obtain ⟨unnamed, few⟩ := kept.plain resolution refers
    exact (plain kept.1 unnamed few).mpr kept

end Joined

def chatTarget : RequestTarget where
  slash := false
  path := "v1/chat/completions".toList
  query := some "user=a".toList
  leading := by decide
  pathOnly := by decide
  clean := clean_of_all (by rfl)
  nonempty := by simp

theorem versionedBase_made : Verbatim.resolution.made versionedBase := fun _ => rfl

theorem chatTarget_kept : Kept Verbatim.resolution versionedBase chatTarget := by
  have rest : withoutVersion chatTarget.path = "chat/completions".toList := by rfl
  have relative : ∀ first ∈ "chat/completions".toList.head?,
      isSlash (isSpecial (slashed versionedBase).scheme) first = false := by
    intro first leads
    obtain rfl : 'c' = first := by simpa using leads
    rfl
  refine ⟨rfl, rfl, .inr (.inl ?_)⟩
  rw [rest]
  exact ⟨by decide, nofun, by rfl, relative, by rfl⟩

theorem chatTarget_keeps : KeepsBasePath Verbatim.library versionedBase chatTarget :=
  (joinProviderUpstreamUrl_keeps_iff Verbatim.resolution Verbatim.standard versionedBase_made (by rfl)
    chatTarget).mpr chatTarget_kept

theorem completions_pathOnly : '?' ∉ "chat/completions".toList := by decide

def rootedTarget : RequestTarget where
  slash := true
  path := "chat/completions".toList
  query := none
  leading := by decide
  pathOnly := completions_pathOnly
  clean := clean_of_all (by rfl)
  nonempty := by simp

/-- The path of the base is lost to a path that starts with a slash. -/
theorem rootedTarget_loses_base :
    ¬ ∀ base : Url, Verbatim.resolution.made base → basePathEndsWithVVersionSegment base = true →
      ∀ target : RequestTarget, KeepsBasePath Verbatim.library base target := by
  intro keeps
  obtain ⟨url, joined, _, path, _⟩ := keeps versionedBase versionedBase_made (by rfl) rootedTarget
  have elsewhere : (joinProviderUpstreamUrl Verbatim.library versionedBase rootedTarget.text).map Url.path =
      some "/chat/completions".toList := by
    rfl
  rw [joined, Option.map_some, path] at elsewhere
  exact absurd elsewhere (by decide +kernel)

end AiGateway.Proofs
