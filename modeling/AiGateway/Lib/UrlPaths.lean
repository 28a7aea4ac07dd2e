import AiGateway.Lib.Urls
import Mathlib.Data.List.TakeWhile

/-! The paths that references resolve to. A library may write a path otherwise than it is
given, but of what it writes only a few characters are its own. -/

namespace AiGateway.Lib.Urls

def queryText : Option (List Char) → List Char
  | none => []
  | some query => '?' :: query

theorem clean_of_all {reference : List Char} (all : (reference.all fun c => ' ' < c && c != '#') = true) :
    Clean reference := by
  simpa [Clean] using all

def pathText (reference : List Char) : List Char := reference.takeWhile (· != '?')

theorem pathText_append {path : List Char} (cut : '?' ∉ path) (query : Option (List Char)) :
    pathText (path ++ queryText query) = path := by
  have keeps : ∀ c ∈ path, (c != '?') = true := by
    intro c member
    simpa using fun same : c = '?' => cut (same ▸ member)
  rw [pathText, List.takeWhile_append_of_pos keeps]
  cases query with
  | none => simp [queryText]
  | some query => simp [queryText]

/-- What stands before the colon of a scheme has no query in it. -/
theorem splitScheme_path {text scheme rest : List Char} (named : splitScheme text = some (scheme, rest)) :
    ∃ before, pathText text = before ++ ':' :: pathText rest := by
  cases text with
  | nil => cases named
  | cons first text =>
    simp only [splitScheme] at named
    split at named
    next letter =>
      split at named
      next remaining found =>
        cases named
        have whole : text = text.takeWhile isSchemeChar ++ ':' :: rest := by
          rw [← found, List.takeWhile_append_dropWhile]
        have keeps : ∀ c ∈ first :: text.takeWhile isSchemeChar, (c != '?') = true := by
          intro c member
          rw [bne_iff_ne]
          rintro rfl
          rcases List.mem_cons.mp member with rfl | member
          · exact absurd letter (by decide)
          · exact absurd (List.mem_takeWhile_imp member) (by decide)
        refine ⟨first :: text.takeWhile isSchemeChar, ?_⟩
        rw [pathText, whole, ← List.cons_append, List.takeWhile_append_of_pos keeps, ← whole]
        simp [pathText]
      next => cases named
    next => cases named

/-- Percent signs, hexadecimal digits and slashes are what a parser adds to a path. -/
def isAdded (c : Char) : Bool := c == '%' || c.isDigit || ('A' ≤ c && c ≤ 'F') || c == '/'

/-- Characters that a path has only as far as they were given, where the bar of a drive counts
as the colon that is written for it. -/
def Given (p : Char → Bool) : Prop := (∀ c, isAdded c = true → p c = false) ∧ p ':' = p '|'

/-- How a library resolves references that are no URLs of their own, for the URLs it has made. An
absolute path keeps nothing of the base's but a drive, under the scheme of files. -/
structure Resolution (library : Library) where
  made : Url → Prop
  resolve : Url → List Char → List Char
  encodeQuery : Url → List Char → List Char
  kept : Url → List Char
  made_scheme : ∀ url, made url → ∀ rest, splitScheme (url.scheme ++ ':' :: rest) = some (url.scheme, rest)
  setPath_slash : ∀ url, made url → url.cannotBeABase = false → url.path.getLast? ≠ some '/' →
    library.setPath url (url.path ++ ['/']) = { url with path := url.path ++ ['/'] } ∧
      made { url with path := url.path ++ ['/'] }
  join_path : ∀ base path query, made base → base.cannotBeABase = false → path ≠ [] → '?' ∉ path →
    Clean (path ++ queryText query) → splitScheme (path ++ queryText query) = none →
    leadingSlashes (isSpecial base.scheme) (path ++ queryText query) < 2 →
    library.join base (path ++ queryText query) =
      some { base with path := resolve base path, query := query.map (encodeQuery base) }
  join_query : ∀ base query, made base → base.cannotBeABase = false → Clean ('?' :: query) →
    library.join base ('?' :: query) = some { base with query := some (encodeQuery base query) }
  parse_given : ∀ p, Given p → ∀ text scheme rest url, splitScheme text = some (scheme, rest) →
    library.parse text = some url → url.path.countP p ≤ (pathText rest).countP p
  underScheme_given : ∀ p, Given p → ∀ base reference scheme rest url, made base → Clean reference →
    splitScheme reference = some (scheme, rest) → RelativeUnderScheme base scheme rest →
    library.join base reference = some url → url.path.countP p ≤ base.path.countP p + (pathText rest).countP p
  resolve_given : ∀ p, Given p → ∀ base path, made base →
    (resolve base path).countP p ≤ base.path.countP p + path.countP p
  resolve_rooted : ∀ p, Given p → ∀ base first path, made base → isSlash (isSpecial base.scheme) first = true →
    (resolve base (first :: path)).countP p ≤ (kept base).countP p + (first :: path).countP p
  resolve_segment : ∀ base segment tail, made base → base.path.getLast? = some '/' → segment ≠ [] →
    segment.all Char.isAlphanum = true → tail = [] ∨ tail = ['/'] →
    resolve base (segment ++ tail) = base.path ++ segment ++ tail
  resolve_root : ∀ base segment tail, made base → segment ≠ [] → segment.all Char.isAlphanum = true →
    tail = [] ∨ tail = ['/'] → resolve base ('/' :: segment ++ tail) = kept base ++ '/' :: segment ++ tail
  kept_prefix : ∀ base, made base → kept base <+: base.path
  kept_drive : ∀ base, made base → kept base ≠ [] → (kept base).getLast? = some ':'

namespace Verbatim

theorem pathAndQuery_path (text : List Char) : (pathAndQuery text).1 = pathText text := by
  unfold pathAndQuery
  split
  next path query cut => exact (congrArg Prod.fst cut).symm
  next path rest _ cut => exact (congrArg Prod.fst cut).symm

theorem pathAndQuery_append {path : List Char} (cut : '?' ∉ path) (query : Option (List Char)) :
    pathAndQuery (path ++ queryText query) = (path, query) := by
  have keeps : ∀ c ∈ path, (!(c == '?')) = true := by
    intro c member
    simpa using fun same : c = '?' => cut (same ▸ member)
  cases query with
  | none =>
    have nothing : path.dropWhile (fun c => !(c == '?')) = [] := List.dropWhile_eq_nil_iff.mpr keeps
    simp [pathAndQuery, splitAtFirst, queryText, nothing, List.takeWhile_eq_self_iff.mpr keeps]
  | some query =>
    simp [pathAndQuery, splitAtFirst, queryText, List.takeWhile_append_of_pos keeps,
      List.dropWhile_append_of_pos keeps]

/-- Dropping from the front what is no query leaves no more of the path. -/
theorem pathText_dropWhile {p : Char → Bool} (outside : p '?' = false) (text : List Char) :
    (pathText (text.dropWhile p)).Sublist (pathText text) := by
  induction text with
  | nil => exact List.Sublist.refl _
  | cons c rest ih =>
    rw [List.dropWhile_cons]
    split
    next dropped =>
      have other : (c != '?') = true := by
        simp only [bne_iff_ne]
        rintro rfl
        rw [outside] at dropped
        cases dropped
      have more : pathText (c :: rest) = c :: pathText rest := by simp [pathText, other]
      rw [more]
      exact ih.cons c
    next => exact List.Sublist.refl _

theorem afterSlashes_given {p : Char → Bool} (given : Given p) {scheme text : List Char} {url : Url}
    (parsed : afterSlashes scheme text = some url) : url.path.countP p ≤ (pathText text).countP p := by
  simp only [afterSlashes] at parsed
  split at parsed
  next => cases parsed
  next =>
    cases parsed
    simp only [pathAndQuery_path]
    split
    · have added := given.1 '/' (by decide)
      simp [added]
    · exact (pathText_dropWhile (by simp) text).countP_le

theorem parse_given {p : Char → Bool} (given : Given p) {text scheme rest : List Char} {url : Url}
    (named : splitScheme text = some (scheme, rest)) (parsed : parse text = some url) :
    url.path.countP p ≤ (pathText rest).countP p := by
  simp only [parse, named] at parsed
  split at parsed
  next =>
    have fewer := pathText_dropWhile (p := isSlash true) (by decide) rest
    exact Nat.le_trans (afterSlashes_given given parsed) fewer.countP_le
  next =>
    split at parsed
    next authority =>
      have fewer : (pathText authority).Sublist (pathText ('/' :: '/' :: authority)) := by simp [pathText]
      exact Nat.le_trans (afterSlashes_given given parsed) fewer.countP_le
    next =>
      cases parsed
      rw [pathAndQuery_path]

def directory (base : Url) : List Char := (base.path.reverse.dropWhile (· != '/')).reverse

def resolve (base : Url) (path : List Char) : List Char :=
  match path with
  | [] => base.path
  | first :: _ => if isSlash (isSpecial base.scheme) first then path else directory base ++ path

theorem relative_append {path : List Char} (cut : '?' ∉ path) (base : Url) (query : Option (List Char)) :
    relative base (path ++ queryText query) = { base with path := resolve base path, query := query } := by
  simp only [relative, pathAndQuery_append cut]
  rfl

theorem relative_path (base : Url) (reference : List Char) :
    (relative base reference).path = resolve base (pathText reference) := by
  rw [← pathAndQuery_path]
  rfl

theorem directory_given (p : Char → Bool) (base : Url) : (directory base).countP p ≤ base.path.countP p := by
  rw [directory, List.countP_reverse, ← List.countP_reverse (l := base.path)]
  exact (List.dropWhile_sublist _).countP_le

theorem directory_slash {base : Url} (ended : base.path.getLast? = some '/') : directory base = base.path := by
  obtain ⟨before, split⟩ := List.getLast?_eq_some_iff.mp ended
  simp [directory, split]

theorem resolve_given (p : Char → Bool) (base : Url) (path : List Char) :
    (resolve base path).countP p ≤ base.path.countP p + path.countP p := by
  have bounded := directory_given p base
  unfold resolve
  split
  · simp
  · split
    · omega
    · rw [List.countP_append]
      omega

theorem resolve_relative {base : Url} {first : Char} (plain : isSlash (isSpecial base.scheme) first = false)
    (path : List Char) : resolve base (first :: path) = directory base ++ first :: path := by
  simp [resolve, plain]

theorem resolve_rooted {base : Url} {first : Char} (slash : isSlash (isSpecial base.scheme) first = true)
    (path : List Char) : resolve base (first :: path) = first :: path := by
  simp [resolve, slash]

theorem isSlash_alphanum {special : Bool} {c : Char} (word : c.isAlphanum = true) : isSlash special c = false := by
  cases slash : isSlash special c with
  | false => rfl
  | true =>
    simp only [isSlash, Bool.or_eq_true, Bool.and_eq_true, beq_iff_eq] at slash
    obtain rfl | ⟨_, rfl⟩ := slash
    · exact absurd word (by decide)
    · exact absurd word (by decide)

theorem join_relative {base : Url} {reference : List Char} (unnamed : splitScheme reference = none)
    (can : base.cannotBeABase = false) (few : leadingSlashes (isSpecial base.scheme) reference < 2) :
    join base reference = some (relative base reference) := by
  have few : ¬ 2 ≤ leadingSlashes (isSpecial base.scheme) reference := by omega
  simp [join, unnamed, can, few]

theorem join_query {base : Url} (can : base.cannotBeABase = false) (query : List Char) :
    join base ('?' :: query) = some { base with query := some query } := by
  have few : leadingSlashes (isSpecial base.scheme) ('?' :: query) < 2 := by
    cases isSpecial base.scheme <;> simp [leadingSlashes, isSlash]
  rw [join_relative rfl can few]
  have relative : relative base ([] ++ queryText (some query)) = { base with path := base.path, query := some query } :=
    relative_append (by simp) base (some query)
  exact congrArg some relative

theorem join_path {base : Url} {path : List Char} {query : Option (List Char)} (can : base.cannotBeABase = false)
    (cut : '?' ∉ path) (unnamed : splitScheme (path ++ queryText query) = none)
    (few : leadingSlashes (isSpecial base.scheme) (path ++ queryText query) < 2) :
    join base (path ++ queryText query) =
      some { base with path := resolve base path, query := query.map fun query => query } := by
  rw [join_relative unnamed can few, relative_append cut, Option.map_id']

theorem underScheme_given (p : Char → Bool) {base url : Url} {reference scheme rest : List Char}
    (named : splitScheme reference = some (scheme, rest)) (under : RelativeUnderScheme base scheme rest)
    (joined : join base reference = some url) :
    url.path.countP p ≤ base.path.countP p + (pathText rest).countP p := by
  have joined : some (relative base rest) = some url := by
    simp only [join, named] at joined
    rw [← joined]
    exact (if_pos under).symm
  cases joined
  rw [relative_path]
  exact resolve_given p base _

theorem resolve_rooted_given (p : Char → Bool) {base : Url} {first : Char} (path : List Char)
    (slash : isSlash (isSpecial base.scheme) first = true) :
    (resolve base (first :: path)).countP p ≤ List.countP p [] + (first :: path).countP p := by
  rw [resolve_rooted slash, List.countP_nil, Nat.zero_add]

theorem resolve_segment {base : Url} {segment : List Char} (tail : List Char) (ended : base.path.getLast? = some '/')
    (nonempty : segment ≠ []) (words : segment.all Char.isAlphanum = true) :
    resolve base (segment ++ tail) = base.path ++ segment ++ tail := by
  obtain ⟨first, others, rfl⟩ := List.exists_cons_of_ne_nil nonempty
  have plain : isSlash (isSpecial base.scheme) first = false :=
    isSlash_alphanum (List.all_eq_true.mp words first (by simp))
  rw [List.cons_append, resolve_relative plain, directory_slash ended]
  simp

theorem resolve_root (base : Url) (path : List Char) : resolve base ('/' :: path) = '/' :: path :=
  resolve_rooted (by simp [isSlash]) path

def resolution : Resolution library where
  made url := ∀ rest, splitScheme (url.scheme ++ ':' :: rest) = some (url.scheme, rest)
  resolve := resolve
  encodeQuery _ query := query
  kept _ := []
  made_scheme _ made := made
  setPath_slash _ made _ _ := ⟨rfl, made⟩
  join_path _ _ _ _ can _ cut _ unnamed few := join_path can cut unnamed few
  join_query _ query _ can _ := join_query can query
  parse_given _ given _ _ _ _ named parsed := parse_given given named parsed
  underScheme_given p _ _ _ _ _ _ _ _ named under joined := underScheme_given p named under joined
  resolve_given p _ base path _ := resolve_given p base path
  resolve_rooted p _ _ _ path _ slash := resolve_rooted_given p path slash
  resolve_segment _ _ tail _ ended nonempty words _ := resolve_segment tail ended nonempty words
  resolve_root base segment tail _ _ _ _ := resolve_root base (segment ++ tail)
  kept_prefix _ _ := List.nil_prefix
  kept_drive _ _ kept := absurd rfl kept

end Verbatim

end AiGateway.Lib.Urls
