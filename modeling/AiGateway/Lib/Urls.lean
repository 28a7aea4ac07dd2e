import Mathlib.Data.List.Basic

/-! URLs and the references resolved against them. A reference either names its own
scheme, or its own authority after two slashes, or only a path and query. The last kind
is the only one that has to stay where its base is. -/

namespace AiGateway.Lib.Urls

def isSchemeChar (c : Char) : Bool := c.isAlphanum || c == '+' || c == '-' || c == '.'

/-- The scheme a reference starts with, in lower case, and what follows its colon. -/
def splitScheme : List Char → Option (List Char × List Char)
  | [] => none
  | first :: rest =>
    if first.isAlpha then
      match rest.dropWhile isSchemeChar with
      | ':' :: remaining => some ((first :: rest.takeWhile isSchemeChar).map Char.toLower, remaining)
      | _ => none
    else none

def isSpecial (scheme : List Char) : Bool :=
  scheme ∈ ["http".toList, "https".toList, "ws".toList, "wss".toList, "ftp".toList, "file".toList]

/-- Under a special scheme a backslash is a slash. -/
def isSlash (special : Bool) (c : Char) : Bool := c == '/' || (special && c == '\\')

def leadingSlashes (special : Bool) (text : List Char) : Nat := (text.takeWhile (isSlash special)).length

/-- A parsed URL. The path of a URL that cannot be a base is opaque, which a special
scheme excludes. -/
structure Url where
  scheme : List Char
  host : Option (List Char)
  port : Option Nat
  path : List Char
  query : Option (List Char)
  cannotBeABase : Bool
  specialIsBase : isSpecial scheme = true → cannotBeABase = false
  deriving DecidableEq

structure Origin where
  scheme : List Char
  host : Option (List Char)
  port : Option Nat
  deriving DecidableEq

def Url.origin (url : Url) : Origin := ⟨url.scheme, url.host, url.port⟩

/-- No character that a URL parser strips, and no fragment. -/
def Clean (reference : List Char) : Prop := ∀ c ∈ reference, ' ' < c ∧ c ≠ '#'

/-- A URL library: parsing, resolving a reference against a base, and replacing a path. -/
structure Library where
  parse : List Char → Option Url
  join : Url → List Char → Option Url
  setPath : Url → List Char → Url

/-- A scheme of its own is no obstacle when it is the base's special scheme without an
authority after it. -/
def RelativeUnderScheme (base : Url) (scheme rest : List Char) : Prop :=
  scheme = base.scheme ∧ isSpecial scheme = true ∧ leadingSlashes true rest < 2

/-- What the URL Standard says of the origin a reference resolves to. -/
structure Library.Standard (library : Library) : Prop where
  setPath_origin : ∀ url path, (library.setPath url path).origin = url.origin
  setPath_cannotBeABase : ∀ url path, (library.setPath url path).cannotBeABase = url.cannotBeABase
  join_absolute : ∀ base reference scheme rest, Clean reference → splitScheme reference = some (scheme, rest) →
    ¬ RelativeUnderScheme base scheme rest → library.join base reference = library.parse reference
  join_underScheme : ∀ base reference scheme rest, Clean reference → splitScheme reference = some (scheme, rest) →
    RelativeUnderScheme base scheme rest → ∃ url, library.join base reference = some url ∧ url.origin = base.origin
  join_withoutBase : ∀ base reference, Clean reference → splitScheme reference = none → base.cannotBeABase = true →
    library.join base reference = none
  join_authority : ∀ base reference, Clean reference → splitScheme reference = none → base.cannotBeABase = false →
    2 ≤ leadingSlashes (isSpecial base.scheme) reference →
    library.join base reference = library.parse (base.scheme ++ ':' :: reference)
  join_path : ∀ base reference, Clean reference → splitScheme reference = none → base.cannotBeABase = false →
    leadingSlashes (isSpecial base.scheme) reference < 2 →
    ∃ url, library.join base reference = some url ∧ url.origin = base.origin

def Library.Names (library : Library) (text : List Char) (origin : Origin) : Prop :=
  ∃ url, library.parse text = some url ∧ url.origin = origin

def Library.StaysAt (library : Library) (base : Url) (reference : List Char) : Prop :=
  match splitScheme reference with
  | some (scheme, rest) => RelativeUnderScheme base scheme rest ∨ library.Names reference base.origin
  | none =>
    base.cannotBeABase = false ∧
      (leadingSlashes (isSpecial base.scheme) reference < 2 ∨
        library.Names (base.scheme ++ ':' :: reference) base.origin)

theorem Library.staysAt_congr (library : Library) {base other : Url} (origin : other.origin = base.origin)
    (cannot : other.cannotBeABase = base.cannotBeABase) (reference : List Char) :
    library.StaysAt other reference ↔ library.StaysAt base reference := by
  have scheme : other.scheme = base.scheme := congrArg Origin.scheme origin
  simp only [StaysAt, RelativeUnderScheme, origin, cannot, scheme]

theorem Library.Standard.join_origin_iff {library : Library} (standard : library.Standard) (base : Url)
    {reference : List Char} (clean : Clean reference) :
    (∃ url, library.join base reference = some url ∧ url.origin = base.origin) ↔
      library.StaysAt base reference := by
  unfold StaysAt
  split
  next scheme rest named =>
    by_cases relative : RelativeUnderScheme base scheme rest
    · have kept := standard.join_underScheme base reference scheme rest clean named relative
      exact ⟨fun _ => .inl relative, fun _ => kept⟩
    · rw [standard.join_absolute base reference scheme rest clean named relative]
      exact ⟨.inr, fun stays => stays.resolve_left relative⟩
  next unnamed =>
    cases cannot : base.cannotBeABase with
    | true =>
      rw [standard.join_withoutBase base reference clean unnamed cannot]
      simp
    | false =>
      rcases Nat.lt_or_ge (leadingSlashes (isSpecial base.scheme) reference) 2 with few | many
      · have kept := standard.join_path base reference clean unnamed cannot few
        exact ⟨fun _ => ⟨rfl, .inl few⟩, fun _ => kept⟩
      · rw [standard.join_authority base reference clean unnamed cannot many]
        exact ⟨fun named => ⟨rfl, .inr named⟩, fun stays => stays.2.resolve_left (by omega)⟩

/-! A library that takes hosts and path segments as they are written. It is enough to
run references whose hosts need no decoding and whose paths have no dot segments. -/

namespace Verbatim

def splitAtFirst (stop : Char → Bool) (text : List Char) : List Char × List Char :=
  (text.takeWhile fun c => !stop c, text.dropWhile fun c => !stop c)

def pathAndQuery (text : List Char) : List Char × Option (List Char) :=
  match splitAtFirst (· == '?') text with
  | (path, '?' :: query) => (path, some query)
  | (path, _) => (path, none)

def defaultPort (scheme : List Char) : Option Nat :=
  match String.ofList scheme with
  | "http" | "ws" => some 80
  | "https" | "wss" => some 443
  | "ftp" => some 21
  | _ => none

def hostAndPort (scheme authority : List Char) : List Char × Option Nat :=
  let server := (authority.reverse.takeWhile (· != '@')).reverse
  match splitAtFirst (· == ':') server with
  | (host, ':' :: digits) =>
    let port := (String.ofList digits).toNat?
    (host.map Char.toLower, if port = defaultPort scheme then none else port)
  | (host, _) => (host.map Char.toLower, none)

def afterSlashes (scheme text : List Char) : Option Url :=
  let (authority, rest) := splitAtFirst (fun c => isSlash (isSpecial scheme) c || c == '?') text
  let (host, port) := hostAndPort scheme authority
  let (path, query) := pathAndQuery rest
  let path := if isSpecial scheme && path.isEmpty then ['/'] else path
  if isSpecial scheme && host.isEmpty then none
  else some ⟨scheme, some host, port, path, query, false, fun _ => rfl⟩

def parse (text : List Char) : Option Url :=
  match splitScheme text with
  | none => none
  | some (scheme, rest) =>
    if special : isSpecial scheme = true then afterSlashes scheme (rest.dropWhile (isSlash true))
    else
      match rest with
      | '/' :: '/' :: authority => afterSlashes scheme authority
      | _ =>
        let (path, query) := pathAndQuery rest
        some ⟨scheme, none, none, path, query, path.head? != some '/', fun claimed => absurd claimed special⟩

def relative (base : Url) (reference : List Char) : Url :=
  let (path, query) := pathAndQuery reference
  let directory := (base.path.reverse.dropWhile (· != '/')).reverse
  let path :=
    match path with
    | [] => base.path
    | first :: _ => if isSlash (isSpecial base.scheme) first then path else directory ++ path
  { base with path := path, query := query }

def join (base : Url) (reference : List Char) : Option Url :=
  match splitScheme reference with
  | some (scheme, rest) =>
    if scheme = base.scheme ∧ isSpecial scheme = true ∧ leadingSlashes true rest < 2 then some (relative base rest)
    else parse reference
  | none =>
    if base.cannotBeABase then none
    else if 2 ≤ leadingSlashes (isSpecial base.scheme) reference then parse (base.scheme ++ ':' :: reference)
    else some (relative base reference)

def library : Library := ⟨parse, join, fun url path => { url with path := path }⟩

theorem relative_origin (base : Url) (reference : List Char) : (relative base reference).origin = base.origin := rfl

theorem standard : library.Standard where
  setPath_origin _ _ := rfl
  setPath_cannotBeABase _ _ := rfl
  join_absolute base reference scheme rest _ named absolute := by
    simp only [library, join, named]
    exact if_neg absolute
  join_underScheme base reference scheme rest _ named under := by
    refine ⟨relative base rest, ?_, relative_origin base rest⟩
    simp only [library, join, named]
    exact if_pos under
  join_withoutBase base reference _ unnamed cannot := by simp [library, join, unnamed, cannot]
  join_authority base reference _ unnamed can many := by simp [library, join, unnamed, can, many]
  join_path base reference _ unnamed can few := by
    have few : ¬ 2 ≤ leadingSlashes (isSpecial base.scheme) reference := by omega
    exact ⟨relative base reference, by simp [library, join, unnamed, can, few], relative_origin base reference⟩

end Verbatim

end AiGateway.Lib.Urls
