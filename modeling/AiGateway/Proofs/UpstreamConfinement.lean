import AiGateway.Upstream

/-! Where the provider's credential goes. The URL sent to has the base URL's scheme, host
and port exactly when the reference joined to the base names none of its own. -/

namespace AiGateway.Proofs
open Lib.Urls Lib.Splits

/-- A base that ends in a revision takes the client's leading revision off the path. -/
inductive Revised (base : Url) : List Char → List Char → Prop where
  | cut {slashes revision rest query : List Char} (versioned : basePathEndsWithVVersionSegment base = true)
      (leading : ∀ c ∈ slashes, c = '/') (isRevision : segmentIsVDigitVersion revision = true)
      (nonempty : rest ≠ []) (pathOnly : '?' ∉ rest) (queried : query = [] ∨ ∃ text, query = '?' :: text) :
      Revised base (slashes ++ revision ++ '/' :: rest ++ query) (rest ++ query)

/-- The reference a request's path and query become: without the revision where both the
base and the path have one, and as it is otherwise. -/
def Sent (base : Url) (text reference : List Char) : Prop :=
  Revised base text reference ∨ (reference = text ∧ ∀ other, ¬ Revised base text other)

theorem revision_char {revision : List Char} (isRevision : segmentIsVDigitVersion revision = true) :
    ∀ c ∈ revision, c = 'v' ∨ c = 'V' ∨ c.isDigit = true := by
  match revision, isRevision with
  | v :: digit :: rest, isRevision =>
    simp only [segmentIsVDigitVersion, Bool.and_eq_true, Bool.or_eq_true, beq_iff_eq, List.all_eq_true] at isRevision
    intro c member
    rcases List.mem_cons.mp member with rfl | member
    · exact isRevision.1.elim .inl fun upper => .inr (.inl upper)
    · exact .inr (.inr (isRevision.2 c member))

theorem revision_plain {revision : List Char} (isRevision : segmentIsVDigitVersion revision = true) :
    '/' ∉ revision ∧ '?' ∉ revision ∧ revision ≠ [] := by
  have chars := revision_char isRevision
  refine ⟨fun member => ?_, fun member => ?_, fun empty => ?_⟩
  · exact absurd (chars _ member) (by decide)
  · exact absurd (chars _ member) (by decide)
  · rw [empty] at isRevision
    cases isRevision

private theorem trimmed_revision {slashes revision rest : List Char} (leading : ∀ c ∈ slashes, c = '/')
    (isRevision : segmentIsVDigitVersion revision = true) :
    trimStartMatches '/' (slashes ++ revision ++ '/' :: rest) = revision ++ '/' :: rest := by
  obtain ⟨noSlash, _, nonempty⟩ := revision_plain isRevision
  obtain ⟨first, others, rfl⟩ := List.exists_cons_of_ne_nil nonempty
  have start : first ≠ '/' := fun same => noSlash (by simp [same])
  rw [trimStartMatches, List.append_assoc, List.dropWhile_append_of_pos (by simpa using leading)]
  simp [start]

theorem strip_of_revision {slashes revision rest : List Char} (leading : ∀ c ∈ slashes, c = '/')
    (isRevision : segmentIsVDigitVersion revision = true) (nonempty : rest ≠ []) :
    stripLeadingNumericVRevisionPrefix (slashes ++ revision ++ '/' :: rest) = some rest := by
  rw [stripLeadingNumericVRevisionPrefix, trimmed_revision leading isRevision,
    splitOnce_eq_some (revision_plain isRevision).1]
  simp [nonempty, isRevision]

theorem revision_of_strip {path rest : List Char}
    (stripped : stripLeadingNumericVRevisionPrefix path = some rest) :
    ∃ slashes revision, path = slashes ++ revision ++ '/' :: rest ∧ (∀ c ∈ slashes, c = '/') ∧
      segmentIsVDigitVersion revision = true ∧ rest ≠ [] := by
  have whole : path.takeWhile (· == '/') ++ trimStartMatches '/' path = path := List.takeWhile_append_dropWhile
  unfold stripLeadingNumericVRevisionPrefix at stripped
  obtain ⟨_, missing⟩ | ⟨first, after, split, _, found⟩ := splitOnce_cases '/' (trimStartMatches '/' path)
  · rw [missing] at stripped
    cases stripped
  · rw [found] at stripped
    simp only [List.isEmpty_iff] at stripped
    split at stripped
    next => cases stripped
    next nonempty =>
      split at stripped
      next isRevision =>
        cases stripped
        refine ⟨path.takeWhile (· == '/'), first, ?_, ?_, isRevision, nonempty⟩
        · rw [List.append_assoc, ← split, whole]
        · intro c member
          simpa using List.mem_takeWhile_imp member
      next => cases stripped

private theorem adjust_of_revised {base : Url} {text reference : List Char} (revised : Revised base text reference) :
    adjustUpstreamPathForVersionedBase base text = reference := by
  cases revised with
  | @cut slashes revision rest query versioned leading isRevision nonempty pathOnly queried =>
    have noQuery : '?' ∉ slashes ++ revision ++ '/' :: rest := by
      intro member
      simp only [List.mem_append, List.mem_cons] at member
      obtain (member | member) | member | member := member
      · exact absurd (leading _ member) (by decide)
      · exact (revision_plain isRevision).2.1 member
      · exact absurd member (by decide)
      · exact pathOnly member
    have stripped := strip_of_revision leading isRevision nonempty
    obtain rfl | ⟨queryText, rfl⟩ := queried
    · rw [List.append_nil, List.append_nil, adjustUpstreamPathForVersionedBase, splitOnce_eq_none noQuery]
      simp only [versioned, stripped]
      rfl
    · rw [adjustUpstreamPathForVersionedBase, splitOnce_eq_some noQuery]
      simp only [versioned, stripped]
      rfl

private theorem Revised.adjusted {base : Url} {text reference : List Char} (revised : Revised base text reference) :
    Revised base text (adjustUpstreamPathForVersionedBase base text) := by
  rw [adjust_of_revised revised]
  exact revised

private theorem revised_or_same (base : Url) (text : List Char) :
    Revised base text (adjustUpstreamPathForVersionedBase base text) ∨
      adjustUpstreamPathForVersionedBase base text = text := by
  cases versioned : basePathEndsWithVVersionSegment base with
  | false => exact .inr (by simp [adjustUpstreamPathForVersionedBase, versioned])
  | true =>
    obtain ⟨noQuery, missing⟩ | ⟨path, query, rfl, noQuery, found⟩ := splitOnce_cases '?' text
    · cases stripped : stripLeadingNumericVRevisionPrefix text with
      | none => exact .inr (by simp [adjustUpstreamPathForVersionedBase, versioned, missing, stripped])
      | some rest =>
        obtain ⟨slashes, revision, rfl, leading, isRevision, nonempty⟩ := revision_of_strip stripped
        have pathOnly : '?' ∉ rest := fun member => noQuery (by simp [member])
        have revised := Revised.cut versioned leading isRevision nonempty pathOnly (.inl rfl)
        rw [List.append_nil, List.append_nil] at revised
        exact .inl revised.adjusted
    · cases stripped : stripLeadingNumericVRevisionPrefix path with
      | none => exact .inr (by simp [adjustUpstreamPathForVersionedBase, versioned, found, stripped])
      | some rest =>
        obtain ⟨slashes, revision, rfl, leading, isRevision, nonempty⟩ := revision_of_strip stripped
        have pathOnly : '?' ∉ rest := fun member => noQuery (by simp [member])
        have revised := Revised.cut versioned leading isRevision nonempty pathOnly (.inr ⟨query, rfl⟩)
        exact .inl revised.adjusted

theorem sent_iff (base : Url) (text reference : List Char) :
    Sent base text reference ↔ reference = adjustUpstreamPathForVersionedBase base text := by
  constructor
  · rintro (revised | ⟨rfl, none⟩)
    · exact (adjust_of_revised revised).symm
    · exact ((revised_or_same base reference).resolve_left (none _)).symm
  · rintro rfl
    obtain revised | same := revised_or_same base text
    · exact .inl revised
    · by_cases other : ∃ reference, Revised base text reference
      · obtain ⟨reference, revised⟩ := other
        exact .inl revised.adjusted
      · exact .inr ⟨same, fun reference revised => other ⟨reference, revised⟩⟩

theorem sent_clean {base : Url} {text reference : List Char} (sent : Sent base text reference)
    (clean : Clean text) : Clean reference := by
  obtain revised | ⟨rfl, _⟩ := sent
  · cases revised with
    | cut =>
      intro c member
      apply clean
      simp only [List.mem_append, List.mem_cons] at member ⊢
      exact member.imp (.inr ∘ .inr) id
  · exact clean

private theorem extractPathAndQuery_clean {http : PathAndQueryParser} (strict : http.Strict) {path kept : List Char}
    {query : Option (List Char)} (extracted : extractPathAndQuery http path query = .ok kept) : Clean kept := by
  simp only [extractPathAndQuery] at extracted
  split at extracted
  next accepted =>
    cases extracted
    split at accepted <;> exact (strict _ _ accepted).2
  next => cases extracted

private theorem asStr_clean {kept : List Char} (clean : Clean kept) : Clean (asStr kept) := by
  unfold asStr
  split
  · intro c member
    obtain rfl := List.mem_singleton.mp member
    decide
  · exact clean

private theorem routerDetails_clean {http : PathAndQueryParser} (strict : http.Strict) {request : Request}
    {extensions : RouteExtensions} (routed : routerDetails http request = .ok extensions) :
    Clean (asStr extensions.extractedPathAndQuery) := by
  unfold routerDetails at routed
  split at routed
  next => cases routed
  next =>
    split at routed
    next => cases routed
    next extracted =>
      cases routed
      exact asStr_clean (extractPathAndQuery_clean strict extracted)

/-- Every route the layer accepts is covered, whatever the base URL. -/
theorem joinProviderUpstreamUrl_confined_iff {library : Library} (standard : library.Standard)
    {http : PathAndQueryParser} (strict : http.Strict) (base : Url) (request : Request)
    (extensions : RouteExtensions) (routed : routerDetails http request = .ok extensions) :
    (∃ url, joinProviderUpstreamUrl library base (asStr extensions.extractedPathAndQuery) = some url ∧
        url.origin = base.origin) ↔
      ∃ reference, Sent base (asStr extensions.extractedPathAndQuery) reference ∧ library.StaysAt base reference := by
  have clean := routerDetails_clean strict routed
  generalize asStr extensions.extractedPathAndQuery = text at clean ⊢
  have adjusted := (sent_iff base text _).mpr rfl
  have resolved : library.StaysAt base (adjustUpstreamPathForVersionedBase base text) ↔
      ∃ reference, Sent base text reference ∧ library.StaysAt base reference := by
    constructor
    · exact fun stays => ⟨_, adjusted, stays⟩
    · intro ⟨reference, sent, stays⟩
      exact (sent_iff base text reference).mp sent ▸ stays
  rw [← resolved]
  simp only [joinProviderUpstreamUrl]
  split
  · have origin := standard.setPath_origin base (base.path ++ ['/'])
    have cannot := standard.setPath_cannotBeABase base (base.path ++ ['/'])
    rw [← origin, standard.join_origin_iff _ (sent_clean adjusted clean)]
    exact library.staysAt_congr origin cannot _
  · exact standard.join_origin_iff base (sent_clean adjusted clean)

/-- A parser that admits what the HTTP library admits in a path and in a query. -/
def strictParser : PathAndQueryParser where
  fromStr text :=
    let kept := text.takeWhile (· != '#')
    let common (c : Char) : Bool := ' ' < c && c != '<' && c != '>'
    let inPath (c : Char) : Bool := common c && c != Char.ofNat 0x60
    let inQuery (c : Char) : Bool := common c && c != Char.ofNat 0x22
    if (kept.takeWhile (· != '?')).all inPath && (kept.dropWhile (· != '?')).all inQuery then some kept else none

theorem strictParser_strict : strictParser.Strict := by
  intro text kept found
  simp only [strictParser] at found
  split at found
  next admitted =>
    cases found
    refine ⟨rfl, fun c member => ?_⟩
    have noFragment : c ≠ '#' := by simpa using List.mem_takeWhile_imp member
    have visible : ' ' < c := by
      rw [← List.takeWhile_append_dropWhile (p := (· != '?')) (l := text.takeWhile (· != '#'))] at member
      simp only [Bool.and_eq_true, List.all_eq_true, decide_eq_true_eq] at admitted
      exact (List.mem_append.mp member).elim (fun path => (admitted.1 c path).1.1.1)
        fun query => (admitted.2 c query).1.1.1
    exact ⟨visible, noFragment⟩
  next => cases found

def versionedBase : Url :=
  ⟨"https".toList, some "api.openai.com".toList, none, "/v1".toList, none, false, fun _ => rfl⟩

theorem chat_confined :
    ∃ url, joinProviderUpstreamUrl Verbatim.library versionedBase (asStr "v1/chat/completions?user=a".toList) =
        some url ∧ url.origin = versionedBase.origin :=
  (joinProviderUpstreamUrl_confined_iff Verbatim.standard strictParser_strict versionedBase
    ⟨"/openai/v1/chat/completions".toList, some "user=a".toList, none⟩
    ⟨.directProxy .openAI "v1/chat/completions".toList, .directProxy, "v1/chat/completions?user=a".toList⟩
    (by decide +kernel)).mpr
    ⟨"chat/completions?user=a".toList, (sent_iff _ _ _).mpr (by decide +kernel), rfl, .inl (by decide +kernel)⟩

/-- The rest of the path may be a URL of its own, and the credential goes there. -/
theorem joinProviderUpstreamUrl_escapes :
    ¬ ∀ (base : Url) (request : Request) (extensions : RouteExtensions),
      routerDetails strictParser request = .ok extensions → extensions.requestKind = .directProxy →
        ∃ url, joinProviderUpstreamUrl Verbatim.library base (asStr extensions.extractedPathAndQuery) = some url ∧
          url.origin = base.origin := by
  intro confined
  obtain ⟨url, joined, origin⟩ := confined versionedBase ⟨"/openai/https://evil.test/v1/chat".toList, none, none⟩
    ⟨.directProxy .openAI "https://evil.test/v1/chat".toList, .directProxy, "https://evil.test/v1/chat".toList⟩
    (by rfl) rfl
  have elsewhere : (joinProviderUpstreamUrl Verbatim.library versionedBase
      (asStr "https://evil.test/v1/chat".toList)).map (fun url => url.host) = some (some "evil.test".toList) := by
    rfl
  rw [joined] at elsewhere
  have host : url.host = some "evil.test".toList := Option.some.inj elsewhere
  have same : url.host = some "api.openai.com".toList := congrArg Origin.host origin
  rw [host] at same
  exact absurd same (by decide)

end AiGateway.Proofs
