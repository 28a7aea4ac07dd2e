import AiGateway.ModelSupport
import AiGateway.Lib.Words
import AiGateway.Proofs.ProviderNames
import Mathlib.Data.List.Forall2

/-! What the check of a request's models leaves of the list of candidates. The names of single
candidates are put in the place of the whole list. -/

namespace AiGateway.ModelSupport

open Lib.Runs Lib.Splits
open DefaultModel (splitProviderModel trimmed)
open ProviderReload (BareModelExpandIndex)

section Texts

/-- A name that is read as the one candidate it is. -/
def Plain (handler : Bool) (name : String) : Prop :=
  trim name.toList = name.toList ∧ (handler = true → ',' ∉ name.toList)

theorem candidatesOfText_plain {handler : Bool} {name : String} (plain : Plain handler name)
    (named : name.toList ≠ []) : candidatesOfText handler (trimmed name) = [name] := by
  obtain ⟨trims, single⟩ := plain
  have same : trimmed name = name := by
    rw [trimmed, trims, String.ofList_toList]
  rw [same]
  cases handler with
  | false => rfl
  | true =>
    have whole : name.toList.splitOn ',' = [name.toList] := List.splitOn_eq_singleton (single rfl)
    simp [candidatesOfText, extractFallbackModelCandidates, whole, trims, named]

/-- Of the candidates of a text, only one can be the text. -/
theorem plain_of_mem {handler : Bool} {name : String} (member : name ∈ candidatesOfText handler (trimmed name))
    (named : name.toList ≠ []) : Plain handler name ∧ candidatesOfText handler (trimmed name) = [name] := by
  have plain : Plain handler name := by
    cases handler with
    | false =>
      have same := congrArg String.toList (List.mem_singleton.mp member)
      rw [trimmed, String.toList_ofList] at same
      exact ⟨same.symm, nofun⟩
    | true =>
      obtain ⟨part, inside, same⟩ := List.mem_map.mp member
      obtain ⟨piece, cut, rfl⟩ := List.mem_map.mp (List.mem_of_mem_filter inside)
      rw [List.splitOn_eq_splitOnP] at cut
      rw [← same, Plain, String.toList_ofList, trim_trim]
      refine ⟨rfl, ?_⟩
      intro _ comma
      have absent := Lib.Words.mem_splitOnP cut ',' (trim_subset piece comma)
      simp at absent
  exact ⟨plain, candidatesOfText_plain plain named⟩

end Texts

section Lists
variable (catalog : Catalog) (json : JsonLibrary)

/-- What stands for a candidate afterwards: the name it resolves to, or itself. -/
def Replaced (candidate name : String) : Prop :=
  if qualified candidate then name = candidate else resolveBareModel catalog candidate = .ok name

/-- What is written with another model is read with it. -/
def JsonLibrary.KeepsModel : Prop :=
  ∀ body value name, json.fromSlice body = some value → (value.get "model").isSome →
    (json.fromSlice (json.toVec (setMember value "model" (.string name)))).bind
      (fun value => value.getStr "model") = some name

def requestHandler (request : SupportRequest) : Bool :=
  ((largeContextHeaders request).toOption.map handlerEnabled).getD false

/-- The model of the forwarded body is the list of the request's candidates, each replaced. -/
def KeepsCandidates (request : SupportRequest) : Prop :=
  ∀ model body, modelFieldFromJsonBody json request.body = some model →
    modelSupport catalog json request = .ok body →
      ∃ after, modelFieldFromJsonBody json body = some after ∧
        List.Forall₂ (Replaced catalog) (candidatesOfText (requestHandler request) model)
          (candidatesOfText (requestHandler request) after)

def inspected (request : SupportRequest) : Bool :=
  request.isPost && request.requestKind != some .customProvider

/-- The body of the request is read, and so are its headers. -/
def Collected (request : SupportRequest) : Prop :=
  request.readable = true ∧ request.body.length ≤ modelSupportMaxBodyBytes ∧
    ∃ headers, largeContextHeaders request = .ok headers

def Admitted (isDirectProxy : Bool) (candidate : String) : Prop :=
  if isDirectProxy || qualified candidate then checkSupported catalog candidate = .ok ()
  else ∃ name, resolveBareModel catalog candidate = .ok name ∧ checkSupported catalog name = .ok ()

/-- Nothing is refused. -/
def Forwardable (request : SupportRequest) (candidates : List String) : Prop :=
  (request.isPost = true → Collected request) ∧
    (inspected request = true →
      ∀ candidate ∈ candidates, Admitted catalog (request.requestKind == some .directProxy) candidate)

variable {catalog json}

theorem qualified_of_supported {name : String} (supported : checkSupported catalog name = .ok ()) :
    qualified name = true := by
  rw [checkSupported, splitProviderModel] at supported
  obtain ⟨absent, none⟩ | ⟨before, after, whole, _, _⟩ := splitOnce_cases '/' name.toList
  · rw [none] at supported
    cases supported
  · simp [qualified, whole]

/-- The names of an index are full names. -/
def Slashed (index : BareModelExpandIndex) : Prop := ∀ entry ∈ index, ∀ name ∈ entry.2, '/' ∈ name.toList

theorem Slashed.nil : Slashed [] := by
  intro entry member
  cases member

theorem Slashed.lookup {index : BareModelExpandIndex} (slashed : Slashed index) {key name : String}
    (member : name ∈ (index.lookup key).getD []) : '/' ∈ name.toList := by
  cases found : index.lookup key with
  | none =>
    rw [found] at member
    cases member
  | some names =>
    rw [found] at member
    obtain ⟨before, after, whole, _⟩ := List.lookup_eq_some_iff.mp found
    exact slashed (key, names) (by simp [whole]) name member

/-- What is pushed to an index is a full name. -/
theorem Slashed.push {index : BareModelExpandIndex} (slashed : Slashed index) (providerCode modelIdInDb : String) :
    Slashed (index.push providerCode modelIdInDb) := by
  rw [BareModelExpandIndex.push]
  split
  · exact slashed
  · intro entry member name listed
    rcases List.mem_append.mp member with kept | pushed
    · exact slashed entry (List.mem_of_mem_filter kept) name listed
    · cases List.mem_singleton.mp pushed
      dsimp only at listed
      split at listed
      · exact slashed.lookup listed
      · rcases List.mem_append.mp listed with earlier | last
        · exact slashed.lookup earlier
        · rw [List.mem_singleton.mp last]
          simp

theorem resolveBareModel_slashed {candidate name : String} (resolved : resolveBareModel catalog candidate = .ok name) :
    '/' ∈ name.toList := by
  have listed : ∃ names, bareCandidates catalog candidate = .ok names ∧ name ∈ names := by
    rw [resolveBareModel] at resolved
    split at resolved
    · cases resolved
    · cases resolved
    · next found =>
      cases resolved
      exact ⟨_, found, List.mem_singleton_self _⟩
    · cases resolved
  obtain ⟨names, found, member⟩ := listed
  rw [bareCandidates] at found
  split at found
  · split at found
    · cases found
    · cases found
      obtain ⟨row, _, rfl⟩ := List.mem_map.mp member
      simp
  · cases found
    exact Slashed.lookup catalog.slashed member

/-- The text of a body's model. -/
def modelText (json : JsonLibrary) (body : List UInt8) : Option String :=
  (json.fromSlice body).bind fun value => value.getStr "model"

theorem modelField_of_text {body : List UInt8} {text : String} (read : modelText json body = some text)
    (named : trim text.toList ≠ []) : modelFieldFromJsonBody json body = some (trimmed text) := by
  rw [modelText] at read
  rw [modelFieldFromJsonBody]
  rw [read]
  simp [trimmed, named]

theorem text_of_modelField {body : List UInt8} {model : String} (field : modelFieldFromJsonBody json body = some model) :
    ∃ text, modelText json body = some text := by
  rw [modelFieldFromJsonBody] at field
  rw [modelText]
  split at field
  · cases field
  · next text read => exact ⟨text, read⟩

theorem rewriteModelInBody_text (lawful : json.KeepsModel) {body : List UInt8} {text : String}
    (read : modelText json body = some text) (name : String) :
    ∃ after, rewriteModelInBody json body name = some after ∧ modelText json after = some name := by
  rw [modelText] at read
  obtain ⟨value, parsed, held⟩ := Option.bind_eq_some_iff.mp read
  obtain ⟨member, found, _⟩ := Option.bind_eq_some_iff.mp held
  refine ⟨json.toVec (setMember value "model" (.string name)), ?_, ?_⟩
  · simp [rewriteModelInBody, parsed, found]
  · exact lawful body value name parsed (by rw [found]; rfl)

variable (catalog json) in
/-- What one candidate does to the body. -/
def rewriteStep (bytes : List UInt8) (candidate : String) : List UInt8 :=
  if qualified candidate then bytes
  else
    match resolveBareModel catalog candidate with
    | .error _ => bytes
    | .ok name => (rewriteModelInBody json bytes name).getD bytes

theorem checkCandidate_iff (isDirectProxy : Bool) (bytes : List UInt8) (candidate : String) (after : List UInt8) :
    checkCandidate catalog json isDirectProxy bytes candidate = .ok after ↔
      Admitted catalog isDirectProxy candidate ∧ after = rewriteStep catalog json bytes candidate := by
  rw [checkCandidate, Admitted, rewriteStep]
  cases whole : isDirectProxy || qualified candidate with
  | true =>
    rw [if_pos rfl, if_pos rfl]
    constructor
    · intro done
      obtain ⟨_, supported, same⟩ := bind_ok done
      cases same
      rw [if_pos (qualified_of_supported supported)]
      exact ⟨supported, rfl⟩
    · intro ⟨supported, same⟩
      rw [if_pos (qualified_of_supported supported)] at same
      rw [supported, same]
      rfl
  | false =>
    have bare : qualified candidate = false := (Bool.or_eq_false_iff.mp whole).2
    rw [if_neg Bool.false_ne_true, if_neg Bool.false_ne_true, bare, if_neg Bool.false_ne_true]
    constructor
    · intro done
      obtain ⟨name, resolved, done⟩ := bind_ok done
      obtain ⟨_, supported, same⟩ := bind_ok done
      cases same
      rw [resolved]
      exact ⟨⟨name, rfl, supported⟩, rfl⟩
    · intro ⟨⟨name, resolved, supported⟩, same⟩
      rw [resolved] at same
      simp only [resolved, bind, Except.bind, supported, same, pure, Except.pure]

theorem foldl_qualified {candidates : List String} (named : ∀ candidate ∈ candidates, qualified candidate = true)
    (body : List UInt8) : candidates.foldl (rewriteStep catalog json) body = body := by
  induction candidates with
  | nil => rfl
  | cons first rest ih =>
    obtain ⟨head, later⟩ := List.forall_mem_cons.mp named
    rw [List.foldl_cons, rewriteStep, if_pos head]
    exact ih later

/-- With all candidates resolved, either none of them is bare, or the body's model becomes the
name that one of them resolves to. -/
theorem foldl_rewriteStep (lawful : json.KeepsModel) {candidates : List String} {body : List UInt8} {text : String}
    (read : modelText json body = some text)
    (resolved : ∀ candidate ∈ candidates, qualified candidate = false →
      ∃ name, resolveBareModel catalog candidate = .ok name) :
    (∀ candidate ∈ candidates, qualified candidate = true) ∨
      ∃ candidate ∈ candidates, qualified candidate = false ∧ ∃ name,
        resolveBareModel catalog candidate = .ok name ∧
          modelText json (candidates.foldl (rewriteStep catalog json) body) = some name := by
  induction candidates generalizing body text with
  | nil => exact Or.inl nofun
  | cons first rest ih =>
    have later (candidate : String) (member : candidate ∈ rest) := resolved candidate (List.mem_cons_of_mem _ member)
    rw [List.foldl_cons]
    cases named : qualified first with
    | true =>
      have left : rewriteStep catalog json body first = body := by
        rw [rewriteStep, if_pos named]
      rw [left]
      rcases ih read later with all | ⟨candidate, member, rest⟩
      · exact Or.inl (List.forall_mem_cons.mpr ⟨named, all⟩)
      · exact Or.inr ⟨candidate, List.mem_cons_of_mem _ member, rest⟩
    | false =>
      right
      obtain ⟨name, found⟩ := resolved first List.mem_cons_self named
      obtain ⟨after, rewritten, reread⟩ := rewriteModelInBody_text lawful read name
      have stepped : rewriteStep catalog json body first = after := by
        rw [rewriteStep, named, if_neg Bool.false_ne_true, found]
        simp only [rewritten, Option.getD_some]
      rw [stepped]
      rcases ih reread later with all | ⟨candidate, member, rest⟩
      · rw [foldl_qualified all]
        exact ⟨first, List.mem_cons_self, named, name, found, reread⟩
      · exact ⟨candidate, List.mem_cons_of_mem _ member, rest⟩

theorem modelCandidates_field (headers : Option LargeContextHeaders) (model : String) :
    modelCandidates headers (some model) = candidatesOfText (handlerEnabled headers) model := by
  rw [modelCandidates]
  cases handlerEnabled headers with
  | false => rfl
  | true => rfl

theorem requestHandler_eq {request : SupportRequest} {headers : Option LargeContextHeaders}
    (parsed : largeContextHeaders request = .ok headers) : requestHandler request = handlerEnabled headers := by
  rw [requestHandler, parsed]
  rfl

/-- The loop over the candidates of a request that is inspected. -/
theorem foldlM_checkCandidate_iff (isDirectProxy : Bool) (candidates : List String) (start body : List UInt8) :
    (if candidates.isEmpty then pure start else candidates.foldlM (checkCandidate catalog json isDirectProxy) start :
        Except SupportError (List UInt8)) = .ok body ↔
      (∀ candidate ∈ candidates, Admitted catalog isDirectProxy candidate) ∧
        body = candidates.foldl (rewriteStep catalog json) start := by
  rw [← foldlM_ok_iff (checkCandidate_iff isDirectProxy)]
  cases candidates with
  | nil => rfl
  | cons _ _ => rfl

variable (json) in
/-- The candidates of a request whose headers can be read. -/
def requestCandidates (request : SupportRequest) : List String :=
  modelCandidates ((largeContextHeaders request).toOption.getD none) (modelFieldFromJsonBody json request.body)

theorem requestCandidates_field {request : SupportRequest} {headers : Option LargeContextHeaders} {model : String}
    (parsed : largeContextHeaders request = .ok headers)
    (field : modelFieldFromJsonBody json request.body = some model) :
    requestCandidates json request = candidatesOfText (requestHandler request) model := by
  rw [requestCandidates, parsed, field, requestHandler_eq parsed]
  exact modelCandidates_field headers model

/-- A request is forwarded unless something of it is refused. -/
theorem modelSupport_ok_iff (request : SupportRequest) (body : List UInt8) :
    modelSupport catalog json request = .ok body ↔
      Forwardable catalog request (requestCandidates json request) ∧
        body = if inspected request then (requestCandidates json request).foldl (rewriteStep catalog json) request.body
          else request.body := by
  rw [modelSupport, Forwardable, inspected]
  cases post : request.isPost with
  | false => simp [pure, Except.pure, eq_comm]
  | true =>
    by_cases collected : Collected request
    · obtain ⟨readable, short, headers, parsed⟩ := collected
      have long : ¬ modelSupportMaxBodyBytes < request.body.length := Nat.not_lt.mpr short
      rw [requestCandidates, parsed]
      simp only [readable, long, Bool.not_true, Bool.or_false, Bool.false_eq_true, decide_false, if_false, bind,
        Except.bind, Bool.true_and, forall_const, Except.toOption, Option.getD_some]
      have whole : Collected request := ⟨readable, short, headers, parsed⟩
      by_cases custom : request.requestKind = some .customProvider
      · simp [custom, pure, Except.pure, eq_comm, whole]
      · have other : (request.requestKind == some .customProvider) = false := beq_false_of_ne custom
        simp only [other, bne, Bool.or_false, Bool.not_false, if_true, forall_const, whole, true_and]
        exact foldlM_checkCandidate_iff _ _ _ _
    · have refused (rest : Option LargeContextHeaders → Except SupportError (List UInt8)) :
          ¬ (if !request.readable || modelSupportMaxBodyBytes < request.body.length then .error .internal
            else largeContextHeaders request >>= rest) = .ok body := by
        intro done
        split at done
        · cases done
        · next fits =>
          obtain ⟨headers, parsed, _⟩ := bind_ok done
          simp only [Bool.or_eq_true, Bool.not_eq_true', decide_eq_true_eq, not_or, Bool.not_eq_false, Nat.not_lt] at fits
          exact collected ⟨fits.1, fits.2, headers, parsed⟩
      simp only [Bool.not_true, Bool.false_eq_true, if_false]
      exact iff_of_false (refused _) (fun both => collected (both.1.1 trivial))

/-- What is forwarded of a request whose body names a model. -/
theorem modelSupport_iff (request : SupportRequest) {model : String}
    (field : modelFieldFromJsonBody json request.body = some model) (body : List UInt8) :
    modelSupport catalog json request = .ok body ↔
      Forwardable catalog request (candidatesOfText (requestHandler request) model) ∧
        body = if inspected request then
            (candidatesOfText (requestHandler request) model).foldl (rewriteStep catalog json) request.body
          else request.body := by
  rw [modelSupport_ok_iff]
  cases post : request.isPost with
  | false => simp [Forwardable, inspected, post]
  | true =>
    by_cases collected : Collected request
    · obtain ⟨_, _, headers, parsed⟩ := collected
      rw [requestCandidates_field parsed field]
    · exact iff_of_false (fun both => collected (both.1.1 post)) (fun both => collected (both.1.1 post))

theorem nonblank_of_slashed {name : String} (slashed : '/' ∈ name.toList) : trim name.toList ≠ [] :=
  List.ne_nil_of_mem (mem_trim (by decide) slashed)

/-- Every bare candidate of a request that is forwarded has a name. -/
theorem resolved_of_admitted {isDirectProxy : Bool} {candidate : String}
    (admitted : Admitted catalog isDirectProxy candidate) (bare : qualified candidate = false) :
    ∃ name, resolveBareModel catalog candidate = .ok name := by
  rw [Admitted] at admitted
  split at admitted
  · have named := qualified_of_supported admitted
    rw [bare] at named
    cases named
  · obtain ⟨name, found, _⟩ := admitted
    exact ⟨name, found⟩

theorem replaced_of_mem {candidates after : List String} (replaced : List.Forall₂ (Replaced catalog) candidates after)
    {candidate name : String} (member : candidate ∈ candidates) (bare : qualified candidate = false)
    (found : resolveBareModel catalog candidate = .ok name) : name ∈ after := by
  obtain ⟨position, bound, rfl⟩ := List.getElem_of_mem member
  have inside : position < after.length := replaced.length_eq ▸ bound
  have same := replaced.get bound inside
  rw [Replaced, List.get_eq_getElem, bare, if_neg Bool.false_ne_true, found] at same
  cases same
  exact List.get_mem after ⟨position, inside⟩

theorem forall₂_self {request : SupportRequest} {model : String}
    (named : ∀ candidate ∈ candidatesOfText (requestHandler request) model, qualified candidate = true) :
    List.Forall₂ (Replaced catalog) (candidatesOfText (requestHandler request) model)
      (candidatesOfText (requestHandler request) model) := by
  apply List.forall₂_same.mpr
  intro candidate member
  rw [Replaced, if_pos (named candidate member)]

/-- The list is kept just where something is refused, where no candidate is bare, or where the
only candidate is checked and resolves to a name that is read as one. -/
theorem keepsCandidates_iff (lawful : json.KeepsModel) (request : SupportRequest) :
    KeepsCandidates catalog json request ↔
      ∀ model, modelFieldFromJsonBody json request.body = some model →
        Forwardable catalog request (candidatesOfText (requestHandler request) model) →
          (∀ candidate ∈ candidatesOfText (requestHandler request) model, qualified candidate = true) ∨
            (inspected request = true ∧ ∃ candidate name,
              candidatesOfText (requestHandler request) model = [candidate] ∧
                resolveBareModel catalog candidate = .ok name ∧ Plain (requestHandler request) name) := by
  constructor
  · intro keeps model field forwardable
    obtain ⟨text, read⟩ := text_of_modelField field
    have forwarded := (modelSupport_iff request field _).mpr ⟨forwardable, rfl⟩
    obtain ⟨after, refield, replaced⟩ := keeps model _ field forwarded
    cases inspects : inspected request with
    | false =>
      -- The body is forwarded as it is, and no bare name resolves to itself.
      left
      rw [inspects, if_neg Bool.false_ne_true, field] at refield
      cases refield
      intro candidate member
      have same := List.forall₂_same.mp replaced candidate member
      by_contra bare
      rw [Replaced, if_neg bare] at same
      exact bare (List.contains_iff_mem.mpr (resolveBareModel_slashed same))
    | true =>
      have resolved : ∀ candidate ∈ candidatesOfText (requestHandler request) model, qualified candidate = false →
          ∃ name, resolveBareModel catalog candidate = .ok name := by
        intro candidate member bare
        exact resolved_of_admitted (forwardable.2 inspects candidate member) bare
      rcases foldl_rewriteStep lawful read resolved with named | ⟨candidate, member, bare, name, found, reread⟩
      · exact Or.inl named
      · rw [inspects, if_pos rfl, modelField_of_text reread (nonblank_of_slashed (resolveBareModel_slashed found))]
          at refield
        cases refield
        have listed := replaced_of_mem replaced member bare found
        obtain ⟨plain, single⟩ := plain_of_mem listed (List.ne_nil_of_mem (resolveBareModel_slashed found))
        have length := replaced.length_eq
        rw [single, List.length_singleton] at length
        obtain ⟨only, same⟩ := List.length_eq_one_iff.mp length
        rw [same, List.mem_singleton] at member
        rw [member] at found
        exact Or.inr ⟨rfl, only, name, same, found, plain⟩
  · intro holds model body field forwarded
    obtain ⟨forwardable, same⟩ := (modelSupport_iff request field body).mp forwarded
    obtain ⟨text, read⟩ := text_of_modelField field
    rcases holds model field forwardable with named | ⟨inspects, candidate, name, only, found, plain⟩
    · have left : body = request.body := by
        rw [same]
        split
        · exact foldl_qualified named request.body
        · rfl
      rw [left]
      exact ⟨model, field, forall₂_self named⟩
    · rw [inspects, if_pos rfl, only, List.foldl_cons, List.foldl_nil] at same
      cases bare : qualified candidate with
      | true =>
        rw [rewriteStep, if_pos bare] at same
        rw [same]
        refine ⟨model, field, forall₂_self ?_⟩
        rw [only]
        exact List.forall_mem_singleton.mpr bare
      | false =>
        obtain ⟨after, rewritten, reread⟩ := rewriteModelInBody_text lawful read name
        have slashed := resolveBareModel_slashed found
        have stepped : body = after := by
          rw [same, rewriteStep, bare, if_neg Bool.false_ne_true, found]
          simp only [rewritten, Option.getD_some]
        refine ⟨trimmed name, ?_, ?_⟩
        · rw [stepped]
          exact modelField_of_text reread (nonblank_of_slashed slashed)
        · rw [only, candidatesOfText_plain plain (List.ne_nil_of_mem slashed)]
          refine List.Forall₂.cons ?_ .nil
          rw [Replaced, bare, if_neg Bool.false_ne_true]
          exact found

end Lists

/-! Bodies that are an object with a model and nothing else. -/

section ModelBodies

/-- A character outside ASCII, or a backslash, is written as an escape of four bytes. -/
def encodeChar (c : Char) : List UInt8 :=
  if c.toNat < 128 ∧ c ≠ '\\' then [c.toNat.toUInt8]
  else [92, (c.toNat / 65536).toUInt8, (c.toNat / 256 % 256).toUInt8, (c.toNat % 256).toUInt8]

def decodeText : List UInt8 → List Char
  | 92 :: high :: middle :: low :: rest =>
    Char.ofNat (high.toNat * 65536 + middle.toNat * 256 + low.toNat) :: decodeText rest
  | byte :: rest => Char.ofNat byte.toNat :: decodeText rest
  | [] => []

theorem decodeText_encodeChar (c : Char) (rest : List UInt8) :
    decodeText (encodeChar c ++ rest) = c :: decodeText rest := by
  have bound : c.toNat < 65536 * 256 := by
    have valid : c.toNat < 0xd800 ∨ (0xdfff < c.toNat ∧ c.toNat < 0x110000) := c.valid
    omega
  rw [encodeChar]
  split
  · next plain =>
    have byte : c.toNat.toUInt8.toNat = c.toNat := Nat.mod_eq_of_lt (by omega)
    have other : c.toNat.toUInt8 ≠ 92 := by
      intro same
      apply plain.2
      rw [← Char.ofNat_toNat c, ← byte, same]
      rfl
    rw [List.singleton_append, decodeText.eq_def]
    split
    · next head => exact absurd (List.cons.inj head).1 other
    · next head =>
      obtain ⟨rfl, rfl⟩ := List.cons.inj head
      rw [byte, Char.ofNat_toNat]
    · next head => cases head
  · have value : (c.toNat / 65536).toUInt8.toNat * 65536 + (c.toNat / 256 % 256).toUInt8.toNat * 256 +
        (c.toNat % 256).toUInt8.toNat = c.toNat := by
      have high : (c.toNat / 65536).toUInt8.toNat = c.toNat / 65536 := Nat.mod_eq_of_lt (by omega)
      have middle : (c.toNat / 256 % 256).toUInt8.toNat = c.toNat / 256 % 256 := Nat.mod_eq_of_lt (by omega)
      have low : (c.toNat % 256).toUInt8.toNat = c.toNat % 256 := Nat.mod_eq_of_lt (by omega)
      omega
    show Char.ofNat _ :: decodeText rest = _
    rw [value, Char.ofNat_toNat]

theorem decodeText_flatMap (text : List Char) : decodeText (text.flatMap encodeChar) = text := by
  induction text with
  | nil => rfl
  | cons c rest ih => rw [List.flatMap_cons, decodeText_encodeChar, ih]

def bodyStart : List UInt8 := "\x7b\"model\":\"".toList.map fun c => c.toNat.toUInt8

def bodyEnd : List UInt8 := [34, 125]

def modelBody (model : String) : List UInt8 := bodyStart ++ model.toList.flatMap encodeChar ++ bodyEnd

def modelBodies : JsonLibrary where
  fromSlice body :=
    if bodyStart.isPrefixOf body && bodyEnd.isSuffixOf body then
      some (.object [("model", .string (String.ofList (decodeText (body.drop 10).dropLast.dropLast)))])
    else none
  toVec value := modelBody ((value.getStr "model").getD "")

theorem fromSlice_modelBody (model : String) :
    modelBodies.fromSlice (modelBody model) = some (.object [("model", .string model)]) := by
  have starts : bodyStart.isPrefixOf (modelBody model) = true := by
    rw [List.isPrefixOf_iff_prefix, modelBody, List.append_assoc]
    exact List.prefix_append _ _
  have ends : bodyEnd.isSuffixOf (modelBody model) = true := by
    rw [List.isSuffixOf_iff_suffix, modelBody]
    exact List.suffix_append _ _
  have inner : ((modelBody model).drop 10).dropLast.dropLast = model.toList.flatMap encodeChar := by
    rw [modelBody, List.append_assoc]
    have ten : bodyStart.length = 10 := by rfl
    rw [← ten, List.drop_left, bodyEnd, List.dropLast_append_of_ne_nil (List.cons_ne_nil _ _)]
    exact List.dropLast_concat
  show (if _ then _ else _) = _
  rw [starts, ends, Bool.and_self, if_pos rfl, inner, decodeText_flatMap, String.ofList_toList]

theorem modelBodies_lawful : modelBodies.KeepsModel := by
  intro body value name parsed _
  have shape : ∃ text, value = .object [("model", .string text)] := by
    change (if _ then _ else _) = _ at parsed
    split at parsed
    · exact ⟨_, (Option.some.inj parsed).symm⟩
    · cases parsed
  obtain ⟨text, rfl⟩ := shape
  have written : modelBodies.toVec (setMember (.object [("model", .string text)]) "model" (.string name)) =
      modelBody name := by
    simp [modelBodies, setMember, Json.getStr, Json.get, Json.asStr]
  rw [written, fromSlice_modelBody]
  simp [Json.getStr, Json.get, Json.asStr]

/-- A catalogue with one model, and no database to ask. -/
def miniCatalog : Catalog where
  keyExists := none
  routerStore := none
  index := BareModelExpandIndex.push [] "openai" "gpt-4o-mini"
  slashed := Slashed.nil.push "openai" "gpt-4o-mini"

def fallbackHeaders : SemanticCache.HeaderMap where
  get
    | "Alephant-Token-Limit-Exception-Handler" => some (.visible "fallback".toList (SemanticCache.visible_of_all (by decide)))
    | _ => none

def fallbackRequest (model : String) : SupportRequest where
  isPost := true
  requestKind := some .unifiedApi
  headers := fallbackHeaders
  readable := true
  body := modelBody model

theorem one_bare_candidate_kept : KeepsCandidates miniCatalog modelBodies (fallbackRequest "gpt-4o-mini") := by
  apply (keepsCandidates_iff modelBodies_lawful (fallbackRequest "gpt-4o-mini")).mpr
  intro model field _
  have read : modelFieldFromJsonBody modelBodies (fallbackRequest "gpt-4o-mini").body = some "gpt-4o-mini" := by
    rfl
  rw [read] at field
  cases field
  refine Or.inr ⟨rfl, "gpt-4o-mini", "openai/gpt-4o-mini", by rfl, by rfl, by rfl, ?_⟩
  intro _
  decide

/-- The name of the first candidate takes the place of both. -/
theorem second_candidate_lost :
    modelBodies.KeepsModel ∧
      modelSupport miniCatalog modelBodies (fallbackRequest "gpt-4o-mini,anthropic/claude-3-5-haiku") =
        .ok (modelBody "openai/gpt-4o-mini") ∧
      ¬ KeepsCandidates miniCatalog modelBodies (fallbackRequest "gpt-4o-mini,anthropic/claude-3-5-haiku") := by
  have forwarded : modelSupport miniCatalog modelBodies (fallbackRequest "gpt-4o-mini,anthropic/claude-3-5-haiku") =
      .ok (modelBody "openai/gpt-4o-mini") := by
    rfl
  refine ⟨modelBodies_lawful, forwarded, ?_⟩
  intro keeps
  have before : modelFieldFromJsonBody modelBodies
      (fallbackRequest "gpt-4o-mini,anthropic/claude-3-5-haiku").body =
        some "gpt-4o-mini,anthropic/claude-3-5-haiku" := by
    rfl
  have reread : modelFieldFromJsonBody modelBodies (modelBody "openai/gpt-4o-mini") = some "openai/gpt-4o-mini" := by
    rfl
  obtain ⟨after, field, replaced⟩ := keeps _ _ before forwarded
  rw [reread] at field
  cases field
  exact absurd replaced.length_eq (by decide +kernel)

end ModelBodies

end AiGateway.ModelSupport
