import AiGateway.Types
import Mathlib.Data.List.TakeWhile
import AiGateway.Lib.Splits
import AiGateway.Lib.Urls

/-! From the request line to the URL the dispatcher sends to: the router details layer
cuts the path, the dispatcher joins what is left to the provider's base URL. -/

namespace AiGateway

open Lib.Urls Lib.Splits

/-- What the layer reads of a request. The forced routing header counts only when its
value is printable. -/
structure Request where
  path : List Char
  query : Option (List Char)
  forcedRouting : Option (List Char)
  deriving DecidableEq

inductive RouteType where
  | router (id : RouterId) (path : List Char)
  | unifiedApi (path : List Char)
  | directProxy (provider : InferenceProvider) (path : List Char)
  deriving DecidableEq

inductive RequestKind where
  | router
  | unifiedApi
  | directProxy
  | customProvider
  deriving DecidableEq, Repr

inductive RouteError where
  | notFound (path : List Char)
  | internal
  deriving DecidableEq

/-- `(\?.*)?$`, where the dot is no newline. -/
def queryToEnd : List Char → Bool
  | [] => true
  | c :: query => c == '?' && !query.contains '\n'

/-- `(/[^?]*)?(\?.*)?$`, with the path it captures. -/
def pathToEnd (text : List Char) : Option (List Char) :=
  match text with
  | '/' :: _ => if queryToEnd (text.dropWhile (· != '?')) then some (text.takeWhile (· != '?')) else none
  | _ => if queryToEnd text then some [] else none

/-- `UNIFIED_URL_REGEX`, with its first segment and the rest of the path. -/
def unifiedUrlRegex (path : List Char) : Option (List Char × List Char) :=
  match path with
  | '/' :: text =>
    let firstSegment := text.takeWhile fun c => c != '/' && c != '?'
    if firstSegment.isEmpty then none
    else (pathToEnd (text.drop firstSegment.length)).map fun rest => (firstSegment, rest)
  | _ => none

/-- `ROUTER_URL_REGEX`, with the router's id and the API path. -/
def routerUrlRegex (path : List Char) : Option (List Char × List Char) :=
  if path.take 8 = "/router/".toList then
    let text := path.drop 8
    let id := text.takeWhile fun c => c.isAlphanum || c == '_' || c == '-'
    if 1 ≤ id.length && id.length ≤ 12 then (pathToEnd (text.drop id.length)).map fun rest => (id, rest)
    else none
  else none

def trimStartMatches (c : Char) (text : List Char) : List Char := text.dropWhile (· == c)

def extractRouterIdAndPath (path : List Char) : Except RouteError (RouterId × List Char) :=
  match routerUrlRegex path with
  | some (id, apiPath) => .ok (⟨String.ofList id⟩, apiPath)
  | none => .error (.notFound path)

def parseRoute (request : Request) : Except RouteError RouteType :=
  match unifiedUrlRegex request.path with
  | none => .error (.notFound request.path)
  | some (firstSegment, restPath) =>
    let isRouterRequest := firstSegment == "router".toList
    let isUnifiedApiRequest := firstSegment == "ai".toList || firstSegment == "v1".toList
    let direct (name : List Char) : RouteType :=
      .directProxy (InferenceProvider.fromStr name) (trimStartMatches '/' restPath)
    match request.forcedRouting, isRouterRequest || isUnifiedApiRequest with
    | some forcedRouting, true => .ok (direct forcedRouting)
    | _, _ =>
      if isRouterRequest then
        (extractRouterIdAndPath request.path).map fun (routerId, extractedApiPath) =>
          .router routerId (trimStartMatches '/' extractedApiPath)
      else if isUnifiedApiRequest then .ok (.unifiedApi (trimStartMatches '/' restPath))
      else .ok (direct firstSegment)

def RouteType.path : RouteType → List Char
  | .router _ path | .unifiedApi path | .directProxy _ path => path

def RouteType.requestKind : RouteType → RequestKind
  | .router _ _ => .router
  | .unifiedApi _ => .unifiedApi
  | .directProxy _ _ => .directProxy

/-- `PathAndQuery::from_str` of the HTTP library, with the text it keeps. -/
structure PathAndQueryParser where
  fromStr : List Char → Option (List Char)

/-- What a `PathAndQuery` holds has neither blanks nor control characters, and a fragment
is cut off. -/
def PathAndQueryParser.Strict (http : PathAndQueryParser) : Prop :=
  ∀ text kept, http.fromStr text = some kept → kept = text.takeWhile (· != '#') ∧ Clean kept

section Http
variable (http : PathAndQueryParser)

def extractPathAndQuery (path : List Char) (query : Option (List Char)) : Except RouteError (List Char) :=
  let parsed :=
    match query with
    | some queryParams => http.fromStr (path ++ '?' :: queryParams)
    | none => http.fromStr path
  match parsed with
  | some kept => .ok kept
  | none => .error .internal

structure RouteExtensions where
  routeType : RouteType
  requestKind : RequestKind
  extractedPathAndQuery : List Char
  deriving DecidableEq

def routerDetails (request : Request) : Except RouteError RouteExtensions :=
  match parseRoute request with
  | .error error => .error error
  | .ok routeType =>
    match extractPathAndQuery http routeType.path request.query with
    | .error error => .error error
    | .ok kept => .ok ⟨routeType, routeType.requestKind, kept⟩

end Http

/-- `PathAndQuery::as_str`. -/
def asStr (pathAndQuery : List Char) : List Char := if pathAndQuery.isEmpty then ['/'] else pathAndQuery

def segmentIsVDigitVersion (segment : List Char) : Bool :=
  match segment with
  | v :: digit :: rest => (v == 'v' || v == 'V') && (digit :: rest).all Char.isDigit
  | _ => false

def basePathEndsWithVVersionSegment (url : Url) : Bool :=
  let path := (trimStartMatches '/' (trimStartMatches '/' url.path).reverse).reverse
  if path.isEmpty then false
  else segmentIsVDigitVersion (path.reverse.takeWhile (· != '/')).reverse

def stripLeadingNumericVRevisionPrefix (path : List Char) : Option (List Char) :=
  match splitOnce '/' (trimStartMatches '/' path) with
  | none => none
  | some (first, rest) => if rest.isEmpty then none else if segmentIsVDigitVersion first then some rest else none

def adjustUpstreamPathForVersionedBase (baseUrl : Url) (pathAndQuery : List Char) : List Char :=
  if !basePathEndsWithVVersionSegment baseUrl then pathAndQuery
  else
    let (pathOnly, query) :=
      match splitOnce '?' pathAndQuery with
      | some (path, query) => (path, some query)
      | none => (pathAndQuery, none)
    match stripLeadingNumericVRevisionPrefix pathOnly with
    | none => pathAndQuery
    | some stripped =>
      match query with
      | some query => stripped ++ '?' :: query
      | none => stripped

section Joining
variable (library : Library)

/-- `none` is the panic of `expect`. -/
def joinProviderUpstreamUrl (baseUrl : Url) (pathAndQuery : List Char) : Option Url :=
  let adjusted := adjustUpstreamPathForVersionedBase baseUrl pathAndQuery
  let normalizedBase :=
    if basePathEndsWithVVersionSegment baseUrl && baseUrl.path.getLast? != some '/' then
      library.setPath baseUrl (baseUrl.path ++ ['/'])
    else baseUrl
  library.join normalizedBase adjusted

end Joining

end AiGateway
