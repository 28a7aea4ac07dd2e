import Mathlib.Data.List.Basic

/-! The security plugins as a layer: the request's body is collected and checked before the
inner service is called, the response's body collected and masked before the client gets it. -/

namespace AiGateway.Security

abbrev Bytes := List UInt8

structure SecurityContext where
  virtualKeyId : String
  provider : String
  requestBody : Bytes
  workspaceId : Option String
  deriving DecidableEq, Repr

structure ResponseData where
  body : Bytes
  sensitive : Bool
  deriving DecidableEq, Repr

inductive SecurityError where
  | sensitiveDataDetected (message : String)
  | accessDenied (message : String)
  | configError (message : String)
  | internalError (message : String)
  deriving DecidableEq, Repr

def SecurityError.fmt : SecurityError → String
  | .sensitiveDataDetected message => "sensitive data detected: " ++ message
  | .accessDenied message => "access denied: " ++ message
  | .configError message => "plugin configuration error: " ++ message
  | .internalError message => "internal plugin error: " ++ message

/-- A plugin that fails to mask leaves nothing of what it has changed. -/
structure SecurityPlugin where
  name : String
  priority : Int
  checkRequest : SecurityContext → Except SecurityError Unit
  maskResponse : ResponseData → Except SecurityError ResponseData

def noOpSecurityPlugin : SecurityPlugin where
  name := "noop"
  priority := 0x7FFFFFFF
  checkRequest _ := .ok ()
  maskResponse data := .ok data

/-- The plugins in the order of their priorities. -/
structure PluginLoader where
  plugins : List SecurityPlugin

namespace PluginLoader

def checkRequest (loader : PluginLoader) (ctx : SecurityContext) : Except SecurityError Unit :=
  loader.plugins.forM fun plugin => plugin.checkRequest ctx

def maskResponse (loader : PluginLoader) (data : ResponseData) : Except SecurityError ResponseData :=
  loader.plugins.foldlM (fun data plugin => plugin.maskResponse data) data

end PluginLoader

/-- What the layer uses of a request; `extension` is the string among its extensions. -/
structure Parts where
  path : List Char
  extension : Option String
  headers : List (String × String)
  deriving DecidableEq, Repr

/-- A body is what reading it to its end gives. -/
abbrev Body := Except String Bytes

structure Request where
  parts : Parts
  body : Body

structure Response where
  status : Nat
  headers : List (String × String)
  body : Body

def maxSecurityBodySize : Nat := 10 * 1024 * 1024

def collectLimitedBody (body : Body) : Except String Bytes :=
  match body with
  | .error error => .error ("body collection failed: " ++ error)
  | .ok bytes => if maxSecurityBodySize < bytes.length then .ok (bytes.take maxSecurityBodySize) else .ok bytes

/-- The first segment of the path that is not empty. -/
def firstSegment (path : List Char) : Option String :=
  ((path.splitOn '/').find? fun segment => !segment.isEmpty).map String.ofList

def buildContext (parts : Parts) (requestBody : Bytes) : SecurityContext where
  virtualKeyId := parts.extension.getD "unknown"
  provider := (parts.extension.or (firstSegment parts.path)).getD "unknown"
  requestBody := requestBody
  workspaceId := none

def textBody (text : String) : Body := .ok text.toUTF8.toList

/-- What a call comes to: the request the inner service was called with, if it was, and the
response. -/
structure Exchange (ε : Type) where
  forwarded : Option Request
  response : Except ε Response

def rejection {ε : Type} (status : Nat) (text : String) : Except ε Response := .ok ⟨status, [], textBody text⟩

section Call
variable {ε : Type} (loader : PluginLoader) (inner : Request → Except ε Response)

/-- From the inner service's answer to the client's. -/
def finish (answer : Except ε Response) : Except ε Response :=
  match answer with
  | .error error => .error error
  | .ok response =>
    match collectLimitedBody response.body with
    | .error error => rejection 500 ("security response body read failed: " ++ error)
    | .ok responseBytes =>
      match loader.maskResponse ⟨responseBytes, false⟩ with
      | .error error => rejection 500 ("security response masking failed: " ++ error.fmt)
      | .ok data =>
        .ok ⟨response.status, response.headers.filter fun header => header.1 != "content-length", .ok data.body⟩

def call (request : Request) : Exchange ε :=
  match collectLimitedBody request.body with
  | .error error => ⟨none, rejection 400 ("security request body read failed: " ++ error)⟩
  | .ok bodyBytes =>
    let forwarded : Request := ⟨request.parts, .ok bodyBytes⟩
    match loader.checkRequest (buildContext request.parts bodyBytes) with
    | .error error => ⟨none, rejection 403 ("security check failed: " ++ error.fmt)⟩
    | .ok _ => ⟨some forwarded, finish loader (inner forwarded)⟩

end Call

end AiGateway.Security
