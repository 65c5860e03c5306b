import RequestPipeline.Filter.Basic
import RequestPipeline.Text.Blank
import RequestPipeline.Text.Casing
import RequestPipeline.Text.Set
import RequestPipeline.Text.Split

/-!
# Requests from other origins

A browser asks beforehand whether a page of another origin may send a request; the answer to such a
preflight tells what is allowed or why not. Results of ordinary requests are decorated with fields
that let the page read them.
-/

namespace RequestPipeline

open Http Text

/-- The origins that are allowed. -/
inductive Origins where
  | any
  | listed (origins : TextSet)
  deriving DecidableEq

namespace Origins

/-- Whether an origin is allowed. -/
def allows : Origins → String → Bool
  | any, _ => true
  | listed origins, origin => origins.contains origin

/-- How an origin is told that it is allowed. -/
def grant? : Origins → String → Option HeaderValue
  | any, _ => some (.ofAscii "*")
  | listed origins, origin =>
    if origins.contains origin then HeaderValue.ofText? origin else none

end Origins

/-- What requests from other origins may do. -/
structure CrossOrigin where
  origins : Origins := .listed .empty
  methods : TextSet := .ofList ["GET", "HEAD", "POST", "PUT", "DELETE", "PATCH"]
  /-- Header names in lower case; an asterisk stands for every name. -/
  headers : TextSet := .ofList ["content-type", "authorization", "x-request-id"]
  /-- The header names that a page may read, in lower case. -/
  exposed : TextSet := .empty
  credentials : Bool := false
  /-- How long an answer holds, in milliseconds. -/
  maxAge : Option Nat := some 86400000
  order : Int := -1000
  deriving DecidableEq

namespace CrossOrigin

/-! ## Putting a policy together -/

/-- Allows every origin. -/
def allowAnyOrigin (p : CrossOrigin) : CrossOrigin := { p with origins := .any }

/-- Allows one more origin; nothing changes when every origin is allowed. -/
def allowOrigin (p : CrossOrigin) (origin : String) : CrossOrigin :=
  match p.origins with
  | .any => p
  | .listed origins => { p with origins := .listed (origins.insert origin) }

/-- Allows these origins and no others. -/
def allowOrigins (p : CrossOrigin) (origins : List String) : CrossOrigin :=
  { p with origins := .listed (.ofList origins) }

/-- Allows these methods and no others. -/
def allowMethods (p : CrossOrigin) (methods : List Method) : CrossOrigin :=
  { p with methods := .ofList (methods.map Method.name) }

/-- Allows these request headers and no others. -/
def allowHeaders (p : CrossOrigin) (names : List String) : CrossOrigin :=
  { p with headers := .ofList (names.map lower) }

/-- Lets pages read these headers and no others. -/
def exposeHeaders (p : CrossOrigin) (names : List String) : CrossOrigin :=
  { p with exposed := .ofList (names.map lower) }

/-- One step in putting a policy together. -/
inductive Clause where
  | anyOrigin
  | origin (origin : String)
  | origins (origins : List String)
  | methods (methods : List Method)
  | headers (names : List String)
  | exposed (names : List String)
  | credentials (allowed : Bool)
  /-- How long an answer holds, in milliseconds; without a time nothing is said about it. -/
  | maxAge (age : Option Nat)
  | order (order : Int)
  deriving DecidableEq

/-- The policy after one more step. -/
def put (p : CrossOrigin) : Clause → CrossOrigin
  | .anyOrigin => p.allowAnyOrigin
  | .origin origin => p.allowOrigin origin
  | .origins origins => p.allowOrigins origins
  | .methods methods => p.allowMethods methods
  | .headers names => p.allowHeaders names
  | .exposed names => p.exposeHeaders names
  | .credentials allowed => { p with credentials := allowed }
  | .maxAge age => { p with maxAge := age }
  | .order order => { p with order := order }

/-- The policy that steps put together, one after another. -/
def build (clauses : List Clause) : CrossOrigin := clauses.foldl put {}

/-- The policy that allows every origin, the common methods and every header. -/
def permissive : CrossOrigin :=
  (((allowAnyOrigin {}).allowMethods
    [.get, .head, .post, .put, .delete, .patch, .options]).allowHeaders ["*"]).exposeHeaders ["*"]

/-! ## Header names -/

/-- Where a request comes from. -/
def originName : HeaderName := { text := "origin" }
/-- The method that a preflight asks about. -/
def requestMethodName : HeaderName := { text := "access-control-request-method" }
/-- The headers that a preflight asks about. -/
def requestHeadersName : HeaderName := { text := "access-control-request-headers" }
/-- The origin that is allowed. -/
def allowOriginName : HeaderName := { text := "access-control-allow-origin" }
/-- The methods that are allowed. -/
def allowMethodsName : HeaderName := { text := "access-control-allow-methods" }
/-- The headers that are allowed. -/
def allowHeadersName : HeaderName := { text := "access-control-allow-headers" }
/-- Whether credentials are allowed. -/
def allowCredentialsName : HeaderName := { text := "access-control-allow-credentials" }
/-- How long an answer holds. -/
def maxAgeName : HeaderName := { text := "access-control-max-age" }
/-- The headers that a page may read. -/
def exposeHeadersName : HeaderName := { text := "access-control-expose-headers" }
/-- The request headers that an answer depends on. -/
def varyName : HeaderName := { text := "vary" }

/-! ## Preflights -/

/-- Whether a request asks beforehand. -/
def isPreflight (c : Call) : Bool :=
  c.method == .options && c.headers.has originName && c.headers.has requestMethodName

/-- Why a preflight is refused. -/
inductive Refusal where
  | missingOrigin
  | origin
  | method
  | header (name : String)
  deriving DecidableEq

/-- The message of a refusal. -/
def Refusal.message : Refusal → String
  | missingOrigin => "Missing Origin header"
  | origin => "Origin not allowed"
  | method => "Method not allowed"
  | header name => "Header '" ++ name ++ "' not allowed"

/-- The names in a list of headers, in lower case and without blanks. -/
def requestedNames (s : String) : List String := (split ',' s).map fun name => lower (trim name)

/-- Whether a policy allows a request header. -/
def allowsHeader (p : CrossOrigin) (name : String) : Bool :=
  name.isEmpty || p.headers.contains name

/-- The first reason to refuse a preflight, or the origin that is let through. A method that is no
token and headers that cannot be read are passed over. -/
def judge (p : CrossOrigin) (c : Call) : Except Refusal String :=
  match c.headers.readable? originName with
  | none => .error .missingOrigin
  | some origin =>
    if !p.origins.allows origin then .error .origin
    else
      let method := (c.headers.readable? requestMethodName).bind Method.ofName?
      if method.any fun m => !p.methods.contains m.name then .error .method
      else
        let names := (c.headers.readable? requestHeadersName).elim [] requestedNames
        -- an asterisk allows every header, also unnamed ones
        if p.headers.contains "*" then .ok origin
        else
          match names.find? fun name => !p.allowsHeader name with
          | some name => .error (.header name)
          | none => .ok origin

/-- Puts a list into a header field, unless it is empty or no header value. -/
def insertList (h : Headers) (name : HeaderName) (values : List String) : Headers :=
  if values.isEmpty then h
  else
    match HeaderValue.ofText? (", ".intercalate values) with
    | some value => h.insert name value
    | none => h

/-- Puts a value into a header field if there is one. -/
def insertSome (h : Headers) (name : HeaderName) : Option HeaderValue → Headers
  | some value => h.insert name value
  | none => h

/-- The field that allows credentials. -/
def insertCredentials (p : CrossOrigin) (h : Headers) : Headers :=
  if p.credentials then h.insert allowCredentialsName (.ofAscii "true") else h

/-- The header fields that tell an origin what it may do. -/
def preflightHeaders (p : CrossOrigin) (origin : String) : Headers :=
  let h := insertSome .empty allowOriginName (p.origins.grant? origin)
  let h := insertList h allowMethodsName (sorted p.methods.members)
  let h := insertList h allowHeadersName (sorted p.headers.members)
  let h := p.insertCredentials h
  -- the field counts in whole seconds
  let h := insertSome h maxAgeName
    (p.maxAge.bind fun age => HeaderValue.ofText? (toString (age / 1000)))
  h.insert varyName
    (.ofAscii "Origin, Access-Control-Request-Method, Access-Control-Request-Headers")

/-- The answer to a preflight. -/
def preflight (p : CrossOrigin) (c : Call) : Answer :=
  match p.judge c with
  | .error refusal => .text .forbidden refusal.message
  | .ok origin => { Answer.bare .noContent with headers := p.preflightHeaders origin }

/-! ## Results -/

/-- The result as a page of an origin may read it; it stays as it is if the origin is not allowed.
-/
def decorate (p : CrossOrigin) (origin : String) (a : Answer) : Answer :=
  match p.origins.grant? origin with
  | none => a
  | some value =>
    let h := a.headers.insert allowOriginName value
    let h := p.insertCredentials h
    let h := insertList h exposeHeadersName (sorted p.exposed.members)
    { a with headers := h.insert varyName (.ofAscii "Origin") }

/-! ## The filter -/

/-- Answers preflights in place of everything further in. -/
def onAuthorization (p : CrossOrigin) : Behaviour := fun v =>
  if v.isEffective .crossOrigin && isPreflight v.state.call then
    { result := some (p.preflight v.state.call) }
  else {}

/-- Decorates the result of an ordinary request. -/
def beforeResult (p : CrossOrigin) : Behaviour := fun v =>
  if v.isEffective .crossOrigin && !isPreflight v.state.call then
    match v.state.call.headers.readable? originName with
    | some origin => { result := v.state.result.map (p.decorate origin) }
    | none => {}
  else {}

/-- The filter that carries out a policy. -/
def toFilter (p : CrossOrigin) : Filter where
  name := "cors"
  order := some p.order
  policies := [.crossOrigin]
  authorization := some p.onAuthorization
  result := some ⟨p.beforeResult, .idle⟩

end CrossOrigin

end RequestPipeline
