import TenantAuth.Http.Message

/-!
# Cross-origin requests

Which browser origins may call the service, and with what. A preflight is answered at once, `OK` or
status 400 with what was refused, naming the origin only when it is allowed; a simple request goes
through, and its response gains the credentials header and an allowed origin. Every response that is
not a preflight answer varies by origin.
-/

namespace TenantAuth

namespace Http

/-- The cross-origin rules of a service. -/
structure CorsPolicy where
  /-- The allowed origins; `*` allows every origin. -/
  origins : List String
  /-- The allowed methods. -/
  methods : List String
  /-- The allowed request headers besides the always safe ones. -/
  headers : List String
  /-- Whether credentials may be sent. -/
  credentials : Bool
  /-- Seconds a preflight answer may be kept. -/
  maxAge : Nat := 600

namespace CorsPolicy

/-- The request headers every origin may send. -/
def safelisted : List String := ["Accept", "Accept-Language", "Content-Language", "Content-Type"]

/-- Text sorted by code points. -/
def sortTexts (xs : List String) : List String := xs.mergeSort fun a b => !(b < a)

/-- The allowed request headers: the safe ones and the configured ones, sorted and without
repeats. -/
def allowedHeaders (p : CorsPolicy) : List String := sortTexts (safelisted ++ p.headers).eraseDups

/-- Whether every origin is allowed. -/
def allowsAll (p : CorsPolicy) : Bool := p.origins.contains "*"

/-- Whether an origin is allowed. -/
def allowsOrigin (p : CorsPolicy) (origin : String) : Bool :=
  p.allowsAll || p.origins.contains origin

/-- Whether the preflight answer names the requesting origin rather than `*`. -/
def namesOrigin (p : CorsPolicy) : Bool := !p.allowsAll || p.credentials

/-- The headers every preflight answer carries. -/
def preflightHeaders (p : CorsPolicy) : List (String × String) :=
  (if p.namesOrigin then
    [("vary", "Origin, Access-Control-Request-Method, Access-Control-Request-Headers, " ++
      "Access-Control-Request-Private-Network")]
   else [("access-control-allow-origin", "*")]) ++
  [("access-control-allow-methods", ", ".intercalate p.methods),
   ("access-control-max-age", toString p.maxAge),
   ("access-control-allow-headers", ", ".intercalate p.allowedHeaders)] ++
  (if p.credentials then [("access-control-allow-credentials", "true")] else [])

/-- Whether a request is a preflight. -/
def isPreflight (r : Request) : Bool :=
  r.method == "OPTIONS" && (r.header? "origin").isSome &&
    (r.header? "access-control-request-method").isSome

/-- What a preflight asks for that the rules refuse, in order. -/
def refusals (p : CorsPolicy) (r : Request) : List String :=
  let origin := (r.header? "origin").getD ""
  let method := (r.header? "access-control-request-method").getD ""
  let allowedLower := p.allowedHeaders.map asciiLower
  let headersOk := match r.header? "access-control-request-headers" with
    | none => true
    | some hs => (hs.splitOn ",").all fun h => allowedLower.contains (Blank.strip (asciiLower h))
  (if p.allowsOrigin origin then [] else ["origin"]) ++
  (if p.methods.contains method then [] else ["method"]) ++
  (if headersOk then [] else ["headers"]) ++
  (if (r.header? "access-control-request-private-network").isSome then ["private-network"]
   else [])

/-- The answer to a preflight. -/
def preflight (p : CorsPolicy) (r : Request) : Response :=
  let origin := (r.header? "origin").getD ""
  let headers := p.preflightHeaders ++
    (if p.allowsOrigin origin && p.namesOrigin then [("access-control-allow-origin", origin)]
     else [])
  match p.refusals r with
  | [] => Response.plain 200 "OK" headers
  | fs => Response.plain 400 ("Disallowed CORS " ++ ", ".intercalate fs) headers

/-- The response to a request that is not a preflight, with the cross-origin headers its
origin earns. -/
def decorate (p : CorsPolicy) (r : Request) (resp : Response) : Response :=
  let varied := match resp.header? "vary" with
    | some v => resp.setHeader "vary" (v ++ ", Origin")
    | none => resp.setHeader "vary" "Origin"
  match r.header? "origin" with
  | none => varied
  | some origin =>
    let resp := if p.allowsAll then varied.setHeader "access-control-allow-origin" "*" else varied
    let resp := if p.credentials then resp.setHeader "access-control-allow-credentials" "true"
      else resp
    if (p.allowsAll && (r.header? "cookie").isSome) || (!p.allowsAll && p.allowsOrigin origin) then
      resp.setHeader "access-control-allow-origin" origin
    else resp

theorem preflight_status (p : CorsPolicy) (r : Request) :
    (p.preflight r).status = if p.refusals r = [] then 200 else 400 := by
  unfold preflight
  split <;> simp_all [Response.plain, Response.withBody]

end CorsPolicy

end Http

end TenantAuth
