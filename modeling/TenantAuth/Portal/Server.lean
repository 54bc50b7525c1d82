import TenantAuth.Portal.Service

/-!
# Serving requests

The layers a request passes through, from the outside in: unhandled errors become a bare server
error; the request gets its id and the response the security headers; cross-origin rules answer a
preflight; and routing renders failures (auth refusals with their status, unfit bodies as 422,
unreadable bodies as 400, unknown paths as 404 and wrong methods as 405). A path served with a
different trailing slash is redirected there and the redirect followed.
-/

namespace TenantAuth

namespace Portal

/-- A step of a path as JSON. -/
def stepDatum : Step → Datum
  | .key k => .str k
  | .index i => .int i

/-- An issue of a request body as shown to the caller. -/
def issueDatum (i : Issue) : Datum :=
  Datum.record ([("type", .str i.kind.code), ("loc", .list ((Step.key "body" :: i.loc).map stepDatum)),
    ("msg", .str i.kind.message), ("input", i.input)] ++
    ((i.kind.context?.map fun c => [("ctx", c)]).getD []))

/-- The response to an auth refusal. -/
def refusalResponse (r : Rejection) (requestId : String) : Http.Response :=
  let extra := match r with
    | .authenticationRequired => [("www-authenticate", "Bearer")]
    | _ => []
  Http.Response.json r.status (Datum.record [("detail", .str r.message),
    ("error_code", .str r.code), ("request_id", .str requestId)]) extra

/-- A response with only a detail. -/
def detailResponse (status : Nat) (detail : String) (extra : List (String × String) := []) :
    Http.Response :=
  Http.Response.json status (Datum.record [("detail", .str detail)]) extra

/-- The response to an exchange; none for a server error. -/
def render (e : Exchange) (requestId : String) : Option Http.Response :=
  match e.result with
  | .ok d => some (Http.Response.json 200 d)
  | .error (.fault (.rejected r)) => some (refusalResponse r requestId)
  | .error (.fault _) => none
  | .error (.unprocessable issues) =>
    some (Http.Response.json 422 (Datum.record [("detail", .list (issues.map issueDatum))]))
  | .error .unreadableBody => some (detailResponse 400 "There was an error parsing the body")

/-- The response headers every answer through the service carries. -/
def secure (requestId : String) (r : Http.Response) : Http.Response :=
  ((((r.setHeader "x-request-id" requestId).setHeader "x-content-type-options" "nosniff").setHeader
    "x-frame-options" "DENY").setHeader "cache-control" "no-store")

/-- What serving a request gave: the service after it, the response, and the identity
provider strategies called. -/
structure Served where
  /-- The service after the request. -/
  service : Service
  /-- The response. -/
  response : Http.Response
  /-- The strategies called while verifying a delegated token. -/
  called : List String := []

namespace Service

/-- The answer to a dispatched request. -/
def answerTo (s : Service) (req : Http.Request) (now : Int) (requestId : String) :
    Http.Dispatch Endpoint → Service × Option Http.Response × List String
  | .found endpoint params =>
    let e := s.run req now params endpoint
    (e.service, render e requestId, e.called)
  | .notAllowed methods =>
    (s, some (detailResponse 405 "Method Not Allowed" [("allow", ", ".intercalate methods)]), [])
  | .moved _ | .notFound => (s, some (detailResponse 404 "Not Found"), [])

/-- Routes a request at a decoded path, following a redirect of a trailing slash. -/
def routeAt (s : Service) (req : Http.Request) (now : Int) (requestId : String) (path : String) :
    Service × Option Http.Response × List String :=
  match Http.dispatch routes req.method path with
  | .moved path' => s.answerTo req now requestId (Http.dispatch routes req.method path')
  | d => s.answerTo req now requestId d

/-- Serves a request at a time, with the id it gets when it brings none. -/
def serve (s : Service) (req : Http.Request) (freshId : String) (now : Int) : Served :=
  let requestId := match req.header? "x-request-id" with
    | some v => if v.isEmpty then freshId else v
    | none => freshId
  if Http.CorsPolicy.isPreflight req then
    ⟨s, secure requestId (s.cors.preflight req), []⟩
  else
    let (s', response, called) := s.routeAt req now requestId (Http.unescape req.rawPath)
    match response with
    | some r => ⟨s', secure requestId (s.cors.decorate req r), called⟩
    | none => ⟨s', Http.Response.plain 500 "Internal Server Error", called⟩

end Service

end Portal

end TenantAuth
