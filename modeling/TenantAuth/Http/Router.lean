import TenantAuth.Http.Message

/-!
# Routing

A route is a path template of literal and parameter segments and the methods it serves, and a
decoded request path goes to the first route whose template and method match. Failing that, a
matching template with another method is not allowed, a path matching with its trailing slash
changed is redirected, and anything else is not found.
-/

namespace TenantAuth

namespace Http

/-- A segment of a path template. -/
inductive Segment where
  /-- A fixed segment. -/
  | literal (text : String)
  /-- A parameter matching any non-empty segment. -/
  | param (name : String)

/-- A route to an endpoint. -/
structure Route (α : Type) where
  /-- The segments of the path template, the empty one before the leading slash included. -/
  segments : List Segment
  /-- The methods the route serves. -/
  methods : List String
  /-- What serves the route. -/
  endpoint : α

/-- The segments of a template such as `/users/{id}/unlock`. -/
def template (path : String) : List Segment :=
  (path.splitOn "/").map fun s =>
    if s.startsWith "\x7b" && s.endsWith "\x7d" && s.length ≥ 2 then
      .param (String.ofList ((s.toList.drop 1).dropLast))
    else .literal s

/-- The parameters a template takes from the segments of a path, if it matches. -/
def matchSegments : List Segment → List String → Option (List (String × String))
  | [], [] => some []
  | .literal t :: ts, s :: ss => if t == s then matchSegments ts ss else none
  | .param n :: ts, s :: ss =>
    if s.isEmpty then none else (matchSegments ts ss).map ((n, s) :: ·)
  | _, _ => none

/-- How a request is dispatched. -/
inductive Dispatch (α : Type) where
  /-- To an endpoint, with the path parameters. -/
  | found (endpoint : α) (params : List (String × String))
  /-- The path is served, but not with this method. -/
  | notAllowed (methods : List String)
  /-- The path is served with a different trailing slash. -/
  | moved (path : String)
  /-- Nothing serves the path. -/
  | notFound

/-- Whether some route's template matches a path. -/
def served {α : Type} (routes : List (Route α)) (path : String) : Bool :=
  routes.any fun r => (matchSegments r.segments (path.splitOn "/")).isSome

/-- The path with its trailing slashes removed, or with one added. -/
def toggledSlash (path : String) : String :=
  if path.endsWith "/" then String.ofList (path.toList.reverse.dropWhile (· == '/')).reverse
  else path ++ "/"

/-- Dispatches a method and a decoded path. -/
def dispatch {α : Type} (routes : List (Route α)) (method path : String) : Dispatch α :=
  let parts := path.splitOn "/"
  let matched := routes.filterMap fun r => (matchSegments r.segments parts).map (r, ·)
  match matched.find? (fun (r, _) => r.methods.contains method) with
  | some (r, params) => .found r.endpoint params
  | none =>
    match matched.head? with
    | some (r, _) => .notAllowed r.methods
    | none =>
      if path != "/" && served routes (toggledSlash path) then .moved (toggledSlash path)
      else .notFound

theorem matchSegments_literals (ss : List String) :
    matchSegments (ss.map Segment.literal) ss = some [] := by
  induction ss with
  | nil => rfl
  | cons s ss ih => simp [matchSegments, ih]

end Http

end TenantAuth
