import TenantAuth.Datum.Display
import TenantAuth.Delegated.Plan
import TenantAuth.Log
import TenantAuth.Session.Jws

/-!
# Verifying delegated identity tokens

Trusted services present identity tokens of an external provider where people present session
tokens. The verifier recognises such a token by shape, goes on only when its unverified claims name
an allowed issuer, and runs the planned strategies in order: the first payload decides, by its
issuer, verified email and email, and a refusal lets the next strategy try. It answers an email or
nothing, reports log events, and fails only on unverified claims nested deeper than the JSON reader
has room for.
-/

namespace TenantAuth

namespace Delegated

/-- The issuers the identity provider signs as. -/
def defaultIssuers : List String := ["accounts.google.com", "https://accounts.google.com"]

/-- The configuration of a delegated identity verifier. -/
structure Verifier where
  /-- The expected audience of strictly checked tokens, if any. -/
  clientId : Datum := .none
  /-- The allowed issuers. -/
  issuers : List Datum := defaultIssuers.map .str
  /-- Host suffixes of the platform's own services. -/
  suffixes : Datum := .list [.str ".run.app"]
  /-- The identity provider's token-information endpoint. -/
  tokeninfoUrl : String := "https://oauth2.googleapis.com/tokeninfo"
  /-- The time budget of each call to the identity provider, in seconds. -/
  timeoutSeconds : Float := 5.0
  /-- The tolerance on token validity times, in seconds. -/
  clockSkewSeconds : Int := 30

/-- What a strategy may consult besides the token. -/
structure Context where
  /-- The unverified audience claim. -/
  audience : Datum
  /-- The verifier's configuration. -/
  verifier : Verifier

/-- What running one strategy gave. -/
inductive Outcome where
  /-- The strategy accepted the token and returned its payload. -/
  | payload (d : Datum)
  /-- The strategy refused the token, with a reason. -/
  | refused (detail : Datum)
  /-- The strategy broke with a failure of the named kind. -/
  | broke (kind : String)

/-- The verified identity of a trusted service. -/
structure ServiceIdentity where
  /-- The service account's email. -/
  email : String
deriving DecidableEq, Repr

/-- The reason a refusal carries: its detail, or the default text when it gives none. -/
def refusalText : Datum → String
  | .none => "Token verification failed"
  | d => d.display

/-- Whether a payload marks its email as verified: true, or a value whose text is `true` in lower
case, as the token-information endpoint reports truth values as text. -/
def emailVerified : Datum → Bool
  | .bool true => true
  | v => Case.lower v.display == "true"

/-- The final gate on a payload: an allowed issuer, a verified email, and an email. A payload
that is not a mapping has no claims to read. -/
def checkClaims (issuers : List Datum) (payload : Datum) : Except Fault ServiceIdentity :=
  match payload with
  | .dict es =>
    let get (k : String) := (Datum.lookup es (.str k)).getD .none
    let issuer := get "iss"
    if !issuer.memberOf issuers then
      .error (.rejected (.tokenVerificationFailed ("issuer not allowed: " ++ issuer.display)))
    else
      if !emailVerified (get "email_verified") then
        .error (.rejected (.tokenVerificationFailed "email not verified"))
      else match get "email" with
        | .str e => if e.isEmpty then .error (.rejected (.tokenVerificationFailed "email claim missing"))
          else .ok ⟨e⟩
        | _ => .error (.rejected (.tokenVerificationFailed "email claim missing"))
  | _ => .error .noAttribute

/-- The record of one verification: the identity, if any, the strategies planned and called,
and the events logged. -/
structure Report where
  /-- The verified identity. -/
  identity : Option ServiceIdentity := none
  /-- The names of the planned strategies. -/
  planned : List String := []
  /-- The names of the strategies that were run. -/
  called : List String := []
  /-- The events, in order. -/
  events : List Event := []

/-- An event that the verifier met an anomaly. -/
def anomaly (reasons : List String) (withTrace : Bool) : Event :=
  ⟨"delegated_token_anomaly", .warning,
    [("reasons", .list (reasons.map .str)), ("exc_info", .bool withTrace)]⟩

/-- Runs the planned strategies from the first, each named and with what it gives on the token,
with the refusals so far. -/
def runStrategies (issuers : List Datum) :
    List (String × Outcome) → List String → Report → Report
  | [], failures, r => { r with events := r.events ++ [anomaly failures.reverse false] }
  | (name, outcome) :: rest, failures, r =>
    let before := if name == Strategy.signatureBestEffort.name then
      [⟨"delegated_audience_unrecognized", .info, [("strategy", .str name)]⟩] else []
    let r := { r with called := r.called ++ [name], events := r.events ++ before }
    match outcome with
    | .refused detail =>
      let text := refusalText detail
      let reason := match detail with
        | .none => .str text
        | d => d
      runStrategies issuers rest ((name ++ ": " ++ text) :: failures)
        { r with events := r.events ++
          [⟨"delegated_strategy_failed", .debug, [("strategy", .str name), ("reason", reason)]⟩] }
    | .broke kind => { r with events := r.events ++ [anomaly ["unexpected: " ++ kind] true] }
    | .payload p =>
      match checkClaims issuers p with
      | .ok identity =>
        { r with identity := some identity, events := r.events ++
          [⟨"delegated_token_verified", .info,
            [("strategy", .str name), ("service_email", .str identity.email)]⟩] }
      | .error (.rejected rej) =>
        { r with events := r.events ++ [anomaly [name ++ ": " ++ rej.message] false] }
      | .error f => { r with events := r.events ++ [anomaly ["unexpected: " ++ f.kind] true] }

/-- The unverified claims of a compact token: none unless its segments decode and its payload
is a JSON object. Any failure to take the token apart counts as undecodable, but claims that
nest too deep for the reader are a fault. -/
def unverifiedClaims (token : String) : Except Fault (Option (List (Datum × Datum))) :=
  match Jws.pieces token with
  | .ok (some p) => (Jws.readJson p.payload).map (·.bind Datum.entries?)
  | _ => .ok none

/-- Verifies a token with a planner that gives the strategies to try, each named and with what
it gives on the token. -/
def Verifier.verifyPlan (v : Verifier) (planner : Context → Except Fault (List (String × Outcome)))
    (token : Datum) : Except Fault Report :=
  let skipped (reason : String) : Report :=
    { events := [⟨"delegated_token_skipped", .debug, [("reason", .str reason)]⟩] }
  match token with
  | .str t =>
    if !looksLikeJwt token then .ok (skipped "not_jwt_shaped")
    else match unverifiedClaims t with
      | .error f => .error f
      | .ok none => .ok (skipped "undecodable")
      | .ok (some claims) =>
        let issuer := (Datum.lookup claims (.str "iss")).getD .none
        if !issuer.memberOf v.issuers then
          .ok { events := [⟨"delegated_token_not_applicable", .debug, [("issuer", issuer)]⟩] }
        else
          let ctx : Context := ⟨(Datum.lookup claims (.str "aud")).getD .none, v⟩
          match planner ctx with
          | .error f => .ok { events := [anomaly ["unexpected: " ++ f.kind] true] }
          | .ok plan => .ok (runStrategies v.issuers plan [] { planned := plan.map (·.1) })
  | _ => .ok (skipped "not_jwt_shaped")

/-- Verifies a token with a planner of strategy names and a way to run each named strategy. -/
def Verifier.verify (v : Verifier) (planner : Context → Except Fault (List String))
    (run : String → Outcome) (token : Datum) : Except Fault Report :=
  v.verifyPlan (fun ctx => (planner ctx).map (·.map fun name => (name, run name))) token

/-- The planner that chooses strategies from the token's audience. -/
def Verifier.planner (ctx : Context) : Except Fault (List String) :=
  (plan ctx.audience ctx.verifier.clientId ctx.verifier.suffixes).map (·.map Strategy.name)

end Delegated

end TenantAuth
