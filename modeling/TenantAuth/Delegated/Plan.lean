import TenantAuth.Datum.Compare
import TenantAuth.Url

/-!
# Choosing how to check a delegated identity token

A delegated identity token's unverified audience only chooses the order of checks and never grants
anything. A platform service URL is checked at the token-information endpoint first and by signature
with any audience second, the configured client id by signature with that audience, and anything
else by a best-effort signature check.
-/

namespace TenantAuth

namespace Delegated

/-- The ways a delegated identity token can be checked. -/
inductive Strategy where
  /-- Ask the identity provider's token-information endpoint. -/
  | tokeninfo
  /-- Check the signature and expiry, with any audience. -/
  | signatureAnyAudience
  /-- Check the signature and expiry, with the configured client id as audience. -/
  | signatureStrictAudience
  /-- Check the signature and expiry, with any audience, for an unrecognised audience. -/
  | signatureBestEffort
deriving DecidableEq, Repr

/-- The name of a strategy. -/
def Strategy.name : Strategy → String
  | .tokeninfo => "tokeninfo"
  | .signatureAnyAudience => "signature_any_audience"
  | .signatureStrictAudience => "signature_strict_audience"
  | .signatureBestEffort => "signature_best_effort"

/-- The audience values of an `aud` claim: nothing for an absent claim, the text itself, or
the text members of anything else. -/
def audiences (aud : Datum) : Except Fault (List String) :=
  match aud with
  | .none => .ok []
  | .str s => .ok [s]
  | d => do
    let ms ← d.members
    pure (ms.filterMap Datum.asString?)

/-- Whether a host name ends with one of the suffixes, tried in order; a suffix that is not
text is an error once reached. -/
def endsWithAny (host : String) : List Datum → Except Fault Bool
  | [] => .ok false
  | .str s :: rest => if s.toList.isSuffixOf host.toList then .ok true else endsWithAny host rest
  | _ :: _ => .error .wrongType

/-- Whether an audience is one of the platform's service URLs. -/
def isServiceAudience (audience : Datum) (suffixes : Datum) : Except Fault Bool := do
  let url ← match audience with
    | .str s => pure s
    | d => if d.truthy then throw .noAttribute else pure ""
  let (scheme, netloc) ← Url.schemeAndNetloc url
  match Url.hostname netloc with
  | some host =>
    if scheme != "https" then pure false
    else endsWithAny host (← suffixes.members)
  | none => pure false

/-- Whether some audience is a service URL, trying them in order. -/
def anyServiceAudience (suffixes : Datum) : List String → Except Fault Bool
  | [] => .ok false
  | a :: rest => do
    if ← isServiceAudience (.str a) suffixes then pure true else anyServiceAudience suffixes rest

/-- The strategies for a token's audience, in the order they are tried. -/
def plan (audience clientId suffixes : Datum) : Except Fault (List Strategy) := do
  let auds ← audiences audience
  if ← anyServiceAudience suffixes auds then
    pure [.tokeninfo, .signatureAnyAudience]
  else if clientId.truthy && clientId.memberOf (auds.map Datum.str) then
    pure [.signatureStrictAudience]
  else pure [.signatureBestEffort]

/-- Whether a value looks like a compact token: non-empty text with exactly two dots. -/
def looksLikeJwt : Datum → Bool
  | .str s => !s.isEmpty && (s.splitOn ".").length == 3
  | _ => false

end Delegated

end TenantAuth
