import TenantAuth.Schema.Issue

/-!
Why an operation did not produce its answer. A *rejection* is a refusal the service means to give a
caller, with an HTTP status, a stable code and a message; the other faults are failures of a value,
a document, a configuration or a malformed input deep inside a step. Each fault has a kind name
under which it is reported.
-/

namespace TenantAuth

/-- Refusals of the authentication and access rules. -/
inductive Rejection where
  /-- Unknown user or wrong password; the two are not told apart. -/
  | invalidCredentials
  /-- The account is switched off. -/
  | accountDisabled
  /-- The account is locked. -/
  | accountLocked
  /-- The tenant is unknown or not active. -/
  | tenantNotFound
  /-- No acceptable credentials came with the request. -/
  | authenticationRequired
  /-- The caller's role may not perform the operation. -/
  | forbidden
  /-- A tenant-scoped request names no tenant. -/
  | missingTenantHeader
  /-- The caller belongs to another tenant. -/
  | tenantAccessDenied
  /-- A patient asked for another patient's data. -/
  | patientAccessDenied
  /-- The user does not exist or is out of the caller's reach. -/
  | userNotFound
  /-- A delegated identity token was refused, for the given reason. -/
  | tokenVerificationFailed (detail : String)
deriving DecidableEq, Repr

namespace Rejection

/-- The HTTP status of a rejection. -/
def status : Rejection → Nat
  | .invalidCredentials => 401
  | .accountDisabled => 403
  | .accountLocked => 423
  | .tenantNotFound => 404
  | .authenticationRequired => 401
  | .forbidden => 403
  | .missingTenantHeader => 400
  | .tenantAccessDenied => 403
  | .patientAccessDenied => 403
  | .userNotFound => 404
  | .tokenVerificationFailed _ => 401

/-- The stable code of a rejection. -/
def code : Rejection → String
  | .invalidCredentials => "invalid_credentials"
  | .accountDisabled => "account_disabled"
  | .accountLocked => "account_locked"
  | .tenantNotFound => "tenant_not_found"
  | .authenticationRequired => "authentication_required"
  | .forbidden => "forbidden"
  | .missingTenantHeader => "missing_tenant_header"
  | .tenantAccessDenied => "tenant_access_denied"
  | .patientAccessDenied => "patient_access_denied"
  | .userNotFound => "user_not_found"
  | .tokenVerificationFailed _ => "token_verification_failed"

/-- The message shown to the caller. -/
def message : Rejection → String
  | .invalidCredentials => "Invalid credentials"
  | .accountDisabled => "Account is disabled"
  | .accountLocked => "Account is locked. Contact your administrator."
  | .tenantNotFound => "Tenant not found"
  | .authenticationRequired => "Authentication required"
  | .forbidden => "Access denied for your role"
  | .missingTenantHeader => "Missing X-Tenant-ID header"
  | .tenantAccessDenied => "Access denied for the requested tenant"
  | .patientAccessDenied => "You can only access your own patient data"
  | .userNotFound => "User not found"
  | .tokenVerificationFailed detail => detail

/-- The name under which a rejection is reported. -/
def name : Rejection → String
  | .invalidCredentials => "InvalidCredentials"
  | .accountDisabled => "AccountDisabled"
  | .accountLocked => "AccountLocked"
  | .tenantNotFound => "TenantNotFound"
  | .authenticationRequired => "AuthenticationRequired"
  | .forbidden => "Forbidden"
  | .missingTenantHeader => "MissingTenantHeader"
  | .tenantAccessDenied => "TenantAccessDenied"
  | .patientAccessDenied => "PatientAccessDenied"
  | .userNotFound => "UserNotFound"
  | .tokenVerificationFailed _ => "TokenVerificationFailed"

end Rejection

/-- The stage of reading a YAML text at which it failed. -/
inductive YamlStage where
  /-- The text holds a character YAML does not allow. -/
  | reading
  /-- The characters do not form tokens. -/
  | scanning
  /-- The tokens do not form a document. -/
  | parsing
  /-- The document's nodes do not fit together (an unknown alias, a second document). -/
  | composing
  /-- A tagged scalar does not build a value. -/
  | constructing
deriving DecidableEq, Repr

/-- Why an operation failed. -/
inductive Fault where
  /-- A refusal of the access rules. -/
  | rejected (r : Rejection)
  /-- A document does not fit its schema. -/
  | invalid (issues : List Issue)
  /-- An argument has the right type and a wrong value. -/
  | badValue (message : String)
  /-- The configuration cannot be used. -/
  | misconfigured (message : String)
  /-- A step failed outright. -/
  | crashed (message : String)
  /-- A value of the wrong type reached an operation. -/
  | wrongType
  /-- A value lacks an operation it was used with. -/
  | noAttribute
  /-- A number is too large for the place it must go. -/
  | overflow
  /-- A token cannot be signed with the given algorithm or secret. -/
  | signing
  /-- A verification key cannot be built from the given secret. -/
  | badKey
  /-- A YAML text cannot be read; the message says where it went wrong. -/
  | yaml (stage : YamlStage) (message : String)
  /-- A lookup table has no entry for a key. -/
  | missingKey
  /-- An index lies outside a sequence. -/
  | outOfRange
  /-- A stored record breaks a rule of the store: it repeats a key or lacks a required
  value. -/
  | constraintViolated
  /-- A value cannot be stored in a column at all. -/
  | unstorable
  /-- A value is refused by the type of the column it is written to. -/
  | columnMismatch
  /-- The store lacks a table it needs. -/
  | storeUnavailable
  /-- A lookup by key was given a key of the wrong shape. -/
  | badIdentity
  /-- Text cannot be encoded. -/
  | unencodable
  /-- Encoded bytes cannot be decoded. -/
  | badEncoding
  /-- A document nests deeper than its reader has room for. -/
  | tooDeep

namespace Fault

/-- The name under which a fault is reported. -/
def kind : Fault → String
  | .rejected r => r.name
  | .invalid _ => "ValidationError"
  | .badValue _ => "ValueError"
  | .misconfigured _ => "ConfigurationError"
  | .crashed _ => "RuntimeError"
  | .wrongType => "TypeError"
  | .noAttribute => "AttributeError"
  | .overflow => "OverflowError"
  | .signing => "JWSError"
  | .badKey => "JWKError"
  | .yaml .reading _ => "ReaderError"
  | .yaml .scanning _ => "ScannerError"
  | .yaml .parsing _ => "ParserError"
  | .yaml .composing _ => "ComposerError"
  | .yaml .constructing _ => "ConstructorError"
  | .missingKey => "KeyError"
  | .outOfRange => "IndexError"
  | .constraintViolated => "IntegrityError"
  | .unstorable => "ProgrammingError"
  | .columnMismatch => "StatementError"
  | .storeUnavailable => "OperationalError"
  | .badIdentity => "InvalidRequestError"
  | .unencodable => "UnicodeEncodeError"
  | .badEncoding => "Error"
  | .tooDeep => "RecursionError"

/-- Whether a fault comes from the relational store: a broken rule, an unstorable value, a
column refusing a value, a missing table, or a key of the wrong shape. -/
def isStore : Fault → Bool
  | .constraintViolated | .unstorable | .columnMismatch | .storeUnavailable | .badIdentity => true
  | _ => false

/-- The message of a fault, for the kinds that carry one. -/
def message? : Fault → Option String
  | .rejected r => some r.message
  | .badValue m => some m
  | .misconfigured m => some m
  | .crashed m => some m
  | _ => none

end Fault

end TenantAuth
