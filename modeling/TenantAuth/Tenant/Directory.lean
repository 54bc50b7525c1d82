import TenantAuth.Tenant.Config
import TenantAuth.Yaml.Document
import TenantAuth.Text.Blank
import TenantAuth.Datum.Column
import TenantAuth.Datum.Compare

/-!
# The tenant directory

A tenant's document comes from the tenants table of the store, else from a fallback YAML file read
once at setup, and is turned into a configuration by filling in identifier, name, status, type and
branding defaults. A document that does not validate makes the tenant unknown, a document of the
wrong shape is a fault of the lookup, and a lookup with defaults falls back to a configuration of
defaults, also when the store cannot be read.
-/

namespace TenantAuth

/-- A row of the tenants table. -/
structure TenantRecord where
  /-- The tenant id, the table's key. -/
  id : String
  /-- The display name. -/
  name : String
  /-- The status. -/
  status : String := "active"
  /-- The kind of organisation. -/
  type : String := "custom"
  /-- The branding document. -/
  branding : Datum := .dict []
  /-- The features document. -/
  features : Datum := .dict []
  /-- The settings document. -/
  config : Datum := .dict []
deriving Inhabited

namespace TenantRecord

/-- A column value of a row description, or its default when it is not given. -/
def column (entries : List (Datum × Datum)) (name : String) (dflt : Option String) :
    Except Fault String :=
  match Datum.lookup entries (.str name), dflt with
  | some v, _ => Column.text v
  | none, some d => .ok d
  | none, none => .error .constraintViolated

/-- A row from its description; text columns keep the text of their values. -/
def ofDatum (d : Datum) : Except Fault TenantRecord :=
  match d with
  | .dict entries => do
    let id ← column entries "id" none
    let name ← column entries "name" none
    let status ← column entries "status" (some "active")
    let type ← column entries "type" (some "custom")
    let doc (k : String) := (Datum.lookup entries (.str k)).getD (.dict [])
    return { id, name, status, type, branding := doc "branding", features := doc "features",
             config := doc "config" }
  | _ => .error .wrongType

/-- The row as a document. -/
def toDatum (r : TenantRecord) : Datum :=
  Datum.record [("id", .str r.id), ("name", .str r.name), ("status", .str r.status),
    ("type", .str r.type), ("branding", r.branding), ("features", r.features),
    ("config", r.config)]

end TenantRecord

/-- The address assets are served from by default. -/
def defaultAssetBaseUrl : String := "https://storage.googleapis.com/discharge-portal-assets"

/-- Tenant lookups over the tenants table and the fallback documents. -/
structure TenantDirectory where
  /-- The tenants table, in insertion order; none once the table is gone. -/
  records : Option (List TenantRecord)
  /-- Fallback documents by tenant id, in file order. -/
  fallback : List (String × Datum)
  /-- The asset address, without trailing slashes. -/
  assetBaseUrl : String

namespace TenantDirectory

/-- Drops trailing slashes. -/
def trimSlashes (s : String) : String :=
  String.ofList (s.toList.reverse.dropWhile (· == '/')).reverse

/-- The fallback documents of a configuration document: its `tenants` mapping, keyed by the
text of each key, an empty document standing for an empty mapping. -/
def fallbackOf (config : Datum) : Except Fault (List (String × Datum)) := do
  let config := if config.truthy then config else .dict []
  let tenants ← match config.unwrap with
    | .dict entries => pure ((Datum.lookup entries (.str "tenants")).getD (.dict []))
    | _ => throw .noAttribute
  let tenants := if tenants.truthy then tenants else .dict []
  match tenants.unwrap with
  | .dict entries =>
    let docs ← entries.mapM fun (k, doc) => do
      return (Datum.str (← k.display?), if doc.truthy then doc else .dict [])
    return (docs.foldl (fun acc (k, v) => Datum.assign acc k v) []).map fun (k, v) => (k.display, v)
  | .str _ | .bytes _ | .list _ | .set _ | .tuple _ => throw .noAttribute
  | _ => throw .wrongType

/-- The fallback documents of a file: none when it does not exist. -/
def fallbackOfFile : Option String → Except Fault (List (String × Datum))
  | none => .ok []
  | some text => do fallbackOf (← Yaml.load (Lines.unify text))

/-- Sets up a directory over a table's rows and a fallback file. Rows with one id are
refused. -/
def make (records : List TenantRecord) (fallbackFile : Option String) (assetBaseUrl : String) :
    Except Fault TenantDirectory := do
  if (records.map (·.id)).eraseDups.length != records.length then throw .constraintViolated
  let fallback ← fallbackOfFile fallbackFile
  return { records := some records, fallback, assetBaseUrl := trimSlashes assetBaseUrl }

/-- The directory after its table is dropped: every lookup in the store then fails. -/
def dropTable (d : TenantDirectory) : TenantDirectory :=
  { d with records := none }

/-- The default branding of a tenant: logo and icon under the asset address. -/
def defaultBranding (d : TenantDirectory) (tenantId : String) : Branding :=
  { logo := d.assetBaseUrl ++ "/logos/" ++ tenantId ++ ".png",
    favicon := some (d.assetBaseUrl ++ "/favicons/" ++ tenantId ++ ".ico") }

/-- The entries of a mapping given as keyword values: an empty value is no entries, a value
that is not a mapping or has keys that are not text cannot be. -/
def keywords (d : Datum) : Except Fault (List (Datum × Datum)) :=
  match (if d.truthy then d else .dict []).unwrap with
  | .dict entries =>
    if entries.all (fun e => e.1.asString?.isSome) then .ok entries else .error .wrongType
  | _ => .error .wrongType

/-- A value, or a default when it is empty. -/
def orElse (v : Datum) (dflt : String) : Datum :=
  if v.truthy then v else .str dflt

/-- The configuration a document gives a tenant; none when it does not validate. -/
def build (d : TenantDirectory) (tenantId : String) (doc : Datum) :
    Except Fault (Option TenantConfig) := do
  let entries ← match doc.unwrap with
    | .dict entries => pure entries
    | _ => throw .noAttribute
  let get (k : String) : Datum := (Datum.lookup entries (.str k)).getD .none
  let brandingDoc := get "branding"
  let own ← match (if brandingDoc.truthy then brandingDoc else .dict []).unwrap with
    | .dict es => pure (es.foldl (fun acc e => Datum.assign acc (Branding.renameKey e.1) e.2) [])
    | _ => throw .noAttribute
  let merged := own.foldl (fun acc e => Datum.assign acc e.1 e.2) (d.defaultBranding tenantId).fields
  if !merged.all (fun e => e.1.asString?.isSome) then throw .wrongType
  let .ok branding := Branding.read (.dict merged) merged | return none
  let .ok features := Features.read (← keywords (get "features")) | return none
  let .ok config := TenantSettings.read (← keywords (get "config")) | return none
  let text (v : Datum) : Option String := (Lax.text v).toOption
  match text (orElse (get "id") tenantId), text (orElse (get "name") (tenantId ++ " Hospital")),
      text (orElse (get "status") "active"), text (orElse (get "type") "custom") with
  | some id, some name, some status, some type =>
    return some { id, name, status, type, branding, features, config }
  | _, _, _, _ => return none

/-- The rows of the table; fails once the table is gone. -/
def rows (d : TenantDirectory) : Except Fault (List TenantRecord) :=
  match d.records with
  | some rs => .ok rs
  | none => .error .storeUnavailable

/-- The key a lookup by a value names, as for a table with a one-column key: a sequence
names its only item and a mapping its `id` entry; a sequence of another length or a mapping
without `id` is a key of the wrong shape, and a key that cannot be hashed is refused. -/
def identityOf (tenantId : Datum) : Except Fault Datum := do
  let key ← match tenantId with
    | .list [k] => pure k
    | .list _ => throw .badIdentity
    | .dict entries =>
      match Datum.lookup entries (.str "id") with
      | some k => pure k
      | none => throw .badIdentity
    | k => pure k
  if key.isKey then pure key else throw .wrongType

/-- A tenant's configuration, or none when the tenant is unknown or its document does not
validate. An empty id is unknown. The table is read first, matching its keys against the
text the store makes of the id (so the number `7` finds the row `"7"`, and a NaN, which the
store takes for no value, finds none); the fallback ids are text and match a text id only,
and an id that cannot be hashed cannot be looked for there. Defaults are filled in from the
id as it is shown. -/
def get? (d : TenantDirectory) (tenantId : Datum) : Except Fault (Option TenantConfig) := do
  if !tenantId.truthy then return none
  let key ← identityOf tenantId
  let rs ← d.rows
  let key ← Column.optionalText key
  match key.bind fun k => rs.find? (·.id == k) with
  | some r => d.build tenantId.display r.toDatum
  | none =>
    match tenantId with
    | .str s =>
      match d.fallback.lookup s with
      | some doc => d.build s doc
      | none => return none
    | v => if v.isKey then return none else throw .wrongType

/-- Whether a tenant is known and active. -/
def exists? (d : TenantDirectory) (tenantId : Datum) : Except Fault Bool := do
  return ((← d.get? tenantId).map TenantConfig.isActive).getD false

/-- A tenant's configuration made of defaults only. -/
def defaultConfig (d : TenantDirectory) (tenantId : String) : TenantConfig :=
  { id := tenantId, name := tenantId ++ " Hospital", branding := d.defaultBranding tenantId }

/-- A tenant's configuration, or its default one when the lookup misses or the store fails.
Only a text id can name a default configuration; any other id is refused as the
configuration's `id`. -/
def withDefaults (d : TenantDirectory) (tenantId : Datum) : Except Fault TenantConfig := do
  let found ← match d.get? tenantId with
    | .ok c => pure c
    | .error f => if f.isStore then pure none else throw f
  match found, tenantId with
  | some c, _ => return c
  | none, .str s => return d.defaultConfig s
  | none, v => throw (.invalid [⟨.stringType, [.key "id"], v⟩])

/-- Whether one tenant id comes no later than another when ids are sorted: by code points, a
carried surrogate standing for its own code unit. -/
def idNoLater (a b : String) : Bool :=
  Datum.codesNoLater (Surrogate.codePoints a) (Surrogate.codePoints b)

/-- Every tenant with a valid configuration, by id: the table's rows and the fallback
documents of other ids. -/
def list (d : TenantDirectory) : Except Fault (List TenantConfig) := do
  let rs ← d.rows
  let docs := rs.map (fun r => (r.id, r.toDatum))
  let docs := d.fallback.foldl
    (fun acc e => if (acc.lookup e.1).isSome then acc else acc ++ [e]) docs
  let ordered := docs.mergeSort (fun a b => idNoLater a.1 b.1)
  let built ← ordered.mapM fun e => d.build e.1 e.2
  return built.filterMap id

/-- The fallback file shipped with the service. -/
def packagedFallback : String :=
  "# Tenant configuration fallback.
# Read once at startup when a tenant is not in the tenants table.
# Missing keys are filled with defaults (logo URL from ASSET_BASE_URL,
# neutral blue palette, every feature on).

tenants:
  demo:
    name: Demo Hospital
    status: active
    type: demo
    branding:
      primaryColor: \"#0f766e\"
      secondaryColor: \"#14b8a6\"
      accentColor: \"#115e59\"
    features:
      supportedLanguages: [\"en\", \"es\", \"zh\"]
    config:
      defaultLanguage: en

  st-marys:
    name: St. Mary\x27s Medical Center
    status: active
    type: hospital
    features:
      aiGeneration: false
      expertPortal: false

  closed-clinic:
    name: Closed Clinic
    status: suspended
    type: clinic
"

theorem get?_empty (d : TenantDirectory) : d.get? (.str "") = .ok none := by
  simp [get?, Datum.truthy]
  rfl

end TenantDirectory

end TenantAuth
