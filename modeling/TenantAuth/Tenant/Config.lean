import TenantAuth.Schema.Lax

/-!
# Tenant configuration

What the portal shows and switches on for one tenant: its name and status, its branding, its
features and its content settings, each part but the logo with a default. A document gives each
field under its camelCase name or its field name, the camelCase one first, and values are read
laxly.
-/

namespace TenantAuth

/-- The default primary colour. -/
def defaultPrimaryColor : String := "#3b82f6"
/-- The default secondary colour. -/
def defaultSecondaryColor : String := "#60a5fa"
/-- The default accent colour. -/
def defaultAccentColor : String := "#1e40af"

/-- The look of a tenant's pages. -/
structure Branding where
  /-- The logo's address. -/
  logo : String
  /-- The page icon's address, if any. -/
  favicon : Option String := none
  /-- The primary colour. -/
  primaryColor : String := defaultPrimaryColor
  /-- The secondary colour. -/
  secondaryColor : String := defaultSecondaryColor
  /-- The accent colour. -/
  accentColor : String := defaultAccentColor
deriving DecidableEq, Repr

/-- The portals and capabilities a tenant has switched on. -/
structure Features where
  /-- Generated summaries. -/
  aiGeneration : Bool := true
  /-- More than one language. -/
  multiLanguage : Bool := true
  /-- The languages offered. -/
  supportedLanguages : List String := ["en"]
  /-- Uploading files. -/
  fileUpload : Bool := true
  /-- The expert portal. -/
  expertPortal : Bool := true
  /-- The clinician portal. -/
  clinicianPortal : Bool := true
  /-- The administration portal. -/
  adminPortal : Bool := true
deriving DecidableEq, Repr

/-- How a tenant's content is prepared. -/
structure TenantSettings where
  /-- Simplifying summaries. -/
  simplificationEnabled : Bool := true
  /-- Translating summaries. -/
  translationEnabled : Bool := true
  /-- The language content starts in. -/
  defaultLanguage : String := "en"
deriving DecidableEq, Repr

/-- A tenant's configuration. -/
structure TenantConfig where
  /-- The tenant's identifier. -/
  id : String
  /-- The tenant's display name. -/
  name : String
  /-- The tenant's status; only `active` tenants accept logins. -/
  status : String := "active"
  /-- The kind of organisation. -/
  type : String := "custom"
  /-- The tenant's branding. -/
  branding : Branding
  /-- The tenant's features. -/
  features : Features := {}
  /-- The tenant's content settings. -/
  config : TenantSettings := {}
deriving DecidableEq, Repr

namespace Branding

/-- The branding as keyword values under field names. -/
def fields (b : Branding) : List (Datum × Datum) :=
  [(.str "logo", .str b.logo), (.str "favicon", Datum.ofOption b.favicon),
   (.str "primary_color", .str b.primaryColor), (.str "secondary_color", .str b.secondaryColor),
   (.str "accent_color", .str b.accentColor)]

/-- The field name each camelCase key stands for. -/
def fieldName? (key : String) : Option String :=
  [("logo", "logo"), ("favicon", "favicon"), ("primaryColor", "primary_color"),
   ("secondaryColor", "secondary_color"), ("accentColor", "accent_color")].lookup key

/-- A key with its camelCase spelling replaced by the field name. -/
def renameKey : Datum → Datum
  | .str k => .str ((fieldName? k).getD k)
  | k => k

/-- Reads branding from keyword values. -/
def read (doc : Datum) (entries : List (Datum × Datum)) : Checked Branding :=
  let r := (Checked.aliased doc entries "logo" "logo" Lax.text).and <|
    (Checked.aliasedOr entries "favicon" "favicon" none Lax.optionalText).and <|
    (Checked.aliasedOr entries "primaryColor" "primary_color" defaultPrimaryColor Lax.text).and <|
    (Checked.aliasedOr entries "secondaryColor" "secondary_color" defaultSecondaryColor
      Lax.text).and <|
    Checked.aliasedOr entries "accentColor" "accent_color" defaultAccentColor Lax.text
  r.map fun (logo, favicon, primaryColor, secondaryColor, accentColor) =>
    { logo, favicon, primaryColor, secondaryColor, accentColor }

/-- The branding with its camelCase keys. -/
def toDatum (b : Branding) : Datum :=
  Datum.record [("logo", .str b.logo), ("favicon", Datum.ofOption b.favicon),
    ("primaryColor", .str b.primaryColor), ("secondaryColor", .str b.secondaryColor),
    ("accentColor", .str b.accentColor)]

end Branding

namespace Features

/-- Reads features from keyword values. -/
def read (entries : List (Datum × Datum)) : Checked Features :=
  let flag (camel name : String) : Checked Bool := Checked.aliasedOr entries camel name true Lax.boolean
  let r := (flag "aiGeneration" "ai_generation").and <|
    (flag "multiLanguage" "multi_language").and <|
    (Checked.aliasedWith entries "supportedLanguages" "supported_languages" ["en"]
      (Checked.items Lax.text)).and <|
    (flag "fileUpload" "file_upload").and <|
    (flag "expertPortal" "expert_portal").and <|
    (flag "clinicianPortal" "clinician_portal").and <|
    flag "adminPortal" "admin_portal"
  r.map fun (aiGeneration, multiLanguage, supportedLanguages, fileUpload, expertPortal,
      clinicianPortal, adminPortal) =>
    { aiGeneration, multiLanguage, supportedLanguages, fileUpload, expertPortal,
      clinicianPortal, adminPortal }

/-- The features with their camelCase keys. -/
def toDatum (f : Features) : Datum :=
  Datum.record [("aiGeneration", .bool f.aiGeneration), ("multiLanguage", .bool f.multiLanguage),
    ("supportedLanguages", .list (f.supportedLanguages.map .str)),
    ("fileUpload", .bool f.fileUpload), ("expertPortal", .bool f.expertPortal),
    ("clinicianPortal", .bool f.clinicianPortal), ("adminPortal", .bool f.adminPortal)]

end Features

namespace TenantSettings

/-- Reads content settings from keyword values. -/
def read (entries : List (Datum × Datum)) : Checked TenantSettings :=
  let r := (Checked.aliasedOr entries "simplificationEnabled" "simplification_enabled" true
      Lax.boolean).and <|
    (Checked.aliasedOr entries "translationEnabled" "translation_enabled" true Lax.boolean).and <|
    Checked.aliasedOr entries "defaultLanguage" "default_language" "en" Lax.text
  r.map fun (simplificationEnabled, translationEnabled, defaultLanguage) =>
    { simplificationEnabled, translationEnabled, defaultLanguage }

/-- The settings with their camelCase keys. -/
def toDatum (s : TenantSettings) : Datum :=
  Datum.record [("simplificationEnabled", .bool s.simplificationEnabled),
    ("translationEnabled", .bool s.translationEnabled),
    ("defaultLanguage", .str s.defaultLanguage)]

end TenantSettings

namespace TenantConfig

/-- Whether the tenant accepts logins: its status is exactly `active`. -/
def isActive (c : TenantConfig) : Bool := c.status == "active"

/-- The configuration with its camelCase keys. -/
def toDatum (c : TenantConfig) : Datum :=
  Datum.record [("id", .str c.id), ("name", .str c.name), ("status", .str c.status),
    ("type", .str c.type), ("branding", c.branding.toDatum),
    ("features", c.features.toDatum), ("config", c.config.toDatum)]

@[simp] theorem isActive_iff (c : TenantConfig) : c.isActive = true ↔ c.status = "active" := by
  simp [isActive]

end TenantConfig

end TenantAuth
