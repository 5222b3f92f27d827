import DeviceVerification.Bytes
import DeviceVerification.Json.Printer
import DeviceVerification.Protocol.Identifier

/-!
# Configuration

A configuration comes from built-in defaults, a global and a project file, and the environment. A
file replaces everything below it as a whole and has to be valid by itself; the environment then
overrides single fields with its well-formed values (`Config.load`).
-/

namespace DeviceVerification

open Json (Draft)

/-- What the verification engine is told. -/
structure VerificationConfig where
  /-- Seconds for which a request may stay unanswered. -/
  requestTimeout : UInt64
  /-- Seconds by which a request may come from the future. -/
  maxFutureSkew : UInt64
  /-- The forms of the short authentication string that are offered. -/
  sasMethods : List SasMethod
  /-- Whether the legacy MAC may be negotiated. -/
  allowLegacyMac : Bool
  deriving DecidableEq, Repr

/-- What the log is told. -/
structure LoggingConfig where
  level : String
  json : Bool
  deriving DecidableEq, Repr

/-- A complete configuration. -/
structure Config where
  verification : VerificationConfig
  logging : LoggingConfig
  deriving DecidableEq, Repr

/-- Why a configuration cannot be loaded. -/
inductive ConfigError where
  | unreadable (path : String)
  | malformed (path : String)
  | zeroTimeout
  | noKnownSasMethod
  deriving DecidableEq, Repr

/-- The wording of a configuration error. -/
def ConfigError.message (e : ConfigError) : String :=
  "Configuration error: " ++ match e with
    | .unreadable path => "Failed to read config file " ++ path
    | .malformed path => "Failed to parse config file " ++ path
    | .zeroTimeout => "request_timeout_secs must be positive"
    | .noKnownSasMethod => "short_authentication_strings must contain decimal or emoji"

namespace VerificationConfig

/-- Ten minutes, five minutes of skew, both forms and the legacy MAC. -/
def default : VerificationConfig := ⟨600, 300, [.decimal, .emoji], true⟩

instance : Inhabited VerificationConfig := ⟨default⟩

/-- The MACs that may be negotiated, the preferred one first. -/
def macs (c : VerificationConfig) : List MacMethod :=
  .current :: if c.allowLegacyMac then [.legacy] else []

/-- The configuration in JSON. -/
def toJson (c : VerificationConfig) : Json :=
  .object [("request_timeout_secs", .nat c.requestTimeout.toNat),
    ("max_future_skew_secs", .nat c.maxFutureSkew.toNat),
    ("short_authentication_strings", Identifier.listToJson c.sasMethods),
    ("allow_legacy_mac", .bool c.allowLegacyMac)]

/-- The configuration that a draft holds; a field that is left out has its default. -/
def ofDraft? (d : Draft) : Option VerificationConfig := do
  let r ← d.record? ["request_timeout_secs", "max_future_skew_secs",
    "short_authentication_strings", "allow_legacy_mac"]
  let timeout ← (r.field "request_timeout_secs").orDefault Draft.word? default.requestTimeout
  let skew ← (r.field "max_future_skew_secs").orDefault Draft.word? default.maxFutureSkew
  let sasMethods ← (r.field "short_authentication_strings").orDefault Identifier.listOfDraft?
    default.sasMethods
  let legacy ← (r.field "allow_legacy_mac").orDefault Draft.flag? default.allowLegacyMac
  some ⟨timeout, skew, sasMethods, legacy⟩

end VerificationConfig

namespace LoggingConfig

/-- The level of the engine alone, as plain text. -/
def default : LoggingConfig := ⟨"sasverify_engine=info", false⟩

/-- The configuration in JSON. -/
def toJson (c : LoggingConfig) : Json :=
  .object [("level", .string c.level), ("json", .bool c.json)]

/-- The configuration that a draft holds; a field that is left out has its default. -/
def ofDraft? (d : Draft) : Option LoggingConfig := do
  let r ← d.record? ["level", "json"]
  let level ← (r.field "level").orDefault Draft.text? default.level
  let json ← (r.field "json").orDefault Draft.flag? default.json
  some ⟨level, json⟩

end LoggingConfig

/-- The values of environment variables. -/
abbrev Environment := Dictionary String

namespace Environment

/-- The unsigned 64-bit number that a text writes, with an optional plus sign. -/
def word? (s : String) : Option UInt64 :=
  let digits := match s.toList with
    | '+' :: rest => rest
    | cs => cs
  if digits.isEmpty then none
  else
    (digits.mapM Decimal.digitValue?).bind fun ds =>
      let n := Decimal.ofDigitValues ds
      if n ≤ Number.maxInteger then some (UInt64.ofNat n) else none

/-- The truth value that a text spells. -/
def flag? (s : String) : Option Bool :=
  if s = "true" then some true else if s = "false" then some false else none

/-- The request timeout that overrides the files. -/
def requestTimeout? (env : Environment) : Option UInt64 :=
  ((env.get? "SASVERIFY_REQUEST_TIMEOUT_SECS").bind word?).filter (0 < ·)

/-- The permission of the legacy MAC that overrides the files. -/
def allowLegacyMac? (env : Environment) : Option Bool :=
  (env.get? "SASVERIFY_ALLOW_LEGACY_MAC").bind flag?

/-- The log level that overrides the files. -/
def logLevel? (env : Environment) : Option String := env.get? "SASVERIFY_LOG_LEVEL"

/-- The log format that overrides the files. -/
def logJson? (env : Environment) : Option Bool := (env.get? "SASVERIFY_LOG_JSON").bind flag?

/-- A path below a directory. -/
def joinPath (directory name : String) : String :=
  if directory = "" then name
  else if directory.toList.getLast? = some '/' then directory ++ name
  else directory ++ "/" ++ name

/-- Where the global file lies. -/
def globalPath? (env : Environment) : Option String :=
  let directory := (env.get? "XDG_CONFIG_HOME").or
    ((env.get? "HOME").map fun home => joinPath home ".config")
  directory.map fun d => joinPath (joinPath d "sasverify") "settings.json"

end Environment

namespace Config

/-- The configuration without files and environment. -/
def default : Config := ⟨.default, .default⟩

/-- The configuration in JSON. -/
def toJson (c : Config) : Json :=
  .object [("verification", c.verification.toJson), ("logging", c.logging.toJson)]

/-- The configuration that a draft holds; a section that is left out has its default. -/
def ofDraft? (d : Draft) : Option Config := do
  let r ← d.record? ["verification", "logging"]
  let verification ← (r.field "verification").orDefault VerificationConfig.ofDraft? .default
  let logging ← (r.field "logging").orDefault LoggingConfig.ofDraft? .default
  some ⟨verification, logging⟩

/-- Refuses a timeout of zero, then a list without a known form of the short string. -/
def check (c : Config) : Except ConfigError Config :=
  if c.verification.requestTimeout = 0 then .error .zeroTimeout
  else if c.verification.sasMethods.any (·.isKnown) then .ok c
  else .error .noKnownSasMethod

/-- The configuration in a file with the given bytes. -/
def ofFile (path : String) (bytes : Bytes) : Except ConfigError Config :=
  match String.fromUTF8? ⟨bytes.toArray⟩ with
  | none => .error (.unreadable path)
  | some text =>
    match (Draft.read? text).bind ofDraft? with
    | none => .error (.malformed path)
    | some c => c.check

/-- The configuration in a file, which has to exist. -/
def ofFile? (path : String) (bytes : Option Bytes) : Except ConfigError Config :=
  match bytes with
  | none => .error (.unreadable path)
  | some bytes => ofFile path bytes

/-- The configuration with the overrides of the environment. -/
def override (c : Config) (env : Environment) : Config :=
  { verification :=
      { c.verification with
        requestTimeout := env.requestTimeout?.getD c.verification.requestTimeout
        allowLegacyMac := env.allowLegacyMac?.getD c.verification.allowLegacyMac }
    logging :=
      { level := env.logLevel?.getD c.logging.level
        json := env.logJson?.getD c.logging.json } }

/-- A file of the hierarchy: its path, and its bytes if it exists. -/
structure File where
  path : String
  bytes : Option Bytes
  deriving DecidableEq, Repr

/-- What an existing file of the hierarchy puts in place of the configuration below it. -/
def layer (below : Config) (file : File) : Except ConfigError Config :=
  match file.bytes with
  | none => .ok below
  | some bytes => ofFile file.path bytes

/-- The configuration of the global file, the project file and the environment. -/
def load (global project : File) (env : Environment) : Except ConfigError Config := do
  let c ← default.layer global
  let c ← c.layer project
  .ok (c.override env)

end Config

end DeviceVerification
