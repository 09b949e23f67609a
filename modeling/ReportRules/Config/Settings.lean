import ReportRules.Config.Address
import ReportRules.Evidence
import ReportRules.Trace.Filter

/-!
# ReportRules.Config.Settings -- the settings of a deployment

Settings are read from named variables. A variable that is not set has a default; one that is set to
something unusable is an error where the service could not work with it.
-/

namespace ReportRules.Config

/-- The stage at which the service runs. -/
inductive Stage
  | development
  | test
  | production
  deriving Repr, DecidableEq

/-- The settings of a deployment. -/
structure Settings where
  stage : Stage := .development
  host : String := "127.0.0.1"
  port : Nat := 3000
  log : Trace.LogSettings := {}
  /-- Where the rule book is stored; without it the built-in one is used. -/
  rulesPath : Option String := none
  evidenceFields : EvidenceFields := {}
  deriving Repr, DecidableEq

/-- Why settings cannot be used. -/
inductive SettingsError
  | invalidPort
  | invalidHost
  /-- The variable of that name should name a field and is blank. -/
  | emptyFieldKey (name : String)
  deriving Repr, DecidableEq

/-- The sentence that reports an error. -/
def SettingsError.message : SettingsError → String
  | .invalidPort => "APP_PORT must be a valid u16"
  | .invalidHost => "APP_HOST must parse to an IPv4 or IPv6 address"
  | .emptyFieldKey name => name ++ " must name a non-empty form field key"

/-- The values of variables that are set. -/
abbrev Variables :=
  String → Option String

/-- The variables that settings are read from. -/
def variableNames : List String :=
  ["APP_ENV", "APP_HOST", "APP_PORT", "APP_LOG_LEVEL", "AUTOMATION_TRACE_RULES",
   "AUTOMATION_RULES_PATH", "AUTOMATION_PHOTO_MARKER", "AUTOMATION_GPS_FIELD",
   "AUTOMATION_SIGNATURE_FIELD", "RUST_LOG"]

/-- The variable whose filter takes the place of the configured log level. -/
def filterVariable : String :=
  "RUST_LOG"

/-- A word as it is compared: without white space around it and in small letters. -/
def folded (value : String) : String :=
  Text.lowerAscii (Text.trim value)

/-- The stage that a word names. -/
def Stage.ofName (value : String) : Stage :=
  if folded value ∈ ["prod", "production"] then .production
  else if folded value ∈ ["test", "ci"] then .test
  else .development

/-- Whether a word switches something on. -/
def isOn (value : String) : Bool :=
  folded value ∈ ["1", "true", "yes", "on"]

/-- The port that a text writes. -/
def readPort (value : String) : Except SettingsError Nat :=
  match Text.natural? value.toList with
  | some port => if port < 65536 then .ok port else .error .invalidPort
  | none => .error .invalidPort

/-- The field that a variable names. -/
def readFieldKey (vars : Variables) (name default : String) : Except SettingsError String :=
  match vars name with
  | none => .ok default
  | some value =>
    let key := Text.trim value
    if key.isEmpty then .error (.emptyFieldKey name) else .ok key

/-- The fields of evidence that variables name. -/
def readEvidenceFields (vars : Variables) : Except SettingsError EvidenceFields := do
  let defaults : EvidenceFields := {}
  let photoMarker ← readFieldKey vars "AUTOMATION_PHOTO_MARKER" defaults.photoMarker
  let gpsField ← readFieldKey vars "AUTOMATION_GPS_FIELD" defaults.gpsField
  let signatureField ← readFieldKey vars "AUTOMATION_SIGNATURE_FIELD" defaults.signatureField
  .ok { photoMarker, gpsField, signatureField }

namespace Settings

/-- The settings that variables make. -/
def read (vars : Variables) : Except SettingsError Settings := do
  let defaults : Settings := {}
  let port ← ((vars "APP_PORT").map readPort).getD (.ok defaults.port)
  let evidenceFields ← readEvidenceFields vars
  .ok
    { stage := ((vars "APP_ENV").map Stage.ofName).getD defaults.stage
      host := (vars "APP_HOST").getD defaults.host
      port
      log :=
        { level := (vars "APP_LOG_LEVEL").getD defaults.log.level
          traceRules := ((vars "AUTOMATION_TRACE_RULES").map isOn).getD defaults.log.traceRules }
      rulesPath := (vars "AUTOMATION_RULES_PATH").filter fun path => !Text.isBlankText path
      evidenceFields }

/-- The address and port to listen at, as text. The host may be given as `localhost`. -/
def addressText (s : Settings) : Except SettingsError String :=
  if Text.lowerAscii s.host = "localhost" then
    .ok (Address.textWithPort (.v4 [127, 0, 0, 1]) s.port)
  else
    match Address.read? s.host with
    | some address => .ok (address.textWithPort s.port)
    | none => .error .invalidHost

end Settings

end ReportRules.Config
