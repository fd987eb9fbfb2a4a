import DebugBridge.Context.Execution
import DebugBridge.Url.Read

/-!
# Settings

How to reach the backend and how to log.  Every setting has a default, and no other names are
allowed.
-/

namespace DebugBridge

structure BackendConfig where
  url : Url := {
    scheme := "http"
    authority := some { host := .name "localhost", port := some 51237 }
    path := .rooted [[]] }
  contexts : ContextLayout := .serverAndClient
  /-- How often a launch asks again whether the resource has started. -/
  launchRetryIntervalMs : Nat := 200
  pollIntervalMs : Nat := 500
  /-- Time between submitting an expression and reading its result. -/
  evalResultDelayMs : Nat := 1000
  requestTimeoutMs : Nat := 5000
  /-- The resources directory below the server's. -/
  resourcesSubdir : String := "mods/deathmatch/resources"

structure LoggingConfig where
  /-- A level, or directives for single targets. -/
  level : String := "info"
  json : Bool := false
  /-- Whether logs go to standard error, too. -/
  stderr : Bool := true
  /-- A file that logs are appended to. -/
  file : Option String := none
deriving DecidableEq

structure AdapterConfig where
  backend : BackendConfig := {}
  logging : LoggingConfig := {}

namespace BackendConfig

/-- Intervals have at least a millisecond. -/
def launchRetryInterval (config : BackendConfig) : Nat := max 1 config.launchRetryIntervalMs

def pollInterval (config : BackendConfig) : Nat := max 1 config.pollIntervalMs

def evalResultDelay (config : BackendConfig) : Nat := config.evalResultDelayMs

def requestTimeout (config : BackendConfig) : Nat := max 1 config.requestTimeoutMs

theorem launchRetryInterval_pos (config : BackendConfig) : 0 < config.launchRetryInterval := by
  unfold launchRetryInterval
  omega

theorem pollInterval_pos (config : BackendConfig) : 0 < config.pollInterval := by
  unfold pollInterval
  omega

/-- The URL in a text; a refusal repeats the text between quotes. -/
def readUrl (text : String) : Except String Url :=
  match Url.parse text with
  | .ok url => .ok url
  | .error fault => .error (fault.message ++ ": " ++ Text.quoted text)

variable {F : Type → Type} [Format F]

def urlDecoder : F Url := Format.refine readUrl (Format.text "a string representing an URL")

def fields : List (Field F BackendConfig) := [
  Format.field "url" urlDecoder fun url config => { config with url },
  Format.field "contexts" ContextLayout.decoder fun contexts config => { config with contexts },
  Format.field "launch_retry_interval_ms" Format.nat64 fun launchRetryIntervalMs config =>
    { config with launchRetryIntervalMs },
  Format.field "poll_interval_ms" Format.nat64 fun pollIntervalMs config =>
    { config with pollIntervalMs },
  Format.field "eval_result_delay_ms" Format.nat64 fun evalResultDelayMs config =>
    { config with evalResultDelayMs },
  Format.field "request_timeout_ms" Format.nat64 fun requestTimeoutMs config =>
    { config with requestTimeoutMs },
  Format.field "resources_subdir" Format.string fun resourcesSubdir config =>
    { config with resourcesSubdir }]

def decoder : F BackendConfig := Format.record "BackendConfig" true fields {}

def toJson (config : BackendConfig) : Json :=
  .ofMembers [
    ("url", .string config.url.text),
    ("contexts", .string config.contexts.name),
    ("launch_retry_interval_ms", .nat config.launchRetryIntervalMs),
    ("poll_interval_ms", .nat config.pollIntervalMs),
    ("eval_result_delay_ms", .nat config.evalResultDelayMs),
    ("request_timeout_ms", .nat config.requestTimeoutMs),
    ("resources_subdir", .string config.resourcesSubdir)]

end BackendConfig

namespace LoggingConfig

variable {F : Type → Type} [Format F]

def fields : List (Field F LoggingConfig) := [
  Format.field "level" Format.string fun level config => { config with level },
  Format.field "json" Format.boolean fun json config => { config with json },
  Format.field "stderr" Format.boolean fun stderr config => { config with stderr },
  Format.field "file" (Format.optional (Format.text "path string")) fun file config =>
    { config with file }]

def decoder : F LoggingConfig := Format.record "LoggingConfig" true fields {}

def toJson (config : LoggingConfig) : Json :=
  .ofMembers [
    ("level", .string config.level),
    ("json", .bool config.json),
    ("stderr", .bool config.stderr),
    ("file", (config.file.map Json.string).getD .null)]

end LoggingConfig

namespace AdapterConfig

def decoder {F : Type → Type} [Format F] : F AdapterConfig :=
  Format.record "AdapterConfig" true [
    Format.field "backend" BackendConfig.decoder fun backend config => { config with backend },
    Format.field "logging" LoggingConfig.decoder fun logging config => { config with logging }] {}

def toJson (config : AdapterConfig) : Json :=
  .ofMembers [("backend", config.backend.toJson), ("logging", config.logging.toJson)]

end AdapterConfig

end DebugBridge
