import RequestPipeline.Settings.Basic
import RequestPipeline.Settings.Directive

/-!
# Validation of settings

Settings hold if the log directive does, every required policy has a name and is required once, and
metrics have a service name to go under. The first violation is reported.
-/

namespace RequestPipeline

/-- Why settings could not be loaded. -/
inductive SettingsError where
  | fileNotFound (path : String)
  | unreadable (path : String)
  | invalidValue (field reason : String)
  | badVariable (name reason : String)
  | unsupportedFormat (format : String)
  /-- The text is no document of tables, or not one of settings. -/
  | badToml
  /-- The text is no JSON, or not that of settings. -/
  | badJson
  | badDotenv
  deriving DecidableEq, Repr

/-- The message of an error; that of a text that cannot be read depends on the text. -/
def SettingsError.message? : SettingsError → Option String
  | fileNotFound path => some ("configuration file not found: " ++ path)
  | unreadable path => some ("failed to read configuration file: " ++ path)
  | invalidValue field reason =>
    some ("invalid configuration value for " ++ field ++ ": " ++ reason)
  | badVariable name reason =>
    some ("failed to parse environment variable " ++ name ++ ": " ++ reason)
  | unsupportedFormat format => some ("unsupported configuration format: " ++ format)
  | badToml => none
  | badJson => none
  | badDotenv => none

/-- The first name of a list that is blank or was seen before. -/
def firstBadPolicy (seen : List String) : List String → Option String
  | [] => none
  | name :: rest =>
    if Text.allBlank name then some "policy names must not be empty"
    else if seen.contains name then some ("duplicate policy: " ++ name)
    else firstBadPolicy (name :: seen) rest

/-- The first violation of the rules for settings; a log takes the directives that are accepted. -/
def Settings.violation? (s : Settings) (accepts : String → Bool := Directive.isValid) :
    Option SettingsError :=
  if !accepts s.logging.level then
    some (.invalidValue "logging.level" ("invalid filter directive: " ++ s.logging.level))
  else
    match firstBadPolicy [] s.pipeline.requiredPolicies with
    | some reason => some (.invalidValue "pipeline.required_policies" reason)
    | none =>
      if s.metrics.enabled && Text.allBlank s.metrics.serviceName then
        some (.invalidValue "metrics.service_name" "must be set when metrics are enabled")
      else none

/-- The settings, unless they violate a rule. -/
def Settings.validated (s : Settings) (accepts : String → Bool := Directive.isValid) :
    Except SettingsError Settings :=
  match s.violation? accepts with
  | some e => .error e
  | none => .ok s

/-- What setting up a log comes to. -/
inductive LogInit where
  /-- The log is not wanted. -/
  | skipped
  /-- The log can be installed. -/
  | ready
  /-- The level is no directive. -/
  | invalid
  deriving DecidableEq, Repr

/-- Sets up a log as far as nothing is installed. -/
def LogSetup.init (s : LogSetup) : LogInit :=
  if !s.enabled then .skipped else if Directive.isValid s.level then .ready else .invalid

end RequestPipeline
