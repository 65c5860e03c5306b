import RequestPipeline.Settings.Validation
import RequestPipeline.Text.Casing

/-!
# Settings from the environment

A variable named by a prefix, a section and a key, with two underscores between them, overrides one
setting. A variable of any other name is passed over.
-/

namespace RequestPipeline

open Text

/-- Variables of the environment by name, each name once. -/
abbrev Environment := List (String × String)

namespace Environment

/-- The value of a variable by name. An entry is kept as its name, an equals sign and its value, and
a name with an equals sign in it reaches into the value: it stands for what follows one more equals
sign behind it. -/
def value? (env : Environment) (name : String) : Option (List Char) :=
  let name := name.toList
  env.findSome? fun (key, value) => stripFront (name ++ ['=']) (key.toList ++ '=' :: value.toList)

/-- Adds a variable, unless one of its name is there. -/
def addMissing (env : Environment) (name value : String) : Environment :=
  if (env.lookup name).isSome then env else env ++ [(name, value)]

end Environment

/-- A setting that a variable overrides. -/
inductive SettingKey where
  | traceFilters
  | recordMetrics
  | requiredPolicies
  | planCapacity
  | loggingEnabled
  | level
  | format
  | ansi
  | metricsEnabled
  | serviceName
  deriving DecidableEq, Repr

namespace SettingKey

/-- The setting of a section and a key. -/
def ofParts? : List String → Option SettingKey
  | ["PIPELINE", "TRACE_FILTERS"] => some traceFilters
  | ["PIPELINE", "RECORD_METRICS"] => some recordMetrics
  | ["PIPELINE", "REQUIRED_POLICIES"] => some requiredPolicies
  | ["PIPELINE", "PLAN_CACHE_CAPACITY"] => some planCapacity
  | ["LOGGING", "ENABLED"] => some loggingEnabled
  | ["LOGGING", "LEVEL"] => some level
  | ["LOGGING", "FORMAT"] => some format
  | ["LOGGING", "ANSI"] => some ansi
  | ["METRICS", "ENABLED"] => some metricsEnabled
  | ["METRICS", "SERVICE_NAME"] => some serviceName
  | _ => none

/-- The setting that a variable overrides. -/
def ofVariable? (start name : String) : Option SettingKey :=
  (stripFront (start.toList ++ ['_', '_']) name.toList).bind fun rest =>
    ofParts? ((splitDoubleUnderscore rest).map String.ofList)

end SettingKey

/-- A truth value in one of its usual spellings, in any letter case. -/
def readTruth? (value : String) : Option Bool :=
  let low := lower value
  if ["true", "1", "yes", "on"].contains low then some true
  else if ["false", "0", "no", "off"].contains low then some false
  else none

/-- A natural number of 64 bits. -/
def readWord64? (value : String) : Option UInt64 :=
  (Directive.natural? value.toList).bind fun n =>
    if n < Number.limit then some (UInt64.ofNat n) else none

/-- The names between commas, without blanks around them and without empty ones. -/
def readPolicies (value : String) : List String :=
  ((split ',' value).map trim).filter fun name => !name.isEmpty

/-- A value, or the error about its variable. -/
def expect {α : Type} (name reason : String) : Option α → Except SettingsError α
  | some a => .ok a
  | none => .error (.badVariable name reason)

/-- The settings with one overridden by the value of a variable. -/
def Settings.override (s : Settings) (key : SettingKey) (name value : String) :
    Except SettingsError Settings :=
  match key with
  | .traceFilters =>
    (expect name "expected boolean" (readTruth? value)).map fun b =>
      { s with pipeline := { s.pipeline with traceFilters := b } }
  | .recordMetrics =>
    (expect name "expected boolean" (readTruth? value)).map fun b =>
      { s with pipeline := { s.pipeline with recordMetrics := b } }
  | .requiredPolicies =>
    .ok { s with pipeline := { s.pipeline with requiredPolicies := readPolicies value } }
  | .planCapacity =>
    (expect name "expected integer" (readWord64? value)).map fun n =>
      { s with pipeline := { s.pipeline with planCapacity := n } }
  | .loggingEnabled =>
    (expect name "expected boolean" (readTruth? value)).map fun b =>
      { s with logging := { s.logging with enabled := b } }
  | .level => .ok { s with logging := { s.logging with level := value } }
  | .format =>
    (expect name "expected 'json' or 'pretty'" (LogFormat.ofWord? (lower value))).map fun f =>
      { s with logging := { s.logging with format := f } }
  | .ansi =>
    (expect name "expected boolean" (readTruth? value)).map fun b =>
      { s with logging := { s.logging with ansi := b } }
  | .metricsEnabled =>
    (expect name "expected boolean" (readTruth? value)).map fun b =>
      { s with metrics := { s.metrics with enabled := b } }
  | .serviceName => .ok { s with metrics := { s.metrics with serviceName := value } }

/-- The settings after one variable. -/
def Settings.applyVariable (start : String) (s : Settings) (name value : String) :
    Except SettingsError Settings :=
  match SettingKey.ofVariable? start name with
  | some key => s.override key name value
  | none => .ok s

/-- The settings after every variable of the environment, one by one. -/
def Settings.applyEnvironment (start : String) : Environment → Settings →
    Except SettingsError Settings
  | [], s => .ok s
  | (name, value) :: rest, s =>
    (s.applyVariable start name value).bind (applyEnvironment start rest)

end RequestPipeline
