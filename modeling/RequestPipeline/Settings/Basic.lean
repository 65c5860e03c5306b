import RequestPipeline.Filter.Marker
import RequestPipeline.Json.Basic

/-!
# Settings

The settings of an application have a section for running requests, one for its log and one for its
metrics. Whatever is not set has a default; two presets serve development and production.
-/

namespace RequestPipeline

/-- How requests are run. -/
structure PipelineSettings where
  traceFilters : Bool := true
  recordMetrics : Bool := true
  requiredPolicies : List String := []
  /-- How many plans are kept. -/
  planCapacity : UInt64 := 1024
  deriving DecidableEq

/-- The form of the log. -/
inductive LogFormat where
  | json
  | pretty
  deriving DecidableEq, Repr

/-- What is logged, and how. -/
structure LoggingSettings where
  enabled : Bool := true
  /-- A level, or directives for parts of the application. -/
  level : String := "info"
  format : LogFormat := .json
  ansi : Bool := false
  deriving DecidableEq

/-- Whether metrics are offered, and under which name. -/
structure MetricsSettings where
  enabled : Bool := false
  serviceName : String := "bastion"
  deriving DecidableEq

/-- The settings of an application. -/
structure Settings where
  pipeline : PipelineSettings := {}
  logging : LoggingSettings := {}
  metrics : MetricsSettings := {}
  deriving DecidableEq

namespace LogFormat

/-- The name of a format. -/
def word : LogFormat → String
  | json => "json"
  | pretty => "pretty"

/-- The format with a name. -/
def ofWord? (w : String) : Option LogFormat := [json, pretty].find? fun f => f.word == w

theorem ofWord?_word (f : LogFormat) : ofWord? f.word = some f := by
  cases f <;> rfl

end LogFormat

/-- The markers of the policies that every plan has to provide. -/
def PipelineSettings.markers (s : PipelineSettings) : List Marker :=
  s.requiredPolicies.map Marker.mk

namespace Settings

/-- Settings for development: a readable log of everything, no metrics. -/
def development : Settings where
  pipeline := { traceFilters := true, recordMetrics := false }
  logging := { level := "debug", format := .pretty, ansi := true }
  metrics := { enabled := false }

/-- Settings for production: a log for machines, metrics, nothing about single filters. -/
def production : Settings where
  pipeline := { traceFilters := false, recordMetrics := true }
  logging := { level := "info", format := .json, ansi := false }
  metrics := { enabled := true }

/-- The settings made of the sections that are given. -/
def ofSections (pipeline : Option PipelineSettings) (logging : Option LoggingSettings)
    (metrics : Option MetricsSettings) : Settings :=
  ⟨pipeline.getD {}, logging.getD {}, metrics.getD {}⟩

end Settings

/-- How a log is set up. -/
structure LogSetup where
  enabled : Bool := true
  level : String := "info"
  json : Bool := true
  ansi : Bool := false
  /-- Entries are made when something that lasts has ended. -/
  spanEvents : Bool := false
  /-- Entries name the part of the application that they come from. -/
  includeTarget : Bool := true
  deriving DecidableEq

namespace LogSetup

/-- The log of development. -/
def development : LogSetup where
  level := "debug"
  json := false
  ansi := true
  spanEvents := true

/-- The log of production. -/
def production : LogSetup := {}

end LogSetup

/-- The log that settings describe. -/
def LoggingSettings.setup (s : LoggingSettings) : LogSetup where
  enabled := s.enabled
  level := s.level
  json := s.format == .json
  ansi := s.ansi
  spanEvents := s.format == .pretty

/-! ## As data -/

/-- The section as data. -/
def PipelineSettings.toJson (s : PipelineSettings) : Json :=
  .obj [("plan_cache_capacity", .ofNat s.planCapacity.toNat),
    ("record_metrics", .bool s.recordMetrics),
    ("required_policies", .ofStrings s.requiredPolicies),
    ("trace_filters", .bool s.traceFilters)]

/-- The section as data. -/
def LoggingSettings.toJson (s : LoggingSettings) : Json :=
  .obj [("ansi", .bool s.ansi), ("enabled", .bool s.enabled), ("format", .str s.format.word),
    ("level", .str s.level)]

/-- The section as data. -/
def MetricsSettings.toJson (s : MetricsSettings) : Json :=
  .obj [("enabled", .bool s.enabled), ("service_name", .str s.serviceName)]

/-- The settings as data. -/
def Settings.toJson (s : Settings) : Json :=
  .obj [("logging", s.logging.toJson), ("metrics", s.metrics.toJson),
    ("pipeline", s.pipeline.toJson)]

/-! ## As records

In a text the members of a section stand in the order of its fields. -/

/-- The members of the section, in order. -/
def PipelineSettings.members (s : PipelineSettings) : List (String × Json) :=
  [("trace_filters", .bool s.traceFilters), ("record_metrics", .bool s.recordMetrics),
    ("required_policies", .ofStrings s.requiredPolicies),
    ("plan_cache_capacity", .ofNat s.planCapacity.toNat)]

/-- The members of the section, in order. -/
def LoggingSettings.members (s : LoggingSettings) : List (String × Json) :=
  [("enabled", .bool s.enabled), ("level", .str s.level), ("format", .str s.format.word),
    ("ansi", .bool s.ansi)]

/-- The members of the section, in order. -/
def MetricsSettings.members (s : MetricsSettings) : List (String × Json) :=
  [("enabled", .bool s.enabled), ("service_name", .str s.serviceName)]

/-- The members of the settings, in order. -/
def Settings.members (s : Settings) : List (String × Json) :=
  [("pipeline", .obj s.pipeline.members), ("logging", .obj s.logging.members),
    ("metrics", .obj s.metrics.members)]

end RequestPipeline
