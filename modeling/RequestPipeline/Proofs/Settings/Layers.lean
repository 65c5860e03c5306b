import RequestPipeline.Proofs.Settings.Sections
import RequestPipeline.Settings.Loader

/-!
# Layers of settings

Settings are loaded in layers: a preset, then a text or a file. Each single setting is looked at on
its own (`SettingKey.shown`), and so is what a document gives it (`SettingKey.given?`). A document
that is read shows for every setting the value that it gives, and the default for every setting that
it does not give (`SettingKey.shown_decode`). So a text leaves nothing of the preset in front of it:
what it does not set has its default (`steps_replace_preset`), and a preset is kept where the text
is silent exactly if it has the defaults there.
-/

set_option autoImplicit false

namespace RequestPipeline

open Text

/-! ## Single settings -/

/-- The value of a single setting. -/
inductive SettingValue where
  | truth (value : Bool)
  | text (value : String)
  | texts (values : List String)
  | number (value : UInt64)
  | format (value : LogFormat)
  deriving DecidableEq

/-- A section of the settings. -/
inductive SettingSection where
  | pipeline
  | logging
  | metrics
  deriving DecidableEq

namespace SettingSection

/-- The name of a section. -/
def name : SettingSection → String
  | pipeline => "pipeline"
  | logging => "logging"
  | metrics => "metrics"

/-- The names of all sections, in order. -/
def names : List String := [pipeline, logging, metrics].map name

/-- The settings of a section, in order. -/
def keys : SettingSection → List SettingKey
  | pipeline => [.traceFilters, .recordMetrics, .requiredPolicies, .planCapacity]
  | logging => [.loggingEnabled, .level, .format, .ansi]
  | metrics => [.metricsEnabled, .serviceName]

end SettingSection

namespace SettingKey

/-- The section of a setting. -/
def group : SettingKey → SettingSection
  | traceFilters | recordMetrics | requiredPolicies | planCapacity => .pipeline
  | loggingEnabled | level | format | ansi => .logging
  | metricsEnabled | serviceName => .metrics

/-- The name of a setting in its section. -/
def name : SettingKey → String
  | traceFilters => "trace_filters"
  | recordMetrics => "record_metrics"
  | requiredPolicies => "required_policies"
  | planCapacity => "plan_cache_capacity"
  | loggingEnabled | metricsEnabled => "enabled"
  | level => "level"
  | format => "format"
  | ansi => "ansi"
  | serviceName => "service_name"

/-- What settings show for one of them. -/
def shown (s : Settings) : SettingKey → SettingValue
  | traceFilters => .truth s.pipeline.traceFilters
  | recordMetrics => .truth s.pipeline.recordMetrics
  | requiredPolicies => .texts s.pipeline.requiredPolicies
  | planCapacity => .number s.pipeline.planCapacity
  | loggingEnabled => .truth s.logging.enabled
  | level => .text s.logging.level
  | format => .format s.logging.format
  | ansi => .truth s.logging.ansi
  | metricsEnabled => .truth s.metrics.enabled
  | serviceName => .text s.metrics.serviceName

/-- The value of a setting that data stand for. -/
def value? (d : Dialect) (j : Json) : SettingKey → Option SettingValue
  | traceFilters | recordMetrics | loggingEnabled | ansi | metricsEnabled => j.bool?.map .truth
  | requiredPolicies => j.strings?.map .texts
  | planCapacity => j.word64?.map .number
  | level | serviceName => j.str?.map .text
  | format => (LogFormat.decode d j).map .format

/-- The data that a document gives a setting: an entry of its section, if there are both. -/
def given? (doc : Json) (k : SettingKey) : Option Json :=
  (doc.given? SettingSection.names k.group.name).bind
    (Json.given? (k.group.keys.map name) k.name)

/-! ## Documents -/

section Documents

variable {d : Dialect} {k : SettingKey}

open FieldReader

theorem shows_pipeline (hk : k.group = .pipeline) :
    Shows PipelineSettings.fields k.name (fun p => k.shown { pipeline := p })
      fun j => k.value? d j := by
  cases k <;> cases hk
  all_goals
    constructor <;>
      simp [PipelineSettings.fields, name, shown, value?]

theorem shows_logging (hk : k.group = .logging) :
    Shows (LoggingSettings.fields d) k.name (fun l => k.shown { logging := l })
      fun j => k.value? d j := by
  cases k <;> cases hk
  all_goals
    constructor <;>
      simp [LoggingSettings.fields, name, shown, value?]

theorem shows_metrics (hk : k.group = .metrics) :
    Shows MetricsSettings.fields k.name (fun m => k.shown { metrics := m })
      fun j => k.value? d j := by
  cases k <;> cases hk
  all_goals
    constructor <;>
      simp [MetricsSettings.fields, name, shown, value?]

theorem shows_sections :
    Shows (Settings.fields d) "pipeline" Settings.pipeline (PipelineSettings.decode d) ∧
    Shows (Settings.fields d) "logging" Settings.logging (LoggingSettings.decode d) ∧
    Shows (Settings.fields d) "metrics" Settings.metrics (MetricsSettings.decode d) := by
  refine ⟨?_, ?_, ?_⟩
  all_goals
    constructor <;> simp [Settings.fields]

/-- A document that is read shows for each setting the value that it gives, or the default. -/
theorem shown_decode {doc : Json} {s : Settings} (h : Settings.decode d doc = some s)
    (k : SettingKey) :
    Shown (k.given? doc) (fun j => k.value? d j) (k.shown s) (k.shown {}) := by
  obtain ⟨hpipeline, hlogging, hmetrics⟩ := shows_sections (d := d)
  cases hk : k.group with
  | pipeline =>
    have hs : k.shown s = k.shown { pipeline := s.pipeline } := by cases k <;> cases hk <;> rfl
    rw [hs, given?, hk]
    exact FieldReader.shown_decode_within hpipeline (shows_pipeline hk) h
  | logging =>
    have hs : k.shown s = k.shown { logging := s.logging } := by cases k <;> cases hk <;> rfl
    rw [hs, given?, hk]
    exact FieldReader.shown_decode_within hlogging (shows_logging hk) h
  | metrics =>
    have hs : k.shown s = k.shown { metrics := s.metrics } := by cases k <;> cases hk <;> rfl
    rw [hs, given?, hk]
    exact FieldReader.shown_decode_within hmetrics (shows_metrics hk) h

end Documents

end SettingKey

/-! ## Presets and texts -/

/-- Settings to start from. -/
inductive Preset where
  | defaults
  | development
  | production
  deriving DecidableEq

namespace Preset

/-- The settings of a preset. -/
def settings : Preset → Settings
  | defaults => {}
  | development => .development
  | production => .production

/-- The step that takes a preset. -/
def step : Preset → LoadStep
  | defaults => .defaults
  | development => .development
  | production => .production

theorem step_eq (p : Preset) (l : Loader) :
    l.step p.step = .ok { l with settings := p.settings } := by
  cases p <;> rfl

end Preset

namespace SettingsFormat

/-- How texts of a format write data down. -/
def dialect : SettingsFormat → Dialect
  | toml => .tables
  | json => .json

/-- The data that a text of a format writes down. -/
def document? (content : String) : SettingsFormat → Option Json
  | toml => Toml.parse? content
  | json => Json.parse? content

end SettingsFormat

theorem Settings.parse_eq_ok_iff {content : String} {format : SettingsFormat} {s : Settings} :
    Settings.parse content format = .ok s ↔
      ∃ doc, format.document? content = some doc ∧ Settings.decode format.dialect doc = some s := by
  rw [← Option.bind_eq_some_iff]
  cases format with
  | toml =>
    simp only [Settings.parse, SettingsFormat.document?, SettingsFormat.dialect]
    cases (Toml.parse? content).bind (Settings.decode .tables) <;> simp
  | json =>
    simp only [Settings.parse, SettingsFormat.document?, SettingsFormat.dialect]
    cases (Json.parse? content).bind (Settings.decode .json) <;> simp

namespace Loader

variable {l : Loader} {content name path : String} {format : SettingsFormat} {s : Settings}

/-- A text replaces the settings. -/
theorem step_text (hname : SettingsFormat.ofName? (lower name) = some format)
    (hparse : Settings.parse content format = .ok s) :
    l.step (.text content name) = .ok { l with settings := s } := by
  simp [step, hname, hparse, Except.map]

/-- A file replaces the settings. -/
theorem step_file (hfind : l.directory.find path = .file content)
    (hname : SettingsFormat.ofName? (fileExtension path) = some format)
    (hparse : Settings.parse content format = .ok s) :
    l.step (.file path) = .ok { l with settings := s } := by
  simp [step, loadFile, hfind, hname, hparse, Except.map]

end Loader

/-- Loading a text behind a preset keeps nothing of the preset. Each setting that the text gives has
the value that it gives, and each setting that it does not give has its default. So what the preset
sets is kept where the text is silent exactly if the preset has the defaults there. -/
theorem steps_replace_preset (p : Preset) (l : Loader) {content name : String}
    {format : SettingsFormat} {s : Settings}
    (hname : SettingsFormat.ofName? (lower name) = some format)
    (hparse : Settings.parse content format = .ok s) :
    ∃ doc, format.document? content = some doc ∧
      Loader.steps [p.step, .text content name] l = .ok { l with settings := s } ∧
      (∀ path, l.directory.find path = .file content →
        SettingsFormat.ofName? (fileExtension path) = some format →
        Loader.steps [p.step, .file path] l = .ok { l with settings := s }) ∧
      (∀ (k : SettingKey) (j : Json), k.given? doc = some j →
        k.value? format.dialect j = some (k.shown s)) ∧
      (∀ k : SettingKey, k.given? doc = none → k.shown s = k.shown {}) ∧
      ((∀ k : SettingKey, k.given? doc = none → k.shown s = k.shown p.settings) ↔
        ∀ k : SettingKey, k.given? doc = none → k.shown p.settings = k.shown {}) := by
  obtain ⟨doc, hdoc, hdecode⟩ := Settings.parse_eq_ok_iff.mp hparse
  have hshown := SettingKey.shown_decode hdecode
  refine ⟨doc, hdoc, ?_, ?_, fun k => (hshown k).present, fun k => (hshown k).absent, ?_⟩
  · simp only [Loader.steps, p.step_eq, Except.bind, Loader.step_text hname hparse]
  · intro path hfind hextension
    have hstep := Loader.step_file (l := { l with settings := p.settings }) hfind hextension hparse
    simp only [Loader.steps, p.step_eq, Except.bind, hstep]
  · -- both sides compare with the default, which is what the settings show there
    constructor
    · intro h k hk
      rw [← h k hk]
      exact (hshown k).absent hk
    · intro h k hk
      rw [h k hk]
      exact (hshown k).absent hk

/-- A text that sets nothing but the level of the log. -/
def levelText : String := "[logging]\nlevel = \"warn\""

/-- The settings that the text writes. -/
def levelSettings : Settings where
  logging := { level := "warn" }

theorem parse_levelText : Settings.parse levelText .toml = .ok levelSettings := by
  have hread : (Toml.parse? levelText).bind (Settings.decode .tables) = some levelSettings := by
    decide +kernel
  simp only [Settings.parse, hread]

theorem given_levelText {doc : Json} (h : Toml.parse? levelText = some doc) :
    SettingKey.metricsEnabled.given? doc = none := by
  have hnone : (Toml.parse? levelText).any
      (fun doc => (SettingKey.metricsEnabled.given? doc).isNone) = true := by decide +kernel
  simpa [h] using hnone

/-- Production offers metrics, and a text that is silent about them takes this back. -/
theorem steps_replace_production :
    SettingsFormat.ofName? (lower "toml") = some .toml ∧
    Settings.parse levelText .toml = .ok levelSettings ∧
    Loader.steps [.production, .text levelText "toml"] {} = .ok { settings := levelSettings } ∧
    SettingKey.metricsEnabled.shown levelSettings = SettingKey.metricsEnabled.shown {} ∧
    SettingKey.metricsEnabled.shown Settings.production = .truth true := by
  have hname : SettingsFormat.ofName? (lower "toml") = some .toml := by decide +kernel
  obtain ⟨doc, hdoc, hsteps, -, -, habsent, -⟩ :=
    steps_replace_preset .production {} hname parse_levelText
  exact ⟨hname, parse_levelText, hsteps, habsent _ (given_levelText hdoc), rfl⟩

/-- Not every preset is kept where a text behind it is silent. -/
theorem steps_keep_no_preset :
    ¬ ∀ (p : Preset) (l l' : Loader) (content name : String) (format : SettingsFormat) (doc : Json),
      SettingsFormat.ofName? (lower name) = some format → format.document? content = some doc →
      Loader.steps [p.step, .text content name] l = .ok l' →
      ∀ k : SettingKey, k.given? doc = none → k.shown l'.settings = k.shown p.settings := by
  intro h
  have hname : SettingsFormat.ofName? (lower "toml") = some .toml := by decide +kernel
  obtain ⟨doc, hdoc, -⟩ := Settings.parse_eq_ok_iff.mp parse_levelText
  have hsteps : Loader.steps [Preset.production.step, .text levelText "toml"] {} =
      .ok { settings := levelSettings } := by
    simp only [Loader.steps, Preset.step_eq, Except.bind, Loader.step_text hname parse_levelText]
  -- production offers metrics, the text is silent about them, and the default is not to
  have hkept := h .production {} _ levelText "toml" .toml doc hname hdoc hsteps .metricsEnabled
    (given_levelText hdoc)
  exact absurd hkept (by decide)

end RequestPipeline
