import Mathlib.Data.List.Nodup
import RequestPipeline.Proofs.Text.Blank
import RequestPipeline.Run.Dispatcher
import RequestPipeline.Settings.Loader

/-!
# Settings that hold

Settings hold if the log takes its level, no policy that is required is blank or required twice, and
metrics have a name to go under (`Settings.Holds`). Settings that do not hold violate one of these
rules first, and among the policies one of them first (`Settings.Violates`, `FirstFault`). The
search for it keeps the names that it has passed: they are sound, and a name is looked up among them
(`firstBadPolicy_eq_none_iff`, `firstBadPolicy_eq_some_iff`). Validation finds this violation and no
other, so whatever is loaded holds, and whoever runs requests by it requires no policy twice
(`load_validates`).
-/

set_option autoImplicit false

namespace RequestPipeline

open Text

/-! ## Names of policies -/

/-- Names that may follow those that were seen: none is blank, none was seen and none stands twice.
-/
structure SoundNames (seen names : List String) : Prop where
  named : ∀ name ∈ names, trim name ≠ ""
  once : names.Nodup
  fresh : ∀ name ∈ names, name ∉ seen

/-- What is wrong with a name: it is blank, or it is an earlier one. A blank name is told as such,
also if it is an earlier one. -/
inductive NameFault (earlier : List String) (name : String) : String → Prop
  | blank (h : trim name = "") : NameFault earlier name "policy names must not be empty"
  | repeated (hname : trim name ≠ "") (h : name ∈ earlier) :
    NameFault earlier name ("duplicate policy: " ++ name)

/-- What is wrong with the first name that may not follow those in front of it. -/
inductive FirstFault (seen names : List String) (reason : String) : Prop
  | intro (front behind : List String) (name : String) (hnames : names = front ++ name :: behind)
    (hfront : SoundNames seen front) (h : NameFault (front ++ seen) name reason)

variable {seen names : List String} {name reason : String}

theorem soundNames_nil : SoundNames seen [] where
  named := by simp
  once := List.nodup_nil
  fresh := by simp

theorem soundNames_cons_iff : SoundNames seen (name :: names) ↔
    trim name ≠ "" ∧ name ∉ seen ∧ SoundNames (name :: seen) names := by
  constructor
  · rintro ⟨hnamed, honce, hfresh⟩
    obtain ⟨hname, hnamed⟩ := List.forall_mem_cons.mp hnamed
    obtain ⟨hnew, honce⟩ := List.nodup_cons.mp honce
    obtain ⟨hseen, hfresh⟩ := List.forall_mem_cons.mp hfresh
    refine ⟨hname, hseen, hnamed, honce, ?_⟩
    intro n hn hmem
    rcases List.mem_cons.mp hmem with rfl | hmem
    · exact hnew hn
    · exact hfresh n hn hmem
  · rintro ⟨hname, hseen, hnamed, honce, hfresh⟩
    refine ⟨List.forall_mem_cons.mpr ⟨hname, hnamed⟩, List.nodup_cons.mpr ⟨?_, honce⟩,
      List.forall_mem_cons.mpr ⟨hseen, ?_⟩⟩
    · intro hmem
      exact hfresh name hmem List.mem_cons_self
    · intro n hn hmem
      exact hfresh n hn (List.mem_cons_of_mem _ hmem)

theorem not_firstFault_nil : ¬FirstFault seen [] reason := by
  rintro ⟨front, behind, name, hnames, -, -⟩
  simp at hnames

theorem NameFault.congr {earlier earlier' : List String} (h : NameFault earlier name reason)
    (hmem : name ∈ earlier ↔ name ∈ earlier') : NameFault earlier' name reason := by
  cases h with
  | blank h => exact .blank h
  | repeated hname h => exact .repeated hname (hmem.mp h)

theorem firstFault_cons_iff : FirstFault seen (name :: names) reason ↔
    NameFault seen name reason ∨
      trim name ≠ "" ∧ name ∉ seen ∧ FirstFault (name :: seen) names reason := by
  constructor
  · rintro ⟨front, behind, bad, hnames, hfront, h⟩
    cases front with
    | nil =>
      obtain ⟨rfl, rfl⟩ := List.cons.inj hnames
      exact .inl h
    | cons n front =>
      obtain ⟨rfl, rfl⟩ := List.cons.inj hnames
      obtain ⟨hname, hseen, hfront⟩ := soundNames_cons_iff.mp hfront
      -- the first name is an earlier one, whether it counts as passed or as seen
      exact .inr ⟨hname, hseen, front, behind, bad, rfl, hfront,
        h.congr List.perm_middle.symm.mem_iff⟩
  · rintro (h | ⟨hname, hseen, front, behind, bad, rfl, hfront, h⟩)
    · exact ⟨[], names, name, rfl, soundNames_nil, h⟩
    · exact ⟨name :: front, behind, bad, rfl, soundNames_cons_iff.mpr ⟨hname, hseen, hfront⟩,
        h.congr List.perm_middle.mem_iff⟩

/-! ## The search for a name -/

/-- A name has something wrong with it, which is told, or the search goes on behind it. -/
theorem firstBadPolicy_cons (seen names : List String) (name : String) :
    (∃ reason, firstBadPolicy seen (name :: names) = some reason ∧
        ∀ r, NameFault seen name r ↔ r = reason) ∨
      trim name ≠ "" ∧ name ∉ seen ∧
        firstBadPolicy seen (name :: names) = firstBadPolicy (name :: seen) names := by
  rw [firstBadPolicy]
  split
  · next hblank =>
    rw [← trim_eq_empty_iff] at hblank
    refine .inl ⟨_, rfl, fun r => ⟨?_, ?_⟩⟩
    · rintro (_ | hname)
      · rfl
      · exact absurd hblank hname
    · rintro rfl
      exact .blank hblank
  · next hname =>
    rw [← trim_eq_empty_iff] at hname
    split
    · next hseen =>
      rw [List.contains_iff_mem] at hseen
      refine .inl ⟨_, rfl, fun r => ⟨?_, ?_⟩⟩
      · rintro (hblank | _)
        · exact absurd hblank hname
        · rfl
      · rintro rfl
        exact .repeated hname hseen
    · next hseen =>
      rw [List.contains_iff_mem] at hseen
      exact .inr ⟨hname, hseen, rfl⟩

/-- A name that has something wrong with it may not follow those that were seen. -/
theorem NameFault.not_sound (h : NameFault seen name reason) :
    ¬(trim name ≠ "" ∧ name ∉ seen) := by
  rintro ⟨hname, hseen⟩
  cases h with
  | blank h => exact hname h
  | repeated _ h => exact hseen h

/-- The search finds nothing exactly if the names may follow those that were seen. -/
theorem firstBadPolicy_eq_none_iff :
    firstBadPolicy seen names = none ↔ SoundNames seen names := by
  -- on the names that are left; the one that is passed moves to those that were seen
  induction names generalizing seen with
  | nil => exact ⟨fun _ => soundNames_nil, fun _ => rfl⟩
  | cons name names ih =>
    rw [soundNames_cons_iff]
    rcases firstBadPolicy_cons seen names name with ⟨reason, hfound, hfault⟩ | ⟨hname, hseen, hon⟩
    · rw [hfound]
      constructor
      · intro h
        cases h
      · rintro ⟨hname, hseen, -⟩
        exact absurd ⟨hname, hseen⟩ ((hfault reason).mpr rfl).not_sound
    · rw [hon, ih]
      exact ⟨fun h => ⟨hname, hseen, h⟩, fun h => h.2.2⟩

/-- The search finds what is wrong with the first name that may not follow those in front of it. -/
theorem firstBadPolicy_eq_some_iff :
    firstBadPolicy seen names = some reason ↔ FirstFault seen names reason := by
  -- the same induction: a fault of the first name ends the search, and excludes every later one
  induction names generalizing seen with
  | nil =>
    constructor
    · intro h
      cases h
    · intro h
      exact absurd h not_firstFault_nil
  | cons name names ih =>
    rw [firstFault_cons_iff]
    rcases firstBadPolicy_cons seen names name with ⟨found, hfound, hfault⟩ | ⟨hname, hseen, hon⟩
    · rw [hfound, Option.some.injEq, hfault, eq_comm]
      constructor
      · exact .inl
      · rintro (h | ⟨hname, hseen, -⟩)
        · exact h
        · exact absurd ⟨hname, hseen⟩ ((hfault found).mpr rfl).not_sound
    · rw [hon, ih]
      constructor
      · intro h
        exact .inr ⟨hname, hseen, h⟩
      · rintro (h | ⟨-, -, h⟩)
        · exact absurd ⟨hname, hseen⟩ h.not_sound
        · exact h

/-! ## Rules for settings -/

namespace Settings

variable {accepts : String → Bool} {s s' : Settings} {e : SettingsError}

/-- Settings hold, for a log that takes the directives that are accepted. -/
structure Holds (accepts : String → Bool) (s : Settings) : Prop where
  level : accepts s.logging.level = true
  named : ∀ name ∈ s.pipeline.requiredPolicies, trim name ≠ ""
  once : s.pipeline.requiredPolicies.Nodup
  service : s.metrics.enabled = true → trim s.metrics.serviceName ≠ ""

/-- The first rule that settings violate, and how. -/
inductive Violates (accepts : String → Bool) (s : Settings) : SettingsError → Prop
  | level (h : accepts s.logging.level = false) :
    Violates accepts s
      (.invalidValue "logging.level" ("invalid filter directive: " ++ s.logging.level))
  | policies {reason : String} (hlevel : accepts s.logging.level = true)
    (h : FirstFault [] s.pipeline.requiredPolicies reason) :
    Violates accepts s (.invalidValue "pipeline.required_policies" reason)
  | service (hlevel : accepts s.logging.level = true)
    (hpolicies : SoundNames [] s.pipeline.requiredPolicies) (henabled : s.metrics.enabled = true)
    (h : trim s.metrics.serviceName = "") :
    Violates accepts s
      (.invalidValue "metrics.service_name" "must be set when metrics are enabled")

theorem Holds.policies (h : s.Holds accepts) : SoundNames [] s.pipeline.requiredPolicies :=
  ⟨h.named, h.once, by simp⟩

/-- Settings violate no rule exactly if they hold. -/
theorem violation?_eq_none_iff : s.violation? accepts = none ↔ s.Holds accepts := by
  constructor
  · intro h
    unfold violation? at h
    split at h
    · cases h
    · next hlevel =>
      split at h
      · cases h
      · next hpolicies =>
        split at h
        · cases h
        · next hservice =>
          obtain ⟨hnamed, honce, -⟩ := firstBadPolicy_eq_none_iff.mp hpolicies
          refine ⟨by simpa using hlevel, hnamed, honce, fun henabled hblank => hservice ?_⟩
          rw [henabled, trim_eq_empty_iff.mp hblank]
          rfl
  · intro h
    have hpolicies := firstBadPolicy_eq_none_iff.mpr h.policies
    have hservice : (s.metrics.enabled && allBlank s.metrics.serviceName) = false := by
      cases henabled : s.metrics.enabled with
      | false => rfl
      | true => exact Bool.eq_false_iff.mpr (mt trim_eq_empty_iff.mpr (h.service henabled))
    simp [violation?, h.level, hpolicies, hservice]

/-- The violation that is found is that of the first rule that settings violate. -/
theorem violation?_eq_some_iff : s.violation? accepts = some e ↔ s.Violates accepts e := by
  constructor
  · intro h
    unfold violation? at h
    split at h
    · next hlevel =>
      obtain rfl := Option.some.inj h
      exact .level (by simpa using hlevel)
    · next hlevel =>
      have haccepted : accepts s.logging.level = true := by simpa using hlevel
      split at h
      · next hpolicies =>
        obtain rfl := Option.some.inj h
        exact .policies haccepted (firstBadPolicy_eq_some_iff.mp hpolicies)
      · next hpolicies =>
        split at h
        · next hservice =>
          obtain rfl := Option.some.inj h
          obtain ⟨henabled, hblank⟩ := Bool.and_eq_true_iff.mp hservice
          exact .service haccepted (firstBadPolicy_eq_none_iff.mp hpolicies) henabled
            (trim_eq_empty_iff.mpr hblank)
        · cases h
  · intro h
    cases h with
    | level h => simp [violation?, h]
    | policies hlevel h => simp [violation?, hlevel, firstBadPolicy_eq_some_iff.mpr h]
    | service hlevel hpolicies henabled h =>
      simp [violation?, hlevel, firstBadPolicy_eq_none_iff.mpr hpolicies, henabled,
        trim_eq_empty_iff.mp h]

theorem validated_eq_ok_iff : s.validated accepts = .ok s' ↔ s' = s ∧ s.Holds accepts := by
  rw [← violation?_eq_none_iff, validated]
  cases s.violation? accepts with
  | none => simp [eq_comm]
  | some e => simp

theorem validated_eq_error_iff : s.validated accepts = .error e ↔ s.Violates accepts e := by
  rw [← violation?_eq_some_iff, validated]
  cases s.violation? accepts with
  | none => simp
  | some e => simp

end Settings

/-! ## Loading -/

namespace Loader

variable {l : Loader} {accepts : String → Bool} {s : Settings}

/-- What is loaded are the settings with the overrides of the environment, if they hold. -/
theorem load_eq_ok_iff : l.load accepts = .ok s ↔ l.overridden = .ok s ∧ s.Holds accepts := by
  rw [load]
  cases l.overridden with
  | error e => simp [Except.bind]
  | ok t =>
    simp only [Except.bind, Settings.validated_eq_ok_iff, Except.ok.injEq]
    constructor
    · rintro ⟨rfl, h⟩
      exact ⟨rfl, h⟩
    · rintro ⟨rfl, h⟩
      exact ⟨rfl, h⟩

/-- What several steps load. -/
def loadAfter (steps : List LoadStep) (l : Loader) (accepts : String → Bool) :
    Except SettingsError Settings :=
  (Loader.steps steps l).bind fun l => l.load accepts

theorem loadAfter_eq_ok_iff {steps : List LoadStep} :
    loadAfter steps l accepts = .ok s ↔
      ∃ l', Loader.steps steps l = .ok l' ∧ l'.overridden = .ok s ∧ s.Holds accepts := by
  rw [loadAfter]
  cases Loader.steps steps l with
  | error e => simp [Except.bind]
  | ok l' => simp [Except.bind, load_eq_ok_iff]

end Loader

/-- The policies that a dispatcher requires are distinct if the settings hold. -/
theorem Dispatcher.nodup_ofSettings {accepts : String → Bool} {s : Settings} (h : s.Holds accepts)
    (catalog : Catalog) (resolver : Resolver) :
    (ofSettings s catalog resolver).pipeline.options.requiredPolicies.Nodup := by
  -- markers are told apart by their names
  show (s.pipeline.requiredPolicies.map Marker.mk).Nodup
  apply h.once.map
  intro a b hab
  exact Marker.mk.inj hab

/-- Whatever the log accepts, validation lets settings through exactly if they hold, and reports the
first rule that they violate otherwise. What is loaded, in any steps, are the settings with the
overrides of the environment, exactly if they hold, and whoever runs requests by what was loaded
requires no policy twice. -/
theorem load_validates (accepts : String → Bool) :
    (∀ s s' : Settings, s.validated accepts = .ok s' ↔ s' = s ∧ s.Holds accepts) ∧
      (∀ (s : Settings) (e : SettingsError),
        s.validated accepts = .error e ↔ s.Violates accepts e) ∧
      ∀ (steps : List LoadStep) (l : Loader) (s : Settings),
        (Loader.loadAfter steps l accepts = .ok s ↔
          ∃ l', Loader.steps steps l = .ok l' ∧ l'.overridden = .ok s ∧ s.Holds accepts) ∧
        (Loader.loadAfter steps l accepts = .ok s → ∀ (catalog : Catalog) (resolver : Resolver),
          (Dispatcher.ofSettings s catalog resolver).pipeline.options.requiredPolicies.Nodup) := by
  refine ⟨?_, ?_, ?_⟩
  · intro s s'
    exact Settings.validated_eq_ok_iff
  · intro s e
    exact Settings.validated_eq_error_iff
  · intro steps l s
    refine ⟨Loader.loadAfter_eq_ok_iff, ?_⟩
    intro hloaded
    obtain ⟨l', -, -, hholds⟩ := Loader.loadAfter_eq_ok_iff.mp hloaded
    exact Dispatcher.nodup_ofSettings hholds

/-- The policies that a variable requires are loaded in place of those that a text requires, and
each of them is required once. -/
theorem load_validates_variable :
    let steps : List LoadStep :=
      [.production, .text "[pipeline]\nrequired_policies = [\"audit\", \"audit\"]" "toml",
        .variables "app"]
    let l : Loader :=
      { environment := [("APP__PIPELINE__REQUIRED_POLICIES", "cross-origin, audit")] }
    ∃ s, Loader.loadAfter steps l Directive.isValid = .ok s ∧
      s.pipeline.requiredPolicies = ["cross-origin", "audit"] ∧ s.Holds Directive.isValid ∧
      ∀ (catalog : Catalog) (resolver : Resolver),
        (Dispatcher.ofSettings s catalog resolver).pipeline.options.requiredPolicies.Nodup := by
  intro steps l
  -- production has no policies of its own, and its metrics are gone with the text
  have hloaded : Loader.loadAfter steps l Directive.isValid =
      .ok { pipeline := { requiredPolicies := ["cross-origin", "audit"] } } := by
    decide +kernel
  obtain ⟨-, -, hload⟩ := load_validates Directive.isValid
  obtain ⟨hiff, hdistinct⟩ := hload steps l _
  obtain ⟨-, -, -, hholds⟩ := hiff.mp hloaded
  exact ⟨_, hloaded, rfl, hholds, hdistinct hloaded⟩

/-- What is wrong behind the first bad name is not told. -/
example : firstBadPolicy [] ["audit", "cors", "audit", " "] = some "duplicate policy: audit" := by
  decide +kernel

end RequestPipeline
