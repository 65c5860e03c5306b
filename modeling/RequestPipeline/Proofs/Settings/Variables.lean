import RequestPipeline.Proofs.Settings.Layers
import RequestPipeline.Proofs.Text.Blank
import RequestPipeline.Proofs.Text.Split
import RequestPipeline.Text.Entries

/-!
# Variables that override settings

Each setting has one variable (`SettingKey.variableName`), and its value stands for a value of the
setting (`SettingKey.Means`) or for none, and then it is refused (`SettingKey.Rejected`). A variable
overrides its own setting and leaves all others alone, and a variable of any other name changes
nothing. As each variable has one value, what a setting shows can be looked up
(`SettingKey.overlaid`), and it is of no account in which order the variables are applied
(`applyEnvironment_orderless`).
-/

set_option autoImplicit false

namespace RequestPipeline

open Text

/-! ## Numbers -/

namespace Directive

/-- A sequence of decimal digits writes its value behind the number in front of it. -/
theorem decimal?_eq_some_iff {n m : Nat} {cs : List Char} :
    decimal? n cs = some m ↔
      (∀ c ∈ cs, c.isDigit = true) ∧ m = Nat.ofDigitChars 10 cs n := by
  induction cs generalizing n with
  | nil => simpa [decimal?, Nat.ofDigitChars] using eq_comm
  | cons c cs ih =>
    have hvalue : Nat.ofDigitChars 10 (c :: cs) n =
        Nat.ofDigitChars 10 cs (n * 10 + (c.toNat - 0x30)) := by
      rw [Nat.mul_comm]
      rfl
    by_cases hc : c.isDigit = true
    · rw [decimal?, if_pos hc, ih, hvalue]
      simp [hc]
    · rw [decimal?, if_neg hc]
      simp [hc]

/-- A natural number is one digit or more, and a plus sign may stand in front of them. -/
theorem natural?_eq_some_iff {n : Nat} {cs : List Char} :
    natural? cs = some n ↔
      ∃ digits, (cs = digits ∨ cs = '+' :: digits) ∧ digits ≠ [] ∧
        (∀ c ∈ digits, c.isDigit = true) ∧ n = Nat.ofDigitChars 10 digits 0 := by
  have hplus : Char.isDigit '+' = false := by decide
  constructor
  · intro h
    unfold natural? at h
    split at h
    · cases h
    · cases h
    · next rest hrest =>
      obtain ⟨hdigits, hn⟩ := decimal?_eq_some_iff.mp h
      refine ⟨rest, .inr rfl, ?_, hdigits, hn⟩
      rintro rfl
      exact hrest rfl
    · next hne _ _ =>
      obtain ⟨hdigits, hn⟩ := decimal?_eq_some_iff.mp h
      exact ⟨cs, .inl rfl, hne, hdigits, hn⟩
  · rintro ⟨digits, hcs, hne, hdigits, hn⟩
    have hdecimal : decimal? 0 digits = some n := decimal?_eq_some_iff.mpr ⟨hdigits, hn⟩
    -- a sign is read only where a digit is behind it
    obtain ⟨c, rest, rfl⟩ := List.exists_cons_of_ne_nil hne
    rcases hcs with rfl | rfl
    · -- the first digit is no plus sign
      have hc : c ≠ '+' := by
        rintro rfl
        simp [hplus] at hdigits
      unfold natural?
      split
      · next h => cases h
      · next h => exact absurd (List.cons.inj h).1 hc
      · next h => exact absurd (List.cons.inj h).1 hc
      · exact hdecimal
    · exact hdecimal

end Directive

/-! ## What values mean -/

namespace SettingKey

/-- The name of the variable that overrides a setting: how it starts, the section and the setting,
with two underscores between them. -/
def variableName (start : String) (k : SettingKey) : String :=
  "__".intercalate [start, upper k.group.name, upper k.name]

/-- What the value of a variable stands for; some values stand for nothing. -/
def Means (value : String) (v : SettingValue) : SettingKey → Prop
  | traceFilters | recordMetrics | loggingEnabled | ansi | metricsEnabled =>
    (v = .truth true ∧ lower value ∈ ["true", "1", "yes", "on"]) ∨
      (v = .truth false ∧ lower value ∈ ["false", "0", "no", "off"])
  | requiredPolicies => v = .texts (readPolicies value)
  | planCapacity =>
    ∃ digits, (value.toList = digits ∨ value.toList = '+' :: digits) ∧ digits ≠ [] ∧
      (∀ c ∈ digits, c.isDigit = true) ∧
      ∃ n : UInt64, n.toNat = Nat.ofDigitChars 10 digits 0 ∧ v = .number n
  | level | serviceName => v = .text value
  | format => ∃ f : LogFormat, lower value = f.word ∧ v = .format f

/-- The variable of a setting has a value that stands for nothing. -/
def Rejected (start : String) (env : Environment) (k : SettingKey) : Prop :=
  ∃ value, (k.variableName start, value) ∈ env ∧ ∀ v, ¬ k.Means value v

/-- What the message says about a value that stands for nothing. -/
def expectation : SettingKey → String
  | planCapacity => "expected integer"
  | format => "expected 'json' or 'pretty'"
  | _ => "expected boolean"

end SettingKey

section Readers

variable {value : String}

theorem readTruth?_eq_some_iff {b : Bool} :
    readTruth? value = some b ↔
      (b = true ∧ lower value ∈ ["true", "1", "yes", "on"]) ∨
        (b = false ∧ lower value ∈ ["false", "0", "no", "off"]) := by
  have hdistinct : ∀ w ∈ ["true", "1", "yes", "on"], w ∉ ["false", "0", "no", "off"] := by decide
  simp only [readTruth?, List.contains_iff_mem]
  by_cases htrue : lower value ∈ ["true", "1", "yes", "on"]
  · have hfalse := hdistinct _ htrue
    rw [if_pos htrue]
    simp only [htrue, hfalse, Option.some.injEq, and_true, and_false, or_false, eq_comm]
  · rw [if_neg htrue]
    by_cases hfalse : lower value ∈ ["false", "0", "no", "off"]
    · rw [if_pos hfalse]
      simp only [htrue, hfalse, Option.some.injEq, and_true, and_false, false_or, eq_comm]
    · rw [if_neg hfalse]
      simp only [htrue, hfalse, reduceCtorEq, and_false, or_false]

theorem readWord64?_eq_some_iff {n : UInt64} :
    readWord64? value = some n ↔
      ∃ digits, (value.toList = digits ∨ value.toList = '+' :: digits) ∧ digits ≠ [] ∧
        (∀ c ∈ digits, c.isDigit = true) ∧ n.toNat = Nat.ofDigitChars 10 digits 0 := by
  rw [readWord64?, Option.bind_eq_some_iff]
  constructor
  · rintro ⟨m, hm, hn⟩
    obtain ⟨digits, htext, hne, hdigits, rfl⟩ := Directive.natural?_eq_some_iff.mp hm
    refine ⟨digits, htext, hne, hdigits, ?_⟩
    split at hn
    · next hlt =>
      obtain rfl := Option.some.inj hn
      exact UInt64.toNat_ofNat_of_lt hlt
    · cases hn
  · rintro ⟨digits, htext, hne, hdigits, hn⟩
    refine ⟨n.toNat, Directive.natural?_eq_some_iff.mpr ⟨digits, htext, hne, hdigits, hn⟩, ?_⟩
    have hlt : n.toNat < Number.limit := n.toNat_lt
    rw [if_pos hlt, UInt64.ofNat_toNat]

theorem LogFormat.ofWord?_eq_some_iff {w : String} {f : LogFormat} :
    ofWord? w = some f ↔ w = f.word := by
  constructor
  · intro h
    have hword := List.find?_some h
    exact (beq_iff_eq.mp hword).symm
  · rintro rfl
    exact ofWord?_word f

end Readers

/-! ## One variable -/

namespace SettingKey

variable {start name value : String} {k j : SettingKey} {v : SettingValue} {s : Settings}

/-- The section and the setting of a variable. -/
def parts (k : SettingKey) : List String := [upper k.group.name, upper k.name]

theorem ofParts?_eq_some_iff {ps : List String} : ofParts? ps = some k ↔ ps = k.parts := by
  constructor
  · intro h
    unfold ofParts? at h
    split at h <;> cases h
    all_goals decide +kernel
  · rintro rfl
    cases k <;> decide +kernel

/-- The parts of a variable's name are found where it has two underscores. -/
theorem split_variable (k : SettingKey) :
    splitDoubleUnderscore (['_', '_'].intercalate (k.parts.map String.toList)) =
      k.parts.map String.toList := by
  cases k <;> decide +kernel

theorem toList_variableName (start : String) (k : SettingKey) :
    (k.variableName start).toList =
      start.toList ++ ['_', '_'] ++ ['_', '_'].intercalate (k.parts.map String.toList) := by
  rw [variableName, String.toList_intercalate]
  exact List.intercalate_cons_cons

/-- A setting is overridden by its own variable and by no other. -/
theorem ofVariable?_eq_some_iff :
    ofVariable? start name = some k ↔ name = k.variableName start := by
  rw [ofVariable?, Option.bind_eq_some_iff, ← String.toList_inj, toList_variableName]
  constructor
  · rintro ⟨rest, hrest, hparts⟩
    -- the parts put the rest of the name together again
    have hsplit := congrArg (List.map String.toList) (ofParts?_eq_some_iff.mp hparts)
    simp only [List.map_map, Function.comp_def, String.toList_ofList, List.map_id'] at hsplit
    rw [stripFront_eq_some_iff.mp hrest, ← hsplit, intercalate_splitDoubleUnderscore]
  · intro hname
    refine ⟨_, stripFront_eq_some_iff.mpr hname, ofParts?_eq_some_iff.mpr ?_⟩
    rw [split_variable]
    simp [Function.comp_def]

theorem variableName_injective (h : k.variableName start = j.variableName start) : k = j := by
  have hk := ofVariable?_eq_some_iff.mpr h
  rw [ofVariable?_eq_some_iff.mpr rfl] at hk
  exact Option.some.inj hk

/-- What the value of a variable is read as. -/
def read? (value : String) : SettingKey → Option SettingValue
  | traceFilters | recordMetrics | loggingEnabled | ansi | metricsEnabled =>
    (readTruth? value).map .truth
  | requiredPolicies => some (.texts (readPolicies value))
  | planCapacity => (readWord64? value).map .number
  | level | serviceName => some (.text value)
  | format => (LogFormat.ofWord? (lower value)).map .format

/-- Values are read as what they mean. -/
theorem read?_eq_some_iff : k.read? value = some v ↔ k.Means value v := by
  cases k with
  | traceFilters | recordMetrics | loggingEnabled | ansi | metricsEnabled =>
    simp only [read?, Means, Option.map_eq_some_iff, readTruth?_eq_some_iff]
    constructor
    · rintro ⟨b, ⟨rfl, hword⟩ | ⟨rfl, hword⟩, rfl⟩
      · exact .inl ⟨rfl, hword⟩
      · exact .inr ⟨rfl, hword⟩
    · rintro (⟨rfl, hword⟩ | ⟨rfl, hword⟩)
      · exact ⟨true, .inl ⟨rfl, hword⟩, rfl⟩
      · exact ⟨false, .inr ⟨rfl, hword⟩, rfl⟩
  | requiredPolicies | level | serviceName => simp [read?, Means, eq_comm]
  | planCapacity =>
    simp only [read?, Means, Option.map_eq_some_iff, readWord64?_eq_some_iff]
    constructor
    · rintro ⟨n, ⟨digits, htext, hne, hdigits, hn⟩, rfl⟩
      exact ⟨digits, htext, hne, hdigits, n, hn, rfl⟩
    · rintro ⟨digits, htext, hne, hdigits, n, hn, rfl⟩
      exact ⟨n, ⟨digits, htext, hne, hdigits, hn⟩, rfl⟩
  | format =>
    simp only [read?, Means, Option.map_eq_some_iff, LogFormat.ofWord?_eq_some_iff]
    exact exists_congr fun f => and_congr_right fun _ => eq_comm

theorem read?_eq_none_iff : k.read? value = none ↔ ∀ v, ¬ k.Means value v := by
  rw [Option.eq_none_iff_forall_ne_some]
  exact forall_congr' fun v => not_congr read?_eq_some_iff

/-- A value that means nothing is refused. -/
theorem override_of_read?_eq_none (h : k.read? value = none) :
    s.override k name value = .error (.badVariable name k.expectation) := by
  cases k with
  | requiredPolicies | level | serviceName => cases h
  | traceFilters | recordMetrics | loggingEnabled | ansi | metricsEnabled | planCapacity | format =>
    rw [Settings.override, Option.map_eq_none_iff.mp h]
    rfl

/-- A value that means something is what the setting shows, and all others show what they did. -/
theorem override_of_read?_eq_some (h : k.read? value = some v) :
    ∃ t, s.override k name value = .ok t ∧ k.shown t = v ∧ ∀ j, j ≠ k → j.shown t = j.shown s := by
  cases k with
  | requiredPolicies | level | serviceName =>
    obtain rfl := Option.some.inj h
    refine ⟨_, rfl, rfl, fun j hj => ?_⟩
    cases j <;> first | rfl | exact absurd rfl hj
  | traceFilters | recordMetrics | loggingEnabled | ansi | metricsEnabled | planCapacity | format =>
    obtain ⟨x, hx, rfl⟩ := Option.map_eq_some_iff.mp h
    refine ⟨_, by rw [Settings.override, hx]; rfl, rfl, fun j hj => ?_⟩
    cases j <;> first | rfl | exact absurd rfl hj

/-- Settings are determined by what they show. -/
theorem eq_of_shown {s t : Settings} (h : ∀ k : SettingKey, k.shown s = k.shown t) : s = t := by
  obtain ⟨⟨_, _, _, _⟩, ⟨_, _, _, _⟩, ⟨_, _⟩⟩ := s
  obtain ⟨⟨_, _, _, _⟩, ⟨_, _, _, _⟩, ⟨_, _⟩⟩ := t
  cases h traceFilters
  cases h recordMetrics
  cases h requiredPolicies
  cases h planCapacity
  cases h loggingEnabled
  cases h level
  cases h format
  cases h ansi
  cases h metricsEnabled
  cases h serviceName
  rfl

end SettingKey

/-! ## All variables -/

section Environments

variable {start name value : String} {k : SettingKey} {s : Settings} {env : Environment}

theorem applyVariable_variableName (start value : String) (k : SettingKey) (s : Settings) :
    s.applyVariable start (k.variableName start) value =
      s.override k (k.variableName start) value := by
  rw [Settings.applyVariable, SettingKey.ofVariable?_eq_some_iff.mpr rfl]

/-- A variable of any other name changes nothing. -/
theorem applyVariable_of_unknown (h : ∀ k : SettingKey, name ≠ k.variableName start) :
    s.applyVariable start name value = .ok s := by
  have hnone : SettingKey.ofVariable? start name = none :=
    Option.eq_none_iff_forall_ne_some.mpr fun k hk =>
      h k (SettingKey.ofVariable?_eq_some_iff.mp hk)
  rw [Settings.applyVariable, hnone]

/-- Wherever it stands among others. -/
theorem applyEnvironment_of_unknown (h : ∀ k : SettingKey, name ≠ k.variableName start)
    (before behind : Environment) :
    s.applyEnvironment start (before ++ (name, value) :: behind) =
      s.applyEnvironment start (before ++ behind) := by
  induction before generalizing s with
  | nil =>
    show (s.applyVariable start name value).bind _ = _
    rw [applyVariable_of_unknown h]
    rfl
  | cons e before ih =>
    show (s.applyVariable start e.1 e.2).bind _ = (s.applyVariable start e.1 e.2).bind _
    cases s.applyVariable start e.1 e.2 with
    | error err => rfl
    | ok t => exact ih

/-- What a setting shows where the variables are applied to settings: what its variable is read as,
or what it showed before if there is none. -/
def SettingKey.overlaid (start : String) (env : Environment) (s : Settings) (k : SettingKey) :
    SettingValue :=
  ((env.lookup (k.variableName start)).bind k.read?).getD (k.shown s)

theorem overlaid_cons_of_ne (h : k.variableName start ≠ name) :
    k.overlaid start ((name, value) :: env) s = k.overlaid start env s := by
  rw [SettingKey.overlaid, lookup_cons_of_ne h, SettingKey.overlaid]

theorem overlaid_cons_self {v : SettingValue} (h : k.read? value = some v) :
    k.overlaid start ((k.variableName start, value) :: env) s = v := by
  rw [SettingKey.overlaid, List.lookup_cons_self, Option.bind_some, h, Option.getD_some]

theorem overlaid_of_not_mem (h : k.variableName start ∉ env.map Prod.fst) :
    k.overlaid start env s = k.shown s := by
  rw [SettingKey.overlaid, lookup_eq_none_iff_not_mem.mpr h]
  rfl

/-- Overriding a setting by the value of its variable is what the variable comes to, as it is not
there a second time. -/
theorem overlaid_of_overridden {v : SettingValue} {t : Settings} (hread : k.read? value = some v)
    (hk : k.shown t = v) (hothers : ∀ j : SettingKey, j ≠ k → j.shown t = j.shown s)
    (hfresh : k.variableName start ∉ env.map Prod.fst) (j : SettingKey) :
    j.overlaid start env t = j.overlaid start ((k.variableName start, value) :: env) s := by
  by_cases hj : j = k
  · subst hj
    rw [overlaid_of_not_mem hfresh, hk, overlaid_cons_self hread]
  · have hne : j.variableName start ≠ k.variableName start :=
      fun heq => hj (SettingKey.variableName_injective heq)
    rw [overlaid_cons_of_ne hne, SettingKey.overlaid, SettingKey.overlaid, hothers j hj]

/-- Either the values of all variables are read and every setting shows what its variable is read
as, or the value of some variable is refused. -/
theorem applyEnvironment_cases (start : String) (hnames : (env.map Prod.fst).Nodup)
    (s : Settings) :
    ((∀ (k : SettingKey) (value : String), (k.variableName start, value) ∈ env →
        ∃ v, k.read? value = some v) ∧
      ∃ t, s.applyEnvironment start env = .ok t ∧
        ∀ k : SettingKey, k.shown t = k.overlaid start env s) ∨
      ∃ (k : SettingKey) (value : String), (k.variableName start, value) ∈ env ∧
        k.read? value = none ∧
        s.applyEnvironment start env =
          .error (.badVariable (k.variableName start) k.expectation) := by
  induction env generalizing s with
  | nil => exact .inl ⟨by simp, s, rfl, fun k => rfl⟩
  | cons e env ih =>
    obtain ⟨name, value⟩ := e
    rw [List.map_cons, List.nodup_cons] at hnames
    obtain ⟨hfresh, hnames⟩ := hnames
    by_cases hknown : ∃ k : SettingKey, name = k.variableName start
    · obtain ⟨k, rfl⟩ := hknown
      -- the others are applied to what this variable leaves, and none of them is its own again
      have hstep : s.applyEnvironment start ((k.variableName start, value) :: env) =
          (s.override k (k.variableName start) value).bind
            (Settings.applyEnvironment start env) := by
        rw [← applyVariable_variableName]
        rfl
      cases hread : k.read? value with
      | none =>
        refine .inr ⟨k, value, List.mem_cons_self, hread, ?_⟩
        rw [hstep, SettingKey.override_of_read?_eq_none hread]
        rfl
      | some v =>
        obtain ⟨t, ht, hk, hothers⟩ := SettingKey.override_of_read?_eq_some hread
        rw [ht] at hstep
        rcases ih hnames t with ⟨hall, u, hu, hshown⟩ | ⟨j, w, hj, hnone, herror⟩
        · refine .inl ⟨?_, u, hstep.trans hu, fun j => ?_⟩
          · intro j w hw
            rcases List.mem_cons.mp hw with heq | hw
            · obtain ⟨hname, rfl⟩ := Prod.mk.inj heq
              obtain rfl := SettingKey.variableName_injective hname
              exact ⟨v, hread⟩
            · exact hall j w hw
          · rw [hshown, overlaid_of_overridden hread hk hothers hfresh]
        · exact .inr ⟨j, w, List.mem_cons_of_mem _ hj, hnone, hstep.trans herror⟩
    · have hunknown : ∀ k : SettingKey, name ≠ k.variableName start :=
        fun k heq => hknown ⟨k, heq⟩
      have hstep : s.applyEnvironment start ((name, value) :: env) =
          s.applyEnvironment start env :=
        applyEnvironment_of_unknown hunknown [] env
      have hmem {k : SettingKey} {w : String} :
          (k.variableName start, w) ∈ (name, value) :: env ↔ (k.variableName start, w) ∈ env := by
        rw [List.mem_cons, or_iff_right]
        exact fun heq => hunknown k (Prod.mk.inj heq).1.symm
      simp only [hstep, hmem, overlaid_cons_of_ne (hunknown _).symm]
      exact ih hnames s

/-- Variables are refused exactly if the value of one of them stands for nothing. -/
theorem applyEnvironment_eq_error_iff (hnames : (env.map Prod.fst).Nodup) :
    (∃ e, s.applyEnvironment start env = .error e) ↔ ∃ k, SettingKey.Rejected start env k := by
  rcases applyEnvironment_cases start hnames s with
    ⟨hread, t, ht, -⟩ | ⟨k, value, hmem, hrefused, herror⟩
  · refine iff_of_false (by simp [ht]) ?_
    rintro ⟨k, value, hmem, hmeans⟩
    obtain ⟨v, hv⟩ := hread k value hmem
    exact hmeans v (SettingKey.read?_eq_some_iff.mp hv)
  · exact iff_of_true ⟨_, herror⟩ ⟨k, value, hmem, SettingKey.read?_eq_none_iff.mp hrefused⟩

/-- The error names such a variable. -/
theorem exists_rejected_of_error (hnames : (env.map Prod.fst).Nodup) {e : SettingsError}
    (h : s.applyEnvironment start env = .error e) :
    ∃ k, SettingKey.Rejected start env k ∧
      e = .badVariable (k.variableName start) k.expectation := by
  rcases applyEnvironment_cases start hnames s with
    ⟨-, t, ht, -⟩ | ⟨k, value, hmem, hrefused, herror⟩
  · rw [ht] at h
    cases h
  · rw [herror] at h
    exact ⟨k, ⟨value, hmem, SettingKey.read?_eq_none_iff.mp hrefused⟩, (Except.error.inj h).symm⟩

theorem exists_applied (hnames : (env.map Prod.fst).Nodup)
    (h : ∀ k, ¬ SettingKey.Rejected start env k) (s : Settings) :
    ∃ t, s.applyEnvironment start env = .ok t ∧
      ∀ k : SettingKey, k.shown t = k.overlaid start env s := by
  rcases applyEnvironment_cases start hnames s with
    ⟨-, happlied⟩ | ⟨k, value, hmem, hrefused, -⟩
  · exact happlied
  · exact absurd ⟨value, hmem, SettingKey.read?_eq_none_iff.mp hrefused⟩ (h k)

/-- What a setting shows behind its variable is what the value stands for. -/
theorem means_iff_overlaid_eq (hnames : (env.map Prod.fst).Nodup) {v : SettingValue}
    (h : ¬ SettingKey.Rejected start env k) (hmem : (k.variableName start, value) ∈ env) :
    k.Means value v ↔ k.overlaid start env s = v := by
  obtain ⟨w, hw⟩ : ∃ w, k.read? value = some w := by
    by_contra hrefused
    exact h ⟨value, hmem, fun w hw => hrefused ⟨w, SettingKey.read?_eq_some_iff.mpr hw⟩⟩
  rw [SettingKey.overlaid, (lookup_eq_some_iff_mem hnames).mpr hmem, Option.bind_some, hw,
    Option.getD_some, ← SettingKey.read?_eq_some_iff, hw, Option.some.injEq]

/-! ## Another order -/

variable {order : Environment}

theorem rejected_of_perm (hp : order.Perm env) :
    SettingKey.Rejected start order k ↔ SettingKey.Rejected start env k :=
  exists_congr fun _ => and_congr_left fun _ => hp.mem_iff

/-- What a setting shows is looked up, so the order does not matter to it. -/
theorem overlaid_of_perm (hnames : (order.map Prod.fst).Nodup) (hp : order.Perm env) :
    k.overlaid start order s = k.overlaid start env s := by
  rw [SettingKey.overlaid, lookup_of_perm hnames hp, SettingKey.overlaid]

end Environments

/-! ## Lists of names -/

/-- An item of a list that is written with commas: a name with blanks around it, or nothing but
blanks if the name is empty. -/
structure ListItem where
  before : String
  name : String
  after : String

namespace ListItem

/-- The item as it is written. -/
def text (i : ListItem) : String := i.before ++ i.name ++ i.after

/-- The blanks are blanks, and the name has no comma and no blanks at its ends. -/
structure Plain (i : ListItem) : Prop where
  before : allBlank i.before = true
  after : allBlank i.after = true
  single : ',' ∉ i.name.toList
  trimmed : trim i.name = i.name

variable {i : ListItem}

theorem Plain.trim_text (h : i.Plain) : trim i.text = i.name :=
  (trim_padded i.name h.before h.after).trans h.trimmed

theorem Plain.not_mem_text (h : i.Plain) : ',' ∉ i.text.toList := by
  have hblank {s : String} (hs : allBlank s = true) : ',' ∉ s.toList := fun hmem =>
    absurd (List.all_eq_true.mp hs _ hmem) (by decide)
  simp only [text, String.toList_append, List.mem_append, not_or]
  exact ⟨⟨hblank h.before, h.single⟩, hblank h.after⟩

end ListItem

/-- A list is read as its names, whatever blanks are around them and however many items are
empty. -/
theorem readPolicies_intercalate {items : List ListItem} (h : ∀ i ∈ items, i.Plain) :
    readPolicies (",".intercalate (items.map ListItem.text)) =
      (items.map ListItem.name).filter fun name => !name.isEmpty := by
  by_cases hitems : items = []
  · subst hitems
    decide +kernel
  · have hsplit : split ',' (",".intercalate (items.map ListItem.text)) =
        items.map ListItem.text := by
      refine split_intercalate (by simpa using hitems) fun part hpart => ?_
      obtain ⟨i, hi, rfl⟩ := List.mem_map.mp hpart
      exact (h i hi).not_mem_text
    rw [readPolicies, hsplit, List.map_map]
    congr 1
    exact List.map_congr_left fun i hi => (h i hi).trim_text

/-! ## Order -/

/-- Whatever the order in which variables are applied to settings: they are refused if and only if
the value of one of the ten variables stands for nothing, and then the error names such a variable.
Otherwise they come to the same settings, in which every setting that has a variable shows what its
value means, and every other one shows what it did. A variable of another name changes nothing,
wherever it stands. A list of policies is read as the names in it, whatever blanks and empty items
are around them. -/
theorem applyEnvironment_orderless (start : String) (base : Settings) {env : Environment}
    (hnames : (env.map Prod.fst).Nodup) :
    (∀ order, order.Perm env →
      ((∃ e, base.applyEnvironment start order = .error e) ↔
        ∃ k, SettingKey.Rejected start env k) ∧
      ∀ e, base.applyEnvironment start order = .error e →
        ∃ k, SettingKey.Rejected start env k ∧
          e = .badVariable (k.variableName start) k.expectation) ∧
      ((∀ k, ¬ SettingKey.Rejected start env k) → ∃ t,
        (∀ order, order.Perm env → base.applyEnvironment start order = .ok t) ∧
        (∀ (k : SettingKey) value, (k.variableName start, value) ∈ env →
          ∀ v, k.Means value v ↔ k.shown t = v) ∧
        ∀ k : SettingKey, k.variableName start ∉ env.map Prod.fst → k.shown t = k.shown base) ∧
      (∀ name, (∀ k : SettingKey, name ≠ k.variableName start) → ∀ value before behind,
        base.applyEnvironment start (before ++ (name, value) :: behind) =
          base.applyEnvironment start (before ++ behind)) ∧
      ∀ items : List ListItem, (∀ i ∈ items, i.Plain) →
        SettingKey.requiredPolicies.Means (",".intercalate (items.map ListItem.text))
          (.texts ((items.map ListItem.name).filter fun name => !name.isEmpty)) := by
  have hkeys {order : Environment} (hp : order.Perm env) : (order.map Prod.fst).Nodup :=
    (hp.map Prod.fst).nodup_iff.mpr hnames
  refine ⟨fun order hp => ⟨?_, fun e he => ?_⟩, fun hnone => ?_, ?_, ?_⟩
  · rw [applyEnvironment_eq_error_iff (hkeys hp)]
    exact exists_congr fun k => rejected_of_perm hp
  · obtain ⟨k, hk, rfl⟩ := exists_rejected_of_error (hkeys hp) he
    exact ⟨k, (rejected_of_perm hp).mp hk, rfl⟩
  · obtain ⟨t, -, hshown⟩ := exists_applied hnames hnone base
    refine ⟨t, fun order hp => ?_, fun k value hmem v => ?_, fun k hk => ?_⟩
    · -- whatever the order comes to shows the same
      obtain ⟨u, hu, hshown'⟩ :=
        exists_applied (hkeys hp) (fun k => mt (rejected_of_perm hp).mp (hnone k)) base
      have hsame : u = t := SettingKey.eq_of_shown fun k => by
        rw [hshown, hshown', overlaid_of_perm (hkeys hp) hp]
      rw [hu, hsame]
    · rw [hshown]
      exact means_iff_overlaid_eq hnames (hnone k) hmem
    · rw [hshown, overlaid_of_not_mem hk]
  · intro name hunknown value before behind
    exact applyEnvironment_of_unknown hunknown before behind
  · intro items hplain
    exact congrArg SettingValue.texts (readPolicies_intercalate hplain).symm

/-- Three variables, one of them of an unknown name, come to the same settings whatever their order,
and a value that means nothing is refused whatever else is there. -/
theorem applyEnvironment_orderless_mixed :
    let env : Environment :=
      [("APP__LOGGING__LEVEL", "warn"), ("APP__METRICS__ENABLED", "On"), ("APPLE", "1")]
    let wrong : Environment := [("APP__METRICS__ENABLED", "maybe"), ("APP__LOGGING__ANSI", "no")]
    let items : List ListItem := [⟨" ", "cors", ""⟩, ⟨"", "", " "⟩, ⟨"", "errors", "\t"⟩]
    (∃ t, (∀ order, order.Perm env → Settings.applyEnvironment "APP" order {} = .ok t) ∧
        SettingKey.metricsEnabled.shown t = .truth true ∧
        SettingKey.format.shown t = SettingKey.format.shown {}) ∧
      (∀ order, order.Perm wrong → ∃ e, Settings.applyEnvironment "APP" order {} = .error e) ∧
      Settings.applyEnvironment "APP" [("APPLE", "1")] {} = .ok {} ∧
      SettingKey.requiredPolicies.Means (",".intercalate (items.map ListItem.text))
        (.texts ["cors", "errors"]) := by
  intro env wrong items
  obtain ⟨hfails, happlied, hunknown, hlist⟩ :=
    applyEnvironment_orderless "APP" {} (show (env.map Prod.fst).Nodup by decide)
  obtain ⟨hrefused, -⟩ :=
    applyEnvironment_orderless "APP" {} (show (wrong.map Prod.fst).Nodup by decide)
  have hread : (Settings.applyEnvironment "APP" env {}).toOption.isSome = true := by decide +kernel
  obtain ⟨t, ht, hmeans, hkept⟩ := happlied fun k hk => by
    obtain ⟨e, he⟩ := (hfails env (.refl env)).1.mpr ⟨k, hk⟩
    simp [he, Except.toOption] at hread
  refine ⟨⟨t, ht, ?_, hkept _ (by decide +kernel)⟩, fun order hp => ?_, ?_, ?_⟩
  · exact (hmeans .metricsEnabled "On" (by decide +kernel) _).mp (.inl ⟨rfl, by decide +kernel⟩)
  · refine (hrefused order hp).1.mpr ⟨.metricsEnabled, "maybe", by decide +kernel, ?_⟩
    rintro v (⟨-, hword⟩ | ⟨-, hword⟩)
    · exact absurd hword (by decide +kernel)
    · exact absurd hword (by decide +kernel)
  · exact hunknown "APPLE" (fun k => by cases k <;> decide +kernel) "1" [] []
  · refine hlist items fun i hi => ?_
    simp only [items, List.mem_cons, List.not_mem_nil, or_false] at hi
    rcases hi with rfl | rfl | rfl
    · exact ⟨by decide +kernel, by decide +kernel, by decide, by decide +kernel⟩
    · exact ⟨by decide +kernel, by decide +kernel, by decide, by decide +kernel⟩
    · exact ⟨by decide +kernel, by decide +kernel, by decide, by decide +kernel⟩

end RequestPipeline
