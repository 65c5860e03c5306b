import RequestPipeline.Policy.CrossOrigin

/-!
# Preflights that are let through

A preflight asks for an origin, a method and any number of request headers. What it asks for is
allowed if each of the three can be read and stands in the policy (`AdmitsOrigin`, `AdmitsMethod`,
`AdmitsHeaders`). The answer looks at less: a method that cannot be read, headers that cannot be
read and every field of headers behind the first are passed over (`PassesMethod`, `PassesHeaders`).
Of preflights that can be read in full both say the same (`Legible`, `preflight_noContent_iff`); of
others they do not (`preflight_passes_over`).
-/

set_option autoImplicit false

namespace RequestPipeline

open Http Text

namespace CrossOrigin

variable {p : CrossOrigin} {c : Call}

/-! ## What is asked for -/

/-- The method that a preflight asks about, if its first field about a method names one. -/
def askedMethod? (c : Call) : Option Method :=
  (c.headers.readable? requestMethodName).bind Method.ofName?

/-- Every name in a list of headers is allowed. -/
def AllowsNames (p : CrossOrigin) (s : String) : Prop :=
  ∀ name ∈ requestedNames s, name ≠ "" → p.headers.contains name = true

/-- The origin can be read and is allowed. -/
def AdmitsOrigin (p : CrossOrigin) (c : Call) : Prop :=
  ∃ origin, c.headers.readable? originName = some origin ∧ p.origins.allows origin = true

/-- A method is asked about and is allowed. -/
def AdmitsMethod (p : CrossOrigin) (c : Call) : Prop :=
  ∃ m, askedMethod? c = some m ∧ p.methods.contains m.name = true

/-- Every header is allowed, or every name in every field that asks for headers is. -/
def AdmitsHeaders (p : CrossOrigin) (c : Call) : Prop :=
  p.headers.contains "*" = true ∨
    ∀ v ∈ c.headers.values requestHeadersName, ∃ s, v.readable? = some s ∧ p.AllowsNames s

/-- If a method is asked about, it is allowed. -/
def PassesMethod (p : CrossOrigin) (c : Call) : Prop :=
  ∀ m, askedMethod? c = some m → p.methods.contains m.name = true

/-- Every header is allowed, or every name in the first field that asks for headers is, if this can
be read. -/
def PassesHeaders (p : CrossOrigin) (c : Call) : Prop :=
  p.headers.contains "*" = true ∨
    ∀ s, c.headers.readable? requestHeadersName = some s → p.AllowsNames s

/-- A preflight asks about a method, and for headers in at most one field, which can be read. -/
structure Legible (c : Call) : Prop where
  method : (askedMethod? c).isSome = true
  single : (c.headers.values requestHeadersName).length ≤ 1
  readable : ∀ v ∈ c.headers.values requestHeadersName, v.readable?.isSome = true

/-- A method that is asked about is admitted exactly if it is not refused. -/
theorem admitsMethod_iff (h : Legible c) : p.AdmitsMethod c ↔ p.PassesMethod c := by
  obtain ⟨m, hm⟩ := Option.isSome_iff_exists.mp h.method
  simp [AdmitsMethod, PassesMethod, hm]

/-- Headers that can be read in full are admitted exactly if none of them is refused. -/
theorem admitsHeaders_iff (h : Legible c) : p.AdmitsHeaders c ↔ p.PassesHeaders c := by
  obtain ⟨-, hsingle, hreadable⟩ := h
  unfold AdmitsHeaders PassesHeaders Headers.readable? Headers.first?
  match hvalues : c.headers.values requestHeadersName with
  | [] => simp
  | [v] =>
    obtain ⟨s, hs⟩ := Option.isSome_iff_exists.mp (hreadable v (by simp [hvalues]))
    simp [hs]
  | v :: w :: vs => simp [hvalues] at hsingle

/-! ## The answer -/

theorem any_refused_iff :
    (askedMethod? c).any (fun m => !p.methods.contains m.name) = true ↔ ¬ p.PassesMethod c := by
  cases h : askedMethod? c <;> simp [PassesMethod, h]

theorem find_refused_iff {asked : Option String} :
    ((asked.elim [] requestedNames).find? fun name => !p.allowsHeader name) = none ↔
      ∀ s, asked = some s → p.AllowsNames s := by
  cases asked with
  | none => simp
  | some s =>
    simp only [Option.elim, List.find?_eq_none, AllowsNames, allowsHeader, Option.some.injEq,
      forall_eq']
    refine forall₂_congr fun name _ => ?_
    by_cases hname : name = "" <;> simp [hname]

/-- A preflight is let through if its origin is allowed and nothing else is refused. -/
theorem judge_ok_iff :
    (∃ origin, p.judge c = .ok origin) ↔
      p.AdmitsOrigin c ∧ p.PassesMethod c ∧ p.PassesHeaders c := by
  unfold judge AdmitsOrigin
  cases c.headers.readable? originName with
  | none => simp
  | some o =>
    by_cases horigin : p.origins.allows o = true
    · -- the origin is allowed: the method decides, and behind it the headers
      by_cases hany : (askedMethod? c).any (fun m => !p.methods.contains m.name) = true
      · have hmethod := any_refused_iff.mp hany
        unfold askedMethod? at hany
        simp [hany, horigin, hmethod]
      · have hmethod : p.PassesMethod c := by simpa [any_refused_iff] using hany
        unfold askedMethod? at hany
        by_cases hstar : p.headers.contains "*" = true
        · simp [hany, horigin, hmethod, hstar, PassesHeaders]
        · simp only [hany, horigin, hmethod, hstar, PassesHeaders, ← find_refused_iff]
          cases (c.headers.readable? requestHeadersName).elim [] requestedNames |>.find?
            fun name => !p.allowsHeader name <;> simp [horigin]
    · simp [horigin]

theorem status_preflight_iff :
    (p.preflight c).status = .noContent ↔ ∃ origin, p.judge c = .ok origin := by
  unfold preflight
  cases p.judge c <;>
    simp [Answer.text, Answer.plain, Answer.bare, Status.forbidden, Status.noContent]

/-- A preflight is answered without content exactly if its origin is allowed and what it asks for
passes; otherwise it is refused with the reason. What passes is all that is asked for if the
preflight can be read in full. -/
theorem preflight_noContent_iff (p : CrossOrigin) (c : Call) :
    ((p.preflight c).status = .noContent ↔
      p.AdmitsOrigin c ∧ p.PassesMethod c ∧ p.PassesHeaders c) ∧
    ((p.preflight c).status ≠ .noContent →
      ∃ refusal : Refusal, p.preflight c = .text .forbidden refusal.message) ∧
    (Legible c → ((p.preflight c).status = .noContent ↔
      p.AdmitsOrigin c ∧ p.AdmitsMethod c ∧ p.AdmitsHeaders c)) := by
  have hstatus : (p.preflight c).status = .noContent ↔
      p.AdmitsOrigin c ∧ p.PassesMethod c ∧ p.PassesHeaders c := by
    rw [status_preflight_iff, judge_ok_iff]
  refine ⟨hstatus, fun hrefused => ?_, fun hlegible => ?_⟩
  · cases hjudge : p.judge c with
    | ok origin => exact absurd (status_preflight_iff.mpr ⟨origin, hjudge⟩) hrefused
    | error refusal => exact ⟨refusal, by simp only [preflight, hjudge]⟩
  · rw [hstatus, admitsMethod_iff hlegible, admitsHeaders_iff hlegible]

/-- A policy for the pages of one origin. -/
def single : CrossOrigin := allowOrigin {} "https://app.example.com"

/-- A preflight from that origin with values for a method and for headers. -/
def asking (method : HeaderValue) (headers : List HeaderValue) : Call :=
  { Call.ofAction ⟨"Users", "list", .value⟩ with
    method := .options
    headers := ⟨headers.map (Http.Field.mk requestHeadersName) ++
      [⟨requestMethodName, method⟩, ⟨originName, .ofAscii "https://app.example.com"⟩]⟩ }

/-- A preflight that can be read in full is let through, and so all that it asks for is allowed. -/
theorem preflight_admits_legible :
    let c := asking (.ofAscii "GET") [.ofAscii "Content-Type, Authorization"]
    Legible c ∧ single.AdmitsOrigin c ∧ single.AdmitsMethod c ∧ single.AdmitsHeaders c := by
  intro c
  have hlegible : Legible c :=
    ⟨by decide +kernel, by decide +kernel, by decide +kernel⟩
  have hstatus : (single.preflight c).status = .noContent := by decide +kernel
  exact ⟨hlegible, ((preflight_noContent_iff single c).2.2 hlegible).mp hstatus⟩

/-- A preflight that asks about two methods in one value, which is no token. -/
def twoMethods : Call := asking (.ofAscii "GET, PURGE") []

/-- A preflight that asks for headers in two fields. -/
def twoFields : Call := asking (.ofAscii "GET") [.ofAscii "content-type", .ofAscii "x-secret"]

/-- What cannot be read as a method and what stands in a second field is let through unseen. -/
theorem preflight_passes_over :
    (isPreflight twoMethods = true ∧ (single.preflight twoMethods).status = .noContent ∧
      ¬ single.AdmitsMethod twoMethods) ∧
    (isPreflight twoFields = true ∧ (single.preflight twoFields).status = .noContent ∧
      ¬ single.AdmitsHeaders twoFields) := by
  refine ⟨⟨by decide +kernel, by decide +kernel, ?_⟩, by decide +kernel, by decide +kernel, ?_⟩
  · -- no method can be read off the value
    rintro ⟨m, hm, -⟩
    have hnone : askedMethod? twoMethods = none := by decide +kernel
    simp [hnone] at hm
  · rintro (hstar | hfields)
    · exact absurd hstar (by decide +kernel)
    · -- the name in the second field is not allowed
      obtain ⟨s, hs, hnames⟩ := hfields (.ofAscii "x-secret") (by decide +kernel)
      have hread : (HeaderValue.ofAscii "x-secret").readable? = some "x-secret" := by
        decide +kernel
      obtain rfl : "x-secret" = s := Option.some.inj (hread.symm.trans hs)
      exact absurd (hnames "x-secret" (by decide +kernel) (by decide)) (by decide +kernel)

end CrossOrigin

end RequestPipeline
