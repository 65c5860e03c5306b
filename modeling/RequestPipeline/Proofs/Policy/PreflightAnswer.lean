import RequestPipeline.Proofs.Policy.Fields
import RequestPipeline.Proofs.Policy.Preflight
import RequestPipeline.Proofs.Text.Set
import RequestPipeline.Proofs.Text.Split

/-!
# Answers to preflights

A preflight that asks plainly names one origin, one method and at most one list of headers (`Asks`).
What it asks for is allowed (`Admits`), or there is a first check that fails: of the origin, of the
method, or of the headers in the order in which they are listed (`Fails`, `exists_fails`). The
answer is one without content, which tells the origin what it may do, or one that refuses the
preflight for the first failing check (`judge_of_admits`, `judge_of_fails`, `preflight_decides`).
-/

set_option autoImplicit false

namespace RequestPipeline

open Http Text

namespace CrossOrigin

/-! ## What is asked for -/

/-- A preflight asks plainly: its origin and its method stand in one readable value each, and the
headers, if any are asked for, in another. -/
structure Asks (c : Call) (origin : String) (m : Method) (asked : Option String) : Prop where
  origin : (c.headers.values originName).map HeaderValue.readable? = [some origin]
  method : (c.headers.values requestMethodName).map HeaderValue.readable? = [some m.name]
  headers : (c.headers.values requestHeadersName).map HeaderValue.readable? = asked.toList.map some

/-- Everything that is asked for is allowed. -/
structure Admits (p : CrossOrigin) (origin : String) (m : Method) (names : List String) : Prop where
  origin : p.origins.allows origin = true
  method : p.methods.contains m.name = true
  headers : p.headers.contains "*" = true ∨
    ∀ name ∈ names, name ≠ "" → p.headers.contains name = true

/-- The first check that fails. -/
inductive Fails (p : CrossOrigin) (origin : String) (m : Method) (names : List String) :
    Refusal → Prop
  | origin (h : p.origins.allows origin = false) : Fails p origin m names .origin
  | method (horigin : p.origins.allows origin = true) (h : p.methods.contains m.name = false) :
    Fails p origin m names .method
  /-- Every name that is listed in front of the one that is not allowed is allowed, or empty. -/
  | header {front behind : List String} {name : String}
      (horigin : p.origins.allows origin = true) (hmethod : p.methods.contains m.name = true)
      (hstar : p.headers.contains "*" = false) (hnames : names = front ++ name :: behind)
      (hfront : ∀ n ∈ front, n = "" ∨ p.headers.contains n = true) (hname : name ≠ "")
      (h : p.headers.contains name = false) : Fails p origin m names (.header name)

variable {p : CrossOrigin} {c : Call} {origin : String} {m : Method} {asked : Option String}
  {names : List String} {r : Refusal}

/-! ## Names in a list -/

/-- The names in a list are what stands between its commas, without blanks and in lower case. -/
theorem requestedNames_intercalate {parts : List String} (hne : parts ≠ [])
    (hplain : ∀ part ∈ parts, ',' ∉ part.toList) :
    requestedNames (",".intercalate parts) = parts.map fun part => lower (trim part) := by
  have hparts : split ',' (",".intercalate parts) = parts := split_intercalate hne hplain
  rw [requestedNames, hparts]

theorem allowsHeader_iff {name : String} :
    p.allowsHeader name = true ↔ name = "" ∨ p.headers.contains name = true := by
  simp [allowsHeader]

theorem not_allowsHeader_iff {name : String} :
    (!p.allowsHeader name) = true ↔ name ≠ "" ∧ p.headers.contains name = false := by
  simp [allowsHeader]

/-! ## The verdict -/

/-- What is not allowed fails a check, and one of them is the first. -/
theorem exists_fails (h : ¬ p.Admits origin m names) : ∃ r, p.Fails origin m names r := by
  cases horigin : p.origins.allows origin with
  | false => exact ⟨_, .origin horigin⟩
  | true =>
    cases hmethod : p.methods.contains m.name with
    | false => exact ⟨_, .method horigin hmethod⟩
    | true =>
      cases hstar : p.headers.contains "*" with
      | true => exact absurd ⟨horigin, hmethod, .inl hstar⟩ h
      | false =>
        cases hfind : names.find? fun name => !p.allowsHeader name with
        | none =>
          -- no name is refused, so everything would be allowed
          refine absurd ⟨horigin, hmethod, .inr fun name hname hne => ?_⟩ h
          have hallowed := List.find?_eq_none.mp hfind name hname
          rw [not_allowsHeader_iff] at hallowed
          simpa [hne] using hallowed
        | some name =>
          obtain ⟨hrefused, front, behind, hnames, hfront⟩ := List.find?_eq_some_iff_append.mp hfind
          obtain ⟨hne, hcontains⟩ := not_allowsHeader_iff.mp hrefused
          refine ⟨_, .header horigin hmethod hstar hnames (fun n hn => ?_) hne hcontains⟩
          exact allowsHeader_iff.mp (by simpa using hfront n hn)

/-- A preflight that asks plainly is judged by the origin, the method and the names. -/
theorem judge_of_asks (h : Asks c origin m asked) :
    p.judge c =
      if !p.origins.allows origin then .error .origin
      else if !p.methods.contains m.name then .error .method
      else if p.headers.contains "*" then .ok origin
      else
        ((asked.elim [] requestedNames).find? fun name => !p.allowsHeader name).elim (.ok origin)
          fun name => .error (.header name) := by
  have horigin : c.headers.readable? originName = some origin := Headers.readable?_of_once h.origin
  have hmethod : (c.headers.readable? requestMethodName).bind Method.ofName? = some m := by
    rw [Headers.readable?_of_once (o := some m.name) h.method, Option.bind_some,
      Method.ofName?_eq_some_iff]
  have hheaders : c.headers.readable? requestHeadersName = asked :=
    Headers.readable?_of_once h.headers
  simp only [judge, horigin, hmethod, hheaders, Option.any_some]
  cases (asked.elim [] requestedNames).find? fun name => !p.allowsHeader name <;> rfl

theorem judge_of_admits (h : Asks c origin m asked)
    (hadmits : p.Admits origin m (asked.elim [] requestedNames)) : p.judge c = .ok origin := by
  obtain ⟨horigin, hmethod, hheaders⟩ := hadmits
  rw [judge_of_asks h, horigin, hmethod]
  cases hstar : p.headers.contains "*" with
  | true => simp
  | false =>
    have hnone :
        ((asked.elim [] requestedNames).find? fun name => !p.allowsHeader name) = none := by
      rw [List.find?_eq_none]
      intro name hname hrefused
      obtain ⟨hne, hcontains⟩ := not_allowsHeader_iff.mp hrefused
      rcases hheaders with hall | hall
      · simp [hstar] at hall
      · simp [hall name hname hne] at hcontains
    simp [hnone]

/-- A preflight is refused for the first check that fails. -/
theorem judge_of_fails (h : Asks c origin m asked)
    (hfails : p.Fails origin m (asked.elim [] requestedNames) r) : p.judge c = .error r := by
  rw [judge_of_asks h]
  cases hfails with
  | origin horigin => simp [horigin]
  | method horigin hmethod => simp [horigin, hmethod]
  | @header front behind name horigin hmethod hstar hnames hfront hname hcontains =>
    have hfind : ((asked.elim [] requestedNames).find? fun name => !p.allowsHeader name) =
        some name := by
      refine List.find?_eq_some_iff_append.mpr
        ⟨not_allowsHeader_iff.mpr ⟨hname, hcontains⟩, front, behind, hnames, fun n hn => ?_⟩
      simpa using allowsHeader_iff.mpr (hfront n hn)
    simp [horigin, hmethod, hstar, hfind]

/-! ## The answer -/

/-- The lists of a policy can be told: every method and every header name is a header value. -/
def Tellable (p : CrossOrigin) : Prop :=
  ∀ s ∈ p.methods.members ++ p.headers.members, (HeaderValue.ofText? s).isSome = true

theorem isSome_joined {values : List String}
    (h : ∀ s ∈ values, (HeaderValue.ofText? s).isSome = true) {s : String}
    (hs : joined values = some s) : (HeaderValue.ofText? s).isSome = true := by
  unfold joined at hs
  split at hs
  · cases hs
  · obtain rfl := Option.some.inj hs
    have hsep : (HeaderValue.ofText? ", ").isSome = true :=
      HeaderValue.isSome_ofText?_of_visible (by decide)
    exact HeaderValue.isSome_ofText?_intercalate hsep h

/-- Every text that a preflight is told is a header value. -/
theorem isSome_preflightTexts (hlists : p.Tellable)
    (horigin : (HeaderValue.ofText? origin).isSome = true) :
    ∀ f ∈ p.preflightTexts origin, ∀ s, f.2 = some s → (HeaderValue.ofText? s).isSome = true := by
  obtain ⟨hmethods, hheaders⟩ := List.forall_mem_append.mp hlists
  have hgranted : (HeaderValue.ofText? (p.grantedText origin)).isSome = true := by
    unfold grantedText
    cases p.origins with
    | any => exact HeaderValue.isSome_ofText?_of_visible (s := "*") (by decide)
    | listed origins => exact horigin
  simp only [preflightTexts, List.forall_mem_cons]
  refine ⟨?_, ?_, ?_, ?_, ?_, ?_, by simp⟩
  · rintro s ⟨⟩
    exact hgranted
  · intro s hs
    exact isSome_joined (fun t ht => hmethods t (mem_sorted.mp ht)) hs
  · intro s hs
    exact isSome_joined (fun t ht => hheaders t (mem_sorted.mp ht)) hs
  · intro s hs
    obtain ⟨-, hs⟩ := Option.ite_none_right_eq_some.mp hs
    obtain rfl := Option.some.inj hs
    exact HeaderValue.isSome_ofText?_of_visible (by decide)
  · intro s hs
    obtain ⟨age, -, rfl⟩ := Option.map_eq_some_iff.mp hs
    exact HeaderValue.isSome_ofText?_toString _
  · rintro s ⟨⟩
    exact HeaderValue.isSome_ofText?_of_visible (by decide)

theorem preflight_of_admits (h : Asks c origin m asked)
    (hadmits : p.Admits origin m (asked.elim [] requestedNames)) :
    p.preflight c =
      { Answer.bare .noContent with headers := insertTexts .empty (p.preflightTexts origin) } := by
  simp only [preflight, judge_of_admits h hadmits, preflightHeaders_eq hadmits.origin]

/-- The fields of an answer without content are those of the table. -/
theorem values_preflight (h : Asks c origin m asked)
    (hadmits : p.Admits origin m (asked.elim [] requestedNames)) (hlists : p.Tellable)
    (n : HeaderName) :
    ((p.preflight c).headers.values n).map some =
      ((p.preflightTexts origin).lookup n).join.toList.map HeaderValue.ofText? := by
  have horigin : (HeaderValue.ofText? origin).isSome = true := by
    obtain ⟨v, -, hv⟩ := List.map_eq_singleton_iff.mp h.origin
    rw [HeaderValue.ofText?_of_readable? hv]
    rfl
  rw [preflight_of_admits h hadmits, values_insertTexts nodup_preflightTexts]
  cases htext : ((p.preflightTexts origin).lookup n).join with
  | none => rfl
  | some s =>
    obtain ⟨front, behind, htable, -⟩ :=
      List.lookup_eq_some_iff.mp (Option.join_eq_some_iff.mp htext)
    have hmem : (n, some s) ∈ p.preflightTexts origin := by simp [htable]
    obtain ⟨v, hv⟩ := Option.isSome_iff_exists.mp
      (isSome_preflightTexts hlists horigin (n, some s) hmem s rfl)
    simp [hv]

/-- A preflight that asks plainly is answered without content exactly if its origin, its method and
every header that is listed, between commas and in any letter case, are allowed. Otherwise it is
refused for the first check that fails. The answer without content says exactly what the policy
allows, its lists sorted and without repetition. -/
theorem preflight_decides (p : CrossOrigin) (h : Asks c origin m asked) :
    let names := asked.elim [] requestedNames
    let answer := p.preflight c
    (∀ parts : List String, parts ≠ [] → (∀ part ∈ parts, ',' ∉ part.toList) →
      asked = some (",".intercalate parts) →
        names = parts.map fun part => lower (trim part)) ∧
    (answer.status = .noContent ↔ p.Admits origin m names) ∧
    (answer.status ≠ .noContent → ∃ r, p.Fails origin m names r) ∧
    (∀ r, p.Fails origin m names r → answer = .text .forbidden r.message) ∧
    (p.Admits origin m names → answer.body = .none ∧
      (p.Tellable → ∀ n, (answer.headers.values n).map some =
        ((p.preflightTexts origin).lookup n).join.toList.map HeaderValue.ofText?)) ∧
    p.methods.Lists (sorted p.methods.members) ∧ p.headers.Lists (sorted p.headers.members) := by
  intro names answer
  have hfails : ∀ r, p.Fails origin m names r → answer = .text .forbidden r.message := by
    intro r hr
    simp only [answer, preflight, judge_of_fails h hr]
  have hadmits : answer.status = .noContent ↔ p.Admits origin m names := by
    constructor
    · -- what is not allowed fails a check, so the answer would be a refusal
      intro hstatus
      apply Classical.byContradiction
      intro hne
      obtain ⟨r, hr⟩ := exists_fails hne
      rw [hfails r hr] at hstatus
      cases hstatus
    · intro hadmits
      simp only [answer, preflight_of_admits h hadmits]
      rfl
  refine ⟨?_, hadmits, ?_, hfails, ?_, p.methods.lists_sorted, p.headers.lists_sorted⟩
  · intro parts hne hplain hasked
    simp only [names, hasked, Option.elim_some]
    exact requestedNames_intercalate hne hplain
  · intro hstatus
    exact exists_fails (mt hadmits.mpr hstatus)
  · intro ha
    refine ⟨?_, values_preflight h ha⟩
    simp only [answer, preflight_of_admits h ha]
    rfl

/-- The second of two headers is not allowed, whatever letter case it is asked for in. -/
theorem preflight_decides_header :
    let c := asking (.ofAscii "GET") [.ofAscii "Content-Type, X-Secret, X-Other"]
    Asks c "https://app.example.com" .get (some "Content-Type, X-Secret, X-Other") ∧
      single.preflight c = .text .forbidden "Header 'x-secret' not allowed" := by
  intro c
  have hasks : Asks c "https://app.example.com" .get (some "Content-Type, X-Secret, X-Other") :=
    ⟨by decide +kernel, by decide +kernel, by decide +kernel⟩
  obtain ⟨hnames, -, -, hfails, -⟩ := preflight_decides single hasks
  have hlist := hnames ["Content-Type", " X-Secret", " X-Other"] (by simp) (by decide) rfl
  refine ⟨hasks, hfails (.header "x-secret") ?_⟩
  rw [hlist]
  have hsplit : ["Content-Type", " X-Secret", " X-Other"].map (fun part => lower (trim part)) =
      ["content-type"] ++ "x-secret" :: ["x-other"] := by decide +kernel
  exact .header (by decide +kernel) (by decide +kernel) (by decide +kernel) hsplit
    (by decide +kernel) (by decide) (by decide +kernel)

end CrossOrigin

end RequestPipeline
