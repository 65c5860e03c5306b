import RequestPipeline.Proofs.Http.Sorted
import RequestPipeline.Proofs.Policy.Fields

/-!
# What decorating leaves as it is

A decorated result has its status and its body, and the values of every name but the four that are
set (`values_decorate_ne`). What is set takes the place of what was there: decorating again changes
nothing (`decorate_decorate`), and a result that varied with anything but the origin no longer says
so (`values_decorate_vary`).
-/

set_option autoImplicit false

namespace RequestPipeline.CrossOrigin

open Http Text

variable {p : CrossOrigin} {origin : String} {v : HeaderValue}

/-- The names that are set where a result is decorated. -/
def decoratedNames : List HeaderName :=
  [allowOriginName, allowCredentialsName, exposeHeadersName, varyName]

/-- A result for an origin that is granted nothing stays as it is. -/
theorem decorate_of_no_grant (h : p.origins.grant? origin = none) (a : Answer) :
    p.decorate origin a = a := by
  simp [decorate, h]

/-- A result for an origin that is not allowed stays as it is. -/
theorem decorate_of_not_allowed (h : p.origins.allows origin = false) (a : Answer) :
    p.decorate origin a = a :=
  decorate_of_no_grant (grant?_of_not_allowed h) a

/-- What a name has behind decorating is the text of the table, or what it had. -/
theorem values_decorate_eq (h : p.origins.grant? origin = some v) (a : Answer) (n : HeaderName) :
    (p.decorate origin a).headers.values n =
      match ((p.resultTexts origin).lookup n).join.bind HeaderValue.ofText? with
      | some w => [w]
      | none => a.headers.values n := by
  rw [decorate_eq h]
  exact values_insertTexts nodup_resultTexts n

/-- A decorated result tells the page what its origin is granted. -/
theorem values_decorate (h : p.origins.grant? origin = some v) (a : Answer) :
    (p.decorate origin a).headers.values allowOriginName = [v] := by
  rw [values_decorate_eq h, resultTexts, List.lookup_cons_self]
  simp [ofText?_grantedText h]

/-- A decorated result varies with the origin, and with nothing else. -/
theorem values_decorate_vary (h : p.origins.grant? origin = some v) (a : Answer) :
    (p.decorate origin a).headers.values varyName = [.ofAscii "Origin"] := by
  have hvary : HeaderValue.ofText? "Origin" = some (.ofAscii "Origin") :=
    HeaderValue.ofText?_ofAscii _ (by decide) (by decide)
  have hlookup : (p.resultTexts origin).lookup varyName = some (some "Origin") := rfl
  rw [values_decorate_eq h, hlookup]
  simp [hvary]

/-- Every name but those that are set has the values that it had. -/
theorem values_decorate_ne {n : HeaderName} (hn : n ∉ decoratedNames) (a : Answer) :
    (p.decorate origin a).headers.values n = a.headers.values n := by
  cases h : p.origins.grant? origin with
  | none => rw [decorate_of_no_grant h]
  | some v =>
    have hlookup : (p.resultTexts origin).lookup n = none := lookup_eq_none_iff_not_mem.mpr hn
    rw [values_decorate_eq h, hlookup]
    rfl

theorem status_decorate (p : CrossOrigin) (origin : String) (a : Answer) :
    (p.decorate origin a).status = a.status ∧ (p.decorate origin a).body = a.body := by
  cases h : p.origins.grant? origin with
  | none => simp [decorate_of_no_grant h]
  | some v => simp [decorate_eq h]

/-- The second time, every name is set to the value that it has. -/
theorem values_decorate_decorate (p : CrossOrigin) (origin : String) (a : Answer) (n : HeaderName) :
    (p.decorate origin (p.decorate origin a)).headers.values n =
      (p.decorate origin a).headers.values n := by
  cases h : p.origins.grant? origin with
  | none => simp only [decorate_of_no_grant h]
  | some v =>
    rw [values_decorate_eq h]
    cases htext : ((p.resultTexts origin).lookup n).join.bind HeaderValue.ofText? with
    | none => rfl
    | some w => rw [values_decorate_eq h, htext]

theorem sorted_insertTexts {h : Headers} (hs : h.Sorted) (fs : List (HeaderName × Option String)) :
    (insertTexts h fs).Sorted := by
  induction fs generalizing h with
  | nil => exact hs
  | cons f fs ih =>
    rw [insertTexts_cons]
    apply ih
    cases f.2.bind HeaderValue.ofText? with
    | none => exact hs
    | some w => exact hs.insert f.1 w

theorem sorted_decorate (p : CrossOrigin) (origin : String) {a : Answer}
    (hs : a.headers.Sorted) : (p.decorate origin a).headers.Sorted := by
  cases h : p.origins.grant? origin with
  | none => rwa [decorate_of_no_grant h]
  | some v =>
    rw [decorate_eq h]
    exact sorted_insertTexts hs _

/-- Decorating again changes nothing. -/
theorem decorate_decorate {a : Answer} (hs : a.headers.Sorted) :
    p.decorate origin (p.decorate origin a) = p.decorate origin a := by
  have hfirst := sorted_decorate p origin hs
  have hheaders := Headers.eq_of_values (sorted_decorate p origin hfirst) hfirst
    (values_decorate_decorate p origin a)
  obtain ⟨hstatus, hbody⟩ := status_decorate p origin (p.decorate origin a)
  generalize p.decorate origin (p.decorate origin a) = b at hheaders hstatus hbody
  obtain ⟨status, headers, body⟩ := b
  simp only at hheaders hstatus hbody
  rw [hheaders, hstatus, hbody]

/-- A result stays as it is if the origin is not allowed, or if what it is granted is no text of a
header. Otherwise its status, its body and every header that is not set stay as they are, and so
does everything if it is decorated again. Nothing is left of what it varied with but the origin, so
every value of `vary` is kept only if none of them says anything else. -/
theorem decorate_frame (p : CrossOrigin) (origin : String) (a : Answer) :
    let b := p.decorate origin a
    (p.origins.allows origin = false ∨ HeaderValue.ofText? (p.grantedText origin) = none → b = a) ∧
    (p.origins.allows origin = true → ∀ v, HeaderValue.ofText? (p.grantedText origin) = some v →
      b.headers.values allowOriginName = [v] ∧
        b.headers.values varyName = [.ofAscii "Origin"] ∧
        ((∀ w ∈ a.headers.values varyName, w ∈ b.headers.values varyName) ↔
          ∀ w ∈ a.headers.values varyName, w = .ofAscii "Origin")) ∧
    (b.status = a.status ∧ b.body = a.body ∧
      ∀ n, n ∉ decoratedNames → b.headers.values n = a.headers.values n) ∧
    (∀ n, (p.decorate origin b).headers.values n = b.headers.values n) ∧
    (a.headers.Sorted → p.decorate origin b = b) := by
  intro b
  obtain ⟨hstatus, hbody⟩ := status_decorate p origin a
  refine ⟨?_, ?_, ⟨hstatus, hbody, ?_⟩, values_decorate_decorate p origin a, decorate_decorate⟩
  · -- nothing is granted: the origin is not allowed, or it is, but what is granted is no text
    intro h
    apply decorate_of_no_grant
    cases hallows : p.origins.allows origin with
    | false => exact grant?_of_not_allowed hallows
    | true =>
      rw [grant?_of_allowed hallows]
      exact h.resolve_left (by simp [hallows])
  · intro hallows v hv
    have hgrant : p.origins.grant? origin = some v := (grant?_of_allowed hallows).trans hv
    have hvary : b.headers.values varyName = [.ofAscii "Origin"] := values_decorate_vary hgrant a
    refine ⟨values_decorate hgrant a, hvary, ?_⟩
    rw [hvary]
    simp only [List.mem_singleton]
  · intro n hn
    exact values_decorate_ne hn a

/-- A page whose origin is allowed gets a result that varied with the encoding that it accepts, and
is not told so. -/
theorem decorate_drops_vary :
    let p := allowOrigin {} "https://app.example.com"
    let encoding : HeaderValue := .ofAscii "Accept-Encoding"
    let a : Answer := ⟨.ok, Headers.empty.insert varyName encoding, .text "ok"⟩
    p.origins.allows "https://app.example.com" = true ∧
      encoding ∈ a.headers.values varyName ∧
      encoding ∉ (p.decorate "https://app.example.com" a).headers.values varyName :=
  ⟨by decide +kernel, by decide +kernel, by decide +kernel⟩

end RequestPipeline.CrossOrigin
