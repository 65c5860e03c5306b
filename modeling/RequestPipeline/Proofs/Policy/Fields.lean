import RequestPipeline.Policy.CrossOrigin
import RequestPipeline.Proofs.Http.Header
import RequestPipeline.Text.Entries

/-!
# Fields that a policy sets

A policy sets each header field to a text, or leaves the field as it is (`insertTexts`). What it
tells an origin, in the answer to a preflight and in a decorated result, is put together in this way
(`preflightHeaders_eq`, `decorate_eq`), so what a name has behind it is looked up in a table
(`values_insertTexts`).
-/

set_option autoImplicit false

namespace RequestPipeline.CrossOrigin

open Http Text

/-- Sets fields to texts; a text that is no header value, or none at all, leaves its field alone. -/
def insertTexts (h : Headers) (fs : List (HeaderName × Option String)) : Headers :=
  fs.foldl (fun h f => insertSome h f.1 (f.2.bind HeaderValue.ofText?)) h

/-- The text that tells an allowed origin so. -/
def grantedText (p : CrossOrigin) (origin : String) : String :=
  match p.origins with
  | .any => "*"
  | .listed _ => origin

/-- The text of a list, unless it is empty. -/
def joined (values : List String) : Option String :=
  if values.isEmpty then none else some (", ".intercalate values)

/-- The text that allows credentials. -/
def credentialsText (p : CrossOrigin) : Option String := if p.credentials then some "true" else none

/-- What a preflight is told. -/
def preflightTexts (p : CrossOrigin) (origin : String) : List (HeaderName × Option String) :=
  [(allowOriginName, some (p.grantedText origin)),
    (allowMethodsName, joined (sorted p.methods.members)),
    (allowHeadersName, joined (sorted p.headers.members)),
    (allowCredentialsName, p.credentialsText),
    (maxAgeName, p.maxAge.map fun age => toString (age / 1000)),
    (varyName, some "Origin, Access-Control-Request-Method, Access-Control-Request-Headers")]

/-- What the page of an origin is told with a result. -/
def resultTexts (p : CrossOrigin) (origin : String) : List (HeaderName × Option String) :=
  [(allowOriginName, some (p.grantedText origin)),
    (allowCredentialsName, p.credentialsText),
    (exposeHeadersName, joined (sorted p.exposed.members)), (varyName, some "Origin")]

variable {p : CrossOrigin} {origin : String}

/-! ## Texts that are set -/

section Texts

variable {h : Headers}

theorem values_insertSome_ne {m n : HeaderName} (hmn : m ≠ n) (o : Option HeaderValue) :
    (insertSome h m o).values n = h.values n := by
  cases o with
  | none => rfl
  | some v => exact h.values_insert_ne v hmn

/-- A name has the text that was set for it, and otherwise the values that it had. -/
theorem values_insertTexts {fs : List (HeaderName × Option String)}
    (hfs : (fs.map Prod.fst).Nodup) (n : HeaderName) :
    (insertTexts h fs).values n =
      match (fs.lookup n).join.bind HeaderValue.ofText? with
      | some v => [v]
      | none => h.values n := by
  induction fs generalizing h with
  | nil => rfl
  | cons f fs ih =>
    obtain ⟨m, text⟩ := f
    obtain ⟨hm, hfs⟩ := List.nodup_cons.mp hfs
    rw [insertTexts, List.foldl_cons, ← insertTexts, ih hfs]
    by_cases hmn : n = m
    · -- no later text is set for the name
      subst hmn
      rw [lookup_eq_none_iff_not_mem.mpr hm, List.lookup_cons_self]
      show (insertSome h n (text.bind HeaderValue.ofText?)).values n = _
      cases ht : text.bind HeaderValue.ofText? <;> simp [insertSome, ht]
    · rw [lookup_cons_of_ne hmn, values_insertSome_ne (Ne.symm hmn)]

theorem insertTexts_cons (f : HeaderName × Option String) (fs : List (HeaderName × Option String)) :
    insertTexts h (f :: fs) =
      insertTexts (insertSome h f.1 (f.2.bind HeaderValue.ofText?)) fs := rfl

theorem insertTexts_nil : insertTexts h [] = h := rfl

/-- A list is set as the text that joins it. -/
theorem insertList_eq (m : HeaderName) (values : List String) :
    insertList h m values = insertSome h m ((joined values).bind HeaderValue.ofText?) := by
  unfold insertList joined
  split
  · rfl
  · rw [Option.bind_some]
    cases HeaderValue.ofText? (", ".intercalate values) <;> rfl

theorem insertCredentials_eq :
    p.insertCredentials h =
      insertSome h allowCredentialsName (p.credentialsText.bind HeaderValue.ofText?) := by
  have htext : HeaderValue.ofText? "true" = some (.ofAscii "true") :=
    HeaderValue.ofText?_ofAscii "true" (by decide) (by decide)
  unfold insertCredentials credentialsText
  split
  · simp [htext, insertSome]
  · rfl

end Texts

/-! ## What an origin is granted -/

/-- An origin that is not allowed is granted nothing. -/
theorem grant?_of_not_allowed (h : p.origins.allows origin = false) :
    p.origins.grant? origin = none := by
  cases ho : p.origins with
  | any => simp [ho, Origins.allows] at h
  | listed origins =>
    rw [ho, Origins.allows] at h
    simp [Origins.grant?, h]

/-- An origin that is allowed is granted the text that says so, if that is a header value. -/
theorem grant?_of_allowed (h : p.origins.allows origin = true) :
    p.origins.grant? origin = HeaderValue.ofText? (p.grantedText origin) := by
  unfold grantedText
  cases ho : p.origins with
  | any => exact (HeaderValue.ofText?_ofAscii "*" (by decide) (by decide)).symm
  | listed origins =>
    rw [ho, Origins.allows] at h
    rw [Origins.grant?, if_pos h]

/-- What an origin is granted is the text that says so. -/
theorem ofText?_grantedText {v : HeaderValue} (h : p.origins.grant? origin = some v) :
    HeaderValue.ofText? (p.grantedText origin) = some v := by
  cases hallows : p.origins.allows origin with
  | true => exact (grant?_of_allowed hallows).symm.trans h
  | false => simp [grant?_of_not_allowed hallows] at h

/-! ## What is told -/

/-- A preflight from an allowed origin is told what the table says. -/
theorem preflightHeaders_eq (h : p.origins.allows origin = true) :
    p.preflightHeaders origin = insertTexts .empty (p.preflightTexts origin) := by
  have hvary : HeaderValue.ofText?
      "Origin, Access-Control-Request-Method, Access-Control-Request-Headers" =
        some (.ofAscii "Origin, Access-Control-Request-Method, Access-Control-Request-Headers") :=
    HeaderValue.ofText?_ofAscii _ (by decide) (by decide)
  have hage : (p.maxAge.bind fun age => HeaderValue.ofText? (toString (age / 1000))) =
      (p.maxAge.map fun age => toString (age / 1000)).bind HeaderValue.ofText? := by
    cases p.maxAge <;> rfl
  simp only [preflightHeaders, preflightTexts, insertTexts_cons, insertTexts_nil, insertList_eq,
    insertCredentials_eq, grant?_of_allowed h, hage, hvary, Option.bind_some]
  rfl

/-- A result is told what the table says, if the origin is granted anything. -/
theorem decorate_eq {v : HeaderValue} (h : p.origins.grant? origin = some v) (a : Answer) :
    p.decorate origin a =
      { a with headers := insertTexts a.headers (p.resultTexts origin) } := by
  have hvary : HeaderValue.ofText? "Origin" = some (.ofAscii "Origin") :=
    HeaderValue.ofText?_ofAscii _ (by decide) (by decide)
  simp only [decorate, h, resultTexts, insertTexts_cons, insertTexts_nil, insertList_eq,
    insertCredentials_eq, hvary, ofText?_grantedText h, Option.bind_some]
  rfl

theorem nodup_preflightTexts : ((p.preflightTexts origin).map Prod.fst).Nodup := by
  show [allowOriginName, allowMethodsName, allowHeadersName, allowCredentialsName, maxAgeName,
    varyName].Nodup
  decide

theorem nodup_resultTexts : ((p.resultTexts origin).map Prod.fst).Nodup := by
  show [allowOriginName, allowCredentialsName, exposeHeadersName, varyName].Nodup
  decide

end RequestPipeline.CrossOrigin
