import Mathlib.Data.List.Forall2
import RequestPipeline.Proofs.Policy.Preflight
import RequestPipeline.Proofs.Text.Casing
import RequestPipeline.Proofs.Text.Set

/-!
# What a policy on other origins depends on

A policy is put together step by step, and most steps give a list, which is held as a set. The order
of a list, repetitions in it and, if it lists header names, their letter case leave no trace
(`Clause.Alike`), and it does not matter in which order the sets hold their members
(`CrossOrigin.Alike`, `build_alike`). A preflight may likewise ask for headers in any letter case
(`AsksAlike`). So neither the answer to a preflight nor a decorated result tells how a policy was
written down, how it is held or how a request was spelled (`build_forgets_spelling`).
-/

set_option autoImplicit false

namespace RequestPipeline

open Http Text

/-! ## Values in another letter case -/

namespace Http.HeaderValue

/-- The byte of the small letter for that of a capital one. -/
def smallByte (b : UInt8) : UInt8 := if 65 ≤ b ∧ b ≤ 90 then b + 32 else b

/-- Two values differ in the letter case of ASCII at most. -/
def SameLetters (v w : HeaderValue) : Prop := v.bytes.map smallByte = w.bytes.map smallByte

instance (v w : HeaderValue) : Decidable (SameLetters v w) := inferInstanceAs (Decidable (_ = _))

/-- What holds of a byte of any number holds of every byte. -/
theorem forall_byte {P : UInt8 → Prop} (h : ∀ n : Fin 256, P (UInt8.ofNat n)) (b : UInt8) :
    P b := by
  have hb := h ⟨b.toNat, b.toNat_lt⟩
  rwa [UInt8.ofNat_toNat] at hb

theorem isReadableByte_smallByte (b : UInt8) :
    isReadableByte (smallByte b) = isReadableByte b := by
  apply forall_byte (P := fun b => isReadableByte (smallByte b) = isReadableByte b)
  decide +kernel

theorem ofNat_smallByte (b : UInt8) (h : isReadableByte b = true) :
    Char.ofNat (smallByte b).toNat = (Char.ofNat b.toNat).toLower := by
  revert h
  apply forall_byte (P := fun b => isReadableByte b = true →
    Char.ofNat (smallByte b).toNat = (Char.ofNat b.toNat).toLower)
  decide +kernel

/-- The small letters of a value that can be read are those of its text. -/
theorem map_smallByte {v : HeaderValue} {s : String} (h : v.readable? = some s) :
    s.toList.map Char.toLower = (v.bytes.map smallByte).map fun b => Char.ofNat b.toNat := by
  unfold readable? at h
  split at h
  · next hreadable =>
    obtain rfl := Option.some.inj h
    rw [String.toList_ofList, List.map_map, List.map_map]
    -- byte by byte: only bytes of ASCII can be read
    apply List.map_congr_left
    intro b hb
    exact (ofNat_smallByte b (List.all_eq_true.mp hreadable b hb)).symm
  · cases h

theorem isSome_readable?_iff {v : HeaderValue} :
    v.readable?.isSome = (v.bytes.map smallByte).all isReadableByte := by
  have hbytes : isReadableByte ∘ smallByte = isReadableByte := funext isReadableByte_smallByte
  rw [List.all_map, hbytes, readable?]
  split
  · next hreadable => rw [hreadable, Option.isSome_some]
  · next hreadable => rw [Bool.eq_false_of_not_eq_true hreadable, Option.isSome_none]

/-- Of values that differ in letter case only, either both can be read, as texts that do so, or
neither can. -/
theorem rel_readable? {v w : HeaderValue} (h : SameLetters v w) :
    Option.Rel Text.SameLetters v.readable? w.readable? := by
  have hsome : v.readable?.isSome = w.readable?.isSome := by
    rw [isSome_readable?_iff, isSome_readable?_iff, h]
  cases hv : v.readable? with
  | none =>
    rw [hv, Option.isSome_none, eq_comm, Option.isSome_eq_false_iff, Option.isNone_iff_eq_none]
      at hsome
    rw [hsome]
    exact .none
  | some s =>
    rw [hv, Option.isSome_some, eq_comm, Option.isSome_iff_exists] at hsome
    obtain ⟨t, ht⟩ := hsome
    rw [ht]
    apply Option.Rel.some
    rw [Text.SameLetters, map_smallByte hv, map_smallByte ht, h]

/-- The first of several values is read, and what is read differs in letter case only. -/
theorem rel_first {vs ws : List HeaderValue} (h : List.Forall₂ SameLetters vs ws) :
    Option.Rel Text.SameLetters (vs.head?.bind readable?) (ws.head?.bind readable?) := by
  cases h with
  | nil => exact .none
  | cons hfirst _ => exact rel_readable? hfirst

end Http.HeaderValue

/-! ## Origins that are alike -/

/-- The same origins are allowed, in whatever order they are held. -/
inductive Origins.Alike : Origins → Origins → Prop
  | any : Alike .any .any
  | listed {os os' : TextSet} (h : os.Alike os') : Alike (.listed os) (.listed os')

namespace Origins.Alike

variable {os os' os'' : Origins}

theorem refl (os : Origins) : os.Alike os := by
  cases os with
  | any => exact .any
  | listed os => exact .listed (.refl os)

theorem symm (h : os.Alike os') : os'.Alike os := by
  cases h with
  | any => exact .any
  | listed h => exact .listed h.symm

theorem trans (h : os.Alike os') (h' : os'.Alike os'') : os.Alike os'' := by
  cases h with
  | any => exact h'
  | listed h =>
    cases h' with
    | listed h' => exact .listed (h.trans h')

theorem allows_eq (h : os.Alike os') (origin : String) : os.allows origin = os'.allows origin := by
  cases h with
  | any => rfl
  | listed h => exact h.contains_eq origin

theorem grant?_eq (h : os.Alike os') (origin : String) : os.grant? origin = os'.grant? origin := by
  cases h with
  | any => rfl
  | listed h => rw [grant?, grant?, h.contains_eq]

end Origins.Alike

namespace CrossOrigin

/-! ## Steps that say the same -/

/-- Two lists name the same headers, in any order, number and letter case. -/
def SameNames (ns ns' : List String) : Prop :=
  (∀ n ∈ ns, ∃ n' ∈ ns', SameLetters n n') ∧ ∀ n' ∈ ns', ∃ n ∈ ns, SameLetters n n'

instance (ns ns' : List String) : Decidable (SameNames ns ns') :=
  inferInstanceAs (Decidable (_ ∧ _))

/-- Two steps say the same: their lists may differ in order and repetitions, and lists of header
names in letter case too. -/
inductive Clause.Alike : Clause → Clause → Prop
  | refl (clause : Clause) : Alike clause clause
  | origins {os os' : List String} (h : ∀ o, o ∈ os ↔ o ∈ os') : Alike (.origins os) (.origins os')
  | methods {ms ms' : List Method} (h : ∀ m, m ∈ ms ↔ m ∈ ms') : Alike (.methods ms) (.methods ms')
  | headers {ns ns' : List String} (h : SameNames ns ns') : Alike (.headers ns) (.headers ns')
  | exposed {ns ns' : List String} (h : SameNames ns ns') : Alike (.exposed ns) (.exposed ns')

/-! ## Policies that are alike -/

/-- Two policies say the same: the sets of one have the members of the other's, in whatever order
each set holds them. -/
structure Alike (p q : CrossOrigin) : Prop where
  origins : p.origins.Alike q.origins
  methods : p.methods.Alike q.methods
  headers : p.headers.Alike q.headers
  exposed : p.exposed.Alike q.exposed
  credentials : p.credentials = q.credentials
  maxAge : p.maxAge = q.maxAge
  order : p.order = q.order

variable {p q r : CrossOrigin}

namespace Alike

theorem refl (p : CrossOrigin) : p.Alike p :=
  ⟨.refl _, .refl _, .refl _, .refl _, rfl, rfl, rfl⟩

theorem symm (h : p.Alike q) : q.Alike p :=
  ⟨h.origins.symm, h.methods.symm, h.headers.symm, h.exposed.symm, h.credentials.symm,
    h.maxAge.symm, h.order.symm⟩

theorem trans (h : p.Alike q) (h' : q.Alike r) : p.Alike r :=
  ⟨h.origins.trans h'.origins, h.methods.trans h'.methods, h.headers.trans h'.headers,
    h.exposed.trans h'.exposed, h.credentials.trans h'.credentials, h.maxAge.trans h'.maxAge,
    h.order.trans h'.order⟩

/-- Policies that are alike stay so when both allow one more origin. -/
theorem allowOrigin (h : p.Alike q) (origin : String) :
    (p.allowOrigin origin).Alike (q.allowOrigin origin) := by
  obtain ⟨origins, methods, headers, exposed, credentials, maxAge, order⟩ := p
  obtain ⟨origins', methods', headers', exposed', credentials', maxAge', order'⟩ := q
  have horigins : origins.Alike origins' := h.origins
  cases horigins with
  | any => exact h
  | listed hset => exact { h with origins := .listed (hset.insert origin) }

end Alike

/-- Names make sets in lower case that are alike, however they are listed and spelled. -/
theorem ofList_lower_alike {ns ns' : List String} (h : SameNames ns ns') :
    (TextSet.ofList (ns.map lower)).Alike (TextSet.ofList (ns'.map lower)) := by
  obtain ⟨hforth, hback⟩ := h
  apply TextSet.ofList_map_alike
  · intro n hn
    obtain ⟨n', hn', hletters⟩ := hforth n hn
    exact ⟨n', hn', lower_congr hletters⟩
  · intro n' hn'
    obtain ⟨n, hn, hletters⟩ := hback n' hn'
    exact ⟨n, hn, lower_congr hletters⟩

/-- The same step leads from policies that are alike to policies that are. -/
theorem Alike.put_same (h : p.Alike q) (clause : Clause) : (p.put clause).Alike (q.put clause) := by
  cases clause with
  | anyOrigin => exact { h with origins := .any }
  | origin origin => exact h.allowOrigin origin
  | origins origins => exact { h with origins := .refl _ }
  | methods methods => exact { h with methods := .refl _ }
  | headers names => exact { h with headers := .refl _ }
  | exposed names => exact { h with exposed := .refl _ }
  | credentials allowed => exact { h with credentials := rfl }
  | maxAge age => exact { h with maxAge := rfl }
  | order order => exact { h with order := rfl }

/-- Steps that say the same lead from policies that are alike to policies that are. -/
theorem Alike.put (h : p.Alike q) {clause clause' : Clause} (hclause : clause.Alike clause') :
    (p.put clause).Alike (q.put clause') := by
  cases hclause with
  | refl => exact h.put_same clause
  | origins hos => exact { h with origins := .listed (TextSet.ofList_alike hos) }
  | methods hms =>
    refine { h with methods := TextSet.ofList_map_alike ?_ ?_ }
    · intro m hm
      exact ⟨m, (hms m).mp hm, rfl⟩
    · intro m hm
      exact ⟨m, (hms m).mpr hm, rfl⟩
  | headers hns => exact { h with headers := ofList_lower_alike hns }
  | exposed hns => exact { h with exposed := ofList_lower_alike hns }

theorem Alike.foldl_put (h : p.Alike q) {cs cs' : List Clause}
    (hcs : List.Forall₂ Clause.Alike cs cs') :
    (cs.foldl CrossOrigin.put p).Alike (cs'.foldl CrossOrigin.put q) := by
  induction hcs generalizing p q with
  | nil => exact h
  | cons hclause _ ih => exact ih (h.put hclause)

/-- Steps that say the same, one by one, put policies together that are alike. -/
theorem build_alike {cs cs' : List Clause} (h : List.Forall₂ Clause.Alike cs cs') :
    (build cs).Alike (build cs') := (Alike.refl {}).foldl_put h

/-! ## Requests that ask for the same -/

/-- Two requests have the same header fields, but the names of the headers that they ask for may be
in another letter case. -/
structure AsksAlike (c c' : Call) : Prop where
  others : ∀ name, name ≠ requestHeadersName → c.headers.values name = c'.headers.values name
  asked : List.Forall₂ HeaderValue.SameLetters (c.headers.values requestHeadersName)
    (c'.headers.values requestHeadersName)

variable {c c' : Call}

/-- Texts that differ in letter case only name the same headers. -/
theorem requestedNames_congr {asked asked' : Option String}
    (h : Option.Rel SameLetters asked asked') :
    asked.elim [] requestedNames = asked'.elim [] requestedNames := by
  cases h with
  | some hletters => exact lower_parts_congr hletters
  | none => rfl

namespace AsksAlike

theorem readable?_eq (h : AsksAlike c c') {name : HeaderName} (hname : name ≠ requestHeadersName) :
    c.headers.readable? name = c'.headers.readable? name := by
  rw [Headers.readable?, Headers.readable?, Headers.first?, Headers.first?, h.others name hname]

/-- The requests ask for the same headers. -/
theorem names_eq (h : AsksAlike c c') :
    (c.headers.readable? requestHeadersName).elim [] requestedNames =
      (c'.headers.readable? requestHeadersName).elim [] requestedNames := by
  apply requestedNames_congr
  exact HeaderValue.rel_first h.asked

end AsksAlike

/-! ## What is told -/

namespace Alike

theorem insertCredentials_eq (h : p.Alike q) (fields : Headers) :
    p.insertCredentials fields = q.insertCredentials fields := by
  rw [insertCredentials, insertCredentials, h.credentials]

/-- An origin is told the same whatever order the sets hold their members in, since they are sorted
first. -/
theorem preflightHeaders_eq (h : p.Alike q) (origin : String) :
    p.preflightHeaders origin = q.preflightHeaders origin := by
  have hgrant := h.origins.grant?_eq origin
  have hmethods := h.methods.sorted_eq
  have hheaders := h.headers.sorted_eq
  simp only [preflightHeaders, hgrant, hmethods, hheaders, h.insertCredentials_eq, h.maxAge]

theorem allowsHeader_eq (h : p.Alike q) (name : String) :
    p.allowsHeader name = q.allowsHeader name := by
  rw [allowsHeader, allowsHeader, h.headers.contains_eq]

/-- Requests that ask for the same get the same verdict. -/
theorem judge_eq (h : p.Alike q) (hcalls : AsksAlike c c') : p.judge c = q.judge c' := by
  have horigin := hcalls.readable?_eq (show originName ≠ requestHeadersName by decide)
  have hmethod := hcalls.readable?_eq (show requestMethodName ≠ requestHeadersName by decide)
  have hnames := hcalls.names_eq
  simp only [judge, horigin, hmethod, hnames, h.origins.allows_eq, h.methods.contains_eq,
    h.headers.contains_eq, h.allowsHeader_eq]

theorem preflight_eq (h : p.Alike q) (hcalls : AsksAlike c c') :
    p.preflight c = q.preflight c' := by
  have hverdict := h.judge_eq hcalls
  simp only [preflight, hverdict, h.preflightHeaders_eq]

theorem decorate_eq (h : p.Alike q) (origin : String) (a : Answer) :
    p.decorate origin a = q.decorate origin a := by
  have hgrant := h.origins.grant?_eq origin
  have hexposed := h.exposed.sorted_eq
  simp only [decorate, hgrant, hexposed, h.insertCredentials_eq]

end Alike

/-! ## What is left of how a policy was put together -/

/-- Policies whose steps say the same answer preflights that ask for the same in the same way and
decorate every result in the same way, in whatever order each of them holds the members of its
sets. -/
theorem build_forgets_spelling {cs cs' : List Clause} (h : List.Forall₂ Clause.Alike cs cs')
    {p q : CrossOrigin} (hp : p.Alike (build cs)) (hq : q.Alike (build cs')) :
    (∀ c c', AsksAlike c c' → p.preflight c = q.preflight c') ∧
      ∀ origin a, p.decorate origin a = q.decorate origin a := by
  have halike : p.Alike q := hp.trans ((build_alike h).trans hq.symm)
  constructor
  · intro c c' hcalls
    exact halike.preflight_eq hcalls
  · intro origin a
    exact halike.decorate_eq origin a

/-- Preflights that ask for headers in another letter case only ask for the same. -/
theorem asksAlike_asking (method : HeaderValue) {vs ws : List HeaderValue}
    (h : List.Forall₂ HeaderValue.SameLetters vs ws) :
    AsksAlike (asking method vs) (asking method ws) where
  others := by
    intro name hname
    -- the fields that ask for headers are none of the others
    have hnone : ∀ us : List HeaderValue,
        (us.map (Http.Field.mk requestHeadersName)).filter (fun f => f.name = name) = [] := by
      intro us
      rw [List.filter_eq_nil_iff, List.forall_mem_map]
      intro v _
      simpa using Ne.symm hname
    simp only [asking, Headers.values, List.filter_append, hnone]
  asked := by
    have hall : ∀ us : List HeaderValue,
        (asking method us).headers.values requestHeadersName = us := by
      intro us
      simp [asking, Headers.values, List.filter_append, List.filter_map, Function.comp_def,
        requestMethodName, requestHeadersName, originName]
    rw [hall, hall]
    exact h

/-- A policy for two pages, in two spellings and held in two orders, a preflight in two spellings
and a result for a page. -/
theorem build_forgets_spelling_preflight :
    let cs : List Clause :=
      [.origins ["https://app.example.com", "https://shop.example.com"],
        .methods [.get, .post, .put], .headers ["Content-Type", "X-Token"],
        .exposed ["ETag", "X-Total"]]
    let cs' : List Clause :=
      [.origins ["https://shop.example.com", "https://app.example.com", "https://shop.example.com"],
        .methods [.put, .get, .post, .get], .headers ["x-token", "CONTENT-TYPE"],
        .exposed ["x-total", "etag", "ETAG"]]
    let p := build cs
    let q : CrossOrigin :=
      { build cs' with
        methods := ⟨["GET", "PUT", "POST"], by decide⟩
        exposed := ⟨["etag", "x-total"], by decide⟩ }
    let c := asking (.ofAscii "GET") [.ofAscii "Content-Type, X-Token"]
    let c' := asking (.ofAscii "GET") [.ofAscii "content-type, x-token"]
    let a : Answer := .text .ok "orders"
    List.Forall₂ Clause.Alike cs cs' ∧ AsksAlike c c' ∧ p.methods ≠ q.methods ∧
      p.exposed ≠ q.exposed ∧
      p.preflight c = q.preflight c' ∧ (p.preflight c).status = .noContent ∧
      sorted p.methods.members = ["GET", "POST", "PUT"] ∧
      p.decorate "https://shop.example.com" a = q.decorate "https://shop.example.com" a ∧
      sorted p.exposed.members = ["etag", "x-total"] := by
  intro cs cs' p q c c' a
  have hclauses : List.Forall₂ Clause.Alike cs cs' := by
    refine .cons (.origins ?_) (.cons (.methods ?_)
      (.cons (.headers ?_) (.cons (.exposed ?_) .nil)))
    · intro o
      simp only [List.mem_cons, List.not_mem_nil]
      tauto
    · intro m
      simp only [List.mem_cons, List.not_mem_nil]
      tauto
    · decide
    · decide
  have hcalls : AsksAlike c c' := asksAlike_asking _ (.cons (by decide) .nil)
  have hmethods : q.methods.Alike (build cs').methods := by
    show ["GET", "PUT", "POST"].Perm (build cs').methods.members
    decide +kernel
  have hexposed : q.exposed.Alike (build cs').exposed := by
    show ["etag", "x-total"].Perm (build cs').exposed.members
    decide +kernel
  have hq : q.Alike (build cs') :=
    { Alike.refl (build cs') with methods := hmethods, exposed := hexposed }
  obtain ⟨hpreflight, hdecorate⟩ := build_forgets_spelling hclauses (.refl (build cs)) hq
  have hsorted : sorted p.methods.members = ["GET", "POST", "PUT"] :=
    sorted_eq_of_perm (by decide +kernel) (by decide +kernel)
  have hsorted' : sorted p.exposed.members = ["etag", "x-total"] :=
    sorted_eq_of_perm (by decide +kernel) (by decide +kernel)
  exact ⟨hclauses, hcalls, by decide +kernel, by decide +kernel, hpreflight c c' hcalls,
    by decide +kernel, hsorted, hdecorate _ a, hsorted'⟩

end CrossOrigin

end RequestPipeline
