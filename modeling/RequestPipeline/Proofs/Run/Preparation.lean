import RequestPipeline.Proofs.Filter.Authority
import RequestPipeline.Proofs.Run.Counterparts

/-!
# Preparing requests

Before a request runs it is prepared: somebody has to carry every policy that is required, and the
resolver has to find for every registration a filter that takes part in what the registration
declares (`Resolver.Fits`). The first of these conditions that fails, policies in front, makes the
preparation fail (`Pipeline.FirstFailure`), and the resolver is not asked about anything behind it
(`Pipeline.Asks`). What is prepared without a failure is called in exactly the phases that were
declared (`Pipeline.Prepared`).
-/

set_option autoImplicit false

namespace RequestPipeline

/-! ## The first of a list -/

/-- An element is the first of a list that has a property; those in front of it do not have it. -/
structure IsFirst {α : Type} (P : α → Prop) (xs front : List α) (x : α) : Prop where
  split : ∃ back, xs = front ++ x :: back
  front : ∀ y ∈ front, ¬P y
  holds : P x

namespace IsFirst

variable {α : Type} {P : α → Prop} {xs front : List α} {x y : α}

theorem nil_iff : IsFirst P xs [] x ↔ (∃ back, xs = x :: back) ∧ P x :=
  ⟨fun h => ⟨h.split, h.holds⟩, fun h => ⟨h.1, by simp, h.2⟩⟩

theorem cons_iff : IsFirst P xs (y :: front) x ↔
    ∃ ys, xs = y :: ys ∧ ¬P y ∧ IsFirst P ys front x := by
  constructor
  · rintro ⟨⟨back, rfl⟩, hfront, hx⟩
    obtain ⟨hy, hfront⟩ := List.forall_mem_cons.mp hfront
    exact ⟨_, rfl, hy, ⟨back, rfl⟩, hfront, hx⟩
  · rintro ⟨ys, rfl, hy, ⟨back, rfl⟩, hfront, hx⟩
    exact ⟨⟨back, rfl⟩, List.forall_mem_cons.mpr ⟨hy, hfront⟩, hx⟩

theorem mem (h : IsFirst P xs front x) : x ∈ xs := by
  obtain ⟨back, rfl⟩ := h.split
  simp

/-- A list has no element with a property, or a first one. -/
theorem none_or_exists (P : α → Prop) (xs : List α) :
    (∀ x ∈ xs, ¬P x) ∨ ∃ front x, IsFirst P xs front x := by
  induction xs with
  | nil => exact .inl (by simp)
  | cons y ys ih =>
    by_cases hy : P y
    · exact .inr ⟨[], y, nil_iff.mpr ⟨⟨ys, rfl⟩, hy⟩⟩
    · rcases ih with hys | ⟨front, x, hx⟩
      · exact .inl (List.forall_mem_cons.mpr ⟨hy, hys⟩)
      · exact .inr ⟨y :: front, x, cons_iff.mpr ⟨ys, rfl, hy, hx⟩⟩

end IsFirst

/-! ## Required policies -/

namespace Plan

variable {plan : Plan} {m : Marker} {ms front : List Marker}

/-- A registration of the plan carries a policy. -/
def Carries (plan : Plan) (m : Marker) : Prop :=
  ∃ r ∈ plan.registrations, r.listing.carries m = true

theorem effective_of_carries (h : plan.Carries m) : ∃ l, plan.effective m = .ok l := by
  obtain ⟨r, hr, hcarries⟩ := h
  -- either nobody carries the policy, or somebody of the plan is in charge of it
  rcases Listing.authority_cases plan.listings m with ⟨hnone, -⟩ | ⟨k, ⟨⟨l, hl, -⟩, -⟩, hholder⟩
  · simp [hnone r.listing (List.mem_map_of_mem hr)] at hcarries
  · exact ⟨l, by simp [effective, hholder, hl]⟩

theorem effective_of_not_carries (h : ¬plan.Carries m) :
    plan.effective m = .error (.noEffectivePolicy m) := by
  have hholder : (Listing.authority plan.listings).holder? m = none := by
    rw [Listing.holder?_authority_eq_none_iff]
    intro l hl
    obtain ⟨r, hr, rfl⟩ := List.mem_map.mp hl
    exact Bool.eq_false_iff.mpr fun hcarries => h ⟨r, hr, hcarries⟩
  simp [effective, hholder]

theorem require_of_carries (h : ∀ m ∈ ms, plan.Carries m) : plan.require ms = .ok () := by
  induction ms with
  | nil => rfl
  | cons m ms ih =>
    obtain ⟨hm, hms⟩ := List.forall_mem_cons.mp h
    obtain ⟨l, hl⟩ := effective_of_carries hm
    simp [require, hl, ih hms]

/-- Of required policies the first that nobody carries is reported. -/
theorem require_of_first (h : IsFirst (fun m => ¬plan.Carries m) ms front m) :
    plan.require ms = .error (.noEffectivePolicy m) := by
  induction front generalizing ms with
  | nil =>
    obtain ⟨⟨back, rfl⟩, hm⟩ := IsFirst.nil_iff.mp h
    simp [require, effective_of_not_carries hm]
  | cons n front ih =>
    -- a policy in front is carried, so the next one is looked for
    obtain ⟨ns, rfl, hn, hfirst⟩ := IsFirst.cons_iff.mp h
    obtain ⟨l, hl⟩ := effective_of_carries (not_not.mp hn)
    simp [require, hl, ih hfirst]

end Plan

/-! ## Resolving registrations -/

namespace Resolver

variable {R R' : Resolver} {call : Call} {r : Registration} {e : Failure}

/-- A registration has a filter that takes part in exactly what is declared. -/
def Fits (R : Resolver) (call : Call) (r : Registration) : Prop :=
  ∃ f, (R r call).outcome = .ok f ∧ f.capabilities = r.listing.capabilities

/-- What keeps a registration from being resolved: the resolver fails, or its filter takes part in
something else than what is declared. -/
inductive Fails (R : Resolver) (call : Call) (r : Registration) : Failure → Prop
  | refused {e : Failure} (h : (R r call).outcome = .error e) : Fails R call r e
  | mismatch {f : Filter} (h : (R r call).outcome = .ok f)
      (hne : f.capabilities ≠ r.listing.capabilities) :
      Fails R call r (.capabilityMismatch r.listing.name r.listing.capabilities f.capabilities)

theorem fails_of_not_fits (h : ¬R.Fits call r) : ∃ e, R.Fails call r e := by
  cases hr : (R r call).outcome with
  | error e => exact ⟨e, .refused hr⟩
  | ok f => exact ⟨_, .mismatch hr fun hagrees => h ⟨f, hr, hagrees⟩⟩

theorem fits_congr (h : R' r call = R r call) : R'.Fits call r ↔ R.Fits call r := by
  simp only [Fits, h]

theorem Fails.congr (h : R' r call = R r call) (hr : R.Fails call r e) : R'.Fails call r e := by
  cases hr with
  | refused hr => exact .refused (h ▸ hr)
  | mismatch hr hne => exact .mismatch (h ▸ hr) hne

/-- What a resolver says about registrations, in order. -/
def told (R : Resolver) (call : Call) (rs : List Registration) : List Event :=
  rs.flatMap fun r => (R r call).events

theorem told_congr {rs : List Registration} (h : ∀ r ∈ rs, R' r call = R r call) :
    R'.told call rs = R.told call rs :=
  List.flatMap_congr fun r hr => congrArg Resolution.events (h r hr)

end Resolver

namespace Plan

variable {R : Resolver} {call : Call} {i : Nat} {r : Registration}
  {rs front : List Registration} {e : Failure}

theorem instantiateFrom_of_fails (h : R.Fails call r e) :
    instantiateFrom R call i (r :: rs) = ⟨(R r call).events, .error e⟩ := by
  cases h with
  | refused h => exact instantiateFrom_of_error h
  | mismatch h hne => exact instantiateFrom_of_mismatch h hne

/-- Registrations that fit are all resolved, each to the filter that the resolver finds for it. -/
theorem instantiateFrom_of_fits (h : ∀ r ∈ rs, R.Fits call r) :
    ∃ ps, instantiateFrom R call i rs = ⟨R.told call rs, .ok ps⟩ ∧
      ∀ p ∈ ps, (R p.registration call).outcome = .ok p.filter := by
  induction rs generalizing i with
  | nil => exact ⟨[], rfl, by simp⟩
  | cons r rs ih =>
    obtain ⟨⟨f, hf, hagrees⟩, hrs⟩ := List.forall_mem_cons.mp h
    obtain ⟨ps, hps, hfilters⟩ := ih (i := i + 1) hrs
    refine ⟨⟨i, r, f, hagrees⟩ :: ps, ?_, List.forall_mem_cons.mpr ⟨hf, hfilters⟩⟩
    rw [instantiateFrom_of_agrees hf hagrees, hps]
    simp [Resolver.told, Except.map]

theorem instantiateFrom_congr {R' : Resolver} (h : ∀ r ∈ rs, R' r call = R r call) :
    instantiateFrom R' call i rs = instantiateFrom R call i rs := by
  induction rs generalizing i with
  | nil => rfl
  | cons r rs ih =>
    obtain ⟨hr, hrs⟩ := List.forall_mem_cons.mp h
    simp only [instantiateFrom, hr, ih hrs]

/-- Registrations are resolved up to the first that does not fit. -/
theorem instantiateFrom_of_first (h : IsFirst (fun r => ¬R.Fits call r) rs front r)
    (hr : R.Fails call r e) :
    instantiateFrom R call i rs = ⟨R.told call (front ++ [r]), .error e⟩ := by
  induction front generalizing i rs with
  | nil =>
    obtain ⟨⟨back, rfl⟩, -⟩ := IsFirst.nil_iff.mp h
    simp [instantiateFrom_of_fails hr, Resolver.told]
  | cons x front ih =>
    -- a registration in front fits, so it adds what the resolver tells of it and no failure
    obtain ⟨xs, rfl, hx, hfirst⟩ := IsFirst.cons_iff.mp h
    obtain ⟨f, hf, hagrees⟩ := not_not.mp hx
    rw [instantiateFrom_of_agrees hf hagrees, ih hfirst]
    simp [Resolver.told, Except.map]

end Plan

/-! ## Dispatch -/

namespace Place

/-- The filters that are called at a moment are those that the plan gives for its capability. -/
theorem map_index_members (ps : List Place) (cb : Callback) :
    ((cb.members ps).map fun m => m.1.index) = indices ps cb.capability := by
  rw [← cb.map_fst_seats, ← cb.map_seat_members, List.map_map]
  rfl

theorem map_index_authorizers (ps : List Place) :
    ((authorizers ps).map fun m => m.1.index) = indices ps .authorization :=
  map_index_members ps .authorization

theorem map_index_layer (ps : List Place) (l : Layer) :
    ((l.members ps).map fun m => m.1.index) = indices ps l.before.capability := by
  rw [← map_index_members, ← l.map_before_members, List.map_map]
  rfl

theorem map_index_handlers (ps : List Place) :
    ((handlers ps).map fun m => m.1.index) = (indices ps .exception).reverse := by
  rw [handlers_eq, List.map_reverse, map_index_members]
  rfl

section Numbered

variable {ps : List Place} {n : Nat} (h : ps.map Place.index = List.range n)

include h

theorem pairwise_indices (c : Capability) : (indices ps c).Pairwise (· < ·) := by
  have hsub : (indices ps c).Sublist (List.range n) := h ▸ List.filter_sublist.map Place.index
  exact List.pairwise_lt_range.sublist hsub

theorem mem_indices_iff {c : Capability} {i : Nat} :
    i ∈ indices ps c ↔ ∃ p, ps[i]? = some p ∧ p.filter.capabilities.contains c = true := by
  -- in places that are numbered in order, the index of a place is its position
  have hindex {k : Nat} {p : Place} (hp : ps[k]? = some p) : p.index = k := by
    have hk : (ps.map Place.index)[k]? = some p.index := by simp [hp]
    rw [h, List.getElem?_eq_some_iff] at hk
    obtain ⟨hlt, hk⟩ := hk
    simpa [eq_comm] using hk
  simp only [indices, List.mem_map, List.mem_filter]
  constructor
  · rintro ⟨p, ⟨hp, hc⟩, rfl⟩
    obtain ⟨k, hk⟩ := List.mem_iff_getElem?.mp hp
    refine ⟨p, ?_, p.agrees ▸ hc⟩
    rw [hindex hk]
    exact hk
  · rintro ⟨p, hp, hc⟩
    exact ⟨p, ⟨List.mem_of_getElem? hp, p.agrees ▸ hc⟩, hindex hp⟩

end Numbered

end Place

/-! ## Preparations -/

/-- Nothing happened in a run: no filter was called, no action invoked, nothing rendered and nothing
measured. -/
structure NoRun (es : List Event) : Prop where
  called : ∀ cb, entries cb es = []
  invoked : invocations es = []
  rendered : renderings es = []
  measured : ∀ o : Options, o.metrics es = []

namespace NoRun

variable {es fs : List Event}

theorem nil : NoRun [] := ⟨fun _ => rfl, rfl, rfl, fun o => by simp [Options.metrics]⟩

/-- An event in which none of it happens belongs to no run. -/
theorem single {e : Event} (hcalled : e.entry? = none) (hinvoked : e.invoked? = none)
    (hrendered : e.rendered? = none) (hmeasured : e.measure = []) : NoRun [e] where
  called cb := entries_cons_of_none cb hcalled []
  invoked := by simp [invocations, hinvoked]
  rendered := by simp [renderings, hrendered]
  measured o := by simp [Options.metrics, hmeasured]

theorem append (h : NoRun es) (h' : NoRun fs) : NoRun (es ++ fs) where
  called cb := by simp [h.called, h'.called]
  invoked := by simp [h.invoked, h'.invoked]
  rendered := by simp [h.rendered, h'.rendered]
  measured o := by
    have hes := h.measured o
    have hfs := h'.measured o
    unfold Options.metrics at hes hfs ⊢
    split <;> simp_all

/-- What is said while registrations are resolved belongs to no run. -/
theorem told {R : Resolver} {call : Call} {rs : List Registration}
    (h : ∀ r ∈ rs, NoRun (R r call).events) : NoRun (R.told call rs) := by
  induction rs with
  | nil => exact nil
  | cons r rs ih =>
    obtain ⟨hr, hrs⟩ := List.forall_mem_cons.mp h
    exact hr.append (ih hrs)

theorem standard (r : Registration) (call : Call) : NoRun (Resolver.standard r call).events := by
  unfold Resolver.standard
  cases r.source with
  | shared f => exact nil
  | factory make => exact single rfl rfl rfl rfl

theorem refusing (names : List String) (r : Registration) (call : Call) :
    NoRun (Resolver.refusing names r call).events := by
  have hsought : NoRun [.sought r.listing.name] := single rfl rfl rfl rfl
  unfold Resolver.refusing
  split
  · exact hsought
  · exact hsought.append (standard r call)

end NoRun

namespace Pipeline

variable {p : Pipeline} {plan : Plan} {call : Call}

/-- A preparation asks the resolver about some registrations, once each and in order, and does
nothing else. -/
structure Asks (p : Pipeline) (plan : Plan) (call : Call) (asked : List Registration) : Prop where
  events : (p.prepare plan call).events = p.resolver.told call asked
  decided : ∀ R : Resolver, (∀ r ∈ asked, R r call = p.resolver r call) →
    Pipeline.prepare { p with resolver := R } plan call = p.prepare plan call
  quiet : (∀ r ∈ asked, NoRun (p.resolver r call).events) → NoRun (p.prepare plan call).events

/-- The first failure of a preparation, and the registrations up to it. -/
inductive FirstFailure (p : Pipeline) (plan : Plan) (call : Call) :
    List Registration → Failure → Prop
  | policy {front : List Marker} {m : Marker}
      (first : IsFirst (fun m => ¬plan.Carries m) p.options.requiredPolicies front m) :
      FirstFailure p plan call [] (.noEffectivePolicy m)
  | registration {front : List Registration} {r : Registration} {e : Failure}
      (carried : ∀ m ∈ p.options.requiredPolicies, plan.Carries m)
      (first : IsFirst (fun r => ¬p.resolver.Fits call r) plan.registrations front r)
      (fails : p.resolver.Fails call r e) : FirstFailure p plan call (front ++ [r]) e

/-- A request is prepared: every registration has its filter in its place, and in each phase exactly
the filters are called that take part in it, in order. -/
structure Prepared (p : Pipeline) (plan : Plan) (call : Call) (c : Context) : Prop where
  asks : p.Asks plan call plan.registrations
  state : c.state = .initial call
  registrations : c.places.map Place.registration = plan.registrations
  positions : c.places.map Place.index = List.range plan.size
  filters : ∀ q ∈ c.places, (p.resolver q.registration call).outcome = .ok q.filter
  ascending : ∀ cap, (Place.indices c.places cap).Pairwise (· < ·)
  exposing : ∀ cap i, i ∈ Place.indices c.places cap ↔
    ∃ q, c.places[i]? = some q ∧ q.filter.capabilities.contains cap = true
  authorizers : ((Place.authorizers c.places).map fun m => m.1.index) =
    Place.indices c.places .authorization
  layers : ∀ l : Layer, ((l.members c.places).map fun m => m.1.index) =
    Place.indices c.places l.before.capability
  handlers : ((Place.handlers c.places).map fun m => m.1.index) =
    (Place.indices c.places .exception).reverse

theorem Asks.of_events {asked : List Registration}
    (hevents : (p.prepare plan call).events = p.resolver.told call asked)
    (hdecided : ∀ R : Resolver, (∀ r ∈ asked, R r call = p.resolver r call) →
      Pipeline.prepare { p with resolver := R } plan call = p.prepare plan call) :
    p.Asks plan call asked :=
  ⟨hevents, hdecided, fun h => hevents ▸ NoRun.told h⟩

theorem prepare_of_missing {front : List Marker} {m : Marker}
    (h : IsFirst (fun m => ¬plan.Carries m) p.options.requiredPolicies front m) :
    p.prepare plan call = ⟨[], .error (.noEffectivePolicy m)⟩ := by
  simp [prepare, Plan.require_of_first h]

/-- If nobody carries a required policy, the resolver is not asked. -/
theorem asks_of_missing {front : List Marker} {m : Marker}
    (h : IsFirst (fun m => ¬plan.Carries m) p.options.requiredPolicies front m) :
    p.Asks plan call [] := by
  refine .of_events ?_ fun R _ => ?_
  · rw [prepare_of_missing h]
    rfl
  · rw [prepare_of_missing h, prepare_of_missing (p := { p with resolver := R }) h]

section Carried

variable (hcarried : ∀ m ∈ p.options.requiredPolicies, plan.Carries m)

include hcarried

theorem prepare_of_carried : p.prepare plan call =
    ⟨(plan.instantiate p.resolver call).events,
      (plan.instantiate p.resolver call).outcome.map fun ps => ⟨ps, .initial call⟩⟩ := by
  simp [prepare, Plan.require_of_carries hcarried]

theorem prepare_of_first {front : List Registration} {r : Registration} {e : Failure}
    (hfirst : IsFirst (fun r => ¬p.resolver.Fits call r) plan.registrations front r)
    (hr : p.resolver.Fails call r e) :
    p.prepare plan call = ⟨p.resolver.told call (front ++ [r]), .error e⟩ := by
  rw [prepare_of_carried hcarried, Plan.instantiate, Plan.instantiateFrom_of_first hfirst hr]
  rfl

/-- The resolver is asked about registrations up to the first that does not fit. -/
theorem asks_of_first {front : List Registration} {r : Registration} {e : Failure}
    (hfirst : IsFirst (fun r => ¬p.resolver.Fits call r) plan.registrations front r)
    (hr : p.resolver.Fails call r e) : p.Asks plan call (front ++ [r]) := by
  refine .of_events ?_ fun R hR => ?_
  · rw [prepare_of_first hcarried hfirst hr]
  · -- what the resolver would say about registrations further back does not matter
    have hfront : ∀ x ∈ front, ¬¬R.Fits call x := fun x hx => by
      rw [Resolver.fits_congr (hR x (by simp [hx]))]
      exact hfirst.front x hx
    have hfirst' : IsFirst (fun r => ¬R.Fits call r) plan.registrations front r := by
      refine ⟨hfirst.split, hfront, ?_⟩
      rw [Resolver.fits_congr (hR r (by simp))]
      exact hfirst.holds
    rw [prepare_of_first hcarried hfirst hr,
      prepare_of_first (p := { p with resolver := R }) hcarried hfirst' (hr.congr (hR r (by simp))),
      Resolver.told_congr hR]

/-- If every registration fits, each has its filter. -/
theorem prepare_of_fits (hfits : ∀ r ∈ plan.registrations, p.resolver.Fits call r) :
    ∃ c, (p.prepare plan call).outcome = .ok c ∧ p.Prepared plan call c := by
  obtain ⟨ps, hps, hfilters⟩ := Plan.instantiateFrom_of_fits (i := 0) hfits
  have hok : (plan.instantiate p.resolver call).outcome = .ok ps := by rw [Plan.instantiate, hps]
  have hprepare : p.prepare plan call =
      ⟨p.resolver.told call plan.registrations, .ok ⟨ps, .initial call⟩⟩ := by
    rw [prepare_of_carried hcarried, Plan.instantiate, hps]
    rfl
  have hpositions : ps.map Place.index = List.range plan.size := by
    rw [Plan.map_index_instantiateFrom hok, List.range_eq_range', Plan.size]
  refine ⟨⟨ps, .initial call⟩, by rw [hprepare], ?_⟩
  exact {
    asks := by
      refine .of_events (by rw [hprepare]) fun R hR => ?_
      rw [prepare_of_carried hcarried, prepare_of_carried (p := { p with resolver := R }) hcarried]
      simp only [Plan.instantiate, Plan.instantiateFrom_congr hR]
    state := rfl
    registrations := Plan.map_registration_instantiateFrom hok
    positions := hpositions
    filters := hfilters
    ascending := Place.pairwise_indices hpositions
    exposing := fun _ _ => Place.mem_indices_iff hpositions
    authorizers := Place.map_index_authorizers ps
    layers := Place.map_index_layer ps
    handlers := Place.map_index_handlers ps }

end Carried

/-- A preparation succeeds, or it has a first failure. -/
theorem prepare_cases (p : Pipeline) (plan : Plan) (call : Call) :
    (((∀ m ∈ p.options.requiredPolicies, plan.Carries m) ∧
        ∀ r ∈ plan.registrations, p.resolver.Fits call r) ∧
      ∃ c, (p.prepare plan call).outcome = .ok c ∧ p.Prepared plan call c) ∨
    ∃ e asked, (p.prepare plan call).outcome = .error e ∧ p.FirstFailure plan call asked e ∧
      p.Asks plan call asked := by
  rcases IsFirst.none_or_exists (fun m => ¬plan.Carries m) p.options.requiredPolicies with
    hcarried | ⟨front, m, hfirst⟩
  · -- the resolver is asked only behind the policies
    replace hcarried := fun m hm => not_not.mp (hcarried m hm)
    rcases IsFirst.none_or_exists (fun r => ¬p.resolver.Fits call r) plan.registrations with
      hfits | ⟨front, r, hfirst⟩
    · replace hfits := fun r hr => not_not.mp (hfits r hr)
      exact .inl ⟨⟨hcarried, hfits⟩, prepare_of_fits hcarried hfits⟩
    · obtain ⟨e, hr⟩ := Resolver.fails_of_not_fits hfirst.holds
      exact .inr ⟨e, _, by rw [prepare_of_first hcarried hfirst hr],
        .registration hcarried hfirst hr, asks_of_first hcarried hfirst hr⟩
  · exact .inr ⟨_, _, by rw [prepare_of_missing hfirst], .policy hfirst, asks_of_missing hfirst⟩

/-- What fails first keeps the conditions of a preparation from holding. -/
theorem FirstFailure.not_ready {asked : List Registration} {e : Failure}
    (h : p.FirstFailure plan call asked e) :
    ¬((∀ m ∈ p.options.requiredPolicies, plan.Carries m) ∧
      ∀ r ∈ plan.registrations, p.resolver.Fits call r) := by
  rintro ⟨hcarried, hfits⟩
  cases h with
  | policy first => exact first.holds (hcarried _ first.mem)
  | registration carried first fails => exact first.holds (hfits _ first.mem)

end Pipeline

/-- A request is prepared exactly if somebody carries each required policy and each registration has
a filter that takes part in what is declared; then each filter has its place and is called in the
phases that it takes part in. Otherwise the request comes to the first failure, policies in front of
registrations, each in order: the resolver is asked up to the registration that fails, nothing else
decides, and nothing happens in a run. -/
theorem prepare_detects_misuse (p : Pipeline) (plan : Plan) (call : Call) (ends : Ends) :
    ((∃ c, (p.prepare plan call).outcome = .ok c) ↔
      (∀ m ∈ p.options.requiredPolicies, plan.Carries m) ∧
        ∀ r ∈ plan.registrations, p.resolver.Fits call r) ∧
    (∀ c, (p.prepare plan call).outcome = .ok c → p.Prepared plan call c) ∧
    (∀ e, (p.prepare plan call).outcome = .error e →
      p.execute plan call ends = ((p.prepare plan call).events, .error e) ∧
        ∃ asked, p.FirstFailure plan call asked e ∧ p.Asks plan call asked) := by
  rcases p.prepare_cases plan call with ⟨hready, c, hc, hprepared⟩ | ⟨e, asked, he, hfirst, hasks⟩
  · refine ⟨⟨fun _ => hready, fun _ => ⟨c, hc⟩⟩, fun c' hc' => ?_, fun e he => ?_⟩
    · obtain rfl := Except.ok.inj (hc.symm.trans hc')
      exact hprepared
    · cases hc.symm.trans he
  · refine ⟨⟨?_, fun hready => absurd hready hfirst.not_ready⟩, fun c hc => ?_, fun e' he' => ?_⟩
    · rintro ⟨c, hc⟩
      cases hc.symm.trans he
    · cases hc.symm.trans he
    · obtain rfl := Except.error.inj (he.symm.trans he')
      exact ⟨by simp only [Pipeline.execute, he], asked, hfirst, hasks⟩

/-- A factory whose filters take part in nothing that it declares is found out beforehand. -/
theorem prepare_detects_idle_factory (ends : Ends) :
    let f : Filter := { name := "idle" }
    let call : Call := .ofAction ⟨"jobs", "run", .unit⟩
    let late : Registration := .factory "late" .action { action := true } fun _ => .ok f
    let plan : Plan := ⟨[.shared .global f, late, late]⟩
    let p : Pipeline := { resolver := .refusing [] }
    let e : Failure := .capabilityMismatch "late" { action := true } {}
    (p.prepare plan call).outcome = .error e ∧
      (p.execute plan call ends).2 = .error e ∧ NoRun (p.prepare plan call).events := by
  intro f call late plan p e
  have he : (p.prepare plan call).outcome = .error e := rfl
  obtain ⟨-, -, hfails⟩ := prepare_detects_misuse p plan call ends
  obtain ⟨hexecute, asked, -, hasks⟩ := hfails e he
  exact ⟨he, by rw [hexecute], hasks.quiet fun r _ => NoRun.refusing [] r call⟩

end RequestPipeline
