import RequestPipeline.Proofs.Filter.Authority
import RequestPipeline.Proofs.Run.Alike
import RequestPipeline.Proofs.Run.Policies

/-!
# Plans with counterparts

The registrations of a plan may have counterparts in another, under other numbers: each is listed as
its counterpart and resolved to a filter that does the same (`Lens.Counterpart`). Those without a
counterpart are spare if they are resolved to filters that do nothing (`Lens.Spare`). If the plans
agree on who is in charge of what (`Lens.SameCharge`), then requests look alike whether one plan or
the other is executed for them (`Lens.alike_execute`).
-/

set_option autoImplicit false

namespace RequestPipeline

/-- Two outcomes agree: both are successes, of things that are related, or both are the same
failure. -/
inductive Agree {α β : Type} (rel : α → β → Prop) : Except Failure α → Except Failure β → Prop
  | ok {a : α} {b : β} (h : rel a b) : Agree rel (.ok a) (.ok b)
  | error (e : Failure) : Agree rel (.error e) (.error e)

theorem Agree.cases {α β : Type} {rel : α → β → Prop} {x : Except Failure α} {y : Except Failure β}
    (h : Agree rel x y) :
    (∃ a b, x = .ok a ∧ y = .ok b ∧ rel a b) ∨ ∃ e, x = .error e ∧ y = .error e := by
  cases h with
  | ok h => exact .inl ⟨_, _, rfl, rfl, h⟩
  | error e => exact .inr ⟨e, rfl, rfl⟩

theorem Agree.imp {α β : Type} {rel rel' : α → β → Prop} {x : Except Failure α}
    {y : Except Failure β} (h : Agree rel x y) (hrel : ∀ a b, rel a b → rel' a b) :
    Agree rel' x y := by
  cases h with
  | ok h => exact .ok (hrel _ _ h)
  | error e => exact .error e

theorem Agree.map {α β γ δ : Type} {rel : α → β → Prop} {rel' : γ → δ → Prop}
    {x : Except Failure α} {y : Except Failure β} {f : α → γ} {g : β → δ} (h : Agree rel x y)
    (hrel : ∀ a b, rel a b → rel' (f a) (g b)) : Agree rel' (x.map f) (y.map g) := by
  cases h with
  | ok h => exact .ok (hrel _ _ h)
  | error e => exact .error e

/-- Filters that take part at the same moments have the same capabilities. -/
theorem Lens.SameFilter.capabilities {L : Lens} {f g : Filter} (h : L.SameFilter f g) :
    f.capabilities = g.capabilities := by
  have hsome (cb : Callback) : f.capabilities.contains cb.capability =
      g.capabilities.contains cb.capability := by
    rw [← cb.behaviour?_isSome, ← cb.behaviour?_isSome]
    rcases rel_cases (h cb) with ⟨hf, hg⟩ | ⟨b, c, hf, hg, -⟩
    · rw [hf, hg]
    · rw [hf, hg, Option.isSome_some, Option.isSome_some]
  apply Capabilities.ext_contains
  intro c
  cases c with
  | authorization => exact hsome .authorization
  | resource => exact hsome .resourceBefore
  | exception => exact hsome .exception
  | action => exact hsome .actionBefore
  | result => exact hsome .resultBefore

namespace Lens

variable (L : Lens)

/-! ## Who is in charge -/

/-- Two lists of listings agree on who is in charge of what, by the numbers under which they are
known. -/
structure SameCharge (ls ls' : List Listing) : Prop where
  listing : ∀ k l, L.seat k = some l → ls[k]? = ls'[l]?
  injective : ∀ k k' l, L.seat k = some l → L.seat k' = some l → k = k'
  holder : ∀ m, (Listing.authority ls').holder? m =
    ((Listing.authority ls).holder? m).bind L.seat
  seated : ∀ m k, (Listing.authority ls).holder? m = some k → (L.seat k).isSome

section Charge

variable {L} {ls ls' : List Listing} (h : L.SameCharge ls ls')

include h

/-- The listing in charge of a policy is the same. -/
theorem SameCharge.effective (m : Marker) :
    ((Listing.authority ls).holder? m).bind (fun i => ls[i]?) =
      ((Listing.authority ls').holder? m).bind fun i => ls'[i]? := by
  rw [h.holder]
  cases hk : (Listing.authority ls).holder? m with
  | none => rfl
  | some k =>
    obtain ⟨l, hl⟩ := Option.isSome_iff_exists.mp (h.seated m k hk)
    simp [hl, h.listing k l hl]

/-- A listing is in charge of what its counterpart is in charge of. -/
theorem SameCharge.policies {k l : Nat} (hkl : L.seat k = some l) (m : Marker) :
    m ∈ (Listing.authority ls).policies k ↔ m ∈ (Listing.authority ls').policies l := by
  rw [Authority.mem_policies, Authority.mem_policies, h.holder]
  constructor
  · intro hk
    rw [hk, Option.bind_some, hkl]
  · intro hl
    obtain ⟨k', hk', hseat⟩ := Option.bind_eq_some_iff.mp hl
    rw [hk', h.injective k' k l hseat hkl]

/-- Views of counterparts in states that look alike agree. -/
theorem SameCharge.view {k l : Nat} (hkl : L.seat k = some l) {s t : State}
    (hs : L.state s = L.state t) :
    L.SameView ⟨ls, { s with current := some k }⟩ ⟨ls', { t with current := some l }⟩ where
  state := hs
  listing := h.listing k l hkl
  charge m := by
    have hpolicies := h.policies hkl m
    rw [← List.contains_iff_mem, ← List.contains_iff_mem, ← Bool.eq_iff_iff] at hpolicies
    exact hpolicies
  holder m := h.effective m

end Charge

/-! ## Registrations -/

section Registrations

variable (R R' : Resolver) (call : Call) (ls : List Listing)

/-- A registration and its counterpart, each with its position, are listed alike and resolved to
filters that do the same. -/
structure Counterpart (x y : Registration × Nat) : Prop where
  listing : x.1.listing = y.1.listing
  seat : L.seat x.2 = some y.2
  events : L.events (R x.1 call).events = L.whole.events (R' y.1 call).events
  filter : Agree L.SameFilter (R x.1 call).outcome (R' y.1 call).outcome

/-- A filter in a position among listings is not looked at, and does nothing. -/
structure Idles (f : Filter) (i : Nat) : Prop where
  seat : L.seat i = none
  reply : ∀ (cb : Callback) (b : Behaviour), cb.behaviour? f = some b →
    ∀ s : State, L.reply (b ⟨ls, { s with current := some i }⟩) = {}

/-- A registration in its position is resolved without further ado to a filter that does nothing. -/
structure Spare (x : Registration × Nat) : Prop where
  seat : L.seat x.2 = none
  filter : ∃ f, R x.1 call = { outcome := .ok f } ∧ f.capabilities = x.1.listing.capabilities ∧
    L.Idles ls f x.2

/-- A filter in its place and its counterpart do the same. -/
structure Twin (p q : Place) : Prop where
  listing : p.registration.listing = q.registration.listing
  seat : L.seat p.index = some q.index
  filter : L.SameFilter p.filter q.filter

end Registrations

end Lens

/-! ## Resolving registrations -/

theorem zipIdx_eq_cons {α : Type} {xs : List α} {i : Nat} {y : α × Nat} {ys : List (α × Nat)}
    (h : xs.zipIdx i = y :: ys) :
    ∃ x xs', xs = x :: xs' ∧ y = (x, i) ∧ ys = xs'.zipIdx (i + 1) := by
  cases xs with
  | nil => simp at h
  | cons x xs =>
    rw [List.zipIdx_cons, List.cons.injEq] at h
    exact ⟨x, xs, rfl, h.1.symm, h.2.symm⟩

namespace Plan

section Instances

variable {R : Resolver} {call : Call} {i : Nat} {r : Registration} {rs : List Registration}

theorem instantiateFrom_of_error {e : Failure} (h : (R r call).outcome = .error e) :
    instantiateFrom R call i (r :: rs) = ⟨(R r call).events, .error e⟩ := by
  simp [instantiateFrom, h]

theorem instantiateFrom_of_mismatch {f : Filter} (h : (R r call).outcome = .ok f)
    (hne : f.capabilities ≠ r.listing.capabilities) :
    instantiateFrom R call i (r :: rs) = ⟨(R r call).events,
      .error (.capabilityMismatch r.listing.name r.listing.capabilities f.capabilities)⟩ := by
  simp [instantiateFrom, h, hne]

theorem instantiateFrom_of_agrees {f : Filter} (h : (R r call).outcome = .ok f)
    (agrees : f.capabilities = r.listing.capabilities) :
    instantiateFrom R call i (r :: rs) =
      ⟨(R r call).events ++ (instantiateFrom R call (i + 1) rs).events,
        (instantiateFrom R call (i + 1) rs).outcome.map fun ps => ⟨i, r, f, agrees⟩ :: ps⟩ := by
  simp [instantiateFrom, h, agrees]

end Instances

end Plan

namespace Lens

section Instances

variable {L : Lens} {R R' : Resolver} {call : Call} {ls : List Listing}

/-- Registrations are resolved to filters that correspond, or fail alike. -/
theorem alike_instantiateFrom {xs ys : List Registration} {i j : Nat}
    (h : Thins (L.Counterpart R R' call) (L.Spare R call ls) (xs.zipIdx i) (ys.zipIdx j)) :
    L.events (Plan.instantiateFrom R call i xs).events =
        L.whole.events (Plan.instantiateFrom R' call j ys).events ∧
      Agree (Thins L.Twin fun p => L.Idles ls p.filter p.index)
        (Plan.instantiateFrom R call i xs).outcome (Plan.instantiateFrom R' call j ys).outcome := by
  -- the positions differ as soon as a registration is spare, so both are general
  induction xs generalizing i j ys with
  | nil =>
    obtain rfl : ys = [] := by simpa using Thins.nil_iff.mp h
    exact ⟨rfl, .ok .nil⟩
  | cons x xs ih =>
    rw [List.zipIdx_cons] at h
    rcases h.cons_cases with ⟨z, zs, hz, head, tail⟩ | ⟨⟨hseat, f, hx, agrees, hidles⟩, tail⟩
    · obtain ⟨y, ys, rfl, rfl, rfl⟩ := zipIdx_eq_cons hz
      obtain ⟨hevents, hrest⟩ := ih tail
      have hlisting : x.listing = y.listing := head.listing
      rcases head.filter.cases with ⟨f, g, hx, hy, hfg⟩ | ⟨e, hx, hy⟩
      · -- both filters take part in the same phases, so both agree with the listing or neither does
        by_cases agrees : f.capabilities = x.listing.capabilities
        · have agrees' : g.capabilities = y.listing.capabilities := by
            rw [← hfg.capabilities, agrees, hlisting]
          rw [Plan.instantiateFrom_of_agrees hx agrees, Plan.instantiateFrom_of_agrees hy agrees']
          refine ⟨?_, hrest.map fun ps qs hpq => .keep ⟨hlisting, head.seat, hfg⟩ hpq⟩
          rw [events_append, events_append, hevents, head.events]
        · have hne : g.capabilities ≠ y.listing.capabilities := by
            rwa [← hfg.capabilities, ← hlisting]
          rw [Plan.instantiateFrom_of_mismatch hx agrees, Plan.instantiateFrom_of_mismatch hy hne,
            hlisting, hfg.capabilities]
          exact ⟨head.events, .error _⟩
      · rw [Plan.instantiateFrom_of_error hx, Plan.instantiateFrom_of_error hy]
        exact ⟨head.events, .error e⟩
    · -- a filter that does nothing is resolved without a trace
      obtain ⟨hevents, hrest⟩ := ih tail
      have hfound : (R x call).outcome = .ok f := by rw [hx]
      rw [Plan.instantiateFrom_of_agrees hfound agrees, hx]
      have hrest := hrest.map (f := fun ps => Place.mk i x f agrees :: ps) (g := id)
        fun ps qs hpq => Thins.drop hidles hpq
      rw [Except.map_id] at hrest
      exact ⟨hevents, hrest⟩

end Instances

/-! ## Requests -/

section Requests

variable {L : Lens} {R R' : Resolver} {call : Call} {plan plan' : Plan} {ps qs : List Place}

/-- A filter and its counterpart do the same when they are called in the places of plans that agree
on who is in charge. -/
theorem Twin.pair (h : L.SameCharge (Place.listings ps) (Place.listings qs)) {p q : Place}
    (hpq : L.Twin p q) : L.Pair ps qs p q where
  listing := hpq.listing
  seat := hpq.seat
  reply cb := rel_imp (hpq.filter cb) fun _ _ hbehaviour _ _ hs =>
    hbehaviour _ _ (h.view hpq.seat hs)

theorem corresponds_of_twins (h : L.SameCharge (Place.listings ps) (Place.listings qs))
    (hplaces : Thins L.Twin (fun p => L.Idles (Place.listings ps) p.filter p.index) ps qs) :
    L.Corresponds ps qs := by
  have hpairs := hplaces.map (f := id) (g := id) (fun _ _ hpq => hpq.pair h)
    fun p hp => (⟨hp.seat, hp.reply⟩ : L.Drop ps p)
  rwa [List.map_id, List.map_id] at hpairs

/-- Plans that agree on who is in charge provide the same policies. -/
theorem SameCharge.require (h : L.SameCharge plan.listings plan'.listings) (ms : List Marker) :
    plan.require ms = plan'.require ms := by
  have heffective (m : Marker) : plan.effective m = plan'.effective m := by
    rw [Plan.effective, Plan.effective, h.effective]
  induction ms with
  | nil => rfl
  | cons m ms ih => rw [Plan.require, Plan.require, heffective, ih]

/-- Requests look alike for which plans with counterparts are executed. -/
theorem alike_execute (h : L.SameCharge plan.listings plan'.listings)
    (hplan : Thins (L.Counterpart R R' call) (L.Spare R call plan.listings)
      plan.registrations.zipIdx plan'.registrations.zipIdx)
    {ends ends' : Ends} (hends : L.SameEnds ends ends') (options : Options) :
    let x := Pipeline.execute ⟨options, R⟩ plan call ends
    let y := Pipeline.execute ⟨options, R'⟩ plan' call ends'
    L.events x.1 = L.whole.events y.1 ∧ x.2.mapError L.failure = y.2.mapError L.failure := by
  have hrequire := h.require options.requiredPolicies
  obtain ⟨hevents, hplaces⟩ := alike_instantiateFrom hplan
  simp only [Pipeline.execute, Pipeline.prepare, Plan.instantiate, ← hrequire]
  cases plan.require options.requiredPolicies with
  | error e => exact ⟨rfl, rfl⟩
  | ok _ =>
    rcases hplaces.cases with ⟨ps, qs, hps, hqs, htwins⟩ | ⟨e, hps, hqs⟩
    · have hls : Place.listings ps = plan.listings := Plan.listings_instantiate hps
      have hls' : Place.listings qs = plan'.listings := Plan.listings_instantiate hqs
      rw [← hls, ← hls'] at h
      rw [← hls] at htwins
      have hrun := alike_run (corresponds_of_twins h htwins) hends call
      rw [hps, hqs]
      simp only [Except.map]
      refine ⟨?_, hrun.2⟩
      rw [events_append, events_append, hevents, hrun.1]
    · rw [hps, hqs]
      exact ⟨hevents, rfl⟩

end Requests

end Lens

end RequestPipeline
