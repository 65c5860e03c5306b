import RequestPipeline.Proofs.Filter.Authority
import RequestPipeline.Proofs.Run.Preparation

/-!
# Filters that carry a policy themselves

Who is in charge of a policy is told from registrations, before any filter is made for a request. A
filter that is shared by all requests is registered with every policy that it carries
(`Registration.Made.lists_shared`); what a factory makes is not known beforehand, so nothing of it
is registered but what is added by hand. Exactly one filter of a request is in charge of a policy if
a registration carries the policy, and none is otherwise (`Place.existsUnique_inCharge_iff`),
whatever the filters carry themselves. So a policy is carried out by nobody if only filters that
factories made carry it and it was not added to their registrations (`instantiate_honours`).
-/

set_option autoImplicit false

namespace RequestPipeline

/-! ## Registrations -/

namespace Registration

/-- What is registered: a filter or a factory, with changes to its order, its scope and its
policies. -/
inductive Made : Registration → Prop
  | shared (scope : Scope) (f : Filter) : Made (.shared scope f)
  | factory (name : String) (scope : Scope) (capabilities : Capabilities)
      (make : Call → Except Fault Filter) : Made (.factory name scope capabilities make)
  | withOrder {r : Registration} (h : Made r) (order : Int) : Made (r.withOrder order)
  | withScope {r : Registration} (h : Made r) (scope : Scope) : Made (r.withScope scope)
  | withPolicy {r : Registration} (h : Made r) (m : Marker) : Made (r.withPolicy m)

/-- A registration carries every policy that a filter carries. -/
def Lists (r : Registration) (f : Filter) : Prop :=
  ∀ m, f.carries m = true → r.listing.carries m = true

variable {r : Registration} {f : Filter} {m n : Marker}

theorem carries_withPolicy :
    (r.withPolicy m).listing.carries n = true ↔ r.listing.carries n = true ∨ n = m := by
  simp only [Listing.carries, withPolicy, Marker.add, List.contains_iff_mem]
  split
  · next hm =>
    -- the policy is there already
    constructor
    · exact .inl
    · rintro (hn | rfl)
      · exact hn
      · exact hm
  · simp

/-- A shared filter is registered with every policy that it carries, and no change takes one away.
-/
theorem Made.lists_shared (h : r.Made) (hr : r.source = .shared f) : r.Lists f := by
  induction h with
  | shared scope g =>
    obtain rfl := Source.shared.inj hr
    exact fun m hm => hm
  | factory name scope capabilities make => cases hr
  | withOrder _ order ih => exact ih hr
  | withScope _ scope ih => exact ih hr
  | withPolicy _ n ih => exact fun m hm => carries_withPolicy.mpr (.inl (ih hr m hm))

end Registration

/-! ## Resolvers -/

/-- A resolver takes shared filters as they are. -/
def Resolver.KeepsShared (R : Resolver) : Prop :=
  ∀ (r : Registration) (call : Call) (f g : Filter), r.source = .shared f →
    (R r call).outcome = .ok g → g = f

theorem Resolver.standard_keepsShared : standard.KeepsShared := by
  intro r call f g hr hg
  simpa [standard, hr, eq_comm] using hg

namespace Plan

variable {plan : Plan} {resolver : Resolver} {call : Call} {ps : List Place} {m : Marker}

/-- The filter in a place is the one that the resolver found for its registration. -/
theorem resolved_of_mem (h : (plan.instantiate resolver call).outcome = .ok ps) {p : Place}
    (hp : p ∈ ps) : (resolver p.registration call).outcome = .ok p.filter := by
  rcases IsFirst.none_or_exists (fun r => ¬resolver.Fits call r) plan.registrations with
    hfits | ⟨front, r, hfirst⟩
  · obtain ⟨qs, hqs, hfilters⟩ :=
      instantiateFrom_of_fits (i := 0) fun r hr => not_not.mp (hfits r hr)
    obtain rfl : qs = ps := by simpa [instantiate, hqs] using h
    exact hfilters p hp
  · -- a registration that does not fit would have made the plan fail
    obtain ⟨e, he⟩ := Resolver.fails_of_not_fits hfirst.holds
    simp [instantiate, instantiateFrom_of_first hfirst he] at h

theorem registration_mem (h : (plan.instantiate resolver call).outcome = .ok ps) {p : Place}
    (hp : p ∈ ps) : p.registration ∈ plan.registrations := by
  rw [← map_registration_instantiateFrom h]
  exact List.mem_map_of_mem hp

theorem holder?_eq_none_iff_not_carries :
    (Listing.authority plan.listings).holder? m = none ↔ ¬plan.Carries m := by
  rw [Listing.holder?_authority_eq_none_iff, listings]
  simp [Carries]

end Plan

/-! ## Filters in charge -/

namespace Place

/-- The filter in a place is in charge of a policy. -/
def InCharge (ps : List Place) (m : Marker) (k : Nat) : Prop :=
  ∃ p, ps[k]? = some p ∧ isEffective ps p m = true

/-- The filter in a place is in charge of a policy that it carries itself. -/
def Applies (ps : List Place) (m : Marker) (k : Nat) : Prop :=
  ∃ p, ps[k]? = some p ∧ p.filter.carries m = true ∧ isEffective ps p m = true

section InCharge

variable {plan : Plan} {resolver : Resolver} {call : Call} {ps : List Place} {m : Marker}
  {k l : Nat}

theorem Applies.inCharge (h : Applies ps m k) : InCharge ps m k := by
  obtain ⟨p, hp, -, heffective⟩ := h
  exact ⟨p, hp, heffective⟩

/-- The place of the last registration that carries a policy is in a request, too. -/
theorem exists_place (h : (plan.instantiate resolver call).outcome = .ok ps)
    (hk : Listing.IsLastCarrier plan.listings m k) : ∃ p, ps[k]? = some p := by
  obtain ⟨⟨x, hx, -⟩, -⟩ := hk
  rw [← Plan.listings_instantiate h, listings, List.getElem?_map, Option.map_eq_some_iff] at hx
  obtain ⟨p, hp, -⟩ := hx
  exact ⟨p, hp⟩

/-- Whoever is in charge in a request is in charge in its plan. -/
theorem inCharge_iff (h : (plan.instantiate resolver call).outcome = .ok ps) :
    InCharge ps m l ↔ (Listing.authority plan.listings).holder? m = some l := by
  have hgoverns := Plan.governs_instantiate h m
  constructor
  · rintro ⟨p, hp, heffective⟩
    exact (hgoverns.items l p hp).mp heffective
  · intro hl
    obtain ⟨p, hp⟩ := exists_place h (Listing.isLastCarrier_of_holder? hl)
    exact ⟨p, hp, (hgoverns.items l p hp).mpr hl⟩

/-- Exactly one filter is in charge of a policy if a registration carries it, and none otherwise. -/
theorem existsUnique_inCharge_iff (h : (plan.instantiate resolver call).outcome = .ok ps) :
    (∃! k, InCharge ps m k) ↔ plan.Carries m := by
  simp only [inCharge_iff h]
  constructor
  · rintro ⟨k, hk, -⟩
    refine Classical.byContradiction fun hnone => ?_
    simp [Plan.holder?_eq_none_iff_not_carries.mpr hnone] at hk
  · intro hcarries
    obtain ⟨k, hk⟩ := Option.ne_none_iff_exists'.mp
      (mt Plan.holder?_eq_none_iff_not_carries.mp (not_not.mpr hcarries))
    exact ⟨k, hk, fun l hl => Option.some.inj (hl.symm.trans hk)⟩

end InCharge

end Place

/-! ## From what filters carry to who is in charge -/

/-- If a registration of a plan carries a policy, exactly one filter of a request is in charge of
it, the one of the last such registration, and every filter that is called in a run sees it so;
that filter is one that carries the policy itself, or none that does is in charge. If no
registration carries the policy, no filter is in charge of it in any run, and every filter that
carries it all the same was made by a factory. -/
theorem instantiate_honours {plan : Plan} {resolver : Resolver} {call : Call} {ps : List Place}
    (h : (plan.instantiate resolver call).outcome = .ok ps) (m : Marker) :
    ((∃! k, Place.InCharge ps m k) ↔ plan.Carries m) ∧
      (plan.Carries m → ∃ k p, Listing.IsLastCarrier plan.listings m k ∧ ps[k]? = some p ∧
        Place.InCharge ps m k ∧ Place.Governs ps m (some k) ∧
        ((∃! l, Place.Applies ps m l) ↔ p.filter.carries m = true)) ∧
      (¬plan.Carries m → (∀ k, ¬Place.InCharge ps m k) ∧ Place.Governs ps m none ∧
        (resolver.KeepsShared → ∀ p ∈ ps, p.registration.Made → p.filter.carries m = true →
          ∃ make, p.registration.source = .factory make)) := by
  have hgoverns := Plan.governs_instantiate h m
  refine ⟨Place.existsUnique_inCharge_iff h, fun hcarries => ?_, fun hnone => ⟨?_, ?_, ?_⟩⟩
  · obtain ⟨k, hk, hunique⟩ := (Place.existsUnique_inCharge_iff h).mpr hcarries
    have hholder := (Place.inCharge_iff h).mp hk
    obtain ⟨p, hp, heffective⟩ := hk
    rw [hholder] at hgoverns
    refine ⟨k, p, Listing.isLastCarrier_of_holder? hholder, hp, ⟨p, hp, heffective⟩, hgoverns, ?_⟩
    constructor
    · rintro ⟨l, hl, -⟩
      -- whoever applies the policy is the one in charge of it
      obtain rfl := hunique l hl.inCharge
      obtain ⟨q, hq, hfilter, -⟩ := hl
      rw [hp] at hq
      exact Option.some.inj hq ▸ hfilter
    · intro hfilter
      exact ⟨k, ⟨p, hp, hfilter, heffective⟩, fun l hl => hunique l hl.inCharge⟩
  · intro k hk
    simp [Place.inCharge_iff h, Plan.holder?_eq_none_iff_not_carries.mpr hnone] at hk
  · rwa [Plan.holder?_eq_none_iff_not_carries.mpr hnone] at hgoverns
  · intro hkeeps p hp hmade hfilter
    cases hsource : p.registration.source with
    | factory make => exact ⟨make, rfl⟩
    | shared f =>
      -- a shared filter would have been registered with the policy
      obtain rfl := hkeeps _ _ _ _ hsource (Plan.resolved_of_mem h hp)
      exact absurd ⟨_, Plan.registration_mem h hp, hmade.lists_shared hsource m hfilter⟩ hnone

/-- A factory that makes the same filter for every request. -/
def Registration.making (scope : Scope) (f : Filter) : Registration :=
  .factory f.name scope f.capabilities fun _ => .ok f

/-- The filter for every action is in charge, although a factory makes one for the action itself.
Nobody is if that one is alone. -/
theorem instantiate_honours_shared :
    let f := CrossOrigin.toFilter {}
    let call : Call := .ofAction ⟨"jobs", "run", .unit⟩
    let plan := Plan.resolve [.shared .global f, .making .action f]
    let ps : List Place := [⟨0, .shared .global f, f, rfl⟩, ⟨1, .making .action f, f, rfl⟩]
    let alone := Plan.resolve [.making .action f]
    let qs : List Place := [⟨0, .making .action f, f, rfl⟩]
    (plan.instantiate .standard call).outcome = .ok ps ∧
      (∃! k, Place.InCharge ps .crossOrigin k) ∧ Place.InCharge ps .crossOrigin 0 ∧
      (∃! k, Place.Applies ps .crossOrigin k) ∧
      (alone.instantiate .standard call).outcome = .ok qs ∧
      (∀ k, ¬Place.InCharge qs .crossOrigin k) ∧
      ∀ p ∈ qs, p.filter.carries .crossOrigin = true →
        ∃ make, p.registration.source = .factory make := by
  intro f call plan ps alone qs
  have hplan : plan.registrations = [.shared .global f, .making .action f] :=
    List.mergeSort_of_pairwise (by decide)
  have hps : (plan.instantiate .standard call).outcome = .ok ps := by
    rw [Plan.instantiate, hplan]
    rfl
  have halone : alone.registrations = [.making .action f] := List.mergeSort_singleton _
  have hqs : (alone.instantiate .standard call).outcome = .ok qs := by
    rw [Plan.instantiate, halone]
    rfl
  obtain ⟨hone, hcarried, -⟩ := instantiate_honours hps .crossOrigin
  have hcarries : plan.Carries .crossOrigin := ⟨.shared .global f, by simp [hplan], by decide⟩
  obtain ⟨k, p, -, hp, -, -, happlies⟩ := hcarried hcarries
  -- both filters carry the policy themselves, so whoever is in charge applies it
  have hfilter : p.filter.carries .crossOrigin = true := by
    have hmem : p ∈ ps := List.mem_of_getElem? hp
    simp only [ps, List.mem_cons, List.not_mem_nil, or_false] at hmem
    rcases hmem with rfl | rfl <;> rfl
  -- nothing of what the factory makes is registered
  have hnone : ¬alone.Carries .crossOrigin := by
    rintro ⟨r, hr, hcarries⟩
    rw [halone] at hr
    obtain rfl := List.mem_singleton.mp hr
    cases hcarries
  obtain ⟨hnobody, -, hfactory⟩ := (instantiate_honours hqs .crossOrigin).2.2 hnone
  refine ⟨hps, hone.mpr hcarries, ⟨_, rfl, by decide⟩, happlies.mpr hfilter, hqs, hnobody, ?_⟩
  intro p hp
  obtain rfl := List.mem_singleton.mp hp
  exact hfactory Resolver.standard_keepsShared _ hp (.factory ..)

/-- A policy is nobody's if factories make all the filters that carry it. -/
theorem instantiate_overlooks_factories :
    ¬ ∀ (rs : List Registration) (resolver : Resolver) (call : Call) (ps : List Place) (m : Marker),
      (∀ r ∈ rs, r.Made) → ((Plan.resolve rs).instantiate resolver call).outcome = .ok ps →
        (∃ p ∈ ps, p.filter.carries m = true) → ∃! k, Place.InCharge ps m k := by
  intro h
  let f := CrossOrigin.toFilter {}
  let rs : List Registration := [.making .global f, .making .action f]
  let ps : List Place := [⟨0, .making .global f, f, rfl⟩, ⟨1, .making .action f, f, rfl⟩]
  have hplan : (Plan.resolve rs).registrations = rs := List.mergeSort_of_pairwise (by decide)
  have hps : ((Plan.resolve rs).instantiate .standard (.ofAction ⟨"jobs", "run", .unit⟩)).outcome =
      .ok ps := by
    rw [Plan.instantiate, hplan]
    rfl
  have hmade : ∀ r ∈ rs, r.Made := by
    simp only [rs, List.forall_mem_cons]
    exact ⟨.factory .., .factory .., by simp⟩
  obtain ⟨k, ⟨p, hp, heffective⟩, -⟩ :=
    h rs .standard _ ps .crossOrigin hmade hps ⟨_, List.mem_cons_self, by decide⟩
  -- neither of the two filters is in charge
  have hmem : p ∈ ps := List.mem_of_getElem? hp
  simp only [ps, List.mem_cons, List.not_mem_nil, or_false] at hmem
  rcases hmem with rfl | rfl <;> cases heffective

end RequestPipeline
