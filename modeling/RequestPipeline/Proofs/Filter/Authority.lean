import RequestPipeline.Proofs.Filter.Order
import RequestPipeline.Proofs.Run.Reach

/-!
# Who is in charge of a policy

Of all declared registrations that carry a policy the one with the greatest key is in charge of it
(`Registration.InCharge`). As each listing takes the place of those in front of it, the table of a
plan ends with the last that carries the policy (`authority_cases`), which is that registration
(`effective_resolve`). So it is in every request: the filter in that place says that it is in
charge, no other filter does, and every filter called in a run sees it so (`Place.Governs`,
`resolve_governed`).
-/

set_option autoImplicit false

namespace RequestPipeline

/-! ## Tables -/

section Tables

variable {ls : List Listing} {m : Marker} {k : Nat}

/-- The listing at a position carries a policy, and none behind it does. -/
def Listing.IsLastCarrier (ls : List Listing) (m : Marker) (k : Nat) : Prop :=
  (∃ l, ls[k]? = some l ∧ l.carries m = true) ∧
    ∀ j l, k < j → ls[j]? = some l → l.carries m = false

theorem Listing.isLastCarrier_cons_zero {l : Listing} (h : l.carries m = true)
    (hls : ∀ x ∈ ls, x.carries m = false) : IsLastCarrier (l :: ls) m 0 := by
  refine ⟨⟨l, rfl, h⟩, fun j x hj hx => ?_⟩
  obtain ⟨j, rfl⟩ : ∃ n, j = n + 1 := ⟨j - 1, by omega⟩
  exact hls x (List.mem_of_getElem? (by simpa using hx))

theorem Listing.IsLastCarrier.cons (h : IsLastCarrier ls m k) (l : Listing) :
    IsLastCarrier (l :: ls) m (k + 1) := by
  obtain ⟨⟨x, hx, hcarries⟩, hlast⟩ := h
  refine ⟨⟨x, by simpa using hx, hcarries⟩, fun j y hj hy => ?_⟩
  obtain ⟨j, rfl⟩ : ∃ n, j = n + 1 := ⟨j - 1, by omega⟩
  exact hlast j y (by omega) (by simpa using hy)

/-- Behind a walk whoever was in charge of a policy still is, unless a listing carries it: then the
last of these is. -/
theorem Authority.extend_cases (t : Authority) (i : Nat) (ls : List Listing) (m : Marker) :
    ((∀ l ∈ ls, l.carries m = false) ∧ (t.extend i ls).holder? m = t.holder? m) ∨
      ∃ k, Listing.IsLastCarrier ls m k ∧ (t.extend i ls).holder? m = some (i + k) := by
  induction ls generalizing t i with
  | nil => exact .inl ⟨by simp, rfl⟩
  | cons l ls ih =>
    rcases ih (t.grant i l) (i + 1) with ⟨hnone, hholder⟩ | ⟨k, hlast, hholder⟩
    · -- nobody further back carries the policy, so what the first listing left stands
      rw [holder?_grant] at hholder
      by_cases hl : l.carries m = true
      · rw [if_pos hl] at hholder
        exact .inr ⟨0, Listing.isLastCarrier_cons_zero hl hnone, hholder⟩
      · rw [if_neg hl] at hholder
        refine .inl ⟨?_, hholder⟩
        simpa [hl] using hnone
    · -- whether the first listing carries it or not, one further back takes its place
      refine .inr ⟨k + 1, hlast.cons l, hholder.trans ?_⟩
      rw [Nat.add_assoc, Nat.add_comm 1]

/-- The last listing that carries a policy is in charge of it; without one nobody is. -/
theorem Listing.authority_cases (ls : List Listing) (m : Marker) :
    ((∀ l ∈ ls, l.carries m = false) ∧ (authority ls).holder? m = none) ∨
      ∃ k, IsLastCarrier ls m k ∧ (authority ls).holder? m = some k := by
  simpa [authority] using Authority.empty.extend_cases 0 ls m

theorem Listing.holder?_authority_eq_none_iff :
    (authority ls).holder? m = none ↔ ∀ l ∈ ls, l.carries m = false := by
  rcases authority_cases ls m with ⟨hnone, h⟩ | ⟨k, ⟨⟨l, hl, hcarries⟩, -⟩, h⟩
  · simp only [h, true_iff]
    exact hnone
  · simp only [h, reduceCtorEq, false_iff, not_forall]
    exact ⟨l, List.mem_of_getElem? hl, by simp [hcarries]⟩

theorem Listing.isLastCarrier_of_holder? (h : (authority ls).holder? m = some k) :
    IsLastCarrier ls m k := by
  rcases authority_cases ls m with ⟨-, hnone⟩ | ⟨j, hlast, hsome⟩
  · simp [hnone] at h
  · obtain rfl : j = k := by simpa [hsome] using h
    exact hlast

end Tables

/-- A registration declared at a position is in charge of a policy: it carries the policy, and of
all that do it has the greatest key. -/
structure Registration.InCharge (rs : List Registration) (m : Marker) (r : Registration)
    (i : Nat) : Prop where
  declared : rs[i]? = some r
  carries : r.listing.carries m = true
  greatest : ∀ (a : Registration) (j : Nat), rs[j]? = some a → a.listing.carries m = true →
    a.key j ≤ r.key i

/-! ## Plans -/

namespace Plan

variable {rs : List Registration} {m : Marker} {k : Nat}

theorem map_declared (rs : List Registration) :
    (declared rs).map (fun x => x.1.listing) = (resolve rs).listings := by
  rw [listings, ← map_fst_declared, List.map_map]
  rfl

/-- Somebody is in charge of a policy in a plan exactly if a registration carries it. -/
theorem holder?_resolve_eq_none_iff :
    (Listing.authority (resolve rs).listings).holder? m = none ↔
      ∀ r ∈ rs, r.listing.carries m = false := by
  have hperm : (resolve rs).registrations.Perm rs := List.mergeSort_perm _ _
  rw [Listing.holder?_authority_eq_none_iff, listings]
  simp [hperm.mem_iff]

/-- The last registration of a plan that carries a policy is the one in charge of it. -/
theorem inCharge_of_holder? (h : (Listing.authority (resolve rs).listings).holder? m = some k) :
    ∃ r i, (declared rs)[k]? = some (r, i) ∧ Registration.InCharge rs m r i := by
  obtain ⟨⟨l, hl, hcarries⟩, hlast⟩ := Listing.isLastCarrier_of_holder? h
  simp only [← map_declared, List.getElem?_map] at hl hlast
  obtain ⟨⟨r, i⟩, hk, rfl⟩ := Option.map_eq_some_iff.mp hl
  refine ⟨r, i, hk, mem_declared.mp (List.mem_of_getElem? hk), hcarries, ?_⟩
  intro a j hj ha
  -- a carrier does not stand behind the last one, so its key is not greater
  obtain ⟨n, hn⟩ := List.mem_iff_getElem?.mp (mem_declared.mpr hj)
  refine not_lt.mp fun hlt => ?_
  have hkn : k < n := (lt_iff_key_lt hk hn).mpr hlt
  have hnone := hlast n a.listing hkn (by simp [hn])
  simp [ha] at hnone

/-- A plan gives the listing of the registration in charge. -/
theorem effective_resolve {r : Registration} {i : Nat}
    (h : (Listing.authority (resolve rs).listings).holder? m = some k)
    (hk : (declared rs)[k]? = some (r, i)) : (resolve rs).effective m = .ok r.listing := by
  have hlisting : (resolve rs).listings[k]? = some r.listing := by
    simp [← map_declared, hk]
  simp [effective, h, hlisting]

theorem effective_of_holder?_eq_none
    (h : (Listing.authority (resolve rs).listings).holder? m = none) :
    (resolve rs).effective m = .error (.noEffectivePolicy m) := by
  simp [effective, h]

end Plan

/-! ## Requests -/

/-- The filter in a place, or none, is in charge of a policy among the filters of a request: as each
of them says of itself, as they say together, and as every filter sees it that is called in a run,
whatever the run works with. -/
structure Place.Governs (ps : List Place) (m : Marker) (k : Option Nat) : Prop where
  items : ∀ (l : Nat) (p : Place), ps[l]? = some p → (isEffective ps p m = true ↔ k = some l)
  position : effective? ps m = k
  views : ∀ (ends : Ends) (call : Call) (cb : Callback),
    ∀ e ∈ entries cb (run ends ps (.initial call)).events, ∃ p b, ps[e.index]? = some p ∧
      cb.behaviour? p.filter = some b ∧ e.reply = b ⟨listings ps, e.before⟩ ∧
      ((View.mk (listings ps) e.before).isEffective m = true ↔ k = some e.index)

section Requests

variable {plan : Plan} {resolver : Resolver} {made : Call} {ps : List Place}

/-- A filter of a request is numbered by its place. -/
theorem Plan.index_of_getElem? (h : (plan.instantiate resolver made).outcome = .ok ps) {l : Nat}
    {p : Place} (hl : ps[l]? = some p) : p.index = l := by
  have hindex : (ps.map Place.index)[l]? = some p.index := by simp [hl]
  rw [map_index_instantiateFrom h, List.getElem?_eq_some_iff] at hindex
  obtain ⟨hlt, hindex⟩ := hindex
  simpa [eq_comm] using hindex

theorem Plan.listings_instantiate (h : (plan.instantiate resolver made).outcome = .ok ps) :
    Place.listings ps = plan.listings := by
  rw [Plan.listings, ← map_registration_instantiateFrom h, List.map_map]
  rfl

/-- A view shows a filter in charge if the state in which it is called points to its place. -/
theorem View.isEffective_entry {cb : Callback} {p : Place} {b : Behaviour} {s : State}
    {m : Marker} :
    (View.mk (Place.listings ps) (p.entry ps cb b s).before).isEffective m =
      Place.isEffective ps p m := by
  simp [isEffective, Place.isEffective, Place.entry]

/-- Whoever is in charge in a plan is in charge in every request. -/
theorem Plan.governs_instantiate (h : (plan.instantiate resolver made).outcome = .ok ps)
    (m : Marker) : Place.Governs ps m ((Listing.authority plan.listings).holder? m) := by
  have hlistings := listings_instantiate h
  have hitems (l : Nat) (p : Place) (hl : ps[l]? = some p) :
      Place.isEffective ps p m = true ↔ (Listing.authority plan.listings).holder? m = some l := by
    rw [Place.isEffective, hlistings, index_of_getElem? h hl, List.contains_iff_mem,
      Authority.mem_policies]
  refine ⟨hitems, ?_, ?_⟩
  · rw [Place.effective?, hlistings]
    cases hk : (Listing.authority plan.listings).holder? m with
    | none => rfl
    | some k =>
      -- the place of the last carrier is one of the plan, so there is a filter in it
      obtain ⟨⟨x, hx, -⟩, -⟩ := Listing.isLastCarrier_of_holder? hk
      rw [← hlistings, Place.listings, List.getElem?_map, Option.map_eq_some_iff] at hx
      obtain ⟨p, hp, -⟩ := hx
      simp [hp, index_of_getElem? h hp]
  · intro ends call cb e he
    obtain ⟨p, hp, b, s, hb, rfl⟩ := called_run ends he
    -- the state in which a filter is called points to its place
    obtain ⟨l, hl⟩ := List.mem_iff_getElem?.mp hp
    obtain rfl : p.index = l := index_of_getElem? h hl
    refine ⟨p, b, hl, hb, rfl, ?_⟩
    rw [View.isEffective_entry]
    exact hitems p.index p hl

end Requests

/-! ## From the declarations to the runs -/

/-- A plan names somebody in charge of a policy exactly if a registration carries it, and then it is
the carrier with the greatest key. In every request for which the plan is resolved the filter made
for this registration, and no other, is in charge of the policy, for itself, for the plan and for
every filter called in a run; if nobody carries the policy, none is. -/
theorem resolve_governed (rs : List Registration) (m : Marker) :
    let plan := Plan.resolve rs
    ((∃ l, plan.effective m = .ok l) ↔ ∃ r ∈ rs, r.listing.carries m = true) ∧
      (∀ l, plan.effective m = .ok l → ∃ r i k, r.listing = l ∧ r.InCharge rs m i ∧
        (Plan.declared rs)[k]? = some (r, i) ∧
        ∀ resolver made ps, (plan.instantiate resolver made).outcome = .ok ps →
          (∃ p, ps[k]? = some p ∧ p.registration = r) ∧ Place.Governs ps m (some k)) ∧
      ((∀ r ∈ rs, r.listing.carries m = false) →
        ∀ resolver made ps, (plan.instantiate resolver made).outcome = .ok ps →
          Place.Governs ps m none) := by
  intro plan
  have hcarried : (Listing.authority plan.listings).holder? m = none ↔
      ∀ r ∈ rs, r.listing.carries m = false := Plan.holder?_resolve_eq_none_iff
  cases hk : (Listing.authority plan.listings).holder? m with
  | none =>
    have hnobody := hcarried.mp hk
    have heffective : plan.effective m = .error (.noEffectivePolicy m) :=
      Plan.effective_of_holder?_eq_none hk
    refine ⟨⟨?_, ?_⟩, ?_, fun _ resolver made ps hps => hk ▸ Plan.governs_instantiate hps m⟩
    · rintro ⟨l, hl⟩
      simp [heffective] at hl
    · rintro ⟨r, hr, hcarries⟩
      simp [hnobody r hr] at hcarries
    · intro l hl
      simp [heffective] at hl
  | some k =>
    obtain ⟨r, i, hr, hcharge⟩ := Plan.inCharge_of_holder? hk
    have heffective : plan.effective m = .ok r.listing := Plan.effective_resolve hk hr
    have hmem : r ∈ rs := List.mem_of_getElem? hcharge.declared
    refine ⟨⟨fun _ => ⟨r, hmem, hcharge.carries⟩, fun _ => ⟨r.listing, heffective⟩⟩, ?_, ?_⟩
    · intro l hl
      obtain rfl : r.listing = l := by simpa [heffective] using hl
      refine ⟨r, i, k, rfl, hcharge, hr, fun resolver made ps hps => ⟨?_, ?_⟩⟩
      · -- the filter in the place of the registration was made for it
        have hplace : (ps.map Place.registration)[k]? = some r := by
          rw [Plan.map_registration_instantiateFrom hps, ← Plan.map_fst_declared]
          simp [hr]
        rw [List.getElem?_map, Option.map_eq_some_iff] at hplace
        exact hplace
      · exact hk ▸ Plan.governs_instantiate hps m
    · intro hnobody
      simp [hcarried.mpr hnobody] at hk

/-- Of two filters that carry a policy exactly one is in charge of it in a request. -/
theorem resolve_governed_overridden :
    let m : Marker := .crossOrigin
    let f : Filter := { name := "cors", policies := [m] }
    let call : Call := .ofAction ⟨"jobs", "run", .unit⟩
    let rs : List Registration := [.shared .global f, .shared .action f]
    let ps : List Place := [⟨0, .shared .global f, f, rfl⟩, ⟨1, .shared .action f, f, rfl⟩]
    ((Plan.resolve rs).instantiate .standard call).outcome = .ok ps ∧
      ∃ k p, ps[k]? = some p ∧ p.registration.listing.carries m = true ∧
        Place.Governs ps m (some k) := by
  intro m f call rs ps
  obtain ⟨hok, hcharge, -⟩ := resolve_governed rs m
  have hplan : (Plan.resolve rs).registrations = rs := List.mergeSort_of_pairwise (by decide)
  have hps : ((Plan.resolve rs).instantiate .standard call).outcome = .ok ps := by
    rw [Plan.instantiate, hplan]
    rfl
  obtain ⟨l, hl⟩ := hok.mpr ⟨.shared .global f, by simp [rs], by decide⟩
  obtain ⟨r, i, k, -, hr, -, hrequest⟩ := hcharge l hl
  obtain ⟨⟨p, hp, rfl⟩, hgoverns⟩ := hrequest .standard call ps hps
  exact ⟨hps, k, p, hp, hr.carries, hgoverns⟩

end RequestPipeline
