import RequestPipeline.Proofs.Filter.Thinning
import RequestPipeline.Proofs.Run.Counterparts

/-!
# Filters that can be left out

A filter that only carries out a policy has nothing to do if another is in charge of it, and a
filter that behaves idly never has (`Filter.Dispensable`). If such registrations are deleted, the
same ones are in charge as before, and the filters that remain do what they did under their new
numbers, provided that they do not look at numbers (`Filter.Portable`). So requests come to the
same with and without them (`execute_ignores_dispensable`). A filter that looks at how many there
are tells the difference (`execute_reports_dispensable`).
-/

set_option autoImplicit false

namespace RequestPipeline

/-- What is seen of runs whose filters get new numbers: everything but filters without one. -/
def Lens.renumbering (seat : Nat → Option Nat) : Lens := ⟨id, seat⟩

/-! ## Filters that do nothing -/

/-- A filter has nothing to do unless it is in charge of a policy. -/
inductive Filter.Dispensable : Filter → Prop
  | crossOrigin (p : CrossOrigin) : Dispensable p.toFilter
  | envelope (e : Envelope) : Dispensable e.toFilter
  | idle {f : Filter} (h : ∀ (cb : Callback) b, cb.behaviour? f = some b → b = .idle) :
    Dispensable f

theorem CrossOrigin.reply_of_not_effective {p : CrossOrigin} {cb : Callback} {b : Behaviour}
    (hb : cb.behaviour? p.toFilter = some b) {v : View} (hv : v.isEffective .crossOrigin = false) :
    b v = {} := by
  cases cb with
  | authorization =>
    obtain rfl := Option.some.inj hb
    simp [onAuthorization, hv]
  | resultBefore =>
    obtain rfl := Option.some.inj hb
    simp [beforeResult, hv]
  | resultAfter =>
    obtain rfl := Option.some.inj hb
    rfl
  | _ => cases hb

theorem Envelope.reply_of_not_effective {e : Envelope} {cb : Callback} {b : Behaviour}
    (hb : cb.behaviour? e.toFilter = some b) {v : View}
    (hv : v.isEffective .errorEnvelope = false) : b v = {} := by
  cases cb with
  | exception =>
    obtain rfl := Option.some.inj hb
    simp [onException, hv]
  | _ => cases hb

/-- A dispensable filter does nothing where it is in charge of nothing. -/
theorem Filter.Dispensable.reply {f : Filter} (h : f.Dispensable) {cb : Callback} {b : Behaviour}
    (hb : cb.behaviour? f = some b) {v : View} (hv : ∀ m, v.isEffective m = false) : b v = {} := by
  cases h with
  | crossOrigin p => exact CrossOrigin.reply_of_not_effective hb (hv _)
  | envelope e => exact Envelope.reply_of_not_effective hb (hv _)
  | idle h =>
    obtain rfl := h cb b hb
    rfl

/-- A registration declared at a position is for a filter, shared by all requests, that has nothing
to do. -/
structure Registration.Dispensable (rs : List Registration) (r : Registration) (i : Nat) :
    Prop where
  filter : ∃ f, r.source = .shared f ∧ f.capabilities = r.listing.capabilities ∧ f.Dispensable
  idle : ∀ m, ¬r.InCharge rs m i

/-! ## Filters that do not look at numbers -/

/-- A filter does the same, its remarks apart, whatever numbers filters are known by and however
many there are. -/
def Filter.Portable (f : Filter) : Prop := ∀ seat, (Lens.renumbering seat).SameFilter f f

theorem Lens.renumbering_steady (seat : Nat → Option Nat) : (renumbering seat).Steady :=
  ⟨fun _ => rfl, fun _ _ => rfl⟩

theorem Script.portable (s : Script) : s.toFilter.Portable := fun seat =>
  Lens.same_script (Lens.renumbering_steady seat) rfl

theorem Access.portable (a : Access) : a.toFilter.Portable := fun _ => Lens.same_access a

theorem CrossOrigin.portable (p : CrossOrigin) : p.toFilter.Portable := fun _ =>
  Lens.same_crossOrigin p

theorem Envelope.portable (e : Envelope) : e.toFilter.Portable := fun _ =>
  Lens.same_envelope fun _ _ => rfl

/-- A filter that all requests share is portable in each of them. -/
theorem Filter.Portable.of_shared {scope : Scope} {f g : Filter} {call : Call} (h : f.Portable)
    (hg : (Resolver.standard (.shared scope f) call).outcome = .ok g) : g.Portable := by
  obtain rfl := Except.ok.inj hg
  exact h

/-! ## Plans with registrations deleted -/

/-- A list with members left out is thinned, the others under their ranks. -/
theorem thins_filter {α : Type} {p : α → Bool} (seat : Nat → Option Nat)
    {keep : α × Nat → α × Nat → Prop} {drop : α × Nat → Prop} {xs : List α} {i j : Nat}
    (hkeep : ∀ x ∈ xs, ∀ k l, p x = true → seat k = some l → keep (x, k) (x, l))
    (hdrop : ∀ x ∈ xs, ∀ k, p x = false → seat k = none → drop (x, k))
    (hseat : ∀ k, seat (i + k) = (rank p xs k).map (j + ·)) :
    Thins keep drop (xs.zipIdx i) ((xs.filter p).zipIdx j) := by
  induction xs generalizing i j with
  | nil => exact .nil
  | cons x xs ih =>
    have hkeep' := fun y hy => hkeep y (List.mem_cons_of_mem x hy)
    have hdrop' := fun y hy => hdrop y (List.mem_cons_of_mem x hy)
    have hfirst := hseat 0
    have hrest (k : Nat) :
        seat (i + 1 + k) = (rank p xs k).map fun l => j + if p x then l + 1 else l := by
      rw [Nat.add_assoc, Nat.add_comm 1, hseat, rank, Option.map_map]
      rfl
    rw [List.zipIdx_cons]
    -- behind a member that is kept ranks are greater by one
    cases hx : p x with
    | true =>
      rw [List.filter_cons_of_pos hx, List.zipIdx_cons]
      refine .keep (hkeep x List.mem_cons_self i j hx (by simpa [rank, hx] using hfirst)) ?_
      refine ih hkeep' hdrop' fun k => ?_
      rw [hrest k]
      simp only [hx, if_true, Nat.add_assoc, Nat.add_comm 1]
    | false =>
      rw [List.filter_cons_of_neg (by simp [hx])]
      refine .drop (hdrop x List.mem_cons_self i hx (by simpa [rank, hx] using hfirst)) ?_
      exact ih hkeep' hdrop' fun k => by simp [hrest, hx]

section Deleted

variable {rs : List Registration} {deleted : Nat → Bool}

/-- If only dispensable registrations are deleted, the same ones are in charge as before. -/
theorem charge_remaining
    (hdeleted : ∀ r i, rs[i]? = some r → deleted i = true → r.Dispensable rs i) :
    (Lens.renumbering (Plan.seat deleted rs)).SameCharge (Plan.resolve rs).listings
      (Plan.resolve (Plan.remaining deleted rs)).listings := by
  have hls : (Plan.resolve rs).listings = (Plan.declared rs).map fun x => x.1.listing :=
    (Plan.map_declared rs).symm
  have hls' : (Plan.resolve (Plan.remaining deleted rs)).listings =
      ((Plan.declared rs).filter fun x => !deleted x.2).map fun x => x.1.listing := by
    rw [Plan.listings, Plan.resolve_remaining, List.map_map]
    rfl
  -- whoever is in charge is not deleted
  have hseated (m : Marker) (k : Nat)
      (hk : (Listing.authority (Plan.resolve rs).listings).holder? m = some k) :
      (Plan.seat deleted rs k).isSome := by
    obtain ⟨r, i, hdeclared, hcharge⟩ := Plan.inCharge_of_holder? hk
    rw [Plan.seat, isSome_rank hdeclared, Bool.not_eq_true', Bool.eq_false_iff]
    exact fun hi => (hdeleted r i hcharge.declared hi).idle m hcharge
  refine ⟨fun k l hkl => ?_, fun k k' l => rank_injective, fun m => ?_, hseated⟩
  · rw [hls, hls', List.getElem?_map, List.getElem?_map]
    exact congrArg (Option.map _) (getElem?_filter_of_rank hkl).symm
  · have hholder := hseated m
    rw [hls] at hholder ⊢
    rw [hls']
    exact holder?_filter hholder

/-- A registration that remains is resolved as it was, to a filter that does what it did. -/
theorem counterpart_of_portable {call : Call} {seat : Nat → Option Nat} {r : Registration}
    {k l : Nat} (hkl : seat k = some l)
    (h : ∀ f, (Resolver.standard r call).outcome = .ok f → f.Portable) :
    (Lens.renumbering seat).Counterpart .standard .standard call (r, k) (r, l) where
  listing := rfl
  seat := hkl
  events := by
    rw [Resolver.standard]
    split <;> rfl
  filter := by
    cases hr : (Resolver.standard r call).outcome with
    | error e => exact .error e
    | ok f => exact .ok (h f hr seat)

/-- A dispensable registration is resolved to a filter that does nothing. -/
theorem spare_of_dispensable {call : Call} {L : Lens} {ls : List Listing} {r : Registration}
    {i k : Nat} (h : r.Dispensable rs i) (hk : L.seat k = none)
    (hidle : ∀ m, (Listing.authority ls).holder? m ≠ some k) :
    L.Spare .standard call ls (r, k) where
  seat := hk
  filter := by
    obtain ⟨f, hsource, hcapabilities, hdispensable⟩ := h.filter
    refine ⟨f, by simp [Resolver.standard, hsource], hcapabilities, hk, fun cb b hb s => ?_⟩
    rw [hdispensable.reply hb]
    · rfl
    · intro m
      simpa [View.isEffective, Authority.mem_policies] using hidle m

theorem thins_remaining {call : Call}
    (hdeleted : ∀ r i, rs[i]? = some r → deleted i = true → r.Dispensable rs i)
    (hkept : ∀ r i, rs[i]? = some r → deleted i = false →
      ∀ f, (Resolver.standard r call).outcome = .ok f → f.Portable) :
    Thins ((Lens.renumbering (Plan.seat deleted rs)).Counterpart .standard .standard call)
      ((Lens.renumbering (Plan.seat deleted rs)).Spare .standard call (Plan.resolve rs).listings)
      (Plan.resolve rs).registrations.zipIdx
      (Plan.resolve (Plan.remaining deleted rs)).registrations.zipIdx := by
  have hcharge := charge_remaining hdeleted
  have hthins : Thins
      (fun x y => (Lens.renumbering (Plan.seat deleted rs)).Counterpart .standard .standard call
        (x.1.1, x.2) (y.1.1, y.2))
      (fun x => (Lens.renumbering (Plan.seat deleted rs)).Spare .standard call
        (Plan.resolve rs).listings (x.1.1, x.2))
      (Plan.declared rs).zipIdx ((Plan.declared rs).filter fun x => !deleted x.2).zipIdx := by
    refine thins_filter (Plan.seat deleted rs) (fun x hx k l hkept' hkl => ?_)
      (fun x hx k hgone hk => ?_) fun k => by simp [Plan.seat]
    · exact counterpart_of_portable hkl
        (hkept x.1 x.2 (Plan.mem_declared.mp hx) (by simpa using hkept'))
    · refine spare_of_dispensable
        (hdeleted x.1 x.2 (Plan.mem_declared.mp hx) (by simpa using hgone)) hk fun m hm => ?_
      -- whoever is in charge has a new number
      have hseated := hcharge.seated m k hm
      simp [Lens.renumbering, hk] at hseated
  rw [Plan.resolve_remaining, ← Plan.map_fst_declared, List.zipIdx_map, List.zipIdx_map]
  exact hthins.map (fun _ _ h => h) fun _ h => h

end Deleted

/-- Registrations are deleted that are in charge of no policy and whose filters have nothing to do
then. If the filters that remain do not look at numbers, every request comes to the same with and
without the others, invokes the action alike, renders the same and is measured alike, and the
filters that remain are called alike, under their new numbers. -/
theorem execute_ignores_dispensable (options : Options) {rs : List Registration}
    {deleted : Nat → Bool} {call : Call} (ends : Ends)
    (hdeleted : ∀ r i, rs[i]? = some r → deleted i = true → r.Dispensable rs i)
    (hkept : ∀ r i, rs[i]? = some r → deleted i = false →
      ∀ f, (Resolver.standard r call).outcome = .ok f → f.Portable) :
    let x := Pipeline.execute ⟨options, .standard⟩ (.resolve rs) call ends
    let y := Pipeline.execute ⟨options, .standard⟩ (.resolve (Plan.remaining deleted rs)) call ends
    x.2 = y.2 ∧ invocations x.1 = invocations y.1 ∧ renderings x.1 = renderings y.1 ∧
      options.metrics x.1 = options.metrics y.1 ∧
      (Lens.renumbering (Plan.seat deleted rs)).calls x.1 = (Lens.renumbering some).calls y.1 := by
  intro x y
  obtain ⟨hevents, houtcome⟩ := Lens.alike_execute (charge_remaining hdeleted)
    (thins_remaining hdeleted hkept) (Lens.SameEnds.refl _ ends) options
  refine ⟨?_, Lens.reading_eq Lens.invocations_events hevents,
    Lens.reading_eq Lens.renderings_events hevents,
    Lens.reading_eq (fun L => L.metrics_events options) hevents, Lens.calls_eq hevents⟩
  rcases Lens.outcome_cases _ houtcome with
    ⟨o, hx, hy⟩ | ⟨action, f, f', hx, hy, hf⟩ | ⟨e, -, hx, hy⟩
  · exact hx.trans hy.symm
  · obtain rfl : f = f' := hf
    exact hx.trans hy.symm
  · exact hx.trans hy.symm

/-- An envelope for every action can be left out where the action has its own: the same is rendered
for a fault that a script raises, behind a filter for other origins and one that lets everybody in.
-/
theorem execute_ignores_overridden_envelope :
    let origins : Registration := .shared .global (CrossOrigin.toFilter {})
    let access : Registration := .shared .global Access.allowAll.toFilter
    let common : Registration := .shared .global (Envelope.toFilter { exposesInternal := true })
    let own : Registration := .shared .action (Envelope.toFilter {})
    let audit : Script := { name := "audit", action := some ([.fail (.plain "disk full")], []) }
    let rs : List Registration := [origins, access, common, own, .shared .action audit.toFilter]
    let call : Call := .ofAction ⟨"jobs", "run", .unit⟩
    let ends : Ends := ⟨fun _ => { outcome := .ok .unit }, fun _ _ => {}⟩
    let x := Pipeline.execute {} (.resolve rs) call ends
    let y := Pipeline.execute {} (.resolve (Plan.remaining (· == 2) rs)) call ends
    x.2 = y.2 ∧ renderings x.1 = renderings y.1 ∧ (renderings x.1).length = 1 ∧
      (Plan.remaining (· == 2) rs).length = 4 := by
  intro origins access common own audit rs call ends x y
  have hdeleted (r : Registration) (i : Nat) (hr : rs[i]? = some r) (hi : (i == 2) = true) :
      r.Dispensable rs i := by
    obtain rfl := beq_iff_eq.mp hi
    obtain rfl := Option.some.inj hr
    refine ⟨⟨_, rfl, rfl, .envelope _⟩, fun m h => ?_⟩
    -- the envelope of the action has the greater key
    have hcarries : [Marker.errorEnvelope].contains m = true := h.carries
    obtain rfl : m = .errorEnvelope := by simpa using hcarries
    exact absurd (h.greatest own 3 rfl rfl) (by decide)
  have hkept (r : Registration) (i : Nat) (hr : rs[i]? = some r) (hi : (i == 2) = false)
      (f : Filter) (hf : (Resolver.standard r call).outcome = .ok f) : f.Portable := by
    match i, hr with
    | 0, rfl => exact (CrossOrigin.portable _).of_shared hf
    | 1, rfl => exact (Access.portable _).of_shared hf
    | 2, _ => cases hi
    | 3, rfl => exact (Envelope.portable _).of_shared hf
    | 4, rfl => exact (Script.portable audit).of_shared hf
  obtain ⟨houtcome, -, hrenderings, -⟩ := execute_ignores_dispensable {} ends hdeleted hkept
  have hsorted : Plan.resolve rs = ⟨rs⟩ :=
    congrArg Plan.mk (List.mergeSort_of_pairwise (by decide +zetaReduce))
  refine ⟨houtcome, hrenderings, ?_, rfl⟩
  rw [show x = Pipeline.execute {} ⟨rs⟩ call ends from
    congrArg (fun plan => Pipeline.execute {} plan call ends) hsorted]
  decide +kernel +zetaReduce

/-- A filter that answers with a report on the run, which says how many filters there are. -/
def Filter.reporter : Filter where
  name := "reporter"
  result := some ⟨fun v => { result := some (.text .ok (v.summary .resultBefore)) }, .idle⟩

/-- The answer of such a filter is another if a filter is left out that does nothing and is in
charge of nothing. -/
theorem execute_reports_dispensable :
    let idle : Script := { name := "idle", bare := true, action := some ([], []) }
    let rs : List Registration := [.shared .global idle.toFilter, .shared .global Filter.reporter]
    let call : Call := .ofAction ⟨"jobs", "run", .unit⟩
    let ends : Ends := ⟨fun _ => { outcome := .ok .unit }, fun _ _ => {}⟩
    let x := Pipeline.execute {} (.resolve rs) call ends
    let y := Pipeline.execute {} (.resolve (Plan.remaining (· == 0) rs)) call ends
    (∀ r i, rs[i]? = some r → (i == 0) = true → r.Dispensable rs i) ∧
      x.2 ≠ y.2 ∧ renderings x.1 ≠ renderings y.1 := by
  intro idle rs call ends x y
  have hx : x = Pipeline.execute {} ⟨rs⟩ call ends := by
    have hsorted : Plan.resolve rs = ⟨rs⟩ :=
      congrArg Plan.mk (List.mergeSort_of_pairwise (by decide +zetaReduce))
    exact congrArg (fun plan => Pipeline.execute {} plan call ends) hsorted
  have hy : y = Pipeline.execute {} ⟨[.shared .global Filter.reporter]⟩ call ends := by
    have hsorted : Plan.resolve [.shared .global Filter.reporter] =
        ⟨[.shared .global Filter.reporter]⟩ :=
      congrArg Plan.mk (List.mergeSort_of_pairwise (by decide))
    exact congrArg (fun plan => Pipeline.execute {} plan call ends) hsorted
  refine ⟨?_, ?_, ?_⟩
  · intro r i hr hi
    obtain rfl := beq_iff_eq.mp hi
    obtain rfl := Option.some.inj hr
    refine ⟨⟨_, rfl, rfl, .idle fun cb b hb => ?_⟩, fun m h => ?_⟩
    · cases cb with
      | actionBefore => exact (Option.some.inj hb).symm
      | actionAfter => exact (Option.some.inj hb).symm
      | _ => cases hb
    · -- it carries no policy at all
      have hcarries : ([] : List Marker).contains m = true := h.carries
      cases hcarries
  · intro houtcome
    have hresult := congrArg (fun o : Except Failure Outcome =>
      o.toOption.bind fun out => out.result.bind Answer.bodyText?) houtcome
    rw [hx, hy] at hresult
    exact absurd hresult (by decide +kernel +zetaReduce)
  · intro hrenderings
    have htexts := congrArg (List.map Answer.bodyText?) hrenderings
    rw [hx, hy] at htexts
    exact absurd htexts (by decide +kernel +zetaReduce)

end RequestPipeline
