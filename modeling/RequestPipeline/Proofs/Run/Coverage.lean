import RequestPipeline.Policy.Envelope
import RequestPipeline.Proofs.Filter.Authority
import RequestPipeline.Proofs.Run.Resolution
import RequestPipeline.Proofs.Run.Showing

/-!
# Faults that an envelope covers

A run cannot fail with a fault that is shown to filters if one of them is an envelope in charge of
errors (`run_covers_faults`): it marks whatever fault is still unmarked when it is called, and
behind it nothing else is raised. What the envelope does not cover is raised where faults are not
shown (`Callback.unshown`), or in rendering.

Unless a filter further in marked the fault, the envelope answers it, and unless a filter further
out replaces the answer, that is what is rendered.
-/

set_option autoImplicit false

namespace RequestPipeline

/-- The moments whose faults are not shown to filters. -/
def Callback.unshown : List Callback :=
  [.authorization, .resourceBefore, .exception, .resourceAfter]

/-- No fault of a trace was raised where faults are not shown to filters, or in rendering. -/
structure Calm (es : List Event) : Prop where
  returned : ∀ cb ∈ Callback.unshown, ∀ e ∈ entries cb es, e.returned = true
  rendered : ∀ f, (Phase.render, f) ∉ faults es

/-! ## Where faults are raised -/

section Moves

variable {ends : Ends} {ps : List Place} {s : State} {t : Step}

/-- A fault is raised by the action, in rendering, or by a filter that returned it. -/
theorem Move.raised (h : Move ends ps s t) {ph : Phase} {f : Fault}
    (hf : (ph, f) ∈ RequestPipeline.faults t.events) :
    ph = .action ∨ ph = .render ∨
      ∃ e : Entry, e.event ∈ t.events ∧ e.returned = false ∧ e.callback.phase = ph := by
  cases h with
  | @call p cb b mem takes due =>
    rcases (p.entry ps cb b s).step_cases with ⟨g, hg, h⟩ | ⟨-, h⟩ | ⟨-, h⟩
    · have hph : ph = cb.phase := by
        rw [h] at hf
        simp_all [faults_cons, Entry.event, Event.raised?]
      refine .inr (.inr ⟨p.entry ps cb b s, by simp [h], ?_, hph.symm⟩)
      simp [Entry.returned, hg]
    · simp [h, faults_cons, Entry.event, Event.raised?] at hf
    · simp [h, faults_cons, Entry.event, Event.raised?] at hf
  | perform free =>
    rcases perform_cases ends s with ⟨g, -, h⟩ | ⟨-, g, -, h⟩ | ⟨-, a, -, h⟩ <;>
      simp_all [faults_cons, Event.raised?]
  | announce => simp [faults_cons, Event.raised?] at hf
  | write free due =>
    rcases write_cases ends s with ⟨g, -, h⟩ | ⟨-, h⟩ <;> simp_all [faults_cons, Event.raised?]
  | settle =>
    rcases settle_cases s with ⟨-, h⟩ | ⟨p, -, -, h⟩ <;>
      simp [h, faults_cons, Event.raised?] at hf

theorem Course.raised (h : Course ends ps s t) {ph : Phase} {f : Fault}
    (hf : (ph, f) ∈ RequestPipeline.faults t.events) :
    ph = .action ∨ ph = .render ∨
      ∃ e : Entry, e.event ∈ t.events ∧ e.returned = false ∧ e.callback.phase = ph := by
  induction h with
  | stay => simp at hf
  | move h => exact h.raised hf
  | andThen h₁ h₂ ih₁ ih₂ =>
    have hwiden {x y : Prop} {es fs : List Event} (hsub : es ⊆ fs)
        (h : x ∨ y ∨ ∃ e : Entry, e.event ∈ es ∧ e.returned = false ∧ e.callback.phase = ph) :
        x ∨ y ∨ ∃ e : Entry, e.event ∈ fs ∧ e.returned = false ∧ e.callback.phase = ph :=
      h.imp_right (Or.imp_right fun ⟨e, he, hret⟩ => ⟨e, hsub he, hret⟩)
    rw [Step.andThen_events, faults_append, List.mem_append] at hf
    rcases hf with hf | hf
    · exact hwiden (List.subset_append_left _ _) (ih₁ hf)
    · exact hwiden (List.subset_append_right _ _) (ih₂ hf)

end Moves

/-! ## What is in flight -/

/-- Nothing is in flight behind a trace if nothing is behind the events among which every fault was
raised. -/
theorem inFlight_eq_none_of_filter {q : Event → Bool} {es : List Event}
    (h : ∀ e ∈ es, e.raised?.isSome = true → q e = true) (hq : inFlight (es.filter q) = none) :
    inFlight es = none := by
  cases hflight : inFlight es with
  | none => rfl
  | some y =>
    -- a fault that the trace leaves would be left by those events as well
    obtain ⟨es₁, es₂, rfl, hsilent⟩ := inFlight_eq_some_iff.mp hflight
    have hkept : q (.raised y.1 y.2) = true := h _ (by simp) rfl
    have hleaves : Leaves ((es₁ ++ .raised y.1 y.2 :: es₂).filter q) y.1 y.2 :=
      ⟨es₁.filter q, es₂.filter q, by simp [hkept],
        fun e he => hsilent e (List.mem_of_mem_filter he)⟩
    rw [inFlight_eq_some_iff.mpr hleaves] at hq
    cases hq

/-- Events that raise no fault put none in flight. -/
theorem foldl_track_eq_none {es : List Event} (h : ∀ e ∈ es, e.raised? = none) :
    es.foldl Event.track none = none := by
  induction es with
  | nil => rfl
  | cons e es ih =>
    obtain ⟨he, hes⟩ := List.forall_mem_cons.mp h
    have htrack : e.track none = none := by simp [Event.track, he]
    rw [List.foldl_cons, htrack, ih hes]

/-- A fault in flight that is not marked is the one that the state holds. -/
theorem State.unhandled_eq_some {s : State} {ph : Phase} {f : Fault}
    (h : s.unhandled = some (ph, f)) :
    ∃ p, s.pending = some p ∧ p.handled = false ∧ p.phase = ph ∧ p.fault = f := by
  simp only [unhandled, Option.map_eq_some_iff, Option.filter_eq_some_iff, Prod.mk.injEq] at h
  obtain ⟨p, ⟨hp, hh⟩, hphase, hfault⟩ := h
  exact ⟨p, hp, by simpa using hh, hphase, hfault⟩

/-! ## Passages that admit -/

section Passages

variable {ps : List Place} {cb : Callback} {ms ms₁ ms₂ : List (Place × Behaviour)} {s : State}

/-- A passage that admits the request leaves nothing behind but its entries. -/
theorem events_of_admitted (h : (advance ps cb ms s).verdict = .admitted) :
    (advance ps cb ms s).step.events =
      (entries cb (advance ps cb ms s).step.events).map Entry.event := by
  induction ms generalizing s with
  | nil => rfl
  | cons m ms ih =>
    obtain ⟨p, b⟩ := m
    by_cases hv : (p.entry ps cb b s).verdict = .admitted
    · rw [advance_cons_of_admitted hv] at h ⊢
      have hrest := ih h
      rw [Entry.step_of_admitted hv] at hrest ⊢
      simpa using hrest
    · rw [advance_cons_of_not_admitted hv] at h
      exact absurd h hv

/-- A passage that admits the request is a passage of its first filters and then of the others. -/
theorem advance_append (h : (advance ps cb (ms₁ ++ ms₂) s).verdict = .admitted) :
    (advance ps cb ms₁ s).verdict = .admitted ∧
      (advance ps cb ms₂ (advance ps cb ms₁ s).step.state).verdict = .admitted ∧
      (advance ps cb (ms₁ ++ ms₂) s).step =
        (advance ps cb ms₁ s).step.andThen fun t => (advance ps cb ms₂ t).step := by
  induction ms₁ generalizing s with
  | nil => exact ⟨rfl, h, (Step.stay_andThen s fun t => (advance ps cb ms₂ t).step).symm⟩
  | cons m ms₁ ih =>
    obtain ⟨p, b⟩ := m
    by_cases hv : (p.entry ps cb b s).verdict = .admitted
    · rw [List.cons_append, advance_cons_of_admitted hv] at h ⊢
      obtain ⟨h₁, h₂, hstep⟩ := ih h
      rw [advance_cons_of_admitted hv]
      refine ⟨h₁, h₂, ?_⟩
      rw [Step.andThen_assoc]
      simp only [Step.andThen, hstep]
    · rw [List.cons_append, advance_cons_of_not_admitted hv] at h
      exact absurd h hv

/-- The state behind a passage agrees with its events on what is in flight. -/
theorem unhandled_advance :
    (advance ps cb ms s).step.state.unhandled =
      (advance ps cb ms s).step.events.foldl Event.track s.unhandled := by
  induction ms generalizing s with
  | nil => rfl
  | cons m ms ih =>
    obtain ⟨p, b⟩ := m
    by_cases hv : (p.entry ps cb b s).verdict = .admitted
    · rw [advance_cons_of_admitted hv, Step.andThen_state, Step.andThen_events, List.foldl_append,
        ih, Entry.unhandled_step]
      rfl
    · rw [advance_cons_of_not_admitted hv, Entry.unhandled_step]
      rfl

/-- In a passage that admits the request, a filter is called in the state that those in front of it
leave. -/
theorem exists_split_of_admitted (h : (advance ps cb ms s).verdict = .admitted) {p : Place}
    {b : Behaviour} (hp : (p, b) ∈ ms) :
    ∃ inner t outer,
      entries cb (advance ps cb ms s).step.events = inner ++ p.entry ps cb b t :: outer ∧
      t.unhandled = (inner.map Entry.event).foldl Event.track s.unhandled ∧
      t.call.id = s.call.id := by
  obtain ⟨ms₁, ms₂, rfl⟩ := List.append_of_mem hp
  obtain ⟨hfront, hback, hstep⟩ := advance_append h
  have hfrontEvents := events_of_admitted hfront
  set t := (advance ps cb ms₁ s).step.state with ht
  have hv : (p.entry ps cb b t).verdict = .admitted := by
    refine Decidable.byContradiction fun hne => hne ?_
    rwa [advance_cons_of_not_admitted hne] at hback
  refine ⟨entries cb (advance ps cb ms₁ s).step.events, t,
    entries cb (advance ps cb ms₂ (p.entry ps cb b t).step.state).step.events, ?_, ?_, ?_⟩
  · rw [hstep, Step.andThen_events, ← ht, advance_cons_of_admitted hv]
    simp
  · rw [← hfrontEvents, ht, unhandled_advance]
  · refine advance_keeps (I := fun u => u.call.id = s.call.id) (fun p b u hu => ?_) rfl
    rw [Entry.call_step]
    exact hu

/-- Filters that are shown a fault admit the request if none of them raises another. -/
theorem advance_admitted_of_returned
    (h : ∀ e ∈ entries .exception (advance ps .exception ms s).step.events, e.returned = true) :
    (advance ps .exception ms s).verdict = .admitted := by
  refine Decidable.byContradiction fun hne => ?_
  obtain ⟨front, last, hentries, -, hlast⟩ := advance_of_not_admitted hne
  have hmem : last ∈ entries .exception (advance ps .exception ms s).step.events := by
    simp [hentries]
  refine hne ?_
  rw [← hlast, Entry.verdict_eq_admitted, Entry.passed_of_exception (mem_entries.mp hmem).2]
  exact h last hmem

end Passages

/-! ## The envelope -/

section Envelopes

variable {ps : List Place} {ms : List (Place × Behaviour)} {s : State} {p : Place} {e : Envelope}

/-- An envelope in charge answers a fault that is not marked. -/
theorem Envelope.result_of_unhandled {v : View} {ph : Phase} {f : Fault}
    (hcharge : v.isEffective .errorEnvelope = true) (h : v.state.unhandled = some (ph, f)) :
    (e.onException v).result = some (e.answer f v.state.call.id) := by
  obtain ⟨p, hp, hh, -, rfl⟩ := State.unhandled_eq_some h
  simp [onException, State.handled, hcharge, hp, hh]

/-- The entry of an envelope in charge that is called in a state with an unmarked fault in flight
answers that fault, and so marks it. -/
theorem Envelope.entry_of_unhandled {t : State} {ph : Phase} {f : Fault}
    (hcharge : Place.isEffective ps p .errorEnvelope = true) (h : t.unhandled = some (ph, f)) :
    (p.entry ps .exception e.onException t).reply.result = some (e.answer f t.call.id) ∧
      (p.entry ps .exception e.onException t).marks = true := by
  have hview : (View.mk (Place.listings ps)
      (p.entry ps .exception e.onException t).before).isEffective .errorEnvelope = true := by
    rw [View.isEffective_entry, hcharge]
  have hresult : (p.entry ps .exception e.onException t).reply.result =
      some (e.answer f t.call.id) := result_of_unhandled hview h
  obtain ⟨q, hq, -⟩ := State.unhandled_eq_some h
  exact ⟨hresult, by simp [Entry.marks, hq, hresult]⟩

/-- Filters that are shown a fault leave none unmarked if an envelope in charge is among them and
none raises another. The envelope answers the fault if those in front of it did not mark it. -/
theorem covered_of_admitted (h : (advance ps .exception ms s).verdict = .admitted)
    (hp : (p, e.onException) ∈ ms) (hcharge : Place.isEffective ps p .errorEnvelope = true)
    {ph : Phase} {f : Fault} (hs : s.unhandled = some (ph, f)) :
    (advance ps .exception ms s).step.state.unhandled = none ∧
      ∃ inner x outer,
        entries .exception (advance ps .exception ms s).step.events = inner ++ x :: outer ∧
        x.seat = p.seat ∧
        ((∀ y ∈ inner, y.marks = false) → x.reply.result = some (e.answer f s.call.id)) := by
  obtain ⟨inner, t, outer, hentries, ht, hid⟩ := exists_split_of_admitted h hp
  refine ⟨?_, inner, _, outer, hentries, rfl, fun hinner => ?_⟩
  · -- whatever is unmarked when the envelope is called, it marks
    have hmarks : (p.entry ps .exception e.onException t).event.track t.unhandled = none := by
      cases hu : t.unhandled with
      | none => exact ite_self none
      | some y => exact if_pos (Envelope.entry_of_unhandled hcharge hu).2
    rw [unhandled_advance, events_of_admitted h, hentries, List.map_append, List.foldl_append,
      ← ht, List.map_cons, List.foldl_cons, hmarks]
    refine foldl_track_eq_none fun x hx => ?_
    obtain ⟨y, -, rfl⟩ := List.mem_map.mp hx
    rfl
  · rw [foldl_track_of_silent, hs] at ht
    · rw [(Envelope.entry_of_unhandled hcharge ht).1, hid]
    · intro x hx
      obtain ⟨y, hy, rfl⟩ := List.mem_map.mp hx
      exact ⟨rfl, hinner y hy⟩

end Envelopes

/-! ## Whole runs -/

section Runs

variable {ends : Ends} {ps : List Place} {call : Call}

/-- In a calm run every fault is raised inside the core. -/
theorem inCore_of_raised (hcall : call.cancelled = false)
    (hcalm : Calm (run ends ps (.initial call)).events) {x : Event}
    (hx : x ∈ (run ends ps (.initial call)).events) (hraised : x.raised?.isSome = true) (d : Bool) :
    x.inCore d = true := by
  obtain ⟨⟨ph, f⟩, hy⟩ := Option.isSome_iff_exists.mp hraised
  have hmem : (ph, f) ∈ faults (run ends ps (.initial call)).events :=
    List.mem_filterMap.mpr ⟨x, hx, hy⟩
  have hphase : x.phase? = some ph := by
    cases x <;> simp_all [Event.raised?, Event.phase?]
  have hcourse := course_proceed ends ps (State.interruption_begun hcall) (State.begun_open call)
  refine Event.inCore_of_phase ?_
  rw [hphase]
  rcases hcourse.raised (faults_run ends ps call ▸ hmem) with rfl | rfl | ⟨e, he, hret, hph⟩
  · exact .inl rfl
  · exact absurd hmem (hcalm.rendered f)
  · -- the filter that returned the fault belongs to the action or to rendering
    have hshown : e.callback ∉ Callback.unshown := fun hcb => by
      have hentry : e ∈ entries e.callback (run ends ps (.initial call)).events := by
        rw [entries_run]
        exact mem_entries.mpr ⟨he, rfl⟩
      rw [hcalm.returned _ hcb e hentry] at hret
      cases hret
    rw [← hph]
    cases hcb : e.callback <;> simp_all [Callback.unshown, Callback.phase]

/-- The result set last is that of an entry behind which no entry sets one. -/
theorem lastResult_of_entries {inner outer : List Entry} {x : Entry} {a : Answer}
    (hx : x.reply.result = some a) (houter : ∀ y ∈ outer, y.reply.result = none)
    (es : List Event) :
    lastResult ends (es ++ (inner ++ x :: outer).map Entry.event) = some a := by
  have hkept : (outer.map Entry.event).foldl (Event.resultBehind ends) (some a) = some a := by
    induction outer with
    | nil => rfl
    | cons y ys ih =>
      obtain ⟨hy, hys⟩ := List.forall_mem_cons.mp houter
      have hbehind : y.event.resultBehind ends (some a) = some a :=
        (congrArg (fun r : Option Answer => r.or (some a)) hy).trans Option.none_or
      rw [List.map_cons, List.foldl_cons, hbehind, ih hys]
  have hset (b : Option Answer) : x.event.resultBehind ends b = some a :=
    (congrArg (fun r : Option Answer => r.or b) hx).trans Option.some_or
  rw [lastResult, List.foldl_append, List.map_append, List.foldl_append, List.map_cons,
    List.foldl_cons, hset, hkept]

/-- A run succeeds if its trace leaves no fault in flight. -/
theorem exists_ok_of_inFlight (h : inFlight (run ends ps (.initial call)).events = none) :
    ∃ o, (run ends ps (.initial call)).outcome = .ok o := by
  have hpending := pending_proceed ends ps (State.begun_open call)
  rw [← inFlight_run, h, Option.map_eq_none_iff] at hpending
  exact ⟨_, (run_outcome ends ps call).trans (Step.finish_eq_ok.mpr ⟨hpending, rfl⟩)⟩

/-- A calm run in which the core leaves a fault goes on with showing it: the envelope in charge is
called, and what is shown ends with no fault unmarked. -/
theorem covered_of_fault (hcall : call.cancelled = false)
    (hcalm : Calm (run ends ps (.initial call)).events) {p : Place} (hp : p ∈ ps) {e : Envelope}
    (hfilter : p.filter.exception = some e.onException)
    (hcharge : Place.isEffective ps p .errorEnvelope = true) {ph : Phase} {f : Fault}
    (hflight : inFlight (coreEvents (run ends ps (.initial call)).events) = some (ph, f)) :
    let es := (run ends ps (.initial call)).events
    inFlight es = none ∧
      ∃ inner x outer, entries .exception es = inner ++ x :: outer ∧ x.seat = p.seat ∧
        ((∀ y ∈ inner, y.marks = false) → (∀ y ∈ outer, y.reply.result = none) →
          renderings (beforeShowing es) = [] →
          (∀ y ∈ entries .resultBefore (beforeShowing es), y.reply.suppress = false) →
          renderings es = [e.answer f call.id]) := by
  intro es
  have hreached : CoreReached ps call es := by
    refine Classical.byContradiction fun h => ?_
    have hnone : coreEvents es = [] :=
      List.filter_eq_nil_iff.mpr fun x hx => by simpa using (outside_run h x hx).1
    rw [hnone] at hflight
    cases hflight
  -- the core leaves the fault unmarked, so it is shown
  have hcore := inFlight_coreEvents hreached
  have hhandled : (ends.throughCore ps call).state.handled = false :=
    handled_resultPhase ends ps (Step.handled_settle _)
  have hunhandled : (ends.throughCore ps call).state.unhandled = some (ph, f) := by
    rw [State.unhandled_of_not_handled hhandled, ← hcore, hflight]
  have hfault : (ends.throughCore ps call).state.pending ≠ none := fun hnone => by
    simp [State.unhandled, hnone] at hunhandled
  have hmember : (p, e.onException) ∈ (Callback.exception.members ps).reverse :=
    List.mem_reverse.mpr (Callback.mem_members.mpr ⟨hp, hfilter⟩)
  have hmembers : Callback.exception.members ps ≠ [] := fun hnil => by simp [hnil] at hmember
  obtain ⟨tail, hrun, -, hbehind, hlate⟩ := events_run_of_fault hreached hfault
  obtain ⟨hfront, hstretch, -⟩ := showing_of_fault hreached hmembers hrun hbehind
  have hentries := entries_exception_of_split hrun (not_showing_throughCore hreached) hbehind
  have hadmitted := advance_admitted_of_returned
    (hentries ▸ hcalm.returned .exception (by simp [Callback.unshown]))
  obtain ⟨hcovered, inner, x, outer, hsplit, hseat, hresult⟩ :=
    covered_of_admitted hadmitted hmember hcharge hunhandled
  have hthrough : inFlight (beforeShowing es ++ showing es) = none := by
    rw [hfront, hstretch]
    exact (course_throughShown hreached).unhandled.symm.trans hcovered
  refine ⟨?_, inner, x, outer, hentries.trans hsplit, hseat, ?_⟩
  · -- behind the stretch in which it is shown, nothing is raised
    have hquiet : ∀ x ∈ (ends.behindShown ps call).events ++ tail, x.raised? = none := by
      intro x hx
      refine Option.not_isSome_iff_eq_none.mp fun hraised => ?_
      have hmem : x ∈ es := by
        rw [show es = _ from hrun]
        exact List.mem_append_right _ hx
      have hin := inCore_of_raised hcall hcalm hmem hraised (es.any Event.isDirect)
      rw [hlate x (List.mem_append_right _ hx)] at hin
      cases hin
    rw [hfront, hstretch, inFlight] at hthrough
    rw [show es = _ from hrun, inFlight, List.foldl_append, hthrough]
    exact foldl_track_eq_none hquiet
  · intro hinner houter hrenderings hsuppress
    have hnext := (shownOnce_of_fault hreached hfault hmembers).2 hthrough hrenderings hsuppress
    have hlast : lastResult ends (beforeShowing es ++ showing es) =
        some (e.answer f (ends.throughCore ps call).state.call.id) := by
      rw [hstretch, Step.shown, events_of_admitted hadmitted, hsplit]
      exact lastResult_of_entries (hresult hinner) houter _
    rw [hnext.once, hlast, (course_throughCore hreached).id]
    rfl

/-- Under a plan in which an envelope is in charge of errors, every run succeeds that is not
cancelled at its start, whatever faults are raised, unless one is raised where faults are not shown
to filters or in rendering. If the core leaves a fault, the envelope is called. If no filter further
in marked the fault, no filter further out sets a result, and nothing was rendered or kept from
being rendered before, then exactly the envelope of this fault is rendered. -/
theorem run_covers_faults (ends : Ends) {plan : Plan} {resolver : Resolver} {made call : Call}
    {ps : List Place} (hplan : (plan.instantiate resolver made).outcome = .ok ps) {k : Nat}
    (hcharge : (Listing.authority plan.listings).holder? .errorEnvelope = some k) {p : Place}
    (hp : ps[k]? = some p) {e : Envelope} (hfilter : p.filter = e.toFilter)
    (hcall : call.cancelled = false) (hcalm : Calm (run ends ps (.initial call)).events) :
    let es := (run ends ps (.initial call)).events
    (∃ o, (run ends ps (.initial call)).outcome = .ok o) ∧
      ∀ ph f, inFlight (coreEvents es) = some (ph, f) →
        ∃ inner x outer, entries .exception es = inner ++ x :: outer ∧ x.index = k ∧
          ((∀ y ∈ inner, y.marks = false) → (∀ y ∈ outer, y.reply.result = none) →
            renderings (beforeShowing es) = [] →
            (∀ y ∈ entries .resultBefore (beforeShowing es), y.reply.suppress = false) →
            renderings es = [e.answer f call.id]) := by
  intro es
  have heffective : Place.isEffective ps p .errorEnvelope = true :=
    ((Plan.governs_instantiate hplan _).items k p hp).mpr hcharge
  have hexception : p.filter.exception = some e.onException := by
    rw [hfilter]
    rfl
  have hcovered {ph : Phase} {f : Fault} (hflight : inFlight (coreEvents es) = some (ph, f)) :=
    covered_of_fault hcall hcalm (List.mem_of_getElem? hp) hexception heffective hflight
  refine ⟨exists_ok_of_inFlight ?_, fun ph f hflight => ?_⟩
  · cases hflight : inFlight (coreEvents es) with
    | none =>
      exact inFlight_eq_none_of_filter (fun x hx hr => inCore_of_raised hcall hcalm hx hr _) hflight
    | some y => exact (hcovered hflight).1
  · obtain ⟨-, inner, x, outer, hentries, hseat, hrendered⟩ := hcovered hflight
    refine ⟨inner, x, outer, hentries, ?_, hrendered⟩
    rw [← Plan.index_of_getElem? hplan hp]
    exact congrArg Prod.fst hseat

/-- The fault of an action is answered by the envelope in charge, though a filter further out looks
on. -/
theorem run_covers_fault_of_action :
    let audit : Filter := { name := "audit", exception := some .idle }
    let e : Envelope := {}
    let call : Call := .ofAction ⟨"jobs", "run", .unit⟩
    let plan : Plan := ⟨[.shared .global audit, .shared .global e.toFilter]⟩
    let ps : List Place :=
      [⟨0, .shared .global audit, audit, rfl⟩, ⟨1, .shared .global e.toFilter, e.toFilter, rfl⟩]
    let f : Fault := .plain "out of order"
    let ends : Ends := ⟨fun _ => { outcome := .error f }, fun _ _ => {}⟩
    let r := run ends ps (.initial call)
    (plan.instantiate .standard call).outcome = .ok ps ∧ Calm r.events ∧
      (∃ o, r.outcome = .ok o) ∧ renderings r.events = [e.answer f call.id] := by
  intro audit e call plan ps f ends r
  have hplan : (plan.instantiate .standard call).outcome = .ok ps := rfl
  have hcharge : (Listing.authority plan.listings).holder? .errorEnvelope = some 1 := by
    decide +kernel +zetaReduce
  have hreturned : (Callback.unshown.all fun cb => (entries cb r.events).all Entry.returned) =
      true := by decide +kernel +zetaReduce
  have hrendered : ((faults r.events).all fun y => y.1 != .render) = true := by
    decide +kernel +zetaReduce
  have hcalm : Calm r.events := by
    constructor
    · intro cb hcb x hx
      exact List.all_eq_true.mp (List.all_eq_true.mp hreturned cb hcb) x hx
    · intro g hg
      simpa using List.all_eq_true.mp hrendered _ hg
  obtain ⟨hok, hanswer⟩ := run_covers_faults ends hplan hcharge (p := ps[1]) rfl rfl rfl hcalm
  -- the filter further out neither marks the fault nor sets a result
  have hindices : (entries .exception r.events).map Entry.index = [1, 0] := by
    decide +kernel +zetaReduce
  have hidle : ((entries .exception r.events).all fun y =>
      y.index == 1 || y.reply.result.isNone) = true := by decide +kernel +zetaReduce
  have hfresh : (renderings (beforeShowing r.events)).isEmpty = true := by
    decide +kernel +zetaReduce
  have hloud : ((entries .resultBefore (beforeShowing r.events)).all fun y => !y.reply.suppress) =
      true := by decide +kernel +zetaReduce
  have hflight : inFlight (coreEvents r.events) = some (.action, f) := by
    decide +kernel +zetaReduce
  obtain ⟨inner, x, outer, hentries, hindex, hanswered⟩ := hanswer .action f hflight
  rw [hentries] at hindices hidle
  have hinner : inner = [] := by
    cases inner with
    | nil => rfl
    | cons y ys => cases ys <;> simp_all
  obtain ⟨y, rfl⟩ : ∃ y, outer = [y] := List.length_eq_one_iff.mp (by
    simpa [hinner] using congrArg List.length hindices)
  refine ⟨hplan, hcalm, hok, hanswered (by simp [hinner]) ?_ (List.isEmpty_iff.mp hfresh) ?_⟩
  · simp_all
  · simpa using hloud

end Runs

end RequestPipeline
