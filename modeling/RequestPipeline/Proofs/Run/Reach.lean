import RequestPipeline.Proofs.Run.Course

/-!
# How far a run gets

What a trace shows at each moment is what the passage of that moment shows, if the run gets there:
behind authorization only if every filter admitted the request, at the core only if the outermost
filters did. Whether a passage admits the request can be read off the trace again
(`Callback.Admitted`, `verdict_eq_admitted_iff`), so that a run is described by its trace alone.
-/

set_option autoImplicit false

namespace RequestPipeline

variable (ends : Ends) (ps : List Place)

/-! ## Borders -/

/-- The state in which a run begins. -/
def State.begun (call : Call) : State := { State.initial call with executed := true }

theorem State.begun_open (call : Call) : (State.begun call).Open := ⟨rfl, rfl, rfl⟩

/-- A run succeeds exactly if no fault is in flight at its last state, which is then its outcome. -/
theorem Step.finish_eq_ok {t : Step} {o : Outcome} :
    t.finish.outcome = .ok o ↔ t.state.pending = none ∧ t.state.outcome = o := by
  unfold finish
  split <;> simp [*]

/-- A fault in flight at the last state makes a run fail. -/
theorem Step.finish_of_pending {t : Step} {p : Pending} (h : t.state.pending = some p) :
    t.finish.outcome = .error (.unhandled t.state.call.action.displayName p.fault) := by
  simp [finish, h]

/-- A run reports what its way to the last state came to. -/
theorem run_outcome (call : Call) :
    (run ends ps (.initial call)).outcome = (ends.proceed ps (.begun call)).finish.outcome := rfl

/-- The fault that is still in flight at the last state leaves the run. -/
def State.abandon (s : State) : List Event :=
  s.pending.toList.map fun p => .abandoned p.phase p.fault

section Borders

variable (call : Call)

/-- A run is its way to the last state, what is abandoned there, and its end. -/
theorem events_run_eq :
    let r := run ends ps (.initial call)
    let t := ends.proceed ps (.begun call)
    r.events = .opened call.id call.action.displayName ps.length ::
      (t.events ++ t.state.abandon ++ [.finished call.action.displayName (.of r.outcome)]) := by
  intro r t
  have hfinish : t.finish.events = t.events ++ t.state.abandon := by
    unfold Step.finish State.abandon
    cases t.state.pending <;> simp
  rw [← hfinish]
  rfl

/-- Between its borders, a run is its way to the last state. -/
theorem events_run :
    ∃ tail, (run ends ps (.initial call)).events =
        .opened call.id call.action.displayName ps.length ::
          ((ends.proceed ps (.begun call)).events ++ tail) ∧
      ∀ e ∈ tail, e.isClosing = true := by
  rw [events_run_eq, List.append_assoc]
  refine ⟨_, rfl, fun e he => ?_⟩
  rcases List.mem_append.mp he with he | he
  · obtain ⟨p, -, rfl⟩ := List.mem_map.mp he
    rfl
  · obtain rfl := List.mem_singleton.mp he
    rfl

/-- What is read off a run is read off its way to the last state, unless the borders show it. -/
theorem filterMap_run {β : Type} {g : Event → Option β} (h : ∀ e, e.isBorder = true → g e = none) :
    (run ends ps (.initial call)).events.filterMap g =
      (ends.proceed ps (.begun call)).events.filterMap g := by
  obtain ⟨tail, hrun, hclosing⟩ := events_run ends ps call
  have htail : tail.filterMap g = [] :=
    List.filterMap_eq_nil_iff.mpr fun e he => h e (Event.isBorder_of_isClosing (hclosing e he))
  rw [hrun, List.filterMap_cons_none (h _ rfl), List.filterMap_append, htail, List.append_nil]

@[simp] theorem entries_run (cb : Callback) :
    entries cb (run ends ps (.initial call)).events =
      entries cb (ends.proceed ps (.begun call)).events := by
  unfold entries
  rw [filterMap_run]
  intro e he
  cases e <;> simp_all [Event.isBorder, Event.isClosing, Event.entry?]

@[simp] theorem invocations_run :
    invocations (run ends ps (.initial call)).events =
      invocations (ends.proceed ps (.begun call)).events := by
  refine filterMap_run ends ps call fun e he => ?_
  cases e <;> simp_all [Event.isBorder, Event.isClosing, Event.invoked?]

@[simp] theorem renderings_run :
    renderings (run ends ps (.initial call)).events =
      renderings (ends.proceed ps (.begun call)).events := by
  refine filterMap_run ends ps call fun e he => ?_
  cases e <;> simp_all [Event.isBorder, Event.isClosing, Event.rendered?]

@[simp] theorem faults_run :
    faults (run ends ps (.initial call)).events =
      faults (ends.proceed ps (.begun call)).events := by
  refine filterMap_run ends ps call fun e he => ?_
  cases e <;> simp_all [Event.isBorder, Event.isClosing, Event.raised?]

end Borders

/-! ## Passages in traces -/

/-- Every filter that takes part at a moment was called and let the request pass. -/
def Callback.Admitted (cb : Callback) (ps : List Place) (es : List Event) : Prop :=
  (entries cb es).map Entry.seat = cb.seats ps ∧ ∀ e ∈ entries cb es, e.passed = true

variable {ps}

theorem Callback.admitted_congr {cb : Callback} {es fs : List Event}
    (h : entries cb es = entries cb fs) : cb.Admitted ps es ↔ cb.Admitted ps fs := by
  simp [Admitted, h]

/-- Whether a passage admits the request can be read off its trace. -/
theorem verdict_eq_admitted_iff {cb : Callback} {s : State} :
    (cb.passage ps s).verdict = .admitted ↔ cb.Admitted ps (cb.passage ps s).step.events := by
  constructor
  · intro h
    obtain ⟨hseats, hpassed⟩ := advance_of_admitted h
    exact ⟨hseats.trans (cb.map_seat_members ps), hpassed⟩
  · -- the last entry of a passage that stops did not let the request pass
    rintro ⟨-, hpassed⟩
    refine Decidable.byContradiction fun h => ?_
    obtain ⟨front, last, hentries, -, hlast⟩ := advance_of_not_admitted h
    have hl : last.passed = true := by
      refine hpassed last ?_
      rw [Callback.passage, hentries]
      simp
    rw [← Entry.verdict_eq_admitted, hlast] at hl
    exact h hl

/-! ## Phases that a moment has no part in -/

variable (ps)

theorem Layer.capability_after (l : Layer) : l.after.capability = l.before.capability := by
  cases l <;> rfl

theorem entries_surround_of_ne {cb : Callback} {l : Layer} {inner : State → Step} {s : State}
    (h : cb.capability ≠ l.before.capability) (hl : l.stopped s = false)
    (hinner : ∀ t, entries cb (inner t).events = []) :
    entries cb (l.surround ps inner s).events = [] := by
  obtain ⟨t, ht⟩ := entries_surround ps hl hinner
  have hbefore : cb ≠ l.before := by
    rintro rfl
    exact h rfl
  have hafter : l.after ≠ cb := by
    rintro rfl
    exact h l.capability_after
  rw [ht, entries_passage_of_ne hbefore, entries_ascend_of_ne hafter, List.append_nil]

theorem entries_actionPhase_of_ne {cb : Callback} {s : State} (h : cb.capability ≠ .action)
    (hs : s.canceled = false) : entries cb (ends.actionPhase ps s).events = [] :=
  entries_surround_of_ne ps h hs fun _ => entries_perform ends cb _

theorem entries_resultPhase_of_ne {cb : Callback} {s : State} (h : cb.capability ≠ .result)
    (hs : s.suppressed = false) : entries cb (ends.resultPhase ps s).events = [] := by
  by_cases free : s.pending = none
  · rw [resultPhase_of_free ends ps free]
    exact entries_surround_of_ne ps h hs fun _ => entries_write ends cb _
  · rw [resultPhase_of_fault ends ps free]
    rfl

theorem entries_exceptionPhase_of_ne {cb : Callback} (h : cb.capability ≠ .exception)
    (s : State) : entries cb (ends.exceptionPhase ps s).events = [] := by
  have hne : Callback.exception ≠ cb := by
    rintro rfl
    exact h rfl
  by_cases free : s.pending = none
  · rw [exceptionPhase_of_free ends ps free]
    rfl
  · rw [exceptionPhase_of_fault ends ps free]
    simp [entries_advance_of_ne hne]

/-! ## The core -/

section Core

variable {s : State} (hs : s.Open)

include hs

/-- Rendering is still due behind the action. -/
theorem suppressed_actionPhase : (ends.actionPhase ps s).state.suppressed = false := by
  have h := (actionPhase_renderDone ends ps hs.active).trans hs.due
  simp only [State.renderDone, Bool.or_eq_false_iff] at h
  exact h.2

theorem entries_core_action {cb : Callback} (h : cb.capability = .action) :
    entries cb (ends.core ps s).events = entries cb (ends.actionPhase ps s).events := by
  simp [Ends.core, h, entries_exceptionPhase_of_ne ends ps,
    entries_resultPhase_of_ne ends ps _ (suppressed_actionPhase ends ps hs)]

theorem entries_core_result {cb : Callback} (h : cb.capability = .result) :
    entries cb (ends.core ps s).events =
      entries cb (ends.resultPhase ps (ends.actionPhase ps s).state).events := by
  simp [Ends.core, h, entries_exceptionPhase_of_ne ends ps,
    entries_actionPhase_of_ne ends ps _ hs.active]

theorem entries_core_of_ne {cb : Callback} (haction : cb.capability ≠ .action)
    (hresult : cb.capability ≠ .result) (hexception : cb.capability ≠ .exception) :
    entries cb (ends.core ps s).events = [] := by
  simp [Ends.core, entries_actionPhase_of_ne ends ps haction hs.active,
    entries_resultPhase_of_ne ends ps hresult (suppressed_actionPhase ends ps hs),
    entries_exceptionPhase_of_ne ends ps hexception]

end Core

/-! ## Behind authorization -/

section Behind

variable {s : State} (hs : s.Open)

include hs

/-- Unless every outermost filter lets the request pass, the core is not reached. -/
theorem entries_inside_of_not_admitted {cb : Callback}
    (hv : (Callback.resourceBefore.passage ps s).verdict ≠ .admitted) :
    entries cb (ends.inside ps (Callback.resourceBefore.passage ps s).step.state).events = [] := by
  cases h : (Callback.resourceBefore.passage ps s).verdict with
  | admitted => exact absurd h hv
  | refused => rw [inside_of_refused ends ps hs h, entries_writeDirectly]
  | faulted =>
    rw [inside_of_faulted ends ps h]
    rfl

/-- The filters called before the core are not called inside. -/
theorem entries_inside_of_outer {cb : Callback}
    (h : cb.capability = .authorization ∨ cb.capability = .resource) :
    entries cb (ends.inside ps (Callback.resourceBefore.passage ps s).step.state).events = [] := by
  by_cases hv : (Callback.resourceBefore.passage ps s).verdict = .admitted
  · rw [inside_of_admitted ends ps hs hv]
    rcases h with h | h <;>
      exact entries_core_of_ne ends ps (hs.passage ps rfl hv) (by simp [h]) (by simp [h])
        (by simp [h])
  · exact entries_inside_of_not_admitted ends ps hs hv

/-- Behind authorization a moment has entries on the way through the outermost filters, inside them,
and on the way outwards. -/
theorem entries_resourcePhase (cb : Callback) :
    ∃ t, entries cb (ends.resourcePhase ps s).events =
      entries cb (Callback.resourceBefore.passage ps s).step.events ++
        entries cb (ends.inside ps (Callback.resourceBefore.passage ps s).step.state).events ++
        entries cb (Layer.resource.ascend ps (Layer.resource.entered ps s) t).events := by
  rw [resourcePhase_eq ends ps hs.active]
  exact ⟨(ends.inside ps (Callback.resourceBefore.passage ps s).step.state).state, by simp⟩

theorem entries_resourceBefore :
    entries .resourceBefore (ends.resourcePhase ps s).events =
      entries .resourceBefore (Callback.resourceBefore.passage ps s).step.events := by
  obtain ⟨t, ht⟩ := entries_resourcePhase ends ps hs .resourceBefore
  rw [ht, entries_inside_of_outer ends ps hs (.inr rfl),
    entries_ascend_of_ne (by simp [Layer.after]), List.append_nil, List.append_nil]

/-- The outermost filters that returned are left, the innermost first. -/
theorem entries_resourceAfter :
    (entries .resourceAfter (ends.resourcePhase ps s).events).map Entry.seat =
      (((entries .resourceBefore (ends.resourcePhase ps s).events).filter
        Entry.returned).map Entry.seat).reverse := by
  obtain ⟨t, ht⟩ := entries_resourcePhase ends ps hs .resourceAfter
  rw [ht, entries_resourceBefore ends ps hs, entries_passage_of_ne (by simp),
    entries_inside_of_outer ends ps hs (.inr rfl), List.nil_append, List.nil_append]
  exact (entries_ascend .resource ps _ _).trans
    (Layer.map_seat_entered (l := .resource) ps hs.active)

theorem entries_resourcePhase_of_ne {cb : Callback} (h : cb.capability ≠ .resource) :
    entries cb (ends.resourcePhase ps s).events =
      entries cb (ends.inside ps (Callback.resourceBefore.passage ps s).step.state).events := by
  obtain ⟨t, ht⟩ := entries_resourcePhase ends ps hs cb
  have hbefore : cb ≠ .resourceBefore := by
    rintro rfl
    exact h rfl
  have hafter : Layer.resource.after ≠ cb := by
    rintro rfl
    exact h rfl
  rw [ht, entries_passage_of_ne hbefore, entries_ascend_of_ne hafter, List.nil_append,
    List.append_nil]

end Behind

/-! ## From the start -/

section Start

variable {s : State} (hi : s.call.interruption? = none) (hs : s.Open)

include hi hs

/-- Unless every filter authorizes the request, no other moment has entries. -/
theorem entries_proceed_of_not_admitted {cb : Callback} (h : cb.capability ≠ .authorization)
    (hv : (Callback.authorization.passage ps s).verdict ≠ .admitted) :
    entries cb (ends.proceed ps s).events = [] := by
  have hne : cb ≠ .authorization := by
    rintro rfl
    exact h rfl
  cases hv' : (Callback.authorization.passage ps s).verdict with
  | admitted => exact absurd hv' hv
  | refused => simp [proceed_of_refused ends ps hi hs hv', entries_passage_of_ne hne]
  | faulted => rw [proceed_of_faulted ends ps hi hs hv', entries_passage_of_ne hne]

theorem entries_proceed_of_admitted {cb : Callback} (h : cb.capability ≠ .authorization)
    (hv : (Callback.authorization.passage ps s).verdict = .admitted) :
    entries cb (ends.proceed ps s).events =
      entries cb
        (ends.resourcePhase ps (Callback.authorization.passage ps s).step.state).events := by
  have hne : cb ≠ .authorization := by
    rintro rfl
    exact h rfl
  simp [proceed_of_admitted ends ps hi hs hv, entries_passage_of_ne hne]

theorem entries_authorization :
    entries .authorization (ends.proceed ps s).events =
      entries .authorization (Callback.authorization.passage ps s).step.events := by
  cases hv : (Callback.authorization.passage ps s).verdict with
  | refused => simp [proceed_of_refused ends ps hi hs hv]
  | faulted => rw [proceed_of_faulted ends ps hi hs hv]
  | admitted =>
    have hopen := hs.passage ps rfl hv
    have hne : Callback.authorization.capability ≠ .resource := by simp [Callback.capability]
    have hbehind := entries_resourcePhase_of_ne ends ps hopen hne
    rw [entries_inside_of_outer ends ps hopen (.inl rfl)] at hbehind
    simp [proceed_of_admitted ends ps hi hs hv, hbehind]

end Start

/-! ## Reach -/

section Reach

variable (call : Call)

/-- The state behind authorization. -/
def State.authorized : State := (Callback.authorization.passage ps (.begun call)).step.state

/-- The state behind the outermost filters. -/
def State.atCore : State :=
  (Callback.resourceBefore.passage ps (.authorized ps call)).step.state

/-- A trace shows that the request was authorized: it was not cancelled at the start, and every
filter asked let it pass. -/
def Authorized (es : List Event) : Prop :=
  call.cancelled = false ∧ Callback.authorization.Admitted ps es

/-- A trace shows that the core was reached: the request was authorized, and every outermost filter
let it pass. -/
def CoreReached (es : List Event) : Prop :=
  Authorized ps call es ∧ Callback.resourceBefore.Admitted ps es

variable {ps call}

theorem State.interruption_begun (h : call.cancelled = false) :
    (State.begun call).call.interruption? = none := by
  simp [begun, initial, Call.interruption?, h]

/-- A request that is cancelled at its start does not proceed. -/
theorem proceed_of_cancelled (h : call.cancelled = true) :
    ends.proceed ps (.begun call) =
      .raise (.cancelled call.id) .authorization (.begun call) :=
  proceed_of_interrupted ends ps (by simp [State.begun, State.initial, Call.interruption?, h])

theorem State.authorized_open
    (hv : (Callback.authorization.passage ps (.begun call)).verdict = .admitted) :
    (State.authorized ps call).Open :=
  (begun_open call).passage ps rfl hv

theorem entries_authorization_run (h : call.cancelled = false) :
    entries .authorization (run ends ps (.initial call)).events =
      entries .authorization (Callback.authorization.passage ps (.begun call)).step.events :=
  (entries_run ends ps call _).trans
    (entries_authorization ends ps (State.interruption_begun h) (State.begun_open call))

theorem authorized_run_iff :
    Authorized ps call (run ends ps (.initial call)).events ↔ call.cancelled = false ∧
      (Callback.authorization.passage ps (.begun call)).verdict = .admitted := by
  rw [Authorized]
  refine and_congr_right fun h => ?_
  rw [verdict_eq_admitted_iff]
  exact Callback.admitted_congr (entries_authorization_run ends h)

/-- A request that is cancelled at its start gets to no filter. -/
theorem not_cancelled_of_called {cb : Callback} {e : Entry}
    (h : e ∈ entries cb (run ends ps (.initial call)).events) : call.cancelled = false := by
  cases hc : call.cancelled with
  | false => rfl
  | true =>
    rw [entries_run, proceed_of_cancelled ends hc] at h
    simp [mem_entries, Entry.event] at h

/-- Every filter called in a run is one of the plan, called in some state. -/
theorem called_run {cb : Callback} {e : Entry}
    (h : e ∈ entries cb (run ends ps (.initial call)).events) :
    ∃ p ∈ ps, ∃ b u, cb.behaviour? p.filter = some b ∧ e = p.entry ps cb b u := by
  have hi := State.interruption_begun (not_cancelled_of_called ends h)
  rw [entries_run] at h
  obtain ⟨he, rfl⟩ := mem_entries.mp h
  obtain ⟨p, hp, b, u, -, hb, heq⟩ :=
    (course_proceed ends ps hi (State.begun_open call)).called
      (I := fun _ => True) (fun _ _ => trivial) trivial he
  exact ⟨p, hp, b, u, hb, heq⟩

/-- Unless the request was authorized, no other moment has entries. -/
theorem entries_run_of_not_authorized {cb : Callback} (hcb : cb.capability ≠ .authorization)
    (h : ¬Authorized ps call (run ends ps (.initial call)).events) :
    entries cb (run ends ps (.initial call)).events = [] := by
  rw [authorized_run_iff] at h
  rw [entries_run]
  cases hc : call.cancelled with
  | true =>
    rw [proceed_of_cancelled ends hc]
    rfl
  | false =>
    exact entries_proceed_of_not_admitted ends ps (State.interruption_begun hc)
      (State.begun_open call) hcb fun hv => h ⟨hc, hv⟩

/-- A filter that is called elsewhere than at authorization is called of an authorized request. -/
theorem authorized_of_called {cb : Callback} {e : Entry} (hcb : cb.capability ≠ .authorization)
    (h : e ∈ entries cb (run ends ps (.initial call)).events) :
    Authorized ps call (run ends ps (.initial call)).events := by
  refine Classical.byContradiction fun hne => ?_
  simp [entries_run_of_not_authorized ends hcb hne] at h

theorem entries_run_of_authorized {cb : Callback} (hcb : cb.capability ≠ .authorization)
    (h : Authorized ps call (run ends ps (.initial call)).events) :
    entries cb (run ends ps (.initial call)).events =
      entries cb (ends.resourcePhase ps (.authorized ps call)).events := by
  obtain ⟨hc, hv⟩ := (authorized_run_iff ends).mp h
  rw [entries_run]
  exact entries_proceed_of_admitted ends ps (State.interruption_begun hc) (State.begun_open call)
    hcb hv

theorem entries_resourceBefore_run
    (h : Authorized ps call (run ends ps (.initial call)).events) :
    entries .resourceBefore (run ends ps (.initial call)).events =
      entries .resourceBefore
        (Callback.resourceBefore.passage ps (.authorized ps call)).step.events := by
  have hopen := State.authorized_open ((authorized_run_iff ends).mp h).2
  rw [entries_run_of_authorized ends (by decide) h, entries_resourceBefore ends ps hopen]

theorem coreReached_run_iff :
    CoreReached ps call (run ends ps (.initial call)).events ↔
      (call.cancelled = false ∧
        (Callback.authorization.passage ps (.begun call)).verdict = .admitted) ∧
        (Callback.resourceBefore.passage ps (.authorized ps call)).verdict = .admitted := by
  rw [CoreReached, ← authorized_run_iff ends]
  refine and_congr_right fun h => ?_
  rw [verdict_eq_admitted_iff]
  exact Callback.admitted_congr (entries_resourceBefore_run ends h)

theorem State.atCore_open (h : CoreReached ps call (run ends ps (.initial call)).events) :
    (State.atCore ps call).Open := by
  obtain ⟨⟨-, hv⟩, hv'⟩ := (coreReached_run_iff ends).mp h
  exact (authorized_open hv).passage ps rfl hv'

/-- Unless the core was reached, the moments inside have no entries. -/
theorem entries_run_of_not_reached {cb : Callback} (hauth : cb.capability ≠ .authorization)
    (hresource : cb.capability ≠ .resource)
    (h : ¬CoreReached ps call (run ends ps (.initial call)).events) :
    entries cb (run ends ps (.initial call)).events = [] := by
  by_cases ha : Authorized ps call (run ends ps (.initial call)).events
  · have hopen := State.authorized_open ((authorized_run_iff ends).mp ha).2
    rw [entries_run_of_authorized ends hauth ha,
      entries_resourcePhase_of_ne ends ps hopen hresource]
    exact entries_inside_of_not_admitted ends ps hopen fun hv =>
      h ((coreReached_run_iff ends).mpr ⟨(authorized_run_iff ends).mp ha, hv⟩)
  · exact entries_run_of_not_authorized ends hauth ha

/-- A filter that is called inside the core is called once the core was reached. -/
theorem reached_of_called {cb : Callback} {e : Entry} (hauth : cb.capability ≠ .authorization)
    (hresource : cb.capability ≠ .resource)
    (h : e ∈ entries cb (run ends ps (.initial call)).events) :
    CoreReached ps call (run ends ps (.initial call)).events := by
  refine Classical.byContradiction fun hne => ?_
  simp [entries_run_of_not_reached ends hauth hresource hne] at h

theorem entries_run_of_reached {cb : Callback} (hauth : cb.capability ≠ .authorization)
    (hresource : cb.capability ≠ .resource)
    (h : CoreReached ps call (run ends ps (.initial call)).events) :
    entries cb (run ends ps (.initial call)).events =
      entries cb (ends.core ps (.atCore ps call)).events := by
  obtain ⟨ha, hv⟩ := (coreReached_run_iff ends).mp h
  have hopen := State.authorized_open ha.2
  rw [entries_run_of_authorized ends hauth h.1, entries_resourcePhase_of_ne ends ps hopen hresource,
    inside_of_admitted ends ps hopen hv]
  rfl

end Reach

/-! ## Outside the core -/

/-- A property of events holds of all that takes place outside the core: at the borders of a run,
when it is cancelled at its start, in calls of the filters there, in settling, and in direct
rendering if a run renders directly. -/
structure OutsideCore (ends : Ends) (direct : Prop) (Q : Event → Prop) : Prop where
  border : ∀ x : Event, x.isBorder = true → Q x
  cancelled : ∀ f, Q (.raised .authorization f)
  call : ∀ e : Entry, e.callback.capability = .authorization ∨ e.callback.capability = .resource →
    ∀ x ∈ e.step.events, Q x
  settle : ∀ s, ∀ x ∈ (Step.settle s).events, Q x
  written : direct → ∀ s, ∀ x ∈ (ends.writeDirectly s).events, Q x

namespace OutsideCore

variable {ends ps} {direct : Prop} {Q : Event → Prop} {s t : State}

theorem passage (hQ : OutsideCore ends direct Q) {cb : Callback}
    (hcb : cb.capability = .authorization ∨ cb.capability = .resource) :
    ∀ x ∈ (cb.passage ps s).step.events, Q x :=
  advance_forall (fun e he => hQ.call e (he ▸ hcb)) s

/-- Direct rendering announces itself. -/
theorem writeDirectly (hQ : OutsideCore ends direct Q)
    (h : Event.renderingDirectly ∈ (ends.writeDirectly s).events → direct) :
    ∀ x ∈ (ends.writeDirectly s).events, Q x :=
  hQ.written (h (by simp [Ends.writeDirectly])) s

theorem writeMissing (hQ : OutsideCore ends direct Q)
    (h : Event.renderingDirectly ∈ (ends.writeMissing s).events → direct) :
    ∀ x ∈ (ends.writeMissing s).events, Q x := by
  rcases writeMissing_cases ends s with ⟨-, -, hm⟩ | ⟨-, hm⟩ <;> rw [hm] at h ⊢
  · exact hQ.writeDirectly h
  · simp

theorem outward (hQ : OutsideCore ends direct Q)
    (h : Event.renderingDirectly ∈ (ends.outward ps s t).events → direct) :
    ∀ x ∈ (ends.outward ps s t).events, Q x := by
  simp only [Ends.outward, Step.andThen_events, Step.andThen_state, List.mem_append] at h ⊢
  intro x hx
  rcases hx with (hx | hx) | hx
  · exact ascend_forall (fun e he => hQ.call e (.inr (by rw [he]; rfl))) t x hx
  · exact hQ.settle _ x hx
  · exact hQ.writeMissing (fun hd => h (.inr hd)) x hx

/-- Unless every outermost filter lets the request pass, nothing takes place inside the core. -/
theorem resourcePhase (hQ : OutsideCore ends direct Q) (hs : s.Open)
    (hv : (Callback.resourceBefore.passage ps s).verdict ≠ .admitted)
    (h : Event.renderingDirectly ∈ (ends.resourcePhase ps s).events → direct) :
    ∀ x ∈ (ends.resourcePhase ps s).events, Q x := by
  rw [resourcePhase_eq_outward ends ps hs.active] at h ⊢
  simp only [Step.andThen_events, Step.andThen_state, List.mem_append] at h ⊢
  intro x hx
  rcases hx with (hx | hx) | hx
  · exact hQ.passage (.inr rfl) x hx
  · cases hv' : (Callback.resourceBefore.passage ps s).verdict with
    | admitted => exact absurd hv' hv
    | refused =>
      rw [inside_of_refused ends ps hs hv'] at h hx
      exact hQ.writeDirectly (fun hd => h (.inl (.inr hd))) x hx
    | faulted => simp [inside_of_faulted ends ps hv'] at hx
  · exact hQ.outward (fun hd => h (.inr hd)) x hx

/-- Of a run that does not reach the core the property holds throughout. -/
theorem run {call : Call}
    (hQ : OutsideCore ends
      (Event.renderingDirectly ∈ (RequestPipeline.run ends ps (.initial call)).events) Q)
    (h : ¬CoreReached ps call (RequestPipeline.run ends ps (.initial call)).events) :
    ∀ x ∈ (RequestPipeline.run ends ps (.initial call)).events, Q x := by
  rw [coreReached_run_iff] at h
  obtain ⟨tail, hrun, hclosing⟩ := events_run ends ps call
  have hmem {x : Event} (hx : x ∈ (ends.proceed ps (.begun call)).events) :
      x ∈ (RequestPipeline.run ends ps (.initial call)).events := by
    rw [hrun]
    exact List.mem_cons_of_mem _ (List.mem_append_left _ hx)
  suffices hproceed : ∀ x ∈ (ends.proceed ps (.begun call)).events, Q x by
    intro x hx
    simp only [hrun, List.mem_cons, List.mem_append] at hx
    rcases hx with rfl | hx | hx
    · exact hQ.border _ rfl
    · exact hproceed x hx
    · exact hQ.border x (Event.isBorder_of_isClosing (hclosing x hx))
  cases hc : call.cancelled with
  | true =>
    rw [proceed_of_cancelled ends hc]
    simpa using hQ.cancelled _
  | false =>
    have hi := State.interruption_begun hc
    have hs := State.begun_open call
    cases hv : (Callback.authorization.passage ps (.begun call)).verdict with
    | faulted =>
      rw [proceed_of_faulted ends ps hi hs hv]
      exact hQ.passage (.inl rfl)
    | refused =>
      rw [proceed_of_refused ends ps hi hs hv, Step.andThen_events] at hmem ⊢
      intro x hx
      rcases List.mem_append.mp hx with hx | hx
      · exact hQ.passage (.inl rfl) x hx
      · exact hQ.writeDirectly (fun hd => hmem (List.mem_append_right _ hd)) x hx
    | admitted =>
      rw [proceed_of_admitted ends ps hi hs hv, Step.andThen_events] at hmem ⊢
      intro x hx
      rcases List.mem_append.mp hx with hx | hx
      · exact hQ.passage (.inl rfl) x hx
      · exact hQ.resourcePhase (hs.passage ps rfl hv) (fun hv' => h ⟨⟨hc, hv⟩, hv'⟩)
          (fun hd => hmem (List.mem_append_right _ hd)) x hx

end OutsideCore

end RequestPipeline
