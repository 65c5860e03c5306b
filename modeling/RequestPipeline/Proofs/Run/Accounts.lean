import RequestPipeline.Proofs.Run.Contexts
import RequestPipeline.Proofs.Run.Slots
import RequestPipeline.Run.Observation

/-!
# Accounts of faults

Every fault that is raised in a run leaves it, settled or abandoned, or is replaced by a later one
while it is in flight. Each fault that leaves is counted once, under the phase in which it was
raised (`Reconciled`), as not handled only if the run fails with it. The measurements of the run as
such come last, once each (`run_accounts_faults`).
-/

set_option autoImplicit false

namespace RequestPipeline

/-! ## What leaves a run -/

section Ticks

variable {ends : Ends} {ps : List Place} {s t : State} {e : Event} {es : List Event}

/-- A tick is none of the events around a run. -/
theorem Tick.isBorder (h : Tick ends ps s e t) : e.isBorder = false := by
  cases h <;> rfl

/-- A tick in which a fault leaves recovers from it, and no other does. -/
theorem Tick.recovers (h : Tick ends ps s e t) :
    t.recovered = (s.recovered || e.departed?.isSome) := by
  cases h <;> simp [Entry.event, Event.departed?, State.raise, Ends.invoked, Ends.written]

theorem Ticks.recovers (h : Ticks ends ps s es t) :
    t.recovered = (s.recovered || !(departures es).isEmpty) := by
  induction h with
  | nil => simp
  | @cons s t u e es tick _ ih =>
    rw [ih, tick.recovers, departures_cons]
    cases e.departed? <;> simp

end Ticks

section Proceed

variable (ends : Ends) (ps : List Place) {s : State} (hs : s.Open)

include hs

theorem isBorder_proceed : ∀ e ∈ (ends.proceed ps s).events, e.isBorder = false :=
  (ticks_proceed ends ps hs).forall_events Tick.isBorder

theorem recovers_proceed (hr : s.recovered = false) :
    (ends.proceed ps s).state.recovered = !(departures (ends.proceed ps s).events).isEmpty := by
  simpa [hr] using (ticks_proceed ends ps hs).recovers

end Proceed

/-- What leaves a run is what was settled on its way and what is abandoned at the last state. -/
theorem departures_run (ends : Ends) (ps : List Place) (call : Call) :
    let t := ends.proceed ps (.begun call)
    departures (run ends ps (.initial call)).events =
      departures t.events ++ t.state.pending.toList.map fun p => ⟨p.phase, p.fault, false⟩ := by
  intro t
  rw [events_run_eq]
  cases hp : t.state.pending <;>
    simp [t, hp, departures_cons, State.abandon, Event.departed?]

/-- What leaves on the way to the last state was handled. -/
theorem handled_of_mem_departures {es : List Event} (h : ∀ e ∈ es, e.isBorder = false)
    {d : Departure} (hd : d ∈ departures es) : d.handled = true := by
  obtain ⟨e, he, hed⟩ := List.mem_filterMap.mp hd
  have hborder := h e he
  cases e with
  | settled ph f =>
    obtain rfl : ⟨ph, f, true⟩ = d := by simpa [Event.departed?] using hed
    rfl
  | abandoned ph f => simp [Event.isBorder, Event.isClosing] at hborder
  | _ => simp [Event.departed?] at hed

/-! ## What is counted -/

namespace Metric

/-- The name under which something is measured. -/
def name : Metric → String
  | counter name _ _ => name
  | duration name _ => name

/-- The labels of a measurement. -/
def labels : Metric → List (String × String)
  | counter _ labels _ => labels
  | duration _ labels => labels

/-- A fault is counted. -/
def countsFault (m : Metric) : Bool := m.name == "bastion_faults_total"

/-- A fault is counted as handled or as not handled. -/
def countsFaultAs (handled : Bool) (m : Metric) : Bool :=
  m.countsFault && m.labels.lookup "handled" == some (if handled then "true" else "false")

/-- The end of a run is measured. -/
def endsRun (m : Metric) : Bool :=
  m.name == "bastion_pipeline_executions_total" || m.name == "bastion_pipeline_duration_seconds"

end Metric

/-- The count of a departure. -/
def Departure.metric (d : Departure) : Metric := .fault d.phase d.handled

theorem Departure.countsFaultAs_metric (d : Departure) (handled : Bool) :
    d.metric.countsFaultAs handled = (d.handled == handled) := by
  cases hd : d.handled <;> cases handled <;>
    simp [metric, Metric.countsFaultAs, Metric.countsFault, Metric.fault, Metric.name,
      Metric.labels, hd]

section Metrics

variable {o : Options} (ho : o.recordMetrics = true)

include ho

theorem Options.metrics_append (es fs : List Event) :
    o.metrics (es ++ fs) = o.metrics es ++ o.metrics fs := by
  simp [metrics, ho]

/-- The faults that are counted are those that leave, one by one. -/
theorem Options.filter_metrics (es : List Event) :
    (o.metrics es).filter Metric.countsFault = (departures es).map Departure.metric := by
  simp only [metrics, ho, if_true]
  induction es with
  | nil => rfl
  | cons e es ih =>
    rw [List.flatMap_cons, List.filter_append, ih, departures_cons, List.map_append]
    congr 1
    cases e <;>
      simp [Event.measure, Event.departed?, Departure.metric, Metric.countsFault, Metric.name,
        Metric.fault]

/-- Nothing but the end of a run is measured as such. -/
theorem Options.endsRun_metrics {es : List Event} (h : ∀ e ∈ es, ∀ a x, e ≠ .finished a x) :
    ∀ m ∈ o.metrics es, m.endsRun = false := by
  simp only [metrics, ho, if_true, List.mem_flatMap]
  rintro m ⟨e, he, hm⟩
  cases e with
  | finished a x => exact absurd rfl (h _ he a x)
  | shortCircuited name ph =>
    obtain rfl := List.mem_singleton.mp hm
    simp [Metric.endsRun, Metric.name]
  | settled ph f =>
    obtain rfl := List.mem_singleton.mp hm
    simp [Metric.endsRun, Metric.name, Metric.fault]
  | abandoned ph f =>
    obtain rfl := List.mem_singleton.mp hm
    simp [Metric.endsRun, Metric.name, Metric.fault]
  | _ => simp [Event.measure] at hm

/-- Faults are counted as handled, or as not handled, as often as they leave so. -/
theorem Options.countP_metrics (es : List Event) (handled : Bool) :
    (o.metrics es).countP (Metric.countsFaultAs handled) =
      (departures es).countP fun d => d.handled == handled := by
  have hcounts : Metric.countsFaultAs handled =
      fun m => Metric.countsFaultAs handled m && Metric.countsFault m := by
    funext m
    simp only [Metric.countsFaultAs]
    cases m.countsFault <;> simp
  rw [hcounts, ← List.countP_filter, Options.filter_metrics ho, List.countP_map]
  congr 1
  funext d
  exact d.countsFaultAs_metric handled

end Metrics

/-! ## Whole runs -/

/-- The measurements of a trace agree with its faults. -/
structure Reconciled (es : List Event) (ms : List Metric) : Prop where
  /-- The slots are those of the run wherever it shows its state. -/
  shown : ∀ es₁ c es₂, es = es₁ ++ Entry.event c :: es₂ → c.before.slots = slots es₁
  /-- When a fault leaves, the slots tell of it, and of the phase in which it was raised. -/
  left : ∀ es₁ e es₂ d, es = es₁ ++ e :: es₂ → e.departed? = some d →
    slots es₁ = ⟨some d.fault, some d.phase, d.handled⟩ ∧ Stands es₁ d.phase d.fault
  /-- A fault that is raised is replaced or leaves. -/
  perm : (faults es).Perm (replaced es ++ (departures es).map fun d => (d.phase, d.fault))
  /-- Each fault that leaves is counted. -/
  counted : ms.filter Metric.countsFault = (departures es).map Departure.metric

theorem Reconciled.length_faults {es : List Event} {ms : List Metric} (h : Reconciled es ms) :
    (faults es).length = (ms.filter Metric.countsFault).length + (replaced es).length := by
  rw [h.perm.length_eq, h.counted, List.length_append, List.length_map, List.length_map,
    Nat.add_comm]

section Run

variable (ends : Ends) (ps : List Place) (call : Call)

theorem reconciled_run {o : Options} (ho : o.recordMetrics = true) :
    Reconciled (run ends ps (.initial call)).events
      (o.metrics (run ends ps (.initial call)).events) := by
  obtain ⟨horder, hempty⟩ := accounted_run ends ps call
  generalize (run ends ps (.initial call)).events = es at horder hempty
  refine ⟨?_, ?_, ?_, Options.filter_metrics ho es⟩
  · rintro es₁ c es₂ rfl
    exact horder.inOrder.shown c rfl
  · rintro es₁ e es₂ d rfl hd
    have hslots := horder.inOrder.left d hd
    refine ⟨hslots, (accounted_append.mp horder).1.stands ?_⟩
    rw [hslots]
    rfl
  · have hperm := horder.perm
    rw [← slots, hempty] at hperm
    simpa [replaced, Slots.held] using hperm

/-- The measurements of a run end with those of the run as such, which stand nowhere else. -/
theorem metrics_run {o : Options} (ho : o.recordMetrics = true) :
    let r := run ends ps (.initial call)
    ∃ front, o.metrics r.events =
        front ++ [.counter "bastion_pipeline_executions_total"
            [("action", call.action.displayName), ("outcome", (Ending.of r.outcome).word)] 1,
          .duration "bastion_pipeline_duration_seconds" [("action", call.action.displayName)]] ∧
      ∀ m ∈ front, m.endsRun = false := by
  intro r
  have hevents := events_run_eq ends ps call
  have hborder := isBorder_proceed ends ps (State.begun_open call)
  generalize ends.proceed ps (.begun call) = t at hevents hborder
  refine ⟨o.metrics (.opened call.id call.action.displayName ps.length ::
    (t.events ++ t.state.abandon)), ?_, Options.endsRun_metrics ho ?_⟩
  · rw [hevents, ← List.cons_append, Options.metrics_append ho]
    simp [Options.metrics, ho, Event.measure, r]
  · rintro e he a x rfl
    rcases List.mem_cons.mp he with he | he
    · simp at he
    · rcases List.mem_append.mp he with he | he
      · -- the way to the last state does not end the run
        simpa [Event.isBorder, Event.isClosing] using hborder _ he
      · simp [State.abandon] at he

/-- A fault leaves a run without being handled only where the run fails with it. -/
theorem countP_departures_run :
    let r := run ends ps (.initial call)
    (departures r.events).countP (fun d => d.handled == false) =
      match r.outcome with
      | .error (.unhandled _ _) => 1
      | _ => 0 := by
  intro r
  have hdepartures := departures_run ends ps call
  have houtcome := run_outcome ends ps call
  have hborder := isBorder_proceed ends ps (State.begun_open call)
  generalize ends.proceed ps (.begun call) = t at hdepartures houtcome hborder
  -- what was settled on the way was handled, so only what is abandoned is left to count
  have hsettled : (departures t.events).countP (fun d => d.handled == false) = 0 := by
    rw [List.countP_eq_zero]
    intro d hd
    simp [handled_of_mem_departures hborder hd]
  rw [hdepartures, List.countP_append, hsettled, houtcome]
  cases hp : t.state.pending with
  | some p => simp [Step.finish_of_pending hp]
  | none => simp [Step.finish_eq_ok.mpr ⟨hp, rfl⟩]

/-- A run that succeeds has recovered if a fault left it, and then the fault was handled. -/
theorem recovered_run {out : Outcome} (h : (run ends ps (.initial call)).outcome = .ok out) :
    out.recovered = true ↔
      0 < (departures (run ends ps (.initial call)).events).countP fun d => d.handled == true := by
  have hdepartures := departures_run ends ps call
  have hborder := isBorder_proceed ends ps (State.begun_open call)
  have hrecovers := recovers_proceed ends ps (State.begun_open call) rfl
  rw [run_outcome] at h
  generalize ends.proceed ps (.begun call) = t at hdepartures hborder hrecovers h
  -- nothing is abandoned, so what leaves was settled on the way, where the run recovered from it
  obtain ⟨hp, rfl⟩ := Step.finish_eq_ok.mp h
  rw [hdepartures, hp]
  show t.state.recovered = true ↔ _
  rw [hrecovers, List.countP_pos_iff]
  constructor
  · intro hne
    obtain ⟨d, hd⟩ := List.exists_mem_of_ne_nil (departures t.events) (by simpa using hne)
    exact ⟨d, by simp [hd], by simp [handled_of_mem_departures hborder hd]⟩
  · rintro ⟨d, hd, -⟩
    have hne : departures t.events ≠ [] := List.ne_nil_of_mem (by simpa using hd)
    simpa using hne

end Run

/-- The faults of a run are accounted for in what is measured. The run as such is measured once,
behind everything else. A fault that is raised is counted, under the phase in which it was raised,
or replaced by a later one. One is counted as not handled if the run fails with it, and none
otherwise. A run that succeeds has recovered if a fault was counted as handled. -/
theorem run_accounts_faults {o : Options} (ho : o.recordMetrics = true) (ends : Ends) {c : Context}
    (hc : c.Reached) (hfresh : c.state.executed = false) :
    let r := (c.run ends).1
    let ms := o.metrics r.events
    let action := c.state.call.action.displayName
    (∃ front, ms = front ++ [.counter "bastion_pipeline_executions_total"
          [("action", action), ("outcome", (Ending.of r.outcome).word)] 1,
        .duration "bastion_pipeline_duration_seconds" [("action", action)]] ∧
      ∀ m ∈ front, m.endsRun = false) ∧
    (faults r.events).length = (ms.filter Metric.countsFault).length + (replaced r.events).length ∧
    (ms.countP (Metric.countsFaultAs false) =
      match r.outcome with
      | .error (.unhandled _ _) => 1
      | _ => 0) ∧
    (∀ out, r.outcome = .ok out →
      (out.recovered = true ↔ ∃ m ∈ ms, m.countsFaultAs true = true)) ∧
    Reconciled r.events ms := by
  obtain ⟨call, hcall⟩ := hc.initial_of_fresh hfresh
  intro r ms action
  have hr : r = run ends c.places (.initial call) := by simp only [r, Context.run, hcall]
  have haction : action = call.action.displayName := by simp only [action, hcall]; rfl
  simp only [ms, hr, haction]
  have hreconciled := reconciled_run ends c.places call ho
  refine ⟨metrics_run ends c.places call ho, hreconciled.length_faults, ?_, ?_, hreconciled⟩
  · rw [Options.countP_metrics ho, countP_departures_run]
  · intro out hout
    rw [recovered_run ends c.places call hout, ← Options.countP_metrics ho, List.countP_pos_iff]

/-- The fault of a filter goes over that of the action, and is the one that is counted. -/
theorem run_accounts_replaced_fault :
    let torn : Behaviour := fun _ => { fault := some (.plain "torn") }
    let f : Filter := { name := "net", exception := some torn }
    let ends : Ends := ⟨fun _ => { outcome := .error (.plain "out of order") }, fun _ _ => {}⟩
    let call : Call := .ofAction ⟨"jobs", "run", .unit⟩
    let c : Context := ⟨[⟨0, .shared .global f, f, rfl⟩], .initial call⟩
    let r := (c.run ends).1
    let ms := Options.metrics {} r.events
    (replaced r.events).length = 1 ∧ ms.countP (Metric.countsFaultAs false) = 1 ∧
      (faults r.events).length = (ms.filter Metric.countsFault).length + 1 := by
  intro torn f ends call c r ms
  have hreplaced : (replaced r.events).length = 1 := by decide +kernel +zetaReduce
  have hunhandled : ms.countP (Metric.countsFaultAs false) = 1 := by
    decide +kernel +zetaReduce
  obtain ⟨-, hlength, -⟩ := run_accounts_faults (o := {}) rfl ends (c := c) (.new _ _) rfl
  exact ⟨hreplaced, hunhandled, hreplaced ▸ hlength⟩

end RequestPipeline
