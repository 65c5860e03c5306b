import RequestPipeline.Proofs.Run.Layout
import RequestPipeline.Run.Observation

/-!
# Runs that are watched

While a run goes on, its options are asked at eight places whether to write something down:
wherever a filter is called, the way inwards is ended, a fault is raised, settled or left, the
action is invoked, a result is rendered past the filters around rendering, and a run ends
(`Progress`). What is written down on the way is what the log and the metrics of the events show
behind the run, part by part (`Progress.run_eq`, `Pipeline.watch_eq`).

So options have no say in what happens: whether filter calls are traced and whether anything is
measured, a request comes to the same (`watch_same`).
-/

set_option autoImplicit false

namespace RequestPipeline

/-! ## Progress -/

/-- How far a run has come, and what was written down of it. -/
structure Progress where
  state : State
  /-- What was done on behalf of the request. -/
  acts : List Event := []
  log : List LogEntry := []
  metrics : List Metric := []

namespace Progress

def update (f : State → State) (w : Progress) : Progress := { w with state := f w.state }

def act (e : Event) (w : Progress) : Progress := { w with acts := w.acts ++ [e] }

def tell (entries : List LogEntry) (w : Progress) : Progress := { w with log := w.log ++ entries }

def count (ms : List Metric) (w : Progress) : Progress := { w with metrics := w.metrics ++ ms }

/-- Writes into the log on demand. -/
def trace (o : Options) (entry : LogEntry) (w : Progress) : Progress :=
  if o.traceFilters then w.tell [entry] else w

/-- Measures on demand. -/
def measure (o : Options) (ms : List Metric) (w : Progress) : Progress :=
  if o.recordMetrics then w.count ms else w

/-- The progress behind a step, if what is written down is what the events of the step show. -/
def after (o : Options) (w : Progress) (t : Step) : Progress where
  state := t.state
  acts := w.acts ++ RequestPipeline.acts t.events
  log := w.log ++ o.log t.events
  metrics := w.metrics ++ o.metrics t.events

/-- What the events of a step show if nothing is written down before. -/
def shown (o : Options) (t : Step) : Progress := Progress.after o { state := t.state } t

section After

variable {o : Options} {w : Progress} {t : Step}

@[simp] theorem after_state : (w.after o t).state = t.state := rfl

theorem after_stay : w.after o (.stay w.state) = w := by
  simp [after, Options.log, Options.metrics]

/-- What the events of two steps show is written down one behind the other. -/
theorem after_after (u : Step) :
    (w.after o t).after o u = w.after o ⟨u.state, t.events ++ u.events⟩ := by
  cases hm : o.recordMetrics <;> simp [after, Options.log, Options.metrics, hm]

theorem after_andThen (next : State → Step) :
    (w.after o t).after o (next t.state) = w.after o (t.andThen next) :=
  after_after (next t.state)

@[simp] theorem shown_state : (shown o t).state = t.state := rfl

theorem after_shown (u : Step) :
    (shown o t).after o u = shown o ⟨u.state, t.events ++ u.events⟩ :=
  after_after u

theorem after_event (s : State) (e : Event) :
    w.after o ⟨s, [e]⟩ =
      { state := s
        acts := w.acts ++ if e.isAct then [e] else []
        log := w.log ++ e.log o
        metrics := w.metrics ++ if o.recordMetrics then e.measure else [] } := by
  cases ha : e.isAct <;> simp [after, RequestPipeline.acts, ha, Options.log, Options.metrics]

theorem trace_eq (entry : LogEntry) : w.trace o entry = w.tell (o.traced entry) := by
  cases ht : o.traceFilters <;> simp [trace, Options.traced, tell, ht]

theorem measure_eq (ms : List Metric) :
    w.measure o ms = w.count (if o.recordMetrics then ms else []) := by
  cases hm : o.recordMetrics <;> simp [measure, count, hm]

section Events

variable (e : Event) {entry : LogEntry} {entries : List LogEntry} {ms : List Metric}

/-- What is logged on demand is what an event shows that shows nothing else. -/
theorem trace_eq_event (hact : e.isAct = false) (hlog : e.log o = o.traced entry)
    (hmeasure : e.measure = []) (f : State → State) :
    (w.trace o entry).update f = w.after o ⟨f w.state, [e]⟩ := by
  rw [trace_eq, after_event, hact, hlog, hmeasure]
  simp [tell, update]

/-- What is logged, and measured on demand, is what an event shows in which nothing is done. -/
theorem measure_eq_event (hact : e.isAct = false) (hlog : e.log o = entries)
    (hmeasure : e.measure = ms) (f : State → State) :
    ((w.tell entries).measure o ms).update f = w.after o ⟨f w.state, [e]⟩ := by
  rw [measure_eq, after_event, hact, hlog, hmeasure]
  simp [tell, count, update]

/-- What is done is what an event shows of which nothing is written down. -/
theorem act_eq_event (hact : e.isAct = true) (hlog : e.log o = []) (hmeasure : e.measure = [])
    (f : State → State) : (w.act e).update f = w.after o ⟨f w.state, [e]⟩ := by
  rw [after_event, hact, hlog, hmeasure]
  simp [act, update]

end Events

end After

variable (o : Options) (ends : Ends) (ps : List Place)

/-! ## Places that ask the options -/

/-- A filter is about to be called. -/
def enter (cb : Callback) (p : Place) (w : Progress) : Progress :=
  (w.update fun s => { s with current := some p.index }).trace o
    (.line .debug "invoking filter"
      [("filter", p.name), ("phase", cb.logWord),
        ("order", toString p.registration.listing.order),
        ("scope", p.registration.listing.scope.word)])

/-- A filter ended the way inwards. -/
def shortCircuit (p : Place) (ph : Phase) (w : Progress) : Progress :=
  (w.tell [.line .info "filter short-circuited the pipeline"
    [("filter", p.name), ("phase", ph.word)]]).measure o
      [.counter "bastion_short_circuits_total" [("phase", ph.word)] 1]

/-- A fault is raised. -/
def raise (ph : Phase) (f : Fault) (w : Progress) : Progress :=
  (w.trace o (.line .debug "fault raised" [("phase", ph.word), ("error", f.message)])).update
    fun s => s.raise f ph

/-- The fault in flight is dropped if it is marked as handled. -/
def settle (w : Progress) : Progress :=
  let noted :=
    match w.state.pending with
    | some p =>
      if p.handled then
        (w.tell [.line .warn "fault handled by filter" [("phase", p.phase.word)]]).measure o
          [.fault p.phase true]
      else w
    | none => w
  -- the fault is dropped whether or not anything is written down of it
  noted.update fun s => (Step.settle s).state

section Places

variable {o} {w : Progress}

theorem shortCircuit_eq (p : Place) (ph : Phase) :
    w.shortCircuit o p ph = w.after o ⟨w.state, [.shortCircuited p.name ph]⟩ :=
  measure_eq_event (.shortCircuited p.name ph) rfl rfl rfl id

theorem raise_eq (ph : Phase) (f : Fault) : w.raise o ph f = w.after o (.raise f ph w.state) :=
  trace_eq_event (.raised ph f) rfl rfl rfl fun s => s.raise f ph

theorem settle_eq : w.settle o = w.after o (.settle w.state) := by
  rcases settle_cases w.state with ⟨hh, h⟩ | ⟨p, hp, hh, h⟩
  · -- nothing is written down, and the state stays as it is
    have hnoted (p : Pending) (hp : w.state.pending = some p) : p.handled = false := by
      simpa [State.handled, hp] using hh
    rw [h, after_stay]
    unfold settle
    cases hp : w.state.pending with
    | none => simp [update, h]
    | some p => simp [update, h, hnoted p hp]
  · simp only [settle, hp, hh, if_true]
    exact (measure_eq_event (.settled p.phase p.fault) rfl rfl rfl _).trans (by rw [h])

end Places

/-! ## Calls -/

/-- A filter is called in its place; its reply takes effect as far as the moment grants. -/
def visit (cb : Callback) (p : Place) (b : Behaviour) (w : Progress) :
    Option Fault × Progress :=
  let w := w.enter o cb p
  let reply := b ⟨Place.listings ps, w.state⟩
  -- what the filter itself logs is not asked of the options
  let called := w.act (.called cb p.index p.registration.listing w.state reply)
  (reply.fault, (called.tell (reply.remarks.flatMap Remark.log)).update fun s =>
    { s.grant cb reply with current := none })

/-- Filters are asked for their authorization. -/
def authorize : List (Place × Behaviour) → Progress → Verdict × Progress
  | [], w => (.admitted, w)
  | (p, b) :: rest, w =>
    match w.visit o ps .authorization p b with
    | (some fault, w) => (.faulted, w.raise o .authorization fault)
    | (none, w) =>
      if w.state.canceled then (.refused, w.shortCircuit o p .authorization)
      else w.authorize rest

/-- Filters are called on the way inwards; what comes of it are those that were entered, the
innermost first, and whether nothing ended the way. -/
def descend (l : Layer) : List (Place × Around) → Progress →
    (List (Place × Around) × Bool) × Progress
  | [], w => (([], true), w)
  | (p, a) :: rest, w =>
    match w.visit o ps l.before p a.before with
    | (some fault, w) => (([], false), w.raise o l.phase fault)
    | (none, w) =>
      -- the filter that ends the way has returned, so it is left again
      if l.stopped w.state then (([(p, a)], false), w.shortCircuit o p l.phase)
      else
        let d := w.descend l rest
        ((d.1.1 ++ [(p, a)], d.1.2), d.2)

/-- Filters are called on the way out. -/
def ascend (l : Layer) : List (Place × Around) → Progress → Progress
  | [], w => w
  | (p, a) :: rest, w =>
    match w.visit o ps l.after p a.after with
    | (some fault, w) => (w.raise o l.phase fault).ascend l rest
    | (none, w) => w.ascend l rest

/-- The fault in flight is shown to filters. -/
def showFault : List (Place × Behaviour) → Progress → Progress
  | [], w => w
  | (p, b) :: rest, w =>
    match w.visit o ps .exception p b with
    | (some fault, w) => w.raise o .exception fault
    | (none, w) => w.showFault rest

section Calls

variable {o ps} {w : Progress}

theorem visit_eq (cb : Callback) (p : Place) (b : Behaviour) :
    w.visit o ps cb p b =
      ((p.visit ps cb b w.state).fault, w.after o (p.visit ps cb b w.state).step) := by
  simp only [Place.visit, after_event]
  simp [visit, enter, trace_eq, act, tell, update, Event.isAct, Event.log, Event.measure,
    Place.name]

theorem authorize_eq (ms : List (Place × Behaviour)) :
    w.authorize o ps ms =
      let a := RequestPipeline.authorize ps ms w.state
      (a.verdict, w.after o a.step) := by
  -- what was written down before grows along the list
  induction ms generalizing w with
  | nil => simp [authorize, RequestPipeline.authorize, after_stay]
  | cons m ms ih =>
    obtain ⟨p, b⟩ := m
    simp only [authorize, RequestPipeline.authorize, visit_eq]
    cases hf : (p.visit ps .authorization b w.state).fault with
    | some fault => simp only [raise_eq, after_state, after_andThen]
    | none =>
      cases hc : (p.visit ps .authorization b w.state).step.state.canceled with
      | true =>
        simp only [after_state, hc, if_true, shortCircuit_eq]
        rw [← after_andThen]
      | false =>
        simp only [after_state, hc, Bool.false_eq_true, if_false, ih]
        rw [after_andThen (fun s => (RequestPipeline.authorize ps ms s).step)]
        rfl

theorem descend_eq (l : Layer) (ms : List (Place × Around)) :
    w.descend o ps l ms =
      let d := l.descend ps ms w.state
      ((d.entered, d.proceeds), w.after o d.step) := by
  induction ms generalizing w with
  | nil => simp [descend, Layer.descend, after_stay]
  | cons m ms ih =>
    obtain ⟨p, a⟩ := m
    simp only [descend, Layer.descend, visit_eq]
    cases hf : (p.visit ps l.before a.before w.state).fault with
    | some fault => simp only [raise_eq, after_state, after_andThen]
    | none =>
      cases hl : l.stopped (p.visit ps l.before a.before w.state).step.state with
      | true =>
        simp only [after_state, hl, if_true, shortCircuit_eq]
        rw [← after_andThen]
      | false =>
        simp only [after_state, hl, Bool.false_eq_true, if_false, ih]
        rw [after_andThen (fun s => (l.descend ps ms s).step)]
        rfl

theorem ascend_eq (l : Layer) (ms : List (Place × Around)) :
    w.ascend o ps l ms = w.after o (l.ascend ps ms w.state) := by
  induction ms generalizing w with
  | nil => simp [ascend, Layer.ascend, after_stay]
  | cons m ms ih =>
    obtain ⟨p, a⟩ := m
    simp only [ascend, Layer.ascend, visit_eq]
    cases (p.visit ps l.after a.after w.state).fault with
    | some fault =>
      simp only [raise_eq, ih, after_state, after_andThen (.raise fault l.phase)]
      exact after_andThen (l.ascend ps ms)
    | none => simp only [ih, after_state, after_andThen (l.ascend ps ms)]

theorem showFault_eq (ms : List (Place × Behaviour)) :
    w.showFault o ps ms = w.after o (RequestPipeline.showFault ps ms w.state) := by
  induction ms generalizing w with
  | nil => simp [showFault, RequestPipeline.showFault, after_stay]
  | cons m ms ih =>
    obtain ⟨p, b⟩ := m
    simp only [showFault, RequestPipeline.showFault, visit_eq]
    cases (p.visit ps .exception b w.state).fault with
    | some fault => simp only [raise_eq, after_state, after_andThen]
    | none => simp only [ih, after_state, after_andThen (RequestPipeline.showFault ps ms)]

end Calls

/-! ## Phases -/

/-- The action is invoked, unless the request has been cancelled. -/
def invokeAction (w : Progress) : Except Fault Answer × Progress :=
  let w := w.trace o (.line .debug "invoking action" [])
  match w.state.call.interruption? with
  | some fault => (.error fault, w)
  | none =>
    (ends.invocation w.state.call,
      (w.act (.invoked w.state.call)).update fun s => { s with call := ends.callBehind s.call })

/-- The answer of the action becomes the result. -/
def perform (w : Progress) : Progress :=
  match w.invokeAction o ends with
  | (.ok answer, w) => w.update fun s => { s with result := some answer }
  | (.error fault, w) => w.raise o .action fault

/-- The result is rendered. -/
def write (w : Progress) : Progress :=
  let answer := w.state.result.getD .empty
  let behind := (w.act (.rendered answer)).update ends.written
  match (ends.render w.state.call answer).fault with
  | some fault => behind.raise o .render fault
  | none => behind

/-- The result is rendered past the filters around rendering. -/
def writeDirectly (w : Progress) : Progress :=
  ((w.trace o (.line .debug "rendering outside the result phase" [])).write o ends).settle o

/-- The result is rendered past them if nothing is in flight and it is not done. -/
def writeMissing (w : Progress) : Progress :=
  if w.state.pending.isNone && !w.state.renderDone then w.writeDirectly o ends else w

/-- A phase around something inner. -/
def surround (l : Layer) (inner : Progress → Progress) (w : Progress) : Progress :=
  match w.descend o ps l (l.members ps) with
  | ((entered, proceeds), w) =>
    ((if proceeds then inner w else w).ascend o ps l entered).settle o

/-- Rendering and the filters around it, unless a fault is in flight. -/
def resultPhase (w : Progress) : Progress :=
  if w.state.pending.isNone then w.surround o ps .result (write o ends) else w

/-- A fault in flight is shown to filters. -/
def exceptionPhase (w : Progress) : Progress :=
  if w.state.pending.isSome then
    ((w.showFault o ps (Place.handlers ps)).settle o).writeMissing o ends
  else w

/-- The part of a run whose faults are shown to filters. -/
def core (w : Progress) : Progress :=
  ((w.surround o ps .action (perform o ends)).resultPhase o ends ps).exceptionPhase o ends ps

/-- What lies inside the outermost filters. -/
def inside (w : Progress) : Progress :=
  if w.state.pending.isSome then w
  else if w.state.canceled then w.writeDirectly o ends
  else w.core o ends ps

/-- Everything behind authorization. -/
def resourcePhase (w : Progress) : Progress :=
  match w.descend o ps .resource (Layer.resource.members ps) with
  | ((entered, _), w) =>
    (((w.inside o ends ps).ascend o ps .resource entered).settle o).writeMissing o ends

/-- A run up to its last state. -/
def proceed (w : Progress) : Progress :=
  match w.state.call.interruption? with
  | some fault => w.raise o .authorization fault
  | none =>
    match w.authorize o ps (Place.authorizers ps) with
    | (.faulted, w) => w
    | (.refused, w) => w.writeDirectly o ends
    | (.admitted, w) => w.resourcePhase o ends ps

section Phases

variable {o ends ps} {w : Progress}

theorem trace_invoking :
    w.trace o (.line .debug "invoking action" []) = w.after o ⟨w.state, [.invoking]⟩ :=
  trace_eq_event .invoking rfl rfl rfl id

theorem invokeAction_of_interrupted {f : Fault} (hi : w.state.call.interruption? = some f) :
    w.invokeAction o ends = (.error f, w.after o ⟨w.state, [.invoking]⟩) := by
  simp only [invokeAction, trace_invoking, after_state, hi]

theorem invokeAction_of_active (hi : w.state.call.interruption? = none) :
    w.invokeAction o ends =
      (ends.invocation w.state.call,
        w.after o ⟨{ w.state with call := ends.callBehind w.state.call },
          [.invoking, .invoked w.state.call]⟩) := by
  have hinvoked (f : State → State) :
      ((w.after o ⟨w.state, [.invoking]⟩).act (.invoked w.state.call)).update f =
        w.after o ⟨f w.state, [.invoking, .invoked w.state.call]⟩ :=
    (act_eq_event (.invoked w.state.call) rfl rfl rfl f).trans (after_after _)
  simp only [invokeAction, trace_invoking, after_state, hi, hinvoked]

theorem perform_eq : w.perform o ends = w.after o (ends.perform w.state) := by
  rcases perform_cases ends w.state with ⟨f, hi, h⟩ | ⟨hi, f, hinvoked, h⟩ | ⟨hi, a, hinvoked, h⟩
  · simp only [perform, invokeAction_of_interrupted hi, raise_eq, after_after, h]
    rfl
  · simp only [perform, invokeAction_of_active hi, hinvoked, raise_eq, after_after, h]
    rfl
  · simp only [perform, invokeAction_of_active hi, hinvoked, h]
    rfl

theorem write_eq : w.write o ends = w.after o (ends.write w.state) := by
  have hwrite (a : Answer) (f : State → State) :
      (w.act (.rendered a)).update f = w.after o ⟨f w.state, [.rendered a]⟩ :=
    act_eq_event (.rendered a) rfl rfl rfl f
  rcases write_cases ends w.state with ⟨f, hf, h⟩ | ⟨hf, h⟩
  · simp only [write, hf, h, hwrite, raise_eq, after_after]
    rfl
  · simp only [write, hf, h, hwrite]

theorem writeDirectly_eq : w.writeDirectly o ends = w.after o (ends.writeDirectly w.state) := by
  have htrace : w.trace o (.line .debug "rendering outside the result phase" []) =
      w.after o ⟨w.state, [.renderingDirectly]⟩ :=
    trace_eq_event .renderingDirectly rfl rfl rfl id
  rw [writeDirectly, htrace, write_eq, settle_eq]
  simp only [after_state, after_after]
  rfl

theorem writeMissing_eq : w.writeMissing o ends = w.after o (ends.writeMissing w.state) := by
  unfold writeMissing Ends.writeMissing
  split
  · exact writeDirectly_eq
  · exact after_stay.symm

/-- A phase is watched as a whole if what it surrounds is. -/
theorem surround_eq {l : Layer} {inner : Progress → Progress} {f : State → Step}
    (hinner : ∀ w : Progress, inner w = w.after o (f w.state)) :
    w.surround o ps l inner = w.after o (l.surround ps f w.state) := by
  have hreached (d : Descent) :
      (if d.proceeds then inner (w.after o d.step) else w.after o d.step) =
        w.after o (d.step.andThen fun s => if d.proceeds then f s else .stay s) := by
    -- what is skipped writes nothing down
    cases d.proceeds with
    | true => simp only [if_true, hinner, after_state, after_andThen f]
    | false =>
      simp only [Bool.false_eq_true, if_false]
      rw [Step.andThen_stay]
  simp only [surround, descend_eq, hreached, ascend_eq, settle_eq, after_state, after_after]
  rfl

theorem resultPhase_eq : w.resultPhase o ends ps = w.after o (ends.resultPhase ps w.state) := by
  unfold resultPhase Ends.resultPhase
  split
  · exact surround_eq fun _ => write_eq
  · exact after_stay.symm

theorem exceptionPhase_eq :
    w.exceptionPhase o ends ps = w.after o (ends.exceptionPhase ps w.state) := by
  unfold exceptionPhase Ends.exceptionPhase
  split
  · rw [showFault_eq, settle_eq, writeMissing_eq]
    simp only [after_state, after_after]
    rfl
  · exact after_stay.symm

theorem core_eq : w.core o ends ps = w.after o (ends.core ps w.state) := by
  rw [core, surround_eq fun _ => perform_eq, resultPhase_eq, exceptionPhase_eq]
  simp only [after_state, after_after]
  rfl

theorem inside_eq : w.inside o ends ps = w.after o (ends.inside ps w.state) := by
  unfold inside Ends.inside
  split
  · exact after_stay.symm
  · split
    · exact writeDirectly_eq
    · exact core_eq

theorem resourcePhase_eq :
    w.resourcePhase o ends ps = w.after o (ends.resourcePhase ps w.state) := by
  simp only [resourcePhase, descend_eq, inside_eq, ascend_eq, settle_eq, writeMissing_eq,
    after_state, after_after]
  rfl

theorem proceed_eq : w.proceed o ends ps = w.after o (ends.proceed ps w.state) := by
  cases hi : w.state.call.interruption? with
  | some fault => simp only [proceed, Ends.proceed, hi, raise_eq]
  | none =>
    cases hv : (RequestPipeline.authorize ps (Place.authorizers ps) w.state).verdict with
    | admitted =>
      simp only [proceed, Ends.proceed, hi, authorize_eq, hv, resourcePhase_eq, after_state,
        after_andThen (ends.resourcePhase ps)]
    | refused =>
      simp only [proceed, Ends.proceed, hi, authorize_eq, hv, writeDirectly_eq, after_state,
        after_andThen ends.writeDirectly]
    | faulted => simp only [proceed, Ends.proceed, hi, authorize_eq, hv]

end Phases

/-! ## Runs -/

/-- The run ends: a fault that is still in flight makes it fail. -/
def finish (w : Progress) : Except Failure Outcome × Progress :=
  match w.state.pending with
  | some p =>
    let noted := w.tell [.line .error "unhandled fault"
      [("phase", p.phase.word), ("error", p.fault.message)]]
    (.error (.unhandled w.state.call.action.displayName p.fault),
      (noted.measure o [.fault p.phase false]).update fun s => { s with pending := none })
  | none => (.ok w.state.outcome, w)

/-- A request is run. A state that has been run is refused. -/
def run (w : Progress) : Except Failure Outcome × Progress :=
  if w.state.executed then (.error (.contextReused w.state.call.id), w)
  else
    let action := w.state.call.action.displayName
    let opened := (w.update fun s => { s with executed := true }).tell
      [.span "filter_pipeline"
        [("request_id", w.state.call.id.text), ("action", action), ("filters", toString ps.length)]]
    let (outcome, ended) := (opened.proceed o ends ps).finish o
    (outcome, ended.measure o
      [.counter "bastion_pipeline_executions_total"
          [("action", action), ("outcome", (Ending.of outcome).word)] 1,
        .duration "bastion_pipeline_duration_seconds" [("action", action)]])

section Runs

variable {o ends ps} {w : Progress}

theorem finish_eq {t : Step} :
    (w.after o t).finish o =
      (t.finish.outcome, w.after o ⟨t.finish.state, t.finish.events⟩) := by
  cases hp : t.state.pending with
  | none => simp only [finish, Step.finish, after_state, hp]
  | some p =>
    have habandon (v : Progress) (f : State → State) :
        ((v.tell [.line .error "unhandled fault"
          [("phase", p.phase.word), ("error", p.fault.message)]]).measure o
            [.fault p.phase false]).update f =
          v.after o ⟨f v.state, [.abandoned p.phase p.fault]⟩ :=
      measure_eq_event (.abandoned p.phase p.fault) rfl rfl rfl f
    simp only [finish, Step.finish, after_state, hp, habandon, after_after]

theorem finish_proceed_eq :
    (w.proceed o ends ps).finish o =
      let r := (ends.proceed ps w.state).finish
      (r.outcome, w.after o ⟨r.state, r.events⟩) := by
  rw [proceed_eq, finish_eq]

/-- What is written down of a run on the way is what its events show behind it. -/
theorem run_eq :
    w.run o ends ps =
      let r := RequestPipeline.run ends ps w.state
      (r.outcome, w.after o ⟨r.state, r.events⟩) := by
  cases hx : w.state.executed with
  | true =>
    -- a refused run leaves no trace
    simp only [run, RequestPipeline.run, hx, if_true]
    exact congrArg _ after_stay.symm
  | false =>
    have hopen (f : State → State) (action : String) :
        (w.update f).tell [.span "filter_pipeline"
          [("request_id", w.state.call.id.text), ("action", action),
            ("filters", toString ps.length)]] =
          w.after o ⟨f w.state, [.opened w.state.call.id action ps.length]⟩ := by
      rw [after_event]
      simp [tell, update, Event.isAct, Event.log, Event.measure]
    have hend (v : Progress) (action : String) (ending : Ending) :
        v.measure o [.counter "bastion_pipeline_executions_total"
            [("action", action), ("outcome", ending.word)] 1,
          .duration "bastion_pipeline_duration_seconds" [("action", action)]] =
          v.after o ⟨v.state, [.finished action ending]⟩ := by
      rw [measure_eq, after_event]
      simp [count, Event.isAct, Event.log, Event.measure]
    simp only [run, RequestPipeline.run, hx, Bool.false_eq_true, if_false, finish_proceed_eq, hend,
      hopen, after_state, after_after]
    rfl

end Runs

end Progress

/-! ## Pipelines -/

namespace Pipeline

/-- Runs the request of a context while it is watched. -/
def watchRun (p : Pipeline) (c : Context) (ends : Ends) : Except Failure Outcome × Progress :=
  Progress.run p.options ends c.places { state := c.state }

/-- Prepares and runs a request while it is watched. -/
def watch (p : Pipeline) (plan : Plan) (call : Call) (ends : Ends) :
    Except Failure Outcome × Progress :=
  let prepared := p.prepare plan call
  let told := Progress.shown p.options ⟨.initial call, prepared.events⟩
  match prepared.outcome with
  | .error e => (.error e, told)
  | .ok c => (told.update fun _ => c.state).run p.options ends c.places

/-- The state in which a request is left. -/
def lastState (p : Pipeline) (plan : Plan) (call : Call) (ends : Ends) : State :=
  match (p.prepare plan call).outcome with
  | .error _ => .initial call
  | .ok c => (run ends c.places c.state).state

variable (p : Pipeline) (ends : Ends)

theorem watchRun_eq (c : Context) :
    p.watchRun c ends =
      let r := (c.run ends).1
      (r.outcome, .shown p.options ⟨r.state, r.events⟩) := by
  rw [watchRun, Progress.run_eq]
  rfl

theorem watch_eq (plan : Plan) (call : Call) :
    p.watch plan call ends =
      let ran := p.execute plan call ends
      (ran.2, .shown p.options ⟨p.lastState plan call ends, ran.1⟩) := by
  cases hp : (p.prepare plan call).outcome with
  | error e => simp only [watch, execute, lastState, hp]
  | ok c =>
    have htold : (Progress.shown p.options ⟨.initial call, (p.prepare plan call).events⟩).update
        (fun _ => c.state) = .shown p.options ⟨c.state, (p.prepare plan call).events⟩ := rfl
    simp only [watch, execute, lastState, hp, Progress.run_eq, htold, Progress.shown_state,
      Progress.after_shown]

end Pipeline

/-- Two requests that are watched come to the same, and what is measured depends on nothing but
whether it is. -/
structure SameCourse (record record' : Bool) (x y : Except Failure Outcome × Progress) : Prop where
  outcome : x.1 = y.1
  state : x.2.state = y.2.state
  acts : x.2.acts = y.2.acts
  metrics : record = record' → x.2.metrics = y.2.metrics
  unmeasured : record = false → x.2.metrics = []

/-- What the same events show under two sets of options. -/
theorem sameCourse_shown (trace trace' record record' : Bool) (required : List Marker)
    (ended : Except Failure Outcome) (t : Step) :
    SameCourse record record' (ended, .shown ⟨trace, record, required⟩ t)
      (ended, .shown ⟨trace', record', required⟩ t) where
  outcome := rfl
  state := rfl
  acts := rfl
  metrics := by
    rintro rfl
    rfl
  unmeasured := by
    rintro rfl
    rfl

/-- Of two pipelines that differ in what they write down, whether that is the calls of filters or
measurements, a request is carried out alike: the same filters are called in the same states, the
action is invoked and results are rendered alike, and the request is left in the same state with the
same outcome. What is measured does not depend on what is traced. All this is the run of the request
as it is without being watched. -/
theorem watch_same (resolver : Resolver) (required : List Marker)
    (trace trace' record record' : Bool) :
    let p : Pipeline := ⟨⟨trace, record, required⟩, resolver⟩
    let q : Pipeline := ⟨⟨trace', record', required⟩, resolver⟩
    (∀ (c : Context) (ends : Ends),
      let r := (c.run ends).1
      p.watchRun c ends = (r.outcome, .shown p.options ⟨r.state, r.events⟩) ∧
        SameCourse record record' (p.watchRun c ends) (q.watchRun c ends)) ∧
    ∀ (plan : Plan) (call : Call) (ends : Ends),
      let ran := p.execute plan call ends
      p.watch plan call ends =
          (ran.2, .shown p.options ⟨p.lastState plan call ends, ran.1⟩) ∧
        SameCourse record record' (p.watch plan call ends) (q.watch plan call ends) := by
  intro p q
  constructor
  · intro c ends
    have hp := p.watchRun_eq ends c
    refine ⟨hp, ?_⟩
    rw [hp, q.watchRun_eq]
    exact sameCourse_shown ..
  · intro plan call ends
    have hp := p.watch_eq ends plan call
    refine ⟨hp, ?_⟩
    rw [hp, q.watch_eq]
    -- neither preparing nor running looks at what is written down
    exact sameCourse_shown ..

end RequestPipeline
