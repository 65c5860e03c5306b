import RequestPipeline.Proofs.Run.Accounts
import RequestPipeline.Proofs.Run.Gate
import RequestPipeline.Proofs.Run.Layout

/-!
# Accounts of ended ways inwards

A filter that answers a request in place of what lies further in leaves a mark on the run, and so
does one that keeps the result from being rendered. The way inwards is counted as ended only if the
filter raises no fault in the same call: the fault goes first, but the mark stays. So each mark is
made by one call (`marked_run`), which is counted or forfeited (`length_calls`), and the marks of a
run that succeeds agree with what is counted unless a call was forfeited (`run_accounts_halts`).

That no mark is made twice is because no filter is called on a way inwards that has ended
(`not_stopped_of_called`).
-/

set_option autoImplicit false

namespace RequestPipeline

/-! ## Calls that end the way inwards -/

/-- The filter answers the request in place of what lies further in. -/
def Entry.answers (e : Entry) : Bool := e.callback.endsWithResult && e.reply.result.isSome

/-- The filter keeps the result from being rendered. -/
def Entry.silences (e : Entry) : Bool := e.callback.changesResult && e.reply.suppress

/-- The filters called in a trace that do something, in order. -/
def calls (does : Entry → Bool) (es : List Event) : List Entry :=
  (es.filterMap Event.entry?).filter does

/-- The calls in a trace that do something and are lost, because the filter raises a fault. -/
def forfeited (does : Entry → Bool) (es : List Event) : List Entry :=
  calls (fun e => does e && !e.returned) es

/-- Where an event says that the way inwards was ended. -/
def Event.halted? : Event → Option Phase
  | .shortCircuited _ ph => some ph
  | _ => none

/-- Where the way inwards was ended in a trace, in order. -/
def haltings (es : List Event) : List Phase := es.filterMap Event.halted?

theorem mem_calls {does : Entry → Bool} {es : List Event} {e : Entry} :
    e ∈ calls does es ↔ e ∈ entries e.callback es ∧ does e = true := by
  simp [calls, entries]

@[simp] theorem calls_append (does : Entry → Bool) (es fs : List Event) :
    calls does (es ++ fs) = calls does es ++ calls does fs := by
  simp [calls]

@[simp] theorem haltings_append (es fs : List Event) :
    haltings (es ++ fs) = haltings es ++ haltings fs := by
  simp [haltings]

theorem haltings_cons (x : Event) (es : List Event) :
    haltings (x :: es) = x.halted?.toList ++ haltings es := by
  cases h : x.halted? <;> simp [haltings, h]

/-- What is done is done by calls that are lost and by calls that are not. -/
theorem length_calls (does : Entry → Bool) (es : List Event) :
    (calls does es).length =
      (calls (fun e => does e && e.returned) es).length + (forfeited does es).length := by
  simp only [forfeited, calls, ← List.countP_eq_length_filter]
  rw [List.countP_eq_countP_filter_add _ does Entry.returned, List.countP_filter,
    List.countP_filter]

/-! ## No call behind the end of the way -/

section Open

variable {ps : List Place} {cb : Callback} {ms : List (Place × Behaviour)} {s : State}

/-- The filters of a passage are called while the way inwards has not ended. -/
theorem not_stopped_of_mem_advance (hs : cb.stopped s = false) :
    ∀ e ∈ entries cb (advance ps cb ms s).step.events, cb.stopped e.before = false := by
  induction ms generalizing s with
  | nil => simp [advance]
  | cons m ms ih =>
    obtain ⟨p, b⟩ := m
    by_cases hv : (p.entry ps cb b s).verdict = .admitted
    · rw [advance_cons_of_admitted hv, Step.andThen_events, entries_append, Entry.entries_step]
      intro e he
      rcases List.mem_append.mp he with he | he
      · obtain rfl : e = p.entry ps cb b s := by simpa using he
        exact hs
      · exact ih (stopped_of_admitted hs hv) e he
    · rw [advance_cons_of_not_admitted hv, Entry.entries_step]
      intro e he
      obtain rfl : e = p.entry ps cb b s := by simpa using he
      exact hs

end Open

section Runs

variable (ends : Ends) {ps : List Place} (call : Call)

/-- The entries of a run in front of rendering are those of a passage on a way that has not
ended. -/
theorem not_stopped_of_mem_resultBefore :
    ∀ e ∈ entries .resultBefore (run ends ps (.initial call)).events,
      Callback.resultBefore.stopped e.before = false := by
  intro e he
  have h := reached_of_called ends (by decide) (by decide) he
  by_cases hfree : (ends.throughAction ps call).state.pending = none
  · rw [entries_resultBefore_run h hfree] at he
    refine not_stopped_of_mem_advance ?_ e he
    exact (Layer.result.stopped_eq _).symm.trans
      (suppressed_actionPhase ends ps (State.atCore_open ends h))
  · -- with a fault in flight there is no rendering
    have habsent : entries .resultBefore (run ends ps (.initial call)).events = [] :=
      (result_absent ends ps call h hfree).1
    simp [habsent] at he

/-- No filter is called on a way inwards that has ended. -/
theorem not_stopped_of_called {cb : Callback} {e : Entry}
    (he : e ∈ entries cb (run ends ps (.initial call)).events) : cb.stopped e.before = false := by
  cases cb with
  | authorization =>
    rw [entries_authorization_run ends (not_cancelled_of_called ends he)] at he
    exact not_stopped_of_mem_advance (Callback.stopped_authorization _) e he
  | resourceBefore =>
    have h := authorized_of_called ends (by decide) he
    have hopen := State.authorized_open ((authorized_run_iff ends).mp h).2
    rw [entries_resourceBefore_run ends h] at he
    exact not_stopped_of_mem_advance ((Layer.resource.stopped_eq _).symm.trans hopen.active) e he
  | actionBefore =>
    have h := reached_of_called ends (by decide) (by decide) he
    rw [entries_actionBefore_run h] at he
    exact not_stopped_of_mem_advance
      ((Layer.action.stopped_eq _).symm.trans (State.atCore_open ends h).active) e he
  | resultBefore => exact not_stopped_of_mem_resultBefore ends call e he
  | resourceAfter => exact Layer.resource.after_stopped _
  | actionAfter => exact Layer.action.after_stopped _
  | resultAfter => exact Layer.result.after_stopped _
  | exception => exact Callback.stopped_exception _

end Runs

/-! ## Marks -/

/-- A mark that a state bears once a filter has done something. -/
structure MarkedBy (does : Entry → Bool) (mark : State → Bool) : Prop where
  /-- A call leaves the mark if the filter does it. -/
  called : ∀ e : Entry, mark e.granted = (mark e.before || does e)
  /-- It is no matter which filter is being called. -/
  entered : ∀ s i, mark { s with current := i } = mark s
  /-- Nothing but a call leaves it. -/
  frame : ∀ {ends ps s x t}, Tick ends ps s x t → x.entry? = none → mark t = mark s

theorem markedBy_answers : MarkedBy Entry.answers State.canceled where
  called _ := rfl
  entered _ _ := rfl
  frame h hx := by
    cases h with
    | call => simp [Entry.event, Event.entry?] at hx
    | _ => rfl

theorem markedBy_silences : MarkedBy Entry.silences State.suppressed where
  called _ := rfl
  entered _ _ := rfl
  frame h hx := by
    cases h with
    | call => simp [Entry.event, Event.entry?] at hx
    | _ => rfl

theorem calls_cons_event (does : Entry → Bool) (e : Entry) (es : List Event) :
    calls does (e.event :: es) = (if does e then [e] else []) ++ calls does es := by
  cases h : does e <;> simp [calls, Entry.event, Event.entry?, h]

theorem calls_cons_of_none (does : Entry → Bool) {x : Event} (h : x.entry? = none)
    (es : List Event) : calls does (x :: es) = calls does es := by
  simp [calls, h]

/-- A mark that no call finds already there is left by one call, or by none. -/
theorem Ticks.marked {does : Entry → Bool} {mark : State → Bool} (hm : MarkedBy does mark)
    {ends : Ends} {ps : List Place} {s t : State} {es : List Event} (h : Ticks ends ps s es t)
    (hnew : ∀ e ∈ calls does es, mark e.before = false) :
    (mark t).toNat = (mark s).toNat + (calls does es).length := by
  induction h with
  | nil => rfl
  | @cons s t u x es tick _ ih =>
    cases hx : x.entry? with
    | none =>
      rw [calls_cons_of_none does hx] at hnew ⊢
      rw [ih hnew, hm.frame tick hx]
    | some e =>
      -- a tick that shows an entry is the call of the filter
      cases tick with
      | @call p cb b s =>
        rw [calls_cons_event] at hnew ⊢
        have hbefore := hm.entered s (some p.index)
        rw [ih fun e he => hnew e (List.mem_append_right _ he), hm.called]
        cases hd : does (p.entry ps cb b s) with
        | false => simp [hbefore]
        | true =>
          have hfresh : mark s = false := hbefore ▸ hnew (p.entry ps cb b s) (by simp [hd])
          simp [hbefore, hfresh, Nat.add_comm]
      | _ => simp [Event.entry?] at hx

/-! ## Counted calls -/

/-- What is counted is counted where a filter returns. -/
def Entry.counted (e : Entry) : Bool := e.returned && e.halts

@[simp] theorem Entry.haltings_step (e : Entry) :
    haltings e.step.events = if e.counted then [e.callback.phase] else [] := by
  cases hv : e.verdict with
  | admitted =>
    have hcounted : e.counted = false := by
      have hp := Entry.verdict_eq_admitted.mp hv
      simp_all [counted, passed]
    rw [Entry.step_of_admitted hv, hcounted]
    rfl
  | refused =>
    have hcounted : e.counted = true := by
      rw [counted, Bool.and_eq_true]
      exact Entry.verdict_eq_refused.mp hv
    rw [Entry.step_of_refused hv, hcounted]
    rfl
  | faulted =>
    have hr := Entry.verdict_eq_faulted.mp hv
    have hcounted : e.counted = false := by simp [counted, hr]
    obtain ⟨f, hf⟩ : ∃ f, e.reply.fault = some f := by
      simpa [returned, Option.isSome_iff_exists] using hr
    rw [Entry.step_of_fault hf, hcounted]
    rfl

@[simp] theorem Entry.calls_step (does : Entry → Bool) (e : Entry) :
    calls does e.step.events = if does e then [e] else [] := by
  rcases e.step_cases with ⟨f, -, h⟩ | ⟨-, h⟩ | ⟨-, h⟩ <;> rw [h, calls_cons_event]
  · rw [calls_cons_of_none does rfl]
    exact List.append_nil _
  · rw [calls_cons_of_none does rfl]
    exact List.append_nil _
  · exact List.append_nil _

/-- Between calls nothing ends the way inwards. -/
theorem Move.silent {ends : Ends} {ps : List Place} {s : State} {t : Step} (h : Move ends ps s t) :
    (∃ e : Entry, t = e.step) ∨ ∀ x ∈ t.events, x.entry? = none ∧ x.halted? = none := by
  cases h with
  | call => exact .inl ⟨_, rfl⟩
  | perform =>
    right
    rcases perform_cases ends s with ⟨f, -, h⟩ | ⟨-, f, -, h⟩ | ⟨-, a, -, h⟩ <;> rw [h] <;>
      simp [Event.entry?, Event.halted?]
  | announce => simp [Event.entry?, Event.halted?]
  | write =>
    right
    rcases write_cases ends s with ⟨f, -, h⟩ | ⟨-, h⟩ <;> rw [h] <;>
      simp [Event.entry?, Event.halted?]
  | settle =>
    right
    rcases settle_cases s with ⟨-, h⟩ | ⟨p, -, -, h⟩ <;> rw [h] <;>
      simp [Event.entry?, Event.halted?]

section Courses

variable {ends : Ends} {ps : List Place} {s : State} {t : Step}

/-- The way inwards is ended by the calls that are counted. -/
theorem Move.haltings_eq (h : Move ends ps s t) :
    haltings t.events = (calls Entry.counted t.events).map fun e => e.callback.phase := by
  rcases h.silent with ⟨e, rfl⟩ | hsilent
  · cases hc : e.counted <;> simp [hc]
  · rw [haltings, calls, List.filterMap_eq_nil_iff.mpr fun x hx => (hsilent x hx).2,
      List.filterMap_eq_nil_iff.mpr fun x hx => (hsilent x hx).1]
    rfl

theorem Course.haltings_eq (h : Course ends ps s t) :
    haltings t.events = (calls Entry.counted t.events).map fun e => e.callback.phase := by
  induction h with
  | stay => rfl
  | move h => exact h.haltings_eq
  | andThen h₁ h₂ ih₁ ih₂ =>
    rw [Step.andThen_events, haltings_append, calls_append, List.map_append, ih₁, ih₂]

end Courses

/-- The events around a run are no calls. -/
theorem Event.entry?_of_isBorder {x : Event} (h : x.isBorder = true) : x.entry? = none := by
  cases x <;> simp_all [isBorder, isClosing, entry?]

theorem Event.halted?_of_isBorder {x : Event} (h : x.isBorder = true) : x.halted? = none := by
  cases x <;> simp_all [isBorder, isClosing, halted?]

section Runs

variable (ends : Ends) (ps : List Place) (call : Call)

theorem calls_run (does : Entry → Bool) :
    calls does (run ends ps (.initial call)).events =
      calls does (ends.proceed ps (.begun call)).events := by
  rw [calls, calls, filterMap_run ends ps call fun x => Event.entry?_of_isBorder]

theorem haltings_run :
    haltings (run ends ps (.initial call)).events =
      (calls Entry.counted (run ends ps (.initial call)).events).map fun e => e.callback.phase := by
  rw [calls_run, haltings, filterMap_run ends ps call fun x => Event.halted?_of_isBorder]
  cases hc : call.cancelled with
  | true =>
    rw [proceed_of_cancelled ends hc]
    rfl
  | false =>
    exact (course_proceed ends ps (State.interruption_begun hc) (State.begun_open call)).haltings_eq

/-- The mark of a run is left by one call, or by none. -/
theorem marked_run {does : Entry → Bool} {mark : State → Bool} (hm : MarkedBy does mark)
    (hstart : mark (.begun call) = false)
    (hnew : ∀ e ∈ calls does (run ends ps (.initial call)).events, mark e.before = false) :
    (mark (ends.proceed ps (.begun call)).state).toNat =
      (calls does (run ends ps (.initial call)).events).length := by
  rw [calls_run] at hnew ⊢
  simpa [hstart] using (ticks_proceed ends ps (State.begun_open call)).marked hm hnew

theorem canceled_run :
    (ends.proceed ps (.begun call)).state.canceled.toNat =
      (calls Entry.answers (run ends ps (.initial call)).events).length := by
  refine marked_run ends ps call markedBy_answers rfl fun e he => ?_
  obtain ⟨hmem, hdoes⟩ := mem_calls.mp he
  rw [Entry.answers, Bool.and_eq_true] at hdoes
  exact (Callback.stopped_eq_canceled hdoes.1 _).symm.trans (not_stopped_of_called ends call hmem)

theorem silenced_run :
    (ends.proceed ps (.begun call)).state.suppressed.toNat =
      (calls Entry.silences (run ends ps (.initial call)).events).length := by
  refine marked_run ends ps call markedBy_silences rfl fun e he => ?_
  obtain ⟨hmem, hdoes⟩ := mem_calls.mp he
  have hstopped := not_stopped_of_called ends call hmem
  simp_all [Entry.silences, Callback.stopped]

end Runs

/-! ## What is counted -/

namespace Metric

/-- A way inwards is counted as ended in one of some phases. -/
def countsHalt (phases : List Phase) (m : Metric) : Bool :=
  m.name == "bastion_short_circuits_total" &&
    phases.any fun ph => m.labels.lookup "phase" == some ph.word

/-- A run is counted with an ending. -/
def countsRun (ending : Ending) (m : Metric) : Bool :=
  m.name == "bastion_pipeline_executions_total" &&
    m.labels.lookup "outcome" == some ending.word

end Metric

theorem Phase.word_injective {ph ph' : Phase} (h : ph.word = ph'.word) : ph = ph' := by
  cases ph <;> cases ph' <;> simp_all [word]

theorem Ending.word_injective {x y : Ending} (h : x.word = y.word) : x = y := by
  cases x <;> cases y <;> simp_all [word]

section Metrics

variable {o : Options} (ho : o.recordMetrics = true)

include ho

/-- The way inwards is counted as ended as often as it is. -/
theorem Options.countP_halts (es : List Event) (phases : List Phase) :
    (o.metrics es).countP (Metric.countsHalt phases) =
      (haltings es).countP (phases.contains ·) := by
  simp only [metrics, ho, if_true]
  induction es with
  | nil => rfl
  | cons e es ih =>
    rw [List.flatMap_cons, List.countP_append, ih, haltings_cons, List.countP_append]
    congr 1
    cases e with
    | shortCircuited name ph =>
      have hany : (phases.any fun ph' => ph.word == ph'.word) = phases.contains ph := by
        rw [List.contains_eq_any_beq]
        congr 1
        funext ph'
        rw [Bool.eq_iff_iff, beq_iff_eq, beq_iff_eq]
        exact ⟨Phase.word_injective, congrArg _⟩
      simp [Event.measure, Event.halted?, Metric.countsHalt, Metric.name, Metric.labels, hany]
    | _ => simp [Event.measure, Event.halted?, Metric.countsHalt, Metric.name, Metric.fault]

/-- A run is counted with its ending, and with no other. -/
theorem Options.exists_countsRun (ends : Ends) (ps : List Place) (call : Call) (ending : Ending) :
    (∃ m ∈ o.metrics (run ends ps (.initial call)).events, m.countsRun ending = true) ↔
      Ending.of (run ends ps (.initial call)).outcome = ending := by
  obtain ⟨front, hmetrics, hfront⟩ := metrics_run ends ps call ho
  have hcounter (x : Ending) (action : String) :
      (Metric.counter "bastion_pipeline_executions_total"
        [("action", action), ("outcome", x.word)] 1).countsRun ending = true ↔ x = ending := by
    have hlabel : ("outcome" == "action") = false := by decide
    simp only [Metric.countsRun, Metric.name, Metric.labels, List.lookup_cons, hlabel]
    simpa using ⟨Ending.word_injective, congrArg Ending.word⟩
  have hduration (action : String) : (Metric.duration "bastion_pipeline_duration_seconds"
      [("action", action)]).countsRun ending = false := by simp [Metric.countsRun, Metric.name]
  rw [hmetrics, ← hcounter _ call.action.displayName]
  constructor
  · rintro ⟨m, hm, hcounts⟩
    rcases List.mem_append.mp hm with hm | hm
    · -- what stands in front counts no run
      have hends := hfront m hm
      simp_all [Metric.countsRun, Metric.endsRun]
    · rcases List.mem_cons.mp hm with rfl | hm
      · exact hcounts
      · rw [List.mem_singleton.mp hm, hduration] at hcounts
        cases hcounts
  · exact fun hcounts => ⟨_, List.mem_append_right _ (List.mem_cons_self ..), hcounts⟩

end Metrics

/-! ## Whole runs -/

/-- A mark agrees with what is counted of it, unless the call that left it is lost; none is counted
then. -/
structure Tallied (mark : Bool) (counted : Nat) (lost : List Entry) : Prop where
  agrees : lost = [] → (mark = true ↔ counted = 1)
  forfeits : lost ≠ [] → mark = true ∧ counted = 0

theorem Tallied.of_add {mark : Bool} {counted : Nat} {lost : List Entry}
    (h : mark.toNat = counted + lost.length) : Tallied mark counted lost := by
  constructor
  · rintro rfl
    rw [← Bool.toNat_eq_one, h]
    rfl
  · intro hlost
    have hpos := List.length_pos_of_ne_nil hlost
    have hle := Bool.toNat_le mark
    rw [← Bool.toNat_eq_one]
    omega

/-- In some phases, a call is counted or forfeited. -/
theorem length_calls_eq {does : Entry → Bool} {phases : List Phase}
    (h : ∀ e : Entry, (e.halts && phases.contains e.callback.phase) = does e) (es : List Event) :
    (calls does es).length =
      ((calls Entry.counted es).map fun e => e.callback.phase).countP (phases.contains ·) +
        (forfeited does es).length := by
  rw [length_calls, List.countP_map]
  congr 1
  simp only [calls, List.countP_filter, ← List.countP_eq_length_filter]
  refine List.countP_congr fun e _ => ?_
  rw [← h e, Entry.counted, Function.comp_apply]
  cases e.halts <;> cases e.returned <;> simp

theorem Entry.answers_eq (e : Entry) :
    (e.halts && [Phase.authorization, .resource, .action].contains e.callback.phase) =
      e.answers := by
  cases hcb : e.callback <;>
    simp [halts, answers, hcb, Callback.endsWithResult, Callback.changesResult, Callback.phase]

theorem Entry.silences_eq (e : Entry) :
    (e.halts && [Phase.result].contains e.callback.phase) = e.silences := by
  cases hcb : e.callback <;>
    simp [halts, silences, hcb, Callback.endsWithResult, Callback.changesResult, Callback.phase]

theorem Ending.of_ok_eq_shortCircuited {out : Outcome} :
    Ending.of (.ok out) = .shortCircuited ↔ out.canceled = true := by
  cases hc : out.canceled <;> cases hr : out.recovered <;> simp [Ending.of, hc, hr]

theorem exists_outcome {x : Except Failure Outcome} {p : Outcome → Bool}
    (h : x.toOption.any p = true) : ∃ out, x = .ok out ∧ p out = true := by
  cases x with
  | error e => simp [Except.toOption] at h
  | ok out => exact ⟨out, rfl, h⟩

/-- A run that succeeds is counted as ended by a filter exactly if it says that one answered in
place of what lies further in. A filter that does is counted once, in the phase in front of the
action in which it was called, and so is one that keeps the result from being rendered, unless it
raises a fault in the same call: then nothing is counted of it, although the run shows what it
did. -/
theorem run_accounts_halts {o : Options} (ho : o.recordMetrics = true) (ends : Ends) {c : Context}
    (hc : c.Reached) (hfresh : c.state.executed = false) {out : Outcome}
    (hout : (c.run ends).1.outcome = .ok out) :
    let es := (c.run ends).1.events
    let ms := o.metrics es
    ((∃ m ∈ ms, m.countsRun .shortCircuited = true) ↔ out.canceled = true) ∧
      Tallied out.canceled
        (ms.countP (Metric.countsHalt [.authorization, .resource, .action]))
        (forfeited Entry.answers es) ∧
      Tallied out.suppressed (ms.countP (Metric.countsHalt [.result]))
        (forfeited Entry.silences es) := by
  obtain ⟨call, hcall⟩ := hc.initial_of_fresh hfresh
  have hrun : (c.run ends).1 = run ends c.places (.initial call) := by rw [Context.run, hcall]
  intro es ms
  simp only [ms, es, hrun] at hout ⊢
  have hflags := hout
  rw [run_outcome, Step.finish_eq_ok] at hflags
  obtain ⟨-, rfl⟩ := hflags
  refine ⟨?_, .of_add ?_, .of_add ?_⟩
  · rw [Options.exists_countsRun ho, hout, Ending.of_ok_eq_shortCircuited]
  · rw [Options.countP_halts ho, haltings_run, ← length_calls_eq Entry.answers_eq, ← canceled_run]
    rfl
  · rw [Options.countP_halts ho, haltings_run, ← length_calls_eq Entry.silences_eq, ← silenced_run]
    rfl

/-- An answer in place of the action and one that keeps the result from being rendered are both
counted, once each. -/
theorem run_accounts_both_halts :
    let stub : Filter :=
      { name := "stub", action := some ⟨fun _ => { result := some (.bare .forbidden) }, .idle⟩ }
    let mute : Filter :=
      { name := "mute", result := some ⟨fun _ => { suppress := true }, .idle⟩ }
    let ends : Ends := ⟨fun _ => { outcome := .ok .unit }, fun _ _ => {}⟩
    let c : Context :=
      ⟨[⟨0, .shared .global stub, stub, rfl⟩, ⟨1, .shared .global mute, mute, rfl⟩],
        .initial (.ofAction ⟨"jobs", "run", .unit⟩)⟩
    let ms := Options.metrics {} (c.run ends).1.events
    ∃ out, (c.run ends).1.outcome = .ok out ∧ out.canceled = true ∧ out.suppressed = true ∧
      ms.countP (Metric.countsHalt [.authorization, .resource, .action]) = 1 ∧
      ms.countP (Metric.countsHalt [.result]) = 1 := by
  intro stub mute ends c ms
  have hflags : (c.run ends).1.outcome.toOption.any
      (fun out => out.canceled && out.suppressed) = true := by decide +kernel +zetaReduce
  have hkept : forfeited Entry.answers (c.run ends).1.events = [] ∧
      forfeited Entry.silences (c.run ends).1.events = [] := by
    simp only [← List.isEmpty_iff]
    decide +kernel +zetaReduce
  obtain ⟨out, hout, hout'⟩ := exists_outcome hflags
  obtain ⟨hcanceled, hsuppressed⟩ := Bool.and_eq_true_iff.mp hout'
  obtain ⟨-, hanswers, hsilences⟩ :=
    run_accounts_halts (o := {}) rfl ends (c := c) (.new _ _) rfl hout
  exact ⟨out, hout, hcanceled, hsuppressed, (hanswers.agrees hkept.1).mp hcanceled,
    (hsilences.agrees hkept.2).mp hsuppressed⟩

/-- A filter that answers in place of the action, and one that keeps the result from being rendered,
are not counted if they raise a fault as well, although another filter handles it and the run shows
what they did. -/
theorem run_forfeits_halts :
    let torn (r : Reply) : Behaviour := fun _ => { r with fault := some (.plain "torn") }
    let net : Filter := { name := "net", exception := some fun _ => { handled := true } }
    let stub : Filter :=
      { name := "stub", action := some ⟨torn { result := some (.bare .forbidden) }, .idle⟩ }
    let mute : Filter := { name := "mute", result := some ⟨torn { suppress := true }, .idle⟩ }
    let ends : Ends := ⟨fun _ => { outcome := .ok .unit }, fun _ _ => {}⟩
    let report (f : Filter) : Report :=
      run ends [⟨0, .shared .global net, net, rfl⟩, ⟨1, .shared .global f, f, rfl⟩]
        (.initial (.ofAction ⟨"jobs", "run", .unit⟩))
    let count (f : Filter) (phases : List Phase) : Nat :=
      (Options.metrics {} (report f).events).countP (Metric.countsHalt phases)
    (∃ out, (report stub).outcome = .ok out ∧
        ¬(out.canceled = true ↔ count stub [.authorization, .resource, .action] = 1)) ∧
      ∃ out, (report mute).outcome = .ok out ∧
        ¬(out.suppressed = true ↔ count mute [.result] = 1) := by
  intro torn net stub mute ends report count
  have hstub : (report stub).outcome.toOption.any Outcome.canceled = true ∧
      count stub [.authorization, .resource, .action] = 0 := by decide +kernel +zetaReduce
  have hmute : (report mute).outcome.toOption.any Outcome.suppressed = true ∧
      count mute [.result] = 0 := by decide +kernel +zetaReduce
  obtain ⟨out, hout, hcanceled⟩ := exists_outcome hstub.1
  obtain ⟨out', hout', hsuppressed⟩ := exists_outcome hmute.1
  refine ⟨⟨out, hout, fun h => ?_⟩, ⟨out', hout', fun h => ?_⟩⟩
  · exact absurd (h.mp hcanceled) (by simp [hstub.2])
  · exact absurd (h.mp hsuppressed) (by simp [hmute.2])

end RequestPipeline
