import RequestPipeline.Proofs.Run.InFlight

/-!
# How faults are resolved

A run fails exactly if its trace leaves a fault in flight, and then with that fault. Otherwise it
succeeds, and it has recovered exactly if a fault was raised at all (`run_resolves_faults`).

What is raised is what somebody returns. Every event at which a fault can be returned is listed with
the fault that is returned there (`Event.returned?`): the callbacks of filters, the invocation with
the check of what it produced, the renderer, and the two checks whether the request was cancelled.
The call that the last three depend on is followed along the trace (`Event.callBehind`).
-/

set_option autoImplicit false

namespace RequestPipeline

variable (ends : Ends) (ps : List Place)

/-! ## Faults that are returned -/

/-- The call behind an event. -/
def Event.callBehind (c : Call) : Event → Call
  | .called cb _ _ _ reply => c.grant cb reply
  | .invoked _ => ends.callBehind c
  | .rendered a => if (ends.render c a).cancel then c.cancel else c
  | _ => c

/-- The fault that is returned at an event, with where it counts as raised. -/
def Event.returned? (c : Call) : Event → Option (Phase × Fault)
  | .opened .. => c.interruption?.map fun f => (.authorization, f)
  | .called cb _ _ _ reply => reply.fault.map fun f => (cb.phase, f)
  | .invoking => c.interruption?.map fun f => (.action, f)
  | .invoked _ =>
    match ends.invocation c with
    | .error f => some (.action, f)
    | .ok _ => none
  | .rendered a => (ends.render c a).fault.map fun f => (.render, f)
  | _ => none

/-- The faults that are returned along a trace, in order. -/
def returnedFaults : Call → List Event → List (Phase × Fault)
  | _, [] => []
  | c, e :: es => (e.returned? ends c).toList ++ returnedFaults (e.callBehind ends c) es

theorem returnedFaults_append (c : Call) (es fs : List Event) :
    returnedFaults ends c (es ++ fs) =
      returnedFaults ends c es ++ returnedFaults ends (es.foldl (Event.callBehind ends) c) fs := by
  induction es generalizing c with
  | nil => rfl
  | cons e es ih => simp [returnedFaults, ih]

/-- Nothing is returned behind a run. -/
theorem returnedFaults_closing {es : List Event} (h : ∀ e ∈ es, e.isClosing = true) (c : Call) :
    returnedFaults ends c es = [] := by
  induction es generalizing c with
  | nil => rfl
  | cons e es ih =>
    obtain ⟨he, hes⟩ := List.forall_mem_cons.mp h
    rw [returnedFaults, ih hes, List.append_nil]
    cases e <;> simp_all [Event.isClosing, Event.returned?]

section Moves

variable {ends ps} {s : State} {t : Step}

theorem Entry.returnedFaults_step (e : Entry) (c : Call) :
    returnedFaults ends c e.step.events =
      (e.reply.fault.map fun f => (e.callback.phase, f)).toList := by
  rcases e.step_cases with ⟨f, hf, h⟩ | ⟨hf, h⟩ | ⟨hf, h⟩ <;>
    simp [h, hf, returnedFaults, event, Event.returned?]

theorem Entry.faults_step (e : Entry) :
    faults e.step.events = (e.reply.fault.map fun f => (e.callback.phase, f)).toList := by
  rcases e.step_cases with ⟨f, hf, h⟩ | ⟨hf, h⟩ | ⟨hf, h⟩ <;>
    simp [h, hf, faults_cons, event, Event.raised?]

theorem Entry.foldl_callBehind_step (e : Entry) (c : Call) :
    e.step.events.foldl (Event.callBehind ends) c = c.grant e.callback e.reply := by
  rcases e.step_cases with ⟨f, -, h⟩ | ⟨-, h⟩ | ⟨-, h⟩ <;> rw [h] <;> rfl

/-- Whatever is returned in a move is raised, nothing else is, and the call is followed. -/
theorem Move.faults (h : Move ends ps s t) :
    faults t.events = returnedFaults ends s.call t.events ∧
      t.state.call = t.events.foldl (Event.callBehind ends) s.call := by
  cases h with
  | call mem takes due =>
    rw [Entry.faults_step, Entry.returnedFaults_step, Entry.call_step, Entry.foldl_callBehind_step]
    exact ⟨rfl, rfl⟩
  | perform free =>
    rcases perform_cases ends s with ⟨f, hs, h⟩ | ⟨hs, f, hf, h⟩ | ⟨hs, a, ha, h⟩ <;>
      rw [h] <;>
      simp [faults_cons, returnedFaults, Event.raised?, Event.returned?, Event.callBehind,
        State.raise, *]
  | announce =>
    simp [faults_cons, returnedFaults, Event.raised?, Event.returned?, Event.callBehind]
  | write free due =>
    rcases write_cases ends s with ⟨f, hf, h⟩ | ⟨hf, h⟩ <;>
      rw [h] <;>
      simp [faults_cons, returnedFaults, Event.raised?, Event.returned?, Event.callBehind,
        State.raise, Ends.written, hf]
  | settle =>
    rcases settle_cases s with ⟨-, h⟩ | ⟨p, -, -, h⟩ <;>
      simp [h, faults_cons, returnedFaults, Event.raised?, Event.returned?, Event.callBehind]

theorem Course.faults (h : Course ends ps s t) :
    faults t.events = returnedFaults ends s.call t.events ∧
      t.state.call = t.events.foldl (Event.callBehind ends) s.call := by
  induction h with
  | stay => exact ⟨rfl, rfl⟩
  | move h => exact h.faults
  | andThen h₁ h₂ ih₁ ih₂ =>
    -- what the second part returns depends on the call behind the first
    rw [Step.andThen_state, Step.andThen_events, faults_append, returnedFaults_append,
      List.foldl_append, ← ih₁.2, ih₁.1, ih₂.1]
    exact ⟨rfl, ih₂.2⟩

end Moves

/-! ## Whole runs -/

theorem Event.action_callBehind (c : Call) (e : Event) :
    (e.callBehind ends c).action = c.action := by
  cases e with
  | called => rfl
  | invoked c' =>
    simp only [callBehind, Ends.callBehind]
    split <;> rfl
  | rendered a =>
    simp only [callBehind]
    split <;> rfl
  | _ => rfl

theorem action_foldl_callBehind (es : List Event) (c : Call) :
    (es.foldl (Event.callBehind ends) c).action = c.action := by
  induction es generalizing c with
  | nil => rfl
  | cons e es ih => rw [List.foldl_cons, ih, Event.action_callBehind]

section Proceed

variable {s : State} (hs : s.Open)

include hs

/-- At the last state, what is in flight is what the trace leaves. -/
theorem pending_proceed :
    ((ends.proceed ps s).state.pending.map fun p => (p.phase, p.fault)) =
      inFlight (ends.proceed ps s).events := by
  rw [← State.unhandled_of_not_handled (handled_proceed ends hs)]
  cases hi : s.call.interruption? with
  | some f =>
    rw [proceed_of_interrupted ends ps hi]
    rfl
  | none =>
    have hnone : s.unhandled = none := by simp [State.unhandled, hs.free]
    rw [(course_proceed ends ps hi hs).unhandled, hnone]
    rfl

theorem recovered_proceed (hr : s.recovered = false) :
    ((ends.proceed ps s).state.recovered || (ends.proceed ps s).state.pending.isSome) =
      !(faults (ends.proceed ps s).events).isEmpty := by
  cases hi : s.call.interruption? with
  | some f =>
    rw [proceed_of_interrupted ends ps hi]
    simp [faults_cons, Event.raised?, State.raise]
  | none => simpa [hr, hs.free] using (course_proceed ends ps hi hs).recovered

theorem action_proceed : (ends.proceed ps s).state.call.action = s.call.action := by
  cases hi : s.call.interruption? with
  | some f =>
    rw [proceed_of_interrupted ends ps hi]
    rfl
  | none => rw [(course_proceed ends ps hi hs).faults.2, action_foldl_callBehind]

/-- What is raised is what the check at the start and then the trace return. -/
theorem faults_proceed :
    faults (ends.proceed ps s).events =
      (s.call.interruption?.map fun f => (Phase.authorization, f)).toList ++
        returnedFaults ends s.call (ends.proceed ps s).events := by
  cases hi : s.call.interruption? with
  | some f =>
    rw [proceed_of_interrupted ends ps hi]
    rfl
  | none => simpa using (course_proceed ends ps hi hs).faults.1

end Proceed

variable (call : Call)

theorem inFlight_run :
    inFlight (run ends ps (.initial call)).events =
      inFlight (ends.proceed ps (.begun call)).events := by
  obtain ⟨tail, hrun, hclosing⟩ := events_run ends ps call
  have htail : ∀ e ∈ tail, e.raised? = none ∧ e.marks = false := by
    intro e he
    have hc := hclosing e he
    cases e <;> simp_all [Event.isClosing, Event.raised?, Event.marks, Event.entry?]
  rw [hrun, inFlight, List.foldl_cons, List.foldl_append, foldl_track_of_silent htail]
  rfl

theorem returnedFaults_run :
    returnedFaults ends call (run ends ps (.initial call)).events =
      (call.interruption?.map fun f => (Phase.authorization, f)).toList ++
        returnedFaults ends call (ends.proceed ps (.begun call)).events := by
  obtain ⟨tail, hrun, hclosing⟩ := events_run ends ps call
  rw [hrun, returnedFaults, returnedFaults_append, returnedFaults_closing ends hclosing,
    List.append_nil]
  rfl

/-- A run raises exactly what is returned along its trace. It fails exactly with the fault that the
trace leaves in flight; if the trace leaves none, the run succeeds, and it has recovered exactly if
a fault was raised. -/
theorem run_resolves_faults (ends : Ends) (ps : List Place) (call : Call) :
    let r := run ends ps (.initial call)
    faults r.events = returnedFaults ends call r.events ∧
      (∀ f, r.outcome = .error (.unhandled call.action.displayName f) ↔
        ∃ ph, Leaves r.events ph f) ∧
      ((∃ o, r.outcome = .ok o) ↔ ¬∃ ph f, Leaves r.events ph f) ∧
      ∀ o, r.outcome = .ok o → (o.recovered = true ↔ faults r.events ≠ []) := by
  intro r
  have hs := State.begun_open call
  have hfaults : faults r.events = returnedFaults ends call r.events :=
    (faults_run ends ps call).trans
      ((faults_proceed ends ps hs).trans (returnedFaults_run ends ps call).symm)
  have haction : (ends.proceed ps (.begun call)).state.call.action = call.action :=
    action_proceed ends ps hs
  have hpending := pending_proceed ends ps hs
  have hrecovered := recovered_proceed ends ps hs rfl
  rw [← inFlight_run] at hpending
  rw [← faults_run] at hrecovered
  have houtcome : r.outcome = (ends.proceed ps (.begun call)).finish.outcome :=
    run_outcome ends ps call
  refine ⟨hfaults, ?_⟩
  simp only [← inFlight_eq_some_iff]
  -- the last state has a fault in flight exactly if the trace leaves one, and then the same
  cases hp : (ends.proceed ps (.begun call)).state.pending with
  | some p =>
    rw [Step.finish_of_pending hp, haction] at houtcome
    have hflight : inFlight r.events = some (p.phase, p.fault) := by
      rw [← hpending, hp]
      rfl
    simp [houtcome, hflight]
  | none =>
    rw [Step.finish_eq_ok.mpr ⟨hp, rfl⟩] at houtcome
    have hflight : inFlight r.events = none := by
      rw [← hpending, hp]
      rfl
    refine ⟨by simp [houtcome, hflight], by simp [houtcome, hflight], ?_⟩
    intro o ho
    obtain rfl : (ends.proceed ps (.begun call)).state.outcome = o := by simpa [houtcome] using ho
    rw [hp, Option.isSome_none, Bool.or_false] at hrecovered
    rw [State.outcome, hrecovered, Bool.not_eq_true', List.isEmpty_eq_false_iff]

/-- A run recovers from the fault of its action if a filter marks it as handled. -/
theorem run_recovers_from_handled_fault :
    let f : Filter := { name := "net", exception := some fun _ => { handled := true } }
    let ends : Ends := ⟨fun _ => { outcome := .error (.plain "out of order") }, fun _ _ => {}⟩
    let r := run ends [⟨0, .shared .global f, f, rfl⟩] (.initial (.ofAction ⟨"jobs", "run", .unit⟩))
    ∃ o, r.outcome = .ok o ∧ faults r.events ≠ [] := by
  intro f ends r
  have hrun : r.outcome.toOption.any Outcome.recovered = true := by decide +kernel +zetaReduce
  cases ho : r.outcome with
  | error e => simp [ho, Except.toOption] at hrun
  | ok o =>
    have hrecovered : o.recovered = true := by simpa [ho, Except.toOption] using hrun
    exact ⟨o, rfl, ((run_resolves_faults ends _ _).2.2.2 o ho).mp hrecovered⟩

end RequestPipeline
