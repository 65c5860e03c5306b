import RequestPipeline.Proofs.Run.Onion
import RequestPipeline.Proofs.Run.Rendering

/-!
# The parts of a run

A run that reaches the core is laid out in four parts: the way to the core (`Step.toCore`), the core
up to the end of rendering (`Ends.throughCore`), the fault that is shown to filters if one is in
flight then, and the way outwards (`Ends.outward`). A run that does not reach the core ends in
direct rendering and the way outwards, or earlier.

Of all that a trace tells, `acts` keeps what is done on behalf of the request: the filters called,
the invocations and the results rendered.
-/

set_option autoImplicit false

namespace RequestPipeline

/-! ## Acts -/

/-- Something is done on behalf of the request: a filter is called, the action is invoked or a
result is rendered. -/
def Event.isAct : Event → Bool
  | .called .. | .invoked _ | .rendered _ => true
  | _ => false

/-- What is done on behalf of the request, in order. -/
def acts (es : List Event) : List Event := es.filter Event.isAct

@[simp] theorem acts_nil : acts [] = [] := rfl

@[simp] theorem acts_append (es fs : List Event) : acts (es ++ fs) = acts es ++ acts fs := by
  simp [acts]

/-- An event in which nothing is done is no act. -/
theorem acts_cons_of_not {e : Event} (h : e.isAct = false) (es : List Event) :
    acts (e :: es) = acts es := by
  simp [acts, h]

theorem acts_of_closing {es : List Event} (h : ∀ e ∈ es, e.isClosing = true) : acts es = [] := by
  refine List.filter_eq_nil_iff.mpr fun e he => ?_
  have hc := h e he
  cases e <;> simp_all [Event.isClosing, Event.isAct]

variable {ends : Ends} {ps : List Place} {call : Call} {s t : State}

@[simp] theorem Entry.acts_step (e : Entry) : acts e.step.events = [e.event] := by
  rcases e.step_cases with ⟨f, -, h⟩ | ⟨-, h⟩ | ⟨-, h⟩ <;> rw [h] <;> rfl

@[simp] theorem acts_settle (s : State) : acts (Step.settle s).events = [] := by
  rcases settle_cases s with ⟨-, h⟩ | ⟨p, -, -, h⟩ <;> rw [h] <;> rfl

@[simp] theorem acts_write (s : State) :
    acts (ends.write s).events = [.rendered (s.result.getD .empty)] := by
  rcases write_cases ends s with ⟨f, -, h⟩ | ⟨-, h⟩ <;> rw [h] <;> rfl

@[simp] theorem acts_writeDirectly (s : State) :
    acts (ends.writeDirectly s).events = [.rendered (s.result.getD .empty)] := by
  simp only [Ends.writeDirectly, Step.andThen_events, acts_append, acts_settle, acts_write,
    acts_cons_of_not (e := .renderingDirectly) rfl, acts_nil, List.nil_append, List.append_nil]

/-- On the way outwards nothing is done but to call filters. -/
theorem acts_ascend (l : Layer) (ms : List (Place × Around)) (s : State) :
    acts (l.ascend ps ms s).events =
      (entries l.after (l.ascend ps ms s).events).map Entry.event := by
  induction ms generalizing s with
  | nil => rfl
  | cons m ms ih =>
    obtain ⟨p, a⟩ := m
    rw [l.ascend_cons]
    simp [ih]

/-! ## Direct rendering -/

theorem Event.isDirect_of_phase?_isSome {x : Event} (h : x.phase?.isSome = true) :
    x.isDirect = false := by
  cases x <;> simp_all [phase?, isDirect]

theorem Entry.isDirect_step (e : Entry) : ∀ x ∈ e.step.events, x.isDirect = false :=
  fun x hx => Event.isDirect_of_phase?_isSome (by simp [e.phase_step x hx])

theorem isDirect_settle (s : State) : ∀ x ∈ (Step.settle s).events, x.isDirect = false := by
  intro x hx
  rcases settle_cases s with ⟨-, h⟩ | ⟨p, -, -, h⟩ <;> simp_all [Event.isDirect]

/-- The action and the filters around it render nothing directly. -/
theorem isDirect_actionPhase (hs : s.canceled = false) :
    ∀ x ∈ (ends.actionPhase ps s).events, x.isDirect = false := by
  refine surround_forall hs (fun e _ => e.isDirect_step) ?_ isDirect_settle
  exact fun t x hx => Event.isDirect_of_phase?_isSome (by simp [phase_perform t x hx])

/-- Rendering with the filters around it is not direct. -/
theorem isDirect_resultPhase (hs : s.suppressed = false) :
    ∀ x ∈ (ends.resultPhase ps s).events, x.isDirect = false := by
  by_cases free : s.pending = none
  · rw [resultPhase_of_free ends ps free]
    refine surround_forall hs (fun e _ => e.isDirect_step) ?_ isDirect_settle
    exact fun t x hx => Event.isDirect_of_phase?_isSome (by simp [phase_write t x hx])
  · simp [resultPhase_of_fault ends ps free]

/-- Once every filter in front of rendering has let the request pass, the result is rendered. -/
theorem rendered_resultPhase (hfree : s.pending = none) (hs : s.suppressed = false)
    (hv : (Callback.resultBefore.passage ps s).verdict = .admitted) :
    (ends.resultPhase ps s).state.rendered = true := by
  have hascend (ms : List (Place × Around)) (t : State) :
      (Layer.result.ascend ps ms t).state.rendered = t.rendered :=
    ascend_frame (fun _ _ _ => Entry.step_rendered _) t
  rw [resultPhase_of_free ends ps hfree, surround_of_admitted (l := .result) ps hs hv]
  simp only [Step.andThen_state, settle_rendered, hascend]
  exact rendered_write ends _

theorem writeMissing_of_done (h : s.renderDone = true) : ends.writeMissing s = .stay s := by
  rcases writeMissing_cases ends s with ⟨-, hd, -⟩ | ⟨-, hm⟩
  · simp [h] at hd
  · exact hm

theorem renderDone_ascend (l : Layer) (ms : List (Place × Around)) (s : State) :
    (l.ascend ps ms s).state.renderDone = s.renderDone :=
  ascend_frame (fun _ _ _ => Entry.step_renderDone l.changesResult_after) s

/-- Filters that are shown a fault neither render nor keep from rendering. -/
theorem renderDone_advance_exception (ms : List (Place × Behaviour)) (s : State) :
    (advance ps .exception ms s).step.state.renderDone = s.renderDone :=
  advance_frame (fun _ _ _ => Entry.step_renderDone rfl) s

/-- Once rendering is done, the filters that are shown a fault are all that is left of the core. -/
theorem exceptionPhase_of_done (hf : s.pending ≠ none) (h : s.renderDone = true) :
    ends.exceptionPhase ps s =
      (advance ps .exception (Callback.exception.members ps).reverse s).step.andThen .settle := by
  rw [exceptionPhase_of_fault ends ps hf]
  simp [Step.andThen, writeMissing_of_done, renderDone_advance_exception, h]

theorem isDirect_exceptionPhase_of_done (h : s.renderDone = true) :
    ∀ x ∈ (ends.exceptionPhase ps s).events, x.isDirect = false := by
  by_cases free : s.pending = none
  · simp [exceptionPhase_of_free ends ps free]
  · rw [exceptionPhase_of_done free h, Step.andThen_events]
    intro x hx
    rcases List.mem_append.mp hx with hx | hx
    · exact advance_forall (fun e _ => e.isDirect_step) s x hx
    · exact isDirect_settle _ x hx

theorem renderDone_exceptionPhase_of_done (h : s.renderDone = true) :
    (ends.exceptionPhase ps s).state.renderDone = true := by
  by_cases free : s.pending = none
  · rw [exceptionPhase_of_free ends ps free]
    exact h
  · rw [exceptionPhase_of_done free h]
    simp [renderDone_advance_exception, h]

/-- Once rendering is done, the outermost filters are left and nothing else is done. -/
theorem outward_of_done (h : t.renderDone = true) :
    ends.outward ps s t =
      (Layer.resource.ascend ps (Layer.resource.entered ps s) t).andThen .settle := by
  simp [Ends.outward, Step.andThen, writeMissing_of_done, renderDone_ascend, h]

theorem isDirect_outward_of_done (h : t.renderDone = true) :
    ∀ x ∈ (ends.outward ps s t).events, x.isDirect = false := by
  rw [outward_of_done h, Step.andThen_events]
  intro x hx
  rcases List.mem_append.mp hx with hx | hx
  · exact ascend_forall (fun e _ => e.isDirect_step) t x hx
  · exact isDirect_settle _ x hx

theorem acts_outward_of_done (ends : Ends) (ps : List Place) (s : State)
    (h : t.renderDone = true) :
    ∃ afters : List Entry, acts (ends.outward ps s t).events = afters.map Entry.event ∧
      ∀ f ∈ afters, f.callback = .resourceAfter := by
  rw [outward_of_done h]
  refine ⟨entries .resourceAfter
    (Layer.resource.ascend ps (Layer.resource.entered ps s) t).events, ?_,
    fun f hf => (mem_entries.mp hf).2⟩
  rw [Step.andThen_events, acts_append, acts_settle, List.append_nil]
  exact acts_ascend .resource _ t

/-! ## The layout -/

/-- The way to the core, through authorization and the outermost filters. -/
def Step.toCore (ps : List Place) (call : Call) : Step :=
  (Callback.authorization.passage ps (.begun call)).step.andThen fun s =>
    (Callback.resourceBefore.passage ps s).step

/-- The way to the end of the action and the filters around it. -/
def Ends.throughAction (ends : Ends) (ps : List Place) (call : Call) : Step :=
  (Step.toCore ps call).andThen (ends.actionPhase ps)

/-- The way to the end of rendering and the filters around it. -/
def Ends.throughCore (ends : Ends) (ps : List Place) (call : Call) : Step :=
  (ends.throughAction ps call).andThen (ends.resultPhase ps)

theorem course_toCore (ends : Ends) (ps : List Place) (call : Call) :
    Course ends ps (.begun call) (Step.toCore ps call) :=
  .andThen (f := fun s => (Callback.resourceBefore.passage ps s).step)
    (course_passage (by simp [Callback.changesResult]))
    (course_passage (by simp [Callback.changesResult]))

theorem course_outward (ends : Ends) (ps : List Place) (s t : State) :
    Course ends ps t (ends.outward ps s t) :=
  .andThen (f := ends.writeMissing) (.andThen (f := Step.settle)
    (course_ascend (fun _ hm => mem_of_mem_entered hm) t) (.move (.settle _)))
    (course_writeMissing _)

/-- A run that is authorized goes on through the outermost filters, to what lies inside, and leaves
the outermost filters. -/
theorem proceed_of_authorized (h : Authorized ps call (run ends ps (.initial call)).events) :
    ends.proceed ps (.begun call) =
      ((Step.toCore ps call).andThen (ends.inside ps)).andThen
        (ends.outward ps (.authorized ps call)) := by
  obtain ⟨hc, hv⟩ := (authorized_run_iff ends).mp h
  have hresource := resourcePhase_eq_outward ends ps (State.authorized_open hv).active
  rw [proceed_of_admitted ends ps (State.interruption_begun hc) (State.begun_open call) hv]
  simp only [Step.andThen, State.authorized] at hresource ⊢
  rw [hresource]
  simp [Step.toCore, Step.andThen]

section Reached

variable (h : CoreReached ps call (run ends ps (.initial call)).events)

include h

theorem course_throughAction :
    Course ends ps (.begun call) (ends.throughAction ps call) :=
  have hopen := State.atCore_open ends h
  .andThen (f := ends.actionPhase ps) (course_toCore ends ps call)
    (course_actionPhase hopen.free hopen.active)

theorem renderDone_throughAction : (ends.throughAction ps call).state.renderDone = false :=
  have hopen := State.atCore_open ends h
  (actionPhase_renderDone ends ps hopen.active).trans hopen.due

theorem course_throughCore :
    Course ends ps (.begun call) (ends.throughCore ps call) :=
  .andThen (f := ends.resultPhase ps) (course_throughAction h)
    (course_resultPhase (renderDone_throughAction h))

/-- A run that reaches the core goes through it, shows the fault in flight to filters, and leaves
the outermost filters. -/
theorem proceed_of_reached :
    ends.proceed ps (.begun call) =
      ((ends.throughCore ps call).andThen (ends.exceptionPhase ps)).andThen
        (ends.outward ps (.authorized ps call)) := by
  obtain ⟨⟨-, hauth⟩, hv⟩ := (coreReached_run_iff ends).mp h
  have hinside := inside_of_admitted ends ps (State.authorized_open hauth) hv
  rw [proceed_of_authorized h.1]
  simp only [Step.andThen, Step.toCore, State.authorized] at hinside ⊢
  rw [hinside]
  simp [Ends.throughCore, Ends.throughAction, Step.toCore, Ends.core, Step.andThen]

theorem events_run_of_reached :
    ∃ tail, (run ends ps (.initial call)).events =
        .opened call.id call.action.displayName ps.length ::
          ((ends.throughCore ps call).events ++
            (ends.exceptionPhase ps (ends.throughCore ps call).state).events ++
            (ends.outward ps (.authorized ps call)
              (ends.exceptionPhase ps (ends.throughCore ps call).state).state).events ++ tail) ∧
      ∀ e ∈ tail, e.isClosing = true := by
  obtain ⟨tail, hrun, hclosing⟩ := events_run ends ps call
  refine ⟨tail, ?_, hclosing⟩
  rw [hrun, proceed_of_reached h]
  rfl

/-- Nothing is rendered directly up to the end of rendering. -/
theorem isDirect_throughCore : ∀ x ∈ (ends.throughCore ps call).events, x.isDirect = false := by
  have hopen := State.atCore_open ends h
  have hsuppressed : (ends.throughAction ps call).state.suppressed = false :=
    suppressed_actionPhase ends ps hopen
  simp only [Ends.throughCore, Ends.throughAction, Step.toCore, Step.andThen_events,
    List.mem_append]
  rintro x (((hx | hx) | hx) | hx)
  · exact advance_forall (fun e _ => e.isDirect_step) _ x hx
  · exact advance_forall (fun e _ => e.isDirect_step) _ x hx
  · exact isDirect_actionPhase hopen.active x hx
  · exact isDirect_resultPhase hsuppressed x hx

/-- In front of rendering the filters of its passage are called, if no fault is in flight there. -/
theorem entries_resultBefore_run (hfree : (ends.throughAction ps call).state.pending = none) :
    entries .resultBefore (run ends ps (.initial call)).events =
      entries .resultBefore
        (Callback.resultBefore.passage ps (ends.throughAction ps call).state).step.events := by
  have hsuppressed : (ends.throughAction ps call).state.suppressed = false :=
    suppressed_actionPhase ends ps (State.atCore_open ends h)
  have hresult : entries .resultBefore (run ends ps (.initial call)).events =
      entries .resultBefore (ends.resultPhase ps (ends.throughAction ps call).state).events :=
    entries_result_of_reached ends ps call h rfl
  obtain ⟨t, ht⟩ := entries_surround (l := .result) ps hsuppressed fun t =>
    entries_write ends .resultBefore t
  rw [hresult, resultPhase_of_free ends ps hfree, ht, entries_ascend_of_ne (by decide),
    List.append_nil]
  rfl

/-- A run renders nothing directly if rendering is done when rendering with its filters ends. -/
theorem isDirect_run_of_done (hdone : (ends.throughCore ps call).state.renderDone = true) :
    (run ends ps (.initial call)).events.any Event.isDirect = false := by
  obtain ⟨tail, hrun, hclosing⟩ := events_run_of_reached h
  rw [List.any_eq_false, hrun]
  simp only [List.mem_cons, List.mem_append, Bool.not_eq_true]
  rintro x (rfl | ((hx | hx) | hx) | hx)
  · rfl
  · exact isDirect_throughCore h x hx
  · exact isDirect_exceptionPhase_of_done hdone x hx
  · exact isDirect_outward_of_done (renderDone_exceptionPhase_of_done hdone) x hx
  · have hc := hclosing x hx
    cases x <;> simp_all [Event.isClosing, Event.isDirect]

end Reached

end RequestPipeline
