import Mathlib.Data.List.TakeWhile
import RequestPipeline.Proofs.Run.Layout

/-!
# What a fault is shown to

A fault that the core leaves in flight is shown to the filters that see faults, the innermost first
(`run_shows_fault`). The core raises and marks faults in its own events only (`coreEvents`), so
whether a fault is shown, and which, is read off these. If the fault is marked as handled then, and
rendering is still due, the result as it stands is rendered next; what stands is what was set last
(`lastResult`).
-/

set_option autoImplicit false

namespace RequestPipeline

/-! ## The core of a trace -/

/-- What belongs to the action and to rendering, and to the filters around them. -/
def coreEvents (es : List Event) : List Event :=
  es.filter (Event.inCore (es.any Event.isDirect))

section Parts

variable {ends : Ends} {ps : List Place} {s : State} {d : Bool}

/-- An event belongs to the core, or raises and marks no fault; no fault is shown in it. -/
def Event.Inside (d : Bool) (x : Event) : Prop :=
  x.isShowing = false ∧ (x.inCore d = false → x.raised? = none ∧ x.marks = false)

theorem Event.inside_of_phase {x : Event}
    (h : x.phase? = some .action ∨ x.phase? = some .result ∨
      (x.phase? = some .render ∧ d = false)) : x.Inside d := by
  refine ⟨?_, fun hout => by simp [Event.inCore_of_phase h] at hout⟩
  rcases h with h | h | ⟨h, -⟩ <;> simp [isShowing, h]

theorem inside_settle (s : State) : ∀ x ∈ (Step.settle s).events, x.Inside d := by
  intro x hx
  obtain ⟨hphase, hsilent⟩ := silent_settle s x hx
  exact ⟨by simp [Event.isShowing, hphase], fun _ => hsilent⟩

theorem inside_actionPhase (hs : s.canceled = false) :
    ∀ x ∈ (ends.actionPhase ps s).events, x.Inside d := by
  intro x hx
  rcases phase_actionPhase hs x hx with h | ⟨hphase, hsilent⟩
  · exact Event.inside_of_phase (.inl h)
  · exact ⟨by simp [Event.isShowing, hphase], fun _ => hsilent⟩

/-- In a run that renders with the filters around it, nothing is rendered directly, so what is
rendered belongs to the core. -/
theorem inside_resultPhase (hs : s.suppressed = false)
    (hd : (ends.resultPhase ps s).state.rendered = true → d = false) :
    ∀ x ∈ (ends.resultPhase ps s).events, x.Inside d := by
  by_cases hfree : s.pending = none
  · have hcall (e : Entry) (he : e.callback = .resultBefore ∨ e.callback = .resultAfter) :
        ∀ x ∈ e.step.events, x.Inside d := by
      intro x hx
      refine Event.inside_of_phase (.inr (.inl ?_))
      rw [e.phase_step x hx]
      rcases he with he | he <;> rw [he] <;> rfl
    by_cases hv : (Callback.resultBefore.passage ps s).verdict = .admitted
    · have hrendered := hd (rendered_resultPhase hfree hs hv)
      rw [resultPhase_of_free ends ps hfree]
      exact surround_forall hs hcall
        (fun t x hx => Event.inside_of_phase (.inr (.inr ⟨phase_write t x hx, hrendered⟩)))
        inside_settle
    · -- what the phase surrounds is not reached, so it may as well be nothing
      have hskip : Layer.result.surround ps ends.write s = Layer.result.surround ps .stay s :=
        (surround_of_not_admitted (l := .result) ps hs hv).trans
          (surround_of_not_admitted (l := .result) ps hs hv).symm
      rw [resultPhase_of_free ends ps hfree, hskip]
      exact surround_forall hs hcall (by simp) inside_settle
  · simp [resultPhase_of_fault ends ps hfree]

end Parts

/-! ## What is in flight behind the core -/

theorem handled_resultPhase (ends : Ends) (ps : List Place) {s : State} (hs : s.handled = false) :
    (ends.resultPhase ps s).state.handled = false := by
  by_cases hfree : s.pending = none
  · rw [resultPhase_of_free ends ps hfree]
    exact Step.handled_settle _
  · rw [resultPhase_of_fault ends ps hfree]
    exact hs

/-- Nothing is left in flight by settling exactly if nothing unmarked was in flight before. -/
theorem pending_settle_eq_none_iff {s : State} :
    (Step.settle s).state.pending = none ↔ s.unhandled = none := by
  rcases settle_cases s with ⟨hh, h⟩ | ⟨p, hp, hh, h⟩
  · rw [h, State.unhandled_of_not_handled hh, Option.map_eq_none_iff]
    rfl
  · simp [h, State.unhandled, Option.filter, hp, hh]

theorem outside_front (ends : Ends) (ps : List Place) (call : Call) (d : Bool) :
    ∀ x ∈ .opened call.id call.action.displayName ps.length :: (Step.toCore ps call).events,
      x.inCore d = false ∧ x.isShowing = false := by
  have hQ := OutsideCore.outside ends d
  simp only [Step.toCore, Step.andThen_events, List.mem_cons, List.mem_append]
  rintro x (rfl | hx | hx)
  · exact hQ.border _ rfl
  · exact hQ.passage (.inl rfl) x hx
  · exact hQ.passage (.inr rfl) x hx

theorem outside_behind {ends : Ends} {ps : List Place} {s t : State} {d : Bool} {tail : List Event}
    (hd : Event.renderingDirectly ∈ (ends.outward ps s t).events → d = true)
    (hclosing : ∀ e ∈ tail, e.isClosing = true) :
    ∀ x ∈ (ends.outward ps s t).events ++ tail, x.inCore d = false ∧ x.isShowing = false := by
  have hQ := OutsideCore.outside ends d
  intro x hx
  rcases List.mem_append.mp hx with hx | hx
  · exact hQ.outward hd x hx
  · exact hQ.border x (Event.isBorder_of_isClosing (hclosing x hx))

theorem events_throughCore (ends : Ends) (ps : List Place) (call : Call) :
    (ends.throughCore ps call).events =
      (Step.toCore ps call).events ++ ((ends.actionPhase ps (.atCore ps call)).events ++
        (ends.resultPhase ps (ends.throughAction ps call).state).events) := by
  simp [Ends.throughCore, Ends.throughAction, State.atCore, Step.toCore, State.authorized]

section Reached

variable {ends : Ends} {ps : List Place} {call : Call}
  (h : CoreReached ps call (run ends ps (.initial call)).events)

include h

/-- The action and rendering, with the filters around them, are inside the core. -/
theorem inside_throughCore {x : Event}
    (hx : x ∈ (ends.actionPhase ps (.atCore ps call)).events ++
      (ends.resultPhase ps (ends.throughAction ps call).state).events) :
    x.Inside ((run ends ps (.initial call)).events.any Event.isDirect) := by
  have hopen := State.atCore_open ends h
  have hsuppressed : (ends.throughAction ps call).state.suppressed = false :=
    suppressed_actionPhase ends ps hopen
  rcases List.mem_append.mp hx with hx | hx
  · exact inside_actionPhase hopen.active x hx
  · refine inside_resultPhase hsuppressed (fun hrendered => ?_) x hx
    refine isDirect_run_of_done h ?_
    simp [Ends.throughCore, State.renderDone, hrendered]

/-- No fault is shown up to the end of rendering. -/
theorem not_showing_throughCore :
    ∀ x ∈ .opened call.id call.action.displayName ps.length :: (ends.throughCore ps call).events,
      x.isShowing = false := by
  rw [events_throughCore, ← List.cons_append]
  intro x hx
  rcases List.mem_append.mp hx with hx | hx
  · exact (outside_front ends ps call true x hx).2
  · exact (inside_throughCore h hx).1

/-- Behind the action and rendering, with the filters around them, nothing belongs to the core, and
a fault is shown before the outermost filters are left. -/
theorem events_run_around_core :
    ∃ tail, (run ends ps (.initial call)).events =
        .opened call.id call.action.displayName ps.length ::
          ((ends.throughCore ps call).events ++
            (ends.exceptionPhase ps (ends.throughCore ps call).state).events ++
            ((ends.outward ps (.authorized ps call)
              (ends.exceptionPhase ps (ends.throughCore ps call).state).state).events ++ tail)) ∧
      (∀ e ∈ tail, e.isClosing = true) ∧
      (∀ x ∈ (ends.exceptionPhase ps (ends.throughCore ps call).state).events,
        x.inCore ((run ends ps (.initial call)).events.any Event.isDirect) = false) ∧
      ∀ x ∈ (ends.outward ps (.authorized ps call)
          (ends.exceptionPhase ps (ends.throughCore ps call).state).state).events ++ tail,
        x.inCore ((run ends ps (.initial call)).events.any Event.isDirect) = false ∧
          x.isShowing = false := by
  obtain ⟨tail, hrun, hclosing⟩ := events_run_of_reached h
  have hdirect (hm : Event.renderingDirectly ∈ (run ends ps (.initial call)).events) :
      (run ends ps (.initial call)).events.any Event.isDirect = true :=
    List.any_eq_true.mpr ⟨_, hm, rfl⟩
  refine ⟨tail, by simp [hrun], hclosing, fun x hx => ?_, ?_⟩
  · exact Event.inCore_of_stage (k := 0)
      (.inl (stage_exceptionPhase (fun hm => hdirect (by simp [hrun, hm])) x hx))
      (by decide) (by decide)
  · exact outside_behind (fun hm => hdirect (by simp [hrun, hm])) hclosing

/-- What is in flight behind the core is what its events leave. -/
theorem inFlight_coreEvents :
    inFlight (coreEvents (run ends ps (.initial call)).events) =
      (ends.throughCore ps call).state.pending.map fun p => (p.phase, p.fault) := by
  have hopen := State.atCore_open ends h
  obtain ⟨tail, hrun, -, hexception, hbehind⟩ := events_run_around_core h
  have hfront := outside_front ends ps call
    ((run ends ps (.initial call)).events.any Event.isDirect)
  -- only the action and rendering, with the filters around them, belong to the core
  have hcore : coreEvents (run ends ps (.initial call)).events =
      ((ends.actionPhase ps (.atCore ps call)).events ++
        (ends.resultPhase ps (ends.throughAction ps call).state).events).filter
          (Event.inCore ((run ends ps (.initial call)).events.any Event.isDirect)) := by
    rw [coreEvents]
    generalize (run ends ps (.initial call)).events.any Event.isDirect = d
      at hfront hexception hbehind ⊢
    have hout {es : List Event} (hes : ∀ x ∈ es, x.inCore d = false) :
        es.filter (Event.inCore d) = [] :=
      List.filter_eq_nil_iff.mpr fun x hx => by simp [hes x hx]
    rw [hrun, events_throughCore, ← List.cons_append, ← List.cons_append, ← List.cons_append,
      List.filter_append, List.filter_append, List.filter_append,
      hout fun x hx => (hfront x hx).1, hout hexception, hout fun x hx => (hbehind x hx).1,
      List.nil_append, List.append_nil, List.append_nil]
  have hnone : (State.atCore ps call).unhandled = none := by simp [State.unhandled, hopen.free]
  have hcourse : Course ends ps (.atCore ps call)
      ((ends.actionPhase ps (.atCore ps call)).andThen (ends.resultPhase ps)) :=
    .andThen (f := ends.resultPhase ps) (course_actionPhase hopen.free hopen.active)
      (course_resultPhase (renderDone_throughAction h))
  have hhandled : (ends.throughCore ps call).state.handled = false :=
    handled_resultPhase ends ps (Step.handled_settle _)
  rw [hcore, inFlight, foldl_track_filter fun x hx => (inside_throughCore h hx).2, ← hnone]
  exact hcourse.unhandled.symm.trans (State.unhandled_of_not_handled hhandled)

end Reached

/-! ## The result as it stands -/

/-- The result behind an event. -/
def Event.resultBehind (ends : Ends) (a : Option Answer) : Event → Option Answer
  | .called _ _ _ _ reply => reply.result.or a
  | .invoked c =>
    match ends.invocation c with
    | .ok b => some b
    | .error _ => a
  | .rendered b => some b
  | _ => a

/-- The result that was set last along a trace. -/
def lastResult (ends : Ends) (es : List Event) : Option Answer :=
  es.foldl (Event.resultBehind ends) none

section Results

variable {ends : Ends} {ps : List Place} {s : State} {t : Step}

theorem Entry.resultBehind_step (e : Entry) (a : Option Answer) :
    e.step.events.foldl (Event.resultBehind ends) a = e.reply.result.or a := by
  rcases e.step_cases with ⟨f, -, h⟩ | ⟨-, h⟩ | ⟨-, h⟩ <;> rw [h] <;> rfl

theorem Move.result (h : Move ends ps s t) :
    t.state.result = t.events.foldl (Event.resultBehind ends) s.result := by
  cases h with
  | call mem takes due => rw [Entry.resultBehind_step, Entry.step_result, Place.entry_before]
  | perform free =>
    rcases perform_cases ends s with ⟨f, -, h⟩ | ⟨-, f, hf, h⟩ | ⟨-, a, ha, h⟩ <;> rw [h]
    · rfl
    · simp [Event.resultBehind, hf, State.raise]
    · simp [Event.resultBehind, ha]
  | announce => rfl
  | write free due =>
    rcases write_cases ends s with ⟨f, -, h⟩ | ⟨-, h⟩ <;> rw [h] <;> rfl
  | settle =>
    rcases settle_cases s with ⟨-, h⟩ | ⟨p, -, -, h⟩ <;> rw [h] <;> rfl

theorem Course.result (h : Course ends ps s t) :
    t.state.result = t.events.foldl (Event.resultBehind ends) s.result := by
  induction h with
  | stay => rfl
  | move h => exact h.result
  | andThen h₁ h₂ ih₁ ih₂ =>
    rw [Step.andThen_state, Step.andThen_events, List.foldl_append, ih₂, ih₁]

end Results

/-! ## Showing a fault -/

section Passages

variable {ps : List Place} {cb : Callback} {ms : List (Place × Behaviour)} {s : State}

/-- A passage calls a filter if there is one. -/
theorem entries_advance_eq_nil_iff :
    entries cb (advance ps cb ms s).step.events = [] ↔ ms = [] := by
  cases ms with
  | nil => simp [advance]
  | cons m ms =>
    obtain ⟨p, b⟩ := m
    by_cases hv : (p.entry ps cb b s).verdict = .admitted
    · simp [advance_cons_of_admitted hv]
    · simp [advance_cons_of_not_admitted hv]

/-- Every filter that is shown a fault is shown the same: those in front of it raised none. -/
theorem fault_of_shown {x : Option (Phase × Fault)}
    (hs : (s.pending.map fun p => (p.phase, p.fault)) = x) :
    ∀ e ∈ entries cb (advance ps cb ms s).step.events,
      (e.before.pending.map fun p => (p.phase, p.fault)) = x := by
  induction ms generalizing s with
  | nil => simp [advance]
  | cons m ms ih =>
    obtain ⟨p, b⟩ := m
    by_cases hv : (p.entry ps cb b s).verdict = .admitted
    · rw [advance_cons_of_admitted hv]
      simp only [Step.andThen_events, entries_append, Entry.entries_step, Place.entry_callback,
        if_true, List.cons_append, List.nil_append, List.forall_mem_cons]
      refine ⟨hs, ih ?_⟩
      rw [Entry.step_of_admitted hv]
      simpa [Function.comp_def] using hs
    · rw [advance_cons_of_not_admitted hv]
      simpa using hs

/-- Of filters that are shown a fault, no reply ends the way but a fault. -/
theorem Entry.passed_of_exception {e : Entry} (h : e.callback = .exception) :
    e.passed = e.returned := by
  simp [passed, halts, h, Callback.endsWithResult, Callback.changesResult]

end Passages

/-- What stands in front of the first event in which a fault is shown. -/
def beforeShowing (es : List Event) : List Event := es.takeWhile fun x => !x.isShowing

/-- The first stretch of a trace in which a fault is shown. -/
def showing (es : List Event) : List Event :=
  (es.dropWhile fun x => !x.isShowing).takeWhile Event.isShowing

/-- What stands behind that stretch. -/
def behindShowing (es : List Event) : List Event :=
  (es.dropWhile fun x => !x.isShowing).dropWhile Event.isShowing

/-- A fault is shown in one stretch of a trace at most, behind the core. -/
structure ShownOnce (ps : List Place) (es : List Event) : Prop where
  once : ∀ x ∈ behindShowing es, x.isShowing = false
  late : ∀ x ∈ showing es ++ behindShowing es, x.inCore (es.any Event.isDirect) = false
  /-- The filters that see faults are called from the last of the plan to the first. -/
  inward : (entries .exception es).map Entry.seat <+: (Callback.exception.seats ps).reverse
  /-- All of them but the last raised no fault. -/
  returned : ∀ e ∈ (entries .exception es).dropLast, e.returned = true
  /-- If some but not all were called, the last raised a fault. -/
  stops : entries .exception es ≠ [] →
    (entries .exception es).map Entry.seat ≠ (Callback.exception.seats ps).reverse →
    ∃ e, (entries .exception es).getLast? = some e ∧ e.returned = false

/-- A trace renders the result as it stands once a fault was shown: next, and nothing else. Behind
that, only the outermost filters are left. -/
structure RendersNext (ends : Ends) (es : List Event) : Prop where
  once : renderings es = [(lastResult ends (beforeShowing es ++ showing es)).getD .empty]
  next : ∃ afters : List Entry,
    acts (behindShowing es) =
      .rendered ((lastResult ends (beforeShowing es ++ showing es)).getD .empty) ::
        afters.map Entry.event ∧
    ∀ f ∈ afters, f.callback = .resourceAfter

/-- The step through the filters that are shown the fault in flight. -/
def Step.shown (ps : List Place) (s : State) : Step :=
  (advance ps .exception (Callback.exception.members ps).reverse s).step

theorem entries_exception_of_not_showing {es : List Event} (h : ∀ x ∈ es, x.isShowing = false) :
    entries .exception es = [] := by
  refine List.eq_nil_iff_forall_not_mem.mpr fun e he => ?_
  obtain ⟨hmem, hcb⟩ := mem_entries.mp he
  simpa [Event.isShowing, Entry.event, Event.phase?, hcb, Callback.phase] using h _ hmem

section Showings

variable {ends : Ends} {ps : List Place} {call : Call} {es before shown behind : List Event}
  {s : State}

/-- A trace falls apart into its parts around the stretch in which a fault is shown. -/
theorem split_showing (hbefore : ∀ x ∈ before, x.isShowing = false)
    (hshown : ∀ x ∈ shown, x.isShowing = true) (hbehind : ∀ x ∈ behind, x.isShowing = false)
    (hne : shown ≠ []) :
    beforeShowing (before ++ shown ++ behind) = before ∧
      showing (before ++ shown ++ behind) = shown ∧
      behindShowing (before ++ shown ++ behind) = behind := by
  obtain ⟨x, rest, rfl⟩ := List.exists_cons_of_ne_nil hne
  have hx := hshown x List.mem_cons_self
  have hnot : ∀ y ∈ before, (!y.isShowing) = true := fun y hy => by simp [hbefore y hy]
  have hdrop : (before ++ x :: rest ++ behind).dropWhile (fun y => !y.isShowing) =
      x :: rest ++ behind := by
    rw [List.append_assoc, List.dropWhile_append_of_pos hnot]
    simp [hx]
  have hend : behind.takeWhile Event.isShowing = [] ∧
      behind.dropWhile Event.isShowing = behind := by
    cases behind with
    | nil => exact ⟨rfl, rfl⟩
    | cons y ys => simp [hbehind y List.mem_cons_self]
  refine ⟨?_, ?_, ?_⟩
  · rw [beforeShowing, List.append_assoc, List.takeWhile_append_of_pos hnot]
    simp [hx]
  · rw [showing, hdrop, List.takeWhile_append_of_pos hshown, hend.1, List.append_nil]
  · rw [behindShowing, hdrop, List.dropWhile_append_of_pos hshown, hend.2]

/-- In a trace in which no fault is shown, all stands in front. -/
theorem ShownOnce.of_none (h : ∀ x ∈ es, x.isShowing = false) : ShownOnce ps es := by
  have hdrop : es.dropWhile (fun x => !x.isShowing) = [] :=
    List.dropWhile_eq_nil_iff.mpr fun x hx => by simp [h x hx]
  have hnone := entries_exception_of_not_showing h
  constructor <;> simp [showing, behindShowing, hdrop, hnone]

theorem shown_isShowing (s : State) : ∀ x ∈ (Step.shown ps s).events, x.isShowing = true := by
  intro x hx
  simp [Event.isShowing, phase_advance s x hx, Callback.phase]

/-- The filters that see faults are called where a fault is shown and nowhere else. -/
theorem entries_exception_of_split (hes : es = before ++ shown ++ behind)
    (hbefore : ∀ x ∈ before, x.isShowing = false) (hbehind : ∀ x ∈ behind, x.isShowing = false) :
    entries .exception es = entries .exception shown := by
  simp [hes, entries_exception_of_not_showing hbefore, entries_exception_of_not_showing hbehind]

/-- A trace that calls the filters that see faults in one stretch shows a fault once. -/
theorem ShownOnce.of_shown (hes : es = before ++ (Step.shown ps s).events ++ behind)
    (hbefore : ∀ x ∈ before, x.isShowing = false) (hbehind : ∀ x ∈ behind, x.isShowing = false)
    (hshowing : showing es = (Step.shown ps s).events) (hrest : behindShowing es = behind)
    (hlate : ∀ x ∈ (Step.shown ps s).events ++ behind,
      x.inCore (es.any Event.isDirect) = false) :
    ShownOnce ps es := by
  have hseats : ((Callback.exception.members ps).reverse.map fun m => m.1.seat) =
      (Callback.exception.seats ps).reverse := by
    rw [List.map_reverse, Callback.map_seat_members]
  have hentries := entries_exception_of_split hes hbefore hbehind
  -- no reply of these filters ends the way but a fault
  have hcallback {e : Entry} (he : e ∈ entries .exception (Step.shown ps s).events) :
      e.passed = e.returned := Entry.passed_of_exception (mem_entries.mp he).2
  constructor <;> simp only [hentries, hshowing, hrest]
  · exact hbehind
  · exact hlate
  · exact hseats ▸ entries_advance_prefix
  · intro e he
    rw [← hcallback ((List.dropLast_sublist _).subset he)]
    exact advance_passes e he
  · intro _ hne
    obtain ⟨e, he, hpassed⟩ := advance_cut (hseats ▸ hne)
    exact ⟨e, he, hcallback (List.mem_of_getLast? he) ▸ hpassed⟩

/-- What is rendered is done on behalf of the request. -/
theorem renderings_acts (es : List Event) : renderings (acts es) = renderings es := by
  rw [renderings, renderings, acts, List.filterMap_filter]
  refine congrArg (fun g => List.filterMap g es) (funext fun x => ?_)
  cases x <;> rfl

theorem renderings_map_event (l : List Entry) : renderings (l.map Entry.event) = [] := by
  rw [renderings, List.filterMap_map]
  exact List.filterMap_eq_nil_iff.mpr fun _ _ => rfl

theorem renderings_of_showing (h : ∀ x ∈ es, x.isShowing = true) : renderings es = [] := by
  refine List.filterMap_eq_nil_iff.mpr fun x hx => ?_
  have hshowing := h x hx
  cases x <;> simp_all [Event.isShowing, Event.phase?, Event.rendered?]

/-- The way to the last filter that is shown the fault in flight behind the core. -/
def Ends.throughShown (ends : Ends) (ps : List Place) (call : Call) : Step :=
  (ends.throughCore ps call).andThen (Step.shown ps)

/-- What is left of a run once a fault was shown. -/
def Ends.behindShown (ends : Ends) (ps : List Place) (call : Call) : Step :=
  ((Step.settle (ends.throughShown ps call).state).andThen ends.writeMissing).andThen
    (ends.outward ps (.authorized ps call))

theorem not_showing_behindShown :
    ∀ x ∈ (ends.behindShown ps call).events, x.isShowing = false := by
  have hQ := OutsideCore.outside ends true
  simp only [Ends.behindShown, Step.andThen_events, List.mem_append]
  rintro x ((hx | hx) | hx)
  · exact (hQ.settle _ x hx).2
  · exact (hQ.writeMissing (fun _ => rfl) x hx).2
  · exact (hQ.outward (fun _ => rfl) x hx).2

/-- If rendering is still due then, the result is rendered, and the outermost filters are left. -/
theorem acts_behindShown
    (hwrite : ends.writeMissing (Step.settle (ends.throughShown ps call).state).state =
      ends.writeDirectly (Step.settle (ends.throughShown ps call).state).state) :
    ∃ afters : List Entry,
      acts (ends.behindShown ps call).events =
        .rendered ((ends.throughShown ps call).state.result.getD .empty) ::
          afters.map Entry.event ∧
      ∀ f ∈ afters, f.callback = .resourceAfter := by
  have hdone : (ends.writeDirectly
      (Step.settle (ends.throughShown ps call).state).state).state.renderDone = true := by
    simp [State.renderDone, rendered_writeDirectly]
  have hresult (s : State) : (Step.settle s).state.result = s.result := by
    rcases settle_cases s with ⟨-, h⟩ | ⟨p, -, -, h⟩
    · rw [h, Step.stay_state]
    · rw [h]
  obtain ⟨afters, hacts, hafters⟩ := acts_outward_of_done ends ps (.authorized ps call) hdone
  refine ⟨afters, ?_, hafters⟩
  simp only [Ends.behindShown, Step.andThen_events, Step.andThen_state, acts_append, acts_settle,
    hwrite, acts_writeDirectly, hresult, hacts]
  rfl

section Fault

variable (h : CoreReached ps call (run ends ps (.initial call)).events)

include h

theorem course_throughShown : Course ends ps (.begun call) (ends.throughShown ps call) :=
  .andThen (f := Step.shown ps) (course_throughCore h)
    (course_advance (fun _ hm => List.mem_reverse.mp hm) (by simp [Callback.changesResult]))

/-- Once the fault that was shown is marked as handled, the result as it stands is rendered, if that
is still due. -/
theorem writeMissing_of_handled
    (hflight : inFlight (ends.throughShown ps call).events = none)
    (hrenderings : renderings (ends.throughCore ps call).events = [])
    (hsuppress : ∀ e ∈ entries .resultBefore (ends.throughCore ps call).events,
      e.reply.suppress = false) :
    ends.writeMissing (Step.settle (ends.throughShown ps call).state).state =
      ends.writeDirectly (Step.settle (ends.throughShown ps call).state).state := by
  have hfree : (Step.settle (ends.throughShown ps call).state).state.pending = none :=
    pending_settle_eq_none_iff.mpr ((course_throughShown h).unhandled.trans hflight)
  have hcourse := course_throughCore h
  have hrendered : (ends.throughCore ps call).state.rendered = false := by
    simpa [hrenderings, State.begun, State.initial] using hcourse.rendered
  have hsuppressed : (ends.throughCore ps call).state.suppressed = false := by
    rw [hcourse.suppressed, Bool.or_eq_false_iff]
    exact ⟨rfl, List.any_eq_false.mpr fun e he => by simp [hsuppress e he]⟩
  have hdue : (Step.settle (ends.throughShown ps call).state).state.renderDone = false := by
    rw [settle_renderDone, Ends.throughShown, Step.andThen_state, Step.shown,
      renderDone_advance_exception, State.renderDone, hrendered, hsuppressed]
    rfl
  rcases writeMissing_cases ends (Step.settle (ends.throughShown ps call).state).state with
    ⟨-, -, hm⟩ | ⟨hdone, -⟩
  · exact hm
  · simp [hdone hfree] at hdue

/-- A run in which a fault is in flight behind the core goes on with showing it. -/
theorem events_run_of_fault (hfault : (ends.throughCore ps call).state.pending ≠ none) :
    ∃ tail, (run ends ps (.initial call)).events =
        .opened call.id call.action.displayName ps.length :: (ends.throughCore ps call).events ++
          (Step.shown ps (ends.throughCore ps call).state).events ++
          ((ends.behindShown ps call).events ++ tail) ∧
      (∀ e ∈ tail, e.isClosing = true) ∧
      (∀ x ∈ (ends.behindShown ps call).events ++ tail, x.isShowing = false) ∧
      ∀ x ∈ (Step.shown ps (ends.throughCore ps call).state).events ++
          ((ends.behindShown ps call).events ++ tail),
        x.inCore ((run ends ps (.initial call)).events.any Event.isDirect) = false := by
  obtain ⟨tail, hrun, hclosing, hexception, hbehind⟩ := events_run_around_core h
  rw [exceptionPhase_of_fault ends ps hfault, ← Step.shown] at hrun hexception hbehind
  refine ⟨tail, by simp [hrun, Ends.behindShown, Ends.throughShown], hclosing, ?_, ?_⟩
  · intro x hx
    rcases List.mem_append.mp hx with hx | hx
    · exact not_showing_behindShown x hx
    · exact (hbehind x (List.mem_append_right _ hx)).2
  · intro x hx
    simp only [Ends.behindShown, Ends.throughShown, Step.andThen_events, Step.andThen_state,
      List.mem_append] at hx hexception hbehind
    rcases hx with hx | ((hx | hx) | hx) | hx
    · exact hexception x (.inl (.inl hx))
    · exact hexception x (.inl (.inr hx))
    · exact hexception x (.inr hx)
    · exact (hbehind x (.inl hx)).1
    · exact (hbehind x (.inr hx)).1

/-- The parts of a run around the stretch in which a fault is shown, if there are filters that see
faults. -/
theorem showing_of_fault (hmembers : Callback.exception.members ps ≠ []) {behind : List Event}
    (hrun : (run ends ps (.initial call)).events =
      .opened call.id call.action.displayName ps.length :: (ends.throughCore ps call).events ++
        (Step.shown ps (ends.throughCore ps call).state).events ++ behind)
    (hbehind : ∀ x ∈ behind, x.isShowing = false) :
    beforeShowing (run ends ps (.initial call)).events =
        .opened call.id call.action.displayName ps.length :: (ends.throughCore ps call).events ∧
      showing (run ends ps (.initial call)).events =
        (Step.shown ps (ends.throughCore ps call).state).events ∧
      behindShowing (run ends ps (.initial call)).events = behind := by
  have hne : (Step.shown ps (ends.throughCore ps call).state).events ≠ [] := by
    intro hnil
    have hentries : entries .exception (Step.shown ps (ends.throughCore ps call).state).events =
        [] := by rw [hnil]; rfl
    exact hmembers (List.reverse_eq_nil_iff.mp (entries_advance_eq_nil_iff.mp hentries))
  rw [hrun]
  exact split_showing (not_showing_throughCore h) (shown_isShowing _) hbehind hne

/-- A fault that is in flight behind the core is shown, and what it leaves to render is rendered
next. -/
theorem shownOnce_of_fault (hfault : (ends.throughCore ps call).state.pending ≠ none)
    (hmembers : Callback.exception.members ps ≠ []) :
    ShownOnce ps (run ends ps (.initial call)).events ∧
      (inFlight (beforeShowing (run ends ps (.initial call)).events ++
          showing (run ends ps (.initial call)).events) = none →
        renderings (beforeShowing (run ends ps (.initial call)).events) = [] →
        (∀ e ∈ entries .resultBefore (beforeShowing (run ends ps (.initial call)).events),
          e.reply.suppress = false) →
        RendersNext ends (run ends ps (.initial call)).events) := by
  obtain ⟨tail, hrun, hclosing, hbehind, hlate⟩ := events_run_of_fault h hfault
  obtain ⟨hfront, hstretch, hrest⟩ := showing_of_fault h hmembers hrun hbehind
  refine ⟨.of_shown hrun (not_showing_throughCore h) hbehind hstretch hrest hlate, ?_⟩
  rw [hfront, hstretch]
  intro hflight hrenderings hsuppress
  obtain ⟨afters, hacts, hafters⟩ := acts_behindShown (writeMissing_of_handled h hflight
    (by simpa [renderings_cons, Event.rendered?] using hrenderings)
    fun e he => hsuppress e (by rwa [entries_cons_of_none _ rfl]))
  -- what stands is what was set last along the trace so far
  rw [(course_throughShown h).result] at hacts
  have hrest' := acts_append (ends.behindShown ps call).events tail
  rw [hacts, acts_of_closing hclosing, List.append_nil] at hrest'
  constructor <;> rw [hfront, hstretch]
  · rw [hrun, renderings_append, renderings_append, hrenderings,
      renderings_of_showing (shown_isShowing _), ← renderings_acts (_ ++ tail), hrest',
      renderings_cons, renderings_map_event]
    rfl
  · rw [hrest]
    exact ⟨afters, hrest', hafters⟩

end Fault

theorem not_showing_exceptionPhase
    (hquiet : s.pending = none ∨ Callback.exception.members ps = []) :
    ∀ x ∈ (ends.exceptionPhase ps s).events, x.isShowing = false := by
  by_cases hfree : s.pending = none
  · simp [exceptionPhase_of_free ends ps hfree]
  · have hmembers := hquiet.resolve_left hfree
    have hQ := OutsideCore.outside ends true
    rw [exceptionPhase_of_fault ends ps hfree, hmembers]
    simp only [Step.andThen_events, List.mem_append]
    rintro x ((hx | hx) | hx)
    · simp [advance] at hx
    · exact (hQ.settle _ x hx).2
    · exact (hQ.writeMissing (fun _ => rfl) x hx).2

/-- No fault is shown in a run that leaves none behind the core, or in which no filter sees
faults. -/
theorem not_showing_run (h : CoreReached ps call (run ends ps (.initial call)).events)
    (hquiet : (ends.throughCore ps call).state.pending = none ∨
      Callback.exception.members ps = []) :
    ∀ x ∈ (run ends ps (.initial call)).events, x.isShowing = false := by
  obtain ⟨tail, hrun, -, -, hbehind⟩ := events_run_around_core h
  rw [hrun, ← List.cons_append, ← List.cons_append]
  simp only [List.mem_append] at hbehind ⊢
  rintro x ((hx | hx) | hx)
  · exact not_showing_throughCore h x hx
  · exact not_showing_exceptionPhase hquiet x hx
  · exact (hbehind x hx).2

end Showings

/-- Filters that see faults are called exactly if the core leaves a fault in flight, and that is the
fault that each of them sees. It is shown once at most, behind the core, from the last filter of the
plan to the first, up to one that raises another. If it is marked as handled then, and nothing was
rendered or kept from being rendered, the result that was set last is rendered next, or the empty
one if none was set. -/
theorem run_shows_fault (ends : Ends) (ps : List Place) (call : Call) :
    let es := (run ends ps (.initial call)).events
    (Callback.exception.seats ps ≠ [] →
        (entries .exception es ≠ [] ↔ inFlight (coreEvents es) ≠ none)) ∧
      (∀ e ∈ entries .exception es,
        (e.before.pending.map fun p => (p.phase, p.fault)) = inFlight (coreEvents es)) ∧
      ShownOnce ps es ∧
      (entries .exception es ≠ [] → inFlight (beforeShowing es ++ showing es) = none →
        renderings (beforeShowing es) = [] →
        (∀ e ∈ entries .resultBefore (beforeShowing es), e.reply.suppress = false) →
        RendersNext ends es) := by
  intro es
  by_cases h : CoreReached ps call es
  · have hcore : inFlight (coreEvents es) = _ := inFlight_coreEvents h
    by_cases hquiet : (ends.throughCore ps call).state.pending = none ∨
        Callback.exception.members ps = []
    · have hes := not_showing_run h hquiet
      have hnone : entries .exception es = [] := entries_exception_of_not_showing hes
      refine ⟨fun hseats => ?_, by simp [hnone], .of_none hes, fun hne => absurd hnone hne⟩
      have hmembers : Callback.exception.members ps ≠ [] := by
        rw [← Callback.map_seat_members] at hseats
        exact fun hnil => hseats (by rw [hnil]; rfl)
      simp [hnone, hcore, hquiet.resolve_right hmembers]
    · obtain ⟨hfault, hmembers⟩ := not_or.mp hquiet
      obtain ⟨hshown, hnext⟩ := shownOnce_of_fault h hfault hmembers
      obtain ⟨tail, hrun, -, hbehind, -⟩ := events_run_of_fault h hfault
      have hentries : entries .exception es = _ :=
        entries_exception_of_split hrun (not_showing_throughCore h) hbehind
      refine ⟨fun _ => iff_of_true ?_ ?_, ?_, hshown, fun _ => hnext⟩
      · rw [hentries, Step.shown, Ne, entries_advance_eq_nil_iff, List.reverse_eq_nil_iff]
        exact hmembers
      · rw [hcore, Ne, Option.map_eq_none_iff]
        exact hfault
      · rw [hentries, hcore]
        exact fault_of_shown rfl
  · have hout := outside_run h
    have hes : ∀ x ∈ es, x.isShowing = false := fun x hx => (hout x hx).2
    have hnone : entries .exception es = [] := entries_exception_of_not_showing hes
    have hcore : coreEvents es = [] :=
      List.filter_eq_nil_iff.mpr fun x hx => by simpa using (hout x hx).1
    exact ⟨fun _ => by simp [hnone, hcore, inFlight], by simp [hnone], .of_none hes,
      fun hne => absurd hnone hne⟩

/-- The fault of an action is shown, and once a filter has marked it as handled, the empty result is
rendered. -/
theorem run_shows_fault_of_action :
    let f : Filter := { name := "net", exception := some fun _ => { handled := true } }
    let ps : List Place := [⟨0, .shared .global f, f, rfl⟩]
    let ends : Ends := ⟨fun _ => { outcome := .error (.plain "out of order") }, fun _ _ => {}⟩
    let es := (run ends ps (.initial (.ofAction ⟨"jobs", "run", .unit⟩))).events
    Callback.exception.seats ps ≠ [] ∧ entries .exception es ≠ [] ∧ renderings es = [.empty] := by
  intro f ps ends es
  have hseats : Callback.exception.seats ps ≠ [] := by decide +kernel +zetaReduce
  have hcore : (inFlight (coreEvents es)).isSome = true := by decide +kernel +zetaReduce
  have hflight : (inFlight (beforeShowing es ++ showing es)).isNone = true := by
    decide +kernel +zetaReduce
  have hrenderings : (renderings (beforeShowing es)).isEmpty = true := by
    decide +kernel +zetaReduce
  have hentries : (entries .resultBefore (beforeShowing es)).isEmpty = true := by
    decide +kernel +zetaReduce
  have hresult : (lastResult ends (beforeShowing es ++ showing es)).isNone = true := by
    decide +kernel +zetaReduce
  obtain ⟨hiff, -, -, hnext⟩ := run_shows_fault ends ps (.ofAction ⟨"jobs", "run", .unit⟩)
  have hshown : entries .exception es ≠ [] :=
    (hiff hseats).mpr (Option.isSome_iff_ne_none.mp hcore)
  obtain ⟨honce, -⟩ := hnext hshown (Option.isNone_iff_eq_none.mp hflight)
    (List.isEmpty_iff.mp hrenderings) fun e he =>
      absurd (List.isEmpty_iff.mp hentries ▸ he : e ∈ []) List.not_mem_nil
  rw [Option.isNone_iff_eq_none.mp hresult] at honce
  exact ⟨hseats, hshown, honce⟩

end RequestPipeline
