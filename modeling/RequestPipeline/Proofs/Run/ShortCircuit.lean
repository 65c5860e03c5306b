import RequestPipeline.Proofs.Run.Gate
import RequestPipeline.Proofs.Run.Layout

/-!
# What an answer in place of the action leaves

A filter can answer a request on the way inwards, or keep its result from being rendered. What lies
further in is then skipped, and what is left of the run depends on the moment
(`run_contains_short_circuits`): behind authorization the answer is rendered and nothing else is
done; behind an outermost filter the answer is rendered before the filters that were entered are
left; in front of the action those filters are left, and the way to rendering is open unless a fault
is in flight; in front of rendering nothing is rendered any more.

Such a filter refuses the request, so it is the last of its passage, and a trace that shows the
passage is split at its entry in one way only (`split_at_refused`).
-/

set_option autoImplicit false

namespace RequestPipeline

/-! ## The filter that refuses -/

section Refusals

variable {ps : List Place} {cb : Callback} {s : State} {e : Entry}

/-- A filter that refuses the request is the last of its passage. -/
theorem passage_of_refused (he : e ∈ entries cb (cb.passage ps s).step.events)
    (hv : e.verdict = .refused) :
    (cb.passage ps s).verdict = .refused ∧ ∃ front : List Event,
      (cb.passage ps s).step =
        ⟨e.granted, front ++ [e.event, .shortCircuited e.listing.name e.callback.phase]⟩ ∧
      e ∉ entries cb front := by
  have hpassed : e.passed ≠ true := by
    rw [Ne, ← Entry.verdict_eq_admitted, hv]
    decide
  have hne : (cb.passage ps s).verdict ≠ .admitted := fun h =>
    hpassed ((advance_of_admitted h).2 e he)
  obtain ⟨front, last, hstep, hcb, hfront, hlast⟩ := advance_stops hne
  rw [← Callback.passage] at hstep hlast
  have hout : e ∉ entries cb front := fun h => hpassed (hfront e h)
  obtain rfl : e = last := by
    rw [hstep] at he
    simpa [hout, hcb] using he
  refine ⟨hlast.symm.trans hv, front, ?_, hout⟩
  rw [hstep, Entry.step_of_refused hv]

/-- A trace that shows a passage is split at the filter that refuses the request in one way only. -/
theorem split_at_refused {es₁ es₂ : List Event} (pre post : List Event) (hcb : e.callback = cb)
    (he : e ∈ entries cb (cb.passage ps s).step.events) (hv : e.verdict = .refused)
    (h : pre ++ (cb.passage ps s).step.events ++ post = es₁ ++ e.event :: es₂)
    (hpre : entries cb pre = []) (hpost : entries cb post = []) :
    pre ++ (cb.passage ps s).step.events =
        es₁ ++ [e.event, .shortCircuited e.listing.name cb.phase] ∧
      es₂ = .shortCircuited e.listing.name cb.phase :: post := by
  obtain ⟨-, front, hstep, hfront⟩ := passage_of_refused he hv
  have hnot {es : List Event} (hes : e ∉ entries cb es) : e.event ∉ es := fun hmem =>
    hes (mem_entries.mpr ⟨hmem, hcb⟩)
  have hbefore : e.event ∉ pre ++ front := hnot (by simpa [hpre] using hfront)
  have hbehind : e.event ∉ .shortCircuited e.listing.name cb.phase :: post :=
    hnot (by rw [entries_cons_of_none cb rfl, hpost]; simp)
  rw [hstep, hcb] at h ⊢
  have hsplit : (pre ++ front) ++ e.event :: .shortCircuited e.listing.name cb.phase :: post =
      es₁ ++ e.event :: es₂ := by
    rw [← h]
    simp
  obtain ⟨rfl, -, rfl⟩ := (List.append_cons_inj_of_notMem hbefore hbehind).mp hsplit
  exact ⟨by simp, rfl⟩

/-- No filter is called on the way inwards behind one that refuses the request. -/
theorem Layer.Balanced.none_behind {l : Layer} {es₁ es₂ : List Event}
    (h : l.Balanced ps (es₁ ++ e.event :: es₂)) (hcb : e.callback = l.before)
    (hv : e.verdict = .refused) : entries l.before es₂ = [] := by
  refine Decidable.byContradiction fun hne => ?_
  have hpassed := h.passes e
  simp only [entries_append, entries_event_cons, hcb, if_true] at hpassed
  rw [List.dropLast_append_of_ne_nil (by simp), List.dropLast_append_of_ne_nil hne] at hpassed
  rw [← Entry.verdict_eq_admitted, hv] at hpassed
  exact absurd (hpassed (by simp)) (by decide)

end Refusals

/-! ## Answers stay answers -/

section Moves

variable {ends : Ends} {ps : List Place} {s : State} {t : Step}

/-- A request that was answered stays answered. -/
theorem Move.canceled (h : Move ends ps s t) (hs : s.canceled = true) :
    t.state.canceled = true := by
  cases h with
  | call mem takes due =>
    exact Entry.step_keeps (I := fun t => t.canceled = true) (by simp [hs]) fun _ => by
      simp [State.raise, hs]
  | perform free =>
    rcases perform_cases ends s with ⟨f, -, h⟩ | ⟨-, f, -, h⟩ | ⟨-, a, -, h⟩ <;> rw [h] <;> exact hs
  | announce => exact hs
  | write free due =>
    rcases write_cases ends s with ⟨f, -, h⟩ | ⟨-, h⟩ <;> rw [h] <;> exact hs
  | settle =>
    rcases settle_cases s with ⟨-, h⟩ | ⟨p, -, -, h⟩ <;> rw [h] <;> exact hs

theorem Course.canceled (h : Course ends ps s t) (hs : s.canceled = true) :
    t.state.canceled = true :=
  h.keeps (I := fun s => s.canceled = true) Move.canceled hs

/-- Filters that are called once a request was answered see that it was. -/
theorem Course.called_canceled (h : Course ends ps s t) (hs : s.canceled = true) {e : Entry}
    (he : e.event ∈ t.events) : e.before.canceled = true := by
  obtain ⟨p, -, b, u, hu, -, heq⟩ :=
    h.called (I := fun s => s.canceled = true) Move.canceled hs he
  rw [heq]
  exact hu

theorem Step.finish_canceled (t : Step) : t.finish.state.canceled = t.state.canceled := by
  unfold finish
  split <;> rfl

end Moves

theorem entries_of_closing (cb : Callback) {es : List Event} (h : ∀ e ∈ es, e.isClosing = true) :
    entries cb es = [] := by
  refine List.eq_nil_iff_forall_not_mem.mpr fun e he => ?_
  exact absurd (h _ (mem_entries.mp he).1) (by simp [Entry.event, Event.isClosing])

/-- On the way outwards the outermost filters are called, and no others. -/
theorem entries_outward_of_ne {cb : Callback} (h : cb ≠ .resourceAfter) (ends : Ends)
    (ps : List Place) (s t : State) : entries cb (ends.outward ps s t).events = [] := by
  simp only [Ends.outward, Step.andThen_events, entries_append, entries_settle,
    entries_writeMissing, List.append_nil]
  exact entries_ascend_of_ne (l := .resource) (fun h' => h h'.symm) ps _ t

section Runs

variable {ends : Ends} {ps : List Place} {call : Call} {es₁ es₂ : List Event} {e : Entry}

/-! ## Behind authorization -/

/-- A request that was refused authorization is answered, and nothing else is done. -/
theorem acts_behind_authorization
    (h : (run ends ps (.initial call)).events = es₁ ++ e.event :: es₂)
    (hcb : e.callback = .authorization) (hv : e.verdict = .refused) :
    acts es₂ = [.rendered (e.granted.result.getD .empty)] := by
  have he : e ∈ entries .authorization (run ends ps (.initial call)).events :=
    mem_entries.mpr ⟨by simp [h], hcb⟩
  have hc := not_cancelled_of_called ends he
  rw [entries_authorization_run ends hc] at he
  obtain ⟨hverdict, front, hstep, -⟩ := passage_of_refused he hv
  obtain ⟨tail, hrun, hclosing⟩ := events_run ends ps call
  rw [proceed_of_refused ends ps (State.interruption_begun hc) (State.begun_open call) hverdict]
    at hrun
  obtain ⟨-, rfl⟩ := split_at_refused [.opened call.id call.action.displayName ps.length]
    ((ends.writeDirectly e.granted).events ++ tail) hcb he hv
    (by rw [← h, hrun]; simp [hstep]) rfl (by simp [entries_of_closing _ hclosing])
  rw [acts_cons_of_not rfl, acts_append, acts_writeDirectly, acts_of_closing hclosing]
  rfl

/-! ## Behind an outermost filter -/

/-- The answer of an outermost filter is rendered, the filters that were entered are left, and they
see that the request was answered. -/
theorem acts_behind_resourceBefore
    (h : (run ends ps (.initial call)).events = es₁ ++ e.event :: es₂)
    (hcb : e.callback = .resourceBefore) (hv : e.verdict = .refused) :
    (∃ afters : List Entry,
      acts es₂ = .rendered (e.granted.result.getD .empty) :: afters.map Entry.event ∧
        ∀ f ∈ afters, f.callback = .resourceAfter ∧ f.before.canceled = true) ∧
      (ends.proceed ps (.begun call)).state.canceled = true := by
  have he : e ∈ entries .resourceBefore (run ends ps (.initial call)).events :=
    mem_entries.mpr ⟨by simp [h], hcb⟩
  have hauth := authorized_of_called ends (by decide) he
  rw [entries_resourceBefore_run ends hauth] at he
  have hopen := State.authorized_open ((authorized_run_iff ends).mp hauth).2
  obtain ⟨hverdict, front, hstep, -⟩ := passage_of_refused he hv
  have hstate : (Step.toCore ps call).state = e.granted := congrArg Step.state hstep
  -- the answer takes the place of what lies inside
  have hinside : ends.inside ps e.granted = ends.writeDirectly e.granted := by
    rw [← hstate]
    exact inside_of_refused ends ps hopen hverdict
  have hcanceled : (ends.writeDirectly e.granted).state.canceled = true := by
    have hdue : e.granted.renderDone = false := by
      rw [← hstate]
      exact (advance_frame (fun _ _ _ => Entry.step_renderDone rfl) _).trans hopen.due
    have hhalts := (Entry.verdict_eq_refused.mp hv).2
    rw [← hinside]
    refine (course_inside hdue).canceled ?_
    simp_all [Entry.halts, Callback.endsWithResult, Callback.changesResult]
  obtain ⟨tail, hrun, hclosing⟩ := events_run ends ps call
  rw [proceed_of_authorized hauth, Step.andThen_events, Step.andThen_events, Step.andThen_state,
    hstate, hinside] at hrun
  have hdone : (ends.writeDirectly e.granted).state.renderDone = true := by
    simp [State.renderDone, rendered_writeDirectly]
  have houtward := course_outward ends ps (.authorized ps call) (ends.writeDirectly e.granted).state
  obtain ⟨-, rfl⟩ := split_at_refused
    (.opened call.id call.action.displayName ps.length ::
      (Callback.authorization.passage ps (.begun call)).step.events)
    ((ends.writeDirectly e.granted).events ++ (ends.outward ps (.authorized ps call)
      (ends.writeDirectly e.granted).state).events ++ tail)
    hcb he hv (by rw [← h, hrun]; simp [Step.toCore, State.authorized])
    (by rw [entries_cons_of_none _ rfl, entries_passage_of_ne (by decide)])
    (by simp [entries_outward_of_ne, entries_of_closing _ hclosing])
  obtain ⟨afters, hacts, hafters⟩ := acts_outward_of_done ends ps (.authorized ps call) hdone
  refine ⟨⟨afters, ?_, fun f hf => ⟨hafters f hf, ?_⟩⟩, ?_⟩
  · rw [acts_cons_of_not rfl, acts_append, acts_append, acts_writeDirectly, hacts,
      acts_of_closing hclosing]
    simp
  · refine houtward.called_canceled hcanceled ?_
    have hmem : f.event ∈ acts _ := hacts ▸ List.mem_map_of_mem hf
    exact (List.mem_filter.mp hmem).1
  · rw [proceed_of_authorized hauth, Step.andThen_state, Step.andThen_state, hstate, hinside]
    exact houtward.canceled hcanceled

/-! ## In front of the action -/

/-- Rendering with the filters around it takes place in a trace, of a run that renders directly or
not. -/
def EntersRendering (direct : Bool) (es : List Event) : Prop :=
  ∃ x ∈ es, x.stage? direct = some 2

/-- What is left of a run behind the action and the filters around it. -/
def Ends.behindAction (ends : Ends) (ps : List Place) (call : Call) : Step :=
  ((ends.resultPhase ps (ends.throughAction ps call).state).andThen
    (ends.exceptionPhase ps)).andThen (ends.outward ps (.authorized ps call))

theorem stage_outward {d : Bool} {s t : State}
    (hd : Event.renderingDirectly ∈ (ends.outward ps s t).events → d = true) :
    ∀ x ∈ (ends.outward ps s t).events, x.stage? d = none ∨ x.stage? d = some 3 := by
  simp only [Ends.outward, Step.andThen_events, Step.andThen_state, List.mem_append] at hd ⊢
  rintro x ((hx | hx) | hx)
  · exact stage_ascend (l := .resource) t x hx
  · exact .inl (stage_settle _ x hx)
  · exact .inl (stage_writeMissing (fun h => hd (.inr h)) x hx)

/-- Where rendering takes place, a filter in front of it is called or a result is rendered. -/
theorem resultPhase_begins (ends : Ends) (ps : List Place) {s : State} (hfree : s.pending = none)
    (hs : s.suppressed = false) :
    (∃ e : Entry, e.event ∈ (ends.resultPhase ps s).events ∧ e.callback = .resultBefore) ∨
      ∃ a, .rendered a ∈ (ends.resultPhase ps s).events ∧
        (ends.resultPhase ps s).state.rendered = true := by
  by_cases hv : (Callback.resultBefore.passage ps s).verdict = .admitted
  · have hwrite (t : State) : .rendered (t.result.getD .empty) ∈ (ends.write t).events := by
      rcases write_cases ends t with ⟨f, -, h⟩ | ⟨-, h⟩ <;> simp [h]
    refine .inr ⟨(Callback.resultBefore.passage ps s).step.state.result.getD .empty, ?_,
      rendered_resultPhase hfree hs hv⟩
    rw [resultPhase_of_free ends ps hfree, surround_of_admitted (l := .result) ps hs hv]
    simp only [Step.andThen_events, List.mem_append]
    exact .inl (.inl (.inr (hwrite _)))
  · -- the passage ends with a filter
    obtain ⟨front, last, hentries, -, -⟩ := advance_of_not_admitted hv
    have hlast : last ∈ entries .resultBefore (Callback.resultBefore.passage ps s).step.events := by
      rw [Callback.passage, hentries]
      simp
    obtain ⟨hmem, hcb⟩ := mem_entries.mp hlast
    rw [resultPhase_of_free ends ps hfree, surround_of_not_admitted (l := .result) ps hs hv]
    exact .inl ⟨last, by simp [Layer.before, hmem], hcb⟩

section Reached

variable (hreached : CoreReached ps call (run ends ps (.initial call)).events)

include hreached

theorem events_run_behindAction :
    ∃ tail, (run ends ps (.initial call)).events =
        .opened call.id call.action.displayName ps.length ::
          ((ends.throughAction ps call).events ++ ((ends.behindAction ps call).events ++ tail)) ∧
      ∀ e ∈ tail, e.isClosing = true := by
  obtain ⟨tail, hrun, hclosing⟩ := events_run_of_reached hreached
  exact ⟨tail, by simp [hrun, Ends.throughCore, Ends.behindAction], hclosing⟩

/-- Behind the action the filters around it are not called again. -/
theorem entries_behindAction {cb : Callback} (hcb : cb.capability = .action) :
    entries cb (ends.behindAction ps call).events = [] := by
  have hsuppressed : (ends.throughAction ps call).state.suppressed = false :=
    suppressed_actionPhase ends ps (State.atCore_open ends hreached)
  have hne : cb ≠ .resourceAfter := by
    rintro rfl
    simp [Callback.capability] at hcb
  simp [Ends.behindAction, entries_outward_of_ne hne,
    entries_resultPhase_of_ne ends ps (show cb.capability ≠ .result by simp [hcb]) hsuppressed,
    entries_exceptionPhase_of_ne ends ps (show cb.capability ≠ .exception by simp [hcb])]

/-- Behind the action, a fault is in flight exactly if the trace so far leaves one. -/
theorem inFlight_throughAction :
    inFlight (.opened call.id call.action.displayName ps.length ::
        (ends.throughAction ps call).events) = none ↔
      (ends.throughAction ps call).state.pending = none := by
  have hhandled : (ends.throughAction ps call).state.handled = false := Step.handled_settle _
  have hunhandled := (course_throughAction hreached).unhandled
  rw [State.unhandled_of_not_handled hhandled] at hunhandled
  rw [← Option.map_eq_none_iff (f := fun p : Pending => (p.phase, p.fault)), hunhandled]
  rfl

/-- Behind the action, rendering takes place exactly if no fault is in flight. -/
theorem entersRendering_behindAction {tail : List Event}
    (hrun : (run ends ps (.initial call)).events =
      .opened call.id call.action.displayName ps.length ::
        ((ends.throughAction ps call).events ++ ((ends.behindAction ps call).events ++ tail)))
    (hclosing : ∀ e ∈ tail, e.isClosing = true) :
    EntersRendering ((run ends ps (.initial call)).events.any Event.isDirect)
        ((ends.behindAction ps call).events ++ tail) ↔
      (ends.throughAction ps call).state.pending = none := by
  have hmem {y : Event} (hy : y ∈ (ends.behindAction ps call).events) :
      y ∈ (run ends ps (.initial call)).events := by
    rw [hrun]
    exact List.mem_cons_of_mem _ (List.mem_append_right _ (List.mem_append_left _ hy))
  constructor
  · rintro ⟨x, hx, hstage⟩
    -- with a fault in flight, only the filters that are shown it and the way outwards are left
    refine Decidable.byContradiction fun hfault => ?_
    have hdirect (h : Event.renderingDirectly ∈ (ends.behindAction ps call).events) :
        (run ends ps (.initial call)).events.any Event.isDirect = true :=
      List.any_eq_true.mpr ⟨_, hmem h, rfl⟩
    rw [Ends.behindAction, resultPhase_of_fault ends ps (by simpa using hfault)] at hx hdirect
    simp only [Step.andThen_events, Step.stay_events, List.nil_append, List.mem_append]
      at hx hdirect
    rcases hx with (hx | hx) | hx
    · simp [stage_exceptionPhase (fun h => hdirect (.inl h)) x hx] at hstage
    · rcases stage_outward (fun h => hdirect (.inr h)) x hx with h | h <;> simp [h] at hstage
    · have hc := hclosing x hx
      cases x <;> simp_all [Event.isClosing, Event.stage?, Event.phase?]
  · intro hfree
    have hsuppressed : (ends.throughAction ps call).state.suppressed = false :=
      suppressed_actionPhase ends ps (State.atCore_open ends hreached)
    have hresult {x : Event}
        (hx : x ∈ (ends.resultPhase ps (ends.throughAction ps call).state).events) :
        x ∈ (ends.behindAction ps call).events ++ tail := by
      simp [Ends.behindAction, hx]
    rcases resultPhase_begins ends ps hfree hsuppressed with ⟨e, he, hcb⟩ | ⟨a, ha, hrendered⟩
    · exact ⟨e.event, hresult he, by simp [Entry.event, Event.stage?, hcb, Callback.stage?]⟩
    · have hdone : (ends.throughCore ps call).state.renderDone = true := by
        simp [Ends.throughCore, State.renderDone, hrendered]
      exact ⟨.rendered a, hresult ha, by rw [isDirect_run_of_done hreached hdone]; rfl⟩

/-- Unless every filter in front of the action lets the request pass, the filters that were entered
are left and nothing else is done. -/
theorem events_throughAction_of_not_admitted
    (hv : (Callback.actionBefore.passage ps (.atCore ps call)).verdict ≠ .admitted) :
    ∃ left : List Event,
      (ends.throughAction ps call).events = (Step.toCore ps call).events ++
        (Callback.actionBefore.passage ps (.atCore ps call)).step.events ++ left ∧
      acts left = (entries .actionAfter left).map Entry.event ∧
      (entries .actionAfter left).map Entry.seat =
        (((entries .actionBefore (Callback.actionBefore.passage ps
          (.atCore ps call)).step.events).filter Entry.returned).map Entry.seat).reverse ∧
      entries .actionBefore left = [] := by
  have hopen := State.atCore_open ends hreached
  have hphase : ends.actionPhase ps (.atCore ps call) = _ :=
    surround_of_not_admitted (l := .action) ps hopen.active hv
  have hthrough : (ends.throughAction ps call).events =
      (Step.toCore ps call).events ++ (ends.actionPhase ps (.atCore ps call)).events := rfl
  rw [hphase] at hthrough
  simp only [Step.andThen_events, Step.andThen_state, List.append_assoc, Layer.before] at hthrough
  refine ⟨_, by rw [hthrough, List.append_assoc], ?_, ?_, ?_⟩
  · rw [acts_append, acts_ascend, acts_settle, entries_append, entries_settle, List.append_nil,
      List.append_nil]
    rfl
  · rw [entries_append, entries_settle, List.append_nil]
    exact (entries_ascend .action ps _ _).trans
      (Layer.map_seat_entered (l := .action) ps hopen.active)
  · rw [entries_append, entries_settle, entries_ascend_of_ne (by decide), List.append_nil]

/-- The filters in front of the action that were entered are left behind an answer, without the
action, and rendering takes place unless a fault is in flight then. -/
theorem acts_behind_actionBefore
    (h : (run ends ps (.initial call)).events = es₁ ++ e.event :: es₂)
    (hcb : e.callback = .actionBefore) (hv : e.verdict = .refused) :
    invocations (run ends ps (.initial call)).events = [] ∧ entries .actionBefore es₂ = [] ∧
      ∃ es₃ es₄, es₂ = es₃ ++ es₄ ∧ acts es₃ = (entries .actionAfter es₃).map Entry.event ∧
        (entries .actionAfter es₃).map Entry.seat =
          (((entries .actionBefore (es₁ ++ [e.event])).filter
            Entry.returned).map Entry.seat).reverse ∧
        entries .actionAfter es₄ = [] ∧
        (EntersRendering ((run ends ps (.initial call)).events.any Event.isDirect) es₄ ↔
          inFlight (es₁ ++ e.event :: es₃) = none) := by
  have he : e ∈ entries .actionBefore (run ends ps (.initial call)).events :=
    mem_entries.mpr ⟨by simp [h], hcb⟩
  rw [entries_actionBefore_run hreached] at he
  obtain ⟨hverdict, -⟩ := passage_of_refused he hv
  obtain ⟨left, hthrough, hacts, hseats, hnone⟩ :=
    events_throughAction_of_not_admitted hreached (by simp [hverdict])
  obtain ⟨tail, hrun, hclosing⟩ := events_run_behindAction hreached
  have hbehind {cb : Callback} (hcap : cb.capability = .action) :
      entries cb ((ends.behindAction ps call).events ++ tail) = [] := by
    rw [entries_append, entries_behindAction hreached hcap, entries_of_closing cb hclosing]
    rfl
  have hfront {cb : Callback} (hcap : cb.capability = .action) :
      entries cb (.opened call.id call.action.displayName ps.length ::
        (Step.toCore ps call).events) = [] := by
    rw [entries_cons_of_none cb rfl, Step.toCore, Step.andThen_events, entries_append,
      entries_passage_of_ne (by rintro rfl; simp [Callback.capability] at hcap),
      entries_passage_of_ne (by rintro rfl; simp [Callback.capability] at hcap)]
    rfl
  obtain ⟨hsplit, rfl⟩ := split_at_refused
    (.opened call.id call.action.displayName ps.length :: (Step.toCore ps call).events)
    (left ++ ((ends.behindAction ps call).events ++ tail)) hcb he hv
    (by rw [← h, hrun, hthrough]; simp) (hfront rfl)
    (by rw [entries_append, hnone, hbehind rfl]; rfl)
  refine ⟨?_, ?_, .shortCircuited e.listing.name Callback.actionBefore.phase :: left,
    (ends.behindAction ps call).events ++ tail, rfl, ?_, ?_, hbehind rfl, ?_⟩
  · simp [invocations_run_of_reached ends call hreached, hverdict]
  · rw [entries_cons_of_none _ rfl, entries_append, hnone, hbehind rfl]
    rfl
  · rw [acts_cons_of_not rfl, entries_cons_of_none _ rfl, hacts]
  · -- the filters called so far are those of the passage
    have hentries := congrArg (entries .actionBefore) hsplit
    rw [entries_append, hfront rfl, List.nil_append, List.append_cons, entries_append,
      entries_cons_of_none _ rfl, entries_nil, List.append_nil] at hentries
    rw [entries_cons_of_none _ rfl, hseats, hentries]
  · have hall := congrArg (· ++ left) hsplit
    simp only [List.cons_append, List.append_assoc, List.nil_append] at hall
    rw [entersRendering_behindAction hreached hrun hclosing, ← inFlight_throughAction hreached,
      hthrough, List.append_assoc, hall]

/-! ## In front of rendering -/

/-- A filter in front of rendering that keeps the result from being rendered is the last that is
called there, and nothing is rendered in the whole run. -/
theorem renderings_of_suppressed
    (h : (run ends ps (.initial call)).events = es₁ ++ e.event :: es₂)
    (hcb : e.callback = .resultBefore) (hv : e.verdict = .refused) :
    entries .resultBefore es₂ = [] ∧ renderings (run ends ps (.initial call)).events = [] := by
  have he : e ∈ entries .resultBefore (run ends ps (.initial call)).events :=
    mem_entries.mpr ⟨by simp [h], hcb⟩
  have hs := State.begun_open call
  constructor
  · -- rendering is balanced, so all but the last of these filters let the request pass
    have hbalanced : Layer.result.Balanced ps (run ends ps (.initial call)).events := by
      refine result_balanced ends ps call hreached (Decidable.byContradiction fun hfault => ?_)
      exact absurd ((result_absent ends ps call hreached hfault).1 ▸ he) List.not_mem_nil
    rw [h] at hbalanced
    exact hbalanced.none_behind hcb hv
  · have hsuppressed : (ends.proceed ps (.begun call)).state.suppressed = true := by
      rw [suppressed_proceed ends ps hs, ← entries_run, List.any_eq_true]
      refine ⟨e, he, ?_⟩
      simpa [Entry.halts, hcb, Callback.endsWithResult, Callback.changesResult] using
        (Entry.verdict_eq_refused.mp hv).2
    -- what was rendered was not kept from being rendered
    have hrendered : (ends.proceed ps (.begun call)).state.rendered = false := by
      rw [← Bool.not_eq_true]
      intro hr
      simp [(consistent_proceed ends ps hs).exclusive hr] at hsuppressed
    have hcount := rendered_proceed ends ps hs
    rw [hrendered, Bool.toNat_false, ← renderings_run] at hcount
    exact List.length_eq_zero_iff.mp hcount.symm

end Reached

end Runs

/-! ## Short circuits -/

/-- What lies further in than a filter that answers, or that keeps the result from being rendered,
is skipped. Behind authorization the answer is rendered and nothing else is done. Behind an
outermost filter the answer is rendered, the filters that were entered are left, and the request
counts as answered to the end. In front of the action the filters that were entered are left, the
action is not invoked, and rendering takes place exactly if no fault is in flight then. In front of
rendering nothing is rendered, in the whole run. -/
theorem run_contains_short_circuits (ends : Ends) (ps : List Place) (call : Call) :
    let r := run ends ps (.initial call)
    ∀ (es₁ : List Event) (e : Entry) (es₂ : List Event),
      r.events = es₁ ++ e.event :: es₂ → e.returned = true →
      (e.callback = .authorization → ∀ a, e.reply.result = some a → acts es₂ = [.rendered a]) ∧
      (e.callback = .resourceBefore → ∀ a, e.reply.result = some a →
        (∃ afters : List Entry, acts es₂ = .rendered a :: afters.map Entry.event ∧
          ∀ f ∈ afters, f.callback = .resourceAfter ∧ f.before.canceled = true) ∧
        r.state.canceled = true ∧ ∀ o, r.outcome = .ok o → o.canceled = true) ∧
      (e.callback = .actionBefore → e.reply.result.isSome = true →
        invocations r.events = [] ∧ entries .actionBefore es₂ = [] ∧
        ∃ es₃ es₄, es₂ = es₃ ++ es₄ ∧ acts es₃ = (entries .actionAfter es₃).map Entry.event ∧
          (entries .actionAfter es₃).map Entry.seat =
            (((entries .actionBefore (es₁ ++ [e.event])).filter
              Entry.returned).map Entry.seat).reverse ∧
          entries .actionAfter es₄ = [] ∧
          (EntersRendering (r.events.any Event.isDirect) es₄ ↔
            inFlight (es₁ ++ e.event :: es₃) = none)) ∧
      (e.callback = .resultBefore → e.reply.suppress = true →
        entries .resultBefore es₂ = [] ∧ renderings r.events = []) := by
  intro r es₁ e es₂ h hret
  have hmem {cb : Callback} (hcb : e.callback = cb) : e ∈ entries cb r.events :=
    mem_entries.mpr ⟨by simp [h], hcb⟩
  -- whoever answers at such a moment refuses the request
  have hrefused {cb : Callback} (hcb : e.callback = cb) (hends : cb.endsWithResult = true)
      (hsome : e.reply.result.isSome = true) : e.verdict = .refused :=
    Entry.verdict_eq_refused.mpr ⟨hret, by simp [Entry.halts, hcb, hends, hsome]⟩
  refine ⟨?_, ?_, ?_, ?_⟩
  · intro hcb a ha
    simpa [ha] using acts_behind_authorization h hcb (hrefused hcb rfl (by simp [ha]))
  · intro hcb a ha
    obtain ⟨hacts, hcanceled⟩ :=
      acts_behind_resourceBefore h hcb (hrefused hcb rfl (by simp [ha]))
    refine ⟨by simpa [ha] using hacts, (Step.finish_canceled _).trans hcanceled, ?_⟩
    intro o ho
    rw [show r.outcome = _ from run_outcome ends ps call, Step.finish_eq_ok] at ho
    rw [← ho.2]
    exact hcanceled
  · intro hcb hsome
    exact acts_behind_actionBefore (reached_of_called ends (by decide) (by decide) (hmem hcb)) h hcb
      (hrefused hcb rfl hsome)
  · intro hcb hsuppress
    refine renderings_of_suppressed (reached_of_called ends (by decide) (by decide) (hmem hcb)) h
      hcb (Entry.verdict_eq_refused.mpr ⟨hret, ?_⟩)
    simp [Entry.halts, hcb, Callback.changesResult, hsuppress]

/-- A short circuit is contained at every moment at which a filter can make one. -/
theorem run_contains_every_short_circuit :
    let around : Around := ⟨fun _ => { result := some (.bare .forbidden) }, .idle⟩
    let silent : Around := ⟨fun _ => { suppress := true }, .idle⟩
    let door : Filter := { name := "door", authorization := some around.before }
    let cache : Filter := { name := "cache", resource := some around }
    let stub : Filter := { name := "stub", action := some around }
    let mute : Filter := { name := "mute", result := some silent }
    let ends : Ends := ⟨fun _ => { outcome := .ok .unit }, fun _ _ => {}⟩
    let events (f : Filter) : List Event :=
      (run ends [⟨0, .shared .global f, f, rfl⟩]
        (.initial (.ofAction ⟨"jobs", "run", .unit⟩))).events
    (∃ es₁ e es₂ a, events door = es₁ ++ Entry.event e :: es₂ ∧ e.reply.result = some a ∧
        acts es₂ = [.rendered a]) ∧
      (∃ es₁ e es₂ a, events cache = es₁ ++ Entry.event e :: es₂ ∧ e.reply.result = some a ∧
        (acts es₂).head? = some (.rendered a)) ∧
      invocations (events stub) = [] ∧ renderings (events mute) = [] := by
  intro around silent door cache stub mute ends events
  have hdoor : (entries .authorization (events door)).any
      (fun e => e.returned && e.reply.result.isSome) = true := by decide +kernel +zetaReduce
  have hcache : (entries .resourceBefore (events cache)).any
      (fun e => e.returned && e.reply.result.isSome) = true := by decide +kernel +zetaReduce
  have hstub : (entries .actionBefore (events stub)).any
      (fun e => e.returned && e.reply.result.isSome) = true := by decide +kernel +zetaReduce
  have hmute : (entries .resultBefore (events mute)).any
      (fun e => e.returned && e.reply.suppress) = true := by decide +kernel +zetaReduce
  refine ⟨?_, ?_, ?_, ?_⟩
  · obtain ⟨es₁, e, es₂, hsplit, hcb, he⟩ := exists_split_of_any hdoor
    obtain ⟨hret, hsome⟩ := Bool.and_eq_true_iff.mp he
    obtain ⟨a, ha⟩ := Option.isSome_iff_exists.mp hsome
    exact ⟨es₁, e, es₂, a, hsplit, ha,
      (run_contains_short_circuits ends _ _ es₁ e es₂ hsplit hret).1 hcb a ha⟩
  · obtain ⟨es₁, e, es₂, hsplit, hcb, he⟩ := exists_split_of_any hcache
    obtain ⟨hret, hsome⟩ := Bool.and_eq_true_iff.mp he
    obtain ⟨a, ha⟩ := Option.isSome_iff_exists.mp hsome
    obtain ⟨⟨afters, hacts, -⟩, -⟩ :=
      (run_contains_short_circuits ends _ _ es₁ e es₂ hsplit hret).2.1 hcb a ha
    exact ⟨es₁, e, es₂, a, hsplit, ha, by rw [hacts, List.head?_cons]⟩
  · obtain ⟨es₁, e, es₂, hsplit, hcb, he⟩ := exists_split_of_any hstub
    obtain ⟨hret, hsome⟩ := Bool.and_eq_true_iff.mp he
    exact ((run_contains_short_circuits ends _ _ es₁ e es₂ hsplit hret).2.2.1 hcb hsome).1
  · obtain ⟨es₁, e, es₂, hsplit, hcb, he⟩ := exists_split_of_any hmute
    obtain ⟨hret, hsuppress⟩ := Bool.and_eq_true_iff.mp he
    exact ((run_contains_short_circuits ends _ _ es₁ e es₂ hsplit hret).2.2.2 hcb hsuppress).2

end RequestPipeline
