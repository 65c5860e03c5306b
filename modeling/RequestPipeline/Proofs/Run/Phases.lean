import RequestPipeline.Proofs.Run.Passage

/-!
# The phases of a run

Which way a run takes is decided by the verdicts of its passages: of authorization
(`proceed_of_admitted` and its siblings), of the outermost filters (`inside_of_admitted` and its
siblings), and of the filters around the action and around rendering (`surround_of_admitted`,
`surround_of_not_admitted`). Each phase has entries only at its own moments.
-/

set_option autoImplicit false

namespace RequestPipeline

variable (ends : Ends) (ps : List Place) {s : State}

/-! ## The ends -/

/-- What invoking the action comes to once its output is held against the declared kind. -/
def Ends.invocation (c : Call) : Except Fault Answer :=
  match (ends.invoke c).outcome with
  | .error f => .error f
  | .ok output => output.honour c.action

/-- The call behind an invocation, which may have cancelled the request. -/
def Ends.callBehind (c : Call) : Call := if (ends.invoke c).cancel then c.cancel else c

/-- The state behind a rendering, its fault apart. -/
def Ends.written (s : State) : State :=
  let answer := s.result.getD .empty
  { s with
    rendered := true
    result := some answer
    call := if (ends.render s.call answer).cancel then s.call.cancel else s.call }

variable {ends}

/-- A request that was cancelled is not performed. -/
theorem perform_of_interrupted {f : Fault} (h : s.call.interruption? = some f) :
    ends.perform s = ⟨s.raise f .action, [.invoking, .raised .action f]⟩ := by
  simp [Ends.perform, h]

/-- An invocation that fails raises its fault. -/
theorem perform_of_error {f : Fault} (hs : s.call.interruption? = none)
    (h : ends.invocation s.call = .error f) :
    ends.perform s =
      ⟨{ s with call := ends.callBehind s.call }.raise f .action,
        [.invoking, .invoked s.call, .raised .action f]⟩ := by
  unfold Ends.invocation at h
  -- either the invocation fails or what it produced is not of the declared kind
  cases ho : (ends.invoke s.call).outcome with
  | error g =>
    obtain rfl : g = f := by simpa [ho] using h
    cases hc : (ends.invoke s.call).cancel <;> simp [Ends.perform, Ends.callBehind, hs, ho, hc]
  | ok output =>
    simp only [ho] at h
    cases hc : (ends.invoke s.call).cancel <;>
      simp [Ends.perform, Ends.callBehind, hs, ho, hc, h, Call.cancel]

/-- An invocation that succeeds sets its answer. -/
theorem perform_of_ok {a : Answer} (hs : s.call.interruption? = none)
    (h : ends.invocation s.call = .ok a) :
    ends.perform s =
      ⟨{ s with call := ends.callBehind s.call, result := some a },
        [.invoking, .invoked s.call]⟩ := by
  unfold Ends.invocation at h
  cases ho : (ends.invoke s.call).outcome with
  | error g => simp [ho] at h
  | ok output =>
    simp only [ho] at h
    cases hc : (ends.invoke s.call).cancel <;>
      simp [Ends.perform, Ends.callBehind, hs, ho, hc, h, Call.cancel]

theorem write_of_fault {f : Fault}
    (h : (ends.render s.call (s.result.getD .empty)).fault = some f) :
    ends.write s =
      ⟨(ends.written s).raise f .render,
        [.rendered (s.result.getD .empty), .raised .render f]⟩ := by
  simp [Ends.write, Ends.written, h]

theorem write_of_no_fault (h : (ends.render s.call (s.result.getD .empty)).fault = none) :
    ends.write s = ⟨ends.written s, [.rendered (s.result.getD .empty)]⟩ := by
  simp [Ends.write, Ends.written, h]

variable (ends)

/-- The three ways in which performing the action can go. -/
theorem perform_cases (s : State) :
    (∃ f, s.call.interruption? = some f ∧
        ends.perform s = ⟨s.raise f .action, [.invoking, .raised .action f]⟩) ∨
      (s.call.interruption? = none ∧ ∃ f, ends.invocation s.call = .error f ∧
        ends.perform s = ⟨{ s with call := ends.callBehind s.call }.raise f .action,
          [.invoking, .invoked s.call, .raised .action f]⟩) ∨
      (s.call.interruption? = none ∧ ∃ a, ends.invocation s.call = .ok a ∧
        ends.perform s = ⟨{ s with call := ends.callBehind s.call, result := some a },
          [.invoking, .invoked s.call]⟩) := by
  cases hs : s.call.interruption? with
  | some f => exact .inl ⟨f, rfl, perform_of_interrupted hs⟩
  | none =>
    cases h : ends.invocation s.call with
    | error f => exact .inr (.inl ⟨rfl, f, rfl, perform_of_error hs h⟩)
    | ok a => exact .inr (.inr ⟨rfl, a, rfl, perform_of_ok hs h⟩)

/-- The two ways in which rendering can go. -/
theorem write_cases (s : State) :
    (∃ f, (ends.render s.call (s.result.getD .empty)).fault = some f ∧
        ends.write s = ⟨(ends.written s).raise f .render,
          [.rendered (s.result.getD .empty), .raised .render f]⟩) ∨
      ((ends.render s.call (s.result.getD .empty)).fault = none ∧
        ends.write s = ⟨ends.written s, [.rendered (s.result.getD .empty)]⟩) := by
  cases h : (ends.render s.call (s.result.getD .empty)).fault with
  | some f => exact .inl ⟨f, rfl, write_of_fault h⟩
  | none => exact .inr ⟨rfl, write_of_no_fault h⟩

/-- The two ways in which settling can go. -/
theorem settle_cases (s : State) :
    (s.handled = false ∧ Step.settle s = .stay s) ∨
      ∃ p, s.pending = some p ∧ p.handled = true ∧ Step.settle s =
        ⟨{ s with pending := none, recovered := true }, [.settled p.phase p.fault]⟩ := by
  cases hh : s.handled with
  | false => exact .inl ⟨rfl, Step.settle_of_not_handled hh⟩
  | true =>
    obtain ⟨p, hp, hph⟩ : ∃ p, s.pending = some p ∧ p.handled = true := by
      simpa [State.handled, Option.any_eq_true] using hh
    exact .inr ⟨p, hp, hph, Step.settle_of_handled hp hph⟩

/-! ## Phases that take place under conditions -/

/-- Rendering is made up for if nothing is in flight and it is due. -/
theorem writeMissing_cases (s : State) :
    (s.pending = none ∧ s.renderDone = false ∧ ends.writeMissing s = ends.writeDirectly s) ∨
      ((s.pending = none → s.renderDone = true) ∧ ends.writeMissing s = .stay s) := by
  cases hp : s.pending <;> cases hd : s.renderDone <;> simp [Ends.writeMissing, hp, hd]

theorem resultPhase_of_free (h : s.pending = none) :
    ends.resultPhase ps s = Layer.result.surround ps ends.write s := by
  simp [Ends.resultPhase, h]

theorem resultPhase_of_fault (h : s.pending ≠ none) : ends.resultPhase ps s = .stay s := by
  simp [Ends.resultPhase, h]

theorem exceptionPhase_of_free (h : s.pending = none) : ends.exceptionPhase ps s = .stay s := by
  simp [Ends.exceptionPhase, h]

/-- A fault in flight is shown to the filters that take part, the innermost first. -/
theorem exceptionPhase_of_fault (h : s.pending ≠ none) :
    ends.exceptionPhase ps s =
      ((advance ps .exception (Callback.exception.members ps).reverse s).step.andThen
        .settle).andThen ends.writeMissing := by
  simp [Ends.exceptionPhase, h, showFault_eq_advance, Place.handlers_eq]

/-! ## What the ends leave as it is -/

@[simp] theorem settle_rendered (s : State) : (Step.settle s).state.rendered = s.rendered := by
  rcases settle_cases s with ⟨-, h⟩ | ⟨p, -, -, h⟩
  · rw [h, Step.stay_state]
  · rw [h]

@[simp] theorem settle_suppressed (s : State) :
    (Step.settle s).state.suppressed = s.suppressed := by
  rcases settle_cases s with ⟨-, h⟩ | ⟨p, -, -, h⟩
  · rw [h, Step.stay_state]
  · rw [h]

@[simp] theorem settle_renderDone (s : State) :
    (Step.settle s).state.renderDone = s.renderDone := by
  simp [State.renderDone]

theorem perform_renderDone (ends : Ends) (s : State) :
    (ends.perform s).state.renderDone = s.renderDone := by
  rcases perform_cases ends s with ⟨f, -, h⟩ | ⟨-, f, -, h⟩ | ⟨-, a, -, h⟩ <;> rw [h] <;> rfl

/-! ## States in which a run is open -/

/-- No fault is in flight, no filter has answered, and rendering is due. -/
structure State.Open (s : State) : Prop where
  free : s.pending = none
  active : s.canceled = false
  due : s.renderDone = false

theorem Callback.stopped_eq_canceled {cb : Callback} (h : cb.endsWithResult = true) (s : State) :
    cb.stopped s = s.canceled := by
  cases cb <;> simp_all [stopped, endsWithResult, changesResult]

namespace State.Open

theorem rendered (h : s.Open) : s.rendered = false := by
  have hdue := h.due
  simp only [renderDone, Bool.or_eq_false_iff] at hdue
  exact hdue.1

theorem suppressed (h : s.Open) : s.suppressed = false := by
  have hdue := h.due
  simp only [renderDone, Bool.or_eq_false_iff] at hdue
  exact hdue.2

/-- Behind filters that let the request pass, a run is as open as before. -/
theorem passage {cb : Callback} (h : s.Open) (hcb : cb.endsWithResult = true)
    (hv : (cb.passage ps s).verdict = .admitted) : (cb.passage ps s).step.state.Open where
  free := passage_pending_eq_none h.free (by simp [hv])
  active := by
    rw [← Callback.stopped_eq_canceled hcb]
    exact stopped_advance ((Callback.stopped_eq_canceled hcb s).trans h.active) hv
  due := by
    have hchanges : cb.changesResult = false := by
      cases cb <;> simp_all [Callback.endsWithResult, Callback.changesResult]
    exact (advance_frame (fun _ _ _ => Entry.step_renderDone hchanges) s).trans h.due

end State.Open

/-! ## Authorization -/

section Proceed

theorem proceed_of_interrupted {f : Fault} (h : s.call.interruption? = some f) :
    ends.proceed ps s = .raise f .authorization s := by
  simp [Ends.proceed, h]

variable (hi : s.call.interruption? = none) (hs : s.Open)

include hi hs

theorem proceed_of_faulted (hv : (Callback.authorization.passage ps s).verdict = .faulted) :
    ends.proceed ps s = (Callback.authorization.passage ps s).step := by
  simp [Ends.proceed, hi, authorize_eq_passage ps hs.active, hv]

theorem proceed_of_refused (hv : (Callback.authorization.passage ps s).verdict = .refused) :
    ends.proceed ps s = (Callback.authorization.passage ps s).step.andThen ends.writeDirectly := by
  simp [Ends.proceed, hi, authorize_eq_passage ps hs.active, hv]

theorem proceed_of_admitted (hv : (Callback.authorization.passage ps s).verdict = .admitted) :
    ends.proceed ps s =
      (Callback.authorization.passage ps s).step.andThen (ends.resourcePhase ps) := by
  simp [Ends.proceed, hi, authorize_eq_passage ps hs.active, hv]

end Proceed

/-! ## Layers -/

/-- The filters of a layer that were entered and returned, the innermost first. -/
def Layer.entered (l : Layer) (ps : List Place) (s : State) : List (Place × Around) :=
  (l.descend ps (l.members ps) s).entered

section Layers

variable {l : Layer} {inner : State → Step} (hl : l.stopped s = false)

include hl

/-- What a layer surrounds is reached once every filter has let the request pass. -/
theorem surround_of_admitted (hv : (l.before.passage ps s).verdict = .admitted) :
    l.surround ps inner s =
      (((l.before.passage ps s).step.andThen inner).andThen
        (l.ascend ps (l.entered ps s))).andThen .settle := by
  rw [← l.descend_proceeds ps hl] at hv
  simp [Layer.surround, Layer.entered, hv, l.descend_step ps hl]

/-- The filters that were entered are left even if what the layer surrounds is not reached. -/
theorem surround_of_not_admitted (hv : (l.before.passage ps s).verdict ≠ .admitted) :
    l.surround ps inner s =
      ((l.before.passage ps s).step.andThen (l.ascend ps (l.entered ps s))).andThen .settle := by
  rw [Ne, ← l.descend_proceeds ps hl, Bool.not_eq_true] at hv
  simp only [Layer.surround, Layer.entered, hv, l.descend_step ps hl]
  congr 2
  exact Step.andThen_stay _

end Layers

/-- What holds of the events of every call, of the inner part and of settling holds of the events of
a phase. -/
theorem surround_forall {ps : List Place} {l : Layer} {inner : State → Step} {Q : Event → Prop}
    {s : State} (hl : l.stopped s = false)
    (hcall : ∀ e : Entry, e.callback = l.before ∨ e.callback = l.after →
      ∀ x ∈ e.step.events, Q x)
    (hinner : ∀ s, ∀ x ∈ (inner s).events, Q x)
    (hsettle : ∀ s, ∀ x ∈ (Step.settle s).events, Q x) :
    ∀ x ∈ (l.surround ps inner s).events, Q x := by
  intro x hx
  simp only [Layer.surround, Step.andThen_events, l.descend_step ps hl, List.mem_append] at hx
  rcases hx with ((hx | hx) | hx) | hx
  · exact advance_forall (fun e he => hcall e (.inl he)) s x hx
  · split at hx
    · exact hinner _ x hx
    · simp at hx
  · exact ascend_forall (fun e he => hcall e (.inr he)) _ x hx
  · exact hsettle _ x hx

/-- What neither calls nor the inner part nor settling changes, a phase does not change. -/
theorem surround_frame {α : Type} {view : State → α} {ps : List Place} {l : Layer}
    {inner : State → Step} {s : State} (hl : l.stopped s = false)
    (hbefore : ∀ p b s, view (Place.entry ps l.before p b s).step.state = view s)
    (hinner : ∀ s, view (inner s).state = view s)
    (hafter : ∀ p b s, view (Place.entry ps l.after p b s).step.state = view s)
    (hsettle : ∀ s, view (Step.settle s).state = view s) :
    view (l.surround ps inner s).state = view s := by
  have hdescend : view (l.descend ps (l.members ps) s).step.state = view s := by
    rw [l.descend_step ps hl]
    exact advance_frame hbefore s
  simp only [Layer.surround, Step.andThen_state, hsettle]
  rw [ascend_frame hafter]
  split
  · exact (hinner _).trans hdescend
  · exact hdescend


/-! ## The outermost filters -/

section Inside

theorem resourcePhase_eq (hs : s.canceled = false) :
    ends.resourcePhase ps s =
      ((((Callback.resourceBefore.passage ps s).step.andThen (ends.inside ps)).andThen
        (Layer.resource.ascend ps (Layer.resource.entered ps s))).andThen
          .settle).andThen ends.writeMissing := by
  simp only [Ends.resourcePhase, Layer.entered, Layer.descend_step (l := .resource) ps hs]
  rfl

/-- The way outwards through the outermost filters that were entered from a state: they are left,
and the result is rendered if that is still due. -/
def Ends.outward (s t : State) : Step :=
  ((Layer.resource.ascend ps (Layer.resource.entered ps s) t).andThen .settle).andThen
    ends.writeMissing

theorem resourcePhase_eq_outward (hs : s.canceled = false) :
    ends.resourcePhase ps s =
      ((Callback.resourceBefore.passage ps s).step.andThen (ends.inside ps)).andThen
        (ends.outward ps s) := by
  have houtward : ends.outward ps s = fun t =>
      (Layer.resource.ascend ps (Layer.resource.entered ps s) t).andThen fun u =>
        (Step.settle u).andThen ends.writeMissing :=
    funext fun t => Step.andThen_assoc _ _ _
  rw [resourcePhase_eq ends ps hs, houtward, Step.andThen_assoc, Step.andThen_assoc]

/-- A fault of one of the outermost filters skips what lies inside. -/
theorem inside_of_faulted (hv : (Callback.resourceBefore.passage ps s).verdict = .faulted) :
    ends.inside ps (Callback.resourceBefore.passage ps s).step.state =
      .stay (Callback.resourceBefore.passage ps s).step.state := by
  have h : (Callback.resourceBefore.passage ps s).step.state.pending.isSome = true :=
    advance_pending_of_faulted hv
  simp only [Ends.inside]
  rw [if_pos h]

variable (hs : s.Open)

include hs

/-- The answer of one of the outermost filters is rendered in place of what lies inside. -/
theorem inside_of_refused (hv : (Callback.resourceBefore.passage ps s).verdict = .refused) :
    ends.inside ps (Callback.resourceBefore.passage ps s).step.state =
      ends.writeDirectly (Callback.resourceBefore.passage ps s).step.state := by
  have hfree : (Callback.resourceBefore.passage ps s).step.state.pending = none :=
    passage_pending_eq_none hs.free (by simp [hv])
  -- an answer raises no fault, so the first check fails and the second succeeds
  have hends : Callback.resourceBefore.endsWithResult = true := rfl
  have hcanceled : (Callback.resourceBefore.passage ps s).step.state.canceled = true :=
    (Callback.stopped_eq_canceled hends _).symm.trans
      (stopped_advance_of_refused ((Callback.stopped_eq_canceled hends s).trans hs.active) hv)
  simp [Ends.inside, hfree, hcanceled]

/-- The core is reached once every outermost filter has let the request pass. -/
theorem inside_of_admitted (hv : (Callback.resourceBefore.passage ps s).verdict = .admitted) :
    ends.inside ps (Callback.resourceBefore.passage ps s).step.state =
      ends.core ps (Callback.resourceBefore.passage ps s).step.state := by
  have hopen := hs.passage ps rfl hv
  simp [Ends.inside, hopen.free, hopen.active]

end Inside

/-! ## Entries of phases -/

section Entries

variable {ps} (cb : Callback)

@[simp] theorem entries_perform (s : State) : entries cb (ends.perform s).events = [] := by
  rcases perform_cases ends s with ⟨f, -, h⟩ | ⟨-, f, -, h⟩ | ⟨-, a, -, h⟩ <;> rw [h] <;> rfl

@[simp] theorem entries_write (s : State) : entries cb (ends.write s).events = [] := by
  rcases write_cases ends s with ⟨f, -, h⟩ | ⟨-, h⟩ <;> rw [h] <;> rfl

@[simp] theorem entries_settle (s : State) : entries cb (Step.settle s).events = [] := by
  rcases settle_cases s with ⟨-, h⟩ | ⟨p, -, -, h⟩ <;> rw [h] <;> rfl

@[simp] theorem entries_writeDirectly (s : State) :
    entries cb (ends.writeDirectly s).events = [] := by
  simp only [Ends.writeDirectly, Step.andThen_events, entries_append, entries_write,
    entries_settle, List.append_nil]
  rfl

@[simp] theorem entries_writeMissing (s : State) :
    entries cb (ends.writeMissing s).events = [] := by
  rcases writeMissing_cases ends s with ⟨-, -, h⟩ | ⟨-, h⟩ <;> simp [h]

/-- A passage has entries only at its moment. -/
theorem entries_passage_of_ne {cb cb' : Callback} (h : cb' ≠ cb) :
    entries cb' (cb.passage ps s).step.events = [] :=
  entries_advance_of_ne h.symm

variable {cb}

/-- A phase has the entries of its passage, of what it surrounds if that is reached, and of the way
outwards. -/
theorem entries_surround (ps : List Place) {l : Layer} {inner : State → Step}
    (hl : l.stopped s = false)
    (hinner : ∀ t, entries cb (inner t).events = []) :
    ∃ t, entries cb (l.surround ps inner s).events =
      entries cb (l.before.passage ps s).step.events ++
        entries cb (l.ascend ps (l.entered ps s) t).events := by
  by_cases hv : (l.before.passage ps s).verdict = .admitted
  · rw [surround_of_admitted ps hl hv]
    exact ⟨(inner (l.before.passage ps s).step.state).state, by simp [hinner]⟩
  · rw [surround_of_not_admitted ps hl hv]
    exact ⟨(l.before.passage ps s).step.state, by simp⟩

end Entries

end RequestPipeline
