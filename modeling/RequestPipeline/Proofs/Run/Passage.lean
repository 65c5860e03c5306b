import RequestPipeline.Proofs.Run.Trace

/-!
# Passages

Filters are called one after another in four places of a run: to authorize the request, on the way
inwards through a phase, on the way outwards, and to show a fault. Whatever the place, calling a
filter leads to the same step, which depends on its entry alone (`Entry.step`).

All of them but the way outwards stop at the first filter that does not let the request pass, so
they are one passage (`advance`), and what is known of the entries of a passage is said once:
they are a prefix of the filters of the passage, and only the last of them may not have let the
request pass (`advance_of_admitted`, `advance_of_not_admitted`). On the way outwards every filter is
called (`entries_ascend`).
-/

set_option autoImplicit false

namespace RequestPipeline

/-! ## Single calls -/

/-- The entry of a filter that is called in a state. -/
def Place.entry (ps : List Place) (cb : Callback) (p : Place) (b : Behaviour) (s : State) : Entry :=
  let before := { s with current := some p.index }
  ⟨cb, p.index, p.registration.listing, before, b ⟨Place.listings ps, before⟩⟩

namespace Entry

/-- The state once the reply is granted. -/
def granted (e : Entry) : State := { e.before.grant e.callback e.reply with current := none }

/-- The verdict of the filter on the request. -/
def verdict (e : Entry) : Verdict :=
  if !e.returned then .faulted else if e.halts then .refused else .admitted

/-- What a call leads to: the fault that the filter returned is raised, and the end of the way
inwards is noted. -/
def step (e : Entry) : Step :=
  match e.reply.fault with
  | some f => ⟨e.granted.raise f e.callback.phase, [e.event, .raised e.callback.phase f]⟩
  | none =>
    if e.halts then ⟨e.granted, [e.event, .shortCircuited e.listing.name e.callback.phase]⟩
    else ⟨e.granted, [e.event]⟩

@[simp] theorem granted_call (e : Entry) :
    e.granted.call = e.before.call.grant e.callback e.reply := rfl

@[simp] theorem granted_result (e : Entry) : e.granted.result = e.reply.result.or e.before.result :=
  rfl

@[simp] theorem granted_pending (e : Entry) :
    e.granted.pending = e.before.pending.map fun p => p.grant e.callback e.reply := rfl

@[simp] theorem granted_canceled (e : Entry) :
    e.granted.canceled =
      (e.before.canceled || (e.callback.endsWithResult && e.reply.result.isSome)) := rfl

@[simp] theorem granted_suppressed (e : Entry) :
    e.granted.suppressed =
      (e.before.suppressed || (e.callback.changesResult && e.reply.suppress)) := rfl

@[simp] theorem granted_rendered (e : Entry) : e.granted.rendered = e.before.rendered := rfl

@[simp] theorem granted_recovered (e : Entry) : e.granted.recovered = e.before.recovered := rfl

theorem verdict_eq_admitted {e : Entry} : e.verdict = .admitted ↔ e.passed = true := by
  unfold verdict passed
  cases e.returned <;> cases e.halts <;> simp

theorem verdict_eq_faulted {e : Entry} : e.verdict = .faulted ↔ e.returned = false := by
  unfold verdict
  cases e.returned <;> cases e.halts <;> simp

theorem verdict_eq_refused {e : Entry} :
    e.verdict = .refused ↔ e.returned = true ∧ e.halts = true := by
  unfold verdict
  cases e.returned <;> cases e.halts <;> simp

/-- A filter that raises a fault leaves it in flight. -/
theorem step_of_fault {e : Entry} {f : Fault} (h : e.reply.fault = some f) :
    e.step = ⟨e.granted.raise f e.callback.phase, [e.event, .raised e.callback.phase f]⟩ := by
  simp [step, h]

theorem step_of_refused {e : Entry} (h : e.verdict = .refused) :
    e.step = ⟨e.granted, [e.event, .shortCircuited e.listing.name e.callback.phase]⟩ := by
  obtain ⟨hr, hh⟩ := verdict_eq_refused.mp h
  simp_all [step, returned]

theorem step_of_admitted {e : Entry} (h : e.verdict = .admitted) :
    e.step = ⟨e.granted, [e.event]⟩ := by
  have hp := verdict_eq_admitted.mp h
  simp only [passed, returned, Bool.and_eq_true, Option.isNone_iff_eq_none, Bool.not_eq_true'] at hp
  simp [step, hp.1, hp.2]

/-- The three steps that a call can lead to. -/
theorem step_cases (e : Entry) :
    (∃ f, e.reply.fault = some f ∧
        e.step = ⟨e.granted.raise f e.callback.phase, [e.event, .raised e.callback.phase f]⟩) ∨
      (e.reply.fault = none ∧
        e.step = ⟨e.granted, [e.event, .shortCircuited e.listing.name e.callback.phase]⟩) ∨
      (e.reply.fault = none ∧ e.step = ⟨e.granted, [e.event]⟩) := by
  cases hf : e.reply.fault with
  | some f => exact .inl ⟨f, rfl, step_of_fault hf⟩
  | none =>
    cases hh : e.halts with
    | true =>
      exact .inr (.inl ⟨rfl, step_of_refused (verdict_eq_refused.mpr ⟨by simp [returned, hf], hh⟩)⟩)
    | false =>
      exact .inr (.inr ⟨rfl, step_of_admitted
        (verdict_eq_admitted.mpr (by simp [passed, returned, hf, hh]))⟩)

/-- What holds once the reply is granted and is kept by raising a fault holds behind a call. -/
theorem step_keeps {I : State → Prop} {e : Entry} (hgranted : I e.granted)
    (hraise : ∀ f, I (e.granted.raise f e.callback.phase)) : I e.step.state := by
  rcases e.step_cases with ⟨f, -, h⟩ | ⟨-, h⟩ | ⟨-, h⟩ <;> rw [h]
  · exact hraise f
  · exact hgranted
  · exact hgranted

/-- Nothing comes into flight at a filter that raises no fault. -/
theorem step_pending_eq_none {e : Entry} (h : e.returned = true) (hp : e.before.pending = none) :
    e.step.state.pending = none := by
  have hf : e.reply.fault = none := by simpa [returned] using h
  rcases e.step_cases with ⟨f, hf', -⟩ | ⟨-, hstep⟩ | ⟨-, hstep⟩
  · simp [hf] at hf'
  · simp [hstep, hp]
  · simp [hstep, hp]

/-- A call is granted what the moment grants. -/
theorem call_step (e : Entry) : e.step.state.call = e.before.call.grant e.callback e.reply :=
  step_keeps (I := fun t => t.call = e.before.call.grant e.callback e.reply) rfl fun _ => rfl

@[simp] theorem step_result (e : Entry) :
    e.step.state.result = e.reply.result.or e.before.result :=
  step_keeps (I := fun t => t.result = e.reply.result.or e.before.result) rfl fun _ => rfl

@[simp] theorem step_rendered (e : Entry) : e.step.state.rendered = e.before.rendered :=
  step_keeps (I := fun t => t.rendered = e.before.rendered) rfl fun _ => rfl

@[simp] theorem step_suppressed (e : Entry) :
    e.step.state.suppressed =
      (e.before.suppressed || (e.callback.changesResult && e.reply.suppress)) :=
  step_keeps (I := fun t => t.suppressed =
    (e.before.suppressed || (e.callback.changesResult && e.reply.suppress))) rfl fun _ => rfl

/-- A result is kept from being rendered only where filters surround the rendering. -/
theorem step_renderDone {e : Entry} (h : e.callback.changesResult = false) :
    e.step.state.renderDone = e.before.renderDone := by
  simp [State.renderDone, h]

/-- A call leaves its entry behind, and at most a fault or the end of the way inwards. -/
theorem mem_step_events {e : Entry} {x : Event} (h : x ∈ e.step.events) :
    x = e.event ∨ x = .shortCircuited e.listing.name e.callback.phase ∨
      ∃ f, x = .raised e.callback.phase f := by
  rcases e.step_cases with ⟨f, -, hstep⟩ | ⟨-, hstep⟩ | ⟨-, hstep⟩ <;>
    rw [hstep] at h <;>
    simp only [List.mem_cons, List.not_mem_nil, or_false] at h
  · exact h.imp_right fun h => .inr ⟨f, h⟩
  · exact h.imp_right .inl
  · exact .inl h

/-- The trace of a call has one entry. -/
@[simp] theorem entries_step (cb : Callback) (e : Entry) :
    entries cb e.step.events = if e.callback = cb then [e] else [] := by
  rcases e.step_cases with ⟨f, -, h⟩ | ⟨-, h⟩ | ⟨-, h⟩ <;> rw [h, entries_event_cons]
  · rw [entries_cons_of_none cb rfl, entries_nil, List.append_nil]
  · rw [entries_cons_of_none cb rfl, entries_nil, List.append_nil]
  · rw [entries_nil, List.append_nil]

end Entry

section Calls

variable (ps : List Place) (cb : Callback) (p : Place) (b : Behaviour) (s : State)

@[simp] theorem Place.entry_callback : (p.entry ps cb b s).callback = cb := rfl

@[simp] theorem Place.entry_seat : (p.entry ps cb b s).seat = p.seat := rfl

@[simp] theorem Place.entry_before :
    (p.entry ps cb b s).before = { s with current := some p.index } := rfl

theorem Place.visit_step :
    (p.visit ps cb b s).step = ⟨(p.entry ps cb b s).granted, [(p.entry ps cb b s).event]⟩ := rfl

theorem Place.visit_fault : (p.visit ps cb b s).fault = (p.entry ps cb b s).reply.fault := rfl

end Calls

/-! ## Passages that stop -/

/-- Whether the way inwards through a moment has ended. -/
def Callback.stopped (cb : Callback) (s : State) : Bool :=
  (cb.endsWithResult && s.canceled) || (cb.changesResult && s.suppressed)

theorem Callback.stopped_authorization (s : State) :
    Callback.authorization.stopped s = s.canceled := by
  simp [stopped, endsWithResult, changesResult]

theorem Callback.stopped_exception (s : State) : Callback.exception.stopped s = false := by
  simp [stopped, endsWithResult, changesResult]

theorem Layer.stopped_eq (l : Layer) (s : State) : l.stopped s = l.before.stopped s := by
  cases l <;> simp [Layer.stopped, Layer.before, Callback.stopped, Callback.endsWithResult,
    Callback.changesResult]

/-- A filter ends the way exactly if its reply asks for that. -/
theorem Entry.stopped_granted (e : Entry) (h : e.callback.stopped e.before = false) :
    e.callback.stopped e.granted = e.halts := by
  cases hc : e.callback <;>
    simp_all [Callback.stopped, Entry.halts, Callback.endsWithResult, Callback.changesResult]

/-- The three ways in which a call can end, as the replies and the state behind it show them. -/
theorem Entry.verdict_cases {e : Entry} (h : e.callback.stopped e.before = false) :
    (∃ f, e.reply.fault = some f ∧ e.verdict = .faulted) ∨
      (e.reply.fault = none ∧ e.callback.stopped e.granted = true ∧ e.verdict = .refused) ∨
      (e.reply.fault = none ∧ e.callback.stopped e.granted = false ∧ e.verdict = .admitted) := by
  rw [e.stopped_granted h]
  cases hf : e.reply.fault <;> cases hh : e.halts <;> simp [verdict, returned, hf, hh]

/-- Calls filters at a moment, one after another, until one does not let the request pass. -/
def advance (ps : List Place) (cb : Callback) : List (Place × Behaviour) → State → Admission
  | [], s => ⟨.stay s, .admitted⟩
  | (p, b) :: rest, s =>
    let e := p.entry ps cb b s
    match e.verdict with
    | .admitted =>
      ⟨e.step.andThen fun t => (advance ps cb rest t).step,
        (advance ps cb rest e.step.state).verdict⟩
    | v => ⟨e.step, v⟩

section Advance

variable {ps : List Place} {cb : Callback} {ms : List (Place × Behaviour)} {s : State}

/-- The first filter lets the request pass. -/
theorem advance_cons_of_admitted {p : Place} {b : Behaviour}
    (h : (p.entry ps cb b s).verdict = .admitted) :
    advance ps cb ((p, b) :: ms) s =
      ⟨(p.entry ps cb b s).step.andThen fun t => (advance ps cb ms t).step,
        (advance ps cb ms (p.entry ps cb b s).step.state).verdict⟩ := by
  simp [advance, h]

/-- The first filter does not let the request pass. -/
theorem advance_cons_of_not_admitted {p : Place} {b : Behaviour}
    (h : (p.entry ps cb b s).verdict ≠ .admitted) :
    advance ps cb ((p, b) :: ms) s =
      ⟨(p.entry ps cb b s).step, (p.entry ps cb b s).verdict⟩ := by
  cases hv : (p.entry ps cb b s).verdict with
  | admitted => exact absurd hv h
  | refused => simp [advance, hv]
  | faulted => simp [advance, hv]

/-- A way that has not ended has not ended behind a filter that lets the request pass. -/
theorem stopped_of_admitted {p : Place} {b : Behaviour} (hs : cb.stopped s = false)
    (h : (p.entry ps cb b s).verdict = .admitted) :
    cb.stopped (p.entry ps cb b s).step.state = false := by
  have hp := Entry.verdict_eq_admitted.mp h
  rw [Entry.step_of_admitted h]
  have hg := (p.entry ps cb b s).stopped_granted hs
  rw [Place.entry_callback] at hg
  simp_all [Entry.passed]

/-- Behind a passage that admits the request the way has not ended. -/
theorem stopped_advance (hs : cb.stopped s = false) (h : (advance ps cb ms s).verdict = .admitted) :
    cb.stopped (advance ps cb ms s).step.state = false := by
  induction ms generalizing s with
  | nil => exact hs
  | cons m ms ih =>
    obtain ⟨p, b⟩ := m
    by_cases hv : (p.entry ps cb b s).verdict = .admitted
    · rw [advance_cons_of_admitted hv] at h ⊢
      exact ih (stopped_of_admitted hs hv) h
    · -- the passage would end here with this verdict
      rw [advance_cons_of_not_admitted hv] at h
      exact absurd h hv

/-- Behind a passage that refuses the request the way has ended. -/
theorem stopped_advance_of_refused (hs : cb.stopped s = false)
    (h : (advance ps cb ms s).verdict = .refused) :
    cb.stopped (advance ps cb ms s).step.state = true := by
  induction ms generalizing s with
  | nil => simp [advance] at h
  | cons m ms ih =>
    obtain ⟨p, b⟩ := m
    by_cases hv : (p.entry ps cb b s).verdict = .admitted
    · rw [advance_cons_of_admitted hv] at h ⊢
      exact ih (stopped_of_admitted hs hv) h
    · -- the filter that stops the passage did so by its reply
      rw [advance_cons_of_not_admitted hv] at h ⊢
      have hg := (p.entry ps cb b s).stopped_granted hs
      rw [Place.entry_callback, (Entry.verdict_eq_refused.mp h).2] at hg
      simpa [Entry.step_of_refused h] using hg

/-- Nothing comes into flight in a passage in which no filter raises a fault. -/
theorem advance_pending_eq_none (hs : s.pending = none)
    (h : (advance ps cb ms s).verdict ≠ .faulted) :
    (advance ps cb ms s).step.state.pending = none := by
  induction ms generalizing s with
  | nil => exact hs
  | cons m ms ih =>
    obtain ⟨p, b⟩ := m
    have hstep (hr : (p.entry ps cb b s).verdict ≠ .faulted) :
        (p.entry ps cb b s).step.state.pending = none :=
      Entry.step_pending_eq_none (by simpa [Entry.verdict_eq_faulted] using hr) hs
    by_cases hv : (p.entry ps cb b s).verdict = .admitted
    · rw [advance_cons_of_admitted hv] at h ⊢
      exact ih (hstep (by simp [hv])) h
    · rw [advance_cons_of_not_admitted hv] at h ⊢
      exact hstep h

/-- A passage in which a filter raises a fault leaves it in flight. -/
theorem advance_pending_of_faulted (h : (advance ps cb ms s).verdict = .faulted) :
    (advance ps cb ms s).step.state.pending.isSome = true := by
  induction ms generalizing s with
  | nil => simp [advance] at h
  | cons m ms ih =>
    obtain ⟨p, b⟩ := m
    by_cases hv : (p.entry ps cb b s).verdict = .admitted
    · rw [advance_cons_of_admitted hv] at h ⊢
      exact ih h
    · rw [advance_cons_of_not_admitted hv] at h ⊢
      have hr := Entry.verdict_eq_faulted.mp h
      cases hf : (p.entry ps cb b s).reply.fault with
      | none => simp [Entry.returned, hf] at hr
      | some f => simp [Entry.step_of_fault hf, State.raise]

/-- A passage has entries only at its moment. -/
theorem entries_advance_of_ne {cb' : Callback} (h : cb ≠ cb') :
    entries cb' (advance ps cb ms s).step.events = [] := by
  induction ms generalizing s with
  | nil => rfl
  | cons m ms ih =>
    obtain ⟨p, b⟩ := m
    by_cases hv : (p.entry ps cb b s).verdict = .admitted
    · rw [advance_cons_of_admitted hv]
      simp [h, ih]
    · rw [advance_cons_of_not_admitted hv]
      simp [h]

/-- The entries of a passage are those of its first filters. -/
theorem entries_advance_prefix :
    (entries cb (advance ps cb ms s).step.events).map Entry.seat <+:
      ms.map fun m => m.1.seat := by
  induction ms generalizing s with
  | nil => simp [advance]
  | cons m ms ih =>
    obtain ⟨p, b⟩ := m
    by_cases hv : (p.entry ps cb b s).verdict = .admitted
    · rw [advance_cons_of_admitted hv]
      simpa using ih
    · rw [advance_cons_of_not_admitted hv]
      simp

/-- A passage that admits the request has called every filter, and each let it pass. -/
theorem advance_of_admitted (h : (advance ps cb ms s).verdict = .admitted) :
    (entries cb (advance ps cb ms s).step.events).map Entry.seat = (ms.map fun m => m.1.seat) ∧
      ∀ e ∈ entries cb (advance ps cb ms s).step.events, e.passed = true := by
  induction ms generalizing s with
  | nil => simp [advance]
  | cons m ms ih =>
    obtain ⟨p, b⟩ := m
    by_cases hv : (p.entry ps cb b s).verdict = .admitted
    · rw [advance_cons_of_admitted hv] at h ⊢
      obtain ⟨hseats, hpassed⟩ := ih h
      refine ⟨by simpa using hseats, ?_⟩
      simpa [Entry.verdict_eq_admitted.mp hv] using hpassed
    · rw [advance_cons_of_not_admitted hv] at h
      exact absurd h hv

/-- A passage that does not admit the request ends with the call of the filter whose verdict that
is, and every filter in front of it let the request pass. -/
theorem advance_stops (h : (advance ps cb ms s).verdict ≠ .admitted) :
    ∃ (front : List Event) (last : Entry),
      (advance ps cb ms s).step = ⟨last.step.state, front ++ last.step.events⟩ ∧
      last.callback = cb ∧ (∀ e ∈ entries cb front, e.passed = true) ∧
      last.verdict = (advance ps cb ms s).verdict := by
  induction ms generalizing s with
  | nil => exact absurd rfl h
  | cons m ms ih =>
    obtain ⟨p, b⟩ := m
    by_cases hv : (p.entry ps cb b s).verdict = .admitted
    · rw [advance_cons_of_admitted hv] at h ⊢
      -- the filter that stops the passage is further in, and this one goes in front
      obtain ⟨front, last, hstep, hcb, hfront, hlast⟩ := ih h
      refine ⟨(p.entry ps cb b s).step.events ++ front, last, ?_, hcb, ?_, hlast⟩
      · simp [Step.andThen, hstep]
      · simpa [Entry.verdict_eq_admitted.mp hv] using hfront
    · rw [advance_cons_of_not_admitted hv]
      exact ⟨[], p.entry ps cb b s, rfl, rfl, by simp, rfl⟩

/-- A passage that does not admit the request has the entry of the filter whose verdict that is as
its last, and every filter in front of it let the request pass. -/
theorem advance_of_not_admitted (h : (advance ps cb ms s).verdict ≠ .admitted) :
    ∃ front last, entries cb (advance ps cb ms s).step.events = front ++ [last] ∧
      (∀ e ∈ front, e.passed = true) ∧ last.verdict = (advance ps cb ms s).verdict := by
  obtain ⟨front, last, hstep, hcb, hfront, hlast⟩ := advance_stops h
  exact ⟨entries cb front, last, by simp [hstep, hcb], hfront, hlast⟩

/-- Every filter of a passage but the last one called let the request pass. -/
theorem advance_passes :
    ∀ e ∈ (entries cb (advance ps cb ms s).step.events).dropLast, e.passed = true := by
  by_cases h : (advance ps cb ms s).verdict = .admitted
  · exact fun e he => (advance_of_admitted h).2 e ((List.dropLast_sublist _).subset he)
  · obtain ⟨front, last, hentries, hfront, -⟩ := advance_of_not_admitted h
    simpa [hentries] using hfront

/-- If a passage does not call every filter, the last one called did not let the request pass. -/
theorem advance_cut
    (h : (entries cb (advance ps cb ms s).step.events).map Entry.seat ≠ ms.map fun m => m.1.seat) :
    ∃ e, (entries cb (advance ps cb ms s).step.events).getLast? = some e ∧ e.passed = false := by
  have hv : (advance ps cb ms s).verdict ≠ .admitted := fun hv => h (advance_of_admitted hv).1
  obtain ⟨front, last, hentries, -, hlast⟩ := advance_of_not_admitted hv
  refine ⟨last, by simp [hentries], ?_⟩
  rw [← hlast, Ne, Entry.verdict_eq_admitted] at hv
  simpa using hv

end Advance

/-! ## What calls leave as it is -/

section Frames

variable {ps : List Place} {α : Type} {view : State → α}

/-- What every call keeps, a passage keeps. -/
theorem advance_keeps {cb : Callback} {ms : List (Place × Behaviour)} {I : State → Prop}
    (h : ∀ p b s, I s → I (Place.entry ps cb p b s).step.state) {s : State} (hs : I s) :
    I (advance ps cb ms s).step.state := by
  induction ms generalizing s with
  | nil => exact hs
  | cons m ms ih =>
    obtain ⟨p, b⟩ := m
    by_cases hv : (p.entry ps cb b s).verdict = .admitted
    · rw [advance_cons_of_admitted hv]
      exact ih (h p b s hs)
    · rw [advance_cons_of_not_admitted hv]
      exact h p b s hs

/-- What holds of the events of every call holds of the events of a passage. -/
theorem advance_forall {cb : Callback} {ms : List (Place × Behaviour)} {Q : Event → Prop}
    (h : ∀ e : Entry, e.callback = cb → ∀ x ∈ e.step.events, Q x) (s : State) :
    ∀ x ∈ (advance ps cb ms s).step.events, Q x := by
  induction ms generalizing s with
  | nil => simp [advance]
  | cons m ms ih =>
    obtain ⟨p, b⟩ := m
    by_cases hv : (p.entry ps cb b s).verdict = .admitted
    · rw [advance_cons_of_admitted hv, Step.andThen_events]
      intro x hx
      rcases List.mem_append.mp hx with hx | hx
      · exact h _ rfl x hx
      · exact ih _ x hx
    · rw [advance_cons_of_not_admitted hv]
      exact h _ rfl

/-- What no call changes, a passage does not change. -/
theorem advance_frame {cb : Callback} {ms : List (Place × Behaviour)}
    (h : ∀ p b s, view (Place.entry ps cb p b s).step.state = view s) (s : State) :
    view (advance ps cb ms s).step.state = view s :=
  advance_keeps (I := fun t => view t = view s) (fun p b t ht => (h p b t).trans ht) rfl

end Frames

/-! ## The passages of a run -/

/-- The passage of all filters that take part at a moment. -/
def Callback.passage (cb : Callback) (ps : List Place) (s : State) : Admission :=
  advance ps cb (cb.members ps) s

theorem Place.handlers_eq (ps : List Place) :
    Place.handlers ps = (Callback.exception.members ps).reverse := rfl

/-- The filters of a layer with what they do on the way inwards. -/
theorem Layer.map_before_members (l : Layer) (ps : List Place) :
    ((l.members ps).map fun m => (m.1, m.2.before)) = l.before.members ps := by
  cases l <;>
    simp [members, Callback.members, before, around?, Callback.behaviour?, List.map_filterMap,
      Function.comp_def]

/-- The filters of a layer with what they do on the way outwards. -/
theorem Layer.map_after_members (l : Layer) (ps : List Place) :
    ((l.members ps).map fun m => (m.1, m.2.after)) = l.after.members ps := by
  cases l <;>
    simp [members, Callback.members, after, around?, Callback.behaviour?, List.map_filterMap,
      Function.comp_def]

theorem passage_pending_eq_none {ps : List Place} {cb : Callback} {s : State}
    (hs : s.pending = none) (h : (cb.passage ps s).verdict ≠ .faulted) :
    (cb.passage ps s).step.state.pending = none :=
  advance_pending_eq_none hs h

/-- Authorization of a request that no filter has answered is a passage. -/
theorem authorize_eq_advance {ps : List Place} {ms : List (Place × Behaviour)} {s : State}
    (hs : s.canceled = false) : authorize ps ms s = advance ps .authorization ms s := by
  induction ms generalizing s with
  | nil => rfl
  | cons m ms ih =>
    obtain ⟨p, b⟩ := m
    simp only [authorize, Place.visit_fault, Place.visit_step, ← Callback.stopped_authorization]
    -- the two recursions branch on the same thing: how the first call ends
    rcases (p.entry ps .authorization b s).verdict_cases
        ((Callback.stopped_authorization _).trans hs) with
      ⟨f, hf, hv⟩ | ⟨hf, hg, hv⟩ | ⟨hf, hg, hv⟩
    · rw [advance_cons_of_not_admitted (by simp [hv]), hf, hv, Entry.step_of_fault hf]
      rfl
    · rw [Place.entry_callback] at hg
      rw [advance_cons_of_not_admitted (by simp [hv]), hf, hv, Entry.step_of_refused hv]
      simp only [hg]
      rfl
    · rw [Place.entry_callback] at hg
      rw [advance_cons_of_admitted hv, hf, Entry.step_of_admitted hv]
      simp only [hg]
      rw [ih ((Callback.stopped_authorization _).symm.trans hg)]
      rfl

theorem authorize_eq_passage (ps : List Place) {s : State} (hs : s.canceled = false) :
    authorize ps (Place.authorizers ps) s = Callback.authorization.passage ps s :=
  authorize_eq_advance hs

/-- The way inwards through a layer is a passage. It proceeds if the passage admits the request, and
the filters entered are those of its entries that returned, the innermost first. -/
theorem descend_eq_advance {l : Layer} {ps : List Place} {ms : List (Place × Around)} {s : State}
    (hs : l.stopped s = false) :
    let a := advance ps l.before (ms.map fun m => (m.1, m.2.before)) s
    (l.descend ps ms s).step = a.step ∧
      ((l.descend ps ms s).proceeds = true ↔ a.verdict = .admitted) ∧
      ((l.descend ps ms s).entered.map fun m => m.1.seat) =
        (((entries l.before a.step.events).filter Entry.returned).map Entry.seat).reverse := by
  induction ms generalizing s with
  | nil => simp [Layer.descend, advance]
  | cons m ms ih =>
    obtain ⟨p, a⟩ := m
    simp only [Layer.descend, Place.visit_fault, Place.visit_step, Layer.stopped_eq, List.map_cons]
    rw [Layer.stopped_eq] at hs
    rcases (p.entry ps l.before a.before s).verdict_cases hs with
      ⟨f, hf, hv⟩ | ⟨hf, hg, hv⟩ | ⟨hf, hg, hv⟩
    · -- a filter that raises a fault is not entered
      have hr : (p.entry ps l.before a.before s).returned = false := by simp [Entry.returned, hf]
      rw [advance_cons_of_not_admitted (by simp [hv]), hf]
      refine ⟨?_, by simp [hv], by simp [hr]⟩
      rw [Entry.step_of_fault hf]
      cases l <;> rfl
    · -- the filter that ends the way is entered, and none behind it
      have hr : (p.entry ps l.before a.before s).returned = true := by simp [Entry.returned, hf]
      rw [Place.entry_callback] at hg
      rw [advance_cons_of_not_admitted (by simp [hv]), hf]
      simp only [hg]
      refine ⟨?_, by simp [hv], by simp [hr]⟩
      rw [Entry.step_of_refused hv]
      cases l <;> rfl
    · -- the filters entered further in are left before this one
      have hr : (p.entry ps l.before a.before s).returned = true := by simp [Entry.returned, hf]
      rw [Place.entry_callback] at hg
      obtain ⟨hstep, hproceeds, hentered⟩ := ih ((l.stopped_eq _).trans hg)
      have hstate : (p.entry ps l.before a.before s).step.state =
          (p.entry ps l.before a.before s).granted := by rw [Entry.step_of_admitted hv]
      rw [advance_cons_of_admitted hv, hf, hstate]
      simp only [hg]
      refine ⟨?_, hproceeds, by simp [hr, hentered, hstate]⟩
      rw [Entry.step_of_admitted hv]
      simp [hstep, Step.andThen]

section Descents

variable {l : Layer} (ps : List Place) {s : State} (hs : l.stopped s = false)

include hs

theorem Layer.descend_step :
    (l.descend ps (l.members ps) s).step = (l.before.passage ps s).step := by
  rw [Callback.passage, ← l.map_before_members]
  exact (descend_eq_advance hs).1

theorem Layer.descend_proceeds :
    (l.descend ps (l.members ps) s).proceeds = true ↔
      (l.before.passage ps s).verdict = .admitted := by
  rw [Callback.passage, ← l.map_before_members]
  exact (descend_eq_advance hs).2.1

theorem Layer.map_seat_entered :
    ((l.descend ps (l.members ps) s).entered.map fun m => m.1.seat) =
      (((entries l.before (l.before.passage ps s).step.events).filter
        Entry.returned).map Entry.seat).reverse := by
  rw [Callback.passage, ← l.map_before_members]
  exact (descend_eq_advance hs).2.2

end Descents

/-- The filters entered are among those of the layer. -/
theorem mem_of_mem_entered {l : Layer} {ps : List Place} {ms : List (Place × Around)} {s : State}
    {m : Place × Around} (h : m ∈ (l.descend ps ms s).entered) : m ∈ ms := by
  induction ms generalizing s with
  | nil => simp [Layer.descend] at h
  | cons m' ms ih =>
    obtain ⟨p, a⟩ := m'
    simp only [Layer.descend] at h
    split at h
    · simp at h
    · split at h
      · simp_all
      · simp only [List.mem_append, List.mem_singleton] at h
        rcases h with h | h
        · exact List.mem_cons_of_mem _ (ih h)
        · simp [h]

/-- Showing a fault is a passage: no reply ends it but a fault. -/
theorem showFault_eq_advance {ps : List Place} {ms : List (Place × Behaviour)} {s : State} :
    showFault ps ms s = (advance ps .exception ms s).step := by
  induction ms generalizing s with
  | nil => rfl
  | cons m ms ih =>
    obtain ⟨p, b⟩ := m
    simp only [showFault, Place.visit_fault, Place.visit_step]
    rcases (p.entry ps .exception b s).verdict_cases (Callback.stopped_exception _) with
      ⟨f, hf, hv⟩ | ⟨hf, hg, hv⟩ | ⟨hf, hg, hv⟩
    · rw [advance_cons_of_not_admitted (by simp [hv]), hf, Entry.step_of_fault hf]
      rfl
    · -- a result does not end the way here
      rw [Place.entry_callback, Callback.stopped_exception] at hg
      simp at hg
    · rw [advance_cons_of_admitted hv, hf, Entry.step_of_admitted hv]
      simp [Step.andThen, ih]

/-! ## The way outwards -/

theorem Layer.after_stopped (l : Layer) (s : State) : l.after.stopped s = false := by
  cases l <;> simp [after, Callback.stopped, Callback.endsWithResult, Callback.changesResult]

/-- A filter on the way outwards is called, and so are all behind it. -/
theorem Layer.ascend_cons (l : Layer) (ps : List Place) (p : Place) (a : Around)
    (ms : List (Place × Around)) (s : State) :
    l.ascend ps ((p, a) :: ms) s =
      (p.entry ps l.after a.after s).step.andThen (l.ascend ps ms) := by
  simp only [ascend, Place.visit_fault, Place.visit_step]
  rcases (p.entry ps l.after a.after s).verdict_cases (l.after_stopped _) with
    ⟨f, hf, hv⟩ | ⟨hf, hg, hv⟩ | ⟨hf, hg, hv⟩
  · rw [hf, Entry.step_of_fault hf]
    cases l <;> rfl
  · -- a result does not end the way outwards
    rw [Place.entry_callback, l.after_stopped] at hg
    simp at hg
  · rw [hf, Entry.step_of_admitted hv]

/-- On the way outwards every filter is called, once and in order. -/
theorem entries_ascend (l : Layer) (ps : List Place) (ms : List (Place × Around)) (s : State) :
    (entries l.after (l.ascend ps ms s).events).map Entry.seat = ms.map fun m => m.1.seat := by
  induction ms generalizing s with
  | nil => rfl
  | cons m ms ih =>
    obtain ⟨p, a⟩ := m
    rw [l.ascend_cons]
    simpa using ih _

theorem entries_ascend_of_ne {l : Layer} {cb : Callback} (h : l.after ≠ cb) (ps : List Place)
    (ms : List (Place × Around)) (s : State) : entries cb (l.ascend ps ms s).events = [] := by
  induction ms generalizing s with
  | nil => rfl
  | cons m ms ih =>
    obtain ⟨p, a⟩ := m
    rw [l.ascend_cons]
    simpa [h] using ih _

/-- What holds of the events of every call holds of the events of the way outwards. -/
theorem ascend_forall {ps : List Place} {l : Layer} {ms : List (Place × Around)} {Q : Event → Prop}
    (h : ∀ e : Entry, e.callback = l.after → ∀ x ∈ e.step.events, Q x) (s : State) :
    ∀ x ∈ (l.ascend ps ms s).events, Q x := by
  induction ms generalizing s with
  | nil => simp [Layer.ascend]
  | cons m ms ih =>
    obtain ⟨p, a⟩ := m
    rw [l.ascend_cons, Step.andThen_events]
    intro x hx
    rcases List.mem_append.mp hx with hx | hx
    · exact h _ rfl x hx
    · exact ih _ x hx

/-- What every call keeps, the way outwards keeps. -/
theorem ascend_keeps {ps : List Place} {l : Layer} {ms : List (Place × Around)} {I : State → Prop}
    (h : ∀ p b s, I s → I (Place.entry ps l.after p b s).step.state) {s : State} (hs : I s) :
    I (l.ascend ps ms s).state := by
  induction ms generalizing s with
  | nil => exact hs
  | cons m ms ih =>
    obtain ⟨p, a⟩ := m
    rw [l.ascend_cons]
    exact ih (h p a.after s hs)

/-- What no call changes, the way outwards does not change. -/
theorem ascend_frame {α : Type} {view : State → α} {ps : List Place} {l : Layer}
    {ms : List (Place × Around)}
    (h : ∀ p b s, view (Place.entry ps l.after p b s).step.state = view s) (s : State) :
    view (l.ascend ps ms s).state = view s :=
  ascend_keeps (I := fun t => view t = view s) (fun p b t ht => (h p b t).trans ht) rfl

end RequestPipeline
