import Mathlib.Data.List.Induction
import RequestPipeline.Proofs.Run.Reach

/-!
# The fault in flight

A fault is in flight behind a trace if it is the last that was raised and no filter has marked it
since (`inFlight`). The state of a run always agrees with its trace on that (`Course.unhandled`),
and no marked fault is left at the end (`handled_proceed`).
-/

set_option autoImplicit false

namespace RequestPipeline

/-! ## The last value of a list -/

section Latest

variable {α ε : Type} {writes : ε → Option α} {clears : ε → Bool}

/-- What stands behind an element: the value that it writes, nothing if it clears, or else what
stood before. -/
def latest (writes : ε → Option α) (clears : ε → Bool) (x : Option α) (e : ε) : Option α :=
  match writes e with
  | some y => some y
  | none => if clears e then none else x

theorem latest_of_silent {e : ε} (hw : writes e = none) (hc : clears e = false) (x : Option α) :
    latest writes clears x e = x := by
  simp [latest, hw, hc]

/-- Elements that neither write nor clear leave what stands. -/
theorem foldl_latest_of_silent {es : List ε} (h : ∀ e ∈ es, writes e = none ∧ clears e = false)
    (x : Option α) : es.foldl (latest writes clears) x = x := by
  induction es generalizing x with
  | nil => rfl
  | cons e es ih =>
    obtain ⟨he, hes⟩ := List.forall_mem_cons.mp h
    rw [List.foldl_cons, latest_of_silent he.1 he.2, ih hes]

/-- The value that stands behind a list was written in it, and nothing was written or cleared
since. -/
theorem foldl_latest_eq_some_iff {es : List ε} {y : α} :
    es.foldl (latest writes clears) none = some y ↔
      ∃ es₁ e es₂, es = es₁ ++ e :: es₂ ∧ writes e = some y ∧
        ∀ x ∈ es₂, writes x = none ∧ clears x = false := by
  constructor
  · intro h
    -- the induction is on the last element, which decides unless it is silent
    induction es using List.reverseRecOn with
    | nil => simp at h
    | append_singleton es e ih =>
      rw [List.foldl_append, List.foldl_cons, List.foldl_nil] at h
      cases hw : writes e with
      | some z =>
        obtain rfl : z = y := by simpa [latest, hw] using h
        exact ⟨es, e, [], rfl, hw, by simp⟩
      | none =>
        cases hc : clears e with
        | true => simp [latest, hw, hc] at h
        | false =>
          -- a silent element extends what stands behind the value
          rw [latest_of_silent hw hc] at h
          obtain ⟨es₁, e', es₂, rfl, he', hes₂⟩ := ih h
          refine ⟨es₁, e', es₂ ++ [e], by simp, he', ?_⟩
          intro x hx
          rcases List.mem_append.mp hx with hx | hx
          · exact hes₂ x hx
          · obtain rfl := List.mem_singleton.mp hx
            exact ⟨hw, hc⟩
  · rintro ⟨es₁, e, es₂, rfl, he, hes₂⟩
    rw [List.foldl_append, List.foldl_cons, foldl_latest_of_silent hes₂]
    simp [latest, he]

end Latest

/-! ## In flight behind a trace -/

/-- What is in flight behind an event. -/
def Event.track (x : Option (Phase × Fault)) (e : Event) : Option (Phase × Fault) :=
  match e.raised? with
  | some y => some y
  | none => if e.marks then none else x

/-- The last fault that was raised, unless a filter has marked it since. -/
def inFlight (es : List Event) : Option (Phase × Fault) := es.foldl Event.track none

/-- A fault is left by a trace: it is raised, and behind it no fault is raised and none marked. -/
def Leaves (es : List Event) (ph : Phase) (f : Fault) : Prop :=
  ∃ es₁ es₂, es = es₁ ++ .raised ph f :: es₂ ∧ ∀ e ∈ es₂, e.raised? = none ∧ e.marks = false

theorem Event.raised?_eq_some_iff {e : Event} {ph : Phase} {f : Fault} :
    e.raised? = some (ph, f) ↔ e = .raised ph f := by
  cases e <;> simp [raised?]

theorem Event.track_eq_latest : Event.track = latest Event.raised? Event.marks := by
  funext x e
  unfold track latest
  cases e.raised? <;> rfl

theorem Event.track_of_silent {e : Event} (hr : e.raised? = none) (hm : e.marks = false)
    (x : Option (Phase × Fault)) : e.track x = x := by
  simp [track, hr, hm]

/-- Events that neither raise nor mark a fault leave in flight what is. -/
theorem foldl_track_of_silent {es : List Event} (h : ∀ e ∈ es, e.raised? = none ∧ e.marks = false)
    (x : Option (Phase × Fault)) : es.foldl Event.track x = x := by
  rw [Event.track_eq_latest]
  exact foldl_latest_of_silent h x

/-- What is in flight does not depend on events that neither raise nor mark a fault. -/
theorem foldl_track_filter {q : Event → Bool} {es : List Event}
    (h : ∀ e ∈ es, q e = false → e.raised? = none ∧ e.marks = false)
    (x : Option (Phase × Fault)) :
    (es.filter q).foldl Event.track x = es.foldl Event.track x := by
  induction es generalizing x with
  | nil => rfl
  | cons e es ih =>
    obtain ⟨he, hes⟩ := List.forall_mem_cons.mp h
    cases hq : q e with
    | true => rw [List.filter_cons_of_pos hq, List.foldl_cons, List.foldl_cons, ih hes]
    | false =>
      rw [List.filter_cons_of_neg (by simp [hq]), List.foldl_cons, ih hes,
        Event.track_of_silent (he hq).1 (he hq).2]

/-- The fault in flight behind a trace is the one that the trace leaves. -/
theorem inFlight_eq_some_iff {es : List Event} {ph : Phase} {f : Fault} :
    inFlight es = some (ph, f) ↔ Leaves es ph f := by
  rw [inFlight, Event.track_eq_latest, foldl_latest_eq_some_iff]
  constructor
  · rintro ⟨es₁, e, es₂, rfl, he, hes₂⟩
    obtain rfl := Event.raised?_eq_some_iff.mp he
    exact ⟨es₁, es₂, rfl, hes₂⟩
  · rintro ⟨es₁, es₂, rfl, hes₂⟩
    exact ⟨es₁, _, es₂, rfl, rfl, hes₂⟩

/-! ## In flight in a run -/

/-- The fault in flight with where it was raised, unless it is marked as handled. -/
def State.unhandled (s : State) : Option (Phase × Fault) :=
  (s.pending.filter fun p => !p.handled).map fun p => (p.phase, p.fault)

@[simp] theorem State.unhandled_raise (s : State) (f : Fault) (ph : Phase) :
    (s.raise f ph).unhandled = some (ph, f) := rfl

@[simp] theorem Pending.grant_fault (p : Pending) (cb : Callback) (r : Reply) :
    (p.grant cb r).fault = p.fault := rfl

@[simp] theorem Pending.grant_phase (p : Pending) (cb : Callback) (r : Reply) :
    (p.grant cb r).phase = p.phase := rfl

namespace Entry

/-- A reply puts nothing in flight; at most it marks what is. -/
theorem unhandled_granted (e : Entry) :
    e.granted.unhandled = if e.marks then none else e.before.unhandled := by
  cases hp : e.before.pending with
  | none => simp [State.unhandled, hp]
  | some p =>
    have hmarks : e.marks = ((e.callback.seesFault && e.reply.handled) ||
        (e.callback == .exception && e.reply.result.isSome)) := by
      simp [marks, hp]
    have hgrant : (p.grant e.callback e.reply).handled = (p.handled || e.marks) := by
      rw [hmarks, ← Bool.or_assoc]
      rfl
    cases hm : e.marks <;> cases hh : p.handled <;>
      simp [State.unhandled, Option.filter, hp, hgrant, hm, hh]

theorem unhandled_step (e : Entry) :
    e.step.state.unhandled = e.step.events.foldl Event.track e.before.unhandled := by
  rcases e.step_cases with ⟨f, -, h⟩ | ⟨-, h⟩ | ⟨-, h⟩ <;> rw [h]
  · rfl
  · exact e.unhandled_granted
  · exact e.unhandled_granted

end Entry

section Moves

variable {ends : Ends} {ps : List Place} {s : State} {t : Step}

/-- The state agrees with the events on what is in flight. -/
theorem Move.unhandled (h : Move ends ps s t) :
    t.state.unhandled = t.events.foldl Event.track s.unhandled := by
  cases h with
  | call mem takes due => exact Entry.unhandled_step _
  | perform free =>
    rcases perform_cases ends s with ⟨f, -, h⟩ | ⟨-, f, -, h⟩ | ⟨-, a, -, h⟩ <;> rw [h] <;> rfl
  | announce => rfl
  | write free due =>
    rcases write_cases ends s with ⟨f, -, h⟩ | ⟨-, h⟩ <;> rw [h] <;> rfl
  | settle =>
    rcases settle_cases s with ⟨-, h⟩ | ⟨p, hp, hh, h⟩
    · rw [h]
      rfl
    · -- a marked fault was not in flight before it is dropped either
      simp [h, State.unhandled, Option.filter, hp, hh, Event.track, Event.raised?, Event.marks,
        Event.entry?]

theorem Course.unhandled (h : Course ends ps s t) :
    t.state.unhandled = t.events.foldl Event.track s.unhandled := by
  induction h with
  | stay => rfl
  | move h => exact h.unhandled
  | andThen h₁ h₂ ih₁ ih₂ =>
    rw [Step.andThen_state, Step.andThen_events, List.foldl_append, ih₂, ih₁]

/-- A fault was raised exactly if one is in flight or the run has recovered. -/
theorem Move.recovered (h : Move ends ps s t) :
    (t.state.recovered || t.state.pending.isSome) =
      (s.recovered || s.pending.isSome || !(faults t.events).isEmpty) := by
  cases h with
  | @call p cb b mem takes due =>
    rcases (p.entry ps cb b s).step_cases with ⟨f, -, h⟩ | ⟨-, h⟩ | ⟨-, h⟩ <;>
      simp [h, faults, Entry.event, Event.raised?, State.raise]
  | perform free =>
    rcases perform_cases ends s with ⟨f, -, h⟩ | ⟨-, f, -, h⟩ | ⟨-, a, -, h⟩ <;>
      simp [h, faults, Event.raised?, State.raise]
  | announce => simp [faults, Event.raised?]
  | write free due =>
    rcases write_cases ends s with ⟨f, -, h⟩ | ⟨-, h⟩ <;>
      simp [h, faults, Event.raised?, State.raise, Ends.written]
  | settle =>
    rcases settle_cases s with ⟨-, h⟩ | ⟨p, hp, hh, h⟩ <;>
      simp [*, faults]

theorem Course.recovered (h : Course ends ps s t) :
    (t.state.recovered || t.state.pending.isSome) =
      (s.recovered || s.pending.isSome || !(faults t.events).isEmpty) := by
  induction h with
  | stay => simp [faults]
  | move h => exact h.recovered
  | andThen h₁ h₂ ih₁ ih₂ =>
    rw [Step.andThen_state, Step.andThen_events, ih₂, ih₁, faults_append]
    cases faults _ <;> simp

end Moves

theorem State.unhandled_of_not_handled {s : State} (h : s.handled = false) :
    s.unhandled = s.pending.map fun p => (p.phase, p.fault) := by
  cases hp : s.pending <;> simp_all [State.unhandled, State.handled, Option.filter]

/-! ## No marked fault is left -/

/-- A filter that does not see the fault in flight does not mark it. -/
theorem Entry.handled_step {e : Entry} (h : e.callback.seesFault = false)
    (hb : e.before.handled = false) : e.step.state.handled = false := by
  -- where faults are shown to filters, they see the fault
  have hexception : (e.callback == .exception) = false := by
    cases hc : e.callback <;> simp_all [Callback.seesFault]
  have hgranted : e.granted.handled = false := by
    cases hp : e.before.pending <;>
      simp_all [State.handled, Pending.grant]
  exact step_keeps (I := fun t => t.handled = false) hgranted fun _ => rfl

section Ends

variable (ends : Ends) {ps : List Place} {s : State}

theorem handled_writeMissing (hs : s.handled = false) :
    (ends.writeMissing s).state.handled = false := by
  rcases writeMissing_cases ends s with ⟨-, -, h⟩ | ⟨-, h⟩ <;> rw [h]
  · exact Step.handled_settle _
  · exact hs

theorem handled_proceed (hs : s.Open) : (ends.proceed ps s).state.handled = false := by
  cases hi : s.call.interruption? with
  | some f =>
    rw [proceed_of_interrupted ends ps hi]
    rfl
  | none =>
    cases hv : (Callback.authorization.passage ps s).verdict with
    | faulted =>
      -- no filter that authorizes sees the fault, so none marks it
      rw [proceed_of_faulted ends ps hi hs hv]
      have hhandled : s.handled = false := by simp [State.handled, hs.free]
      exact advance_keeps (I := fun t => t.handled = false)
        (fun _ _ _ ht => Entry.handled_step rfl ht) hhandled
    | refused =>
      rw [proceed_of_refused ends ps hi hs hv]
      exact Step.handled_settle _
    | admitted =>
      rw [proceed_of_admitted ends ps hi hs hv]
      exact handled_writeMissing ends (Step.handled_settle _)

end Ends

end RequestPipeline
