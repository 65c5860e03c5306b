import RequestPipeline.Proofs.Run.Reach

/-!
# Rendering

A result is rendered at most once, and a run that succeeds has either rendered its result or had it
kept from being rendered by a filter around the rendering (`run_renders_once_or_suppresses`). The
first holds because every move that renders is made while rendering is due; the second because a run
ends with a last attempt to render what is still due (`renderDone_proceed`).
-/

set_option autoImplicit false

namespace RequestPipeline

/-- A result that was rendered is there and was not kept from being rendered. -/
structure State.Consistent (s : State) : Prop where
  present : s.rendered = true → s.result.isSome = true
  exclusive : s.rendered = true → s.suppressed = false

section Moves

variable {ends : Ends} {ps : List Place} {s : State} {t : Step}

@[simp] theorem Entry.renderings_step (e : Entry) : renderings e.step.events = [] := by
  rcases e.step_cases with ⟨f, -, h⟩ | ⟨-, h⟩ | ⟨-, h⟩ <;> rw [h] <;> rfl

/-- The renderer was called exactly if the state says so. -/
theorem Move.rendered (h : Move ends ps s t) :
    t.state.rendered.toNat = s.rendered.toNat + (renderings t.events).length := by
  cases h with
  | call mem takes due => simp
  | perform free =>
    rcases perform_cases ends s with ⟨f, -, h⟩ | ⟨-, f, -, h⟩ | ⟨-, a, -, h⟩ <;>
      simp [h, renderings_cons, Event.rendered?, State.raise]
  | announce => rfl
  | write free due =>
    -- the count can only be raised from zero
    have hr : s.rendered = false := by simp_all [State.renderDone]
    rcases write_cases ends s with ⟨f, -, h⟩ | ⟨-, h⟩ <;>
      simp [h, hr, renderings_cons, Event.rendered?, State.raise, Ends.written]
  | settle =>
    rcases settle_cases s with ⟨-, h⟩ | ⟨p, -, -, h⟩ <;>
      simp [h, renderings_cons, Event.rendered?]

theorem Course.rendered (h : Course ends ps s t) :
    t.state.rendered.toNat = s.rendered.toNat + (renderings t.events).length := by
  induction h with
  | stay => rfl
  | move h => exact h.rendered
  | andThen h₁ h₂ ih₁ ih₂ =>
    rw [Step.andThen_state, Step.andThen_events, ih₂, ih₁, renderings_append, List.length_append,
      Nat.add_assoc]

/-- A result is kept from being rendered exactly if a filter asks for it before. -/
theorem Move.suppressed (h : Move ends ps s t) :
    t.state.suppressed =
      (s.suppressed || (entries .resultBefore t.events).any fun e => e.reply.suppress) := by
  cases h with
  | @call p cb b mem takes due =>
    by_cases hcb : cb = .resultBefore
    · subst hcb
      simp [Callback.changesResult]
    · have hchanges : cb.changesResult = false := by
        cases cb <;> simp_all [Callback.changesResult]
      simp [hcb, hchanges]
  | perform free =>
    rw [entries_perform]
    rcases perform_cases ends s with ⟨f, -, h⟩ | ⟨-, f, -, h⟩ | ⟨-, a, -, h⟩ <;>
      simp [h, State.raise]
  | announce =>
    rw [entries_cons_of_none .resultBefore (e := .renderingDirectly) rfl]
    simp
  | write free due =>
    rw [entries_write]
    rcases write_cases ends s with ⟨f, -, h⟩ | ⟨-, h⟩ <;>
      simp [h, State.raise, Ends.written]
  | settle => simp

theorem Course.suppressed (h : Course ends ps s t) :
    t.state.suppressed =
      (s.suppressed || (entries .resultBefore t.events).any fun e => e.reply.suppress) := by
  induction h with
  | stay => simp
  | move h => exact h.suppressed
  | andThen h₁ h₂ ih₁ ih₂ =>
    rw [Step.andThen_state, Step.andThen_events, ih₂, ih₁, entries_append, List.any_append,
      Bool.or_assoc]

theorem Move.consistent (h : Move ends ps s t) (hs : s.Consistent) : t.state.Consistent := by
  obtain ⟨present, exclusive⟩ := hs
  cases h with
  | @call p cb b mem takes due =>
    constructor
    · intro hr
      simp_all
    · -- once a result is rendered, no filter that could suppress it is called
      intro hr
      rw [Entry.step_rendered, Place.entry_before] at hr
      have hchanges : cb.changesResult = false := by
        cases hc : cb.changesResult with
        | false => rfl
        | true => exact absurd hr (by simp [due hc])
      simpa [hchanges] using exclusive hr
  | perform free =>
    rcases perform_cases ends s with ⟨f, -, h⟩ | ⟨-, f, -, h⟩ | ⟨-, a, -, h⟩ <;> rw [h]
    · exact ⟨present, exclusive⟩
    · exact ⟨present, exclusive⟩
    · exact ⟨fun _ => rfl, exclusive⟩
  | announce => exact ⟨present, exclusive⟩
  | write free due =>
    have hsuppressed : s.suppressed = false := by simp_all [State.renderDone]
    rcases write_cases ends s with ⟨f, -, h⟩ | ⟨-, h⟩ <;> rw [h] <;>
      exact ⟨fun _ => rfl, fun _ => hsuppressed⟩
  | settle =>
    rcases settle_cases s with ⟨-, h⟩ | ⟨p, -, -, h⟩ <;> rw [h] <;>
      exact ⟨present, exclusive⟩

theorem Course.consistent (h : Course ends ps s t) (hs : s.Consistent) : t.state.Consistent :=
  h.keeps (I := State.Consistent) Move.consistent hs

end Moves

/-! ## Nothing is left to render -/

variable (ends : Ends) (ps : List Place)

theorem rendered_write (s : State) : (ends.write s).state.rendered = true := by
  rcases write_cases ends s with ⟨f, -, h⟩ | ⟨-, h⟩ <;> rw [h] <;> rfl

theorem rendered_writeDirectly (s : State) : (ends.writeDirectly s).state.rendered = true := by
  simp [Ends.writeDirectly, rendered_write]

/-- Behind the last attempt to render, rendering is done unless a fault is in flight. -/
theorem renderDone_writeMissing (s : State) :
    (ends.writeMissing s).state.pending.isSome = true ∨
      (ends.writeMissing s).state.renderDone = true := by
  rcases writeMissing_cases ends s with ⟨-, -, h⟩ | ⟨hdone, h⟩ <;> rw [h]
  · exact .inr (by simp [State.renderDone, rendered_writeDirectly])
  · cases hp : s.pending with
    | some p => exact .inl (by simp [hp])
    | none => exact .inr (hdone hp)

section Proceed

variable {s : State} (hs : s.Open)

include hs

/-- At the last state rendering is done unless a fault is in flight. -/
theorem renderDone_proceed :
    (ends.proceed ps s).state.pending.isSome = true ∨
      (ends.proceed ps s).state.renderDone = true := by
  cases hi : s.call.interruption? with
  | some f =>
    rw [proceed_of_interrupted ends ps hi]
    exact .inl rfl
  | none =>
    cases hv : (Callback.authorization.passage ps s).verdict with
    | faulted =>
      -- the fault of a filter that authorizes is in flight to the end
      rw [proceed_of_faulted ends ps hi hs hv]
      exact .inl (advance_pending_of_faulted hv)
    | refused =>
      rw [proceed_of_refused ends ps hi hs hv]
      exact .inr (by simp [State.renderDone, rendered_writeDirectly])
    | admitted =>
      rw [proceed_of_admitted ends ps hi hs hv]
      exact renderDone_writeMissing ends _

/-- The renderer was called as often as the last state says, which is once at most. -/
theorem rendered_proceed :
    (ends.proceed ps s).state.rendered.toNat = (renderings (ends.proceed ps s).events).length := by
  cases hi : s.call.interruption? with
  | some f =>
    rw [proceed_of_interrupted ends ps hi]
    simp [hs.rendered, State.raise, renderings_cons, Event.rendered?]
  | none => simpa [hs.rendered] using (course_proceed ends ps hi hs).rendered

theorem suppressed_proceed :
    (ends.proceed ps s).state.suppressed =
      (entries .resultBefore (ends.proceed ps s).events).any fun e => e.reply.suppress := by
  cases hi : s.call.interruption? with
  | some f =>
    rw [proceed_of_interrupted ends ps hi]
    exact hs.suppressed
  | none =>
    simpa [hs.suppressed] using (course_proceed ends ps hi hs).suppressed

theorem consistent_proceed : (ends.proceed ps s).state.Consistent := by
  have hstart : s.Consistent := by constructor <;> simp [hs.rendered]
  cases hi : s.call.interruption? with
  | some f =>
    rw [proceed_of_interrupted ends ps hi]
    exact ⟨hstart.present, hstart.exclusive⟩
  | none => exact (course_proceed ends ps hi hs).consistent hstart

end Proceed

/-- The renderer is called at most once in a run. A run that succeeds has either rendered its result
or had it suppressed: the first exactly if the renderer was called, and then there is a result, the
second exactly if a filter called before rendering asked for it. -/
theorem run_renders_once_or_suppresses (ends : Ends) (ps : List Place) (call : Call) :
    let r := run ends ps (.initial call)
    (renderings r.events).length ≤ 1 ∧
      ∀ o, r.outcome = .ok o →
        ((o.rendered = true ∧ o.suppressed = false) ∨
          (o.rendered = false ∧ o.suppressed = true)) ∧
        (o.rendered = true ↔ ∃ a, renderings r.events = [a]) ∧
        (o.rendered = true → o.result.isSome = true) ∧
        (o.suppressed = true ↔ ∃ e ∈ entries .resultBefore r.events, e.reply.suppress = true) := by
  intro r
  have hs := State.begun_open call
  have hrendered := rendered_proceed ends ps hs
  have hsuppressed := suppressed_proceed ends ps hs
  rw [← renderings_run] at hrendered
  rw [← entries_run] at hsuppressed
  refine ⟨?_, ?_⟩
  · change (renderings (run ends ps (.initial call)).events).length ≤ 1
    rw [← hrendered]
    exact Bool.toNat_le _
  · intro o ho
    -- nothing is in flight at the last state, so rendering is done there
    rw [show r.outcome = _ from run_outcome ends ps call, Step.finish_eq_ok] at ho
    obtain ⟨hfree, rfl⟩ := ho
    obtain ⟨hpresent, hexclusive⟩ := consistent_proceed ends ps hs
    have hdone := renderDone_proceed ends ps hs
    simp only [hfree, Option.isSome_none, Bool.false_eq_true, false_or, State.renderDone,
      Bool.or_eq_true] at hdone
    simp only [State.outcome]
    refine ⟨?_, ?_, hpresent, ?_⟩
    · cases hr : (ends.proceed ps (.begun call)).state.rendered with
      | true => exact .inl ⟨rfl, hexclusive hr⟩
      | false => exact .inr ⟨rfl, by simpa [hr] using hdone⟩
    · rw [← List.length_eq_one_iff, ← hrendered]
      exact Bool.toNat_eq_one.symm
    · rw [hsuppressed, List.any_eq_true]

/-- A run whose only filter asks that the result is not rendered succeeds all the same. -/
theorem run_suppresses_on_request :
    let f : Filter :=
      { name := "silence", result := some ⟨fun _ => { suppress := true }, .idle⟩ }
    let ends : Ends := ⟨fun _ => { outcome := .ok .unit }, fun _ _ => {}⟩
    let r := run ends [⟨0, .shared .global f, f, rfl⟩] (.initial (.ofAction ⟨"jobs", "run", .unit⟩))
    ∃ o, r.outcome = .ok o ∧ o.suppressed = true ∧ ¬∃ a, renderings r.events = [a] := by
  intro f ends r
  have hrun : r.outcome.toOption.any Outcome.suppressed = true := by decide +kernel +zetaReduce
  cases ho : r.outcome with
  | error e => simp [ho, Except.toOption] at hrun
  | ok o =>
    have hsuppressed : o.suppressed = true := by simpa [ho, Except.toOption] using hrun
    obtain ⟨hone, hrendered, -, -⟩ := (run_renders_once_or_suppresses ends _ _).2 o ho
    refine ⟨o, rfl, hsuppressed, fun h => ?_⟩
    simp [hsuppressed, hrendered.mpr h] at hone

end RequestPipeline
