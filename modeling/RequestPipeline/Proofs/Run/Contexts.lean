import RequestPipeline.Proofs.Run.Reach
import RequestPipeline.Proofs.Run.Ticks

/-!
# Contexts between runs

A context is made for a call and its filters; it may be run, made ready for another run, and have
its request cancelled, in any order (`Context.Reached`). A run leaves a mark on the context that
only making it ready takes away, so a context without the mark is in the state before a run
(`Context.Reached.initial_of_fresh`).
-/

set_option autoImplicit false

namespace RequestPipeline

section Executed

variable {ends : Ends} {ps : List Place} {s : State} {t : Step}

/-- Nothing in a run takes back that it has begun. -/
theorem Tick.executed {e : Event} {u : State} (h : Tick ends ps s e u) :
    u.executed = s.executed := by
  cases h <;> rfl

theorem executed_proceed (hs : s.Open) : (ends.proceed ps s).state.executed = s.executed :=
  (ticks_proceed ends ps hs).keeps (I := fun u => u.executed = s.executed)
    (fun htick hu => htick.executed.trans hu) rfl

theorem executed_finish : t.finish.state.executed = t.state.executed := by
  unfold Step.finish
  split <;> rfl

end Executed

namespace Context

/-- The contexts that a request can have, with any filters. -/
inductive Reached : Context → Prop
  | new (ps : List Place) (call : Call) : Reached ⟨ps, .initial call⟩
  | run {c : Context} (h : Reached c) (ends : Ends) : Reached (c.run ends).2
  | reset {c : Context} (h : Reached c) : Reached c.reset
  | cancel {c : Context} (h : Reached c) : Reached c.cancel

/-- A context that has been run refuses to be run, and stays as it is. -/
theorem run_of_executed {c : Context} (ends : Ends) (h : c.state.executed = true) :
    c.run ends = (⟨c.state, [], .error (.contextReused c.state.call.id)⟩, c) := by
  simp [Context.run, RequestPipeline.run, h]

/-- A run of a context in the state before a run leaves its mark. -/
theorem executed_run_initial (ends : Ends) (ps : List Place) (call : Call) :
    (RequestPipeline.run ends ps (.initial call)).state.executed = true := by
  show (ends.proceed ps (.begun call)).finish.state.executed = true
  rw [executed_finish, executed_proceed (State.begun_open call)]
  rfl

/-- A context has been run since it was made ready, or it is in the state before a run. -/
theorem Reached.executed_or_initial {c : Context} (h : c.Reached) :
    c.state.executed = true ∨ ∃ call, c.state = .initial call := by
  induction h with
  | new ps call => exact .inr ⟨call, rfl⟩
  | @run c h ends ih =>
    left
    rcases ih with hexecuted | ⟨call, hinitial⟩
    · rw [run_of_executed ends hexecuted]
      exact hexecuted
    · simp only [Context.run, hinitial]
      exact executed_run_initial ends c.places call
  | reset h ih => exact .inr ⟨_, rfl⟩
  | cancel h ih =>
    refine ih.imp id ?_
    rintro ⟨call, hinitial⟩
    exact ⟨call.cancel, by rw [Context.cancel, hinitial]; rfl⟩

/-- A run that is not refused begins in the state before a run. -/
theorem Reached.initial_of_fresh {c : Context} (h : c.Reached) (hc : c.state.executed = false) :
    ∃ call, c.state = .initial call := by
  rcases h.executed_or_initial with hexecuted | hinitial
  · simp [hc] at hexecuted
  · exact hinitial

end Context

end RequestPipeline
