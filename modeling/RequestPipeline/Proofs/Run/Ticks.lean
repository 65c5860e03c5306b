import RequestPipeline.Proofs.Run.Course

/-!
# Runs event by event

A move of a run is taken apart into ticks: each shows one event and changes the state by as much as
this event stands for (`Tick`). Every run is a sequence of ticks from its start to its last state
(`ticks_proceed`), so what is read off the events and the state is compared one event at a time.
-/

set_option autoImplicit false

namespace RequestPipeline

/-- The state behind an invocation, its fault apart. -/
def Ends.invoked (ends : Ends) (s : State) : State :=
  { s with
    call := ends.callBehind s.call
    result := (ends.invocation s.call).toOption.or s.result }

/-- What one event of a run stands for. -/
inductive Tick (ends : Ends) (ps : List Place) : State → Event → State → Prop
  /-- A filter of the plan is called, and its reply is granted. -/
  | call {p : Place} {cb : Callback} {b : Behaviour} {s : State} (mem : p ∈ ps)
      (takes : cb.behaviour? p.filter = some b)
      (due : cb.changesResult = true → s.rendered = false) :
    Tick ends ps s (p.entry ps cb b s).event (p.entry ps cb b s).granted
  | halt (name : String) (ph : Phase) (s : State) : Tick ends ps s (.shortCircuited name ph) s
  | raise (ph : Phase) (f : Fault) (s : State) : Tick ends ps s (.raised ph f) (s.raise f ph)
  | invoke (s : State) : Tick ends ps s .invoking s
  /-- The action is carried out, and sets what it produced, if that is in order. -/
  | invoked (s : State) : Tick ends ps s (.invoked s.call) (ends.invoked s)
  | announce (s : State) : Tick ends ps s .renderingDirectly s
  /-- A result is rendered that is due. -/
  | write {s : State} (due : s.renderDone = false) :
    Tick ends ps s (.rendered (s.result.getD .empty)) (ends.written s)
  /-- A fault is dropped that is marked as handled. -/
  | settle {s : State} {p : Pending} (held : s.pending = some p) (marked : p.handled = true) :
    Tick ends ps s (.settled p.phase p.fault) { s with pending := none, recovered := true }

/-- A sequence of ticks, with the events that it shows. -/
inductive Ticks (ends : Ends) (ps : List Place) : State → List Event → State → Prop
  | nil (s : State) : Ticks ends ps s [] s
  | cons {s t u : State} {e : Event} {es : List Event} :
    Tick ends ps s e t → Ticks ends ps t es u → Ticks ends ps s (e :: es) u

section Ticks

variable {ends : Ends} {ps : List Place} {s t u : State} {e : Event} {es fs : List Event}

theorem Tick.ticks (h : Tick ends ps s e t) : Ticks ends ps s [e] t := .cons h (.nil t)

theorem Ticks.append (h : Ticks ends ps s es t) (h' : Ticks ends ps t fs u) :
    Ticks ends ps s (es ++ fs) u := by
  induction h with
  | nil => exact h'
  | cons tick _ ih => exact .cons tick (ih h')

/-- What every tick keeps, a sequence of ticks keeps. -/
theorem Ticks.keeps {I : State → Prop} (htick : ∀ {s e t}, Tick ends ps s e t → I s → I t)
    (h : Ticks ends ps s es t) (hs : I s) : I t := by
  induction h with
  | nil => exact hs
  | cons tick _ ih => exact ih (htick tick hs)

/-- What every tick shows, every event of a sequence of ticks is. -/
theorem Ticks.forall_events {Q : Event → Prop} (htick : ∀ {s e t}, Tick ends ps s e t → Q e)
    (h : Ticks ends ps s es t) : ∀ e ∈ es, Q e := by
  induction h with
  | nil => simp
  | cons tick _ ih => exact List.forall_mem_cons.mpr ⟨htick tick, ih⟩

end Ticks

section Moves

variable {ends : Ends} {ps : List Place} {s : State} {t : Step}

/-- A call is a tick, with another one behind it if the filter raises a fault or ends the way
inwards. -/
theorem Place.ticks_entry {p : Place} {cb : Callback} {b : Behaviour}
    (hcall : Tick ends ps s (p.entry ps cb b s).event (p.entry ps cb b s).granted) :
    Ticks ends ps s (p.entry ps cb b s).step.events (p.entry ps cb b s).step.state := by
  rcases (p.entry ps cb b s).step_cases with ⟨f, -, h⟩ | ⟨-, h⟩ | ⟨-, h⟩ <;> rw [h]
  · exact .cons hcall (Tick.raise ..).ticks
  · exact .cons hcall (Tick.halt ..).ticks
  · exact hcall.ticks

theorem ticks_perform (s : State) :
    Ticks ends ps s (ends.perform s).events (ends.perform s).state := by
  rcases perform_cases ends s with ⟨f, -, h⟩ | ⟨-, f, hf, h⟩ | ⟨-, a, ha, h⟩ <;> rw [h]
  · exact .cons (.invoke s) (Tick.raise ..).ticks
  · have hinvoked : ends.invoked s = { s with call := ends.callBehind s.call } := by
      simp [Ends.invoked, hf, Except.toOption]
    rw [← hinvoked]
    exact .cons (.invoke s) (.cons (.invoked s) (Tick.raise ..).ticks)
  · have hinvoked : ends.invoked s =
        { s with call := ends.callBehind s.call, result := some a } := by
      simp [Ends.invoked, ha, Except.toOption]
    rw [← hinvoked]
    exact .cons (.invoke s) (Tick.invoked s).ticks

theorem ticks_write (due : s.renderDone = false) :
    Ticks ends ps s (ends.write s).events (ends.write s).state := by
  rcases write_cases ends s with ⟨f, -, h⟩ | ⟨-, h⟩ <;> rw [h]
  · exact .cons (.write due) (Tick.raise ..).ticks
  · exact (Tick.write due).ticks

theorem ticks_settle (s : State) :
    Ticks ends ps s (Step.settle s).events (Step.settle s).state := by
  rcases settle_cases s with ⟨-, h⟩ | ⟨p, hp, hh, h⟩ <;> rw [h]
  · exact .nil s
  · exact (Tick.settle hp hh).ticks

theorem Move.ticks (h : Move ends ps s t) : Ticks ends ps s t.events t.state := by
  cases h with
  | call mem takes due => exact Place.ticks_entry (.call mem takes due)
  | perform => exact ticks_perform s
  | announce => exact (Tick.announce s).ticks
  | write free due => exact ticks_write due
  | settle => exact ticks_settle s

theorem Course.ticks (h : Course ends ps s t) : Ticks ends ps s t.events t.state := by
  induction h with
  | stay s => exact .nil s
  | move h => exact h.ticks
  | andThen _ _ ih₁ ih₂ => exact ih₁.append ih₂

/-- Every run is a sequence of ticks up to its last state. -/
theorem ticks_proceed (ends : Ends) (ps : List Place) (hs : s.Open) :
    Ticks ends ps s (ends.proceed ps s).events (ends.proceed ps s).state := by
  cases hi : s.call.interruption? with
  | some f =>
    rw [proceed_of_interrupted ends ps hi]
    exact (Tick.raise ..).ticks
  | none => exact (course_proceed ends ps hi hs).ticks

end Moves

end RequestPipeline
