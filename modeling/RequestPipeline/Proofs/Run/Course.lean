import RequestPipeline.Proofs.Run.Phases

/-!
# The course of a run

Whatever filters, actions and renderers do, a run is made of few kinds of moves: a filter is called,
the action is performed, a result is rendered, a fault is settled (`Move`). A course is a sequence
of moves, and behind its start every run is a course (`course_proceed`). The moves carry what holds
whenever they are made: the action is performed only while no fault is in flight, a result is
rendered only while no fault is in flight and nothing was rendered or kept from being rendered, and
filters can keep a result from being rendered only before it is. What every move keeps, every run
keeps.
-/

set_option autoImplicit false

namespace RequestPipeline

variable {ends : Ends} {ps : List Place}

/-- One move of a run. -/
inductive Move (ends : Ends) (ps : List Place) : State → Step → Prop
  | call {s : State} {p : Place} {cb : Callback} {b : Behaviour} (mem : p ∈ ps)
      (takes : cb.behaviour? p.filter = some b)
      (due : cb.changesResult = true → s.rendered = false) :
      Move ends ps s (p.entry ps cb b s).step
  | perform {s : State} (free : s.pending = none) : Move ends ps s (ends.perform s)
  | announce (s : State) : Move ends ps s ⟨s, [.renderingDirectly]⟩
  | write {s : State} (free : s.pending = none) (due : s.renderDone = false) :
      Move ends ps s (ends.write s)
  | settle (s : State) : Move ends ps s (.settle s)

/-- A sequence of moves. -/
inductive Course (ends : Ends) (ps : List Place) : State → Step → Prop
  | stay (s : State) : Course ends ps s (.stay s)
  | move {s : State} {t : Step} : Move ends ps s t → Course ends ps s t
  | andThen {s : State} {t : Step} {f : State → Step} :
      Course ends ps s t → Course ends ps t.state (f t.state) → Course ends ps s (t.andThen f)

/-! ## What every move keeps -/

section Keeps

variable {I : State → Prop} {s : State} {t : Step}

/-- What every move keeps, a course keeps. -/
theorem Course.keeps (hmove : ∀ {s t}, Move ends ps s t → I s → I t.state)
    (h : Course ends ps s t) (hs : I s) : I t.state := by
  induction h with
  | stay => exact hs
  | move h => exact hmove h hs
  | andThen h₁ h₂ ih₁ ih₂ => exact ih₂ (ih₁ hs)

theorem Entry.event_injective {e f : Entry} (h : e.event = f.event) : e = f := by
  obtain ⟨⟩ := e
  obtain ⟨⟩ := f
  simpa [event] using h

/-- A filter is called in a move only if the move is its call. -/
theorem Move.called (h : Move ends ps s t) {e : Entry} (he : e.event ∈ t.events) :
    ∃ p ∈ ps, ∃ b, e.callback.behaviour? p.filter = some b ∧ e = p.entry ps e.callback b s := by
  cases h with
  | @call p cb b mem takes due =>
    rcases Entry.mem_step_events he with h | h | ⟨f, h⟩
    · obtain rfl := Entry.event_injective h
      exact ⟨p, mem, b, takes, rfl⟩
    · exact absurd h (by simp [Entry.event])
    · exact absurd h (by simp [Entry.event])
  | perform free =>
    rcases perform_cases ends s with ⟨f, -, h⟩ | ⟨-, f, -, h⟩ | ⟨-, a, -, h⟩ <;>
      simp [h, Entry.event] at he
  | announce => simp [Entry.event] at he
  | write free due =>
    rcases write_cases ends s with ⟨f, -, h⟩ | ⟨-, h⟩ <;> simp [h, Entry.event] at he
  | settle =>
    rcases settle_cases s with ⟨-, h⟩ | ⟨p, -, -, h⟩ <;> simp [h, Entry.event] at he

/-- Every filter called in a course is one of the plan, called in a state in which all that moves
keep still holds. -/
theorem Course.called (hmove : ∀ {s t}, Move ends ps s t → I s → I t.state)
    (h : Course ends ps s t) (hs : I s) {e : Entry} (he : e.event ∈ t.events) :
    ∃ p ∈ ps, ∃ b u, I u ∧ e.callback.behaviour? p.filter = some b ∧
      e = p.entry ps e.callback b u := by
  induction h with
  | stay => simp at he
  | move h =>
    obtain ⟨p, hp, b, hb, heq⟩ := h.called he
    exact ⟨p, hp, b, _, hs, hb, heq⟩
  | andThen h₁ h₂ ih₁ ih₂ =>
    rcases List.mem_append.mp he with he | he
    · exact ih₁ hs he
    · exact ih₂ (h₁.keeps hmove hs) he

/-- A move does not change which request it is. -/
theorem Move.id (h : Move ends ps s t) : t.state.call.id = s.call.id := by
  cases h with
  | call mem takes due =>
    rw [Entry.call_step]
    rfl
  | perform free =>
    have hbehind : (ends.callBehind s.call).id = s.call.id := by
      unfold Ends.callBehind
      split <;> rfl
    rcases perform_cases ends s with ⟨f, -, h⟩ | ⟨-, f, -, h⟩ | ⟨-, a, -, h⟩ <;> rw [h]
    · rfl
    · exact hbehind
    · exact hbehind
  | announce => rfl
  | write free due =>
    have hwritten : (ends.written s).call.id = s.call.id := by
      simp only [Ends.written]
      split <;> rfl
    rcases write_cases ends s with ⟨f, -, h⟩ | ⟨-, h⟩ <;> rw [h]
    · exact hwritten
    · exact hwritten
  | settle =>
    rcases settle_cases s with ⟨-, h⟩ | ⟨p, -, -, h⟩ <;> rw [h]
    rfl

theorem Course.id (h : Course ends ps s t) : t.state.call.id = s.call.id :=
  h.keeps (I := fun u => u.call.id = s.call.id) (fun hm hu => hm.id.trans hu) rfl

end Keeps

/-! ## Runs are courses -/

theorem course_advance {cb : Callback} {ms : List (Place × Behaviour)}
    (hms : ∀ m ∈ ms, m ∈ cb.members ps) {s : State}
    (due : cb.changesResult = true → s.rendered = false) :
    Course ends ps s (advance ps cb ms s).step := by
  induction ms generalizing s with
  | nil => exact .stay s
  | cons m ms ih =>
    obtain ⟨p, b⟩ := m
    obtain ⟨hp, hb⟩ := Callback.mem_members.mp (hms (p, b) (by simp))
    by_cases hv : (p.entry ps cb b s).verdict = .admitted
    · rw [advance_cons_of_admitted hv]
      -- no call changes whether a result was rendered, so the rest may be called as well
      refine .andThen (f := fun t => (advance ps cb ms t).step) (.move (.call hp hb due)) ?_
      exact ih (fun m hm => hms m (List.mem_cons_of_mem _ hm)) (by simpa using due)
    · rw [advance_cons_of_not_admitted hv]
      exact .move (.call hp hb due)

theorem course_passage {cb : Callback} {s : State}
    (due : cb.changesResult = true → s.rendered = false) :
    Course ends ps s (cb.passage ps s).step :=
  course_advance (fun _ hm => hm) due

theorem Layer.changesResult_after (l : Layer) : l.after.changesResult = false := by
  cases l <;> rfl

theorem course_ascend {l : Layer} {ms : List (Place × Around)} (hms : ∀ m ∈ ms, m ∈ l.members ps)
    (s : State) : Course ends ps s (l.ascend ps ms s) := by
  induction ms generalizing s with
  | nil => exact .stay s
  | cons m ms ih =>
    obtain ⟨p, a⟩ := m
    -- a filter that takes part before the inner phases takes part after them
    have hmem : (p, a.after) ∈ l.after.members ps := by
      rw [← l.map_after_members]
      exact List.mem_map_of_mem (f := fun m => (m.1, m.2.after)) (hms (p, a) (by simp))
    obtain ⟨hp, hb⟩ := Callback.mem_members.mp hmem
    rw [l.ascend_cons]
    exact .andThen (.move (.call hp hb (by simp [l.changesResult_after])))
      (ih (fun m hm => hms m (List.mem_cons_of_mem _ hm)) _)

/-- A phase is a course if what it surrounds is, once every filter has let the request pass. -/
theorem course_surround {l : Layer} {inner : State → Step} {s : State} (hl : l.stopped s = false)
    (due : l.before.changesResult = true → s.rendered = false)
    (hinner : (l.before.passage ps s).verdict = .admitted →
      Course ends ps (l.before.passage ps s).step.state
        (inner (l.before.passage ps s).step.state)) :
    Course ends ps s (l.surround ps inner s) := by
  refine .andThen (.andThen (.andThen ?_ ?_) ?_) (.move (.settle _))
  · rw [l.descend_step ps hl]
    exact course_passage due
  · -- what the phase surrounds is skipped unless the passage admits the request
    by_cases hp : (l.descend ps (l.members ps) s).proceeds = true
    · simp only [hp, if_true, l.descend_step ps hl]
      exact hinner ((l.descend_proceeds ps hl).mp hp)
    · simp only [hp]
      exact .stay _
  · exact course_ascend (fun m hm => mem_of_mem_entered hm) _

theorem course_writeDirectly {s : State} (free : s.pending = none) (due : s.renderDone = false) :
    Course ends ps s (ends.writeDirectly s) :=
  .andThen (f := Step.settle)
    (.andThen (f := ends.write) (.move (.announce s)) (.move (.write free due)))
    (.move (.settle _))

theorem course_writeMissing (s : State) : Course ends ps s (ends.writeMissing s) := by
  rcases writeMissing_cases ends s with ⟨free, due, h⟩ | ⟨-, h⟩ <;> rw [h]
  · exact course_writeDirectly free due
  · exact .stay s

/-- Neither the action nor the filters around it render a result or keep it from being rendered. -/
theorem actionPhase_renderDone (ends : Ends) (ps : List Place) {s : State}
    (hs : s.canceled = false) :
    (ends.actionPhase ps s).state.renderDone = s.renderDone :=
  surround_frame hs (fun _ _ _ => Entry.step_renderDone rfl) (perform_renderDone ends)
    (fun _ _ _ => Entry.step_renderDone rfl) settle_renderDone

theorem course_actionPhase {s : State} (free : s.pending = none) (hs : s.canceled = false) :
    Course ends ps s (ends.actionPhase ps s) :=
  course_surround hs (by simp [Layer.before, Callback.changesResult]) fun hv =>
    .move (.perform (passage_pending_eq_none free (by simp [hv])))

theorem course_resultPhase {s : State} (due : s.renderDone = false) :
    Course ends ps s (ends.resultPhase ps s) := by
  by_cases free : s.pending = none
  · obtain ⟨hrendered, hsuppressed⟩ : s.rendered = false ∧ s.suppressed = false := by
      simpa [State.renderDone] using due
    rw [resultPhase_of_free ends ps free]
    refine course_surround hsuppressed (fun _ => hrendered) fun hv => .move (.write ?_ ?_)
    · exact passage_pending_eq_none free (by simp [hv])
    · -- a passage that admits the request has not kept it from being rendered
      have hstopped := stopped_advance ((Layer.result.stopped_eq s).symm.trans hsuppressed) hv
      rw [← Layer.stopped_eq] at hstopped
      simp only [State.renderDone, Bool.or_eq_false_iff]
      exact ⟨(advance_frame (fun _ _ _ => Entry.step_rendered _) s).trans hrendered, hstopped⟩
  · rw [resultPhase_of_fault ends ps free]
    exact .stay s

theorem course_exceptionPhase (s : State) : Course ends ps s (ends.exceptionPhase ps s) := by
  by_cases free : s.pending = none
  · rw [exceptionPhase_of_free ends ps free]
    exact .stay s
  · rw [exceptionPhase_of_fault ends ps free]
    refine .andThen (f := ends.writeMissing) (.andThen (f := Step.settle) ?_ (.move (.settle _)))
      (course_writeMissing _)
    exact course_advance (fun m hm => List.mem_reverse.mp hm) (by simp [Callback.changesResult])

theorem course_core {s : State} (hs : s.Open) : Course ends ps s (ends.core ps s) :=
  .andThen (f := ends.exceptionPhase ps)
    (.andThen (f := ends.resultPhase ps) (course_actionPhase hs.free hs.active)
      (course_resultPhase ((actionPhase_renderDone ends ps hs.active).trans hs.due)))
    (course_exceptionPhase _)

theorem course_inside {s : State} (due : s.renderDone = false) :
    Course ends ps s (ends.inside ps s) := by
  unfold Ends.inside
  split
  · exact .stay s
  · next hp =>
    have free : s.pending = none := by simpa using hp
    split
    · exact course_writeDirectly free due
    · next hc => exact course_core ⟨free, by simpa using hc, due⟩

theorem course_resourcePhase {s : State} (hs : s.canceled = false) (due : s.renderDone = false) :
    Course ends ps s (ends.resourcePhase ps s) := by
  have hstep := Layer.descend_step (l := .resource) ps hs
  refine .andThen (f := ends.writeMissing) (.andThen (f := Step.settle)
    (.andThen (.andThen (f := ends.inside ps) ?_ (course_inside ?_)) ?_)
    (.move (.settle _))) (course_writeMissing _)
  · rw [hstep]
    exact course_passage (by simp [Layer.before, Callback.changesResult])
  · rw [hstep]
    exact (advance_frame (fun _ _ _ => Entry.step_renderDone rfl) s).trans due
  · exact course_ascend (fun m hm => mem_of_mem_entered hm) _

/-- Every run that is not cancelled at its start is a course. -/
theorem course_proceed (ends : Ends) (ps : List Place) {s : State}
    (hi : s.call.interruption? = none) (hs : s.Open) :
    Course ends ps s (ends.proceed ps s) := by
  have hcourse : Course ends ps s (Callback.authorization.passage ps s).step :=
    course_passage (by simp [Callback.changesResult])
  cases hv : (Callback.authorization.passage ps s).verdict with
  | faulted =>
    rw [proceed_of_faulted ends ps hi hs hv]
    exact hcourse
  | refused =>
    have hfree : (Callback.authorization.passage ps s).step.state.pending = none :=
      passage_pending_eq_none hs.free (by simp [hv])
    have hdue : (Callback.authorization.passage ps s).step.state.renderDone = false :=
      (advance_frame (fun _ _ _ => Entry.step_renderDone rfl) s).trans hs.due
    rw [proceed_of_refused ends ps hi hs hv]
    exact .andThen (f := ends.writeDirectly) hcourse (course_writeDirectly hfree hdue)
  | admitted =>
    have hopen := hs.passage ps rfl hv
    rw [proceed_of_admitted ends ps hi hs hv]
    exact .andThen (f := ends.resourcePhase ps) hcourse
      (course_resourcePhase hopen.active hopen.due)

end RequestPipeline
