import RequestPipeline.Proofs.Run.InFlight
import RequestPipeline.Proofs.Run.Stages

/-!
# Phases that surround others

The filters of a phase surround what lies inside it like the layers of an onion. In a trace, a phase
that was reached is balanced (`Layer.Balanced`): the way inwards stops early only at a filter that
does not let the request pass, and the way outwards leaves exactly the filters that were entered and
returned, the last of them first. This holds of every phase of every run, whatever is raised,
handled or rendered in between (`run_balanced`); a phase that was not reached calls none of its
filters.
-/

set_option autoImplicit false

namespace RequestPipeline

/-! ## Balance -/

/-- A phase is balanced in a trace. -/
structure Layer.Balanced (l : Layer) (ps : List Place) (es : List Event) : Prop where
  /-- The filters called on the way inwards are the first of those that take part. -/
  inward : (entries l.before es).map Entry.seat <+: l.before.seats ps
  /-- All of them but the last let the request pass. -/
  passes : ∀ e ∈ (entries l.before es).dropLast, e.passed = true
  /-- If not all were called, the last did not let the request pass. -/
  stops : (entries l.before es).map Entry.seat ≠ l.before.seats ps →
    ∃ e, (entries l.before es).getLast? = some e ∧ e.passed = false
  /-- The filters called on the way outwards are those that returned, the last entered first. -/
  outward : (entries l.after es).map Entry.seat =
    (((entries l.before es).filter Entry.returned).map Entry.seat).reverse

/-- A phase calls no filter in a trace. -/
def Layer.Absent (l : Layer) (es : List Event) : Prop :=
  entries l.before es = [] ∧ entries l.after es = []

/-- A trace shows that a phase was reached: the outermost behind authorization, the action at the
core, and rendering if the action and the filters around it leave no fault in flight. -/
def Layer.Reached (ps : List Place) (call : Call) (es : List Event) : Layer → Prop
  | .resource => Authorized ps call es
  | .action => CoreReached ps call es
  | .result => CoreReached ps call es ∧ inFlight (actionEvents es) = none

section Balance

variable {ps : List Place} {l : Layer} {s : State} {es : List Event}

/-- A trace that shows the passage of a phase and then every filter that was entered is balanced. -/
theorem Layer.balanced_of_passage
    (hbefore : entries l.before es = entries l.before (l.before.passage ps s).step.events)
    (hafter : (entries l.after es).map Entry.seat =
      (((entries l.before es).filter Entry.returned).map Entry.seat).reverse) :
    l.Balanced ps es := by
  refine ⟨?_, ?_, ?_, hafter⟩ <;> rw [hbefore, Callback.passage]
  · rw [← l.before.map_seat_members]
    exact entries_advance_prefix
  · exact advance_passes
  · rw [← l.before.map_seat_members]
    exact advance_cut

theorem Layer.before_ne_after (l : Layer) : l.after ≠ l.before := by
  cases l <;> decide

/-- A phase around something that calls no filters of its own is balanced. -/
theorem Layer.balanced_surround {inner : State → Step} (hl : l.stopped s = false)
    (hbefore : ∀ t, entries l.before (inner t).events = [])
    (hafter : ∀ t, entries l.after (inner t).events = []) :
    l.Balanced ps (l.surround ps inner s).events := by
  obtain ⟨t, ht⟩ := entries_surround ps hl hbefore
  obtain ⟨u, hu⟩ := entries_surround ps hl hafter
  rw [entries_ascend_of_ne l.before_ne_after, List.append_nil] at ht
  rw [entries_passage_of_ne l.before_ne_after, List.nil_append] at hu
  refine l.balanced_of_passage ht ?_
  rw [hu, ht, entries_ascend]
  exact l.map_seat_entered ps hl

/-- Balance is read off the entries of a phase. -/
theorem Layer.Balanced.congr {fs : List Event} (h : l.Balanced ps fs)
    (hbefore : entries l.before es = entries l.before fs)
    (hafter : entries l.after es = entries l.after fs) : l.Balanced ps es := by
  obtain ⟨inward, passes, stops, outward⟩ := h
  constructor <;> simp only [hbefore, hafter] <;> assumption

end Balance

/-! ## Phases of a run -/

section Phases

variable (ends : Ends) (ps : List Place) (call : Call)

/-- Behind the action and the filters around it, a fault is in flight exactly if their events leave
one. -/
theorem pending_actionPhase {s : State} (hs : s.Open) :
    inFlight (actionEvents (ends.actionPhase ps s).events) = none ↔
      (ends.actionPhase ps s).state.pending = none := by
  -- the phase ends by settling, so a fault in flight behind it is not marked
  have hhandled : (ends.actionPhase ps s).state.handled = false := Step.handled_settle _
  have hnone : s.unhandled = none := by simp [State.unhandled, hs.free]
  have hsilent : ∀ e ∈ (ends.actionPhase ps s).events, (e.phase? == some .action) = false →
      e.raised? = none ∧ e.marks = false := by
    intro e he hp
    rcases phase_actionPhase hs.active e he with h | ⟨-, hr, hm⟩
    · simp [h] at hp
    · exact ⟨hr, hm⟩
  rw [inFlight, actionEvents, foldl_track_filter hsilent, ← hnone,
    ← (course_actionPhase hs.free hs.active).unhandled, State.unhandled_of_not_handled hhandled,
    hnone, Option.map_eq_none_iff]

theorem resource_balanced (h : Authorized ps call (run ends ps (.initial call)).events) :
    Layer.resource.Balanced ps (run ends ps (.initial call)).events := by
  have hopen := State.authorized_open ((authorized_run_iff ends).mp h).2
  have hentries (cb : Callback) (hcb : cb.capability ≠ .authorization) :=
    entries_run_of_authorized ends hcb h
  refine Layer.balanced_of_passage (s := .authorized ps call) ?_ ?_
  · exact entries_resourceBefore_run ends h
  · rw [hentries _ (by decide), hentries _ (by decide)]
    exact entries_resourceAfter ends ps hopen

theorem action_balanced (h : CoreReached ps call (run ends ps (.initial call)).events) :
    Layer.action.Balanced ps (run ends ps (.initial call)).events := by
  have hopen := State.atCore_open ends h
  have hentries (cb : Callback) (hcb : cb.capability = .action) :
      entries cb (run ends ps (.initial call)).events =
        entries cb (ends.actionPhase ps (.atCore ps call)).events := by
    rw [entries_run_of_reached ends (by simp [hcb]) (by simp [hcb]) h,
      entries_core_action ends ps hopen hcb]
  have hbalanced : Layer.action.Balanced ps (ends.actionPhase ps (.atCore ps call)).events :=
    Layer.balanced_surround hopen.active (fun _ => entries_perform ends _ _)
      fun _ => entries_perform ends _ _
  exact hbalanced.congr (hentries _ rfl) (hentries _ rfl)

/-- The filters around rendering are called in their phase only. -/
theorem entries_result_of_reached (h : CoreReached ps call (run ends ps (.initial call)).events)
    {cb : Callback} (hcb : cb.capability = .result) :
    entries cb (run ends ps (.initial call)).events =
      entries cb (ends.resultPhase ps (ends.actionPhase ps (.atCore ps call)).state).events := by
  rw [entries_run_of_reached ends (by simp [hcb]) (by simp [hcb]) h,
    entries_core_result ends ps (State.atCore_open ends h) hcb]

theorem result_balanced (h : CoreReached ps call (run ends ps (.initial call)).events)
    (hfree : (ends.actionPhase ps (.atCore ps call)).state.pending = none) :
    Layer.result.Balanced ps (run ends ps (.initial call)).events := by
  have hsuppressed := suppressed_actionPhase ends ps (State.atCore_open ends h)
  have hbalanced : Layer.result.Balanced ps
      (ends.resultPhase ps (ends.actionPhase ps (.atCore ps call)).state).events := by
    rw [resultPhase_of_free ends ps hfree]
    exact Layer.balanced_surround hsuppressed (fun _ => entries_write ends _ _)
      fun _ => entries_write ends _ _
  exact hbalanced.congr (entries_result_of_reached ends ps call h rfl)
    (entries_result_of_reached ends ps call h rfl)

theorem result_absent (h : CoreReached ps call (run ends ps (.initial call)).events)
    (hfault : (ends.actionPhase ps (.atCore ps call)).state.pending ≠ none) :
    Layer.result.Absent (run ends ps (.initial call)).events := by
  have hnone (cb : Callback) (hcb : cb.capability = .result) :
      entries cb (run ends ps (.initial call)).events = [] := by
    rw [entries_result_of_reached ends ps call h hcb, resultPhase_of_fault ends ps hfault]
    rfl
  exact ⟨hnone _ rfl, hnone _ rfl⟩

/-- Every phase of a run is balanced if it was reached and calls no filter if it was not. The stages
of the run follow one another: the way inwards through the outermost filters, the action with the
filters around it, rendering with the filters around that, and the way outwards. -/
theorem run_balanced (ends : Ends) (ps : List Place) (call : Call) :
    let es := (run ends ps (.initial call)).events
    (∀ l : Layer, (l.Reached ps call es ∧ l.Balanced ps es) ∨
        (¬l.Reached ps call es ∧ l.Absent es)) ∧
      (es.filterMap (Event.stage? (es.any Event.isDirect))).Pairwise (· ≤ ·) := by
  intro es
  refine ⟨?_, staged_run ends ps call⟩
  intro l
  cases l with
  | resource =>
    by_cases h : Authorized ps call es
    · exact .inl ⟨h, resource_balanced ends ps call h⟩
    · exact .inr ⟨h, entries_run_of_not_authorized ends (by decide) h,
        entries_run_of_not_authorized ends (by decide) h⟩
  | action =>
    by_cases h : CoreReached ps call es
    · exact .inl ⟨h, action_balanced ends ps call h⟩
    · exact .inr ⟨h, entries_run_of_not_reached ends (by decide) (by decide) h,
        entries_run_of_not_reached ends (by decide) (by decide) h⟩
  | result =>
    by_cases h : CoreReached ps call es
    · -- behind the action the way parts: rendering, or the filters that are shown the fault
      have hiff : inFlight (actionEvents es) = none ↔
          (ends.actionPhase ps (.atCore ps call)).state.pending = none := by
        rw [actionEvents_run_of_reached h, pending_actionPhase ends ps (State.atCore_open ends h)]
      by_cases hfree : (ends.actionPhase ps (.atCore ps call)).state.pending = none
      · exact .inl ⟨⟨h, hiff.mpr hfree⟩, result_balanced ends ps call h hfree⟩
      · exact .inr ⟨fun hr => hfree (hiff.mp hr.2), result_absent ends ps call h hfree⟩
    · exact .inr ⟨fun hr => h hr.1, entries_run_of_not_reached ends (by decide) (by decide) h,
        entries_run_of_not_reached ends (by decide) (by decide) h⟩

end Phases

end RequestPipeline
