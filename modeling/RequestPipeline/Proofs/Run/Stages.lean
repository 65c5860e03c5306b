import RequestPipeline.Proofs.Run.Reach

/-!
# The stages of a run

Four stages of a run follow one another in its trace: the way inwards through the outermost filters,
the action with the filters around it, rendering with the filters around that, and the way outwards
through the outermost filters (`staged_run`). Each event belongs to at most one of them
(`Event.stage?`).

A result that is rendered past the filters around rendering belongs to none: this happens in place
of the core, or behind it, when rendering is still due. As a run renders at most once, it is enough
to know of a run whether it renders in this way.
-/

set_option autoImplicit false

namespace RequestPipeline

/-! ## Stages of events -/

/-- Where an event takes place, if it takes place in a phase. -/
def Event.phase? : Event → Option Phase
  | .called cb .. => some cb.phase
  | .shortCircuited _ ph => some ph
  | .raised ph _ => some ph
  | .invoking | .invoked _ => some .action
  | .rendered _ => some .render
  | _ => none

/-- Whether a result is rendered past the filters around rendering. -/
def Event.isDirect : Event → Bool
  | .renderingDirectly => true
  | _ => false

theorem any_isDirect {es : List Event} :
    es.any Event.isDirect = true ↔ .renderingDirectly ∈ es := by
  rw [List.any_eq_true]
  constructor
  · rintro ⟨x, hx, hd⟩
    cases x <;> simp_all [Event.isDirect]
  · exact fun h => ⟨_, h, rfl⟩

/-- The stage that filters belong to when they are called at a moment. -/
def Callback.stage? : Callback → Option Nat
  | .resourceBefore => some 0
  | .actionBefore | .actionAfter => some 1
  | .resultBefore | .resultAfter => some 2
  | .resourceAfter => some 3
  | .authorization | .exception => none

/-- The stage that an event belongs to, in a run that renders directly or not. -/
def Event.stage? (direct : Bool) : Event → Option Nat
  | .called cb .. => cb.stage?
  | e =>
    match e.phase? with
    | some .action => some 1
    | some .result => some 2
    | some .render => if direct then none else some 2
    | _ => none

/-- An event belongs to the action or to rendering, or to the filters around them, in a run that
renders directly or not. -/
def Event.inCore (direct : Bool) (x : Event) : Bool :=
  x.stage? direct == some 1 || x.stage? direct == some 2

/-- An event takes place where a fault is shown. -/
def Event.isShowing (x : Event) : Bool := x.phase? == some .exception

/-- The events that belong to the action and the filters around it. -/
def actionEvents (es : List Event) : List Event := es.filter fun e => e.phase? == some .action

section Stages

variable {d : Bool}

/-- A trace goes through stages in order, from one to another. -/
structure Staged (d : Bool) (lo hi : Nat) (es : List Event) : Prop where
  sorted : (es.filterMap (Event.stage? d)).Pairwise (· ≤ ·)
  bounded : ∀ n ∈ es.filterMap (Event.stage? d), lo ≤ n ∧ n ≤ hi

theorem Staged.of_forall {k : Nat} {es : List Event}
    (h : ∀ x ∈ es, x.stage? d = none ∨ x.stage? d = some k) : Staged d k k es := by
  have hk : ∀ n ∈ es.filterMap (Event.stage? d), n = k := by
    intro n hn
    obtain ⟨x, hx, hxn⟩ := List.mem_filterMap.mp hn
    rcases h x hx with hs | hs <;> simp_all
  constructor
  · exact List.pairwise_of_forall_mem_list fun a ha b hb =>
      Nat.le_of_eq ((hk a ha).trans (hk b hb).symm)
  · intro n hn
    simp [hk n hn]

theorem Staged.widen {lo lo' hi hi' : Nat} {es : List Event} (h : Staged d lo hi es)
    (hlo : lo' ≤ lo) (hhi : hi ≤ hi') : Staged d lo' hi' es where
  sorted := h.sorted
  bounded n hn := ⟨Nat.le_trans hlo (h.bounded n hn).1, Nat.le_trans (h.bounded n hn).2 hhi⟩

theorem Staged.append {lo mid hi : Nat} {es fs : List Event} (h : Staged d lo mid es)
    (h' : Staged d mid hi fs) (hlo : lo ≤ mid) (hhi : mid ≤ hi) : Staged d lo hi (es ++ fs) := by
  constructor
  · rw [List.filterMap_append, List.pairwise_append]
    exact ⟨h.sorted, h'.sorted, fun a ha b hb =>
      Nat.le_trans (h.bounded a ha).2 (h'.bounded b hb).1⟩
  · intro n hn
    rw [List.filterMap_append, List.mem_append] at hn
    rcases hn with hn | hn
    · exact (h.widen (Nat.le_refl _) hhi).bounded n hn
    · exact (h'.widen hlo (Nat.le_refl _)).bounded n hn

/-! ## Stages of the parts of a run -/

variable {ends : Ends} {ps : List Place}

/-- An event that takes place in no phase belongs to no stage. -/
theorem Event.stage?_of_phase?_eq_none {x : Event} (h : x.phase? = none) : x.stage? d = none := by
  cases x <;> simp_all [phase?, stage?]

theorem Event.stage?_of_phase?_eq_action {x : Event} (h : x.phase? = some .action) :
    x.stage? d = some 1 := by
  cases x with
  | called cb => cases cb <;> simp_all [phase?, stage?, Callback.phase, Callback.stage?]
  | _ => simp_all [phase?, stage?]

/-- Whatever a call leads to at once takes place in the phase of its moment. -/
theorem Entry.phase_step (e : Entry) : ∀ x ∈ e.step.events, x.phase? = some e.callback.phase := by
  intro x hx
  rcases mem_step_events hx with rfl | rfl | ⟨f, rfl⟩ <;> rfl

theorem phase_advance {cb : Callback} {ms : List (Place × Behaviour)} (s : State) :
    ∀ x ∈ (advance ps cb ms s).step.events, x.phase? = some cb.phase :=
  advance_forall (fun e he => he ▸ e.phase_step) s

theorem phase_perform (s : State) : ∀ x ∈ (ends.perform s).events, x.phase? = some .action := by
  intro x hx
  rcases perform_cases ends s with ⟨f, -, h⟩ | ⟨-, f, -, h⟩ | ⟨-, a, -, h⟩ <;>
    rw [h] at hx <;>
    simp only [List.mem_cons, List.not_mem_nil, or_false] at hx
  · rcases hx with rfl | rfl <;> rfl
  · rcases hx with rfl | rfl | rfl <;> rfl
  · rcases hx with rfl | rfl <;> rfl

theorem phase_write (s : State) : ∀ x ∈ (ends.write s).events, x.phase? = some .render := by
  intro x hx
  rcases write_cases ends s with ⟨f, -, h⟩ | ⟨-, h⟩ <;>
    rw [h] at hx <;>
    simp only [List.mem_cons, List.not_mem_nil, or_false] at hx
  · rcases hx with rfl | rfl <;> rfl
  · rw [hx]
    rfl

/-- A call belongs to the stage of its moment, together with what it leads to at once. -/
theorem Entry.stage_step (e : Entry) :
    ∀ x ∈ e.step.events, x.stage? d = none ∨ x.stage? d = e.callback.stage? := by
  intro x hx
  rcases mem_step_events hx with rfl | rfl | ⟨f, rfl⟩
  · exact .inr rfl
  · cases e.callback <;> simp [Event.stage?, Event.phase?, Callback.phase, Callback.stage?]
  · cases e.callback <;> simp [Event.stage?, Event.phase?, Callback.phase, Callback.stage?]

theorem stage_advance {cb : Callback} {ms : List (Place × Behaviour)} (s : State) :
    ∀ x ∈ (advance ps cb ms s).step.events, x.stage? d = none ∨ x.stage? d = cb.stage? :=
  advance_forall (fun e he => he ▸ e.stage_step) s

theorem stage_ascend {l : Layer} {ms : List (Place × Around)} (s : State) :
    ∀ x ∈ (l.ascend ps ms s).events, x.stage? d = none ∨ x.stage? d = l.after.stage? :=
  ascend_forall (fun e he => he ▸ e.stage_step) s

/-- Settling takes place in no phase, and neither raises nor marks a fault. -/
theorem silent_settle (s : State) : ∀ x ∈ (Step.settle s).events,
    x.phase? = none ∧ x.raised? = none ∧ x.marks = false := by
  intro x hx
  rcases settle_cases s with ⟨-, h⟩ | ⟨p, -, -, h⟩
  · simp [h] at hx
  · obtain rfl : x = .settled p.phase p.fault := by simpa [h] using hx
    exact ⟨rfl, rfl, rfl⟩

theorem stage_settle (s : State) : ∀ x ∈ (Step.settle s).events, x.stage? d = none :=
  fun x hx => Event.stage?_of_phase?_eq_none (silent_settle s x hx).1

/-- The action and the filters around it raise and mark faults only in their own phase. -/
theorem phase_actionPhase {s : State} (hs : s.canceled = false) :
    ∀ x ∈ (ends.actionPhase ps s).events, x.phase? = some .action ∨
      (x.phase? = none ∧ x.raised? = none ∧ x.marks = false) := by
  refine surround_forall hs ?_ ?_ fun t x hx => .inr (silent_settle t x hx)
  · intro e he x hx
    have hphase : e.callback.phase = .action := by
      rcases he with he | he <;> rw [he] <;> rfl
    exact .inl (hphase ▸ e.phase_step x hx)
  · exact fun t x hx => .inl (phase_perform t x hx)

theorem stage_actionPhase {s : State} (hs : s.canceled = false) :
    ∀ x ∈ (ends.actionPhase ps s).events, x.stage? d = none ∨ x.stage? d = some 1 := by
  intro x hx
  rcases phase_actionPhase hs x hx with h | ⟨h, -, -⟩
  · exact .inr (Event.stage?_of_phase?_eq_action h)
  · exact .inl (Event.stage?_of_phase?_eq_none h)

/-- What is rendered belongs to the stage of rendering, unless it is rendered directly. -/
theorem Event.stage?_of_phase?_eq_render {x : Event} (h : x.phase? = some .render) :
    x.stage? d = if d then none else some 2 := by
  cases x with
  | called cb => cases cb <;> simp_all [phase?, Callback.phase]
  | _ => simp_all [phase?, stage?]

theorem stage_write (s : State) : ∀ x ∈ (ends.write s).events,
    x.stage? d = if d then none else some 2 :=
  fun x hx => Event.stage?_of_phase?_eq_render (phase_write s x hx)

theorem stage_resultPhase {s : State} (hs : s.suppressed = false) :
    ∀ x ∈ (ends.resultPhase ps s).events, x.stage? d = none ∨ x.stage? d = some 2 := by
  by_cases free : s.pending = none
  · rw [resultPhase_of_free ends ps free]
    refine surround_forall hs ?_ ?_ fun t x hx => .inl (stage_settle t x hx)
    · intro e he x hx
      have hstage : e.callback.stage? = some 2 := by
        rcases he with he | he <;> rw [he] <;> rfl
      exact hstage ▸ e.stage_step x hx
    · intro t x hx
      have h := stage_write (d := d) t x hx
      cases d <;> simp_all
  · simp [resultPhase_of_fault ends ps free]

/-- What is rendered directly belongs to no stage. -/
theorem stage_writeDirectly (hd : d = true) (s : State) :
    ∀ x ∈ (ends.writeDirectly s).events, x.stage? d = none := by
  intro x hx
  simp only [Ends.writeDirectly, Step.andThen_events, List.mem_append] at hx
  rcases hx with (hx | hx) | hx
  · rw [List.mem_singleton.mp hx]
    rfl
  · simpa [hd] using stage_write (d := d) _ x hx
  · exact stage_settle _ x hx

theorem Event.inCore_of_stage {x : Event} {k : Nat} (h : x.stage? d = none ∨ x.stage? d = some k)
    (h₁ : k ≠ 1) (h₂ : k ≠ 2) : x.inCore d = false := by
  rcases h with h | h <;> simp [inCore, h, h₁, h₂]

theorem Event.inCore_of_phase {x : Event}
    (h : x.phase? = some .action ∨ x.phase? = some .result ∨
      (x.phase? = some .render ∧ d = false)) : x.inCore d = true := by
  cases x with
  | called cb => cases cb <;> simp_all [phase?, inCore, stage?, Callback.phase, Callback.stage?]
  | _ => rcases h with h | h | ⟨h, hd⟩ <;> simp_all [phase?, inCore, stage?]

/-- Neither in front of the core nor behind it anything belongs to it, or shows a fault. -/
theorem OutsideCore.outside (ends : Ends) (d : Bool) :
    OutsideCore ends (d = true) fun x => x.inCore d = false ∧ x.isShowing = false where
  border x hx := by
    cases x <;> simp_all [Event.isBorder, Event.isClosing, Event.inCore, Event.stage?,
      Event.phase?, Event.isShowing]
  cancelled f := by
    simp [Event.inCore, Event.stage?, Event.phase?, Event.isShowing]
  call e he x hx := by
    have hphase := e.phase_step x hx
    have hstage := e.stage_step (d := d) x hx
    cases hcb : e.callback <;>
      simp_all [Callback.capability, Callback.phase, Callback.stage?, Event.isShowing, Event.inCore]
    all_goals rcases hstage with h | h <;> simp [h]
  settle s x hx := by
    have hphase := (silent_settle s x hx).1
    simp [Event.inCore, Event.stage?_of_phase?_eq_none hphase, Event.isShowing, hphase]
  written hd s x hx := by
    refine ⟨Event.inCore_of_stage (k := 0) (.inl (stage_writeDirectly hd s x hx))
      (by decide) (by decide), ?_⟩
    simp only [Ends.writeDirectly, Step.andThen_events, List.mem_append, List.mem_singleton] at hx
    rcases hx with (rfl | hx) | hx
    · rfl
    · simp [Event.isShowing, phase_write _ x hx]
    · simp [Event.isShowing, (silent_settle _ x hx).1]

theorem direct_mem_writeDirectly (s : State) :
    Event.renderingDirectly ∈ (ends.writeDirectly s).events := by
  simp [Ends.writeDirectly]

theorem stage_writeMissing {s : State}
    (hd : Event.renderingDirectly ∈ (ends.writeMissing s).events → d = true) :
    ∀ x ∈ (ends.writeMissing s).events, x.stage? d = none := by
  rcases writeMissing_cases ends s with ⟨-, -, h⟩ | ⟨-, h⟩ <;> rw [h] at hd ⊢
  · exact stage_writeDirectly (hd (direct_mem_writeDirectly s)) s
  · simp

theorem stage_exceptionPhase {s : State}
    (hd : Event.renderingDirectly ∈ (ends.exceptionPhase ps s).events → d = true) :
    ∀ x ∈ (ends.exceptionPhase ps s).events, x.stage? d = none := by
  by_cases free : s.pending = none
  · simp [exceptionPhase_of_free ends ps free]
  · rw [exceptionPhase_of_fault ends ps free] at hd ⊢
    simp only [Step.andThen_events, Step.andThen_state, List.mem_append] at hd ⊢
    intro x hx
    rcases hx with (hx | hx) | hx
    · simpa [Callback.stage?] using stage_advance (d := d) s x hx
    · exact stage_settle _ x hx
    · exact stage_writeMissing (fun h => hd (.inr h)) x hx

/-! ## Whole runs -/

/-- Events of no stage stand at any stage. -/
theorem Staged.of_none {es : List Event} (h : ∀ x ∈ es, x.stage? d = none) (k : Nat) :
    Staged d k k es :=
  .of_forall fun x hx => .inl (h x hx)

theorem staged_passage {cb : Callback} {k : Nat} (hk : cb.stage? = some k) (s : State) :
    Staged d k k (cb.passage ps s).step.events :=
  .of_forall (hk ▸ stage_advance s)

theorem staged_core {s : State} (hs : s.Open)
    (hd : Event.renderingDirectly ∈ (ends.core ps s).events → d = true) :
    Staged d 1 2 (ends.core ps s).events := by
  have haction : Staged d 1 1 (ends.actionPhase ps s).events :=
    .of_forall (stage_actionPhase hs.active)
  have hresult : Staged d 2 2 (ends.resultPhase ps (ends.actionPhase ps s).state).events :=
    .of_forall (stage_resultPhase (suppressed_actionPhase ends ps hs))
  simp only [Ends.core, Step.andThen_events, Step.andThen_state, List.mem_append] at hd ⊢
  refine .append (.append haction (hresult.widen (by decide) (by decide)) (by decide) (by decide))
    (.of_none (stage_exceptionPhase fun h => hd (.inr h)) 2) (by decide) (by decide)

theorem staged_inside {s : State} (hs : s.Open)
    (hd : Event.renderingDirectly ∈ (ends.inside ps
      (Callback.resourceBefore.passage ps s).step.state).events → d = true) :
    Staged d 1 2 (ends.inside ps (Callback.resourceBefore.passage ps s).step.state).events := by
  cases hv : (Callback.resourceBefore.passage ps s).verdict with
  | admitted =>
    rw [inside_of_admitted ends ps hs hv] at hd ⊢
    exact staged_core (hs.passage ps rfl hv) hd
  | refused =>
    rw [inside_of_refused ends ps hs hv] at hd ⊢
    exact (Staged.of_none (stage_writeDirectly (hd (direct_mem_writeDirectly _)) _) 1).widen
      (by decide) (by decide)
  | faulted =>
    rw [inside_of_faulted ends ps hv]
    exact (Staged.of_none (by simp) 1).widen (by decide) (by decide)

theorem staged_resourcePhase {s : State} (hs : s.Open)
    (hd : Event.renderingDirectly ∈ (ends.resourcePhase ps s).events → d = true) :
    Staged d 0 3 (ends.resourcePhase ps s).events := by
  rw [resourcePhase_eq ends ps hs.active] at hd ⊢
  simp only [Step.andThen_events, Step.andThen_state, List.mem_append] at hd ⊢
  have hinside := staged_inside (d := d) hs fun h => hd (.inl (.inl (.inl (.inr h))))
  have hinward : Staged d 0 3 ((Callback.resourceBefore.passage ps s).step.events ++
      (ends.inside ps (Callback.resourceBefore.passage ps s).step.state).events) :=
    (staged_passage rfl s).append (hinside.widen (by decide) (by decide)) (by decide) (by decide)
  have houtward (t : State) :
      Staged d 3 3 (Layer.resource.ascend ps (Layer.resource.entered ps s) t).events :=
    .of_forall (stage_ascend t)
  have hsettle (t : State) : Staged d 3 3 (Step.settle t).events := .of_none (stage_settle t) 3
  -- whatever is rendered at the very end is rendered directly
  have hlast := Staged.of_none (stage_writeMissing (d := d) fun h => hd (.inr h)) 3
  exact ((hinward.append (houtward _) (by decide) (by decide)).append (hsettle _) (by decide)
    (by decide)).append hlast (by decide) (by decide)

theorem staged_proceed {s : State} (hs : s.Open)
    (hd : Event.renderingDirectly ∈ (ends.proceed ps s).events → d = true) :
    Staged d 0 3 (ends.proceed ps s).events := by
  have hauth : Staged d 0 0 (Callback.authorization.passage ps s).step.events :=
    .of_none (fun x hx => by simpa [Callback.stage?] using stage_advance (d := d) s x hx) 0
  cases hi : s.call.interruption? with
  | some f =>
    rw [proceed_of_interrupted ends ps hi]
    exact (Staged.of_none (by simp [Event.stage?, Event.phase?]) 0).widen (by decide) (by decide)
  | none =>
    cases hv : (Callback.authorization.passage ps s).verdict with
    | faulted =>
      rw [proceed_of_faulted ends ps hi hs hv]
      exact hauth.widen (by decide) (by decide)
    | refused =>
      -- the answer of a filter that refuses the request is rendered directly
      rw [proceed_of_refused ends ps hi hs hv] at hd ⊢
      simp only [Step.andThen_events, List.mem_append] at hd ⊢
      have hwrite : Staged d 0 0
          (ends.writeDirectly (Callback.authorization.passage ps s).step.state).events :=
        .of_none (stage_writeDirectly (hd (.inr (direct_mem_writeDirectly _))) _) 0
      exact hauth.append (hwrite.widen (by decide) (by decide)) (by decide) (by decide)
    | admitted =>
      rw [proceed_of_admitted ends ps hi hs hv] at hd ⊢
      simp only [Step.andThen_events, List.mem_append] at hd ⊢
      exact hauth.append (staged_resourcePhase (hs.passage ps rfl hv) fun h => hd (.inr h))
        (by decide) (by decide)

/-- The stages of a run follow one another. -/
theorem staged_run (ends : Ends) (ps : List Place) (call : Call) :
    ((run ends ps (.initial call)).events.filterMap
      (Event.stage? ((run ends ps (.initial call)).events.any Event.isDirect))).Pairwise
        (· ≤ ·) := by
  obtain ⟨tail, hrun, -⟩ := events_run ends ps call
  have hd (h : Event.renderingDirectly ∈ (ends.proceed ps (.begun call)).events) :
      (run ends ps (.initial call)).events.any Event.isDirect = true := by
    refine List.any_eq_true.mpr ⟨.renderingDirectly, ?_, rfl⟩
    rw [hrun]
    exact List.mem_cons_of_mem _ (List.mem_append_left _ h)
  rw [filterMap_run ends ps call]
  · exact (staged_proceed (State.begun_open call) hd).sorted
  · intro x hx
    cases x <;> simp_all [Event.isBorder, Event.isClosing, Event.stage?, Event.phase?]

/-- Events of another stage belong neither to the action nor to the filters around it. -/
theorem actionEvents_eq_nil {k : Nat} {es : List Event} (h : Staged d k k es) (hk : k ≠ 1) :
    actionEvents es = [] := by
  refine List.filter_eq_nil_iff.mpr fun x hx hp => hk ?_
  have hs : x.stage? d = some 1 := Event.stage?_of_phase?_eq_action (beq_iff_eq.mp hp)
  have hb := h.bounded 1 (List.mem_filterMap.mpr ⟨x, hx, hs⟩)
  omega

@[simp] theorem actionEvents_append (es fs : List Event) :
    actionEvents (es ++ fs) = actionEvents es ++ actionEvents fs := by
  simp [actionEvents]

theorem actionEvents_core {s : State} (hs : s.Open) :
    actionEvents (ends.core ps s).events = actionEvents (ends.actionPhase ps s).events := by
  have hresult : Staged true 2 2 (ends.resultPhase ps (ends.actionPhase ps s).state).events :=
    .of_forall (stage_resultPhase (suppressed_actionPhase ends ps hs))
  have hexception (t : State) : Staged true 2 2 (ends.exceptionPhase ps t).events :=
    .of_none (stage_exceptionPhase fun _ => rfl) 2
  simp [Ends.core, actionEvents_eq_nil hresult, actionEvents_eq_nil (hexception _)]

/-- Events of no stage belong neither to the action nor to the filters around it. -/
theorem actionEvents_of_none {es : List Event} (h : ∀ x ∈ es, x.stage? true = none) :
    actionEvents es = [] :=
  actionEvents_eq_nil (.of_none h 0) (by decide)

theorem actionEvents_resourcePhase {s : State} (hs : s.Open) :
    actionEvents (ends.resourcePhase ps s).events =
      actionEvents (ends.inside ps (Callback.resourceBefore.passage ps s).step.state).events := by
  have hbefore : Staged true 0 0 (Callback.resourceBefore.passage ps s).step.events :=
    staged_passage rfl s
  have hafter (t : State) :
      Staged true 3 3 (Layer.resource.ascend ps (Layer.resource.entered ps s) t).events :=
    .of_forall (stage_ascend t)
  have hmissing (t : State) : actionEvents (ends.writeMissing t).events = [] :=
    actionEvents_of_none (stage_writeMissing fun _ => rfl)
  rw [resourcePhase_eq ends ps hs.active]
  simp [actionEvents_eq_nil hbefore, actionEvents_eq_nil (hafter _), hmissing,
    actionEvents_of_none (stage_settle _)]

section Runs

variable {call : Call}

theorem actionEvents_run_eq (ends : Ends) (ps : List Place) (call : Call) :
    actionEvents (run ends ps (.initial call)).events =
      actionEvents (ends.proceed ps (.begun call)).events := by
  obtain ⟨tail, hrun, hclosing⟩ := events_run ends ps call
  have hborder (x : Event) (hx : x.isBorder = true) : x.stage? true = none := by
    cases x <;> simp_all [Event.isBorder, Event.isClosing, Event.stage?, Event.phase?]
  have htail : actionEvents tail = [] :=
    actionEvents_of_none fun x hx => hborder x (Event.isBorder_of_isClosing (hclosing x hx))
  rw [hrun, actionEvents, List.filter_cons_of_neg (by simp [Event.phase?]), ← actionEvents,
    actionEvents_append, htail, List.append_nil]

theorem actionEvents_authorization (s : State) :
    actionEvents (Callback.authorization.passage ps s).step.events = [] :=
  actionEvents_of_none fun x hx => by simpa [Callback.stage?] using stage_advance s x hx

/-- The events of the action and the filters around it are found in their place only. -/
theorem actionEvents_run_of_reached
    (h : CoreReached ps call (run ends ps (.initial call)).events) :
    actionEvents (run ends ps (.initial call)).events =
      actionEvents (ends.actionPhase ps (.atCore ps call)).events := by
  have hcore := State.atCore_open ends h
  obtain ⟨⟨hc, hauth⟩, hv⟩ := (coreReached_run_iff ends).mp h
  have hopen := (State.begun_open call).passage ps rfl hauth
  rw [actionEvents_run_eq,
    proceed_of_admitted ends ps (State.interruption_begun hc) (State.begun_open call) hauth,
    Step.andThen_events, actionEvents_append, actionEvents_authorization, List.nil_append,
    actionEvents_resourcePhase hopen, inside_of_admitted ends ps hopen hv]
  exact actionEvents_core hcore

/-- A run that does not reach the core has nothing of it and shows no fault. -/
theorem outside_run (h : ¬CoreReached ps call (run ends ps (.initial call)).events) :
    ∀ x ∈ (run ends ps (.initial call)).events,
      x.inCore ((run ends ps (.initial call)).events.any Event.isDirect) = false ∧
        x.isShowing = false := by
  have hQ := OutsideCore.outside ends ((run ends ps (.initial call)).events.any Event.isDirect)
  refine OutsideCore.run ⟨hQ.border, hQ.cancelled, hQ.call, hQ.settle, fun hmem => ?_⟩ h
  exact hQ.written (List.any_eq_true.mpr ⟨_, hmem, rfl⟩)

/-- Unless the core is reached, nothing of the action takes place. -/
theorem actionEvents_run_of_not_reached
    (h : ¬CoreReached ps call (run ends ps (.initial call)).events) :
    actionEvents (run ends ps (.initial call)).events = [] := by
  refine List.filter_eq_nil_iff.mpr fun x hx haction => ?_
  have hout := (outside_run h x hx).1
  rw [Event.inCore_of_phase (.inl (beq_iff_eq.mp haction))] at hout
  cases hout

end Runs

end Stages

end RequestPipeline
