import Mathlib.Data.List.Nodup
import RequestPipeline.Policy.Access
import RequestPipeline.Proofs.Run.Onion

/-!
# The gate in front of the action

The action is invoked at most once, and exactly if the request was not cancelled at the start, every
filter of the plan that is called on the way inwards to the action let the request pass, and none of
them cancelled it (`run_gates_invocation`). A filter that decides by role therefore keeps a request
that it does not allow from the action and from every filter that takes part in more than
authorization.
-/

set_option autoImplicit false

namespace RequestPipeline

/-! ## Admission by seat -/

/-- The moments at which filters are called on the way inwards to the action. -/
def Callback.inward : List Callback := [.authorization, .resourceBefore, .actionBefore]

/-- Different filters of a plan sit in different seats. -/
theorem Callback.nodup_seats (cb : Callback) {ps : List Place} (h : (ps.map Place.index).Nodup) :
    (cb.seats ps).Nodup := by
  refine List.Nodup.of_map Prod.fst ?_
  have hsub : ((cb.seats ps).map Prod.fst).Sublist (ps.map Place.index) := by
    rw [seats, List.map_map]
    exact List.filter_sublist.map Place.index
  exact hsub.nodup h

/-- Every filter that takes part was called and let the request pass if each has an entry that
says so. -/
theorem Callback.admitted_iff_forall {cb : Callback} {ps : List Place} {es : List Event}
    (hnodup : (cb.seats ps).Nodup) (hinward : (entries cb es).map Entry.seat <+: cb.seats ps) :
    cb.Admitted ps es ↔
      ∀ x ∈ cb.seats ps, ∃ e ∈ entries cb es, e.seat = x ∧ e.passed = true := by
  constructor
  · rintro ⟨hseats, hpassed⟩ x hx
    rw [← hseats] at hx
    obtain ⟨e, he, rfl⟩ := List.mem_map.mp hx
    exact ⟨e, he, rfl, hpassed e he⟩
  · intro h
    have hsubset : cb.seats ps ⊆ (entries cb es).map Entry.seat := by
      intro x hx
      obtain ⟨e, he, hex, -⟩ := h x hx
      exact List.mem_map.mpr ⟨e, he, hex⟩
    -- a prefix that leaves nothing out is everything
    have hseats : (entries cb es).map Entry.seat = cb.seats ps :=
      hinward.eq_of_length_le (hnodup.length_le_of_subset hsubset)
    refine ⟨hseats, fun e he => ?_⟩
    -- the entry that let the request pass in this seat is this one, since seats differ
    obtain ⟨e', he', hseat, hpassed⟩ := h e.seat (hinward.subset (List.mem_map_of_mem he))
    rw [← hseats] at hnodup
    rwa [← List.inj_on_of_nodup_map hnodup he' he hseat]

/-! ## Cancellation on the way inwards -/

section Passages

variable {ps : List Place} {cb : Callback} {ms : List (Place × Behaviour)} {s : State}

/-- A passage leaves the request cancelled if it was or a filter cancelled it. -/
theorem advance_cancelled :
    (advance ps cb ms s).step.state.call.cancelled =
      (s.call.cancelled ||
        (entries cb (advance ps cb ms s).step.events).any fun e => e.reply.cancel) := by
  have hstep (e : Entry) :
      e.step.state.call.cancelled = (e.before.call.cancelled || e.reply.cancel) := by
    rw [Entry.call_step]
    rfl
  induction ms generalizing s with
  | nil => simp [advance]
  | cons m ms ih =>
    obtain ⟨p, b⟩ := m
    by_cases hv : (p.entry ps cb b s).verdict = .admitted
    · rw [advance_cons_of_admitted hv, Step.andThen_state, Step.andThen_events, ih, hstep,
        entries_append, List.any_append, Entry.entries_step]
      simp [Bool.or_assoc]
    · rw [advance_cons_of_not_admitted hv, hstep, Entry.entries_step]
      simp

/-- In a passage that admits the request every filter has its entry, in a state that agrees with the
first on all that calls keep. -/
theorem exists_entry_of_admitted {I : State → Prop}
    (hkeep : ∀ p b t, I t → I (Place.entry ps cb p b t).step.state) (hs : I s)
    (h : (advance ps cb ms s).verdict = .admitted) {m : Place × Behaviour} (hm : m ∈ ms) :
    ∃ t, I t ∧ m.1.entry ps cb m.2 t ∈ entries cb (advance ps cb ms s).step.events := by
  induction ms generalizing s with
  | nil => simp at hm
  | cons m' ms ih =>
    obtain ⟨p, b⟩ := m'
    by_cases hv : (p.entry ps cb b s).verdict = .admitted
    · rw [advance_cons_of_admitted hv] at h ⊢
      rw [Step.andThen_events, entries_append, Entry.entries_step]
      rcases List.mem_cons.mp hm with rfl | hm
      · exact ⟨s, hs, by simp⟩
      · obtain ⟨t, ht, hentry⟩ := ih (hkeep p b s hs) h hm
        exact ⟨t, ht, List.mem_append_right _ hentry⟩
    · rw [advance_cons_of_not_admitted hv] at h
      exact absurd h hv

end Passages

/-! ## Invocations -/

section Invocations

variable {ends : Ends} {ps : List Place} {call : Call} {s : State}

/-- The action is invoked in its own phase only. -/
theorem invocations_eq_actionEvents (es : List Event) :
    invocations es = invocations (actionEvents es) := by
  rw [invocations, invocations, actionEvents, List.filterMap_filter]
  refine congrArg (fun g => List.filterMap g es) (funext fun x => ?_)
  cases x with
  | called cb => cases cb <;> rfl
  | shortCircuited n ph => cases ph <;> rfl
  | raised ph f => cases ph <;> rfl
  | _ => rfl

theorem Entry.invocations_step {e : Entry} : ∀ x ∈ e.step.events, x.invoked? = none := by
  intro x hx
  rcases mem_step_events hx with rfl | rfl | ⟨f, rfl⟩ <;> rfl

theorem invocations_passage (cb : Callback) :
    invocations (cb.passage ps s).step.events = [] :=
  List.filterMap_eq_nil_iff.mpr (advance_forall (fun _ _ => Entry.invocations_step) s)

theorem invocations_ascend (l : Layer) (ms : List (Place × Around)) :
    invocations (l.ascend ps ms s).events = [] :=
  List.filterMap_eq_nil_iff.mpr (ascend_forall (fun _ _ => Entry.invocations_step) s)

theorem invocations_settle : invocations (Step.settle s).events = [] := by
  rcases settle_cases s with ⟨-, h⟩ | ⟨p, -, -, h⟩ <;> rw [h] <;> rfl

theorem invocations_perform :
    invocations (ends.perform s).events = if s.call.cancelled then [] else [s.call] := by
  rcases perform_cases ends s with ⟨f, hs, h⟩ | ⟨hs, f, -, h⟩ | ⟨hs, a, -, h⟩ <;>
    rw [h] <;>
    simp_all [Call.interruption?, invocations_cons, Event.invoked?]

/-- The action is invoked once every filter around it let the request pass, unless the request has
been cancelled. -/
theorem invocations_actionPhase (hs : s.canceled = false) :
    invocations (ends.actionPhase ps s).events =
      if (Callback.actionBefore.passage ps s).verdict = .admitted ∧
          (Callback.actionBefore.passage ps s).step.state.call.cancelled = false then
        [(Callback.actionBefore.passage ps s).step.state.call]
      else [] := by
  have hsurround : ends.actionPhase ps s = Layer.action.surround ps ends.perform s := rfl
  by_cases hv : (Callback.actionBefore.passage ps s).verdict = .admitted
  · rw [hsurround, surround_of_admitted (l := .action) ps hs hv]
    simp only [Step.andThen_events, invocations_append, invocations_ascend, invocations_settle,
      Layer.before, invocations_passage, invocations_perform]
    cases hc : (Callback.actionBefore.passage ps s).step.state.call.cancelled <;> simp [hv]
  · rw [hsurround, surround_of_not_admitted (l := .action) ps hs hv]
    simp only [Step.andThen_events, invocations_append, invocations_ascend, invocations_settle,
      Layer.before, invocations_passage]
    simp [hv]

theorem entries_actionBefore_run (h : CoreReached ps call (run ends ps (.initial call)).events) :
    entries .actionBefore (run ends ps (.initial call)).events =
      entries .actionBefore
        (Callback.actionBefore.passage ps (.atCore ps call)).step.events := by
  have hopen := State.atCore_open ends h
  have hperform (t : State) : entries .actionBefore (ends.perform t).events = [] :=
    entries_perform ends .actionBefore t
  obtain ⟨t, ht⟩ := entries_surround (l := .action) ps hopen.active hperform
  rw [entries_run_of_reached ends (by decide) (by decide) h, entries_core_action ends ps hopen rfl]
  exact ht.trans (by rw [entries_ascend_of_ne (by decide), List.append_nil]; rfl)

/-- The state in front of the invocation, behind the last filter called before it. -/
def State.inFront (ps : List Place) (call : Call) : State :=
  (Callback.actionBefore.passage ps (.atCore ps call)).step.state

/-- In front of the action the request is cancelled exactly if a filter cancelled it. -/
theorem cancelled_in_front (h : CoreReached ps call (run ends ps (.initial call)).events) :
    (State.inFront ps call).call.cancelled =
      Callback.inward.any fun cb =>
        (entries cb (run ends ps (.initial call)).events).any fun e => e.reply.cancel := by
  have hstart : (State.begun call).call.cancelled = false := h.1.1
  simp only [Callback.inward, List.any_cons, List.any_nil, Bool.or_false,
    entries_authorization_run ends h.1.1, entries_resourceBefore_run ends h.1,
    entries_actionBefore_run h]
  rw [State.inFront, Callback.passage, advance_cancelled, State.atCore, Callback.passage,
    advance_cancelled, State.authorized, Callback.passage, advance_cancelled, hstart,
    Bool.false_or, Bool.or_assoc]

end Invocations

/-! ## Decisions by role -/

theorem Decision.answer?_eq_none {d : Decision} : d.answer? = none ↔ d = .allow := by
  cases d <;> simp [answer?]

/-- A filter that decides by role lets a request pass only if it allows it. -/
theorem Access.decide_of_passed {a : Access} {p : Place} {ps : List Place} {s : State}
    (h : (p.entry ps .authorization a.onAuthorization s).passed = true) :
    a.decide s.call = .allow := by
  rw [← Decision.answer?_eq_none]
  cases ha : (a.decide s.call).answer? with
  | none => rfl
  | some answer =>
    simp [Entry.passed, Entry.halts, Place.entry, Access.onAuthorization, ha,
      Callback.endsWithResult] at h

/-- Authorization changes nothing about a call but that it may cancel it. -/
theorem Entry.call_step_authorization {e : Entry} (h : e.callback = .authorization) {c : Call}
    (hc : e.before.call = c ∨ e.before.call = c.cancel) :
    e.step.state.call = c ∨ e.step.state.call = c.cancel := by
  have hgrant : e.before.call.grant e.callback e.reply =
      if e.reply.cancel then e.before.call.cancel else e.before.call := by
    cases hr : e.reply.cancel <;> simp [Call.grant, Call.cancel, h, hr, Callback.changesArguments]
  rw [call_step, hgrant]
  rcases hc with hc | hc <;> rw [hc] <;> split
  · exact .inr rfl
  · exact .inl rfl
  · exact .inr rfl
  · exact .inr rfl

/-! ## The gate -/

section Gate

variable (ends : Ends) {ps : List Place} (call : Call)

/-- At every moment on the way inwards the first filters of the plan are called. -/
theorem inward_isFirst {cb : Callback} (hcb : cb ∈ Callback.inward) :
    (entries cb (run ends ps (.initial call)).events).map Entry.seat <+: cb.seats ps := by
  simp only [Callback.inward, List.mem_cons, List.not_mem_nil, or_false] at hcb
  rcases hcb with rfl | rfl | rfl
  · cases hc : call.cancelled with
    | true =>
      rw [entries_run, proceed_of_cancelled ends hc]
      exact List.nil_prefix
    | false =>
      rw [entries_authorization_run ends hc, ← Callback.map_seat_members]
      exact entries_advance_prefix
  · by_cases h : Authorized ps call (run ends ps (.initial call)).events
    · exact (resource_balanced ends ps call h).inward
    · rw [entries_run_of_not_authorized ends (by decide) h]
      exact List.nil_prefix
  · by_cases h : CoreReached ps call (run ends ps (.initial call)).events
    · exact (action_balanced ends ps call h).inward
    · rw [entries_run_of_not_reached ends (by decide) (by decide) h]
      exact List.nil_prefix

/-- A run invokes the action with the call in front of it, if it gets there. -/
theorem invocations_run_of_reached
    (h : CoreReached ps call (run ends ps (.initial call)).events) :
    invocations (run ends ps (.initial call)).events =
      if (Callback.actionBefore.passage ps (.atCore ps call)).verdict = .admitted ∧
          (State.inFront ps call).call.cancelled = false then
        [(State.inFront ps call).call]
      else [] := by
  rw [invocations_eq_actionEvents, actionEvents_run_of_reached h, ← invocations_eq_actionEvents,
    invocations_actionPhase (State.atCore_open ends h).active]
  rfl

theorem invocations_run_of_not_reached
    (h : ¬CoreReached ps call (run ends ps (.initial call)).events) :
    invocations (run ends ps (.initial call)).events = [] := by
  rw [invocations_eq_actionEvents, actionEvents_run_of_not_reached h, invocations_nil]

/-- The action is invoked exactly if every filter on the way inwards let the request pass and none
cancelled it. -/
theorem invocations_ne_nil_iff :
    invocations (run ends ps (.initial call)).events ≠ [] ↔ call.cancelled = false ∧
      (∀ cb ∈ Callback.inward, cb.Admitted ps (run ends ps (.initial call)).events) ∧
      ∀ cb ∈ Callback.inward, ∀ e ∈ entries cb (run ends ps (.initial call)).events,
        e.reply.cancel = false := by
  by_cases h : CoreReached ps call (run ends ps (.initial call)).events
  · have hadmitted : (∀ cb ∈ Callback.inward,
          cb.Admitted ps (run ends ps (.initial call)).events) ↔
        (Callback.actionBefore.passage ps (.atCore ps call)).verdict = .admitted := by
      rw [verdict_eq_admitted_iff, ← Callback.admitted_congr (entries_actionBefore_run h)]
      simp [Callback.inward, h.1.2, h.2]
    have hcancelled : (∀ cb ∈ Callback.inward,
          ∀ e ∈ entries cb (run ends ps (.initial call)).events, e.reply.cancel = false) ↔
        (State.inFront ps call).call.cancelled = false := by
      rw [cancelled_in_front h]
      simp only [List.any_eq_false, Bool.not_eq_true]
    -- what is left is the condition under which the action is invoked
    rw [invocations_run_of_reached ends call h, hadmitted, hcancelled]
    split
    · next hpass => simpa [h.1.1] using hpass
    · next hpass => simpa using fun _ hv => not_and.mp hpass hv
  · rw [invocations_run_of_not_reached ends call h]
    refine ⟨fun hne => absurd rfl hne, fun ⟨hc, hadmitted, _⟩ => absurd ?_ h⟩
    exact ⟨⟨hc, hadmitted _ (by decide)⟩, hadmitted _ (by decide)⟩

/-- A request that gets past authorization was allowed by every filter that decides by role. -/
theorem allowed_of_authorized (h : Authorized ps call (run ends ps (.initial call)).events)
    {p : Place} (hp : p ∈ ps) {a : Access}
    (ha : p.filter.authorization = some a.onAuthorization) :
    ∃ e ∈ entries .authorization (run ends ps (.initial call)).events, e.seat = p.seat ∧
      (e.before.call = call ∨ e.before.call = call.cancel) ∧ a.decide e.before.call = .allow := by
  have hmem : (p, a.onAuthorization) ∈ Callback.authorization.members ps :=
    Callback.mem_members.mpr ⟨hp, ha⟩
  obtain ⟨hc, hv⟩ := (authorized_run_iff ends).mp h
  obtain ⟨t, ht, hentry⟩ := exists_entry_of_admitted
    (I := fun s => s.call = call ∨ s.call = call.cancel)
    (fun _ _ _ ht => Entry.call_step_authorization rfl ht) (.inl rfl) hv hmem
  rw [← Callback.passage, ← entries_authorization_run ends hc] at hentry
  exact ⟨_, hentry, rfl, ht, Access.decide_of_passed (h.2.2 _ hentry)⟩

/-- A run of the filters of a plan invokes the action at most once. It does exactly if the request
was not cancelled at the start, every filter with the capability was called at each moment on the
way inwards and let the request pass, and none of them cancelled it. If a filter that decides by
role was not asked or did not allow the request, the action is not invoked, and no filter is called
at any other moment than authorization. -/
theorem run_gates_invocation (ends : Ends) {ps : List Place} (call : Call) {plan : Plan}
    {resolver : Resolver} {made : Call}
    (hplan : (plan.instantiate resolver made).outcome = .ok ps) :
    let es := (run ends ps (.initial call)).events
    (invocations es).length ≤ 1 ∧
      (invocations es ≠ [] ↔ call.cancelled = false ∧
        (∀ cb ∈ Callback.inward, ∀ p ∈ ps, p.filter.capabilities.contains cb.capability = true →
          ∃ e ∈ entries cb es, e.seat = p.seat ∧ e.passed = true) ∧
        ∀ cb ∈ Callback.inward, ∀ e ∈ entries cb es, e.reply.cancel = false) ∧
      ∀ p ∈ ps, ∀ a : Access, p.filter.authorization = some a.onAuthorization →
        (¬∃ e ∈ entries .authorization es, e.seat = p.seat ∧
          (e.before.call = call ∨ e.before.call = call.cancel) ∧
            a.decide e.before.call = .allow) →
        invocations es = [] ∧ ∀ cb, cb ≠ .authorization → entries cb es = [] := by
  intro es
  refine ⟨?_, ?_, ?_⟩
  · by_cases h : CoreReached ps call es
    · rw [invocations_run_of_reached ends call h]
      split <;> simp
    · rw [invocations_run_of_not_reached ends call h]
      exact Nat.zero_le 1
  · rw [invocations_ne_nil_iff]
    refine and_congr_right fun _ => and_congr_left fun _ => ?_
    refine forall_congr' fun cb => forall_congr' fun hcb => ?_
    rw [Callback.admitted_iff_forall (cb.nodup_seats (Plan.nodup_index hplan))
      (inward_isFirst ends call hcb)]
    simp only [Callback.seats, List.forall_mem_map, List.mem_filter, and_imp]
    rfl
  · intro p hp a ha hdenied
    have h : ¬Authorized ps call es := fun h =>
      hdenied (allowed_of_authorized ends call h hp ha)
    refine ⟨invocations_run_of_not_reached ends call fun hr => h hr.1, fun cb hcb => ?_⟩
    refine entries_run_of_not_authorized ends ?_ h
    cases cb <;> simp_all [Callback.capability]

/-- A filter that denies everything keeps the action from being invoked. -/
theorem run_denies_invocation :
    let f := Access.denyAll.toFilter
    let call : Call := .ofAction ⟨"jobs", "run", .unit⟩
    let plan : Plan := ⟨[.shared .global f]⟩
    let ps : List Place := [⟨0, .shared .global f, f, rfl⟩]
    let ends : Ends := ⟨fun _ => { outcome := .ok .unit }, fun _ _ => {}⟩
    (plan.instantiate .standard call).outcome = .ok ps ∧
      invocations (run ends ps (.initial call)).events = [] := by
  intro f call plan ps ends
  have hplan : (plan.instantiate .standard call).outcome = .ok ps := rfl
  have hgate := run_gates_invocation ends call hplan
  refine ⟨hplan, (hgate.2.2 ⟨0, .shared .global f, f, rfl⟩ ?_ .denyAll rfl ?_).1⟩
  · exact List.mem_singleton.mpr rfl
  · rintro ⟨e, -, -, -, hallow⟩
    exact absurd hallow (by simp [Access.decide])

end Gate

end RequestPipeline
