import RequestPipeline.Proofs.Filter.Authority
import RequestPipeline.Proofs.Policy.Frame
import RequestPipeline.Proofs.Run.ShortCircuit
import RequestPipeline.Proofs.Run.Ticks

/-!
# Results for pages of other origins

Filters that carry out policies for other origins decorate the result in front of rendering. If they
are the only filters there, the one in charge decorates the result that comes from the action, and
the others leave it as it is (`result_passage`); what is rendered is then readable for a page of the
origin, if that is allowed (`run_decorates`).

A result that is not there cannot be decorated. This is so where a fault of the action was handled
and nobody set a result in its place (`settled_of_no_result`): the empty answer is rendered then,
and the page cannot read it (`run_renders_undecorated`).
-/

set_option autoImplicit false

namespace RequestPipeline

open Http

/-! ## What is rendered -/

section Rendered

variable {ends : Ends} {ps : List Place} {call : Call} {s : State}

/-- A result is rendered where every filter in front of it let the request pass, and is the one that
the last of them left. -/
theorem rendered_resultPhase_eq {a : Answer} (hs : s.suppressed = false)
    (h : .rendered a ∈ (ends.resultPhase ps s).events) :
    s.pending = none ∧ (Callback.resultBefore.passage ps s).verdict = .admitted ∧
      a = (Callback.resultBefore.passage ps s).step.state.result.getD .empty := by
  -- neither calls of filters nor settling renders anything
  have hpassage : Event.rendered a ∉ (Callback.resultBefore.passage ps s).step.events :=
    fun ha => absurd (phase_advance s _ ha) (by simp [Event.phase?, Callback.phase])
  have hascend (ms : List (Place × Around)) (t : State) :
      Event.rendered a ∉ (Layer.result.ascend ps ms t).events :=
    fun ha => absurd (ascend_forall (fun e he => he ▸ e.phase_step) t _ ha)
      (by simp [Event.phase?, Callback.phase, Layer.after])
  have hsettle (t : State) : Event.rendered a ∉ (Step.settle t).events :=
    fun ha => absurd (silent_settle t _ ha).1 (by simp [Event.phase?])
  by_cases hfree : s.pending = none
  · rw [resultPhase_of_free ends ps hfree] at h
    by_cases hv : (Callback.resultBefore.passage ps s).verdict = .admitted
    · rw [surround_of_admitted (l := .result) ps hs hv] at h
      simp only [Step.andThen_events, List.mem_append, Layer.before, hpassage, hascend, hsettle,
        false_or, or_false] at h
      refine ⟨hfree, hv, ?_⟩
      rcases write_cases ends (Callback.resultBefore.passage ps s).step.state with
        ⟨f, -, hw⟩ | ⟨-, hw⟩ <;> simpa [hw] using h
    · rw [surround_of_not_admitted (l := .result) ps hs hv] at h
      simp [Layer.before, hpassage, hascend, hsettle] at h
  · simp [resultPhase_of_fault ends ps hfree] at h

/-- A result that is not rendered directly is rendered behind the action. -/
theorem rendered_run {a : Answer}
    (h : .rendered a ∈ (run ends ps (.initial call)).events)
    (hdirect : .renderingDirectly ∉ (run ends ps (.initial call)).events) :
    CoreReached ps call (run ends ps (.initial call)).events ∧
      .rendered a ∈ (ends.resultPhase ps (ends.throughAction ps call).state).events := by
  have hany : (run ends ps (.initial call)).events.any Event.isDirect = false := by
    rwa [← Bool.not_eq_true, any_isDirect]
  have hreached : CoreReached ps call (run ends ps (.initial call)).events := by
    refine Classical.byContradiction fun hne => ?_
    have hcore := (outside_run hne _ h).1
    rw [hany, Event.inCore_of_phase (.inr (.inr ⟨rfl, rfl⟩))] at hcore
    cases hcore
  refine ⟨hreached, ?_⟩
  obtain ⟨tail, hrun, hclosing⟩ := events_run_behindAction hreached
  -- a result that is rendered belongs to rendering, and what is rendered elsewhere is direct
  have hstage : (Event.rendered a).stage? false = some 2 := rfl
  have hopen := State.atCore_open ends hreached
  rw [hrun] at h hdirect
  simp only [Ends.behindAction, Ends.throughAction, Step.toCore, Step.andThen_events,
    Step.andThen_state, List.mem_cons, List.mem_append, not_or] at h hdirect
  obtain ⟨-, -, ⟨⟨⟨-, hexception⟩, houtward⟩, -⟩⟩ := hdirect
  rcases h with h | ((h | h) | h) | ((h | h) | h) | h
  · cases h
  · exact absurd (phase_advance _ _ h) (by simp [Event.phase?, Callback.phase])
  · exact absurd (phase_advance _ _ h) (by simp [Event.phase?, Callback.phase])
  · exact absurd (phase_actionPhase hopen.active _ h) (by simp [Event.phase?])
  · exact h
  · have hnone := stage_exceptionPhase (d := false) (fun hd => absurd hd hexception) _ h
    simp [hstage] at hnone
  · have hnone := stage_outward (d := false) (fun hd => absurd hd houtward) _ h
    simp [hstage] at hnone
  · cases hclosing _ h

end Rendered

/-! ## Results of the action -/

/-- A result is there, or a fault of the action is in flight. -/
def State.Acted (s : State) : Prop :=
  s.result.isSome = true ∨ ∃ p, s.pending = some p ∧ p.phase = .action

section Acted

variable {ends : Ends} {ps : List Place} {s : State}

/-- A call around the action takes neither the result away nor the fault. -/
theorem State.Acted.step {e : Entry} (hcb : e.callback.phase = .action) (h : e.before.Acted) :
    e.step.state.Acted := by
  refine Entry.step_keeps (I := State.Acted) ?_ fun f => .inr ⟨_, rfl, hcb⟩
  rcases h with h | ⟨p, hp, hphase⟩
  · left
    rw [Entry.granted_result]
    cases e.reply.result <;> simp [h]
  · right
    exact ⟨p.grant e.callback e.reply, by simp [hp], hphase⟩

theorem acted_perform (s : State) : (ends.perform s).state.Acted := by
  rcases perform_cases ends s with ⟨f, -, h⟩ | ⟨-, f, -, h⟩ | ⟨-, a, -, h⟩ <;> rw [h]
  · exact .inr ⟨_, rfl, rfl⟩
  · exact .inr ⟨_, rfl, rfl⟩
  · exact .inl rfl

/-- A filter in front of the action stops the request by an answer or by a fault. -/
theorem acted_passage (h : (Callback.actionBefore.passage ps s).verdict ≠ .admitted) :
    (Callback.actionBefore.passage ps s).step.state.Acted := by
  obtain ⟨front, last, hstep, hcb, -, hlast⟩ := advance_stops h
  rw [Callback.passage, hstep]
  cases hv : last.verdict with
  | admitted => exact absurd (hlast.symm.trans hv) h
  | refused =>
    left
    have hhalts := (Entry.verdict_eq_refused.mp hv).2
    have hresult : last.reply.result.isSome = true := by
      simpa [Entry.halts, hcb, Callback.endsWithResult, Callback.changesResult] using hhalts
    obtain ⟨a, ha⟩ := Option.isSome_iff_exists.mp hresult
    simp [ha]
  | faulted =>
    right
    have hreturned := Entry.verdict_eq_faulted.mp hv
    obtain ⟨f, hf⟩ : ∃ f, last.reply.fault = some f := by
      simpa [Entry.returned, Option.isSome_iff_exists] using hreturned
    rw [Entry.step_of_fault hf]
    exact ⟨_, rfl, by rw [hcb]; rfl⟩

variable (ends ps) in
/-- Behind the action and the filters around it, before settling. -/
theorem exists_acted (hs : s.canceled = false) :
    ∃ t : Step, t.state.Acted ∧ ends.actionPhase ps s = t.andThen .settle := by
  have hascend (ms : List (Place × Around)) {u : State} (hu : u.Acted) :
      (Layer.action.ascend ps ms u).state.Acted :=
    ascend_keeps (fun p b t ht => State.Acted.step (e := p.entry ps .actionAfter b t) rfl ht) hu
  by_cases hv : (Callback.actionBefore.passage ps s).verdict = .admitted
  · refine ⟨_, ?_, surround_of_admitted (l := .action) ps hs hv⟩
    exact hascend _ (acted_perform _)
  · refine ⟨_, ?_, surround_of_not_admitted (l := .action) ps hs hv⟩
    exact hascend _ (acted_passage hv)

/-- Where the action leaves neither a result nor a fault, a fault of the action was handled. -/
theorem settled_of_no_result (hs : s.canceled = false)
    (hfree : (ends.actionPhase ps s).state.pending = none)
    (hnone : (ends.actionPhase ps s).state.result = none) :
    ∃ f, .settled .action f ∈ (ends.actionPhase ps s).events := by
  obtain ⟨t, hacted, hphase⟩ := exists_acted ends ps hs
  rw [hphase, Step.andThen_state] at hfree hnone
  rw [hphase, Step.andThen_events]
  rcases settle_cases t.state with ⟨-, hsettle⟩ | ⟨p, hp, -, hsettle⟩
  · -- nothing is settled, so the result would be missing without a fault
    rw [hsettle] at hfree hnone
    rcases hacted with h | ⟨p, hp, -⟩
    · simp [show t.state.result = none from hnone] at h
    · simp [show t.state.pending = none from hfree] at hp
  · rw [hsettle] at hnone ⊢
    rcases hacted with h | ⟨p', hp', hphase'⟩
    · simp [show t.state.result = none from hnone] at h
    · obtain rfl : p = p' := Option.some.inj (hp.symm.trans hp')
      exact ⟨p.fault, List.mem_append_right _ (by simp [hphase'])⟩

end Acted

/-! ## Filters for other origins -/

namespace CrossOrigin

/-- What the filter of a policy does around rendering. -/
def around (p : CrossOrigin) : Around := ⟨p.beforeResult, .idle⟩

theorem result_toFilter (p : CrossOrigin) : p.toFilter.result = some p.around := rfl

/-- A request comes from a page of an origin and is no preflight. -/
structure From (origin : String) (c : Call) : Prop where
  ordinary : isPreflight c = false
  origin : c.headers.readable? originName = some origin

section Decorating

variable {p : CrossOrigin} {origin : String}

/-- An origin that a request names is granted something if it is allowed. -/
theorem exists_grant {c : Call} (hc : From origin c) (h : p.origins.allows origin = true) :
    ∃ v, p.origins.grant? origin = some v := by
  cases ho : p.origins with
  | any => exact ⟨_, rfl⟩
  | listed origins =>
    rw [ho, Origins.allows] at h
    obtain ⟨v, -, hv⟩ := Option.bind_eq_some_iff.mp hc.origin
    exact ⟨v, by rw [Origins.grant?, if_pos h, HeaderValue.ofText?_of_readable? hv]⟩

end Decorating

/-! ## The passage in front of rendering -/

section Passage

variable {ps : List Place} {origin : String} {s : State}

/-- The filter of a policy, called for a request from a page, lets it pass. It decorates the result
if it is in charge, and leaves it as it is otherwise. -/
theorem reply_beforeResult (hs : From origin s.call) (q : Place) (p : CrossOrigin) :
    (q.entry ps .resultBefore p.beforeResult s).reply =
      if q.isEffective ps .crossOrigin then { result := s.result.map (p.decorate origin) }
      else {} := by
  show p.beforeResult (View.mk (Place.listings ps)
    (q.entry ps .resultBefore p.beforeResult s).before) = _
  rw [beforeResult, View.isEffective_entry, Place.entry_before]
  cases q.isEffective ps .crossOrigin <;> simp [hs.ordinary, hs.origin]

/-- Calls around rendering leave the request as it is. -/
theorem From.step {e : Entry} (h : From origin e.before.call) : From origin e.step.state.call := by
  rw [Entry.call_step]
  exact ⟨h.ordinary, h.origin⟩

theorem passed_beforeResult (hs : From origin s.call) (q : Place) (p : CrossOrigin) :
    (q.entry ps .resultBefore p.beforeResult s).verdict = .admitted := by
  rw [Entry.verdict_eq_admitted, Entry.passed, Entry.returned, Entry.halts,
    reply_beforeResult hs]
  cases q.isEffective ps .crossOrigin <;> simp [Callback.endsWithResult]

variable (ps) in
theorem result_beforeResult (hs : From origin s.call) (q : Place) (p : CrossOrigin) :
    (q.entry ps .resultBefore p.beforeResult s).step.state.result =
      if q.isEffective ps .crossOrigin then s.result.map (p.decorate origin) else s.result := by
  rw [Entry.step_result, reply_beforeResult hs, Place.entry_before]
  cases q.isEffective ps .crossOrigin <;> cases s.result <;> simp

/-- The filters called are those of policies for other origins. -/
def Only (ms : List (Place × Behaviour)) : Prop :=
  ∀ m ∈ ms, ∃ p : CrossOrigin, m.2 = p.beforeResult

variable {ms : List (Place × Behaviour)}

/-- If no filter that is in charge changes a result, all of them see the one that came in. -/
theorem result_advance_of_unchanged (hs : From origin s.call) (hms : Only ms)
    (h : ∀ m ∈ ms, m.1.isEffective ps .crossOrigin = true →
      ∃ p : CrossOrigin, m.2 = p.beforeResult ∧ ∀ a, p.decorate origin a = a) :
    (advance ps .resultBefore ms s).step.state.result = s.result ∧
      ∀ e ∈ entries .resultBefore (advance ps .resultBefore ms s).step.events,
        e.before.result = s.result := by
  induction ms generalizing s with
  | nil => exact ⟨rfl, by simp [advance]⟩
  | cons m ms ih =>
    obtain ⟨q, b⟩ := m
    rw [Only, List.forall_mem_cons] at hms
    rw [List.forall_mem_cons] at h
    -- whether the filter is in charge or not, the result behind it is that in front
    obtain ⟨p, rfl, hresult⟩ : ∃ p : CrossOrigin, b = p.beforeResult ∧
        (q.entry ps .resultBefore p.beforeResult s).step.state.result = s.result := by
      by_cases heffective : q.isEffective ps .crossOrigin = true
      · obtain ⟨p, hb, hsame⟩ := h.1 heffective
        refine ⟨p, hb, ?_⟩
        rw [result_beforeResult ps hs, if_pos heffective, funext hsame, Option.map_id']
      · obtain ⟨p, hb⟩ := hms.1
        exact ⟨p, hb, by rw [result_beforeResult ps hs, if_neg heffective]⟩
    have hstep := From.step (e := q.entry ps .resultBefore p.beforeResult s) hs
    obtain ⟨hrest, hentries⟩ := ih hstep hms.2 h.2
    rw [advance_cons_of_admitted (passed_beforeResult hs q p)]
    refine ⟨hrest.trans hresult, ?_⟩
    rw [Step.andThen_events, entries_append, Entry.entries_step]
    intro e he
    rcases List.mem_append.mp he with he | he
    · obtain rfl : e = q.entry ps .resultBefore p.beforeResult s := by simpa using he
      rfl
    · exact (hentries e he).trans hresult

/-- The filter in charge decorates the result that came in, and no other filter changes it. -/
theorem result_advance {p : CrossOrigin} {q : Place} (hs : From origin s.call) (hms : Only ms)
    (hnodup : ms.Nodup) (hmem : (q, p.beforeResult) ∈ ms)
    (heffective : q.isEffective ps .crossOrigin = true)
    (hone : ∀ m ∈ ms, m.1.isEffective ps .crossOrigin = true → m = (q, p.beforeResult)) :
    (advance ps .resultBefore ms s).step.state.result = s.result.map (p.decorate origin) ∧
      ∃ e ∈ entries .resultBefore (advance ps .resultBefore ms s).step.events,
        e.seat = q.seat ∧ e.before.result = s.result := by
  induction ms generalizing s with
  | nil => simp at hmem
  | cons m ms ih =>
    obtain ⟨q', b⟩ := m
    obtain ⟨p', hb⟩ := hms (q', b) (List.mem_cons_self ..)
    obtain rfl : b = p'.beforeResult := hb
    have hrest : Only ms := fun m hm => hms m (List.mem_cons_of_mem _ hm)
    have hstep := From.step (e := q'.entry ps .resultBefore p'.beforeResult s) hs
    rw [advance_cons_of_admitted (passed_beforeResult hs q' p')]
    simp only [Step.andThen_state, Step.andThen_events, entries_append, Entry.entries_step]
    by_cases hq : (q', p'.beforeResult) = (q, p.beforeResult)
    · -- behind the filter in charge nobody else is
      obtain ⟨rfl, hb⟩ := Prod.mk.inj hq
      have hdecorated := result_beforeResult ps hs q' p
      rw [if_pos heffective] at hdecorated
      rw [hb] at hstep hnodup ⊢
      obtain ⟨hbehind, -⟩ := result_advance_of_unchanged hstep hrest fun m hm h => by
        obtain rfl := hone m (List.mem_cons_of_mem _ hm) h
        exact absurd hm (List.nodup_cons.mp hnodup).1
      exact ⟨hbehind.trans hdecorated, _,
        List.mem_append_left _ (List.mem_singleton_self _), rfl, rfl⟩
    · have hother : q'.isEffective ps .crossOrigin ≠ true := fun h =>
        hq (hone _ (List.mem_cons_self ..) h)
      have hresult := result_beforeResult ps hs q' p'
      rw [if_neg hother] at hresult
      have hmem' : (q, p.beforeResult) ∈ ms :=
        (List.mem_cons.mp hmem).resolve_left fun h => hq h.symm
      obtain ⟨hbehind, e, he, hseat, hbefore⟩ := ih hstep hrest (List.nodup_cons.mp hnodup).2 hmem'
        fun m hm => hone m (List.mem_cons_of_mem _ hm)
      rw [hresult] at hbehind hbefore
      exact ⟨hbehind, e, List.mem_append_right _ he, hseat, hbefore⟩

end Passage

/-! ## Runs -/

section Runs

variable {ends : Ends} {ps : List Place} {origin : String} {s t : State} {call : Call}

/-- In a run the method and the header fields of a request stay as they are. -/
theorem From.tick {e : Event} (hs : From origin s.call) (h : Tick ends ps s e t) :
    From origin t.call := by
  obtain ⟨ordinary, origin⟩ := hs
  cases h with
  | invoked =>
    dsimp only [Ends.invoked, Ends.callBehind]
    split
    · exact ⟨ordinary, origin⟩
    · exact ⟨ordinary, origin⟩
  | write =>
    dsimp only [Ends.written]
    split
    · exact ⟨ordinary, origin⟩
    · exact ⟨ordinary, origin⟩
  | _ => exact ⟨ordinary, origin⟩

theorem From.throughAction (hcall : From origin call)
    (h : CoreReached ps call (run ends ps (.initial call)).events) :
    From origin (ends.throughAction ps call).state.call :=
  (course_throughAction h).ticks.keeps (I := fun s => From origin s.call)
    (fun htick hs => hs.tick htick) hcall

/-- The filters around rendering are those of policies for other origins. -/
def AroundRendering (ps : List Place) : Prop :=
  ∀ q ∈ ps, ∀ a, q.filter.result = some a → ∃ p : CrossOrigin, a = p.around

theorem AroundRendering.only (h : AroundRendering ps) :
    Only (Callback.resultBefore.members ps) := by
  intro m hm
  obtain ⟨hq, hb⟩ := Callback.mem_members.mp hm
  obtain ⟨a, ha, hab⟩ := Option.map_eq_some_iff.mp hb
  obtain ⟨p, rfl⟩ := h _ hq a ha
  exact ⟨p, hab.symm⟩

variable {plan : Plan} {resolver : Resolver} {made : Call}

/-- One filter is in charge of the policy for other origins. -/
theorem eq_of_isEffective (hplan : (plan.instantiate resolver made).outcome = .ok ps)
    {q q' : Place} {m : Marker} (hq : q ∈ ps) (hq' : q' ∈ ps)
    (h : q.isEffective ps m = true) (h' : q'.isEffective ps m = true) : q = q' := by
  have hgoverns := Plan.governs_instantiate hplan m
  obtain ⟨l, hl⟩ := List.mem_iff_getElem?.mp hq
  obtain ⟨l', hl'⟩ := List.mem_iff_getElem?.mp hq'
  have hsame := ((hgoverns.items l q hl).mp h).symm.trans ((hgoverns.items l' q' hl').mp h')
  obtain rfl : l = l' := Option.some.inj hsame
  exact Option.some.inj (hl.symm.trans hl')

/-- What the filters in front of rendering make of the result that comes from the action. -/
theorem result_passage (hplan : (plan.instantiate resolver made).outcome = .ok ps)
    (haround : AroundRendering ps) {q : Place} (hq : q ∈ ps) {p : CrossOrigin}
    (hp : q.filter.result = some p.around) (heffective : q.isEffective ps .crossOrigin = true)
    (hs : From origin s.call) :
    let passage := Callback.resultBefore.passage ps s
    (passage.step.state.result = s.result.map (p.decorate origin) ∧
      ∃ e ∈ entries .resultBefore passage.step.events,
        e.seat = q.seat ∧ e.before.result = s.result) ∧
      (p.origins.allows origin = false →
        ∀ e ∈ entries .resultBefore passage.step.events, e.before.result = s.result) := by
  intro passage
  have hmem : (q, p.beforeResult) ∈ Callback.resultBefore.members ps :=
    Callback.mem_members.mpr ⟨hq, by simp [Callback.behaviour?, hp, around]⟩
  have hone : ∀ m ∈ Callback.resultBefore.members ps, m.1.isEffective ps .crossOrigin = true →
      m = (q, p.beforeResult) := by
    rintro ⟨q', b⟩ hm h
    obtain ⟨hq', hb⟩ := Callback.mem_members.mp hm
    obtain rfl : q' = q := eq_of_isEffective hplan hq' hq h heffective
    have hsame : some b = some p.beforeResult := hb.symm.trans (Callback.mem_members.mp hmem).2
    rw [Option.some.inj hsame]
  have hnodup : (Callback.resultBefore.members ps).Nodup := by
    refine List.Nodup.of_map (fun m => m.1.seat) ?_
    rw [Callback.map_seat_members]
    exact Callback.resultBefore.nodup_seats (Plan.nodup_index hplan)
  refine ⟨result_advance hs haround.only hnodup hmem heffective hone, fun hallows => ?_⟩
  refine (result_advance_of_unchanged hs haround.only fun m hm h => ?_).2
  exact ⟨p, congrArg Prod.snd (hone m hm h), decorate_of_not_allowed hallows⟩

end Runs

end CrossOrigin

open CrossOrigin in
/-- Where the filters around rendering are those of policies for other origins, the one in charge
decides what a page of an origin gets of a result that is rendered between them. If its policy
allows the origin, a result that came from the action is decorated and tells the page what its
origin is granted; only where a fault of the action was handled without a result, the empty answer
is rendered as it is. If its policy does not allow the origin, the result is rendered as every
filter in front of rendering saw it. -/
theorem run_decorates (ends : Ends) {plan : Plan} {resolver : Resolver} {made : Call}
    {ps : List Place} (hplan : (plan.instantiate resolver made).outcome = .ok ps)
    (haround : AroundRendering ps) {q : Place} (hq : q ∈ ps) {p : CrossOrigin}
    (hp : q.filter.result = some p.around) (heffective : q.isEffective ps .crossOrigin = true)
    {call : Call} {origin : String} (hcall : From origin call) :
    let es := (run ends ps (.initial call)).events
    ∀ answer : Answer, .rendered answer ∈ es → .renderingDirectly ∉ es →
      (∃ e ∈ entries .resultBefore es, e.seat = q.seat ∧
        (p.origins.allows origin = true →
          (∀ a, e.before.result = some a → answer = p.decorate origin a ∧
            ∃ v, p.origins.grant? origin = some v ∧
              answer.headers.values allowOriginName = [v]) ∧
          (e.before.result = none → answer = .empty ∧ ∃ f, .settled .action f ∈ es))) ∧
      (p.origins.allows origin = false →
        ∀ e ∈ entries .resultBefore es, answer = e.before.result.getD .empty) := by
  intro es answer hrendered hdirect
  obtain ⟨hreached, hresult⟩ := rendered_run hrendered hdirect
  have hopen := State.atCore_open ends hreached
  have hsuppressed : (ends.throughAction ps call).state.suppressed = false :=
    suppressed_actionPhase ends ps hopen
  obtain ⟨hfree, -, hanswer⟩ := rendered_resultPhase_eq hsuppressed hresult
  obtain ⟨⟨hdecorated, e, he, hseat, hbefore⟩, hunchanged⟩ :=
    result_passage hplan haround hq hp heffective (hcall.throughAction hreached)
  have hentries := entries_resultBefore_run hreached hfree
  rw [hdecorated] at hanswer
  refine ⟨⟨e, hentries ▸ he, hseat, fun hallows => ⟨fun a ha => ?_, fun hnone => ?_⟩⟩, ?_⟩
  · obtain ⟨v, hv⟩ := exists_grant hcall hallows
    rw [← hbefore, ha] at hanswer
    obtain rfl : answer = p.decorate origin a := hanswer
    exact ⟨rfl, v, hv, values_decorate hv a⟩
  · rw [← hbefore, hnone] at hanswer
    refine ⟨hanswer, ?_⟩
    obtain ⟨f, hf⟩ := settled_of_no_result hopen.active hfree (hbefore.symm.trans hnone)
    obtain ⟨tail, hrun, -⟩ := events_run_behindAction hreached
    refine ⟨f, ?_⟩
    show _ ∈ (run ends ps (.initial call)).events
    rw [hrun]
    simp only [Ends.throughAction, Step.andThen_events, List.mem_cons, List.mem_append]
    exact .inr (.inl (.inr hf))
  · intro hallows e he
    have hsame := hunchanged hallows e (hentries ▸ he)
    rw [hsame, hanswer, funext (decorate_of_not_allowed hallows), Option.map_id']

/-- A page of the origin that the closer of two policies allows can read the result. -/
theorem run_decorates_allowed :
    let origin := "https://app.example.com"
    let p := CrossOrigin.allowOrigin {} origin
    let call : Call :=
      { Call.ofAction ⟨"jobs", "run", .unit⟩ with
        headers := ⟨[⟨CrossOrigin.originName, .ofAscii "https://app.example.com"⟩]⟩ }
    let far : Place := ⟨0, .shared .global CrossOrigin.permissive.toFilter, _, rfl⟩
    let near : Place := ⟨1, .shared .action p.toFilter, p.toFilter, rfl⟩
    let ends : Ends := ⟨fun _ => { outcome := .ok .unit }, fun _ _ => {}⟩
    let es := (run ends [far, near] (.initial call)).events
    CrossOrigin.From origin call ∧ p.origins.allows origin = true ∧
      ∃ answer v, .rendered answer ∈ es ∧ p.origins.grant? origin = some v ∧
        answer.headers.values CrossOrigin.allowOriginName = [v] := by
  intro origin p call far near ends es
  have hplan : ((Plan.mk [far.registration, near.registration]).instantiate .standard
      call).outcome = .ok [far, near] := rfl
  have haround : CrossOrigin.AroundRendering [far, near] := by
    intro q hq a ha
    simp only [List.mem_cons, List.not_mem_nil, or_false] at hq
    rcases hq with rfl | rfl
    · exact ⟨.permissive, (Option.some.inj ha).symm⟩
    · exact ⟨p, (Option.some.inj ha).symm⟩
  have hcall : CrossOrigin.From origin call := ⟨by decide +kernel, by decide +kernel⟩
  have hallows : p.origins.allows origin = true := by decide +kernel
  have hdirect : .renderingDirectly ∉ es := by
    rw [← any_isDirect]
    decide +kernel +zetaReduce
  have hpresent : (entries .resultBefore es).all (fun e => e.before.result.isSome) = true := by
    decide +kernel +zetaReduce
  have hone : (renderings es).length = 1 := by decide +kernel +zetaReduce
  obtain ⟨answer, hanswer⟩ := List.length_eq_one_iff.mp hone
  have hrendered : .rendered answer ∈ es := mem_renderings.mp (by simp [hanswer])
  obtain ⟨⟨e, he, -, hallowed⟩, -⟩ := run_decorates ends hplan haround (q := near) (p := p)
    (by simp) (CrossOrigin.result_toFilter p) (by decide +kernel) hcall answer hrendered hdirect
  obtain ⟨a, ha⟩ := Option.isSome_iff_exists.mp (List.all_eq_true.mp hpresent e he)
  obtain ⟨-, v, hv, hvalues⟩ := (hallowed hallows).1 a ha
  exact ⟨hcall, hallows, answer, v, hrendered, hv, hvalues⟩

/-- A page of an origin that is allowed cannot read the empty answer that is rendered where a fault
of the action was handled without a result. -/
theorem run_renders_undecorated :
    let origin := "https://app.example.com"
    let p := CrossOrigin.allowOrigin {} origin
    let call : Call :=
      { Call.ofAction ⟨"jobs", "run", .unit⟩ with
        headers := ⟨[⟨CrossOrigin.originName, .ofAscii "https://app.example.com"⟩]⟩ }
    let net : Filter := { name := "net", action := some ⟨.idle, fun _ => { handled := true }⟩ }
    let ps : List Place :=
      [⟨0, .shared .global p.toFilter, p.toFilter, rfl⟩, ⟨1, .shared .global net, net, rfl⟩]
    let ends : Ends := ⟨fun _ => { outcome := .error (.plain "out of order") }, fun _ _ => {}⟩
    let es := (run ends ps (.initial call)).events
    CrossOrigin.From origin call ∧ p.origins.allows origin = true ∧
      ps.any (fun q => q.filter.name == "cors" && q.isEffective ps .crossOrigin) = true ∧
      .renderingDirectly ∉ es ∧
      ∃ answer : Answer, .rendered answer ∈ es ∧
        answer.headers.values CrossOrigin.allowOriginName = [] := by
  intro origin p call net ps ends es
  have hdirect : .renderingDirectly ∉ es := by
    rw [← any_isDirect]
    decide +kernel +zetaReduce
  have hbare : (renderings es).map (fun a => a.headers.values CrossOrigin.allowOriginName) =
      [[]] := by decide +kernel +zetaReduce
  obtain ⟨answer, hanswer, hvalues⟩ := List.mem_map.mp (hbare ▸ List.mem_singleton_self [])
  exact ⟨⟨by decide +kernel, by decide +kernel⟩, by decide +kernel, by decide +kernel, hdirect,
    answer, mem_renderings.mp hanswer, hvalues⟩

end RequestPipeline
