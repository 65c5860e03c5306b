import RequestPipeline.Proofs.Request.Response
import RequestPipeline.Proofs.Run.KeptPlans
import RequestPipeline.Proofs.Run.Preparation
import RequestPipeline.Proofs.Run.Rendering

/-!
# Responses of a dispatcher

A dispatcher runs the plan of an action and takes the response that was rendered. A request comes to
the failure of its run, even behind a rendering, to no response where a filter kept the result from
being rendered, or to the response of the one result that was rendered (`invoke_responds`).
-/

set_option autoImplicit false

namespace RequestPipeline

open Http

/-! ## Writing answers out -/

namespace Response

/-- What rendering comes to if it writes answers out. -/
def renderer (c : Call) (a : Answer) : Rendering :=
  match attempt c a with
  | .ok _ => {}
  | .error fault => { fault := some fault }

theorem renderer_eq : renderer = fun _ _ => {} := by
  funext c a
  rw [renderer, attempt_eq]

end Response

/-! ## Taking the response -/

/-- The last response is that of the answer that was rendered last. -/
theorem lastResponse_eq (id : RequestId) (es : List Event) :
    lastResponse id es = (renderings es).getLast?.map (.render id) := by
  induction es with
  | nil => rfl
  | cons e es ih =>
    unfold lastResponse
    rw [ih, renderings_cons]
    cases hlast : (renderings es).getLast? with
    | some a => simp [List.getLast?_append, hlast]
    | none =>
      rw [List.getLast?_eq_none_iff.mp hlast, List.append_nil]
      cases e <;> rfl

namespace Dispatcher

section Respond

variable {call : Call} {es : List Event} {ended : Except Failure Outcome}

/-- A request fails as its run does, and only then. -/
theorem respond_eq_pipeline_iff {failure : Failure} :
    respond call es ended = .error (.pipeline failure) ↔ ended = .error failure := by
  cases ended with
  | error e => simp [respond]
  | ok o => cases h : lastResponse call.id es <;> simp [respond, h]

theorem respond_eq_notRendered_iff {name : String} :
    respond call es ended = .error (.notRendered name) ↔
      name = call.action.displayName ∧ (∃ o, ended = .ok o) ∧ renderings es = [] := by
  cases ended with
  | error e => simp [respond]
  | ok o =>
    cases h : (renderings es).getLast? with
    | none => simp [respond, lastResponse_eq, List.getLast?_eq_none_iff.mp h, eq_comm]
    | some a =>
      have hne : renderings es ≠ [] := fun hnone => by simp [hnone] at h
      simp [respond, lastResponse_eq, h, hne]

theorem respond_eq_ok_iff {response : Response} :
    respond call es ended = .ok response ↔
      (∃ o, ended = .ok o) ∧
        ∃ a, (renderings es).getLast? = some a ∧ .render call.id a = response := by
  cases ended with
  | error e => simp [respond]
  | ok o => cases h : (renderings es).getLast? <;> simp [respond, lastResponse_eq, h]

end Respond

end Dispatcher

/-! ## What is rendered -/

/-- A run that succeeds has rendered one answer, unless a filter kept its result from being
rendered; then it has rendered none. -/
theorem renderings_run_of_ok {ends : Ends} {ps : List Place} {call : Call} {o : Outcome}
    (ho : (run ends ps (.initial call)).outcome = .ok o) :
    let es := (run ends ps (.initial call)).events
    let silenced := ∃ e ∈ entries .resultBefore es, e.reply.suppress = true
    (¬silenced ∧ ∃ a, renderings es = [a]) ∨ (silenced ∧ renderings es = []) := by
  intro es silenced
  have hs := State.begun_open call
  have hrendered := rendered_proceed ends ps hs
  have hsilenced : silenced ↔ (ends.proceed ps (.begun call)).state.suppressed = true := by
    rw [suppressed_proceed ends ps hs, List.any_eq_true, ← entries_run]
  rw [← renderings_run] at hrendered
  rw [hsilenced]
  -- nothing is in flight at the last state, so rendering is done there
  rw [run_outcome, Step.finish_eq_ok] at ho
  have hdone := renderDone_proceed ends ps hs
  simp only [ho.1, Option.isSome_none, Bool.false_eq_true, false_or, State.renderDone,
    Bool.or_eq_true] at hdone
  cases hr : (ends.proceed ps (.begun call)).state.rendered with
  | true =>
    have hkept := (consistent_proceed ends ps hs).exclusive hr
    rw [hr] at hrendered
    exact .inl ⟨by simp [hkept], List.length_eq_one_iff.mp hrendered.symm⟩
  | false =>
    have hkept : (ends.proceed ps (.begun call)).state.suppressed = true := by
      simpa [hr] using hdone
    rw [hr] at hrendered
    exact .inr ⟨hkept, List.length_eq_zero_iff.mp hrendered.symm⟩

/-- Asking for a plan is no part of a run. -/
theorem Dispatcher.noRun_plan (d : Dispatcher) (action : Action) :
    NoRun (d.plan action).events := by
  rcases d.plan_cases action with ⟨p, -, h⟩ | ⟨-, h⟩ | h <;> rw [h]
  · exact .nil
  · exact .single rfl rfl rfl rfl
  · exact .nil

/-- A request that succeeds shows, of all that a run does, what a run that succeeds does. -/
theorem Dispatcher.renderings_execute_of_ok {d : Dispatcher} {call : Call} {ends : Ends}
    {o : Outcome} (hresolver : ∀ r, NoRun (d.pipeline.resolver r call).events)
    (ho : (d.execute call ends).2.2 = .ok o) :
    let es := (d.execute call ends).2.1
    let silenced := ∃ e ∈ entries .resultBefore es, e.reply.suppress = true
    (¬silenced ∧ ∃ a, renderings es = [a]) ∨ (silenced ∧ renderings es = []) := by
  intro es silenced
  have hexecute := d.execute_snd call ends
  have hasked := d.noRun_plan call.action
  generalize (d.plan call.action).plan.plan = plan at hexecute
  rcases d.pipeline.prepare_cases plan call with ⟨-, c, hc, hprepared⟩ | ⟨e, asked, he, -, -⟩
  · have hquiet := hasked.append (hprepared.asks.quiet fun r _ => hresolver r)
    have hrun : (d.execute call ends).2 =
        ((d.plan call.action).events ++ ((d.pipeline.prepare plan call).events ++
          (run ends c.places (.initial call)).events),
            (run ends c.places (.initial call)).outcome) := by
      rw [hexecute]
      simp only [Pipeline.execute, hc, hprepared.state]
    have hes : es = (d.plan call.action).events ++ (d.pipeline.prepare plan call).events ++
        (run ends c.places (.initial call)).events := by
      rw [show es = _ from congrArg Prod.fst hrun, List.append_assoc]
    rw [hrun] at ho
    have hentries : entries .resultBefore es =
        entries .resultBefore (run ends c.places (.initial call)).events := by
      rw [hes, entries_append, hquiet.called, List.nil_append]
    have hrenderings : renderings es =
        renderings (run ends c.places (.initial call)).events := by
      rw [hes, renderings_append, hquiet.rendered, List.nil_append]
    simp only [silenced, hentries, hrenderings]
    exact renderings_run_of_ok ho
  · rw [hexecute] at ho
    simp [Pipeline.execute, he] at ho

/-- A request fails as its run does, whatever was rendered in it. It comes to no response exactly if
its run succeeds and a filter kept the result from being rendered. Otherwise it comes to the
response of the one answer that was rendered. Writing an answer out never fails, and the response
names the request unless the answer names one. What a resolver tells is no part of a run. -/
theorem invoke_responds (d : Dispatcher) (call : Call) (invoker : Call → Invocation)
    (hresolver : ∀ r, NoRun (d.pipeline.resolver r call).events) :
    let ran := (d.execute call ⟨invoker, Response.renderer⟩).2
    let reply := (d.invoke call invoker).2
    reply.1 = ran.1 ∧
      (∀ failure, reply.2 = .error (.pipeline failure) ↔ ran.2 = .error failure) ∧
      (∀ name, reply.2 = .error (.notRendered name) ↔
        name = call.action.displayName ∧ (∃ o, ran.2 = .ok o) ∧
          ∃ e ∈ entries .resultBefore ran.1, e.reply.suppress = true) ∧
      (∀ response, reply.2 = .ok response ↔
        (∃ o, ran.2 = .ok o) ∧ ∃ answer, renderings ran.1 = [answer] ∧
          Response.attempt call answer = .ok response) ∧
      ∀ answer, ∃ v, HeaderValue.ofText? call.id.text = some v ∧
        Response.attempt call answer = .ok (.render call.id answer) ∧
        (Response.render call.id answer).headers.first? requestIdName =
          (answer.headers.first? requestIdName).or (some v) := by
  intro ran reply
  have hreply : reply = (ran.1, Dispatcher.respond call ran.1 ran.2) := by
    simp only [reply, ran, Response.renderer_eq, d.invoke_snd]
  have hok {o : Outcome} (ho : ran.2 = .ok o) :=
    Dispatcher.renderings_execute_of_ok hresolver ho
  rw [hreply]
  refine ⟨rfl, fun failure => Dispatcher.respond_eq_pipeline_iff, fun name => ?_,
    fun response => ?_, fun answer => ?_⟩
  · rw [Dispatcher.respond_eq_notRendered_iff]
    refine and_congr_right fun _ => and_congr_right ?_
    rintro ⟨o, ho⟩
    rcases hok ho with ⟨hkept, answer, hanswer⟩ | ⟨hkept, hnone⟩
    · simp only [ran, hanswer, reduceCtorEq, false_iff]
      exact hkept
    · exact iff_of_true hnone hkept
  · rw [Dispatcher.respond_eq_ok_iff]
    refine and_congr_right ?_
    rintro ⟨o, ho⟩
    refine exists_congr fun a => and_congr ?_ (by simp [Response.attempt_eq])
    -- one answer is rendered at most, so the last is the only one
    rcases hok ho with ⟨-, answer, hanswer⟩ | ⟨-, hnone⟩
    · simp [ran, hanswer]
    · simp [ran, hnone]
  · obtain ⟨v, hv⟩ := call.id.exists_value
    exact ⟨v, hv, Response.attempt_eq call answer,
      by rw [Response.first?_requestId_render, hv]⟩

/-- A filter that fails once the result is rendered makes its request fail: the response is there
and is not taken. One that keeps the result from being rendered leaves its request without a
response, and one that sets another result once the first is rendered changes nothing about the
response. -/
theorem invoke_responds_each_way :
    let late : Filter :=
      { name := "late", result := some ⟨.idle, fun _ => { fault := some (.plain "late") }⟩ }
    let mute : Filter :=
      { name := "mute", result := some ⟨fun _ => { suppress := true }, .idle⟩ }
    let tardy : Filter :=
      { name := "tardy", result := some ⟨.idle, fun _ => { result := some (.text .ok "tardy") }⟩ }
    let behind (f : Filter) : Dispatcher := { catalog := ⟨[.shared .global f]⟩ }
    let call : Call := .ofAction ⟨"jobs", "run", .result⟩
    let invoker : Call → Invocation := fun _ => { outcome := .ok (.result (.text .ok "done")) }
    let reply (f : Filter) := ((behind f).invoke call invoker).2
    (∀ f r, NoRun ((behind f).pipeline.resolver r call).events) ∧
      ((lastResponse call.id (reply late).1).isSome = true ∧
        ∃ failure, (reply late).2 = .error (.pipeline failure)) ∧
      (reply mute).2 = .error (.notRendered "jobs.run") ∧
      ∃ response, (reply tardy).2 = .ok response ∧ response.body = "done" := by
  intro late mute tardy behind call invoker reply
  have hresolver (f : Filter) (r : Registration) :
      NoRun ((behind f).pipeline.resolver r call).events := NoRun.standard r call
  let ran (f : Filter) := ((behind f).execute call ⟨invoker, Response.renderer⟩).2
  have hok (f : Filter) (h : (ran f).2.toOption.isSome = true) : ∃ o, (ran f).2 = .ok o := by
    cases hran : (ran f).2 with
    | error failure => simp [hran, Except.toOption] at h
    | ok o => exact ⟨o, rfl⟩
  refine ⟨hresolver, ⟨by decide +kernel, ?_⟩, ?_, ?_⟩
  · obtain ⟨-, hfails, -⟩ := invoke_responds (behind late) call invoker (hresolver late)
    have hran : (ran late).2.toOption.isNone = true := by
      simp only [ran, Response.renderer_eq]
      decide +kernel
    cases h : (ran late).2 with
    | error failure => exact ⟨failure, (hfails failure).mpr h⟩
    | ok o => simp [h, Except.toOption] at hran
  · obtain ⟨-, -, hsilent, -⟩ := invoke_responds (behind mute) call invoker (hresolver mute)
    have hran : (ran mute).2.toOption.isSome = true := by
      simp only [ran, Response.renderer_eq]
      decide +kernel
    have hsuppressed : (entries .resultBefore (ran mute).1).any (·.reply.suppress) = true := by
      simp only [ran, Response.renderer_eq]
      decide +kernel
    exact (hsilent "jobs.run").mpr ⟨by decide, hok mute hran, List.any_eq_true.mp hsuppressed⟩
  · obtain ⟨-, -, -, hresponds, -⟩ := invoke_responds (behind tardy) call invoker (hresolver tardy)
    have hran : (ran tardy).2.toOption.isSome = true := by
      simp only [ran, Response.renderer_eq]
      decide +kernel
    have htexts : (renderings (ran tardy).1).map Answer.bodyText? = [some "done"] := by
      simp only [ran, Response.renderer_eq]
      decide +kernel
    obtain ⟨answer, hanswer, htext⟩ := List.map_eq_singleton_iff.mp htexts
    refine ⟨.render call.id answer, (hresponds _).mpr ⟨hok tardy hran, answer, hanswer, ?_⟩, ?_⟩
    · exact Response.attempt_eq call answer
    · obtain ⟨status, headers, body⟩ := answer
      cases body with
      | text content => exact Option.some.inj htext
      | _ => cases htext

end RequestPipeline
