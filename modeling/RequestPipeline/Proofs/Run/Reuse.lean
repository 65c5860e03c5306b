import RequestPipeline.Proofs.Run.Contexts
import RequestPipeline.Proofs.Run.Watched

/-!
# Contexts that are used again

A context is run, made ready for another run, and has its request cancelled, in any order
(`Use`). Two things tell where it stands between these: the request as the runs left it, and whether
it was run since it was made ready. They are kept as if every run had a context of its own
(`Standing`), and a context agrees with them all along (`Standing.tells_uses`). So nothing of a run
but its request reaches the next one (`run_behind_uses`): a run is refused exactly if the context
was run since it was made ready, without a trace, and otherwise it is the run of a new context.
-/

set_option autoImplicit false

namespace RequestPipeline

/-- What is done with a context. -/
inductive Use where
  | run (ends : Ends)
  | reset
  | cancel

/-- The context of a request that was not run yet. -/
def Context.new (ps : List Place) (call : Call) : Context := ⟨ps, .initial call⟩

/-- The context behind a use. -/
def Context.use (c : Context) : Use → Context
  | .run ends => (c.run ends).2
  | .reset => c.reset
  | .cancel => c.cancel

/-- A context was run since it was made or last made ready. -/
def Spent (us : List Use) : Prop :=
  ∃ front ends behind, us = front ++ .run ends :: behind ∧ .reset ∉ behind

/-! ## Runs with contexts of their own -/

/-- Where a context stands between runs. -/
structure Standing where
  call : Call
  spent : Bool := false

/-- Where a context stands behind a use, if a run that is not refused has a context of its own. -/
def Standing.after (ps : List Place) (l : Standing) : Use → Standing
  | .run ends =>
    if l.spent then l
    else
      let r := ((Context.new ps l.call).run ends).1
      { call := r.state.call, spent := true }
  | .reset => { l with spent := false }
  | .cancel => { l with call := l.call.cancel }

/-- Where a new context stands behind its uses. -/
def standing (ps : List Place) (call : Call) (us : List Use) : Standing :=
  us.foldl (Standing.after ps) { call }

/-- The request as the runs among some uses leave it, each of them in a context of its own. -/
def callBehind (ps : List Place) (call : Call) (us : List Use) : Call := (standing ps call us).call

/-! ## When a context is spent -/

section Spent

variable {us : List Use}

theorem not_spent_nil : ¬ Spent [] := by
  rintro ⟨front, ends, behind, h, -⟩
  simp at h

/-- A run spends a context, making it ready undoes that, and nothing else does either. -/
theorem spent_concat_iff {u : Use} :
    Spent (us ++ [u]) ↔ (∃ ends, u = .run ends) ∨ u ≠ .reset ∧ Spent us := by
  constructor
  · rintro ⟨front, ends, behind, h, hready⟩
    -- the last use is the run in question, or it stands behind it
    rcases List.eq_nil_or_concat behind with rfl | ⟨behind, v, rfl⟩
    · obtain ⟨-, hlast⟩ := List.append_inj' h rfl
      exact .inl ⟨ends, by simpa using hlast⟩
    · have hsplit : us ++ [u] = (front ++ .run ends :: behind) ++ [v] := by simpa using h
      obtain ⟨rfl, hlast⟩ := List.append_inj' hsplit rfl
      obtain rfl : u = v := by simpa using hlast
      exact .inr ⟨fun hu => hready (by simp [hu]),
        front, ends, behind, rfl, fun hmem => hready (by simp [hmem])⟩
  · rintro (⟨ends, rfl⟩ | ⟨hu, front, ends, behind, rfl, hready⟩)
    · exact ⟨us, ends, [], rfl, by simp⟩
    · exact ⟨front, ends, behind ++ [u], by simp, by simp [hready, hu.symm]⟩

/-- A context stands as spent exactly if it was run since it was made ready. -/
theorem standing_spent_iff (ps : List Place) (call : Call) (us : List Use) :
    (standing ps call us).spent = true ↔ Spent us := by
  -- the last uses tell whether a context is spent, so the induction takes them off the end
  induction us using List.reverseRecOn with
  | nil => simp [standing, not_spent_nil]
  | append_singleton us u ih =>
    have hstep : standing ps call (us ++ [u]) = (standing ps call us).after ps u := by
      simp [standing]
    rw [hstep, spent_concat_iff]
    cases u with
    | run ends =>
      cases hl : (standing ps call us).spent <;> simp [Standing.after, hl]
    | reset => simp [Standing.after]
    | cancel => simp [Standing.after, ih]

end Spent

/-! ## Contexts agree with where they stand -/

/-- A context agrees with where it stands: it is the context of a new request unless it is spent. -/
structure Standing.Tells (ps : List Place) (id : RequestId) (l : Standing)
    (c : Context) : Prop where
  places : c.places = ps
  call : c.state.call = l.call
  named : c.state.call.id = id
  spent : c.state.executed = l.spent
  unspent : l.spent = false → c = .new ps l.call

section Standing

variable {ps : List Place} {id : RequestId} {l : Standing} {c : Context}

/-- Neither a run nor its end changes which request it is. -/
theorem id_run (ends : Ends) (ps : List Place) (call : Call) :
    (run ends ps (.initial call)).state.call.id = call.id := by
  have hproceed : (ends.proceed ps (.begun call)).state.call.id = call.id := by
    cases hi : call.interruption? with
    | some f => rw [proceed_of_interrupted ends ps hi]; rfl
    | none => exact (course_proceed ends ps hi (State.begun_open call)).id
  have hfinish (t : Step) : t.finish.state.call = t.state.call := by
    unfold Step.finish
    split <;> rfl
  exact (congrArg Call.id (hfinish _)).trans hproceed

theorem Standing.Tells.use (h : l.Tells ps id c) (u : Use) :
    (l.after ps u).Tells ps id (c.use u) := by
  cases u with
  | run ends =>
    cases hl : l.spent with
    | true =>
      -- the run is refused, and both stay as they are
      have hafter : l.after ps (.run ends) = l := by simp [Standing.after, hl]
      have huse : c.use (.run ends) = c := by
        simp [Context.use, Context.run_of_executed ends (h.spent.trans hl)]
      rw [hafter, huse]
      exact h
    | false =>
      have hafter : l.after ps (.run ends) =
          { call := ((Context.new ps l.call).run ends).1.state.call, spent := true } := by
        simp [Standing.after, hl]
      have hid : l.call.id = id := h.call ▸ h.named
      rw [hafter, h.unspent hl]
      exact
        { places := rfl
          call := rfl
          named := (id_run ends ps l.call).trans hid
          spent := Context.executed_run_initial ends ps l.call
          unspent := nofun }
  | reset =>
    exact
      { places := h.places
        call := h.call
        named := h.named
        spent := rfl
        unspent := fun _ => by
          obtain ⟨places, state⟩ := c
          simp only [Context.use, Context.reset, State.reset_eq, Context.new, Standing.after]
          rw [← h.places, ← h.call] }
  | cancel =>
    exact
      { places := h.places
        call := congrArg Call.cancel h.call
        named := h.named
        spent := h.spent
        unspent := fun hl => by rw [h.unspent hl]; rfl }

/-- A context agrees with where it stands behind any uses. -/
theorem Standing.tells_uses (ps : List Place) (call : Call) (us : List Use) :
    (standing ps call us).Tells ps call.id (us.foldl Context.use (.new ps call)) := by
  have hgeneral (us : List Use) (l : Standing) (c : Context) (h : l.Tells ps call.id c) :
      (us.foldl (Standing.after ps) l).Tells ps call.id (us.foldl Context.use c) := by
    induction us generalizing l c with
    | nil => exact h
    | cons u us ih => exact ih _ _ (h.use u)
  exact hgeneral us _ _ ⟨rfl, rfl, rfl, rfl, fun _ => rfl⟩

end Standing

/-! ## Runs behind any uses -/

/-- A run of a context in the state before a run is not refused. -/
theorem run_initial_ne_contextReused (ends : Ends) (ps : List Place) (call : Call)
    (id : RequestId) :
    (run ends ps (.initial call)).outcome ≠ .error (.contextReused id) := by
  show (ends.proceed ps (.begun call)).finish.outcome ≠ _
  unfold Step.finish
  split <;> simp

/-- Whatever was done with a context, its next run is refused exactly if it was run since it was
made or last made ready. A run that is refused leaves the context as it is, and nothing is called,
invoked, rendered, logged or measured. Any other run is that of a new context with the same filters
and the request as the runs before left it: the same events, the same log and metrics, the same last
state and the same outcome. -/
theorem run_behind_uses (ps : List Place) (call : Call) (us : List Use) (ends : Ends) :
    let c := us.foldl Context.use (.new ps call)
    let fresh := Context.new ps (callBehind ps call us)
    c.state.call = callBehind ps call us ∧
    ((∃ id, (c.run ends).1.outcome = .error (.contextReused id)) ↔ Spent us) ∧
    (Spent us →
      c.run ends = (⟨c.state, [], .error (.contextReused call.id)⟩, c) ∧
        ∀ p : Pipeline, p.watchRun c ends =
          (.error (.contextReused call.id), { state := c.state })) ∧
    (¬ Spent us →
      c.run ends = fresh.run ends ∧
        ∀ p : Pipeline, p.watchRun c ends = p.watchRun fresh ends) := by
  intro c fresh
  have htells : (standing ps call us).Tells ps call.id c := Standing.tells_uses ps call us
  have hspent : c.state.executed = true ↔ Spent us := by
    rw [htells.spent, standing_spent_iff]
  have hrefused (h : Spent us) :
      c.run ends = (⟨c.state, [], .error (.contextReused call.id)⟩, c) := by
    rw [Context.run_of_executed ends (hspent.mpr h), htells.named]
  have hfresh (h : ¬ Spent us) : c = fresh :=
    htells.unspent (Bool.eq_false_iff.mpr fun hl => h ((standing_spent_iff ps call us).mp hl))
  refine ⟨htells.call, ⟨?_, ?_⟩, ?_, ?_⟩
  · -- a context that is not spent is a new one, and the run of a new context is not refused
    rintro ⟨id, hid⟩
    by_contra h
    rw [hfresh h] at hid
    exact run_initial_ne_contextReused ends ps _ id hid
  · intro h
    exact ⟨call.id, by rw [hrefused h]⟩
  · intro h
    refine ⟨hrefused h, ?_⟩
    intro p
    rw [p.watchRun_eq, hrefused h]
    simp [Progress.shown, Progress.after, Options.log, Options.metrics]
  · intro h
    rw [hfresh h]
    exact ⟨rfl, fun _ => rfl⟩

/-- A filter that answers ends a run, a second run is refused, and once the context is made ready
the request passes the filter again, as it would with a new context. -/
theorem run_behind_uses_answered :
    let answers : Behaviour := fun _ => { result := some (.text .forbidden "closed") }
    let f : Filter := { name := "gate", authorization := some answers }
    let ps : List Place := [⟨0, .shared .global f, f, rfl⟩]
    let ends : Ends :=
      ⟨fun _ => { outcome := .ok .unit }, fun _ _ => { fault := some (.plain "torn") }⟩
    let call : Call := .ofAction ⟨"jobs", "run", .unit⟩
    let again := (Context.new ps call).use (.run ends)
    (again.run ends).1.events = [] ∧
      (again.reset.run ends).1.events = ((Context.new ps call).run ends).1.events := by
  intro answers f ps ends call again
  have hspent : Spent [.run ends] := ⟨[], ends, [], rfl, by simp⟩
  have hready : ¬ Spent ([.run ends] ++ [.reset]) := by
    rw [spent_concat_iff]
    simp
  obtain ⟨-, -, hrefused, -⟩ := run_behind_uses ps call [.run ends] ends
  obtain ⟨-, -, -, hfresh⟩ := run_behind_uses ps call [.run ends, .reset] ends
  have hcall : callBehind ps call [.run ends, .reset] = call := rfl
  constructor
  · exact congrArg (fun r => r.1.events) (hrefused hspent).1
  · rw [← hcall]
    exact congrArg (fun r => r.1.events) (hfresh hready).1

end RequestPipeline
