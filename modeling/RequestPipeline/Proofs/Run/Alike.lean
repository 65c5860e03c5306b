import Mathlib.Data.List.Basic
import RequestPipeline.Proofs.Run.Lens
import RequestPipeline.Run.Observation

/-!
# Runs that look alike

Two runs look alike if their filters correspond, but for filters in the first that are not looked at
and do nothing (`Lens.Corresponds`), and if what carries out the action and what writes the result
out look alike as well (`Lens.alike_run`). This is shown of passages first, then of each phase, and
needs only that corresponding filters reply alike in states that look alike.

What is rendered, how the action is invoked and what is measured can all be read off a trace as it
is seen through a lens.
-/

set_option autoImplicit false

namespace RequestPipeline

/-! ## Thinned lists -/

section Thins

variable {α β γ δ : Type} {keep : α → β → Prop} {drop : α → Prop} {xs xs' : List α}
  {ys ys' : List β}

/-- The second list holds counterparts of the members of the first, in their order; some members may
be dropped. -/
inductive Thins (keep : α → β → Prop) (drop : α → Prop) : List α → List β → Prop
  | nil : Thins keep drop [] []
  | keep {x : α} {y : β} {xs : List α} {ys : List β} (head : keep x y)
      (tail : Thins keep drop xs ys) : Thins keep drop (x :: xs) (y :: ys)
  | drop {x : α} {xs : List α} {ys : List β} (head : drop x)
      (tail : Thins keep drop xs ys) : Thins keep drop (x :: xs) ys

namespace Thins

theorem nil_iff : Thins keep drop [] ys ↔ ys = [] := by
  constructor
  · intro h
    cases h
    rfl
  · rintro rfl
    exact .nil

/-- The first member has a counterpart, which comes first too, or it is dropped. -/
theorem cons_cases {x : α} (h : Thins keep drop (x :: xs) ys) :
    (∃ y ys', ys = y :: ys' ∧ keep x y ∧ Thins keep drop xs ys') ∨
      (drop x ∧ Thins keep drop xs ys) := by
  cases h with
  | keep head tail => exact .inl ⟨_, _, rfl, head, tail⟩
  | drop head tail => exact .inr ⟨head, tail⟩

theorem append (h : Thins keep drop xs ys) (h' : Thins keep drop xs' ys') :
    Thins keep drop (xs ++ xs') (ys ++ ys') := by
  induction h with
  | nil => exact h'
  | keep head _ ih => exact .keep head ih
  | drop head _ ih => exact .drop head ih

theorem reverse (h : Thins keep drop xs ys) : Thins keep drop xs.reverse ys.reverse := by
  induction h with
  | nil => exact .nil
  | keep head _ ih =>
    rw [List.reverse_cons, List.reverse_cons]
    exact ih.append (.keep head .nil)
  | drop head _ ih =>
    have h := ih.append (.drop head .nil)
    rwa [List.append_nil, ← List.reverse_cons] at h

/-- Parts are taken from members that correspond if they correspond, and of a member that is dropped
if they are. -/
theorem filterMap {keep' : γ → δ → Prop} {drop' : γ → Prop} {f : α → Option γ} {g : β → Option δ}
    (h : Thins keep drop xs ys) (hkeep : ∀ x y, keep x y → Option.Rel keep' (f x) (g y))
    (hdrop : ∀ x, drop x → ∀ c, f x = some c → drop' c) :
    Thins keep' drop' (xs.filterMap f) (ys.filterMap g) := by
  induction h with
  | nil => exact .nil
  | @keep x y xs ys head tail ih =>
    rcases rel_cases (hkeep x y head) with ⟨hf, hg⟩ | ⟨c, d, hf, hg, hcd⟩
    · rwa [List.filterMap_cons_none hf, List.filterMap_cons_none hg]
    · rw [List.filterMap_cons_some hf, List.filterMap_cons_some hg]
      exact .keep hcd ih
  | @drop x xs ys head tail ih =>
    cases hf : f x with
    | none => rwa [List.filterMap_cons_none hf]
    | some c =>
      rw [List.filterMap_cons_some hf]
      exact .drop (hdrop x head c hf) ih

theorem map {keep' : γ → δ → Prop} {drop' : γ → Prop} {f : α → γ} {g : β → δ}
    (h : Thins keep drop xs ys) (hkeep : ∀ x y, keep x y → keep' (f x) (g y))
    (hdrop : ∀ x, drop x → drop' (f x)) : Thins keep' drop' (xs.map f) (ys.map g) := by
  induction h with
  | nil => exact .nil
  | keep head _ ih => exact .keep (hkeep _ _ head) ih
  | drop head _ ih => exact .drop (hdrop _ head) ih

end Thins

end Thins

namespace Lens

variable (L : Lens)

/-! ## Passages that look alike -/

variable (ps qs : List Place)

/-- Two filters, each in its place, do the same at a moment as far as can be seen. -/
structure Paired (cb : Callback) (m n : Place × Behaviour) : Prop where
  listing : m.1.registration.listing = n.1.registration.listing
  seat : L.seat m.1.index = some n.1.index
  reply : ∀ s t, L.state s = L.state t →
    L.reply (m.1.entry ps cb m.2 s).reply = L.reply (n.1.entry qs cb n.2 t).reply

/-- A filter in its place is not looked at, and does nothing at a moment. -/
structure Dropped (cb : Callback) (m : Place × Behaviour) : Prop where
  seat : L.seat m.1.index = none
  reply : ∀ s, L.reply (m.1.entry ps cb m.2 s).reply = {}

/-- Two filters do the same around a phase. -/
structure PairedAround (l : Layer) (m n : Place × Around) : Prop where
  before : L.Paired ps qs l.before (m.1, m.2.before) (n.1, n.2.before)
  after : L.Paired ps qs l.after (m.1, m.2.after) (n.1, n.2.after)

/-- A filter is not looked at, and does nothing around a phase. -/
structure DroppedAround (l : Layer) (m : Place × Around) : Prop where
  before : L.Dropped ps l.before (m.1, m.2.before)
  after : L.Dropped ps l.after (m.1, m.2.after)

section Passages

variable {L ps qs} {cb : Callback} {l : Layer} {s t : State}

theorem Paired.matches {m n : Place × Behaviour} (h : L.Paired ps qs cb m n)
    (hs : L.state s = L.state t) : L.Matches (m.1.entry ps cb m.2 s) (n.1.entry qs cb n.2 t) :=
  ⟨rfl, h.listing, h.seat, hs, h.reply s t hs⟩

theorem Dropped.passes {m : Place × Behaviour} (h : L.Dropped ps cb m) (s : State) :
    L.Passes (m.1.entry ps cb m.2 s) :=
  ⟨h.seat, h.reply s⟩

/-- Passages of filters that correspond look alike and come to the same verdict. -/
theorem alike_advance {ms ns : List (Place × Behaviour)}
    (h : Thins (L.Paired ps qs cb) (L.Dropped ps cb) ms ns) (hs : L.state s = L.state t) :
    L.Alike (advance ps cb ms s).step (advance qs cb ns t).step ∧
      (advance ps cb ms s).verdict = (advance qs cb ns t).verdict := by
  induction h generalizing s t with
  | nil => exact ⟨.stay hs, rfl⟩
  | @keep m n ms ns head tail ih =>
    obtain ⟨p, b⟩ := m
    obtain ⟨q, c⟩ := n
    have hm := head.matches hs
    by_cases hv : (p.entry ps cb b s).verdict = .admitted
    · rw [advance_cons_of_admitted hv, advance_cons_of_admitted (hm.verdict ▸ hv)]
      have hrest := ih hm.step.state
      exact ⟨hm.step.andThen (f := fun u => (advance ps cb ms u).step)
        (g := fun u => (advance qs cb ns u).step) hrest.1, hrest.2⟩
    · rw [advance_cons_of_not_admitted hv, advance_cons_of_not_admitted (hm.verdict ▸ hv)]
      exact ⟨hm.step, hm.verdict⟩
  | @drop m ms ns head tail ih =>
    obtain ⟨p, b⟩ := m
    have hm := head.passes s
    rw [advance_cons_of_admitted hm.verdict]
    have hrest := ih (hm.state_step.trans hs)
    refine ⟨⟨hrest.1.state, ?_⟩, hrest.2⟩
    rw [Step.andThen_events, events_append, hm.events_step, List.nil_append]
    exact hrest.1.events

/-- On the way outwards filters that correspond are called alike. -/
theorem alike_ascend {ms ns : List (Place × Around)}
    (h : Thins (L.PairedAround ps qs l) (L.DroppedAround ps l) ms ns)
    (hs : L.state s = L.state t) : L.Alike (l.ascend ps ms s) (l.ascend qs ns t) := by
  induction h generalizing s t with
  | nil => exact .stay hs
  | keep head tail ih =>
    have hm := head.after.matches hs
    rw [l.ascend_cons, l.ascend_cons]
    exact hm.step.andThen (ih hm.step.state)
  | drop head tail ih =>
    have hm := head.after.passes s
    rw [l.ascend_cons]
    have hrest := ih (hm.state_step.trans hs)
    refine ⟨hrest.state, ?_⟩
    rw [Step.andThen_events, events_append, hm.events_step, List.nil_append]
    exact hrest.events

end Passages

end Lens

/-! ## Filters that are entered -/

theorem Layer.behaviour?_before (l : Layer) (f : Filter) :
    l.before.behaviour? f = (l.around? f).map Around.before := by
  cases l <;> rfl

theorem Layer.behaviour?_after (l : Layer) (f : Filter) :
    l.after.behaviour? f = (l.around? f).map Around.after := by
  cases l <;> rfl

section Entered

variable {l : Layer} {ps : List Place} {p : Place} {a : Around} {ms : List (Place × Around)}
  {s : State}

/-- The filters entered behind the first, by its verdict. -/
theorem descend_entered_cons (hs : l.stopped s = false) :
    (l.descend ps ((p, a) :: ms) s).entered =
      match (p.entry ps l.before a.before s).verdict with
      | .admitted =>
        (l.descend ps ms (p.entry ps l.before a.before s).step.state).entered ++ [(p, a)]
      | .refused => [(p, a)]
      | .faulted => [] := by
  simp only [Layer.descend, Place.visit_fault, Place.visit_step, Layer.stopped_eq]
  rw [Layer.stopped_eq] at hs
  rcases (p.entry ps l.before a.before s).verdict_cases hs with
    ⟨f, hf, hv⟩ | ⟨hf, hg, hv⟩ | ⟨hf, hg, hv⟩
  · rw [hf, hv]
  · rw [Place.entry_callback] at hg
    rw [hf, hv]
    simp only [hg]
    rfl
  · rw [Place.entry_callback] at hg
    rw [hf, hv, Entry.step_of_admitted hv]
    simp only [hg]
    rfl

end Entered

namespace Lens

section Entered

variable {L : Lens} {ps qs : List Place} {l : Layer} {s t : State}

theorem thins_entered {ms ns : List (Place × Around)}
    (h : Thins (L.PairedAround ps qs l) (L.DroppedAround ps l) ms ns)
    (hs : L.state s = L.state t) (hl : l.stopped s = false) :
    Thins (L.PairedAround ps qs l) (L.DroppedAround ps l) (l.descend ps ms s).entered
      (l.descend qs ns t).entered := by
  induction h generalizing s t with
  | nil => exact .nil
  | @keep m n ms ns head tail ih =>
    obtain ⟨p, a⟩ := m
    obtain ⟨q, c⟩ := n
    have hm := head.before.matches hs
    rw [descend_entered_cons hl, descend_entered_cons (stopped_eq hs l ▸ hl), ← hm.verdict]
    cases hv : (p.entry ps l.before a.before s).verdict with
    | admitted =>
      have hl' : l.stopped (p.entry ps l.before a.before s).step.state = false := by
        rw [Layer.stopped_eq] at hl ⊢
        exact stopped_of_admitted hl hv
      exact (ih hm.step.state hl').append (.keep head .nil)
    | refused => exact .keep head .nil
    | faulted => exact .nil
  | @drop m ms ns head tail ih =>
    obtain ⟨p, a⟩ := m
    have hm := head.before.passes s
    have hl' : l.stopped (p.entry ps l.before a.before s).step.state = false := by
      rw [Layer.stopped_eq] at hl ⊢
      exact stopped_of_admitted hl hm.verdict
    have hrest := (ih (hm.state_step.trans hs) hl').append (.drop head .nil)
    rw [descend_entered_cons hl, hm.verdict]
    simpa using hrest

end Entered

/-! ## Filters that correspond -/

variable (L : Lens) (ps qs : List Place)

/-- Two filters, each in its place, do the same whenever they are called. -/
structure Pair (p q : Place) : Prop where
  listing : p.registration.listing = q.registration.listing
  seat : L.seat p.index = some q.index
  reply : ∀ cb, Option.Rel
    (fun b c => ∀ s t, L.state s = L.state t →
      L.reply (p.entry ps cb b s).reply = L.reply (q.entry qs cb c t).reply)
    (cb.behaviour? p.filter) (cb.behaviour? q.filter)

/-- A filter in its place is not looked at, and does nothing whenever it is called. -/
structure Drop (p : Place) : Prop where
  seat : L.seat p.index = none
  reply : ∀ cb b, cb.behaviour? p.filter = some b → ∀ s, L.reply (p.entry ps cb b s).reply = {}

/-- The filters of two runs correspond, but for those in the first that are not looked at and do
nothing. -/
def Corresponds : Prop := Thins (L.Pair ps qs) (L.Drop ps) ps qs

section Corresponding

variable {L ps qs} (h : L.Corresponds ps qs)

include h

theorem thins_members (cb : Callback) :
    Thins (L.Paired ps qs cb) (L.Dropped ps cb) (cb.members ps) (cb.members qs) := by
  refine h.filterMap (fun p q hpq => ?_) fun p hp m hm => ?_
  · exact rel_map (hpq.reply cb) fun b c hreply => ⟨hpq.listing, hpq.seat, hreply⟩
  · obtain ⟨b, hb, rfl⟩ := Option.map_eq_some_iff.mp hm
    exact ⟨hp.seat, hp.reply cb b hb⟩

theorem thins_layer (l : Layer) :
    Thins (L.PairedAround ps qs l) (L.DroppedAround ps l) (l.members ps) (l.members qs) := by
  refine h.filterMap (fun p q hpq => ?_) fun p hp m hm => ?_
  · have hbefore := hpq.reply l.before
    have hafter := hpq.reply l.after
    rw [l.behaviour?_before, l.behaviour?_before] at hbefore
    rw [l.behaviour?_after, l.behaviour?_after] at hafter
    cases ha : l.around? p.filter <;> cases hc : l.around? q.filter <;>
      rw [ha, hc] at hbefore hafter
    · exact .none
    · cases hbefore
    · cases hbefore
    · cases hbefore with
      | some hbefore =>
        cases hafter with
        | some hafter =>
          exact .some ⟨⟨hpq.listing, hpq.seat, hbefore⟩, ⟨hpq.listing, hpq.seat, hafter⟩⟩
  · obtain ⟨a, ha, rfl⟩ := Option.map_eq_some_iff.mp hm
    have hbefore : l.before.behaviour? p.filter = some a.before := by simp [l.behaviour?_before, ha]
    have hafter : l.after.behaviour? p.filter = some a.after := by simp [l.behaviour?_after, ha]
    exact ⟨⟨hp.seat, hp.reply _ _ hbefore⟩, ⟨hp.seat, hp.reply _ _ hafter⟩⟩

theorem alike_passage (cb : Callback) {s t : State} (hs : L.state s = L.state t) :
    L.Alike (cb.passage ps s).step (cb.passage qs t).step ∧
      (cb.passage ps s).verdict = (cb.passage qs t).verdict :=
  alike_advance (thins_members h cb) hs

theorem alike_leave {l : Layer} {s t u v : State} (hs : L.state s = L.state t)
    (hl : l.stopped s = false) (hu : L.state u = L.state v) :
    L.Alike (l.ascend ps (l.entered ps s) u) (l.ascend qs (l.entered qs t) v) :=
  alike_ascend (thins_entered (thins_layer h l) hs hl) hu

/-- A phase around parts that look alike looks alike. -/
theorem alike_surround {l : Layer} {inner inner' : State → Step} {s t : State}
    (hs : L.state s = L.state t) (hl : l.stopped s = false)
    (hinner : ∀ u v, L.state u = L.state v → L.Alike (inner u) (inner' v)) :
    L.Alike (l.surround ps inner s) (l.surround qs inner' t) := by
  obtain ⟨hpassage, hverdict⟩ := alike_passage h l.before hs
  have hl' : l.stopped t = false := stopped_eq hs l ▸ hl
  by_cases hv : (l.before.passage ps s).verdict = .admitted
  · rw [surround_of_admitted ps hl hv, surround_of_admitted qs hl' (hverdict ▸ hv)]
    have hthrough := hpassage.andThen (hinner _ _ hpassage.state)
    have hout := hthrough.andThen (alike_leave h hs hl hthrough.state)
    exact hout.andThen (alike_settle hout.state)
  · rw [surround_of_not_admitted ps hl hv, surround_of_not_admitted qs hl' (hverdict ▸ hv)]
    have hout := hpassage.andThen (alike_leave h hs hl hpassage.state)
    exact hout.andThen (alike_settle hout.state)

end Corresponding

/-! ## Ends that look alike -/

/-- What carries out the action and what writes the result out come to the same as far as can be
seen. -/
structure SameEnds (ends ends' : Ends) : Prop where
  outcome : ∀ c,
    (ends.invoke c).outcome.mapError L.fault = (ends'.invoke c).outcome.mapError L.fault
  cancel : ∀ c, (ends.invoke c).cancel = (ends'.invoke c).cancel
  fault : ∀ c a, (ends.render c a).fault.map L.fault = (ends'.render c a).fault.map L.fault
  cancelled : ∀ c a, (ends.render c a).cancel = (ends'.render c a).cancel

theorem SameEnds.refl (ends : Ends) : L.SameEnds ends ends :=
  ⟨fun _ => rfl, fun _ => rfl, fun _ _ => rfl, fun _ _ => rfl⟩

section SameEnds

variable {L} {ends ends' : Ends} (h : L.SameEnds ends ends') {s t : State}

include h

theorem SameEnds.invocation (c : Call) :
    (ends.invocation c).mapError L.fault = (ends'.invocation c).mapError L.fault := by
  have houtcome := h.outcome c
  cases ho : (ends.invoke c).outcome <;> cases ho' : (ends'.invoke c).outcome <;>
    simp_all [Ends.invocation, Except.mapError]

theorem SameEnds.callBehind (c : Call) : ends.callBehind c = ends'.callBehind c := by
  rw [Ends.callBehind, Ends.callBehind, h.cancel]

theorem alike_perform (hs : L.state s = L.state t) :
    L.Alike (ends.perform s) (ends'.perform t) := by
  have hcall := call_eq hs
  have hbehind : L.state { s with call := ends.callBehind s.call } =
      L.state { t with call := ends'.callBehind t.call } := by
    rw [hcall, h.callBehind]
    exact congrArg (fun u : State => { u with call := ends'.callBehind t.call }) hs
  have hinvocation := h.invocation s.call
  cases hi : s.call.interruption? with
  | some f =>
    rw [perform_of_interrupted hi, perform_of_interrupted (hcall ▸ hi)]
    exact ⟨by simp [hs], by simp [events_cons, event]⟩
  | none =>
    cases hf : ends.invocation s.call with
    | error f =>
      obtain ⟨f', hf', hff⟩ :
          ∃ f', ends'.invocation s.call = .error f' ∧ L.fault f' = L.fault f := by
        cases hf' : ends'.invocation s.call <;> simp_all [Except.mapError]
      rw [perform_of_error hi hf, perform_of_error (hcall ▸ hi) (hcall ▸ hf')]
      exact ⟨by simp [hbehind, hff], by simp [events_cons, event, hcall, hff]⟩
    | ok a =>
      have hf' : ends'.invocation s.call = .ok a := by
        cases hf' : ends'.invocation s.call <;> simp_all [Except.mapError]
      rw [perform_of_ok hi hf, perform_of_ok (hcall ▸ hi) (hcall ▸ hf')]
      exact ⟨congrArg (fun u : State => { u with result := some a }) hbehind,
        by simp [events_cons, event, hcall]⟩

/-- The state behind a rendering, its fault apart, is seen from the state before. -/
theorem state_written (hs : L.state s = L.state t) :
    L.state (ends.written s) = L.state (ends'.written t) := by
  have hwritten (u : State) (a : Answer) (c : Call) :
      L.state { u with rendered := true, result := some a, call := c } =
        { L.state u with rendered := true, result := some a, call := c } := rfl
  simp only [Ends.written, hwritten, call_eq hs, result_eq hs, h.cancelled, hs]

theorem alike_write (hs : L.state s = L.state t) : L.Alike (ends.write s) (ends'.write t) := by
  have hcall := call_eq hs
  have hresult := result_eq hs
  have hwritten := state_written h hs
  have hfault := h.fault s.call (s.result.getD .empty)
  cases hf : (ends.render s.call (s.result.getD .empty)).fault <;>
    cases hf' : (ends'.render s.call (s.result.getD .empty)).fault <;>
    simp only [hf, hf', Option.map_some, Option.map_none, Option.some.injEq,
      reduceCtorEq] at hfault <;>
    rw [hcall, hresult] at hf'
  · rw [write_of_no_fault hf, write_of_no_fault hf']
    exact ⟨hwritten, by simp [events_cons, event, hresult]⟩
  · rw [write_of_fault hf, write_of_fault hf']
    exact ⟨by simp [hwritten, hfault], by simp [events_cons, event, hresult, hfault]⟩

theorem alike_writeDirectly (hs : L.state s = L.state t) :
    L.Alike (ends.writeDirectly s) (ends'.writeDirectly t) := by
  have hannounce : L.Alike ⟨s, [.renderingDirectly]⟩ ⟨t, [.renderingDirectly]⟩ := ⟨hs, rfl⟩
  have hwrite := hannounce.andThen (alike_write h hs)
  exact hwrite.andThen (alike_settle hwrite.state)

theorem alike_writeMissing (hs : L.state s = L.state t) :
    L.Alike (ends.writeMissing s) (ends'.writeMissing t) := by
  have hfree : s.pending.isNone = t.pending.isNone := by
    rw [Bool.eq_iff_iff, Option.isNone_iff_eq_none, Option.isNone_iff_eq_none,
      pending_eq_none_iff hs]
  simp only [Ends.writeMissing, hfree, renderDone_eq hs]
  split
  · exact alike_writeDirectly h hs
  · exact .stay hs

end SameEnds

/-! ## Runs that look alike -/

section Runs

variable {L ps qs} {ends ends' : Ends} (h : L.Corresponds ps qs) (hends : L.SameEnds ends ends')
  {s t : State}

include h hends

theorem alike_resultPhase (hs : L.state s = L.state t) (hsuppressed : s.suppressed = false) :
    L.Alike (ends.resultPhase ps s) (ends'.resultPhase qs t) := by
  by_cases hfree : s.pending = none
  · rw [resultPhase_of_free ends ps hfree,
      resultPhase_of_free ends' qs ((pending_eq_none_iff hs).mp hfree)]
    exact alike_surround h hs hsuppressed fun _ _ => alike_write hends
  · rw [resultPhase_of_fault ends ps hfree,
      resultPhase_of_fault ends' qs (mt (pending_eq_none_iff hs).mpr hfree)]
    exact .stay hs

theorem alike_exceptionPhase (hs : L.state s = L.state t) :
    L.Alike (ends.exceptionPhase ps s) (ends'.exceptionPhase qs t) := by
  by_cases hfree : s.pending = none
  · rw [exceptionPhase_of_free ends ps hfree,
      exceptionPhase_of_free ends' qs ((pending_eq_none_iff hs).mp hfree)]
    exact .stay hs
  · rw [exceptionPhase_of_fault ends ps hfree,
      exceptionPhase_of_fault ends' qs (mt (pending_eq_none_iff hs).mpr hfree)]
    have hshown := (alike_advance (thins_members h .exception).reverse hs).1
    have hsettled := hshown.andThen (alike_settle hshown.state)
    exact hsettled.andThen (alike_writeMissing hends hsettled.state)

theorem alike_core (hs : L.state s = L.state t) (hopen : s.Open) :
    L.Alike (ends.core ps s) (ends'.core qs t) := by
  have haction : L.Alike (ends.actionPhase ps s) (ends'.actionPhase qs t) :=
    alike_surround h hs hopen.active fun _ _ => alike_perform hends
  have hresult := haction.andThen
    (alike_resultPhase h hends haction.state (suppressed_actionPhase ends ps hopen))
  exact hresult.andThen (alike_exceptionPhase h hends hresult.state)

theorem alike_inside (hs : L.state s = L.state t) (hopen : s.Open) :
    L.Alike (ends.inside ps (Callback.resourceBefore.passage ps s).step.state)
      (ends'.inside qs (Callback.resourceBefore.passage qs t).step.state) := by
  obtain ⟨hpassage, hverdict⟩ := alike_passage h .resourceBefore hs
  have hopen' : t.Open := (open_iff hs).mp hopen
  cases hv : (Callback.resourceBefore.passage ps s).verdict with
  | faulted =>
    rw [inside_of_faulted ends ps hv, inside_of_faulted ends' qs (hverdict ▸ hv)]
    exact .stay hpassage.state
  | refused =>
    rw [inside_of_refused ends ps hopen hv, inside_of_refused ends' qs hopen' (hverdict ▸ hv)]
    exact alike_writeDirectly hends hpassage.state
  | admitted =>
    rw [inside_of_admitted ends ps hopen hv, inside_of_admitted ends' qs hopen' (hverdict ▸ hv)]
    exact alike_core h hends hpassage.state (hopen.passage ps rfl hv)

theorem alike_resourcePhase (hs : L.state s = L.state t) (hopen : s.Open) :
    L.Alike (ends.resourcePhase ps s) (ends'.resourcePhase qs t) := by
  have hopen' : t.Open := (open_iff hs).mp hopen
  rw [resourcePhase_eq ends ps hopen.active, resourcePhase_eq ends' qs hopen'.active]
  have hthrough := (alike_passage h .resourceBefore hs).1.andThen (alike_inside h hends hs hopen)
  have hout := hthrough.andThen (alike_leave (l := .resource) h hs hopen.active hthrough.state)
  have hsettled := hout.andThen (alike_settle hout.state)
  exact hsettled.andThen (alike_writeMissing hends hsettled.state)

theorem alike_proceed (hs : L.state s = L.state t) (hopen : s.Open) :
    L.Alike (ends.proceed ps s) (ends'.proceed qs t) := by
  have hcall := call_eq hs
  have hopen' : t.Open := (open_iff hs).mp hopen
  obtain ⟨hpassage, hverdict⟩ := alike_passage h .authorization hs
  cases hi : s.call.interruption? with
  | some f =>
    rw [proceed_of_interrupted ends ps hi, proceed_of_interrupted ends' qs (hcall ▸ hi)]
    exact ⟨by simp [hs], by simp [events_cons]⟩
  | none =>
    have hi' : t.call.interruption? = none := hcall ▸ hi
    cases hv : (Callback.authorization.passage ps s).verdict with
    | faulted =>
      rw [proceed_of_faulted ends ps hi hopen hv,
        proceed_of_faulted ends' qs hi' hopen' (hverdict ▸ hv)]
      exact hpassage
    | refused =>
      rw [proceed_of_refused ends ps hi hopen hv,
        proceed_of_refused ends' qs hi' hopen' (hverdict ▸ hv)]
      exact hpassage.andThen (alike_writeDirectly hends hpassage.state)
    | admitted =>
      rw [proceed_of_admitted ends ps hi hopen hv,
        proceed_of_admitted ends' qs hi' hopen' (hverdict ▸ hv)]
      exact hpassage.andThen
        (alike_resourcePhase h hends hpassage.state (hopen.passage ps rfl hv))

end Runs

/-- Steps that look alike end a run alike. -/
theorem alike_finish {L : Lens} {t u : Step} (h : L.Alike t u) :
    L.events t.finish.events = L.whole.events u.finish.events ∧
      t.finish.outcome.mapError L.failure = u.finish.outcome.mapError L.failure ∧
      Ending.of t.finish.outcome = Ending.of u.finish.outcome := by
  cases ht : t.state.pending with
  | none =>
    have hu : u.state.pending = none := (pending_eq_none_iff h.state).mp ht
    have houtcome : t.state.outcome = u.state.outcome := eq_of_state (fun _ => rfl) h.state
    simp only [Step.finish, ht, hu, houtcome, and_self, and_true]
    exact h.events
  | some p =>
    obtain ⟨q, hu, hqp⟩ := pending_eq_some h.state ht
    obtain ⟨hfault, hphase, -⟩ := Pending.mk.inj hqp
    simp only [Step.finish, ht, hu, call_eq h.state]
    refine ⟨?_, ?_, rfl⟩
    · simp [events_cons, event, h.events, hphase, hfault]
    · simp [Except.mapError, failure, hfault]

/-- Runs of filters that correspond look alike, and they end alike. -/
theorem alike_run {L : Lens} {ps qs : List Place} {ends ends' : Ends} (h : L.Corresponds ps qs)
    (hends : L.SameEnds ends ends') (call : Call) :
    let r := run ends ps (.initial call)
    let r' := run ends' qs (.initial call)
    L.events r.events = L.whole.events r'.events ∧
      r.outcome.mapError L.failure = r'.outcome.mapError L.failure := by
  intro r r'
  obtain ⟨hevents, houtcome, hending⟩ :=
    alike_finish (alike_proceed h hends (s := .begun call) rfl (State.begun_open call))
  -- between its borders a run is its way to the last state
  have hrun (ends : Ends) (ps : List Place) : (run ends ps (.initial call)).events =
      .opened call.id call.action.displayName ps.length ::
        ((ends.proceed ps (.begun call)).finish.events ++ [.finished call.action.displayName
          (.of (ends.proceed ps (.begun call)).finish.outcome)]) := rfl
  refine ⟨?_, houtcome⟩
  rw [show r.events = _ from hrun ends ps, show r'.events = _ from hrun ends' qs, hending]
  simp [events_cons, event, hevents]

/-! ## Readings -/

/-- The calls in a trace as they are seen, in order. -/
def calls (L : Lens) (es : List Event) : List Entry := (es.filterMap Event.entry?).filterMap L.entry

section Readings

variable {L : Lens} {es fs : List Event}

/-- What is read of every event but calls, and is seen of it, is read of a trace as it is seen. -/
theorem flatMap_events {β : Type} {g : Event → List β} (hcall : ∀ c : Entry, g c.event = [])
    (hrest : ∀ e, e.entry? = none → (L.event e).toList.flatMap g = g e) (es : List Event) :
    (L.events es).flatMap g = es.flatMap g := by
  have hevent (e : Event) : (L.event e).toList.flatMap g = g e := by
    cases e with
    | called cb i l before reply =>
      have hseen : (L.event (.called cb i l before reply)).toList.flatMap g = [] := by
        rw [show L.event _ = (L.entry ⟨cb, i, l, before, reply⟩).map Entry.event from rfl]
        cases L.entry ⟨cb, i, l, before, reply⟩ <;> simp [hcall]
      exact hseen.trans (hcall ⟨cb, i, l, before, reply⟩).symm
    | _ => exact hrest _ rfl
  induction es with
  | nil => rfl
  | cons e es ih => rw [events_cons, List.flatMap_append, hevent, ih, List.flatMap_cons]

theorem invocations_events (L : Lens) (es : List Event) :
    invocations (L.events es) = invocations es := by
  rw [invocations, invocations, List.filterMap_eq_flatMap_toList, List.filterMap_eq_flatMap_toList]
  refine flatMap_events (fun _ => rfl) (fun e he => ?_) es
  cases e with
  | called => cases he
  | _ => rfl

theorem renderings_events (L : Lens) (es : List Event) :
    renderings (L.events es) = renderings es := by
  rw [renderings, renderings, List.filterMap_eq_flatMap_toList, List.filterMap_eq_flatMap_toList]
  refine flatMap_events (fun _ => rfl) (fun e he => ?_) es
  cases e with
  | called => cases he
  | _ => rfl

theorem metrics_events (L : Lens) (o : Options) (es : List Event) :
    o.metrics (L.events es) = o.metrics es := by
  rw [Options.metrics, Options.metrics]
  congr 1
  refine flatMap_events (fun _ => rfl) (fun e he => ?_) es
  cases e with
  | called => cases he
  | _ => rfl

theorem entry?_events (L : Lens) (es : List Event) :
    (L.events es).filterMap Event.entry? = L.calls es := by
  induction es with
  | nil => rfl
  | cons e es ih =>
    rw [events_cons, List.filterMap_append, ih, calls, calls]
    cases e with
    | called cb i l before reply =>
      simp only [event, entry, Event.entry?, List.filterMap_cons]
      cases L.seat i <;> rfl
    | _ => rfl

/-- What can be read of traces as they are seen is the same of traces that look alike. -/
theorem reading_eq {β : Type} {g : List Event → β} (hg : ∀ (L : Lens) es, g (L.events es) = g es)
    (h : L.events es = L.whole.events fs) : g es = g fs := by
  rw [← hg L es, h, hg]

theorem calls_eq (h : L.events es = L.whole.events fs) : L.calls es = L.whole.calls fs := by
  rw [← entry?_events, h, entry?_events]

end Readings

end Lens

end RequestPipeline
