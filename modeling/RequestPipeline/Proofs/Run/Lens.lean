import RequestPipeline.Proofs.Run.Reach

/-!
# Lenses

A lens shows of a run what matters when it is compared with another: of a fault as much as can be
seen, and of the filters those that are looked at, by numbers that the two runs share (`Lens`).
States are compared without the position of the filter that is being called, and replies without
their remarks, which say nothing to the run.

Calls that look alike lead to steps that look alike (`Lens.Matches.step`). A call that is not looked
at and in which nothing is done leads nowhere (`Lens.Passes`).
-/

set_option autoImplicit false

namespace RequestPipeline

/-! ## Optional parts -/

section Optional

variable {α β γ δ : Type} {rel : α → β → Prop} {x : Option α} {y : Option β}

/-- Of two optional parts that are related both are missing, or neither is. -/
theorem rel_cases (h : Option.Rel rel x y) :
    (x = none ∧ y = none) ∨ ∃ a b, x = some a ∧ y = some b ∧ rel a b := by
  cases h with
  | none => exact .inl ⟨rfl, rfl⟩
  | some h => exact .inr ⟨_, _, rfl, rfl, h⟩

theorem rel_map {rel' : γ → δ → Prop} {f : α → γ} {g : β → δ} (h : Option.Rel rel x y)
    (hrel : ∀ a b, rel a b → rel' (f a) (g b)) : Option.Rel rel' (x.map f) (y.map g) := by
  cases h with
  | none => exact .none
  | some h => exact .some (hrel _ _ h)

theorem rel_imp {rel' : α → β → Prop} (h : Option.Rel rel x y)
    (hrel : ∀ a b, rel a b → rel' a b) : Option.Rel rel' x y := by
  cases h with
  | none => exact .none
  | some h => exact .some (hrel _ _ h)

end Optional

/-! ## Lenses -/

/-- What is looked at when two runs are compared: as much of a fault as can be seen, and the number
by which the filter in a seat is known, if it is looked at. -/
structure Lens where
  fault : Fault → Fault
  seat : Nat → Option Nat

namespace Lens

variable (L : Lens)

/-- The lens with which the other run is looked at: it shows every filter by its own number. -/
def whole : Lens := { L with seat := some }

/-- A fault in flight as it is seen. -/
def pending (p : Pending) : Pending := { p with fault := L.fault p.fault }

/-- A state as it is seen, without the position of the filter that is being called. -/
def state (s : State) : State := { s with pending := s.pending.map L.pending, current := none }

/-- A reply as it is seen, without its remarks. -/
def reply (r : Reply) : Reply := { r with fault := r.fault.map L.fault, remarks := [] }

/-- An entry as it is seen, if its filter is looked at. -/
def entry (e : Entry) : Option Entry :=
  (L.seat e.index).map fun i =>
    { e with index := i, before := L.state e.before, reply := L.reply e.reply }

/-- An event as it is seen; how many filters there are is not. -/
def event : Event → Option Event
  | .opened id action _ => some (.opened id action 0)
  | .called cb i l before reply => (L.entry ⟨cb, i, l, before, reply⟩).map Entry.event
  | .raised ph f => some (.raised ph (L.fault f))
  | .settled ph f => some (.settled ph (L.fault f))
  | .abandoned ph f => some (.abandoned ph (L.fault f))
  | e => some e

/-- A trace as it is seen. -/
def events (es : List Event) : List Event := es.filterMap L.event

/-- A failure as it is seen. -/
def failure : Failure → Failure
  | .unhandled action f => .unhandled action (L.fault f)
  | e => e

@[simp] theorem events_nil : L.events [] = [] := rfl

@[simp] theorem events_append (es fs : List Event) :
    L.events (es ++ fs) = L.events es ++ L.events fs := by
  simp [events]

theorem events_cons (e : Event) (es : List Event) :
    L.events (e :: es) = (L.event e).toList ++ L.events es := by
  cases h : L.event e <;> simp [events, h]

@[simp] theorem event_entry (e : Entry) : L.event e.event = (L.entry e).map Entry.event := rfl

@[simp] theorem event_raised (ph : Phase) (f : Fault) :
    L.event (.raised ph f) = some (.raised ph (L.fault f)) := rfl

@[simp] theorem event_settled (ph : Phase) (f : Fault) :
    L.event (.settled ph f) = some (.settled ph (L.fault f)) := rfl

@[simp] theorem event_shortCircuited (name : String) (ph : Phase) :
    L.event (.shortCircuited name ph) = some (.shortCircuited name ph) := rfl

@[simp] theorem whole_fault (f : Fault) : L.whole.fault f = L.fault f := rfl

@[simp] theorem state_current (s : State) (i : Option Nat) :
    L.state { s with current := i } = L.state s := rfl

/-- A fault is raised in the state as it is seen. -/
@[simp] theorem state_raise (s : State) (f : Fault) (ph : Phase) :
    L.state (s.raise f ph) = (L.state s).raise (L.fault f) ph := rfl

/-- What a reply does to the run is seen from what is seen of both. -/
theorem state_granted (e : Entry) :
    L.state e.granted =
      { (L.state e.before).grant e.callback (L.reply e.reply) with current := none } := by
  have hpending : (e.before.pending.map fun p => p.grant e.callback e.reply).map L.pending =
      (e.before.pending.map L.pending).map fun p => p.grant e.callback (L.reply e.reply) := by
    cases e.before.pending <;> rfl
  simp only [state, Entry.granted, State.grant, hpending]
  rfl

/-! ## States that look alike -/

section States

variable {L} {s t : State}

/-- What a lens shows as it is, is the same in states that look alike. -/
theorem eq_of_state {α : Type} {g : State → α} (hg : ∀ s, g (L.state s) = g s)
    (h : L.state s = L.state t) : g s = g t := by
  rw [← hg s, h, hg t]

theorem call_eq (h : L.state s = L.state t) : s.call = t.call := eq_of_state (fun _ => rfl) h

theorem result_eq (h : L.state s = L.state t) : s.result = t.result := eq_of_state (fun _ => rfl) h

theorem canceled_eq (h : L.state s = L.state t) : s.canceled = t.canceled :=
  eq_of_state (fun _ => rfl) h

theorem suppressed_eq (h : L.state s = L.state t) : s.suppressed = t.suppressed :=
  eq_of_state (fun _ => rfl) h

theorem renderDone_eq (h : L.state s = L.state t) : s.renderDone = t.renderDone :=
  eq_of_state (fun _ => rfl) h

theorem pending_eq (h : L.state s = L.state t) :
    s.pending.map L.pending = t.pending.map L.pending := congrArg State.pending h

/-- Whether a fault is in flight is seen. -/
theorem pending_eq_none_iff (h : L.state s = L.state t) :
    s.pending = none ↔ t.pending = none := by
  have hp := pending_eq h
  cases hs : s.pending <;> cases ht : t.pending <;> simp_all

/-- What can be seen of a fault in flight is the same in states that look alike. -/
theorem pending_eq_some (h : L.state s = L.state t) {p : Pending} (hp : s.pending = some p) :
    ∃ q, t.pending = some q ∧ L.pending q = L.pending p := by
  have hseen := pending_eq h
  rw [hp] at hseen
  simpa [eq_comm] using hseen.symm

theorem stopped_eq (h : L.state s = L.state t) (l : Layer) : l.stopped s = l.stopped t := by
  cases l <;> simp [Layer.stopped, canceled_eq h, suppressed_eq h]

theorem open_iff (h : L.state s = L.state t) : s.Open ↔ t.Open := by
  constructor
  · rintro ⟨free, active, due⟩
    exact ⟨(pending_eq_none_iff h).mp free, canceled_eq h ▸ active, renderDone_eq h ▸ due⟩
  · rintro ⟨free, active, due⟩
    exact ⟨(pending_eq_none_iff h).mpr free, canceled_eq h ▸ active, renderDone_eq h ▸ due⟩

end States

/-! ## Steps that look alike -/

/-- Two steps look alike: in what they lead to and in what they leave behind. -/
structure Alike (t u : Step) : Prop where
  state : L.state t.state = L.state u.state
  events : L.events t.events = L.whole.events u.events

section Steps

variable {L} {t u : Step} {f g : State → Step} {s s' : State}

theorem Alike.stay (h : L.state s = L.state s') : L.Alike (.stay s) (.stay s') := ⟨h, rfl⟩

theorem Alike.andThen (h : L.Alike t u) (hnext : L.Alike (f t.state) (g u.state)) :
    L.Alike (t.andThen f) (u.andThen g) where
  state := hnext.state
  events := by simp [h.events, hnext.events]

theorem alike_settle (h : L.state s = L.state s') : L.Alike (.settle s) (.settle s') := by
  have hp := pending_eq h
  rcases settle_cases s with ⟨hh, hstep⟩ | ⟨p, hs, hh, hstep⟩
  · -- whether the fault in flight is marked is seen
    have hh' : s'.handled = false := by
      cases hs : s.pending <;> cases hs' : s'.pending <;>
        simp_all [State.handled, pending]
    rw [hstep, Step.settle_of_not_handled hh']
    exact .stay h
  · obtain ⟨q, hs', hpq⟩ := pending_eq_some h hs
    have hhandled : q.handled = true := (congrArg Pending.handled hpq).trans hh
    rw [hstep, Step.settle_of_handled hs' hhandled]
    refine ⟨?_, ?_⟩
    · have hrest := congrArg (fun u : State => { u with pending := none, recovered := true }) h
      exact hrest
    · have hevent : Event.settled q.phase (L.fault q.fault) = .settled p.phase (L.fault p.fault) :=
        congrArg (fun x : Pending => Event.settled x.phase x.fault) hpq
      simp [events_cons, hevent]

end Steps

/-! ## Calls that look alike -/

/-- Two entries look alike. -/
structure Matches (e f : Entry) : Prop where
  callback : e.callback = f.callback
  listing : e.listing = f.listing
  seat : L.seat e.index = some f.index
  before : L.state e.before = L.state f.before
  reply : L.reply e.reply = L.reply f.reply

/-- An entry is not looked at, and nothing is done in it. -/
structure Passes (e : Entry) : Prop where
  seat : L.seat e.index = none
  reply : L.reply e.reply = {}

section Calls

variable {L} {e f : Entry}

theorem returned_eq (h : L.reply e.reply = L.reply f.reply) : e.returned = f.returned := by
  have hf : e.reply.fault.map L.fault = f.reply.fault.map L.fault := congrArg Reply.fault h
  have hnone := congrArg Option.isNone hf
  simpa [Entry.returned] using hnone

namespace Matches

theorem entry (h : L.Matches e f) : L.entry e = L.whole.entry f := by
  simp only [Lens.entry, whole, h.seat, Option.map_some]
  rw [h.callback, h.listing, h.before, h.reply]
  rfl

theorem granted (h : L.Matches e f) : L.state e.granted = L.state f.granted := by
  rw [state_granted, state_granted, h.before, h.callback, h.reply]

theorem halts (h : L.Matches e f) : e.halts = f.halts := by
  have hhalts (e : Entry) : e.halts = { e with reply := L.reply e.reply }.halts := rfl
  rw [hhalts e, hhalts f, h.reply, Entry.halts, Entry.halts, h.callback]

theorem verdict (h : L.Matches e f) : e.verdict = f.verdict := by
  rw [Entry.verdict, Entry.verdict, returned_eq h.reply, h.halts]

/-- Calls that look alike lead to steps that look alike. -/
theorem step (h : L.Matches e f) : L.Alike e.step f.step := by
  have hfault : e.reply.fault.map L.fault = f.reply.fault.map L.fault :=
    congrArg Reply.fault h.reply
  have hevent : L.event e.event = L.whole.event f.event := by
    rw [event_entry, event_entry, h.entry]
  cases hv : e.verdict with
  | faulted =>
    obtain ⟨g, hg⟩ := Option.ne_none_iff_exists'.mp fun hn : e.reply.fault = none => by
      simp [Entry.verdict_eq_faulted, Entry.returned, hn] at hv
    obtain ⟨g', hg', hgg⟩ : ∃ g', f.reply.fault = some g' ∧ L.fault g' = L.fault g := by
      rw [hg] at hfault
      simpa [eq_comm] using hfault.symm
    rw [Entry.step_of_fault hg, Entry.step_of_fault hg']
    refine ⟨?_, ?_⟩
    · simp only [state_raise, h.granted, h.callback, hgg]
    · simp [events_cons, hevent, h.callback, hgg]
  | refused =>
    rw [Entry.step_of_refused hv, Entry.step_of_refused (h.verdict ▸ hv)]
    exact ⟨h.granted, by simp [events_cons, hevent, h.callback, h.listing]⟩
  | admitted =>
    rw [Entry.step_of_admitted hv, Entry.step_of_admitted (h.verdict ▸ hv)]
    exact ⟨h.granted, by simp [events_cons, hevent]⟩

end Matches

namespace Passes

theorem verdict (h : L.Passes e) : e.verdict = .admitted := by
  have hfault : e.reply.fault.map L.fault = none := congrArg Reply.fault h.reply
  have hresult : e.reply.result = none := congrArg Reply.result h.reply
  have hsuppress : e.reply.suppress = false := congrArg Reply.suppress h.reply
  have hnone : e.reply.fault = none := by simpa using hfault
  simp [Entry.verdict_eq_admitted, Entry.passed, Entry.returned, Entry.halts, hnone, hresult,
    hsuppress]

/-- A reply that does nothing leaves the state as it is seen. -/
theorem state_step (h : L.Passes e) : L.state e.step.state = L.state e.before := by
  rw [Entry.step_of_admitted h.verdict, state_granted, h.reply]
  cases hp : e.before.pending <;>
    simp [state, State.grant, Call.grant, Pending.grant, hp, pending]

theorem events_step (h : L.Passes e) : L.events e.step.events = [] := by
  rw [Entry.step_of_admitted h.verdict]
  simp [events_cons, entry, h.seat]

end Passes

end Calls

/-! ## Outcomes that look alike -/

/-- Failures that look alike are unhandled faults that look alike, or the same misuse. -/
theorem failure_cases {e e' : Failure} (h : L.failure e = L.failure e') :
    (∃ action f f', e = .unhandled action f ∧ e' = .unhandled action f' ∧ L.fault f = L.fault f') ∨
      (e.isMisuse = true ∧ e' = e) := by
  cases e with
  | unhandled action f =>
    cases e' with
    | unhandled action' f' =>
      obtain ⟨rfl, hf⟩ := Failure.unhandled.inj h
      exact .inl ⟨action, f, f', rfl, rfl, hf⟩
    | _ => cases h
  | _ =>
    cases e' with
    | unhandled => cases h
    | _ => exact .inr ⟨rfl, h.symm⟩

/-- Outcomes that look alike are the same success, or failures that look alike. -/
theorem outcome_cases {α : Type} {x y : Except Failure α}
    (h : x.mapError L.failure = y.mapError L.failure) :
    (∃ o, x = .ok o ∧ y = .ok o) ∨
      (∃ action f f', x = .error (.unhandled action f) ∧ y = .error (.unhandled action f') ∧
        L.fault f = L.fault f') ∨
      ∃ e, e.isMisuse = true ∧ x = .error e ∧ y = .error e := by
  cases x with
  | ok o =>
    cases y with
    | ok o' =>
      obtain rfl := Except.ok.inj h
      exact .inl ⟨o, rfl, rfl⟩
    | error e' => cases h
  | error e =>
    cases y with
    | ok o' => cases h
    | error e' =>
      rcases L.failure_cases (Except.error.inj h) with ⟨action, f, f', rfl, rfl, hf⟩ | ⟨he, rfl⟩
      · exact .inr (.inl ⟨action, f, f', rfl, rfl, hf⟩)
      · exact .inr (.inr ⟨e', he, rfl, rfl⟩)

end Lens

end RequestPipeline
