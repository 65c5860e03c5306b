import RequestPipeline.Proofs.Run.InFlight
import RequestPipeline.Proofs.Run.Ticks

/-!
# The slots of a fault

What is kept of the fault in flight are three slots: the fault, the phase in which it was raised,
and its mark (`Slots`). Each event of a trace fills, marks or empties them on its own
(`Event.follow`), and a fault that leaves is reported under the phase that is in the slot by then. A
trace is in order (`Accounted`) if in every call the state agrees with the slots, and if a fault
leaves only with all three slots telling of it. Every run is in order and leaves the slots empty
(`accounted_run`).

In a trace that is in order, the slots hold the last fault that was raised, unless it has left since
(`Accounted.stands`), so every fault that is raised leaves or is replaced by a later one
(`Accounted.perm`).
-/

set_option autoImplicit false

namespace RequestPipeline

/-- The fault in flight, where it was raised, and whether it is marked as handled. -/
structure Slots where
  fault : Option Fault := none
  phase : Option Phase := none
  handled : Bool := false

namespace Slots

/-- A fault that is raised goes over what the slots hold. -/
def put (ph : Phase) (f : Fault) (_ : Slots) : Slots := ⟨some f, some ph, false⟩

/-- A filter marks the fault in the slots, if there is one. -/
def mark (x : Slots) : Slots := if x.fault.isSome then { x with handled := true } else x

/-- A fault that is marked is dropped. -/
def drop (x : Slots) : Slots := if x.fault.isSome && x.handled then {} else x

/-- The fault is taken out with its phase; the mark stays. -/
def take (x : Slots) : Slots :=
  if x.fault.isSome then { x with fault := none, phase := none } else x

/-- The phase under which the fault is reported: that of the action, should the slot be empty. -/
def label (x : Slots) : Phase := x.phase.getD .action

/-- The fault with the phase under which it is reported. -/
def held (x : Slots) : Option (Phase × Fault) := x.fault.map fun f => (x.label, f)

@[simp] theorem held_mark (x : Slots) : x.mark.held = x.held := by
  unfold mark
  split <;> rfl

end Slots

/-- The slots that a state fills. -/
def State.slots (s : State) : Slots :=
  ⟨s.pending.map Pending.fault, s.pending.map Pending.phase, s.handled⟩

/-- A filter asks for the fault to be marked. Setting a result does so where faults are shown to
filters. -/
def Callback.asksMark (cb : Callback) (r : Reply) : Bool :=
  (cb.seesFault && r.handled) || (cb == .exception && r.result.isSome)

/-- What an event does to the slots. -/
def Event.follow (x : Slots) : Event → Slots
  | .raised ph f => x.put ph f
  | .called cb _ _ _ reply => if cb.asksMark reply then x.mark else x
  | .settled .. => x.drop
  | .abandoned .. => x.take
  | _ => x

/-- The slots behind a trace. -/
def slots (es : List Event) : Slots := es.foldl Event.follow {}

/-! ## What leaves, and what is replaced -/

/-- A fault that leaves a run, with where it was raised and whether it was handled. -/
structure Departure where
  phase : Phase
  fault : Fault
  handled : Bool

/-- What leaves a run at an event. -/
def Event.departed? : Event → Option Departure
  | .settled phase fault => some ⟨phase, fault, true⟩
  | .abandoned phase fault => some ⟨phase, fault, false⟩
  | _ => none

/-- What leaves a run along a trace, in order. -/
def departures (es : List Event) : List Departure := es.filterMap Event.departed?

/-- The faults that later ones go over, starting with slots. -/
def replacedFrom : Slots → List Event → List (Phase × Fault)
  | _, [] => []
  | x, e :: es => (if e.raised?.isSome then x.held.toList else []) ++ replacedFrom (e.follow x) es

/-- The faults that later ones go over. -/
def replaced (es : List Event) : List (Phase × Fault) := replacedFrom {} es

/-- The last fault that was raised, unless a fault has left since. -/
def Event.carry : Option (Phase × Fault) → Event → Option (Phase × Fault) :=
  latest Event.raised? fun e => e.departed?.isSome

/-- A fault stands in a trace: it is raised, and behind it no fault is raised and none leaves. -/
def Stands (es : List Event) (ph : Phase) (f : Fault) : Prop :=
  ∃ es₁ es₂, es = es₁ ++ .raised ph f :: es₂ ∧ ∀ e ∈ es₂, e.raised? = none ∧ e.departed? = none

/-- An event is in order if the state that it shows agrees with the slots, and if all the slots tell
of the fault that leaves in it. -/
structure Event.InOrder (x : Slots) (e : Event) : Prop where
  shown : ∀ c, e.entry? = some c → c.before.slots = x
  left : ∀ d, e.departed? = some d → x = ⟨some d.fault, some d.phase, d.handled⟩

/-- A trace is in order, starting with slots. -/
def Accounted : Slots → List Event → Prop
  | _, [] => True
  | x, e :: es => e.InOrder x ∧ Accounted (e.follow x) es

theorem departures_cons (e : Event) (es : List Event) :
    departures (e :: es) = e.departed?.toList ++ departures es := by
  cases h : e.departed? <;> simp [departures, h]

@[simp] theorem departures_nil : departures [] = [] := rfl

@[simp] theorem departures_append (es fs : List Event) :
    departures (es ++ fs) = departures es ++ departures fs := by
  simp [departures]

section Accounts

variable {x : Slots} {e : Event} {es fs : List Event}

theorem accounted_append :
    Accounted x (es ++ fs) ↔ Accounted x es ∧ Accounted (es.foldl Event.follow x) fs := by
  induction es generalizing x with
  | nil => simp [Accounted]
  | cons e es ih => simp [Accounted, ih, and_assoc]

/-- What is said of an event in a trace that is in order. -/
theorem Accounted.inOrder (h : Accounted {} (es ++ e :: fs)) : e.InOrder (slots es) :=
  (accounted_append.mp h).2.1

/-- An event that calls no filter, and in which nothing leaves, is in order. -/
theorem Event.inOrder_of_silent (he : e.entry? = none) (hd : e.departed? = none) : e.InOrder x :=
  ⟨by simp [he], by simp [hd]⟩

/-- At an event that is in order, the slots are filled by a fault that is raised, and emptied by one
that leaves. -/
theorem Event.InOrder.held (h : e.InOrder x) : (e.follow x).held = e.carry x.held := by
  cases e with
  | called cb index listing before reply =>
    have hmark : (Event.follow x (.called cb index listing before reply)).held = x.held := by
      simp only [Event.follow]
      split <;> simp
    rw [hmark]
    rfl
  | settled ph f =>
    obtain rfl := h.left ⟨ph, f, true⟩ rfl
    rfl
  | abandoned ph f =>
    obtain rfl := h.left ⟨ph, f, false⟩ rfl
    rfl
  | _ => rfl

theorem Accounted.held (h : Accounted x es) :
    (es.foldl Event.follow x).held = es.foldl Event.carry x.held := by
  induction es generalizing x with
  | nil => rfl
  | cons e es ih => rw [List.foldl_cons, List.foldl_cons, ih h.2, h.1.held]

/-- A fault that is in the slots stands in the trace. -/
theorem Accounted.stands (h : Accounted {} es) {ph : Phase} {f : Fault}
    (hheld : (slots es).held = some (ph, f)) : Stands es ph f := by
  have hcarry : es.foldl Event.carry none = some (ph, f) := h.held.symm.trans hheld
  obtain ⟨es₁, e, es₂, rfl, he, hes₂⟩ := foldl_latest_eq_some_iff.mp hcarry
  obtain rfl := Event.raised?_eq_some_iff.mp he
  refine ⟨es₁, es₂, rfl, fun e he => ?_⟩
  simpa using hes₂ e he

/-- Every fault that is in the slots or raised is replaced, leaves, or stays in the slots. -/
theorem Accounted.perm (h : Accounted x es) :
    (x.held.toList ++ faults es).Perm
      (replacedFrom x es ++ ((departures es).map fun d => (d.phase, d.fault)) ++
        (es.foldl Event.follow x).held.toList) := by
  -- what the slots hold at the start counts as raised, so the induction can move them on
  induction es generalizing x with
  | nil => simp [replacedFrom, departures]
  | cons e es ih =>
    obtain ⟨horder, hes⟩ := h
    have hperm := ih hes
    have hheld := horder.held
    rw [faults_cons, departures_cons, replacedFrom, List.foldl_cons]
    cases hr : e.raised? with
    | some y =>
      -- what was in the slots is replaced
      have hd : e.departed? = none := by cases e <;> simp_all [Event.departed?, Event.raised?]
      have hnew : (e.follow x).held = some y := by simp [hheld, Event.carry, latest, hr]
      rw [hnew] at hperm
      simpa [hd] using hperm.append_left x.held.toList
    | none =>
      cases hd : e.departed? with
      | some d =>
        -- what was in the slots leaves
        have hold : x.held = some (d.phase, d.fault) := by rw [horder.left d hd]; rfl
        have hnew : (e.follow x).held = none := by simp [hheld, Event.carry, latest, hr, hd]
        rw [hnew] at hperm
        rw [hold]
        simp only [Option.toList_none, List.nil_append, List.append_assoc] at hperm
        simpa using (hperm.cons (d.phase, d.fault)).trans List.perm_middle.symm
      | none =>
        have hsame : (e.follow x).held = x.held := by
          rw [hheld]
          exact latest_of_silent hr (by simp [hd]) _
        rw [hsame] at hperm
        simpa using hperm

end Accounts

/-! ## Runs are in order -/

/-- The effect of a reply on the state is its effect on the slots. -/
theorem State.slots_grant (s : State) (cb : Callback) (r : Reply) :
    (s.grant cb r).slots = if cb.asksMark r then s.slots.mark else s.slots := by
  cases hp : s.pending with
  | none => simp [slots, handled, grant, hp, Slots.mark]
  | some p =>
    have hgrant : (p.grant cb r).handled = (p.handled || cb.asksMark r) := by
      rw [Callback.asksMark, ← Bool.or_assoc]
      rfl
    cases hm : cb.asksMark r <;> simp [slots, handled, grant, hp, Slots.mark, hgrant, hm]

theorem Entry.slots_granted (e : Entry) : e.granted.slots = e.event.follow e.before.slots :=
  e.before.slots_grant e.callback e.reply

section Ticks

variable {ends : Ends} {ps : List Place} {s t : State} {e : Event} {es : List Event}

/-- The event of a tick is in order, and the state changes as the slots do. -/
theorem Tick.inOrder (h : Tick ends ps s e t) : e.InOrder s.slots ∧ t.slots = e.follow s.slots := by
  cases h with
  | @call p cb b s =>
    refine ⟨⟨fun c hc => ?_, by simp [Entry.event, Event.departed?]⟩, Entry.slots_granted _⟩
    -- the filter is called in the state as it is, except that it is known who is called
    obtain rfl : p.entry ps cb b s = c := Option.some.inj hc
    rfl
  | @settle s p hp hh =>
    have hslots : s.slots = ⟨some p.fault, some p.phase, true⟩ := by
      simp [State.slots, State.handled, hp, hh]
    rw [hslots]
    exact ⟨⟨by simp [Event.entry?], by simp [Event.departed?]⟩, rfl⟩
  | _ => exact ⟨Event.inOrder_of_silent rfl rfl, rfl⟩

theorem Ticks.accounted (h : Ticks ends ps s es t) :
    Accounted s.slots es ∧ t.slots = es.foldl Event.follow s.slots := by
  induction h with
  | nil => exact ⟨trivial, rfl⟩
  | cons tick _ ih =>
    obtain ⟨horder, hslots⟩ := tick.inOrder
    rw [hslots] at ih
    exact ⟨⟨horder, ih.1⟩, ih.2⟩

end Ticks

theorem accounted_proceed (ends : Ends) (ps : List Place) {s : State} (hs : s.Open) :
    Accounted {} (ends.proceed ps s).events ∧
      (ends.proceed ps s).state.slots = slots (ends.proceed ps s).events := by
  have hempty : s.slots = {} := by simp [State.slots, State.handled, hs.free]
  rw [slots, ← hempty]
  exact (ticks_proceed ends ps hs).accounted

/-- A fault that is not marked leaves the slots empty when it is abandoned. -/
theorem State.accounted_abandon {s : State} (h : s.handled = false) :
    Accounted s.slots s.abandon ∧ s.abandon.foldl Event.follow s.slots = {} := by
  unfold abandon slots
  rw [h]
  cases s.pending with
  | none => exact ⟨trivial, rfl⟩
  | some p => exact ⟨⟨⟨by simp [Event.entry?], by simp [Event.departed?]⟩, trivial⟩, rfl⟩

/-- A run is in order, and its slots are empty in the end. -/
theorem accounted_run (ends : Ends) (ps : List Place) (call : Call) :
    Accounted {} (run ends ps (.initial call)).events ∧
      slots (run ends ps (.initial call)).events = {} := by
  obtain ⟨horder, hslots⟩ := accounted_proceed ends ps (State.begun_open call)
  have hunmarked : (ends.proceed ps (.begun call)).state.handled = false :=
    handled_proceed ends (State.begun_open call)
  obtain ⟨habandon, hempty⟩ := State.accounted_abandon hunmarked
  rw [events_run_eq]
  generalize ends.proceed ps (.begun call) = t at horder hslots habandon hempty
  -- what is abandoned starts with the slots that the way to the last state leaves
  rw [hslots] at habandon hempty
  constructor
  · refine ⟨Event.inOrder_of_silent rfl rfl, ?_⟩
    rw [accounted_append, accounted_append]
    exact ⟨⟨horder, habandon⟩, Event.inOrder_of_silent rfl rfl, trivial⟩
  · have hopened : (Event.opened call.id call.action.displayName ps.length).follow {} = {} := rfl
    rw [slots, List.foldl_cons, hopened, List.foldl_append, List.foldl_append]
    rw [slots] at hempty
    rw [hempty]
    rfl

end RequestPipeline
