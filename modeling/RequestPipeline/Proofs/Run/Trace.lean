import RequestPipeline.Run.Execution

/-!
# What a trace shows

The events of a run are its trace. An entry is a filter that was called, as the trace shows it: at
which moment, in which seat, in what state of the run, and how it replied. Everything that is said
of runs from here on is said of the entries of their traces (`entries`), of the calls with which the
action was invoked, of the faults that were raised and of the results that were rendered.
-/

set_option autoImplicit false

namespace RequestPipeline

/-! ## Entries -/

/-- A filter that was called. -/
structure Entry where
  callback : Callback
  index : Nat
  listing : Listing
  /-- The state in which the filter was called. -/
  before : State
  reply : Reply

namespace Entry

/-- Where the filter sits: its position in the plan and what is known of it. -/
def seat (e : Entry) : Nat × Listing := (e.index, e.listing)

/-- The filter raised no fault. -/
def returned (e : Entry) : Bool := e.reply.fault.isNone

/-- The reply asks to end the way inwards, which only some moments grant. -/
def halts (e : Entry) : Bool :=
  (e.callback.endsWithResult && e.reply.result.isSome) ||
    (e.callback.changesResult && e.reply.suppress)

/-- The filter let the request pass. -/
def passed (e : Entry) : Bool := e.returned && !e.halts

/-- The filter marked a fault in flight as handled; setting a result does so where faults are
shown to filters. -/
def marks (e : Entry) : Bool :=
  e.before.pending.isSome &&
    ((e.callback.seesFault && e.reply.handled) ||
      (e.callback == .exception && e.reply.result.isSome))

/-- The entry as an event. -/
def event (e : Entry) : Event := .called e.callback e.index e.listing e.before e.reply

end Entry

/-- The entry that an event shows. -/
def Event.entry? : Event → Option Entry
  | .called callback index listing before reply => some ⟨callback, index, listing, before, reply⟩
  | _ => none

/-- The entries of a trace at one moment, in order. -/
def entries (cb : Callback) (es : List Event) : List Entry :=
  (es.filterMap Event.entry?).filter fun e => e.callback == cb

@[simp] theorem entries_nil (cb : Callback) : entries cb [] = [] := rfl

@[simp] theorem entries_append (cb : Callback) (es fs : List Event) :
    entries cb (es ++ fs) = entries cb es ++ entries cb fs := by
  simp [entries]

@[simp] theorem entries_event_cons (cb : Callback) (e : Entry) (es : List Event) :
    entries cb (e.event :: es) = (if e.callback = cb then [e] else []) ++ entries cb es := by
  obtain ⟨callback, index, listing, before, reply⟩ := e
  by_cases h : callback = cb <;> simp [entries, Entry.event, Event.entry?, h]

/-- An event that calls no filter has no entry. -/
theorem entries_cons_of_none (cb : Callback) {e : Event} (h : e.entry? = none) (es : List Event) :
    entries cb (e :: es) = entries cb es := by
  simp [entries, h]

theorem mem_entries {cb : Callback} {es : List Event} {e : Entry} :
    e ∈ entries cb es ↔ e.event ∈ es ∧ e.callback = cb := by
  simp only [entries, List.mem_filter, List.mem_filterMap, beq_iff_eq]
  constructor
  · rintro ⟨⟨x, hx, hxe⟩, hcb⟩
    refine ⟨?_, hcb⟩
    -- only the event of a call shows an entry, and it shows all of it
    cases x with
    | called =>
      simp only [Event.entry?, Option.some.injEq] at hxe
      subst hxe
      exact hx
    | _ => simp [Event.entry?] at hxe
  · rintro ⟨hmem, hcb⟩
    exact ⟨⟨_, hmem, rfl⟩, hcb⟩

/-- A trace is split at an entry that it shows. -/
theorem exists_split_of_any {cb : Callback} {es : List Event} {q : Entry → Bool}
    (h : (entries cb es).any q = true) :
    ∃ es₁ e es₂, es = es₁ ++ Entry.event e :: es₂ ∧ e.callback = cb ∧ q e = true := by
  obtain ⟨e, he, hq⟩ := List.any_eq_true.mp h
  obtain ⟨hmem, hcb⟩ := mem_entries.mp he
  obtain ⟨es₁, es₂, rfl⟩ := List.append_of_mem hmem
  exact ⟨es₁, e, es₂, rfl, hcb, hq⟩

/-! ## Filters that take part -/

/-- Where a filter sits. -/
def Place.seat (p : Place) : Nat × Listing := (p.index, p.registration.listing)

/-- How a filter behaves at a moment. -/
def Callback.behaviour? : Callback → Filter → Option Behaviour
  | .authorization, f => f.authorization
  | .resourceBefore, f => f.resource.map Around.before
  | .resourceAfter, f => f.resource.map Around.after
  | .actionBefore, f => f.action.map Around.before
  | .actionAfter, f => f.action.map Around.after
  | .exception, f => f.exception
  | .resultBefore, f => f.result.map Around.before
  | .resultAfter, f => f.result.map Around.after

theorem Callback.behaviour?_isSome (cb : Callback) (f : Filter) :
    (cb.behaviour? f).isSome = f.capabilities.contains cb.capability := by
  cases cb <;> simp [behaviour?, Filter.capabilities, Capabilities.contains, capability]

/-- The filters that take part at a moment, in the order of the plan. -/
def Callback.members (cb : Callback) (ps : List Place) : List (Place × Behaviour) :=
  ps.filterMap fun p => (cb.behaviour? p.filter).map fun b => (p, b)

theorem Callback.mem_members {cb : Callback} {ps : List Place} {m : Place × Behaviour} :
    m ∈ cb.members ps ↔ m.1 ∈ ps ∧ cb.behaviour? m.1.filter = some m.2 := by
  obtain ⟨p, b⟩ := m
  simp only [members, List.mem_filterMap, Option.map_eq_some_iff, Prod.mk.injEq]
  constructor
  · rintro ⟨q, hq, b', hb, rfl, rfl⟩
    exact ⟨hq, hb⟩
  · rintro ⟨hp, hb⟩
    exact ⟨p, hp, b, hb, rfl, rfl⟩

/-- The seats of the filters that take part at a moment, in the order of the plan. -/
def Callback.seats (cb : Callback) (ps : List Place) : List (Nat × Listing) :=
  (ps.filter fun p => p.filter.capabilities.contains cb.capability).map Place.seat

theorem Callback.map_seat_members (cb : Callback) (ps : List Place) :
    (cb.members ps).map (fun m => m.1.seat) = cb.seats ps := by
  induction ps with
  | nil => rfl
  | cons p ps ih =>
    have hp := cb.behaviour?_isSome p.filter
    simp only [members, seats, List.filterMap_cons, List.filter_cons] at ih ⊢
    cases hb : cb.behaviour? p.filter <;> simp_all

/-- The positions of the seats are those that the plan gives for the capability. -/
theorem Callback.map_fst_seats (cb : Callback) (ps : List Place) :
    (cb.seats ps).map Prod.fst = Place.indices ps cb.capability := by
  simp [seats, Place.indices, Place.seat, Place.agrees]

/-! ## Faults and results -/

/-- The call with which an event invokes the action. -/
def Event.invoked? : Event → Option Call
  | .invoked c => some c
  | _ => none

/-- The answer that an event renders. -/
def Event.rendered? : Event → Option Answer
  | .rendered a => some a
  | _ => none

/-- The fault that an event raises. -/
def Event.raised? : Event → Option (Phase × Fault)
  | .raised phase fault => some (phase, fault)
  | _ => none

/-- An event in which a filter marks the fault in flight as handled. -/
def Event.marks (e : Event) : Bool := e.entry?.any Entry.marks

/-- The calls with which the action is invoked, in order. -/
def invocations (es : List Event) : List Call := es.filterMap Event.invoked?

/-- The answers that are rendered, in order. -/
def renderings (es : List Event) : List Answer := es.filterMap Event.rendered?

/-- The faults that are raised, in order. -/
def faults (es : List Event) : List (Phase × Fault) := es.filterMap Event.raised?

theorem invocations_cons (e : Event) (es : List Event) :
    invocations (e :: es) = e.invoked?.toList ++ invocations es := by
  cases h : e.invoked? <;> simp [invocations, h]

theorem renderings_cons (e : Event) (es : List Event) :
    renderings (e :: es) = e.rendered?.toList ++ renderings es := by
  cases h : e.rendered? <;> simp [renderings, h]

theorem faults_cons (e : Event) (es : List Event) :
    faults (e :: es) = e.raised?.toList ++ faults es := by
  cases h : e.raised? <;> simp [faults, h]

theorem mem_renderings {a : Answer} {es : List Event} :
    a ∈ renderings es ↔ .rendered a ∈ es := by
  simp only [renderings, List.mem_filterMap]
  constructor
  · rintro ⟨x, hx, hxa⟩
    cases x with
    | rendered b => rwa [← Option.some.inj hxa]
    | _ => simp [Event.rendered?] at hxa
  · exact fun h => ⟨_, h, rfl⟩

@[simp] theorem invocations_nil : invocations [] = [] := rfl

@[simp] theorem renderings_nil : renderings [] = [] := rfl

@[simp] theorem faults_nil : faults [] = [] := rfl

@[simp] theorem invocations_append (es fs : List Event) :
    invocations (es ++ fs) = invocations es ++ invocations fs := by
  simp [invocations]

@[simp] theorem renderings_append (es fs : List Event) :
    renderings (es ++ fs) = renderings es ++ renderings fs := by
  simp [renderings]

@[simp] theorem faults_append (es fs : List Event) :
    faults (es ++ fs) = faults es ++ faults fs := by
  simp [faults]

/-- The events behind a run: a fault that is left, and its end. -/
def Event.isClosing : Event → Bool
  | .abandoned .. | .finished .. => true
  | _ => false

/-- The events around a run: its beginning and those behind it. -/
def Event.isBorder : Event → Bool
  | .opened .. => true
  | e => e.isClosing

theorem Event.isBorder_of_isClosing {e : Event} (h : e.isClosing = true) : e.isBorder = true := by
  cases e <;> simp_all [isBorder, isClosing]

end RequestPipeline
