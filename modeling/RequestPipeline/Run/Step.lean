import RequestPipeline.Filter.Plan

/-!
# Steps of a run

A step leads from a state to another and leaves events behind. Filters are called one after another,
in the order of the plan on the way in and in reverse on the way out.
-/

namespace RequestPipeline

/-- What a step leads to. -/
structure Step where
  state : State
  events : List Event := []

namespace Step

/-- The step that does nothing. -/
def stay (s : State) : Step := ⟨s, []⟩

/-- One step and then another. -/
def andThen (t : Step) (next : State → Step) : Step :=
  let u := next t.state
  ⟨u.state, t.events ++ u.events⟩

@[simp] theorem andThen_state (t : Step) (next : State → Step) :
    (t.andThen next).state = (next t.state).state := rfl

@[simp] theorem andThen_events (t : Step) (next : State → Step) :
    (t.andThen next).events = t.events ++ (next t.state).events := rfl

@[simp] theorem stay_state (s : State) : (stay s).state = s := rfl

@[simp] theorem stay_events (s : State) : (stay s).events = [] := rfl

theorem stay_andThen (s : State) (next : State → Step) : (stay s).andThen next = next s := by
  simp [stay, andThen]

theorem andThen_stay (t : Step) : t.andThen stay = t := by
  simp [stay, andThen]

theorem andThen_assoc (t : Step) (f g : State → Step) :
    (t.andThen f).andThen g = t.andThen fun s => (f s).andThen g := by
  simp [andThen, List.append_assoc]

/-- A fault is raised. -/
def raise (fault : Fault) (phase : Phase) (s : State) : Step :=
  ⟨s.raise fault phase, [.raised phase fault]⟩

/-- Drops the fault in flight if it is marked as handled. -/
def settle (s : State) : Step :=
  match s.pending with
  | some p =>
    if p.handled then
      ⟨{ s with pending := none, recovered := true }, [.settled p.phase p.fault]⟩
    else stay s
  | none => stay s

@[simp] theorem raise_state (fault : Fault) (phase : Phase) (s : State) :
    (raise fault phase s).state = s.raise fault phase := rfl

@[simp] theorem raise_events (fault : Fault) (phase : Phase) (s : State) :
    (raise fault phase s).events = [.raised phase fault] := rfl

/-- Without a fault that is marked as handled there is nothing to settle. -/
theorem settle_of_not_handled {s : State} (h : s.handled = false) : settle s = stay s := by
  unfold settle
  cases hp : s.pending with
  | none => rfl
  | some p => simp_all [State.handled]

/-- A fault that is marked as handled is dropped, and the run counts as recovered. -/
theorem settle_of_handled {s : State} {p : Pending} (hp : s.pending = some p)
    (hh : p.handled = true) :
    settle s = ⟨{ s with pending := none, recovered := true }, [.settled p.phase p.fault]⟩ := by
  simp [settle, hp, hh]

/-- What is in flight after settling is not marked as handled. -/
theorem handled_settle (s : State) : (settle s).state.handled = false := by
  unfold settle
  cases hp : s.pending with
  | none => simp [State.handled, hp]
  | some p =>
    cases hh : p.handled with
    | false => simp [State.handled, hp, hh]
    | true => simp [State.handled, hh]

end Step

/-- A filter that has been called: the step up to its return, and the fault that it raises. -/
structure Visit where
  step : Step
  fault : Option Fault

/-- Calls a filter in its place. -/
def Place.visit (ps : List Place) (callback : Callback) (p : Place) (behaviour : Behaviour)
    (s : State) : Visit :=
  let entered := { s with current := some p.index }
  -- the behaviour sees the state on entry; its reply takes effect as far as the moment grants
  let reply := behaviour ⟨Place.listings ps, entered⟩
  { step :=
      ⟨{ entered.grant callback reply with current := none },
        [.called callback p.index p.registration.listing entered reply]⟩
    fault := reply.fault }

/-- A phase that surrounds others. -/
inductive Layer where
  | resource
  | action
  | result
  deriving DecidableEq, Repr

namespace Layer

/-- The moment before the inner phases. -/
def before : Layer → Callback
  | .resource => .resourceBefore
  | .action => .actionBefore
  | .result => .resultBefore

/-- The moment after the inner phases. -/
def after : Layer → Callback
  | .resource => .resourceAfter
  | .action => .actionAfter
  | .result => .resultAfter

/-- Where a fault counts as raised. -/
def phase : Layer → Phase
  | .resource => .resource
  | .action => .action
  | .result => .result

/-- How a filter behaves in the phase. -/
def around? : Layer → Filter → Option Around
  | .resource, f => f.resource
  | .action, f => f.action
  | .result, f => f.result

/-- Whether the filter just called ended the way inwards. -/
def stopped : Layer → State → Bool
  | .resource, s => s.canceled
  | .action, s => s.canceled
  | .result, s => s.suppressed

/-- The filters that take part, in the order of the plan. -/
def members (l : Layer) (ps : List Place) : List (Place × Around) :=
  ps.filterMap fun p => (l.around? p.filter).map fun a => (p, a)

end Layer

/-- The way inwards through a phase. -/
structure Descent where
  step : Step
  /-- The filters that returned without a fault, the innermost first. -/
  entered : List (Place × Around)
  /-- Nothing ended the way inwards. -/
  proceeds : Bool

/-- Calls filters on the way in, until one raises a fault or ends the way. -/
def Layer.descend (l : Layer) (ps : List Place) : List (Place × Around) → State → Descent
  | [], s => ⟨.stay s, [], true⟩
  | (p, a) :: rest, s =>
    let v := p.visit ps l.before a.before s
    match v.fault with
    -- a filter that raises a fault counts as not entered
    | some fault => ⟨v.step.andThen (.raise fault l.phase), [], false⟩
    | none =>
      -- the filter that ends the way has returned, so it is left again
      if l.stopped v.step.state then
        ⟨v.step.andThen fun s => ⟨s, [.shortCircuited p.name l.phase]⟩, [(p, a)], false⟩
      else
        let d := l.descend ps rest v.step.state
        ⟨⟨d.step.state, v.step.events ++ d.step.events⟩, d.entered ++ [(p, a)], d.proceeds⟩

/-- Calls filters on the way out; a fault keeps none of the others from being called. -/
def Layer.ascend (l : Layer) (ps : List Place) : List (Place × Around) → State → Step
  | [], s => .stay s
  | (p, a) :: rest, s =>
    let v := p.visit ps l.after a.after s
    match v.fault with
    -- the new fault is in flight while the outer filters are left
    | some fault => (v.step.andThen (.raise fault l.phase)).andThen (l.ascend ps rest)
    | none => v.step.andThen (l.ascend ps rest)

/-- The verdict on a request. -/
inductive Verdict where
  | admitted
  | refused
  | faulted
  deriving DecidableEq, Repr

/-- The step through authorization and its verdict. -/
structure Admission where
  step : Step
  verdict : Verdict

/-- The filters that take part in authorization. -/
def Place.authorizers (ps : List Place) : List (Place × Behaviour) :=
  ps.filterMap fun p => p.filter.authorization.map fun b => (p, b)

/-- Asks filters for their authorization, until one raises a fault or sets a result. -/
def authorize (ps : List Place) : List (Place × Behaviour) → State → Admission
  | [], s => ⟨.stay s, .admitted⟩
  | (p, b) :: rest, s =>
    let v := p.visit ps .authorization b s
    match v.fault with
    | some fault => ⟨v.step.andThen (.raise fault .authorization), .faulted⟩
    | none =>
      if v.step.state.canceled then
        ⟨v.step.andThen fun s => ⟨s, [.shortCircuited p.name .authorization]⟩, .refused⟩
      else
        let rest := authorize ps rest v.step.state
        ⟨⟨rest.step.state, v.step.events ++ rest.step.events⟩, rest.verdict⟩

/-- The filters that see faults, the innermost first. -/
def Place.handlers (ps : List Place) : List (Place × Behaviour) :=
  (ps.filterMap fun p => p.filter.exception.map fun b => (p, b)).reverse

/-- Shows the fault in flight to filters, until one raises another. -/
def showFault (ps : List Place) : List (Place × Behaviour) → State → Step
  | [], s => .stay s
  | (p, b) :: rest, s =>
    let v := p.visit ps .exception b s
    match v.fault with
    | some fault => v.step.andThen (.raise fault .exception)
    | none => v.step.andThen (showFault ps rest)

end RequestPipeline
