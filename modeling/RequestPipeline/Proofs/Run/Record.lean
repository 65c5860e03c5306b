import RequestPipeline.Proofs.Filter.Authority
import RequestPipeline.Proofs.Run.Contexts
import RequestPipeline.Proofs.Run.Slots

/-!
# The record of a run

What a run keeps is written slot by slot: the result, the fault in flight with its phase and its
mark, four flags, and the filter that is being called (`Record`). An event of a run is one stroke or
several, each of which writes into the record (`Stroke.write`): a filter is entered, does one thing
after another as far as the moment grants it, and is left; a fault is raised, settled or abandoned;
the action is invoked, and a result is rendered. A scene is what can be seen between two strokes.

Strokes that are due keep a scene in order (`Scene.InOrder.next`), and no stroke takes a flag back
(`Stroke.ascends`). The strokes of every run are due and lead to the record of its last state
(`Context.Reached.plays`), so every scene of a run is in order (`run_keeps_record`).
-/

set_option autoImplicit false

namespace RequestPipeline

/-! ## Records -/

/-- What a run keeps, slot by slot. -/
structure Record where
  call : Call
  result : Option Answer := none
  slots : Slots := {}
  canceled : Bool := false
  suppressed : Bool := false
  rendered : Bool := false
  recovered : Bool := false
  executed : Bool := false
  current : Option Nat := none

/-- The record that a state stands for. -/
def State.toRecord (s : State) : Record where
  call := s.call
  result := s.result
  slots := s.slots
  canceled := s.canceled
  suppressed := s.suppressed
  rendered := s.rendered
  recovered := s.recovered
  executed := s.executed
  current := s.current

/-- Something that a filter does to a run while it is called. -/
inductive Operation where
  | setResult (answer : Answer)
  | markHandled
  | suppress
  | setArguments (arguments : Arguments)
  | cancelRequest

/-- What a filter does to the record, as far as the moment grants it. -/
def Record.operate (cb : Callback) (r : Record) : Operation → Record
  | .setResult answer =>
    { r with
      result := some answer
      canceled := r.canceled || cb.endsWithResult
      -- where faults are shown to filters, an answer marks the fault as well
      slots := if cb = .exception then r.slots.mark else r.slots }
  | .markHandled => { r with slots := if cb.seesFault then r.slots.mark else r.slots }
  | .suppress => { r with suppressed := r.suppressed || cb.changesResult }
  | .setArguments arguments =>
    { r with
      call :=
        { r.call with arguments := if cb.changesArguments then arguments else r.call.arguments } }
  | .cancelRequest => { r with call := r.call.cancel }

/-- What a reply does, one thing after another. -/
def Reply.operations (r : Reply) : List Operation :=
  (r.result.map .setResult).toList ++ (if r.handled then [.markHandled] else []) ++
    (if r.suppress then [.suppress] else []) ++ (r.arguments.map .setArguments).toList ++
    (if r.cancel then [.cancelRequest] else [])

/-! ## Strokes -/

/-- Something that is written into a record. -/
inductive Stroke where
  | opening
  | enter (cb : Callback) (index : Nat)
  | does (cb : Callback) (operation : Operation)
  | leave
  | raise (ph : Phase) (f : Fault)
  | invoke
  | render
  | rendered
  | settle
  | abandon

/-- What a stroke writes. -/
def Stroke.write (ends : Ends) (r : Record) : Stroke → Record
  | .opening => { r with executed := true }
  | .enter _ index => { r with current := some index }
  | .does cb operation => r.operate cb operation
  | .leave => { r with current := none }
  | .raise ph f => { r with slots := r.slots.put ph f }
  | .invoke =>
    { r with
      call := ends.callBehind r.call
      result := (ends.invocation r.call).toOption.or r.result }
  -- the flag is set, and a missing result filled in, before the result is handed over
  | .render => { r with rendered := true, result := some (r.result.getD .empty) }
  | .rendered =>
    { r with
      call :=
        if (ends.render r.call (r.result.getD .empty)).cancel then r.call.cancel else r.call }
  | .settle =>
    { r with
      slots := r.slots.drop
      recovered := r.recovered || (r.slots.fault.isSome && r.slots.handled) }
  | .abandon => { r with slots := r.slots.take }

/-- The strokes of an event. -/
def Event.strokes : Event → List Stroke
  | .opened .. => [.opening]
  | .called cb index _ _ reply =>
    .enter cb index :: (reply.operations.map (.does cb) ++ [.leave])
  | .raised ph f => [.raise ph f]
  | .invoked _ => [.invoke]
  | .rendered _ => [.render, .rendered]
  | .settled .. => [.settle]
  | .abandoned .. => [.abandon]
  | _ => []

/-- What there is to see of a run: the callback that is running and the position of its filter, if
there is one, and the record. -/
structure Scene where
  running : Option (Callback × Nat)
  record : Record

namespace Scene

/-- No callback is running. -/
def still (r : Record) : Scene := ⟨none, r⟩

/-- The scene behind a stroke. -/
def next (ends : Ends) (x : Scene) (k : Stroke) : Scene where
  running :=
    match k with
    | .enter cb index => some (cb, index)
    | .leave => none
    | _ => x.running
  record := k.write ends x.record

end Scene

/-- The scenes around strokes, from the one in front of them to the one behind them. -/
def scenes (ends : Ends) (x : Scene) : List Stroke → List Scene
  | [] => [x]
  | k :: ks => x :: scenes ends (x.next ends k) ks

/-! ## What holds of every scene -/

/-- Whether flags are set that were set before. -/
structure Record.Ascends (r r' : Record) : Prop where
  canceled : r.canceled = true → r'.canceled = true
  suppressed : r.suppressed = true → r'.suppressed = true
  rendered : r.rendered = true → r'.rendered = true
  recovered : r.recovered = true → r'.recovered = true

/-- What the slots of a fault have to do with each other. -/
structure Slots.Sound (x : Slots) : Prop where
  /-- Only a fault in flight is marked as handled. -/
  marked : x.handled = true → x.fault.isSome = true
  /-- A phase is kept exactly of a fault in flight. -/
  phased : x.phase.isSome = true ↔ x.fault.isSome = true

/-- What the slots of a record have to do with each other. -/
structure Record.Sound (r : Record) : Prop where
  slots : r.slots.Sound
  /-- A result is rendered, or kept from being rendered, or neither. -/
  exclusive : ¬ (r.rendered = true ∧ r.suppressed = true)

/-- The filter in a position can be called: its registration lists the capability, and it has it. -/
def Exposes (ps : List Place) (index : Nat) (c : Capability) : Prop :=
  ∃ p, ps[index]? = some p ∧ p.registration.listing.capabilities.contains c = true ∧
    p.filter.capabilities.contains c = true

/-- What is to be seen of a run is in order. -/
structure Scene.InOrder (ps : List Place) (x : Scene) : Prop where
  sound : x.record.Sound
  /-- The filter that the record points to is the one whose callback is running. -/
  seated : x.record.current = x.running.map Prod.snd
  exposed : ∀ cb index, x.running = some (cb, index) → Exposes ps index cb.capability
  /-- No callback that may keep the result from being rendered runs once it is rendered. -/
  due : ∀ cb index, x.running = some (cb, index) → cb.changesResult = true →
    x.record.rendered = false

/-- A stroke may be made in a scene. -/
def Stroke.Due (ps : List Place) (x : Scene) : Stroke → Prop
  | .enter cb index =>
    Exposes ps index cb.capability ∧ (cb.changesResult = true → x.record.rendered = false)
  | .does cb _ => ∃ index, x.running = some (cb, index)
  | .render => x.running = none ∧ x.record.suppressed = false
  | .abandon => x.record.slots.handled = false
  | _ => True

/-! ## Single strokes -/

namespace Slots

variable {x : Slots}

theorem mark_mark : x.mark.mark = x.mark := by
  cases h : x.fault <;> simp [mark, h]

theorem sound_put (x : Slots) (ph : Phase) (f : Fault) : (x.put ph f).Sound :=
  ⟨nofun, by simp [put]⟩

theorem sound_empty : Slots.Sound {} := ⟨nofun, by simp⟩

theorem Sound.mark (h : x.Sound) : x.mark.Sound := by
  unfold Slots.mark
  split
  · next hf => exact ⟨fun _ => hf, h.phased⟩
  · exact h

theorem Sound.drop (h : x.Sound) : x.drop.Sound := by
  unfold Slots.drop
  split
  · exact sound_empty
  · exact h

/-- A fault that is not marked can be taken out: no mark stays behind it. -/
theorem take_of_sound (h : x.Sound) (hunmarked : x.handled = false) : x.take = {} := by
  obtain ⟨fault, phase, handled⟩ := x
  obtain rfl : handled = false := hunmarked
  cases fault with
  | some f => simp [take]
  | none =>
    obtain rfl : phase = none := by simpa using h.phased
    rfl

end Slots

namespace Record

variable {r r' r'' : Record} {cb : Callback} {o : Operation}

theorem Ascends.refl (r : Record) : r.Ascends r := ⟨id, id, id, id⟩

theorem Ascends.trans (h : r.Ascends r') (h' : r'.Ascends r'') : r.Ascends r'' where
  canceled hr := h'.canceled (h.canceled hr)
  suppressed hr := h'.suppressed (h.suppressed hr)
  rendered hr := h'.rendered (h.rendered hr)
  recovered hr := h'.recovered (h.recovered hr)

theorem ascends_operate : r.Ascends (r.operate cb o) := by
  cases o <;> constructor <;> intro h <;> simp [operate, h]

@[simp] theorem operate_current : (r.operate cb o).current = r.current := by
  cases o <;> rfl

@[simp] theorem operate_rendered : (r.operate cb o).rendered = r.rendered := by
  cases o <;> rfl

/-- A filter keeps a result from being rendered only at the moment that grants it. -/
theorem operate_suppressed (h : cb.changesResult = false) :
    (r.operate cb o).suppressed = r.suppressed := by
  cases o <;> simp [operate, h]

/-- Whatever a filter does to the slots, it leaves them as they are or marks the fault. -/
theorem operate_slots (r : Record) (cb : Callback) (o : Operation) :
    (r.operate cb o).slots = r.slots ∨ (r.operate cb o).slots = r.slots.mark := by
  cases o with
  | setResult answer =>
    by_cases h : cb = .exception <;> simp [operate, h]
  | markHandled =>
    cases h : cb.seesFault <;> simp [operate, h]
  | _ => exact .inl rfl

end Record

/-- No stroke takes a flag back. -/
theorem Stroke.ascends (ends : Ends) (r : Record) (k : Stroke) : r.Ascends (k.write ends r) := by
  cases k with
  | does cb o => exact Record.ascends_operate
  | render => exact ⟨id, id, fun _ => rfl, id⟩
  | settle => exact ⟨id, id, id, fun h => by simp [write, h]⟩
  | _ => exact ⟨id, id, id, id⟩

namespace Scene

variable {ends : Ends} {ps : List Place} {x : Scene} {k : Stroke}

/-- What a filter does keeps the record sound, unless it keeps a result from being rendered that is
rendered already. -/
theorem sound_operate {r : Record} {cb : Callback} {o : Operation} (h : r.Sound)
    (due : cb.changesResult = true → r.rendered = false) : (r.operate cb o).Sound where
  slots := by
    rcases r.operate_slots cb o with hslots | hslots
    · exact hslots ▸ h.slots
    · exact hslots ▸ h.slots.mark
  exclusive := by
    rw [Record.operate_rendered]
    rintro ⟨hrendered, hsuppressed⟩
    cases hcb : cb.changesResult with
    | true => simp [due hcb] at hrendered
    | false =>
      rw [Record.operate_suppressed hcb] at hsuppressed
      exact h.exclusive ⟨hrendered, hsuppressed⟩

/-- A stroke that is due leads from a scene in order to another. -/
theorem InOrder.next (h : x.InOrder ps) (hk : k.Due ps x) : (x.next ends k).InOrder ps := by
  cases k with
  | opening => exact ⟨⟨h.sound.slots, h.sound.exclusive⟩, h.seated, h.exposed, h.due⟩
  | enter cb index =>
    obtain ⟨hexposed, hdue⟩ := hk
    refine ⟨⟨h.sound.slots, h.sound.exclusive⟩, rfl, ?_, ?_⟩
    · intro cb' index' hrunning
      obtain ⟨rfl, rfl⟩ : cb = cb' ∧ index = index' := by simpa [Scene.next] using hrunning
      exact hexposed
    · intro cb' index' hrunning hchanges
      obtain ⟨rfl, rfl⟩ : cb = cb' ∧ index = index' := by simpa [Scene.next] using hrunning
      exact hdue hchanges
  | does cb o =>
    obtain ⟨index, hrunning⟩ := hk
    refine ⟨sound_operate h.sound (h.due cb index hrunning), ?_, h.exposed, ?_⟩
    · exact Record.operate_current.trans h.seated
    · intro cb' index' hrunning' hchanges
      exact Record.operate_rendered.trans (h.due cb' index' hrunning' hchanges)
  | leave => exact ⟨⟨h.sound.slots, h.sound.exclusive⟩, rfl, nofun, nofun⟩
  | raise ph f =>
    have hslots := Slots.sound_put x.record.slots ph f
    exact ⟨⟨hslots, h.sound.exclusive⟩, h.seated, h.exposed, h.due⟩
  | invoke => exact ⟨⟨h.sound.slots, h.sound.exclusive⟩, h.seated, h.exposed, h.due⟩
  | render =>
    obtain ⟨hidle, hdue⟩ := hk
    refine ⟨⟨h.sound.slots, ?_⟩, h.seated, h.exposed, ?_⟩
    · rintro ⟨-, hsuppressed⟩
      exact absurd (hdue.symm.trans hsuppressed) Bool.false_ne_true
    · intro cb index hrunning
      exact absurd (hidle.symm.trans hrunning) (Option.some_ne_none _).symm
  | rendered => exact ⟨⟨h.sound.slots, h.sound.exclusive⟩, h.seated, h.exposed, h.due⟩
  | settle => exact ⟨⟨h.sound.slots.drop, h.sound.exclusive⟩, h.seated, h.exposed, h.due⟩
  | abandon =>
    have htake : x.record.slots.take = {} := Slots.take_of_sound h.sound.slots hk
    have hsound : x.record.slots.take.Sound := htake ▸ Slots.sound_empty
    exact ⟨⟨hsound, h.sound.exclusive⟩, h.seated, h.exposed, h.due⟩

end Scene

/-! ## Strokes one after another -/

/-- Strokes are made one after another, each of them when it is due. -/
inductive Plays (ends : Ends) (ps : List Place) : Scene → List Stroke → Scene → Prop
  | nil (x : Scene) : Plays ends ps x [] x
  | cons {x y : Scene} {k : Stroke} {ks : List Stroke} (due : k.Due ps x) :
    Plays ends ps (x.next ends k) ks y → Plays ends ps x (k :: ks) y

section Plays

variable {ends : Ends} {ps : List Place} {x y z : Scene} {k : Stroke} {ks ls : List Stroke}

theorem Plays.append (h : Plays ends ps x ks y) (h' : Plays ends ps y ls z) :
    Plays ends ps x (ks ++ ls) z := by
  induction h with
  | nil => exact h'
  | cons due _ ih => exact .cons due (ih h')

theorem mem_scenes_self : x ∈ scenes ends x ks := by
  cases ks <;> simp [scenes]

/-- The scenes around strokes and those around the strokes behind them. -/
theorem Plays.mem_scenes_append (h : Plays ends ps x ks y) {v : Scene} :
    v ∈ scenes ends x (ks ++ ls) ↔ v ∈ scenes ends x ks ∨ v ∈ scenes ends y ls := by
  induction h with
  | nil x =>
    have hself : x ∈ scenes ends x ls := mem_scenes_self
    simp only [List.nil_append, scenes, List.mem_singleton]
    exact ⟨.inr, fun h => h.elim (fun hv => hv ▸ hself) id⟩
  | cons _ _ ih => simp only [List.cons_append, scenes, List.mem_cons, ih, or_assoc]

/-- The last scene is the one to which the strokes lead. -/
theorem Plays.getLast?_scenes (h : Plays ends ps x ks y) :
    (scenes ends x ks).getLast? = some y := by
  induction h with
  | nil => rfl
  | @cons x y k ks due _ ih =>
    cases hs : scenes ends (x.next ends k) ks with
    | nil => simp [hs] at ih
    | cons v vs =>
      rw [hs] at ih
      simpa [scenes, hs] using ih

theorem Plays.mem_scenes_last (h : Plays ends ps x ks y) : y ∈ scenes ends x ks :=
  List.mem_of_getLast? h.getLast?_scenes

/-- Strokes that are due keep every scene in order. -/
theorem Plays.inOrder (h : Plays ends ps x ks y) (hx : x.InOrder ps) :
    ∀ v ∈ scenes ends x ks, v.InOrder ps := by
  induction h with
  | nil => simpa [scenes] using hx
  | cons due _ ih =>
    rw [scenes, List.forall_mem_cons]
    exact ⟨hx, ih (hx.next due)⟩

/-- No flag is taken back from one scene to a later one. -/
theorem ascends_scenes : ∀ v ∈ scenes ends x ks, x.record.Ascends v.record := by
  induction ks generalizing x with
  | nil => simp [scenes, Record.Ascends.refl]
  | cons k ks ih =>
    rw [scenes, List.forall_mem_cons]
    refine ⟨.refl _, fun v hv => ?_⟩
    exact (Stroke.ascends ends x.record k).trans (ih v hv)

theorem pairwise_scenes :
    (scenes ends x ks).Pairwise fun v w => v.record.Ascends w.record := by
  induction ks generalizing x with
  | nil => simp [scenes]
  | cons k ks ih =>
    rw [scenes, List.pairwise_cons]
    refine ⟨fun v hv => ?_, ih⟩
    exact (Stroke.ascends ends x.record k).trans (ascends_scenes v hv)

end Plays

/-! ## Calls stroke by stroke -/

section Replies

variable {ends : Ends} {ps : List Place} {cb : Callback} {index : Nat}

/-- What a filter does is due while its callback runs. -/
theorem plays_operations (r : Record) (os : List Operation) :
    Plays ends ps ⟨some (cb, index), r⟩ (os.map (.does cb))
      ⟨some (cb, index), os.foldl (Record.operate cb) r⟩ := by
  induction os generalizing r with
  | nil => exact .nil _
  | cons o os ih => exact .cons ⟨index, rfl⟩ (ih _)

/-! What each part of a reply does to the record. -/

theorem foldl_setResult (r : Record) (a : Option Answer) :
    (a.map Operation.setResult).toList.foldl (Record.operate cb) r =
      { r with
        result := a.or r.result
        canceled := r.canceled || (cb.endsWithResult && a.isSome)
        slots := if cb == .exception && a.isSome then r.slots.mark else r.slots } := by
  cases a <;> simp [Record.operate]

theorem foldl_markHandled (r : Record) (b : Bool) :
    (if b then [Operation.markHandled] else []).foldl (Record.operate cb) r =
      { r with slots := if cb.seesFault && b then r.slots.mark else r.slots } := by
  cases b <;> simp [Record.operate]

theorem foldl_suppress (r : Record) (b : Bool) :
    (if b then [Operation.suppress] else []).foldl (Record.operate cb) r =
      { r with suppressed := r.suppressed || (cb.changesResult && b) } := by
  cases b <;> simp [Record.operate]

theorem foldl_setArguments (r : Record) (a : Option Arguments) :
    (a.map Operation.setArguments).toList.foldl (Record.operate cb) r =
      { r with
        call :=
          { r.call with
            arguments :=
              if cb.changesArguments then a.getD r.call.arguments else r.call.arguments } } := by
  cases a <;> simp [Record.operate]

theorem foldl_cancelRequest (r : Record) (b : Bool) :
    (if b then [Operation.cancelRequest] else []).foldl (Record.operate cb) r =
      { r with call := { r.call with cancelled := r.call.cancelled || b } } := by
  cases b <;> simp [Record.operate, Call.cancel]

/-- What a reply does one thing after another is what is granted of it. -/
theorem record_grant (s : State) (cb : Callback) (r : Reply) :
    r.operations.foldl (Record.operate cb) s.toRecord = (s.grant cb r).toRecord := by
  -- an answer and a mark of its own mark the same fault
  have hslots : (s.grant cb r).slots =
      if cb.seesFault && r.handled then
        (if cb == .exception && r.result.isSome then s.slots.mark else s.slots).mark
      else if cb == .exception && r.result.isSome then s.slots.mark else s.slots := by
    rw [State.slots_grant, Callback.asksMark]
    cases cb.seesFault && r.handled <;> cases cb == .exception && r.result.isSome <;>
      simp [Slots.mark_mark]
  simp only [Reply.operations, List.foldl_append, foldl_setResult, foldl_markHandled,
    foldl_suppress, foldl_setArguments, foldl_cancelRequest, State.toRecord, hslots]
  rfl

end Replies

/-! ## Runs stroke by stroke -/

/-- What an event tells of is among some scenes: a filter that is called on entry and on exit, the
action while it is invoked, and a result while it is rendered. -/
def Event.SeenIn (xs : List Scene) : Event → Prop
  | .called cb index _ before reply =>
    ⟨some (cb, index), before.toRecord⟩ ∈ xs ∧
      ⟨some (cb, index), (before.grant cb reply).toRecord⟩ ∈ xs
  | .invoked call => ∃ r, .still r ∈ xs ∧ r.call = call
  | .rendered answer => ∃ r, .still r ∈ xs ∧ r.rendered = true ∧ r.result = some answer
  | _ => True

theorem Event.SeenIn.mono {xs ys : List Scene} {e : Event} (h : e.SeenIn xs)
    (hsub : ∀ x ∈ xs, x ∈ ys) : e.SeenIn ys := by
  cases e with
  | called => exact ⟨hsub _ h.1, hsub _ h.2⟩
  | invoked =>
    obtain ⟨r, hr, hcall⟩ := h
    exact ⟨r, hsub _ hr, hcall⟩
  | rendered =>
    obtain ⟨r, hr, hrest⟩ := h
    exact ⟨r, hsub _ hr, hrest⟩
  | _ => trivial

section Runs

variable {ends : Ends} {plan : Plan} {resolver : Resolver} {made : Call} {ps : List Place}
  {s t : State} {e : Event} {es : List Event}

/-- A filter of a request that takes part at a moment exposes its capability. -/
theorem exposes_of_behaviour? (hplan : (plan.instantiate resolver made).outcome = .ok ps)
    {p : Place} {cb : Callback} {b : Behaviour} (mem : p ∈ ps)
    (takes : cb.behaviour? p.filter = some b) : Exposes ps p.index cb.capability := by
  obtain ⟨l, hl⟩ := List.mem_iff_getElem?.mp mem
  obtain rfl := Plan.index_of_getElem? hplan hl
  have hfilter : p.filter.capabilities.contains cb.capability = true := by
    rw [← cb.behaviour?_isSome, takes]
    rfl
  -- what runs has been compared with what was registered
  have hlisted : p.registration.listing.capabilities.contains cb.capability = true :=
    p.agrees ▸ hfilter
  exact ⟨p, hl, hlisted, hfilter⟩

/-- A call is made of strokes that are due, and both its entry and its exit are seen. -/
theorem plays_entry {p : Place} {cb : Callback} (b : Behaviour)
    (hexposed : Exposes ps p.index cb.capability)
    (due : cb.changesResult = true → s.rendered = false) :
    let c := p.entry ps cb b s
    Plays ends ps (.still s.toRecord) c.event.strokes (.still c.granted.toRecord) ∧
      c.event.SeenIn (scenes ends (.still s.toRecord) c.event.strokes) := by
  intro c
  have hdoes : Plays ends ps ⟨some (cb, p.index), c.before.toRecord⟩
      (c.reply.operations.map (.does cb))
      ⟨some (cb, p.index), (c.before.grant cb c.reply).toRecord⟩ := by
    rw [← record_grant]
    exact plays_operations _ _
  constructor
  · exact .cons ⟨hexposed, due⟩ (hdoes.append (.cons trivial (.nil _)))
  · constructor
    · exact List.mem_cons_of_mem _ (hdoes.mem_scenes_append.mpr (.inl mem_scenes_self))
    · exact List.mem_cons_of_mem _ (hdoes.mem_scenes_append.mpr (.inl hdoes.mem_scenes_last))

/-- A tick is made of strokes that are due, and what its event tells of is seen. -/
theorem Tick.plays (hplan : (plan.instantiate resolver made).outcome = .ok ps)
    (h : Tick ends ps s e t) :
    Plays ends ps (.still s.toRecord) e.strokes (.still t.toRecord) ∧
      e.SeenIn (scenes ends (.still s.toRecord) e.strokes) := by
  cases h with
  | call mem takes due => exact plays_entry _ (exposes_of_behaviour? hplan mem takes) due
  | raise ph f s => exact ⟨.cons trivial (.nil _), trivial⟩
  | invoked s => exact ⟨.cons trivial (.nil _), s.toRecord, mem_scenes_self, rfl⟩
  | write due =>
    obtain ⟨-, hsuppressed⟩ : s.rendered = false ∧ s.suppressed = false := by
      simpa [State.renderDone] using due
    refine ⟨.cons ⟨rfl, hsuppressed⟩ (.cons trivial (.nil _)),
      { s.toRecord with rendered := true, result := some (s.result.getD .empty) }, ?_, rfl, rfl⟩
    exact List.mem_cons_of_mem _ mem_scenes_self
  | @settle s p held marked =>
    have hslots : s.toRecord.slots = ⟨some p.fault, some p.phase, true⟩ := by
      simp [State.toRecord, State.slots, State.handled, held, marked]
    have hsettled : (Scene.still s.toRecord).next ends .settle =
        .still { s with pending := none, recovered := true }.toRecord := by
      simp only [Scene.next, Scene.still, Stroke.write, hslots, Option.isSome_some, Bool.true_and,
        Bool.or_true]
      rfl
    exact ⟨.cons trivial (hsettled ▸ .nil _), trivial⟩
  | _ => exact ⟨.nil _, trivial⟩

theorem Ticks.plays (hplan : (plan.instantiate resolver made).outcome = .ok ps)
    (h : Ticks ends ps s es t) :
    Plays ends ps (.still s.toRecord) (es.flatMap Event.strokes) (.still t.toRecord) ∧
      ∀ e ∈ es, e.SeenIn (scenes ends (.still s.toRecord) (es.flatMap Event.strokes)) := by
  induction h with
  | nil => exact ⟨.nil _, by simp⟩
  | cons tick _ ih =>
    obtain ⟨hplays, hseen⟩ := tick.plays hplan
    rw [List.flatMap_cons, List.forall_mem_cons]
    refine ⟨hplays.append ih.1, hseen.mono fun x hx => ?_, fun e he => ?_⟩
    · exact hplays.mem_scenes_append.mpr (.inl hx)
    · exact (ih.2 e he).mono fun x hx => hplays.mem_scenes_append.mpr (.inr hx)

/-- A fault that is not marked is abandoned without leaving anything in the slots. -/
theorem State.plays_abandon (h : s.handled = false) :
    Plays ends ps (.still s.toRecord) (s.abandon.flatMap Event.strokes)
      (.still { s with pending := none }.toRecord) := by
  unfold abandon
  cases hp : s.pending with
  | none =>
    have hsame : { s with pending := none } = s := by rw [← hp]
    rw [hsame]
    exact .nil _
  | some p =>
    have hslots : s.toRecord.slots = ⟨some p.fault, some p.phase, false⟩ := by
      simp [toRecord, slots, hp, h]
    have habandoned : (Scene.still s.toRecord).next ends .abandon =
        .still { s with pending := none }.toRecord := by
      simp only [Scene.next, Scene.still, Stroke.write, hslots]
      rfl
    exact .cons h (habandoned ▸ .nil _)

theorem Step.state_finish (t : Step) : t.finish.state = { t.state with pending := none } := by
  unfold finish
  split
  · rfl
  · next hp => rw [← hp]

/-- A run is made of strokes that are due, and leads to the record of its last state. -/
theorem plays_run (hplan : (plan.instantiate resolver made).outcome = .ok ps) (ends : Ends)
    (call : Call) :
    let r := run ends ps (.initial call)
    let start := Scene.still (State.initial call).toRecord
    Plays ends ps start (r.events.flatMap Event.strokes) (.still r.state.toRecord) ∧
      ∀ e ∈ r.events, e.SeenIn (scenes ends start (r.events.flatMap Event.strokes)) := by
  intro r start
  obtain ⟨hproceed, hseen⟩ := (ticks_proceed ends ps (State.begun_open call)).plays hplan
  have hunmarked : (ends.proceed ps (.begun call)).state.handled = false :=
    handled_proceed ends (State.begun_open call)
  have hstate : r.state = { (ends.proceed ps (.begun call)).state with pending := none } :=
    Step.state_finish _
  have hstrokes : r.events.flatMap Event.strokes = .opening ::
      ((ends.proceed ps (.begun call)).events.flatMap Event.strokes ++
        (ends.proceed ps (.begun call)).state.abandon.flatMap Event.strokes) := by
    rw [events_run_eq]
    simp [Event.strokes]
  rw [hstrokes, hstate]
  constructor
  · exact .cons trivial (hproceed.append (State.plays_abandon hunmarked))
  · intro e he
    rw [events_run_eq, List.mem_cons, List.mem_append, List.mem_append, List.mem_singleton] at he
    rcases he with rfl | (he | he) | rfl
    · trivial
    · refine (hseen e he).mono fun x hx => ?_
      exact List.mem_cons_of_mem _ (hproceed.mem_scenes_append.mpr (.inl hx))
    · obtain ⟨p, -, rfl⟩ := List.mem_map.mp he
      trivial
    · trivial

/-- The scene in front of a run is in order. -/
theorem inOrder_initial (ps : List Place) (call : Call) :
    (Scene.still (State.initial call).toRecord).InOrder ps where
  sound := ⟨Slots.sound_empty, fun h => Bool.false_ne_true h.1⟩
  seated := rfl
  exposed := nofun
  due := nofun

/-- The run of a context leads from its record to that of the state behind the run, and a run that
is refused makes no stroke. -/
theorem Context.Reached.plays {c : Context} (hc : c.Reached)
    (hplan : (plan.instantiate resolver made).outcome = .ok c.places) (ends : Ends) :
    let r := (c.run ends).1
    let start := Scene.still c.state.toRecord
    Plays ends c.places start (r.events.flatMap Event.strokes) (.still r.state.toRecord) ∧
      ∀ e ∈ r.events, e.SeenIn (scenes ends start (r.events.flatMap Event.strokes)) := by
  intro r start
  rcases hc.executed_or_initial with hexecuted | ⟨call, hcall⟩
  · have hr : r = ⟨c.state, [], .error (.contextReused c.state.call.id)⟩ :=
      congrArg Prod.fst (Context.run_of_executed ends hexecuted)
    rw [hr]
    exact ⟨.nil _, by simp⟩
  · have hr : r = RequestPipeline.run ends c.places (.initial call) := by
      simp only [r, Context.run, hcall]
    have hstart : start = .still (State.initial call).toRecord := by simp only [start, hcall]
    rw [hr, hstart]
    exact plays_run hplan ends call

/-- No fault, no phase and no mark is left behind a run. -/
theorem slots_run (ends : Ends) (ps : List Place) (call : Call) :
    (run ends ps (.initial call)).state.toRecord.slots = {} := by
  have hstate : (run ends ps (.initial call)).state =
      { (ends.proceed ps (.begun call)).state with pending := none } := Step.state_finish _
  rw [hstate]
  rfl

/-- Between its runs a context is in order, and holds no fault. -/
theorem Context.Reached.inOrder {c : Context} (hc : c.Reached)
    (hplan : (plan.instantiate resolver made).outcome = .ok c.places) :
    (Scene.still c.state.toRecord).InOrder c.places ∧ c.state.toRecord.slots = {} := by
  induction hc with
  | new ps call => exact ⟨inOrder_initial ps call, rfl⟩
  | @run c hc ends ih =>
    obtain ⟨h, hfree⟩ := ih hplan
    have hplays := (hc.plays hplan ends).1
    refine ⟨hplays.inOrder h _ hplays.mem_scenes_last, ?_⟩
    rcases hc.executed_or_initial with hexecuted | ⟨call, hcall⟩
    · rw [Context.run_of_executed ends hexecuted]
      exact hfree
    · show (RequestPipeline.run ends c.places c.state).state.toRecord.slots = {}
      rw [hcall]
      exact slots_run ends c.places call
  | @reset c hc ih => exact ⟨inOrder_initial c.places c.state.call, rfl⟩
  | @cancel c hc ih =>
    obtain ⟨h, hfree⟩ := ih hplan
    exact ⟨⟨⟨h.sound.slots, h.sound.exclusive⟩, h.seated, h.exposed, h.due⟩, hfree⟩

/-- Whatever filters, actions and renderers do in a run of a context, every scene of it is in order,
from the one in front of it to the one behind it, and among the scenes are those in which a filter
is entered and left, the action is invoked and a result is rendered. Only a fault in flight is
marked as handled, and a phase is kept exactly of a fault in flight; a result that is rendered was
not kept from being rendered; the record points to the filter whose callback is running, which has
the capability that is called and is registered with it. No flag is taken back between two scenes.
Behind the run no fault is left, no phase, no mark and no filter that is being called. -/
theorem run_keeps_record {c : Context}
    (hplan : (plan.instantiate resolver made).outcome = .ok c.places) (hc : c.Reached)
    (ends : Ends) :
    let r := (c.run ends).1
    let xs := scenes ends (.still c.state.toRecord) (r.events.flatMap Event.strokes)
    (∀ e ∈ r.events, e.SeenIn xs) ∧ (∀ x ∈ xs, x.InOrder c.places) ∧
      (xs.Pairwise fun x y => x.record.Ascends y.record) ∧
      xs.getLast? = some (.still r.state.toRecord) ∧
      r.state.toRecord.slots = {} ∧ r.state.toRecord.current = none := by
  intro r xs
  obtain ⟨hplays, hseen⟩ := hc.plays hplan ends
  have hbehind : (Scene.still r.state.toRecord).InOrder c.places ∧ r.state.toRecord.slots = {} :=
    (hc.run ends).inOrder hplan
  have hinOrder : ∀ x ∈ xs, x.InOrder c.places := hplays.inOrder (hc.inOrder hplan).1
  exact ⟨hseen, hinOrder, pairwise_scenes, hplays.getLast?_scenes, hbehind.2, hbehind.1.seated⟩

/-- A filter keeps the result from being rendered and raises a fault, which another filter marks. -/
theorem run_keeps_record_silenced :
    let silences : Behaviour := fun _ => { suppress := true, fault := some (.plain "torn") }
    let mends : Behaviour := fun _ => { result := some .empty }
    let f : Filter :=
      { name := "net", exception := some mends, result := some ⟨silences, .idle⟩ }
    let ends : Ends := ⟨fun _ => { outcome := .ok .unit }, fun _ _ => {}⟩
    let call : Call := .ofAction ⟨"jobs", "run", .unit⟩
    let c : Context := ⟨[⟨0, .shared .global f, f, rfl⟩], .initial call⟩
    let s := (c.run ends).1.state.toRecord
    s.suppressed = true ∧ s.recovered = true ∧ s.rendered = false ∧ s.slots = {} := by
  intro silences mends f ends call c s
  have hplan : ((Plan.mk [.shared .global f]).instantiate .standard call).outcome = .ok c.places :=
    rfl
  obtain ⟨-, hinOrder, -, hlast, hslots, -⟩ := run_keeps_record hplan (.new _ _) ends
  have hsuppressed : s.suppressed = true := by decide +kernel +zetaReduce
  have hrecovered : s.recovered = true := by decide +kernel +zetaReduce
  -- the result is not rendered, for it was kept from being rendered
  have hsound := (hinOrder _ (List.mem_of_getLast? hlast)).sound
  have hrendered : s.rendered = false :=
    Bool.eq_false_iff.mpr fun h => hsound.exclusive ⟨h, hsuppressed⟩
  exact ⟨hsuppressed, hrecovered, hrendered, hslots⟩

end Runs

end RequestPipeline
