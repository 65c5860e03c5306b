import RequestPipeline.Policy.Access
import RequestPipeline.Policy.CrossOrigin
import RequestPipeline.Policy.Envelope
import RequestPipeline.Policy.Script
import RequestPipeline.Proofs.Run.Lens

/-!
# What policies depend on

A policy replies to what it sees when it is called. Views that a lens cannot tell apart
(`Lens.SameView`) agree on the state as it is seen, on the listing of the filter that is called and
on who is in charge of what; they may differ in its position and in how many other filters there
are. Scripts, access by role, cross-origin policies and envelopes reply alike in such views
(`Lens.same_script` and its siblings), as far as the lens hides no more of a fault than a script or
an envelope reads.
-/

set_option autoImplicit false

namespace RequestPipeline

/-! ## Scripts with other faults -/

mutual

/-- The instruction with another fault in place of each that it raises. -/
def Instruction.mapFault (g : Fault → Fault) : Instruction → Instruction
  | .fail f => .fail (g f)
  | .whenever condition body => .whenever condition (Instruction.mapFaults g body)
  | i => i

/-- The instructions with another fault in place of each that they raise. -/
def Instruction.mapFaults (g : Fault → Fault) : List Instruction → List Instruction
  | [] => []
  | i :: rest => i.mapFault g :: Instruction.mapFaults g rest

end

/-- The script with another fault in place of each that it raises. -/
def Script.mapFaults (g : Fault → Fault) (s : Script) : Script :=
  let pair := fun bodies : List Instruction × List Instruction =>
    (Instruction.mapFaults g bodies.1, Instruction.mapFaults g bodies.2)
  { s with
    authorization := s.authorization.map (Instruction.mapFaults g)
    resource := s.resource.map pair
    exception := s.exception.map (Instruction.mapFaults g)
    action := s.action.map pair
    result := s.result.map pair }

namespace Lens

variable (L : Lens)

/-! ## Views -/

/-- Two views agree on all that is seen. -/
structure SameView (v w : View) : Prop where
  state : L.state v.state = L.state w.state
  listing : v.listing? = w.listing?
  charge : ∀ m, v.isEffective m = w.isEffective m
  holder : ∀ m, v.effective? m = w.effective? m

/-- Two behaviours reply alike to views that agree. -/
def SameBehaviour (b c : Behaviour) : Prop :=
  ∀ v w, L.SameView v w → L.reply (b v) = L.reply (c w)

/-- Two filters reply alike around a phase. -/
structure SameAround (a c : Around) : Prop where
  before : L.SameBehaviour a.before c.before
  after : L.SameBehaviour a.after c.after

/-- Two filters take part at the same moments and reply alike. -/
def SameFilter (f g : Filter) : Prop :=
  ∀ cb : Callback, Option.Rel L.SameBehaviour (cb.behaviour? f) (cb.behaviour? g)

/-- A lens that hides part of a fault hides it once and for all, and no matter which request the
fault concerns. -/
structure Steady : Prop where
  again : ∀ f, L.fault (L.fault f) = L.fault f
  forRequest : ∀ f id, L.fault (f.forRequest id) = (L.fault f).forRequest id

section Views

variable {L} {v w u : View} {cb : Callback} {r r' : Reply}

theorem SameView.symm (h : L.SameView v w) : L.SameView w v :=
  ⟨h.state.symm, h.listing.symm, fun m => (h.charge m).symm, fun m => (h.holder m).symm⟩

theorem SameView.refl (v : View) : L.SameView v v := ⟨rfl, rfl, fun _ => rfl, fun _ => rfl⟩

/-- What is seen of a fault in flight is whether it is there and whether it is marked. -/
theorem SameView.handled (h : L.SameView v w) : v.state.handled = w.state.handled := by
  have hp := pending_eq h.state
  cases hv : v.state.pending <;> cases hw : w.state.pending <;>
    simp_all [State.handled, pending]

theorem SameView.isSome_pending (h : L.SameView v w) :
    v.state.pending.isSome = w.state.pending.isSome := by
  have hp := congrArg Option.isSome (pending_eq h.state)
  simpa using hp

/-- A reply changes the state alike in views that agree. -/
theorem state_grant (hs : L.state v.state = L.state w.state) (hr : L.reply r = L.reply r') :
    L.state (v.state.grant cb r) = L.state (w.state.grant cb r') := by
  have hgrant (s : State) (r : Reply) : L.state (s.grant cb r) =
      { (L.state s).grant cb (L.reply r) with current := none } := by
    cases hp : s.pending <;>
      simp [state, State.grant, hp, pending, reply, Pending.grant, Call.grant]
  rw [hgrant, hgrant, hs, hr]

theorem SameView.after (h : L.SameView v w) (hr : L.reply r = L.reply r') :
    L.SameView (v.after cb r) (w.after cb r') where
  state := state_grant h.state hr
  listing := h.listing
  charge := h.charge
  holder := h.holder

/-- Filters do the same if they do so in each phase. -/
theorem SameFilter.of_phases {f g : Filter}
    (hauthorization : Option.Rel L.SameBehaviour f.authorization g.authorization)
    (hexception : Option.Rel L.SameBehaviour f.exception g.exception)
    (haround : ∀ l : Layer, Option.Rel L.SameAround (l.around? f) (l.around? g)) :
    L.SameFilter f g := by
  have hboth (l : Layer) :
      Option.Rel L.SameBehaviour ((l.around? f).map Around.before)
        ((l.around? g).map Around.before) ∧
      Option.Rel L.SameBehaviour ((l.around? f).map Around.after)
        ((l.around? g).map Around.after) := by
    exact ⟨rel_map (haround l) fun _ _ h => h.before, rel_map (haround l) fun _ _ h => h.after⟩
  intro cb
  cases cb with
  | authorization => exact hauthorization
  | exception => exact hexception
  | resourceBefore => exact (hboth .resource).1
  | resourceAfter => exact (hboth .resource).2
  | actionBefore => exact (hboth .action).1
  | actionAfter => exact (hboth .action).2
  | resultBefore => exact (hboth .result).1
  | resultAfter => exact (hboth .result).2

/-- Conditions of scripts hold alike. -/
theorem SameView.holds (h : L.SameView v w) (c : Condition) : c.holds cb v = c.holds cb w := by
  induction c with
  | fault => rw [Condition.holds, Condition.holds, h.isSome_pending]
  | handled => rw [Condition.holds, Condition.holds, h.handled]
  | canceled => exact canceled_eq h.state
  | result => rw [Condition.holds, Condition.holds, result_eq h.state]
  | effective m => exact h.charge m
  | argument name => rw [Condition.holds, Condition.holds, call_eq h.state]
  | role name => rw [Condition.holds, Condition.holds, call_eq h.state]
  | not c ih => rw [Condition.holds, Condition.holds, ih]

end Views

/-! ## Scripts -/

section Scripts

variable {L} {v w : View} {cb : Callback} {r r' : Reply}

theorem reply_edit (h : L.SameView v w) (hr : L.reply r = L.reply r') (change : Answer → Answer) :
    L.reply (r.edit cb v change) = L.reply (r'.edit cb w change) := by
  have hafter : L.SameView (v.after cb r) (w.after cb r') := h.after hr
  have hresult := result_eq hafter.state
  unfold Reply.edit
  split
  · rw [hresult]
    cases (w.after cb r').state.result with
    | none => exact hr
    | some a => exact congrArg (fun u : Reply => { u with result := some (change a) }) hr
  · exact hr

theorem reply_rebind (h : L.SameView v w) (hr : L.reply r = L.reply r')
    (change : Arguments → Arguments) :
    L.reply (r.rebind cb v change) = L.reply (r'.rebind cb w change) := by
  have hafter : L.SameView (v.after cb r) (w.after cb r') := h.after hr
  unfold Reply.rebind
  rw [call_eq hafter.state]
  exact congrArg (fun u : Reply =>
    { u with arguments := some (change (w.after cb r').state.call.arguments) }) hr

mutual

/-- An instruction does the same in views that agree, and whatever is hidden of its fault. -/
theorem reply_perform (hL : L.Steady) (h : L.SameView v w) (i : Instruction) {r r' : Reply}
    (hr : L.reply r = L.reply r') :
    L.reply (i.perform cb v r) = L.reply ((i.mapFault L.fault).perform cb w r') := by
  have hafter : L.SameView (v.after cb r) (w.after cb r') := h.after hr
  cases i with
  | setResult a => exact congrArg (fun u : Reply => { u with result := some a }) hr
  | markHandled => exact congrArg (fun u : Reply => { u with handled := true }) hr
  | fail f =>
    -- the fault is hidden in both, and which request it concerns is seen
    have hfault : L.fault (f.forRequest v.state.call.id) =
        L.fault ((L.fault f).forRequest w.state.call.id) := by
      rw [hL.forRequest, hL.forRequest, hL.again, call_eq h.state]
    have hset := congrArg (fun u : Reply => { u with
      fault := some (L.fault (f.forRequest v.state.call.id)) }) hr
    rw [Instruction.mapFault]
    simp only [Instruction.perform, reply, Option.map_some, ← hfault]
    exact hset
  | suppress => exact congrArg (fun u : Reply => { u with suppress := true }) hr
  | setArgument n x => exact reply_rebind h hr _
  | dropArgument n => exact reply_rebind h hr _
  | setStatus s => exact reply_edit h hr _
  | setHeader n x => exact reply_edit h hr _
  | cancelRequest => exact congrArg (fun u : Reply => { u with cancel := true }) hr
  | ensureActive =>
    change L.reply (Instruction.perform cb v .ensureActive r) =
      L.reply (Instruction.perform cb w .ensureActive r')
    simp only [Instruction.perform, call_eq hafter.state]
    exact congrArg (fun u : Reply => { u with
      fault := ((w.after cb r').state.call.interruption?).map L.fault }) hr
  | note x => exact hr
  | report => exact hr
  | pause => exact hr
  | whenever c body =>
    simp only [Instruction.mapFault, Instruction.perform, hafter.holds c]
    split
    · exact reply_performAll hL h body hr
    · exact hr

/-- So do instructions one after another. -/
theorem reply_performAll (hL : L.Steady) (h : L.SameView v w) (is : List Instruction)
    {r r' : Reply} (hr : L.reply r = L.reply r') :
    L.reply (Instruction.performAll cb v is r) =
      L.reply (Instruction.performAll cb w (Instruction.mapFaults L.fault is) r') := by
  cases is with
  | nil => exact hr
  | cons i rest =>
    have hi := reply_perform hL h i hr
    have hfails := congrArg (fun u : Reply => u.fault.isSome) hi
    simp only [reply, Option.isSome_map] at hfails
    simp only [Instruction.mapFaults, Instruction.performAll, hfails]
    split
    · exact hi
    · exact reply_performAll hL h rest hi

end

theorem same_behave (hL : L.Steady) (s : Script) (cb : Callback) (body : List Instruction) :
    L.SameBehaviour (s.behave cb body)
      ((s.mapFaults L.fault).behave cb (Instruction.mapFaults L.fault body)) :=
  fun _ _ h => reply_performAll hL h body rfl

theorem same_within (hL : L.Steady) (s : Script) (cb : Callback)
    (body : Option (List Instruction)) :
    Option.Rel L.SameBehaviour (s.within cb body)
      ((s.mapFaults L.fault).within cb (body.map (Instruction.mapFaults L.fault))) := by
  have hbare : (s.mapFaults L.fault).bare = s.bare := rfl
  unfold Script.within
  rw [hbare]
  split
  · exact .none
  · cases body with
    | none => exact .none
    | some body => exact .some (same_behave hL s cb body)

/-- A script and its counterpart do the same around a phase. -/
theorem same_around (hL : L.Steady) (s : Script) (before after : Callback)
    (bodies : Option (List Instruction × List Instruction)) :
    Option.Rel L.SameAround (bodies.map (s.around before after))
      ((bodies.map fun b => (Instruction.mapFaults L.fault b.1,
        Instruction.mapFaults L.fault b.2)).map ((s.mapFaults L.fault).around before after)) := by
  have hbare : (s.mapFaults L.fault).bare = s.bare := rfl
  cases bodies with
  | none => exact .none
  | some bodies =>
    refine .some ?_
    unfold Script.around
    rw [hbare]
    split
    · exact ⟨fun _ _ _ => rfl, fun _ _ _ => rfl⟩
    · exact ⟨same_behave hL s before bodies.1, same_behave hL s after bodies.2⟩

/-- A script does the same whatever is hidden of the faults that it raises. -/
theorem same_script_mapFaults (hL : L.Steady) (s : Script) :
    L.SameFilter s.toFilter (s.mapFaults L.fault).toFilter := by
  apply SameFilter.of_phases
  · exact same_within hL s .authorization s.authorization
  · exact same_within hL s .exception s.exception
  · intro l
    cases l with
    | resource => exact same_around hL s .resourceBefore .resourceAfter s.resource
    | action => exact same_around hL s .actionBefore .actionAfter s.action
    | result => exact same_around hL s .resultBefore .resultAfter s.result

end Scripts

/-! ## Filters that do the same as a third -/

section Common

variable {L} {f g k : Filter}

theorem SameBehaviour.common {b c d : Behaviour} (h : L.SameBehaviour b d)
    (h' : L.SameBehaviour c d) : L.SameBehaviour b c := by
  intro v w hvw
  calc L.reply (b v) = L.reply (d v) := h v v (.refl v)
    _ = L.reply (c w) := (h' w v hvw.symm).symm

theorem SameFilter.common (h : L.SameFilter f k) (h' : L.SameFilter g k) : L.SameFilter f g := by
  intro cb
  rcases rel_cases (h cb) with ⟨hf, hk⟩ | ⟨b, d, hf, hk, hbd⟩
  · rcases rel_cases (h' cb) with ⟨hg, -⟩ | ⟨c, d, -, hk', -⟩
    · rw [hf, hg]
      exact .none
    · rw [hk] at hk'
      cases hk'
  · rcases rel_cases (h' cb) with ⟨-, hk'⟩ | ⟨c, d', hg, hk', hcd⟩
    · rw [hk] at hk'
      cases hk'
    · rw [hk] at hk'
      obtain rfl := Option.some.inj hk'
      rw [hf, hg]
      exact .some (hbd.common hcd)

/-- Scripts that differ only in what is hidden of their faults do the same. -/
theorem same_script (hL : L.Steady) {s s' : Script}
    (h : s.mapFaults L.fault = s'.mapFaults L.fault) : L.SameFilter s.toFilter s'.toFilter :=
  (same_script_mapFaults hL s).common (h ▸ same_script_mapFaults hL s')

end Common

/-! ## Policies -/

section Policies

variable {L}

/-- Who decides on calls reads nothing but the call. -/
theorem same_access (a : Access) : L.SameFilter a.toFilter a.toFilter := by
  apply SameFilter.of_phases
  · refine .some fun v w h => ?_
    have hcall : v.state.call = w.state.call := call_eq h.state
    simp only [Access.onAuthorization, hcall]
  · exact .none
  · intro l
    cases l <;> exact .none

/-- A cross-origin policy reads the call, the result and whether it is in charge. -/
theorem same_crossOrigin (p : CrossOrigin) : L.SameFilter p.toFilter p.toFilter := by
  apply SameFilter.of_phases
  · refine .some fun v w h => ?_
    have hcall : v.state.call = w.state.call := call_eq h.state
    simp only [CrossOrigin.onAuthorization, hcall, h.charge]
  · exact .none
  · intro l
    cases l with
    | resource => exact .none
    | action => exact .none
    | result =>
      refine .some ⟨fun v w h => ?_, fun _ _ _ => rfl⟩
      have hcall : v.state.call = w.state.call := call_eq h.state
      have hresult : v.state.result = w.state.result := result_eq h.state
      simp only [CrossOrigin.beforeResult, hcall, hresult, h.charge]

/-- An envelope that answers a fault as it is seen reads no more of it. -/
theorem same_envelope {e : Envelope} (he : ∀ f id, e.answer (L.fault f) id = e.answer f id) :
    L.SameFilter e.toFilter e.toFilter := by
  apply SameFilter.of_phases
  · exact .none
  · refine .some fun v w h => ?_
    simp only [Envelope.onException, h.handled, h.charge, call_eq h.state]
    split
    · rfl
    · cases hv : v.state.pending with
      | none => rw [(pending_eq_none_iff h.state).mp hv]
      | some p =>
        obtain ⟨q, hw, hqp⟩ := pending_eq_some h.state hv
        obtain ⟨hfault, -⟩ := Pending.mk.inj hqp
        have hanswer (id : RequestId) : e.answer p.fault id = e.answer q.fault id := by
          rw [← he p.fault, ← he q.fault, hfault]
        rw [hw]
        simp only [hanswer]
        rfl
  · intro l
    cases l <;> exact .none

end Policies

end Lens

end RequestPipeline
