import RequestPipeline.Proofs.Run.Counterparts

/-!
# What is kept from callers

What went wrong inside is the message of a plain fault or of an internal error, and every context
around a fault (`Fault.redact` leaves it out). Scripts, access by role, cross-origin policies and
envelopes that do not expose it are discreet: none of them reads it (`Filter.Discreet.same`). So
nothing that is rendered or measured depends on it when only such filters run, and neither does
whether a request succeeds (`execute_conceals_faults`).
-/

set_option autoImplicit false

namespace RequestPipeline

/-! ## Redaction -/

/-- A cause without what went wrong inside. -/
def Cause.redact : Cause → Cause
  | .plain _ => .plain ""
  | .service .internal _ => .service .internal ""
  | c => c

/-- A fault without what went wrong inside; the contexts around it are left out. -/
def Fault.redact (f : Fault) : Fault := { cause := f.cause.redact }

/-- What is seen of runs when nothing is said about what went wrong inside. -/
def Lens.secrecy : Lens := ⟨Fault.redact, some⟩

theorem Cause.redact_redact (c : Cause) : c.redact.redact = c.redact := by
  cases c with
  | service category message => cases category <;> rfl
  | _ => rfl

/-- Which request was cancelled is no secret. -/
theorem Fault.redact_forRequest (f : Fault) (id : RequestId) :
    (f.forRequest id).redact = f.redact.forRequest id := by
  obtain ⟨cause, contexts⟩ := f
  cases cause with
  | service category message => cases category <;> rfl
  | _ => rfl

theorem Lens.secrecy_steady : secrecy.Steady where
  again f := congrArg (fun c => Fault.mk c []) f.cause.redact_redact
  forRequest := Fault.redact_forRequest

/-- An envelope that exposes nothing has the same answer for a fault whatever went wrong inside. -/
theorem Envelope.answer_redact {e : Envelope} (he : e.exposesInternal = false) (f : Fault)
    (id : RequestId) : e.answer f.redact id = e.answer f id := by
  obtain ⟨cause, contexts⟩ := f
  have hcontent : e.content (Fault.redact ⟨cause, contexts⟩) = e.content ⟨cause, contexts⟩ := by
    cases cause with
    | service category message => cases category <;> simp [content, Fault.redact, Cause.redact, he]
    | _ => simp [content, Fault.redact, Cause.redact, he]
  rw [answer, answer, hcontent]

/-! ## Discreet filters -/

/-- Two filters are the same but for what went wrong inside the faults that they raise, and do not
read that of others. -/
inductive Filter.Discreet : Filter → Filter → Prop
  | script {s s' : Script} (h : s.mapFaults Fault.redact = s'.mapFaults Fault.redact) :
    Discreet s.toFilter s'.toFilter
  | access (a : Access) : Discreet a.toFilter a.toFilter
  | crossOrigin (p : CrossOrigin) : Discreet p.toFilter p.toFilter
  | envelope (e : Envelope) (h : e.exposesInternal = false) : Discreet e.toFilter e.toFilter

/-- Discreet filters do the same as far as can be seen. -/
theorem Filter.Discreet.same {f g : Filter} (h : Filter.Discreet f g) :
    Lens.secrecy.SameFilter f g := by
  cases h with
  | script h => exact Lens.same_script Lens.secrecy_steady h
  | access a => exact Lens.same_access a
  | crossOrigin p => exact Lens.same_crossOrigin p
  | envelope e h => exact Lens.same_envelope (Envelope.answer_redact h)

/-- Two registrations are listed alike and resolved to discreet filters, or fail alike. -/
structure Registration.Discreet (R R' : Resolver) (call : Call) (r r' : Registration) : Prop where
  listing : r.listing = r'.listing
  events : (R r call).events = (R' r' call).events
  filter : Agree Filter.Discreet (R r call).outcome (R' r' call).outcome

/-! ## Requests -/

section Requests

variable {R R' : Resolver} {call : Call} {plan plan' : Plan} {ends ends' : Ends}

/-- Lists whose members correspond in their places have counterparts throughout. -/
theorem thins_zipIdx {α β : Type} {rel : α → β → Prop} {keep : α × Nat → β × Nat → Prop}
    {drop : α × Nat → Prop} {xs : List α} {ys : List β} (h : List.Forall₂ rel xs ys)
    (hkeep : ∀ x y i, rel x y → keep (x, i) (y, i)) (i : Nat) :
    Thins keep drop (xs.zipIdx i) (ys.zipIdx i) := by
  induction h generalizing i with
  | nil => exact .nil
  | cons head _ ih =>
    rw [List.zipIdx_cons, List.zipIdx_cons]
    exact .keep (hkeep _ _ i head) (ih (i + 1))

theorem map_listing_of_discreet {rs rs' : List Registration}
    (h : List.Forall₂ (Registration.Discreet R R' call) rs rs') :
    rs.map (·.listing) = rs'.map (·.listing) := by
  induction h with
  | nil => rfl
  | cons head _ ih => rw [List.map_cons, List.map_cons, head.listing, ih]

/-- The same listings agree on who is in charge. -/
theorem Lens.secrecy_charge (ls : List Listing) : secrecy.SameCharge ls ls where
  listing k l hkl := by
    obtain rfl := Option.some.inj hkl
    rfl
  injective k k' l hk hk' := Option.some.inj (hk.trans hk'.symm)
  holder m := (Option.bind_fun_some _).symm
  seated m k _ := rfl

theorem state_prepare {p : Pipeline} {c : Context} (h : (p.prepare plan call).outcome = .ok c) :
    c.state = .initial call := by
  rw [Pipeline.prepare] at h
  cases hrequire : plan.require p.options.requiredPolicies with
  | error e => simp [hrequire] at h
  | ok _ =>
    cases hplaced : (plan.instantiate p.resolver call).outcome with
    | error e => simp [hrequire, hplaced, Except.map] at h
    | ok ps =>
      simp only [hrequire, hplaced, Except.map, Except.ok.injEq] at h
      rw [← h]

/-- A run fails by a fault that nobody handled, so a request that comes to a misuse is not run. -/
theorem prepare_of_misuse {p : Pipeline} {e : Failure} (h : (p.execute plan call ends).2 = .error e)
    (he : e.isMisuse = true) : (p.prepare plan call).outcome = .error e := by
  cases hp : (p.prepare plan call).outcome with
  | error e' =>
    simp only [Pipeline.execute, hp, Except.error.injEq] at h
    rw [h]
  | ok c =>
    simp only [Pipeline.execute, hp, state_prepare hp, run_outcome, Step.finish] at h
    split at h
    · obtain rfl := Except.error.inj h
      cases he
    · cases h

/-- Two requests are the same but for what went wrong inside the faults that filters, the action and
the renderer raise. If all filters are discreet, they render the same, are measured alike, and come
to the same: the same outcome, or a fault that nobody handled. Or neither is run, for the same
misuse of filters. -/
theorem execute_conceals_faults (options : Options)
    (hplan : List.Forall₂ (Registration.Discreet R R' call) plan.registrations plan'.registrations)
    (hends : Lens.secrecy.SameEnds ends ends') :
    let x := Pipeline.execute ⟨options, R⟩ plan call ends
    let y := Pipeline.execute ⟨options, R'⟩ plan' call ends'
    renderings x.1 = renderings y.1 ∧ options.metrics x.1 = options.metrics y.1 ∧
      ((∃ o, x.2 = .ok o ∧ y.2 = .ok o) ∨
        (∃ action f f', x.2 = .error (.unhandled action f) ∧
          y.2 = .error (.unhandled action f') ∧ f.redact = f'.redact) ∨
        ∃ e, (Pipeline.prepare ⟨options, R⟩ plan call).outcome = .error e ∧
          (Pipeline.prepare ⟨options, R'⟩ plan' call).outcome = .error e ∧
          x.2 = .error e ∧ y.2 = .error e) := by
  intro x y
  have hcharge : Lens.secrecy.SameCharge plan.listings plan'.listings := by
    rw [Plan.listings, Plan.listings, map_listing_of_discreet hplan]
    exact Lens.secrecy_charge _
  have hcounterparts : Thins (Lens.secrecy.Counterpart R R' call)
      (Lens.secrecy.Spare R call plan.listings) plan.registrations.zipIdx
      plan'.registrations.zipIdx := by
    refine thins_zipIdx hplan (fun r r' i h => ?_) 0
    exact ⟨h.listing, rfl, congrArg _ h.events, h.filter.imp fun _ _ hfg => hfg.same⟩
  obtain ⟨hevents, houtcome⟩ := Lens.alike_execute hcharge hcounterparts hends options
  refine ⟨Lens.reading_eq Lens.renderings_events hevents,
    Lens.reading_eq (fun L => L.metrics_events options) hevents, ?_⟩
  rcases Lens.secrecy.outcome_cases houtcome with hok | hunhandled | ⟨e, he, hx, hy⟩
  · exact .inl hok
  · exact .inr (.inl hunhandled)
  · exact .inr (.inr ⟨e, prepare_of_misuse hx he, prepare_of_misuse hy he, hx, hy⟩)

/-- Whatever an action and a script say went wrong, the envelope that is rendered is the same. -/
theorem execute_conceals_fault_of_action :
    let audit (f : Fault) : Script := { name := "audit", action := some ([], [.fail f]) }
    let plan (f : Fault) : Plan :=
      ⟨[.shared .global (Envelope.toFilter {}), .shared .action (audit f).toFilter]⟩
    let ends (f : Fault) : Ends := ⟨fun _ => { outcome := .error f }, fun _ _ => {}⟩
    let call : Call := .ofAction ⟨"jobs", "run", .unit⟩
    let x := Pipeline.execute {} (plan (.plain "disk full")) call (ends (.service .internal "a"))
    let y := Pipeline.execute {} (plan ((Fault.plain "no route").wrap "host")) call
      (ends ((Fault.service .internal "b").wrap "host"))
    renderings x.1 = renderings y.1 ∧ (renderings x.1).length = 1 := by
  intro audit plan ends call x y
  have hplan : List.Forall₂ (Registration.Discreet .standard .standard call)
      (plan (.plain "disk full")).registrations
      (plan ((Fault.plain "no route").wrap "host")).registrations := by
    have haudit : (audit (.plain "disk full")).mapFaults Fault.redact =
        (audit ((Fault.plain "no route").wrap "host")).mapFaults Fault.redact := rfl
    exact .cons ⟨rfl, rfl, .ok (.envelope {} rfl)⟩ (.cons ⟨rfl, rfl, .ok (.script haudit)⟩ .nil)
  have hends : Lens.secrecy.SameEnds (ends (.service .internal "a"))
      (ends ((Fault.service .internal "b").wrap "host")) :=
    ⟨fun _ => rfl, fun _ => rfl, fun _ _ => rfl, fun _ _ => rfl⟩
  refine ⟨(execute_conceals_faults {} hplan hends).1, ?_⟩
  decide +kernel +zetaReduce

end Requests

end RequestPipeline
