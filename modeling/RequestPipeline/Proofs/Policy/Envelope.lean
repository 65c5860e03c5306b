import RequestPipeline.Policy.Envelope

/-!
# What an envelope says of a fault

On its way a fault is wrapped in any number of contexts (`Fault.wrapAll`). Each of them hides the
one before from readers (`Fault.message_wrapAll`), and none hides the cause (`Fault.cause_wrapAll`).
An envelope goes by the cause, so contexts are told to a caller only if the cause is neither a
cancellation nor an error of the service, and then only the outermost one (`answer_wrapAll`).
-/

set_option autoImplicit false

namespace RequestPipeline

/-! ## Contexts -/

namespace Fault

/-- A fault inside contexts, wrapped in one after the other: the last is the outermost. -/
def wrapAll (f : Fault) (contexts : List String) : Fault := contexts.foldl wrap f

variable {f : Fault} {contexts : List String}

/-- The cause stays what it was in any number of contexts. -/
@[simp] theorem cause_wrapAll : (f.wrapAll contexts).cause = f.cause := by
  induction contexts generalizing f with
  | nil => rfl
  | cons c cs ih => exact ih (f := f.wrap c)

theorem contexts_wrapAll : (f.wrapAll contexts).contexts = contexts.reverse ++ f.contexts := by
  induction contexts generalizing f with
  | nil => rfl
  | cons c cs ih =>
    have hcs := ih (f := f.wrap c)
    rw [List.reverse_cons, List.append_assoc]
    exact hcs

/-- People read the context that was wrapped around last, or the fault itself if there is none. -/
theorem message_wrapAll : (f.wrapAll contexts).message = contexts.getLast?.getD f.message := by
  rw [message, contexts_wrapAll, List.head?_append, List.head?_reverse, cause_wrapAll]
  cases contexts.getLast? <;> rfl

end Fault

/-- A cause that says of itself which category it belongs to. -/
inductive Cause.Typed : Cause → Prop
  | cancelled (id : RequestId) : Typed (.cancelled id)
  | service (category : Category) (message : String) : Typed (.service category message)

/-! ## Envelopes -/

namespace Envelope

variable {e : Envelope} {f g : Fault} {id : RequestId}

/-- The answer that an envelope with a status, a code and a message is. -/
def enclosed (status : Http.Status) (code message : String) (id : RequestId) : Answer :=
  .json status
    (.obj [("error",
      .obj [("code", .str code), ("message", .str message), ("request_id", .str id.text)])])

/-- Of a typed cause an envelope tells the same whatever contexts are around it. -/
theorem answer_of_typed (h : f.cause.Typed) (hfg : f.cause = g.cause) :
    e.answer f id = e.answer g id := by
  have hcontent : e.content f = e.content g := by
    rw [content, content, ← hfg]
    cases hcause : f.cause with
    | cancelled other => rfl
    | service category message => rfl
    | plain message =>
      rw [hcause] at h
      cases h
    | contract action declared produced =>
      rw [hcause] at h
      cases h
  rw [answer, answer, hcontent]

theorem answer_of_cancelled {other : RequestId} (h : f.cause = .cancelled other) :
    e.answer f id = enclosed { code := 504 } "TIMEOUT" "Request was cancelled" id := by
  simp only [answer, content, h]
  rfl

theorem answer_of_service {category : Category} {message : String}
    (h : f.cause = .service category message) :
    e.answer f id = enclosed category.status category.code
      (if category ≠ .internal ∨ e.exposesInternal = true then message else e.internalMessage)
      id := by
  simp only [answer, content, h, compose, enclosed, Bool.or_eq_true, bne_iff_ne, ne_eq]

/-- Of any other cause an envelope tells what people read, if it exposes what went wrong inside. -/
theorem answer_of_untyped (h : ¬f.cause.Typed) :
    e.answer f id = enclosed { code := 500 } "INTERNAL_ERROR"
      (if e.exposesInternal = true then f.message else e.internalMessage) id := by
  have hcontent : e.content f =
      (.internal, if e.exposesInternal = true then f.message else e.internalMessage) := by
    cases hcause : f.cause with
    | cancelled other => exact absurd (hcause ▸ .cancelled other) h
    | service category message => exact absurd (hcause ▸ .service category message) h
    | plain message => simp only [content, hcause]
    | contract action declared produced => simp only [content, hcause]
  rw [answer, hcontent]
  rfl

/-- An envelope depends on the cause of a fault, whatever contexts the fault has been wrapped in. A
cancellation is answered as a timeout, and an error of the service with the status, the code and the
message of its own, unless it is an internal one that is not exposed. Anything else is an internal
error, whose message is the outermost context, or that of the cause without one, if internal errors
are exposed. -/
theorem answer_wrapAll (e : Envelope) (base : Cause) (contexts : List String) (id : RequestId) :
    let bare : Fault := { cause := base }
    let answer := e.answer (bare.wrapAll contexts) id
    (∀ other, base = .cancelled other →
      answer = enclosed { code := 504 } "TIMEOUT" "Request was cancelled" id) ∧
    (∀ category message, base = .service category message →
      answer = enclosed category.status category.code
        (if category ≠ .internal ∨ e.exposesInternal = true then message else e.internalMessage)
        id) ∧
    (base.Typed →
      answer = e.answer bare id ∧ ∀ f : Fault, f.cause = base → e.answer f id = answer) ∧
    (¬base.Typed →
      answer = enclosed { code := 500 } "INTERNAL_ERROR"
        (if e.exposesInternal = true then contexts.getLast?.getD base.message
          else e.internalMessage) id) := by
  intro bare answer
  have hcause : (bare.wrapAll contexts).cause = base := Fault.cause_wrapAll
  refine ⟨?_, ?_, fun htyped => ⟨?_, ?_⟩, ?_⟩
  · intro other hbase
    exact answer_of_cancelled (hcause.trans hbase)
  · intro category message hbase
    exact answer_of_service (hcause.trans hbase)
  · exact answer_of_typed (hcause ▸ htyped) hcause
  · intro f hf
    exact answer_of_typed (hf ▸ htyped) (hf.trans hcause.symm)
  · intro huntyped
    have huntyped' : ¬(bare.wrapAll contexts).cause.Typed := hcause ▸ huntyped
    have hmessage : (bare.wrapAll contexts).message = contexts.getLast?.getD base.message :=
      Fault.message_wrapAll
    rw [← hmessage]
    exact answer_of_untyped huntyped'

end Envelope

end RequestPipeline
