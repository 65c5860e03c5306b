import RequestPipeline.Run.Dispatcher
import RequestPipeline.Text.Entries

/-!
# Plans that are kept

Whatever was asked of a dispatcher before (`Demand`), a kept plan is the one that would be made anew
from the latest declaration under its name (`Demand.declared`). What is kept is said by one
invariant, `Dispatcher.Current`, which every demand preserves (`Dispatcher.Current.serve`) and which
therefore holds behind every history (`Dispatcher.current_serveAll`). So keeping plans shows in
nothing but how many there are, and these are never more than there is room for
(`dispatcher_plans_current`).
-/

set_option autoImplicit false

namespace RequestPipeline

open Text

/-! ## Histories -/

/-- What can be asked of a dispatcher. -/
inductive Demand where
  | register (action : Action) (declared : Declaration)
  | plan (action : Action)
  | execute (call : Call) (ends : Ends)
  | invoke (call : Call) (invoker : Call → Invocation)
  | clear

namespace Demand

/-- What a demand declares under a name. -/
def declares? (key : String) : Demand → Option Declaration
  | register action declared => if action.displayName = key then some declared else none
  | _ => none

/-- What is declared under a name behind a history: the latest registration counts, and without one
nothing is declared. -/
def declared (key : String) (history : List Demand) : Declaration :=
  (history.reverse.findSome? (declares? key)).getD .empty

/-- The last demand of a history decides, unless it declares nothing under the name. -/
theorem declared_concat (key : String) (history : List Demand) (r : Demand) :
    declared key (history ++ [r]) = (r.declares? key).getD (declared key history) := by
  cases h : r.declares? key <;> simp [declared, h]

/-- A demand that declares nothing under a name does not count for it, wherever it stands. -/
theorem declared_of_silent {key : String} {r : Demand} (h : r.declares? key = none)
    (before after : List Demand) :
    declared key (before ++ r :: after) = declared key (before ++ after) := by
  simp [declared, h]

end Demand

namespace Dispatcher

/-- A dispatcher of which nothing was asked yet. -/
def idle (pipeline : Pipeline) (catalog : Catalog) (capacity : Nat) : Dispatcher :=
  { pipeline, catalog, capacity }

/-- The dispatcher behind a demand. -/
def serve (d : Dispatcher) : Demand → Dispatcher
  | .register action declared => (d.register action declared).1
  | .plan action => (d.plan action).dispatcher
  | .execute call ends => (d.execute call ends).1
  | .invoke call invoker => (d.invoke call invoker).1
  | .clear => d.clear

/-- The dispatcher behind a history. -/
def serveAll (d : Dispatcher) (history : List Demand) : Dispatcher := history.foldl serve d

theorem serveAll_cons (d : Dispatcher) (r : Demand) (after : List Demand) :
    d.serveAll (r :: after) = (d.serve r).serveAll after := rfl

theorem serveAll_append (d : Dispatcher) (before after : List Demand) :
    d.serveAll (before ++ after) = (d.serveAll before).serveAll after := by
  simp [serveAll]

/-! ## Asking for a plan -/

/-- The plan that is made for an action if none is kept. -/
def made (d : Dispatcher) (action : Action) : IssuedPlan := ⟨d.issued, d.freshPlan action⟩

/-- The three ways in which asking for a plan can go: one is kept, or there is room for a new one,
or there is none. -/
theorem plan_cases (d : Dispatcher) (action : Action) :
    (∃ p, d.plans.lookup action.displayName = some p ∧ d.plan action = ⟨d, [], p⟩) ∨
      (d.plans.length < d.capacity ∧ d.plan action =
        ⟨{ d with
            issued := d.issued + 1
            plans := (action.displayName, d.made action) :: d.plans },
          [.planKept action.displayName (d.freshPlan action).size], d.made action⟩) ∨
      d.plan action = ⟨{ d with issued := d.issued + 1 }, [], d.made action⟩ := by
  cases hk : d.plans.lookup action.displayName with
  | some p => exact .inl ⟨p, rfl, by simp [Dispatcher.plan, hk]⟩
  | none =>
    by_cases hroom : d.plans.length < d.capacity
    · exact .inr (.inl ⟨hroom, by simp [Dispatcher.plan, hk, hroom, made]⟩)
    · exact .inr (.inr (by simp [Dispatcher.plan, hk, hroom, made]))

/-! ## What holds behind every history -/

/-- A dispatcher that was made with a pipeline, a catalog and a capacity is current with what was
asked of it: it knows the latest declarations, and each plan that it keeps is made of them. -/
structure Current (pipeline : Pipeline) (catalog : Catalog) (capacity : Nat)
    (history : List Demand) (d : Dispatcher) : Prop where
  samePipeline : d.pipeline = pipeline
  sameCatalog : d.catalog = catalog
  sameCapacity : d.capacity = capacity
  declared : ∀ action : Action, d.declared action = Demand.declared action.displayName history
  kept : ∀ (action : Action) (p : IssuedPlan), d.plans.lookup action.displayName = some p →
    p.plan = .resolve (catalog.collect (Demand.declared action.displayName history))
  bounded : d.plans.length ≤ capacity

variable {pipeline : Pipeline} {catalog : Catalog} {capacity : Nat} {history : List Demand}
  {d : Dispatcher}

theorem current_idle : Current pipeline catalog capacity [] (idle pipeline catalog capacity) where
  samePipeline := rfl
  sameCatalog := rfl
  sameCapacity := rfl
  declared _ := rfl
  kept _ _ h := by simp [idle] at h
  bounded := Nat.zero_le _

namespace Current

/-- A plan that is made anew is made of the latest declaration. -/
theorem freshPlan (h : Current pipeline catalog capacity history d) (action : Action) :
    d.freshPlan action =
      .resolve (catalog.collect (Demand.declared action.displayName history)) := by
  rw [Dispatcher.freshPlan, h.sameCatalog, h.declared]

/-- So is the plan that is used, be it kept or not. -/
theorem plan (h : Current pipeline catalog capacity history d) (action : Action) :
    (d.plan action).plan.plan =
      .resolve (catalog.collect (Demand.declared action.displayName history)) := by
  rcases d.plan_cases action with ⟨p, hp, hplan⟩ | ⟨-, hplan⟩ | hplan <;> rw [hplan]
  · exact h.kept action p hp
  · exact h.freshPlan action
  · exact h.freshPlan action

/-- What declares nothing leaves the latest declarations as they are. -/
theorem of_silent {r : Demand} (h : Current pipeline catalog capacity history d)
    (hr : ∀ key, r.declares? key = none) :
    Current pipeline catalog capacity (history ++ [r]) d := by
  have hdeclared (key : String) :
      Demand.declared key (history ++ [r]) = Demand.declared key history := by
    rw [Demand.declared_concat, hr, Option.getD_none]
  refine ⟨h.samePipeline, h.sameCatalog, h.sameCapacity, ?_, ?_, h.bounded⟩
  · intro action
    rw [hdeclared, h.declared]
  · intro action p hp
    rw [hdeclared, h.kept action p hp]

/-- Registering an action drops its plan, and no other plan depends on it. -/
theorem register (h : Current pipeline catalog capacity history d) (action : Action)
    (declared : Declaration) :
    Current pipeline catalog capacity (history ++ [.register action declared])
      (d.register action declared).1 := by
  have hsame (key : String) (hkey : key ≠ action.displayName) :
      Demand.declared key (history ++ [.register action declared]) =
        Demand.declared key history := by
    rw [Demand.declared_concat, Demand.declares?, if_neg hkey.symm, Option.getD_none]
  refine ⟨h.samePipeline, h.sameCatalog, h.sameCapacity, ?_, ?_, ?_⟩
  · intro b
    by_cases hb : b.displayName = action.displayName
    · simp [Dispatcher.declared, Dispatcher.register, Demand.declared_concat, Demand.declares?, hb]
    · rw [hsame _ hb, ← h.declared b, Dispatcher.declared, Dispatcher.register,
        lookup_cons_of_ne hb, lookup_filter_of_kept fun _ => by simpa using hb,
        Dispatcher.declared]
  · intro b p hp
    by_cases hb : b.displayName = action.displayName
    · -- the plan of the action itself is gone
      rw [Dispatcher.register, hb, lookup_filter_of_dropped (by simp)] at hp
      cases hp
    · rw [Dispatcher.register, lookup_filter_of_kept fun _ => by simpa using hb] at hp
      rw [hsame _ hb, h.kept b p hp]
  · exact Nat.le_trans (List.length_filter_le _ _) h.bounded

/-- Asking for a plan keeps it if there is room. -/
theorem plan_dispatcher (h : Current pipeline catalog capacity history d) (action : Action) :
    Current pipeline catalog capacity history (d.plan action).dispatcher := by
  rcases d.plan_cases action with ⟨p, -, hplan⟩ | ⟨hroom, hplan⟩ | hplan <;> rw [hplan]
  · exact h
  · refine ⟨h.samePipeline, h.sameCatalog, h.sameCapacity, h.declared, ?_, ?_⟩
    · intro b p hp
      by_cases hb : b.displayName = action.displayName
      · -- the new plan was made of the latest declaration
        obtain rfl : d.made action = p := by simpa [hb] using hp
        rw [hb]
        exact h.freshPlan action
      · rw [lookup_cons_of_ne hb] at hp
        exact h.kept b p hp
    · rw [h.sameCapacity] at hroom
      exact hroom
  · exact ⟨h.samePipeline, h.sameCatalog, h.sameCapacity, h.declared, h.kept, h.bounded⟩

theorem clear (h : Current pipeline catalog capacity history d) :
    Current pipeline catalog capacity history d.clear where
  samePipeline := h.samePipeline
  sameCatalog := h.sameCatalog
  sameCapacity := h.sameCapacity
  declared := h.declared
  kept _ _ hp := by simp [Dispatcher.clear] at hp
  bounded := Nat.zero_le _

/-- Every demand leaves a dispatcher current. -/
theorem serve (h : Current pipeline catalog capacity history d) (r : Demand) :
    Current pipeline catalog capacity (history ++ [r]) (d.serve r) := by
  cases r with
  | register action declared => exact h.register action declared
  | plan action => exact (h.plan_dispatcher action).of_silent fun _ => rfl
  | execute call ends => exact (h.plan_dispatcher call.action).of_silent fun _ => rfl
  | invoke call invoker => exact (h.plan_dispatcher call.action).of_silent fun _ => rfl
  | clear => exact h.clear.of_silent fun _ => rfl

theorem serveAll (h : Current pipeline catalog capacity history d) (after : List Demand) :
    Current pipeline catalog capacity (history ++ after) (d.serveAll after) := by
  induction after generalizing history d with
  | nil => simpa [Dispatcher.serveAll] using h
  | cons r after ih => simpa [Dispatcher.serveAll] using ih (h.serve r)

end Current

/-- Behind every history a dispatcher is current. -/
theorem current_serveAll (pipeline : Pipeline) (catalog : Catalog) (capacity : Nat)
    (history : List Demand) :
    Current pipeline catalog capacity history
      ((idle pipeline catalog capacity).serveAll history) :=
  current_idle.serveAll history

/-- A demand that declares nothing under the name of an action changes none of its later plans. -/
theorem plan_of_silent {pipeline : Pipeline} {catalog : Catalog} {capacity : Nat} {action : Action}
    {r : Demand} (hr : r.declares? action.displayName = none) (before after : List Demand) :
    ((((idle pipeline catalog capacity).serveAll before).serve r).serveAll after |>.plan
        action).plan.plan =
      (((idle pipeline catalog capacity).serveAll before).serveAll after |>.plan
        action).plan.plan := by
  rw [← serveAll_cons, ← serveAll_append, ← serveAll_append, (current_serveAll _ _ _ _).plan,
    (current_serveAll _ _ _ _).plan, Demand.declared_of_silent hr]

/-! ## Running the plan of an action -/

/-- What a request that was run comes to: the response that was rendered. -/
def respond (call : Call) (events : List Event) :
    Except Failure Outcome → Except DispatchError Response
  | .error failure => .error (.pipeline failure)
  | .ok _ => (lastResponse call.id events).elim (.error (.notRendered call.action.displayName)) .ok

theorem execute_snd (d : Dispatcher) (call : Call) (ends : Ends) :
    (d.execute call ends).2 =
      ((d.plan call.action).events ++
          (d.pipeline.execute (d.plan call.action).plan.plan call ends).1,
        (d.pipeline.execute (d.plan call.action).plan.plan call ends).2) := rfl

theorem invoke_snd (d : Dispatcher) (call : Call) (invoker : Call → Invocation) :
    (d.invoke call invoker).2 =
      ((d.execute call ⟨invoker, fun _ _ => {}⟩).2.1,
        respond call (d.execute call ⟨invoker, fun _ _ => {}⟩).2.1
          (d.execute call ⟨invoker, fun _ _ => {}⟩).2.2) := by
  unfold invoke respond
  cases d.execute call ⟨invoker, fun _ _ => {}⟩ with
  | mk d' ran =>
    obtain ⟨events, outcome⟩ := ran
    cases outcome with
    | error failure => rfl
    | ok o => cases h : lastResponse call.id events <;> simp [h]

end Dispatcher

/-- Behind every history the plan of an action, and the plan that a request for it runs, is made of
the catalog and of what was registered last under the name of the action, or of the catalog alone if
nothing was. Registering an action changes no plan of another name, forgetting the kept plans
changes none at all, and no more plans are kept than there is room for. -/
theorem dispatcher_plans_current (pipeline : Pipeline) (catalog : Catalog) (capacity : Nat)
    (history : List Demand) :
    let d := (Dispatcher.idle pipeline catalog capacity).serveAll history
    let current (action : Action) : Plan :=
      .resolve (catalog.collect (Demand.declared action.displayName history))
    (∀ action, (d.plan action).plan.plan = current action) ∧
      (∀ call ends, (d.execute call ends).2 =
        let ran := pipeline.execute (current call.action) call ends
        ((d.plan call.action).events ++ ran.1, ran.2)) ∧
      (∀ call invoker, (d.invoke call invoker).2 =
        let ran := pipeline.execute (current call.action) call ⟨invoker, fun _ _ => {}⟩
        let events := (d.plan call.action).events ++ ran.1
        (events, Dispatcher.respond call events ran.2)) ∧
      (∀ (action b : Action) (declared : Declaration) (after : List Demand),
        b.displayName ≠ action.displayName →
          ((d.serve (.register action declared)).serveAll after |>.plan b).plan.plan =
            (d.serveAll after |>.plan b).plan.plan) ∧
      (∀ (action : Action) (after : List Demand),
        ((d.serve .clear).serveAll after |>.plan action).plan.plan =
          (d.serveAll after |>.plan action).plan.plan) ∧
      d.keptPlans ≤ capacity := by
  intro d current
  have hcurrent : Dispatcher.Current pipeline catalog capacity history d :=
    Dispatcher.current_serveAll pipeline catalog capacity history
  have hexecute (call : Call) (ends : Ends) : (d.execute call ends).2 =
      ((d.plan call.action).events ++ (pipeline.execute (current call.action) call ends).1,
        (pipeline.execute (current call.action) call ends).2) := by
    rw [Dispatcher.execute_snd, hcurrent.samePipeline, hcurrent.plan]
  refine ⟨hcurrent.plan, hexecute, ?_, ?_, ?_, hcurrent.bounded⟩
  · intro call invoker
    rw [Dispatcher.invoke_snd, hexecute]
  · intro action b declared after hb
    have hsilent : (Demand.register action declared).declares? b.displayName = none :=
      if_neg hb.symm
    exact Dispatcher.plan_of_silent hsilent history after
  · intro action after
    exact Dispatcher.plan_of_silent rfl history after

/-- The plan of an action that found no room stays what it is when the action whose plan is kept is
registered again. -/
theorem dispatcher_plans_current_full :
    let kept : Action := ⟨"jobs", "run", .unit⟩
    let other : Action := ⟨"jobs", "list", .unit⟩
    let declared : Declaration := { action := [.shared .action { name := "log" }] }
    let d := (Dispatcher.idle {} {} 1).serveAll [.plan kept, .plan other]
    d.keptPlans = 1 ∧ other.displayName ≠ kept.displayName ∧
      ((d.serve (.register kept declared)).serveAll [.plan kept] |>.plan other).plan.plan =
        (d.serveAll [.plan kept] |>.plan other).plan.plan := by
  intro kept other declared d
  have hne : other.displayName ≠ kept.displayName := by decide
  obtain ⟨-, -, -, hregister, -, -⟩ :=
    dispatcher_plans_current {} {} 1 [.plan kept, .plan other]
  exact ⟨rfl, hne, hregister kept other declared [.plan kept] hne⟩

end RequestPipeline
