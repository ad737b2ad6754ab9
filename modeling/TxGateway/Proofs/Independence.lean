import TxGateway.Http.Listener
import TxGateway.Proofs.World
/-!
# Requests do not influence one another

Steps are isolated (`Isolated`) when each is answered in a list as it is alone, when another order
of the steps only changes the order of the answers, and when they are answered alike in a world that
they share, where the clock goes on, calls are counted and replies are left behind. The main result,
`steps_do_not_interfere`, is that the steps of sessions, JSON-RPC requests and HTTP requests are
isolated, the latter as long as the listener is not stopped, and that a listener refuses every
request once it is stopped.
-/

namespace TxGateway

open Http (NodeScript Listener Network)

/-! ## Isolated steps -/

section

variable {σ ρ α : Type}

/-- Steps that do not influence one another. A step is something that is asked, by itself and
without a look at the node, and what the node does at the calls that it leads to. -/
structure Isolated (connector : Connector) (asked : σ → ρ) (script : σ → NodeScript)
    (run : List σ → List (Exchange α)) : Prop where
  /-- Each step is answered with the answer and the calls that it has alone. -/
  alone : ∀ (steps : List σ) (i : Nat) (step : σ), steps[i]? = some step →
    ∃ exchange, run [step] = [exchange] ∧ (run steps)[i]? = some exchange
  /-- There are no other answers. -/
  length_eq : ∀ steps, (run steps).length = steps.length
  /-- The same steps in another order have the same answers. -/
  permuted : ∀ first second : List σ, first.Perm second →
    (first.zip (run first)).Perm (second.zip (run second))
  /-- In a world in which other requests have left their traces, what is asked comes to the same
  answers and calls, and the node receives these calls and no others. -/
  shared : ∃ operation : ρ → Operation α, ∀ world : World, world.Consistent → ∀ steps : List σ,
    let performed :=
      world.performAll connector (steps.map fun step => (operation (asked step), script step))
    performed.1 = run steps ∧
      performed.2.received = world.received ++ (run steps).flatMap Exchange.calls

/-- Steps are isolated when each is taken on its own, as an operation that what is asked decides. -/
theorem isolated_of_take {connector : Connector} {asked : σ → ρ} {script : σ → NodeScript}
    {run : List σ → List (Exchange α)} (take : σ → Exchange α)
    (hrun : ∀ steps, run steps = steps.map take)
    (hoperation : ∀ question, ∃ operation : Operation α, ∀ step, asked step = question →
      operation.run connector (script step) = take step) :
    Isolated connector asked script run := by
  refine ⟨?_, ?_, ?_, ?_⟩
  · intro steps i step hstep
    refine ⟨take step, hrun [step], ?_⟩
    rw [hrun, List.getElem?_map, hstep]
    rfl
  · intro steps
    rw [hrun, List.length_map]
  · intro first second hperm
    have hzip : ∀ steps : List σ,
        steps.zip (run steps) = steps.map fun step => (step, take step) := by
      intro steps
      rw [hrun, List.map_prod_left_eq_zip]
    rw [hzip, hzip]
    exact hperm.map _
  · obtain ⟨operation, hrealizes⟩ := Classical.axiomOfChoice hoperation
    refine ⟨operation, fun world hworld steps => ?_⟩
    obtain ⟨hanswers, hreceived⟩ := @World.performAll_eq α connector world hworld
      (steps.map fun step => (operation (asked step), script step))
    have hsteps : (steps.map fun step => (operation (asked step), script step)).map
        (fun step => step.1.run connector step.2) = run steps := by
      rw [hrun, List.map_map]
      apply List.map_congr_left
      intro step _
      exact hrealizes (asked step) step rfl
    refine ⟨hanswers.trans hsteps, ?_⟩
    rw [hreceived, hsteps]

end

/-- Steps of a session are isolated. -/
theorem Session.isolated_run (connector : Connector) :
    Isolated connector Session.Step.order (fun step _ => step.node) (Session.run connector) := by
  refine isolated_of_take (Session.Step.take connector) (fun _ => rfl) ?_
  intro order
  obtain ⟨operation, h⟩ := exists_realizes_take connector order
  refine ⟨operation, ?_⟩
  rintro ⟨_, node⟩ rfl
  exact h fun _ => node

/-- JSON-RPC requests are isolated. -/
theorem Rpc.isolated_run (connector : Connector) :
    Isolated connector Rpc.Step.request (fun step _ => step.node) (Rpc.run connector) := by
  refine isolated_of_take (fun step => Rpc.answerText connector step.node step.request)
    (fun _ => rfl) ?_
  intro request
  obtain ⟨operation, h⟩ := Rpc.exists_realizes_answerText connector request
  refine ⟨operation, ?_⟩
  rintro ⟨_, node⟩ rfl
  exact h fun _ => node

namespace Http

/-! ## Steps of a listener -/

/-- What is asked of a listener, without what the node does. -/
inductive Order where
  | localAddress
  | bindAgain
  | stop
  | request (request : Request)

namespace Step

/-- What a step asks. -/
def order : Step → Order
  | localAddress => .localAddress
  | bindAgain => .bindAgain
  | stop => .stop
  | .request asked _ => .request asked

/-- What the node does at the calls to which a step leads. -/
def script : Step → NodeScript
  | .request _ script => script
  | _ => fun _ => .silent

end Step

namespace Listener

variable {listener : Listener}

/-- Every step but the one that stops it leaves a listener as it is; an attempt to bind its address
once more does. -/
theorem take_of_ne_stop {step : Step} (h : step ≠ .stop) : (listener.take step).2 = listener := by
  cases step with
  | localAddress => rfl
  | bindAgain => rfl
  | stop => exact absurd rfl h
  | request request script =>
    rw [take]
    split <;> rfl

/-- Until it is stopped, a listener takes each step as the first. -/
theorem run_of_not_mem_stop {steps : List Step} (h : .stop ∉ steps) :
    listener.run steps = steps.map fun step => (listener.take step).1 := by
  induction steps with
  | nil => rfl
  | cons step steps ih =>
    rw [List.mem_cons, not_or] at h
    rw [run_cons, take_of_ne_stop (Ne.symm h.1), ih h.2, List.map_cons]

/-- A listener that goes on after some steps without stop is as it was before them. -/
theorem run_append_of_not_mem_stop {before : List Step} (h : .stop ∉ before) (after : List Step) :
    listener.run (before ++ after) = listener.run before ++ listener.run after := by
  induction before with
  | nil => rfl
  | cons step before ih =>
    rw [List.mem_cons, not_or] at h
    rw [List.cons_append, run_cons, run_cons, take_of_ne_stop (Ne.symm h.1), ih h.2,
      List.cons_append]

/-- A listener that was stopped stays so. -/
theorem running_take (h : listener.running = false) (step : Step) :
    (listener.take step).2.running = false := by
  cases step with
  | localAddress => exact h
  | bindAgain => exact h
  | stop => rfl
  | request request script =>
    rw [take, accepts_of_stopped listener h]
    exact h

/-- A listener that was stopped refuses every request, and the node is not called. -/
theorem run_of_stopped (h : listener.running = false) {steps : List Step} {i : Nat}
    {request : Request} {script : NodeScript} (hstep : steps[i]? = some (.request request script)) :
    (listener.run steps)[i]? = some (.silent .connectionRefused) := by
  induction steps generalizing listener i with
  | nil => cases hstep
  | cons step steps ih =>
    rw [run_cons]
    cases i with
    | zero =>
      obtain rfl : step = .request request script := Option.some.inj hstep
      rw [take, accepts_of_stopped listener h]
      rfl
    | succ i => exact ih (running_take h step) hstep

/-- Steps of a listener that do not stop it are isolated. -/
theorem isolated_run (listener : Listener) :
    Isolated listener.connector (fun step : { step : Step // step ≠ .stop } => step.val.order)
      (fun step => step.val.script) (fun steps => listener.run (steps.map Subtype.val)) := by
  refine isolated_of_take (fun step => (listener.take step.val).1) ?_ ?_
  · intro steps
    have hstop : .stop ∉ steps.map Subtype.val := by
      intro hstop
      obtain ⟨step, -, hstep⟩ := List.mem_map.mp hstop
      exact step.property hstep
    rw [run_of_not_mem_stop hstop, List.map_map]
    rfl
  · intro order
    cases order with
    | localAddress =>
      refine ⟨.done .loopbackPort, ?_⟩
      rintro ⟨_ | _ | _ | _, _⟩ horder
      · rfl
      all_goals cases horder
    | bindAgain =>
      refine ⟨.done (.bindFailed .addressInUse), ?_⟩
      rintro ⟨_ | _ | _ | _, _⟩ horder
      · cases horder
      · rfl
      all_goals cases horder
    | stop =>
      refine ⟨.done .stopped, ?_⟩
      rintro ⟨_ | _ | _ | _, hstop⟩ horder
      · cases horder
      · cases horder
      · exact absurd rfl hstop
      · cases horder
    | request request =>
      cases haccepts : listener.accepts with
      | true =>
        obtain ⟨operation, h⟩ := exists_realizes_answerRequest listener.connector request
        refine ⟨operation.map .response, ?_⟩
        rintro ⟨_ | _ | _ | ⟨_, script⟩, _⟩ horder
        iterate 3 cases horder
        cases horder
        simp only [take, haccepts, if_true]
        exact h.map Answer.response script
      | false =>
        refine ⟨.done .connectionRefused, ?_⟩
        rintro ⟨_ | _ | _ | ⟨_, script⟩, _⟩ horder
        iterate 3 cases horder
        simp only [take, haccepts]
        rfl

end Listener

end Http

/-- **No influence.** The steps of a session, JSON-RPC requests, and the steps of a listener that
runs are isolated, in whatever network it stands. Once it is stopped, what came before keeps its
answers, and every later request is refused without a call. -/
theorem steps_do_not_interfere (connector : Connector) :
    Isolated connector Session.Step.order (fun step _ => step.node) (Session.run connector) ∧
    Isolated connector Rpc.Step.request (fun step _ => step.node) (Rpc.run connector) ∧
    ∀ network : Network,
      Isolated connector (fun step : { step : Http.Step // step ≠ .stop } => step.val.order)
        (fun step => step.val.script)
        (fun steps => Listener.run ⟨connector, network, true⟩ (steps.map Subtype.val)) ∧
      ∀ before after : List Http.Step, .stop ∉ before →
        (Listener.run ⟨connector, network, true⟩ (before ++ .stop :: after)).take before.length =
          Listener.run ⟨connector, network, true⟩ before ∧
        ∀ i request script, after[i]? = some (.request request script) →
          (Listener.run ⟨connector, network, true⟩ (before ++ .stop :: after))[
            before.length + 1 + i]? = some (.silent .connectionRefused) := by
  refine ⟨Session.isolated_run connector, Rpc.isolated_run connector, fun network => ?_⟩
  refine ⟨Listener.isolated_run ⟨connector, network, true⟩, ?_⟩
  intro before after hbefore
  have hlength : (Listener.run ⟨connector, network, true⟩ before).length = before.length := by
    rw [Listener.run_of_not_mem_stop hbefore, List.length_map]
  have hsplit := @Listener.run_append_of_not_mem_stop ⟨connector, network, true⟩ before hbefore
    (.stop :: after)
  rw [hsplit]
  constructor
  · rw [← hlength, List.take_left']
    rfl
  · intro i request script hstep
    have hstopped : (Listener.mk connector network false).running = false := rfl
    rw [← hlength, List.getElem?_append_right (by omega), Listener.run_cons]
    have hindex : ∀ length : Nat, length + 1 + i - length = i + 1 := by
      intro length
      omega
    rw [hindex, List.getElem?_cons_succ]
    exact Listener.run_of_stopped hstopped hstep

end TxGateway
