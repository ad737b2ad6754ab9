import TxGateway.Proofs.Operation
/-!
# A shared world

The gateway and its node in one world that every request finds as the requests before it left it:
the clock has moved on, the node has received calls, and replies that came too late for whoever
waited for them still lie there. Each reply belongs to a call by number. An operation that is
performed in such a world comes to what it comes to with a node of its own:

* `await_send` : a call that is sent now is answered as if nothing had been before;
* `perform_eq` : so is every call of an operation, whatever became of the calls before;
* `performAll_eq` : so is every operation of a list, and the node receives the calls of all.
-/

namespace TxGateway

open Http (NodeScript)

/-- A reply of the node, with the number of the call to which it belongs, from the moment on at
which it is there. -/
structure Arrival where
  number : Nat
  instant : Nat
  reply : Node.Reply

/-- Whether a reply belongs to a call and is there at a moment. -/
def Arrival.inTime (number moment : Nat) (arrival : Arrival) : Bool :=
  arrival.number == number && arrival.instant ≤ moment

/-- The clock in milliseconds, the calls that the node has received so far, and the replies that
nobody has taken, those still on their way included. -/
structure World where
  clock : Nat
  received : List Node.Call
  arrivals : List Arrival

namespace World

variable {α : Type} (connector : Connector)

/-- Replies belong to calls that were received. -/
def Consistent (world : World) : Prop :=
  ∀ arrival ∈ world.arrivals, arrival.number < world.received.length

/-- The node receives a call. Its reply, if it will give one, is there after its delay. -/
def send (world : World) (call : Node.Call) (node : Node.Behaviour) : World :=
  { world with
    received := world.received ++ [call]
    arrivals := world.arrivals ++
      match node with
      | .replies delay reply => [⟨world.received.length, world.clock + delay, reply⟩]
      | .silent => [] }

/-- What a reply means to the one who waits for it. -/
def judge (method : Node.Method) : Node.Reply → Except ConnectorError Json
  | .result value => .ok value
  | .failure cause =>
    .error (.callFailed method (Reason.classify method.name cause.message) cause.message)

/-- Waits for the reply to a call until the deadline has passed since now. A reply that is taken is
gone; where none is taken, whatever comes later is left behind. -/
def await (method : Node.Method) (number : Nat) (world : World) :
    Except ConnectorError Json × World :=
  let moment := world.clock + connector.deadline.milliseconds
  match world.arrivals.find? (Arrival.inTime number moment) with
  | some arrival =>
    (judge method arrival.reply,
      { world with
        clock := max world.clock arrival.instant
        arrivals := world.arrivals.filter fun other => other.number ≠ number })
  | none => (.error (.timedOut method connector.deadline), { world with clock := moment })

/-- Performs an operation, with a node whose behaviour at each further call is given. -/
def perform : Operation α → NodeScript → World → α × World
  | .done outcome, _, world => (outcome, world)
  | .call question next, script, world =>
    let answered :=
      (world.send question (script 0)).await connector question.method world.received.length
    perform (next answered.1) (script.after 1) answered.2

/-- Performs operations one after the other, and notes which calls the node receives meanwhile. -/
def performAll : List (Operation α × NodeScript) → World → List (Exchange α) × World
  | [], world => ([], world)
  | (operation, script) :: steps, world =>
    let first := world.perform connector operation script
    let rest := performAll steps first.2
    (⟨first.1, first.2.received.drop world.received.length⟩ :: rest.1, rest.2)

variable {world : World} {connector}

/-- The node has received one call more. -/
theorem received_send (world : World) (question : Node.Call) (node : Node.Behaviour) :
    (world.send question node).received = world.received ++ [question] := rfl

/-- Waiting does not change what the node has received. -/
theorem received_await (method : Node.Method) (number : Nat) (world : World) :
    (world.await connector method number).2.received = world.received := by
  unfold await
  dsimp only
  split <;> rfl

/-- A call keeps the world consistent: its own reply belongs to it. -/
theorem Consistent.send (h : world.Consistent) (question : Node.Call) (node : Node.Behaviour) :
    (world.send question node).Consistent := by
  intro arrival harrival
  rw [received_send, List.length_append, List.length_singleton]
  rcases List.mem_append.mp harrival with harrival | harrival
  · exact Nat.lt_succ_of_lt (h arrival harrival)
  · cases node with
    | silent => cases harrival
    | replies delay reply =>
      rw [List.mem_singleton.mp harrival]
      exact Nat.lt_succ_self _

/-- Waiting keeps the world consistent: replies are only taken away. -/
theorem Consistent.await (h : world.Consistent) (method : Node.Method) (number : Nat) :
    (world.await connector method number).2.Consistent := by
  intro arrival harrival
  rw [received_await]
  apply h
  unfold World.await at harrival
  dsimp only at harrival
  split at harrival
  · exact (List.mem_filter.mp harrival).1
  · exact harrival

/-- No reply that is left over belongs to the next call. -/
theorem find?_arrivals (h : world.Consistent) (moment : Nat) :
    world.arrivals.find? (Arrival.inTime world.received.length moment) = none := by
  rw [List.find?_eq_none]
  intro arrival harrival
  have hnumber := h arrival harrival
  simp only [Arrival.inTime, Bool.and_eq_true, beq_iff_eq, decide_eq_true_eq, not_and]
  intro hsame
  omega

/-- **A call.** Whatever came before, a call that is sent now comes to what the node does with it
up to the deadline. -/
theorem await_send (h : world.Consistent) (question : Node.Call) (node : Node.Behaviour) :
    ((world.send question node).await connector question.method world.received.length).1 =
      connector.await question.method node := by
  have hleft := find?_arrivals h (world.clock + connector.deadline.milliseconds)
  cases node with
  | silent =>
    have hnone : (world.send question .silent).arrivals.find? (Arrival.inTime world.received.length
        ((world.send question .silent).clock + connector.deadline.milliseconds)) = none := by
      simp only [send, List.append_nil, hleft]
    rw [World.await, hnone, connector.await_silent]
  | replies delay reply =>
    have hfound : (world.send question (.replies delay reply)).arrivals.find?
        (Arrival.inTime world.received.length
          ((world.send question (.replies delay reply)).clock +
            connector.deadline.milliseconds)) =
        if delay ≤ connector.deadline.milliseconds then
          some ⟨world.received.length, world.clock + delay, reply⟩
        else none := by
      simp only [send, List.find?_append, hleft, Option.none_or, List.find?_cons, List.find?_nil,
        Arrival.inTime, beq_self_eq_true, Bool.true_and, Nat.add_le_add_iff_left]
      by_cases hdelay : delay ≤ connector.deadline.milliseconds <;> simp [hdelay]
    rw [World.await, hfound]
    by_cases hdelay : delay ≤ connector.deadline.milliseconds
    · rw [if_pos hdelay]
      cases reply with
      | result value => exact (connector.await_result question.method hdelay value).symm
      | failure cause => exact (connector.await_failure question.method hdelay cause).symm
    · rw [if_neg hdelay]
      exact (connector.await_late question.method (by omega) reply).symm

/-- **An operation.** In a consistent world it comes to what it comes to with a node of its own, the
node receives its calls, and the world stays consistent. -/
theorem perform_eq (h : world.Consistent) (operation : Operation α) (script : NodeScript) :
    (world.perform connector operation script).1 = (operation.run connector script).outcome ∧
      (world.perform connector operation script).2.received =
        world.received ++ (operation.run connector script).calls ∧
      (world.perform connector operation script).2.Consistent := by
  induction operation generalizing world script with
  | done outcome => exact ⟨rfl, (List.append_nil _).symm, h⟩
  | call question next ih =>
    -- The rest is performed in the world that the first call leaves behind.
    have hlater : ((world.send question (script 0)).await connector question.method
        world.received.length).2.Consistent :=
      (h.send question (script 0)).await question.method world.received.length
    obtain ⟨houtcome, hreceived, hconsistent⟩ :=
      ih (connector.await question.method (script 0)) hlater (script.after 1)
    rw [received_await, received_send, List.append_assoc] at hreceived
    rw [perform, await_send h]
    exact ⟨houtcome, hreceived, hconsistent⟩

/-- **A list of operations.** In a consistent world each comes to what it comes to with a node of
its own and makes the same calls, and the node receives the calls of all, in order. -/
theorem performAll_eq (h : world.Consistent) (steps : List (Operation α × NodeScript)) :
    (world.performAll connector steps).1 = steps.map (fun step => step.1.run connector step.2) ∧
      (world.performAll connector steps).2.received =
        world.received ++
          (steps.map fun step => step.1.run connector step.2).flatMap Exchange.calls := by
  induction steps generalizing world with
  | nil => exact ⟨rfl, (List.append_nil _).symm⟩
  | cons step steps ih =>
    obtain ⟨operation, script⟩ := step
    obtain ⟨houtcome, hreceived, hconsistent⟩ :=
      @perform_eq α connector world h operation script
    obtain ⟨hrest, hlast⟩ := ih hconsistent
    have hcalls : (world.perform connector operation script).2.received.drop world.received.length =
        (operation.run connector script).calls := by
      rw [hreceived, List.drop_left]
    rw [performAll, List.map_cons, List.flatMap_cons]
    dsimp only
    rw [hrest, hlast, houtcome, hcalls, hreceived, List.append_assoc]
    exact ⟨rfl, rfl⟩

end World

end TxGateway
