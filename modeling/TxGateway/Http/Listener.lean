import TxGateway.Http.Service
/-!
# The listener

A server on an address of its host, from the moment it is bound until it is stopped. While it runs,
nobody else can bind its address; once it is stopped, nobody can connect to it. Whether clients
reach a running listener at all is a property of the host's network.
-/

namespace TxGateway.Http

/-- The network between clients and a listener on one host. -/
inductive Network where
  | connected
  /-- No connection is let through. -/
  | disconnected
deriving DecidableEq, Repr

/-- A listener: its connector, the network that leads to it, and whether it runs. -/
structure Listener where
  connector : Connector
  network : Network
  running : Bool

/-- Why a listener is not bound to an address. -/
inductive BindError where
  | addressInUse
deriving DecidableEq, Repr

/-- The cause in words, with the address that was asked for. -/
def BindError.message (address : String) : BindError → String
  | addressInUse =>
    "failed to bind " ++ address ++
      ": Networking or low-level protocol error: Address already in use (os error 98)"

/-- What is done to a listener. -/
inductive Step where
  | localAddress
  | bindAgain
  | stop
  | request (request : Request) (script : NodeScript)

/-- What comes of it. -/
inductive Answer where
  /-- The address is a port of its own on the loopback interface. -/
  | loopbackPort
  | bindFailed (cause : BindError)
  | stopped
  | connectionRefused
  | response (response : Response)

namespace Listener

/-- Whether a connection to the listener comes about. -/
def accepts (listener : Listener) : Bool := listener.running && listener.network == .connected

/-- A listener that was stopped accepts nothing. -/
theorem accepts_of_stopped (listener : Listener) (h : listener.running = false) :
    listener.accepts = false := by
  simp [accepts, h]

/-- Takes one step. -/
def take (listener : Listener) : Step → Exchange Answer × Listener
  | .localAddress => (.silent .loopbackPort, listener)
  | .bindAgain => (.silent (.bindFailed .addressInUse), listener)
  | .stop => (.silent .stopped, { listener with running := false })
  | .request request script =>
    if listener.accepts then
      ((answerRequest listener.connector script request).map .response, listener)
    else (.silent .connectionRefused, listener)

/-- Takes all steps in order. -/
def run (listener : Listener) : List Step → List (Exchange Answer)
  | [] => []
  | step :: steps =>
    let (exchange, next) := listener.take step
    exchange :: run next steps

@[simp] theorem run_cons (listener : Listener) (step : Step) (steps : List Step) :
    listener.run (step :: steps) = (listener.take step).1 :: (listener.take step).2.run steps := rfl

end Listener

end TxGateway.Http
