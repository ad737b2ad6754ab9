import TxGateway.Endpoint
import TxGateway.Http.Service
import TxGateway.Settings
/-!
# The command line

The gateway as a program: it takes its settings from the arguments and the environment, checks the
URL of the node, and then answers each line of its input as the body of a request. The program
itself has no way to the node, so every call fails as one whose connection is gone.
-/

namespace TxGateway.CommandLine

/-- The environment variables of the settings that are set. -/
def environment : IO Settings.Environment :=
  Settings.Key.all.filterMapM fun key => do
    return (← IO.getEnv key.variableName).map fun value => (key.variableName, value)

/-- The node of a program without connection. -/
def lostNode : Node.Behaviour :=
  .replies 0 (.failure Node.Trouble.connectionTaskStopped.failure)

/-- Answers the lines that are left. -/
partial def serve (connector : Connector) (input output : IO.FS.Stream) : IO Unit := do
  let line ← input.getLine
  unless line.isEmpty do
    let exchange := Http.answerBody connector (fun _ => lostNode) line
    output.putStrLn exchange.outcome.body.written
    output.flush
    serve connector input output

end TxGateway.CommandLine

/-- Runs the gateway. -/
def main (arguments : List String) : IO UInt32 := do
  let environment ← TxGateway.CommandLine.environment
  match TxGateway.Settings.resolve arguments environment with
  | .error cause =>
    if cause.isAskedFor then
      IO.println cause.message
      return 0
    else
      IO.eprintln cause.message
      return 2
  | .ok settings =>
    match TxGateway.Endpoint.check settings.nodeUrl with
    | .error cause =>
      IO.eprintln cause.message
      return 1
    | .ok () =>
      TxGateway.CommandLine.serve ⟨settings.timeout⟩ (← IO.getStdin) (← IO.getStdout)
      return 0
