import LiveSession.Compile.WatchConfig
import LiveSession.Compile.Event
import LiveSession.Supervisor.Child
import LiveSession.Supervisor.Error
/-!
# The watch compiler

The watch compiler runs the installed watch driver under node. Starting it fails when the driver
is not installed or node cannot be run. Once it runs, the driver gets the configuration as its
first input line, and every line it prints is classified: a notification other than
`compile/ready` that is a compile event is sent on, and everything else (plain output, malformed
frames, responses, other notifications) is only logged. When the driver's output ends, a last
fatal event says so, unless the watch was cancelled by then; when reading it fails, a last fatal
event gives the error. The pump stops there, or as soon as it notices the cancellation.

The session receives events until it has the number it wants or the channel closes; the channel
closes exactly when the driver has exited.
-/

namespace LiveSession.Compile

open LiveSession.Rpc LiveSession.Files LiveSession.Supervisor

/-- The event one line of driver output carries, if any. -/
def lineEvent (line : String) : Option Event :=
  match classifyLine line with
  | .message (.notification n) => if n.method == "compile/ready" then none else Event.ofNotification n
  | _ => none

/-- The fatal event sent when the driver exits on its own. -/
def watchExited : Event := .fatal "watch process exited"

/-- The fatal event sent when reading the driver's output fails. -/
def readFailed (reason : String) : Event := .fatal ("reading watch output: " ++ reason)

/-- What the event pump wakes up to: the watch is cancelled, the pump notices the cancellation,
or the next read of the driver's output completes. A read can complete after the cancellation
and before the pump notices it. -/
inductive Wake where
  | cancel
  | notice
  | read (r : LineRead)
  deriving DecidableEq, Repr

/-- The events the pump sends, given whether the watch is cancelled. -/
def pump (cancelled : Bool) : List Wake → List Event
  | [] => []
  | .cancel :: ws => pump true ws
  | .notice :: ws => if cancelled then [] else pump cancelled ws
  | .read (.line l) :: ws => (lineEvent l).toList ++ pump cancelled ws
  | .read .ended :: _ => if cancelled then [] else [watchExited]
  | .read (.failed e) :: _ => [readFailed e]

/-- The events a run of the driver sends: those its output carries, then, when it exits, that
it exited. -/
def driverEvents (p : Printed) : List Event := pump false (p.reads.map .read)

/-- The driver script under an assets directory. -/
def driverPath (assets : String) : String := Path.join assets watchDriver

/-- Starts the watch: the driver must be installed and node must run. -/
def startWatch (t : Tree) (assets node : String) (nodeRuns : Bool) : Except SupervisorError Unit :=
  let driver := driverPath assets
  if !t.isFile driver then .error (.watchStart ("watch driver not found: " ++ driver))
  else if !nodeRuns then
    .error (.watchStart ("failed to run `" ++ node ++ "`: No such file or directory (os error 2)"))
  else .ok ()

/-- The configuration line the driver reads first. -/
def configLine (c : WatchConfig) : String := c.toJson.compact

/-- Receives up to `limit` of the events sent: those received, and whether the channel was
found closed, which happens only when fewer were sent and the sender is gone. -/
def receiveUpTo (events : List Event) (closes : Bool) (limit : Nat) : List Event × Bool :=
  if limit ≤ events.length then (events.take limit, false) else (events, closes)

end LiveSession.Compile
