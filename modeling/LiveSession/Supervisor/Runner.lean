import LiveSession.Files.Tree
import LiveSession.Supervisor.Child
import LiveSession.Supervisor.Client
/-!
# The artifact runner

The runner executes the built artifact under node and keeps a bridge client to it. Executing
needs the artifact to be a regular file; while an earlier run is still held, a second execution
does nothing. The application's startup output is read like all its output: plain lines are
echoed, publications fill the slot. When the application's output ends, or reading it fails, the
reader stops: the client is marked exited and the slot empties, but the run stays held until the
runner is shut down.

A request goes through the held run's bridge client: it is sent, its line written, and the
application's answer read line by line, each response routed by the client. If the application
exits there, the client is marked exited. Then the request waits out its channel.

Shutting down drops the held run, marks the client exited and empties the slot.
-/

namespace LiveSession.Supervisor

open LiveSession.Json LiveSession.Rpc LiveSession.Session LiveSession.Files

/-- The application as a child process: what it prints when it starts, and in answer to each
request. -/
structure AppProcess where
  boot : Printed
  answer : Request → Printed

/-- How the runner is set up. -/
structure RunnerSettings where
  /-- Plain output is echoed rather than only logged. -/
  echo : Bool
  requestTimeoutMs : Nat
  /-- The node executable can be started. -/
  nodeRuns : Bool
  deriving DecidableEq, Repr

/-- A held run: its client's identity and its bridge client. -/
structure Running where
  client : Nat
  bridge : Client

/-- The runner, the slot it writes and the output it echoed. The slot's handles are client
identities. -/
structure Runner where
  running : Option Running := none
  slot : Option (LiveApp Nat) := none
  echoed : List String := []
  clients : Nat := 0

namespace Runner

/-- Reads one line of a client's process output: echoing it, publishing the application, or
routing a response through the bridge client. -/
def readLine (r : Runner) (s : RunnerSettings) (client : Nat) (b : Client) (l : String) :
    Runner × Client :=
  match lineEffect l with
  | .echo text => (if s.echo then { r with echoed := r.echoed ++ [text] } else r, b)
  | .publish g m => ({ r with slot := some ⟨g, m, client⟩ }, b)
  | .respond resp => (r, b.complete resp)
  | .skip => (r, b)

/-- Reads a client's process output line by line, until the output ends or a read fails. Either
way the client is marked exited and the slot empties. -/
def read (r : Runner) (s : RunnerSettings) (client : Nat) (b : Client) :
    List LineRead → Runner × Client
  | [] => (r, b)
  | .line l :: rs =>
    let next := r.readLine s client b l
    next.1.read s client next.2 rs
  | .ended :: _ => ({ r with slot := none }, b.markExited)
  | .failed _ :: _ => ({ r with slot := none }, b.markExited)

/-- Reads what the process printed, then its exit if it exited. -/
def readPrinted (r : Runner) (s : RunnerSettings) (client : Nat) (b : Client) (p : Printed) :
    Runner × Client :=
  r.read s client b p.reads

/-- Executes the artifact. -/
def execute (r : Runner) (s : RunnerSettings) (app : AppProcess) (t : Tree) (artifact : String) :
    Runner × Except LaunchError Unit :=
  if !t.isFile artifact then (r, .error (.artifactMissing artifact))
  else if r.running.isSome then (r, .ok ())
  else if !s.nodeRuns then (r, .error (.spawn "No such file or directory (os error 2)"))
  else
    let client := r.clients + 1
    let (r, b) := { r with clients := client }.readPrinted s client
      { timeoutMs := s.requestTimeoutMs } app.boot
    ({ r with running := some ⟨client, b⟩ }, .ok ())

/-- Sends a container command to the client behind a handle. -/
def ask (r : Runner) (s : RunnerSettings) (app : AppProcess) (client : Nat) (c : Command) :
    Runner × Outcome c.Answer :=
  match r.running with
  | some run =>
    if run.client == client then
      let k := run.bridge.calls.length
      let b := run.bridge.send c
      -- the process answers a request that was sent; a refused one never reaches it
      let (r, b) := match b.calls[k]? with
        | some ⟨_, some id, _⟩ =>
          r.readPrinted s client (b.written k none) (app.answer (requestFor id c))
        | _ => (r, b)
      let b := b.settle k
      ({ r with running := some ⟨client, b⟩ }, commandOutcome c (b.outcome k))
    else (r, .err exitedError)
  | none => (r, .err exitedError)

/-- Shuts the held run down. -/
def shutdown (r : Runner) : Runner :=
  match r.running with
  | some _ => { r with running := none, slot := none }
  | none => r

/-- The session console over the runner's slot, asking through the bridge. -/
def console (s : RunnerSettings) (app : AppProcess) : Console (StateM Runner) Nat :=
  ⟨⟨fun r => (r.slot, r), fun client c r => let (r, o) := r.ask s app client c; (o, r)⟩, none⟩

end Runner

end LiveSession.Supervisor
