import LiveSession.Supervisor.Bridge
/-!
# The bridge client

The request side of the bridge, where requests may overlap. A request takes the client's next
id, a 64-bit counter that wraps round, and registers its reply channel in the pending map under
that id, replacing (and so dropping) a channel still registered under it. It then writes its
line and waits on the channel until its timeout. The reader of the application's output routes
each response to the channel registered under the response's id and takes the id out of the
map. So a channel receives at most one reply, and a later response to the same id finds
nothing. Taking an id out of the map drops the channel registered under it. When the process is
gone the client is marked exited: later requests are refused, and every registered channel is
dropped.

A request ends in one of these ways:

* its reply arrived: the outcome the response carries for its command;
* the client was already gone: `application process has exited`;
* writing its line failed: the write error;
* its channel was dropped: `application process exited before replying`;
* its timeout fired first: `no reply to <method> within <ms> ms`.

The steps of the requests, of the reader and of the process interleave freely. Each step is one
`Event`, and `Client.step` says what it does. A request's timeout firing and its taking its id
out of the map are two steps, because they are two steps of the request, with the rest of the
client running in between.
-/

namespace LiveSession.Supervisor

open LiveSession.Json LiveSession.Rpc LiveSession.Session

/-- What a request's reply channel holds. -/
inductive Inbox where
  /-- Nothing yet. -/
  | empty
  /-- The response routed to it. -/
  | reply (r : Response)
  /-- Nothing ever: its sender was dropped. -/
  | dropped

/-- Where a request stands. -/
inductive CallState where
  /-- Writing its line; its channel can already receive. -/
  | writing (inbox : Inbox)
  /-- Waiting on its channel until its timeout fires. -/
  | waiting (inbox : Inbox)
  /-- Its timeout fired with nothing received, and its channel is gone; its id is still to be
  taken out of the pending map. -/
  | expiring
  /-- Finished with the reply this response carries. -/
  | answered (r : Response)
  /-- Finished with this error. -/
  | failed (e : ContainerError)

/-- One request: the command it sends, the id it was sent under (none when the client was
already gone), and where it stands. -/
structure Call where
  command : Command
  id : Option Nat
  state : CallState

/-- The error of a request made after the process exited. -/
def exitedError : ContainerError := .bridge "application process has exited"

/-- The error of a request whose channel was dropped before a reply came. -/
def droppedError : ContainerError := .bridge "application process exited before replying"

/-- The error of a request whose timeout fired. -/
def timeoutError (method : String) (timeoutMs : Nat) : ContainerError :=
  .bridge ("no reply to " ++ method ++ " within " ++ toString timeoutMs ++ " ms")

namespace Call

/-- What a finished request returned; none while it runs. -/
def outcome? (call : Call) : Option (Except ContainerError Value) :=
  match call.state with
  | .answered r => some (responseResult r)
  | .failed e => some (.error e)
  | _ => none

/-- A response sent to the request's channel: kept while the request holds its receiver. -/
def deliver (r : Response) (call : Call) : Call :=
  match call.state with
  | .writing _ => { call with state := .writing (.reply r) }
  | .waiting _ => { call with state := .waiting (.reply r) }
  | _ => call

/-- The request's sender is dropped: a channel that received nothing never will. -/
def drop (call : Call) : Call :=
  match call.state with
  | .writing .empty => { call with state := .writing .dropped }
  | .waiting .empty => { call with state := .waiting .dropped }
  | _ => call

end Call

/-- The client: whether its process is alive, the next request id, the request timeout, the
pending map from ids to the positions of the requests whose senders it holds, and every request
made, in order. -/
structure Client where
  alive : Bool := true
  nextId : UInt64 := 1
  timeoutMs : Nat
  pending : List (Nat × Nat) := []
  calls : List Call := []

/-- One step of a request, of the reader or of the process. -/
inductive Client.Event where
  /-- A request for a command begins. -/
  | send (c : Command)
  /-- Request `k` finished writing its line: without an error, or with this one. -/
  | written (k : Nat) (err : Option String)
  /-- The reader reads a line of the application's output. -/
  | line (l : String)
  /-- The process is gone. -/
  | exit
  /-- Request `k` takes what its channel received. -/
  | receive (k : Nat)
  /-- Request `k`'s timeout fires with nothing received. -/
  | elapse (k : Nat)
  /-- Request `k`, timed out, takes its id out of the pending map. -/
  | expire (k : Nat)

namespace Client

/-- Moves request `k` to a new state. -/
def setState (cl : Client) (k : Nat) (p : CallState) : Client :=
  { cl with calls := cl.calls.modify k fun call => { call with state := p } }

/-- Takes an id out of the pending map, dropping the sender registered under it. -/
def forget (cl : Client) (id : Nat) : Client :=
  { cl with
    pending := cl.pending.filter fun p => p.1 != id
    calls := match cl.pending.lookup id with
      | some j => cl.calls.modify j Call.drop
      | none => cl.calls }

/-- A request begins: refused when the process is gone, else sent under the next id, whose
counter moves on, wrapping round after `2^64 - 1`. Its sender goes into the pending map under
the id, in place of a sender still registered under it, which is dropped. -/
def send (cl : Client) (c : Command) : Client :=
  if cl.alive then
    let id := cl.nextId.toNat
    let cl' := cl.forget id
    { cl' with
      nextId := cl.nextId + 1
      pending := (id, cl.calls.length) :: cl'.pending
      calls := cl'.calls ++ [⟨c, some id, .writing .empty⟩] }
  else { cl with calls := cl.calls ++ [⟨c, none, .failed exitedError⟩] }

/-- Request `k` finished writing: it waits for its reply, or, when the write failed, takes its
id out of the map and fails with the write error. -/
def written (cl : Client) (k : Nat) (err : Option String) : Client :=
  match cl.calls[k]? with
  | some ⟨_, some id, .writing inbox⟩ =>
    match err with
    | none => cl.setState k (.waiting inbox)
    | some e => (cl.forget id).setState k (.failed (.bridge e))
  | _ => cl

/-- The reader routes a response to the request registered under its id, taking the id out of
the map and sending the response down that request's channel; a response to an id not in the
map is dropped. -/
def complete (cl : Client) (r : Response) : Client :=
  match cl.pending.lookup r.id with
  | some k =>
    { cl with pending := cl.pending.filter (fun p => p.1 != r.id),
              calls := cl.calls.modify k (Call.deliver r) }
  | none => cl

/-- The process is gone: later requests are refused and every registered sender is dropped. -/
def markExited (cl : Client) : Client :=
  { cl with
    alive := false
    pending := []
    calls := cl.calls.mapIdx fun k call =>
      if (cl.pending.map Prod.snd).contains k then call.drop else call }

/-- Request `k` takes what its channel received: the reply, or the news that none will come. -/
def receive (cl : Client) (k : Nat) : Client :=
  match cl.calls[k]? with
  | some ⟨_, _, .waiting (.reply r)⟩ => cl.setState k (.answered r)
  | some ⟨_, _, .waiting .dropped⟩ => cl.setState k (.failed droppedError)
  | _ => cl

/-- Request `k`'s timeout fires while its channel holds nothing. -/
def elapse (cl : Client) (k : Nat) : Client :=
  match cl.calls[k]? with
  | some ⟨_, _, .waiting .empty⟩ => cl.setState k .expiring
  | _ => cl

/-- Request `k`, timed out, takes its id out of the map and fails. -/
def expire (cl : Client) (k : Nat) : Client :=
  match cl.calls[k]? with
  | some ⟨c, some id, .expiring⟩ =>
    (cl.forget id).setState k (.failed (timeoutError (requestFor id c).method cl.timeoutMs))
  | _ => cl

/-- What one step does. -/
def step (cl : Client) : Event → Client
  | .send c => cl.send c
  | .written k err => cl.written k err
  | .line l => match lineEffect l with
    | .respond r => cl.complete r
    | _ => cl
  | .exit => cl.markExited
  | .receive k => cl.receive k
  | .elapse k => cl.elapse k
  | .expire k => cl.expire k

/-- The client after a run of steps. -/
def run (cl : Client) (evs : List Event) : Client := evs.foldl step cl

/-- Request `k` waits out its channel: it takes what arrived, or its timeout fires and it
leaves. -/
def settle (cl : Client) (k : Nat) : Client :=
  match cl.calls[k]? with
  | some ⟨_, _, .waiting .empty⟩ => (cl.elapse k).expire k
  | _ => cl.receive k

/-- What request `k` returned. -/
def outcome (cl : Client) (k : Nat) : Except ContainerError Value :=
  ((cl.calls[k]?).bind Call.outcome?).getD (.error exitedError)

end Client

end LiveSession.Supervisor
