import LiveSession.Compile.Event
import LiveSession.Session.Console
import LiveSession.Supervisor.Reload
import LiveSession.Supervisor.Error
/-!
# The build supervisor

A supervisor owns one run: it starts the watch compiler, launches the built application after
the first clean build, starts the user's session once the application has published itself, and
tears everything down at the end. Its phases go configuring, watching, launched, terminated.

The run is modelled as a world of explicit tasks over virtual time:

* a `start` call claims the configuring phase (a second call is refused at once) and waits for
  the watch compiler; once that answers, it hands the compile events to the event loop and
  waits for the loop's reply. The two halves are separate steps, so anything can happen while
  a call waits for the watch;
* the event loop takes events in order. A fatal event tears the run down; diagnostics change
  nothing; the first clean build executes the artifact and waits, up to the handle wait, for the
  application to be published, then launches the session; later clean builds mark a reload.
  The loop ends when the watch is cancelled or the event channel closes, replying that the watch
  ended if the start call is still waiting;
* a `close` call tears down as the source orders it: it marks the run terminated, empties the
  slot and asks the runner to shut down. That shutdown takes time, in which the runner may
  still publish and the loop may still take events. Only when the runner has stopped does
  the call cancel the watch and wait for the loop to end. The loop's own teardown, on a
  fatal event or a failed launch, is one step: the loop itself waits out the shutdown, so
  nothing of its own can happen in between;
* the loop's select prefers neither of its branches. A cancelled loop may still take one
  more queued event before it sees the cancellation.

`settle` runs the loop while it can make progress, and `advance` also lets virtual time pass,
firing the launch deadline when it falls strictly before the end of that time. An `Action` is
anything that can happen to the run from outside the loop, and `run` performs a list of them.
-/

namespace LiveSession.Supervisor

open LiveSession.Session

/-- Where the receiving end of the compile events is. -/
inductive Receiver where
  | compiler
  | loop
  | dropped
  deriving DecidableEq, Repr

/-- What the event loop is doing. -/
inductive LoopState where
  /-- Not started. -/
  | absent
  /-- Waiting for the next event or for cancellation. -/
  | receiving
  /-- In the first launch, waiting for the application until the deadline. -/
  | awaitingApp (deadline : Nat)
  /-- Ended. -/
  | finished
  deriving DecidableEq, Repr

/-- The result of a start call. -/
inductive StartResult where
  | pending
  | ok
  | failed (e : SupervisorError)
  deriving DecidableEq, Repr

/-- What the supervisor's collaborators do: how long it waits for the application, where the
artifact is, whether the watch fails to start, and what executing the artifact publishes. -/
structure Env (h : Type) where
  handleWaitMs : Nat
  artifact : String
  watchFailure : Option String
  execute : Except LaunchError (Option (LiveApp h))

/-- The state of a run and of the tasks around it. -/
structure World (h : Type) where
  phase : Phase
  guard : LaunchState
  reload : ReloadMark
  slot : Option (LiveApp h)
  /-- The supervisor still holds the watch's cancel token. -/
  token : Bool
  /-- The watch has been cancelled. -/
  cancelled : Bool
  /-- Compile events sent and not yet received. -/
  queue : List Compile.Event
  /-- The sending end of the events is still open. -/
  senderOpen : Bool
  receiver : Receiver
  loop : LoopState
  /-- The supervisor still holds the loop's join handle. -/
  loopHandle : Bool
  /-- A close call waits for the runner to shut down before it cancels the watch. -/
  closing : Bool
  /-- The start call waiting for the loop's reply. -/
  reply : Option Nat
  /-- The start call waiting for the watch compiler to answer. -/
  watchCaller : Option Nat
  starts : List StartResult
  /-- The runner holds the slot's writer. -/
  writer : Bool
  /-- The session has been launched. -/
  launched : Bool
  watches : Nat
  executions : Nat
  shutdowns : Nat
  launches : Nat
  now : Nat

namespace World

variable {h : Type}

/-- A fresh run, before any start. -/
def initial : World h :=
  ⟨.configuring, .notStarted, default, none, false, false, [], true, .compiler, .absent, false,
    false, none, none, [], false, false, 0, 0, 0, 0, 0⟩

/-- The generation in the slot, zero when empty. -/
def generation (w : World h) : Nat := (w.slot.map (·.generation)).getD 0

/-- The status shown to the user. -/
def status (w : World h) : Status := statusOf w.phase (w.slot.map (·.generation)) w.reload

/-- Sets the result of a start call. -/
def resolve (w : World h) (i : Nat) (r : StartResult) : World h :=
  { w with starts := w.starts.set i r }

/-- Replies to the waiting start call, if any. -/
def replyWith (w : World h) (r : StartResult) : World h :=
  match w.reply with
  | some i => { w.resolve i r with reply := none }
  | none => w

/-- Tears the run down in one step: terminated phase, empty slot, runner shut down, watch
cancelled. This is the loop's own teardown, which waits out the runner's shutdown itself. -/
def teardown (w : World h) : World h :=
  { w with phase := .terminated, slot := none, shutdowns := w.shutdowns + 1,
           cancelled := w.cancelled || w.token, token := false }

/-- The loop ends and drops the events' receiving end. -/
def endLoop (w : World h) : World h := { w with loop := .finished, receiver := .dropped }

/-- The loop stops because the watch ended or was cancelled. -/
def finishLoop (w : World h) : World h :=
  { (w.replyWith (.failed .watchEnded)).endLoop with phase := .terminated }

/-- The first launch fails. -/
def failLaunch (w : World h) (e : LaunchError) : World h :=
  (w.teardown.replyWith (.failed (.launch e))).endLoop

/-- The application is published: the launch completes and the session starts. -/
def completeLaunch (w : World h) (app : LiveApp h) : World h :=
  let w := { w with guard := LaunchState.launching.finish,
                    reload := { w.reload with expected := app.generation },
                    phase := .launched, launches := w.launches + 1, launched := true,
                    loop := .receiving }
  w.replyWith .ok

/-- The first clean build: execute the artifact, then wait for the application. -/
def beginLaunch (w : World h) (env : Env h) : World h :=
  let w := { w with guard := .launching, executions := w.executions + 1 }
  match env.execute with
  | .error e => w.failLaunch e
  | .ok published =>
    let w := { w with writer := true, slot := published.orElse fun _ => w.slot }
    match w.slot with
    | some app => w.completeLaunch app
    | none => { w with loop := .awaitingApp (w.now + env.handleWaitMs) }

/-- The loop handles one event. -/
def handle (w : World h) (env : Env h) : Compile.Event → World h
  | .fatal m => (w.teardown.replyWith (.failed (.compileFatal m))).endLoop
  | .diagnostics _ _ => w
  | .succeeded _ _ =>
    if w.guard = .notStarted then w.beginLaunch env
    else { w with reload := w.reload.markRebuild w.generation }

/-- One step of the loop, when it can make progress. Here a cancelled loop stops; that it may
instead take a queued event first is `takeLate`, a step a run chooses. -/
def loopStep (w : World h) (env : Env h) : Option (World h) :=
  match w.loop with
  | .receiving =>
    if w.cancelled then some w.finishLoop
    else match w.queue with
      | e :: rest => some ({ w with queue := rest }.handle env e)
      | [] => if w.senderOpen then none else some w.finishLoop
  | .awaitingApp _ =>
    match w.slot with
    | some app => some (w.completeLaunch app)
    | none => none
  | _ => none

/-- Runs the loop while it can make progress. -/
def settleFor (w : World h) (env : Env h) : (fuel : Nat) → World h
  | 0 => w
  | fuel + 1 => match w.loopStep env with
    | some w' => w'.settleFor env fuel
    | none => w

/-- Runs the loop until it waits; every step takes an event or changes what the loop waits
for, so twice the queue plus a few steps suffice. -/
def settle (w : World h) (env : Env h) : World h := w.settleFor env (2 * w.queue.length + 4)

/-- Lets virtual time run to the pending launch deadline, if there is one, and fires it. -/
def expire (w : World h) (env : Env h) : World h :=
  match w.loop with
  | .awaitingApp d =>
    ({ w with now := max w.now d }.failLaunch (.applicationNotFound env.handleWaitMs)).settle env
  | _ => w

/-- Lets virtual time run to `target`, firing the launch deadline if it falls before. A deadline
at `target` itself has not fired yet: whoever waited until `target` looks first, and the
deadline fires when it next yields, after whatever it does at once (a publish made then is in
time). -/
def advance (w : World h) (env : Env h) (target : Nat) : World h :=
  let w := w.settle env
  match w.loop with
  | .awaitingApp d =>
    if d < target then { w.expire env with now := max w.now target }
    else { w with now := max w.now target }
  | _ => { w with now := max w.now target }

/-- A start call claims the configuring phase before it first waits, so a second call is
refused at once; the claiming call then waits for the watch compiler. -/
def claimStart (w : World h) : World h :=
  if w.phase ≠ .configuring then { w with starts := w.starts ++ [.failed .alreadyStarted] }
  else { w with phase := .watching, watches := w.watches + 1, watchCaller := some w.starts.length,
                starts := w.starts ++ [.pending] }

/-- The watch compiler answers the start call waiting for it. A failure ends that call and the
run; otherwise the call keeps the watch's cancel token, hands the events to the event loop and
waits for the loop's reply. Nothing here looks at the phase again. -/
def answerWatch (w : World h) (env : Env h) : World h :=
  match w.watchCaller with
  | none => w
  | some i =>
    let w := { w with watchCaller := none }
    match env.watchFailure with
    | some m => { w.resolve i (.failed (.watchStart m)) with phase := .terminated }
    | none => { w with token := true, receiver := .loop, loop := .receiving, loopHandle := true,
                       reply := some i }

/-- A start call whose watch compiler answers before anything else happens. -/
def start (w : World h) (env : Env h) : World h :=
  if w.phase = .configuring then w.claimStart.answerWatch env else w.claimStart

/-- A close call begins its teardown: terminated phase, empty slot, and the runner asked to shut
down. The call then waits for the runner to stop. -/
def beginClose (w : World h) : World h :=
  { w with phase := .terminated, slot := none, shutdowns := w.shutdowns + 1, closing := true }

/-- The runner has stopped: a waiting close call cancels the watch, if the supervisor still holds
its token, and takes the loop's handle to wait for the loop to end. -/
def finishClose (w : World h) : World h :=
  if w.closing then
    { w with cancelled := w.cancelled || w.token, token := false, loopHandle := false,
             closing := false }
  else w

/-- A cancelled loop takes the next queued event instead of stopping. -/
def takeLate (w : World h) (env : Env h) : World h :=
  match w.loop, w.cancelled, w.queue with
  | .receiving, true, e :: rest => { w with queue := rest }.handle env e
  | _, _, _ => w

/-- A close call with nothing else happening until it returns: it tears down, then waits for the
loop, letting virtual time run to a pending launch deadline. -/
def close (w : World h) (env : Env h) : World h :=
  let w' := w.beginClose.finishClose
  if !w.loopHandle then w' else (w'.settle env).expire env

/-- The answer to sending an event. -/
inductive SendResult where
  | sent
  | full
  | closed
  | noSender
  deriving DecidableEq, Repr

/-- The answer's name. -/
def SendResult.label : SendResult → String
  | .sent => "sent"
  | .full => "full"
  | .closed => "closed"
  | .noSender => "no_sender"

/-- Offers a compile event to an event channel of the given capacity: refused when the compiler
holds no sender or the loop has dropped the receiver, held back while the channel is full, and
queued otherwise. -/
def offer (w : World h) (capacity : Nat) (e : Compile.Event) : World h × SendResult :=
  if !w.senderOpen then (w, .noSender)
  else if w.receiver = .dropped then (w, .closed)
  else if w.queue.length ≥ capacity then (w, .full)
  else ({ w with queue := w.queue ++ [e] }, .sent)

/-- The capacity of the watch compiler's event channel. -/
def channelCapacity : Nat := 16

/-- The watch compiler sends a compile event to the loop. Its pump waits while the channel is
full, so a held-back event is sent again later in the run. -/
def send (w : World h) (e : Compile.Event) : World h × SendResult := w.offer channelCapacity e

/-- What can happen to a run from outside its event loop, in any order: a start call claims the
run, the watch compiler answers the call waiting for it, the compiler sends an event or drops
its sender, a close call begins, the runner's shutdown ends, a cancelled loop takes a queued
event, time passes, or the runner publishes or clears the application through the writer it
was given. -/
inductive Action (h : Type) where
  | claimStart
  | answerWatch
  | send (e : Compile.Event)
  | endEvents
  | close
  | runnerStopped
  | takeLate
  | wait (ms : Nat)
  | publish (app : LiveApp h)
  | clear

/-- Performs one action. -/
def perform (w : World h) (env : Env h) : Action h → World h
  | .claimStart => w.claimStart
  | .answerWatch => w.answerWatch env
  | .send e => (w.send e).1
  | .endEvents => { w with senderOpen := false }
  | .close => w.beginClose
  | .runnerStopped => w.finishClose
  | .takeLate => w.takeLate env
  | .wait ms => w.advance env (w.now + ms)
  | .publish app => if w.writer then { w with slot := some app } else w
  | .clear => if w.writer then { w with slot := none } else w

/-- Performs the actions in order. -/
def run (w : World h) (env : Env h) : List (Action h) → World h
  | [] => w
  | a :: rest => (w.perform env a).run env rest

end World

end LiveSession.Supervisor
