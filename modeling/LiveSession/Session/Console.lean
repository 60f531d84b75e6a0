import LiveSession.Json.Value
import LiveSession.Supervisor.Error
import LiveSession.Supervisor.Launch
/-!
# The session console

The running application sits in a slot: empty, or holding the generation last published, the
name of its root module and a handle to its container. The session console is what a
user's session calls on that container. Its operations never fail: a missing application, an
error and a panic inside the container all come back as values.

* `get` gives the resolved value or `null`;
* `tryGet` gives the value or `{"error": …, "token": …}`;
* `tokens` gives the registered tokens in ascending order or `{"error": …}`;
* `eval` and `describe` give the container's result or its error.

An empty slot is the bridge error `application is not running`, and a panic in the container
is the bridge error `<command> panicked`, where the command is `get`, `tokens`, `eval` or
`describe`.

A container answers the token listing with a set of names, which comes in no particular order;
the console lists it in ascending order. Every other command is answered with a JSON value.

The console is written over any monad, so that the same definitions serve an application
answering at once and one that answers through a child process.
-/

namespace LiveSession.Session

open LiveSession.Json LiveSession.Supervisor

/-- A request to an application container. -/
inductive Command where
  | get (token : String)
  | tokens
  | eval (code : String)
  | describe
  deriving DecidableEq, Repr

/-- The name under which a command's panic is reported. -/
def Command.name : Command → String
  | .get _ => "get"
  | .tokens => "tokens"
  | .eval _ => "eval"
  | .describe => "describe"

/-- What a command is answered with: a set of names for the token listing, a JSON value
otherwise. -/
abbrev Command.Answer : Command → Type
  | .tokens => List String
  | _ => Value

/-- How a container request ended. -/
inductive Outcome (α : Type) where
  | ok (a : α)
  | err (e : ContainerError)
  | panic

/-- A published application: its generation, its root module and a handle to it. -/
structure LiveApp (h : Type) where
  generation : Nat
  module : String
  handle : h

/-- A session's view of the application: what the slot holds now, and how a handle answers. -/
structure Container (m : Type → Type) (h : Type) where
  current : m (Option (LiveApp h))
  ask : h → (c : Command) → m (Outcome c.Answer)

/-- The session console: a container view and, optionally, a probe for the session status. -/
structure Console (m : Type → Type) (h : Type) where
  container : Container m h
  probe : Option (m Status)

/-- Inserts a string into a strictly ascending list, keeping it so. -/
def insertSorted (x : String) : List String → List String
  | [] => [x]
  | y :: ys => if x < y then x :: y :: ys else if x == y then y :: ys else y :: insertSorted x ys

/-- The distinct strings of a list in ascending order. -/
def sortedSet (xs : List String) : List String := xs.foldl (fun acc x => insertSorted x acc) []

/-- The error for an empty slot. -/
def notRunning : ContainerError := .bridge "application is not running"

/-- A request's outcome with a panic turned into a bridge error. -/
def contained (c : Command) : Outcome c.Answer → Except ContainerError c.Answer
  | .ok v => .ok v
  | .err e => .error e
  | .panic => .error (.bridge (c.name ++ " panicked"))

namespace Console

variable {m : Type → Type} [Monad m] {h : Type}

/-- Runs a command on the current application. -/
def run (s : Console m h) (c : Command) : m (Except ContainerError c.Answer) := do
  match ← s.container.current with
  | none => pure (.error notRunning)
  | some app => pure (contained c (← s.container.ask app.handle c))

/-- The session status: the probe's answer, else ready exactly when the slot is populated. -/
def status (s : Console m h) : m Status := do
  match s.probe with
  | some p => p
  | none => pure (if (← s.container.current).isSome then .ready else .disconnected)

/-- The current application. -/
def app (s : Console m h) : m (Option (LiveApp h)) := s.container.current

/-- Resolves a token, `null` when that fails. -/
def get (s : Console m h) (token : String) : m Value := do
  match ← s.run (.get token) with
  | .ok v => pure v
  | .error _ => pure .null

/-- Resolves a token, reporting why it failed. -/
def tryGet (s : Console m h) (token : String) : m Value := do
  match ← s.run (.get token) with
  | .ok v => pure v
  | .error e => pure (.obj [("error", .str e.display), ("token", .str token)])

/-- The registered tokens in ascending order, or why they cannot be listed. -/
def tokens (s : Console m h) : m Value := do
  match ← s.run .tokens with
  | .ok names => pure (Value.strs (sortedSet names))
  | .error e => pure (.obj [("error", .str e.display)])

/-- Evaluates code in the application. -/
def eval (s : Console m h) (code : String) : m (Except ContainerError Value) :=
  s.run (.eval code)

/-- Describes the application. -/
def describe (s : Console m h) : m (Except ContainerError Value) := s.run .describe

end Console

end LiveSession.Session
