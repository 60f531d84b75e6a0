import LiveSession.Rpc.Message
import LiveSession.Session.Console
/-!
# The application bridge

The built application talks to the session over its standard streams. Container commands go to
it as JSON-RPC requests (`app/get` with a token, `app/tokens`, `app/eval` with code,
`app/describe`), and every line it prints is read as one of:

* plain output, which is echoed;
* a response, which answers the request with the same id (a later response to an id already
  answered, or to an id never asked, is dropped);
* a `bridge/ready` or `bridge/swapped` notification with a generation and an optional module
  name (`AppModule` when absent), which publishes the application; one that does not decode is
  dropped;
* anything else, which is only logged.

A response error becomes a container error by its code: not registered (naming the token from
the error's data when it is a string, else the message), introspection, evaluation, or a bridge
error showing the code and message.
-/

namespace LiveSession.Supervisor

open LiveSession.Json LiveSession.Rpc LiveSession.Session

/-- The request a container command is sent as. -/
def requestFor (id : Nat) : Command → Request
  | .get token => Request.new id "app/get" (some (.obj [("token", .str token)]))
  | .tokens => Request.new id "app/tokens" none
  | .eval code => Request.new id "app/eval" (some (.obj [("code", .str code)]))
  | .describe => Request.new id "app/describe" none

/-- The container error a response error stands for. -/
def containerErrorOf (e : RpcError) : ContainerError :=
  if e.code == errNotRegistered then
    .notRegistered (match e.data.bind (·.get? "token") with
      | some (.str t) => t
      | _ => e.message)
  else if e.code == errIntrospection then .introspection e.message
  else if e.code == errEvaluation then .evaluation e.message
  else .bridge e.display

/-- What a request comes to once its response arrives: the result, or the container error that
the response's error stands for. -/
def responseResult (r : Response) : Except ContainerError Value :=
  r.outcome.mapError containerErrorOf

/-- What a request's result comes to as its command's answer. A token listing must be an array,
whose string elements are collected into a set, kept in ascending order. -/
def commandOutcome : (c : Command) → Except ContainerError Value → Outcome c.Answer
  | _, .error e => .err e
  | .tokens, .ok (.arr xs) => .ok (sortedSet (xs.filterMap fun x => match x with
      | .str s => some s
      | _ => none))
  | .tokens, .ok _ => .err (.introspection "token listing is not an array")
  | .get _, .ok v => .ok v
  | .eval _, .ok v => .ok v
  | .describe, .ok v => .ok v

/-- Decodes the params of a publication: a generation and an optional module name. -/
def decodePublished : Decoder (Nat × Option String) := fun v => do
  let raw ← readRecord "Published"
    [.of "generation" Decoder.u64 .required,
     .of "module" (Decoder.option Decoder.string) .defaulted] v
  return (member raw 0 Decoder.u64 0, member raw 1 (Decoder.option Decoder.string) none)

/-- The generation and module a notification publishes, if it is a publication that decodes. -/
def publication (n : Notification) : Option (Nat × String) :=
  if n.method == "bridge/ready" || n.method == "bridge/swapped" then
    match n.paramsAs decodePublished with
    | .ok (g, m) => some (g, m.getD "AppModule")
    | .error _ => none
  else none

/-- What reading one line of the application's output does. -/
inductive LineEffect where
  /-- Plain output to echo. -/
  | echo (text : String)
  /-- A response to route to its request. -/
  | respond (r : Response)
  /-- A publication of the application. -/
  | publish (generation : Nat) (module : String)
  /-- Nothing beyond logging. -/
  | skip

/-- What a line of the application's output does. -/
def lineEffect (line : String) : LineEffect :=
  match classifyLine line with
  | .output text => .echo text
  | .malformed _ _ => .skip
  | .message (.response r) => .respond r
  | .message (.notification n) => match publication n with
    | some (g, m) => .publish g m
    | none => .skip

end LiveSession.Supervisor
