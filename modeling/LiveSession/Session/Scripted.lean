import LiveSession.Session.Console
/-!
# Scripted applications

An application whose container answers are given as data, for exercising sessions without a
running program. The script is a JSON object; each answer in it is `{"ok": v}`,
`{"err": kind, "message": m}` or `{"panic": m}`.

* `get` looks the token up in the `get` table; an unknown token is not registered.
* `tokens` answers from `tokens` when the script has that key, with the set of the string
  elements of an array; without the key the registry is not exposed.
* `eval` looks the code up in the `eval` table when the script has one, an unknown code being a
  reference error; without the key evaluation is not supported.
* `describe` answers from `describe`, or with `null`.
-/

namespace LiveSession.Session

open LiveSession.Json LiveSession.Supervisor

/-- The container error a scripted answer names. -/
def scriptedError (kind message : String) : ContainerError :=
  if kind == "NotRegistered" then .notRegistered message
  else if kind == "Introspection" then .introspection message
  else if kind == "Evaluation" then .evaluation message
  else .bridge message

/-- A scripted answer. -/
def scriptedOutcome (r : Value) : Outcome Value :=
  match r.get? "ok" with
  | some v => .ok v
  | none =>
    match r.getStr? "err" with
    | some kind => .err (scriptedError kind ((r.getStr? "message").getD ""))
    | none => if (r.get? "panic").isSome then .panic else .ok .null

/-- The string elements of an array, as a set of names; anything else is the empty set. -/
def tokenNames : Value → List String
  | .arr xs => xs.filterMap fun x => match x with
    | .str s => some s
    | _ => none
  | _ => []

/-- How a scripted application answers a command. -/
def scriptedAnswer (script : Value) : (c : Command) → Outcome c.Answer
  | .get token =>
    match (script.get? "get").bind (·.get? token) with
    | some r => scriptedOutcome r
    | none => .err (.notRegistered token)
  | .tokens =>
    match script.get? "tokens" with
    | some r => match scriptedOutcome r with
      | .ok v => .ok (tokenNames v)
      | .err e => .err e
      | .panic => .panic
    | none => .err (.introspection "this application does not expose its registry")
  | .eval code =>
    match script.get? "eval" with
    | some table => match table.get? code with
      | some r => scriptedOutcome r
      | none => .err (.evaluation ("ReferenceError: " ++ code ++ " is not defined"))
    | none => .err (.evaluation "this application does not support evaluation")
  | .describe =>
    match script.get? "describe" with
    | some r => scriptedOutcome r
    | none => .ok .null

end LiveSession.Session
